import SchemaKeeper.Json
import SchemaKeeper.Text.Quoted

/-!
Reading from the front of a text.

A `Reader` takes the characters still unread and gives a value or a fault,
together with what it leaves unread.  A fault stays apart from the place where
it is noticed: what a value means may be rejected only after its text has been
consumed, so the reader that consumed the text locates such a fault.
-/

namespace SchemaKeeper.Json

/-! ## Faults -/

/-- What a value of an unfit type is called in a message. -/
def unexpected : Json → String
  | .null => "null"
  | .bool true => "boolean `true`"
  | .bool false => "boolean `false`"
  | .number (.integer n) => s!"integer `{(Number.integer n).toText}`"
  | .number (.double x) => s!"floating point `{x.toText}`"
  | .string s => "string " ++ Text.quoted s
  | .array _ => "sequence"
  | .object _ => "map"

/-- Why a value that was read is not of the wanted type. -/
inductive Mismatch where
  | missingField (name : String)
  | duplicateField (name : String)
  | unknownVariant (found : String) (variants : List String)
  | invalidType (found : Json) (wanted : String)
  | invalidValue (found : Json) (wanted : String)
  | invalidLength (length : Nat) (wanted : String)
  deriving DecidableEq, Repr

def variantList : List String → String
  | [one] => s!"`{one}`"
  | [one, other] => s!"`{one}` or `{other}`"
  | many => "one of " ++ ", ".intercalate (many.map fun v => s!"`{v}`")

def Mismatch.message : Mismatch → String
  | .missingField name => s!"missing field `{name}`"
  | .duplicateField name => s!"duplicate field `{name}`"
  | .unknownVariant found variants =>
      s!"unknown variant `{found}`, expected " ++ variantList variants
  | .invalidType found wanted => s!"invalid type: {unexpected found}, expected {wanted}"
  | .invalidValue found wanted => s!"invalid value: {unexpected found}, expected {wanted}"
  | .invalidLength length wanted => s!"invalid length {length}, expected {wanted}"

inductive Problem where
  | endInValue
  | endInList
  | endInObject
  | endInString
  | expectedValue
  | expectedWord
  | expectedColon
  | expectedListEnd
  | expectedObjectEnd
  | trailingComma
  | trailingCharacters
  | keyNotString
  | invalidNumber
  | numberOutOfRange
  | invalidEscape
  | controlCharacter
  | loneSurrogate
  | unpairedSurrogate
  | nestedTooDeep
  | mismatch (reason : Mismatch)
  deriving DecidableEq, Repr

def Problem.message : Problem → String
  | .endInValue => "EOF while parsing a value"
  | .endInList => "EOF while parsing a list"
  | .endInObject => "EOF while parsing an object"
  | .endInString => "EOF while parsing a string"
  | .expectedValue => "expected value"
  | .expectedWord => "expected ident"
  | .expectedColon => "expected `:`"
  | .expectedListEnd => "expected `,` or `]`"
  | .expectedObjectEnd => "expected `,` or `\x7d`"
  | .trailingComma => "trailing comma"
  | .trailingCharacters => "trailing characters"
  | .keyNotString => "key must be a string"
  | .invalidNumber => "invalid number"
  | .numberOutOfRange => "number out of range"
  | .invalidEscape => "invalid escape"
  | .controlCharacter => "control character (\\u0000-\\u001F) found while parsing a string"
  | .loneSurrogate => "lone leading surrogate in hex escape"
  | .unpairedSurrogate => "unexpected end of hex escape"
  | .nestedTooDeep => "recursion limit exceeded"
  | .mismatch reason => reason.message

/--
A problem and how many bytes lay unread beyond its place; `none` while the
place is still to be found.
-/
structure Fault where
  problem : Problem
  left : Option Nat
  deriving DecidableEq, Repr

/-! ## Readers -/

inductive Reading (α : Type) where
  | value (value : α) (rest : List Char)
  | fault (fault : Fault) (rest : List Char)
  deriving Repr

def Reader (α : Type) : Type :=
  List Char → Reading α

def byteCount (chars : List Char) : Nat :=
  chars.foldr (fun c n => c.utf8Size + n) 0

namespace Reader

variable {α β : Type}

def pure (a : α) : Reader α :=
  fun chars => .value a chars

def bind (r : Reader α) (next : α → Reader β) : Reader β :=
  fun chars =>
    match r chars with
    | .value a rest => next a rest
    | .fault f rest => .fault f rest

instance : Monad Reader where
  pure := pure
  bind := bind

/-- Stops at a problem that belongs right here. -/
def failHere (problem : Problem) : Reader α :=
  fun chars => .fault ⟨problem, some (byteCount chars)⟩ chars

/-- Stops at a problem with the next byte, which counts as looked at. -/
def failAhead (problem : Problem) : Reader α :=
  fun chars => .fault ⟨problem, some (byteCount chars - 1)⟩ chars

/-- Rejects a value without saying where. -/
def reject (reason : Mismatch) : Reader α :=
  fun chars => .fault ⟨.mismatch reason, none⟩ chars

/-- Places a fault that has no place yet where this reader stops. -/
def located (r : Reader α) : Reader α :=
  fun chars =>
    match r chars with
    | .value a rest => .value a rest
    | .fault f rest => .fault ⟨f.problem, f.left <|> some (byteCount rest)⟩ rest

/-- Reads the end of a container after its contents, also when these were faulty. -/
def closedBy (body : Reader α) (close : Reader Unit) : Reader α :=
  fun chars =>
    match body chars with
    | .value a rest =>
        match close rest with
        | .value _ rest => .value a rest
        | .fault f rest => .fault f rest
    | .fault f rest =>
        match close rest with
        | .value _ rest => .fault f rest
        | .fault _ rest => .fault f rest

def peek : Reader (Option Char) :=
  fun chars => .value chars.head? chars

def skip : Reader Unit :=
  fun chars => .value () chars.tail

def isBlank (c : Char) : Bool :=
  c == ' ' || c == '\n' || c == '\t' || c == '\r'

/-- Passes blanks and looks at the character after them. -/
def peekSolid : Reader (Option Char) :=
  fun chars =>
    let rest := chars.dropWhile isBlank
    .value rest.head? rest

end Reader

/-! ## Places -/

structure Position where
  line : Nat
  column : Nat
  deriving DecidableEq, Repr

/-- The position reached after a number of bytes. -/
def Position.advance (position : Position) : List Char → Nat → Position
  | [], _ => position
  | c :: chars, bytes =>
      if bytes = 0 then position
      else if bytes < c.utf8Size then ⟨position.line, position.column + bytes⟩
      else if c = '\n' then Position.advance ⟨position.line + 1, 0⟩ chars (bytes - 1)
      else Position.advance ⟨position.line, position.column + c.utf8Size⟩ chars (bytes - c.utf8Size)

/-- The place in `text` before its last `left` bytes. -/
def positionOf (text : List Char) (left : Nat) : Position :=
  Position.advance ⟨1, 0⟩ text (byteCount text - left)

/-- A problem with the place where the text shows it, if it has one. -/
structure ReadError where
  problem : Problem
  position : Option Position
  deriving DecidableEq, Repr

def ReadError.message (e : ReadError) : String :=
  match e.position with
  | none => e.problem.message
  | some ⟨line, column⟩ => s!"{e.problem.message} at line {line} column {column}"

/-- Reads a whole text: only blanks may follow the value. -/
def Reader.run {α : Type} (r : Reader α) (text : String) : Except ReadError α :=
  let whole := text.toList
  let complete : Reader α := fun chars =>
    match r chars with
    | .fault f rest => .fault f rest
    | .value a rest =>
        match peekSolid rest with
        | .value none rest => .value a rest
        | .value (some _) rest => failAhead .trailingCharacters rest
        | .fault f rest => .fault f rest
  match complete whole with
  | .value a _ => .ok a
  | .fault f _ => .error ⟨f.problem, f.left.map (positionOf whole)⟩

end SchemaKeeper.Json
