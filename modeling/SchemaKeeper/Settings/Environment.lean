import SchemaKeeper.Json.Content
import SchemaKeeper.Text.Blank
import SchemaKeeper.Toml.Scalar
import SchemaKeeper.Url

/-!
Settings in environment variables.

The name of a variable, after the prefix `ESSX_`, is a path of keys with two
underscores between them.  Its value is a truth value, a number, a quoted text,
a list in square brackets or a table in braces; whatever is none of these is a
plain text.
-/

namespace SchemaKeeper.Environment

open Json (Content)
open Toml (Scan expect)

/-! ## Merging -/

mutual
/-- Lays a tree over another: members of objects are merged, all else is replaced. -/
def overlay (base : Content) : Content → Content
  | .object members =>
      match base with
      | .object known => .object (overlayMembers known members)
      | _ => .object members
  | value => value

def overlayMembers (known : List (String × Content)) :
    List (String × Content) → List (String × Content)
  | [] => known
  | (key, value) :: members =>
      let merged :=
        match known.lookup key with
        | some base => overlay base value
        | none => value
      overlayMembers (Entries.insert key merged known) members
end

/-! ## Values -/

/-- Blanks around values; unlike in files, line breaks are among them. -/
def isBlank (c : Char) : Bool :=
  c == ' ' || c == '\t' || c == '\n' || c == '\x0c' || c == '\r'

def skipBlanks (chars : List Char) : List Char :=
  chars.dropWhile isBlank

def isSeparator (c : Char) : Bool :=
  c == ',' || c == '\x7b' || c == '\x7d' || c == '[' || c == ']'

/-- An optional sign and digits; only a number with a minus is a signed word. -/
def whole? (chars : List Char) : Option Content :=
  let (negative, digits) := Toml.sign chars
  if digits.isEmpty || !digits.all Json.Reader.isDigit then none
  else
    let n := Toml.valueOf 10 digits
    let value : Int := n
    if negative then
      if Number.leastInteger ≤ -value then some (.signed (-value)) else none
    else if value < Number.integerBound then some (.count n)
    else none

/-- The exponent of a decimal: nothing, or a letter and a number with a sign. -/
def exponent? : List Char → Option Int
  | [] => some 0
  | c :: rest =>
      let (negative, digits) := Toml.sign rest
      if (c = 'e' ∨ c = 'E') ∧ !digits.isEmpty ∧ digits.all Json.Reader.isDigit then
        let n : Int := Toml.valueOf 10 digits
        some (if negative then -n else n)
      else none

/-- A decimal with a point in it; there are digits before or after the point. -/
def decimal? (chars : List Char) : Option Content := do
  let (negative, rest) := Toml.sign chars
  let front := rest.takeWhile Json.Reader.isDigit
  let behind ← expect ['.'] (rest.drop front.length)
  let fraction := behind.takeWhile Json.Reader.isDigit
  guard (!(front ++ fraction).isEmpty)
  let shift ← exponent? (behind.drop fraction.length)
  let digits := Toml.valueOf 10 (front ++ fraction)
  let nearest := Toml.nearestDouble negative digits (shift - fraction.length)
  return .double (nearest.getD (Toml.greatest negative))

def plain (chars : List Char) : Content :=
  let trimmed := Text.trimChars Text.isBlank chars
  ((decimal? trimmed).or (whole? trimmed)).getD (.string (String.ofList trimmed))

/-- As many whole characters as fit into so many bytes. -/
def fitting : Nat → List Char → List Char
  | _, [] => []
  | bytes, c :: rest => if c.utf8Size ≤ bytes then c :: fitting (bytes - c.utf8Size) rest else []

/--
A text after its opening quote.  What stands in front of its first escape
counts for as many bytes as it has characters; the rest of it is lost.
-/
def quoted : Scan String := fun chars => do
  let front := chars.takeWhile fun c => c != '"' && c != '\\'
  let (text, rest) ← Toml.basicString (chars.length + 1) [] chars
  if chars[front.length]? = some '\\' then
    return (String.ofList (fitting front.length front ++ text.toList.drop front.length), rest)
  else return (text, rest)

def isNameChar (c : Char) : Bool :=
  Url.isLetter c || Json.Reader.isDigit c || c == '_' || c == '-'

def name (chars : List Char) : Option (String × List Char) :=
  match chars with
  | '"' :: rest => quoted rest
  | chars =>
      let front := chars.takeWhile isNameChar
      if front.isEmpty then none else some (String.ofList front, chars.drop front.length)

/-- Values with commas between them, and possibly one more, up to the closing mark. -/
def delimited {α : Type} (item : Scan α) (close : Char) : Nat → List α → Scan (List α)
  | 0, _, _ => none
  | fuel + 1, done, chars =>
      match expect [close] chars with
      | some rest => some (done.reverse, rest)
      | none => do
          let (found, rest) ← item chars
          match rest with
          | ',' :: rest => delimited item close fuel (found :: done) rest
          | rest => return ((found :: done).reverse, ← expect [close] rest)

def member (item : Scan Content) : Scan (String × Content) := fun chars => do
  let (key, rest) ← name (skipBlanks chars)
  let rest ← expect ['='] (skipBlanks rest)
  let (found, rest) ← item (skipBlanks rest)
  return ((key, found), skipBlanks rest)

/-- A value that begins with a mark of its own, or a plain one. -/
def valueHere (item : Scan Content) (chars : List Char) : Option (Content × List Char) :=
  match chars with
  | '\x7b' :: rest => do
      let (members, rest) ← delimited (member item) '\x7d' (rest.length + 1) [] rest
      return (.object (Entries.ofList members), rest)
  | '[' :: rest => do
      let (items, rest) ← delimited item ']' (rest.length + 1) [] rest
      return (.array items, rest)
  | '"' :: rest => do
      let (text, rest) ← quoted rest
      return (.string text, rest)
  | '\'' :: rest =>
      match rest with
      | c :: '\'' :: rest => some (.character c, rest)
      | _ => none
  | chars =>
      match expect "true".toList chars, expect "false".toList chars with
      | some rest, _ => some (.bool true, rest)
      | none, some rest => some (.bool false, rest)
      | none, none =>
          let front := chars.takeWhile fun c => !isSeparator c
          some (plain front, chars.drop front.length)

/-- A value with blanks around it; the fuel bounds how deep values nest. -/
def value : Nat → Scan Content
  | 0, _ => none
  | fuel + 1, chars => do
      let (found, rest) ← valueHere (value fuel) (skipBlanks chars)
      return (found, skipBlanks rest)

/-- The whole value of a variable; what cannot be read is a text as it stands. -/
def valueOf (text : String) : Content :=
  match value (text.length + 1) text.toList with
  | some (found, []) => found
  | _ => .string text

/-! ## Names -/

def variablePrefix : String := "essx_"

/-- Breaks a text at every two underscores in a row. -/
def keysOf : List Char → List Char → List String
  | current, [] => [String.ofList current.reverse]
  | current, '_' :: '_' :: rest => String.ofList current.reverse :: keysOf [] rest
  | current, c :: rest => keysOf (c :: current) rest

/-- The path that a variable's name stands for, in lower case, if it has the prefix. -/
def path? (full : String) : Option (List String) := do
  let lower := (Text.trimChars Text.isBlank full.toList).map Char.toLower
  let rest ← expect variablePrefix.toList lower
  let keys := (keysOf [] (Text.trimChars Text.isBlank rest)).flatMap (·.splitOn ".")
  if keys.any (· == "") then none else return keys

/-- A value under nested keys. -/
def nest (value : Content) : List String → Content
  | [] => value
  | key :: keys => .object [(key, nest value keys)]

/-- The tree that variables describe; the later of two that disagree counts. -/
def tree (environment : List (String × String)) : Content :=
  environment.foldl (fun done (full, text) =>
    match path? full with
    | some keys => overlay done (nest (valueOf text) keys)
    | none => done) (.object [])

end SchemaKeeper.Environment
