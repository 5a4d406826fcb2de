import SchemaKeeper.Json.Scalar

/-!
Readers of whole values.

`tree` keeps an object's members as they stand in the text; `document` then
brings them in order, and `parse` reads one document and nothing else.
-/

namespace SchemaKeeper.Json

namespace Reader

variable {α β : Type}

/-! ## Containers -/

/-- Whether another item follows in a list; a comma before it is consumed. -/
def moreItems (first : Bool) : Reader Bool := do
  match ← peekSolid with
  | none => failAhead .endInList
  | some c =>
      if c = ']' then return false
      else if first then return true
      else if c = ',' then
        skip
        match ← peekSolid with
        | none => failAhead .endInValue
        | some c => if c = ']' then failAhead .trailingComma else return true
      else failAhead .expectedListEnd

/-- Whether another key follows in an object; a comma before it is consumed. -/
def moreKeys (first : Bool) : Reader Bool := do
  let key (next : Option Char) : Reader Bool :=
    match next with
    | none => failAhead .endInValue
    | some c =>
        if c = '"' then return true
        else if c = '\x7d' then failAhead .trailingComma
        else failAhead .keyNotString
  match ← peekSolid with
  | none => failAhead .endInObject
  | some c =>
      if c = '\x7d' then return false
      else if first then key (some c)
      else if c = ',' then
        skip
        key (← peekSolid)
      else failAhead .expectedObjectEnd

/-- The key in front of which `moreKeys` stopped. -/
def key : Reader String := do
  skip
  stringTail

def colon : Reader Unit := do
  match ← peekSolid with
  | none => failAhead .endInObject
  | some c => if c = ':' then skip else failAhead .expectedColon

def listEnd : Reader Unit := do
  match ← peekSolid with
  | none => failAhead .endInList
  | some c =>
      if c = ']' then skip
      else if c = ',' then
        skip
        if (← peekSolid) == some ']' then failAhead .trailingComma
        else failAhead .trailingCharacters
      else failAhead .trailingCharacters

def objectEnd : Reader Unit := do
  match ← peekSolid with
  | none => failAhead .endInObject
  | some c =>
      if c = '\x7d' then skip
      else if c = ',' then failAhead .trailingComma
      else failAhead .trailingCharacters

def items (item : Reader α) : Nat → Bool → Reader (List α)
  | 0, _ => return []
  | fuel + 1, first => do
      if ← moreItems first then
        let a ← item
        return a :: (← items item fuel false)
      else return []

/-- Goes through all members of an object; `member` reads what follows a key. -/
def members (member : String → β → Reader β) : Nat → Bool → β → Reader β
  | 0, _, state => return state
  | fuel + 1, first, state => do
      if ← moreKeys first then
        let k ← key
        members member fuel false (← member k state)
      else return state

/-- How often a loop over the text can at most take a step. -/
def steps : Reader Nat :=
  fun chars => .value (chars.length + 1) chars

def listOf (item : Reader α) : Reader (List α) := do
  skip
  closedBy (do items item (← steps) true) listEnd

def objectOf (member : String → β → Reader β) (start : β) : Reader β := do
  skip
  closedBy (do members member (← steps) true start) objectEnd

/-- Enters a list or object, unless values are nested too deeply already. -/
def nested (levels : Nat) (container : Nat → Reader α) : Reader α :=
  match levels with
  | 0 => failAhead .nestedTooDeep
  | inner + 1 => container inner

/-! ## Any value -/

/-- A value that is not a list or an object, whose first character is known. -/
def scalar (c : Char) : Reader Json :=
  if c = 'n' then do skip; word "ull".toList; return .null
  else if c = 't' then do skip; word "rue".toList; return .bool true
  else if c = 'f' then do skip; word "alse".toList; return .bool false
  else if c = '"' then do skip; return .string (← stringTail)
  else if c = '-' ∨ isDigit c then return .number (← number)
  else failAhead .expectedValue

/-- A value as it stands in the text; `inner` reads values inside lists and objects. -/
def treeOf (inner : Option (Reader Json)) : Reader Json := do
  match ← peekSolid with
  | none => failAhead .endInValue
  | some c =>
      if c = '[' then
        match inner with
        | none => failAhead .nestedTooDeep
        | some value => return .array (← listOf value)
      else if c = '\x7b' then
        match inner with
        | none => failAhead .nestedTooDeep
        | some value =>
            let member (k : String) (done : List (String × Json)) :
                Reader (List (String × Json)) := do
              colon
              return (k, ← value) :: done
            return .object (← objectOf member []).reverse
      else scalar c

/-- A value that holds at most `levels` nested lists and objects. -/
def tree : Nat → Reader Json
  | 0 => treeOf none
  | levels + 1 => treeOf (some (tree levels))

/-! ## Values nobody asked for -/

def skipEscape : Reader Unit
  | [] => failHere .endInString []
  | c :: rest =>
      if (simpleEscape c).isSome then .value () rest
      else if c = 'u' then (do let _ ← hexUnit : Reader Unit) rest
      else failAhead .invalidEscape (c :: rest)

def skipString : Nat → Reader Unit
  | 0, chars => .value () chars
  | _ + 1, [] => failHere .endInString []
  | fuel + 1, c :: rest =>
      if c = '"' then .value () rest
      else if c = '\\' then
        match skipEscape rest with
        | .value _ rest => skipString fuel rest
        | .fault f rest => .fault f rest
      else if c.toNat < 32 then failHere .controlCharacter (c :: rest)
      else skipString fuel rest

def skipExponent : Reader Unit := do
  let _ ← exponentSign
  match ← digits with
  | [] => failAhead .invalidNumber
  | _ => return ()

/-- Passes over a number after its sign, however large it is. -/
def skipNumber : Reader Unit := do
  let tail : Reader Unit := do
    let next ← peek
    if next == some '.' then
      skip
      match ← digits with
      | [] => failAhead .invalidNumber
      | _ =>
          if isExponentLetter (← peek) then
            skip
            skipExponent
    else if isExponentLetter next then
      skip
      skipExponent
  match ← peek with
  | none => failHere .invalidNumber
  | some first =>
      if first = '0' then
        skip
        match ← peek with
        | some c => if isDigit c then failAhead .invalidNumber else tail
        | none => tail
      else if isDigit first then
        let _ ← digits
        tail
      else failAhead .invalidNumber

inductive Bracket where
  | list
  | object
  deriving DecidableEq, Repr

def skipKey : Reader Unit := do
  match ← peekSolid with
  | none => failAhead .endInObject
  | some c =>
      if c = '"' then
        skip
        skipString (← steps)
        match ← peekSolid with
        | none => failAhead .endInObject
        | some c => if c = ':' then skip else failAhead .expectedColon
      else failAhead .keyNotString

/--
Closes brackets as long as they close here.  Gives the brackets still open when
another value is due, and none when the outermost is closed.
-/
def skipEnds : Nat → Bool → List Bracket → Reader (List Bracket)
  | 0, _, _ => return []
  | _, _, [] => return []
  | fuel + 1, afterValue, bracket :: outer => do
      match ← peekSolid with
      | none => failAhead (if bracket = .list then .endInList else .endInObject)
      | some c =>
          if afterValue ∧ c = ',' then
            skip
            return bracket :: outer
          else if c = (if bracket = .list then ']' else '\x7d') then
            skip
            skipEnds fuel true outer
          else if afterValue then
            failAhead (if bracket = .list then .expectedListEnd else .expectedObjectEnd)
          else return bracket :: outer

/-- Passes over values until all open brackets are closed. -/
def skipValues : Nat → List Bracket → Reader Unit
  | 0, _ => return ()
  | fuel + 1, opened => do
      let enter (bracket : Bracket) : Reader (Bool × List Bracket) := do
        skip
        return (false, bracket :: opened)
      let (afterValue, opened) ← (do
        match ← peekSolid with
        | none => failAhead .endInValue
        | some c =>
            if c = '[' then enter .list
            else if c = '\x7b' then enter .object
            else if c = '"' then
              skip
              skipString (← steps)
              return (true, opened)
            else if c = '-' then
              skip
              skipNumber
              return (true, opened)
            else if isDigit c then
              skipNumber
              return (true, opened)
            else
              let _ ← scalar c
              return (true, opened) : Reader (Bool × List Bracket))
      match ← skipEnds (← steps) afterValue opened with
      | [] => return ()
      | .list :: outer => skipValues fuel (.list :: outer)
      | .object :: outer =>
          skipKey
          skipValues fuel (.object :: outer)

/-- Passes over one value; its strings and numbers need not be readable. -/
def ignore : Reader Unit := do
  skipValues (← steps) []

/-! ## Documents -/

/-- A document may nest this many lists and objects. -/
def nestingLimit : Nat := 127

def document : Reader Json := do
  return (← tree nestingLimit).normalize

end Reader

def parse (text : String) : Except ReadError Json :=
  Reader.document.run text

end SchemaKeeper.Json
