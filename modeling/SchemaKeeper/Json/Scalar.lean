import SchemaKeeper.Json.Reading

/-!
Readers of words, strings and numbers, and the lenient readers that only pass
over a value nobody asked for.
-/

namespace SchemaKeeper.Json

namespace Reader

/-! ## Words -/

/-- The rest of a word whose first letter is already consumed. -/
def word : List Char → Reader Unit
  | [], chars => .value () chars
  | _ :: _, [] => failHere .endInValue []
  | wanted :: more, c :: rest =>
      if c = wanted then word more rest else failAhead .expectedWord (c :: rest)

/-! ## Strings -/

def hexValue (c : Char) : Option Nat :=
  if '0' ≤ c ∧ c ≤ '9' then some (c.toNat - '0'.toNat)
  else if 'a' ≤ c ∧ c ≤ 'f' then some (c.toNat - 'a'.toNat + 10)
  else if 'A' ≤ c ∧ c ≤ 'F' then some (c.toNat - 'A'.toNat + 10)
  else none

def fourHexDigits (a b c d : Char) : Option Nat := do
  return (((← hexValue a) * 16 + (← hexValue b)) * 16 + (← hexValue c)) * 16 + (← hexValue d)

/-- The four hexadecimal digits after `\u`: a unit of sixteen bits. -/
def hexUnit : Reader Nat := fun chars =>
  let tooShort : Reading Nat :=
    if byteCount chars < 4 then .fault ⟨.endInString, some 0⟩ []
    else .fault ⟨.invalidEscape, some (byteCount chars - 4)⟩ chars
  match chars with
  | a :: b :: c :: d :: rest =>
      match fourHexDigits a b c d with
      | some n => .value n rest
      | none => tooShort
  | _ => tooShort

def isLeading (unit : Nat) : Bool :=
  0xD800 ≤ unit && unit ≤ 0xDBFF

def isTrailing (unit : Nat) : Bool :=
  0xDC00 ≤ unit && unit ≤ 0xDFFF

/-- Consumes one expected character inside an escape. -/
def continued (wanted : Char) : Reader Unit
  | [] => failHere .endInString []
  | c :: rest => if c = wanted then .value () rest else failAhead .unpairedSurrogate (c :: rest)

/-- The rest of an escape `\u`: one unit, or the two halves of a surrogate pair. -/
def unicodeEscape : Reader Char := do
  let unit ← hexUnit
  if isTrailing unit then failHere .loneSurrogate
  else if isLeading unit then
    continued '\\'
    continued 'u'
    let second ← hexUnit
    if isTrailing second then
      return Char.ofNat ((unit - 0xD800) * 0x400 + (second - 0xDC00) + 0x10000)
    else failHere .loneSurrogate
  else return Char.ofNat unit

def simpleEscape (c : Char) : Option Char :=
  if c = '"' ∨ c = '\\' ∨ c = '/' then some c
  else if c = 'b' then some (Char.ofNat 8)
  else if c = 'f' then some (Char.ofNat 12)
  else if c = 'n' then some '\n'
  else if c = 'r' then some '\r'
  else if c = 't' then some '\t'
  else none

/-- The character that an escape stands for; its backslash is already consumed. -/
def escape : Reader Char
  | [] => failHere .endInString []
  | c :: rest =>
      match simpleEscape c with
      | some meant => .value meant rest
      | none => if c = 'u' then unicodeEscape rest else failAhead .invalidEscape (c :: rest)

/-- Characters up to the closing quote; `escape` reads what a backslash begins. -/
def untilQuote (escape : Reader Char) : Nat → List Char → Reader (List Char)
  | 0, done, chars => .value done.reverse chars
  | _ + 1, _, [] => failHere .endInString []
  | fuel + 1, done, c :: rest =>
      if c = '"' then .value done.reverse rest
      else if c = '\\' then
        match escape rest with
        | .value meant rest => untilQuote escape fuel (meant :: done) rest
        | .fault f rest => .fault f rest
      else if c.toNat < 32 then failAhead .controlCharacter (c :: rest)
      else untilQuote escape fuel (c :: done) rest

def stringTail : Reader String := fun chars =>
  match untilQuote escape (chars.length + 1) [] chars with
  | .value s rest => .value (String.ofList s) rest
  | .fault f rest => .fault f rest

/-! ## Numbers -/

def isDigit (c : Char) : Bool :=
  '0' ≤ c && c ≤ '9'

def digitValue (c : Char) : Nat :=
  c.toNat - '0'.toNat

def digits : Reader (List Char) :=
  fun chars => .value (chars.takeWhile isDigit) (chars.dropWhile isDigit)

def significandBound : Nat := 0x10000000000000000

/-- A significand and the power of ten that it is multiplied with. -/
structure Scaled where
  significand : Nat
  power : Int
  deriving Repr

/-- Appends digits to a significand as long as it fits; also gives the digits left over. -/
def Scaled.append (significand : Nat) : List Char → Nat × List Char
  | [] => (significand, [])
  | d :: ds =>
      let longer := significand * 10 + digitValue d
      if longer < significandBound then Scaled.append longer ds else (significand, d :: ds)

def exponentBound : Nat := 0x80000000

/-- Appends digits to an exponent; `none` and what follows once it is too large. -/
def exponentOf (exponent : Nat) : List Char → Option Nat × List Char
  | [] => (some exponent, [])
  | d :: ds =>
      let longer := exponent * 10 + digitValue d
      if longer < exponentBound then exponentOf longer ds else (none, ds)

/--
Divides by the greatest power of ten that is a double until the rest of a
negative power is one, then by that rest.
-/
def divideByPower (x : Double) : Nat → Nat → Option Double
  | 0, _ => some x
  | fuel + 1, power =>
      if power ≤ 308 then (Double.powerOfTen power).bind x.div
      else if x.isZero then some x
      else
        match (Double.powerOfTen 308).bind x.div with
        | some y => divideByPower y fuel (power - 308)
        | none => none

/-- The double that a scaled significand is read as; `none` if it is too large. -/
def Scaled.toDouble (s : Scaled) : Option Double :=
  let x := Double.ofInt s.significand
  if s.power < 0 then divideByPower x 4 (-s.power).toNat
  else if s.power ≤ 308 then (Double.powerOfTen s.power.toNat).bind x.mul
  else if x.isZero then some x
  else none

def signed (negative : Bool) (x : Double) : Number :=
  .double { x with negative := negative }

/-- Ends a number that has a fraction or an exponent, or is too long for a word. -/
def finishDouble (negative : Bool) (s : Scaled) : Reader Number :=
  match s.toDouble with
  | some x => pure (signed negative x)
  | none => failHere .numberOutOfRange

def exponentSign : Reader Bool := fun chars =>
  match chars with
  | '+' :: rest => .value false rest
  | '-' :: rest => .value true rest
  | rest => .value false rest

def exponentTail (negative : Bool) (s : Scaled) : Reader Number := do
  let downward ← exponentSign
  match ← digits with
  | [] =>
      match ← peek with
      | none => failHere .endInValue
      | some _ => failAhead .invalidNumber
  | ds =>
      match exponentOf 0 ds with
      | (some exponent, _) =>
          let power := if downward then s.power - exponent else s.power + exponent
          finishDouble negative ⟨s.significand, power⟩
      | (none, unread) =>
          if s.significand ≠ 0 ∧ downward = false then
            fun chars => failHere .numberOutOfRange (unread ++ chars)
          else return signed negative (Double.zero false)

def isExponentLetter (c : Option Char) : Bool :=
  c == some 'e' || c == some 'E'

def fractionTail (negative : Bool) (s : Scaled) : Reader Number := do
  match ← digits with
  | [] =>
      match ← peek with
      | none => failAhead .endInValue
      | some _ => failAhead .invalidNumber
  | ds =>
      let (significand, unused) := Scaled.append s.significand ds
      let s : Scaled := ⟨significand, s.power - (ds.length - unused.length : Nat)⟩
      if isExponentLetter (← peek) then
        skip
        exponentTail negative s
      else finishDouble negative s

/-- A whole number as it is kept: what no signed or unsigned word holds is a double. -/
def wholeNumber (negative : Bool) (significand : Nat) : Number :=
  if negative then
    if significand = 0 ∨ 0x8000000000000000 < significand then
      signed true (Double.ofInt significand)
    else .integer (-(significand : Int))
  else .integer significand

def numberTail (negative : Bool) (s : Scaled) (long : Bool) : Reader Number := do
  let next ← peek
  if next == some '.' then
    skip
    fractionTail negative s
  else if isExponentLetter next then
    skip
    exponentTail negative s
  else if long then finishDouble negative s
  else return wholeNumber negative s.significand

def numberAfterSign (negative : Bool) : Reader Number := do
  match ← peek with
  | none => failHere .endInValue
  | some first =>
      if first = '0' then
        skip
        match ← peek with
        | some c => if isDigit c then failAhead .invalidNumber else numberTail negative ⟨0, 0⟩ false
        | none => numberTail negative ⟨0, 0⟩ false
      else if isDigit first then
        let ds ← digits
        let (significand, unused) := Scaled.append 0 ds
        numberTail negative ⟨significand, unused.length⟩ (!unused.isEmpty)
      else failAhead .invalidNumber

def number : Reader Number := fun chars =>
  match chars with
  | '-' :: rest => numberAfterSign true rest
  | rest => numberAfterSign false rest

end Reader

end SchemaKeeper.Json
