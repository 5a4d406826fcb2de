import SchemaKeeper.Json.Scalar

/-!
The scalars of TOML: strings in their four forms, numbers, truth values, dates
and times.  A reader gives what it read and the rest of the text, or nothing if
the text is not valid.
-/

namespace SchemaKeeper.Toml

abbrev Scan (α : Type) := List Char → Option (α × List Char)

/-! ## Characters -/

def isBlank (c : Char) : Bool :=
  c == ' ' || c == '\t'

def skipBlanks (chars : List Char) : List Char :=
  chars.dropWhile isBlank

/-- Neither a control character nor a line end; a tab is allowed. -/
def isPlain (c : Char) : Bool :=
  c == '\t' || (0x20 ≤ c.toNat && c.toNat != 0x7F)

/-- A line end in front: a line feed, or a carriage return and a line feed. -/
def lineEnd? : List Char → Option (List Char)
  | '\n' :: rest => some rest
  | '\r' :: '\n' :: rest => some rest
  | _ => none

def expect (wanted : List Char) (chars : List Char) : Option (List Char) :=
  if wanted.isPrefixOf chars then some (chars.drop wanted.length) else none

/-! ## Strings -/

/-- A code point in so many hexadecimal digits. -/
def codePoint (digits : Nat) : Scan Char := fun chars => do
  let front := chars.take digits
  guard (front.length = digits)
  let values ← front.mapM Json.Reader.hexValue
  let n := values.foldl (fun n d => n * 16 + d) 0
  guard (n < 0xD800 || (0xDFFF < n && n < 0x110000))
  return (Char.ofNat n, chars.drop digits)

/-- What a backslash begins. -/
def escape : Scan Char
  | 'b' :: rest => some (Char.ofNat 8, rest)
  | 't' :: rest => some ('\t', rest)
  | 'n' :: rest => some ('\n', rest)
  | 'f' :: rest => some (Char.ofNat 12, rest)
  | 'r' :: rest => some ('\r', rest)
  | '"' :: rest => some ('"', rest)
  | '\\' :: rest => some ('\\', rest)
  | 'u' :: rest => codePoint 4 rest
  | 'U' :: rest => codePoint 8 rest
  | _ => none

/-- A string on one line after its opening quote. -/
def basicString : Nat → List Char → Scan String
  | 0, _, _ => none
  | _ + 1, _, [] => none
  | fuel + 1, done, c :: rest =>
      if c = '"' then some (String.ofList done.reverse, rest)
      else if c = '\\' then do
        let (meant, rest) ← escape rest
        basicString fuel (meant :: done) rest
      else if isPlain c then basicString fuel (c :: done) rest
      else none

/-- A string without escapes on one line after its opening quote. -/
def literalString (chars : List Char) : Option (String × List Char) :=
  let content := chars.takeWhile fun c => c != '\'' && isPlain c
  match chars.drop content.length with
  | '\'' :: rest => some (String.ofList content, rest)
  | _ => none

/-- Blanks and line ends after a backslash at the end of a line. -/
def skipFolded : Nat → List Char → List Char
  | 0, chars => chars
  | fuel + 1, chars =>
      let rest := skipBlanks chars
      match lineEnd? rest with
      | some rest => skipFolded fuel rest
      | none => rest

/-- The quotes in front, counted up to five. -/
def quotesAhead (quote : Char) (chars : List Char) : Nat :=
  ((chars.take 5).takeWhile (· == quote)).length

/--
A string over several lines after its three opening quotes.  Up to two quotes
may stand right before the three closing ones.
-/
def multilineString (quote : Char) (escapes : Bool) : Nat → List Char → Scan String
  | 0, _, _ => none
  | _ + 1, _, [] => none
  | fuel + 1, done, c :: rest =>
      let chars := c :: rest
      let quotes := quotesAhead quote chars
      if 3 ≤ quotes then
        some (String.ofList (List.replicate (quotes - 3) quote ++ done).reverse,
          chars.drop quotes)
      else
        match lineEnd? chars with
        | some rest => multilineString quote escapes fuel ('\n' :: done) rest
        | none =>
            if escapes && c == '\\' then
              match lineEnd? (skipBlanks rest) with
              | some _ => multilineString quote escapes fuel done (skipFolded rest.length rest)
              | none => do
                  let (meant, rest) ← escape rest
                  multilineString quote escapes fuel (meant :: done) rest
            else if isPlain c then multilineString quote escapes fuel (c :: done) rest
            else none

/-- A line end right after the opening quotes does not belong to the string. -/
def afterOpening (chars : List Char) : List Char :=
  (lineEnd? chars).getD chars

def stringValue (chars : List Char) : Option (String × List Char) :=
  let fuel := chars.length + 1
  match chars with
  | '"' :: '"' :: '"' :: rest => multilineString '"' true fuel [] (afterOpening rest)
  | '\'' :: '\'' :: '\'' :: rest => multilineString '\'' false fuel [] (afterOpening rest)
  | '"' :: rest => basicString fuel [] rest
  | '\'' :: rest => literalString rest
  | _ => none

/-! ## Numbers -/

/-- Digits with single underscores between them; gives the digits alone. -/
def digitGroups (isDigit : Char → Bool) : List Char → Option (List Char × List Char)
  | [] => none
  | c :: rest =>
      if !isDigit c then none
      else
        let run := (c :: rest).takeWhile fun c => isDigit c || c == '_'
        let behind := (c :: rest).drop run.length
        let rec wellSpaced : List Char → Bool
          | '_' :: '_' :: _ => false
          | ['_'] => false
          | _ :: rest => wellSpaced rest
          | [] => true
        if wellSpaced run then some (run.filter (· != '_'), behind) else none

def valueOf (base : Nat) (digits : List Char) : Nat :=
  digits.foldl (fun n d => n * base + (Json.Reader.hexValue d).getD 0) 0

def isOctal (c : Char) : Bool :=
  '0' ≤ c && c ≤ '7'

def isBinary (c : Char) : Bool :=
  c == '0' || c == '1'

def isHexadecimal (c : Char) : Bool :=
  (Json.Reader.hexValue c).isSome

/-- Whole numbers fit a signed word. -/
def checkWord (n : Int) : Option Json :=
  if Number.leastInteger ≤ n ∧ n < Number.signedBound then some (.ofInt n) else none

def sign : List Char → Bool × List Char
  | '+' :: rest => (false, rest)
  | '-' :: rest => (true, rest)
  | rest => (false, rest)

/-- The whole part of a decimal number, without leading zeros. -/
def wholeDigits : List Char → Option (List Char × List Char)
  | '0' :: rest => some (['0'], rest)
  | chars => digitGroups Json.Reader.isDigit chars

def exponentPart (chars : List Char) : Option (Int × List Char) := do
  let (negative, rest) := sign chars
  let (digits, rest) ← digitGroups Json.Reader.isDigit rest
  let n := valueOf 10 digits
  return (if negative then -n else n, rest)

/-- The double nearest to a decimal; far beyond its range there is none, or zero. -/
def nearestDouble (negative : Bool) (digits : Nat) (power : Int) : Option Double :=
  if digits = 0 then some (.zero negative)
  else if 400 < power then none
  else if 0 ≤ power then Double.ofRatio negative (digits * Nat.pow 10 power.toNat) 1
  else if power < -(400 + (Nat.log2 digits : Int)) then some (.zero negative)
  else Double.ofRatio negative digits (Nat.pow 10 (-power).toNat)

/-- The greatest double, which also stands for the values that are not finite. -/
def greatest (negative : Bool) : Double :=
  ⟨negative, 0x1fffffffffffff, Double.greatestExponent⟩

/-- The value of a decimal; one beyond the range is refused above it and is the least below it. -/
def decimalValue (negative : Bool) (digits : Nat) (power : Int) : Option Json :=
  match nearestDouble negative digits power with
  | some x => some (.number (.double x))
  | none => if negative then some (.number (.double (greatest negative))) else none

/-- What follows the whole digits of a decimal number. -/
def decimalTail (negative : Bool) (whole : List Char) : Scan Json := fun chars => do
  let exponent (digits : List Char) (power : Int) (chars : List Char) :
      Option (Json × List Char) := do
    let (shift, rest) ← exponentPart chars
    return (← decimalValue negative (valueOf 10 digits) (power + shift), rest)
  match chars with
  | '.' :: rest =>
      let (fraction, rest) ← digitGroups Json.Reader.isDigit rest
      let digits := whole ++ fraction
      let power : Int := -fraction.length
      match rest with
      | 'e' :: rest | 'E' :: rest => exponent digits power rest
      | rest => return (← decimalValue negative (valueOf 10 digits) power, rest)
  | 'e' :: rest | 'E' :: rest => exponent whole 0 rest
  | rest =>
      let n : Int := valueOf 10 whole
      return (← checkWord (if negative then -n else n), rest)

def decimal (chars : List Char) : Option (Json × List Char) :=
  let (negative, rest) := sign chars
  match expect "inf".toList rest, expect "nan".toList rest with
  | some rest, _ | none, some rest => some (.number (.double (greatest negative)), rest)
  | none, none => do
      let (whole, rest) ← wholeDigits rest
      decimalTail negative whole rest

def based (base : Nat) (isDigit : Char → Bool) : Scan Json := fun chars => do
  let (digits, rest) ← digitGroups isDigit chars
  return (← checkWord (valueOf base digits), rest)

def number (chars : List Char) : Option (Json × List Char) :=
  match chars with
  | '0' :: 'x' :: rest => based 16 isHexadecimal rest
  | '0' :: 'o' :: rest => based 8 isOctal rest
  | '0' :: 'b' :: rest => based 2 isBinary rest
  | chars => decimal chars

/-! ## Dates and times -/

def fixedDigits (count : Nat) : Scan Nat := fun chars => do
  let front := chars.take count
  guard (front.length = count && front.all Json.Reader.isDigit)
  return (valueOf 10 front, chars.drop count)

def daysInMonth (year month : Nat) : Nat :=
  if month = 2 then
    if year % 4 = 0 ∧ (year % 100 ≠ 0 ∨ year % 400 = 0) then 29 else 28
  else if month = 4 ∨ month = 6 ∨ month = 9 ∨ month = 11 then 30
  else 31

/-- A number with leading zeros up to a number of digits. -/
def padded (count n : Nat) : List Char :=
  let digits := Nat.toDigits 10 n
  List.replicate (count - digits.length) '0' ++ digits

def date : Scan (List Char) := fun chars => do
  let (year, rest) ← fixedDigits 4 chars
  let rest ← expect ['-'] rest
  let (month, rest) ← fixedDigits 2 rest
  let rest ← expect ['-'] rest
  let (day, rest) ← fixedDigits 2 rest
  guard (1 ≤ month && month ≤ 12 && 1 ≤ day && day ≤ daysInMonth year month)
  return (padded 4 year ++ '-' :: padded 2 month ++ '-' :: padded 2 day, rest)

/-- Parts of a second as they are written: billionths, without zeros at the end. -/
def fractionText (digits : List Char) : List Char :=
  match ((digits.take 9).reverse.dropWhile (· == '0')).reverse with
  | [] => []
  | kept => '.' :: kept

def time : Scan (List Char) := fun chars => do
  let (hour, rest) ← fixedDigits 2 chars
  let rest ← expect [':'] rest
  let (minute, rest) ← fixedDigits 2 rest
  let rest ← expect [':'] rest
  let (second, rest) ← fixedDigits 2 rest
  guard (hour ≤ 23 && minute ≤ 59 && second ≤ 60)
  let text := padded 2 hour ++ ':' :: padded 2 minute ++ ':' :: padded 2 second
  match rest with
  | '.' :: more =>
      let digits := more.takeWhile Json.Reader.isDigit
      if digits.isEmpty then return (text, rest)
      else return (text ++ fractionText digits, more.drop digits.length)
  | _ => return (text, rest)

/-- An offset from universal time, if there is one; no offset has no direction. -/
def offset : Scan (List Char) := fun chars =>
  let signed (mark : Char) (rest : List Char) : Option (List Char × List Char) := do
    let (hour, rest) ← fixedDigits 2 rest
    let rest ← expect [':'] rest
    let (minute, rest) ← fixedDigits 2 rest
    guard (hour ≤ 23 && minute ≤ 59)
    let mark := if hour = 0 ∧ minute = 0 then '+' else mark
    return (mark :: padded 2 hour ++ ':' :: padded 2 minute, rest)
  match chars with
  | 'Z' :: rest | 'z' :: rest => some (['Z'], rest)
  | '+' :: rest => signed '+' rest
  | '-' :: rest => signed '-' rest
  | rest => some ([], rest)

/-- A date, a time or both. -/
def moment : Scan (List Char) := fun chars =>
  match date chars with
  | none => time chars
  | some (day, rest) =>
      match rest with
      | [] => some (day, rest)
      | mark :: more =>
          if mark = 'T' ∨ mark = 't' ∨ mark = ' ' then
            match time more with
            | some (hour, rest) => do
                let (shift, rest) ← offset rest
                return (day ++ 'T' :: hour ++ shift, rest)
            | none => if mark = ' ' then some (day, rest) else none
          else some (day, rest)

/-- Dates and times stand for an object with their text. -/
def dateTime : Scan Json := fun chars => do
  let (text, rest) ← moment chars
  return (.object [("$__toml_private_datetime", .string (String.ofList text))], rest)

/-- A number, or a date or time, which begins with digits and `-` or `:`. -/
def numberOrDate (chars : List Char) : Option (Json × List Char) :=
  match (chars.dropWhile Json.Reader.isDigit).head? with
  | some '-' | some ':' =>
      if (chars.head?.map Json.Reader.isDigit).getD false then dateTime chars else number chars
  | _ => number chars

/-! ## Scalars -/

def scalar (chars : List Char) : Option (Json × List Char) :=
  match chars with
  | [] => none
  | c :: _ =>
      if c = '"' ∨ c = '\'' then
        (stringValue chars).map fun (s, rest) => (.string s, rest)
      else if c = 't' then (expect "true".toList chars).map fun rest => (.bool true, rest)
      else if c = 'f' then (expect "false".toList chars).map fun rest => (.bool false, rest)
      else if Json.Reader.isDigit c ∨ c = '+' ∨ c = '-' ∨ c = 'i' ∨ c = 'n' then
        numberOrDate chars
      else none

end SchemaKeeper.Toml
