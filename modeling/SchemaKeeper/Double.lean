/-!
Binary numbers of double precision, held exactly.

A `Double` is a sign, a mantissa and a power of two, so rounding, comparison
and printing are arithmetic on natural numbers.  Only finite values exist: an
operation whose result is too large answers `none`.
-/

namespace SchemaKeeper

/-- The value `mantissa * 2 ^ exponent`, negated when `negative` holds. -/
structure Double where
  negative : Bool
  mantissa : Nat
  exponent : Int
  deriving DecidableEq, Repr, Inhabited

namespace Double

/-- Mantissas lie below `2 ^ precision`. -/
def precision : Nat := 53

def leastExponent : Int := -1074

def greatestExponent : Int := 971

def zero (negative : Bool) : Double :=
  ⟨negative, 0, leastExponent⟩

def isZero (x : Double) : Bool :=
  x.mantissa == 0

/-! ## Rounding -/

/-- The whole number nearest to `num / den`; of two equally near the even one. -/
def roundHalfEven (num den : Nat) : Nat :=
  let quotient := num / den
  let twice := 2 * (num % den)
  if twice > den || (twice == den && quotient % 2 == 1) then quotient + 1 else quotient

def scaled (num den : Nat) (exponent : Int) : Nat × Nat :=
  if 0 ≤ exponent then (num, den * Nat.pow 2 exponent.toNat)
  else (num * Nat.pow 2 (-exponent).toNat, den)

/--
The power of two at which `num / den` has as many mantissa bits as fit,
never less than `leastExponent`.
-/
def exponentFor (num den : Nat) : Int :=
  let guess := max leastExponent ((Nat.log2 num : Int) - Nat.log2 den - precision)
  let (n, d) := scaled num den guess
  if n / d < Nat.pow 2 precision then guess else guess + 1

def ofRatio (negative : Bool) (num den : Nat) : Option Double :=
  if num == 0 then some (zero negative)
  else
    let exponent := exponentFor num den
    let (n, d) := scaled num den exponent
    let mantissa := roundHalfEven n d
    let (mantissa, exponent) :=
      if mantissa == Nat.pow 2 precision then (Nat.pow 2 (precision - 1), exponent + 1)
      else (mantissa, exponent)
    if exponent > greatestExponent then none else some ⟨negative, mantissa, exponent⟩

def ratio (x : Double) : Nat × Nat :=
  if 0 ≤ x.exponent then (x.mantissa * Nat.pow 2 x.exponent.toNat, 1)
  else (x.mantissa, Nat.pow 2 (-x.exponent).toNat)

/-- The double nearest to a whole number; meant for numbers of at most 64 bits. -/
def ofInt (n : Int) : Double :=
  (ofRatio (n < 0) n.natAbs 1).getD (zero false)

def powerOfTen (power : Nat) : Option Double :=
  ofRatio false (Nat.pow 10 power) 1

def mul (x y : Double) : Option Double :=
  let (n, d) := x.ratio
  let (n', d') := y.ratio
  ofRatio (x.negative != y.negative) (n * n') (d * d')

/-- Division by a number that is not zero. -/
def div (x y : Double) : Option Double :=
  let (n, d) := x.ratio
  let (n', d') := y.ratio
  ofRatio (x.negative != y.negative) (n * d') (d * n')

/-! ## Comparison -/

/-- Equality of values: the two zeros are the same number. -/
def sameValue (x y : Double) : Bool :=
  (x.isZero && y.isZero) || x == y

/-! ## Decimal digits -/

/-- The greatest power of ten not above `num / den`, for a positive ratio. -/
def decimalExponent (num den : Nat) : Int :=
  if den ≤ num then ((Nat.toDigits 10 (num / den)).length : Int) - 1
  else
    let guess := (Nat.log2 den - Nat.log2 num) * 30103 / 100000
    let low := guess - 1
    if num * Nat.pow 10 low ≥ den then -low
    else if num * Nat.pow 10 (low + 1) ≥ den then -((low + 1 : Nat) : Int)
    else if num * Nat.pow 10 (low + 2) ≥ den then -((low + 2 : Nat) : Int)
    else -((low + 3 : Nat) : Int)

def neighbours (num den : Nat) (power : Int) : Nat × Nat :=
  let below :=
    if 0 ≤ power then num / (den * Nat.pow 10 power.toNat)
    else num * Nat.pow 10 (-power).toNat / den
  (below, below + 1)

def compareDecimal (digits : Nat) (power : Int) (num den : Nat) : Ordering :=
  if 0 ≤ power then compare (digits * Nat.pow 10 power.toNat * den) num
  else compare (digits * den) (num * Nat.pow 10 (-power).toNat)

/--
The reals that round to a positive double, as quarter units of its last place:
the numerators of lower end, value and upper end, and their denominator.
-/
structure Interval where
  low : Nat
  value : Nat
  high : Nat
  den : Nat
  /-- The ends belong to the interval. -/
  closed : Bool
  deriving Repr

def interval (x : Double) : Interval :=
  let low := if x.mantissa == Nat.pow 2 (precision - 1) && x.exponent > leastExponent then 1 else 2
  let (unit, den) : Nat × Nat :=
    if 2 ≤ x.exponent then (Nat.pow 2 (x.exponent - 2).toNat, 1)
    else (1, Nat.pow 2 (2 - x.exponent).toNat)
  ⟨(4 * x.mantissa - low) * unit, 4 * x.mantissa * unit, (4 * x.mantissa + 2) * unit, den,
    x.mantissa % 2 == 0⟩

def Interval.contains (i : Interval) (digits : Nat) (power : Int) : Bool :=
  let low := compareDecimal digits power i.low i.den
  let high := compareDecimal digits power i.high i.den
  if i.closed then low != .lt && high != .gt else low == .gt && high == .lt

/-- Of the two neighbours on one grid the one inside, and of two inside the nearer. -/
def Interval.onGrid (i : Interval) (power : Int) : Option Nat :=
  let (below, above) := neighbours i.value i.den power
  match i.contains below power, i.contains above power with
  | true, true =>
      match compareDecimal (below + above) power (2 * i.value) i.den with
      | .gt => some below
      | .lt => some above
      | .eq => some (if below % 2 == 0 then below else above)
  | true, false => some below
  | false, true => some above
  | false, false => none

def stripZeros : Nat → Nat → Int → Nat × Int
  | 0, digits, power => (digits, power)
  | fuel + 1, digits, power =>
      if digits != 0 && digits % 10 == 0 then stripZeros fuel (digits / 10) (power + 1)
      else (digits, power)

/-- Tries grids of one, two, … seventeen digits. -/
def firstGrid (i : Interval) (top : Int) : List Nat → Nat × Int
  | [] => (0, 0)
  | count :: counts =>
      let power := top - count + 1
      match i.onGrid power with
      | some digits => stripZeros 20 digits power
      | none => firstGrid i top counts

/--
The fewest decimal digits that read back as the double, and of those the
nearest: `(digits, power)` stands for `digits * 10 ^ power`.
-/
def shortest (x : Double) : Nat × Int :=
  if x.isZero then (0, 0)
  else
    let i := x.interval
    firstGrid i (decimalExponent i.value i.den)
      [1, 2, 3, 4, 5, 6, 7, 8, 9, 10, 11, 12, 13, 14, 15, 16, 17]

/-! ## Text -/

/-- Decimal exponents from the first to the second of these are written positionally. -/
def positionalFrom : Int := -5

def positionalTo : Int := 15

def positional (digits : List Char) (power : Int) : List Char :=
  if 0 ≤ power then digits ++ List.replicate power.toNat '0' ++ ['.', '0']
  else
    let places := (-power).toNat
    if places < digits.length then
      digits.take (digits.length - places) ++ '.' :: digits.drop (digits.length - places)
    else
      ['0', '.'] ++ List.replicate (places - digits.length) '0' ++ digits

def scientific (digits : List Char) (exponent : Int) : List Char :=
  let sign := if exponent < 0 then '-' else '+'
  let fraction :=
    match digits with
    | first :: second :: rest => first :: '.' :: second :: rest
    | short => short
  fraction ++ ['e', sign] ++ Nat.toDigits 10 exponent.natAbs

/--
Shortest digits, positional for decimal exponents from -5 to 15 and then with at
least one decimal, else scientific with a signed exponent.
-/
def toChars (x : Double) : List Char :=
  let sign := if x.negative then ['-'] else []
  if x.isZero then sign ++ ['0', '.', '0']
  else
    let (number, power) := x.shortest
    let digits := Nat.toDigits 10 number
    let exponent := power + digits.length - 1
    let body :=
      if positionalFrom ≤ exponent ∧ exponent ≤ positionalTo then positional digits power
      else scientific digits exponent
    sign ++ body

def toText (x : Double) : String :=
  String.ofList x.toChars

end Double

end SchemaKeeper
