/-!
Spans of time and their text: the largest unit that is not empty, with the exact
fraction and no zeros at its end.
-/

namespace SchemaKeeper

structure Duration where
  nanoseconds : Nat
  deriving DecidableEq, Repr, Inhabited

namespace Duration

def ofMilliseconds (n : Nat) : Duration :=
  ⟨n * 1000000⟩

def ofSeconds (n : Nat) : Duration :=
  ofMilliseconds (n * 1000)

def seconds (d : Duration) : Nat :=
  d.nanoseconds / 1000000000

/-- The decimals of `part / 10 ^ places`, without zeros at the end. -/
def decimals (part places : Nat) : List Char :=
  let digits := Nat.toDigits 10 part
  let padded := List.replicate (places - digits.length) '0' ++ digits
  (padded.reverse.dropWhile (· == '0')).reverse

/-- An amount counted in units of `10 ^ places` nanoseconds. -/
def inUnit (nanoseconds places : Nat) (unit : String) : String :=
  let whole := toString (nanoseconds / Nat.pow 10 places)
  let part := nanoseconds % Nat.pow 10 places
  if part = 0 then whole ++ unit
  else whole ++ "." ++ String.ofList (decimals part places) ++ unit

def toText (d : Duration) : String :=
  let n := d.nanoseconds
  if 1000000000 ≤ n then inUnit n 9 "s"
  else if 1000000 ≤ n then inUnit n 6 "ms"
  else if 1000 ≤ n then inUnit n 3 "µs"
  else inUnit n 0 "ns"

end Duration

end SchemaKeeper
