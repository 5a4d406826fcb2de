/-!
Characters outside ASCII written with letters, digits and dashes.

The ASCII characters of a text come first, up to the last dash; digits after it
tell where the other characters go, by growing code points and with digit
weights that adapt to the distances met so far.
-/

namespace SchemaKeeper.Url.Punycode

def base : Nat := 36

/-- Sums and code points stay below this bound. -/
def wordBound : Nat := 0x100000000

def digit? (c : Char) : Option Nat :=
  if 'a' ≤ c ∧ c ≤ 'z' then some (c.toNat - 'a'.toNat)
  else if '0' ≤ c ∧ c ≤ '9' then some (c.toNat - '0'.toNat + 26)
  else none

/-- A digit below the threshold ends a number. -/
def threshold (place bias : Nat) : Nat :=
  if place ≤ bias then 1 else if bias + 26 ≤ place then 26 else place - bias

/-- Divides a distance down; gives what is left and how often it was divided. -/
def scaleDown (distance : Nat) : Nat × Nat :=
  if 455 < distance then
    let (left, times) := scaleDown (distance / 35)
    (left, times + 1)
  else (distance, 0)
termination_by distance
decreasing_by exact Nat.div_lt_self (by omega) (by omega)

def adapt (distance length : Nat) (first : Bool) : Nat :=
  let damped := if first then distance / 700 else distance / 2
  let (left, times) := scaleDown (damped + damped / length)
  base * times + base * left / (left + 38)

/-- Adds a number with adapting weights to `sum`; gives the unread digits too. -/
def addNumber (bias : Nat) : (place weight sum : Nat) → List Char → Option (Nat × List Char)
  | _, _, _, [] => none
  | place, weight, sum, c :: rest => do
      let digit ← digit? c
      let sum := sum + digit * weight
      guard (sum < wordBound)
      let limit := threshold place bias
      if digit < limit then return (sum, rest)
      else
        let weight := weight * (base - limit)
        guard (weight < wordBound)
        addNumber bias (place + base) weight sum rest

/-- Inserts characters as the digits tell; there is at most one for each digit. -/
def insertAll : (fuel bias code sum : Nat) → List Char → List Char → Option (List Char)
  | _, _, _, _, done, [] => some done
  | 0, _, _, _, _, _ :: _ => none
  | fuel + 1, bias, code, sum, done, digits => do
      let (next, rest) ← addNumber bias base 1 sum digits
      let length := done.length + 1
      let code := code + next / length
      guard (code < 0xD800 || (0xDFFF < code && code < 0x110000))
      let place := next % length
      insertAll fuel (adapt (next - sum) length (sum == 0)) code (place + 1)
        (done.take place ++ Char.ofNat code :: done.drop place) rest

def decode (label : List Char) : Option (List Char) :=
  let digits := (label.reverse.takeWhile (· != '-')).reverse
  let ascii := label.take (label.length - digits.length - 1)
  if ascii.isEmpty ∧ digits.length < label.length then none
  else insertAll digits.length 72 128 0 ascii digits

end SchemaKeeper.Url.Punycode
