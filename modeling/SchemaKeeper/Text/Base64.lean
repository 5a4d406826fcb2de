/-!
Bytes as text in base 64: each three bytes make four characters, and `=` fills
up the last group.
-/

namespace SchemaKeeper.Text

def base64Char (n : Nat) : Char :=
  if n < 26 then Char.ofNat ('A'.toNat + n)
  else if n < 52 then Char.ofNat ('a'.toNat + (n - 26))
  else if n < 62 then Char.ofNat ('0'.toNat + (n - 52))
  else if n = 62 then '+'
  else '/'

/-- The characters at some places, counted from the left, of a number of four. -/
def base64Chars (n : Nat) (places : List Nat) : List Char :=
  places.map fun place => base64Char (n / Nat.pow 64 (3 - place) % 64)

def encodeBase64 : List UInt8 → List Char
  | [] => []
  | [a] => base64Chars (a.toNat * 65536) [0, 1] ++ ['=', '=']
  | [a, b] => base64Chars (a.toNat * 65536 + b.toNat * 256) [0, 1, 2] ++ ['=']
  | a :: b :: c :: rest =>
      base64Chars (a.toNat * 65536 + b.toNat * 256 + c.toNat) [0, 1, 2, 3] ++ encodeBase64 rest

end SchemaKeeper.Text
