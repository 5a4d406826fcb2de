import SchemaKeeper.Text.Utf8

/-!
Percent escapes: `%` and two hexadecimal digits stand for one byte.
-/

namespace SchemaKeeper.Url

def hexValue (b : UInt8) : Option UInt8 :=
  if 0x30 ≤ b ∧ b ≤ 0x39 then some (b - 0x30)
  else if 0x41 ≤ b ∧ b ≤ 0x46 then some (b - 0x37)
  else if 0x61 ≤ b ∧ b ≤ 0x66 then some (b - 0x57)
  else none

/-- The bytes that a text with escapes stands for; an incomplete escape stands for itself. -/
def percentDecode : List UInt8 → List UInt8
  | [] => []
  | 0x25 :: high :: low :: rest =>
      match hexValue high, hexValue low with
      | some h, some l => (h * 16 + l) :: percentDecode rest
      | _, _ => 0x25 :: percentDecode (high :: low :: rest)
  | b :: rest => b :: percentDecode rest

def hexDigit (b : UInt8) : Char :=
  if b < 10 then Char.ofNat (0x30 + b.toNat) else Char.ofNat (0x37 + b.toNat)

def escapeByte (b : UInt8) : List Char :=
  ['%', hexDigit (b / 16), hexDigit (b % 16)]

/-- The character itself, or the escapes of its bytes. -/
def percentEncodeChar (mustEscape : Char → Bool) (c : Char) : List Char :=
  if mustEscape c then (Text.encodeUtf8 [c]).flatMap escapeByte else [c]

def isControl (c : Char) : Bool :=
  c.toNat < 0x20 || 0x7F ≤ c.toNat

def inUserInfo (c : Char) : Bool :=
  isControl c || " \"<>`#?\x7b\x7d/:;=@[\\]^|".toList.contains c

def inPath (c : Char) : Bool :=
  isControl c || " \"<>`#?\x7b\x7d".toList.contains c

def inQuery (c : Char) : Bool :=
  isControl c || " \"#<>'".toList.contains c

def inFragment (c : Char) : Bool :=
  isControl c || " \"<>`".toList.contains c

end SchemaKeeper.Url
