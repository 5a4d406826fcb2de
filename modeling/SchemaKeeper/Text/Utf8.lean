/-!
Text as bytes in UTF-8, and bytes as text.
-/

namespace SchemaKeeper.Text

/-- Where bytes stop being UTF-8. -/
inductive Utf8Fault where
  /-- So many bytes from an index on can begin no character. -/
  | invalid (length index : Nat)
  /-- The bytes end inside the character that begins at an index. -/
  | incomplete (index : Nat)
  deriving DecidableEq, Repr

def Utf8Fault.message : Utf8Fault → String
  | .invalid length index => s!"invalid utf-8 sequence of {length} bytes from index {index}"
  | .incomplete index => s!"incomplete utf-8 byte sequence from index {index}"

def isContinuation (b : UInt8) : Bool :=
  0x80 ≤ b && b ≤ 0xBF

def low (b : UInt8) : Nat :=
  b.toNat % 64

/-- The second bytes that may follow a first byte of three or four. -/
def secondRange (first : UInt8) : UInt8 × UInt8 :=
  if first = 0xE0 then (0xA0, 0xBF)
  else if first = 0xED then (0x80, 0x9F)
  else if first = 0xF0 then (0x90, 0xBF)
  else if first = 0xF4 then (0x80, 0x8F)
  else (0x80, 0xBF)

/-- Decodes the bytes that begin at an index of some longer text. -/
def decodeFrom (index : Nat) : List UInt8 → Except Utf8Fault (List Char)
  | [] => .ok []
  | a :: rest =>
      if a < 0x80 then do
        return Char.ofNat a.toNat :: (← decodeFrom (index + 1) rest)
      else if 0xC2 ≤ a ∧ a ≤ 0xDF then
        match rest with
        | [] => .error (.incomplete index)
        | b :: rest =>
            if !isContinuation b then .error (.invalid 1 index)
            else do
              return Char.ofNat ((a.toNat % 32) * 64 + low b) :: (← decodeFrom (index + 2) rest)
      else if 0xE0 ≤ a ∧ a ≤ 0xEF then
        match rest with
        | [] => .error (.incomplete index)
        | b :: rest =>
            if b < (secondRange a).1 ∨ (secondRange a).2 < b then .error (.invalid 1 index)
            else
              match rest with
              | [] => .error (.incomplete index)
              | c :: rest =>
                  if !isContinuation c then .error (.invalid 2 index)
                  else do
                    return Char.ofNat (((a.toNat % 16) * 64 + low b) * 64 + low c) ::
                      (← decodeFrom (index + 3) rest)
      else if 0xF0 ≤ a ∧ a ≤ 0xF4 then
        match rest with
        | [] => .error (.incomplete index)
        | b :: rest =>
            if b < (secondRange a).1 ∨ (secondRange a).2 < b then .error (.invalid 1 index)
            else
              match rest with
              | [] => .error (.incomplete index)
              | c :: rest =>
                  if !isContinuation c then .error (.invalid 2 index)
                  else
                    match rest with
                    | [] => .error (.incomplete index)
                    | d :: rest =>
                        if !isContinuation d then .error (.invalid 3 index)
                        else do
                          return Char.ofNat
                              ((((a.toNat % 8) * 64 + low b) * 64 + low c) * 64 + low d) ::
                            (← decodeFrom (index + 4) rest)
      else .error (.invalid 1 index)

def decodeUtf8 (bytes : List UInt8) : Except Utf8Fault String := do
  return String.ofList (← decodeFrom 0 bytes)

/-- The bytes that a fault makes unreadable, at least one. -/
def Utf8Fault.extent (fault : Utf8Fault) (bytes : List UInt8) : Nat × Nat :=
  match fault with
  | .invalid length index => (index, length)
  | .incomplete index => (index, bytes.length - index)

/-- Decodes bytes; what cannot be read becomes a replacement character. -/
def decodeReplacing : Nat → List UInt8 → List Char
  | 0, _ => []
  | fuel + 1, bytes =>
      match decodeFrom 0 bytes with
      | .ok chars => chars
      | .error fault =>
          let (index, length) := fault.extent bytes
          let front := (decodeFrom 0 (bytes.take index)).toOption.getD []
          front ++ Char.ofNat 0xFFFD :: decodeReplacing fuel (bytes.drop (index + length))

/-- The same for whole texts, without the mark that may stand in front of them. -/
def decodeLossy (bytes : List UInt8) : String :=
  match decodeReplacing (bytes.length + 1) bytes with
  | '\uFEFF' :: chars => String.ofList chars
  | chars => String.ofList chars

def encodeUtf8 (chars : List Char) : List UInt8 :=
  chars.flatMap String.utf8EncodeChar

end SchemaKeeper.Text
