import SchemaKeeper.Proofs.Text.Utf8
import SchemaKeeper.Url.Percent

/-!
# Percent escapes

Bytes that are all escaped are told by their escapes, and a text without percent
signs stands for itself.
-/

namespace SchemaKeeper

namespace Text

variable {c : Char} {chars : List Char}

/-- Characters of ASCII are their own bytes. -/
theorem encodeUtf8_cons (h : c.toNat < 0x80) (chars : List Char) :
    encodeUtf8 (c :: chars) = UInt8.ofNat c.toNat :: encodeUtf8 chars := by
  change numberBytes c.toNat ++ encodeUtf8 chars = _
  rw [numberBytes, if_pos (by omega)]
  rfl

theorem encodeUtf8_eq_map (h : ∀ c ∈ chars, c.toNat < 0x80) :
    encodeUtf8 chars = chars.map fun c => UInt8.ofNat c.toNat := by
  induction chars with
  | nil => rfl
  | cons c chars ih =>
      obtain ⟨hc, hchars⟩ := List.forall_mem_cons.mp h
      rw [encodeUtf8_cons hc, ih hchars, List.map_cons]

end Text

namespace Url

/-- The text in which every byte is escaped. -/
def escaped (bytes : List UInt8) : String :=
  String.ofList (bytes.flatMap escapeByte)

theorem forall_halves {P : UInt8 → Prop} (h : ∀ n < 16, P (.ofNat n)) (b : UInt8) :
    P (b / 16) ∧ P (b % 16) := by
  have hhalf {half : UInt8} (hlt : half.toNat < 16) : P half := by
    simpa using h half.toNat hlt
  have hb := b.toNat_lt
  refine ⟨hhalf ?_, hhalf ?_⟩
  · simp only [UInt8.toNat_div, UInt8.reduceToNat]
    omega
  · simp only [UInt8.toNat_mod, UInt8.reduceToNat]
    omega

theorem hexValue_hexDigit : ∀ n < 16, (hexDigit (.ofNat n)).toNat < 0x80 ∧
    hexValue (.ofNat (hexDigit (.ofNat n)).toNat) = some (.ofNat n) := by
  decide

theorem percentDecode_escapeByte (b : UInt8) (rest : List Char) :
    percentDecode (Text.encodeUtf8 (escapeByte b ++ rest)) =
      b :: percentDecode (Text.encodeUtf8 rest) := by
  obtain ⟨⟨hhigh, hhighValue⟩, hlow, hlowValue⟩ := @forall_halves
    (fun n => (hexDigit n).toNat < 0x80 ∧ hexValue (.ofNat (hexDigit n).toNat) = some n)
    hexValue_hexDigit b
  have hvalue : b / 16 * 16 + b % 16 = b := by
    rw [← UInt8.toNat_inj]
    have hb := b.toNat_lt
    simp only [UInt8.toNat_add, UInt8.toNat_mul, UInt8.toNat_div, UInt8.toNat_mod,
      UInt8.reduceToNat]
    omega
  simp only [escapeByte, List.cons_append, List.nil_append]
  rw [Text.encodeUtf8_cons (by decide), Text.encodeUtf8_cons hhigh, Text.encodeUtf8_cons hlow]
  change percentDecode (0x25 :: _) = _
  rw [percentDecode, hhighValue, hlowValue]
  exact congrArg (· :: _) hvalue

/-- Escapes are undone, whether or not the bytes are those of a text. -/
theorem percentDecode_escaped (bytes : List UInt8) :
    percentDecode (Text.encodeUtf8 (escaped bytes).toList) = bytes := by
  rw [escaped, String.toList_ofList]
  induction bytes with
  | nil => rfl
  | cons b bytes ih => rw [List.flatMap_cons, percentDecode_escapeByte, ih]

theorem percentDecode_eq_self {bytes : List UInt8} (h : 0x25 ∉ bytes) :
    percentDecode bytes = bytes := by
  induction bytes with
  | nil => rfl
  | cons b bytes ih =>
      rw [List.mem_cons, not_or] at h
      rw [percentDecode, ih h.2]
      rintro _ _ _ rfl -
      exact absurd rfl h.1

theorem forall_mem_escaped {P : Char → Prop} (hpercent : P '%')
    (hdigit : ∀ n < 16, P (hexDigit (.ofNat n))) (bytes : List UInt8) :
    ∀ c ∈ (escaped bytes).toList, P c := by
  intro c hc
  rw [escaped, String.toList_ofList, List.mem_flatMap] at hc
  obtain ⟨b, -, hc⟩ := hc
  obtain ⟨hhigh, hlow⟩ := @forall_halves (fun n => P (hexDigit n)) hdigit b
  simp only [escapeByte, List.mem_cons, List.not_mem_nil, or_false] at hc
  rcases hc with rfl | rfl | rfl
  · exact hpercent
  · exact hhigh
  · exact hlow

end Url

end SchemaKeeper
