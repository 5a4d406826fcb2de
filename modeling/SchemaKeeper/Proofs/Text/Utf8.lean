import SchemaKeeper.Files

/-!
# Texts and their bytes

The bytes of a text are decoded as that text, and no other bytes are decoded.  A
character has one to four bytes: its number is cut into groups of six bits, and
the first byte tells how many follow.  For each count there is one lemma on what
the decoder makes of such bytes, and one on the bytes that are written.
-/

namespace SchemaKeeper

namespace Text

/-! ## Bytes -/

theorem toNat_ofNat_byte {n : Nat} (h : n < 256) : (UInt8.ofNat n).toNat = n :=
  UInt8.toNat_ofNat_of_lt h

theorem byte_within {n : Nat} (least most : UInt8) (hleast : least.toNat ≤ n)
    (hmost : n ≤ most.toNat) : least ≤ UInt8.ofNat n ∧ UInt8.ofNat n ≤ most := by
  have hn := toNat_ofNat_byte (Nat.lt_of_le_of_lt hmost most.toNat_lt)
  rw [UInt8.le_iff_toNat_le, UInt8.le_iff_toNat_le, hn]
  exact ⟨hleast, hmost⟩

theorem low_continuation (n : Nat) : low (UInt8.ofNat (n % 64 + 128)) = n % 64 := by
  unfold low
  rw [toNat_ofNat_byte (by omega)]
  omega

theorem isContinuation_continuation (n : Nat) :
    isContinuation (UInt8.ofNat (n % 64 + 128)) = true := by
  have hn : n % 64 < 64 := Nat.mod_lt n (by decide)
  have hwithin := byte_within 0x80 0xBF (show 128 ≤ n % 64 + 128 by omega)
    (show n % 64 + 128 ≤ 191 by omega)
  unfold isContinuation
  rw [decide_eq_true hwithin.1, decide_eq_true hwithin.2]
  rfl

/-! ## Characters -/

section

variable {a b c d : UInt8} (index : Nat) (rest : List UInt8)

theorem decodeFrom_one (ha : a < 0x80) :
    decodeFrom index (a :: rest) =
      (do return Char.ofNat a.toNat :: (← decodeFrom (index + 1) rest)) := by
  rw [decodeFrom.eq_def]
  dsimp only
  rw [if_pos ha]

theorem not_lt_of_le (least : UInt8) (hleast : 0x80 ≤ least) (ha : least ≤ a) : ¬a < 0x80 := by
  rw [UInt8.not_lt]
  exact UInt8.le_trans hleast ha

theorem decodeFrom_two (ha : 0xC2 ≤ a ∧ a ≤ 0xDF) (hb : isContinuation b = true) :
    decodeFrom index (a :: b :: rest) =
      (do return Char.ofNat ((a.toNat % 32) * 64 + low b) :: (← decodeFrom (index + 2) rest)) := by
  have hone := not_lt_of_le 0xC2 (by decide) ha.1
  rw [decodeFrom.eq_def]
  simp only [if_neg hone, if_pos ha, hb]
  rfl

theorem decodeFrom_three (ha : 0xE0 ≤ a ∧ a ≤ 0xEF)
    (hb : (secondRange a).1 ≤ b ∧ b ≤ (secondRange a).2) (hc : isContinuation c = true) :
    decodeFrom index (a :: b :: c :: rest) =
      (do return Char.ofNat (((a.toNat % 16) * 64 + low b) * 64 + low c) ::
        (← decodeFrom (index + 3) rest)) := by
  have hone := not_lt_of_le 0xE0 (by decide) ha.1
  have htwo : ¬(0xC2 ≤ a ∧ a ≤ 0xDF) :=
    fun h => absurd (UInt8.le_trans ha.1 h.2) (by decide)
  have hsecond : ¬(b < (secondRange a).1 ∨ (secondRange a).2 < b) := by
    rw [not_or, UInt8.not_lt, UInt8.not_lt]
    exact hb
  rw [decodeFrom.eq_def]
  simp only [if_neg hone, if_neg htwo, if_pos ha, if_neg hsecond, hc]
  rfl

theorem decodeFrom_four (ha : 0xF0 ≤ a ∧ a ≤ 0xF4)
    (hb : (secondRange a).1 ≤ b ∧ b ≤ (secondRange a).2) (hc : isContinuation c = true)
    (hd : isContinuation d = true) :
    decodeFrom index (a :: b :: c :: d :: rest) =
      (do return Char.ofNat ((((a.toNat % 8) * 64 + low b) * 64 + low c) * 64 + low d) ::
        (← decodeFrom (index + 4) rest)) := by
  have hone := not_lt_of_le 0xF0 (by decide) ha.1
  have htwo : ¬(0xC2 ≤ a ∧ a ≤ 0xDF) :=
    fun h => absurd (UInt8.le_trans ha.1 h.2) (by decide)
  have hthree : ¬(0xE0 ≤ a ∧ a ≤ 0xEF) :=
    fun h => absurd (UInt8.le_trans ha.1 h.2) (by decide)
  have hsecond : ¬(b < (secondRange a).1 ∨ (secondRange a).2 < b) := by
    rw [not_or, UInt8.not_lt, UInt8.not_lt]
    exact hb
  rw [decodeFrom.eq_def]
  simp only [if_neg hone, if_neg htwo, if_neg hthree, if_pos ha, if_neg hsecond, hc, hd]
  rfl

end

/-- Numbers of characters leave a gap for surrogates, and so do their second bytes. -/
theorem secondRange_three {v : Nat} (hleast : 2047 < v) (hmost : v ≤ 65535)
    (hgap : v < 0xD800 ∨ 0xDFFF < v) :
    (secondRange (UInt8.ofNat (v / 4096 % 16 + 224))).1 ≤ UInt8.ofNat (v / 64 % 64 + 128) ∧
      UInt8.ofNat (v / 64 % 64 + 128) ≤ (secondRange (UInt8.ofNat (v / 4096 % 16 + 224))).2 := by
  have ha := toNat_ofNat_byte (show v / 4096 % 16 + 224 < 256 by omega)
  unfold secondRange
  split
  next h =>
    have heq : v / 4096 % 16 + 224 = 224 := ha.symm.trans (congrArg UInt8.toNat h)
    exact byte_within 0xA0 0xBF (show 160 ≤ _ by omega) (show _ ≤ 191 by omega)
  next h =>
    split
    next h =>
      have heq : v / 4096 % 16 + 224 = 237 := ha.symm.trans (congrArg UInt8.toNat h)
      exact byte_within 0x80 0x9F (show 128 ≤ _ by omega) (show _ ≤ 159 by omega)
    next =>
      split
      next h =>
        have heq : v / 4096 % 16 + 224 = 240 := ha.symm.trans (congrArg UInt8.toNat h)
        omega
      next =>
        split
        next h =>
          have heq : v / 4096 % 16 + 224 = 244 := ha.symm.trans (congrArg UInt8.toNat h)
          omega
        next => exact byte_within 0x80 0xBF (show 128 ≤ _ by omega) (show _ ≤ 191 by omega)

theorem secondRange_four {v : Nat} (hleast : 65535 < v) (hmost : v < 0x110000) :
    (secondRange (UInt8.ofNat (v / 262144 % 8 + 240))).1 ≤ UInt8.ofNat (v / 4096 % 64 + 128) ∧
      UInt8.ofNat (v / 4096 % 64 + 128) ≤ (secondRange (UInt8.ofNat (v / 262144 % 8 + 240))).2 := by
  have ha := toNat_ofNat_byte (show v / 262144 % 8 + 240 < 256 by omega)
  unfold secondRange
  split
  next h =>
    have heq : v / 262144 % 8 + 240 = 224 := ha.symm.trans (congrArg UInt8.toNat h)
    omega
  next h =>
    split
    next h =>
      have heq : v / 262144 % 8 + 240 = 237 := ha.symm.trans (congrArg UInt8.toNat h)
      omega
    next =>
      split
      next h =>
        have heq : v / 262144 % 8 + 240 = 240 := ha.symm.trans (congrArg UInt8.toNat h)
        exact byte_within 0x90 0xBF (show 144 ≤ _ by omega) (show _ ≤ 191 by omega)
      next =>
        split
        next h =>
          have heq : v / 262144 % 8 + 240 = 244 := ha.symm.trans (congrArg UInt8.toNat h)
          exact byte_within 0x80 0x8F (show 128 ≤ _ by omega) (show _ ≤ 143 by omega)
        next => exact byte_within 0x80 0xBF (show 128 ≤ _ by omega) (show _ ≤ 191 by omega)

/-- The bytes of the character with a number. -/
def numberBytes (v : Nat) : List UInt8 :=
  if v ≤ 127 then [.ofNat v]
  else if v ≤ 2047 then [.ofNat (v / 64 % 32 + 192), .ofNat (v % 64 + 128)]
  else if v ≤ 65535 then
    [.ofNat (v / 4096 % 16 + 224), .ofNat (v / 64 % 64 + 128), .ofNat (v % 64 + 128)]
  else
    [.ofNat (v / 262144 % 8 + 240), .ofNat (v / 4096 % 64 + 128), .ofNat (v / 64 % 64 + 128),
      .ofNat (v % 64 + 128)]

theorem decodeFrom_numberBytes {v : Nat} (hv : v < 0xD800 ∨ 0xDFFF < v ∧ v < 0x110000)
    (index : Nat) (rest : List UInt8) :
    ∃ next, decodeFrom index (numberBytes v ++ rest) =
      (do return Char.ofNat v :: (← decodeFrom next rest)) := by
  unfold numberBytes
  split
  next h =>
    have ha := toNat_ofNat_byte (show v < 256 by omega)
    have hsmall : UInt8.ofNat v < 0x80 := by
      rw [UInt8.lt_iff_toNat_lt, ha]
      exact Nat.lt_succ_of_le h
    exact ⟨index + 1, (decodeFrom_one index rest hsmall).trans (by rw [ha])⟩
  next =>
    split
    next h =>
      have ha := toNat_ofNat_byte (show v / 64 % 32 + 192 < 256 by omega)
      have hfirst := byte_within 0xC2 0xDF (n := v / 64 % 32 + 192)
        (show 194 ≤ _ by omega) (show _ ≤ 223 by omega)
      have hvalue : (v / 64 % 32 + 192) % 32 * 64 + v % 64 = v := by omega
      refine ⟨index + 2, (decodeFrom_two index rest hfirst (isContinuation_continuation v)).trans ?_⟩
      rw [ha, low_continuation, hvalue]
    next =>
      split
      next h =>
        have ha := toNat_ofNat_byte (show v / 4096 % 16 + 224 < 256 by omega)
        have hfirst := byte_within 0xE0 0xEF (n := v / 4096 % 16 + 224)
          (show 224 ≤ _ by omega) (show _ ≤ 239 by omega)
        have hvalue : ((v / 4096 % 16 + 224) % 16 * 64 + v / 64 % 64) * 64 + v % 64 = v := by omega
        refine ⟨index + 3, (decodeFrom_three index rest hfirst
          (secondRange_three (by omega) h (by omega)) (isContinuation_continuation v)).trans ?_⟩
        rw [ha, low_continuation, low_continuation, hvalue]
      next h =>
        have ha := toNat_ofNat_byte (show v / 262144 % 8 + 240 < 256 by omega)
        have hfirst := byte_within 0xF0 0xF4 (n := v / 262144 % 8 + 240)
          (show 240 ≤ _ by omega) (show _ ≤ 244 by omega)
        have hvalue : (((v / 262144 % 8 + 240) % 8 * 64 + v / 4096 % 64) * 64 + v / 64 % 64) * 64 +
            v % 64 = v := by omega
        refine ⟨index + 4, (decodeFrom_four index rest hfirst (secondRange_four (by omega) (by omega))
          (isContinuation_continuation (v / 64)) (isContinuation_continuation v)).trans ?_⟩
        rw [ha, low_continuation, low_continuation, low_continuation, hvalue]

/-! ## Texts -/

theorem decodeFrom_encodeUtf8 (chars : List Char) (index : Nat) :
    decodeFrom index (encodeUtf8 chars) = .ok chars := by
  induction chars generalizing index with
  | nil => rw [encodeUtf8, List.flatMap_nil, decodeFrom.eq_def]
  | cons c chars ih =>
      obtain ⟨next, hnext⟩ := decodeFrom_numberBytes c.valid index (encodeUtf8 chars)
      have hback : Char.ofNat c.val.toNat = c := Char.ofNat_toNat c
      change decodeFrom index (numberBytes c.val.toNat ++ encodeUtf8 chars) = _
      rw [hnext, ih, hback]
      rfl

theorem decodeUtf8_encodeUtf8 (text : String) : decodeUtf8 (encodeUtf8 text.toList) = .ok text := by
  unfold decodeUtf8
  rw [decodeFrom_encodeUtf8]
  exact congrArg Except.ok String.ofList_toList

/-! ## Bytes that are decoded -/

theorem byte_eq {n : Nat} {b : UInt8} (h : n = b.toNat) : UInt8.ofNat n = b := by
  rw [h, UInt8.ofNat_toNat]

theorem toNat_of_isContinuation {b : UInt8} (h : isContinuation b = true) :
    0x80 ≤ b.toNat ∧ b.toNat ≤ 0xBF := by
  simpa [isContinuation, UInt8.le_iff_toNat_le] using h

section

variable {a b c d : UInt8}

theorem numberBytes_one (ha : a < 0x80) : a.toNat.isValidChar ∧ numberBytes a.toNat = [a] := by
  have hsmall : a.toNat < 128 := UInt8.lt_iff_toNat_lt.mp ha
  refine ⟨.inl (by omega), ?_⟩
  rw [numberBytes, if_pos (by omega), UInt8.ofNat_toNat]

theorem numberBytes_two (ha : 0xC2 ≤ a ∧ a ≤ 0xDF) (hb : isContinuation b = true) :
    ((a.toNat % 32) * 64 + low b).isValidChar ∧
      numberBytes ((a.toNat % 32) * 64 + low b) = [a, b] := by
  have hleast : 194 ≤ a.toNat := UInt8.le_iff_toNat_le.mp ha.1
  have hmost : a.toNat ≤ 223 := UInt8.le_iff_toNat_le.mp ha.2
  have hsecond := toNat_of_isContinuation hb
  unfold low
  refine ⟨.inl (by omega), ?_⟩
  rw [numberBytes, if_neg (by omega), if_pos (by omega), byte_eq (b := a) (by omega),
    byte_eq (b := b) (by omega)]

theorem toNat_secondRange (hb : (secondRange a).1 ≤ b ∧ b ≤ (secondRange a).2) :
    0x80 ≤ b.toNat ∧ b.toNat ≤ 0xBF ∧ (a.toNat = 0xE0 → 0xA0 ≤ b.toNat) ∧
      (a.toNat = 0xED → b.toNat ≤ 0x9F) ∧ (a.toNat = 0xF0 → 0x90 ≤ b.toNat) ∧
      (a.toNat = 0xF4 → b.toNat ≤ 0x8F) := by
  have hcode (n : UInt8) : a = n ↔ a.toNat = n.toNat := UInt8.toNat_inj.symm
  simp only [secondRange, hcode, UInt8.le_iff_toNat_le] at hb
  split at hb
  next h => simp at h hb; omega
  next =>
    split at hb
    next h => simp at h hb; omega
    next =>
      split at hb
      next h => simp at h hb; omega
      next =>
        split at hb
        next h => simp at h hb; omega
        next => simp_all

theorem numberBytes_three (ha : 0xE0 ≤ a ∧ a ≤ 0xEF)
    (hb : (secondRange a).1 ≤ b ∧ b ≤ (secondRange a).2) (hc : isContinuation c = true) :
    (((a.toNat % 16) * 64 + low b) * 64 + low c).isValidChar ∧
      numberBytes (((a.toNat % 16) * 64 + low b) * 64 + low c) = [a, b, c] := by
  have hleast : 224 ≤ a.toNat := UInt8.le_iff_toNat_le.mp ha.1
  have hmost : a.toNat ≤ 239 := UInt8.le_iff_toNat_le.mp ha.2
  obtain ⟨hb1, hb2, hb3, hb4, -⟩ := toNat_secondRange hb
  have hthird := toNat_of_isContinuation hc
  unfold low Nat.isValidChar
  refine ⟨by omega, ?_⟩
  rw [numberBytes, if_neg (by omega), if_neg (by omega), if_pos (by omega),
    byte_eq (b := a) (by omega), byte_eq (b := b) (by omega), byte_eq (b := c) (by omega)]

theorem numberBytes_four (ha : 0xF0 ≤ a ∧ a ≤ 0xF4)
    (hb : (secondRange a).1 ≤ b ∧ b ≤ (secondRange a).2) (hc : isContinuation c = true)
    (hd : isContinuation d = true) :
    ((((a.toNat % 8) * 64 + low b) * 64 + low c) * 64 + low d).isValidChar ∧
      numberBytes ((((a.toNat % 8) * 64 + low b) * 64 + low c) * 64 + low d) = [a, b, c, d] := by
  have hleast : 240 ≤ a.toNat := UInt8.le_iff_toNat_le.mp ha.1
  have hmost : a.toNat ≤ 244 := UInt8.le_iff_toNat_le.mp ha.2
  obtain ⟨hb1, hb2, -, -, hb3, hb4⟩ := toNat_secondRange hb
  have hthird := toNat_of_isContinuation hc
  have hfourth := toNat_of_isContinuation hd
  unfold low Nat.isValidChar
  refine ⟨by omega, ?_⟩
  rw [numberBytes, if_neg (by omega), if_neg (by omega), if_neg (by omega),
    byte_eq (b := a) (by omega), byte_eq (b := b) (by omega), byte_eq (b := c) (by omega),
    byte_eq (b := d) (by omega)]

/-- Bytes that are decoded begin with those of a character. -/
theorem exists_numberBytes {index : Nat} {rest : List UInt8} {chars : List Char}
    (h : decodeFrom index (a :: rest) = .ok chars) :
    ∃ v tail, v.isValidChar ∧ a :: rest = numberBytes v ++ tail := by
  rw [decodeFrom.eq_def] at h
  dsimp only at h
  split at h
  next ha =>
    obtain ⟨hv, hbytes⟩ := numberBytes_one ha
    exact ⟨_, rest, hv, by rw [hbytes]; rfl⟩
  next =>
    split at h
    next ha =>
      split at h
      · cases h
      next b tail =>
        split at h
        · cases h
        next hb =>
          obtain ⟨hv, hbytes⟩ := numberBytes_two ha (by simpa using hb)
          exact ⟨_, tail, hv, by rw [hbytes]; rfl⟩
    next =>
      split at h
      next ha =>
        split at h
        · cases h
        next b tail =>
          split at h
          · cases h
          next hb =>
            rw [not_or, UInt8.not_lt, UInt8.not_lt] at hb
            split at h
            · cases h
            next c tail =>
              split at h
              · cases h
              next hc =>
                obtain ⟨hv, hbytes⟩ := numberBytes_three ha hb (by simpa using hc)
                exact ⟨_, tail, hv, by rw [hbytes]; rfl⟩
      next =>
        split at h
        next ha =>
          split at h
          · cases h
          next b tail =>
            split at h
            · cases h
            next hb =>
              rw [not_or, UInt8.not_lt, UInt8.not_lt] at hb
              split at h
              · cases h
              next c tail =>
                split at h
                · cases h
                next hc =>
                  split at h
                  · cases h
                  next d tail =>
                    split at h
                    · cases h
                    next hd =>
                      obtain ⟨hv, hbytes⟩ :=
                        numberBytes_four ha hb (by simpa using hc) (by simpa using hd)
                      exact ⟨_, tail, hv, by rw [hbytes]; rfl⟩
        next => cases h

end

theorem numberBytes_ne_nil (v : Nat) : numberBytes v ≠ [] := by
  unfold numberBytes
  repeat' split
  all_goals simp

theorem encodeUtf8_of_decodeFrom {index : Nat} {bytes : List UInt8} {chars : List Char}
    (h : decodeFrom index bytes = .ok chars) : encodeUtf8 chars = bytes := by
  induction hlength : bytes.length using Nat.strongRecOn generalizing index bytes chars with
  | ind length ih =>
      cases bytes with
      | nil =>
          rw [decodeFrom.eq_def] at h
          obtain rfl := Except.ok.inj h
          rfl
      | cons a rest =>
          obtain ⟨v, tail, hv, hbytes⟩ := exists_numberBytes h
          obtain ⟨next, hnext⟩ := decodeFrom_numberBytes hv index tail
          rw [hbytes, hnext] at h
          cases htail : decodeFrom next tail with
          | error fault => rw [htail] at h; cases h
          | ok more =>
              rw [htail] at h
              obtain rfl := Except.ok.inj h
              have hshort : tail.length < length := by
                have hsome := List.length_pos_iff.mpr (numberBytes_ne_nil v)
                rw [← hlength, hbytes, List.length_append]
                omega
              have hcode : (Char.ofNat v).val.toNat = v := by
                rw [Char.ofNat, dif_pos hv]
                rfl
              rw [hbytes, ← ih _ hshort htail rfl]
              change numberBytes (Char.ofNat v).val.toNat ++ encodeUtf8 more = _
              rw [hcode]

theorem encodeUtf8_of_decodeUtf8 {bytes : List UInt8} {text : String}
    (h : decodeUtf8 bytes = .ok text) : encodeUtf8 text.toList = bytes := by
  unfold decodeUtf8 at h
  cases hchars : decodeFrom 0 bytes with
  | error fault => rw [hchars] at h; cases h
  | ok chars =>
      rw [hchars] at h
      obtain rfl := Except.ok.inj h
      rw [String.toList_ofList]
      exact encodeUtf8_of_decodeFrom hchars

theorem encodeUtf8_ne_nil {text : String} (h : text ≠ "") : encodeUtf8 text.toList ≠ [] := by
  intro hnil
  have hback := decodeUtf8_encodeUtf8 text
  rw [hnil] at hback
  exact h (Except.ok.inj hback).symm

/-- The bytes of some text. -/
def IsUtf8 (bytes : List UInt8) : Prop :=
  ∃ text : String, encodeUtf8 text.toList = bytes

theorem exists_fault_of_not_isUtf8 {bytes : List UInt8} (h : ¬IsUtf8 bytes) :
    ∃ fault, decodeUtf8 bytes = .error fault := by
  cases hdecoded : decodeUtf8 bytes with
  | error fault => exact ⟨fault, rfl⟩
  | ok text => exact absurd ⟨text, encodeUtf8_of_decodeUtf8 hdecoded⟩ h

end Text

/-- A file that holds a text is read as that text. -/
theorem Found.text?_ofText (text : String) : (Found.ofText text).text? = .ok (some text) := by
  unfold Found.ofText Found.text?
  simp only [Text.decodeUtf8_encodeUtf8]

end SchemaKeeper
