import SchemaKeeper.Proofs.Url.Parts

/-!
# IPv4 addresses

An address is less than `2 ^ 32`, and it is read back from its four bytes in
decimal.
-/

namespace SchemaKeeper.Url

variable {address : Nat}

def addressBound : Nat := 0x100000000

/-! ## Addresses that are read -/

theorem length_of_mapM {α β : Type} {f : α → Option β} {as : List α} {bs : List β}
    (h : as.mapM f = some bs) : bs.length = as.length := by
  induction as generalizing bs with
  | nil =>
      obtain rfl := Option.some.inj h
      rfl
  | cons a as ih =>
      rw [List.mapM_cons] at h
      obtain ⟨b, -, h⟩ := Option.bind_eq_some_iff.mp h
      obtain ⟨rest, hrest, h⟩ := Option.bind_eq_some_iff.mp h
      obtain rfl := Option.some.inj h
      rw [List.length_cons, List.length_cons, ih hrest]

/-- Bytes from a place on and a number that fits into the places behind them. -/
theorem foldl_bytes_lt {bytes : List Nat} {place init last : Nat} (hcount : place + bytes.length ≤ 3)
    (hlast : last < Nat.pow 256 (4 - (place + bytes.length))) (hbytes : ∀ b ∈ bytes, b ≤ 255) :
    (bytes.zipIdx place).foldl (fun n (b, i) => n + b * Nat.pow 256 (3 - i)) init + last <
      init + Nat.pow 256 (4 - place) := by
  induction bytes generalizing place init with
  | nil =>
      rw [List.zipIdx_nil, List.foldl_nil]
      exact Nat.add_lt_add_left hlast init
  | cons b bytes ih =>
      obtain ⟨hb, hbytes⟩ := List.forall_mem_cons.mp hbytes
      have hnext : place + (bytes.length + 1) = place + 1 + bytes.length := by omega
      rw [List.length_cons, hnext] at hcount hlast
      have hrest := @ih (place + 1) (init + b * Nat.pow 256 (3 - place)) hcount hlast hbytes
      have hplace : 4 - place = 3 - place + 1 := by omega
      have hpow : Nat.pow 256 (4 - place) = 256 * Nat.pow 256 (3 - place) := by
        rw [hplace, Nat.mul_comm]
        exact Nat.pow_succ 256 (3 - place)
      have hbyte := Nat.mul_le_mul_right (Nat.pow 256 (3 - place)) hb
      rw [show 4 - (place + 1) = 3 - place by omega] at hrest
      rw [List.zipIdx_cons, List.foldl_cons, hpow]
      dsimp only at hrest ⊢
      omega

/-- The parts in front are bytes, and the last one fills what they leave. -/
theorem parseIpv4_lt {name : List Char} (h : parseIpv4 name = .ok address) :
    address < addressBound := by
  unfold parseIpv4 at h
  dsimp only at h
  split at h
  · cases h
  next hcount =>
    split at h
    · cases h
    next numbers hnumbers =>
      split at h
      · cases h
      next last before hreverse =>
        split at h
        · cases h
        next hfits =>
          obtain rfl := Except.ok.inj h
          have hlength : numbers.length = before.length + 1 := by
            rw [← @List.length_reverse _ numbers, hreverse, List.length_cons]
          have hparts := length_of_mapM hnumbers
          simp only [Bool.or_eq_true, not_or, List.any_eq_true, not_exists, not_and,
            decide_eq_true_eq, ge_iff_le, Nat.not_le, Nat.not_lt, hlength,
            Nat.reduceSubDiff] at hfits
          have hsum := @foldl_bytes_lt before.reverse 0 0 last (by simp; omega)
            (by simpa using hfits.1) (by simpa using hfits.2)
          rw [Nat.zero_add] at hsum
          exact hsum

/-! ## Addresses that are written -/

def ipv4Bytes (address : Nat) : List Nat :=
  [3, 2, 1, 0].map fun i => address / Nat.pow 256 i % 256

def ipv4Parts (address : Nat) : List (List Char) :=
  (ipv4Bytes address).map (Nat.toDigits 10)

theorem toList_ipv4Text (address : Nat) :
    (ipv4Text address).toList = ['.'].intercalate (ipv4Parts address) := by
  rw [ipv4Text, String.toList_intercalate]
  simp [ipv4Parts, ipv4Bytes]

theorem forall_mem_ipv4Text {P : Char → Prop} (hdot : P '.') (hdigit : ∀ d < 10, P d.digitChar)
    (address : Nat) : ∀ c ∈ (ipv4Text address).toList, P c := by
  rw [toList_ipv4Text]
  refine forall_mem_intercalate hdot fun part hpart => ?_
  obtain ⟨n, -, rfl⟩ := List.mem_map.mp hpart
  exact forall_mem_toDigits (by decide) hdigit n

theorem isDecimal_of_mem_toDigits (n : Nat) : ∀ c ∈ Nat.toDigits 10 n, isDecimal c = true :=
  forall_mem_toDigits (by decide) (by decide) n

theorem ipv4Part_toDigits : ∀ b < 256, ipv4Part (Nat.toDigits 10 b) = some b := by
  decide +kernel

theorem splitAt_ipv4Text (address : Nat) :
    splitAt '.' (ipv4Text address).toList = ipv4Parts address := by
  rw [toList_ipv4Text]
  refine splitAt_intercalate (by simp [ipv4Parts, ipv4Bytes]) fun part hpart hdot => ?_
  obtain ⟨n, -, rfl⟩ := List.mem_map.mp hpart
  exact absurd (isDecimal_of_mem_toDigits n _ hdot) (by decide)

theorem dottedParts_ipv4Text (address : Nat) :
    dottedParts (ipv4Text address).toList = ipv4Parts address := by
  unfold dottedParts
  dsimp only
  rw [splitAt_ipv4Text, if_neg]
  simp [ipv4Parts, ipv4Bytes, Nat.toDigits_ne_nil]

theorem mapM_ipv4Parts (address : Nat) :
    (ipv4Parts address).mapM ipv4Part = some (ipv4Bytes address) := by
  have hpart (n : Nat) : ipv4Part (Nat.toDigits 10 (n % 256)) = some (n % 256) :=
    ipv4Part_toDigits _ (Nat.mod_lt _ (by decide))
  simp [ipv4Parts, ipv4Bytes, hpart]

theorem parseIpv4_ipv4Text (h : address < addressBound) :
    parseIpv4 (ipv4Text address).toList = .ok address := by
  unfold parseIpv4
  dsimp only
  rw [dottedParts_ipv4Text, if_neg (by simp [ipv4Parts, ipv4Bytes]), mapM_ipv4Parts]
  unfold addressBound at h
  have hbytes : ¬(256 ≤ address % 256 ∨ 255 < address / 256 % 256 ∨ 255 < address / 65536 % 256 ∨
      255 < address / 16777216 % 256) := by
    omega
  have hsum : address / 16777216 % 256 * 16777216 + address / 65536 % 256 * 65536 +
      address / 256 % 256 * 256 + address % 256 = address := by
    omega
  simp [ipv4Bytes, hbytes, hsum]

/-- Four bytes in decimal can be nothing but an address. -/
theorem endsInNumber_ipv4Text (address : Nat) : endsInNumber (ipv4Text address).toList = true := by
  obtain ⟨digit, digits, hlast⟩ :=
    List.exists_cons_of_ne_nil (@Nat.toDigits_ne_nil (address % 256) 10)
  have hdecimal : (digit :: digits).all isDecimal = true :=
    List.all_eq_true.mpr (hlast ▸ isDecimal_of_mem_toDigits (address % 256))
  unfold endsInNumber
  dsimp only
  rw [splitAt_ipv4Text]
  simp [ipv4Parts, ipv4Bytes, hlast, hdecimal]

end SchemaKeeper.Url
