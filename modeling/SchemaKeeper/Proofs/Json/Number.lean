import SchemaKeeper.Json
import SchemaKeeper.Proofs.Double

/-!
# Numbers by value

Every number stands for a rational number.  Signed words are told apart exactly;
any other pair is compared by the nearest doubles, so two numbers count as the same
when they are, and besides when they are confused: of different value, not both
signed words, and with one nearest double.
-/

namespace SchemaKeeper.Number

variable {m n : Number}

def value : Number → ℚ
  | .integer n => n
  | .double x => x.value

/-- A number as texts give it: a whole number of 64 bits or a canonical double. -/
def Canonical : Number → Prop
  | .integer n => leastInteger ≤ n ∧ n < integerBound
  | .double x => x.Canonical

def IsSigned : Number → Prop
  | .integer n => n < signedBound
  | .double _ => False

/-- Different numbers that a comparison by nearest doubles cannot tell apart. -/
structure Confused (m n : Number) : Prop where
  differ : m.value ≠ n.value
  unsigned : ¬(m.IsSigned ∧ n.IsSigned)
  rounded : m.toDouble.value = n.toDouble.value

theorem Canonical.inRange (h : n.Canonical) : n.inRange := by
  cases n with
  | integer n => exact h
  | double x => trivial

theorem Canonical.natAbs_le {n : Int} (h : (integer n).Canonical) : n.natAbs ≤ 2 ^ 64 := by
  simp only [Canonical, leastInteger, integerBound] at h
  omega

theorem nearest_toDouble (h : n.Canonical) :
    n.toDouble.Canonical ∧ Double.Nearest n.value n.toDouble := by
  cases n with
  | integer n => exact Double.ofInt_nearest h.natAbs_le
  | double x =>
      have hown : |x.value - x.value| = 0 := by rw [sub_self, abs_zero]
      refine ⟨h, fun y _ => hown.trans_le (abs_nonneg _), fun y _ heq hne => absurd ?_ hne⟩
      exact sub_eq_zero.mp (abs_eq_zero.mp (heq.symm.trans hown))

theorem value_toDouble_of_value_eq {x : Double} (hn : n.Canonical) (hx : x.Canonical)
    (h : n.value = x.value) : n.toDouble.value = x.value :=
  ((nearest_toDouble hn).2.value_eq hx.toFits h.symm).trans h

theorem toDouble_congr (hm : m.Canonical) (hn : n.Canonical) (h : m.value = n.value) :
    m.toDouble.value = n.toDouble.value := by
  cases n with
  | double y => exact value_toDouble_of_value_eq hm hn h
  | integer j =>
      cases m with
      | double x => exact (value_toDouble_of_value_eq hn hm h.symm).symm
      | integer i => rw [(Int.cast_injective h : i = j)]

/-- Two numbers count as the same when they are or when they are confused. -/
theorem sameValue_iff (hm : m.Canonical) (hn : n.Canonical) :
    m.sameValue n = true ↔ m.value = n.value ∨ Confused m n := by
  have hdoubles : m.toDouble.sameValue n.toDouble = true ↔ m.toDouble.value = n.toDouble.value :=
    Double.sameValue_iff (nearest_toDouble hm).1 (nearest_toDouble hn).1
  have hrounded (hunsigned : ¬(m.IsSigned ∧ n.IsSigned)) :
      m.toDouble.value = n.toDouble.value ↔ m.value = n.value ∨ Confused m n := by
    constructor
    · intro h
      by_cases hvalue : m.value = n.value
      · exact .inl hvalue
      · exact .inr ⟨hvalue, hunsigned, h⟩
    · rintro (h | h)
      · exact toDouble_congr hm hn h
      · exact h.rounded
  -- signed words are compared exactly, and are never confused
  by_cases hsigned : m.IsSigned ∧ n.IsSigned
  · cases m with
    | double x => exact hsigned.1.elim
    | integer i =>
        cases n with
        | double y => exact hsigned.2.elim
        | integer j =>
            have hexact : (integer i).sameValue (integer j) = (i == j) := if_pos hsigned
            rw [hexact, beq_iff_eq]
            constructor
            · rintro rfl
              exact .inl rfl
            · rintro (h | h)
              · exact Int.cast_injective h
              · exact absurd hsigned h.unsigned
  · have hcompared : m.sameValue n = m.toDouble.sameValue n.toDouble := by
      cases m with
      | double x => rfl
      | integer i =>
          cases n with
          | double y => rfl
          | integer j => exact if_neg hsigned
    rw [hcompared, hdoubles, hrounded hsigned]

theorem sameValue_comm (m n : Number) : m.sameValue n = n.sameValue m := by
  have hdoubles (x y : Double) : x.sameValue y = y.sameValue x := by
    simp only [Double.sameValue, Bool.and_comm x.isZero, Bool.beq_comm (a := x)]
  cases m with
  | double x => cases n <;> exact hdoubles _ _
  | integer i =>
      cases n with
      | double y => exact hdoubles _ _
      | integer j => simp only [sameValue, and_comm, Bool.beq_comm (a := i), hdoubles (.ofInt i)]

/-- Doubles, and whole numbers up to the length of a mantissa, are not confused. -/
theorem not_confused_of_small (hm : ∀ i, m = .integer i → i.natAbs ≤ 2 ^ Double.precision)
    (hn : ∀ i, n = .integer i → i.natAbs ≤ 2 ^ Double.precision) : ¬Confused m n := by
  have hexact {k : Number} (hk : ∀ i, k = .integer i → i.natAbs ≤ 2 ^ Double.precision) :
      k.toDouble.value = k.value := by
    cases k with
    | double x => rfl
    | integer i => exact Double.value_ofInt_of_le (hk i rfl)
  intro h
  exact h.differ (by rw [← hexact hm, ← hexact hn, h.rounded])

end SchemaKeeper.Number
