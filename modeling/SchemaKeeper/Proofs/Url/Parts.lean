import SchemaKeeper.Url.Host

/-!
# Parts of hosts

Numbers are read from their digits, and texts are split where they were joined.
-/

namespace SchemaKeeper.Url

/-! ## Digits -/

section Digits

variable {base : Nat}

theorem forall_mem_toDigits (hbase : 1 < base) {P : Char → Prop}
    (hP : ∀ d < base, P d.digitChar) (n : Nat) : ∀ c ∈ Nat.toDigits base n, P c := by
  induction n using Nat.strongRecOn with
  | ind n ih =>
      rw [Nat.toDigits_eq_if hbase]
      split
      next hsmall => simpa using hP n hsmall
      next hlarge =>
        have hless : n / base < n := Nat.div_lt_self (by omega) hbase
        simp only [List.mem_append, List.mem_singleton]
        rintro c (hc | rfl)
        · exact ih _ hless c hc
        · exact hP _ (Nat.mod_lt _ (by omega))

theorem digitValue_digitChar : ∀ d < 16, digitValue d.digitChar = d := by
  decide

theorem valueOf_toDigits (hbase : 1 < base) (hmost : base ≤ 16) (n : Nat) :
    valueOf base (Nat.toDigits base n) = n := by
  induction n using Nat.strongRecOn with
  | ind n ih =>
      rw [Nat.toDigits_eq_if hbase]
      split
      next hsmall => simp [valueOf, digitValue_digitChar n (by omega)]
      next hlarge =>
        have hless : n / base < n := Nat.div_lt_self (by omega) hbase
        have hlast := digitValue_digitChar (n % base)
          (Nat.lt_of_lt_of_le (Nat.mod_lt _ (by omega)) hmost)
        have hfront := ih _ hless
        unfold valueOf at hfront ⊢
        rw [List.foldl_append, hfront, List.foldl_cons, List.foldl_nil, hlast]
        exact Nat.div_add_mod' n base

end Digits

/-! ## Separators -/

section Splitting

variable {separator : Char} {part : List Char}

theorem splitAt_of_not_mem (h : separator ∉ part) : splitAt separator part = [part] := by
  induction part with
  | nil => rfl
  | cons c rest ih =>
      simp only [List.mem_cons, not_or] at h
      simp [splitAt, ih h.2, Ne.symm h.1]

theorem exists_splitAt (separator : Char) (chars : List Char) :
    ∃ first others, splitAt separator chars = first :: others := by
  cases chars with
  | nil => exact ⟨[], [], rfl⟩
  | cons c rest =>
      simp only [splitAt]
      split
      · split <;> exact ⟨_, _, rfl⟩
      · exact ⟨_, _, rfl⟩

theorem splitAt_append_cons (h : separator ∉ part) (rest : List Char) :
    splitAt separator (part ++ separator :: rest) = part :: splitAt separator rest := by
  induction part with
  | nil =>
      obtain ⟨first, others, hrest⟩ := exists_splitAt separator rest
      simp [splitAt, hrest]
  | cons c part ih =>
      simp only [List.mem_cons, not_or] at h
      simp [splitAt, ih h.2, Ne.symm h.1]

theorem splitAt_append_flatMap {parts : List (List Char)} (h : separator ∉ part)
    (hparts : ∀ next ∈ parts, separator ∉ next) :
    splitAt separator (part ++ parts.flatMap (separator :: ·)) = part :: parts := by
  induction parts generalizing part with
  | nil => simpa using splitAt_of_not_mem h
  | cons next parts ih =>
      rw [List.flatMap_cons, List.cons_append, splitAt_append_cons h,
        ih (hparts next (by simp)) fun later hlater => hparts later (by simp [hlater])]

theorem splitAt_intercalate {parts : List (List Char)} (hne : parts ≠ [])
    (h : ∀ next ∈ parts, separator ∉ next) :
    splitAt separator ([separator].intercalate parts) = parts := by
  induction parts with
  | nil => contradiction
  | cons first parts ih =>
      obtain ⟨hfirst, hparts⟩ := List.forall_mem_cons.mp h
      cases parts with
      | nil => simpa using splitAt_of_not_mem hfirst
      | cons next parts =>
          rw [List.intercalate_cons_cons, List.append_assoc, List.singleton_append,
            splitAt_append_cons hfirst, ih (by simp) hparts]

theorem forall_mem_intercalate {P : Char → Prop} (hseparator : P separator)
    {parts : List (List Char)} (h : ∀ part ∈ parts, ∀ c ∈ part, P c) :
    ∀ c ∈ [separator].intercalate parts, P c := by
  induction parts with
  | nil => simp
  | cons first parts ih =>
      obtain ⟨hfirst, hparts⟩ := List.forall_mem_cons.mp h
      cases parts with
      | nil => simpa using hfirst
      | cons next parts =>
          rw [List.intercalate_cons_cons, List.forall_mem_append, List.forall_mem_append,
            List.forall_mem_singleton]
          exact ⟨⟨hfirst, hseparator⟩, ih hparts⟩

end Splitting

end SchemaKeeper.Url
