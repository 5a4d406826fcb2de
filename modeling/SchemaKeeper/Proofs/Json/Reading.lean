import SchemaKeeper.Json.Reader
import SchemaKeeper.Proofs.Json.Document
import SchemaKeeper.Proofs.Json.Number

/-!
# What readers give

`Meets` says what a reading has to come to: something about the value and what
is left unread, or something else if there is a fault.  A reader `Gives` a
property when all its values have it, whatever the text.  So every document
that is read is well formed, nests no deeper than documents may, and all its
numbers are canonical: whole numbers that are read fit 64 bits, and doubles come
out of rounding.
-/

namespace SchemaKeeper.Json

variable {α β : Type}

/-! ## Readings -/

def Reading.Meets (good : α → List Char → Prop) (bad : Prop) : Reading α → Prop
  | .value a rest => good a rest
  | .fault _ _ => bad

theorem Reading.Meets.mono {good better : α → List Char → Prop} {bad worse : Prop}
    {reading : Reading α} (h : reading.Meets good bad)
    (hgood : ∀ a rest, good a rest → better a rest) (hbad : bad → worse) :
    reading.Meets better worse := by
  cases reading with
  | value a rest => exact hgood a rest h
  | fault f rest => exact hbad h

namespace Reader

variable {good : α → List Char → Prop} {bad : Prop}

@[simp] theorem meets_pure (a : α) (chars : List Char) :
    ((Pure.pure a : Reader α) chars).Meets good bad ↔ good a chars :=
  Iff.rfl

@[simp] theorem meets_bind {good : β → List Char → Prop} (r : Reader α) (next : α → Reader β)
    (chars : List Char) :
    ((r >>= next) chars).Meets good bad ↔
      (r chars).Meets (fun a rest => (next a rest).Meets good bad) bad := by
  change (bind r next chars).Meets good bad ↔ _
  unfold bind
  cases r chars <;> exact Iff.rfl

@[simp] theorem meets_failHere (problem : Problem) (chars : List Char) :
    ((failHere problem : Reader α) chars).Meets good bad ↔ bad :=
  Iff.rfl

@[simp] theorem meets_failAhead (problem : Problem) (chars : List Char) :
    ((failAhead problem : Reader α) chars).Meets good bad ↔ bad :=
  Iff.rfl

@[simp] theorem meets_peek {good : Option Char → List Char → Prop} (chars : List Char) :
    (peek chars).Meets good bad ↔ good chars.head? chars :=
  Iff.rfl

@[simp] theorem meets_skip {good : Unit → List Char → Prop} (chars : List Char) :
    (skip chars).Meets good bad ↔ good () chars.tail :=
  Iff.rfl

@[simp] theorem meets_peekSolid {good : Option Char → List Char → Prop} (chars : List Char) :
    (peekSolid chars).Meets good bad ↔
      good (chars.dropWhile isBlank).head? (chars.dropWhile isBlank) :=
  Iff.rfl

@[simp] theorem meets_digits {good : List Char → List Char → Prop} (chars : List Char) :
    (digits chars).Meets good bad ↔
      good (chars.takeWhile isDigit) (chars.dropWhile isDigit) :=
  Iff.rfl

@[simp] theorem meets_steps {good : Nat → List Char → Prop} (chars : List Char) :
    (steps chars).Meets good bad ↔ good (chars.length + 1) chars :=
  Iff.rfl

theorem meets_ite {c : Prop} [Decidable c] {r s : Reader α} {chars : List Char}
    (hr : c → (r chars).Meets good bad) (hs : ¬c → (s chars).Meets good bad) :
    ((if c then r else s) chars).Meets good bad := by
  split
  next h => exact hr h
  next h => exact hs h

theorem meets_closedBy {body : Reader α} {close : Reader Unit} {chars : List Char}
    (h : (body chars).Meets (fun a rest => (close rest).Meets (fun _ rest => good a rest) bad) bad) :
    (closedBy body close chars).Meets good bad := by
  unfold closedBy
  cases hbody : body chars with
  | value a rest =>
      rw [hbody] at h
      cases hclose : close rest with
      | value u left => simpa [Reading.Meets, hclose] using h
      | fault f left => simpa [Reading.Meets, hclose] using h
  | fault f rest =>
      rw [hbody] at h
      cases hclose : close rest <;> simpa [Reading.Meets, hclose] using h

/-! ## Properties of all values -/

def Gives (P : α → Prop) (r : Reader α) : Prop :=
  ∀ chars, (r chars).Meets (fun a _ => P a) True

variable {P : α → Prop}

theorem Gives.mono {Q : α → Prop} {r : Reader α} (h : r.Gives P) (himp : ∀ a, P a → Q a) :
    r.Gives Q :=
  fun chars => (h chars).mono (fun a _ => himp a) id

theorem gives_pure {a : α} (h : P a) : (Pure.pure a : Reader α).Gives P :=
  fun _ => h

theorem gives_bind {Q : β → Prop} {r : Reader β} {next : β → Reader α} (hr : r.Gives Q)
    (hnext : ∀ b, Q b → (next b).Gives P) : (r >>= next).Gives P := by
  intro chars
  rw [meets_bind]
  exact (hr chars).mono (fun b rest hb => hnext b hb rest) id

theorem gives_top (r : Reader α) : r.Gives fun _ => True := by
  intro chars
  cases h : r chars <;> simp [Reading.Meets]

/-- What was read first says nothing about the value. -/
theorem gives_after {r : Reader β} {next : β → Reader α} (h : ∀ b, (next b).Gives P) :
    (r >>= next).Gives P :=
  gives_bind (gives_top r) fun b _ => h b

theorem gives_failHere (problem : Problem) : (failHere problem : Reader α).Gives P :=
  fun _ => trivial

theorem gives_failAhead (problem : Problem) : (failAhead problem : Reader α).Gives P :=
  fun _ => trivial

theorem gives_ite {c : Prop} [Decidable c] {r s : Reader α} (hr : c → r.Gives P)
    (hs : ¬c → s.Gives P) : (if c then r else s).Gives P := by
  split
  next h => exact hr h
  next h => exact hs h

theorem gives_closedBy {body : Reader α} {close : Reader Unit} (h : body.Gives P) :
    (closedBy body close).Gives P := by
  intro chars
  refine meets_closedBy ((h chars).mono (fun a rest ha => ?_) id)
  exact (gives_top close rest).mono (fun _ _ _ => ha) id

/-! ## Numbers -/

/-- A significand never outgrows its bound. -/
theorem append_lt {significand : Nat} (h : significand < significandBound) (ds : List Char) :
    (Scaled.append significand ds).1 < significandBound := by
  induction ds generalizing significand with
  | nil => exact h
  | cons d ds ih =>
      simp only [Scaled.append]
      split
      next hlonger => exact ih hlonger
      next => exact h

def IsDouble (n : Number) : Prop :=
  ∃ x, n = .double x

theorem natAbs_significand_le {significand : Nat} (h : significand < significandBound) :
    (significand : Int).natAbs ≤ 2 ^ 64 := by
  simp only [significandBound] at h
  omega

theorem canonical_div_powerOfTen {x y : Double} {power : Nat}
    (h : (Double.powerOfTen power).bind x.div = some y) : y.Canonical := by
  obtain ⟨ten, hten, hdivided⟩ := Option.bind_eq_some_iff.mp h
  exact Double.canonical_div (Double.powerOfTen_ne_zero hten) hdivided

-- The power of ten is closed and would be computed on the way.
attribute [local irreducible] Double.powerOfTen in
theorem divideByPower_succ (x : Double) (fuel power : Nat) :
    divideByPower x (fuel + 1) power =
      if power ≤ 308 then (Double.powerOfTen power).bind x.div
      else if x.isZero then some x
      else
        match (Double.powerOfTen 308).bind x.div with
        | some y => divideByPower y fuel (power - 308)
        | none => none :=
  rfl

theorem canonical_divideByPower {x y : Double} (hx : x.Canonical) {fuel power : Nat}
    (h : divideByPower x fuel power = some y) : y.Canonical := by
  induction fuel generalizing x power with
  | zero => exact Option.some.inj h ▸ hx
  | succ fuel ih =>
      rw [divideByPower_succ] at h
      by_cases hsmall : power ≤ 308
      · rw [if_pos hsmall] at h
        exact canonical_div_powerOfTen h
      · rw [if_neg hsmall] at h
        by_cases hzero : x.isZero = true
        · rw [if_pos hzero] at h
          exact Option.some.inj h ▸ hx
        · rw [if_neg hzero] at h
          cases hz : (Double.powerOfTen 308).bind x.div with
          | none =>
              rw [hz] at h
              cases h
          | some z =>
              rw [hz] at h
              exact ih (canonical_div_powerOfTen hz) h

theorem canonical_toDouble {s : Scaled} (hs : s.significand < significandBound) {x : Double}
    (h : s.toDouble = some x) : x.Canonical := by
  have hwhole := (Double.ofInt_nearest (natAbs_significand_le hs)).1
  simp only [Scaled.toDouble] at h
  split at h
  · exact canonical_divideByPower hwhole h
  · split at h
    · obtain ⟨ten, -, hproduct⟩ := Option.bind_eq_some_iff.mp h
      exact Double.canonical_mul hproduct
    · split at h
      · exact Option.some.inj h ▸ hwhole
      · cases h

theorem canonical_wholeNumber {significand : Nat} (h : significand < significandBound)
    (negative : Bool) : (wholeNumber negative significand).Canonical := by
  have hwhole := (Double.ofInt_nearest (natAbs_significand_le h)).1
  simp only [significandBound] at h
  unfold wholeNumber
  split
  · split
    · exact hwhole.withSign true
    · simp only [Number.Canonical, Number.leastInteger, Number.integerBound]
      omega
  · simp only [Number.Canonical, Number.leastInteger, Number.integerBound]
    omega

/-- A double, and a canonical one if its significand was in bounds. -/
structure FromSignificand (significand : Nat) (n : Number) : Prop where
  isDouble : IsDouble n
  canonical : significand < significandBound → n.Canonical

theorem gives_finishDouble (negative : Bool) (s : Scaled) :
    (finishDouble negative s).Gives (FromSignificand s.significand) := by
  unfold finishDouble
  split
  next hx => exact gives_pure ⟨⟨_, rfl⟩, fun h => (canonical_toDouble h hx).withSign negative⟩
  next => exact gives_failHere _

theorem gives_exponentTail (negative : Bool) (s : Scaled) :
    (exponentTail negative s).Gives (FromSignificand s.significand) := by
  unfold exponentTail
  refine gives_after fun downward => gives_after fun ds => ?_
  split
  · refine gives_after fun next => ?_
    split
    · exact gives_failHere _
    · exact gives_failAhead _
  · split
    · exact gives_finishDouble negative _
    · refine gives_ite (fun _ _ => trivial) fun _ => gives_pure ⟨⟨_, rfl⟩, fun _ => ?_⟩
      exact (Double.canonical_zero false).withSign negative

theorem gives_fractionTail (negative : Bool) (s : Scaled) :
    (fractionTail negative s).Gives (FromSignificand s.significand) := by
  unfold fractionTail
  refine gives_after fun ds => ?_
  split
  · refine gives_after fun next => ?_
    split <;> exact gives_failAhead _
  · have hlonger (n : Number) (h : FromSignificand (Scaled.append s.significand ds).1 n) :
        FromSignificand s.significand n :=
      ⟨h.isDouble, fun hs => h.canonical (append_lt hs ds)⟩
    refine gives_after fun next => gives_ite (fun _ => gives_after fun _ => ?_) fun _ => ?_
    · exact (gives_exponentTail negative _).mono hlonger
    · exact (gives_finishDouble negative _).mono hlonger

theorem gives_numberTail {s : Scaled} (h : s.significand < significandBound) (negative long : Bool) :
    (numberTail negative s long).Gives Number.Canonical := by
  have hcanonical (n : Number) (hn : FromSignificand s.significand n) : n.Canonical :=
    hn.canonical h
  unfold numberTail
  refine gives_after fun next => gives_ite (fun _ => ?_) fun _ => gives_ite (fun _ => ?_) fun _ =>
    gives_ite (fun _ => (gives_finishDouble negative s).mono hcanonical) fun _ =>
      gives_pure (canonical_wholeNumber h negative)
  · exact gives_after fun _ => (gives_fractionTail negative s).mono hcanonical
  · exact gives_after fun _ => (gives_exponentTail negative s).mono hcanonical

theorem gives_numberAfterSign (negative : Bool) :
    (numberAfterSign negative).Gives Number.Canonical := by
  unfold numberAfterSign
  refine gives_after fun first => ?_
  have hzero : (0 : Nat) < significandBound := by decide
  split
  · exact gives_failHere _
  · refine gives_ite (fun _ => gives_after fun _ => gives_after fun next => ?_) fun _ =>
      gives_ite (fun _ => gives_after fun ds => ?_) fun _ => gives_failAhead _
    · split
      · exact gives_ite (fun _ => gives_failAhead _) fun _ => gives_numberTail hzero _ _
      · exact gives_numberTail hzero _ _
    · exact gives_numberTail (append_lt hzero ds) _ _

theorem gives_number : number.Gives Number.Canonical := by
  intro chars
  unfold number
  split <;> exact gives_numberAfterSign _ _

/-! ## Values -/

theorem gives_items {item : Reader α} (h : item.Gives P) (fuel : Nat) (first : Bool) :
    (items item fuel first).Gives fun as => ∀ a ∈ as, P a := by
  induction fuel generalizing first with
  | zero => exact gives_pure (by simp)
  | succ fuel ih =>
      unfold items
      refine gives_after fun more => gives_ite (fun _ => ?_) fun _ => gives_pure (by simp)
      refine gives_bind h fun a ha => gives_bind (ih false) fun as has => gives_pure ?_
      exact List.forall_mem_cons.mpr ⟨ha, has⟩

theorem gives_members {member : String → β → Reader β} {P : β → Prop}
    (h : ∀ key state, P state → (member key state).Gives P) (fuel : Nat) (first : Bool)
    {state : β} (hstate : P state) : (members member fuel first state).Gives P := by
  induction fuel generalizing first state with
  | zero => exact gives_pure hstate
  | succ fuel ih =>
      unfold members
      refine gives_after fun more => gives_ite (fun _ => ?_) fun _ => gives_pure hstate
      exact gives_after fun k => gives_bind (h k state hstate) fun next hnext => ih false hnext

/-- What is neither a list nor an object nests nothing. -/
theorem gives_scalar (c : Char) :
    (scalar c).Gives fun v => v.AllNumbers Number.Canonical ∧ v.depth = 0 := by
  unfold scalar
  refine gives_ite (fun _ => gives_after fun _ => gives_after fun _ => gives_pure ⟨trivial, rfl⟩)
    fun _ => ?_
  refine gives_ite (fun _ => gives_after fun _ => gives_after fun _ => gives_pure ⟨trivial, rfl⟩)
    fun _ => ?_
  refine gives_ite (fun _ => gives_after fun _ => gives_after fun _ => gives_pure ⟨trivial, rfl⟩)
    fun _ => ?_
  refine gives_ite (fun _ => gives_after fun _ => gives_after fun _ => gives_pure ⟨trivial, rfl⟩)
    fun _ => ?_
  exact gives_ite (fun _ => gives_bind gives_number fun n hn => gives_pure ⟨hn, rfl⟩)
    fun _ => gives_failAhead _

/-- One level: what holds of the values inside decides what holds of the value. -/
theorem gives_treeOf {inner : Option (Reader Json)} {Inner Outer : Json → Prop}
    (hinner : ∀ value ∈ inner, value.Gives Inner)
    (hscalar : ∀ v : Json, v.AllNumbers Number.Canonical ∧ v.depth = 0 → Outer v)
    (harray : inner ≠ none → ∀ items, (∀ item ∈ items, Inner item) → Outer (.array items))
    (hobject : inner ≠ none →
      ∀ fields, (∀ field ∈ fields, Inner field.2) → Outer (.object fields)) :
    (treeOf inner).Gives Outer := by
  unfold treeOf
  refine gives_after fun next => ?_
  split
  · exact gives_failAhead _
  next c =>
    refine gives_ite (fun _ => ?_) fun _ => gives_ite (fun _ => ?_) fun _ =>
      (gives_scalar c).mono hscalar
    · split
      · exact gives_failAhead _
      next value =>
        refine gives_bind (gives_after fun _ => gives_closedBy (gives_after fun fuel =>
          gives_items (hinner value rfl) fuel true)) fun items hitems => gives_pure ?_
        exact harray (by simp) items hitems
    · split
      · exact gives_failAhead _
      next value =>
        refine gives_bind (gives_after fun _ => gives_closedBy (gives_after fun fuel =>
          gives_members (P := fun done : List (String × Json) => ∀ field ∈ done, Inner field.2)
            (fun key done hdone => gives_after fun _ => gives_bind (hinner value rfl) fun v hv =>
              gives_pure (List.forall_mem_cons.mpr ⟨hv, hdone⟩)) fuel true (by simp)))
          fun done hdone => gives_pure ?_
        exact hobject (by simp) _ fun field hfield => hdone field (List.mem_reverse.mp hfield)

theorem gives_tree (levels : Nat) :
    (tree levels).Gives fun v => v.AllNumbers Number.Canonical ∧ v.depth ≤ levels := by
  induction levels with
  | zero =>
      have hinner : ∀ value ∈ (none : Option (Reader Json)), value.Gives fun _ => True := by simp
      exact gives_treeOf hinner (fun v hv => ⟨hv.1, hv.2.le⟩) (fun hnone => absurd rfl hnone)
        fun hnone => absurd rfl hnone
  | succ levels ih =>
      refine gives_treeOf (fun value hvalue => Option.some.inj hvalue ▸ ih)
        (fun v hv => ⟨hv.1, hv.2 ▸ Nat.zero_le _⟩) (fun _ items hitems => ⟨?_, ?_⟩)
        fun _ fields hfields => ⟨?_, ?_⟩
      · exact allNumbers_array.mpr fun item hitem => (hitems item hitem).1
      · exact Nat.succ_le_succ (depthItems_le_iff.mpr fun item hitem => (hitems item hitem).2)
      · exact allNumbers_object.mpr fun field hfield => (hfields field hfield).1
      · exact Nat.succ_le_succ (depthFields_le_iff.mpr fun field hfield => (hfields field hfield).2)

/-! ## Documents -/

/-- What every document that is read can be relied on for. -/
structure Sound (v : Json) : Prop where
  wellFormed : v.wellFormed
  canonical : v.AllNumbers Number.Canonical
  shallow : v.depth ≤ nestingLimit

theorem gives_document : document.Gives Sound :=
  gives_bind (gives_tree nestingLimit) fun v hv => gives_pure {
    wellFormed := wellFormed_normalize (hv.1.mono fun _ => Number.Canonical.inRange)
    canonical := allNumbers_normalize hv.1
    shallow := Nat.le_trans (depth_normalize_le v) hv.2 }

theorem of_run_eq_ok {r : Reader α} {text : String} {bad : Prop}
    (h : (r text.toList).Meets (fun a _ => P a) bad) {a : α} (hrun : r.run text = .ok a) : P a := by
  unfold run at hrun
  cases hread : r text.toList with
  | fault f rest => simp [hread] at hrun
  | value b rest =>
      rw [hread] at h
      simp only [hread] at hrun
      cases hend : peekSolid rest with
      | fault f left => simp [hend] at hrun
      | value next left =>
          cases next with
          | none =>
              simp only [hend, Except.ok.injEq] at hrun
              exact hrun ▸ h
          | some c => simp [hend, failAhead] at hrun

/-- A reader that stops at the end of a text decides what the whole text is read as. -/
theorem run_cases {r : Reader α} {text : String} {bad : Prop}
    (h : (r text.toList).Meets (fun a left => left = [] ∧ P a) bad) :
    (∃ a, r.run text = .ok a ∧ P a) ∨ (∃ e, r.run text = .error e) ∧ bad := by
  unfold run
  dsimp only
  cases hread : r text.toList with
  | value a left =>
      rw [hread] at h
      obtain ⟨rfl, ha⟩ := h
      exact .inl ⟨a, rfl, ha⟩
  | fault f left =>
      rw [hread] at h
      exact .inr ⟨⟨_, rfl⟩, h⟩

end Reader

theorem sound_of_parse {text : String} {v : Json} (h : parse text = .ok v) : Reader.Sound v :=
  Reader.of_run_eq_ok (Reader.gives_document text.toList) h

/-- Every document that is read is well formed. -/
theorem wellFormed_of_parse {text : String} {v : Json} (h : parse text = .ok v) : v.wellFormed :=
  (sound_of_parse h).wellFormed

theorem canonical_of_parse {text : String} {v : Json} (h : parse text = .ok v) :
    v.AllNumbers Number.Canonical :=
  (sound_of_parse h).canonical

/-- No document that is read nests deeper than documents may. -/
theorem depth_of_parse {text : String} {v : Json} (h : parse text = .ok v) :
    v.depth ≤ Reader.nestingLimit :=
  (sound_of_parse h).shallow

end SchemaKeeper.Json
