import SchemaKeeper.Proofs.Json.Reading

/-!
# Equality of documents

Two documents match when arrays are alike item by item, objects have the same keys
and are alike under each of them, and numbers in the same place are related.  The
comparison that convergence uses is such a matching, so it inherits symmetry from
the comparison of numbers, but not transitivity.  It is equality by value on
exactly those sets of numbers of which no two are confused.
-/

namespace SchemaKeeper.Json

/-! ## Matching documents -/

/-- Arrays in order, objects by key, and numbers as a relation has it. -/
inductive Matches (R : Number → Number → Prop) : Json → Json → Prop where
  | null : Matches R .null .null
  | bool (b : Bool) : Matches R (.bool b) (.bool b)
  | number {m n : Number} (h : R m n) : Matches R (.number m) (.number n)
  | string (s : String) : Matches R (.string s) (.string s)
  | array {as bs : List Json} (length : as.length = bs.length)
      (items : ∀ (i : Nat) (a b : Json), as[i]? = some a → bs[i]? = some b → Matches R a b) :
      Matches R (.array as) (.array bs)
  | object {as bs : List (String × Json)}
      (keys : ∀ key, key ∈ Entries.keys as ↔ key ∈ Entries.keys bs)
      (members : ∀ key a b, as.lookup key = some a → bs.lookup key = some b → Matches R a b) :
      Matches R (.object as) (.object bs)

/-- The same document, its numbers compared by value. -/
def SameDocument : Json → Json → Prop :=
  Matches fun m n => m.value = n.value

/-- A document all of whose numbers belong to a set. -/
structure Over (N : Number → Prop) (v : Json) : Prop where
  wellFormed : v.wellFormed
  numbers : v.AllNumbers N

namespace Matches

variable {R S : Number → Number → Prop} {a b c : Json}

theorem refl (hR : ∀ n, R n n) (a : Json) : Matches R a a := by
  induction a using memInduction with
  | null => exact .null
  | bool b => exact .bool b
  | number n => exact .number (hR n)
  | string s => exact .string s
  | array items ih =>
      refine .array rfl fun i a b ha hb => ?_
      obtain rfl := Option.some.inj (ha.symm.trans hb)
      exact ih a (List.mem_of_getElem? ha)
  | object fields ih =>
      refine .object (fun _ => Iff.rfl) fun key a b ha hb => ?_
      obtain rfl := Option.some.inj (ha.symm.trans hb)
      exact ih _ (Entries.mem_of_lookup ha)

theorem symm (h : Matches R a b) (hR : ∀ m n, R m n → R n m) : Matches R b a := by
  induction h with
  | null => exact .null
  | bool b => exact .bool b
  | number h => exact .number (hR _ _ h)
  | string s => exact .string s
  | array length _ ih => exact .array length.symm fun i b a hb ha => ih i a b ha hb
  | object keys _ ih =>
      exact .object (fun key => (keys key).symm) fun key b a hb ha => ih key a b ha hb

theorem trans (hab : Matches R a b) (hbc : Matches R b c)
    (hR : ∀ m n k, R m n → R n k → R m k) : Matches R a c := by
  induction hab generalizing c with
  | null => exact hbc
  | bool b => exact hbc
  | number h =>
      cases hbc with
      | number h' => exact .number (hR _ _ _ h h')
  | string s => exact hbc
  | @array as bs length _ ih =>
      cases hbc with
      | @array _ cs length' items' =>
          refine .array (length.trans length') fun i a c ha hc => ?_
          have hi : i < bs.length := length ▸ (List.getElem?_eq_some_iff.mp ha).1
          have hb : bs[i]? = some bs[i] := List.getElem?_eq_getElem hi
          exact ih i a bs[i] ha hb (items' i bs[i] c hb hc)
  | @object as bs keys _ ih =>
      cases hbc with
      | @object _ cs keys' members' =>
          refine .object (fun key => (keys key).trans (keys' key)) fun key a c ha hc => ?_
          obtain ⟨b, hb⟩ := Entries.mem_keys_iff.mp
            ((keys key).mp (Entries.mem_keys_iff.mpr ⟨a, ha⟩))
          exact ih key a b ha hb (members' key b c hb hc)

theorem mono {N : Number → Prop} (h : Matches R a b) (ha : a.AllNumbers N) (hb : b.AllNumbers N)
    (himp : ∀ m n, N m → N n → R m n → S m n) : Matches S a b := by
  induction h with
  | null => exact .null
  | bool b => exact .bool b
  | number h => exact .number (himp _ _ ha hb h)
  | string s => exact .string s
  | array length _ ih =>
      refine .array length fun i a b hitem hother => ih i a b hitem hother ?_ ?_
      · exact allNumbers_array.mp ha a (List.mem_of_getElem? hitem)
      · exact allNumbers_array.mp hb b (List.mem_of_getElem? hother)
  | object keys _ ih =>
      refine .object keys fun key a b hmember hother => ih key a b hmember hother ?_ ?_
      · exact allNumbers_object.mp ha _ (Entries.mem_of_lookup hmember)
      · exact allNumbers_object.mp hb _ (Entries.mem_of_lookup hother)

theorem lookup {as bs : List (String × Json)} {key : String}
    (h : Matches R (.object as) (.object bs)) (ha : as.lookup key = some a) :
    ∃ b, bs.lookup key = some b ∧ Matches R a b := by
  cases h with
  | object keys members =>
      obtain ⟨b, hb⟩ := Entries.mem_keys_iff.mp ((keys key).mp (Entries.mem_keys_iff.mpr ⟨a, ha⟩))
      exact ⟨b, hb, members key a b ha hb⟩

theorem fields? {as : List (String × Json)} (h : Matches R a b) (ha : a.fields? = some as) :
    ∃ bs, b.fields? = some bs ∧ Matches R (.object as) (.object bs) := by
  cases h with
  | null | bool | number | string | array => cases ha
  | object keys members =>
      obtain rfl := Option.some.inj ha
      exact ⟨_, rfl, .object keys members⟩

theorem field? {key : String} (h : Matches R a b) (hc : a.field? key = some c) :
    ∃ d, b.field? key = some d ∧ Matches R c d := by
  obtain ⟨as, ha, hlookup⟩ := Option.bind_eq_some_iff.mp hc
  obtain ⟨bs, hb, hobjects⟩ := h.fields? ha
  obtain ⟨d, hd, hmatch⟩ := hobjects.lookup hlookup
  exact ⟨d, Option.bind_eq_some_iff.mpr ⟨bs, hb, hd⟩, hmatch⟩

end Matches

theorem equivalence_sameDocument : Equivalence SameDocument where
  refl := .refl fun _ => rfl
  symm h := h.symm fun _ _ => Eq.symm
  trans h h' := h.trans h' fun _ _ _ => Eq.trans

/-! ## The comparison -/

theorem sameItems_eq_true_iff {as bs : List Json} :
    sameItems as bs = true ↔
      ∀ (i : Nat) (a b : Json), as[i]? = some a → bs[i]? = some b → a.sameValue b = true := by
  induction as generalizing bs with
  | nil => simp [sameItems]
  | cons a as ih =>
      cases bs with
      | nil => simp [sameItems]
      | cons b bs =>
          rw [sameItems, Bool.and_eq_true, ih]
          constructor
          · rintro ⟨hfirst, hrest⟩ i c d hc hd
            cases i with
            | zero =>
                obtain rfl := Option.some.inj hc
                obtain rfl := Option.some.inj hd
                exact hfirst
            | succ i => exact hrest i c d hc hd
          · intro h
            exact ⟨h 0 a b rfl rfl, fun i => h (i + 1)⟩

theorem matches_of_sameValue {a b : Json} (ha : a.wellFormed) (hb : b.wellFormed)
    (h : a.sameValue b = true) : Matches (fun m n => m.sameValue n = true) a b := by
  induction a using memInduction generalizing b with
  | null =>
      cases b with
      | null => exact .null
      | bool | number | string | array | object => simp [sameValue] at h
  | bool x =>
      cases b with
      | bool y =>
          obtain rfl : x = y := by simpa [sameValue] using h
          exact .bool x
      | null | number | string | array | object => simp [sameValue] at h
  | number m =>
      cases b with
      | number n => exact .number h
      | null | bool | string | array | object => simp [sameValue] at h
  | string s =>
      cases b with
      | string t =>
          obtain rfl : s = t := by simpa [sameValue] using h
          exact .string s
      | null | bool | number | array | object => simp [sameValue] at h
  | array as ih =>
      cases b with
      | array bs =>
          rw [sameValue, Bool.and_eq_true, beq_iff_eq, sameItems_eq_true_iff] at h
          refine .array h.1 fun i a b hitem hother => ?_
          have hmem := List.mem_of_getElem? hitem
          exact ih a hmem (wellFormed_array.mp ha a hmem)
            (wellFormed_array.mp hb b (List.mem_of_getElem? hother)) (h.2 i a b hitem hother)
      | null | bool | number | string | object => simp [sameValue] at h
  | object as ih =>
      cases b with
      | object bs =>
          rw [sameValue, Bool.and_eq_true, beq_iff_eq, sameFields_eq_true_iff] at h
          -- all keys of the first are in the second, which has no more of them
          have hkeys : Entries.keys as ⊆ Entries.keys bs := by
            intro key hkey
            obtain ⟨field, hfield, rfl⟩ := List.mem_map.mp hkey
            obtain ⟨b, hlookup, -⟩ := h.2 field hfield
            exact Entries.mem_keys_iff.mpr ⟨b, hlookup⟩
          refine .object ((Entries.keys_subset_iff (wellFormed_object.mp ha).1
            (wellFormed_object.mp hb).1).mp ⟨h.1, hkeys⟩) fun key a b hmember hother => ?_
          have hmem := Entries.mem_of_lookup hmember
          obtain ⟨found, hfound, hsame⟩ := h.2 _ hmem
          obtain rfl := Option.some.inj (hother.symm.trans hfound)
          exact ih _ hmem (wellFormed_of_lookup ha hmember) (wellFormed_of_lookup hb hother) hsame
      | null | bool | number | string | array => simp [sameValue] at h

theorem sameValue_of_matches {a b : Json} (ha : a.wellFormed) (hb : b.wellFormed)
    (h : Matches (fun m n => m.sameValue n = true) a b) : a.sameValue b = true := by
  induction h with
  | null => rfl
  | bool b => simp [sameValue]
  | number h => exact h
  | string s => simp [sameValue]
  | array length _ ih =>
      rw [sameValue, Bool.and_eq_true, beq_iff_eq, sameItems_eq_true_iff]
      refine ⟨length, fun i a b hitem hother => ih i a b hitem hother ?_ ?_⟩
      · exact wellFormed_array.mp ha a (List.mem_of_getElem? hitem)
      · exact wellFormed_array.mp hb b (List.mem_of_getElem? hother)
  | object keys _ ih =>
      have haFields := wellFormed_object.mp ha
      rw [sameValue, Bool.and_eq_true, beq_iff_eq, sameFields_eq_true_iff]
      refine ⟨((Entries.keys_subset_iff haFields.1 (wellFormed_object.mp hb).1).mpr keys).1, ?_⟩
      rintro ⟨key, a⟩ hmem
      have hmember := Entries.lookup_of_mem haFields.1 hmem
      obtain ⟨b, hother⟩ := Entries.mem_keys_iff.mp
        ((keys key).mp (Entries.mem_keys_iff.mpr ⟨a, hmember⟩))
      exact ⟨b, hother, ih key a b hmember hother (wellFormed_of_lookup ha hmember)
        (wellFormed_of_lookup hb hother)⟩

theorem sameValue_iff_matches {a b : Json} (ha : a.wellFormed) (hb : b.wellFormed) :
    a.sameValue b = true ↔ Matches (fun m n => m.sameValue n = true) a b :=
  ⟨matches_of_sameValue ha hb, sameValue_of_matches ha hb⟩

theorem sameValue_comm {a b : Json} (ha : a.wellFormed) (hb : b.wellFormed) :
    a.sameValue b = b.sameValue a := by
  have hnumbers (m n : Number) (h : m.sameValue n = true) : n.sameValue m = true :=
    (n.sameValue_comm m).trans h
  rw [Bool.eq_iff_iff, sameValue_iff_matches ha hb, sameValue_iff_matches hb ha]
  exact ⟨fun h => h.symm hnumbers, fun h => h.symm hnumbers⟩

/-! ## Equality by value -/

/-- Over a set of numbers the comparison is equality by value. -/
def ByValue (N : Number → Prop) : Prop :=
  ∀ a b, Over N a → Over N b → (a.sameValue b = true ↔ SameDocument a b)

/-- A set of numbers of which no two are confused. -/
def Separate (N : Number → Prop) : Prop :=
  ∀ m n, N m → N n → ¬Number.Confused m n

section

variable {N : Number → Prop} {a b c : Json}

theorem Over.mono {M : Number → Prop} (h : Over M a) (himp : ∀ n, M n → N n) : Over N a :=
  ⟨h.wellFormed, h.numbers.mono himp⟩

theorem over_number {n : Number} (hn : n.Canonical) (h : N n) : Over N (.number n) :=
  ⟨hn.inRange, h⟩

/-- Documents count as the same when they match but for numbers that are confused. -/
theorem sameValue_iff (ha : Over Number.Canonical a) (hb : Over Number.Canonical b) :
    a.sameValue b = true ↔
      Matches (fun m n => m.value = n.value ∨ Number.Confused m n) a b := by
  rw [sameValue_iff_matches ha.wellFormed hb.wellFormed]
  constructor
  · exact fun h => h.mono ha.numbers hb.numbers fun m n hm hn => (Number.sameValue_iff hm hn).mp
  · exact fun h => h.mono ha.numbers hb.numbers fun m n hm hn => (Number.sameValue_iff hm hn).mpr

theorem byValue_iff_separate (hN : ∀ n, N n → n.Canonical) : ByValue N ↔ Separate N := by
  constructor
  · -- two confused numbers are two documents already
    intro h m n hm hn hconfused
    have hsame : m.sameValue n = true :=
      (Number.sameValue_iff (hN m hm) (hN n hn)).mpr (.inr hconfused)
    cases (h (.number m) (.number n) (over_number (hN m hm) hm) (over_number (hN n hn) hn)).mp hsame
      with
    | number hvalue => exact hconfused.differ hvalue
  · intro h a b ha hb
    rw [sameValue_iff (ha.mono hN) (hb.mono hN)]
    constructor
    · exact fun hmatch => hmatch.mono ha.numbers hb.numbers fun m n hm hn hvalue =>
        hvalue.resolve_right (h m n hm hn)
    · exact fun hmatch => hmatch.mono ha.numbers hb.numbers fun m n _ _ hvalue => .inl hvalue

theorem ByValue.trans (h : ByValue N) (ha : Over N a) (hb : Over N b) (hc : Over N c)
    (hab : a.sameValue b = true) (hbc : b.sameValue c = true) : a.sameValue c = true :=
  (h a c ha hc).mpr (equivalence_sameDocument.trans ((h a b ha hb).mp hab) ((h b c hb hc).mp hbc))

end

/--
Read documents count as the same when they match but for numbers that are confused,
each document is the same as itself, and the order of the two does not matter.  Over
a set of numbers this is equality by value, and then transitive, exactly when the
set confuses no two of them.
-/
theorem sameValue_byValue_iff {N : Number → Prop} (hN : ∀ n, N n → n.Canonical) :
    (∀ text v, parse text = .ok v → Over Number.Canonical v) ∧
    (∀ n, N n → Double.Nearest n.value n.toDouble) ∧
    (∀ a b, Over Number.Canonical a → Over Number.Canonical b →
      (a.sameValue b = true ↔
        Matches (fun m n => m.value = n.value ∨ Number.Confused m n) a b) ∧
      a.sameValue a = true ∧ a.sameValue b = b.sameValue a) ∧
    (ByValue N ↔ Separate N) ∧
    (Separate N → ∀ a b c, Over N a → Over N b → Over N c →
      a.sameValue b = true → b.sameValue c = true → a.sameValue c = true) := by
  refine ⟨fun text v h => ⟨wellFormed_of_parse h, canonical_of_parse h⟩,
    fun n hn => (Number.nearest_toDouble (hN n hn)).2, fun a b ha hb => ⟨sameValue_iff ha hb, ?_⟩,
    byValue_iff_separate hN, fun hseparate a b c => ((byValue_iff_separate hN).mpr hseparate).trans⟩
  exact ⟨sameValue_self ha.wellFormed, sameValue_comm ha.wellFormed hb.wellFormed⟩

/-- Doubles, and whole numbers that a mantissa holds. -/
def Exact (n : Number) : Prop :=
  n.Canonical ∧ ∀ i, n = .integer i → i.natAbs ≤ 2 ^ Double.precision

theorem separate_exact : Separate Exact :=
  fun _ _ hm hn => Number.not_confused_of_small hm.2 hn.2

theorem replicas_byValue :
    (∀ n, Exact n → n.Canonical) ∧
    ∃ a b, parse "\x7b\"replicas\": 100\x7d" = .ok a ∧
      parse "\x7b\"replicas\": 100.0\x7d" = .ok b ∧ a ≠ b ∧ SameDocument a b := by
  have hcanonical (n : Number) (h : Exact n) : n.Canonical := h.1
  obtain ⟨hread, -, -, hbyValue, -⟩ := sameValue_byValue_iff hcanonical
  have hover {text : String} {n : Number} (h : parse text = .ok (.object [("replicas", .number n)]))
      (hn : ∀ i, n = .integer i → i.natAbs ≤ 2 ^ Double.precision) :
      Over Exact (.object [("replicas", .number n)]) := by
    obtain ⟨hwell, hnumbers⟩ := hread _ _ h
    have hn' : n.Canonical := allNumbers_object.mp hnumbers _ (List.mem_singleton_self _)
    refine ⟨hwell, allNumbers_object.mpr fun member hmem => ?_⟩
    obtain rfl := List.mem_singleton.mp hmem
    exact ⟨hn', hn⟩
  have hwhole : parse "\x7b\"replicas\": 100\x7d" =
      .ok (.object [("replicas", .number (.integer 100))]) := by decide +kernel
  have hdouble : parse "\x7b\"replicas\": 100.0\x7d" =
      .ok (.object [("replicas", .number (.double ⟨false, 7036874417766400, -46⟩))]) := by
    decide +kernel
  refine ⟨hcanonical, _, _, hwhole, hdouble, by decide, ?_⟩
  have hsmall (i : Int) (h : Number.integer 100 = .integer i) :
      i.natAbs ≤ 2 ^ Double.precision := by
    cases h
    decide
  exact (hbyValue.mpr separate_exact _ _ (hover hwhole hsmall) (hover hdouble nofun)).mp
    (by decide +kernel)

/--
Beyond the signed words different whole numbers count as the same.  So do a whole number
and the double next to it, which makes the comparison not transitive.
-/
theorem numbers_can_be_mistaken :
    (∃ a b, parse "9223372036854775808" = .ok a ∧ parse "9223372036854775809" = .ok b ∧
      a.sameValue b = true ∧ ¬SameDocument a b) ∧
    ∃ a b c, parse "9007199254740992" = .ok a ∧ parse "9007199254740992.0" = .ok b ∧
      parse "9007199254740993" = .ok c ∧
      a.sameValue b = true ∧ b.sameValue c = true ∧ a.sameValue c = false ∧ ¬SameDocument b c := by
  constructor
  · refine ⟨.number (.integer 9223372036854775808), .number (.integer 9223372036854775809),
      by decide +kernel, by decide +kernel, by decide +kernel, fun h => ?_⟩
    cases h with
    | number h => simp [Number.value] at h
  · refine ⟨.number (.integer 9007199254740992), .number (.double ⟨false, 4503599627370496, 1⟩),
      .number (.integer 9007199254740993), by decide +kernel, by decide +kernel, by decide +kernel,
      by decide +kernel, by decide +kernel, by decide +kernel, fun h => ?_⟩
    cases h with
    | number h => norm_num [Number.value, Double.value, Double.signedMantissa] at h

end SchemaKeeper.Json
