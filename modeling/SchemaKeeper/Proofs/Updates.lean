import Mathlib.Logic.Relation
import SchemaKeeper.Proofs.Compatibility
import SchemaKeeper.Proofs.Json.Equality
import SchemaKeeper.Proofs.Matching

/-!
# Updates that compose

Safe updates compose, and trees that count as the same are interchangeable in them.
A tree that counts as the same as another is a safe update of it exactly when every
level of that one nests an object and none is too deep.  Of such a tree convergence
refuses the same updates whether or not it compares the two trees first, and whatever
series of updates it accepts, its end is a safe update of its beginning.
-/

namespace SchemaKeeper.Compatibility

variable {ceiling : Nat} {a b c a' b' : Json}

/-! ## One update after another -/

theorem nests_of_isSafe (h : isSafe ceiling a b = true) : nests b = true := by
  cases ceiling with
  | zero => simp [isSafe] at h
  | succ ceiling =>
      obtain ⟨-, bs, -, hb, -⟩ := isSafe_succ.mp h
      exact nests_of_nestedFields hb

theorem isSafe_trans (hab : isSafe ceiling a b = true) (hbc : isSafe ceiling b c = true) :
    isSafe ceiling a c = true := by
  induction ceiling generalizing a b c with
  | zero => simp [isSafe] at hab
  | succ ceiling ih =>
      obtain ⟨as, bs, ha, hb, hfirst⟩ := isSafe_succ.mp hab
      obtain ⟨fields, cs, hfields, hc, hsecond⟩ := isSafe_succ.mp hbc
      obtain rfl := Option.some.inj (hb.symm.trans hfields)
      refine isSafe_succ.mpr ⟨as, cs, ha, hc, fun name x hx => ?_⟩
      obtain ⟨y, hy, hxy⟩ := hfirst name x hx
      obtain ⟨z, hz, hyz⟩ := hsecond name y (Entries.mem_of_lookup hy)
      refine ⟨z, hz, fun hnests => ?_⟩
      -- the definition in between nests something too, or the first update were not safe
      have hsafe := hxy hnests
      exact ih hsafe (hyz (nests_of_isSafe hsafe))

/-! ## Matching trees -/

section

variable {R : Number → Number → Prop}

theorem nests_of_matches (h : Json.Matches R a b) (ha : nests a = true) : nests b = true := by
  obtain ⟨x, hx⟩ := Option.isSome_iff_exists.mp ha
  obtain ⟨y, hy, -⟩ := h.field? hx
  exact Option.isSome_iff_exists.mpr ⟨y, hy⟩

theorem nestedFields_of_matches {as : List (String × Json)} (h : Json.Matches R a b)
    (ha : nestedFields a = some as) :
    ∃ bs, nestedFields b = some bs ∧ Json.Matches R (.object as) (.object bs) := by
  obtain ⟨x, hx, has⟩ := Option.bind_eq_some_iff.mp ha
  obtain ⟨y, hy, hxy⟩ := h.field? hx
  obtain ⟨bs, hbs, hobjects⟩ := hxy.fields? has
  exact ⟨bs, Option.bind_eq_some_iff.mpr ⟨y, hy, hbs⟩, hobjects⟩

theorem isSafe_of_matches (hR : ∀ m n, R m n → R n m) (hwell : a'.wellFormed)
    (ha : Json.Matches R a a') (hb : Json.Matches R b b') (h : isSafe ceiling a b = true) :
    isSafe ceiling a' b' = true := by
  induction ceiling generalizing a b a' b' with
  | zero => simp [isSafe] at h
  | succ ceiling ih =>
      obtain ⟨as, bs, has, hbs, hkept⟩ := isSafe_succ.mp h
      obtain ⟨as', has', hold⟩ := nestedFields_of_matches ha has
      obtain ⟨bs', hbs', hnew⟩ := nestedFields_of_matches hb hbs
      have hmembers := wellFormed_of_nestedFields hwell has'
      refine isSafe_succ.mpr ⟨as', bs', has', hbs', fun name x' hx' => ?_⟩
      have hlookup := Entries.lookup_of_mem (Json.wellFormed_object.mp hmembers).1 hx'
      -- back to the old pair, across the safe update, and forth again
      obtain ⟨x, hx, hxx'⟩ := (hold.symm hR).lookup hlookup
      obtain ⟨y, hy, hsafe⟩ := hkept name x (Entries.mem_of_lookup hx)
      obtain ⟨y', hy', hyy'⟩ := hnew.lookup hy
      refine ⟨y', hy', fun hnests => ?_⟩
      exact ih (Json.wellFormed_of_lookup hmembers hlookup) (hxx'.symm hR) hyy'
        (hsafe (nests_of_matches hxx' hnests))

end

theorem isSafe_congr (ha : a.wellFormed) (ha' : a'.wellFormed) (hb : b.wellFormed)
    (hb' : b'.wellFormed) (haa' : a.sameValue a' = true) (hbb' : b.sameValue b' = true) :
    isSafe ceiling a b = isSafe ceiling a' b' := by
  have hnumbers (m n : Number) (h : m.sameValue n = true) : n.sameValue m = true :=
    (n.sameValue_comm m).trans h
  have hold := Json.matches_of_sameValue ha ha' haa'
  have hnew := Json.matches_of_sameValue hb hb' hbb'
  rw [Bool.eq_iff_iff]
  constructor
  · exact isSafe_of_matches hnumbers ha' hold hnew
  · exact isSafe_of_matches hnumbers ha (hold.symm hnumbers) (hnew.symm hnumbers)

/-! ## Trees that are updates of themselves -/

/-- Every level, the tree itself included, nests an object and lies below the ceiling. -/
def WellNested (ceiling : Nat) (tree : Json) : Prop :=
  ∀ path, IsLevel tree path → path.length < ceiling ∧ ∃ fields, fieldsAt? tree path = some fields

theorem isSafe_self_iff (ha : a.wellFormed) : isSafe ceiling a a = true ↔ WellNested ceiling a := by
  rw [isSafe_iff ha]
  refine forall₂_congr fun path _ => ?_
  constructor
  · rintro ⟨hbelow, fields, -, hfields, -⟩
    exact ⟨hbelow, fields, hfields⟩
  · rintro ⟨hbelow, fields, hfields⟩
    exact ⟨hbelow, fields, fields, hfields, hfields, fun _ hname => hname⟩

theorem isSafe_iff_of_sameValue (ha : a.wellFormed) (hb : b.wellFormed)
    (hsame : a.sameValue b = true) : isSafe ceiling a b = true ↔ WellNested ceiling a := by
  have hself := Json.sameValue_self ha
  rw [← isSafe_congr ha ha ha hb hself hsame, isSafe_self_iff ha]

/-! ## Accepted updates -/

/-- What convergence takes for an update: nothing to do, or a safe one. -/
def Accepts (ceiling : Nat) (current desired : Json) : Prop :=
  current.sameValue desired = true ∨ isSafe ceiling current desired = true

theorem accepts_iff (ha : a.wellFormed) (hb : b.wellFormed) (hnested : WellNested ceiling a) :
    Accepts ceiling a b ↔ isSafe ceiling a b = true := by
  constructor
  · rintro (hsame | hsafe)
    · exact (isSafe_iff_of_sameValue ha hb hsame).mpr hnested
    · exact hsafe
  · exact .inr

/-- A safe update of a tree stays one when it is in turn replaced by an accepted one. -/
theorem isSafe_of_accepts (ha : a.wellFormed) (hb : b.wellFormed) (hc : c.wellFormed)
    (hab : isSafe ceiling a b = true) (hbc : Accepts ceiling b c) : isSafe ceiling a c = true := by
  rcases hbc with hsame | hsafe
  · rw [← isSafe_congr ha ha hb hc (Json.sameValue_self ha) hsame]
    exact hab
  · exact isSafe_trans hab hsafe

theorem isSafe_of_history (ha : a.wellFormed) (hnested : WellNested ceiling a)
    (h : Relation.ReflTransGen (fun b c => c.wellFormed ∧ Accepts ceiling b c) a b) :
    isSafe ceiling a b = true := by
  suffices b.wellFormed ∧ isSafe ceiling a b = true from this.2
  -- safety is carried from the first tree on, because counting as the same is not transitive
  induction h with
  | refl => exact ⟨ha, (isSafe_self_iff ha).mpr hnested⟩
  | tail _ hstep ih => exact ⟨hstep.1, isSafe_of_accepts ha ih.1 hstep.1 ih.2 hstep.2⟩

end SchemaKeeper.Compatibility

namespace SchemaKeeper.Convergence

open Compatibility Program

variable {World : Type} {answer : (c : Call) → World → Except RemoteError c.Answer × World}

/-- Convergence refuses a mapping that the cluster answers with unless it accepts the update. -/
theorem run_convergeProperties_refuses_iff {ceiling : Nat} {spec : IndexSpec} {world : World}
    {current desired : Json} (hdesired : Model.properties spec.model = some desired)
    (hcurrent : (answer (.indexProperties spec.name) world).1 = .ok (some current)) :
    ((convergeProperties ceiling spec).run answer world).1 =
        .error (Status.error (Refusal.fieldLoss current desired).message) ↔
      ¬Accepts ceiling current desired := by
  unfold convergeProperties
  rw [hdesired]
  dsimp only
  rw [run_bind, run_ask, hcurrent]
  dsimp only
  cases hsame : current.sameValue desired with
  | true => simp [Accepts, hsame]
  | false =>
      cases hsafe : isSafe ceiling current desired with
      | false => simp [Accepts, hsame, hsafe]
      | true => simp [Accepts, hsame, hsafe]

/--
Safe updates compose, and do not depend on how their trees are written.  To a tree
written differently a tree is safely updated if it is nested well; of such a tree
convergence refuses what is not safe, although it first looks whether anything
changes, and after a history of accepted updates it has been safely updated.
-/
theorem safe_updates_compose (ceiling : Nat) :
    (∀ a b c, isSafe ceiling a b = true → isSafe ceiling b c = true → isSafe ceiling a c = true) ∧
    (∀ a b, Relation.TransGen (fun b c => isSafe ceiling b c = true) a b →
      isSafe ceiling a b = true) ∧
    (∀ a b a' b' : Json, a.wellFormed → b.wellFormed → a'.wellFormed → b'.wellFormed →
      a.sameValue a' = true → b.sameValue b' = true →
        isSafe ceiling a b = isSafe ceiling a' b') ∧
    ∀ a : Json, a.wellFormed → WellNested ceiling a →
      (∀ b : Json, b.wellFormed → a.sameValue b = true → isSafe ceiling a b = true) ∧
      (∀ (World : Type) (answer : (c : Call) → World → Except RemoteError c.Answer × World)
        (world : World) (spec : IndexSpec) (desired : Json),
        Model.properties spec.model = some desired →
        (answer (.indexProperties spec.name) world).1 = .ok (some a) →
          (((convergeProperties ceiling spec).run answer world).1 =
              .error (Status.error (Refusal.fieldLoss a desired).message) ↔
            isSafe ceiling a desired = false)) ∧
      ∀ b : Json, Relation.ReflTransGen (fun b c => c.wellFormed ∧ Accepts ceiling b c) a b →
        isSafe ceiling a b = true := by
  refine ⟨fun a b c => isSafe_trans, fun a b hhistory => ?_,
    fun a b a' b' ha hb ha' hb' => isSafe_congr ha ha' hb hb', fun a ha hnested => ⟨?_, ?_, ?_⟩⟩
  · induction hhistory with
    | single hsafe => exact hsafe
    | tail _ hsafe ih => exact isSafe_trans ih hsafe
  · exact fun b hb hsame => (isSafe_iff_of_sameValue ha hb hsame).mpr hnested
  · intro World answer world spec desired hdesired hcurrent
    rw [run_convergeProperties_refuses_iff hdesired hcurrent,
      accepts_iff ha (Model.wellFormed_of_properties hdesired) hnested, Bool.not_eq_true]
  · exact fun b => isSafe_of_history ha hnested

/-- Customers whose number of digits is written in some way. -/
def customersWithDigits (digits : Number) : Json :=
  customersWith [("city", .object [("digits", .number digits)])]

theorem wellFormed_customersWithDigits {digits : Number} (h : digits.inRange) :
    (customersWithDigits digits).wellFormed := by
  have hcity : (Json.object [("digits", .number digits)]).wellFormed :=
    Json.wellFormed_object.mpr ⟨List.pairwise_singleton .., by simpa [Json.wellFormed] using h⟩
  exact wellFormed_customersWith
    (Json.wellFormed_object.mpr ⟨List.pairwise_singleton .., by simpa using hcity⟩)

/-- A mapping is written anew, then a field is added; the model of orders would take one away. -/
theorem customers_compose :
    let written := customersWithDigits (.integer 4)
    let rewritten := customersWithDigits (.double ⟨false, 4503599627370496, -50⟩)
    let desired := Model.mappingTree (.object [("id", keyword)])
    isSafe 2 written rewritten = true ∧
      isSafe 2 rewritten customersWithZip = isSafe 2 written customersWithZip ∧
      isSafe 2 written customersWithZip = true ∧
      ((convergeProperties 2 keyedOrders).run Cluster.answer (clusterWith (some written))).1 =
        .error (Status.error (Refusal.fieldLoss written desired).message) := by
  intro written rewritten desired
  have hwritten : written.wellFormed := wellFormed_customersWithDigits ⟨by decide, by decide⟩
  have hrewritten : rewritten.wellFormed := wellFormed_customersWithDigits trivial
  have hzip := wellFormed_customersWithZip
  have hsame : written.sameValue rewritten = true := by decide +kernel
  have hnested : WellNested 2 written := (isSafe_self_iff hwritten).mp (by decide +kernel)
  obtain ⟨htrans, -, hcongr, hwell⟩ := safe_updates_compose 2
  obtain ⟨hreflexive, hrefuses, -⟩ := hwell written hwritten hnested
  have hsafe := hreflexive rewritten hrewritten hsame
  refine ⟨hsafe, ?_, htrans _ _ _ hsafe (by decide +kernel), ?_⟩
  · have hback : rewritten.sameValue written = true := by decide +kernel
    exact hcongr _ _ _ _ hrewritten hzip hwritten hzip hback (Json.sameValue_self hzip)
  · have hstored : (clusterWith (some written)).indices.get? "orders" =
        some ⟨⟨3, 1⟩, some written⟩ := by decide +kernel
    have hanswer := congrArg Prod.fst (Cluster.answer_indexProperties rfl hstored)
    exact (hrefuses _ _ _ keyedOrders _ properties_keyedOrders hanswer).mpr (by decide +kernel)

end SchemaKeeper.Convergence
