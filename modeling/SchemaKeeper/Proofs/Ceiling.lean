import SchemaKeeper.Proofs.Compatibility
import SchemaKeeper.Proofs.Json.RoundTrip

/-!
# How deep a mapping tree goes

Every name of a chain lies within two more objects: the definition it leads to
is a member of an object, and that is a member of the definition before it.  A
document that was read nests at most 127 lists and objects, so its levels are at
most 63 names down, and a comparison with 64 levels follows all of them.  Trees
that were not read from a text can go deeper.
-/

namespace SchemaKeeper.Compatibility

variable {tree definition old new : Json} {path : List String} {ceiling : Nat}

/-! ## Levels and depth -/

/-- The definition at the end of a chain is two objects further in for every name. -/
theorem depth_fieldAt? (h : fieldAt? tree path = some definition) :
    definition.depth + 2 * path.length ≤ tree.depth := by
  induction path generalizing tree with
  | nil =>
      obtain rfl := Option.some.inj h
      exact Nat.le_refl _
  | cons name path ih =>
      obtain ⟨fields, first, hfields, hlookup, -⟩ := hasField_cons.mp ⟨definition, h⟩
      rw [fieldAt?_cons hfields hlookup] at h
      have hrest := ih h
      obtain ⟨nested, hnested, hmembers⟩ := Option.bind_eq_some_iff.mp hfields
      have hfirst : nested.field? name = some first := by simp [Json.field?, hmembers, hlookup]
      have houter := Json.depth_of_field? hnested
      have hinner := Json.depth_of_field? hfirst
      rw [List.length_cons]
      omega

theorem length_le_of_isLevel (h : IsLevel tree path) : 2 * path.length ≤ tree.depth := by
  rcases h with rfl | ⟨definition, hfound, -⟩
  · exact Nat.zero_le _
  · exact Nat.le_trans (Nat.le_add_left ..) (depth_fieldAt? hfound)

/-! ## Ceilings -/

/-- Any two ceilings above all levels of the old tree give the same verdict. -/
theorem isSafe_eq_of_levels_below {higher : Nat} (hwell : old.wellFormed)
    (hbelow : ∀ path, IsLevel old path → path.length < ceiling) (hle : ceiling ≤ higher) :
    isSafe ceiling old new = isSafe higher old new := by
  rw [Bool.eq_iff_iff, isSafe_iff hwell, isSafe_iff hwell]
  refine forall_congr' fun path => imp_congr_right fun hlevel => ?_
  constructor
  · exact fun h => ⟨Nat.lt_of_lt_of_le h.below hle, h.kept⟩
  · exact fun h => ⟨hbelow path hlevel, h.kept⟩

theorem below_defaultCeiling {text : String} (hread : Json.parse text = .ok tree)
    (hlevel : IsLevel tree path) : path.length < defaultCeiling := by
  have hdepth : tree.depth ≤ 127 := Json.depth_of_parse hread
  have hlength := length_le_of_isLevel hlevel
  rw [defaultCeiling]
  omega

/--
No level of a tree that was read from a text reaches the default ceiling, so a
higher ceiling changes no verdict on texts.
-/
theorem isSafeText_defaultCeiling :
    (∀ (old new : String) (ceiling : Nat), defaultCeiling ≤ ceiling →
      isSafeText defaultCeiling old new = isSafeText ceiling old new) ∧
    ∀ (text : String) (tree : Json) (path : List String), Json.parse text = .ok tree →
      IsLevel tree path → path.length < defaultCeiling := by
  refine ⟨fun old new ceiling hle => ?_, fun _ _ _ => below_defaultCeiling⟩
  unfold isSafeText
  cases hold : Json.parse old with
  | error e => rfl
  | ok oldTree =>
      cases Json.parse new with
      | error e => rfl
      | ok newTree =>
          exact isSafe_eq_of_levels_below (Json.wellFormed_of_parse hold)
            (fun _ => below_defaultCeiling hold) hle

/-! ## Trees of any depth -/

def oneField (name : String) (definition : Json) : Json :=
  Model.mappingTree (.object [(name, definition)])

/-- A leaf inside as many fields as wanted. -/
def nestedLeaf : Nat → Json
  | 0 => oneField "leaf" keyword
  | n + 1 => oneField "nested" (nestedLeaf n)

theorem nests_oneField (name : String) (definition : Json) :
    nests (oneField name definition) = true :=
  rfl

theorem isSafe_oneField (name : String) (oldDefinition newDefinition : Json) :
    isSafe (ceiling + 1) (oneField name oldDefinition) (oneField name newDefinition) =
      (!nests oldDefinition || isSafe ceiling oldDefinition newDefinition) := by
  simp [isSafe, oneField, Model.mappingTree, nestedFields, Json.field?, Json.fields?]

/-- Even beside itself a tree is safe only if it nests no deeper than the ceiling. -/
theorem isSafe_nestedLeaf (n : Nat) :
    isSafe ceiling (nestedLeaf n) (nestedLeaf n) = true ↔ n < ceiling := by
  induction n generalizing ceiling with
  | zero =>
      cases ceiling with
      | zero => simp [isSafe]
      | succ ceiling =>
          have hleaf : nests keyword = false := rfl
          rw [nestedLeaf, isSafe_oneField, hleaf]
          simp
  | succ n ih =>
      cases ceiling with
      | zero => simp [isSafe]
      | succ ceiling =>
          have hnested : nests (nestedLeaf n) = true := by cases n <;> exact nests_oneField ..
          rw [nestedLeaf, isSafe_oneField, hnested, Bool.not_true, Bool.false_or, ih,
            Nat.succ_lt_succ_iff]

theorem wellFormed_oneField {name : String} {definition : Json} (h : definition.wellFormed) :
    (oneField name definition).wellFormed :=
  Model.wellFormed_mappingTree
    (Json.wellFormed_object.mpr ⟨List.pairwise_singleton .., by simpa using h⟩)

theorem wellFormed_nestedLeaf (n : Nat) : (nestedLeaf n).wellFormed := by
  induction n with
  | zero => exact wellFormed_oneField wellFormed_keyword
  | succ n ih => exact wellFormed_oneField ih

theorem whole_nestedLeaf (n : Nat) : (nestedLeaf n).Whole := by
  induction n with
  | zero => exact ⟨⟨⟨trivial, trivial⟩, trivial⟩, trivial⟩
  | succ n ih => exact ⟨⟨ih, trivial⟩, trivial⟩

theorem depth_nestedLeaf (n : Nat) : (nestedLeaf n).depth = 2 * n + 3 := by
  induction n with
  | zero => rfl
  | succ n ih =>
      simp only [nestedLeaf, oneField, Model.mappingTree, Json.depth, Json.depthFields, ih]
      omega

theorem parse_nestedLeaf {n : Nat} (h : n ≤ 62) :
    Json.parse (nestedLeaf n).compact = .ok (nestedLeaf n) := by
  have hdepth : (nestedLeaf n).depth ≤ 127 := by
    rw [depth_nestedLeaf]
    omega
  exact Json.parse_compact (wellFormed_nestedLeaf n) (whole_nestedLeaf n) hdepth

theorem isSafeText_nestedLeaf {n : Nat} (h : n ≤ 62) :
    isSafeText ceiling (nestedLeaf n).compact (nestedLeaf n).compact = true ↔ n < ceiling := by
  simp only [isSafeText, parse_nestedLeaf h]
  exact isSafe_nestedLeaf n

/-- The deepest leaf that can be read is followed to its end, and only just. -/
theorem isSafeText_deepest_leaf :
    let text := (nestedLeaf 62).compact
    defaultCeiling ≤ 200 ∧ isSafeText defaultCeiling text text = isSafeText 200 text text ∧
      isSafeText defaultCeiling text text = true ∧ isSafeText 62 text text = false := by
  intro text
  have hhigher : defaultCeiling ≤ 200 := by decide
  refine ⟨hhigher, isSafeText_defaultCeiling.1 text text 200 hhigher, ?_, ?_⟩
  · exact (isSafeText_nestedLeaf (Nat.le_refl 62)).mpr (by decide)
  · rw [← Bool.not_eq_true]
    exact fun h => absurd ((isSafeText_nestedLeaf (Nat.le_refl 62)).mp h) (by decide)

end SchemaKeeper.Compatibility
