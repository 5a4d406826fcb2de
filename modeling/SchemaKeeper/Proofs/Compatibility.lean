import SchemaKeeper.Compatibility
import SchemaKeeper.Proofs.Model

/-!
# Fields that survive an update

A field of a mapping tree is reached by a chain of names, each looked up in
what the definition before it nests.  A safe update leaves every chain of the
old tree in place, however deep it goes.  Said level by level, an update is safe
exactly when at every level of the old tree, all of them below the ceiling, both
trees nest an object there and no name is lost.
-/

namespace SchemaKeeper.Compatibility

/-- What a chain of field names leads to. -/
def fieldAt? (tree : Json) : List String → Option Json
  | [] => some tree
  | name :: path => ((nestedFields tree).bind (·.lookup name)).bind (fieldAt? · path)

def HasField (tree : Json) (path : List String) : Prop :=
  ∃ definition, fieldAt? tree path = some definition

theorem hasField_nil (tree : Json) : HasField tree [] :=
  ⟨tree, rfl⟩

theorem hasField_cons {tree : Json} {name : String} {path : List String} :
    HasField tree (name :: path) ↔
      ∃ fields definition, nestedFields tree = some fields ∧
        fields.lookup name = some definition ∧ HasField definition path := by
  simp only [HasField, fieldAt?, Option.bind_eq_some_iff]
  constructor
  · rintro ⟨found, definition, ⟨fields, hfields, hlookup⟩, hfound⟩
    exact ⟨fields, definition, hfields, hlookup, found, hfound⟩
  · rintro ⟨fields, definition, hfields, hlookup, found, hfound⟩
    exact ⟨found, definition, ⟨fields, hfields, hlookup⟩, hfound⟩

/-- A definition with fields in it nests them under `properties`. -/
theorem nests_of_nestedFields {definition : Json} {fields : List (String × Json)}
    (h : nestedFields definition = some fields) : nests definition = true := by
  simp only [nestedFields, Option.bind_eq_some_iff] at h
  obtain ⟨found, hfound, -⟩ := h
  simp [nests, hfound]

/-- One level of a safe update: no field is missing, and what nests is safe in turn. -/
theorem isSafe_succ {ceiling : Nat} {old new : Json} :
    isSafe (ceiling + 1) old new = true ↔
      ∃ oldFields newFields, nestedFields old = some oldFields ∧
        nestedFields new = some newFields ∧
        ∀ name oldDefinition, (name, oldDefinition) ∈ oldFields →
          ∃ newDefinition, newFields.lookup name = some newDefinition ∧
            (nests oldDefinition = true → isSafe ceiling oldDefinition newDefinition = true) := by
  simp only [isSafe]
  cases hold : nestedFields old with
  | none => simp
  | some oldFields =>
      cases hnew : nestedFields new with
      | none => simp
      | some newFields =>
          simp only [List.all_eq_true, Option.some.injEq, exists_and_left, exists_eq_left',
            Prod.forall]
          refine forall_congr' fun name => forall_congr' fun oldDefinition =>
            imp_congr_right fun _ => ?_
          cases newFields.lookup name with
          | none => simp
          | some newDefinition => cases nests oldDefinition <;> simp

theorem hasField_of_isSafe {ceiling : Nat} {old new : Json} {path : List String}
    (hsafe : isSafe ceiling old new = true) (hpath : HasField old path) : HasField new path := by
  induction path generalizing ceiling old new with
  | nil => exact hasField_nil new
  | cons name path ih =>
      cases ceiling with
      | zero => simp [isSafe] at hsafe
      | succ ceiling =>
          obtain ⟨oldFields, newFields, hold, hnew, hkept⟩ := isSafe_succ.mp hsafe
          obtain ⟨fields, oldDefinition, hfields, hlookup, hrest⟩ := hasField_cons.mp hpath
          obtain rfl : oldFields = fields := Option.some.inj (hold.symm.trans hfields)
          obtain ⟨newDefinition, hnewLookup, hnested⟩ := hkept name oldDefinition
            (Entries.mem_of_lookup hlookup)
          refine hasField_cons.mpr ⟨newFields, newDefinition, hnew, hnewLookup, ?_⟩
          cases path with
          | nil => exact hasField_nil newDefinition
          | cons next path =>
              obtain ⟨inner, -, hinner, -⟩ := hasField_cons.mp hrest
              exact ih (hnested (nests_of_nestedFields hinner)) hrest

/-! ## Levels -/

/-- Levels are the tree itself and every definition that nests something. -/
def IsLevel (tree : Json) (path : List String) : Prop :=
  path = [] ∨ ∃ definition, fieldAt? tree path = some definition ∧ nests definition = true

/-- The fields of the object that is nested where a chain of names leads. -/
def fieldsAt? (tree : Json) (path : List String) : Option (List (String × Json)) :=
  (fieldAt? tree path).bind nestedFields

/-- A level is not too deep, both trees nest an object there, and the new one has all the names. -/
structure KeepsLevel (ceiling : Nat) (old new : Json) (path : List String) : Prop where
  below : path.length < ceiling
  kept : ∃ oldFields newFields, fieldsAt? old path = some oldFields ∧
    fieldsAt? new path = some newFields ∧ Entries.keys oldFields ⊆ Entries.keys newFields

theorem isLevel_nil (tree : Json) : IsLevel tree [] :=
  .inl rfl

section

variable {tree definition old new oldDefinition newDefinition : Json}
  {fields oldFields newFields : List (String × Json)} {name : String} {path : List String}
  {ceiling : Nat}

theorem wellFormed_of_nestedFields (h : tree.wellFormed)
    (hfields : nestedFields tree = some fields) : (Json.object fields).wellFormed := by
  simp only [nestedFields, Json.field?, Option.bind_eq_some_iff] at hfields
  obtain ⟨nested, ⟨members, hmembers, hlookup⟩, hnested⟩ := hfields
  cases tree <;> cases hmembers
  cases nested <;> cases hnested
  exact Json.wellFormed_of_lookup h hlookup

/-- A chain goes on below the first definition it comes to. -/
theorem fieldAt?_cons (hfields : nestedFields tree = some fields)
    (hlookup : fields.lookup name = some definition) :
    fieldAt? tree (name :: path) = fieldAt? definition path := by
  simp [fieldAt?, hfields, hlookup]

theorem isLevel_cons :
    IsLevel tree (name :: path) ↔
      ∃ fields definition, nestedFields tree = some fields ∧
        fields.lookup name = some definition ∧ nests definition = true ∧
        IsLevel definition path := by
  constructor
  · rintro (hnil | ⟨found, hfound, hnests⟩)
    · cases hnil
    obtain ⟨fields, definition, hfields, hlookup, hrest⟩ := hasField_cons.mp ⟨found, hfound⟩
    rw [fieldAt?_cons hfields hlookup] at hfound
    refine ⟨fields, definition, hfields, hlookup, ?_, .inr ⟨found, hfound, hnests⟩⟩
    cases path with
    | nil => exact Option.some.inj hfound ▸ hnests
    | cons next path =>
        obtain ⟨inner, -, hinner, -⟩ := hasField_cons.mp hrest
        exact nests_of_nestedFields hinner
  · rintro ⟨fields, definition, hfields, hlookup, hnests, hlevel⟩
    refine .inr ?_
    rw [fieldAt?_cons hfields hlookup]
    rcases hlevel with rfl | hdeep
    · exact ⟨definition, rfl, hnests⟩
    · exact hdeep

theorem keepsLevel_nil :
    KeepsLevel (ceiling + 1) old new [] ↔
      ∃ oldFields newFields, nestedFields old = some oldFields ∧
        nestedFields new = some newFields ∧ Entries.keys oldFields ⊆ Entries.keys newFields :=
  ⟨fun h => h.kept, fun h => ⟨Nat.succ_pos ceiling, h⟩⟩

/-- What a level below a field asks of two trees, it asks of the two definitions of the field. -/
theorem keepsLevel_cons (hold : nestedFields old = some oldFields)
    (holdLookup : oldFields.lookup name = some oldDefinition)
    (hnew : nestedFields new = some newFields)
    (hnewLookup : newFields.lookup name = some newDefinition) :
    KeepsLevel (ceiling + 1) old new (name :: path) ↔
      KeepsLevel ceiling oldDefinition newDefinition path := by
  have holdAt : fieldsAt? old (name :: path) = fieldsAt? oldDefinition path :=
    congrArg (·.bind nestedFields) (fieldAt?_cons hold holdLookup)
  have hnewAt : fieldsAt? new (name :: path) = fieldsAt? newDefinition path :=
    congrArg (·.bind nestedFields) (fieldAt?_cons hnew hnewLookup)
  constructor
  · rintro ⟨hbelow, hkept⟩
    rw [holdAt, hnewAt] at hkept
    exact ⟨Nat.lt_of_succ_lt_succ hbelow, hkept⟩
  · rintro ⟨hbelow, hkept⟩
    rw [← holdAt, ← hnewAt] at hkept
    exact ⟨Nat.succ_lt_succ hbelow, hkept⟩

theorem isSafe_iff (hwell : old.wellFormed) :
    isSafe ceiling old new = true ↔ ∀ path, IsLevel old path → KeepsLevel ceiling old new path := by
  induction ceiling generalizing old new with
  | zero =>
      refine iff_of_false (by simp [isSafe]) fun h => ?_
      exact absurd (h [] (isLevel_nil old)).below (Nat.not_lt_zero _)
  | succ ceiling ih =>
      rw [isSafe_succ]
      constructor
      · rintro ⟨oldFields, newFields, hold, hnew, hkept⟩ path hlevel
        have hmembers := wellFormed_of_nestedFields hwell hold
        cases path with
        | nil =>
            refine keepsLevel_nil.mpr ⟨oldFields, newFields, hold, hnew, fun name hname => ?_⟩
            obtain ⟨⟨_, oldDefinition⟩, hmem, rfl⟩ := List.mem_map.mp hname
            obtain ⟨newDefinition, hlookup, -⟩ := hkept _ oldDefinition hmem
            exact Entries.mem_keys_iff.mpr ⟨newDefinition, hlookup⟩
        | cons name path =>
            obtain ⟨fields, oldDefinition, hfields, hlookup, hnests, hdeep⟩ :=
              isLevel_cons.mp hlevel
            obtain rfl := Option.some.inj (hold.symm.trans hfields)
            obtain ⟨newDefinition, hnewLookup, hsafe⟩ := hkept name oldDefinition
              (Entries.mem_of_lookup hlookup)
            rw [keepsLevel_cons hold hlookup hnew hnewLookup]
            exact (ih (Json.wellFormed_of_lookup hmembers hlookup)).mp (hsafe hnests) path hdeep
      · intro hlevels
        obtain ⟨oldFields, newFields, hold, hnew, hnames⟩ :=
          keepsLevel_nil.mp (hlevels [] (isLevel_nil old))
        have hmembers := wellFormed_of_nestedFields hwell hold
        refine ⟨oldFields, newFields, hold, hnew, fun name oldDefinition hmem => ?_⟩
        have hlookup := Entries.lookup_of_mem (Json.wellFormed_object.mp hmembers).1 hmem
        obtain ⟨newDefinition, hnewLookup⟩ :=
          Entries.mem_keys_iff.mp (hnames (List.mem_map_of_mem hmem))
        refine ⟨newDefinition, hnewLookup, fun hnests => ?_⟩
        refine (ih (Json.wellFormed_of_lookup hmembers hlookup)).mpr fun path hdeep => ?_
        rw [← keepsLevel_cons hold hlookup hnew hnewLookup]
        exact hlevels (name :: path)
          (isLevel_cons.mpr ⟨oldFields, oldDefinition, hold, hlookup, hnests, hdeep⟩)

/--
An update is safe exactly when it keeps every level of the old tree.  It is not as
soon as a field is lost, however deep, or one of the trees nests no object at a
level of the old one.
-/
theorem isSafe_iff_keepsLevels (hwell : old.wellFormed) :
    (isSafe ceiling old new = true ↔
      ∀ path, IsLevel old path → KeepsLevel ceiling old new path) ∧
    (∀ path, HasField old path → ¬HasField new path → isSafe ceiling old new = false) ∧
    ∀ path, IsLevel old path → fieldsAt? old path = none ∨ fieldsAt? new path = none →
      isSafe ceiling old new = false := by
  refine ⟨isSafe_iff hwell, fun path hfield hlost => ?_, fun path hlevel hnone => ?_⟩
  · rw [← Bool.not_eq_true]
    exact fun hsafe => hlost (hasField_of_isSafe hsafe hfield)
  · rw [← Bool.not_eq_true]
    intro hsafe
    obtain ⟨oldFields, newFields, hold, hnew, -⟩ := ((isSafe_iff hwell).mp hsafe path hlevel).kept
    rcases hnone with hnone | hnone
    · cases hold.symm.trans hnone
    · cases hnew.symm.trans hnone

end

def keyword : Json :=
  .object [("type", .string "keyword")]

def customersWith (fields : List (String × Json)) : Json :=
  Model.mappingTree (.object [("address", Model.mappingTree (.object fields)), ("id", keyword)])

def customers : Json :=
  customersWith [("city", keyword)]

def customersWithZip : Json :=
  customersWith [("city", keyword), ("zip", keyword)]

theorem wellFormed_keyword : keyword.wellFormed :=
  Json.wellFormed_object.mpr ⟨List.pairwise_singleton .., by simp [Json.wellFormed]⟩

theorem wellFormed_customersWith {fields : List (String × Json)}
    (h : (Json.object fields).wellFormed) : (customersWith fields).wellFormed := by
  have hordered : ["address", "id"].Pairwise (· < ·) := by decide
  refine Model.wellFormed_mappingTree (Json.wellFormed_object.mpr ⟨hordered, ?_⟩)
  simpa using ⟨Model.wellFormed_mappingTree h, wellFormed_keyword⟩

theorem wellFormed_customers : customers.wellFormed :=
  wellFormed_customersWith
    (Json.wellFormed_object.mpr ⟨List.pairwise_singleton .., by simpa using wellFormed_keyword⟩)

theorem wellFormed_customersWithZip : customersWithZip.wellFormed := by
  have hordered : ["city", "zip"].Pairwise (· < ·) := by decide
  exact wellFormed_customersWith
    (Json.wellFormed_object.mpr ⟨hordered, by simpa using wellFormed_keyword⟩)

/-- A field can be added below a field, and not be taken away again. -/
theorem customers_keepsLevels :
    customers.wellFormed ∧ customersWithZip.wellFormed ∧
    (∀ path, IsLevel customers path → KeepsLevel 2 customers customersWithZip path) ∧
    isSafe 2 customersWithZip customers = false := by
  refine ⟨wellFormed_customers, wellFormed_customersWithZip,
    (isSafe_iff_keepsLevels wellFormed_customers).1.mp (by decide), ?_⟩
  refine (isSafe_iff_keepsLevels wellFormed_customersWithZip).2.1 ["address", "zip"]
    ⟨keyword, by decide⟩ ?_
  have hlost : fieldAt? customers ["address", "zip"] = none := by decide
  exact fun ⟨_, hfound⟩ => nomatch hlost.symm.trans hfound

end SchemaKeeper.Compatibility
