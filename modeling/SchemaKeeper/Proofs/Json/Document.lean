import SchemaKeeper.Json
import SchemaKeeper.Proofs.Table

/-!
# Documents

Facts about nested values are proved by induction on membership: what holds of
all items holds of the array, what holds of all members holds of the object.
`normalize` makes a value well formed if its whole numbers are in range, and
leaves it alone once it is.  Two values that differ in their doubles only have
one blurred form.
-/

namespace SchemaKeeper

namespace Json

/-! ## Induction -/

mutual
theorem memInduction {P : Json → Prop} (null : P .null) (bool : ∀ b, P (.bool b))
    (number : ∀ n, P (.number n)) (string : ∀ s, P (.string s))
    (array : ∀ items, (∀ item ∈ items, P item) → P (.array items))
    (object : ∀ fields, (∀ field ∈ fields, P field.2) → P (.object fields)) : ∀ v, P v
  | .null => null
  | .bool b => bool b
  | .number n => number n
  | .string s => string s
  | .array items => array items (memInductionItems null bool number string array object items)
  | .object fields => object fields (memInductionFields null bool number string array object fields)

theorem memInductionItems {P : Json → Prop} (null : P .null) (bool : ∀ b, P (.bool b))
    (number : ∀ n, P (.number n)) (string : ∀ s, P (.string s))
    (array : ∀ items, (∀ item ∈ items, P item) → P (.array items))
    (object : ∀ fields, (∀ field ∈ fields, P field.2) → P (.object fields)) :
    ∀ items : List Json, ∀ item ∈ items, P item
  | [] => fun _ h => absurd h List.not_mem_nil
  | first :: items => List.forall_mem_cons.mpr
      ⟨memInduction null bool number string array object first,
        memInductionItems null bool number string array object items⟩

theorem memInductionFields {P : Json → Prop} (null : P .null) (bool : ∀ b, P (.bool b))
    (number : ∀ n, P (.number n)) (string : ∀ s, P (.string s))
    (array : ∀ items, (∀ item ∈ items, P item) → P (.array items))
    (object : ∀ fields, (∀ field ∈ fields, P field.2) → P (.object fields)) :
    ∀ fields : List (String × Json), ∀ field ∈ fields, P field.2
  | [] => fun _ h => absurd h List.not_mem_nil
  | (_, first) :: fields => List.forall_mem_cons.mpr
      ⟨memInduction null bool number string array object first,
        memInductionFields null bool number string array object fields⟩
end

/-! ## Numbers inside -/

mutual
/-- Every number inside a value has a property. -/
def AllNumbers (P : Number → Prop) : Json → Prop
  | .number n => P n
  | .array items => AllNumbersItems P items
  | .object fields => AllNumbersFields P fields
  | _ => True

def AllNumbersItems (P : Number → Prop) : List Json → Prop
  | [] => True
  | item :: items => item.AllNumbers P ∧ AllNumbersItems P items

def AllNumbersFields (P : Number → Prop) : List (String × Json) → Prop
  | [] => True
  | (_, value) :: fields => value.AllNumbers P ∧ AllNumbersFields P fields
end

variable {P : Number → Prop}

theorem allNumbers_array {items : List Json} :
    (array items).AllNumbers P ↔ ∀ item ∈ items, item.AllNumbers P := by
  change AllNumbersItems P items ↔ _
  induction items with
  | nil => simp [AllNumbersItems]
  | cons item items ih => simp [AllNumbersItems, ih]

theorem allNumbers_object {fields : List (String × Json)} :
    (object fields).AllNumbers P ↔ ∀ field ∈ fields, field.2.AllNumbers P := by
  change AllNumbersFields P fields ↔ _
  induction fields with
  | nil => simp [AllNumbersFields]
  | cons field fields ih =>
      rw [AllNumbersFields, ih, List.forall_mem_cons]

theorem AllNumbers.mono {Q : Number → Prop} {v : Json} (h : v.AllNumbers P)
    (himp : ∀ n, P n → Q n) : v.AllNumbers Q := by
  induction v using memInduction with
  | null | bool | string => exact trivial
  | number n => exact himp n h
  | array items ih =>
      rw [allNumbers_array] at h ⊢
      exact fun item hitem => ih item hitem (h item hitem)
  | object fields ih =>
      rw [allNumbers_object] at h ⊢
      exact fun field hfield => ih field hfield (h field hfield)

theorem allNumbers_insert {fields : List (String × Json)} {value : Json}
    (h : (object fields).AllNumbers P) (hvalue : value.AllNumbers P) (key : String) :
    (object (Entries.insert key value fields)).AllNumbers P := by
  rw [allNumbers_object] at h ⊢
  intro field hfield
  rcases Entries.mem_of_mem_insert hfield with rfl | hold
  · exact hvalue
  · exact h field hold

/-- No number inside a value is a double. -/
def Whole (v : Json) : Prop :=
  v.AllNumbers fun n => ∃ i, n = .integer i

/-! ## Depth -/

theorem depthItems_le_iff {items : List Json} {n : Nat} :
    depthItems items ≤ n ↔ ∀ item ∈ items, item.depth ≤ n := by
  induction items with
  | nil => simp [depthItems]
  | cons first items ih => rw [depthItems, Nat.max_le, ih, List.forall_mem_cons]

theorem depthFields_le_iff {fields : List (String × Json)} {n : Nat} :
    depthFields fields ≤ n ↔ ∀ field ∈ fields, field.2.depth ≤ n := by
  induction fields with
  | nil => simp [depthFields]
  | cons first fields ih => rw [depthFields, Nat.max_le, ih, List.forall_mem_cons]

theorem depth_le_of_mem_items {items : List Json} {item : Json} (h : item ∈ items) :
    item.depth ≤ depthItems items :=
  depthItems_le_iff.mp (Nat.le_refl _) item h

theorem depth_le_of_mem_fields {fields : List (String × Json)} {field : String × Json}
    (h : field ∈ fields) : field.2.depth ≤ depthFields fields :=
  depthFields_le_iff.mp (Nat.le_refl _) field h

theorem depthFields_insert_le {fields : List (String × Json)} {value : Json} {n : Nat}
    (h : depthFields fields ≤ n) (hvalue : value.depth ≤ n) (key : String) :
    depthFields (Entries.insert key value fields) ≤ n := by
  rw [depthFields_le_iff] at h ⊢
  intro field hfield
  rcases Entries.mem_of_mem_insert hfield with rfl | hold
  · exact hvalue
  · exact h field hold

theorem depth_of_field? {v value : Json} {key : String} (h : v.field? key = some value) :
    value.depth + 1 ≤ v.depth := by
  cases v with
  | object fields =>
      exact Nat.succ_le_succ (depth_le_of_mem_fields (Entries.mem_of_lookup h))
  | null | bool | number | string | array => simp [field?, fields?] at h

/-! ## Order -/

@[simp] theorem normalize_array (items : List Json) :
    (array items).normalize = .array (items.map normalize) := by
  have hitems : ∀ items, normalizeItems items = items.map normalize := by
    intro items
    induction items with
    | nil => rfl
    | cons item items ih => simp [normalizeItems, ih]
  simp [normalize, hitems]

@[simp] theorem normalize_object (fields : List (String × Json)) :
    (object fields).normalize = .object (Entries.ofList (Entries.mapValues normalize fields)) := by
  have hfields : ∀ fields, normalizeFields fields = Entries.mapValues normalize fields := by
    intro fields
    induction fields with
    | nil => rfl
    | cons field fields ih => rw [normalizeFields, ih]; rfl
  simp [normalize, hfields]

theorem wellFormed_array {items : List Json} :
    (array items).wellFormed ↔ ∀ item ∈ items, item.wellFormed := by
  change wellFormedItems items ↔ _
  induction items with
  | nil => simp [wellFormedItems]
  | cons item items ih => simp [wellFormedItems, ih]

theorem wellFormed_object {fields : List (String × Json)} :
    (object fields).wellFormed ↔
      Entries.Ordered fields ∧ ∀ field ∈ fields, field.2.wellFormed := by
  have hfields : ∀ fields, wellFormedFields fields ↔
      ∀ field ∈ fields, field.2.wellFormed := by
    intro fields
    induction fields with
    | nil => simp [wellFormedFields]
    | cons field fields ih => rw [wellFormedFields, ih, List.forall_mem_cons]
  rw [wellFormed, hfields]

theorem wellFormed_insert {fields : List (String × Json)} {value : Json}
    (h : (object fields).wellFormed) (hvalue : value.wellFormed) (key : String) :
    (object (Entries.insert key value fields)).wellFormed := by
  rw [wellFormed_object] at h ⊢
  refine ⟨Entries.ordered_insert h.1, fun field hfield => ?_⟩
  rcases Entries.mem_of_mem_insert hfield with rfl | hold
  · exact hvalue
  · exact h.2 field hold

theorem wellFormed_of_lookup {fields : List (String × Json)} (h : (object fields).wellFormed)
    {key : String} {value : Json} (hlookup : fields.lookup key = some value) : value.wellFormed :=
  (wellFormed_object.mp h).2 _ (Entries.mem_of_lookup hlookup)

theorem wellFormed_normalize {v : Json} (h : v.AllNumbers Number.inRange) :
    v.normalize.wellFormed := by
  induction v using memInduction with
  | null | bool | string => exact trivial
  | number n => exact h
  | array items ih =>
      rw [allNumbers_array] at h
      rw [normalize_array, wellFormed_array]
      intro item hitem
      obtain ⟨raw, hraw, rfl⟩ := List.mem_map.mp hitem
      exact ih raw hraw (h raw hraw)
  | object fields ih =>
      rw [allNumbers_object] at h
      rw [normalize_object, wellFormed_object]
      refine ⟨Entries.ordered_ofList _, fun field hfield => ?_⟩
      obtain ⟨raw, hraw, rfl⟩ := List.mem_map.mp (Entries.mem_of_mem_ofList hfield)
      exact ih raw hraw (h raw hraw)

theorem allNumbers_normalize {v : Json} (h : v.AllNumbers P) : v.normalize.AllNumbers P := by
  induction v using memInduction with
  | null | bool | string => exact trivial
  | number n => exact h
  | array items ih =>
      rw [normalize_array, allNumbers_array]
      intro item hitem
      obtain ⟨raw, hraw, rfl⟩ := List.mem_map.mp hitem
      exact ih raw hraw (allNumbers_array.mp h raw hraw)
  | object fields ih =>
      rw [normalize_object, allNumbers_object]
      intro field hfield
      obtain ⟨raw, hraw, rfl⟩ := List.mem_map.mp (Entries.mem_of_mem_ofList hfield)
      exact ih raw hraw (allNumbers_object.mp h raw hraw)

/-- Members that are dropped can only make a value shallower. -/
theorem depth_normalize_le (v : Json) : v.normalize.depth ≤ v.depth := by
  induction v using memInduction with
  | null | bool | number | string => exact Nat.le_refl _
  | array items ih =>
      rw [normalize_array, depth, depth, Nat.add_le_add_iff_right, depthItems_le_iff]
      intro item hitem
      obtain ⟨raw, hraw, rfl⟩ := List.mem_map.mp hitem
      exact Nat.le_trans (ih raw hraw) (depth_le_of_mem_items hraw)
  | object fields ih =>
      rw [normalize_object, depth, depth, Nat.add_le_add_iff_right, depthFields_le_iff]
      intro field hfield
      obtain ⟨raw, hraw, rfl⟩ := List.mem_map.mp (Entries.mem_of_mem_ofList hfield)
      exact Nat.le_trans (ih raw hraw) (depth_le_of_mem_fields hraw)

theorem normalize_eq_self {v : Json} (h : v.wellFormed) : v.normalize = v := by
  induction v using memInduction with
  | null | bool | number | string => rfl
  | array items ih =>
      rw [wellFormed_array] at h
      rw [normalize_array, List.map_congr_left fun item hitem => ih item hitem (h item hitem)]
      simp
  | object fields ih =>
      rw [wellFormed_object] at h
      rw [normalize_object, Entries.mapValues_eq_self fun field hfield =>
        ih field hfield (h.2 field hfield), Entries.ofList_eq_self h.1]

theorem allNumbers_of_wellFormed {v : Json} (h : v.wellFormed) :
    v.AllNumbers Number.inRange := by
  induction v using memInduction with
  | null | bool | string => exact trivial
  | number n => exact h
  | array items ih =>
      rw [wellFormed_array] at h
      exact allNumbers_array.mpr fun item hitem => ih item hitem (h item hitem)
  | object fields ih =>
      rw [wellFormed_object] at h
      exact allNumbers_object.mpr fun field hfield => ih field hfield (h.2 field hfield)

/-! ## Blurred doubles -/

end Json

theorem Number.sameValue_self (n : Number) : n.sameValue n = true := by
  cases n <;> simp [Number.sameValue, Double.sameValue]

/-- All doubles are one in a blurred number. -/
def Number.blurred : Number → Number
  | .integer n => .integer n
  | .double _ => .double (.zero false)

namespace Json

mutual
def blurred : Json → Json
  | .number n => .number n.blurred
  | .array items => .array (blurredItems items)
  | .object fields => .object (blurredFields fields)
  | value => value

def blurredItems : List Json → List Json
  | [] => []
  | item :: items => item.blurred :: blurredItems items

def blurredFields : List (String × Json) → List (String × Json)
  | [] => []
  | (key, value) :: fields => (key, value.blurred) :: blurredFields fields
end

@[simp] theorem blurred_array (items : List Json) :
    (array items).blurred = .array (items.map blurred) := by
  have hitems : ∀ items, blurredItems items = items.map blurred := by
    intro items
    induction items with
    | nil => rfl
    | cons item items ih => rw [blurredItems, ih]; rfl
  rw [blurred, hitems]

@[simp] theorem blurred_object (fields : List (String × Json)) :
    (object fields).blurred = .object (Entries.mapValues blurred fields) := by
  have hfields : ∀ fields, blurredFields fields = Entries.mapValues blurred fields := by
    intro fields
    induction fields with
    | nil => rfl
    | cons field fields ih => rw [blurredFields, ih]; rfl
  rw [blurred, hfields]

@[simp] theorem blurred_number (n : Number) : (number n).blurred = .number n.blurred :=
  rfl

theorem blurred_normalize (v : Json) : v.normalize.blurred = v.blurred.normalize := by
  induction v using memInduction with
  | null | bool | number | string => rfl
  | array items ih =>
      simp only [normalize_array, blurred_array, List.map_map, array.injEq]
      exact List.map_congr_left ih
  | object fields ih =>
      simp only [normalize_object, blurred_object, ← Entries.ofList_mapValues,
        Entries.mapValues_mapValues]
      rw [Entries.mapValues_congr (g := normalize ∘ blurred) ih]

theorem blurred_at? (v : Json) (path : List String) :
    (v.at? path).map blurred = v.blurred.at? path := by
  induction path generalizing v with
  | nil => rfl
  | cons key path ih =>
      have hfield : v.blurred.field? key = (v.field? key).map blurred := by
        cases v with
        | object fields => simp [field?, fields?, Entries.lookup_mapValues]
        | array items => simp [field?, fields?]
        | null | bool | number | string => rfl
      simp only [at?, hfield]
      cases v.field? key with
      | none => rfl
      | some value => exact ih value

/-- A whole number shines through blurring. -/
theorem at?_eq_integer_of_blurred {v w : Json} (h : w.blurred = v.blurred) {path : List String}
    {n : Int} (hv : v.at? path = some (.number (.integer n))) :
    w.at? path = some (.number (.integer n)) := by
  have hblurred : (w.at? path).map blurred = some (.number (.integer n)) := by
    rw [blurred_at?, h, ← blurred_at?, hv]
    rfl
  obtain ⟨found, hfound, hnumber⟩ := Option.map_eq_some_iff.mp hblurred
  cases found with
  | number m =>
      cases m with
      | integer m =>
          rw [hfound]
          exact congrArg some hnumber
      | double x => simp [Number.blurred] at hnumber
  | array items => simp at hnumber
  | object fields => simp at hnumber
  | null | bool | string => cases hnumber

private theorem eq_of_map_eq {α β : Type} {f : α → β} {as bs : List α}
    (hf : ∀ b ∈ bs, ∀ a, f a = f b → a = b) (h : as.map f = bs.map f) : as = bs := by
  induction bs generalizing as with
  | nil => simpa using h
  | cons b bs ih =>
      cases as with
      | nil => simp at h
      | cons a as =>
          rw [List.map_cons, List.map_cons, List.cons.injEq] at h
          rw [hf b List.mem_cons_self a h.1,
            ih (fun b hb => hf b (List.mem_cons_of_mem _ hb)) h.2]

theorem eq_of_blurred_eq {v w : Json} (hv : v.Whole) (h : w.blurred = v.blurred) : w = v := by
  induction v using memInduction generalizing w with
  | null | bool | string => cases w <;> simp_all [blurred]
  | number n =>
      obtain ⟨i, rfl⟩ := hv
      cases w with
      | number m =>
          cases m with
          | integer j => simpa [Number.blurred] using h
          | double x => simp [Number.blurred] at h
      | array | object | null | bool | string => simp [blurred] at h
  | array items ih =>
      cases w with
      | array others =>
          simp only [blurred_array, array.injEq] at h
          have hitems := allNumbers_array.mp hv
          rw [eq_of_map_eq (fun item hitem _ => ih item hitem (hitems item hitem)) h]
      | object | null | bool | string | number => simp [blurred] at h
  | object fields ih =>
      cases w with
      | object others =>
          simp only [blurred_object, object.injEq] at h
          have hfields := allNumbers_object.mp hv
          have hsame : others = fields := by
            refine eq_of_map_eq (fun field hfield other heq => ?_) h
            rw [Prod.mk.injEq] at heq
            exact Prod.ext heq.1 (ih field hfield (hfields field hfield) heq.2)
          rw [hsame]
      | array | null | bool | string | number => simp [blurred] at h

/-! ## Equal documents -/

theorem sameItems_self {items : List Json} (h : ∀ item ∈ items, item.sameValue item = true) :
    sameItems items items = true := by
  induction items with
  | nil => rfl
  | cons item items ih =>
      rw [List.forall_mem_cons] at h
      simp [sameItems, h.1, ih h.2]

theorem sameFields_eq_true_iff {as bs : List (String × Json)} :
    sameFields as bs = true ↔
      ∀ field ∈ as, ∃ b, bs.lookup field.1 = some b ∧ field.2.sameValue b = true := by
  induction as with
  | nil => simp [sameFields]
  | cons field as ih =>
      obtain ⟨key, a⟩ := field
      rw [sameFields, Bool.and_eq_true, ih, List.forall_mem_cons]
      refine and_congr ?_ Iff.rfl
      cases bs.lookup key <;> simp

theorem sameValue_self {v : Json} (h : v.wellFormed) : v.sameValue v = true := by
  induction v using memInduction with
  | null => rfl
  | bool b => simp [sameValue]
  | string s => simp [sameValue]
  | number n => exact n.sameValue_self
  | array items ih =>
      rw [wellFormed_array] at h
      simp [sameValue, sameItems_self fun item hitem => ih item hitem (h item hitem)]
  | object fields ih =>
      rw [wellFormed_object] at h
      rw [sameValue, Bool.and_eq_true, sameFields_eq_true_iff]
      refine ⟨by simp, fun field hfield => ⟨field.2, ?_, ?_⟩⟩
      · exact Entries.lookup_of_mem h.1 hfield
      · exact ih field hfield (h.2 field hfield)

end Json

end SchemaKeeper
