import SchemaKeeper.Model.Shape
import SchemaKeeper.Proofs.Json.Members

/-!
# The shape of models

The grammar of models, said of documents, and the checks that decide it.  Each
check accepts what its rule allows; the steps of a pipeline are checked one after
the other, so a complaint about a step names the first that is no processor.
-/

namespace SchemaKeeper

/-- The position of the step that a fault is about. -/
def ShapeFault.position? : ShapeFault → Option Nat
  | .processorNotObject position _ | .unknownProcessor position _ => some position
  | _ => none

/-- The fault of a blurred document. -/
def ShapeFault.blurred : ShapeFault → ShapeFault
  | .notAnObject found => .notAnObject found.blurred
  | .descriptionNotText found => .descriptionNotText found.blurred
  | .processorsNotList found => .processorsNotList found.blurred
  | .processorNotObject position found => .processorNotObject position found.blurred
  | fault => fault

theorem Json.describe_blurred (v : Json) : v.blurred.describe = v.describe := by
  cases v <;> rfl

/-- No complaint tells a double. -/
theorem ShapeFault.message_blurred (fault : ShapeFault) : fault.blurred.message = fault.message := by
  cases fault with
  | notAnObject | descriptionNotText | processorsNotList | processorNotObject =>
      unfold ShapeFault.blurred ShapeFault.message
      dsimp only
      rw [Json.describe_blurred]
  | strayField | fieldRequired | blankDescription | unknownProcessor | settingsNotObject => rfl

namespace Model

variable {kind : Kind} {body : String} {fields : Fields} {steps : List Json} {step : Json}
  {fault : ShapeFault} {position : Nat}

/-! ## The grammar -/

/-- A description has a character that is not blank. -/
def Described (fields : Fields) : Prop :=
  ∃ text, fields.lookup "description" = some (.string text) ∧
    ∃ c ∈ text.toList, Text.isBlank c = false

def IsProcessor (step : Json) : Prop :=
  ∃ entry, step = .object entry ∧ ∀ key ∈ Entries.keys entry, key ∈ knownProcessors

def IsModel (kind : Kind) (fields : Fields) : Prop :=
  match kind with
  | .index => ∀ key ∈ Entries.keys fields, key ∈ ["aliases", "mappings", "settings"]
  | .template =>
      (∀ key ∈ Entries.keys fields,
        key ∈ ["aliases", "mappings", "settings", "index_patterns", "version"]) ∧
      "index_patterns" ∈ Entries.keys fields
  | .pipeline =>
      (∀ key ∈ Entries.keys fields, key ∈ ["description", "processors"]) ∧ Described fields ∧
      ∃ steps, fields.lookup "processors" = some (.array steps) ∧ ∀ step ∈ steps, IsProcessor step

/-- What is wrong with a step: it is no object, or a first one of its keys names no processor. -/
inductive Blames (position : Nat) : Json → ShapeFault → Prop where
  | notObject {step : Json} (hfields : step.fields? = none) :
      Blames position step (.processorNotObject position step)
  | unknown {entry : Fields} {known rest : List String} {name : String}
      (hkeys : Entries.keys entry = known ++ name :: rest)
      (hknown : ∀ key ∈ known, key ∈ knownProcessors) (hname : name ∉ knownProcessors) :
      Blames position (.object entry) (.unknownProcessor position name)

theorem Blames.position?_eq (h : Blames position step fault) : fault.position? = some position := by
  cases h <;> rfl

/-! ## Checks in a row -/

theorem andThen_eq_ok_iff {first second : Except ShapeFault Unit} :
    (do first; second) = .ok () ↔ first = .ok () ∧ second = .ok () := by
  cases first <;> simp [bind, Except.bind]

theorem andThen_eq_error_iff {first second : Except ShapeFault Unit} :
    (do first; second) = .error fault ↔
      first = .error fault ∨ first = .ok () ∧ second = .error fault := by
  cases first <;> simp [bind, Except.bind]

/-! ## Keys -/

theorem find?_keys (fields : Fields) (test : String → Bool) :
    (Entries.keys fields).find? test = (fields.find? fun field => test field.1).map Prod.fst := by
  rw [Entries.keys, List.find?_map]
  rfl

theorem checkAllowed_eq (kind : Kind) (allowed : List String) (fields : Fields) :
    checkAllowed kind allowed fields =
      ((Entries.keys fields).find? (!allowed.contains ·)).elim (.ok ()) fun stray =>
        .error (.strayField kind allowed stray) := by
  rw [find?_keys]
  unfold checkAllowed
  cases fields.find? fun field => !allowed.contains field.1 <;> rfl

/-- Whether members are allowed is told by their keys. -/
theorem checkAllowed_congr {others : Fields} (h : Entries.keys others = Entries.keys fields)
    (kind : Kind) (allowed : List String) :
    checkAllowed kind allowed others = checkAllowed kind allowed fields := by
  rw [checkAllowed_eq, checkAllowed_eq, h]

theorem checkAllowed_eq_ok_iff {allowed : List String} :
    checkAllowed kind allowed fields = .ok () ↔ ∀ key ∈ Entries.keys fields, key ∈ allowed := by
  rw [checkAllowed_eq]
  cases hstray : (Entries.keys fields).find? (!allowed.contains ·) with
  | none => simpa using List.find?_eq_none.mp hstray
  | some stray =>
      have hmem := List.mem_of_find?_eq_some hstray
      have hnot := List.find?_some hstray
      simp only [Option.elim_some, reduceCtorEq, false_iff, not_forall]
      exact ⟨stray, hmem, by simpa using hnot⟩

theorem position?_of_checkAllowed {allowed : List String}
    (h : checkAllowed kind allowed fields = .error fault) : fault.position? = none := by
  unfold checkAllowed at h
  split at h
  · cases h
    rfl
  · cases h

theorem checkRequired_eq_ok_iff {key : String} :
    checkRequired kind [key] fields = .ok () ↔ key ∈ Entries.keys fields := by
  rw [Entries.mem_keys_iff]
  unfold checkRequired
  cases hfound : fields.lookup key <;> simp [hfound]

theorem position?_of_checkRequired {required : List String}
    (h : checkRequired kind required fields = .error fault) : fault.position? = none := by
  unfold checkRequired at h
  split at h
  · cases h
    rfl
  · cases h

/-! ## Descriptions -/

theorem isBlankText_eq_false_iff {text : String} :
    isBlankText text = false ↔ ∃ c ∈ text.toList, Text.isBlank c = false := by
  simp [isBlankText]

theorem checkDescription_eq_ok_iff : checkDescription fields = .ok () ↔ Described fields := by
  unfold checkDescription Described
  split
  next hnone => simp [hnone]
  next text hfound =>
    rw [hfound]
    cases hblank : isBlankText text with
    | true => simpa [isBlankText] using hblank
    | false => simpa using isBlankText_eq_false_iff.mp hblank
  next found hother hfound =>
    rw [hfound]
    simp only [reduceCtorEq, Option.some.injEq, false_iff, not_exists, not_and]
    exact fun text htext => absurd htext (hother text)

theorem position?_of_checkDescription (h : checkDescription fields = .error fault) :
    fault.position? = none := by
  unfold checkDescription at h
  split at h
  · cases h
    rfl
  · split at h <;> cases h
    rfl
  · cases h
    rfl

/-! ## Steps of pipelines -/

theorem checkProcessor_object (position : Nat) (entry : Fields) :
    checkProcessor position (.object entry) =
      ((Entries.keys entry).find? (!isKnownProcessor ·)).elim (.ok ()) fun name =>
        .error (.unknownProcessor position name) := by
  rw [find?_keys]
  dsimp only [checkProcessor]
  cases entry.find? fun field => !isKnownProcessor field.1 <;> rfl

theorem checkProcessor_eq_ok_iff : checkProcessor position step = .ok () ↔ IsProcessor step := by
  cases step with
  | object entry =>
      rw [checkProcessor_object]
      cases hunknown : (Entries.keys entry).find? (!isKnownProcessor ·) with
      | none =>
          simpa [IsProcessor, isKnownProcessor] using List.find?_eq_none.mp hunknown
      | some name =>
          have hmem := List.mem_of_find?_eq_some hunknown
          have hnot := List.find?_some hunknown
          simp only [Option.elim_some, reduceCtorEq, IsProcessor, Json.object.injEq, false_iff,
            not_exists, not_and, forall_eq', not_forall]
          exact ⟨name, hmem, by simpa [isKnownProcessor] using hnot⟩
  | null | bool | number | string | array => simp [checkProcessor, IsProcessor]

theorem checkProcessor_eq_error_iff :
    checkProcessor position step = .error fault ↔ Blames position step fault := by
  constructor
  · intro h
    cases step with
    | object entry =>
        rw [checkProcessor_object] at h
        cases hunknown : (Entries.keys entry).find? (!isKnownProcessor ·) with
        | none => simp [hunknown] at h
        | some name =>
            obtain ⟨hnot, known, rest, hkeys, hknown⟩ := List.find?_eq_some_iff_append.mp hunknown
            simp only [hunknown, Option.elim_some, Except.error.injEq] at h
            subst h
            exact .unknown hkeys (by simpa [isKnownProcessor] using hknown)
              (by simpa [isKnownProcessor] using hnot)
    | null | bool | number | string | array =>
        cases h
        exact .notObject rfl
  · rintro (hfields | ⟨hkeys, hknown, hname⟩)
    · cases step <;> first | rfl | cases hfields
    · rename_i entry known rest name
      have hfound : (Entries.keys entry).find? (!isKnownProcessor ·) = some name :=
        List.find?_eq_some_iff_append.mpr ⟨by simpa [isKnownProcessor] using hname, known, rest,
          hkeys, by simpa [isKnownProcessor] using hknown⟩
      rw [checkProcessor_object, hfound]
      rfl

theorem checkProcessorList_eq_ok_iff :
    checkProcessorList position steps = .ok () ↔ ∀ step ∈ steps, IsProcessor step := by
  induction steps generalizing position with
  | nil => simp [checkProcessorList]
  | cons step steps ih =>
      rw [checkProcessorList, andThen_eq_ok_iff, checkProcessor_eq_ok_iff, ih,
        List.forall_mem_cons]

/-- The steps in front of the one complained about are processors. -/
theorem checkProcessorList_eq_error_iff :
    checkProcessorList position steps = .error fault ↔
      ∃ before step after, steps = before ++ step :: after ∧
        (∀ earlier ∈ before, IsProcessor earlier) ∧
          Blames (position + before.length) step fault := by
  induction steps generalizing position with
  | nil => simp [checkProcessorList]
  | cons first steps ih =>
      rw [checkProcessorList, andThen_eq_error_iff, checkProcessor_eq_error_iff,
        checkProcessor_eq_ok_iff, ih]
      constructor
      · rintro (hblames | ⟨hfirst, before, step, after, rfl, hbefore, hblames⟩)
        · exact ⟨[], first, steps, rfl, by simp, hblames⟩
        · refine ⟨first :: before, step, after, rfl, List.forall_mem_cons.mpr ⟨hfirst, hbefore⟩, ?_⟩
          rw [List.length_cons, Nat.add_comm before.length 1, ← Nat.add_assoc]
          exact hblames
      · rintro ⟨before, step, after, hsteps, hbefore, hblames⟩
        cases before with
        | nil =>
            obtain ⟨rfl, rfl⟩ := List.cons.inj hsteps
            exact .inl hblames
        | cons earlier before =>
            obtain ⟨rfl, rfl⟩ := List.cons.inj hsteps
            obtain ⟨hfirst, hbefore⟩ := List.forall_mem_cons.mp hbefore
            rw [List.length_cons, Nat.add_comm before.length 1, ← Nat.add_assoc] at hblames
            exact .inr ⟨hfirst, before, step, after, rfl, hbefore, hblames⟩

theorem checkProcessors_eq_ok_iff :
    checkProcessors fields = .ok () ↔
      ∃ steps, fields.lookup "processors" = some (.array steps) ∧
        ∀ step ∈ steps, IsProcessor step := by
  unfold checkProcessors
  split
  next hnone => simp [hnone]
  next steps hfound => simp [hfound, checkProcessorList_eq_ok_iff]
  next found hother hfound =>
    rw [hfound]
    simp only [reduceCtorEq, Option.some.injEq, false_iff, not_exists, not_and]
    exact fun steps hsteps => absurd hsteps (hother steps)

theorem checkProcessors_eq_error_iff (hposition : fault.position? = some position) :
    checkProcessors fields = .error fault ↔
      ∃ before step after,
        fields.lookup "processors" = some (.array (before ++ step :: after)) ∧
        (∀ earlier ∈ before, IsProcessor earlier) ∧ Blames before.length step fault := by
  unfold checkProcessors
  split
  next hnone =>
    rw [hnone]
    simp only [Except.error.injEq, reduceCtorEq, false_and, exists_false, iff_false]
    rintro rfl
    cases hposition
  next steps hfound =>
    simp [hfound, checkProcessorList_eq_error_iff]
  next found hother hfound =>
    rw [hfound]
    simp only [Except.error.injEq, Option.some.injEq]
    constructor
    · rintro rfl
      cases hposition
    · rintro ⟨before, step, after, hsteps, -⟩
      exact absurd hsteps (hother _)

/-! ## Models -/

theorem checkFields_eq_ok_iff : checkFields kind fields = .ok () ↔ IsModel kind fields := by
  cases kind with
  | index => exact checkAllowed_eq_ok_iff
  | template =>
      rw [checkFields, andThen_eq_ok_iff, checkAllowed_eq_ok_iff, checkRequired_eq_ok_iff]
      rfl
  | pipeline =>
      rw [checkFields, andThen_eq_ok_iff, andThen_eq_ok_iff, checkAllowed_eq_ok_iff,
        checkDescription_eq_ok_iff, checkProcessors_eq_ok_iff]
      rfl

/-- Only the last check of a pipeline complains about a step. -/
theorem checkFields_eq_error_iff (hposition : fault.position? = some position) :
    checkFields kind fields = .error fault ↔
      kind = .pipeline ∧ (∀ key ∈ Entries.keys fields, key ∈ ["description", "processors"]) ∧
        Described fields ∧ checkProcessors fields = .error fault := by
  have hallowed (kind : Kind) (allowed : List String) :
      checkAllowed kind allowed fields ≠ .error fault := by
    intro h
    simp [position?_of_checkAllowed h] at hposition
  have hrequired (kind : Kind) (required : List String) :
      checkRequired kind required fields ≠ .error fault := by
    intro h
    simp [position?_of_checkRequired h] at hposition
  have hdescription : checkDescription fields ≠ .error fault := by
    intro h
    simp [position?_of_checkDescription h] at hposition
  cases kind with
  | index => simp [checkFields, hallowed]
  | template =>
      rw [checkFields, andThen_eq_error_iff]
      simp [hallowed, hrequired]
  | pipeline =>
      rw [checkFields, andThen_eq_error_iff, andThen_eq_error_iff, checkAllowed_eq_ok_iff,
        checkDescription_eq_ok_iff]
      simp [hallowed, hdescription, pipelineFields]

/-- What is wrong with a document as a model of a kind. -/
def verdict (kind : Kind) : Json → Except ShapeFault Unit
  | .object fields => checkFields kind fields
  | other => .error (.notAnObject other)

theorem checkShape_of_parse {root : Json} (h : Json.parse body = .ok root) :
    checkShape kind body = (verdict kind root).mapError .shape := by
  unfold checkShape
  rw [h]
  cases root <;> rfl

theorem verdict_eq_ok_iff {root : Json} :
    verdict kind root = .ok () ↔ ∃ fields, root = .object fields ∧ IsModel kind fields := by
  cases root with
  | object fields => simp [verdict, checkFields_eq_ok_iff]
  | null | bool | number | string | array => simp [verdict]

theorem verdict_eq_error_iff {root : Json} (hposition : fault.position? = some position) :
    verdict kind root = .error fault ↔
      kind = .pipeline ∧ ∃ fields before step after, root = .object fields ∧
        (∀ key ∈ Entries.keys fields, key ∈ ["description", "processors"]) ∧ Described fields ∧
        fields.lookup "processors" = some (.array (before ++ step :: after)) ∧
        (∀ earlier ∈ before, IsProcessor earlier) ∧ Blames before.length step fault := by
  cases root with
  | object fields =>
      rw [verdict, checkFields_eq_error_iff hposition, checkProcessors_eq_error_iff hposition]
      simp
  | null | bool | number | string | array =>
      simp only [verdict, Except.error.injEq, reduceCtorEq, false_and, exists_false, and_false,
        iff_false]
      rintro rfl
      cases hposition

/-! ## Verdicts and doubles -/

theorem checkRequired_blurred (kind : Kind) (required : List String) (fields : Fields) :
    checkRequired kind required (Entries.mapValues Json.blurred fields) =
      (checkRequired kind required fields).mapError ShapeFault.blurred := by
  simp only [checkRequired, Entries.lookup_mapValues, Option.isNone_map]
  cases required.find? fun key => (fields.lookup key).isNone <;> rfl

theorem checkDescription_blurred (fields : Fields) :
    checkDescription (Entries.mapValues Json.blurred fields) =
      (checkDescription fields).mapError ShapeFault.blurred := by
  unfold checkDescription
  rw [Entries.lookup_mapValues]
  cases fields.lookup "description" with
  | none => rfl
  | some found =>
      cases found with
      | string text =>
          dsimp only [Option.map_some, Json.blurred]
          cases isBlankText text <;> rfl
      | null | bool | number | array | object => rfl

theorem checkProcessor_blurred (position : Nat) (step : Json) :
    checkProcessor position step.blurred =
      (checkProcessor position step).mapError ShapeFault.blurred := by
  cases step with
  | object entry =>
      rw [Json.blurred_object, checkProcessor_object, checkProcessor_object, Entries.keys_mapValues]
      cases (Entries.keys entry).find? (!isKnownProcessor ·) <;> rfl
  | null | bool | number | string | array => rfl

theorem checkProcessorList_blurred (position : Nat) (steps : List Json) :
    checkProcessorList position (steps.map Json.blurred) =
      (checkProcessorList position steps).mapError ShapeFault.blurred := by
  induction steps generalizing position with
  | nil => rfl
  | cons step steps ih =>
      rw [List.map_cons, checkProcessorList, checkProcessorList, checkProcessor_blurred, ih]
      cases checkProcessor position step <;> rfl

theorem checkProcessors_blurred (fields : Fields) :
    checkProcessors (Entries.mapValues Json.blurred fields) =
      (checkProcessors fields).mapError ShapeFault.blurred := by
  unfold checkProcessors
  rw [Entries.lookup_mapValues]
  cases fields.lookup "processors" with
  | none => rfl
  | some found =>
      cases found with
      | array steps =>
          rw [Option.map_some, Json.blurred_array]
          exact checkProcessorList_blurred 0 steps
      | null | bool | number | string | object => rfl

theorem checkAllowed_blurred (kind : Kind) (allowed : List String) (fields : Fields) :
    checkAllowed kind allowed (Entries.mapValues Json.blurred fields) =
      (checkAllowed kind allowed fields).mapError ShapeFault.blurred := by
  rw [checkAllowed_congr (Entries.keys_mapValues Json.blurred fields), checkAllowed_eq]
  cases (Entries.keys fields).find? (!allowed.contains ·) <;> rfl

theorem verdict_blurred (kind : Kind) (root : Json) :
    verdict kind root.blurred = (verdict kind root).mapError ShapeFault.blurred := by
  cases root with
  | object fields =>
      rw [Json.blurred_object, verdict, verdict]
      cases kind with
      | index => exact checkAllowed_blurred ..
      | template =>
          rw [checkFields, checkFields, checkAllowed_blurred, checkRequired_blurred]
          cases checkAllowed .template templateFields fields <;> rfl
      | pipeline =>
          rw [checkFields, checkFields, checkAllowed_blurred, checkDescription_blurred,
            checkProcessors_blurred]
          cases checkAllowed .pipeline pipelineFields fields with
          | error fault => rfl
          | ok =>
              cases checkDescription fields <;> rfl
  | null | bool | number | string | array => rfl

/-- The verdict on a text and the complaint in words. -/
def complaint (kind : Kind) (body : String) : Except String Unit :=
  (checkShape kind body).mapError ModelError.message

theorem complaint_of_parse {root : Json} (h : Json.parse body = .ok root) :
    complaint kind body =
      (verdict kind root.blurred).mapError fun fault => (ModelError.shape fault).message := by
  rw [complaint, checkShape_of_parse h, verdict_blurred]
  cases verdict kind root with
  | ok => rfl
  | error fault =>
      unfold Except.mapError ModelError.message
      dsimp only
      rw [fault.message_blurred]

theorem complaint_eq_of_reordered {other : String} {v w root found : Json}
    (hroot : Json.parse body = .ok root) (hfound : Json.parse other = .ok found)
    (hv : v.AllNumbers Number.inRange) (h : Json.Reordered v w) (hbody : v.IsText body)
    (hother : w.IsText other) : complaint kind body = complaint kind other := by
  rw [complaint_of_parse hroot, complaint_of_parse hfound,
    Json.blurred_eq_of_reordered hv h hbody hother hroot hfound]

/-! ## Texts -/

theorem checkShape_eq_ok_iff :
    checkShape kind body = .ok () ↔
      ∃ fields, Json.parse body = .ok (.object fields) ∧ IsModel kind fields := by
  cases hparse : Json.parse body with
  | error reason => simp [checkShape, hparse]
  | ok root =>
      rw [checkShape_of_parse hparse]
      have hverdict := @verdict_eq_ok_iff kind root
      cases hjudged : verdict kind root <;> simp_all [Except.mapError]

theorem checkShape_eq_invalidJson_iff {checkedAs : Option Kind} {reason : Json.ReadError} :
    checkShape kind body = .error (.invalidJson checkedAs reason) ↔
      checkedAs = some kind ∧ Json.parse body = .error reason := by
  cases hparse : Json.parse body with
  | error found => simp [checkShape, hparse, eq_comm]
  | ok root =>
      rw [checkShape_of_parse hparse]
      cases verdict kind root <;> simp [Except.mapError]

theorem checkShape_eq_shape_iff :
    checkShape kind body = .error (.shape fault) ↔
      ∃ root, Json.parse body = .ok root ∧ verdict kind root = .error fault := by
  cases hparse : Json.parse body with
  | error reason => simp [checkShape, hparse]
  | ok root =>
      rw [checkShape_of_parse hparse]
      cases hjudged : verdict kind root <;> simp [Except.mapError, hjudged]

theorem exists_shape_iff :
    (∃ fault, checkShape kind body = .error (.shape fault)) ↔
      ∃ root, Json.parse body = .ok root ∧
        ¬∃ fields, root = .object fields ∧ IsModel kind fields := by
  simp only [checkShape_eq_shape_iff, ← verdict_eq_ok_iff]
  constructor
  · rintro ⟨fault, root, hparse, hverdict⟩
    exact ⟨root, hparse, by simp [hverdict]⟩
  · rintro ⟨root, hparse, hverdict⟩
    cases hjudged : verdict kind root with
    | ok => exact absurd hjudged hverdict
    | error fault => exact ⟨fault, root, hparse, hjudged⟩

/-- A step is complained about when all before it are processors. -/
theorem checkShape_step_iff {fault : ShapeFault} {position : Nat}
    (hposition : fault.position? = some position) :
    checkShape kind body = .error (.shape fault) ↔
      kind = .pipeline ∧ ∃ fields before step after,
        Json.parse body = .ok (.object fields) ∧
        (∀ key ∈ Entries.keys fields, key ∈ ["description", "processors"]) ∧
        Described fields ∧
        fields.lookup "processors" = some (.array (before ++ step :: after)) ∧
        (∀ earlier ∈ before, IsProcessor earlier) ∧ before.length = position ∧
        Blames position step fault := by
  rw [checkShape_eq_shape_iff]
  simp only [verdict_eq_error_iff hposition]
  constructor
  · rintro ⟨root, hparse, hkind, fields, before, step, after, rfl, hkeys, hdescribed, hsteps,
      hbefore, hblames⟩
    obtain rfl : before.length = position :=
      Option.some.inj (hblames.position?_eq.symm.trans hposition)
    exact ⟨hkind, fields, before, step, after, hparse, hkeys, hdescribed, hsteps, hbefore, rfl,
      hblames⟩
  · rintro ⟨hkind, fields, before, step, after, hparse, hkeys, hdescribed, hsteps, hbefore, rfl,
      hblames⟩
    exact ⟨_, hparse, hkind, fields, before, step, after, rfl, hkeys, hdescribed, hsteps,
      hbefore, hblames⟩

/--
A text is accepted when it is an object that the grammar of its kind allows, and
refused as no JSON or for its shape.  What is said of a text depends on its
document, whatever its blanks and the order of its members; a step that is
complained about is the first that is no processor.
-/
theorem checkShape_decides (kind : Kind) (body : String) :
    (checkShape kind body = .ok () ↔
      ∃ fields, Json.parse body = .ok (.object fields) ∧ IsModel kind fields) ∧
    (∀ checkedAs reason, checkShape kind body = .error (.invalidJson checkedAs reason) ↔
      checkedAs = some kind ∧ Json.parse body = .error reason) ∧
    ((∃ fault, checkShape kind body = .error (.shape fault)) ↔
      ∃ root, Json.parse body = .ok root ∧
        ¬∃ fields, root = .object fields ∧ IsModel kind fields) ∧
    (∀ other root, Json.parse body = .ok root → Json.parse other = .ok root →
      checkShape kind body = checkShape kind other) ∧
    (∀ other v w root found, Json.parse body = .ok root → Json.parse other = .ok found →
      v.AllNumbers Number.inRange → Json.Reordered v w → v.IsText body → w.IsText other →
        complaint kind body = complaint kind other) ∧
    ∀ fault position, fault.position? = some position →
      (checkShape kind body = .error (.shape fault) ↔
        kind = .pipeline ∧ ∃ fields before step after,
          Json.parse body = .ok (.object fields) ∧
          (∀ key ∈ Entries.keys fields, key ∈ ["description", "processors"]) ∧
          Described fields ∧
          fields.lookup "processors" = some (.array (before ++ step :: after)) ∧
          (∀ earlier ∈ before, IsProcessor earlier) ∧ before.length = position ∧
          Blames position step fault) := by
  refine ⟨checkShape_eq_ok_iff, fun _ _ => checkShape_eq_invalidJson_iff, exists_shape_iff, ?same,
    fun _ _ _ _ _ hroot hfound hv h hbody hother =>
      complaint_eq_of_reordered hroot hfound hv h hbody hother, fun _ _ => checkShape_step_iff⟩
  case same =>
    intro other root hbody hother
    rw [checkShape_of_parse hbody, checkShape_of_parse hother]

/-- The second step of a pipeline is misspelt. -/
def misspelt : Json :=
  .object [("processors", .array [.object [("set", .object [])], .object [("gorkk", .object [])]]),
    ("description", .string "Extracts the level")]

def misspeltFields : Fields :=
  [("description", .string "Extracts the level"),
    ("processors", .array [.object [("set", .object [])], .object [("gorkk", .object [])]])]

/-- The same complaint is made of the compact and of the pretty text, the members turned round. -/
theorem misspelt_refused :
    checkShape .pipeline misspelt.compact = .error (.shape (.unknownProcessor 1 "gorkk")) ∧
      complaint .pipeline misspelt.compact =
        complaint .pipeline (Json.object misspeltFields).pretty := by
  have hparse : Json.parse misspelt.compact = .ok (.object misspeltFields) := by decide +kernel
  have hpretty : Json.parse (Json.object misspeltFields).pretty = .ok (.object misspeltFields) := by
    decide +kernel
  have hbody : misspelt.IsText misspelt.compact :=
    ⟨[], _, [], by simp [Json.compact], Json.blanks_nil, Json.layout_compact _, Json.blanks_nil⟩
  have hother : (Json.object misspeltFields).IsText (Json.object misspeltFields).pretty :=
    ⟨[], _, [], by simp [Json.pretty], Json.blanks_nil, Json.layout_pretty _ 0, Json.blanks_nil⟩
  have hswapped : Json.Reordered misspelt (.object misspeltFields) :=
    .single (.here (by decide) [] [])
  have hblames : Blames 1 (.object [("gorkk", .object [])]) (.unknownProcessor 1 "gorkk") :=
    @Blames.unknown 1 _ [] [] _ rfl (by simp) (by decide)
  obtain ⟨-, -, -, -, hreordered, hfirst⟩ := checkShape_decides .pipeline misspelt.compact
  refine ⟨(hfirst _ 1 rfl).mpr ⟨rfl, misspeltFields, [.object [("set", .object [])]],
    .object [("gorkk", .object [])], [], hparse, by decide, ⟨_, rfl, 'E', by decide, by decide⟩,
    rfl, ?_, rfl, hblames⟩,
    hreordered _ _ _ _ _ hparse hpretty ?_ hswapped hbody hother⟩
  · intro earlier hearlier
    obtain rfl := List.mem_singleton.mp hearlier
    exact ⟨_, rfl, by decide⟩
  · simp [misspelt, Json.AllNumbers, Json.AllNumbersFields, Json.AllNumbersItems]

end Model

end SchemaKeeper
