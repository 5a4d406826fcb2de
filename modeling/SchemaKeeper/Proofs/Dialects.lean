import SchemaKeeper.Gateway.Wire
import SchemaKeeper.Proofs.Model

/-!
# Templates in all dialects

A template is a document with an order.  Versions 6 and 7 have the order inside
the document and version 8 has it in the query, so each request tells both.  What
is said about type names depends on the mapping of the model alone, and version 8
is told nothing about them.
-/

namespace SchemaKeeper

theorem Number.toText_integer (n : Int) : (Number.integer n).toText = toString n := by
  apply String.toList_injective
  cases n with
  | ofNat m => simp [toText, toChars, toString, Int.repr]
  | negSucc m => simp [toText, toChars, toString, Int.repr, Int.natAbs]

theorem Entries.erase_insert_of_lookup {α : Type} {entries : Entries α} (h : Ordered entries)
    {key : String} (hfree : entries.lookup key = none) (value : α) :
    erase key (insert key value entries) = entries := by
  refine eq_of_lookup_eq (ordered_erase (ordered_insert h)) h fun other => ?_
  by_cases heq : other = key
  · rw [heq, lookup_erase_self, hfree]
  · rw [lookup_erase_of_ne heq, lookup_insert_of_ne heq]

/-! ## Mappings that tell about types -/

namespace Model

variable {model : String} {root : Json} {mapping : List (String × Json)}

/-- A model with members inside its mapping. -/
def HasMapping (model : String) (mapping : List (String × Json)) : Prop :=
  ∃ root, Json.parse model = .ok root ∧
    root.field? "mappings" = some (.object mapping) ∧ mapping ≠ []

theorem mappingFields_eq_some_iff :
    mappingFields root = some mapping ↔
      root.field? "mappings" = some (.object mapping) ∧ mapping ≠ [] := by
  constructor
  · intro h
    refine ⟨mappingFields_eq_some h, ?_⟩
    rintro rfl
    simp [mappingFields, mappingFields_eq_some h, Json.fields?] at h
  · rintro ⟨hfield, hne⟩
    obtain ⟨first, rest, rfl⟩ := List.exists_cons_of_ne_nil hne
    simp [mappingFields, hfield, Json.fields?]

theorem hasMapping_iff :
    HasMapping model mapping ↔
      (Json.parse model).toOption.bind mappingFields = some mapping := by
  cases hparse : Json.parse model <;>
    simp [HasMapping, hparse, Except.toOption, mappingFields_eq_some_iff]

theorem includeTypeName_typeWrapping (model : String) :
    (typeWrapping model).includeTypeName =
      ((Json.parse model).toOption.bind mappingFields).map
        fun mapping => (mapping.lookup "properties").isNone := by
  unfold typeWrapping
  cases Json.parse model with
  | error e => rfl
  | ok root =>
      cases hfields : mappingFields root with
      | none => simp [hfields, Except.toOption, TypeWrapping.includeTypeName]
      | some mapping =>
          cases hfound : mapping.lookup "properties" <;>
            simp [hfields, hfound, Except.toOption, TypeWrapping.includeTypeName]

theorem includeTypeName_eq_some_iff {flag : Bool} :
    (typeWrapping model).includeTypeName = some flag ↔
      ∃ mapping, HasMapping model mapping ∧
        (flag = true ↔ "properties" ∉ Entries.keys mapping) := by
  have hkey (mapping : List (String × Json)) :
      (mapping.lookup "properties").isNone = flag ↔
        (flag = true ↔ "properties" ∉ Entries.keys mapping) := by
    rw [Entries.mem_keys_iff]
    cases mapping.lookup "properties" <;> cases flag <;> simp
  simp only [includeTypeName_typeWrapping, Option.map_eq_some_iff, ← hasMapping_iff, hkey]

end Model

/-! ## Requests -/

/-- The model that a call sends and of which the cluster may be told whether it names types. -/
def Call.typedModel? : Call → Option String
  | .createIndex _ model | .putTemplate _ model _ => some model
  | _ => none

namespace Wire

variable {version : Version} {c : Call} {model name : String} {fields : List (String × Json)}

theorem mem_typeNameParameters {flag : Option Bool} {value : String} :
    ("include_type_name", value) ∈ typeNameParameters flag ↔
      ∃ told, flag = some told ∧ value = if told then "true" else "false" := by
  cases flag <;> simp [typeNameParameters]

theorem key_of_mem_typeNameParameters {flag : Option Bool} {parameter : String × String}
    (h : parameter ∈ typeNameParameters flag) : parameter.1 = "include_type_name" := by
  cases flag with
  | none => simp [typeNameParameters] at h
  | some told =>
      obtain rfl := List.mem_singleton.mp h
      rfl

/-! ## Types -/

/-- A version that knows types is told about them as the mapping of a model has it. -/
theorem typeNameFlag_eq_some_iff (hversion : version ≠ .v8) {flag : Bool} :
    version.typeNameFlag model = some flag ↔
      ∃ mapping, Model.HasMapping model mapping ∧
        (flag = true ↔ "properties" ∉ Entries.keys mapping) := by
  have hflag : version.typeNameFlag model = (Model.typeWrapping model).includeTypeName := by
    cases version <;> first | rfl | contradiction
  rw [hflag, Model.includeTypeName_eq_some_iff]

theorem parameters_of_typedModel (hmodel : c.typedModel? = some model) {value : String} :
    ("include_type_name", value) ∈ (request version c).parameters ↔
      ("include_type_name", value) ∈ typeNameParameters (version.typeNameFlag model) := by
  cases c with
  | createIndex index sent =>
      obtain rfl := Option.some.inj hmodel
      rfl
  | putTemplate name sent order =>
      obtain rfl := Option.some.inj hmodel
      cases order <;> cases version <;> simp [request, templateRequest, Version.templateOrder]
  | _ => cases hmodel

theorem parameters_v8 (c : Call) :
    (request .v8 c).parameters =
      match c with
      | .putTemplate _ _ (some order) => [("order", orderText order)]
      | _ => [] := by
  cases c with
  | putTemplate name model order => cases order <;> rfl
  | _ => rfl

/-! ## Orders -/

theorem parse_bodyWithOrder (hparse : Json.parse model = .ok (.object fields))
    (hwhole : (Json.object fields).Whole) (order : Int64) :
    Json.parse (bodyWithOrder model order) =
      .ok (.object (Entries.insert "order" (.ofInt order.toInt) fields)) := by
  have hfields := Json.sound_of_parse hparse
  have hrange : (Json.ofInt order.toInt).wellFormed := by
    have hleast := order.le_toInt
    have hmost := order.toInt_lt
    simp only [Json.ofInt, Json.wellFormed, Number.inRange, Number.leastInteger,
      Number.integerBound]
    omega
  have hnumber : (Json.ofInt order.toInt).Whole := ⟨order.toInt, rfl⟩
  have hdepth : (Json.object (Entries.insert "order" (.ofInt order.toInt) fields)).depth ≤
      Json.Reader.nestingLimit := by
    have hshallow := hfields.shallow
    simp only [Json.depth, Json.Reader.nestingLimit] at hshallow ⊢
    have hnone : (Json.ofInt order.toInt).depth ≤ 126 := by simp [Json.ofInt, Json.depth]
    have hinner := Json.depthFields_insert_le (Nat.le_of_succ_le_succ hshallow) hnone "order"
    omega
  rw [bodyWithOrder, hparse]
  exact Json.parse_compact (Json.wellFormed_insert hfields.wellFormed hrange "order")
    (Json.allNumbers_insert hwhole hnumber "order") hdepth

/-! ## One template -/

/--
The requests that put a template, by version: what they carry can be taken apart
again into the model and the order.
-/
structure Puts (fields : List (String × Json)) (model name : String) (order : Option Int64)
    (put : Version → Request) : Prop where
  same : put .v6 = put .v7
  unasked : ∀ value, ("order", value) ∉ (put .v7).parameters
  bare : order = none → (put .v7).body = some model
  inside : ∀ n, order = some n → ∃ text changed, (put .v7).body = some text ∧
    Json.parse text = .ok (.object changed) ∧ changed.lookup "order" = some (.ofInt n.toInt) ∧
      Entries.erase "order" changed = fields
  untouched : (put .v8).body = some model
  asked : (put .v8).parameters = (order.map fun n => ("order", toString n.toInt)).toList
  target_v8 : (put .v8).target =
    "/_template/" ++ name ++ order.elim "" fun n => "?order=" ++ toString n.toInt
  target_v7 : (put .v7).target = "/_template/" ++ name ++
    (Version.v7.typeNameFlag model).elim "" fun flag => "?include_type_name=" ++ toString flag

theorem puts_template (hparse : Json.parse model = .ok (.object fields))
    (hwhole : (Json.object fields).Whole) (hfree : fields.lookup "order" = none) (name : String)
    (order : Option Int64) :
    Puts fields model name order fun version =>
      request version (.putTemplate name model order) where
  same := by cases order <;> rfl
  unasked value hvalue := by
    have hflag : ("order", value) ∈ typeNameParameters (Version.v7.typeNameFlag model) := by
      cases order <;> exact hvalue
    simpa using key_of_mem_typeNameParameters hflag
  bare hnone := by
    subst hnone
    rfl
  inside n hsome := by
    subst hsome
    refine ⟨_, _, rfl, parse_bodyWithOrder hparse hwhole n, Entries.lookup_insert_self .., ?_⟩
    exact Entries.erase_insert_of_lookup
      (Json.wellFormed_object.mp (Json.wellFormed_of_parse hparse)).1 hfree _
  untouched := by cases order <;> rfl
  asked := by
    rw [parameters_v8]
    cases order with
    | none => rfl
    | some n => simp [orderText, Number.toText_integer]
  target_v8 := by
    cases order with
    | none =>
        simp [Request.target, request, templateRequest, typeNameParameters,
          Version.typeNameFlag, toString]
    | some n =>
        apply String.toList_injective
        simp [Request.target, request, templateRequest, typeNameParameters,
          Version.typeNameFlag, Version.templateOrder, orderText, Number.toText_integer, toString]
  target_v7 := by
    apply String.toList_injective
    cases hflag : Version.v7.typeNameFlag model with
    | none =>
        cases order <;> simp [Request.target, request, templateRequest, typeNameParameters, hflag,
          Version.templateOrder, toString]
    | some told =>
        cases order <;> cases told <;> simp [Request.target, request, templateRequest,
          typeNameParameters, hflag, Version.templateOrder, toString]

/--
Whatever the dialect, the request that puts a template tells its model and its
order.  Versions 6 and 7 are told of a mapping with members whether it names a
type, and version 8 is told nothing of types by any call.
-/
theorem template_in_all_dialects :
    (∀ (model name : String) (fields : List (String × Json)) (order : Option Int64),
      Json.parse model = .ok (.object fields) → (Json.object fields).Whole →
        fields.lookup "order" = none →
          Puts fields model name order fun version =>
            request version (.putTemplate name model order)) ∧
    (∀ (version : Version) (c : Call) (model value : String), version ≠ .v8 →
      c.typedModel? = some model →
        (("include_type_name", value) ∈ (request version c).parameters ↔
          ∃ mapping, Model.HasMapping model mapping ∧
            value = if "properties" ∈ Entries.keys mapping then "false" else "true")) ∧
    ∀ (c : Call) (value : String), ("include_type_name", value) ∉ (request .v8 c).parameters := by
  refine ⟨fun model name fields order hparse hwhole hfree =>
    puts_template hparse hwhole hfree name order, ?_, ?_⟩
  · intro version c model value hversion hmodel
    rw [parameters_of_typedModel hmodel, mem_typeNameParameters]
    constructor
    · rintro ⟨told, htold, rfl⟩
      obtain ⟨mapping, hmapping, hkey⟩ := (typeNameFlag_eq_some_iff hversion).mp htold
      refine ⟨mapping, hmapping, ?_⟩
      cases told <;> simp_all
    · rintro ⟨mapping, hmapping, rfl⟩
      refine ⟨!decide ("properties" ∈ Entries.keys mapping),
        (typeNameFlag_eq_some_iff hversion).mpr ⟨mapping, hmapping, by simp⟩, ?_⟩
      by_cases hkey : "properties" ∈ Entries.keys mapping <;> simp [hkey]
  · intro c value hmem
    rw [parameters_v8] at hmem
    split at hmem <;> simp at hmem

def logsModel : String :=
  "\x7b\"index_patterns\": [\"logs-*\"], \"mappings\": \x7b\"_doc\": \x7b\x7d\x7d\x7d"

def logsFields : List (String × Json) :=
  [("index_patterns", .array [.string "logs-*"]),
    ("mappings", .object [("_doc", .object [])])]

/-- A typed template with an order below zero. -/
theorem logs_in_all_dialects :
    Json.parse logsModel = .ok (.object logsFields) ∧ (Json.object logsFields).Whole ∧
      logsFields.lookup "order" = none ∧
      (Puts logsFields logsModel "logs" (some (-5)) fun version =>
        request version (.putTemplate "logs" logsModel (some (-5)))) ∧
      ("include_type_name", "true") ∈
        (request .v7 (.putTemplate "logs" logsModel (some (-5)))).parameters ∧
      (request .v8 (.putTemplate "logs" logsModel (some (-5)))).target =
        "/_template/logs?order=-5" := by
  have hparse : Json.parse logsModel = .ok (.object logsFields) := by decide +kernel
  have hwhole : (Json.object logsFields).Whole := by
    simp [logsFields, Json.Whole, Json.AllNumbers, Json.AllNumbersFields, Json.AllNumbersItems]
  obtain ⟨hputs, htypes, -⟩ := template_in_all_dialects
  have hlogs := hputs logsModel "logs" logsFields (some (-5)) hparse hwhole rfl
  have hmapping : Model.HasMapping logsModel [("_doc", .object [])] :=
    ⟨_, hparse, rfl, by simp⟩
  refine ⟨hparse, hwhole, rfl, hlogs, ?_, hlogs.target_v8⟩
  exact (htypes .v7 _ logsModel "true" (by decide) rfl).mpr ⟨_, hmapping, by decide⟩

end Wire

end SchemaKeeper
