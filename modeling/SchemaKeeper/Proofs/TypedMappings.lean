import SchemaKeeper.Proofs.Shape
import SchemaKeeper.Proofs.Steps

/-!
# Typed and untyped mappings

A pass over an index reads four things out of a model: whether its shape is
allowed, the two counts, and the mapping tree.  To wrap a mapping in a type name
changes none of them, so a pass over an index that is there cannot tell the two
models apart, and a cluster that is asked to create either stores the same index.
-/

namespace SchemaKeeper

/-! ## Keys -/

/-- A key that is there already stays where it is. -/
theorem Entries.keys_insert_of_lookup {α : Type} {entries : Entries α} (h : Ordered entries)
    {key : String} {old : α} (hkey : entries.lookup key = some old) (value : α) :
    (insert key value entries).keys = entries.keys := by
  -- entries without their values are entries to which nothing is added
  let bare := mapValues (fun _ : α => ()) entries
  have hordered : Ordered bare := by
    rw [Ordered, keys_mapValues]
    exact h
  have hsame : insert key () bare = bare :=
    insert_eq_self hordered (by rw [lookup_mapValues, hkey]; rfl)
  calc (insert key value entries).keys
      = (mapValues (fun _ => ()) (insert key value entries)).keys := (keys_mapValues ..).symm
    _ = (insert key () bare).keys := by rw [← insert_mapValues]
    _ = entries.keys := by rw [hsame, keys_mapValues]

namespace Model

variable {body text type : String} {fields mapping : List (String × Json)}

/-! ## Wrapping a mapping -/

/-- The members of a body whose mapping is wrapped in the name of a type. -/
def wrapped (type : String) (fields mapping : List (String × Json)) : List (String × Json) :=
  Entries.insert "mappings" (.object [(type, .object mapping)]) fields

/-- Two bodies, one with its properties right inside the mapping, the other with a type between. -/
structure Wraps (type : String) (fields mapping : List (String × Json)) (found : Json)
    (body text : String) : Prop where
  untyped : Json.parse body = .ok (.object fields)
  mappings : fields.lookup "mappings" = some (.object mapping)
  properties : mapping.lookup "properties" = some found
  name : type ≠ "properties"
  typed : Json.parse text = .ok (.object (wrapped type fields mapping))

/-- What a pass over an index reads out of a model. -/
structure ReadAlike (body text : String) : Prop where
  shape : checkShape .index text = checkShape .index body
  shards : shards text = shards body
  replicas : replicas text = replicas body
  properties : properties text = properties body

theorem mappingFields_object (hmapping : fields.lookup "mappings" = some (.object mapping))
    (hne : mapping ≠ []) : mappingFields (.object fields) = some mapping := by
  obtain ⟨first, rest, rfl⟩ := List.exists_cons_of_ne_nil hne
  simp only [mappingFields, Json.field?, Json.fields?, Option.bind_some, hmapping]

theorem mapping_untyped {found : Json} (hparse : Json.parse body = .ok (.object fields))
    (hmapping : fields.lookup "mappings" = some (.object mapping))
    (hfound : mapping.lookup "properties" = some found) :
    properties body = some (mappingTree found) ∧ typeWrapping body = .absent := by
  have hfields : mappingFields (.object fields) = some mapping := by
    refine mappingFields_object hmapping ?_
    rintro rfl
    cases hfound
  constructor
  · simp only [properties, hparse, Except.toOption, bind, Option.bind_some, hfields, hfound]
    rfl
  · simp only [typeWrapping, hparse, hfields, hfound]
    rfl

theorem mapping_typed {found : Json}
    (hparse : Json.parse text = .ok (.object (wrapped type fields mapping)))
    (hname : type ≠ "properties") (hfound : mapping.lookup "properties" = some found) :
    properties text = some (mappingTree found) ∧ typeWrapping text = .present := by
  have hfields : mappingFields (.object (wrapped type fields mapping)) =
      some [(type, .object mapping)] :=
    mappingFields_object (Entries.lookup_insert_self ..) (List.cons_ne_nil _ _)
  have hdirect : List.lookup "properties" [(type, Json.object mapping)] = none :=
    Entries.lookup_cons_of_ne hname.symm _ []
  have hinner : (Json.object mapping).field? "properties" = some found := hfound
  constructor
  · simp only [properties, hparse, Except.toOption, bind, Option.bind_some, hfields, hdirect,
      List.findSome?_cons, hinner]
    rfl
  · simp only [typeWrapping, hparse, hfields, hdirect]
    rfl

theorem at?_wrapped_of_ne {key : String} (hne : key ≠ "mappings") (path : List String) :
    (Json.object (wrapped type fields mapping)).at? (key :: path) =
      (Json.object fields).at? (key :: path) := by
  have hfield : (Json.object (wrapped type fields mapping)).field? key =
      (Json.object fields).field? key :=
    Entries.lookup_insert_of_ne hne _ fields
  simp only [Json.at?, hfield]

theorem Wraps.readAlike {found : Json} (h : Wraps type fields mapping found body text) :
    ReadAlike body text := by
  have hordered := (Json.wellFormed_object.mp (Json.wellFormed_of_parse h.untyped)).1
  have hkeys : Entries.keys (wrapped type fields mapping) = Entries.keys fields :=
    Entries.keys_insert_of_lookup hordered h.mappings _
  have hcount (key : String) : countAt (.object (wrapped type fields mapping)) ["settings", key] =
      countAt (.object fields) ["settings", key] := by
    rw [countAt, countAt, at?_wrapped_of_ne (by decide)]
  exact {
    shape := by
      simp only [checkShape, h.untyped, h.typed, checkFields, checkAllowed_congr hkeys]
    shards := by
      rw [shards_of_parse h.untyped, shards_of_parse h.typed, hcount]
    replicas := by
      rw [replicas_of_parse h.untyped, replicas_of_parse h.typed, hcount]
    properties := by
      rw [(mapping_untyped h.untyped h.mappings h.properties).1,
        (mapping_typed h.typed h.name h.properties).1] }

end Model

namespace Convergence

open Program (run run_ask run_bind history_bind history_ask)

/-! ## Passes that read alike -/

section

variable {spec : IndexSpec} {text : String} (h : Model.ReadAlike spec.model text)

include h

theorem desiredCounts_congr : desiredCounts { spec with model := text } = desiredCounts spec := by
  simp only [desiredCounts, h.shards, h.replicas]

theorem convergeSettings_congr :
    convergeSettings { spec with model := text } = convergeSettings spec := by
  unfold convergeSettings
  rw [desiredCounts_congr h]
  cases desiredCounts spec with
  | error e => rfl
  | ok desired =>
      refine congrArg (Program.call (.indexSettings spec.name)) (funext fun found => ?_)
      cases found with
      | error e => rfl
      | ok settings => rfl

theorem convergeProperties_congr (ceiling : Nat) :
    convergeProperties ceiling { spec with model := text } = convergeProperties ceiling spec := by
  unfold convergeProperties
  dsimp only
  rw [h.properties]
  cases Model.properties spec.model with
  | none => rfl
  | some tree =>
      refine congrArg (Program.call (.indexProperties spec.name)) (funext fun found => ?_)
      cases found with
      | error e => rfl
      | ok current =>
          cases current with
          | none => rfl
          | some current => rfl

theorem createdIndex_congr : Cluster.createdIndex text = Cluster.createdIndex spec.model := by
  simp only [Cluster.createdIndex, h.shards, h.replicas, h.properties]

/-- Only an answer that there is no index makes a pass use the model as a whole. -/
theorem convergeIndex_congr {World : Type}
    {answer : (c : Call) → World → Except RemoteError c.Answer × World} {world : World}
    (hthere : (answer (.indexExists spec.name) world).1 ≠ .ok false) (ceiling : Nat) :
    (convergeIndex ceiling { spec with model := text }).history answer world =
        (convergeIndex ceiling spec).history answer world ∧
      (convergeIndex ceiling { spec with model := text }).run answer world =
        (convergeIndex ceiling spec).run answer world := by
  unfold convergeIndex
  rw [history_bind, history_bind, run_bind, run_bind, history_ask, run_ask]
  cases hanswer : (answer (.indexExists spec.name) world).1 with
  | error e => exact ⟨rfl, rfl⟩
  | ok there =>
      cases there with
      | false => exact absurd hanswer hthere
      | true =>
          simp only [convergeSettings_congr h, convergeProperties_congr h]
          exact ⟨trivial, trivial⟩

theorem converge_congr {World : Type}
    {answer : (c : Call) → World → Except RemoteError c.Answer × World} {world : World}
    (hthere : (answer (.indexExists spec.name) world).1 ≠ .ok false) (ceiling : Nat) :
    (converge ceiling (.index { spec with model := text })).history answer world =
        (converge ceiling (.index spec)).history answer world ∧
      (converge ceiling (.index { spec with model := text })).run answer world =
        (converge ceiling (.index spec)).run answer world := by
  cases hshape : Model.checkShape .index spec.model with
  | ok =>
      rw [converge_index hshape, @converge_index { spec with model := text } (h.shape.trans hshape)]
      exact convergeIndex_congr h hthere ceiling
  | error e =>
      rw [@converge_misshapen (.index spec) e hshape,
        @converge_misshapen (.index { spec with model := text }) e (h.shape.trans hshape)]
      exact ⟨rfl, rfl⟩

/-- An index that is not there is created with the same counts and mapping tree. -/
theorem indices_converge_congr {cluster : Cluster} (hplain : cluster.scripted = [])
    (habsent : cluster.indices.get? spec.name = none) (ceiling : Nat) :
    ((converge ceiling (.index { spec with model := text })).run Cluster.answer cluster).2.indices =
      ((converge ceiling (.index spec)).run Cluster.answer cluster).2.indices := by
  cases hshape : Model.checkShape .index spec.model with
  | ok =>
      rw [converge_index hshape, @converge_index { spec with model := text } (h.shape.trans hshape),
        run_convergeIndex_create hplain habsent,
        @run_convergeIndex_create cluster hplain { spec with model := text } habsent,
        createdIndex_congr h]
      rfl
  | error e =>
      rw [@converge_misshapen (.index spec) e hshape,
        @converge_misshapen (.index { spec with model := text }) e (h.shape.trans hshape)]

end

/-! ## Typed and untyped models -/

/--
To name a type around a mapping changes what the cluster is told about types and
nothing of what is read out of the model.  Where the index is there, or it cannot
be told whether it is, a pass asks the same and comes to the same; where it is
not, the cluster stores the same index.
-/
theorem typed_converges_as_untyped {type : String} {fields mapping : List (String × Json)}
    {found : Json} {spec : IndexSpec} {text : String}
    (h : Model.Wraps type fields mapping found spec.model text) :
    let untyped := DesiredObject.index spec
    let typed := untyped.withModel text
    (Model.properties untyped.model = some (Model.mappingTree found) ∧
      Model.properties typed.model = Model.properties untyped.model ∧
      Model.shards typed.model = Model.shards untyped.model ∧
      Model.replicas typed.model = Model.replicas untyped.model) ∧
    (Model.typeWrapping untyped.model = .absent ∧ Model.typeWrapping typed.model = .present) ∧
    (∀ (World : Type) (answer : (c : Call) → World → Except RemoteError c.Answer × World)
        (world : World) (ceiling : Nat),
      (answer (.indexExists spec.name) world).1 ≠ .ok false →
        (converge ceiling typed).history answer world =
            (converge ceiling untyped).history answer world ∧
          (converge ceiling typed).run answer world =
            (converge ceiling untyped).run answer world) ∧
    ∀ (cluster : Cluster) (ceiling : Nat), cluster.scripted = [] →
      cluster.indices.get? spec.name = none →
        ((converge ceiling typed).run Cluster.answer cluster).2.indices =
          ((converge ceiling untyped).run Cluster.answer cluster).2.indices := by
  intro untyped typed
  have hread := h.readAlike
  have huntyped := Model.mapping_untyped h.untyped h.mappings h.properties
  have htyped := Model.mapping_typed h.typed h.name h.properties
  refine ⟨⟨huntyped.1, hread.properties, hread.shards, hread.replicas⟩,
    ⟨huntyped.2, htyped.2⟩, ?_, ?_⟩
  · intro World answer world ceiling hthere
    exact converge_congr hread hthere ceiling
  · intro cluster ceiling hplain habsent
    exact indices_converge_congr hread hplain habsent ceiling

def untypedOrders : IndexSpec :=
  ⟨"orders", "main", ⟨1, 1⟩,
    "\x7b\"settings\": \x7b\"number_of_replicas\": \"2\"\x7d, \"mappings\": " ++
      "\x7b\"dynamic\": false, \"properties\": \x7b\"id\": \x7b\"type\": \"keyword\"\x7d\x7d\x7d\x7d"⟩

def typedOrdersText : String :=
  "\x7b\"settings\": \x7b\"number_of_replicas\": \"2\"\x7d, \"mappings\": \x7b\"_doc\": " ++
    "\x7b\"dynamic\": false, \"properties\": " ++
    "\x7b\"id\": \x7b\"type\": \"keyword\"\x7d\x7d\x7d\x7d\x7d"

def ordersTree : Json :=
  .object [("id", .object [("type", .string "keyword")])]

def ordersMapping : List (String × Json) :=
  [("dynamic", .bool false), ("properties", ordersTree)]

def ordersFields : List (String × Json) :=
  [("mappings", .object ordersMapping),
    ("settings", .object [(Model.replicasKey, .string "2")])]

/-- A cluster on which the index has other replicas and a field that the models do not name. -/
def staleCluster : Cluster :=
  Cluster.empty.seedIndex "orders"
    ⟨⟨1, 0⟩, some (Model.mappingTree
      (.object [("total", .object [("type", .string "long")])]))⟩

/-- The replicas are put and the loss of a field is refused, whether a type is named or not. -/
theorem typedOrders_converge :
    Model.Wraps "_doc" ordersFields ordersMapping ordersTree untypedOrders.model typedOrdersText ∧
      Model.typeWrapping typedOrdersText = .present ∧
      (Cluster.answer (.indexExists "orders") staleCluster).1 ≠ .ok false ∧
      (converge 8 ((DesiredObject.index untypedOrders).withModel typedOrdersText)).run
          Cluster.answer staleCluster =
        (converge 8 (.index untypedOrders)).run Cluster.answer staleCluster ∧
      ((converge 8 (.index untypedOrders)).run Cluster.answer staleCluster).2.writes =
        [.putIndexReplicas "orders" 2] ∧
      ((converge 8 ((DesiredObject.index untypedOrders).withModel typedOrdersText)).run
          Cluster.answer Cluster.empty).2.indices =
        ((converge 8 (.index untypedOrders)).run Cluster.answer Cluster.empty).2.indices := by
  have hwraps : Model.Wraps "_doc" ordersFields ordersMapping ordersTree untypedOrders.model
      typedOrdersText :=
    ⟨by decide +kernel, rfl, rfl, by decide, by decide +kernel⟩
  have hthere : (Cluster.answer (.indexExists "orders") staleCluster).1 ≠ .ok false := by
    decide
  obtain ⟨-, hwrapping, hchanged, hcreated⟩ := typed_converges_as_untyped hwraps
  have hput : ((converge 8 (.index untypedOrders)).run Cluster.answer staleCluster).2.writes =
      [.putIndexReplicas "orders" 2] := by
    decide +kernel
  exact ⟨hwraps, hwrapping.2, hthere, (hchanged Cluster Cluster.answer staleCluster 8 hthere).2,
    hput, hcreated Cluster.empty 8 rfl rfl⟩

end Convergence

end SchemaKeeper
