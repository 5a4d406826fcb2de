import SchemaKeeper.Proofs.TypedMappings

/-!
# Counts in other spellings

A pass reads the counts of a model and those of a cluster's answer by one rule, and
it uses nothing of them but what is read.  So it cannot tell two models apart that
spell the same counts differently around the same other members, unless it is told
that there is no index and sends the model as it stands; and it cannot tell apart
two clusters that spell the same counts differently in their answers.
-/

namespace SchemaKeeper

namespace Model

variable {body text : String} {root changed : Json}

/-! ## Models in other spellings -/

/-- Settings without the two counts. -/
def withoutCounts : Json → Json
  | .object settings => .object (Entries.erase shardsKey (Entries.erase replicasKey settings))
  | other => other

/-- A document without the two counts of its settings. -/
def aroundCounts : Json → Json
  | .object fields => .object (fields.map fun (key, value) =>
      (key, if key = "settings" then withoutCounts value else value))
  | other => other

/-- Two bodies that say the same around their counts, and whose counts are read alike. -/
structure Respelled (root changed : Json) (body text : String) : Prop where
  first : Json.parse body = .ok root
  second : Json.parse text = .ok changed
  around : aroundCounts changed = aroundCounts root
  shards : shards text = shards body
  replicas : replicas text = replicas body

theorem keys_aroundCounts (fields : List (String × Json)) :
    Entries.keys (fields.map fun (key, value) =>
      (key, if key = "settings" then withoutCounts value else value)) = Entries.keys fields := by
  simp [Entries.keys, Function.comp_def]

theorem verdict_aroundCounts (root : Json) :
    verdict .index (aroundCounts root) = verdict .index root := by
  cases root with
  | object fields =>
      simp only [aroundCounts, verdict, checkFields, checkAllowed_congr (keys_aroundCounts fields)]
  | null | bool | number | string | array => rfl

theorem field?_aroundCounts {key : String} (hne : key ≠ "settings") (root : Json) :
    (aroundCounts root).field? key = root.field? key := by
  cases root with
  | object fields =>
      change List.lookup key (fields.map _) = fields.lookup key
      induction fields with
      | nil => rfl
      | cons field fields ih =>
          obtain ⟨name, value⟩ := field
          rw [List.map_cons]
          by_cases hname : key = name
          · subst hname
            simp [hne]
          · rw [Entries.lookup_cons_of_ne hname, Entries.lookup_cons_of_ne hname, ih]
  | null | bool | number | string | array => rfl

theorem Respelled.readAlike (h : Respelled root changed body text) : ReadAlike body text where
  shape := by
    rw [checkShape_of_parse h.first, checkShape_of_parse h.second, ← verdict_aroundCounts changed,
      h.around, verdict_aroundCounts]
  shards := h.shards
  replicas := h.replicas
  properties := by
    have hmappings : changed.field? "mappings" = root.field? "mappings" := by
      rw [← field?_aroundCounts (by decide) changed, h.around, field?_aroundCounts (by decide)]
    exact (mapping_congr h.first h.second hmappings).1

end Model

namespace Convergence

open Program

/-! ## Answers in other spellings -/

/-- Answers that are the same, or settings from which the same counts are read. -/
inductive CountsAlike : AnswerRelation where
  | same {c : Call} (found : Except RemoteError c.Answer) : CountsAlike c found found
  | respelled {index : String} {settings other : Json}
      (hshards : Remote.shards other index = Remote.shards settings index)
      (hreplicas : Remote.replicas other index = Remote.replicas settings index) :
      CountsAlike (.indexSettings index) (.ok settings) (.ok other)

/-- Alike answers to any other call are the same. -/
theorem overlooks_ask_other {α : Type} {c : Call} (hc : c.method ≠ .indexSettings)
    {next : Except RemoteError c.Answer → Program α}
    (hnext : ∀ found, (next found).Overlooks CountsAlike) :
    (ask c >>= next).Overlooks CountsAlike := by
  refine overlooks_ask_bind.mpr ⟨fun found other halike => ?_, hnext⟩
  cases halike with
  | same => rfl
  | respelled => exact absurd rfl hc

theorem overlooks_convergeSettings (spec : IndexSpec) :
    (convergeSettings spec).Overlooks CountsAlike := by
  unfold convergeSettings
  cases desiredCounts spec with
  | error e => exact overlooks_pure _
  | ok desired =>
      refine overlooks_ask_bind.mpr ⟨fun found other halike => ?_, fun found => ?_⟩
      -- nothing but the two counts is read out of the settings
      · cases halike with
        | same => rfl
        | respelled hshards hreplicas => simp only [currentCounts, hshards, hreplicas]
      · cases found with
        | error e => exact overlooks_pure _
        | ok settings =>
            dsimp only
            split
            · exact overlooks_pure _
            · split
              · exact overlooks_pure _
              · split
                · exact overlooks_pure _
                · exact overlooks_ask_other (by nofun) fun outcome => overlooks_pure _

theorem overlooks_convergeProperties (ceiling : Nat) (spec : IndexSpec) :
    (convergeProperties ceiling spec).Overlooks CountsAlike := by
  unfold convergeProperties
  cases Model.properties spec.model with
  | none => exact overlooks_pure _
  | some desired =>
      refine overlooks_ask_other (by nofun) fun found => ?_
      cases found with
      | error e => exact overlooks_pure _
      | ok found =>
          cases found with
          | none => exact overlooks_pure _
          | some current =>
              dsimp only
              split
              · exact overlooks_pure _
              · split
                · exact overlooks_pure _
                · exact overlooks_ask_other (by nofun) fun outcome => overlooks_pure _

theorem overlooks_convergeIndex (ceiling : Nat) (spec : IndexSpec) :
    (convergeIndex ceiling spec).Overlooks CountsAlike := by
  unfold convergeIndex
  refine overlooks_ask_other (by nofun) fun found => ?_
  cases found with
  | error e => exact overlooks_pure _
  | ok there =>
      cases there with
      | false => exact overlooks_ask_other (by nofun) fun outcome => overlooks_pure _
      | true =>
          refine overlooks_bind (overlooks_convergeSettings spec) fun step => ?_
          have hproperties := overlooks_convergeProperties ceiling spec
          cases step with
          | stop status => exact overlooks_pure _
          | unchanged | updated =>
              refine overlooks_bind hproperties fun mapped => ?_
              cases mapped <;> exact overlooks_pure _

theorem overlooks_converge (ceiling : Nat) (object : DesiredObject) :
    (converge ceiling object).Overlooks CountsAlike := by
  unfold converge
  split
  · exact overlooks_pure _
  · cases object with
    | index spec => exact overlooks_convergeIndex ceiling spec
    | template spec =>
        refine overlooks_ask_other (by nofun) fun found => ?_
        cases found with
        | error e => exact overlooks_pure _
        | ok there => exact overlooks_ask_other (by nofun) fun outcome => overlooks_pure _
    | pipeline spec => exact overlooks_ask_other (by nofun) fun outcome => overlooks_pure _

/-! ## One rule for all counts -/

/--
The counts of a model and those of a cluster's answer are read by one rule.  Two
models that spell the same counts differently are converged in the same way by every
gateway that does not deny the index, and two gateways that spell the same counts
differently are asked the same and come to the same status.
-/
theorem counts_read_by_one_rule :
    (∀ (body : String) (root : Json), Json.parse body = .ok root →
      Model.ReadsCount root ["settings", "number_of_shards"] (Model.shards body) ∧
      Model.ReadsCount root ["settings", "number_of_replicas"] (Model.replicas body)) ∧
    (∀ (settings : Json) (index : String),
      Model.ReadsCount settings [index, "settings", "index", "number_of_shards"]
        (Remote.shards settings index) ∧
      Model.ReadsCount settings [index, "settings", "index", "number_of_replicas"]
        (Remote.replicas settings index)) ∧
    (∀ (root changed : Json) (spec : IndexSpec) (text : String),
      Model.Respelled root changed spec.model text →
      ∀ (World : Type) (answer : (c : Call) → World → Except RemoteError c.Answer × World)
        (world : World) (ceiling : Nat),
        (answer (.indexExists spec.name) world).1 ≠ .ok false →
        (converge ceiling (.index { spec with model := text })).history answer world =
            (converge ceiling (.index spec)).history answer world ∧
          (converge ceiling (.index { spec with model := text })).run answer world =
            (converge ceiling (.index spec)).run answer world) ∧
    ∀ (World Other : Type) (answer : (c : Call) → World → Except RemoteError c.Answer × World)
      (reply : (c : Call) → Other → Except RemoteError c.Answer × Other)
      (link : World → Other → Prop), AnswersRelated CountsAlike link answer reply →
      ∀ (world : World) (other : Other), link world other →
      ∀ (ceiling : Nat) (object : DesiredObject),
        ((converge ceiling object).history answer world).map Event.call =
            ((converge ceiling object).history reply other).map Event.call ∧
          ((converge ceiling object).run answer world).1 =
            ((converge ceiling object).run reply other).1 := by
  refine ⟨fun body root hparse => ?_, fun settings index => ?_, ?_, ?_⟩
  · rw [Model.shards_of_parse hparse, Model.replicas_of_parse hparse]
    exact ⟨Model.readsCount_countAt .., Model.readsCount_countAt ..⟩
  · exact ⟨Model.readsCount_countAt .., Model.readsCount_countAt ..⟩
  · intro root changed spec text h World answer world ceiling hthere
    exact converge_congr h.readAlike hthere ceiling
  · intro World Other answer reply link hrelated world other hlink ceiling object
    obtain ⟨hcalls, hstatus, -⟩ :=
      run_of_overlooks (overlooks_converge ceiling object) hrelated hlink
    exact ⟨hcalls, hstatus⟩

def spelledOrders : IndexSpec :=
  ⟨"orders", "main", ⟨5, 5⟩,
    "\x7b\"settings\": \x7b\"number_of_shards\": 1, " ++
      "\"number_of_replicas\": \"\u2003+02\u00a0\"\x7d, \"mappings\": " ++
      "\x7b\"properties\": \x7b\"id\": \x7b\"type\": \"keyword\"\x7d\x7d\x7d\x7d"⟩

def respelledOrdersText : String :=
  "\x7b\"mappings\": \x7b\"properties\": \x7b\"id\": \x7b\"type\": \"keyword\"\x7d\x7d\x7d, " ++
    "\"settings\": \x7b\"number_of_replicas\": 2, \"number_of_shards\": \"0001\"\x7d\x7d"

/-- The document of an index of orders, its counts written in some way. -/
def ordersWritten (shards replicas : Json) : Json :=
  .object [("mappings", .object [("properties", ordersTree)]),
    ("settings", .object [(Model.replicasKey, replicas), (Model.shardsKey, shards)])]

/-- The counts of a settings answer as numbers, where they can be read. -/
def inNumbers (index : String) (settings : Json) : Json :=
  match currentCounts settings index with
  | .ok counts => Remote.settingsWith index (Json.ofNat counts.shards.toNat)
      (Json.ofNat counts.replicas.toNat)
  | .error _ => settings

/-- The cluster in memory, except that its settings are answered in numbers. -/
def answerInNumbers (c : Call) (cluster : Cluster) : Except RemoteError c.Answer × Cluster :=
  match c with
  | .indexSettings index =>
      let (found, left) := cluster.answer (.indexSettings index)
      (found.map (inNumbers index), left)
  | c => cluster.answer c

theorem countsAlike_inNumbers (index : String) (settings : Json) :
    CountsAlike (.indexSettings index) (.ok settings) (.ok (inNumbers index settings)) := by
  unfold inNumbers
  cases hcurrent : currentCounts settings index with
  | error e => exact .same _
  | ok counts =>
      obtain ⟨hshards, hreplicas⟩ := currentCounts_eq_ok_iff.mp hcurrent
      refine .respelled ?_ ?_
      · exact (Remote.shards_settingsWith (.number counts.shards)).trans hshards.symm
      · exact (Remote.replicas_settingsWith (.number counts.replicas)).trans hreplicas.symm

theorem answersRelated_inNumbers :
    AnswersRelated CountsAlike Eq Cluster.answer answerInNumbers := by
  rintro c cluster _ rfl
  cases c with
  | indexSettings index =>
      refine ⟨?_, rfl⟩
      change CountsAlike (.indexSettings index) (cluster.answer (.indexSettings index)).1
        ((cluster.answer (.indexSettings index)).1.map (inNumbers index))
      cases (cluster.answer (.indexSettings index)).1 with
      | error e => exact .same _
      | ok settings => exact countsAlike_inNumbers index settings
  | ping | indexExists | indexProperties | putIndexReplicas | putIndexProperties | createIndex
  | deleteIndex | templateExists | putTemplate | deleteTemplate | putPipeline | deletePipeline =>
      exact ⟨.same _, rfl⟩

/-- Two replicas are put and the loss of a field is refused, however the counts are spelled. -/
theorem spelledOrders_converge :
    let first := ordersWritten (.number (.integer 1)) (.string "\u2003+02\u00a0")
    let second := ordersWritten (.string "0001") (.number (.integer 2))
    Model.Respelled first second spelledOrders.model respelledOrdersText ∧
      Model.replicas spelledOrders.model = .ok 2 ∧
      (Cluster.answer (.indexExists "orders") staleCluster).1 ≠ .ok false ∧
      (converge 8 (.index { spelledOrders with model := respelledOrdersText })).run
          Cluster.answer staleCluster =
        (converge 8 (.index spelledOrders)).run Cluster.answer staleCluster ∧
      ((converge 8 (.index spelledOrders)).history answerInNumbers staleCluster).map Event.call =
        [.indexExists "orders", .indexSettings "orders", .putIndexReplicas "orders" 2,
          .indexProperties "orders"] ∧
      ((converge 8 (.index spelledOrders)).run Cluster.answer staleCluster).1 =
        ((converge 8 (.index spelledOrders)).run answerInNumbers staleCluster).1 := by
  intro first second
  obtain ⟨hmodels, -, hrespelled, hgateways⟩ := counts_read_by_one_rule
  have hfirst : Json.parse spelledOrders.model = .ok first := by decide +kernel
  have hsecond : Json.parse respelledOrdersText = .ok second := by decide +kernel
  have hreplicas : Model.replicas spelledOrders.model = .ok 2 := by
    refine ((hmodels _ _ hfirst).2.ok_iff 2).mpr ⟨_, .member rfl (.member rfl (.here _)), ?_⟩
    exact @Model.Spells.text _ ['\u2003'] ['+'] ['0', '2'] ['\u00a0'] 2 rfl
      (List.forall_mem_singleton.mpr (by decide)) (.inr rfl)
      ⟨by decide, List.all_eq_true.mp (by decide), by decide⟩
      (List.forall_mem_singleton.mpr (by decide))
  have hmodel : Model.Respelled first second spelledOrders.model respelledOrdersText := {
    first := hfirst
    second := hsecond
    around := rfl
    shards := by
      rw [Model.shards_of_parse hfirst, Model.shards_of_parse hsecond]
      decide +kernel
    replicas := by
      rw [Model.replicas_of_parse hfirst, Model.replicas_of_parse hsecond]
      decide +kernel }
  have hthere : (Cluster.answer (.indexExists "orders") staleCluster).1 ≠ .ok false := by decide
  obtain ⟨hcalls, hstatus⟩ := hgateways Cluster Cluster _ _ Eq answersRelated_inNumbers
    staleCluster _ rfl 8 (.index spelledOrders)
  refine ⟨hmodel, hreplicas, hthere, ?_, ?_, hstatus⟩
  · exact (hrespelled _ _ _ _ hmodel Cluster Cluster.answer staleCluster 8 hthere).2
  · rw [← hcalls]
    decide +kernel

end Convergence

end SchemaKeeper
