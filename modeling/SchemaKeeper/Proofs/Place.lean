import SchemaKeeper.Proofs.Cluster
import SchemaKeeper.Proofs.Table
import SchemaKeeper.Reconciliation

/-!
# Places on a cluster

Whatever a cluster holds has a place, told by its kind and its name.  A call is
answered by what is held at its own place, and nothing else is changed by it.
Convergence and cleaning up only make calls for the place of their object, so
what they do depends on that place alone.
-/

namespace SchemaKeeper

abbrev Place := Kind × String

def DesiredObject.place (object : DesiredObject) : Place :=
  (object.kind, object.name)

namespace Call

def place? : Call → Option Place
  | .ping => none
  | .indexExists name | .indexSettings name | .indexProperties name
  | .putIndexReplicas name _ | .putIndexProperties name _ | .createIndex name _
  | .deleteIndex name => some (.index, name)
  | .templateExists name | .putTemplate name _ _ | .deleteTemplate name => some (.template, name)
  | .putPipeline name _ | .deletePipeline name => some (.pipeline, name)

theorem target?_eq (c : Call) : c.target? = c.place?.map Prod.snd := by
  cases c <;> rfl

end Call

/-! ## What is held -/

/-- An index with its settings, or the body of a template or a pipeline. -/
inductive Holding where
  | index (stored : StoredIndex)
  | body (model : String)
  deriving DecidableEq, Repr

namespace Cluster

def holding (cluster : Cluster) : Place → Option Holding
  | (.index, name) => (cluster.indices.get? name).map .index
  | (.template, name) => (cluster.templates.get? name).map .body
  | (.pipeline, name) => (cluster.pipelines.get? name).map .body

structure SameContents (a b : Cluster) : Prop where
  indices : a.indices = b.indices
  templates : a.templates = b.templates
  pipelines : a.pipelines = b.pipelines

theorem SameContents.symm {a b : Cluster} (h : a.SameContents b) : b.SameContents a :=
  ⟨h.indices.symm, h.templates.symm, h.pipelines.symm⟩

theorem SameContents.trans {a b c : Cluster} (hab : a.SameContents b) (hbc : b.SameContents c) :
    a.SameContents c :=
  ⟨hab.indices.trans hbc.indices, hab.templates.trans hbc.templates,
    hab.pipelines.trans hbc.pipelines⟩

private theorem index_injective : Function.Injective Holding.index :=
  fun _ _ h => Holding.index.inj h

private theorem body_injective : Function.Injective Holding.body :=
  fun _ _ h => Holding.body.inj h

theorem sameContents_of_holding {a b : Cluster} (h : ∀ place, a.holding place = b.holding place) :
    a.SameContents b where
  indices := Table.eq_of_get?_eq fun name => Option.map_injective index_injective (h (.index, name))
  templates :=
    Table.eq_of_get?_eq fun name => Option.map_injective body_injective (h (.template, name))
  pipelines :=
    Table.eq_of_get?_eq fun name => Option.map_injective body_injective (h (.pipeline, name))

@[simp] theorem holding_empty (place : Place) : empty.holding place = none := by
  obtain ⟨kind, name⟩ := place
  cases kind <;> rfl

@[simp] theorem holding_recordCall (cluster : Cluster) (c : Call) (place : Place) :
    (cluster.recordCall c).holding place = cluster.holding place := by
  obtain ⟨kind, name⟩ := place
  cases kind <;> rfl

/-! ## Calls for one place -/

/-- An answer, and what it leaves at its place, is told by what was held there. -/
theorem respond_congr {c : Call} {place : Place} (hc : c.place? = some place) {a b : Cluster}
    (h : a.holding place = b.holding place) :
    (a.respond c).1 = (b.respond c).1 ∧
      (a.respond c).2.holding place = (b.respond c).2.holding place := by
  cases c with
  | ping => cases hc
  | indexExists name | indexSettings name | indexProperties name | putIndexReplicas name replicas
  | putIndexProperties name properties | createIndex name model | deleteIndex name =>
      obtain rfl := Option.some.inj hc
      have hget : a.indices.get? name = b.indices.get? name :=
        Option.map_injective index_injective h
      cases hstored : b.indices.get? name <;>
        simp [respond, changeIndex, seedIndex, holding, Table.contains, Table.get?_insert,
          Table.get?_erase, hget, hstored]
  | templateExists name | putTemplate name model order | deleteTemplate name =>
      obtain rfl := Option.some.inj hc
      have hget : a.templates.get? name = b.templates.get? name :=
        Option.map_injective body_injective h
      cases hstored : b.templates.get? name <;>
        simp [respond, seedTemplate, holding, Table.contains, Table.get?_insert, Table.get?_erase,
          hget, hstored]
  | putPipeline name model | deletePipeline name =>
      obtain rfl := Option.some.inj hc
      have hget : a.pipelines.get? name = b.pipelines.get? name :=
        Option.map_injective body_injective h
      cases hstored : b.pipelines.get? name <;>
        simp [respond, seedPipeline, holding, Table.contains, Table.get?_insert, Table.get?_erase,
          hget, hstored]

theorem holding_respond_of_ne {c : Call} {place other : Place} (hc : c.place? = some place)
    (hne : other ≠ place) (cluster : Cluster) :
    (cluster.respond c).2.holding other = cluster.holding other := by
  obtain ⟨kind, key⟩ := other
  cases c with
  | ping => cases hc
  | indexExists name | indexSettings name | indexProperties name | putIndexReplicas name replicas
  | putIndexProperties name properties | createIndex name model | deleteIndex name =>
      obtain rfl := Option.some.inj hc
      have hkey : kind = .index → key ≠ name := fun hkind hname => hne (by rw [hkind, hname])
      cases kind <;> cases hstored : cluster.indices.get? name <;>
        simp_all [respond, changeIndex, seedIndex, holding, Table.contains, Table.get?_insert,
          Table.get?_erase]
  | templateExists name | putTemplate name model order | deleteTemplate name =>
      obtain rfl := Option.some.inj hc
      have hkey : kind = .template → key ≠ name := fun hkind hname => hne (by rw [hkind, hname])
      cases kind <;> cases hstored : cluster.templates.get? name <;>
        simp_all [respond, seedTemplate, holding, Table.contains, Table.get?_insert,
          Table.get?_erase]
  | putPipeline name model | deletePipeline name =>
      obtain rfl := Option.some.inj hc
      have hkey : kind = .pipeline → key ≠ name := fun hkind hname => hne (by rw [hkind, hname])
      cases kind <;> cases hstored : cluster.pipelines.get? name <;>
        simp_all [respond, seedPipeline, holding, Table.contains, Table.get?_insert,
          Table.get?_erase]

/-! ## Programs for one place -/

/-- Two clusters answer alike for a place. -/
structure AgreeAt (place : Place) (a b : Cluster) : Prop where
  scripted : a.scripted = b.scripted
  holding : a.holding place = b.holding place

theorem answer_congr {c : Call} {place : Place} (hc : c.place? = some place) {a b : Cluster}
    (h : AgreeAt place a b) :
    (a.answer c).1 = (b.answer c).1 ∧ AgreeAt place (a.answer c).2 (b.answer c).2 := by
  have hscripts : AgreeAt place (a.recordCall c) (b.recordCall c) :=
    ⟨h.scripted, by simpa using h.holding⟩
  cases hscript : b.scripted.lookup c.method with
  | some outcome =>
      rw [answer_of_scripted c (h.scripted ▸ hscript), answer_of_scripted c hscript]
      exact ⟨rfl, hscripts⟩
  | none =>
      rw [answer_of_unscripted c (h.scripted ▸ hscript), answer_of_unscripted c hscript]
      obtain ⟨hfound, hleft⟩ := respond_congr hc hscripts.holding
      refine ⟨hfound, ?_, hleft⟩
      rw [scripted_respond, scripted_respond]
      exact h.scripted

theorem holding_answer_of_ne {c : Call} {place other : Place} (hc : c.place? = some place)
    (hne : other ≠ place) (cluster : Cluster) :
    (cluster.answer c).2.holding other = cluster.holding other := by
  unfold answer
  split
  · exact holding_recordCall ..
  · rw [holding_respond_of_ne hc hne, holding_recordCall]

variable {α : Type}

theorem run_congr {p : Program α} {place : Place} (hp : p.Asks (·.place? = some place))
    {a b : Cluster} (h : AgreeAt place a b) :
    (p.run answer a).1 = (p.run answer b).1 ∧
      AgreeAt place (p.run answer a).2 (p.run answer b).2 := by
  induction p generalizing a b with
  | done result => exact ⟨rfl, h⟩
  | call c next ih =>
      obtain ⟨hfound, hafter⟩ := answer_congr hp.1 h
      have hrest := ih (a.answer c).1 (hp.2 _) hafter
      simp only [Program.run]
      rw [hfound] at hrest ⊢
      exact hrest

theorem holding_run_of_ne {p : Program α} {place other : Place}
    (hp : p.Asks (·.place? = some place)) (hne : other ≠ place) (cluster : Cluster) :
    (p.run answer cluster).2.holding other = cluster.holding other := by
  induction p generalizing cluster with
  | done result => rfl
  | call c next ih =>
      simp only [Program.run]
      rw [ih _ (hp.2 _), holding_answer_of_ne hp.1 hne]

end Cluster

/-! ## The place of an object -/

namespace Convergence

open Program

theorem asks_convergeSettings (spec : IndexSpec) :
    (convergeSettings spec).Asks (·.place? = some (.index, spec.name)) := by
  unfold convergeSettings
  cases desiredCounts spec with
  | error e => exact asks_pure _
  | ok desired =>
      refine asks_bind ((asks_ask _).mpr rfl) fun found => ?_
      cases found with
      | error e => exact asks_pure _
      | ok settings =>
          dsimp only
          split
          · exact asks_pure _
          · split
            · exact asks_pure _
            · split
              · exact asks_pure _
              · exact asks_bind ((asks_ask _).mpr rfl) fun outcome => asks_pure _

theorem asks_convergeProperties (ceiling : Nat) (spec : IndexSpec) :
    (convergeProperties ceiling spec).Asks (·.place? = some (.index, spec.name)) := by
  unfold convergeProperties
  cases Model.properties spec.model with
  | none => exact asks_pure _
  | some desired =>
      refine asks_bind ((asks_ask _).mpr rfl) fun found => ?_
      split
      · exact asks_pure _
      · exact asks_pure _
      · split
        · exact asks_pure _
        · split
          · exact asks_pure _
          · exact asks_bind ((asks_ask _).mpr rfl) fun outcome => asks_pure _

theorem asks_convergeIndex (ceiling : Nat) (spec : IndexSpec) :
    (convergeIndex ceiling spec).Asks (·.place? = some (.index, spec.name)) := by
  unfold convergeIndex
  refine asks_bind ((asks_ask _).mpr rfl) fun found => ?_
  split
  · exact asks_pure _
  · exact asks_bind ((asks_ask _).mpr rfl) fun outcome => asks_pure _
  · refine asks_bind (asks_convergeSettings spec) fun step => ?_
    have hproperties := asks_convergeProperties ceiling spec
    split
    · exact asks_pure _
    · exact asks_bind hproperties fun result => by split <;> exact asks_pure _
    · exact asks_bind hproperties fun result => by split <;> exact asks_pure _

theorem asks_convergeTemplate (spec : TemplateSpec) :
    (convergeTemplate spec).Asks (·.place? = some (.template, spec.name)) := by
  unfold convergeTemplate
  refine asks_bind ((asks_ask _).mpr rfl) fun found => ?_
  split
  · exact asks_pure _
  · exact asks_bind ((asks_ask _).mpr rfl) fun outcome => asks_pure _

theorem asks_convergePipeline (spec : PipelineSpec) :
    (convergePipeline spec).Asks (·.place? = some (.pipeline, spec.name)) :=
  asks_bind ((asks_ask _).mpr rfl) fun _ => asks_pure _

theorem asks_converge (ceiling : Nat) (object : DesiredObject) :
    (converge ceiling object).Asks (·.place? = some object.place) := by
  unfold converge
  split
  · exact asks_pure _
  · cases object with
    | index spec => exact asks_convergeIndex ceiling spec
    | template spec => exact asks_convergeTemplate spec
    | pipeline spec => exact asks_convergePipeline spec

end Convergence

namespace Program

theorem asks_deleteIndexIfPresent (name : String) :
    (deleteIndexIfPresent name).Asks (·.place? = some (.index, name)) := by
  refine asks_bind ((asks_ask _).mpr rfl) fun found => ?_
  split
  · exact asks_pure _
  · exact asks_pure _
  · exact asks_bind ((asks_ask _).mpr rfl) fun response => asks_pure _

theorem asks_deleteTemplateIfPresent (name : String) :
    (deleteTemplateIfPresent name).Asks (·.place? = some (.template, name)) := by
  refine asks_bind ((asks_ask _).mpr rfl) fun found => ?_
  split
  · exact asks_pure _
  · exact asks_pure _
  · exact asks_bind ((asks_ask _).mpr rfl) fun response => asks_pure _

theorem asks_deletePipelineIfPresent (name : String) :
    (deletePipelineIfPresent name).Asks (·.place? = some (.pipeline, name)) := by
  refine asks_bind ((asks_ask _).mpr rfl) fun found => ?_
  split <;> exact asks_pure _

theorem asks_cleanUp (object : DesiredObject) :
    (cleanUp object).Asks (·.place? = some object.place) := by
  cases object with
  | index spec =>
      refine asks_bind (asks_deleteIndexIfPresent spec.name) fun outcome => ?_
      dsimp only
      split <;> exact asks_pure _
  | template spec =>
      refine asks_bind (asks_deleteTemplateIfPresent spec.name) fun outcome => ?_
      dsimp only
      split <;> exact asks_pure _
  | pipeline spec =>
      refine asks_bind (asks_deletePipelineIfPresent spec.name) fun outcome => ?_
      dsimp only
      split <;> exact asks_pure _

end Program

end SchemaKeeper
