import SchemaKeeper.Proofs.Place

/-!
# What a clean-up asks and leaves

A clean-up looks for an index or a template before it deletes it; a pipeline is
deleted without looking.  Nothing else is asked, whatever the answers are.  A
cluster that answers truthfully does not hold the object afterwards.
-/

namespace SchemaKeeper

open Program

/-- The calls of a clean-up with their answers. -/
inductive CleanUpTranscript : DesiredObject → List Event → Prop where
  | indexUnknown (spec : IndexSpec) (e : RemoteError) :
      CleanUpTranscript (.index spec) [⟨.indexExists spec.name, .error e⟩]
  | indexAbsent (spec : IndexSpec) :
      CleanUpTranscript (.index spec) [⟨.indexExists spec.name, .ok false⟩]
  | index (spec : IndexSpec) (outcome : Outcome) :
      CleanUpTranscript (.index spec)
        [⟨.indexExists spec.name, .ok true⟩, ⟨.deleteIndex spec.name, outcome⟩]
  | templateUnknown (spec : TemplateSpec) (e : RemoteError) :
      CleanUpTranscript (.template spec) [⟨.templateExists spec.name, .error e⟩]
  | templateAbsent (spec : TemplateSpec) :
      CleanUpTranscript (.template spec) [⟨.templateExists spec.name, .ok false⟩]
  | template (spec : TemplateSpec) (outcome : Outcome) :
      CleanUpTranscript (.template spec)
        [⟨.templateExists spec.name, .ok true⟩, ⟨.deleteTemplate spec.name, outcome⟩]
  | pipeline (spec : PipelineSpec) (outcome : Outcome) :
      CleanUpTranscript (.pipeline spec) [⟨.deletePipeline spec.name, outcome⟩]

/-- The calls for an object that is to go, before anything is made of their answers. -/
def removal : DesiredObject → Program (Except RemoteError (Option Response))
  | .index spec => deleteIndexIfPresent spec.name
  | .template spec => deleteTemplateIfPresent spec.name
  | .pipeline spec => deletePipelineIfPresent spec.name

theorem cleanUp_eq (object : DesiredObject) :
    cleanUp object = removal object >>= fun outcome =>
      match outcome with
      | .ok none => return true
      | .ok (some response) => return response.isSuccess
      | .error _ => return false := by
  cases object <;> rfl

section

variable {World : Type} (answer : (c : Call) → World → Except RemoteError c.Answer × World)

theorem history_cleanUp (object : DesiredObject) (world : World) :
    (cleanUp object).history answer world = (removal object).history answer world := by
  rw [cleanUp_eq, history_bind]
  split <;> exact List.append_nil _

theorem run_cleanUp (object : DesiredObject) (world : World) :
    ((cleanUp object).run answer world).2 = ((removal object).run answer world).2 := by
  rw [cleanUp_eq, run_bind]
  split <;> rfl

theorem cleanUpTranscript (object : DesiredObject) (world : World) :
    CleanUpTranscript object ((cleanUp object).history answer world) := by
  rw [history_cleanUp]
  cases object with
  | index spec =>
      rw [removal, deleteIndexIfPresent, history_bind, history_ask, run_ask]
      cases (answer (.indexExists spec.name) world).1 with
      | error e => exact .indexUnknown spec e
      | ok found =>
          cases found with
          | false => exact .indexAbsent spec
          | true => exact .index spec _
  | template spec =>
      rw [removal, deleteTemplateIfPresent, history_bind, history_ask, run_ask]
      cases (answer (.templateExists spec.name) world).1 with
      | error e => exact .templateUnknown spec e
      | ok found =>
          cases found with
          | false => exact .templateAbsent spec
          | true => exact .template spec _
  | pipeline spec =>
      rw [removal, deletePipelineIfPresent, history_bind, history_ask, run_ask]
      cases (answer (.deletePipeline spec.name) world).1 with
      | error e => exact .pipeline spec _
      | ok response => exact .pipeline spec _

end

/-! ## On a cluster without scripts -/

def DesiredObject.deletion : DesiredObject → Call
  | .index spec => .deleteIndex spec.name
  | .template spec => .deleteTemplate spec.name
  | .pipeline spec => .deletePipeline spec.name

theorem holding_answer_deletion {cluster : Cluster} (hplain : cluster.scripted = [])
    (object : DesiredObject) :
    (cluster.answer object.deletion).2.holding object.place = none := by
  rw [Cluster.answer_of_plain hplain]
  cases object with
  | index spec =>
      cases hstored : cluster.indices.get? spec.name <;>
        simp [DesiredObject.deletion, DesiredObject.place, DesiredObject.kind, DesiredObject.name,
          Cluster.respond, Cluster.recordCall, Cluster.holding, Table.contains, Table.get?_erase,
          hstored]
  | template spec =>
      cases hstored : cluster.templates.get? spec.name <;>
        simp [DesiredObject.deletion, DesiredObject.place, DesiredObject.kind, DesiredObject.name,
          Cluster.respond, Cluster.recordCall, Cluster.holding, Table.contains, Table.get?_erase,
          hstored]
  | pipeline spec =>
      cases hstored : cluster.pipelines.get? spec.name <;>
        simp [DesiredObject.deletion, DesiredObject.place, DesiredObject.kind, DesiredObject.name,
          Cluster.respond, Cluster.recordCall, Cluster.holding, Table.contains, Table.get?_erase,
          hstored]

theorem holding_removal {cluster : Cluster} (hplain : cluster.scripted = [])
    (object : DesiredObject) :
    ((removal object).run Cluster.answer cluster).2.holding object.place = none := by
  cases object with
  | index spec =>
      let checked := cluster.recordCall (.indexExists spec.name)
      have hchecked : checked.scripted = [] := hplain
      rw [removal, deleteIndexIfPresent, run_bind, run_ask, Cluster.answer_of_plain hplain]
      cases hstored : checked.indices.contains spec.name with
      | false =>
          simp only [Cluster.respond, hstored, checked]
          exact congrArg (Option.map Holding.index) (Table.contains_eq_false_iff.mp hstored)
      | true =>
          simp only [Cluster.respond, hstored, checked]
          exact holding_answer_deletion hchecked (.index spec)
  | template spec =>
      let checked := cluster.recordCall (.templateExists spec.name)
      have hchecked : checked.scripted = [] := hplain
      rw [removal, deleteTemplateIfPresent, run_bind, run_ask, Cluster.answer_of_plain hplain]
      cases hstored : checked.templates.contains spec.name with
      | false =>
          simp only [Cluster.respond, hstored, checked]
          exact congrArg (Option.map Holding.body) (Table.contains_eq_false_iff.mp hstored)
      | true =>
          simp only [Cluster.respond, hstored, checked]
          exact holding_answer_deletion hchecked (.template spec)
  | pipeline spec =>
      rw [removal, deletePipelineIfPresent, run_bind, run_ask]
      have hdeleted := holding_answer_deletion hplain (.pipeline spec)
      split <;> exact hdeleted

theorem holding_cleanUp {cluster : Cluster} (hplain : cluster.scripted = [])
    (object : DesiredObject) :
    ((cleanUp object).run Cluster.answer cluster).2.holding object.place = none := by
  rw [run_cleanUp]
  exact holding_removal hplain object

end SchemaKeeper
