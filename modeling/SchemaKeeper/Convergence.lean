import SchemaKeeper.Compatibility
import SchemaKeeper.Gateway
import SchemaKeeper.Model.Shape

/-!
Convergence: the smallest change that brings a cluster closer to a desired
object, and the verdict on it.

The shards of an existing index never change and no field of its mapping ever
disappears.  Settings go before mappings, and every pass ends at the first
failure.
-/

namespace SchemaKeeper.Convergence

open Program

/-! ## Refusals -/

/-- Why an existing index is left as it is. -/
inductive Refusal where
  | shards (index : String) (current desired : UInt32)
  | fieldLoss (current desired : Json)
  deriving DecidableEq, Repr

def Refusal.message : Refusal → String
  | .shards index current desired =>
      s!"you cannot update number_of_shards from {current.toNat} to {desired.toNat} " ++
        s!"on existing index {index}"
  | .fieldLoss current desired =>
      "you cannot delete properties, error while updating properties from " ++
        s!"{current.compact} to {desired.compact}"

/-! ## Indices -/

/-- A count of the model, or the object's own where the model has none. -/
def desiredCount (inModel : Except ModelError UInt32) (own : UInt32) : Except ModelError UInt32 :=
  match inModel with
  | .error (.notFound _) => .ok own
  | found => found

def desiredCounts (spec : IndexSpec) : Except ModelError Counts := do
  let shards ← desiredCount (Model.shards spec.model) spec.counts.shards
  let replicas ← desiredCount (Model.replicas spec.model) spec.counts.replicas
  return ⟨shards, replicas⟩

def currentCounts (settings : Json) (index : String) : Except ModelError Counts := do
  let shards ← Remote.shards settings index
  let replicas ← Remote.replicas settings index
  return ⟨shards, replicas⟩

/-- What the step on the settings of an existing index came to. -/
inductive SettingsStep where
  | unchanged
  | updated (status : Status)
  | stop (status : Status)
  deriving DecidableEq, Repr

/-- Brings the replicas in line; refuses to touch the shards. -/
def convergeSettings (spec : IndexSpec) : Program SettingsStep := do
  match desiredCounts spec with
  | .error e => return .stop (Status.error e.message)
  | .ok desired =>
      match ← ask (.indexSettings spec.name) with
      | .error e => return .stop e.toStatus
      | .ok settings =>
          match currentCounts settings spec.name with
          | .error e => return .stop (Status.retry e.message)
          | .ok current =>
              if desired.shards ≠ current.shards then
                let refusal := Refusal.shards spec.name current.shards desired.shards
                return .stop (Status.error refusal.message)
              else if desired.replicas = current.replicas then return .unchanged
              else
                let outcome ← ask (.putIndexReplicas spec.name desired.replicas)
                let status := Outcome.toStatus outcome
                return if status.state = .created then .updated status else .stop status

/--
Brings the mapping in line by adding fields.  `ok none` says that no change was
needed, an error that the pass ends here.
-/
def convergeProperties (ceiling : Nat) (spec : IndexSpec) :
    Program (Except Status (Option Status)) := do
  match Model.properties spec.model with
  | none => return .ok none
  | some desired =>
      match ← ask (.indexProperties spec.name) with
      | .error e => return .error e.toStatus
      | .ok none => return .ok none
      | .ok (some current) =>
          if current.sameValue desired then return .ok none
          else if !Compatibility.isSafe ceiling current desired then
            return .error (Status.error (Refusal.fieldLoss current desired).message)
          else
            let outcome ← ask (.putIndexProperties spec.name desired)
            return .ok (some (Outcome.toStatus outcome))

/-- The verdict when there was nothing to do. -/
def inLine : Status :=
  Status.created (some 200) ""

def convergeIndex (ceiling : Nat) (spec : IndexSpec) : Program Status := do
  match ← ask (.indexExists spec.name) with
  | .error e => return e.toStatus
  | .ok false => return Outcome.toStatus (← ask (.createIndex spec.name spec.model))
  | .ok true =>
      match ← convergeSettings spec with
      | .stop status => return status
      | .unchanged =>
          match ← convergeProperties ceiling spec with
          | .error status => return status
          | .ok status => return status.getD inLine
      | .updated settingsStatus =>
          match ← convergeProperties ceiling spec with
          | .error status => return status
          | .ok status => return status.getD settingsStatus

/-! ## Templates and pipelines -/

/-- A template is put whether it exists or not; the check only has to succeed. -/
def convergeTemplate (spec : TemplateSpec) : Program Status := do
  match ← ask (.templateExists spec.name) with
  | .error e => return e.toStatus
  | .ok _ => return Outcome.toStatus (← ask (.putTemplate spec.name spec.model spec.order))

def convergePipeline (spec : PipelineSpec) : Program Status := do
  return Outcome.toStatus (← ask (.putPipeline spec.name spec.model))

/-! ## Objects -/

/-- One pass; `ceiling` bounds how deep mapping trees are compared. -/
def converge (ceiling : Nat) (object : DesiredObject) : Program Status :=
  match Model.checkShape object.kind object.model with
  | .error e => return Status.error e.message
  | .ok () =>
      match object with
      | .index spec => convergeIndex ceiling spec
      | .template spec => convergeTemplate spec
      | .pipeline spec => convergePipeline spec

end SchemaKeeper.Convergence
