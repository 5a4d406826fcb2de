import SchemaKeeper.Connection
import SchemaKeeper.Model.Shape

/-!
Admission: the checks a desired object passes before anything is done for it.

Defaulting first writes the object's counts into its model, so that the model
alone says what is wanted.  The checks then collect every complaint.
-/

namespace SchemaKeeper

/-! ## Complaints -/

/-- One thing that speaks against an object. -/
inductive Complaint where
  | badName (name : String)
  | shardsOutside (shards : UInt32)
  | replicasOutside (replicas : UInt32)
  | badModel (reason : ModelError)
  | nameChanged (old new : String)
  | shardsChanged
  | clusterMoved (old new : Connection)
  deriving DecidableEq, Repr

namespace Admission

def leastShards : UInt32 := 1

def mostShards : UInt32 := 500

def leastReplicas : UInt32 := 1

def mostReplicas : UInt32 := 3

end Admission

namespace Complaint

/-- The field that a complaint is about. -/
def field : Complaint → String
  | .badName _ | .nameChanged .. => "name"
  | .shardsOutside _ | .shardsChanged => "number_of_shards"
  | .replicasOutside _ => "number_of_replicas"
  | .badModel _ => "model"
  | .clusterMoved .. => "connection"

def message : Complaint → String
  | .badName name => s!"\"{name}\" must match ^[a-z0-9-_.]+$"
  | .shardsOutside shards =>
      s!"{shards.toNat} is outside {Admission.leastShards.toNat}..={Admission.mostShards.toNat}"
  | .replicasOutside replicas =>
      s!"{replicas.toNat} is outside {Admission.leastReplicas.toNat}..=" ++
        s!"{Admission.mostReplicas.toNat}"
  | .badModel reason => reason.message
  | .nameChanged old new => s!"cannot update name from \"{old}\" to \"{new}\""
  | .shardsChanged => "cannot update number_of_shards setting for an Index"
  | .clusterMoved old new =>
      s!"cannot move from {old.host}:{old.port.toNat} to {new.host}:{new.port.toNat}"

def line (complaint : Complaint) : String :=
  s!"{complaint.field}: {complaint.message}"

end Complaint

structure Rejection where
  kind : Kind
  name : String
  causes : List Complaint
  deriving DecidableEq, Repr

def Rejection.message (r : Rejection) : String :=
  s!"💀 {r.kind.label} `{r.name}` rejected: " ++ "; ".intercalate (r.causes.map Complaint.line)

namespace Admission

/-! ## Defaulting -/

/-- The model with the counts of an object in it; that of a pipeline only loses its blanks. -/
def defaultedModel (object : DesiredObject) : Except ModelError String :=
  match object.counts? with
  | some counts => Model.mergeCounts object.model counts
  | none => Model.compact object.model

/-- Defaults the object at hand, whose model is replaced once the new one is there. -/
def defaultInPlace : ExceptT ModelError (StateM DesiredObject) Unit := do
  let model ← defaultedModel (← get)
  modify (·.withModel model)

def defaultModel (object : DesiredObject) : Except ModelError DesiredObject :=
  match defaultInPlace.run.run object with
  | (.ok (), changed) => .ok changed
  | (.error reason, _) => .error reason

/-! ## Checks -/

def isNameChar (c : Char) : Bool :=
  ('a' ≤ c && c ≤ 'z') || ('0' ≤ c && c ≤ '9') || c == '-' || c == '_' || c == '.'

def isName (name : String) : Bool :=
  !name.toList.isEmpty && name.toList.all isNameChar

def countComplaints (counts : Counts) : List Complaint :=
  (if leastShards ≤ counts.shards ∧ counts.shards ≤ mostShards then []
    else [.shardsOutside counts.shards]) ++
  (if leastReplicas ≤ counts.replicas ∧ counts.replicas ≤ mostReplicas then []
    else [.replicasOutside counts.replicas])

def createComplaints (object : DesiredObject) : List Complaint :=
  (if isName object.name then [] else [.badName object.name]) ++
  (match object.counts? with
    | some counts => countComplaints counts
    | none => []) ++
  (match Model.checkShape object.kind object.model with
    | .ok () => []
    | .error reason => [.badModel reason])

/-- The cluster behind an object may not change. -/
def connectionComplaint (old new : Connection) : Option Complaint :=
  if old.sameEndpoint new then none else some (.clusterMoved old new)

def shardComplaints : (old new : DesiredObject) → List Complaint
  | .index old, .index new =>
      if old.counts.shards = new.counts.shards then [] else [.shardsChanged]
  | _, _ => []

/--
The complaints about an object that takes the place of another; connections are
compared when both are known.
-/
def updateComplaints (old new : DesiredObject) (oldConnection newConnection : Option Connection) :
    List Complaint :=
  createComplaints new ++
  (if old.name = new.name then [] else [.nameChanged old.name new.name]) ++
  shardComplaints old new ++
  (match oldConnection, newConnection with
    | some c, some d => (connectionComplaint c d).toList
    | _, _ => [])

def conclude (object : DesiredObject) : List Complaint → Except Rejection Unit
  | [] => .ok ()
  | causes => .error ⟨object.kind, object.name, causes⟩

def validateCreate (object : DesiredObject) : Except Rejection Unit :=
  conclude object (createComplaints object)

def validateUpdate (old new : DesiredObject) (oldConnection newConnection : Option Connection) :
    Except Rejection Unit :=
  conclude new (updateComplaints old new oldConnection newConnection)

end Admission

end SchemaKeeper
