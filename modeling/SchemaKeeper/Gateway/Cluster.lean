import SchemaKeeper.Gateway
import SchemaKeeper.Model

/-!
A cluster held in memory.

It keeps indices, templates and pipelines, and records every call in order.  A
method may be scripted: all its calls then give the scripted outcome and change
nothing.
-/

namespace SchemaKeeper

structure StoredIndex where
  counts : Counts
  /-- The mapping tree, if there is one. -/
  properties : Option Json
  deriving DecidableEq, Repr

structure Cluster where
  indices : Table StoredIndex
  templates : Table String
  pipelines : Table String
  /-- The latest scripted outcome of a method stands first. -/
  scripted : List (Call.Method × Outcome)
  calls : List Call

namespace Cluster

def empty : Cluster :=
  ⟨.empty, .empty, .empty, [], []⟩

instance : Inhabited Cluster :=
  ⟨empty⟩

def seedIndex (cluster : Cluster) (name : String) (index : StoredIndex) : Cluster :=
  { cluster with indices := cluster.indices.insert name index }

def seedTemplate (cluster : Cluster) (name model : String) : Cluster :=
  { cluster with templates := cluster.templates.insert name model }

def seedPipeline (cluster : Cluster) (name model : String) : Cluster :=
  { cluster with pipelines := cluster.pipelines.insert name model }

def script (cluster : Cluster) (method : Call.Method) (outcome : Outcome) : Cluster :=
  { cluster with scripted := (method, outcome) :: cluster.scripted }

def writes (cluster : Cluster) : List Call :=
  cluster.calls.filter Call.isWrite

/-! ## Answers -/

def acknowledged : Response :=
  ⟨200, "\x7b\"acknowledged\":true\x7d"⟩

def notFound (name : String) : Response :=
  ⟨404, "\x7b\"error\":\"" ++ name ++ " not found\",\"status\":404\x7d"⟩

def alreadyExists : Response :=
  ⟨400, "\x7b\"error\":\"resource_already_exists_exception\",\"status\":400\x7d"⟩

def missing (name : String) : RemoteError :=
  .status 404 (notFound name).body

/-- A settings answer; counts are texts in it. -/
def settingsDocument (name : String) (counts : Counts) : Json :=
  let count (n : UInt32) : Json := .string (toString n.toNat)
  .object [(name, .object [("settings", .object [("index", .object
    [(Model.replicasKey, count counts.replicas), (Model.shardsKey, count counts.shards)])])])]

/-- A new index as a model describes it; counts that cannot be read are one. -/
def createdIndex (model : String) : StoredIndex :=
  ⟨⟨(Model.shards model).toOption.getD 1, (Model.replicas model).toOption.getD 1⟩,
    Model.properties model⟩

/-- Changes a stored index, or answers that there is none. -/
def changeIndex (cluster : Cluster) (name : String) (change : StoredIndex → StoredIndex) :
    Response × Cluster :=
  match cluster.indices.get? name with
  | some stored => (acknowledged, cluster.seedIndex name (change stored))
  | none => (notFound name, cluster)

def respond (cluster : Cluster) : (c : Call) → Except RemoteError c.Answer × Cluster
  | .ping => (.ok (), cluster)
  | .indexExists name => (.ok (cluster.indices.contains name), cluster)
  | .indexSettings name =>
      match cluster.indices.get? name with
      | some stored => (.ok (settingsDocument name stored.counts), cluster)
      | none => (.error (missing name), cluster)
  | .indexProperties name =>
      match cluster.indices.get? name with
      | some stored => (.ok stored.properties, cluster)
      | none => (.error (missing name), cluster)
  | .putIndexReplicas name replicas =>
      let (response, cluster) := cluster.changeIndex name fun stored =>
        { stored with counts := { stored.counts with replicas } }
      (.ok response, cluster)
  | .putIndexProperties name properties =>
      let (response, cluster) := cluster.changeIndex name fun stored =>
        { stored with properties := some properties }
      (.ok response, cluster)
  | .createIndex name model =>
      if cluster.indices.contains name then (.ok alreadyExists, cluster)
      else (.ok acknowledged, cluster.seedIndex name (createdIndex model))
  | .deleteIndex name =>
      if cluster.indices.contains name then
        (.ok acknowledged, { cluster with indices := cluster.indices.erase name })
      else (.ok (notFound name), cluster)
  | .templateExists name => (.ok (cluster.templates.contains name), cluster)
  | .putTemplate name model _ => (.ok acknowledged, cluster.seedTemplate name model)
  | .deleteTemplate name =>
      if cluster.templates.contains name then
        (.ok acknowledged, { cluster with templates := cluster.templates.erase name })
      else (.ok (notFound name), cluster)
  | .putPipeline name model => (.ok acknowledged, cluster.seedPipeline name model)
  | .deletePipeline name =>
      if cluster.pipelines.contains name then
        (.ok acknowledged, { cluster with pipelines := cluster.pipelines.erase name })
      else (.ok (notFound name), cluster)

/-! ## Scripted outcomes -/

/-- A scripted read fails unless its code is a success. -/
def scriptedRead (outcome : Outcome) : Outcome := do
  let response ← outcome
  if response.isSuccess then return response else throw (.status response.code response.body)

/-- A scripted existence check; 404 means that there is nothing. -/
def scriptedExists (outcome : Outcome) : Except RemoteError Bool := do
  let response ← outcome
  if response.code = 404 then return false
  else if response.isSuccess then return true
  else throw (.status response.code response.body)

/-- What a call gives whose method is scripted with an outcome. -/
def scriptedAnswer (outcome : Outcome) : (c : Call) → Except RemoteError c.Answer
  | .ping => (scriptedRead outcome).map fun _ => ()
  | .indexExists _ | .templateExists _ => scriptedExists outcome
  | .indexSettings _ => (scriptedRead outcome).bind Response.document
  | .indexProperties name => do
      let mapping ← (← scriptedRead outcome).document
      return Remote.properties mapping name
  | .putIndexReplicas .. | .putIndexProperties .. | .createIndex .. | .deleteIndex _
  | .putTemplate .. | .deleteTemplate _ | .putPipeline .. | .deletePipeline _ => outcome

/-! ## Calls -/

def recordCall (cluster : Cluster) (c : Call) : Cluster :=
  { cluster with calls := cluster.calls ++ [c] }

def answer (c : Call) (cluster : Cluster) : Except RemoteError c.Answer × Cluster :=
  match cluster.scripted.lookup c.method with
  | some outcome => (scriptedAnswer outcome c, cluster.recordCall c)
  | none => (cluster.recordCall c).respond c

end Cluster

end SchemaKeeper
