import SchemaKeeper.Connection
import SchemaKeeper.Duration
import SchemaKeeper.Json.Reader
import SchemaKeeper.Status

/-!
The gateway to a cluster: what may be asked of it, how it may answer, and
programs that ask.

A `Program` is data: it ends with a result or makes a call and goes on with any
answer.  What a program does to a cluster is fixed only when it is run with a
function that answers calls.
-/

namespace SchemaKeeper

/-! ## Answers and failures -/

/-- An HTTP answer, whatever its code. -/
structure Response where
  code : UInt16
  body : String
  deriving DecidableEq, Repr, Inhabited

/-- Why a remote call gave no usable answer. -/
inductive RemoteError where
  | transport (reason : String)
  | timeout (limit : Duration)
  | status (code : UInt16) (body : String)
  | decode (reason : String)
  deriving DecidableEq, Repr

def RemoteError.message : RemoteError → String
  | .transport reason => s!"💀 transport failure: {reason}"
  | .timeout limit => s!"💀 operation timed out after {limit.toText}"
  | .status code body => s!"💀 cluster answered {code.toNat}: {body}"
  | .decode reason => s!"💀 cluster answered with a body we could not read: {reason}"

/-- A code is classified; where there was no readable answer the trouble may pass. -/
def RemoteError.toStatus : RemoteError → Status
  | .status code body => Status.classify code body
  | other => Status.retry other.message

abbrev Outcome := Except RemoteError Response

namespace Response

def isSuccess (r : Response) : Bool :=
  Status.isSuccess r.code

def toStatus (r : Response) : Status :=
  Status.classify r.code r.body

/-- The document in the body of a successful answer. -/
def document (r : Response) : Except RemoteError Json :=
  if r.isSuccess then (Json.parse r.body).mapError fun e => .decode e.message
  else .error (.status r.code r.body)

end Response

def Outcome.toStatus : Outcome → Status
  | .ok response => response.toStatus
  | .error e => e.toStatus

/-- Why there is no gateway to a cluster at all. -/
inductive ConnectError where
  | unreachable (reason : RemoteError)
  | connection (reason : ConnectionError)
  | client (reason : String)
  deriving DecidableEq, Repr

def ConnectError.message : ConnectError → String
  | .unreachable reason => s!"💀 cluster ping failed: {reason.message}"
  | .connection reason => reason.message
  | .client reason => s!"💀 could not build the HTTP client: {reason}"

def ConnectError.toStatus (e : ConnectError) : Status :=
  match e with
  | .unreachable reason => { reason.toStatus with message := e.message }
  | .connection _ | .client _ => Status.error e.message

/-! ## Calls -/

inductive Call where
  | ping
  | indexExists (index : String)
  | indexSettings (index : String)
  | indexProperties (index : String)
  | putIndexReplicas (index : String) (replicas : UInt32)
  | putIndexProperties (index : String) (properties : Json)
  | createIndex (index : String) (model : String)
  | deleteIndex (index : String)
  | templateExists (name : String)
  | putTemplate (name : String) (model : String) (order : Option Int64)
  | deleteTemplate (name : String)
  | putPipeline (name : String) (model : String)
  | deletePipeline (name : String)
  deriving DecidableEq, Repr

namespace Call

/-- What a successful call gives; writes give the HTTP answer as it is. -/
abbrev Answer : Call → Type
  | .ping => Unit
  | .indexExists _ | .templateExists _ => Bool
  | .indexSettings _ => Json
  | .indexProperties _ => Option Json
  | .putIndexReplicas .. | .putIndexProperties .. | .createIndex .. | .deleteIndex _
  | .putTemplate .. | .deleteTemplate _ | .putPipeline .. | .deletePipeline _ => Response

def isWrite : Call → Bool
  | .ping | .indexExists _ | .indexSettings _ | .indexProperties _ | .templateExists _ => false
  | _ => true

def target? : Call → Option String
  | .ping => none
  | .indexExists name | .indexSettings name | .indexProperties name
  | .putIndexReplicas name _ | .putIndexProperties name _ | .createIndex name _
  | .deleteIndex name | .templateExists name | .putTemplate name _ _ | .deleteTemplate name
  | .putPipeline name _ | .deletePipeline name => some name

inductive Method where
  | ping
  | indexExists
  | indexSettings
  | indexProperties
  | putIndexReplicas
  | putIndexProperties
  | createIndex
  | deleteIndex
  | templateExists
  | putTemplate
  | deleteTemplate
  | putPipeline
  | deletePipeline
  deriving DecidableEq, Repr

def method : Call → Method
  | .ping => .ping
  | .indexExists _ => .indexExists
  | .indexSettings _ => .indexSettings
  | .indexProperties _ => .indexProperties
  | .putIndexReplicas .. => .putIndexReplicas
  | .putIndexProperties .. => .putIndexProperties
  | .createIndex .. => .createIndex
  | .deleteIndex _ => .deleteIndex
  | .templateExists _ => .templateExists
  | .putTemplate .. => .putTemplate
  | .deleteTemplate _ => .deleteTemplate
  | .putPipeline .. => .putPipeline
  | .deletePipeline _ => .deletePipeline

end Call

/-! ## Programs -/

inductive Program (α : Type) : Type where
  | done (result : α)
  | call (call : Call) (next : Except RemoteError call.Answer → Program α)

namespace Program

variable {α β : Type}

def bind : Program α → (α → Program β) → Program β
  | .done result, next => next result
  | .call c rest, next => .call c fun answer => (rest answer).bind next

instance : Monad Program where
  pure := .done
  bind := bind

def ask (c : Call) : Program (Except RemoteError c.Answer) :=
  .call c .done

/-- Runs a program in a world whose state the answers may change. -/
def run {World : Type} (answer : (c : Call) → World → Except RemoteError c.Answer × World) :
    Program α → World → α × World
  | .done result, world => (result, world)
  | .call c next, world =>
      let (found, world) := answer c world
      (next found).run answer world

/-! ## Deleting what is there -/

/-- Deletes an index if it exists; nothing is answered if it does not. -/
def deleteIndexIfPresent (index : String) : Program (Except RemoteError (Option Response)) := do
  match ← ask (.indexExists index) with
  | .error e => return .error e
  | .ok false => return .ok none
  | .ok true => return (← ask (.deleteIndex index)).map some

def deleteTemplateIfPresent (name : String) : Program (Except RemoteError (Option Response)) := do
  match ← ask (.templateExists name) with
  | .error e => return .error e
  | .ok false => return .ok none
  | .ok true => return (← ask (.deleteTemplate name)).map some

/-- Deletes a pipeline; a code of 404 says that there was none. -/
def deletePipelineIfPresent (name : String) : Program (Except RemoteError (Option Response)) := do
  match ← ask (.deletePipeline name) with
  | .error e => return .error e
  | .ok response => return .ok (if response.code = 404 then none else some response)

end Program

end SchemaKeeper
