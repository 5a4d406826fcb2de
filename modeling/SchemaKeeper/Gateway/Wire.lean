import SchemaKeeper.Gateway
import SchemaKeeper.Model

/-!
Calls on the wire: the HTTP request that each call becomes in the dialect of
each version, and what its answer means.

Versions 6 and 7 may have mappings wrapped in a type name and are told so by the
parameter `include_type_name`; version 8 knows no types.  A template's order
stands in the body for versions 6 and 7 and in the query for version 8.
-/

namespace SchemaKeeper

/-! ## Dialects -/

/-- Where the order of a template is written. -/
inductive OrderPlacement where
  | body
  | query
  deriving DecidableEq, Repr

namespace Version

def templateOrder : Version → OrderPlacement
  | .v6 | .v7 => .body
  | .v8 => .query

/-- What is said about type names when a model is sent. -/
def typeNameFlag (version : Version) (model : String) : Option Bool :=
  match version with
  | .v6 | .v7 => (Model.typeWrapping model).includeTypeName
  | .v8 => none

/-- What is said about type names when a mapping is read or changed. -/
def untypedMappingFlag : Version → Option Bool
  | .v6 | .v7 => some false
  | .v8 => none

end Version

namespace Wire

/-! ## Requests -/

inductive Verb where
  | get
  | head
  | put
  | delete
  | other (name : String)
  deriving DecidableEq, Repr

def Verb.name : Verb → String
  | .get => "GET"
  | .head => "HEAD"
  | .put => "PUT"
  | .delete => "DELETE"
  | .other name => name

/-- A request to a cluster, without the cluster's address. -/
structure Request where
  verb : Verb
  path : String
  parameters : List (String × String)
  body : Option String
  deriving DecidableEq, Repr

def Request.target (r : Request) : String :=
  if r.parameters.isEmpty then r.path
  else r.path ++ "?" ++ "&".intercalate (r.parameters.map fun (key, value) => s!"{key}={value}")

def typeNameParameters : Option Bool → List (String × String)
  | none => []
  | some flag => [("include_type_name", if flag then "true" else "false")]

def orderText (order : Int64) : String :=
  (Number.integer order.toInt).toText

/-- A template with its order inside; a body that is no object is left as it is. -/
def bodyWithOrder (model : String) (order : Int64) : String :=
  match Json.parse model with
  | .ok (.object fields) =>
      (Json.object (Entries.insert "order" (.ofInt order.toInt) fields)).compact
  | _ => model

def templateRequest (version : Version) (name model : String) (order : Option Int64) : Request :=
  let flags := typeNameParameters (version.typeNameFlag model)
  let path := s!"/_template/{name}"
  match order, version.templateOrder with
  | none, _ => ⟨.put, path, flags, some model⟩
  | some order, .query => ⟨.put, path, flags ++ [("order", orderText order)], some model⟩
  | some order, .body => ⟨.put, path, flags, some (bodyWithOrder model order)⟩

def replicasBody (replicas : UInt32) : String :=
  (Json.object [("index", .object [(Model.replicasKey, .ofNat replicas.toNat)])]).compact

def request (version : Version) : Call → Request
  | .ping => ⟨.get, "/", [], none⟩
  | .indexExists index => ⟨.head, s!"/{index}", [], none⟩
  | .indexSettings index => ⟨.get, s!"/{index}/_settings", [], none⟩
  | .indexProperties index =>
      ⟨.get, s!"/{index}/_mapping", typeNameParameters version.untypedMappingFlag, none⟩
  | .putIndexReplicas index replicas =>
      ⟨.put, s!"/{index}/_settings", [], some (replicasBody replicas)⟩
  | .putIndexProperties index properties =>
      ⟨.put, s!"/{index}/_mapping", typeNameParameters version.untypedMappingFlag,
        some properties.compact⟩
  | .createIndex index model =>
      ⟨.put, s!"/{index}", typeNameParameters (version.typeNameFlag model), some model⟩
  | .deleteIndex index => ⟨.delete, s!"/{index}", [], none⟩
  | .templateExists name => ⟨.head, s!"/_template/{name}", [], none⟩
  | .putTemplate name model order => templateRequest version name model order
  | .deleteTemplate name => ⟨.delete, s!"/_template/{name}", [], none⟩
  | .putPipeline name model => ⟨.put, s!"/_ingest/pipeline/{name}", [], some model⟩
  | .deletePipeline name => ⟨.delete, s!"/_ingest/pipeline/{name}", [], none⟩

/-! ## Answers -/

/-- An existence check succeeds with a success code or with 404. -/
def readExists (outcome : Outcome) : Except RemoteError Bool :=
  match outcome with
  | .error e => .error e
  | .ok response =>
      if response.code = 404 then .ok false
      else if response.isSuccess then .ok true
      else .error (.status response.code response.body)

def readDocument (outcome : Outcome) : Except RemoteError Json :=
  match outcome with
  | .error e => .error e
  | .ok response => response.document

def read (outcome : Outcome) : (c : Call) → Except RemoteError c.Answer
  | .ping => (readDocument outcome).map fun _ => ()
  | .indexExists _ | .templateExists _ => readExists outcome
  | .indexSettings _ => readDocument outcome
  | .indexProperties index =>
      (readDocument outcome).map fun mapping => Remote.properties mapping index
  | .putIndexReplicas .. | .putIndexProperties .. | .createIndex .. | .deleteIndex _
  | .putTemplate .. | .deleteTemplate _ | .putPipeline .. | .deletePipeline _ => outcome

end Wire

end SchemaKeeper
