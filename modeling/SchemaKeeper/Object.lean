/-!
Desired objects: what somebody wants a search cluster to hold.

Three kinds of object live on a cluster.  An index has fixed shards, adjustable
replicas and a mapping; a template prepares indices to come; a pipeline
processes documents on their way in.  Each carries the body to be sent, its
`model`, as JSON text, and refers by name to the connection it lives on.
-/

namespace SchemaKeeper

inductive Kind where
  | index
  | template
  | pipeline
  deriving DecidableEq, Repr, Inhabited

def Kind.label : Kind → String
  | .index => "Index"
  | .template => "Template"
  | .pipeline => "Pipeline"

structure Counts where
  shards : UInt32
  replicas : UInt32
  deriving DecidableEq, Repr, Inhabited

structure IndexSpec where
  name : String
  connection : String
  counts : Counts
  model : String
  deriving DecidableEq, Repr, Inhabited

structure TemplateSpec where
  name : String
  connection : String
  counts : Counts
  /-- The priority among templates; the cluster has a default for it. -/
  order : Option Int64
  model : String
  deriving DecidableEq, Repr, Inhabited

structure PipelineSpec where
  name : String
  connection : String
  model : String
  deriving DecidableEq, Repr, Inhabited

inductive DesiredObject where
  | index (spec : IndexSpec)
  | template (spec : TemplateSpec)
  | pipeline (spec : PipelineSpec)
  deriving DecidableEq, Repr, Inhabited

namespace DesiredObject

def kind : DesiredObject → Kind
  | .index _ => .index
  | .template _ => .template
  | .pipeline _ => .pipeline

def name : DesiredObject → String
  | .index spec => spec.name
  | .template spec => spec.name
  | .pipeline spec => spec.name

def connection : DesiredObject → String
  | .index spec => spec.connection
  | .template spec => spec.connection
  | .pipeline spec => spec.connection

def model : DesiredObject → String
  | .index spec => spec.model
  | .template spec => spec.model
  | .pipeline spec => spec.model

def withModel (object : DesiredObject) (model : String) : DesiredObject :=
  match object with
  | .index spec => .index { spec with model }
  | .template spec => .template { spec with model }
  | .pipeline spec => .pipeline { spec with model }

/-- Pipelines have no counts. -/
def counts? : DesiredObject → Option Counts
  | .index spec => some spec.counts
  | .template spec => some spec.counts
  | .pipeline _ => none

end DesiredObject

/-- A desired object and what is to become of its remote counterpart. -/
structure Entry where
  object : DesiredObject
  /-- Deleting the entry also deletes the object on the cluster. -/
  deleteInCluster : Bool
  deriving DecidableEq, Repr, Inhabited

end SchemaKeeper
