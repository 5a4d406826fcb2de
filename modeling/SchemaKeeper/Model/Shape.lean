import SchemaKeeper.Model

/-!
The shape a model must have: which members the body of an index, a template or
a pipeline may hold and which it must.  The first broken rule is reported.
-/

namespace SchemaKeeper.Model

def indexFields : List String :=
  ["aliases", "mappings", "settings"]

def templateFields : List String :=
  ["aliases", "mappings", "settings", "index_patterns", "version"]

def pipelineFields : List String :=
  ["description", "processors"]

/-- The ingest processors a cluster knows by default. -/
def knownProcessors : List String := [
  "append", "attachment", "bytes", "circle", "community_id", "convert", "csv", "date",
  "date_index_name", "dissect", "dot_expander", "drop", "enrich", "fail", "fingerprint",
  "foreach", "geo_grid", "geoip", "grok", "gsub", "html_strip", "inference", "ip_location",
  "join", "json", "kv", "lowercase", "network_direction", "pipeline", "redact",
  "registered_domain", "remove", "rename", "reroute", "script", "set", "set_security_user",
  "sort", "split", "terminate", "trim", "uppercase", "uri_parts", "urldecode", "user_agent"]

def isKnownProcessor (name : String) : Bool :=
  knownProcessors.contains name

abbrev Fields := List (String × Json)

/-- Refuses the first member that is not allowed. -/
def checkAllowed (kind : Kind) (allowed : List String) (fields : Fields) :
    Except ShapeFault Unit :=
  match fields.find? fun (key, _) => !allowed.contains key with
  | some (stray, _) => .error (.strayField kind allowed stray)
  | none => .ok ()

def checkRequired (kind : Kind) (required : List String) (fields : Fields) :
    Except ShapeFault Unit :=
  match required.find? fun key => (fields.lookup key).isNone with
  | some missing => .error (.fieldRequired kind missing)
  | none => .ok ()

def isBlankText (s : String) : Bool :=
  s.toList.all Text.isBlank

def checkDescription (fields : Fields) : Except ShapeFault Unit :=
  match fields.lookup "description" with
  | none => .error (.fieldRequired .pipeline "description")
  | some (.string s) => if isBlankText s then .error .blankDescription else .ok ()
  | some other => .error (.descriptionNotText other)

def checkProcessor (position : Nat) : Json → Except ShapeFault Unit
  | .object entry =>
      match entry.find? fun (key, _) => !isKnownProcessor key with
      | some (unknown, _) => .error (.unknownProcessor position unknown)
      | none => .ok ()
  | other => .error (.processorNotObject position other)

def checkProcessorList (position : Nat) : List Json → Except ShapeFault Unit
  | [] => .ok ()
  | processor :: rest => do
      checkProcessor position processor
      checkProcessorList (position + 1) rest

def checkProcessors (fields : Fields) : Except ShapeFault Unit :=
  match fields.lookup "processors" with
  | none => .error (.fieldRequired .pipeline "processors")
  | some (.array processors) => checkProcessorList 0 processors
  | some other => .error (.processorsNotList other)

def checkFields (kind : Kind) (fields : Fields) : Except ShapeFault Unit :=
  match kind with
  | .index => checkAllowed .index indexFields fields
  | .template => do
      checkAllowed .template templateFields fields
      checkRequired .template ["index_patterns"] fields
  | .pipeline => do
      checkAllowed .pipeline pipelineFields fields
      checkDescription fields
      checkProcessors fields

def checkShape (kind : Kind) (body : String) : Except ModelError Unit :=
  match Json.parse body with
  | .error reason => .error (.invalidJson (some kind) reason)
  | .ok (.object fields) => (checkFields kind fields).mapError .shape
  | .ok other => .error (.shape (.notAnObject other))

end SchemaKeeper.Model
