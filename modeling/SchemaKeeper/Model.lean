import SchemaKeeper.Json.Printer
import SchemaKeeper.Json.Reader
import SchemaKeeper.Object
import SchemaKeeper.Text.Blank

/-!
The bodies of indices and templates: reading counts and mapping properties out
of them, and writing counts into them.
-/

namespace SchemaKeeper

/-! ## What can be wrong with a body -/

/-- A rule on the shape of a body that the body breaks. -/
inductive ShapeFault where
  | notAnObject (found : Json)
  | strayField (kind : Kind) (allowed : List String) (field : String)
  | fieldRequired (kind : Kind) (field : String)
  | blankDescription
  | descriptionNotText (found : Json)
  | processorsNotList (found : Json)
  | processorNotObject (position : Nat) (found : Json)
  | unknownProcessor (position : Nat) (name : String)
  | settingsNotObject
  deriving DecidableEq, Repr

def ShapeFault.message : ShapeFault → String
  | .notAnObject found =>
      s!"expected a JSON object at the top level, found {found.describe}"
  | .strayField kind allowed field =>
      s!"{kind.label} model should contain only fields from this list " ++
        Text.quotedList allowed ++ s!", found `{field}`"
  | .fieldRequired kind field => s!"{kind.label} model should contain required field {field}"
  | .blankDescription => "Pipeline description must not be blank"
  | .descriptionNotText found =>
      s!"Pipeline description must be a string, found {found.describe}"
  | .processorsNotList found =>
      s!"Pipeline processors must be an array, found {found.describe}"
  | .processorNotObject position found =>
      s!"Pipeline processor #{position} must be an object, found {found.describe}"
  | .unknownProcessor position name =>
      s!"Pipeline processor #{position} uses unknown processor `{name}`"
  | .settingsNotObject => "`settings` must be a JSON object"

inductive ModelError where
  /-- The body is no JSON; the kind is named when the body was checked as a model of a kind. -/
  | invalidJson (checkedAs : Option Kind) (reason : Json.ReadError)
  | notFound (path : List String)
  | notAnInteger (path : List String) (value : String)
  | shape (fault : ShapeFault)
  deriving DecidableEq, Repr

def dotted (path : List String) : String :=
  ".".intercalate path

def ModelError.message : ModelError → String
  | .invalidJson none reason => s!"💀 body is not valid JSON: {reason.message}"
  | .invalidJson (some kind) reason =>
      s!"💀 body is not valid JSON: {kind.label} model: {reason.message}"
  | .notFound path => s!"💀 no value found at `{dotted path}`"
  | .notAnInteger path value =>
      s!"💀 value at `{dotted path}` is not a non-negative integer: {value}"
  | .shape fault => s!"💀 {fault.message}"

namespace Model

/-! ## Parsing -/

def parse (body : String) : Except ModelError Json :=
  (Json.parse body).mapError (.invalidJson none)

def parseObject (body : String) : Except ModelError (List (String × Json)) := do
  match ← parse body with
  | .object fields => return fields
  | other => throw (.shape (.notAnObject other))

/-- The body without any blank, its members in order. -/
def compact (body : String) : Except ModelError String := do
  return (← parse body).compact

/-! ## Counts -/

def countBound : Nat := 0x100000000

/-- A count written with decimal digits, possibly after a plus sign. -/
def countOfDigits? (chars : List Char) : Option Nat :=
  let digits :=
    match chars with
    | '+' :: rest => rest
    | rest => rest
  if digits.isEmpty || !digits.all Json.Reader.isDigit then none
  else
    let n := digits.foldl (fun n d => n * 10 + Json.Reader.digitValue d) 0
    if n < countBound then some n else none

/-- A count is a whole number, or a text that holds one between blanks. -/
def readCount (path : List String) : Option Json → Except ModelError UInt32
  | none | some .null => .error (.notFound path)
  | some (.number (.integer n)) =>
      if 0 ≤ n ∧ n < countBound then .ok n.toNat.toUInt32
      else .error (.notAnInteger path (Number.integer n).toText)
  | some (.string s) =>
      match countOfDigits? (Text.trimChars Text.isBlank s.toList) with
      | some n => .ok n.toUInt32
      | none => .error (.notAnInteger path s)
  | some other => .error (.notAnInteger path other.compact)

def countAt (root : Json) (path : List String) : Except ModelError UInt32 :=
  readCount path (root.at? path)

def shardsKey : String := "number_of_shards"

def replicasKey : String := "number_of_replicas"

def shards (body : String) : Except ModelError UInt32 := do
  countAt (← parse body) ["settings", shardsKey]

def replicas (body : String) : Except ModelError UInt32 := do
  countAt (← parse body) ["settings", replicasKey]

/-! ## Mapping -/

/-- Whether a mapping is wrapped in the name of a document type. -/
inductive TypeWrapping where
  | present
  | absent
  /-- There is no mapping to tell by. -/
  | indeterminate
  deriving DecidableEq, Repr

/-- What to tell the cluster about type names; nothing when there is no mapping. -/
def TypeWrapping.includeTypeName : TypeWrapping → Option Bool
  | .present => some true
  | .absent => some false
  | .indeterminate => none

def mappingFields (root : Json) : Option (List (String × Json)) :=
  match (root.field? "mappings").bind Json.fields? with
  | some (field :: fields) => some (field :: fields)
  | _ => none

/-- A key `properties` right inside `mappings` means that no type name stands between. -/
def typeWrapping (body : String) : TypeWrapping :=
  match Json.parse body with
  | .error _ => .indeterminate
  | .ok root =>
      match mappingFields root with
      | none => .indeterminate
      | some fields => if (fields.lookup "properties").isSome then .absent else .present

/-- A mapping tree: an object whose only member is `properties`. -/
def mappingTree (properties : Json) : Json :=
  .object [("properties", properties)]

/-- The desired mapping tree; of typed mappings the first type that has properties. -/
def properties (body : String) : Option Json := do
  let root ← (Json.parse body).toOption
  let fields ← mappingFields root
  match fields.lookup "properties" with
  | some found => return mappingTree found
  | none => return mappingTree (← fields.findSome? fun (_, type) => type.field? "properties")

/-! ## Merging -/

def countsFields (counts : Counts) (settings : List (String × Json)) : List (String × Json) :=
  Entries.insert shardsKey (Json.ofNat counts.shards.toNat)
    (Entries.insert replicasKey (Json.ofNat counts.replicas.toNat) settings)

/-- The body with these counts in its settings, compact. -/
def mergeCounts (body : String) (counts : Counts) : Except ModelError String := do
  let fields ← parseObject body
  let settings ←
    match fields.lookup "settings" with
    | none => pure []
    | some (.object settings) => pure settings
    | some _ => throw (.shape .settingsNotObject)
  return (Json.object
    (Entries.insert "settings" (.object (countsFields counts settings)) fields)).compact

end Model

/-! ## Answers of a cluster -/

namespace Remote

def shards (settings : Json) (index : String) : Except ModelError UInt32 :=
  Model.countAt settings [index, "settings", "index", Model.shardsKey]

def replicas (settings : Json) (index : String) : Except ModelError UInt32 :=
  Model.countAt settings [index, "settings", "index", Model.replicasKey]

/-- The mapping tree in an answer that names no document type. -/
def properties (mapping : Json) (index : String) : Option Json :=
  (mapping.at? [index, "mappings", "properties"]).map Model.mappingTree

end Remote

end SchemaKeeper
