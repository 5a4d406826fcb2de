import SchemaKeeper.Json.Codec
import SchemaKeeper.Object

/-!
The JSON form of desired objects and entries.

The member `kind` says which fields an object has, and may stand anywhere among
them; the other members are set aside until the kind is known.  An entry holds
the members of its object beside its own.
-/

namespace SchemaKeeper

open Json Json.Reader

/-! ## The fields of each kind -/

namespace Kind

def variants : Codec.Variants Kind where
  all := [("Index", .index), ("Template", .template), ("Pipeline", .pipeline)]
  name := label

def codec : Codec Kind :=
  Codec.choice variants

end Kind

def IndexSpec.codec : Codec IndexSpec :=
  Codec.record "IndexSpec"
    (Codec.withField (Codec.required "name" Codec.string) <|
      Codec.withField (Codec.required "connection" Codec.string) <|
      Codec.withField (Codec.required "number_of_shards" Codec.uint32) <|
      Codec.withField (Codec.required "number_of_replicas" Codec.uint32) <|
      Codec.withField (Codec.required "model" Codec.string) Codec.noFields)
    (fun (name, connection, shards, replicas, model, ()) =>
      ⟨name, connection, ⟨shards, replicas⟩, model⟩)
    (fun s => (s.name, s.connection, s.counts.shards, s.counts.replicas, s.model, ()))

def TemplateSpec.codec : Codec TemplateSpec :=
  Codec.record "TemplateSpec"
    (Codec.withField (Codec.required "name" Codec.string) <|
      Codec.withField (Codec.required "connection" Codec.string) <|
      Codec.withField (Codec.required "number_of_shards" Codec.uint32) <|
      Codec.withField (Codec.required "number_of_replicas" Codec.uint32) <|
      Codec.withField (Codec.defaulted "order" (Codec.option Codec.int64) none) <|
      Codec.withField (Codec.required "model" Codec.string) Codec.noFields)
    (fun (name, connection, shards, replicas, order, model, ()) =>
      ⟨name, connection, ⟨shards, replicas⟩, order, model⟩)
    (fun s =>
      (s.name, s.connection, s.counts.shards, s.counts.replicas, s.order, s.model, ()))

def PipelineSpec.codec : Codec PipelineSpec :=
  Codec.record "PipelineSpec"
    (Codec.withField (Codec.required "name" Codec.string) <|
      Codec.withField (Codec.required "connection" Codec.string) <|
      Codec.withField (Codec.required "model" Codec.string) Codec.noFields)
    (fun (name, connection, model, ()) => ⟨name, connection, model⟩)
    (fun s => (s.name, s.connection, s.model, ()))

namespace DesiredObject

/-! ## Objects -/

/-- The members of an object after its kind. -/
def specFields : DesiredObject → List (String × Json)
  | .index spec => ((IndexSpec.codec.encode spec).fields?).getD []
  | .template spec => ((TemplateSpec.codec.encode spec).fields?).getD []
  | .pipeline spec => ((PipelineSpec.codec.encode spec).fields?).getD []

def encode (object : DesiredObject) : List (String × Json) :=
  ("kind", .string object.kind.label) :: object.specFields

/-- Decodes the members that were set aside, now that the kind is known. -/
def decodeSpec (kind : Kind) (content : Content) : Except DecodeError DesiredObject :=
  match kind with
  | .index => (IndexSpec.codec.decode .setAside content).map .index
  | .template => (TemplateSpec.codec.decode .setAside content).map .template
  | .pipeline => (PipelineSpec.codec.decode .setAside content).map .pipeline

def whole : String :=
  "internally tagged enum DesiredObject"

/-- A kind among members that were set aside may also be given by its number. -/
def decodeKind (origin : Origin) : Content → Except DecodeError Kind
  | .string s => (Kind.variants.find s).mapError .here
  | .count n =>
      if origin = .setAside then
        match Kind.variants.all[n]? with
        | some (_, kind) => .ok kind
        | none =>
            .error (.here (.invalidValue (.ofNat n) "variant index 0 <= i < 3"))
      else Codec.mismatched (.count n) "variant identifier"
  | other => Codec.mismatched other "variant identifier"

/-- The kind among the members of an object, and the members beside it. -/
def splitKind (origin : Origin) :
    List (String × Content) → Option Kind → Except DecodeError (Kind × List (String × Content))
  | [], none => .error (.here (.missingField "kind"))
  | [], some kind => .ok (kind, [])
  | (key, value) :: fields, found =>
      if key = "kind" then
        if found.isSome then .error (.here (.duplicateField "kind"))
        else do splitKind origin fields (some (← decodeKind origin value))
      else do
        let (kind, rest) ← splitKind origin fields found
        return (kind, (key, value) :: rest)

def decode (origin : Origin) (value : Content) : Except DecodeError DesiredObject :=
  match value with
  | .object fields => do
      let (kind, rest) ← splitKind origin fields none
      decodeSpec kind (.object rest)
  | .array [] => .error (.here (.missingField "kind"))
  | .array (tag :: items) => do
      let kind ← decodeKind origin tag
      decodeSpec kind (.array items)
  | other => Codec.mismatched other whole

structure Gathered where
  kind : Option Kind
  /-- The members beside the kind, last one first. -/
  others : List (String × Json)

def readMember (levels : Nat) (key : String) (known : Gathered) : Reader Gathered := do
  if key = "kind" then
    if known.kind.isSome then reject (.duplicateField "kind")
    else
      colon
      return { known with kind := some (← Codec.readVariant Kind.variants) }
  else
    colon
    return { known with others := (key, ← tree levels) :: known.others }

def readTagged (levels : Nat) : Reader (Kind × Json) := do
  let c ← valueStart
  if c = '[' then
    nested levels fun inner => located do
      skip
      let contents : Reader (Kind × Json) := do
        if ← moreItems true then
          let kind ← Codec.readVariant Kind.variants
          return (kind, .array (← items (tree inner) (← steps) false))
        else reject (.missingField "kind")
      closedBy contents listEnd
  else if c = '\x7b' then
    nested levels fun inner => located do
      skip
      let contents : Reader (Kind × Json) := do
        let known ← Reader.members (readMember inner) (← steps) true ⟨none, []⟩
        match known.kind with
        | some kind => return (kind, .object known.others.reverse)
        | none => reject (.missingField "kind")
      closedBy contents objectEnd
  else unfit whole c

/-- The result of decoding what was set aside, as the outcome of reading it. -/
def settle {α : Type} (decoded : Except DecodeError α) : Reader α :=
  match decoded with
  | .ok a => return a
  | .error e => reject e.reason

def codec : Codec DesiredObject where
  encode object := .object object.encode
  read levels := do
    let (kind, content) ← readTagged levels
    settle (decodeSpec kind (.ofJson .ofInt content))
  decode := decode

end DesiredObject

/-! ## Entries -/

namespace Entry

structure Gathered where
  deleteInCluster : Option Bool
  /-- The members of the object, last one first. -/
  others : List (String × Content)

def deleteKey : String :=
  "delete_in_cluster"

/-- The object is decoded once all members are known. -/
def ofGathered (known : Gathered) : Except DecodeError Entry := do
  let content := Content.object known.others.reverse
  let object ← (DesiredObject.decode .setAside content).mapError fun e => .here e.reason
  return ⟨object, known.deleteInCluster.getD false⟩

def readMember (levels : Nat) (key : String) (known : Gathered) : Reader Gathered := do
  if key = deleteKey then
    if known.deleteInCluster.isSome then reject (.duplicateField deleteKey)
    else
      colon
      return { known with deleteInCluster := some (← Codec.bool.read levels) }
  else
    colon
    return { known with others := (key, .ofJson .ofInt (← tree levels)) :: known.others }

def decodeMembers (origin : Origin) :
    List (String × Content) → Gathered → Except DecodeError Gathered
  | [], known => .ok known
  | (key, value) :: fields, known =>
      if key = deleteKey then
        if known.deleteInCluster.isSome then .error (.here (.duplicateField deleteKey))
        else do
          let b ← (Codec.bool.decode origin value).mapError (.under key)
          decodeMembers origin fields { known with deleteInCluster := some b }
      else decodeMembers origin fields { known with others := (key, value) :: known.others }

def codec : Codec Entry where
  encode entry := .object (entry.object.encode ++ [(deleteKey, .bool entry.deleteInCluster)])
  read levels := do
    let c ← valueStart
    if c = '\x7b' then
      nested levels fun inner => located do
        skip
        let contents : Reader Entry := do
          let known ← Reader.members (readMember inner) (← steps) true ⟨none, []⟩
          DesiredObject.settle (ofGathered known)
        closedBy contents objectEnd
    else unfit "struct ObjectEntry" c
  decode origin
    | .object fields => do
        let known ← decodeMembers origin fields ⟨none, []⟩
        ofGathered known
    | other => Codec.mismatched other "struct ObjectEntry"

end Entry

end SchemaKeeper
