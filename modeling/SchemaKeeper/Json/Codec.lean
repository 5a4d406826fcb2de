import SchemaKeeper.Json.Content
import SchemaKeeper.Json.Printer
import SchemaKeeper.Json.Reader

/-!
Codecs: one description of a type's JSON form, used in three ways.

A codec writes a value as a tree, reads it from the front of a text, and decodes
it from a tree that was read before.  Reading and decoding accept the same
forms; they differ in how they say where a fault lies.  A record may be written
as an object or as the list of its fields, members it does not know are passed
over, and fields with a default may be missing.
-/

namespace SchemaKeeper.Json

/-! ## Decoding from trees -/

/-- Why a tree does not decode, and the keys and indices that lead to the fault. -/
structure DecodeError where
  reason : Mismatch
  path : List String
  deriving DecidableEq, Repr

def DecodeError.here (reason : Mismatch) : DecodeError :=
  ⟨reason, []⟩

def DecodeError.under (step : String) (e : DecodeError) : DecodeError :=
  ⟨e.reason, step :: e.path⟩

/--
Where a decoded tree comes from: a document of its own, the members of a value
that were set aside while the value was read, or settings.
-/
inductive Origin where
  | document
  | setAside
  | settings
  deriving DecidableEq, Repr

structure Codec (α : Type) where
  encode : α → Json
  /-- Reads a value that holds at most so many nested lists and objects. -/
  read : Nat → Reader α
  decode : Origin → Content → Except DecodeError α

namespace Reader

/-- Rejects the value in front of which the text stands, as of an unfit type. -/
def unfit {α : Type} (wanted : String) (first : Char) : Reader α :=
  located do
    if first = '[' then reject (.invalidType (.array []) wanted)
    else if first = '\x7b' then reject (.invalidType (.object []) wanted)
    else reject (.invalidType (← scalar first) wanted)

def valueStart : Reader Char := do
  match ← peekSolid with
  | none => failAhead .endInValue
  | some c => return c

/-- A value whose parts are accepted only after they are read. -/
def checked {α β : Type} (r : Reader α) (check : α → Except Mismatch β) : Reader β := do
  match check (← r) with
  | .ok b => return b
  | .error reason => reject reason

end Reader

namespace Codec

open Reader

variable {α β : Type}

def mismatched (value : Content) (wanted : String) : Except DecodeError α :=
  .error (.here (.invalidType value.toJson wanted))

/-! ## Single values -/

def string : Codec String where
  encode := .string
  read _ := do
    let c ← valueStart
    if c = '"' then
      skip
      stringTail
    else unfit "a string" c
  decode origin
    | .string s => .ok s
    | .character c =>
        if origin = .setAside then mismatched (.character c) "a string"
        else .ok (String.singleton c)
    | other => mismatched other "a string"

def bool : Codec Bool where
  encode := .bool
  read _ := do
    let c ← valueStart
    if c = 't' then
      skip
      word "rue".toList
      return true
    else if c = 'f' then
      skip
      word "alse".toList
      return false
    else unfit "a boolean" c
  decode _
    | .bool b => .ok b
    | other => mismatched other "a boolean"

structure Range where
  name : String
  least : Int
  bound : Int

def Range.check (range : Range) : Number → Except Mismatch Int
  | .integer n =>
      if range.least ≤ n ∧ n < range.bound then .ok n
      else .error (.invalidValue (.number (.integer n)) range.name)
  | .double x => .error (.invalidType (.number (.double x)) range.name)

def whole (range : Range) : Codec Int where
  encode n := .ofInt n
  read _ := do
    let c ← valueStart
    if c = '-' ∨ isDigit c then located (checked Reader.number range.check)
    else unfit range.name c
  decode _ value :=
    match value.number? with
    | some n => (range.check n).mapError .here
    | none => mismatched value range.name

/-- The same form for another type. -/
def map (codec : Codec α) (build : α → β) (take : β → α) : Codec β where
  encode b := codec.encode (take b)
  read levels := do return build (← codec.read levels)
  decode origin value := (codec.decode origin value).map build

def uint16 : Codec UInt16 :=
  (whole ⟨"u16", 0, 0x10000⟩).map (fun n => n.toNat.toUInt16) (fun n => n.toNat)

def uint32 : Codec UInt32 :=
  (whole ⟨"u32", 0, 0x100000000⟩).map (fun n => n.toNat.toUInt32) (fun n => n.toNat)

def uint64 : Codec UInt64 :=
  (whole ⟨"u64", 0, Number.integerBound⟩).map (fun n => n.toNat.toUInt64) (fun n => n.toNat)

/-- Sizes are words of 64 bits under a name of their own. -/
def size : Codec UInt64 :=
  (whole ⟨"usize", 0, Number.integerBound⟩).map (fun n => n.toNat.toUInt64) (fun n => n.toNat)

def int64 : Codec Int64 :=
  (whole ⟨"i64", Number.leastInteger, Number.signedBound⟩).map Int64.ofInt Int64.toInt

/-- `null` stands for no value. -/
def option (codec : Codec α) : Codec (Option α) where
  encode
    | none => .null
    | some a => codec.encode a
  read levels := do
    if (← peekSolid) == some 'n' then
      skip
      word "ull".toList
      return none
    else return some (← codec.read levels)
  decode origin
    | .null => .ok none
    | value => (codec.decode origin value).map some

/-! ## Choices -/

/-- The finitely many values of a type and their names. -/
structure Variants (α : Type) where
  all : List (String × α)
  name : α → String

def Variants.find (variants : Variants α) (found : String) : Except Mismatch α :=
  match variants.all.lookup found with
  | some a => .ok a
  | none => .error (.unknownVariant found (variants.all.map Prod.fst))

def readVariant (variants : Variants α) : Reader α := do
  let c ← valueStart
  if c = '"' then
    skip
    located (checked stringTail variants.find)
  else unfit "variant identifier" c

/-- The nothing that may accompany a variant. -/
def readNothing : Reader Unit := do
  let c ← valueStart
  if c = 'n' then
    skip
    word "ull".toList
  else unfit "unit" c

/-- One of several names, alone or as the only key of an object that holds `null`. -/
def choice (variants : Variants α) : Codec α where
  encode a := .string (variants.name a)
  read levels := do
    let c ← valueStart
    if c = '"' then readVariant variants
    else if c = '\x7b' then
      nested levels fun _ => do
        skip
        let a ← readVariant variants
        colon
        readNothing
        match ← peekSolid with
        | none => failHere .endInObject
        | some c =>
            if c = '\x7d' then
              skip
              return a
            else failHere .expectedValue
    else failAhead .expectedValue
  decode _
    | .string s => (variants.find s).mapError .here
    | .object [(key, value)] => do
        let a ← (variants.find key).mapError .here
        match value with
        | .null => return a
        | other => mismatched other "unit"
    | .object fields =>
        .error (.here (.invalidValue (Content.object fields).toJson "map with a single key"))
    | other => mismatched other "string or map"

/-! ## Lists and tables -/

def decodeItems (decode : Content → Except DecodeError α) :
    Nat → List Content → Except DecodeError (List α)
  | _, [] => .ok []
  | index, item :: items => do
      let a ← (decode item).mapError (.under (toString index))
      return a :: (← decodeItems decode (index + 1) items)

def list (codec : Codec α) : Codec (List α) where
  encode as := .array (as.map codec.encode)
  read levels := do
    let c ← valueStart
    if c = '[' then
      nested levels fun inner => located (listOf (codec.read inner))
    else unfit "a sequence" c
  decode origin
    | .array items => decodeItems (codec.decode origin) 0 items
    | other => mismatched other "a sequence"

/-- Members under any keys, in the order in which they stand. -/
def members (codec : Codec α) : Codec (List (String × α)) where
  encode as := .object (as.map fun (key, a) => (key, codec.encode a))
  read levels := do
    let c ← valueStart
    if c = '\x7b' then
      nested levels fun inner => located do
        let member (key : String) (done : List (String × α)) : Reader (List (String × α)) := do
          colon
          return (key, ← codec.read inner) :: done
        return (← objectOf member []).reverse
    else unfit "a map" c
  decode origin
    | .object fields =>
        fields.mapM fun (key, value) => do
          return (key, ← (codec.decode origin value).mapError (.under key))
    | other => mismatched other "a map"

/-! ## Records -/

structure Field (α : Type) where
  name : String
  codec : Codec α
  /-- What a missing member stands for. -/
  default : Option α
  /-- Values that are not written. -/
  omits : α → Bool

def required (name : String) (codec : Codec α) : Field α :=
  ⟨name, codec, none, fun _ => false⟩

def defaulted (name : String) (codec : Codec α) (default : α) : Field α :=
  ⟨name, codec, some default, fun _ => false⟩

/-- Absent values are not written, and missing members are absent values. -/
def omittable (name : String) (codec : Codec α) : Field (Option α) :=
  ⟨name, codec.option, some none, Option.isNone⟩

/--
The fields of a record.  `Slots` holds the fields met so far while the members
of an object are gone through in the order in which they stand.
-/
structure Fields (α : Type) where
  size : Nat
  encode : α → List (String × Json)
  Slots : Type
  empty : Slots
  /-- What to do after a key; `none` if no field has it. -/
  readMember : Nat → String → Slots → Option (Reader Slots)
  decodeMember : Origin → String → Content → Slots → Option (Except DecodeError Slots)
  finish : Slots → Except Mismatch α
  /-- Reads the fields as items of a list: nesting levels, index of the next item, what the
  whole is called, and whether no item was read yet. -/
  readItems : Nat → Nat → String → Bool → Reader α
  /-- Decodes fields from items; also gives the items left over. -/
  decodeItems : Origin → Nat → String → List Content → Except DecodeError (α × List Content)

def noFields : Fields Unit where
  size := 0
  encode _ := []
  Slots := Unit
  empty := ()
  readMember _ _ _ := none
  decodeMember _ _ _ _ := none
  finish _ := .ok ()
  readItems _ _ _ _ := return ()
  decodeItems _ _ _ items := .ok ((), items)

def withField (field : Field α) (fields : Fields β) : Fields (α × β) where
  size := fields.size + 1
  encode := fun (a, b) =>
    if field.omits a then fields.encode b
    else (field.name, field.codec.encode a) :: fields.encode b
  Slots := Option α × fields.Slots
  empty := (none, fields.empty)
  readMember levels key := fun (slot, slots) =>
    if key = field.name then
      some do
        if slot.isSome then reject (.duplicateField field.name)
        else
          colon
          return (some (← field.codec.read levels), slots)
    else (fields.readMember levels key slots).map fun r => do return (slot, ← r)
  decodeMember origin key value := fun (slot, slots) =>
    if key = field.name then
      some do
        if slot.isSome then .error (.here (.duplicateField field.name))
        else
          let a ← (field.codec.decode origin value).mapError (.under key)
          return (some a, slots)
    else (fields.decodeMember origin key value slots).map fun r => do return (slot, ← r)
  finish := fun (slot, slots) => do
    let a ←
      match slot <|> field.default with
      | some a => pure a
      | none => .error (.missingField field.name)
    return (a, ← fields.finish slots)
  readItems levels index whole first := do
    if ← moreItems first then
      let a ← field.codec.read levels
      return (a, ← fields.readItems levels (index + 1) whole false)
    else
      match field.default with
      | some a => return (a, ← fields.readItems levels (index + 1) whole first)
      | none => reject (.invalidLength index whole)
  decodeItems origin index whole
    | item :: items => do
        let a ← (field.codec.decode origin item).mapError (.under (toString index))
        let (b, rest) ← fields.decodeItems origin (index + 1) whole items
        return ((a, b), rest)
    | [] =>
        match field.default with
        | some a => do
            let (b, rest) ← fields.decodeItems origin (index + 1) whole []
            return ((a, b), rest)
        | none => .error (.here (.invalidLength index whole))

/-- What a list with too many items should have been. -/
def tooLong (origin : Origin) (size : Nat) : String :=
  match origin with
  | .setAside => if size = 1 then "1 element in sequence" else s!"{size} elements in sequence"
  | _ => "fewer elements in array"

def elements (size : Nat) : String :=
  if size = 1 then "1 element" else s!"{size} elements"

/-- Reads what follows a key of a record; unknown members are passed over. -/
def readRecordMember (fields : Fields α) (levels : Nat) (key : String) (slots : fields.Slots) :
    Reader fields.Slots :=
  match fields.readMember levels key slots with
  | some r => r
  | none => do
      colon
      ignore
      return slots

def decodeRecordMembers (fields : Fields α) (origin : Origin) :
    List (String × Content) → fields.Slots → Except DecodeError fields.Slots
  | [], slots => .ok slots
  | (key, value) :: rest, slots => do
      let slots ← (fields.decodeMember origin key value slots).getD (.ok slots)
      decodeRecordMembers fields origin rest slots

/-- A record under a name of its own. -/
def record (name : String) (fields : Fields α) (build : α → β) (take : β → α) : Codec β where
  encode b := .object (fields.encode (take b))
  read levels := do
    let c ← valueStart
    let wanted := s!"struct {name}"
    if c = '[' then
      nested levels fun inner => located do
        skip
        let whole := s!"{wanted} with " ++ elements fields.size
        return build (← closedBy (fields.readItems inner 0 whole true) listEnd)
    else if c = '\x7b' then
      nested levels fun inner => located do
        skip
        let members : Reader α := do
          checked (Reader.members (readRecordMember fields inner) (← steps) true fields.empty)
            fields.finish
        return build (← closedBy members objectEnd)
    else unfit wanted c
  decode origin
    | .array items => do
        let whole := s!"struct {name} with " ++ elements fields.size
        let (a, rest) ← fields.decodeItems origin 0 whole items
        if rest.isEmpty || origin == .settings then return build a
        else .error (.here (.invalidLength items.length (tooLong origin fields.size)))
    | .object members => do
        let slots ← decodeRecordMembers fields origin members fields.empty
        return build (← (fields.finish slots).mapError .here)
    | other => mismatched other s!"struct {name}"

/-! ## Whole documents and texts -/

def ofDocument (codec : Codec α) (document : Json) : Except DecodeError α :=
  codec.decode .document (.ofJson .ofInt document)

def ofText (codec : Codec α) (text : String) : Except ReadError α :=
  (codec.read nestingLimit).run text

def toText (codec : Codec α) (a : α) : String :=
  (codec.encode a).compact

def toPretty (codec : Codec α) (a : α) : String :=
  (codec.encode a).pretty

end Codec

end SchemaKeeper.Json
