import SchemaKeeper.Json

/-!
Trees from which values of other types are decoded.

They come from several formats, some of which tell apart what JSON does not: a
single character from a text, and a number that was given as a count from one
that may have a sign.
-/

namespace SchemaKeeper.Json

inductive Content where
  | null
  | bool (value : Bool)
  | count (value : Nat)
  | signed (value : Int)
  | double (value : Double)
  | character (value : Char)
  | string (value : String)
  | array (items : List Content)
  | object (fields : List (String × Content))
  deriving Repr, Inhabited

namespace Content

/-- A whole number of a format without signed types: it has a sign only where it needs one. -/
def ofInt (n : Int) : Content :=
  if 0 ≤ n then .count n.toNat else .signed n

mutual
/-- The tree of a document, whose whole numbers become what `whole` says. -/
def ofJson (whole : Int → Content) : Json → Content
  | .null => .null
  | .bool b => .bool b
  | .number (.integer n) => whole n
  | .number (.double x) => .double x
  | .string s => .string s
  | .array items => .array (ofItems whole items)
  | .object fields => .object (ofFields whole fields)

def ofItems (whole : Int → Content) : List Json → List Content
  | [] => []
  | item :: items => ofJson whole item :: ofItems whole items

def ofFields (whole : Int → Content) : List (String × Json) → List (String × Content)
  | [] => []
  | (key, value) :: fields => (key, ofJson whole value) :: ofFields whole fields
end

mutual
/-- The document that shows a tree. -/
def toJson : Content → Json
  | .null => .null
  | .bool b => .bool b
  | .count n => .ofNat n
  | .signed n => .ofInt n
  | .double x => .number (.double x)
  | .character c => .string (String.singleton c)
  | .string s => .string s
  | .array items => .array (itemsToJson items)
  | .object fields => .object (fieldsToJson fields)

def itemsToJson : List Content → List Json
  | [] => []
  | item :: items => item.toJson :: itemsToJson items

def fieldsToJson : List (String × Content) → List (String × Json)
  | [] => []
  | (key, value) :: fields => (key, value.toJson) :: fieldsToJson fields
end

def number? : Content → Option Number
  | .count n => some (.integer n)
  | .signed n => some (.integer n)
  | .double x => some (.double x)
  | _ => none

end Content

end SchemaKeeper.Json
