import SchemaKeeper.Double
import SchemaKeeper.Table

/-!
JSON documents.

A `Json` value keeps the members of an object in a list.  A document as it is
compared and stored is `wellFormed`: every object lists its members in
increasing order of their keys, each key once, and whole numbers fit 64 bits.
A value that was only just read, or that is about to be printed in an order of
its own, need not be; `normalize` brings it there.
-/

namespace SchemaKeeper

/-- Whole numbers of at most 64 bits stay whole; all other numbers are doubles. -/
inductive Number where
  | integer (value : Int)
  | double (value : Double)
  deriving DecidableEq, Repr, Inhabited

inductive Json where
  | null
  | bool (value : Bool)
  | number (value : Number)
  | string (value : String)
  | array (items : List Json)
  | object (fields : List (String × Json))
  deriving Repr, Inhabited

namespace Number

def leastInteger : Int := -0x8000000000000000

def integerBound : Int := 0x10000000000000000

/-- Whole numbers in this range are also signed words. -/
def signedBound : Int := 0x8000000000000000

def inRange : Number → Prop
  | .integer n => leastInteger ≤ n ∧ n < integerBound
  | .double _ => True

def toDouble : Number → Double
  | .integer n => Double.ofInt n
  | .double x => x

def toChars : Number → List Char
  | .integer n => if n < 0 then '-' :: Nat.toDigits 10 n.natAbs else Nat.toDigits 10 n.natAbs
  | .double x => x.toChars

def toText (n : Number) : String :=
  String.ofList n.toChars

/--
Two signed words are compared as integers; any other pair is compared after
both have become doubles.
-/
def sameValue : Number → Number → Bool
  | .integer m, .integer n =>
      if m < signedBound ∧ n < signedBound then m == n
      else (Double.ofInt m).sameValue (Double.ofInt n)
  | m, n => m.toDouble.sameValue n.toDouble

end Number

namespace Json

def ofNat (n : Nat) : Json :=
  .number (.integer n)

def ofInt (n : Int) : Json :=
  .number (.integer n)

/-! ## Equality -/

mutual
def decEq : (a b : Json) → Decidable (a = b)
  | .null, .null => isTrue rfl
  | .bool a, .bool b => if h : a = b then isTrue (by rw [h]) else isFalse (by simp [h])
  | .number a, .number b => if h : a = b then isTrue (by rw [h]) else isFalse (by simp [h])
  | .string a, .string b => if h : a = b then isTrue (by rw [h]) else isFalse (by simp [h])
  | .array a, .array b =>
      match decEqItems a b with
      | isTrue h => isTrue (by rw [h])
      | isFalse h => isFalse (by simp [h])
  | .object a, .object b =>
      match decEqFields a b with
      | isTrue h => isTrue (by rw [h])
      | isFalse h => isFalse (by simp [h])
  | .null, .bool _ | .null, .number _ | .null, .string _ | .null, .array _ | .null, .object _
  | .bool _, .null | .bool _, .number _ | .bool _, .string _ | .bool _, .array _
  | .bool _, .object _
  | .number _, .null | .number _, .bool _ | .number _, .string _ | .number _, .array _
  | .number _, .object _
  | .string _, .null | .string _, .bool _ | .string _, .number _ | .string _, .array _
  | .string _, .object _
  | .array _, .null | .array _, .bool _ | .array _, .number _ | .array _, .string _
  | .array _, .object _
  | .object _, .null | .object _, .bool _ | .object _, .number _ | .object _, .string _
  | .object _, .array _ => isFalse (by simp)

def decEqItems : (a b : List Json) → Decidable (a = b)
  | [], [] => isTrue rfl
  | [], _ :: _ | _ :: _, [] => isFalse (by simp)
  | a :: as, b :: bs =>
      match decEq a b, decEqItems as bs with
      | isTrue h, isTrue hs => isTrue (by rw [h, hs])
      | isFalse h, _ => isFalse (by simp [h])
      | _, isFalse hs => isFalse (by simp [hs])

def decEqFields : (a b : List (String × Json)) → Decidable (a = b)
  | [], [] => isTrue rfl
  | [], _ :: _ | _ :: _, [] => isFalse (by simp)
  | (k, a) :: as, (l, b) :: bs =>
      if hk : k = l then
        match decEq a b, decEqFields as bs with
        | isTrue h, isTrue hs => isTrue (by rw [hk, h, hs])
        | isFalse h, _ => isFalse (by simp [h])
        | _, isFalse hs => isFalse (by simp [hs])
      else isFalse (by simp [hk])
end

instance : DecidableEq Json := decEq

/-! ## Looking inside -/

/-- What kind of value this is, with its article. -/
def describe : Json → String
  | .null => "null"
  | .bool _ => "a boolean"
  | .number _ => "a number"
  | .string _ => "a string"
  | .array _ => "an array"
  | .object _ => "an object"

def fields? : Json → Option (List (String × Json))
  | .object fields => some fields
  | _ => none

def field? (value : Json) (key : String) : Option Json :=
  value.fields?.bind (·.lookup key)

/-- Follows keys through nested objects; arrays are never entered. -/
def at? (value : Json) : List String → Option Json
  | [] => some value
  | key :: keys => (value.field? key).bind (·.at? keys)

mutual
/-- How many arrays and objects enclose the innermost value. -/
def depth : Json → Nat
  | .array items => depthItems items + 1
  | .object fields => depthFields fields + 1
  | _ => 0

def depthItems : List Json → Nat
  | [] => 0
  | item :: items => max item.depth (depthItems items)

def depthFields : List (String × Json) → Nat
  | [] => 0
  | (_, value) :: fields => max value.depth (depthFields fields)
end

/-! ## The order of members -/

mutual
/-- Sorts the members of every object and drops members whose key comes again. -/
def normalize : Json → Json
  | .array items => .array (normalizeItems items)
  | .object fields => .object (Entries.ofList (normalizeFields fields))
  | value => value

def normalizeItems : List Json → List Json
  | [] => []
  | item :: items => item.normalize :: normalizeItems items

def normalizeFields : List (String × Json) → List (String × Json)
  | [] => []
  | (key, value) :: fields => (key, value.normalize) :: normalizeFields fields
end

mutual
def wellFormed : Json → Prop
  | .number n => n.inRange
  | .array items => wellFormedItems items
  | .object fields => Entries.Ordered fields ∧ wellFormedFields fields
  | _ => True

def wellFormedItems : List Json → Prop
  | [] => True
  | item :: items => item.wellFormed ∧ wellFormedItems items

def wellFormedFields : List (String × Json) → Prop
  | [] => True
  | (_, value) :: fields => value.wellFormed ∧ wellFormedFields fields
end

/-! ## Equality of documents -/

mutual
/--
Equality of documents.  Numbers are compared by value, so the `100` of a model
and the `100.0` of an answer are the same; the order of members never matters.
-/
def sameValue : Json → Json → Bool
  | .null, .null => true
  | .bool a, .bool b => a == b
  | .number a, .number b => a.sameValue b
  | .string a, .string b => a == b
  | .array as, .array bs => as.length == bs.length && sameItems as bs
  | .object as, .object bs => as.length == bs.length && sameFields as bs
  | _, _ => false

def sameItems : List Json → List Json → Bool
  | a :: as, b :: bs => a.sameValue b && sameItems as bs
  | _, _ => true

/-- Every member of the first object has an equal counterpart in the second. -/
def sameFields : List (String × Json) → List (String × Json) → Bool
  | [], _ => true
  | (key, a) :: as, bs =>
      (match bs.lookup key with
        | some b => a.sameValue b
        | none => false) && sameFields as bs
end

end Json

end SchemaKeeper
