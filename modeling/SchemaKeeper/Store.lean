import SchemaKeeper.Connection
import SchemaKeeper.Object
import SchemaKeeper.Status

/-!
The store: what is remembered of each object between passes.

A record lives under the key `Kind/name`.  Markers name those who still have
business with the object; while one is there the record must not be forgotten.
-/

namespace SchemaKeeper

/-- What to do with a marker after a pass. -/
inductive MarkerAction where
  | keep
  | add
  | remove
  deriving DecidableEq, Repr, Inhabited

def MarkerAction.label : MarkerAction → String
  | .keep => "Keep"
  | .add => "Add"
  | .remove => "Remove"

structure ObjectRecord where
  status : Option Status
  markers : List String
  /-- The entry as it was last admitted. -/
  applied : Option Entry
  /-- The cluster the admitted entry lives on, without the password. -/
  endpoint : Option Connection
  deriving DecidableEq, Repr

namespace ObjectRecord

def blank : ObjectRecord :=
  ⟨none, [], none, none⟩

instance : Inhabited ObjectRecord :=
  ⟨blank⟩

def hasMarker (record : ObjectRecord) (marker : String) : Bool :=
  record.markers.contains marker

def mark (record : ObjectRecord) (action : MarkerAction) (marker : String) : ObjectRecord :=
  match action with
  | .keep => record
  | .add =>
      if record.hasMarker marker then record
      else { record with markers := record.markers ++ [marker] }
  | .remove => { record with markers := record.markers.filter (· != marker) }

end ObjectRecord

structure Store where
  objects : Table ObjectRecord
  deriving DecidableEq, Repr

namespace Store

def empty : Store :=
  ⟨Table.empty⟩

instance : Inhabited Store :=
  ⟨empty⟩

def key (kind : Kind) (name : String) : String :=
  s!"{kind.label}/{name}"

def keyOf (object : DesiredObject) : String :=
  key object.kind object.name

def get? (store : Store) (key : String) : Option ObjectRecord :=
  store.objects.get? key

def recordAt (store : Store) (key : String) : ObjectRecord :=
  (store.get? key).getD .blank

def put (store : Store) (key : String) (record : ObjectRecord) : Store :=
  ⟨store.objects.insert key record⟩

def forget (store : Store) (key : String) : Store :=
  ⟨store.objects.erase key⟩

end Store

end SchemaKeeper
