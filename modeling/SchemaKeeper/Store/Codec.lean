import SchemaKeeper.Connection.Codec
import SchemaKeeper.Object.Codec
import SchemaKeeper.Status.Codec
import SchemaKeeper.Store

/-!
The JSON form of records and of the whole store, as it is kept in the state file.
-/

namespace SchemaKeeper

open Json

def ObjectRecord.codec : Codec ObjectRecord :=
  Codec.record "ObjectState"
    (Codec.withField (Codec.omittable "status" Status.codec) <|
      Codec.withField (Codec.defaulted "markers" (Codec.list Codec.string) []) <|
      Codec.withField (Codec.omittable "applied" Entry.codec) <|
      Codec.withField (Codec.omittable "endpoint" Connection.codec) Codec.noFields)
    (fun (status, markers, applied, endpoint, ()) => ⟨status, markers, applied, endpoint⟩)
    (fun r => (r.status, r.markers, r.applied, r.endpoint, ()))

/-- Tables are written as objects; of several members with one key the last counts. -/
def Table.codec {α : Type} (codec : Codec α) : Codec (Table α) :=
  (Codec.members codec).map Table.ofList Table.entries

def Store.codec : Codec Store :=
  Codec.record "StateFile"
    (Codec.withField (Codec.defaulted "objects" (Table.codec ObjectRecord.codec) Table.empty)
      Codec.noFields)
    (fun (objects, ()) => ⟨objects⟩)
    (fun s => (s.objects, ()))

end SchemaKeeper
