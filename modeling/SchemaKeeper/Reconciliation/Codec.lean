import SchemaKeeper.Json.Codec
import SchemaKeeper.Reconciliation

/-!
The JSON form of places in the life cycle.
-/

namespace SchemaKeeper

open Json

def Lifecycle.codec : Codec Lifecycle :=
  Codec.record "Lifecycle"
    (Codec.withField (Codec.required "deletion_requested" Codec.bool) <|
      Codec.withField (Codec.required "marker_present" Codec.bool) <|
      Codec.withField (Codec.required "delete_in_cluster" Codec.bool) Codec.noFields)
    (fun (deletion, marker, delete, ()) => ⟨deletion, marker, delete⟩)
    (fun l => (l.deletionRequested, l.markerPresent, l.deleteInCluster, ()))

end SchemaKeeper
