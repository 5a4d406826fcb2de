import SchemaKeeper.Json.Codec
import SchemaKeeper.Status

/-!
The JSON form of verdicts.
-/

namespace SchemaKeeper

open Json

def State.variants : Codec.Variants State where
  all := [("Created", .created), ("Retry", .retry), ("Error", .error)]
  name := label

def State.codec : Codec State :=
  Codec.choice variants

def Status.codec : Codec Status :=
  Codec.record "ObservedStatus"
    (Codec.withField (Codec.required "state" State.codec) <|
      Codec.withField (Codec.omittable "code" Codec.uint16) <|
      Codec.withField (Codec.defaulted "message" Codec.string "") Codec.noFields)
    (fun (state, code, message, ()) => ⟨state, code, message⟩)
    (fun s => (s.state, s.code, s.message, ()))

end SchemaKeeper
