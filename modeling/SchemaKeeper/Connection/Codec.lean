import SchemaKeeper.Connection
import SchemaKeeper.Json.Codec

/-!
The JSON form of connections.
-/

namespace SchemaKeeper

open Json

def Version.variants : Codec.Variants Version where
  all := [("V6", .v6), ("V7", .v7), ("V8", .v8)]
  name version := s!"V{version.major}"

def Version.codec : Codec Version :=
  Codec.choice variants

def Connection.codec : Codec Connection :=
  Codec.record "EsConnection"
    (Codec.withField (Codec.required "scheme" Codec.string) <|
      Codec.withField (Codec.required "host" Codec.string) <|
      Codec.withField (Codec.required "port" Codec.uint16) <|
      Codec.withField (Codec.defaulted "username" (Codec.option Codec.string) none) <|
      Codec.withField (Codec.defaulted "password" (Codec.option Codec.string) none) <|
      Codec.withField (Codec.defaulted "version" (Codec.option Version.codec) none)
        Codec.noFields)
    (fun (scheme, host, port, username, password, version, ()) =>
      ⟨scheme, host, port, username, password, version⟩)
    (fun c => (c.scheme, c.host, c.port, c.username, c.password, c.version, ()))

end SchemaKeeper
