import SchemaKeeper.Files
import SchemaKeeper.Settings.Codec
import SchemaKeeper.Settings.Environment
import SchemaKeeper.Toml.Document

/-!
Loading settings: from the environment and, laid over it, from a TOML file.
-/

namespace SchemaKeeper.Settings

open Json (Content)

inductive LoadReason where
  | notToml
  /-- The settings are not of the wanted form. -/
  | unfit (e : Json.DecodeError)
  deriving DecidableEq, Repr

def LoadReason.message : LoadReason → String
  | .notToml => "the file is not a valid TOML document"
  | .unfit e => e.reason.message ++ " at `" ++ ".".intercalate e.path ++ "`"

structure LoadError where
  path : Option String
  reason : LoadReason
  deriving DecidableEq, Repr

def LoadError.message (e : LoadError) : String :=
  match e.path with
  | some path =>
      s!"💀 Failed to parse configuration from file '{path}' and environment variables " ++
        "(ESSX_*). The file exists in our hearts, but apparently not in a shape serde recognizes."
  | none =>
      "💀 Failed to parse configuration from environment variables (ESSX_*). " ++
        "No file was provided, so this one is all on the environment."

/-- The tree in a file, whose numbers are all signed; what is no file counts as empty. -/
def fileTree : Found → Option Content
  | .file bytes =>
      ((Text.decodeUtf8 bytes).toOption.bind Toml.parse).map (Content.ofJson Content.signed)
  | .nothing | .directory | .unknown _ => some (.object [])

/-- Loads from a tree of the environment and one of a file. -/
def ofTrees (environment file : Content) : Except LoadReason Settings :=
  (codec.decode .settings (Environment.overlay environment file)).mapError .unfit

/-- Loads settings; `file` is a path and what stands there. -/
def load (environment : List (String × String)) (file : Option (String × Found)) :
    Except LoadError Settings :=
  let overlay := Environment.tree environment
  match file with
  | none => (ofTrees overlay (.object [])).mapError fun reason => ⟨none, reason⟩
  | some (path, found) =>
      match fileTree found with
      | none => .error ⟨some path, .notToml⟩
      | some tree => (ofTrees overlay tree).mapError fun reason => ⟨some path, reason⟩

end SchemaKeeper.Settings
