import SchemaKeeper.Files
import SchemaKeeper.Store.Codec

/-!
The state file: the store as it is kept between runs.
-/

namespace SchemaKeeper.Store

inductive FileError where
  | unrecognized (path : String) (reason : Json.ReadError)
  | unread (path : String) (fault : FileFault)
  | unwritten (path : String) (fault : FileFault)
  deriving DecidableEq, Repr

/-- What went wrong, and then why. -/
def FileError.chain : FileError → List String
  | .unrecognized path reason =>
      [s!"💀 State file '{path}' exists but is not a state file we recognize.", reason.message]
  | .unread path fault => [s!"💀 Failed to read state file '{path}'", fault.message]
  | .unwritten path fault => [s!"💀 Failed to write state file '{path}'", fault.message]

/-- Reads the store from what stands at a path; a missing file is an empty store. -/
def load (path : String) (found : Found) : Except FileError Store := do
  match ← found.text?.mapError (.unread path) with
  | none => return .empty
  | some text => (codec.ofText text).mapError (.unrecognized path)

def fileText (store : Store) : String :=
  codec.toPretty store

end SchemaKeeper.Store
