import SchemaKeeper.Table
import SchemaKeeper.Text.Utf8

/-!
Files: what may stand at a path, why reading or writing fails, and a directory
that holds nothing but files, as seen by a program that runs in it.
-/

namespace SchemaKeeper

inductive FileFault where
  | missing
  | isDirectory
  | notDirectory
  | notText
  | nameTooLong
  /-- The path holds a character that no path may hold. -/
  | zeroInPath
  /-- Any other reason, in the words of the system. -/
  | other (reason : String)
  deriving DecidableEq, Repr

def FileFault.message : FileFault → String
  | .missing => "No such file or directory (os error 2)"
  | .isDirectory => "Is a directory (os error 21)"
  | .notDirectory => "Not a directory (os error 20)"
  | .notText => "stream did not contain valid UTF-8"
  | .nameTooLong => "File name too long (os error 36)"
  | .zeroInPath => "file name contained an unexpected NUL byte"
  | .other reason => reason

inductive Found where
  | nothing
  | file (bytes : List UInt8)
  | directory
  /-- It cannot be told. -/
  | unknown (fault : FileFault)
  deriving DecidableEq, Repr

namespace Found

def ofText (text : String) : Found :=
  .file (Text.encodeUtf8 text.toList)

/-- Whether anything stands at the path, if that can be told. -/
def isThere : Found → Except FileFault Bool
  | .nothing => .ok false
  | .file _ | .directory => .ok true
  | .unknown fault => .error fault

def text? : Found → Except FileFault (Option String)
  | .nothing => .ok none
  | .file bytes =>
      match Text.decodeUtf8 bytes with
      | .ok text => .ok (some text)
      | .error _ => .error .notText
  | .directory => .error .isDirectory
  | .unknown fault => .error fault

end Found

/-! ## Directories -/

/--
The files that a program knows of, under their paths.  A path without slashes
is one in the program's own directory.  The directories above it, whose paths
begin with `../`, and those of the system hold only what the program puts there.
-/
structure Directory where
  files : Table (List UInt8)
  deriving DecidableEq, Repr

namespace Directory

def empty : Directory :=
  ⟨.empty⟩

instance : Inhabited Directory :=
  ⟨empty⟩

inductive Target where
  | directory
  /-- A name in a directory, and whether the path says that it is one of a directory. -/
  | entry (path : String) (slash : Bool)
  deriving DecidableEq, Repr

def maxNameSize : Nat := 255

def maxPathSize : Nat := 4095

def systemDirectories : List String :=
  ["bin", "boot", "dev", "etc", "home", "lib", "media", "mnt", "opt", "proc", "root", "run",
    "sbin", "srv", "sys", "tmp", "usr", "var"]

/-- A file that is empty whatever is written to it. -/
def nullDevice : String := "/dev/null"

def bytes? (directory : Directory) (path : String) : Option (List UInt8) :=
  if path = nullDevice then some [] else directory.files.get? path

def above (here : String) : String :=
  if here.startsWith "/" then "/" else here ++ "../"

/-- Follows the names of a path from a directory. -/
def walk (directory : Directory) (slash : Bool) : String → List String → Except FileFault Target
  | _, [] => .ok .directory
  | here, name :: rest =>
      if name = "." then walk directory slash here rest
      else if name = ".." then walk directory slash (above here) rest
      else if maxNameSize < name.utf8ByteSize then .error .nameTooLong
      else if here = "/" ∧ name ∈ systemDirectories then
        walk directory slash (here ++ name ++ "/") rest
      else if rest.isEmpty then .ok (.entry (here ++ name) slash)
      else if (directory.bytes? (here ++ name)).isSome then .error .notDirectory
      else .error .missing

/-- The empty path leads to the directory itself. -/
def locate (directory : Directory) (path : String) : Except FileFault Target :=
  if path.contains '\x00' then .error .zeroInPath
  else if maxPathSize < path.utf8ByteSize then .error .nameTooLong
  else
    directory.walk (path.endsWith "/") (if path.startsWith "/" then "/" else "")
      ((path.splitOn "/").filter (· != ""))

def find (directory : Directory) (path : String) : Found :=
  match directory.locate path with
  | .error .missing => .nothing
  | .error fault => .unknown fault
  | .ok .directory => .directory
  | .ok (.entry path slash) =>
      match directory.bytes? path with
      | none => .nothing
      | some bytes => if slash then .unknown .notDirectory else .file bytes

/-- Writes a file, which may be new; directories are never made. -/
def write (directory : Directory) (path : String) (bytes : List UInt8) :
    Except FileFault Directory := do
  match ← directory.locate path with
  | .directory => throw .isDirectory
  | .entry path slash =>
      if slash then throw (if (directory.bytes? path).isSome then .notDirectory else .isDirectory)
      else if path = nullDevice then return directory
      else return ⟨directory.files.insert path bytes⟩

def writeText (directory : Directory) (path text : String) : Except FileFault Directory :=
  directory.write path (Text.encodeUtf8 text.toList)

end Directory

end SchemaKeeper
