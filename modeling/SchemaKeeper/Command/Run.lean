import SchemaKeeper.Command.Arguments
import SchemaKeeper.Command.Tables
import SchemaKeeper.Settings.Loading
import SchemaKeeper.Store.File

/-!
Runs of the program: from an invocation to what is written and shown.

A run loads settings and store, carries out its task and saves the store, in
this order, and stops at the first failure.
-/

namespace SchemaKeeper.Command

/-! ## Failures -/

inductive Failure where
  | configUnchecked (path : String) (fault : FileFault)
  | settings (reason : Settings.LoadError)
  | store (reason : Store.FileError)
  deriving DecidableEq, Repr

/-- What went wrong, and then why. -/
def Failure.chain : Failure → List String
  | .configUnchecked path fault =>
      [s!"💀 Could not check whether the config file exists. Was checking here: '{path}'",
        fault.message]
  | .settings reason =>
      ["💀 Couldn't load the essx config. Check the file, check the ESSX_* variables, " ++
        "check that nobody put a tab where a space should be.",
        reason.message, reason.reason.message]
  | .store reason => reason.chain

def Failure.log (failure : Failure) : List String :=
  match failure.chain with
  | [] => []
  | what :: causes => s!"💀 error: {what}" :: causes.map fun cause => s!"⚠️  cause: {cause}"

/-! ## Loading -/

structure Loaded where
  settings : Settings
  store : Store

def loadSettings (environment : List (String × String)) (path : String) (found : Found) :
    Except Failure Settings := do
  let there ← found.isThere.mapError (.configUnchecked path)
  (Settings.load environment (if there then some (path, found) else none)).mapError .settings

def load (environment : List (String × String)) (invocation : Invocation)
    (find : String → Found) : Except Failure Loaded := do
  let settings ← loadSettings environment invocation.config (find invocation.config)
  let store ← (Store.load invocation.state (find invocation.state)).mapError .store
  return ⟨settings, store⟩

/-! ## Tasks -/

/-- What a task comes to: what is shown, and the store if it is to be saved. -/
structure Outcome where
  shown : String
  saved : Option Store

/-- The round of a task; validation asks nobody. -/
def round (task : Task) (loaded : Loaded) : Rounds.Round Outcome :=
  match task with
  | .apply =>
      (Rounds.applyRound loaded.settings loaded.store).map fun result =>
        ⟨applyText result.reports, some result.store⟩
  | .delete names =>
      (Rounds.deleteRound loaded.settings loaded.store names).map fun result =>
        ⟨deleteText result.reports result.missing, some result.store⟩
  | .validate =>
      ⟨[], fun _ => ⟨validateText (Rounds.validate loaded.settings loaded.store), none⟩⟩

/-! ## Whole runs -/

inductive Ending where
  | shown (text : String)
  | failed (failure : Failure)
  | help
  | wrongArguments
  deriving DecidableEq, Repr

def Ending.exitCode : Ending → UInt8
  | .shown _ | .help => 0
  | .failed _ => 1
  | .wrongArguments => 2

/-- Saves the store if there is one to save. -/
def save (directory : Directory) (path : String) : Option Store → Except Failure Directory
  | none => .ok directory
  | some store =>
      (directory.writeText path store.fileText).mapError fun fault => .store (.unwritten path fault)

def run {World : Type} (connector : Settings → Connector World)
    (environment : List (String × String)) (invocation : Invocation) (directory : Directory)
    (world : World) : Ending × Directory × World :=
  match load environment invocation directory.find with
  | .error failure => (.failed failure, directory, world)
  | .ok loaded =>
      let (outcome, world) :=
        (round invocation.task loaded).run loaded.settings.runtime (connector loaded.settings) world
      match save directory invocation.state outcome.saved with
      | .error failure => (.failed failure, directory, world)
      | .ok directory => (.shown outcome.shown, directory, world)

def runArguments {World : Type} (connector : Settings → Connector World)
    (environment : List (String × String)) (arguments : List String) (directory : Directory)
    (world : World) : Ending × Directory × World :=
  match Request.ofArguments (environment.lookup "ESSX_CONFIG") arguments with
  | .run invocation => run connector environment invocation directory world
  | .help => (.help, directory, world)
  | .wrong => (.wrongArguments, directory, world)

end SchemaKeeper.Command
