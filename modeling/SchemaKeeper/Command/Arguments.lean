/-!
The arguments of the command line: options of the program, the name of a task,
and the options and names that belong to the task.
-/

namespace SchemaKeeper.Command

inductive Task where
  | apply
  | delete (names : List String)
  | validate
  deriving DecidableEq, Repr

structure Invocation where
  /-- The path of the settings. -/
  config : String
  /-- The path of the state file. -/
  state : String
  task : Task
  deriving DecidableEq, Repr

/-- What arguments come to. -/
inductive Request where
  | run (invocation : Invocation)
  | help
  /-- The arguments make no sense. -/
  | wrong
  deriving DecidableEq, Repr

def defaultConfig : String := "essx.toml"

def defaultState : String := "essx-state.json"

def usage : String :=
  "Usage: essx [--config <CONFIG>] apply [--state <STATE>]\n" ++
  "       essx [--config <CONFIG>] delete [--state <STATE>] <NAMES>...\n" ++
  "       essx [--config <CONFIG>] validate [--state <STATE>]\n"

/-! ## Options -/

structure PathOption where
  long : String
  short : Option Char

def configOption : PathOption :=
  ⟨"--config", some 'c'⟩

def stateOption : PathOption :=
  ⟨"--state", none⟩

/-- Whether an argument looks like an option; a single dash does not. -/
def looksLikeOption (argument : String) : Bool :=
  argument.startsWith "-" && argument != "-"

/-- The value that an option carries in the same argument. -/
def PathOption.attached? (option : PathOption) (argument : String) : Option String :=
  let afterLong := (argument.dropPrefix? (option.long ++ "=")).map (·.toString)
  let afterShort := do
    let letter ← option.short
    let value := (← argument.dropPrefix? (String.ofList ['-', letter])).toString
    guard (value != "" && !argument.startsWith "--")
    return ((value.dropPrefix? "=").map (·.toString)).getD value
  afterLong <|> afterShort

def PathOption.isNamedBy (option : PathOption) (argument : String) : Bool :=
  argument == option.long ||
    (option.short.map fun c => argument == String.ofList ['-', c]).getD false

/-- The value of an option in front of the arguments, if it is there; and the arguments left. -/
inductive OptionFound where
  | absent
  | wrong
  | value (path : String) (rest : List String)

def PathOption.find (option : PathOption) (argument : String) (rest : List String) : OptionFound :=
  if option.isNamedBy argument then
    match rest with
    | value :: rest => if looksLikeOption value || value == "" then .wrong else .value value rest
    | [] => .wrong
  else
    match option.attached? argument with
    | some "" => .wrong
    | some value => .value value rest
    | none => .absent

/-- Letters behind the one that asks for help are not looked at. -/
def asksForHelp (argument : String) : Bool :=
  argument == "--help" || argument.startsWith "-h"

/-! ## Tasks -/

structure TaskArguments where
  state : Option String
  names : List String
  deriving DecidableEq, Repr

inductive TaskReading where
  | found (arguments : TaskArguments)
  | help
  | wrong
  deriving DecidableEq, Repr

/-- Reads the arguments of a task; the fuel is their number and one. -/
def readTask (takesNames : Bool) : Nat → TaskArguments → List String → TaskReading
  | 0, _, _ => .wrong
  | _ + 1, known, [] => .found known
  | fuel + 1, known, argument :: rest =>
      if argument = "--" then
        if rest.isEmpty || takesNames then .found { known with names := known.names ++ rest }
        else .wrong
      else if asksForHelp argument then .help
      else
        match stateOption.find argument rest with
        | .wrong => .wrong
        | .value path rest =>
            if known.state.isSome then .wrong
            else readTask takesNames fuel { known with state := some path } rest
        | .absent =>
            if looksLikeOption argument || !takesNames then .wrong
            else readTask takesNames fuel { known with names := known.names ++ [argument] } rest

def finishTask (config : String) (task : List String → Option Task) : TaskReading → Request
  | .wrong => .wrong
  | .help => .help
  | .found arguments =>
      match task arguments.names with
      | some task => .run ⟨config, arguments.state.getD defaultState, task⟩
      | none => .wrong

def isTaskName (name : String) : Bool :=
  ["apply", "delete", "validate", "help"].contains name

def taskRequest (config : String) (name : String) (arguments : List String) : Request :=
  let read (takesNames : Bool) : TaskReading :=
    readTask takesNames (arguments.length + 1) ⟨none, []⟩ arguments
  if name = "apply" then finishTask config (fun _ => some .apply) (read false)
  else if name = "validate" then finishTask config (fun _ => some .validate) (read false)
  else if name = "delete" then
    finishTask config (fun names => if names.isEmpty then none else some (.delete names))
      (read true)
  else if name = "help" then
    match arguments with
    | [] => .help
    | [topic] => if isTaskName topic then .help else .wrong
    | _ => .wrong
  else .wrong

/-! ## Whole command lines -/

/-- A run needs a path of the settings; help can be had without one. -/
def Request.withPath : Request → Request
  | .run invocation => if invocation.config = "" then .wrong else .run invocation
  | request => request

/-- The options of the program, up to the name of the task. -/
def readProgram (fromVariable : Option String) :
    Nat → Option String → List String → Request
  | 0, _, _ | _, _, [] => .wrong
  | fuel + 1, config, argument :: rest =>
      if asksForHelp argument then .help
      else
        match configOption.find argument rest with
        | .wrong => .wrong
        | .value path rest =>
            if config.isSome then .wrong else readProgram fromVariable fuel (some path) rest
        | .absent =>
            let path := (config <|> fromVariable).getD defaultConfig
            (taskRequest path argument rest).withPath

def Request.ofArguments (fromVariable : Option String) (arguments : List String) : Request :=
  readProgram fromVariable (arguments.length + 1) none arguments

end SchemaKeeper.Command
