import SchemaKeeper.Machine

/-!
# Runs on machines

On a machine whose files are a directory and whose network is a function, a run
is the pure run: it ends alike and leaves the same files.  So what is shown of the
pure run, and tested of it, is said of the program, as far as the real machine
gives the answers of such files and such a network.
-/

namespace SchemaKeeper.Machine

variable {World α β : Type}

/-! ## Actions that leave the files alone -/

/-- Something that is done on the network. -/
def onNetwork (f : World → α × World) : StateM (Directory × World) α :=
  fun (directory, world) => ((f world).1, directory, (f world).2)

theorem run_onNetwork (f : World → α × World) (directory : Directory) (world : World) :
    (onNetwork f).run (directory, world) = ((f world).1, directory, (f world).2) :=
  rfl

theorem run_onNetwork_bind (f : World → α × World) (next : α → StateM (Directory × World) β)
    (directory : Directory) (world : World) :
    (onNetwork f >>= next).run (directory, world) =
      (next (f world).1).run (directory, (f world).2) :=
  rfl

theorem onNetwork_bind {f : World → α × World} {next : α → StateM (Directory × World) β}
    {g : α → World → β × World} (h : ∀ a, next a = onNetwork (g a)) :
    (onNetwork f >>= next) = onNetwork fun world => g (f world).1 (f world).2 := by
  rw [funext h]
  rfl

/-! ## Gateways and rounds -/

/-- A machine with a directory and a network, both of which are values. -/
def still (network : Network World) : Machine (StateM (Directory × World)) where
  find path := fun (directory, world) => (directory.find path, directory, world)
  write path text := fun (directory, world) =>
    match directory.writeText path text with
    | .ok changed => (.ok (), changed, world)
    | .error fault => (.error fault, directory, world)
  exchange _ request := onNetwork (network.exchange request)

variable (network : Network World)

theorem send_still (t : Transport) (verb : Wire.Verb) (target : String) (body : Option String) :
    (still network).send t verb target body = onNetwork (t.send network verb target body) := by
  unfold send Transport.send
  cases t.request verb target body <;> rfl

/-- Where nobody answers. -/
example : Outcome.toStatus (((still Network.deserted).send
    ⟨"http://localhost:9200", none, none, .ofSeconds 10⟩ .get "/orders" none).run (.empty, ())).1 =
      Status.retry
        "💀 transport failure: error sending request for url (http://localhost:9200/orders)" := by
  decide +kernel

theorem answer_still (gateway : HttpGateway) (c : Call) :
    (still network).answer gateway c = onNetwork (gateway.answer network c) := by
  unfold answer
  dsimp only
  rw [send_still]
  rfl

theorem runProgram_still (gateway : HttpGateway) (p : Program α) :
    (still network).runProgram gateway p = onNetwork (p.run (gateway.answer network)) := by
  induction p with
  | done result => rfl
  | call c next ih =>
      rw [runProgram, answer_still, onNetwork_bind ih]
      rfl

theorem runPass_still (options : TransportOptions) (pass : Pass) :
    (still network).runPass options pass =
      onNetwork (pass.run (HttpGateway.connector network options)) := by
  cases pass with
  | settled outcome => rfl
  | contact connection refused connected =>
      apply StateT.ext
      rintro ⟨directory, world⟩
      rw [runPass, send_still, run_onNetwork_bind, run_onNetwork]
      simp only [Pass.run, HttpGateway.connector, HttpGateway.connect]
      generalize (Transport.ofConnection connection options).send network .get "/" none world =
        sent
      cases HttpGateway.ofRoot (.ofConnection connection options) connection sent.1 with
      | error e => rfl
      | ok gateway =>
          rw [goOn, runProgram_still, run_onNetwork]

theorem runAll_still (settings : Settings) (requests : List ReconcileRequest) :
    (still network).runAll settings requests =
      onNetwork (Rounds.reconcileAll settings.runtime
        (HttpGateway.connector network settings.transportOptions) requests) := by
  induction requests with
  | nil => rfl
  | cons request requests ih =>
      rw [runAll, runPass_still, ih]
      rfl

theorem runRound_still {Result : Type} (settings : Settings) (round : Rounds.Round Result) :
    (still network).runRound settings round =
      onNetwork (round.run settings.runtime
        (HttpGateway.connector network settings.transportOptions)) := by
  rw [runRound, runAll_still]
  rfl

/-! ## Whole runs -/

variable (directory : Directory) (world : World)

theorem save_still (path : String) (store : Option Store) :
    ((still network).save path store).run (directory, world) =
      match Command.save directory path store with
      | .ok changed => (.ok (), changed, world)
      | .error failure => (.error failure, directory, world) := by
  cases store with
  | none => rfl
  | some store =>
      have hwrite : ((still network).write path store.fileText).run (directory, world) =
          match directory.writeText path store.fileText with
          | .ok changed => (.ok (), changed, world)
          | .error fault => (.error fault, directory, world) := rfl
      rw [save, StateT.run_bind, hwrite, Command.save]
      cases directory.writeText path store.fileText <;> rfl

theorem carryOut_still (invocation : Command.Invocation) (loaded : Command.Loaded) :
    ((still network).carryOut invocation (.ok loaded)).run (directory, world) =
      let (outcome, world) := (Command.round invocation.task loaded).run loaded.settings.runtime
        (HttpGateway.connector network loaded.settings.transportOptions) world
      match Command.save directory invocation.state outcome.saved with
      | .error failure => (.failed failure, directory, world)
      | .ok directory => (.shown outcome.shown, directory, world) := by
  let result := (Command.round invocation.task loaded).run loaded.settings.runtime
    (HttpGateway.connector network loaded.settings.transportOptions) world
  rw [carryOut, runRound_still, run_onNetwork_bind, StateT.run_bind, save_still]
  dsimp only
  cases Command.save directory invocation.state result.1.saved <;> rfl

/-- Loading looks at the two paths of an invocation alone. -/
theorem load_congr (environment : List (String × String)) (invocation : Command.Invocation)
    {find other : String → Found} (hconfig : find invocation.config = other invocation.config)
    (hstate : find invocation.state = other invocation.state) :
    Command.load environment invocation find = Command.load environment invocation other := by
  unfold Command.load
  rw [hconfig, hstate]

/-- On a machine whose files and network are values, a run is the pure run. -/
theorem run_still (environment : List (String × String)) (arguments : List String) :
    ((still network).run environment arguments).run (directory, world) =
      Command.runArguments
        (fun settings => HttpGateway.connector network settings.transportOptions)
        environment arguments directory world := by
  unfold run Command.runArguments
  cases Command.Request.ofArguments (environment.lookup "ESSX_CONFIG") arguments with
  | help | wrong => rfl
  | run invocation =>
      have hload : (Command.load environment invocation fun path =>
          if path = invocation.config then directory.find invocation.config
          else directory.find invocation.state) =
            Command.load environment invocation directory.find := by
        refine load_congr environment invocation (if_pos rfl) ?_
        split
        next hsame => rw [hsame]
        next => rfl
      change ((still network).carryOut invocation (Command.load environment invocation fun path =>
        if path = invocation.config then directory.find invocation.config
        else directory.find invocation.state)).run (directory, world) = _
      rw [hload]
      dsimp only [Command.run]
      cases Command.load environment invocation directory.find with
      | error failure => rfl
      | ok loaded => exact carryOut_still network directory world invocation loaded

end SchemaKeeper.Machine
