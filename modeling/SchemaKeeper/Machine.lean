import SchemaKeeper.Command.Run
import SchemaKeeper.Transport

/-!
Machines that the program runs on: what it asks of the files and the network
around it, and in which order.

A run is written for any monad.  It is carried out in the one of the real
machine; in that of a machine whose files and network are values it is the pure
run.
-/

namespace SchemaKeeper

structure Machine (m : Type → Type) where
  find : String → m Found
  write : String → String → m (Except FileFault Unit)
  /-- Carries one request, for so long at most. -/
  exchange : Duration → HttpRequest → m (Except ExchangeFailure Response)

namespace Machine

variable {m : Type → Type} [Monad m] (machine : Machine m)

/-! ## Gateways -/

def send (t : Transport) (verb : Wire.Verb) (target : String) (body : Option String) :
    m Outcome := do
  match t.request verb target body with
  | .error e => return .error e
  | .ok request => return t.outcome request (← machine.exchange t.timeout request)

def answer (gateway : HttpGateway) (c : Call) : m (Except RemoteError c.Answer) := do
  let request := Wire.request gateway.version c
  return Wire.read (← machine.send gateway.transport request.verb request.target request.body) c

def runProgram {α : Type} (gateway : HttpGateway) : Program α → m α
  | .done result => return result
  | .call c next => do runProgram gateway (next (← machine.answer gateway c))

/-! ## Rounds -/

/-- Goes on with a gateway, if there is one. -/
def goOn (refused : ConnectError → ReconcileOutcome) (connected : Program ReconcileOutcome) :
    Except ConnectError HttpGateway → m ReconcileOutcome
  | .error e => return refused e
  | .ok gateway => machine.runProgram gateway connected

def runPass (options : TransportOptions) : Pass → m ReconcileOutcome
  | .settled outcome => return outcome
  | .contact connection refused connected => do
      let transport := Transport.ofConnection connection options
      let outcome ← machine.send transport .get "/" none
      machine.goOn refused connected (HttpGateway.ofRoot transport connection outcome)

def runAll (settings : Settings) : List ReconcileRequest → m (List ReconcileOutcome)
  | [] => return []
  | request :: requests => do
      let outcome ← machine.runPass settings.transportOptions (request.pass settings.runtime)
      return outcome :: (← runAll settings requests)

def runRound {Result : Type} (settings : Settings) (round : Rounds.Round Result) : m Result := do
  return round.conclude (← machine.runAll settings round.requests)

/-! ## Whole runs -/

def save (path : String) : Option Store → m (Except Command.Failure Unit)
  | none => return .ok ()
  | some store => do
      let written ← machine.write path store.fileText
      return written.mapError fun fault => .store (.unwritten path fault)

/-- Carries out the task of an invocation with what was loaded for it. -/
def carryOut (invocation : Command.Invocation) :
    Except Command.Failure Command.Loaded → m Command.Ending
  | .error failure => return .failed failure
  | .ok loaded => do
      let outcome ← machine.runRound loaded.settings (Command.round invocation.task loaded)
      match ← machine.save invocation.state outcome.saved with
      | .ok () => return .shown outcome.shown
      | .error failure => return .failed failure

def run (environment : List (String × String)) (arguments : List String) :
    m Command.Ending := do
  match Command.Request.ofArguments (environment.lookup "ESSX_CONFIG") arguments with
  | .help => return .help
  | .wrong => return .wrongArguments
  | .run invocation =>
      let config ← machine.find invocation.config
      let state ← machine.find invocation.state
      machine.carryOut invocation <| Command.load environment invocation fun path =>
        if path = invocation.config then config else state

end Machine

end SchemaKeeper
