import SchemaKeeper.Convergence
import SchemaKeeper.Settings
import SchemaKeeper.Store

/-!
Reconciliation: one pass over one object, from its place in the life cycle to
what is to be remembered.

An object is registered first and converged from then on.  When it is to be
deleted its remote counterpart is deleted if the entry asks for it, and then its
marker is removed, whatever became of the remote delete.
-/

namespace SchemaKeeper

/-! ## Life cycle -/

structure Lifecycle where
  deletionRequested : Bool
  markerPresent : Bool
  /-- Deleting the object also deletes it on the cluster. -/
  deleteInCluster : Bool
  deriving DecidableEq, Repr, Inhabited

namespace Lifecycle

/-- The path that a pass takes. -/
inductive Decision where
  | register
  | converge
  | finalize (deleteInCluster : Bool)
  | released
  deriving DecidableEq, Repr

def decide (lifecycle : Lifecycle) : Decision :=
  match lifecycle.deletionRequested, lifecycle.markerPresent with
  | false, false => .register
  | false, true => .converge
  | true, true => .finalize lifecycle.deleteInCluster
  | true, false => .released

end Lifecycle

/-! ## Finalization -/

/--
Tries to delete the counterpart of an object; tells whether the cluster no
longer has it, as far as is known.
-/
def cleanUp (object : DesiredObject) : Program Bool := do
  let outcome ←
    match object with
    | .index spec => Program.deleteIndexIfPresent spec.name
    | .template spec => Program.deleteTemplateIfPresent spec.name
    | .pipeline spec => Program.deletePipelineIfPresent spec.name
  match outcome with
  | .ok none => return true
  | .ok (some response) => return response.isSuccess
  | .error _ => return false

/-! ## Requests and outcomes -/

/-- When an object should be looked at again. -/
inductive Recheck where
  | none
  | short
  | long
  deriving DecidableEq, Repr, Inhabited

namespace Recheck

def label : Recheck → String
  | .none => "None"
  | .short => "Short"
  | .long => "Long"

def ofState : State → Recheck
  | .created => .none
  | .retry => .short
  | .error => .long

def delay (recheck : Recheck) (runtime : Runtime) : Option UInt64 :=
  match recheck with
  | .none => Option.none
  | .short => some runtime.retryInterval
  | .long => some runtime.errorInterval

end Recheck

structure ReconcileRequest where
  object : DesiredObject
  connection : Except ConnectionError Connection
  /-- The status on record. -/
  prior : Option Status
  lifecycle : Lifecycle

structure ReconcileOutcome where
  /-- Present when the status on record is to be replaced. -/
  status : Option Status
  recheck : Recheck
  marker : MarkerAction
  deriving DecidableEq, Repr

namespace ReconcileOutcome

def onlyMarker (marker : MarkerAction) : ReconcileOutcome :=
  ⟨none, .none, marker⟩

/-- What a verdict comes to beside the status on record. -/
def ofVerdict (verdict : Status) (prior : Option Status) : ReconcileOutcome :=
  ⟨if verdict.supersedes prior then some verdict else none, .ofState verdict.state, .keep⟩

end ReconcileOutcome

/-! ## Passes -/

/-- A pass is settled without a cluster, or contacts one and makes calls there. -/
inductive Pass where
  | settled (outcome : ReconcileOutcome)
  | contact (connection : Connection) (refused : ConnectError → ReconcileOutcome)
      (connected : Program ReconcileOutcome)

def ReconcileRequest.pass (runtime : Runtime) (request : ReconcileRequest) : Pass :=
  match request.lifecycle.decide with
  | .register => .settled (.onlyMarker .add)
  | .released => .settled (.onlyMarker .keep)
  | .finalize false => .settled (.onlyMarker .remove)
  | .finalize true =>
      match request.connection with
      | .error _ => .settled (.onlyMarker .remove)
      | .ok connection =>
          .contact connection (fun _ => .onlyMarker .remove) do
            let _ ← cleanUp request.object
            return .onlyMarker .remove
  | .converge =>
      match request.connection with
      | .error e => .settled (.ofVerdict (Status.error e.message) request.prior)
      | .ok connection =>
          .contact connection (fun e => .ofVerdict e.toStatus request.prior) do
            let verdict ←
              Convergence.converge runtime.maxMappingDepth.toNat request.object
            return .ofVerdict verdict request.prior

/-! ## Connectors -/

/-- Something that hands out gateways and answers the calls made on them. -/
structure Connector (World : Type) where
  Gateway : Type
  connect : Connection → World → Except ConnectError Gateway × World
  answer : Gateway → (c : Call) → World → Except RemoteError c.Answer × World

def Pass.run {World : Type} (connector : Connector World) :
    Pass → World → ReconcileOutcome × World
  | .settled outcome, world => (outcome, world)
  | .contact connection refused connected, world =>
      match connector.connect connection world with
      | (.error e, world) => (refused e, world)
      | (.ok gateway, world) => connected.run (connector.answer gateway) world

def reconcile {World : Type} (runtime : Runtime) (connector : Connector World)
    (request : ReconcileRequest) (world : World) : ReconcileOutcome × World :=
  (request.pass runtime).run connector world

end SchemaKeeper
