import SchemaKeeper.Admission
import SchemaKeeper.Reconciliation

/-!
Rounds over all configured objects.

`apply` admits every entry against the store, reconciles what was admitted and
folds the outcomes into the store.  `delete` does the same for objects that are
to go, and `validate` only admits.
-/

namespace SchemaKeeper.Rounds

/-! ## Reports -/

/-- What became of one object in a round. -/
structure Report where
  kind : Kind
  name : String
  /-- The status on record after the round. -/
  status : Option Status
  /-- The round replaced the status on record. -/
  written : Bool
  /-- Seconds until the object should be looked at again. -/
  recheck : Option UInt64
  marker : MarkerAction
  deriving DecidableEq, Repr

/-! ## Admission -/

/-- Why an entry is not admitted. -/
inductive Refusal where
  | noDefault (reason : ModelError)
  | rejected (rejection : Rejection)
  deriving DecidableEq, Repr

def Refusal.message : Refusal → String
  | .noDefault reason => s!"💀 model could not be defaulted: {reason.message}"
  | .rejected rejection => rejection.message

/-- Defaults an entry and checks it, against its last admitted form if there is one. -/
def admitEntry (entry : Entry) (connection : Option Connection) (stored : Option ObjectRecord) :
    Except Refusal Entry := do
  let object ← (Admission.defaultModel entry.object).mapError .noDefault
  let verdict :=
    match stored.bind (·.applied) with
    | some previous =>
        Admission.validateUpdate previous.object object (stored.bind (·.endpoint)) connection
    | none => Admission.validateCreate object
  verdict.mapError .rejected
  return { entry with object }

def connectionOf (settings : Settings) (object : DesiredObject) :
    Except ConnectionError Connection :=
  Connection.resolve settings.connections object.connection

def admitConfigured (settings : Settings) (store : Store) (entry : Entry) :
    Except Refusal Entry :=
  admitEntry entry (connectionOf settings entry.object).toOption
    (store.get? (Store.keyOf entry.object))

/-! ## Folding outcomes -/

def foldOutcome (runtime : Runtime) (record : ObjectRecord) (object : DesiredObject)
    (outcome : ReconcileOutcome) : ObjectRecord × Report :=
  let status := outcome.status <|> record.status
  let record := { record with status }.mark outcome.marker runtime.finalizerName
  (record, ⟨object.kind, object.name, status, outcome.status.isSome,
    outcome.recheck.delay runtime, outcome.marker⟩)

/-! ## Rounds -/

/-- Requests, and what their outcomes come to, given in the same order. -/
structure Round (Result : Type) where
  requests : List ReconcileRequest
  conclude : List ReconcileOutcome → Result

/-- The same requests, with something made of the result. -/
def Round.map {α β : Type} (f : α → β) (round : Round α) : Round β :=
  ⟨round.requests, fun outcomes => f (round.conclude outcomes)⟩

def reconcileAll {World : Type} (runtime : Runtime) (connector : Connector World) :
    List ReconcileRequest → World → List ReconcileOutcome × World
  | [], world => ([], world)
  | request :: requests, world =>
      let (outcome, world) := reconcile runtime connector request world
      let (outcomes, world) := reconcileAll runtime connector requests world
      (outcome :: outcomes, world)

def Round.run {World Result : Type} (runtime : Runtime) (connector : Connector World)
    (round : Round Result) (world : World) : Result × World :=
  let (outcomes, world) := reconcileAll runtime connector round.requests world
  (round.conclude outcomes, world)

def settleAll {α : Type} (settle : Store → α → ReconcileOutcome → Store × Report) :
    Store → List (α × ReconcileOutcome) → Store × List Report
  | store, [] => (store, [])
  | store, (a, outcome) :: rest =>
      let (store, report) := settle store a outcome
      let (store, reports) := settleAll settle store rest
      (store, report :: reports)

/-! ## Apply -/

structure Pending where
  key : String
  admitted : Entry
  endpoint : Option Connection
  request : ReconcileRequest

structure Admitted where
  store : Store
  reports : List Report
  pending : List Pending

def refuse (store : Store) (object : DesiredObject) (refusal : Refusal) : Store × Report :=
  let key := Store.keyOf object
  let record := store.recordAt key
  let verdict := Status.error refusal.message
  let written := verdict.supersedes record.status
  let status := if written then some verdict else record.status
  (store.put key { record with status },
    ⟨object.kind, object.name, status, written, none, .keep⟩)

def pendingOf (settings : Settings) (store : Store) (entry admitted : Entry) : Pending :=
  let key := Store.keyOf entry.object
  let record := store.recordAt key
  let connection := connectionOf settings entry.object
  { key
    admitted
    endpoint := connection.toOption.map Connection.withoutPassword
    request :=
      { object := admitted.object
        connection
        prior := record.status
        lifecycle :=
          ⟨false, record.hasMarker settings.runtime.finalizerName, admitted.deleteInCluster⟩ } }

def admitNext (settings : Settings) (state : Admitted) (entry : Entry) : Admitted :=
  match admitConfigured settings state.store entry with
  | .ok admitted =>
      { state with pending := state.pending ++ [pendingOf settings state.store entry admitted] }
  | .error refusal =>
      let (store, report) := refuse state.store entry.object refusal
      { state with store, reports := state.reports ++ [report] }

def admitAll (settings : Settings) (store : Store) : Admitted :=
  settings.objects.foldl (admitNext settings) ⟨store, [], []⟩

def settleApplied (runtime : Runtime) (store : Store) (pending : Pending)
    (outcome : ReconcileOutcome) : Store × Report :=
  let (record, report) :=
    foldOutcome runtime (store.recordAt pending.key) pending.request.object outcome
  (store.put pending.key
    { record with applied := some pending.admitted, endpoint := pending.endpoint }, report)

structure ApplyResult where
  store : Store
  reports : List Report

/-- Every configured object that is admitted is reconciled. -/
def applyRound (settings : Settings) (store : Store) : Round ApplyResult :=
  let admitted := admitAll settings store
  { requests := admitted.pending.map Pending.request
    conclude outcomes :=
      let (store, reports) :=
        settleAll (settleApplied settings.runtime) admitted.store (admitted.pending.zip outcomes)
      ⟨store, admitted.reports ++ reports⟩ }

def apply {World : Type} (settings : Settings) (connector : Connector World) (store : Store)
    (world : World) : ApplyResult × World :=
  (applyRound settings store).run settings.runtime connector world

/-! ## Delete -/

/-- The entries that a name stands for: configured ones, or else remembered ones. -/
def deletionTargets (settings : Settings) (store : Store) (name : String) : List Entry :=
  let configured := settings.objects.filter fun entry => entry.object.name == name
  if configured.isEmpty then
    (store.objects.values.filterMap (·.applied)).filter fun entry => entry.object.name == name
  else configured

def deletionRequest (settings : Settings) (store : Store) (entry : Entry) :
    String × ReconcileRequest :=
  let key := Store.keyOf entry.object
  let record := store.recordAt key
  (key,
    { object := entry.object
      connection := connectionOf settings entry.object
      prior := record.status
      lifecycle :=
        ⟨true, record.hasMarker settings.runtime.finalizerName, entry.deleteInCluster⟩ })

/-- Stores the outcome of a deletion; a record without the marker is forgotten. -/
def settleDeleted (runtime : Runtime) (store : Store) (asked : String × ReconcileRequest)
    (outcome : ReconcileOutcome) : Store × Report :=
  let (key, request) := asked
  let (record, report) := foldOutcome runtime (store.recordAt key) request.object outcome
  let store :=
    if record.hasMarker runtime.finalizerName then store.put key record else store.forget key
  (store, report)

/-- Each name once, at its first place. -/
def distinct : List String → List String
  | [] => []
  | name :: names => name :: (distinct names).filter (· != name)

structure DeleteResult where
  store : Store
  reports : List Report
  /-- Names that neither settings nor store know. -/
  missing : List String

/-- Every object that a name stands for is finalized; each name counts once. -/
def deleteRound (settings : Settings) (store : Store) (names : List String) :
    Round DeleteResult :=
  let names := distinct names
  let asked := (names.flatMap (deletionTargets settings store)).map
    (deletionRequest settings store)
  { requests := asked.map Prod.snd
    conclude outcomes :=
      let (kept, reports) :=
        settleAll (settleDeleted settings.runtime) store (asked.zip outcomes)
      ⟨kept, reports, names.filter fun name => (deletionTargets settings store name).isEmpty⟩ }

def delete {World : Type} (settings : Settings) (connector : Connector World) (store : Store)
    (names : List String) (world : World) : DeleteResult × World :=
  (deleteRound settings store names).run settings.runtime connector world

/-! ## Validate -/

structure Verdict where
  kind : Kind
  name : String
  refused : Option Refusal
  deriving DecidableEq, Repr

/-- Admission of every configured entry, without contacting any cluster. -/
def validate (settings : Settings) (store : Store) : List Verdict :=
  settings.objects.map fun entry =>
    { kind := entry.object.kind
      name := entry.object.name
      refused :=
        match admitConfigured settings store entry with
        | .ok _ => none
        | .error refusal => some refusal }

end SchemaKeeper.Rounds
