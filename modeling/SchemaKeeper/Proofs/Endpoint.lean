import Mathlib.Data.List.Chain
import SchemaKeeper.Gateway.Memory
import SchemaKeeper.Proofs.Admission
import SchemaKeeper.Proofs.Rounds

/-!
# The cluster behind an object

The endpoint on record is where the reference of the last admitted entry led.
An update is held against it, so from one round to the next an object stays on
its cluster; but a round whose reference leads nowhere leaves no endpoint on
record, and then nothing is left to hold the next one against.  A deletion is
not held against it at all.
-/

namespace SchemaKeeper

namespace Connection

theorem sameEndpoint_iff {c d : Connection} :
    c.sameEndpoint d = true ↔ c.host = d.host ∧ c.port = d.port := by
  simp [sameEndpoint]

theorem sameEndpoint_refl (c : Connection) : c.sameEndpoint c = true :=
  sameEndpoint_iff.mpr ⟨rfl, rfl⟩

theorem sameEndpoint_trans {c d e : Connection} (hcd : c.sameEndpoint d = true)
    (hde : d.sameEndpoint e = true) : c.sameEndpoint e = true := by
  rw [sameEndpoint_iff] at hcd hde ⊢
  exact ⟨hcd.1.trans hde.1, hcd.2.trans hde.2⟩

@[simp] theorem sameEndpoint_withoutPassword (c d : Connection) :
    c.sameEndpoint d.withoutPassword = c.sameEndpoint d :=
  rfl

end Connection

namespace Rounds

variable {World : Type}

/-! ## Where an endpoint on record comes from -/

theorem endpoint_originFrom_eq_some {settings : Settings} {entry admitted : Entry}
    {endpoint : Connection}
    (h : (originFrom settings entry admitted).endpoint = some endpoint) :
    ∃ d, connectionOf settings entry.object = .ok d ∧ endpoint = d.withoutPassword := by
  unfold originFrom at h
  cases hfound : connectionOf settings entry.object with
  | error e => simp [hfound, Except.toOption] at h
  | ok d =>
      simp only [hfound, Except.toOption, Option.map_some, Option.some.injEq] at h
      exact ⟨d, rfl, h.symm⟩

theorem endpoint_originFrom_eq_none {settings : Settings} {entry admitted : Entry}
    (h : (originFrom settings entry admitted).endpoint = none) :
    ∃ e, connectionOf settings entry.object = .error e := by
  unfold originFrom at h
  cases hfound : connectionOf settings entry.object with
  | error e => exact ⟨e, rfl⟩
  | ok d => simp [hfound, Except.toOption] at h

/-! ## Deletion -/

theorem connection_of_mem_deleteRound {settings : Settings} {store : Store} {names : List String}
    {request : ReconcileRequest} (h : request ∈ (deleteRound settings store names).requests) :
    request.connection = connectionOf settings request.object := by
  obtain ⟨-, -, entry, -, rfl⟩ := mem_deleteRound_iff.mp h
  rfl

/--
A deletion goes where the settings of its own round lead.  That is the cluster on
record exactly when they lead to the host and port to which, in the last round
that admitted the object, the reference of the entry on record led.
-/
theorem deletion_sameEndpoint_iff (connector : Connector World) (world : World)
    (turns : List Turn) (settings : Settings) (names : List String)
    {request : ReconcileRequest} {c endpoint : Connection} :
    let start := (Store.empty, world)
    let store := (runTurns connector turns start).1
    let key := Store.keyOf request.object
    request ∈ (deleteRound settings store names).requests →
    request.connection = .ok c →
    (store.recordAt key).endpoint = some endpoint →
    ∃ before last after entry admitted d,
      turns = before ++ .apply last :: after ∧
        entry ∈ last.objects ∧ Store.keyOf entry.object = key ∧
        admitConfigured last (runTurns connector before start).1 entry = .ok admitted ∧
        (∀ later, later <+: after →
          originAt (runTurns connector (before ++ .apply last :: later) start).1 key =
            ⟨some admitted, some endpoint⟩) ∧
        connectionOf last entry.object = .ok d ∧ endpoint = d.withoutPassword ∧
        connectionOf settings request.object = .ok c ∧
        (c.sameEndpoint endpoint = true ↔ c.host = d.host ∧ c.port = d.port) := by
  intro start store key hrequest hconnection hendpoint
  have hknown : (originAt store key).endpoint = some endpoint := hendpoint
  rcases exists_admits_of_origin connector world turns key with hblank | hmade
  · have hnone : (originAt store key).endpoint = none := congrArg Origin.endpoint hblank
    rw [hnone] at hknown
    cases hknown
  · obtain ⟨before, last, after, hturns, hadmits, hsince⟩ := hmade
    obtain ⟨entry, hentry, admitted, hkey, hverdict, horigin⟩ := hadmits
    have hmade : originAt store key = originFrom last entry admitted := horigin
    rw [hmade] at hknown
    obtain ⟨d, hd, rfl⟩ := endpoint_originFrom_eq_some hknown
    refine ⟨before, last, after, entry, admitted, d, hturns, hentry, hkey, hverdict, ?_, hd, rfl,
      ?_, ?_⟩
    · intro later hlater
      rw [hsince later hlater]
      exact hmade.trans (congrArg (Origin.mk (some admitted)) hknown)
    · rw [← connection_of_mem_deleteRound hrequest, hconnection]
    · rw [Connection.sameEndpoint_withoutPassword, Connection.sameEndpoint_iff]

/-! ### One index, two clusters -/

def orders : Entry where
  object := .index ⟨"orders", "main", ⟨3, 1⟩,
    "\x7b\"mappings\":\x7b\"properties\":\x7b\"id\":\x7b\"type\":\"keyword\"\x7d\x7d\x7d\x7d"⟩
  deleteInCluster := true

def ordersWith (reference address : String) : Settings :=
  { Settings.standard with
    connections := .ofList [(reference, address)]
    objects := [orders] }

def oldCluster : Connection :=
  ⟨"http", "old.cluster", 9200, none, none, none⟩

def newCluster : Connection :=
  ⟨"http", "new.cluster", 9200, none, none, none⟩

theorem connectionOf_old :
    connectionOf (ordersWith "main" "http://old.cluster:9200") orders.object = .ok oldCluster := by
  decide +kernel

theorem connectionOf_new :
    connectionOf (ordersWith "main" "http://new.cluster:9200") orders.object = .ok newCluster := by
  decide +kernel

theorem mem_deleteRound_orders {settings : Settings} (h : settings.objects = [orders])
    (store : Store) :
    (deletionRequest settings store orders).2 ∈
      (deleteRound settings store ["orders"]).requests := by
  have htarget : orders ∈ deletionTargets settings store "orders" := by
    simp [deletionTargets, h, orders, DesiredObject.name]
  exact mem_deleteRound_iff.mpr ⟨"orders", List.mem_cons_self, orders, htarget, rfl⟩

/-- A move is refused, and the deletion goes where the object stayed. -/
theorem deletion_sameEndpoint_after_refused_move :
    let turns := [Turn.apply (ordersWith "main" "http://old.cluster:9200"),
      .apply (ordersWith "main" "http://new.cluster:9200")]
    let store := (runTurns Memory.connector turns (.empty, Memory.ofCluster .empty)).1
    (store.recordAt (Store.keyOf orders.object)).endpoint = some oldCluster ∧
      ∃ (last : Settings) (entry : Entry) (d : Connection), Turn.apply last ∈ turns ∧
        connectionOf last entry.object = .ok d ∧
        oldCluster.host = d.host ∧ oldCluster.port = d.port := by
  intro turns store
  have hendpoint : (store.recordAt (Store.keyOf orders.object)).endpoint = some oldCluster := by
    decide +kernel
  obtain ⟨before, last, after, entry, admitted, d, hturns, -, -, -, -, hd, -, -, hiff⟩ :=
    deletion_sameEndpoint_iff Memory.connector (Memory.ofCluster .empty) turns
      (ordersWith "main" "http://old.cluster:9200") ["orders"]
      (mem_deleteRound_orders rfl store) connectionOf_old hendpoint
  exact ⟨hendpoint, last, entry, d, by simp [hturns], hd, hiff.mp (oldCluster.sameEndpoint_refl)⟩

/-- The address under a reference changes between the last round and the deletion. -/
theorem deletion_can_miss_cluster :
    ¬ ∀ (turns : List Turn) (settings : Settings) (names : List String)
        (request : ReconcileRequest) (c endpoint : Connection),
      let store := (runTurns Memory.connector turns (.empty, Memory.ofCluster .empty)).1
      request ∈ (deleteRound settings store names).requests →
      request.connection = .ok c →
      (store.recordAt (Store.keyOf request.object)).endpoint = some endpoint →
      c.sameEndpoint endpoint = true := by
  intro h
  let turns := [Turn.apply (ordersWith "main" "http://old.cluster:9200")]
  have hendpoint : ((runTurns Memory.connector turns (.empty, Memory.ofCluster .empty)).1.recordAt
      (Store.keyOf orders.object)).endpoint = some oldCluster := by
    decide +kernel
  have hsame := h turns (ordersWith "main" "http://new.cluster:9200") ["orders"] _ newCluster
    oldCluster (mem_deleteRound_orders rfl _) connectionOf_new hendpoint
  exact absurd hsame (by decide)

/-! ## Staying -/

/-- Two endpoints of a row, as far as both are on record, are one cluster. -/
def SameCluster (earlier later : Option Connection) : Prop :=
  ∀ c ∈ earlier, ∀ d ∈ later, c.sameEndpoint d = true

/-- An endpoint is on record only beside an admitted entry. -/
def Grounded (origin : Origin) : Prop :=
  origin.applied = none → origin.endpoint = none

theorem grounded_of_admits {settings : Settings} {store : Store} {key : String} {origin : Origin}
    (h : Admits settings store key origin) : Grounded origin := by
  obtain ⟨entry, -, admitted, -, -, rfl⟩ := h
  intro hnone
  simp [originFrom] at hnone

theorem grounded_run {connector : Connector World} (turn : Turn) {state : Store × World}
    {key : String} (h : Grounded (originAt state.1 key)) :
    Grounded (originAt (turn.run connector state).1 key) := by
  rcases turn.originAt_run connector state key with hkept | ⟨-, hdropped⟩ | hadmitted
  · rw [hkept]
    exact h
  · rw [hdropped]
    exact fun _ => rfl
  · cases turn with
    | apply settings => exact grounded_of_admits hadmitted
    | delete settings names => exact hadmitted.elim

theorem grounded_runTurns (connector : Connector World) (world : World) (turns : List Turn)
    (key : String) : Grounded (originAt (runTurns connector turns (.empty, world)).1 key) :=
  runTurns_induct (P := fun state => Grounded (originAt state.1 key))
    (fun turn _ h => grounded_run turn h) (fun _ => rfl) turns

/-- What is admitted is held against the endpoint on record. -/
theorem sameCluster_of_admits {settings : Settings} {store : Store} {key : String}
    {origin : Origin} (hgrounded : Grounded (originAt store key))
    (h : Admits settings store key origin) :
    SameCluster (originAt store key).endpoint origin.endpoint := by
  obtain ⟨entry, -, admitted, rfl, hverdict, rfl⟩ := h
  intro c hc endpoint hendpoint
  obtain ⟨d, hd, rfl⟩ := endpoint_originFrom_eq_some hendpoint
  rw [admitConfigured_eq, hd, Option.mem_def.mp hc] at hverdict
  have hcauses := (admitEntry_eq_ok_iff.mp hverdict).2.2
  cases happlied : (originAt store (Store.keyOf entry.object)).applied with
  | none =>
      rw [hgrounded happlied] at hc
      cases hc
  | some previous =>
      rw [happlied] at hcauses
      rw [Connection.sameEndpoint_withoutPassword]
      exact Admission.sameEndpoint_of_update hcauses

/-- From one round to the next an object does not move, unless it is deleted. -/
theorem sameCluster_run (connector : Connector World) (turn : Turn) {state : Store × World}
    {key : String} (hgrounded : Grounded (originAt state.1 key))
    (hspared : key ∉ turn.deletedKeys state.1) :
    SameCluster (originAt state.1 key).endpoint
      (originAt (turn.run connector state).1 key).endpoint := by
  rcases turn.originAt_run connector state key with hkept | ⟨hdeleted, -⟩ | hadmitted
  · rw [hkept]
    intro c hc d hd
    obtain rfl : c = d := Option.mem_unique hc hd
    exact c.sameEndpoint_refl
  · exact absurd hdeleted hspared
  · cases turn with
    | apply settings => exact sameCluster_of_admits hgrounded hadmitted
    | delete settings names => exact hadmitted.elim

/-- The endpoint on record under a key, before a row of turns and after each of them. -/
def endpoints (connector : Connector World) (key : String) :
    List Turn → Store × World → List (Option Connection)
  | [], state => [(state.1.recordAt key).endpoint]
  | turn :: turns, state =>
      (state.1.recordAt key).endpoint :: endpoints connector key turns (turn.run connector state)

theorem isChain_endpoints {connector : Connector World} {key : String} {turns : List Turn}
    {state : Store × World} (hgrounded : Grounded (originAt state.1 key))
    (hspared : Spares connector key turns state) :
    (endpoints connector key turns state).IsChain SameCluster := by
  induction turns generalizing state with
  | nil => exact .singleton _
  | cons turn turns ih =>
      have hstep := sameCluster_run connector turn hgrounded hspared.1
      have hrest := ih (grounded_run turn hgrounded) hspared.2
      cases turns with
      | nil => exact .cons_cons hstep hrest
      | cons next turns => exact .cons_cons hstep hrest

/--
Where neighbours agree, all agree as soon as the two endpoints around every gap
in the record do.
-/
theorem pairwise_sameCluster_iff {history : List (Option Connection)}
    (hchain : history.IsChain SameCluster) :
    history.Pairwise SameCluster ↔
      ∀ before c gap d after, history = before ++ some c :: gap ++ some d :: after →
        gap ≠ [] → (∀ endpoint ∈ gap, endpoint = none) → c.sameEndpoint d = true := by
  constructor
  · rintro hall before c gap d after rfl - -
    have hsuffix := (List.pairwise_append.mp (by simpa using hall)).2.1
    exact (List.pairwise_cons.mp hsuffix).1 (some d) (by simp) c rfl d rfl
  · intro hgaps
    induction history with
    | nil => exact .nil
    | cons first rest ih =>
        have hrest : rest.Pairwise SameCluster := by
          refine ih hchain.tail fun before c gap d after heq => ?_
          exact hgaps (first :: before) c gap d after (by simp [heq])
        refine .cons (fun later hlater => ?_) hrest
        rintro c rfl d rfl
        -- the first endpoint on record after this one carries it on to all others
        obtain ⟨next, hnext⟩ : ∃ next, rest.find? Option.isSome = some next :=
          Option.isSome_iff_exists.mp (List.find?_isSome.mpr ⟨some d, hlater, rfl⟩)
        obtain ⟨hsome, gap, after, rfl, hgap⟩ := List.find?_eq_some_iff_append.mp hnext
        obtain ⟨e, rfl⟩ := Option.isSome_iff_exists.mp hsome
        have hnone : ∀ endpoint ∈ gap, endpoint = none := fun endpoint h => by
          simpa using hgap endpoint h
        have hfirst : c.sameEndpoint e = true := by
          cases gap with
          | nil => exact hchain.rel c rfl e rfl
          | cons blank blanks => exact hgaps [] c (blank :: blanks) e after rfl (by simp) hnone
        rcases List.mem_append.mp hlater with hblank | hlater
        · cases hnone _ hblank
        · rcases List.mem_cons.mp hlater with hsame | hafter
          · obtain rfl := Option.some.inj hsame
            exact hfirst
          · have htail := (List.pairwise_append.mp hrest).2.1
            exact Connection.sameEndpoint_trans hfirst
              ((List.pairwise_cons.mp htail).1 _ hafter e rfl d rfl)

/--
While an object is not deleted it stays on one cluster exactly when after every
gap in the record it is found where it was before.  Only a round that admits the
object under a reference that leads nowhere can open a gap.
-/
theorem endpoints_pairwise_iff (connector : Connector World) (world : World)
    (before turns : List Turn) (key : String)
    (hspared : Spares connector key turns (runTurns connector before (.empty, world))) :
    let start := runTurns connector before (.empty, world)
    let history := endpoints connector key turns start
    (history.Pairwise SameCluster ↔
      ∀ earlier c gap d later, history = earlier ++ some c :: gap ++ some d :: later →
        gap ≠ [] → (∀ endpoint ∈ gap, endpoint = none) → c.sameEndpoint d = true) ∧
    ∀ done turn rest, turns = done ++ turn :: rest →
      let state := runTurns connector done start
      (state.1.recordAt key).endpoint ≠ none →
      ((turn.run connector state).1.recordAt key).endpoint = none →
      ∃ settings, turn = .apply settings ∧
        ∃ entry ∈ settings.objects, Store.keyOf entry.object = key ∧
          (∃ admitted, admitConfigured settings state.1 entry = .ok admitted) ∧
          ∃ e, connectionOf settings entry.object = .error e := by
  intro start history
  refine ⟨pairwise_sameCluster_iff
    (isChain_endpoints (grounded_runTurns connector world before key) hspared), ?_⟩
  intro done turn rest hturns state hknown hlost
  rw [hturns] at hspared
  have hspared : key ∉ turn.deletedKeys state.1 := (spares_append.mp hspared).2.1
  rcases turn.originAt_run connector state key with hkept | ⟨hdeleted, -⟩ | hadmitted
  · have hsame := congrArg Origin.endpoint hkept
    exact absurd (hsame.symm.trans hlost) hknown
  · exact absurd hdeleted hspared
  · cases turn with
    | delete settings names => exact hadmitted.elim
    | apply settings =>
        obtain ⟨entry, hentry, admitted, hkey, hverdict, horigin⟩ := hadmitted
        have hnone := (congrArg Origin.endpoint horigin).symm.trans hlost
        exact ⟨settings, rfl, entry, hentry, hkey, ⟨admitted, hverdict⟩,
          endpoint_originFrom_eq_none hnone⟩

def movingTurns : List Turn :=
  [.apply (ordersWith "mian" "http://old.cluster:9200"),
    .apply (ordersWith "main" "http://new.cluster:9200")]

def settled : Store × Memory :=
  runTurns Memory.connector [.apply (ordersWith "main" "http://old.cluster:9200")]
    (.empty, Memory.ofCluster .empty)

theorem spares_movingTurns : Spares Memory.connector "Index/orders" movingTurns settled := by
  simp [movingTurns, Spares, Turn.deletedKeys]

theorem endpoints_movingTurns :
    endpoints Memory.connector "Index/orders" movingTurns settled =
      [some oldCluster, none, some newCluster] := by
  decide +kernel

/-- The one gap of this row is all that lets it move. -/
theorem moving_not_pairwise :
    Spares Memory.connector "Index/orders" movingTurns settled ∧
      ¬(endpoints Memory.connector "Index/orders" movingTurns settled).Pairwise SameCluster := by
  refine ⟨spares_movingTurns, fun hall => ?_⟩
  have hgaps := (endpoints_pairwise_iff Memory.connector (Memory.ofCluster .empty)
    [.apply (ordersWith "main" "http://old.cluster:9200")] movingTurns "Index/orders"
    spares_movingTurns).1.mp hall
  have hsame := hgaps [] oldCluster [none] newCluster [] endpoints_movingTurns (by simp) (by simp)
  exact absurd hsame (by decide)

/-- Nothing is left to hold a new address against once a reference led nowhere. -/
theorem objects_can_move :
    ¬ ∀ (before turns : List Turn) (key : String),
      let start := runTurns Memory.connector before (.empty, Memory.ofCluster .empty)
      Spares Memory.connector key turns start →
      (endpoints Memory.connector key turns start).Pairwise SameCluster := by
  intro h
  have hall := h [.apply (ordersWith "main" "http://old.cluster:9200")] movingTurns "Index/orders"
    spares_movingTurns
  change (endpoints Memory.connector "Index/orders" movingTurns settled).Pairwise SameCluster
    at hall
  rw [endpoints_movingTurns] at hall
  have hsame := (List.pairwise_cons.mp hall).1 (some newCluster) (by simp) oldCluster rfl
    newCluster rfl
  exact absurd hsame (by decide)

end Rounds

end SchemaKeeper
