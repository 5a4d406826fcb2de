import SchemaKeeper.Proofs.CleanUp
import SchemaKeeper.Proofs.Markers

/-!
# When a cluster is contacted

The world is touched by contacts alone: attempts to connect on behalf of an
object, and the calls made once connected.  A contact needs the marker on record
when its round begins, so an object is registered in an earlier round than the
one that first reaches out for it.  A deletion contacts a cluster for entries
that ask for it, to clean up and no more; whatever comes of that, the object is
released and its record forgotten.
-/

namespace SchemaKeeper

/-- An attempt to reach a cluster on behalf of an object. -/
structure Contact where
  object : DesiredObject
  connection : Connection
  /-- The calls with their answers; none if connecting failed. -/
  history : List Event

variable {World : Type}

/-! ## Single passes -/

def Pass.contacts (connector : Connector World) (object : DesiredObject) :
    Pass → World → List Contact
  | .settled _, _ => []
  | .contact connection _ connected, world =>
      match connector.connect connection world with
      | (.error _, _) => [⟨object, connection, []⟩]
      | (.ok gateway, world) =>
          [⟨object, connection, connected.history (connector.answer gateway) world⟩]

theorem Pass.run_of_no_contacts {connector : Connector World} {object : DesiredObject}
    {pass : Pass} {world : World} (h : pass.contacts connector object world = []) :
    (pass.run connector world).2 = world := by
  cases pass with
  | settled outcome => rfl
  | contact connection refused connected =>
      simp only [contacts] at h
      split at h <;> cases h

theorem Pass.exists_of_mem_contacts {connector : Connector World} {object : DesiredObject}
    {pass : Pass} {world : World} {contact : Contact}
    (h : contact ∈ pass.contacts connector object world) :
    ∃ refused connected, pass = .contact contact.connection refused connected ∧
      contact.object = object ∧
      (contact.history = [] ∨ ∃ gateway after,
        contact.history = connected.history (connector.answer gateway) after) := by
  cases pass with
  | settled outcome => cases h
  | contact connection refused connected =>
      simp only [contacts] at h
      split at h
      next =>
        obtain rfl := List.mem_singleton.mp h
        exact ⟨refused, connected, rfl, rfl, .inl rfl⟩
      next gateway after _ =>
        obtain rfl := List.mem_singleton.mp h
        exact ⟨refused, connected, rfl, rfl, .inr ⟨gateway, after, rfl⟩⟩

namespace ReconcileRequest

variable {request : ReconcileRequest} {runtime : Runtime} {connector : Connector World}
  {world : World} {contact : Contact}

def contacts (runtime : Runtime) (connector : Connector World) (request : ReconcileRequest)
    (world : World) : List Contact :=
  (request.pass runtime).contacts connector request.object world

theorem object_of_mem_contacts (h : contact ∈ request.contacts runtime connector world) :
    contact.object = request.object := by
  obtain ⟨refused, connected, -, hobject, -⟩ := Pass.exists_of_mem_contacts h
  exact hobject

/-- What a pass is that contacts a cluster: it converges, or it cleans up. -/
theorem pass_eq_contact {connection : Connection} {refused : ConnectError → ReconcileOutcome}
    {connected : Program ReconcileOutcome}
    (h : request.pass runtime = .contact connection refused connected) :
    request.connection = .ok connection ∧
      (request.lifecycle.decide = .converge ∨
        request.lifecycle.decide = .finalize true ∧
          connected = cleanUp request.object >>= fun _ => return .onlyMarker .remove) := by
  unfold pass at h
  cases hdecide : request.lifecycle.decide with
  | register | released =>
      rw [hdecide] at h
      cases h
  | converge =>
      rw [hdecide] at h
      cases hconnection : request.connection with
      | error e =>
          rw [hconnection] at h
          cases h
      | ok c =>
          rw [hconnection] at h
          obtain ⟨rfl, -, -⟩ := Pass.contact.inj h
          exact ⟨rfl, .inl rfl⟩
  | finalize deleteInCluster =>
      rw [hdecide] at h
      cases deleteInCluster with
      | false => cases h
      | true =>
          cases hconnection : request.connection with
          | error e =>
              rw [hconnection] at h
              cases h
          | ok c =>
              rw [hconnection] at h
              obtain ⟨rfl, -, rfl⟩ := Pass.contact.inj h
              exact ⟨rfl, .inr ⟨rfl, rfl⟩⟩

theorem decide_of_mem_contacts (h : contact ∈ request.contacts runtime connector world) :
    request.lifecycle.decide = .converge ∨ request.lifecycle.decide = .finalize true := by
  obtain ⟨refused, connected, hpass, -⟩ := Pass.exists_of_mem_contacts h
  exact (pass_eq_contact hpass).2.imp_right And.left

theorem cleanUp_of_mem_contacts (h : contact ∈ request.contacts runtime connector world)
    (hdecide : request.lifecycle.decide ≠ .converge) :
    contact.history = [] ∨ CleanUpTranscript request.object contact.history := by
  obtain ⟨refused, connected, hpass, -, hhistory⟩ := Pass.exists_of_mem_contacts h
  obtain ⟨-, hconverge | ⟨-, rfl⟩⟩ := pass_eq_contact hpass
  · exact absurd hconverge hdecide
  · refine hhistory.imp_right fun ⟨gateway, after, hcalls⟩ => ?_
    rw [hcalls, Program.history_bind, Program.history_pure, List.append_nil]
    exact cleanUpTranscript (connector.answer gateway) request.object after

end ReconcileRequest

namespace Rounds

variable {runtime : Runtime} {settings : Settings} {store : Store} {connector : Connector World}
  {world : World} {contact : Contact}

/-! ## Rounds -/

/-- The contacts of passes that are made one after the other. -/
def contactsAll (runtime : Runtime) (connector : Connector World) :
    List ReconcileRequest → World → List Contact
  | [], _ => []
  | request :: requests, world =>
      request.contacts runtime connector world ++
        contactsAll runtime connector requests (reconcile runtime connector request world).2

theorem run_of_no_contactsAll {requests : List ReconcileRequest}
    (h : contactsAll runtime connector requests world = []) :
    (reconcileAll runtime connector requests world).2 = world := by
  induction requests generalizing world with
  | nil => rfl
  | cons request requests ih =>
      obtain ⟨hfirst, hrest⟩ := List.append_eq_nil_iff.mp h
      have hsame : (reconcile runtime connector request world).2 = world :=
        Pass.run_of_no_contacts hfirst
      simp only [reconcileAll]
      rw [ih hrest, hsame]

theorem exists_of_mem_contactsAll {requests : List ReconcileRequest}
    (h : contact ∈ contactsAll runtime connector requests world) :
    ∃ request ∈ requests, ∃ before, contact ∈ request.contacts runtime connector before := by
  induction requests generalizing world with
  | nil => cases h
  | cons request requests ih =>
      rcases List.mem_append.mp h with hfirst | hrest
      · exact ⟨request, List.mem_cons_self, world, hfirst⟩
      · obtain ⟨later, hlater, hcontact⟩ := ih hrest
        exact ⟨later, List.mem_cons_of_mem _ hlater, hcontact⟩

theorem exists_of_mem_applyRound {request : ReconcileRequest}
    (h : request ∈ (applyRound settings store).requests) :
    ∃ entry ∈ settings.objects, ∃ admitted,
      admitConfigured settings store entry = .ok admitted ∧ request.object = admitted.object ∧
        request.lifecycle = ⟨false, (store.recordAt (Store.keyOf request.object)).hasMarker
          settings.runtime.finalizerName, admitted.deleteInCluster⟩ := by
  obtain ⟨pending, hpending, rfl⟩ := List.mem_map.mp h
  obtain ⟨entry, hentry, hpends⟩ := exists_pendsFor hpending
  have hlifecycle := hpends.lifecycle
  rw [← hpends.own] at hlifecycle
  obtain ⟨admitted, later, hverdict, -, rfl⟩ := hpends
  exact ⟨entry, hentry, admitted, hverdict, rfl, hlifecycle⟩

/-! ## Turns -/

namespace Turn

def requests (store : Store) : Turn → List ReconcileRequest
  | .apply settings => (applyRound settings store).requests
  | .delete settings names => (deleteRound settings store names).requests

def contacts (connector : Connector World) (turn : Turn) (state : Store × World) : List Contact :=
  contactsAll turn.settings.runtime connector (turn.requests state.1) state.2

theorem run_of_no_contacts {turn : Turn} {state : Store × World}
    (h : turn.contacts connector state = []) : (turn.run connector state).2 = state.2 := by
  cases turn <;> exact run_of_no_contactsAll h

end Turn

/-- What a contact of a turn goes back to; the turn follows a row of turns. -/
structure Licensed (connector : Connector World) (world : World) (turns : List Turn) (turn : Turn)
    (contact : Contact) : Prop where
  marked : ((runTurns connector turns (.empty, world)).1.recordAt
    (Store.keyOf contact.object)).hasMarker turn.settings.runtime.finalizerName = true
  registered : Marked connector world turns (Store.keyOf contact.object)
    turn.settings.runtime.finalizerName
  admitted : ∀ settings, turn = .apply settings →
    ∃ entry ∈ settings.objects, ∃ admitted,
      admitConfigured settings (runTurns connector turns (.empty, world)).1 entry = .ok admitted ∧
        contact.object = admitted.object
  cleanUp : ∀ settings names, turn = .delete settings names →
    ∃ name ∈ names,
      ∃ entry ∈ deletionTargets settings (runTurns connector turns (.empty, world)).1 name,
        contact.object = entry.object ∧ entry.deleteInCluster = true ∧
          (contact.history = [] ∨ CleanUpTranscript entry.object contact.history)

theorem licensed_of_mem_contacts {turns : List Turn} {turn : Turn}
    (h : contact ∈ turn.contacts connector (runTurns connector turns (.empty, world))) :
    Licensed connector world turns turn contact := by
  obtain ⟨request, hrequest, before, hcontact⟩ := exists_of_mem_contactsAll h
  have hobject := ReconcileRequest.object_of_mem_contacts hcontact
  obtain ⟨hpresent, hdeletion⟩ := Lifecycle.present_of_decide
    (ReconcileRequest.decide_of_mem_contacts hcontact)
  have hmarked : ((runTurns connector turns (.empty, world)).1.recordAt
      (Store.keyOf contact.object)).hasMarker turn.settings.runtime.finalizerName = true := by
    rw [hobject]
    cases turn with
    | apply settings =>
        obtain ⟨_, _, _, -, -, hlifecycle⟩ := exists_of_mem_applyRound hrequest
        rw [hlifecycle] at hpresent
        exact hpresent
    | delete settings names =>
        obtain ⟨-, -, entry, -, rfl⟩ := mem_deleteRound_iff.mp hrequest
        exact hpresent
  refine ⟨hmarked, (mem_markers_runTurns ..).mp (ObjectRecord.hasMarker_iff.mp hmarked), ?_, ?_⟩
  · rintro settings rfl
    obtain ⟨entry, hentry, admitted, hverdict, hown, -⟩ := exists_of_mem_applyRound hrequest
    exact ⟨entry, hentry, admitted, hverdict, hobject.trans hown⟩
  · rintro settings names rfl
    obtain ⟨name, hname, entry, htarget, rfl⟩ := mem_deleteRound_iff.mp hrequest
    obtain ⟨hoptedIn, hdecide⟩ := hdeletion rfl
    exact ⟨name, hname, entry, htarget, hobject, hoptedIn,
      ReconcileRequest.cleanUp_of_mem_contacts hcontact hdecide⟩

/-! ## Release -/

/-- A deletion releases an object with its marker on, whatever a cluster has to say. -/
structure Released (connector : Connector World) (settings : Settings) (names : List String)
    (state : Store × World) (request : ReconcileRequest) : Prop where
  outcome : ∀ world, (reconcile settings.runtime connector request world).1 = .onlyMarker .remove
  forgotten : (delete settings connector state.1 names state.2).1.store.get?
    (Store.keyOf request.object) = none

theorem released_of_hasMarker {names : List String} {state : Store × World}
    {request : ReconcileRequest} (h : request ∈ (deleteRound settings state.1 names).requests)
    (hmarker : (state.1.recordAt (Store.keyOf request.object)).hasMarker
      settings.runtime.finalizerName = true) :
    Released connector settings names state request where
  outcome world := by
    obtain ⟨-, -, entry, -, rfl⟩ := mem_deleteRound_iff.mp h
    exact reconcile_finalize
      ((decide_deletionRequest settings state.1 entry).trans (if_pos hmarker))
  forgotten := by
    have hdeleted : Store.keyOf request.object ∈ deletedKeys settings state.1 names :=
      List.mem_map_of_mem (f := fun r : ReconcileRequest => Store.keyOf r.object) h
    rw [get?_delete, if_pos hdeleted]

/-! ## Clusters in memory -/

/-- A cluster in memory that can be reached and answers truthfully. -/
structure Working (memory : Memory) : Prop where
  reachable : memory.failure = none
  plain : memory.cluster.scripted = []

theorem Working.reconcile {memory : Memory} (h : Working memory) (runtime : Runtime)
    (request : ReconcileRequest) :
    Working (reconcile runtime Memory.connector request memory).2 := by
  rw [Memory.reconcile_eq]
  exact ⟨h.reachable, (Cluster.scripted_run ..).trans h.plain⟩

theorem Working.reconcileAll {memory : Memory} (h : Working memory) (runtime : Runtime)
    (requests : List ReconcileRequest) :
    Working (reconcileAll runtime Memory.connector requests memory).2 := by
  induction requests generalizing memory with
  | nil => exact h
  | cons request requests ih => exact ih (h.reconcile runtime request)

theorem Working.runTurns {memory : Memory} (h : Working memory) (store : Store)
    (turns : List Turn) : Working (runTurns Memory.connector turns (store, memory)).2 :=
  runTurns_induct (P := fun state => Working state.2)
    (fun turn state hstate => by
      cases turn <;> exact hstate.reconcileAll _ _) h turns

/-- A deletion request that cleans up where its connection leads. -/
def CleansUp (request : ReconcileRequest) : Prop :=
  request.lifecycle.decide = .finalize true ∧ ∃ c, request.connection = .ok c

theorem holding_reconcile_of_cleansUp {memory : Memory} (hworking : Working memory)
    {request : ReconcileRequest} (h : CleansUp request) :
    (reconcile runtime Memory.connector request memory).2.cluster.holding request.object.place =
      none := by
  obtain ⟨hdecide, c, hconnection⟩ := h
  rw [Memory.reconcile_eq, hworking.reachable, ReconcileRequest.program, ReconcileRequest.pass,
    hdecide, hconnection]
  simp only [Pass.program, Program.run_bind, Program.run_pure]
  exact holding_cleanUp hworking.plain request.object

theorem reconcile_of_not_cleansUp {request : ReconcileRequest}
    (hdecide : request.lifecycle.decide ≠ .converge) (h : ¬CleansUp request) :
    (reconcile runtime connector request world).2 = world := by
  unfold reconcile
  cases hpass : request.pass runtime with
  | settled outcome => rfl
  | contact c refused connected =>
      obtain ⟨hconnection, hconverge | ⟨hfinalize, -⟩⟩ := ReconcileRequest.pass_eq_contact hpass
      · exact absurd hconverge hdecide
      · exact absurd ⟨hfinalize, c, hconnection⟩ h

section

variable {memory : Memory} {requests : List ReconcileRequest} {place : Place}

theorem holding_reconcile_of_spared {request : ReconcileRequest}
    (hdecide : request.lifecycle.decide ≠ .converge)
    (h : ¬(CleansUp request ∧ request.object.place = place)) :
    (reconcile runtime Memory.connector request memory).2.cluster.holding place =
      memory.cluster.holding place := by
  by_cases hplace : request.object.place = place
  · rw [reconcile_of_not_cleansUp hdecide fun hcleans => h ⟨hcleans, hplace⟩]
  · exact (Memory.agreeAt_reconcile runtime (Ne.symm hplace) memory).cluster.holding

theorem holding_reconcileAll_of_spared
    (hdecide : ∀ request ∈ requests, request.lifecycle.decide ≠ .converge)
    (h : ∀ request ∈ requests, ¬(CleansUp request ∧ request.object.place = place)) :
    (reconcileAll runtime Memory.connector requests memory).2.cluster.holding place =
      memory.cluster.holding place := by
  induction requests generalizing memory with
  | nil => rfl
  | cons request requests ih =>
      obtain ⟨hfirst, hrest⟩ := List.forall_mem_cons.mp h
      obtain ⟨hdecideFirst, hdecideRest⟩ := List.forall_mem_cons.mp hdecide
      exact (ih hdecideRest hrest).trans (holding_reconcile_of_spared hdecideFirst hfirst)

theorem holding_reconcileAll_of_cleansUp (hworking : Working memory)
    (hdecide : ∀ request ∈ requests, request.lifecycle.decide ≠ .converge)
    (h : ∃ request ∈ requests, CleansUp request ∧ request.object.place = place) :
    (reconcileAll runtime Memory.connector requests memory).2.cluster.holding place = none := by
  induction requests generalizing memory with
  | nil =>
      obtain ⟨request, hrequest, -⟩ := h
      cases hrequest
  | cons request requests ih =>
      have hdecideRest := (List.forall_mem_cons.mp hdecide).2
      -- an object may be cleaned up more than once: what counts is the last time
      by_cases hlater : ∃ later ∈ requests, CleansUp later ∧ later.object.place = place
      · exact ih (hworking.reconcile runtime request) hdecideRest hlater
      · obtain ⟨found, hfound, hcleans, rfl⟩ := h
        rcases List.mem_cons.mp hfound with rfl | hmem
        · have hrest : ∀ later ∈ requests,
              ¬(CleansUp later ∧ later.object.place = found.object.place) :=
            fun later hmem hboth => hlater ⟨later, hmem, hboth⟩
          exact (holding_reconcileAll_of_spared hdecideRest hrest).trans
            (holding_reconcile_of_cleansUp hworking hcleans)
        · exact absurd ⟨found, hmem, hcleans, rfl⟩ hlater

end

/-- A deletion reaches the cluster for the object at a place. -/
def Removes (settings : Settings) (store : Store) (names : List String) (place : Place) : Prop :=
  ∃ name ∈ names, ∃ entry ∈ deletionTargets settings store name,
    entry.object.place = place ∧ entry.deleteInCluster = true ∧
      (store.recordAt (Store.keyOf entry.object)).hasMarker settings.runtime.finalizerName = true ∧
      ∃ c, connectionOf settings entry.object = .ok c

theorem cleansUp_deletionRequest_iff {entry : Entry} :
    CleansUp (deletionRequest settings store entry).2 ↔
      entry.deleteInCluster = true ∧
        (store.recordAt (Store.keyOf entry.object)).hasMarker settings.runtime.finalizerName =
          true ∧
        ∃ c, connectionOf settings entry.object = .ok c := by
  rw [CleansUp, decide_deletionRequest]
  have hconnection : (deletionRequest settings store entry).2.connection =
      connectionOf settings entry.object := rfl
  rw [hconnection, ← and_assoc]
  refine and_congr_left fun _ => ?_
  split
  next hmarker => simp [hmarker]
  next hnone => simp [hnone]

theorem removes_iff {names : List String} {place : Place} :
    Removes settings store names place ↔
      ∃ request ∈ (deleteRound settings store names).requests,
        CleansUp request ∧ request.object.place = place := by
  constructor
  · rintro ⟨name, hname, entry, htarget, hplace, hcleans⟩
    exact ⟨_, mem_deleteRound_iff.mpr ⟨name, hname, entry, htarget, rfl⟩,
      cleansUp_deletionRequest_iff.mpr hcleans, hplace⟩
  · rintro ⟨request, hrequest, hcleans, hplace⟩
    obtain ⟨name, hname, entry, htarget, rfl⟩ := mem_deleteRound_iff.mp hrequest
    exact ⟨name, hname, entry, htarget, hplace, cleansUp_deletionRequest_iff.mp hcleans⟩

/-- What a cluster in memory holds after a deletion. -/
theorem holding_delete {memory : Memory} (hworking : Working memory) (settings : Settings)
    (store : Store) (names : List String) (place : Place) :
    let after := (delete settings Memory.connector store names memory).2
    (Removes settings store names place → after.cluster.holding place = none) ∧
      (¬Removes settings store names place →
        after.cluster.holding place = memory.cluster.holding place) := by
  have hdecide : ∀ request ∈ (deleteRound settings store names).requests,
      request.lifecycle.decide ≠ .converge := by
    intro request hrequest
    obtain ⟨-, -, entry, -, rfl⟩ := mem_deleteRound_iff.mp hrequest
    exact decide_deletionRequest_ne settings store entry
  rw [removes_iff]
  exact ⟨holding_reconcileAll_of_cleansUp hworking hdecide,
    fun h => holding_reconcileAll_of_spared hdecide
      fun request hrequest hboth => h ⟨request, hrequest, hboth⟩⟩

/-! ## All runs -/

/--
Along all runs, contacts are licensed and nothing but contacts touches the
world; objects with their marker on are released by a deletion; and a deletion
removes from a working cluster what it reaches the cluster for, and no more.
-/
theorem contacts_gated (connector : Connector World) (world : World) (turns : List Turn) :
    let state := runTurns connector turns (.empty, world)
    (∀ turn : Turn,
      (∀ contact ∈ turn.contacts connector state, Licensed connector world turns turn contact) ∧
        (turn.contacts connector state = [] → (turn.run connector state).2 = state.2)) ∧
    (∀ settings names, ∀ request ∈ (deleteRound settings state.1 names).requests,
      (state.1.recordAt (Store.keyOf request.object)).hasMarker settings.runtime.finalizerName =
        true → Released connector settings names state request) ∧
    ∀ memory : Memory, Working memory → ∀ settings names place,
      let state := runTurns Memory.connector turns (.empty, memory)
      let after := (delete settings Memory.connector state.1 names state.2).2
      (Removes settings state.1 names place → after.cluster.holding place = none) ∧
        (¬Removes settings state.1 names place →
          after.cluster.holding place = state.2.cluster.holding place) :=
  ⟨fun _ => ⟨fun _ => licensed_of_mem_contacts, Turn.run_of_no_contacts⟩,
    fun _ _ _ => released_of_hasMarker,
    fun _ hworking settings names place =>
      holding_delete (hworking.runTurns .empty turns) settings _ names place⟩

/-- An index that was registered and created is removed by a deletion. -/
theorem orders_removed :
    let settings := ordersWith "main" "http://old.cluster:9200"
    let state := runTurns Memory.connector [.apply settings, .apply settings]
      (.empty, .ofCluster .empty)
    let after := (delete settings Memory.connector state.1 ["orders"] state.2).2
    (state.2.cluster.holding (.index, "orders")).isSome = true ∧
      after.cluster.holding (.index, "orders") = none := by
  have hgated := contacts_gated Memory.connector (.ofCluster .empty)
    [.apply (ordersWith "main" "http://old.cluster:9200"),
      .apply (ordersWith "main" "http://old.cluster:9200")]
  have htarget (store : Store) : orders ∈ deletionTargets
      (ordersWith "main" "http://old.cluster:9200") store "orders" :=
    mem_deletionTargets_iff.mpr ⟨rfl, .inl List.mem_cons_self⟩
  refine ⟨by decide +kernel, (hgated.2.2 (.ofCluster .empty) ⟨rfl, rfl⟩ _ ["orders"] _).1
    ⟨"orders", List.mem_cons_self, orders, htarget _, rfl, rfl, ?_, oldCluster, connectionOf_old⟩⟩
  decide +kernel

end Rounds

end SchemaKeeper
