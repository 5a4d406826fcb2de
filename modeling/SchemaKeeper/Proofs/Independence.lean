import Mathlib.Data.List.Nodup
import Mathlib.Data.List.Perm.Basic
import SchemaKeeper.Gateway.Memory
import SchemaKeeper.Proofs.Place
import SchemaKeeper.Proofs.Records

/-!
# Rounds over separate objects

A pass over an object reads and changes what is held at the place of the object
and nothing else.  So when the objects of a round have different places, every
one of them ends up as if it had been alone in the round.
-/

namespace SchemaKeeper

def Settings.withObjects (settings : Settings) (objects : List Entry) : Settings :=
  { settings with objects }

/-! ## Rows of separate steps -/

section Walk

variable {State Item Result Part : Type}

/-- Steps taken one after the other, each with a result. -/
def walk (step : Item → State → Result × State) : List Item → State → List Result × State
  | [], state => ([], state)
  | item :: items, state =>
      let (result, state) := step item state
      let (results, state) := walk step items state
      (result :: results, state)

/-- A step looks at one part of the state and leaves all other parts alone. -/
structure Separate (part : Item → Part) (agree : Part → State → State → Prop)
    (step : Item → State → Result × State) : Prop where
  refl : ∀ p s, agree p s s
  trans : ∀ {p s t u}, agree p s t → agree p t u → agree p s u
  congr : ∀ {item s t}, agree (part item) s t →
    (step item s).1 = (step item t).1 ∧ agree (part item) (step item s).2 (step item t).2
  frame : ∀ item {p} s, p ≠ part item → agree p (step item s).2 s

/-- A row of steps leaves alone what none of them is about. -/
theorem walk_frame {part : Item → Part} {agree : Part → State → State → Prop}
    {step : Item → State → Result × State} (h : Separate part agree step) {items : List Item}
    {p : Part} (hp : p ∉ items.map part) (state : State) :
    agree p (walk step items state).2 state := by
  induction items generalizing state with
  | nil => exact h.refl p state
  | cons first items ih =>
      obtain ⟨hne, hlater⟩ := not_or.mp (List.mem_cons.not.mp hp)
      exact h.trans (ih hlater (step first state).2) (h.frame first state hne)

/-- What every step tells of its item, a row tells of its items. -/
theorem map_walk {Told : Type} {step : Item → State → Result × State} {told : Result → Told}
    {about : Item → Told} (h : ∀ item state, told (step item state).1 = about item)
    (items : List Item) (state : State) :
    (walk step items state).1.map told = items.map about := by
  induction items generalizing state with
  | nil => rfl
  | cons first items ih => exact congrArg₂ _ (h first state) (ih (step first state).2)

/-- In a row of steps for different parts each step goes as if it were the only one. -/
theorem walk_apart {part : Item → Part} {agree : Part → State → State → Prop}
    {step : Item → State → Result × State} (h : Separate part agree step) {items : List Item}
    (hdistinct : (items.map part).Nodup) (state : State) :
    (walk step items state).1 = items.map (fun item => (step item state).1) ∧
      (∀ item ∈ items, agree (part item) (walk step items state).2 (step item state).2) ∧
      ∀ p ∉ items.map part, agree p (walk step items state).2 state := by
  induction items generalizing state with
  | nil => exact ⟨rfl, fun _ h => absurd h List.not_mem_nil, fun p _ => h.refl p state⟩
  | cons first items ih =>
      obtain ⟨hfirst, hrest⟩ := List.nodup_cons.mp hdistinct
      obtain ⟨hresults, hparts, -⟩ := ih hrest (step first state).2
      have hnext : ∀ item ∈ items, agree (part item) (step first state).2 state := by
        intro item hitem
        refine h.frame first state fun heq => hfirst ?_
        exact List.mem_map.mpr ⟨item, hitem, heq⟩
      refine ⟨?_, ?_, fun p hp => walk_frame h hp state⟩
      · have hsame : items.map (fun item => (step item (step first state).2).1) =
            items.map fun item => (step item state).1 :=
          List.map_congr_left fun item hitem => (h.congr (hnext item hitem)).1
        rw [List.map_cons, ← hsame, ← hresults]
        rfl
      · intro item hitem
        rcases List.mem_cons.mp hitem with rfl | hlater
        · exact walk_frame h hfirst _
        · exact h.trans (hparts item hlater) (h.congr (hnext item hlater)).2

end Walk

/-- The key of the object at a place. -/
def Store.keyAt (place : Place) : String :=
  key place.1 place.2

theorem Store.keyAt_inj {place other : Place} : keyAt place = keyAt other ↔ place = other := by
  constructor
  · intro h
    obtain ⟨hkind, hname⟩ := key_inj h
    exact Prod.ext hkind hname
  · rintro rfl
    rfl

theorem Store.keyOf_eq_iff {object other : DesiredObject} :
    keyOf object = keyOf other ↔ object.place = other.place :=
  @keyAt_inj object.place other.place

/-! ## Passes in memory -/

/-- What a pass does on a cluster in memory; connecting either fails or leads to it. -/
def Pass.program (failure : Option ConnectError) : Pass → Program ReconcileOutcome
  | .settled outcome => return outcome
  | .contact _ refused connected =>
      match failure with
      | some e => return refused e
      | none => connected

def ReconcileRequest.program (runtime : Runtime) (failure : Option ConnectError)
    (request : ReconcileRequest) : Program ReconcileOutcome :=
  (request.pass runtime).program failure

theorem asks_program (runtime : Runtime) (failure : Option ConnectError)
    (request : ReconcileRequest) :
    (request.program runtime failure).Asks (·.place? = some request.object.place) := by
  unfold ReconcileRequest.program ReconcileRequest.pass
  cases request.lifecycle.decide with
  | register => exact Program.asks_pure _
  | released => exact Program.asks_pure _
  | finalize deleteInCluster =>
      cases deleteInCluster with
      | false => exact Program.asks_pure _
      | true =>
          cases request.connection with
          | error e => exact Program.asks_pure _
          | ok connection =>
              cases failure with
              | some e => exact Program.asks_pure _
              | none =>
                  exact Program.asks_bind (Program.asks_cleanUp request.object)
                    fun _ => Program.asks_pure _
  | converge =>
      cases request.connection with
      | error e => exact Program.asks_pure _
      | ok connection =>
          cases failure with
          | some e => exact Program.asks_pure _
          | none =>
              exact Program.asks_bind (Convergence.asks_converge _ request.object)
                fun _ => Program.asks_pure _

namespace Memory

theorem run_answer {α : Type} (p : Program α) (memory : Memory) :
    p.run answer memory =
      ((p.run Cluster.answer memory.cluster).1,
        { memory with cluster := (p.run Cluster.answer memory.cluster).2 }) := by
  induction p generalizing memory with
  | done result => rfl
  | call c next ih => exact ih _ _

theorem reconcile_eq (runtime : Runtime) (request : ReconcileRequest) (memory : Memory) :
    reconcile runtime connector request memory =
      (((request.program runtime memory.failure).run Cluster.answer memory.cluster).1,
        { memory with
          cluster :=
            ((request.program runtime memory.failure).run Cluster.answer memory.cluster).2 }) := by
  obtain ⟨cluster, failure⟩ := memory
  unfold reconcile ReconcileRequest.program
  cases request.pass runtime with
  | settled outcome => rfl
  | contact connection refused connected =>
      cases failure with
      | some e => rfl
      | none => exact run_answer connected ⟨cluster, none⟩

/-! ## The place of a pass -/

structure AgreeAt (place : Place) (a b : Memory) : Prop where
  failure : a.failure = b.failure
  cluster : Cluster.AgreeAt place a.cluster b.cluster

theorem AgreeAt.trans {place : Place} {a b c : Memory} (hab : AgreeAt place a b)
    (hbc : AgreeAt place b c) : AgreeAt place a c :=
  ⟨hab.failure.trans hbc.failure, hab.cluster.scripted.trans hbc.cluster.scripted,
    hab.cluster.holding.trans hbc.cluster.holding⟩

theorem reconcile_congr (runtime : Runtime) {request : ReconcileRequest} {a b : Memory}
    (h : AgreeAt request.object.place a b) :
    (reconcile runtime connector request a).1 = (reconcile runtime connector request b).1 ∧
      AgreeAt request.object.place (reconcile runtime connector request a).2
        (reconcile runtime connector request b).2 := by
  have hrun := Cluster.run_congr (asks_program runtime a.failure request) h.cluster
  rw [reconcile_eq, reconcile_eq, ← h.failure]
  exact ⟨hrun.1, rfl, hrun.2⟩

theorem agreeAt_reconcile (runtime : Runtime) {request : ReconcileRequest} {place : Place}
    (hne : place ≠ request.object.place) (memory : Memory) :
    AgreeAt place (reconcile runtime connector request memory).2 memory := by
  rw [reconcile_eq]
  exact ⟨rfl, Cluster.scripted_run .., Cluster.holding_run_of_ne (asks_program ..) hne _⟩

end Memory

namespace Rounds

/-! ## Passes one after the other -/

theorem separate_reconcile (runtime : Runtime) :
    Separate (·.object.place) Memory.AgreeAt (reconcile runtime Memory.connector) where
  refl _ _ := ⟨rfl, rfl, rfl⟩
  trans := Memory.AgreeAt.trans
  congr := Memory.reconcile_congr runtime
  frame _ _ memory hne := Memory.agreeAt_reconcile runtime hne memory

theorem reconcileAll_eq_walk {World : Type} (runtime : Runtime) (connector : Connector World)
    (requests : List ReconcileRequest) (world : World) :
    reconcileAll runtime connector requests world =
      walk (reconcile runtime connector) requests world := by
  induction requests generalizing world with
  | nil => rfl
  | cons request requests ih =>
      simp only [reconcileAll, walk]
      rw [ih]

/-! ## Outcomes one after the other -/

theorem get?_put (store : Store) (key k : String) (record : ObjectRecord) :
    (store.put key record).get? k = if k = key then some record else store.get? k :=
  Table.get?_insert ..

theorem recordAt_congr {store other : Store} {key : String}
    (h : store.get? key = other.get? key) : store.recordAt key = other.recordAt key := by
  rw [Store.recordAt, Store.recordAt, h]

def settleStep (runtime : Runtime) (item : Pending × ReconcileOutcome) (store : Store) :
    Report × Store :=
  (settleApplied runtime store item.1 item.2).swap

theorem separate_settleStep (runtime : Runtime) :
    Separate (fun item : Pending × ReconcileOutcome => item.1.key)
      (fun key store other => store.get? key = other.get? key) (settleStep runtime) where
  refl _ _ := rfl
  trans := Eq.trans
  congr := by
    intro item store other h
    have hrecord := recordAt_congr h
    simp only [settleStep, settleApplied, hrecord, Prod.swap_prod_mk, get?_put, if_true, and_self]
  frame := by
    intro item k store hne
    simp only [settleStep, settleApplied, Prod.swap_prod_mk, get?_put, if_neg hne]

theorem settleAll_eq_walk (runtime : Runtime) (store : Store)
    (asked : List (Pending × ReconcileOutcome)) :
    settleAll (settleApplied runtime) store asked =
      (walk (settleStep runtime) asked store).swap := by
  induction asked generalizing store with
  | nil => rfl
  | cons item asked ih =>
      simp only [settleAll, walk]
      rw [ih]
      rfl

/-! ## Admissions one after the other -/

def admitStep (settings : Settings) (entry : Entry) (store : Store) :
    (Report ⊕ Pending) × Store :=
  match admitConfigured settings store entry with
  | .ok admitted => (.inr (pendingOf settings store entry admitted), store)
  | .error refusal =>
      let (store, report) := refuse store entry.object refusal
      (.inl report, store)

theorem separate_admitStep (settings : Settings) :
    Separate (fun entry : Entry => Store.keyOf entry.object)
      (fun key store other => store.get? key = other.get? key) (admitStep settings) where
  refl _ _ := rfl
  trans := Eq.trans
  congr := by
    intro entry store other h
    have hrecord := recordAt_congr h
    have hverdict : admitConfigured settings store entry =
        admitConfigured settings other entry := by
      rw [admitConfigured, admitConfigured, h]
    simp only [admitStep, hverdict]
    cases admitConfigured settings other entry with
    | error refusal => simp only [refuse, hrecord, get?_put, if_true, and_self]
    | ok admitted => simp only [pendingOf, hrecord, h, and_self]
  frame := by
    intro entry k store hne
    simp only [admitStep]
    cases admitConfigured settings store entry with
    | error refusal => simp only [refuse, get?_put, if_neg hne]
    | ok admitted => rfl

theorem foldl_admitNext (settings : Settings) (entries : List Entry) (state : Admitted) :
    let (results, store) := walk (admitStep settings) entries state.store
    entries.foldl (admitNext settings) state =
      ⟨store, state.reports ++ results.filterMap Sum.getLeft?,
        state.pending ++ results.filterMap Sum.getRight?⟩ := by
  induction entries generalizing state with
  | nil => simp [walk]
  | cons entry entries ih =>
      rw [List.foldl_cons, ih]
      simp only [walk, admitStep, admitNext]
      cases admitConfigured settings state.store entry with
      | error refusal => simp [List.filterMap_cons]
      | ok admitted => simp [List.filterMap_cons]

theorem admitAll_eq_walk (settings : Settings) (store : Store) :
    admitAll settings store =
      ⟨(walk (admitStep settings) settings.objects store).2,
        (walk (admitStep settings) settings.objects store).1.filterMap Sum.getLeft?,
        (walk (admitStep settings) settings.objects store).1.filterMap Sum.getRight?⟩ := by
  rw [admitAll, foldl_admitNext]
  simp

/-! ## Whole rounds -/

variable {World : Type} {settings : Settings} {store : Store} {entry : Entry}
  {connector : Connector World} {world : World}

theorem PendsFor.own {pending : Pending} (h : PendsFor settings store entry pending) :
    Store.keyOf pending.request.object = pending.key := by
  obtain ⟨admitted, later, hverdict, -, rfl⟩ := h
  exact keyOf_admitted hverdict

theorem PendsFor.key {pending : Pending} (h : PendsFor settings store entry pending) :
    pending.key = Store.keyOf entry.object := by
  obtain ⟨admitted, later, -, -, rfl⟩ := h
  rfl

/-- What is pending in a round, each with its outcome. -/
def askedInApply (settings : Settings) (connector : Connector World) (store : Store)
    (world : World) : List (Pending × ReconcileOutcome) :=
  (admitAll settings store).pending.zip (reconcileAll settings.runtime connector
    ((admitAll settings store).pending.map Pending.request) world).1

theorem apply_eq_walk (settings : Settings) (connector : Connector World) (store : Store)
    (world : World) :
    let settled := walk (settleStep settings.runtime)
      (askedInApply settings connector store world) (admitAll settings store).store
    (apply settings connector store world).1 =
      ⟨settled.2, (admitAll settings store).reports ++ settled.1⟩ := by
  have hsettled := settleAll_eq_walk settings.runtime (admitAll settings store).store
    (askedInApply settings connector store world)
  simp only [apply, applyRound, Round.run]
  rw [← askedInApply, hsettled]
  rfl

/-- What is pending is pending for an entry that is admitted, and under its key. -/
theorem exists_admitted_of_asked {item : Pending × ReconcileOutcome}
    (h : item ∈ askedInApply settings connector store world) :
    ∃ entry ∈ settings.objects, isAdmitted settings store entry = true ∧
      item.1.key = Store.keyOf entry.object ∧
      item.1.request.object.place = entry.object.place := by
  obtain ⟨entry, hentry, hpends⟩ := exists_pendsFor (List.of_mem_zip h).1
  have hplace := Store.keyOf_eq_iff.mp (hpends.own.trans hpends.key)
  have hkey := hpends.key
  obtain ⟨admitted, -, hverdict, -⟩ := hpends
  exact ⟨entry, hentry, isAdmitted_iff.mpr ⟨admitted, hverdict⟩, hkey, hplace⟩

theorem get?_apply_of_not_asked {key : String}
    (h : ∀ entry ∈ settings.objects, isAdmitted settings store entry = true →
      Store.keyOf entry.object ≠ key) (connector : Connector World) (world : World) :
    (apply settings connector store world).1.store.get? key =
      (admitAll settings store).store.get? key := by
  rw [apply_eq_walk]
  refine walk_frame (separate_settleStep settings.runtime) (fun hkey => ?_) _
  obtain ⟨item, hitem, rfl⟩ := List.mem_map.mp hkey
  obtain ⟨entry, hentry, hadmitted, hown, -⟩ := exists_admitted_of_asked hitem
  exact h entry hentry hadmitted hown.symm

/-- Records that no entry stands for are left alone. -/
theorem get?_apply_of_not_mem {key : String}
    (h : key ∉ settings.objects.map fun entry => Store.keyOf entry.object)
    (connector : Connector World) (store : Store) (world : World) :
    (apply settings connector store world).1.store.get? key = store.get? key := by
  rw [get?_apply_of_not_asked fun entry hentry _ hkey =>
    h (List.mem_map.mpr ⟨entry, hentry, hkey⟩), admitAll_eq_walk]
  exact walk_frame (separate_admitStep settings) h store

theorem admitConfigured_withObjects (settings : Settings) (objects : List Entry) (store : Store)
    (entry : Entry) :
    admitConfigured (settings.withObjects objects) store entry =
      admitConfigured settings store entry :=
  rfl

theorem apply_alone_refused {refusal : Refusal}
    (h : admitConfigured settings store entry = .error refusal) (connector : Connector World)
    (world : World) :
    apply (settings.withObjects [entry]) connector store world =
      let (store, report) := refuse store entry.object refusal
      (⟨store, [report]⟩, world) := by
  have hround : admitAll (settings.withObjects [entry]) store =
      ⟨(refuse store entry.object refusal).1, [(refuse store entry.object refusal).2], []⟩ := by
    simp only [admitAll, Settings.withObjects, List.foldl_cons, List.foldl_nil, admitNext]
    rw [← Settings.withObjects, admitConfigured_withObjects, h]
    rfl
  simp only [apply, applyRound, Round.run, hround]
  rfl

theorem apply_alone_admitted {admitted : Entry}
    (h : admitConfigured settings store entry = .ok admitted) (connector : Connector World)
    (world : World) :
    apply (settings.withObjects [entry]) connector store world =
      let pending := pendingOf settings store entry admitted
      let (outcome, world) := reconcile settings.runtime connector pending.request world
      let (store, report) := settleApplied settings.runtime store pending outcome
      (⟨store, [report]⟩, world) := by
  have hround : admitAll (settings.withObjects [entry]) store =
      ⟨store, [], [pendingOf settings store entry admitted]⟩ := by
    simp only [admitAll, Settings.withObjects, List.foldl_cons, List.foldl_nil, admitNext]
    rw [← Settings.withObjects, admitConfigured_withObjects, h]
    rfl
  simp only [apply, applyRound, Round.run, hround]
  rfl

def pendingAt (settings : Settings) (store : Store) (entry : Entry) : Option Pending :=
  (admitStep settings entry store).1.getRight?

theorem pendingAt_of_admitted {admitted : Entry}
    (h : admitConfigured settings store entry = .ok admitted) :
    pendingAt settings store entry = some (pendingOf settings store entry admitted) := by
  rw [pendingAt, admitStep, h]
  rfl

theorem admitted_of_pendingAt {pending : Pending}
    (h : pendingAt settings store entry = some pending) :
    ∃ admitted, admitConfigured settings store entry = .ok admitted ∧
      pending = pendingOf settings store entry admitted := by
  cases hverdict : admitConfigured settings store entry with
  | error refusal =>
      rw [pendingAt, admitStep, hverdict] at h
      cases h
  | ok admitted =>
      rw [pendingAt_of_admitted hverdict] at h
      exact ⟨admitted, rfl, (Option.some.inj h).symm⟩

theorem place_of_admitConfigured {admitted : Entry}
    (h : admitConfigured settings store entry = .ok admitted) :
    admitted.object.place = entry.object.place :=
  Store.keyOf_eq_iff.mp (keyOf_admitted h)

theorem place_of_pendingAt {pending : Pending} (h : pendingAt settings store entry = some pending) :
    pending.request.object.place = entry.object.place := by
  obtain ⟨admitted, hverdict, rfl⟩ := admitted_of_pendingAt h
  exact place_of_admitConfigured hverdict

theorem key_of_pendingAt {pending : Pending} (h : pendingAt settings store entry = some pending) :
    pending.key = Store.keyOf entry.object := by
  obtain ⟨admitted, -, rfl⟩ := admitted_of_pendingAt h
  rfl

theorem map_filterMap_sublist {α β γ : Type} {f : α → Option β} {g : β → γ} {h : α → γ}
    (hf : ∀ a b, f a = some b → g b = h a) (items : List α) :
    ((items.filterMap f).map g).Sublist (items.map h) := by
  induction items with
  | nil => exact .slnil
  | cons a items ih =>
      cases ha : f a with
      | none =>
          rw [List.filterMap_cons_none ha]
          exact ih.cons _
      | some b =>
          rw [List.filterMap_cons_some ha, List.map_cons, List.map_cons, hf a b ha]
          exact ih.cons_cons _

theorem nodup_keys (hdistinct : (settings.objects.map (·.object.place)).Nodup) :
    (settings.objects.map fun entry => Store.keyOf entry.object).Nodup := by
  have hplaces := List.pairwise_map.mp hdistinct
  exact List.pairwise_map.mpr (hplaces.imp fun hne heq => hne (Store.keyOf_eq_iff.mp heq))

/-- What is pending in a round over separate objects, each with the outcome it has alone. -/
def askedAlone (settings : Settings) (store : Store) (memory : Memory) :
    List (Pending × ReconcileOutcome) :=
  (settings.objects.filterMap (pendingAt settings store)).map fun pending =>
    (pending, (reconcile settings.runtime Memory.connector pending.request memory).1)

theorem pending_admitAll (hdistinct : (settings.objects.map (·.object.place)).Nodup)
    (store : Store) :
    (admitAll settings store).pending = settings.objects.filterMap (pendingAt settings store) := by
  have hwalk := walk_apart (separate_admitStep settings) (nodup_keys hdistinct) store
  rw [admitAll_eq_walk, hwalk.1]
  exact List.filterMap_map

theorem pending_places_sublist (settings : Settings) (store : Store) :
    (((settings.objects.filterMap (pendingAt settings store)).map Pending.request).map
      (·.object.place)).Sublist (settings.objects.map (·.object.place)) := by
  rw [List.map_map]
  exact map_filterMap_sublist (fun _ _ => place_of_pendingAt) _

theorem asked_keys_sublist (settings : Settings) (store : Store) (memory : Memory) :
    ((askedAlone settings store memory).map (·.1.key)).Sublist
      (settings.objects.map fun entry => Store.keyOf entry.object) := by
  rw [askedAlone, List.map_map]
  exact map_filterMap_sublist (fun _ _ => key_of_pendingAt) _

theorem nodup_pending_places (hdistinct : (settings.objects.map (·.object.place)).Nodup)
    (store : Store) :
    (((settings.objects.filterMap (pendingAt settings store)).map Pending.request).map
      (·.object.place)).Nodup :=
  hdistinct.sublist (pending_places_sublist settings store)

theorem apply_eq (hdistinct : (settings.objects.map (·.object.place)).Nodup) (store : Store)
    (memory : Memory) :
    let admitted := admitAll settings store
    let settled := walk (settleStep settings.runtime) (askedAlone settings store memory)
      admitted.store
    apply settings Memory.connector store memory =
      (⟨settled.2, admitted.reports ++ settled.1⟩,
        (walk (reconcile settings.runtime Memory.connector)
          ((settings.objects.filterMap (pendingAt settings store)).map Pending.request)
          memory).2) := by
  intro admitted settled
  have hpending := pending_admitAll hdistinct store
  have hwalk := walk_apart (separate_reconcile settings.runtime)
    (nodup_pending_places hdistinct store) memory
  have hasked : ∀ pending : List Pending, pending.zip ((pending.map Pending.request).map
      fun request => (reconcile settings.runtime Memory.connector request memory).1) =
      pending.map fun p =>
        (p, (reconcile settings.runtime Memory.connector p.request memory).1) := by
    intro pending
    induction pending with
    | nil => rfl
    | cons p pending ih => exact congrArg (_ :: ·) ih
  simp only [apply, applyRound, Round.run, reconcileAll_eq_walk, settleAll_eq_walk, hpending,
    hwalk.1, hasked]
  rfl

theorem pending_of_place (hdistinct : (settings.objects.map (·.object.place)).Nodup)
    (hentry : entry ∈ settings.objects) {pending : Pending}
    (hpending : pending ∈ settings.objects.filterMap (pendingAt settings store))
    (hplace : pending.request.object.place = entry.object.place) :
    pendingAt settings store entry = some pending := by
  obtain ⟨other, hother, hat⟩ := List.mem_filterMap.mp hpending
  have hsame : other = entry := by
    refine List.inj_on_of_nodup_map hdistinct hother hentry ?_
    exact (place_of_pendingAt hat).symm.trans hplace
  rwa [hsame] at hat

theorem nodup_asked_keys (hdistinct : (settings.objects.map (·.object.place)).Nodup)
    (store : Store) (memory : Memory) :
    ((askedAlone settings store memory).map (·.1.key)).Nodup :=
  (nodup_keys hdistinct).sublist (asked_keys_sublist settings store memory)

/-- Nothing is pending at the place of an entry that is refused. -/
theorem not_mem_of_refused (hdistinct : (settings.objects.map (·.object.place)).Nodup)
    (hentry : entry ∈ settings.objects) (hrefused : pendingAt settings store entry = none)
    (memory : Memory) :
    Store.keyOf entry.object ∉ (askedAlone settings store memory).map (·.1.key) ∧
      entry.object.place ∉ ((settings.objects.filterMap (pendingAt settings store)).map
        Pending.request).map (·.object.place) := by
  have hnone : ∀ pending ∈ settings.objects.filterMap (pendingAt settings store),
      pending.request.object.place ≠ entry.object.place := by
    intro pending hpending hplace
    rw [pending_of_place hdistinct hentry hpending hplace] at hrefused
    cases hrefused
  constructor
  · intro hkey
    rw [askedAlone, List.map_map] at hkey
    obtain ⟨pending, hpending, hsame⟩ := List.mem_map.mp hkey
    obtain ⟨other, hother, hat⟩ := List.mem_filterMap.mp hpending
    have hplace : other.object.place = entry.object.place :=
      Store.keyOf_eq_iff.mp ((key_of_pendingAt hat).symm.trans hsame)
    exact hnone pending hpending ((place_of_pendingAt hat).trans hplace)
  · intro hplace
    rw [List.map_map] at hplace
    obtain ⟨pending, hpending, hsame⟩ := List.mem_map.mp hplace
    exact hnone pending hpending hsame

theorem get?_admitAll (hdistinct : (settings.objects.map (·.object.place)).Nodup)
    (store : Store) (hentry : entry ∈ settings.objects) :
    (admitAll settings store).store.get? (Store.keyOf entry.object) =
      (admitStep settings entry store).2.get? (Store.keyOf entry.object) := by
  rw [admitAll_eq_walk]
  exact (walk_apart (separate_admitStep settings) (nodup_keys hdistinct) store).2.1 entry hentry

theorem left_of_pendingAt {pending : Pending} (h : pendingAt settings store entry = some pending) :
    (admitStep settings entry store).2 = store := by
  obtain ⟨admitted, hverdict, -⟩ := admitted_of_pendingAt h
  rw [admitStep, hverdict]

/-- In a round over separate objects each object fares as in a round of its own. -/
theorem apply_of_mem (hdistinct : (settings.objects.map (·.object.place)).Nodup) (store : Store)
    (memory : Memory) (hentry : entry ∈ settings.objects) :
    let alone := apply (settings.withObjects [entry]) Memory.connector store memory
    let result := apply settings Memory.connector store memory
    result.1.store.get? (Store.keyOf entry.object) =
        alone.1.store.get? (Store.keyOf entry.object) ∧
      Memory.AgreeAt entry.object.place result.2 alone.2 := by
  obtain ⟨-, hkeys, hotherKeys⟩ := walk_apart (separate_settleStep settings.runtime)
    (nodup_asked_keys hdistinct store memory) (admitAll settings store).store
  obtain ⟨-, hplaces, hotherPlaces⟩ := walk_apart (separate_reconcile settings.runtime)
    (nodup_pending_places hdistinct store) memory
  have hstore := get?_admitAll hdistinct store hentry
  intro alone result
  simp only [alone, result]
  rw [apply_eq hdistinct]
  cases hverdict : admitConfigured settings store entry with
  | error refusal =>
      rw [apply_alone_refused hverdict]
      have hrefused : pendingAt settings store entry = none := by
        rw [pendingAt, admitStep, hverdict]
        rfl
      have hleft : (admitStep settings entry store).2 = (refuse store entry.object refusal).1 := by
        rw [admitStep, hverdict]
      obtain ⟨hkey, hplace⟩ := not_mem_of_refused hdistinct hentry hrefused memory
      refine ⟨?_, hotherPlaces _ hplace⟩
      rw [hotherKeys _ hkey, hstore, hleft]
  | ok admitted =>
      rw [apply_alone_admitted hverdict]
      have hpending := pendingAt_of_admitted hverdict
      rw [left_of_pendingAt hpending] at hstore
      have hmem : pendingOf settings store entry admitted ∈
          settings.objects.filterMap (pendingAt settings store) :=
        List.mem_filterMap.mpr ⟨entry, hentry, hpending⟩
      constructor
      · let item := (pendingOf settings store entry admitted, (reconcile settings.runtime
          Memory.connector (pendingOf settings store entry admitted).request memory).1)
        have hitem := hkeys item (List.mem_map_of_mem hmem)
        have hown : (settleStep settings.runtime item (admitAll settings store).store).2.get?
            (Store.keyOf entry.object) =
              (settleStep settings.runtime item store).2.get? (Store.keyOf entry.object) :=
          ((separate_settleStep settings.runtime).congr hstore).2
        exact hitem.trans hown
      · have hplace := hplaces _ (List.mem_map_of_mem hmem)
        have hsame : (pendingOf settings store entry admitted).request.object.place =
            entry.object.place := place_of_admitConfigured hverdict
        rw [hsame] at hplace
        exact hplace

theorem agreeAt_apply_of_not_mem (hdistinct : (settings.objects.map (·.object.place)).Nodup)
    (store : Store) (memory : Memory) {place : Place}
    (hplace : place ∉ settings.objects.map (·.object.place)) :
    Memory.AgreeAt place (apply settings Memory.connector store memory).2 memory := by
  rw [apply_eq hdistinct]
  exact (walk_apart (separate_reconcile settings.runtime) (nodup_pending_places hdistinct store)
    memory).2.2 place fun h => hplace ((pending_places_sublist settings store).subset h)

/-- The order in which separate objects are configured does not matter. -/
theorem apply_perm (hdistinct : (settings.objects.map (·.object.place)).Nodup) {order : List Entry}
    (horder : order.Perm settings.objects) (store : Store) (memory : Memory) :
    let ordered := apply (settings.withObjects order) Memory.connector store memory
    let result := apply settings Memory.connector store memory
    ordered.1.store = result.1.store ∧ ordered.2.cluster.SameContents result.2.cluster := by
  intro ordered result
  have hordered : ((settings.withObjects order).objects.map (·.object.place)).Nodup :=
    (horder.map (·.object.place)).nodup_iff.mpr hdistinct
  constructor
  · refine congrArg Store.mk (Table.eq_of_get?_eq fun key => ?_)
    change ordered.1.store.get? key = result.1.store.get? key
    by_cases hkey : key ∈ settings.objects.map fun entry => Store.keyOf entry.object
    · obtain ⟨entry, hentry, rfl⟩ := List.mem_map.mp hkey
      have hfirst := apply_of_mem hordered store
        memory (horder.mem_iff.mpr hentry)
      exact hfirst.1.trans (apply_of_mem hdistinct store memory hentry).1.symm
    · have hordered : key ∉ (settings.withObjects order).objects.map
          fun entry => Store.keyOf entry.object :=
        fun h => hkey ((horder.map _).mem_iff.mp h)
      exact (get?_apply_of_not_mem hordered Memory.connector store memory).trans
        (get?_apply_of_not_mem hkey Memory.connector store memory).symm
  · refine Cluster.sameContents_of_holding fun place => ?_
    by_cases hplace : place ∈ settings.objects.map (·.object.place)
    · obtain ⟨entry, hentry, rfl⟩ := List.mem_map.mp hplace
      have hfirst := apply_of_mem hordered store
        memory (horder.mem_iff.mpr hentry)
      exact hfirst.2.cluster.holding.trans
        (apply_of_mem hdistinct store memory hentry).2.cluster.holding.symm
    · have hfirst := agreeAt_apply_of_not_mem
        hordered store memory fun h => hplace ((horder.map _).mem_iff.mp h)
      exact hfirst.cluster.holding.trans
        (agreeAt_apply_of_not_mem hdistinct store memory hplace).cluster.holding.symm

theorem reports_alone (settings : Settings) (store : Store) (memory : Memory) (entry : Entry) :
    (apply (settings.withObjects [entry]) Memory.connector store memory).1.reports =
      (admitStep settings entry store).1.getLeft?.toList ++
        ((pendingAt settings store entry).map fun pending =>
          (settleStep settings.runtime (pending, (reconcile settings.runtime Memory.connector
            pending.request memory).1) store).1).toList := by
  cases hverdict : admitConfigured settings store entry with
  | error refusal =>
      rw [apply_alone_refused hverdict, pendingAt, admitStep, hverdict]
      rfl
  | ok admitted =>
      rw [apply_alone_admitted hverdict, pendingAt, admitStep, hverdict]
      rfl

theorem reports_apply (hdistinct : (settings.objects.map (·.object.place)).Nodup) (store : Store)
    (memory : Memory) :
    (apply settings Memory.connector store memory).1.reports.Perm
      (settings.objects.flatMap fun entry =>
        (apply (settings.withObjects [entry]) Memory.connector store memory).1.reports) := by
  let settle := fun pending => (settleStep settings.runtime (pending,
    (reconcile settings.runtime Memory.connector pending.request memory).1) store).1
  have hrefused : (admitAll settings store).reports =
      settings.objects.flatMap fun entry => (admitStep settings entry store).1.getLeft?.toList := by
    rw [admitAll_eq_walk,
      (walk_apart (separate_admitStep settings) (nodup_keys hdistinct) store).1,
      ← List.filterMap_eq_flatMap_toList]
    exact List.filterMap_map
  have hsettled : (walk (settleStep settings.runtime) (askedAlone settings store memory)
      (admitAll settings store).store).1 =
      settings.objects.flatMap fun entry =>
        ((pendingAt settings store entry).map settle).toList := by
    have hsettle : ∀ pending ∈ settings.objects.filterMap (pendingAt settings store),
        (settleStep settings.runtime (pending, (reconcile settings.runtime Memory.connector
          pending.request memory).1) (admitAll settings store).store).1 = settle pending := by
      intro pending hpending
      obtain ⟨entry, hentry, hat⟩ := List.mem_filterMap.mp hpending
      have hstore := get?_admitAll hdistinct store hentry
      rw [left_of_pendingAt hat, ← key_of_pendingAt hat] at hstore
      exact ((separate_settleStep settings.runtime).congr hstore).1
    rw [(walk_apart (separate_settleStep settings.runtime)
      (nodup_asked_keys hdistinct store memory) _).1, askedAlone, List.map_map,
      ← List.filterMap_eq_flatMap_toList, ← List.map_filterMap]
    exact List.map_congr_left hsettle
  rw [apply_eq hdistinct]
  simp only [hrefused, hsettled, reports_alone]
  exact List.flatMap_append_perm ..

end Rounds

end SchemaKeeper
