import Mathlib.Data.List.Forall2
import Mathlib.Data.List.Induction
import SchemaKeeper.Proofs.Reconciliation

/-!
# What rounds remember

Of every object the store remembers an origin: the entry that was admitted last
and the cluster it was admitted for.  A round of `apply` judges its entries by the
store that it begins with, and leaves an origin alone or takes it from an entry
that it admits.  A round of `delete` forgets the records that it asks for,
whatever a cluster answers, and leaves the others alone.  A run is a row of such
rounds, each under settings of its own.
-/

namespace SchemaKeeper

theorem ObjectRecord.hasMarker_mark_remove (record : ObjectRecord) (marker : String) :
    (record.mark .remove marker).hasMarker marker = false := by
  simp [mark, hasMarker]

namespace Store

@[simp] theorem recordAt_empty (key : String) : empty.recordAt key = .blank :=
  rfl

theorem recordAt_of_get? {store : Store} {key : String} {record : ObjectRecord}
    (h : store.get? key = some record) : store.recordAt key = record := by
  rw [recordAt, h]
  rfl

theorem recordAt_put (store : Store) (key k : String) (record : ObjectRecord) :
    (store.put key record).recordAt k = if k = key then record else store.recordAt k := by
  simp only [recordAt, get?, put, Table.get?_insert]
  split <;> rfl

theorem recordAt_forget (store : Store) (key k : String) :
    (store.forget key).recordAt k = if k = key then .blank else store.recordAt k := by
  simp only [recordAt, get?, forget, Table.get?_erase]
  split <;> rfl

/-- The label of a kind ends at the first slash, whatever slashes the name has. -/
theorem key_inj {kind other : Kind} {name title : String}
    (h : key kind name = key other title) : kind = other ∧ name = title := by
  have hchars : (kind.label ++ "/" ++ name).toList = (other.label ++ "/" ++ title).toList :=
    congrArg String.toList h
  cases kind <;> cases other <;> simp_all [Kind.label, String.toList_inj]

end Store

namespace Rounds

variable {World : Type}

/-! ## Origins -/

/-- The entry that was admitted last and the cluster it lives on. -/
structure Origin where
  applied : Option Entry
  endpoint : Option Connection

def originOf (record : ObjectRecord) : Origin :=
  ⟨record.applied, record.endpoint⟩

def originAt (store : Store) (key : String) : Origin :=
  originOf (store.recordAt key)

theorem originAt_put (store : Store) (key k : String) (record : ObjectRecord) :
    originAt (store.put key record) k = if k = key then originOf record else originAt store k := by
  simp only [originAt, Store.recordAt_put]
  split <;> rfl

/-- A refusal changes the status on record and nothing else. -/
@[simp] theorem originAt_refuse (store : Store) (object : DesiredObject) (refusal : Refusal)
    (key : String) : originAt (refuse store object refusal).1 key = originAt store key := by
  simp only [refuse, originAt_put]
  split
  next h =>
    subst h
    rfl
  next => rfl

theorem markers_refuse (store : Store) (object : DesiredObject) (refusal : Refusal)
    (key : String) :
    ((refuse store object refusal).1.recordAt key).markers = (store.recordAt key).markers := by
  simp only [refuse, Store.recordAt_put]
  split
  next h =>
    subst h
    rfl
  next => rfl

/-! ## Admission against an origin -/

/-- Admission of a configured entry looks at the origin of its key only. -/
theorem admitConfigured_eq (settings : Settings) (store : Store) (entry : Entry) :
    admitConfigured settings store entry =
      admitEntry entry (connectionOf settings entry.object).toOption
        (some { ObjectRecord.blank with
          applied := (originAt store (Store.keyOf entry.object)).applied
          endpoint := (originAt store (Store.keyOf entry.object)).endpoint }) := by
  simp only [admitConfigured, originAt, originOf, Store.recordAt]
  cases store.get? (Store.keyOf entry.object) with
  | none => rfl
  | some record => rfl

theorem admitConfigured_congr (settings : Settings) {store other : Store} {entry : Entry}
    (h : originAt store (Store.keyOf entry.object) = originAt other (Store.keyOf entry.object)) :
    admitConfigured settings store entry = admitConfigured settings other entry := by
  rw [admitConfigured_eq, admitConfigured_eq, h]

/-- What is remembered of an entry once it is admitted. -/
def originFrom (settings : Settings) (entry admitted : Entry) : Origin :=
  ⟨some admitted, (connectionOf settings entry.object).toOption.map Connection.withoutPassword⟩

/-- An entry of the settings is admitted under a key, and this is its origin. -/
def Admits (settings : Settings) (store : Store) (key : String) (origin : Origin) : Prop :=
  ∃ entry ∈ settings.objects, ∃ admitted,
    Store.keyOf entry.object = key ∧
      admitConfigured settings store entry = .ok admitted ∧
      origin = originFrom settings entry admitted

/-! ## Entries that are admitted -/

section

variable {settings : Settings} {store : Store} {entry : Entry}

/-- A later store that differs from a store in no more than statuses. -/
structure SameButStatus (store later : Store) : Prop where
  markers : ∀ key, (later.recordAt key).markers = (store.recordAt key).markers
  origin : ∀ key, originAt later key = originAt store key

theorem SameButStatus.refl (store : Store) : SameButStatus store store :=
  ⟨fun _ => rfl, fun _ => rfl⟩

theorem SameButStatus.refuse {later : Store} (h : SameButStatus store later)
    (object : DesiredObject) (refusal : Refusal) :
    SameButStatus store (refuse later object refusal).1 where
  markers key := (markers_refuse later object refusal key).trans (h.markers key)
  origin key := (originAt_refuse later object refusal key).trans (h.origin key)

def isAdmitted (settings : Settings) (store : Store) (entry : Entry) : Bool :=
  (admitConfigured settings store entry).isOk

theorem isAdmitted_iff :
    isAdmitted settings store entry = true ↔
      ∃ admitted, admitConfigured settings store entry = .ok admitted := by
  unfold isAdmitted
  cases admitConfigured settings store entry <;> simp [Except.isOk, Except.toBool]

/-- What is pending for an entry that the store admits. -/
def PendsFor (settings : Settings) (store : Store) (entry : Entry) (pending : Pending) : Prop :=
  ∃ admitted later, admitConfigured settings store entry = .ok admitted ∧
    SameButStatus store later ∧ pending = pendingOf settings later entry admitted

theorem PendsFor.lifecycle {pending : Pending} (h : PendsFor settings store entry pending) :
    pending.request.lifecycle =
      ⟨false, (store.recordAt pending.key).hasMarker settings.runtime.finalizerName,
        pending.admitted.deleteInCluster⟩ := by
  obtain ⟨admitted, later, -, hsame, rfl⟩ := h
  simp only [pendingOf, ObjectRecord.hasMarker, hsame.markers]

theorem forall₂_foldl_admitNext (entries : List Entry) (state : Admitted)
    (h : SameButStatus store state.store) :
    ∃ more, (entries.foldl (admitNext settings) state).pending = state.pending ++ more ∧
      List.Forall₂ (PendsFor settings store) (entries.filter (isAdmitted settings store)) more := by
  induction entries generalizing state with
  | nil => exact ⟨[], by simp, .nil⟩
  | cons entry entries ih =>
      -- the verdict depends on the origin alone, which no refusal has changed so far
      have hsame : admitConfigured settings state.store entry =
          admitConfigured settings store entry := admitConfigured_congr settings (h.origin _)
      simp only [List.foldl_cons, admitNext, hsame]
      cases hverdict : admitConfigured settings store entry with
      | error refusal =>
          have hnot : isAdmitted settings store entry = false := by
            rw [isAdmitted, hverdict]
            rfl
          rw [List.filter_cons_of_neg (by simp [hnot])]
          exact ih _ (h.refuse entry.object refusal)
      | ok admitted =>
          obtain ⟨more, hpending, hmore⟩ := ih
            { state with
              pending := state.pending ++ [pendingOf settings state.store entry admitted] } h
          have hadmits : isAdmitted settings store entry = true :=
            isAdmitted_iff.mpr ⟨admitted, hverdict⟩
          refine ⟨pendingOf settings state.store entry admitted :: more, ?_, ?_⟩
          · rw [hpending, List.append_assoc]
            rfl
          · rw [List.filter_cons_of_pos hadmits]
            exact .cons ⟨admitted, state.store, hverdict, h, rfl⟩ hmore

/-- One request is pending for each entry that is admitted, in the order of the entries. -/
theorem forall₂_admitAll (settings : Settings) (store : Store) :
    List.Forall₂ (PendsFor settings store) (settings.objects.filter (isAdmitted settings store))
      (admitAll settings store).pending := by
  obtain ⟨more, hpending, hmore⟩ :=
    forall₂_foldl_admitNext settings.objects ⟨store, [], []⟩ (.refl store)
  rw [admitAll, hpending]
  exact hmore

theorem sameButStatus_foldl_admitNext (entries : List Entry) {state : Admitted}
    (h : SameButStatus store state.store) :
    SameButStatus store (entries.foldl (admitNext settings) state).store := by
  refine List.foldlRecOn entries (admitNext settings)
    (motive := fun state => SameButStatus store state.store) h fun state h entry _ => ?_
  unfold admitNext
  cases admitConfigured settings state.store entry with
  | error refusal => exact h.refuse entry.object refusal
  | ok admitted => exact h

theorem sameButStatus_admitAll (settings : Settings) (store : Store) :
    SameButStatus store (admitAll settings store).store :=
  sameButStatus_foldl_admitNext settings.objects (.refl store)

theorem exists_pendsFor {pending : Pending} (h : pending ∈ (admitAll settings store).pending) :
    ∃ entry ∈ settings.objects, PendsFor settings store entry pending := by
  obtain ⟨i, hi, rfl⟩ := List.getElem_of_mem h
  obtain ⟨hlength, hall⟩ := List.forall₂_iff_get.mp (forall₂_admitAll settings store)
  have hmem := List.getElem_mem (hlength ▸ hi)
  exact ⟨_, (List.mem_filter.mp hmem).1, hall i (hlength ▸ hi) hi⟩

end

/-- Nothing is forgotten while entries are admitted, and what is pending was admitted. -/
structure Vouched (settings : Settings) (store : Store) (state : Admitted) : Prop where
  origin : ∀ key, originAt state.store key = originAt store key
  pending : ∀ pending ∈ state.pending,
    Admits settings store pending.key ⟨some pending.admitted, pending.endpoint⟩

theorem vouched_admitAll (settings : Settings) (store : Store) :
    Vouched settings store (admitAll settings store) where
  origin := (sameButStatus_admitAll settings store).origin
  pending pending hpending := by
    obtain ⟨entry, hentry, admitted, later, hverdict, -, rfl⟩ := exists_pendsFor hpending
    exact ⟨entry, hentry, admitted, rfl, hverdict, rfl⟩

/-! ## Rounds -/

/-- What every single outcome keeps, folding all outcomes keeps. -/
theorem settleAll_induct {α : Type} {settle : Store → α → ReconcileOutcome → Store × Report}
    {P : Store → Prop} {asked : List (α × ReconcileOutcome)} {store : Store} (hstart : P store)
    (hstep : ∀ store a outcome, (a, outcome) ∈ asked → P store → P (settle store a outcome).1) :
    P (settleAll settle store asked).1 := by
  induction asked generalizing store with
  | nil => exact hstart
  | cons first rest ih =>
      obtain ⟨a, outcome⟩ := first
      apply ih (hstep store a outcome List.mem_cons_self hstart)
      intro store b other hb
      exact hstep store b other (List.mem_cons_of_mem _ hb)

theorem originAt_apply (settings : Settings) (connector : Connector World) (store : Store)
    (world : World) (key : String) :
    let after := (apply settings connector store world).1.store
    originAt after key = originAt store key ∨ Admits settings store key (originAt after key) := by
  have hvouched := vouched_admitAll settings store
  refine settleAll_induct
    (P := fun after => originAt after key = originAt store key ∨
      Admits settings store key (originAt after key))
    (.inl (hvouched.origin key)) ?_
  intro current pending outcome hpending hcurrent
  simp only [settleApplied, originAt_put]
  split
  next hkey =>
    subst hkey
    exact .inr (hvouched.pending pending (List.of_mem_zip hpending).1)
  next => exact hcurrent

theorem mem_distinct {names : List String} {name : String} :
    name ∈ distinct names ↔ name ∈ names := by
  induction names with
  | nil => rfl
  | cons first names ih =>
      simp only [distinct, List.mem_cons, List.mem_filter, ih, bne_iff_ne]
      by_cases h : name = first <;> simp [h]

theorem mem_deleteRound_iff {settings : Settings} {store : Store} {names : List String}
    {request : ReconcileRequest} :
    request ∈ (deleteRound settings store names).requests ↔
      ∃ name ∈ names, ∃ entry ∈ deletionTargets settings store name,
        (deletionRequest settings store entry).2 = request := by
  simp only [deleteRound, List.mem_map, List.mem_flatMap, mem_distinct]
  constructor
  · rintro ⟨-, ⟨entry, ⟨name, hname, htarget⟩, rfl⟩, rfl⟩
    exact ⟨name, hname, entry, htarget, rfl⟩
  · rintro ⟨name, hname, entry, htarget, rfl⟩
    exact ⟨_, ⟨entry, ⟨name, hname, htarget⟩, rfl⟩, rfl⟩

/-- The keys of the objects that a round of `delete` finalizes. -/
def deletedKeys (settings : Settings) (store : Store) (names : List String) : List String :=
  (deleteRound settings store names).requests.map (Store.keyOf ·.object)

section

variable {settings : Settings} {store : Store}

/-- The requests of a deletion, each under its key. -/
def askedToDelete (settings : Settings) (store : Store) (names : List String) :
    List (String × ReconcileRequest) :=
  ((distinct names).flatMap (deletionTargets settings store)).map (deletionRequest settings store)

theorem decide_deletionRequest (settings : Settings) (store : Store) (entry : Entry) :
    (deletionRequest settings store entry).2.lifecycle.decide =
      if (store.recordAt (Store.keyOf entry.object)).hasMarker settings.runtime.finalizerName then
        .finalize entry.deleteInCluster
      else .released := by
  simp only [deletionRequest, Lifecycle.decide]
  split <;> simp_all

theorem decide_deletionRequest_ne (settings : Settings) (store : Store) (entry : Entry) :
    (deletionRequest settings store entry).2.lifecycle.decide ≠ .converge := by
  rw [decide_deletionRequest]
  split <;> exact nofun

/-- An outcome after which the record under a key has no marker. -/
def Releases (marker : String) (store : Store) (key : String) (outcome : ReconcileOutcome) : Prop :=
  outcome.marker = .remove ∨
    outcome.marker = .keep ∧ (store.recordAt key).hasMarker marker = false

theorem Releases.forget {marker : String} {key : String} {outcome : ReconcileOutcome}
    (h : Releases marker store key outcome) (other : String) :
    Releases marker (store.forget other) key outcome := by
  rcases h with hremove | ⟨hkeep, hnone⟩
  · exact .inl hremove
  refine .inr ⟨hkeep, ?_⟩
  rw [Store.recordAt_forget]
  split
  · rfl
  · exact hnone

theorem settleDeleted_of_releases {runtime : Runtime} {asked : String × ReconcileRequest}
    {outcome : ReconcileOutcome} (h : Releases runtime.finalizerName store asked.1 outcome) :
    (settleDeleted runtime store asked outcome).1 = store.forget asked.1 := by
  obtain ⟨key, request⟩ := asked
  have hreleased (status : Option Status) :
      ({ store.recordAt key with status }.mark outcome.marker runtime.finalizerName).hasMarker
        runtime.finalizerName = false := by
    rcases h with hremove | ⟨hkeep, hnone⟩
    · rw [hremove, ObjectRecord.hasMarker_mark_remove]
    · rw [hkeep]
      exact hnone
  simp only [settleDeleted, foldOutcome, hreleased, Bool.false_eq_true, if_false]

theorem get?_settleAll_deleted {runtime : Runtime}
    {asked : List ((String × ReconcileRequest) × ReconcileOutcome)}
    (h : ∀ item ∈ asked, Releases runtime.finalizerName store item.1.1 item.2) (key : String) :
    (settleAll (settleDeleted runtime) store asked).1.get? key =
      if key ∈ asked.map (·.1.1) then none else store.get? key := by
  induction asked generalizing store with
  | nil => rfl
  | cons first asked ih =>
      obtain ⟨hfirst, hrest⟩ := List.forall_mem_cons.mp h
      have hlater : ∀ item ∈ asked,
          Releases runtime.finalizerName (store.forget first.1.1) item.1.1 item.2 :=
        fun item hitem => (hrest item hitem).forget first.1.1
      have hforget : (store.forget first.1.1).get? key =
          if key = first.1.1 then none else store.get? key := Table.get?_erase ..
      simp only [settleAll]
      rw [settleDeleted_of_releases hfirst, ih hlater, hforget, List.map_cons]
      by_cases hkey : key = first.1.1
      · simp [hkey]
      · rw [if_neg hkey]
        simp only [List.mem_cons, hkey, false_or]

/-- Whatever the passes of a deletion come to, they release what they were asked for. -/
theorem releases_of_mem_zip {runtime : Runtime} {connector : Connector World} {world : World}
    {names : List String} {item : (String × ReconcileRequest) × ReconcileOutcome}
    (h : item ∈ (askedToDelete settings store names).zip
      (reconcileAll runtime connector ((askedToDelete settings store names).map Prod.snd)
        world).1) :
    Releases settings.runtime.finalizerName store item.1.1 item.2 ∧
      item.2.marker = item.1.2.lifecycle.decide.action := by
  have hmarker : item.2.marker = item.1.2.lifecycle.decide.action := marker_of_mem_zip_map h
  refine ⟨?_, hmarker⟩
  obtain ⟨entry, -, hentry⟩ := List.mem_map.mp (List.of_mem_zip h).1
  rw [Releases, hmarker, ← hentry, decide_deletionRequest]
  cases hpresent : (store.recordAt (Store.keyOf entry.object)).hasMarker
      settings.runtime.finalizerName with
  | false => exact .inr ⟨rfl, hpresent⟩
  | true => exact .inl rfl

theorem deletedKeys_eq (settings : Settings) (store : Store) (names : List String) :
    deletedKeys settings store names = (askedToDelete settings store names).map Prod.fst := by
  simp only [deletedKeys, deleteRound, askedToDelete, List.map_map]
  rfl

end

/-- A deletion forgets what it asks for, whatever the cluster answers, and nothing else. -/
theorem get?_delete (settings : Settings) (connector : Connector World) (store : Store)
    (names : List String) (world : World) (key : String) :
    (delete settings connector store names world).1.store.get? key =
      if key ∈ deletedKeys settings store names then none else store.get? key := by
  let asked := askedToDelete settings store names
  let outcomes := (reconcileAll settings.runtime connector (asked.map Prod.snd) world).1
  have hreleases : ∀ item ∈ asked.zip outcomes,
      Releases settings.runtime.finalizerName store item.1.1 item.2 :=
    fun item hitem => (releases_of_mem_zip hitem).1
  have hkeys : (asked.zip outcomes).map (·.1.1) = deletedKeys settings store names :=
    (map_zip_reconcileAll Prod.fst).trans (deletedKeys_eq ..).symm
  have hsettled := get?_settleAll_deleted hreleases key
  rw [hkeys] at hsettled
  exact hsettled

theorem recordAt_delete (settings : Settings) (connector : Connector World) (store : Store)
    (names : List String) (world : World) (key : String) :
    (delete settings connector store names world).1.store.recordAt key =
      if key ∈ deletedKeys settings store names then .blank else store.recordAt key := by
  rw [Store.recordAt, get?_delete]
  split <;> rfl

theorem originAt_delete (settings : Settings) (connector : Connector World) (store : Store)
    (names : List String) (world : World) (key : String) :
    let after := (delete settings connector store names world).1.store
    originAt after key = originAt store key ∨
      key ∈ deletedKeys settings store names ∧ originAt after key = ⟨none, none⟩ := by
  simp only [originAt, recordAt_delete]
  split
  next hdeleted => exact .inr ⟨hdeleted, rfl⟩
  next => exact .inl rfl

/-! ## Runs -/

inductive Turn where
  | apply (settings : Settings)
  | delete (settings : Settings) (names : List String)

namespace Turn

def settings : Turn → Settings
  | .apply settings | .delete settings _ => settings

def run (connector : Connector World) : Turn → Store × World → Store × World
  | .apply settings, (store, world) =>
      let (result, world) := Rounds.apply settings connector store world
      (result.store, world)
  | .delete settings names, (store, world) =>
      let (result, world) := Rounds.delete settings connector store names world
      (result.store, world)

def deletedKeys (store : Store) : Turn → List String
  | .apply _ => []
  | .delete settings names => Rounds.deletedKeys settings store names

def Admits (store : Store) (key : String) (origin : Origin) : Turn → Prop
  | .apply settings => Rounds.Admits settings store key origin
  | .delete _ _ => False

theorem originAt_run (connector : Connector World) (turn : Turn) (state : Store × World)
    (key : String) :
    let after := (turn.run connector state).1
    originAt after key = originAt state.1 key ∨
      key ∈ turn.deletedKeys state.1 ∧ originAt after key = ⟨none, none⟩ ∨
      turn.Admits state.1 key (originAt after key) := by
  obtain ⟨store, world⟩ := state
  cases turn with
  | apply settings =>
      rcases originAt_apply settings connector store world key with hkept | hadmitted
      · exact .inl hkept
      · exact .inr (.inr hadmitted)
  | delete settings names =>
      rcases originAt_delete settings connector store names world key with hkept | hdropped
      · exact .inl hkept
      · exact .inr (.inl hdropped)

end Turn

def runTurns (connector : Connector World) (turns : List Turn) (state : Store × World) :
    Store × World :=
  turns.foldl (fun state turn => turn.run connector state) state

@[simp] theorem runTurns_append (connector : Connector World) (turns more : List Turn)
    (state : Store × World) :
    runTurns connector (turns ++ more) state =
      runTurns connector more (runTurns connector turns state) :=
  List.foldl_append

/-- What every turn keeps, a run keeps. -/
theorem runTurns_induct {connector : Connector World} {P : Store × World → Prop}
    (hstep : ∀ (turn : Turn) state, P state → P (turn.run connector state)) {state : Store × World}
    (hstart : P state) (turns : List Turn) : P (runTurns connector turns state) :=
  List.foldlRecOn turns _ hstart fun state h turn _ => hstep turn state h

/-- No turn of a row finalizes the object under a key. -/
def Spares (connector : Connector World) (key : String) : List Turn → Store × World → Prop
  | [], _ => True
  | turn :: turns, state =>
      key ∉ turn.deletedKeys state.1 ∧ Spares connector key turns (turn.run connector state)

theorem spares_append {connector : Connector World} {key : String} {turns more : List Turn}
    {state : Store × World} :
    Spares connector key (turns ++ more) state ↔
      Spares connector key turns state ∧
        Spares connector key more (runTurns connector turns state) := by
  induction turns generalizing state with
  | nil => exact (and_iff_right trivial).symm
  | cons turn turns ih => rw [List.cons_append, Spares, Spares, ih, and_assoc]; rfl

/--
What is remembered was taken from an entry that some turn admitted, and has been
on record ever since.
-/
theorem exists_admits_of_origin (connector : Connector World) (world : World)
    (turns : List Turn) (key : String) :
    let start := (Store.empty, world)
    let origin := originAt (runTurns connector turns start).1 key
    origin = ⟨none, none⟩ ∨
      ∃ before settings after, turns = before ++ .apply settings :: after ∧
        Admits settings (runTurns connector before start).1 key origin ∧
        ∀ later, later <+: after →
          originAt (runTurns connector (before ++ .apply settings :: later) start).1 key =
            origin := by
  intro start origin
  induction turns using List.reverseRecOn with
  | nil => exact .inl rfl
  | append_singleton turns turn ih =>
      have hrun : runTurns connector (turns ++ [turn]) start =
          turn.run connector (runTurns connector turns start) := runTurns_append ..
      have hstep := turn.originAt_run connector (runTurns connector turns start) key
      rcases hstep with hkept | ⟨-, hdropped⟩ | hadmitted
      · rcases ih with hblank | ⟨before, settings, after, hturns, hadmits, hsince⟩
        · exact .inl (by rw [← hblank, ← hkept, ← hrun])
        · refine .inr ⟨before, settings, after ++ [turn], by simp [hturns], ?_, ?_⟩
          · rw [← hkept, ← hrun] at hadmits
            exact hadmits
          · intro later hlater
            rcases List.prefix_concat_iff.mp hlater with rfl | hearlier
            · rw [show before ++ .apply settings :: (after ++ [turn]) = turns ++ [turn] by
                simp [hturns]]
            · rw [hsince later hearlier, ← hkept, ← hrun]
      · exact .inl (by rw [← hdropped, ← hrun])
      · cases turn with
        | delete settings names => exact hadmitted.elim
        | apply settings =>
            refine .inr ⟨turns, settings, [], rfl, ?_, ?_⟩
            · rw [← hrun] at hadmitted
              exact hadmitted
            · intro later hlater
              rw [List.prefix_nil.mp hlater]

end Rounds

end SchemaKeeper
