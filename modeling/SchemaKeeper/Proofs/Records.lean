import SchemaKeeper.Proofs.Endpoint
import SchemaKeeper.Proofs.Reconciliation

/-!
# Sound records

As long as all rounds use one marker, a record has that marker or none, and it
has the marker exactly when it remembers an entry.  What it remembers was
admitted under its own key, so its kind and name are those of the key, and what
was admitted once is held against what is admitted next: the shards of an index
stay until it is deleted.
-/

namespace SchemaKeeper

/-- An entry that passes its own checks and stands under its own key. -/
structure Entry.Sound (key : String) (entry : Entry) : Prop where
  key : Store.keyOf entry.object = key
  valid : Admission.validateCreate entry.object = .ok ()
  counts : entry.object.TellsCounts

namespace ObjectRecord

structure Sound (marker key : String) (record : ObjectRecord) : Prop where
  markers : record.markers = [] ∨ record.markers = [marker]
  applied : record.applied.isSome = true ↔ marker ∈ record.markers
  entry : ∀ entry, record.applied = some entry → entry.Sound key
  endpoint : ∀ c, record.endpoint = some c → record.applied.isSome = true ∧ c.password = none

theorem sound_blank (marker key : String) : blank.Sound marker key where
  markers := .inl rfl
  applied := by simp [blank]
  entry := nofun
  endpoint := nofun

variable {marker key : String} {record : ObjectRecord}

theorem hasMarker_iff : record.hasMarker marker = true ↔ marker ∈ record.markers :=
  List.contains_iff_mem

theorem Sound.markers_eq (h : record.Sound marker key) (hmarker : marker ∈ record.markers) :
    record.markers = [marker] := by
  rcases h.markers with hnone | hone
  · rw [hnone] at hmarker
    cases hmarker
  · exact hone

theorem Sound.withStatus (h : record.Sound marker key) (status : Option Status) :
    { record with status }.Sound marker key :=
  ⟨h.markers, h.applied, h.entry, h.endpoint⟩

theorem Sound.markers_mark_add (h : record.Sound marker key) :
    (record.mark .add marker).markers = [marker] := by
  rcases h.markers with hnone | hone
  · simp [mark, hasMarker, hnone]
  · simp [mark, hasMarker, hone]

end ObjectRecord

def Store.Sound (marker : String) (store : Store) : Prop :=
  ∀ key, (store.recordAt key).Sound marker key

namespace Store

variable {marker : String} {store : Store}

theorem sound_empty (marker : String) : empty.Sound marker :=
  fun key => ObjectRecord.sound_blank marker key

theorem Sound.put (h : store.Sound marker) {key : String} {record : ObjectRecord}
    (hrecord : record.Sound marker key) : (store.put key record).Sound marker := by
  intro k
  rw [recordAt_put]
  split
  next hkey =>
    subst hkey
    exact hrecord
  next => exact h k

end Store

namespace Rounds

variable {World : Type} {settings : Settings} {store : Store} {marker : String}

/-! ## What is admitted -/

theorem keyOf_admitted {entry admitted : Entry} {connection : Option Connection}
    {stored : Option ObjectRecord} (h : admitEntry entry connection stored = .ok admitted) :
    Store.keyOf admitted.object = Store.keyOf entry.object := by
  rw [(model_of_admitEntry h).1]
  simp [Store.keyOf]

theorem sound_of_admitEntry {entry admitted : Entry} {connection : Option Connection}
    {stored : Option ObjectRecord} (h : admitEntry entry connection stored = .ok admitted) :
    admitted.Sound (Store.keyOf entry.object) where
  key := keyOf_admitted h
  valid := by
    rw [Admission.validateCreate, createComplaints_of_admitEntry h]
    rfl
  counts := (model_of_admitEntry h).2

theorem sound_of_admits {key : String} {origin : Origin} (h : Admits settings store key origin)
    {record : ObjectRecord} (hrecord : originOf record = origin)
    (hmarkers : record.markers = [marker]) : record.Sound marker key := by
  obtain ⟨entry, -, admitted, rfl, hverdict, rfl⟩ := h
  have happlied : record.applied = some admitted := congrArg Origin.applied hrecord
  have hendpoint : record.endpoint = (originFrom settings entry admitted).endpoint :=
    congrArg Origin.endpoint hrecord
  refine ⟨.inr hmarkers, by simp [happlied, hmarkers], ?_, ?_⟩
  · intro other hother
    obtain rfl := Option.some.inj (happlied.symm.trans hother)
    exact sound_of_admitEntry hverdict
  · intro c hc
    obtain ⟨d, -, rfl⟩ := endpoint_originFrom_eq_some (hendpoint.symm.trans hc)
    exact ⟨by simp [happlied], rfl⟩

/-! ## Apply -/

/-- While entries are admitted no marker changes, and what is pending knows its marker. -/
structure Prepared (settings : Settings) (store : Store) (state : Admitted) : Prop where
  sound : state.store.Sound settings.runtime.finalizerName
  markers : ∀ key, (state.store.recordAt key).markers = (store.recordAt key).markers
  pending : ∀ pending ∈ state.pending, ∃ deleteInCluster, pending.request.lifecycle =
    ⟨false, (store.recordAt pending.key).hasMarker settings.runtime.finalizerName, deleteInCluster⟩

theorem prepared_admitAll (h : store.Sound settings.runtime.finalizerName) :
    Prepared settings store (admitAll settings store) where
  sound := by
    have start : (Admitted.mk store [] []).store.Sound settings.runtime.finalizerName := h
    refine List.foldlRecOn settings.objects (admitNext settings)
      (motive := fun state => state.store.Sound settings.runtime.finalizerName) start
      fun state hstate entry _ => ?_
    unfold admitNext
    cases admitConfigured settings state.store entry with
    | error refusal => exact hstate.put ((hstate (Store.keyOf entry.object)).withStatus _)
    | ok admitted => exact hstate
  markers := (sameButStatus_admitAll settings store).markers
  pending pending hpending := by
    obtain ⟨entry, -, hpends⟩ := exists_pendsFor hpending
    exact ⟨_, hpends.lifecycle⟩

/-- An object is registered when it has no marker yet, and keeps the one it has. -/
theorem markers_settled {record : ObjectRecord} {key : String} (h : record.Sound marker key)
    {present : Bool} (hpresent : present = true → marker ∈ record.markers)
    {outcome : ReconcileOutcome} {deleteInCluster : Bool}
    (houtcome : outcome.marker = (Lifecycle.decide ⟨false, present, deleteInCluster⟩).action)
    (status : Option Status) :
    ({ record with status }.mark outcome.marker marker).markers = [marker] := by
  rw [houtcome]
  cases present with
  | false => exact (h.withStatus status).markers_mark_add
  | true => exact h.markers_eq (hpresent rfl)

theorem sound_apply (settings : Settings) (connector : Connector World) {store : Store}
    (world : World) (h : store.Sound settings.runtime.finalizerName) :
    (apply settings connector store world).1.store.Sound settings.runtime.finalizerName := by
  have hprepared := prepared_admitAll h
  have hvouched := vouched_admitAll settings store
  refine (settleAll_induct
    (P := fun after => after.Sound settings.runtime.finalizerName ∧
      ∀ key, settings.runtime.finalizerName ∈ (store.recordAt key).markers →
        settings.runtime.finalizerName ∈ (after.recordAt key).markers)
    ⟨hprepared.sound, fun key hkey => by rwa [hprepared.markers key]⟩ ?_).1
  rintro current pending outcome hpending ⟨hsound, hkept⟩
  have hmem := (List.of_mem_zip hpending).1
  obtain ⟨deleteInCluster, hlifecycle⟩ := hprepared.pending pending hmem
  have houtcome : outcome.marker = pending.request.lifecycle.decide.action :=
    marker_of_mem_zip_map hpending
  rw [hlifecycle] at houtcome
  have hmarkers := markers_settled (hsound pending.key)
    (fun hpresent => hkept pending.key (ObjectRecord.hasMarker_iff.mp hpresent)) houtcome
    (outcome.status <|> (current.recordAt pending.key).status)
  constructor
  · exact hsound.put (sound_of_admits (hvouched.pending pending hmem) rfl hmarkers)
  · intro key hkey
    simp only [settleApplied, Store.recordAt_put]
    split
    next => exact hmarkers ▸ List.mem_singleton_self _
    next => exact hkept key hkey

/-! ## Delete -/

theorem sound_delete (settings : Settings) (connector : Connector World) {store : Store}
    (names : List String) (world : World) (h : store.Sound marker) :
    (delete settings connector store names world).1.store.Sound marker := by
  intro key
  rw [recordAt_delete]
  split
  · exact ObjectRecord.sound_blank marker key
  · exact h key

/-! ## Runs -/

theorem sound_run (connector : Connector World) (turn : Turn) {state : Store × World}
    (h : state.1.Sound turn.settings.runtime.finalizerName) :
    (turn.run connector state).1.Sound turn.settings.runtime.finalizerName := by
  cases turn with
  | apply settings => exact sound_apply settings connector state.2 h
  | delete settings names => exact sound_delete settings connector names state.2 h

theorem sound_runTurns (connector : Connector World) (world : World) {turns : List Turn}
    (hmarker : ∀ turn ∈ turns, turn.settings.runtime.finalizerName = marker) :
    (runTurns connector turns (.empty, world)).1.Sound marker := by
  refine List.foldlRecOn turns _ (motive := fun state : Store × World => state.1.Sound marker)
    (Store.sound_empty marker) fun state h turn hturn => ?_
  obtain rfl := hmarker turn hturn
  exact sound_run connector turn h

/-! ## The shards of an index -/

/-- An index of a number of shards is on record under its own key. -/
def HasShards (key : String) (shards : UInt32) (origin : Origin) : Prop :=
  ∃ entry spec, origin.applied = some entry ∧ entry.object = .index spec ∧
    Store.keyOf entry.object = key ∧ spec.counts.shards = shards

theorem hasShards_of_admits {key : String} {shards : UInt32} {origin : Origin}
    (h : HasShards key shards (originAt store key)) (hadmits : Admits settings store key origin) :
    HasShards key shards origin := by
  obtain ⟨previous, spec, happlied, hindex, hkey, rfl⟩ := h
  obtain ⟨entry, -, admitted, rfl, hverdict, rfl⟩ := hadmits
  have hadmitted := keyOf_admitted hverdict
  -- the key tells the kind, so the entry on record is followed by an index
  have hkind : admitted.object.kind = .index := by
    have hsame := (Store.key_inj (hadmitted.trans hkey.symm)).1
    rw [hsame, hindex]
    rfl
  obtain ⟨next, hnext⟩ : ∃ next, admitted.object = .index next := by
    cases hobject : admitted.object with
    | index next => exact ⟨next, rfl⟩
    | template | pipeline =>
        rw [hobject] at hkind
        cases hkind
  refine ⟨admitted, next, rfl, hnext, hadmitted, ?_⟩
  rw [admitConfigured_eq, happlied] at hverdict
  have hcauses := (admitEntry_eq_ok_iff.mp hverdict).2.2
  simp only [complaints, Option.bind_some, Admission.updateComplaints,
    List.append_eq_nil_iff, hindex, hnext, Admission.shardComplaints] at hcauses
  by_contra hne
  simp [Ne.symm hne] at hcauses

theorem hasShards_runTurns (connector : Connector World) {key : String} {shards : UInt32}
    {turns : List Turn} {state : Store × World} (h : HasShards key shards (originAt state.1 key))
    (hspared : Spares connector key turns state) :
    HasShards key shards (originAt (runTurns connector turns state).1 key) := by
  induction turns generalizing state with
  | nil => exact h
  | cons turn turns ih =>
      refine ih ?_ hspared.2
      rcases turn.originAt_run connector state key with hkept | ⟨hdeleted, -⟩ | hadmitted
      · rw [hkept]
        exact h
      · exact absurd hdeleted hspared.1
      · cases turn with
        | apply settings => exact hasShards_of_admits h hadmitted
        | delete settings names => exact hadmitted.elim

/--
Every record of a run is sound.  The shards of an index on record stay whatever
turns follow, as long as none of them deletes it.
-/
theorem records_sound (connector : Connector World) (world : World) (turns : List Turn)
    (marker key : String) (record : ObjectRecord)
    (hmarker : ∀ turn ∈ turns, turn.settings.runtime.finalizerName = marker) :
    let state := runTurns connector turns (.empty, world)
    state.1.get? key = some record →
    record.Sound marker key ∧
      ∀ entry spec more, record.applied = some entry → entry.object = .index spec →
        Spares connector key more state →
        ∃ later next, ((runTurns connector more state).1.recordAt key).applied = some later ∧
          later.object = .index next ∧ next.counts.shards = spec.counts.shards := by
  intro state hrecord
  have hat : state.1.recordAt key = record := Store.recordAt_of_get? hrecord
  have hsound : record.Sound marker key := hat ▸ sound_runTurns connector world hmarker key
  refine ⟨hsound, fun entry spec more happlied hindex hspared => ?_⟩
  have hshards : HasShards key spec.counts.shards (originAt state.1 key) := by
    refine ⟨entry, spec, ?_, hindex, (hsound.entry entry happlied).key, rfl⟩
    rw [originAt, hat]
    exact happlied
  obtain ⟨later, next, hlater, hnext, -, hkept⟩ := hasShards_runTurns connector hshards hspared
  exact ⟨later, next, hlater, hnext, hkept⟩

def registeredOrders : IndexSpec :=
  ⟨"orders", "main", ⟨3, 1⟩,
    "\x7b\"mappings\":\x7b\"properties\":\x7b\"id\":\x7b\"type\":\"keyword\"\x7d\x7d\x7d," ++
      "\"settings\":\x7b\"number_of_replicas\":1,\"number_of_shards\":3\x7d\x7d"⟩

def ordersRecord : ObjectRecord :=
  ⟨none, ["finalizer.elastic.essx.io"], some ⟨.index registeredOrders, true⟩, some oldCluster⟩

/-- Neither a reference that leads nowhere nor a move changes the shards of an index. -/
theorem ordersRecord_sound :
    settled.1.get? "Index/orders" = some ordersRecord ∧
      ordersRecord.Sound "finalizer.elastic.essx.io" "Index/orders" ∧
      ∃ later next,
        ((runTurns Memory.connector movingTurns settled).1.recordAt "Index/orders").applied =
          some later ∧
        later.object = .index next ∧ next.counts.shards = 3 := by
  have hrecord : settled.1.get? "Index/orders" = some ordersRecord := by decide +kernel
  have hmarker : ∀ turn ∈ [Turn.apply (ordersWith "main" "http://old.cluster:9200")],
      turn.settings.runtime.finalizerName = "finalizer.elastic.essx.io" := by
    simp [Turn.settings, ordersWith, Settings.standard, Runtime.standard]
  obtain ⟨hsound, hshards⟩ := records_sound Memory.connector (Memory.ofCluster .empty) _
    "finalizer.elastic.essx.io" "Index/orders" ordersRecord hmarker hrecord
  exact ⟨hrecord, hsound, hshards _ registeredOrders movingTurns rfl rfl spares_movingTurns⟩

end Rounds

end SchemaKeeper
