import SchemaKeeper.Proofs.Deletion

/-!
# Where markers come from

A marker comes onto a record when a turn admits the object under it, and it goes
with the record when a turn deletes the object, whatever marker that turn looks
for.  So the markers on record are those of the turns that admitted the object
since it was deleted last.  A deletion takes its own marker off: a record with
another one is forgotten with that marker still on.
-/

namespace SchemaKeeper

namespace ObjectRecord

theorem mem_markers_mark_add {record : ObjectRecord} {m marker : String} :
    m ∈ (record.mark .add marker).markers ↔ m ∈ record.markers ∨ m = marker := by
  simp only [mark]
  split
  next hmarker =>
    have hmem : marker ∈ record.markers := hasMarker_iff.mp hmarker
    exact ⟨.inl, fun h => h.elim id fun heq => heq ▸ hmem⟩
  next => simp

/-- The marker of a pass that deletes is off after it. -/
theorem markers_mark_of_deletion (record : ObjectRecord) (marker : String) :
    (record.mark (if record.hasMarker marker then .remove else .keep) marker).markers =
      record.markers.filter (· != marker) := by
  split
  next => rfl
  next hnone =>
    refine (List.filter_eq_self.mpr fun m hm => ?_).symm
    have hne : m ≠ marker := fun heq => hnone (hasMarker_iff.mpr (heq ▸ hm))
    simpa using hne

end ObjectRecord

namespace Rounds

/-- The key of the object that a report is about. -/
def Report.key (report : Report) : String :=
  Store.key report.kind report.name

variable {World : Type} {settings : Settings} {store : Store} {m key : String}

/-! ## Apply -/

theorem mem_keys_applyRound_iff :
    key ∈ (applyRound settings store).keys ↔ ∃ origin, Admits settings store key origin := by
  rw [keys_applyRound, List.mem_map]
  constructor
  · rintro ⟨entry, hentry, rfl⟩
    obtain ⟨hmem, hadmitted⟩ := List.mem_filter.mp hentry
    obtain ⟨admitted, hverdict⟩ := isAdmitted_iff.mp hadmitted
    exact ⟨_, entry, hmem, admitted, rfl, hverdict, rfl⟩
  · rintro ⟨-, entry, hentry, admitted, rfl, hverdict, rfl⟩
    exact ⟨entry, List.mem_filter.mpr ⟨hentry, isAdmitted_iff.mpr ⟨admitted, hverdict⟩⟩, rfl⟩

/-- An outcome after which a record has a marker: it is added, or kept where it is. -/
def Secures (marker : String) (store : Store) (key : String) (outcome : ReconcileOutcome) : Prop :=
  outcome.marker = .add ∨ outcome.marker = .keep ∧ marker ∈ (store.recordAt key).markers

theorem mem_markers_settleApplied {runtime : Runtime} {pending : Pending}
    {outcome : ReconcileOutcome}
    (h : Secures runtime.finalizerName store pending.key outcome) :
    m ∈ ((settleApplied runtime store pending outcome).1.recordAt key).markers ↔
      m ∈ (store.recordAt key).markers ∨ m = runtime.finalizerName ∧ key = pending.key := by
  simp only [settleApplied, foldOutcome, Store.recordAt_put]
  by_cases hkey : key = pending.key
  · subst hkey
    rw [if_pos rfl]
    rcases h with hadd | ⟨hkeep, hmarker⟩
    · rw [hadd]
      simpa using ObjectRecord.mem_markers_mark_add
    · rw [hkeep]
      exact ⟨.inl, fun h => h.elim id fun heq => heq.1 ▸ hmarker⟩
  · rw [if_neg hkey]
    simp [hkey]

theorem mem_markers_settleAll {runtime : Runtime} {items : List (Pending × ReconcileOutcome)}
    (h : ∀ item ∈ items, Secures runtime.finalizerName store item.1.key item.2) :
    m ∈ ((settleAll (settleApplied runtime) store items).1.recordAt key).markers ↔
      m ∈ (store.recordAt key).markers ∨
        m = runtime.finalizerName ∧ key ∈ items.map (·.1.key) := by
  induction items generalizing store with
  | nil => simp [settleAll]
  | cons first items ih =>
      obtain ⟨hfirst, hrest⟩ := List.forall_mem_cons.mp h
      -- what was kept before is still there: no outcome of an apply takes a marker off
      have hlater : ∀ item ∈ items, Secures runtime.finalizerName
          (settleApplied runtime store first.1 first.2).1 item.1.key item.2 := by
        intro item hitem
        rcases hrest item hitem with hadd | ⟨hkeep, hmarker⟩
        · exact .inl hadd
        · exact .inr ⟨hkeep, (mem_markers_settleApplied hfirst).mpr (.inl hmarker)⟩
      simp only [settleAll]
      rw [ih hlater, mem_markers_settleApplied hfirst]
      simp only [List.map_cons, List.mem_cons, or_assoc, ← and_or_left]

/-- What an apply does to markers: it puts its own on every object that it admits. -/
theorem mem_markers_apply (settings : Settings) (connector : Connector World) (store : Store)
    (world : World) :
    m ∈ ((apply settings connector store world).1.store.recordAt key).markers ↔
      m ∈ (store.recordAt key).markers ∨
        m = settings.runtime.finalizerName ∧ ∃ origin, Admits settings store key origin := by
  let pending := (admitAll settings store).pending
  let outcomes :=
    (reconcileAll settings.runtime connector (pending.map Pending.request) world).1
  have hsame := sameButStatus_admitAll settings store
  have hsecures : ∀ item ∈ pending.zip outcomes, Secures settings.runtime.finalizerName
      (admitAll settings store).store item.1.key item.2 := by
    intro item hitem
    obtain ⟨entry, -, hpends⟩ := exists_pendsFor (List.of_mem_zip hitem).1
    have houtcome := marker_of_mem_zip_map hitem
    rw [hpends.lifecycle] at houtcome
    rw [Secures, hsame.markers, houtcome]
    cases hmarker : (store.recordAt item.1.key).hasMarker settings.runtime.finalizerName with
    | false => exact .inl rfl
    | true => exact .inr ⟨rfl, ObjectRecord.hasMarker_iff.mp hmarker⟩
  have hkeys : (pending.zip outcomes).map (·.1.key) = (applyRound settings store).keys := by
    refine (map_zip_reconcileAll Pending.key).trans ?_
    rw [Round.keys, applyRound, List.map_map]
    refine List.map_congr_left fun item hitem => ?_
    obtain ⟨entry, -, hpends⟩ := exists_pendsFor hitem
    exact hpends.own.symm
  rw [← mem_keys_applyRound_iff, ← hkeys, ← hsame.markers]
  exact mem_markers_settleAll hsecures

/-! ## Turns and runs -/

theorem mem_markers_delete (settings : Settings) (connector : Connector World) (store : Store)
    (names : List String) (world : World) :
    m ∈ ((delete settings connector store names world).1.store.recordAt key).markers ↔
      m ∈ (store.recordAt key).markers ∧ key ∉ deletedKeys settings store names := by
  rw [recordAt_delete]
  split
  next hdeleted => simp [hdeleted, ObjectRecord.blank]
  next hspared => exact (and_iff_left hspared).symm

theorem mem_markers_run (connector : Connector World) (turn : Turn) (state : Store × World) :
    m ∈ ((turn.run connector state).1.recordAt key).markers ↔
      m ∈ (state.1.recordAt key).markers ∧ key ∉ turn.deletedKeys state.1 ∨
        turn.settings.runtime.finalizerName = m ∧ ∃ origin, turn.Admits state.1 key origin := by
  cases turn with
  | apply settings =>
      refine (mem_markers_apply settings connector state.1 state.2).trans ?_
      simp [Turn.deletedKeys, Turn.settings, Turn.Admits, eq_comm]
  | delete settings names =>
      refine (mem_markers_delete settings connector state.1 names state.2).trans ?_
      simp [Turn.deletedKeys, Turn.Admits]

/-- A turn of a run admitted the object under a marker, and none has deleted it since. -/
def Marked (connector : Connector World) (world : World) (turns : List Turn) (key m : String) :
    Prop :=
  ∃ before turn after, turns = before ++ turn :: after ∧
    turn.settings.runtime.finalizerName = m ∧
    (∃ origin, turn.Admits (runTurns connector before (.empty, world)).1 key origin) ∧
    Spares connector key after (runTurns connector (before ++ [turn]) (.empty, world))

theorem not_marked_nil {connector : Connector World} {world : World} :
    ¬Marked connector world [] key m := by
  rintro ⟨before, turn, after, hturns, -⟩
  simp at hturns

theorem marked_append_singleton {connector : Connector World} {world : World}
    {turns : List Turn} {last : Turn} :
    Marked connector world (turns ++ [last]) key m ↔
      Marked connector world turns key m ∧
          key ∉ last.deletedKeys (runTurns connector turns (.empty, world)).1 ∨
        last.settings.runtime.finalizerName = m ∧
          ∃ origin, last.Admits (runTurns connector turns (.empty, world)).1 key origin := by
  constructor
  · rintro ⟨before, turn, after, hturns, hmarker, hadmits, hspared⟩
    -- either the last turn admitted the object, or one before it did and the last spares it
    rcases List.eq_nil_or_concat after with rfl | ⟨earlier, final, rfl⟩
    · obtain ⟨rfl, hlast⟩ := List.append_inj' hturns rfl
      obtain rfl := List.singleton_inj.mp hlast
      exact .inr ⟨hmarker, hadmits⟩
    · rw [List.concat_eq_append, ← List.cons_append, ← List.append_assoc] at hturns
      obtain ⟨rfl, hlast⟩ := List.append_inj' hturns rfl
      obtain rfl := List.singleton_inj.mp hlast
      rw [List.concat_eq_append, spares_append, ← runTurns_append] at hspared
      refine .inl ⟨⟨before, turn, earlier, rfl, hmarker, hadmits, hspared.1⟩, ?_⟩
      have hfinal := hspared.2.1
      rwa [List.append_assoc, List.singleton_append] at hfinal
  · rintro (⟨⟨before, turn, after, rfl, hmarker, hadmits, hspared⟩, hlast⟩ | ⟨hmarker, hadmits⟩)
    · refine ⟨before, turn, after ++ [last], by simp, hmarker, hadmits, ?_⟩
      rw [spares_append, ← runTurns_append, List.append_assoc, List.singleton_append]
      exact ⟨hspared, hlast, trivial⟩
    · exact ⟨turns, last, [], rfl, hmarker, hadmits, trivial⟩

/-- The markers on record are those of the turns that admitted the object since its deletion. -/
theorem mem_markers_runTurns (connector : Connector World) (world : World) (turns : List Turn) :
    m ∈ ((runTurns connector turns (.empty, world)).1.recordAt key).markers ↔
      Marked connector world turns key m := by
  induction turns using List.reverseRecOn with
  | nil => exact iff_of_false List.not_mem_nil not_marked_nil
  | append_singleton turns turn ih =>
      rw [runTurns_append, marked_append_singleton, ← ih]
      exact mem_markers_run connector turn (runTurns connector turns (.empty, world))

/-! ## Reports of a deletion -/

theorem map_reports_settleAll {runtime : Runtime}
    {items : List ((String × ReconcileRequest) × ReconcileOutcome)} :
    ((settleAll (settleDeleted runtime) store items).2.map
        fun report => (report.key, report.marker)) =
      items.map fun item => (Store.keyOf item.1.2.object, item.2.marker) := by
  induction items generalizing store with
  | nil => rfl
  | cons first items ih => exact congrArg _ ih

theorem map_reports_delete (settings : Settings) (connector : Connector World) (store : Store)
    (names : List String) (world : World) :
    ((delete settings connector store names world).1.reports.map
        fun report => (report.key, report.marker)) =
      (deletedKeys settings store names).map fun key =>
        (key, if (store.recordAt key).hasMarker settings.runtime.finalizerName then .remove
          else .keep) := by
  let asked := askedToDelete settings store names
  let outcomes := (reconcileAll settings.runtime connector (asked.map Prod.snd) world).1
  have hreports : ((delete settings connector store names world).1.reports.map
      fun report => (report.key, report.marker)) =
      (asked.zip outcomes).map fun item => (Store.keyOf item.1.2.object, item.2.marker) :=
    map_reports_settleAll
  have hkeys : deletedKeys settings store names = (asked.zip outcomes).map (·.1.1) :=
    (deletedKeys_eq ..).trans (map_zip_reconcileAll Prod.fst).symm
  rw [hreports, hkeys, List.map_map]
  refine List.map_congr_left fun item hitem => ?_
  obtain ⟨entry, -, hentry⟩ := List.mem_map.mp (List.of_mem_zip hitem).1
  have hmarker := (releases_of_mem_zip hitem).2
  rw [← hentry, decide_deletionRequest] at hmarker
  simp only [Function.comp, ← hentry, hmarker, apply_ite Lifecycle.Decision.action]
  rfl

/-! ## Forgetting -/

theorem exists_report_of_mem_deletedKeys (connector : Connector World) (world : World)
    {names : List String} (h : key ∈ deletedKeys settings store names) :
    ∃ report ∈ (delete settings connector store names world).1.reports, report.key = key := by
  have hmem := List.mem_map_of_mem (f := fun key => (key,
    if (store.recordAt key).hasMarker settings.runtime.finalizerName then MarkerAction.remove
    else .keep)) h
  rw [← map_reports_delete settings connector store names world] at hmem
  obtain ⟨report, hreport, hsame⟩ := List.mem_map.mp hmem
  exact ⟨report, hreport, congrArg Prod.fst hsame⟩

theorem marker_of_mem_reports {connector : Connector World} {names : List String} {world : World}
    {report : Report}
    (h : report ∈ (delete settings connector store names world).1.reports) :
    report.marker =
      if (store.recordAt report.key).hasMarker settings.runtime.finalizerName then .remove
      else .keep := by
  have hmem := List.mem_map_of_mem (f := fun report : Report => (report.key, report.marker)) h
  rw [map_reports_delete] at hmem
  obtain ⟨key, -, hsame⟩ := List.mem_map.mp hmem
  obtain ⟨hkey, hmarker⟩ := Prod.ext_iff.mp hsame
  exact hmarker.symm.trans (by rw [show key = report.key from hkey])

/--
What a deletion forgets is left without a marker exactly when all turns that
admitted the object, since it was deleted last, put on the marker that this
deletion takes off.
-/
theorem forgotten_unmarked_iff (connector : Connector World) (world : World) (turns : List Turn)
    (settings : Settings) (names : List String) (key : String) (record : ObjectRecord) :
    let state := runTurns connector turns (.empty, world)
    let result := (delete settings connector state.1 names state.2).1
    state.1.get? key = some record → result.store.get? key = none →
    (∃ report ∈ result.reports, report.key = key) ∧
      ∀ report ∈ result.reports, report.key = key →
        ((record.mark report.marker settings.runtime.finalizerName).markers = [] ↔
          ∀ m, Marked connector world turns key m → m = settings.runtime.finalizerName) := by
  intro state result hrecord hgone
  have hdeleted : key ∈ deletedKeys settings state.1 names := by
    by_contra hspared
    rw [get?_delete, if_neg hspared, hrecord] at hgone
    cases hgone
  have hreported := exists_report_of_mem_deletedKeys connector state.2 hdeleted
  refine ⟨hreported, fun report hreport hkey => ?_⟩
  subst hkey
  have hat : state.1.recordAt report.key = record := Store.recordAt_of_get? hrecord
  rw [marker_of_mem_reports hreport, hat, ObjectRecord.markers_mark_of_deletion,
    List.filter_eq_nil_iff]
  simp only [← mem_markers_runTurns, ← hat, bne_iff_ne, ne_eq, not_not, state]

theorem finalizerName_of_marked {connector : Connector World} {world : World} {turns : List Turn}
    (h : Marked connector world turns key m) :
    ∃ turn ∈ turns, turn.settings.runtime.finalizerName = m := by
  obtain ⟨before, turn, after, rfl, hmarker, -⟩ := h
  exact ⟨turn, by simp, hmarker⟩

/-- Under one marker an index is forgotten without it. -/
theorem orders_forgotten_unmarked :
    let settings := ordersWith "main" "http://old.cluster:9200"
    let state := runTurns Memory.connector [.apply settings] (.empty, .ofCluster .empty)
    let result := (delete settings Memory.connector state.1 ["orders"] state.2).1
    state.1.get? "Index/orders" = some ordersRecord ∧
      result.store.get? "Index/orders" = none ∧
      ∃ report ∈ result.reports, report.key = "Index/orders" ∧
        (ordersRecord.mark report.marker settings.runtime.finalizerName).markers = [] := by
  have hforgotten := forgotten_unmarked_iff Memory.connector (.ofCluster .empty)
    [.apply (ordersWith "main" "http://old.cluster:9200")]
    (ordersWith "main" "http://old.cluster:9200") ["orders"] "Index/orders" ordersRecord
    (by decide +kernel) (by decide +kernel)
  obtain ⟨⟨report, hreport, hkey⟩, hunmarked⟩ := hforgotten
  refine ⟨by decide +kernel, by decide +kernel, report, hreport, hkey,
    (hunmarked report hreport hkey).mpr fun m hmarked => ?_⟩
  obtain ⟨turn, hturn, rfl⟩ := finalizerName_of_marked hmarked
  obtain rfl := List.mem_singleton.mp hturn
  rfl

/-- Settings under which objects get another marker. -/
def ordersUnder (marker : String) : Settings :=
  { ordersWith "main" "http://old.cluster:9200" with
    runtime := { Runtime.standard with finalizerName := marker } }

/-- An index that was registered under one marker is forgotten under another. -/
theorem forgotten_can_be_marked :
    ¬∀ (turns : List Turn) (settings : Settings) (names : List String) (key : String)
        (record : ObjectRecord),
      let state := runTurns Memory.connector turns (.empty, Memory.ofCluster .empty)
      let result := (delete settings Memory.connector state.1 names state.2).1
      state.1.get? key = some record → result.store.get? key = none →
      ∀ report ∈ result.reports, report.key = key →
        (record.mark report.marker settings.runtime.finalizerName).markers = [] := by
  intro h
  have hunmarked := h [.apply (ordersUnder "finalizer.first")] (ordersUnder "finalizer.second")
    ["orders"] "Index/orders" { ordersRecord with markers := ["finalizer.first"] }
    (by decide +kernel) (by decide +kernel) ⟨.index, "orders", none, false, none, .keep⟩
    (by decide +kernel) rfl
  cases hunmarked

end Rounds

end SchemaKeeper
