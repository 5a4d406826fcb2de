import SchemaKeeper.Proofs.Contacts
import SchemaKeeper.Proofs.Verdicts

/-!
# Statuses on record

What is on record of an object follows the verdicts on it: a refused entry, or
the verdict of the pass that its entry is admitted to.  A verdict decides the
state on record even where it is not written down, so the time of the next look
at an object always fits the state on record.
-/

namespace SchemaKeeper

@[simp] theorem ObjectRecord.status_mark (record : ObjectRecord) (action : MarkerAction)
    (marker : String) : (record.mark action marker).status = record.status := by
  cases action with
  | keep | remove => rfl
  | add =>
      simp only [mark]
      split <;> rfl

namespace Rounds

variable {World : Type} {runtime : Runtime} {settings : Settings} {store : Store}
  {connector : Connector World} {world : World} {entry : Entry} {refusal : Refusal}

/-! ## Passes and the worlds they begin in -/

def passes (runtime : Runtime) (connector : Connector World) :
    List ReconcileRequest → World → List (ReconcileRequest × World)
  | [], _ => []
  | request :: requests, world =>
      (request, world) ::
        passes runtime connector requests (reconcile runtime connector request world).2

section

variable {α : Type} {request : α → ReconcileRequest} {items : List α}

/-- The outcomes of a round are those of its passes. -/
theorem exists_pass_of_mem_zip {item : α × ReconcileOutcome}
    (h : item ∈ items.zip (reconcileAll runtime connector (items.map request) world).1) :
    ∃ began, (request item.1, began) ∈ passes runtime connector (items.map request) world ∧
      item.2 = (reconcile runtime connector (request item.1) began).1 := by
  induction items generalizing world with
  | nil => cases h
  | cons first items ih =>
      rcases List.mem_cons.mp h with rfl | hlater
      · exact ⟨world, List.mem_cons_self, rfl⟩
      · obtain ⟨began, hpass, houtcome⟩ := ih hlater
        exact ⟨began, List.mem_cons_of_mem _ hpass, houtcome⟩

theorem exists_mem_zip_of_pass {pass : ReconcileRequest × World}
    (h : pass ∈ passes runtime connector (items.map request) world) :
    ∃ item, request item = pass.1 ∧ (item, (reconcile runtime connector pass.1 pass.2).1) ∈
      items.zip (reconcileAll runtime connector (items.map request) world).1 := by
  induction items generalizing world with
  | nil => cases h
  | cons first items ih =>
      rcases List.mem_cons.mp h with rfl | hlater
      · exact ⟨first, rfl, List.mem_cons_self⟩
      · obtain ⟨item, hrequest, hmem⟩ := ih hlater
        exact ⟨item, hrequest, List.mem_cons_of_mem _ hmem⟩

end

/-! ## Refusals -/

theorem recordAt_refuse (store : Store) (object : DesiredObject) (refusal : Refusal) (key : String) :
    ((refuse store object refusal).1.recordAt key).status =
      if key = Store.keyOf object then
        some ((Status.error refusal.message).over (store.recordAt key).status)
      else (store.recordAt key).status := by
  simp only [refuse, Store.recordAt_put]
  split
  next h =>
    subst h
    exact (Status.some_over ..).symm
  next => rfl

theorem status_of_unwritten_refusal {object : DesiredObject}
    (h : (refuse store object refusal).2.written = false) :
    ((refuse store object refusal).1.recordAt (Store.keyOf object)).status =
      (store.recordAt (Store.keyOf object)).status := by
  rw [recordAt_refuse, if_pos rfl, Status.some_over, if_neg]
  simpa [refuse] using h

/-! ## Passes of a round over separate objects -/

section

variable (hdistinct : (settings.objects.map (·.object.place)).Nodup)

include hdistinct

theorem nodup_keys_askedInApply (connector : Connector World) (store : Store) (world : World) :
    ((askedInApply settings connector store world).map (·.1.key)).Nodup := by
  rw [askedInApply, map_zip_reconcileAll, pending_admitAll hdistinct]
  exact (nodup_keys hdistinct).sublist (map_filterMap_sublist (fun _ _ => key_of_pendingAt) _)

/-- What is pending is asked for with the status on record when the round began. -/
theorem exists_entry_of_asked {item : Pending × ReconcileOutcome}
    (h : item ∈ askedInApply settings connector store world) :
    ∃ entry ∈ settings.objects, ∃ admitted,
      admitConfigured settings store entry = .ok admitted ∧
        item.1 = pendingOf settings store entry admitted := by
  have hpending := (List.of_mem_zip h).1
  rw [pending_admitAll hdistinct] at hpending
  obtain ⟨entry, hentry, hat⟩ := List.mem_filterMap.mp hpending
  obtain ⟨admitted, hverdict, heq⟩ := admitted_of_pendingAt hat
  exact ⟨entry, hentry, admitted, hverdict, heq⟩

theorem get?_admitAll_of_asked {item : Pending × ReconcileOutcome}
    (h : item ∈ askedInApply settings connector store world) :
    (admitAll settings store).store.get? item.1.key = store.get? item.1.key := by
  obtain ⟨entry, hentry, admitted, hverdict, heq⟩ := exists_entry_of_asked hdistinct h
  have hstore := get?_admitAll hdistinct store hentry
  rw [left_of_pendingAt (pendingAt_of_admitted hverdict)] at hstore
  rw [heq]
  exact hstore

theorem get?_apply_of_asked {item : Pending × ReconcileOutcome}
    (h : item ∈ askedInApply settings connector store world) :
    (apply settings connector store world).1.store.get? item.1.key =
      (settleApplied settings.runtime store item.1 item.2).1.get? item.1.key := by
  rw [apply_eq_walk]
  have hwalk := (walk_apart (separate_settleStep settings.runtime)
    (nodup_keys_askedInApply hdistinct connector store world) (admitAll settings store).store).2.1 item h
  exact hwalk.trans
    ((separate_settleStep settings.runtime).congr (get?_admitAll_of_asked hdistinct h)).2

theorem settled_mem_reports {item : Pending × ReconcileOutcome}
    (h : item ∈ askedInApply settings connector store world) :
    (settleApplied settings.runtime store item.1 item.2).2 ∈
      (apply settings connector store world).1.reports := by
  rw [apply_eq_walk]
  have hwalk := (walk_apart (separate_settleStep settings.runtime)
    (nodup_keys_askedInApply hdistinct connector store world) (admitAll settings store).store).1
  have hsame := ((separate_settleStep settings.runtime).congr
    (get?_admitAll_of_asked hdistinct h)).1
  refine List.mem_append_right _ ?_
  rw [hwalk]
  exact List.mem_map.mpr ⟨item, h, hsame⟩

theorem get?_apply_of_refused (hentry : entry ∈ settings.objects)
    (h : admitConfigured settings store entry = .error refusal) (connector : Connector World)
    (world : World) :
    (apply settings connector store world).1.store.get? (Store.keyOf entry.object) =
      (refuse store entry.object refusal).1.get? (Store.keyOf entry.object) := by
  have hstore := get?_admitAll hdistinct store hentry
  rw [admitStep, h] at hstore
  refine (get?_apply_of_not_asked (fun other hother hadmitted hkey => ?_) connector world).trans
    hstore
  obtain rfl := List.inj_on_of_nodup_map (nodup_keys hdistinct) hother hentry hkey
  obtain ⟨admitted, hverdict⟩ := isAdmitted_iff.mp hadmitted
  cases h.symm.trans hverdict

/-- A report of a round is on an entry that is refused or on one that is passed over. -/
theorem mem_reports_apply {report : Report}
    (h : report ∈ (apply settings connector store world).1.reports) :
    (∃ entry ∈ settings.objects, ∃ refusal,
        admitConfigured settings store entry = .error refusal ∧
          report = (refuse store entry.object refusal).2) ∨
      ∃ item ∈ askedInApply settings connector store world,
        report = (settleApplied settings.runtime store item.1 item.2).2 := by
  rw [apply_eq_walk] at h
  rcases List.mem_append.mp h with hrefused | hsettled
  · left
    rw [admitAll_eq_walk,
      (walk_apart (separate_admitStep settings) (nodup_keys hdistinct) store).1] at hrefused
    obtain ⟨result, hresult, hleft⟩ := List.mem_filterMap.mp hrefused
    obtain ⟨entry, hentry, rfl⟩ := List.mem_map.mp hresult
    rw [admitStep] at hleft
    cases hverdict : admitConfigured settings store entry with
    | ok admitted =>
        rw [hverdict] at hleft
        cases hleft
    | error refusal =>
        rw [hverdict] at hleft
        exact ⟨entry, hentry, refusal, hverdict, (Option.some.inj hleft).symm⟩
  · right
    rw [(walk_apart (separate_settleStep settings.runtime)
      (nodup_keys_askedInApply hdistinct connector store world) (admitAll settings store).store).1] at hsettled
    obtain ⟨item, hitem, rfl⟩ := List.mem_map.mp hsettled
    exact ⟨item, hitem, ((separate_settleStep settings.runtime).congr
      (get?_admitAll_of_asked hdistinct hitem)).1⟩

end

/-! ## Statuses after a round -/

theorem status_settleApplied (runtime : Runtime) (store : Store) (pending : Pending)
    (outcome : ReconcileOutcome) (key : String) :
    ((settleApplied runtime store pending outcome).1.recordAt key).status =
      if key = pending.key then (outcome.status <|> (store.recordAt key).status)
      else (store.recordAt key).status := by
  simp only [settleApplied, foldOutcome, Store.recordAt_put]
  split
  next h =>
    subst h
    simp
  next => rfl

theorem consistent_of_reconcile {request : ReconcileRequest} {status : Status}
    (h : (reconcile runtime connector request world).1.status = some status) :
    status.Consistent := by
  by_cases hdecide : request.lifecycle.decide = .converge
  · obtain ⟨verdict, hverdict⟩ := request.exists_verdict? runtime connector world hdecide
    rw [ReconcileRequest.reconcile_of_verdict hverdict, ReconcileOutcome.ofVerdict] at h
    split at h
    · cases h
      exact ReconcileRequest.consistent_verdict? hverdict
    · cases h
  · rw [ReconcileRequest.reconcile_of_no_verdict hdecide] at h
    cases h

/-- All statuses on record are consistent with their codes. -/
def Consistent (store : Store) : Prop :=
  ∀ key status, (store.recordAt key).status = some status → status.Consistent

theorem consistent_refuse (h : Consistent store) (object : DesiredObject) (refusal : Refusal) :
    Consistent (refuse store object refusal).1 := by
  intro key status hstatus
  rw [recordAt_refuse] at hstatus
  split at hstatus
  next =>
    cases hstatus
    exact Status.consistent_over (Status.consistent_error _) (h key)
  next => exact h key status hstatus

theorem consistent_admitAll (settings : Settings) (h : Consistent store) :
    Consistent (admitAll settings store).store := by
  have start : Consistent (Admitted.mk store [] []).store := h
  refine List.foldlRecOn settings.objects (admitNext settings)
    (motive := fun state => Consistent state.store) start fun state hstate entry _ => ?_
  unfold admitNext
  cases admitConfigured settings state.store entry with
  | error refusal => exact consistent_refuse hstate entry.object refusal
  | ok admitted => exact hstate

theorem consistent_run (connector : Connector World) (turn : Turn) {state : Store × World}
    (h : Consistent state.1) : Consistent (turn.run connector state).1 := by
  obtain ⟨store, world⟩ := state
  cases turn with
  | apply settings =>
      refine settleAll_induct (P := Consistent) (consistent_admitAll settings h)
        fun current pending outcome hmem hcurrent key status hstatus => ?_
      rw [status_settleApplied] at hstatus
      split at hstatus
      next =>
        obtain ⟨began, -, houtcome⟩ := exists_pass_of_mem_zip hmem
        cases hfound : outcome.status with
        | none =>
            rw [hfound] at hstatus
            exact hcurrent key status hstatus
        | some found =>
            rw [hfound] at hstatus
            cases hstatus
            rw [show outcome = _ from houtcome] at hfound
            exact consistent_of_reconcile hfound
      next => exact hcurrent key status hstatus
  | delete settings names =>
      intro key status hstatus
      simp only [Turn.run, recordAt_delete] at hstatus
      split at hstatus
      next => cases hstatus
      next => exact h key status hstatus

/-! ## Verdicts of a turn -/

namespace Turn

def passes (connector : Connector World) (turn : Turn) (state : Store × World) :
    List (ReconcileRequest × World) :=
  Rounds.passes turn.settings.runtime connector (turn.requests state.1) state.2

def reports (connector : Connector World) : Turn → Store × World → List Report
  | .apply settings, (store, world) => (Rounds.apply settings connector store world).1.reports
  | .delete settings names, (store, world) =>
      (Rounds.delete settings connector store names world).1.reports

/-- A turn comes to a verdict on the object under a key. -/
inductive Finds (connector : Connector World) (state : Store × World) :
    Turn → String → Status → Prop where
  | refused {settings : Settings} {entry : Entry} {refusal : Refusal}
      (hentry : entry ∈ settings.objects)
      (h : admitConfigured settings state.1 entry = .error refusal) :
      Finds connector state (.apply settings) (Store.keyOf entry.object)
        (Status.error refusal.message)
  | passed {turn : Turn} {pass : ReconcileRequest × World} {verdict : Status}
      (hpass : pass ∈ turn.passes connector state)
      (h : pass.1.verdict? turn.settings.runtime connector pass.2 = some verdict) :
      Finds connector state turn (Store.keyOf pass.1.object) verdict

/-- Passes of a deletion do not converge. -/
theorem exists_apply_of_converge {turn : Turn} {state : Store × World}
    {pass : ReconcileRequest × World} (hpass : pass ∈ turn.passes connector state)
    (h : pass.1.lifecycle.decide = .converge) : ∃ settings, turn = .apply settings := by
  cases turn with
  | apply settings => exact ⟨settings, rfl⟩
  | delete settings names =>
      obtain ⟨item, hrequest, hmem⟩ := exists_mem_zip_of_pass hpass
      obtain ⟨entry, -, hentry⟩ := List.mem_map.mp (List.of_mem_zip hmem).1
      rw [← hrequest, ← hentry] at h
      exact absurd h (decide_deletionRequest_ne settings state.1 entry)

end Turn

theorem key_of_mem_reports_delete {names : List String} {report : Report}
    (h : report ∈ (delete settings connector store names world).1.reports) :
    report.key ∈ deletedKeys settings store names := by
  have hmem := List.mem_map_of_mem (f := fun report : Report => (report.key, report.marker)) h
  rw [map_reports_delete] at hmem
  obtain ⟨key, hkey, hsame⟩ := List.mem_map.mp hmem
  rwa [show key = report.key from congrArg Prod.fst hsame] at hkey

/-- Outcomes without a status are not reported as written. -/
theorem unwritten_settleAll {items : List ((String × ReconcileRequest) × ReconcileOutcome)}
    (h : ∀ item ∈ items, item.2.status = none) :
    ∀ report ∈ (settleAll (settleDeleted runtime) store items).2, report.written = false := by
  induction items generalizing store with
  | nil => exact nofun
  | cons first items ih =>
      obtain ⟨hfirst, hrest⟩ := List.forall_mem_cons.mp h
      refine List.forall_mem_cons.mpr ⟨?_, ih hrest⟩
      change first.2.status.isSome = false
      rw [hfirst]
      rfl

theorem unwritten_delete {names : List String} {report : Report}
    (h : report ∈ (delete settings connector store names world).1.reports) :
    report.written = false := by
  refine unwritten_settleAll (fun item hitem => ?_) report h
  obtain ⟨began, -, houtcome⟩ := exists_pass_of_mem_zip hitem
  obtain ⟨entry, -, hentry⟩ := List.mem_map.mp (List.of_mem_zip hitem).1
  have hdecide : item.1.2.lifecycle.decide ≠ .converge := by
    rw [← hentry]
    exact decide_deletionRequest_ne settings store entry
  rw [houtcome, ReconcileRequest.reconcile_of_no_verdict hdecide]
  rfl

theorem forgotten_of_mem_reports_delete {names : List String} {report : Report}
    (h : report ∈ (delete settings connector store names world).1.reports) :
    (delete settings connector store names world).1.store.get? report.key = none := by
  rw [get?_delete, if_pos (key_of_mem_reports_delete h)]

section

variable (hdistinct : (settings.objects.map (·.object.place)).Nodup)

include hdistinct

theorem recorded_of_refusal (hentry : entry ∈ settings.objects)
    (h : admitConfigured settings store entry = .error refusal) (connector : Connector World)
    (world : World) :
    let key := Store.keyOf entry.object
    ((apply settings connector store world).1.store.recordAt key).status =
      some ((Status.error refusal.message).over (store.recordAt key).status) := by
  have hsame := recordAt_congr (get?_apply_of_refused hdistinct hentry h connector world)
  simp only [hsame, recordAt_refuse, if_pos]

/-- A verdict of a pass is weighed against the status that was on record. -/
theorem recorded_of_pass {pass : ReconcileRequest × World} {verdict : Status}
    (hpass : pass ∈ (Turn.apply settings).passes connector (store, world))
    (h : pass.1.verdict? settings.runtime connector pass.2 = some verdict) :
    let key := Store.keyOf pass.1.object
    let recorded := some (verdict.over (store.recordAt key).status)
    let result := (apply settings connector store world).1
    (result.store.recordAt key).status = recorded ∧
      ∃ report ∈ result.reports, report.key = key ∧ report.status = recorded ∧
        report.recheck = (Recheck.ofState verdict.state).delay settings.runtime := by
  obtain ⟨pending, hrequest, hmem⟩ := exists_mem_zip_of_pass hpass
  have hasked : (pending, ReconcileOutcome.ofVerdict verdict pass.1.prior) ∈
      askedInApply settings connector store world := by
    rw [← ReconcileRequest.reconcile_of_verdict h]
    exact hmem
  obtain ⟨entry, -, admitted, hverdict, rfl⟩ := exists_entry_of_asked hdistinct hasked
  have hkey : Store.keyOf pass.1.object = Store.keyOf entry.object := by
    rw [← hrequest]
    exact keyOf_admitted hverdict
  have hprior : pass.1.prior = (store.recordAt (Store.keyOf entry.object)).status := by
    rw [← hrequest]
    rfl
  have hrecorded : ((ReconcileOutcome.ofVerdict verdict pass.1.prior).status <|>
      (store.recordAt (Store.keyOf entry.object)).status) =
        some (verdict.over (store.recordAt (Store.keyOf entry.object)).status) := by
    rw [hprior, Status.status_ofVerdict]
  rw [hkey]
  refine ⟨?_, _, settled_mem_reports hdistinct hasked, ?_, hrecorded, rfl⟩
  · have hsame := recordAt_congr (get?_apply_of_asked hdistinct hasked)
    have hsettled := (status_settleApplied settings.runtime store
      (pendingOf settings store entry admitted) (.ofVerdict verdict pass.1.prior)
      (Store.keyOf entry.object)).trans (if_pos rfl)
    exact (congrArg ObjectRecord.status hsame).trans (hsettled.trans hrecorded)
  · exact keyOf_admitted hverdict

/-- Where nothing is reported as written, the status on record is what it was. -/
theorem unwritten_apply {report : Report}
    (h : report ∈ (apply settings connector store world).1.reports)
    (hunwritten : report.written = false) :
    ((apply settings connector store world).1.store.recordAt report.key).status =
      (store.recordAt report.key).status := by
  obtain ⟨entry, hentry, refusal, hverdict, rfl⟩ | ⟨item, hitem, rfl⟩ := mem_reports_apply hdistinct h
  · have hsame := recordAt_congr (get?_apply_of_refused hdistinct hentry hverdict connector world)
    exact (congrArg ObjectRecord.status hsame).trans (status_of_unwritten_refusal hunwritten)
  · have hsame := recordAt_congr (get?_apply_of_asked hdistinct hitem)
    obtain ⟨entry, -, admitted, hverdict, heq⟩ := exists_entry_of_asked hdistinct hitem
    have hkey : Store.keyOf item.1.request.object = item.1.key := by
      rw [heq]
      exact keyOf_admitted hverdict
    have hnone : item.2.status = none := Option.isNone_iff_eq_none.mp (by
      simpa [settleApplied, foldOutcome] using hunwritten)
    change ((apply settings connector store world).1.store.recordAt
      (Store.keyOf item.1.request.object)).status =
        (store.recordAt (Store.keyOf item.1.request.object)).status
    rw [hkey, hsame, status_settleApplied, if_pos rfl, hnone]
    rfl

end

/-! ## All runs -/

/--
Along all runs statuses are consistent with their codes.  After each turn over
separate objects the status on record has the state of the verdict, and its
message too unless the object stays created; what is not reported as written is
what it was, or forgotten by a deletion; a deletion reports nothing as written
and forgets all that it reports; and the next look at an object fits the state
on record.
-/
theorem statuses_follow_verdicts (connector : Connector World) (world : World)
    (turns : List Turn) :
    let state := runTurns connector turns (.empty, world)
    (∀ key record status, state.1.get? key = some record → record.status = some status →
      status.Consistent) ∧
    ∀ turn : Turn, (turn.settings.objects.map (·.object.place)).Nodup →
      let after := (turn.run connector state).1
      let reports := turn.reports connector state
      (∀ key verdict, turn.Finds connector state key verdict →
        ∃ status, (after.recordAt key).status = some status ∧ status.state = verdict.state ∧
          (verdict.state ≠ .created ∨
              (state.1.recordAt key).status.map Status.state ≠ some verdict.state →
            status.message = verdict.message)) ∧
      (∀ report ∈ reports, report.written = false →
        (after.recordAt report.key).status = (state.1.recordAt report.key).status ∨
          report.key ∈ turn.deletedKeys state.1 ∧ after.get? report.key = none) ∧
      (∀ settings names, turn = .delete settings names → ∀ report ∈ reports,
        report.written = false ∧ after.get? report.key = none) ∧
      ∀ pass ∈ turn.passes connector state, pass.1.lifecycle.decide = .converge →
        let key := Store.keyOf pass.1.object
        ∃ status, (after.recordAt key).status = some status ∧
          (reconcile turn.settings.runtime connector pass.1 pass.2).1.recheck =
            .ofState status.state ∧
          ∃ report ∈ reports, report.key = key ∧ report.status = some status ∧
            report.recheck = (Recheck.ofState status.state).delay turn.settings.runtime := by
  intro state
  refine ⟨fun key record status hrecord hstatus => ?_, fun turn hdistinct => ⟨?_, ?_, ?_, ?_⟩⟩
  · have hstart : Consistent (Store.empty, world).1 := fun key status h => nomatch h
    have hrun := runTurns_induct (P := fun state => Consistent state.1)
      (fun turn state h => consistent_run connector turn h) hstart turns
    refine hrun key status ?_
    rwa [Store.recordAt, show (runTurns connector turns (.empty, world)).1.get? key = _ from hrecord]
  · rintro key verdict (⟨hentry, hrefused⟩ | ⟨hpass, hverdict⟩)
    · exact ⟨_, recorded_of_refusal hdistinct hentry hrefused connector state.2,
        Status.state_over .., Status.message_over⟩
    · have hdecide := ReconcileRequest.decide_of_verdict? hverdict
      obtain ⟨settings, rfl⟩ := Turn.exists_apply_of_converge hpass hdecide
      exact ⟨_, (recorded_of_pass hdistinct hpass hverdict).1, Status.state_over ..,
        Status.message_over⟩
  · intro report hreport hunwritten
    cases turn with
    | apply settings => exact .inl (unwritten_apply hdistinct hreport hunwritten)
    | delete settings names =>
        exact .inr ⟨key_of_mem_reports_delete hreport, forgotten_of_mem_reports_delete hreport⟩
  · rintro settings names rfl report hreport
    exact ⟨unwritten_delete hreport, forgotten_of_mem_reports_delete hreport⟩
  · intro pass hpass hdecide
    obtain ⟨verdict, hverdict⟩ := pass.1.exists_verdict? turn.settings.runtime connector pass.2 hdecide
    obtain ⟨settings, rfl⟩ := Turn.exists_apply_of_converge hpass hdecide
    obtain ⟨hstatus, report, hreport, hkey, hreported, hrecheck⟩ :=
      recorded_of_pass hdistinct hpass hverdict
    refine ⟨_, hstatus, ?_, report, hreport, hkey, hreported, ?_⟩
    · rw [ReconcileRequest.reconcile_of_verdict hverdict, Status.state_over]
      rfl
    · rw [hrecheck, Status.state_over]

/--
An index that is converged for the first time has the state of the verdict on
record, and a deletion after that reports it, with nothing written and nothing
left.
-/
theorem orders_status_follows :
    let turn := Turn.apply (ordersWith "main" "http://old.cluster:9200")
    let state := runTurns Memory.connector [turn] (.empty, .ofCluster .empty)
    (turn.settings.objects.map (·.object.place)).Nodup ∧
      ∃ pass ∈ turn.passes Memory.connector state, pass.1.lifecycle.decide = .converge ∧
        ∃ verdict status, turn.Finds Memory.connector state (Store.keyOf pass.1.object) verdict ∧
          ((turn.run Memory.connector state).1.recordAt (Store.keyOf pass.1.object)).status =
            some status ∧ status.state = verdict.state ∧
          let deletion := Turn.delete turn.settings ["orders"]
          let converged := runTurns Memory.connector [turn, turn] (.empty, .ofCluster .empty)
          ∃ report ∈ deletion.reports Memory.connector converged,
            report.key = "Index/orders" ∧ report.written = false ∧
              (deletion.run Memory.connector converged).1.get? report.key = none := by
  intro turn state
  have hdistinct : (turn.settings.objects.map (·.object.place)).Nodup := by decide
  have hpasses : (turn.passes Memory.connector state).map (·.1.lifecycle.decide) =
      [.converge] := by decide +kernel
  have hconverge : Lifecycle.Decision.converge ∈
      (turn.passes Memory.connector state).map (·.1.lifecycle.decide) := by
    rw [hpasses]
    exact List.mem_singleton_self _
  obtain ⟨pass, hpass, hdecide⟩ := List.mem_map.mp hconverge
  obtain ⟨verdict, hverdict⟩ :=
    pass.1.exists_verdict? turn.settings.runtime Memory.connector pass.2 hdecide
  have hfinds := Turn.Finds.passed hpass hverdict
  obtain ⟨status, hstatus, hstate, -⟩ := ((statuses_follow_verdicts Memory.connector
    (.ofCluster .empty) [turn]).2 turn hdistinct).1 _ verdict hfinds
  let deletion := Turn.delete turn.settings ["orders"]
  obtain ⟨-, -, hdeletion, -⟩ := (statuses_follow_verdicts Memory.connector
    (.ofCluster .empty) [turn, turn]).2 deletion hdistinct
  let converged := runTurns Memory.connector [turn, turn] (.empty, .ofCluster .empty)
  have hkeys : (deletion.reports Memory.connector converged).map Report.key =
      ["Index/orders"] := by decide +kernel
  have hreported : "Index/orders" ∈
      (deletion.reports Memory.connector converged).map Report.key := by
    rw [hkeys]
    exact List.mem_singleton_self _
  obtain ⟨report, hreport, hkey⟩ := List.mem_map.mp hreported
  exact ⟨hdistinct, pass, hpass, hdecide, verdict, status, hfinds, hstatus, hstate, report,
    hreport, hkey, hdeletion _ _ rfl report hreport⟩

/-- A deletion reports nothing as written and yet leaves no status on record. -/
theorem unwritten_can_be_forgotten :
    ¬∀ (turns : List Turn) (turn : Turn),
      (∀ t ∈ turns ++ [turn], (t.settings.objects.map (·.object.place)).Nodup) →
      let state := runTurns Memory.connector turns (.empty, .ofCluster .empty)
      ∀ report ∈ turn.reports Memory.connector state, report.written = false →
        ((turn.run Memory.connector state).1.recordAt report.key).status =
          (state.1.recordAt report.key).status := by
  intro h
  let settings := ordersWith "main" "http://old.cluster:9200"
  have hkept := h [.apply settings, .apply settings] (.delete settings ["orders"]) (by decide)
    ⟨.index, "orders", some (.created (some 200) Cluster.acknowledged.body), false, none, .remove⟩
    (by decide +kernel) rfl
  exact absurd hkept (by decide +kernel)

end Rounds

end SchemaKeeper
