import SchemaKeeper.Proofs.Independence
import SchemaKeeper.Proofs.Matching

/-!
# Rounds come to rest

The first round registers every object and asks nothing of the cluster, the
second creates what is not there, and from then on every round finds what it
wants: what was created is read back as what is desired, and what was admitted is
admitted again beside itself.
-/

namespace SchemaKeeper

/-! ## A pass over one object -/

namespace Convergence

open Program (run run_ask run_bind run_pure)

/-- What a cluster holds for an object that it was made to hold. -/
def held : DesiredObject → Holding
  | .index spec => .index ⟨spec.counts, Model.properties spec.model⟩
  | .template spec => .body spec.model
  | .pipeline spec => .body spec.model

/-- Where there is nothing yet, or what is desired, a pass ends well with what is desired. -/
theorem run_converge_held {cluster : Cluster} (hplain : cluster.scripted = [])
    {object : DesiredObject} (hshape : Model.checkShape object.kind object.model = .ok ())
    (hcounts : object.TellsCounts)
    (hbefore : cluster.holding object.place = none ∨
      cluster.holding object.place = some (held object)) (ceiling : Nat) :
    let result := (converge ceiling object).run Cluster.answer cluster
    (∃ message, result.1 = Status.created (some 200) message) ∧
      result.2.holding object.place = some (held object) := by
  unfold converge
  rw [hshape]
  cases object with
  | index spec =>
      obtain ⟨hshards, hreplicas⟩ := hcounts spec.counts rfl
      dsimp only
      rcases hbefore with habsent | hpresent
      · have hindex : cluster.indices.get? spec.name = none := Option.map_eq_none_iff.mp habsent
        rw [run_convergeIndex_create hplain hindex, createdIndex_eq hshards hreplicas]
        refine ⟨⟨_, toStatus_acknowledged⟩, ?_⟩
        exact congrArg (Option.map Holding.index) (Cluster.get?_seedIndex_self ..)
      · obtain ⟨index, hindex, hsame⟩ := Option.map_eq_some_iff.mp hpresent
        obtain rfl := Holding.index.inj hsame
        have hdesired := desiredCounts_eq hshards hreplicas
        obtain ⟨hresult, hread⟩ :=
          run_convergeIndex_settled hplain hdesired hindex (settled_of_eq rfl rfl) ceiling
        refine ⟨⟨_, hresult⟩, ?_⟩
        exact congrArg (Option.map Holding.index) ((hread.get? spec.name).trans hindex)
  | template spec =>
      let asked := cluster.recordCall (.templateExists spec.name)
      let put : Call := .putTemplate spec.name spec.model spec.order
      have hasked : cluster.answer (.templateExists spec.name) =
          (.ok (cluster.templates.contains spec.name), asked) := Cluster.answer_of_plain hplain _
      have hplainAsked : asked.scripted = [] := hplain
      have hput : asked.answer put =
          (.ok Cluster.acknowledged, (asked.recordCall put).seedTemplate spec.name spec.model) :=
        Cluster.answer_of_plain hplainAsked _
      dsimp only
      unfold convergeTemplate
      rw [run_bind, run_ask, hasked]
      dsimp only
      rw [run_bind, run_ask, hput]
      refine ⟨⟨_, toStatus_acknowledged⟩, ?_⟩
      simp [Cluster.holding, Cluster.seedTemplate, DesiredObject.place, DesiredObject.kind,
        DesiredObject.name, Table.get?_insert, held]
  | pipeline spec =>
      let put : Call := .putPipeline spec.name spec.model
      have hput : cluster.answer put =
          (.ok Cluster.acknowledged, (cluster.recordCall put).seedPipeline spec.name spec.model) :=
        Cluster.answer_of_plain hplain _
      dsimp only
      unfold convergePipeline
      rw [run_bind, run_ask, hput]
      refine ⟨⟨_, toStatus_acknowledged⟩, ?_⟩
      simp [Cluster.holding, Cluster.seedPipeline, DesiredObject.place, DesiredObject.kind,
        DesiredObject.name, Table.get?_insert, held]

end Convergence

namespace Rounds

variable {settings : Settings} {entry admitted : Entry} {c : Connection} {store : Store}
  {memory : Memory}

/-! ## One object, round after round -/

theorem reconcile_register {World : Type} (runtime : Runtime) (connector : Connector World)
    {request : ReconcileRequest} (h : request.lifecycle.decide = .register) (world : World) :
    reconcile runtime connector request world = (.onlyMarker .add, world) := by
  rw [reconcile, ReconcileRequest.pass, h]
  rfl

theorem reconcile_converge (runtime : Runtime) {request : ReconcileRequest}
    (h : request.lifecycle.decide = .converge) (hconnection : request.connection = .ok c)
    (hworking : memory.failure = none) :
    reconcile runtime Memory.connector request memory =
      let result := (Convergence.converge runtime.maxMappingDepth.toNat request.object).run
        Cluster.answer memory.cluster
      (.ofVerdict result.1 request.prior, { memory with cluster := result.2 }) := by
  rw [Memory.reconcile_eq, ReconcileRequest.program, ReconcileRequest.pass, h, hconnection,
    hworking]
  simp only [Pass.program, Program.run_bind, Program.run_pure]

theorem admitEntry_again {connection : Option Connection}
    (h : admitEntry entry connection none = .ok admitted) {record : ObjectRecord}
    (happlied : record.applied = some admitted)
    (hendpoint : record.endpoint = some c.withoutPassword) :
    admitEntry entry (some c) (some record) = .ok admitted := by
  obtain ⟨hdefault, hflag, hcauses⟩ := admitEntry_eq_ok_iff.mp h
  have hcreate : Admission.createComplaints admitted.object = [] := hcauses
  have hshards : Admission.shardComplaints admitted.object admitted.object = [] := by
    unfold Admission.shardComplaints
    split <;> simp_all
  have hsame : c.withoutPassword.sameEndpoint c = true := c.sameEndpoint_refl
  have hstays : Admission.connectionComplaint c.withoutPassword c = none := by
    rw [Admission.connectionComplaint, if_pos hsame]
  refine admitEntry_eq_ok_iff.mpr ⟨hdefault, hflag, ?_⟩
  simp [complaints, happlied, hendpoint, Admission.updateComplaints, hcreate, hshards, hstays]

/-- An entry that is admitted when nothing is known of it, and where its reference leads. -/
structure Welcome (settings : Settings) (entry admitted : Entry) (c : Connection) : Prop where
  connection : connectionOf settings entry.object = .ok c
  admitted : admitEntry entry (some c) none = .ok admitted

def recordOf (settings : Settings) (admitted : Entry) (c : Connection) (status : Option Status) :
    ObjectRecord :=
  ⟨status, [settings.runtime.finalizerName], some admitted, some c.withoutPassword⟩

theorem Welcome.place (h : Welcome settings entry admitted c) :
    admitted.object.place = entry.object.place :=
  Store.keyOf_eq_iff.mp (keyOf_admitted h.admitted)

theorem apply_alone_register (h : Welcome settings entry admitted c)
    (hblank : store.get? (Store.keyOf entry.object) = none) :
    let result := apply (settings.withObjects [entry]) Memory.connector store memory
    result.1.store.get? (Store.keyOf entry.object) = some (recordOf settings admitted c none) := by
  have hverdict : admitConfigured settings store entry = .ok admitted := by
    rw [admitConfigured, hblank, h.connection]
    exact h.admitted
  have hrecord : store.recordAt (Store.keyOf entry.object) = .blank := by
    rw [Store.recordAt, hblank]
    rfl
  have hregister : (pendingOf settings store entry admitted).request.lifecycle.decide =
      .register := by
    simp only [pendingOf, hrecord]
    rfl
  intro result
  simp only [result]
  rw [apply_alone_admitted hverdict]
  dsimp only
  rw [reconcile_register _ _ hregister]
  simp only [settleApplied, get?_put, pendingOf, if_true, hrecord, h.connection]
  simp [foldOutcome, ReconcileOutcome.onlyMarker, ObjectRecord.blank, ObjectRecord.mark,
    ObjectRecord.hasMarker, recordOf, Except.toOption]

theorem apply_alone_converge (h : Welcome settings entry admitted c) {status : Option Status}
    (hrecord : store.get? (Store.keyOf entry.object) = some (recordOf settings admitted c status))
    (hworking : memory.failure = none) (hplain : memory.cluster.scripted = [])
    (hbefore : memory.cluster.holding entry.object.place = none ∨
      memory.cluster.holding entry.object.place = some (Convergence.held admitted.object)) :
    let result := apply (settings.withObjects [entry]) Memory.connector store memory
    result.2.cluster.holding entry.object.place = some (Convergence.held admitted.object) ∧
      ∃ message report, let verdict := Status.created (some 200) message
        result.1.store.get? (Store.keyOf entry.object) =
            some (recordOf settings admitted c
              (if verdict.supersedes status then some verdict else status)) ∧
          result.1.reports = [report] ∧ (report.kind, report.name) = entry.object.place ∧
          report.written = verdict.supersedes status := by
  have hverdict : admitConfigured settings store entry = .ok admitted := by
    rw [admitConfigured, hrecord, h.connection]
    exact admitEntry_again h.admitted rfl rfl
  have hat : store.recordAt (Store.keyOf entry.object) = recordOf settings admitted c status :=
    Store.recordAt_of_get? hrecord
  let request := (pendingOf settings store entry admitted).request
  have hdecide : request.lifecycle.decide = .converge := by
    simp [request, pendingOf, hat, recordOf, ObjectRecord.hasMarker, Lifecycle.decide]
  have hprior : request.prior = status := by
    simp only [request, pendingOf, hat]
    rfl
  rw [← h.place] at hbefore ⊢
  obtain ⟨⟨message, hmessage⟩, hheld⟩ := Convergence.run_converge_held hplain
    (Admission.checkShape_of_create (createComplaints_of_admitEntry h.admitted))
    (model_of_admitEntry h.admitted).2 hbefore settings.runtime.maxMappingDepth.toNat
  have hreconcile : reconcile settings.runtime Memory.connector request memory =
      (.ofVerdict (Status.created (some 200) message) status, { memory with
        cluster := ((Convergence.converge settings.runtime.maxMappingDepth.toNat
          admitted.object).run Cluster.answer memory.cluster).2 }) := by
    rw [reconcile_converge settings.runtime hdecide h.connection hworking, hprior]
    exact Prod.ext (congrArg (ReconcileOutcome.ofVerdict · status) hmessage) rfl
  rw [apply_alone_admitted hverdict]
  dsimp only
  rw [hreconcile]
  refine ⟨hheld, message, _, ?_, rfl, rfl, ?_⟩
  · simp only [settleApplied, get?_put, pendingOf, if_true, hat, h.connection]
    simp only [foldOutcome, ReconcileOutcome.ofVerdict, ObjectRecord.mark, recordOf,
      Except.toOption, Option.map_some]
    cases (Status.created (some 200) message).supersedes status <;> rfl
  · simp only [settleApplied, foldOutcome, ReconcileOutcome.ofVerdict]
    cases (Status.created (some 200) message).supersedes status <;> rfl

/-! ## All objects, round after round -/

theorem reconcileAll_register {World : Type} (runtime : Runtime) (connector : Connector World)
    {requests : List ReconcileRequest}
    (h : ∀ request ∈ requests, request.lifecycle.decide = .register) (world : World) :
    (reconcileAll runtime connector requests world).2 = world := by
  induction requests with
  | nil => rfl
  | cons request requests ih =>
      obtain ⟨hfirst, hrest⟩ := List.forall_mem_cons.mp h
      simp only [reconcileAll]
      rw [reconcile_register runtime connector hfirst]
      exact ih hrest

/-- Nothing is known yet, so nothing is asked of any cluster. -/
theorem apply_empty_world {World : Type} (settings : Settings) (connector : Connector World)
    (world : World) : (apply settings connector .empty world).2 = world := by
  have hprepared := prepared_admitAll (Store.sound_empty settings.runtime.finalizerName)
  refine reconcileAll_register settings.runtime connector (fun request hrequest => ?_) world
  obtain ⟨pending, hpending, rfl⟩ := List.mem_map.mp hrequest
  obtain ⟨deleteInCluster, hlifecycle⟩ := hprepared.pending pending hpending
  rw [hlifecycle]
  rfl

theorem steady_reconcileAll (runtime : Runtime) (requests : List ReconcileRequest)
    (memory : Memory) :
    let after := (reconcileAll runtime Memory.connector requests memory).2
    after.failure = memory.failure ∧ after.cluster.scripted = memory.cluster.scripted := by
  induction requests generalizing memory with
  | nil => exact ⟨rfl, rfl⟩
  | cons request requests ih =>
      obtain ⟨hfailure, hscripted⟩ := ih (reconcile runtime Memory.connector request memory).2
      refine ⟨hfailure.trans ?_, hscripted.trans ?_⟩
      · rw [Memory.reconcile_eq]
      · rw [Memory.reconcile_eq]
        exact Cluster.scripted_run ..

/-- All objects are registered with a status each, and each place holds something or nothing. -/
structure Stands (settings : Settings) (status : Option Status → Prop)
    (holds : DesiredObject → Option Holding) (state : Store × Memory) : Prop where
  working : state.2.failure = none
  plain : state.2.cluster.scripted = []
  entries : ∀ entry ∈ settings.objects, ∃ admitted c found, Welcome settings entry admitted c ∧
    status found ∧
    state.1.get? (Store.keyOf entry.object) = some (recordOf settings admitted c found) ∧
    state.2.cluster.holding entry.object.place = holds admitted.object
  others : ∀ key ∉ settings.objects.map (Store.keyOf ·.object), state.1.get? key = none

/-- Nothing is known of any object but that it was registered, and no cluster has it. -/
abbrev Registered (settings : Settings) : Store × Memory → Prop :=
  Stands settings (· = none) fun _ => none

/-- Every object is as it is desired, and this is on record. -/
abbrev AtRest (settings : Settings) : Store × Memory → Prop :=
  Stands settings (fun status => ∃ message, status = some (Status.created (some 200) message))
    fun object => some (Convergence.held object)

variable {state : Store × Memory}

theorem registered_apply (hdistinct : (settings.objects.map (·.object.place)).Nodup)
    (hwelcome : ∀ entry ∈ settings.objects, ∃ admitted c, Welcome settings entry admitted c)
    (hworking : memory.failure = none) (hplain : memory.cluster.scripted = [])
    (habsent : ∀ entry ∈ settings.objects, memory.cluster.holding entry.object.place = none) :
    Registered settings ((Turn.apply settings).run Memory.connector (.empty, memory)) := by
  have hworld : (apply settings Memory.connector .empty memory).2 = memory :=
    apply_empty_world settings Memory.connector memory
  refine ⟨?_, ?_, ?_, ?_⟩
  · simp only [Turn.run, hworld, hworking]
  · simp only [Turn.run, hworld, hplain]
  · intro entry hentry
    obtain ⟨admitted, c, hentryWelcome⟩ := hwelcome entry hentry
    refine ⟨admitted, c, none, hentryWelcome, rfl, ?_, ?_⟩
    · have halone := (apply_of_mem hdistinct .empty memory hentry).1
      exact halone.trans (apply_alone_register hentryWelcome rfl)
    · simp only [Turn.run, hworld]
      exact habsent entry hentry
  · intro key hkey
    exact get?_apply_of_not_mem hkey Memory.connector .empty memory

/-- What a round makes of a registered entry whose pass ends in a verdict. -/
structure Served (settings : Settings) (store : Store) (memory : Memory) (entry admitted : Entry)
    (c : Connection) (found : Option Status) (verdict : Status) (report : Report) : Prop where
  before : store.get? (Store.keyOf entry.object) = some (recordOf settings admitted c found)
  after : (apply settings Memory.connector store memory).1.store.get?
      (Store.keyOf entry.object) = some (recordOf settings admitted c
        (if verdict.supersedes found then some verdict else found))
  held : (apply settings Memory.connector store memory).2.cluster.holding entry.object.place =
    some (Convergence.held admitted.object)
  reports : (apply (settings.withObjects [entry]) Memory.connector store memory).1.reports =
    [report]
  place : (report.kind, report.name) = entry.object.place
  written : report.written = verdict.supersedes found

theorem exists_served (hdistinct : (settings.objects.map (·.object.place)).Nodup)
    {status : Option Status → Prop} {holds : DesiredObject → Option Holding}
    (hholds : ∀ object, holds object = none ∨ holds object = some (Convergence.held object))
    (h : Stands settings status holds (store, memory)) (hentry : entry ∈ settings.objects) :
    ∃ admitted c found message report, Welcome settings entry admitted c ∧ status found ∧
      memory.cluster.holding entry.object.place = holds admitted.object ∧
      Served settings store memory entry admitted c found (Status.created (some 200) message)
        report := by
  obtain ⟨admitted, c, found, hwelcome, hfound, hrecord, hheld⟩ := h.entries entry hentry
  have hbefore : memory.cluster.holding entry.object.place = none ∨
      memory.cluster.holding entry.object.place = some (Convergence.held admitted.object) := by
    have hpossible := hholds admitted.object
    rwa [← hheld] at hpossible
  obtain ⟨hafter, message, report, hstored, hreports, hplace, hwritten⟩ :=
    apply_alone_converge hwelcome hrecord h.working h.plain hbefore
  obtain ⟨hstore, hagree⟩ := apply_of_mem hdistinct store memory hentry
  refine ⟨admitted, c, found, message, report, hwelcome, hfound, hheld, ?_⟩
  exact {
    before := hrecord
    after := hstore.trans hstored
    held := hagree.cluster.holding.trans hafter
    reports := hreports
    place := hplace
    written := hwritten }

theorem atRest_apply (hdistinct : (settings.objects.map (·.object.place)).Nodup)
    {status : Option Status → Prop} {holds : DesiredObject → Option Holding}
    (hholds : ∀ object, holds object = none ∨ holds object = some (Convergence.held object))
    (hstatus : ∀ found, status found → found = none ∨
      ∃ message, found = some (Status.created (some 200) message))
    (h : Stands settings status holds state) :
    AtRest settings ((Turn.apply settings).run Memory.connector state) := by
  obtain ⟨store, memory⟩ := state
  have hsteady : _ ∧ _ :=
    steady_reconcileAll settings.runtime (applyRound settings store).requests memory
  refine ⟨hsteady.1.trans h.working, hsteady.2.trans h.plain, ?_, ?_⟩
  · intro entry hentry
    obtain ⟨admitted, c, found, message, report, hwelcome, hfound, -, hserved⟩ :=
      exists_served hdistinct hholds h hentry
    refine ⟨admitted, c, _, hwelcome, ?_, hserved.after, hserved.held⟩
    rcases hstatus found hfound with rfl | ⟨recorded, rfl⟩
    · exact ⟨message, rfl⟩
    · exact ⟨recorded, rfl⟩
  · intro key hkey
    exact (get?_apply_of_not_mem hkey Memory.connector store memory).trans (h.others key hkey)

/-- At rest the verdict is no news and the place holds what it held. -/
theorem exists_served_atRest (hdistinct : (settings.objects.map (·.object.place)).Nodup)
    (h : AtRest settings (store, memory)) (hentry : entry ∈ settings.objects) :
    ∃ admitted c recorded message report,
      memory.cluster.holding entry.object.place = some (Convergence.held admitted.object) ∧
      Served settings store memory entry admitted c
        (some (Status.created (some 200) recorded)) (Status.created (some 200) message)
        report := by
  obtain ⟨admitted, c, found, message, report, -, ⟨recorded, rfl⟩, hheld, hserved⟩ :=
    exists_served hdistinct (fun _ => .inr rfl) h hentry
  exact ⟨admitted, c, recorded, message, report, hheld, hserved⟩

theorem unchanged_of_atRest (hdistinct : (settings.objects.map (·.object.place)).Nodup)
    (h : AtRest settings (store, memory)) :
    let result := apply settings Memory.connector store memory
    result.1.store = store ∧ result.2.cluster.SameContents memory.cluster := by
  intro result
  constructor
  · refine congrArg Store.mk (Table.eq_of_get?_eq fun key => ?_)
    change result.1.store.get? key = store.get? key
    by_cases hkey : key ∈ settings.objects.map (Store.keyOf ·.object)
    · obtain ⟨entry, hentry, rfl⟩ := List.mem_map.mp hkey
      obtain ⟨admitted, c, recorded, message, report, -, hserved⟩ :=
        exists_served_atRest hdistinct h hentry
      exact hserved.after.trans hserved.before.symm
    · exact get?_apply_of_not_mem hkey Memory.connector store memory
  · refine Cluster.sameContents_of_holding fun place => ?_
    by_cases hplace : place ∈ settings.objects.map (·.object.place)
    · obtain ⟨entry, hentry, rfl⟩ := List.mem_map.mp hplace
      obtain ⟨admitted, c, recorded, message, report, hbefore, hserved⟩ :=
        exists_served_atRest hdistinct h hentry
      exact hserved.held.trans hbefore.symm
    · exact (agreeAt_apply_of_not_mem hdistinct store memory hplace).cluster.holding

theorem reports_of_atRest (hdistinct : (settings.objects.map (·.object.place)).Nodup)
    (h : AtRest settings (store, memory)) :
    let reports := (apply settings Memory.connector store memory).1.reports
    (reports.map fun report => (report.kind, report.name)).Perm
        (settings.objects.map (·.object.place)) ∧
      ∀ report ∈ reports, report.written = false := by
  have hperm := reports_apply hdistinct store memory
  constructor
  · refine (hperm.map _).trans (.of_eq ?_)
    rw [List.map_flatMap, List.map_eq_flatMap]
    refine List.flatMap_congr fun entry hentry => ?_
    obtain ⟨admitted, c, recorded, message, report, -, hserved⟩ :=
      exists_served_atRest hdistinct h hentry
    rw [hserved.reports, List.map_singleton, hserved.place]
  · intro report hreport
    obtain ⟨entry, hentry, hmem⟩ := List.mem_flatMap.mp (hperm.mem_iff.mp hreport)
    obtain ⟨admitted, c, recorded, message, own, -, hserved⟩ :=
      exists_served_atRest hdistinct h hentry
    rw [hserved.reports] at hmem
    obtain rfl := List.mem_singleton.mp hmem
    exact hserved.written

/-! ## A row of rounds -/

def rounds (settings : Settings) (cluster : Cluster) (n : Nat) : Store × Memory :=
  runTurns Memory.connector (List.replicate n (.apply settings)) (.empty, .ofCluster cluster)

theorem rounds_succ (settings : Settings) (cluster : Cluster) (n : Nat) :
    rounds settings cluster (n + 1) =
      (Turn.apply settings).run Memory.connector (rounds settings cluster n) := by
  rw [rounds, List.replicate_succ', runTurns_append]
  rfl

theorem atRest_rounds {cluster : Cluster}
    (hdistinct : (settings.objects.map (·.object.place)).Nodup)
    (hregistered : Registered settings (rounds settings cluster 1)) (n : Nat) :
    AtRest settings (rounds settings cluster (n + 2)) := by
  induction n with
  | zero =>
      rw [rounds_succ]
      exact atRest_apply hdistinct (fun _ => .inl rfl) (fun _ h => .inl h) hregistered
  | succ n ih =>
      rw [rounds_succ]
      exact atRest_apply hdistinct (fun _ => .inr rfl) (fun _ h => .inr h) ih

/--
On a cluster that has none of the objects the first round gives every object its
marker and makes no call, the second creates the objects as their defaulted
models describe them, and no later round changes or reports anything new.
-/
theorem rounds_come_to_rest {cluster : Cluster}
    (hdistinct : (settings.objects.map (·.object.place)).Nodup)
    (hadmitted : ∀ entry ∈ settings.objects, ∃ admitted,
      admitEntry entry (connectionOf settings entry.object).toOption none = .ok admitted)
    (hconnected : ∀ entry ∈ settings.objects, ∃ c, connectionOf settings entry.object = .ok c)
    (hplain : cluster.scripted = [])
    (habsent : ∀ entry ∈ settings.objects, cluster.holding entry.object.place = none) :
    let after := rounds settings cluster
    ((after 1).2.cluster = cluster ∧ ∀ entry ∈ settings.objects, ∃ record,
      (after 1).1.get? (Store.keyOf entry.object) = some record ∧
        record.hasMarker settings.runtime.finalizerName = true) ∧
    ((∀ key record, (after 2).1.get? key = some record →
        ∃ message, record.status = some (Status.created (some 200) message)) ∧
      ∀ entry ∈ settings.objects,
        (∃ record, (after 2).1.get? (Store.keyOf entry.object) = some record) ∧
        ∃ object, Admission.defaultModel entry.object = .ok object ∧
          (after 2).2.cluster.holding object.place = some (Convergence.held object)) ∧
    ∀ n, 2 ≤ n →
      let reports := (apply settings Memory.connector (after n).1 (after n).2).1.reports
      (after (n + 1)).1 = (after n).1 ∧
        (after (n + 1)).2.cluster.SameContents (after n).2.cluster ∧
        (reports.map fun report => (report.kind, report.name)).Perm
          (settings.objects.map (·.object.place)) ∧
        ∀ report ∈ reports, report.written = false := by
  intro after
  have hwelcome : ∀ entry ∈ settings.objects, ∃ admitted c, Welcome settings entry admitted c := by
    intro entry hentry
    obtain ⟨admitted, hentryAdmitted⟩ := hadmitted entry hentry
    obtain ⟨c, hc⟩ := hconnected entry hentry
    rw [hc] at hentryAdmitted
    exact ⟨admitted, c, hc, hentryAdmitted⟩
  have hregistered : Registered settings (after 1) :=
    registered_apply hdistinct hwelcome rfl hplain habsent
  have hrest : ∀ n, AtRest settings (after (n + 2)) := atRest_rounds hdistinct hregistered
  refine ⟨⟨?_, ?_⟩, ⟨?_, ?_⟩, ?_⟩
  · exact congrArg Memory.cluster
      (apply_empty_world settings Memory.connector (Memory.ofCluster cluster))
  · intro entry hentry
    obtain ⟨admitted, c, found, -, -, hrecord, -⟩ := hregistered.entries entry hentry
    exact ⟨_, hrecord, by simp [recordOf, ObjectRecord.hasMarker]⟩
  · intro key record hrecord
    by_cases hkey : key ∈ settings.objects.map (Store.keyOf ·.object)
    · obtain ⟨entry, hentry, rfl⟩ := List.mem_map.mp hkey
      obtain ⟨admitted, c, found, -, ⟨message, rfl⟩, hfound, -⟩ := (hrest 0).entries entry hentry
      obtain rfl := Option.some.inj (hrecord.symm.trans hfound)
      exact ⟨message, rfl⟩
    · cases hrecord.symm.trans ((hrest 0).others key hkey)
  · intro entry hentry
    obtain ⟨admitted, c, found, hown, -, hfound, hheld⟩ := (hrest 0).entries entry hentry
    refine ⟨⟨_, hfound⟩, admitted.object, (admitEntry_eq_ok_iff.mp hown.admitted).1, ?_⟩
    rw [hown.place]
    exact hheld
  · intro n hn reports
    obtain ⟨m, rfl⟩ := Nat.exists_eq_add_of_le' hn
    have hatRest : AtRest settings ((after (m + 2)).1, (after (m + 2)).2) := hrest m
    obtain ⟨hstore, hcontents⟩ := unchanged_of_atRest hdistinct hatRest
    have hnext : after (m + 2 + 1) =
        (Turn.apply settings).run Memory.connector (after (m + 2)) := rounds_succ ..
    rw [hnext]
    exact ⟨hstore, hcontents, reports_of_atRest hdistinct hatRest⟩

/-- An object of each kind. -/
def threeObjects : Settings :=
  (ordersWith "main" "http://old.cluster:9200").withObjects [
    orders,
    ⟨.template ⟨"logs", "main", ⟨2, 1⟩, some 7, "\x7b\"index_patterns\":[\"logs-*\"]\x7d"⟩, true⟩,
    ⟨.pipeline ⟨"orders", "main",
      "\x7b\"description\":\"cleaning\",\"processors\":[]\x7d"⟩, false⟩]

theorem admitted_threeObjects : ∀ entry ∈ threeObjects.objects,
    (admitEntry entry (connectionOf threeObjects entry.object).toOption none).isOk = true ∧
      (connectionOf threeObjects entry.object).isOk = true := by
  decide +kernel

theorem exists_of_isOk {ε α : Type} {found : Except ε α} (h : found.isOk = true) :
    ∃ a, found = .ok a := by
  cases found with
  | error e => cases h
  | ok a => exact ⟨a, rfl⟩

theorem threeObjects_come_to_rest :
    (rounds threeObjects .empty 1).2.cluster = .empty ∧
      (∃ object, Admission.defaultModel orders.object = .ok object ∧
        (rounds threeObjects .empty 2).2.cluster.holding object.place =
          some (Convergence.held object)) ∧
      ∀ n, 2 ≤ n → (rounds threeObjects .empty (n + 1)).1 = (rounds threeObjects .empty n).1 := by
  have hdistinct : (threeObjects.objects.map (·.object.place)).Nodup := by decide
  have hadmitted : ∀ entry ∈ threeObjects.objects, ∃ admitted,
      admitEntry entry (connectionOf threeObjects entry.object).toOption none = .ok admitted :=
    fun entry hentry => exists_of_isOk (admitted_threeObjects entry hentry).1
  have hconnected : ∀ entry ∈ threeObjects.objects, ∃ c,
      connectionOf threeObjects entry.object = .ok c :=
    fun entry hentry => exists_of_isOk (admitted_threeObjects entry hentry).2
  have hplain : Cluster.empty.scripted = [] := rfl
  have habsent : ∀ entry ∈ threeObjects.objects,
      Cluster.empty.holding entry.object.place = none :=
    fun entry _ => Cluster.holding_empty entry.object.place
  have horders : orders ∈ threeObjects.objects := List.mem_cons_self
  obtain ⟨hfirst, hsecond, hlater⟩ :=
    rounds_come_to_rest hdistinct hadmitted hconnected hplain habsent
  exact ⟨hfirst.1, (hsecond.2 orders horders).2, fun n hn => (hlater n hn).1⟩

end Rounds

end SchemaKeeper
