import Mathlib.Logic.Function.Basic
import SchemaKeeper.Proofs.Independence

/-!
# Passes side by side

Passes that share a cluster take turns at it.  A call takes two turns, one in
which it is recorded and one in which it is answered, unless it is scripted: then
it is answered as it is recorded.  In between other passes have their turns, in
any order.  As long as the passes have different places, none of them notices.
-/

namespace SchemaKeeper

/-- A program on its way, possibly between recording a call and having it answered. -/
inductive Task (α : Type) where
  | ready (program : Program α)
  | recorded (c : Call) (next : Except RemoteError c.Answer → Program α)

namespace Task

variable {α : Type}

/-- One turn at the cluster; nothing is left to do for a program that is done. -/
def step : Task α → Cluster → Option (Task α × Cluster)
  | .ready (.done _), _ => none
  | .ready (.call c next), cluster =>
      match cluster.scripted.lookup c.method with
      | some outcome =>
          some (.ready (next (Cluster.scriptedAnswer outcome c)), cluster.recordCall c)
      | none => some (.recorded c next, cluster.recordCall c)
  | .recorded c next, cluster =>
      some (.ready (next (cluster.respond c).1), (cluster.respond c).2)

/-- All remaining turns in a row. -/
def run : Task α → Cluster → α × Cluster
  | .ready program, cluster => program.run Cluster.answer cluster
  | .recorded c next, cluster =>
      (next (cluster.respond c).1).run Cluster.answer (cluster.respond c).2

def KeepsTo (place : Place) : Task α → Prop
  | .ready program => program.Asks (·.place? = some place)
  | .recorded c next =>
      c.place? = some place ∧ ∀ found, (next found).Asks (·.place? = some place)

variable {place : Place}

theorem run_congr {task : Task α} (htask : task.KeepsTo place) {a b : Cluster}
    (h : Cluster.AgreeAt place a b) :
    (task.run a).1 = (task.run b).1 ∧ Cluster.AgreeAt place (task.run a).2 (task.run b).2 := by
  cases task with
  | ready program => exact Cluster.run_congr htask h
  | recorded c next =>
      obtain ⟨hfound, hleft⟩ := Cluster.respond_congr htask.1 h.holding
      have hscripted : (a.respond c).2.scripted = (b.respond c).2.scripted := by
        rw [Cluster.scripted_respond, Cluster.scripted_respond, h.scripted]
      simp only [run, hfound]
      exact Cluster.run_congr (htask.2 _) ⟨hscripted, hleft⟩

/-- A turn brings a task nearer to its end and changes nothing at other places. -/
structure Progress (place : Place) (task next : Task α) (cluster left : Cluster) : Prop where
  keepsTo : next.KeepsTo place
  run : next.run left = task.run cluster
  scripted : left.scripted = cluster.scripted
  frame : ∀ other, other ≠ place → left.holding other = cluster.holding other

theorem progress_of_step {task next : Task α} {cluster left : Cluster} (htask : task.KeepsTo place)
    (h : task.step cluster = some (next, left)) : Progress place task next cluster left := by
  cases task with
  | recorded c rest =>
      cases h
      exact {
        keepsTo := htask.2 _
        run := rfl
        scripted := Cluster.scripted_respond ..
        frame := fun other hne => Cluster.holding_respond_of_ne htask.1 hne cluster }
  | ready program =>
      cases program with
      | done result => cases h
      | call c rest =>
          simp only [step] at h
          cases hscript : cluster.scripted.lookup c.method with
          | some outcome =>
              rw [hscript] at h
              cases h
              exact {
                keepsTo := htask.2 _
                run := by simp only [run, Program.run, Cluster.answer_of_scripted c hscript]
                scripted := rfl
                frame := fun other _ => Cluster.holding_recordCall .. }
          | none =>
              rw [hscript] at h
              cases h
              exact {
                keepsTo := htask
                run := by simp only [run, Program.run, Cluster.answer_of_unscripted c hscript]
                scripted := rfl
                frame := fun other _ => Cluster.holding_recordCall .. }

end Task

/-! ## Schedules -/

section Schedules

variable {ι α : Type} [DecidableEq ι]

/-- One task has its turn, if it has anything left to do. -/
def turn (state : (ι → Task α) × Cluster) (i : ι) : (ι → Task α) × Cluster :=
  match (state.1 i).step state.2 with
  | none => state
  | some (next, cluster) => (Function.update state.1 i next, cluster)

/-- A schedule tells whose turn it is. -/
def interleave (schedule : List ι) (state : (ι → Task α) × Cluster) : (ι → Task α) × Cluster :=
  schedule.foldl turn state

theorem turn_of_step {state : (ι → Task α) × Cluster} {i : ι} {next : Task α} {left : Cluster}
    (h : (state.1 i).step state.2 = some (next, left)) :
    turn state i = (Function.update state.1 i next, left) := by
  rw [turn, h]

/-! ### Coming to an end -/

/-- A task that has all turns to itself comes to its end while the others wait. -/
structure Ends (state : (ι → Task α) × Cluster) (i : ι) (schedule : List ι) : Prop where
  done : ∃ result, (interleave schedule state).1 i = .ready (.done result)
  others : ∀ j, j ≠ i → (interleave schedule state).1 j = state.1 j

theorem Ends.cons {state : (ι → Task α) × Cluster} {i : ι} {next : Task α} {left : Cluster}
    (hstep : (state.1 i).step state.2 = some (next, left)) {schedule : List ι}
    (h : Ends (Function.update state.1 i next, left) i schedule) :
    Ends state i (i :: schedule) := by
  have hturn : interleave (i :: schedule) state =
      interleave schedule (Function.update state.1 i next, left) := by
    rw [interleave, List.foldl_cons, turn_of_step hstep, interleave]
  refine ⟨hturn ▸ h.done, fun j hj => ?_⟩
  rw [hturn, h.others j hj]
  exact Function.update_of_ne hj ..

theorem exists_ends_of_step {state : (ι → Task α) × Cluster} {i : ι} {next : Task α}
    {left : Cluster} (hstep : (state.1 i).step state.2 = some (next, left))
    (h : ∀ later : (ι → Task α) × Cluster, later.1 i = next →
      ∃ schedule, Ends later i schedule) : ∃ schedule, Ends state i schedule := by
  obtain ⟨schedule, hends⟩ := h (Function.update state.1 i next, left) (Function.update_self ..)
  exact ⟨i :: schedule, hends.cons hstep⟩

theorem exists_ends_of_ready (program : Program α) (state : (ι → Task α) × Cluster) (i : ι)
    (h : state.1 i = .ready program) : ∃ schedule, Ends state i schedule := by
  induction program generalizing state with
  | done result => exact ⟨[], ⟨result, h⟩, fun _ _ => rfl⟩
  | call c next ih =>
      cases hscript : state.2.scripted.lookup c.method with
      | some outcome =>
          have hstep : (state.1 i).step state.2 =
              some (.ready (next (Cluster.scriptedAnswer outcome c)), state.2.recordCall c) := by
            rw [h, Task.step, hscript]
          exact exists_ends_of_step hstep (ih _)
      | none =>
          have hrecord : (state.1 i).step state.2 =
              some (.recorded c next, state.2.recordCall c) := by
            rw [h, Task.step, hscript]
          refine exists_ends_of_step hrecord fun later hlater => ?_
          have hanswer : (later.1 i).step later.2 =
              some (.ready (next (later.2.respond c).1), (later.2.respond c).2) := by
            rw [hlater, Task.step]
          exact exists_ends_of_step hanswer (ih _)

theorem exists_ends (state : (ι → Task α) × Cluster) (i : ι) :
    ∃ schedule, Ends state i schedule := by
  cases htask : state.1 i with
  | ready program => exact exists_ends_of_ready program state i htask
  | recorded c next =>
      have hanswer : (state.1 i).step state.2 =
          some (.ready (next (state.2.respond c).1), (state.2.respond c).2) := by
        rw [htask, Task.step]
      exact exists_ends_of_step hanswer fun later => exists_ends_of_ready _ later i

/-- No turns taken so far keep the tasks of a list from coming to their ends. -/
theorem exists_all_done (tasks : List ι) (state : (ι → Task α) × Cluster) :
    ∃ schedule, ∀ i ∈ tasks, ∃ result, (interleave schedule state).1 i = .ready (.done result) := by
  induction tasks generalizing state with
  | nil => exact ⟨[], fun _ h => absurd h List.not_mem_nil⟩
  | cons i tasks ih =>
      obtain ⟨before, hbefore⟩ := ih state
      obtain ⟨schedule, hends⟩ := exists_ends (interleave before state) i
      refine ⟨before ++ schedule, fun j hj => ?_⟩
      have hsplit : interleave (before ++ schedule) state =
          interleave schedule (interleave before state) := List.foldl_append
      rw [hsplit]
      by_cases hji : j = i
      · subst hji
        exact hends.done
      · rw [hends.others j hji]
        exact hbefore j ((List.mem_cons.mp hj).resolve_left hji)

/-! ### Keeping apart -/

/-- Tasks stand where each of them would have come alone. -/
structure Undisturbed (places : ι → Place) (start state : (ι → Task α) × Cluster) : Prop where
  keepsTo : ∀ i, (state.1 i).KeepsTo (places i)
  results : ∀ i, ((state.1 i).run state.2).1 = ((start.1 i).run start.2).1
  holdings : ∀ i, ((state.1 i).run state.2).2.holding (places i) =
    ((start.1 i).run start.2).2.holding (places i)
  frame : ∀ place, (∀ i, place ≠ places i) → state.2.holding place = start.2.holding place

theorem undisturbed_turn {places : ι → Place} (hdistinct : Function.Injective places)
    {start state : (ι → Task α) × Cluster} (h : Undisturbed places start state) (i : ι) :
    Undisturbed places start (turn state i) := by
  obtain ⟨tasks, cluster⟩ := state
  unfold turn
  cases hstep : (tasks i).step cluster with
  | none => exact h
  | some left =>
      obtain ⟨next, left⟩ := left
      have hturn := Task.progress_of_step (h.keepsTo i) hstep
      -- to every other task the cluster looks as before
      have hagree : ∀ j, j ≠ i → Cluster.AgreeAt (places j) left cluster := fun j hj =>
        ⟨hturn.scripted, hturn.frame _ fun heq => hj (hdistinct heq)⟩
      have hrun : ∀ j, ((Function.update tasks i next j).run left).1 = ((tasks j).run cluster).1 ∧
          ((Function.update tasks i next j).run left).2.holding (places j) =
            ((tasks j).run cluster).2.holding (places j) := by
        intro j
        by_cases hj : j = i
        · subst hj
          rw [Function.update_self, hturn.run]
          exact ⟨rfl, rfl⟩
        · rw [Function.update_of_ne hj]
          have hsame := Task.run_congr (h.keepsTo j) (hagree j hj)
          exact ⟨hsame.1, hsame.2.holding⟩
      refine ⟨fun j => ?_, fun j => (hrun j).1.trans (h.results j),
        fun j => (hrun j).2.trans (h.holdings j), fun place hplace => ?_⟩
      · by_cases hj : j = i
        · subst hj
          simpa using hturn.keepsTo
        · simpa [Function.update_of_ne hj] using h.keepsTo j
      · exact (hturn.frame place (hplace i)).trans (h.frame place hplace)

theorem undisturbed_interleave {places : ι → Place} (hdistinct : Function.Injective places)
    {start : (ι → Task α) × Cluster} (hstart : ∀ i, (start.1 i).KeepsTo (places i))
    (schedule : List ι) : Undisturbed places start (interleave schedule start) := by
  have hbegin : Undisturbed places start start :=
    ⟨hstart, fun _ => rfl, fun _ => rfl, fun _ _ => rfl⟩
  exact List.foldlRecOn schedule turn hbegin fun _ h i _ => undisturbed_turn hdistinct h i

end Schedules

/-! ## Requests side by side -/

namespace Rounds

variable {runtime : Runtime} {requests : List ReconcileRequest} {memory : Memory}

def launch (runtime : Runtime) (requests : List ReconcileRequest) (memory : Memory) :
    (Fin requests.length → Task ReconcileOutcome) × Cluster :=
  (fun i => .ready (requests[i].program runtime memory.failure), memory.cluster)

/-- A schedule leads to the end of every pass. -/
structure Finishes (runtime : Runtime) (requests : List ReconcileRequest) (memory : Memory)
    (schedule : List (Fin requests.length)) (outcomes : Fin requests.length → ReconcileOutcome)
    (after : Cluster) : Prop where
  outcomes : ∀ i,
    (interleave schedule (launch runtime requests memory)).1 i = .ready (.done (outcomes i))
  after : (interleave schedule (launch runtime requests memory)).2 = after

variable {schedule : List (Fin requests.length)}
  {outcomes : Fin requests.length → ReconcileOutcome} {after : Cluster}

theorem undisturbed_launch (hdistinct : (requests.map (·.object.place)).Nodup)
    (runtime : Runtime) (memory : Memory) (schedule : List (Fin requests.length)) :
    Undisturbed (fun i : Fin requests.length => requests[i].object.place)
      (launch runtime requests memory)
      (interleave schedule (launch runtime requests memory)) := by
  have hkeeps : ∀ i, ((launch runtime requests memory).1 i).KeepsTo requests[i].object.place :=
    fun i => asks_program runtime memory.failure requests[i]
  refine undisturbed_interleave ?_ hkeeps schedule
  intro i j h
  have hi : i.val < (requests.map (·.object.place)).length := by simp
  have hj : j.val < (requests.map (·.object.place)).length := by simp
  have hsame : (requests.map (·.object.place))[i.val] = (requests.map (·.object.place))[j.val] := by
    simpa using h
  exact Fin.ext ((List.Nodup.getElem_inj_iff hdistinct).mp hsame)

theorem outcome_of_finishes (hdistinct : (requests.map (·.object.place)).Nodup)
    (h : Finishes runtime requests memory schedule outcomes after) (i : Fin requests.length) :
    outcomes i = (reconcile runtime Memory.connector requests[i] memory).1 := by
  have hresult := (undisturbed_launch hdistinct runtime memory schedule).results i
  rw [h.outcomes i] at hresult
  rw [Memory.reconcile_eq]
  exact hresult

theorem outcomes_of_finishes (hdistinct : (requests.map (·.object.place)).Nodup)
    (h : Finishes runtime requests memory schedule outcomes after) :
    List.ofFn outcomes = (reconcileAll runtime Memory.connector requests memory).1 := by
  rw [reconcileAll_eq_walk, (walk_apart (separate_reconcile runtime) hdistinct memory).1]
  refine List.ext_getElem (by simp) fun i hi _ => ?_
  have houtcome := outcome_of_finishes hdistinct h ⟨i, by simpa using hi⟩
  simpa using houtcome

theorem sameContents_of_finishes (hdistinct : (requests.map (·.object.place)).Nodup)
    (h : Finishes runtime requests memory schedule outcomes after)
    {order : List ReconcileRequest} (horder : order.Perm requests) :
    (reconcileAll runtime Memory.connector order memory).2.cluster.SameContents after := by
  have hundisturbed := undisturbed_launch hdistinct runtime memory schedule
  have hordered : (order.map (·.object.place)).Nodup :=
    (horder.map (·.object.place)).nodup_iff.mpr hdistinct
  obtain ⟨-, hplaces, hothers⟩ := walk_apart (separate_reconcile runtime) hordered memory
  refine Cluster.sameContents_of_holding fun place => ?_
  rw [reconcileAll_eq_walk, ← h.after]
  by_cases hplace : place ∈ requests.map (·.object.place)
  · obtain ⟨request, hrequest, rfl⟩ := List.mem_map.mp hplace
    obtain ⟨i, hi, rfl⟩ := List.getElem_of_mem hrequest
    have hown := hundisturbed.holdings ⟨i, hi⟩
    rw [h.outcomes ⟨i, hi⟩] at hown
    have halone := (hplaces _ (horder.mem_iff.mpr hrequest)).cluster.holding
    rw [halone, Memory.reconcile_eq]
    exact hown.symm
  · have hframe := hundisturbed.frame place fun i heq =>
      hplace (List.mem_map.mpr ⟨requests[i], List.getElem_mem _, heq.symm⟩)
    have hleft := hothers place fun hmem => hplace ((horder.map _).mem_iff.mp hmem)
    exact hleft.cluster.holding.trans hframe.symm

/--
Passes over separate objects end as if each had been alone, under every schedule,
and leave the cluster as they would one after the other.  So neither schedule nor
the order of the configured objects shows in what a round of `apply` leaves.
-/
theorem passes_independent :
    (∀ (runtime : Runtime) (requests : List ReconcileRequest) (memory : Memory)
        (schedule : List (Fin requests.length)) (outcomes : Fin requests.length → ReconcileOutcome)
        (after : Cluster),
      (requests.map (·.object.place)).Nodup →
      Finishes runtime requests memory schedule outcomes after →
      (∀ i, outcomes i = (reconcile runtime Memory.connector requests[i] memory).1) ∧
        ∀ order : List ReconcileRequest, order.Perm requests →
          (reconcileAll runtime Memory.connector order memory).2.cluster.SameContents after) ∧
    ∀ (settings : Settings) (order : List Entry) (store : Store) (memory : Memory),
      let round := applyRound (settings.withObjects order) store
      let result := apply settings Memory.connector store memory
      ∀ (schedule : List (Fin round.requests.length))
        (outcomes : Fin round.requests.length → ReconcileOutcome) (after : Cluster),
      (settings.objects.map (·.object.place)).Nodup →
      order.Perm settings.objects →
      Finishes settings.runtime round.requests memory schedule outcomes after →
      (round.conclude (List.ofFn outcomes)).store = result.1.store ∧
        after.SameContents result.2.cluster := by
  constructor
  · intro runtime requests memory schedule outcomes after hdistinct h
    refine ⟨outcome_of_finishes hdistinct h, fun order horder => ?_⟩
    exact sameContents_of_finishes hdistinct h horder
  · intro settings order store memory round result schedule outcomes after hdistinct horder h
    have hordered : ((settings.withObjects order).objects.map (·.object.place)).Nodup :=
      (horder.map (·.object.place)).nodup_iff.mpr hdistinct
    have hplaces : (round.requests.map (·.object.place)).Nodup := by
      have hpending := nodup_pending_places hordered store
      rw [← pending_admitAll hordered] at hpending
      exact hpending
    obtain ⟨hstore, hcontents⟩ := apply_perm hdistinct horder store memory
    constructor
    · rw [outcomes_of_finishes hplaces h]
      exact hstore
    · have hrow := sameContents_of_finishes hplaces h (List.Perm.refl _)
      exact hrow.symm.trans hcontents

theorem exists_finishes (runtime : Runtime) (requests : List ReconcileRequest) (memory : Memory) :
    ∃ schedule outcomes after, Finishes runtime requests memory schedule outcomes after := by
  obtain ⟨schedule, hdone⟩ :=
    exists_all_done (List.finRange requests.length) (launch runtime requests memory)
  choose outcomes houtcomes using fun i => hdone i (List.mem_finRange i)
  exact ⟨schedule, outcomes, _, houtcomes, rfl⟩

def farewell (object : DesiredObject) : ReconcileRequest :=
  ⟨object, .ok oldCluster, none, ⟨true, true, true⟩⟩

def farewells : List ReconcileRequest :=
  [farewell (.template ⟨"logs", "main", ⟨1, 1⟩, none, "\x7b\x7d"⟩),
    farewell (.pipeline ⟨"logs", "main", "\x7b\x7d"⟩)]

def logs : Memory :=
  .ofCluster ((Cluster.empty.seedTemplate "logs" "\x7b\x7d").seedPipeline "logs" "\x7b\x7d")

/-- The pipeline is deleted while the template is still being looked up. -/
def overlapping : List (Fin 2) :=
  [0, 1, 0, 1, 0, 0]

theorem farewells_finish :
    Finishes .standard farewells logs overlapping (fun _ => .onlyMarker .remove)
      { Cluster.empty with
        calls := [.templateExists "logs", .deletePipeline "logs", .deleteTemplate "logs"] } where
  outcomes
    | ⟨0, _⟩ => rfl
    | ⟨1, _⟩ => rfl
  after := rfl

def cleaning : Entry where
  object := .pipeline ⟨"orders", "main",
    "\x7b\"description\":\"cleaning\",\"processors\":[]\x7d"⟩
  deleteInCluster := true

/-- An index and a pipeline of one name, before their second round. -/
def registered : Settings × Store :=
  let settings := (ordersWith "main" "http://old.cluster:9200").withObjects [orders, cleaning]
  (settings, (apply settings Memory.connector .empty (.ofCluster .empty)).1.store)

theorem overlapping_independent :
    Finishes .standard farewells logs overlapping (fun _ => .onlyMarker .remove)
        { Cluster.empty with
          calls := [.templateExists "logs", .deletePipeline "logs", .deleteTemplate "logs"] } ∧
      (reconcile .standard Memory.connector farewells[1] logs).1 = .onlyMarker .remove ∧
      (reconcileAll .standard Memory.connector farewells.reverse logs).2.cluster.SameContents
        .empty ∧
      ∃ schedule outcomes after,
        let round := applyRound (registered.1.withObjects [cleaning, orders]) registered.2
        let result := apply registered.1 Memory.connector registered.2 (.ofCluster .empty)
        Finishes registered.1.runtime round.requests (.ofCluster .empty) schedule outcomes after ∧
          (round.conclude (List.ofFn outcomes)).store = result.1.store ∧
          after.SameContents result.2.cluster := by
  have hfarewells : (farewells.map (·.object.place)).Nodup := by decide
  have hdistinct : (registered.1.objects.map (·.object.place)).Nodup := by decide
  have horder : [cleaning, orders].Perm registered.1.objects := .swap ..
  obtain ⟨houtcomes, hcontents⟩ :=
    passes_independent.1 _ _ _ _ _ _ hfarewells farewells_finish
  obtain ⟨schedule, outcomes, after, hfinishes⟩ := exists_finishes registered.1.runtime
    (applyRound (registered.1.withObjects [cleaning, orders]) registered.2).requests
    (.ofCluster .empty)
  have hround := passes_independent.2 registered.1 [cleaning, orders] registered.2
    (.ofCluster .empty) schedule outcomes after hdistinct horder hfinishes
  refine ⟨farewells_finish, (houtcomes ⟨1, by decide⟩).symm, ?_,
    schedule, outcomes, after, hfinishes, hround⟩
  exact (hcontents _ (List.reverse_perm _)).trans ⟨rfl, rfl, rfl⟩

end Rounds

end SchemaKeeper
