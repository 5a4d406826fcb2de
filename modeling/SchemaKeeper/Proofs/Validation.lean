import SchemaKeeper.Proofs.Refusals

/-!
# Validation foretells what is admitted

Validation judges every entry by the store as it is.  A round of `apply` judges
them one after the other, by a store to which the refusals so far were written.
Refusals change no more than statuses, and no verdict depends on a status, so
both refuse the same entries for the same reasons.
-/

namespace SchemaKeeper.Rounds

variable {World : Type} {settings : Settings} {store : Store}

/-! ## Entry by entry -/

/-- What is admitted before the entry at a position has its turn. -/
def admittedUpTo (settings : Settings) (store : Store) (i : Nat) : Admitted :=
  (settings.objects.take i).foldl (admitNext settings) ⟨store, [], []⟩

/-- The next state if an entry is refused. -/
def Admitted.refusing (state : Admitted) (object : DesiredObject) (refusal : Refusal) : Admitted :=
  { state with
    store := (refuse state.store object refusal).1
    reports := state.reports ++ [(refuse state.store object refusal).2] }

/-- The next state if an entry is admitted. -/
def Admitted.pendingOn (state : Admitted) (pending : Pending) : Admitted :=
  { state with pending := state.pending ++ [pending] }

theorem admitNext_eq (state : Admitted) (entry : Entry) :
    admitNext settings state entry =
      match admitConfigured settings state.store entry with
      | .ok admitted => state.pendingOn (pendingOf settings state.store entry admitted)
      | .error refusal => state.refusing entry.object refusal :=
  rfl

theorem admittedUpTo_succ (settings : Settings) (store : Store)
    (i : Fin settings.objects.length) :
    admittedUpTo settings store (i + 1) =
      admitNext settings (admittedUpTo settings store i) (settings.objects.get i) := by
  rw [admittedUpTo, List.take_succ_eq_append_getElem i.isLt, List.foldl_append]
  rfl

theorem admitAll_eq_foldl (settings : Settings) (store : Store) (i : Nat) :
    admitAll settings store =
      (settings.objects.drop i).foldl (admitNext settings) (admittedUpTo settings store i) := by
  rw [admittedUpTo, ← List.foldl_append, List.take_append_drop, admitAll]

/-- What is reported and pending at some position stays so. -/
theorem exists_admitAll_append (settings : Settings) (store : Store) (i : Nat) :
    ∃ reports pending,
      (admitAll settings store).reports = (admittedUpTo settings store i).reports ++ reports ∧
        (admitAll settings store).pending = (admittedUpTo settings store i).pending ++ pending := by
  rw [admitAll_eq_foldl settings store i, foldl_admitNext]
  exact ⟨_, _, rfl, rfl⟩

/-- Whatever was refused before, an entry is judged as by the store at the beginning. -/
theorem admitConfigured_admittedUpTo (settings : Settings) (store : Store) (i : Nat)
    (entry : Entry) :
    admitConfigured settings (admittedUpTo settings store i).store entry =
      admitConfigured settings store entry :=
  admitConfigured_congr settings
    ((sameButStatus_foldl_admitNext (settings.objects.take i) (.refl store)).origin _)

section

variable {i : Fin settings.objects.length}

theorem admittedUpTo_of_error {refusal : Refusal}
    (h : admitConfigured settings store (settings.objects.get i) = .error refusal) :
    admittedUpTo settings store (i + 1) =
      (admittedUpTo settings store i).refusing (settings.objects.get i).object refusal := by
  rw [admittedUpTo_succ, admitNext_eq, admitConfigured_admittedUpTo, h]

theorem admittedUpTo_of_ok {admitted : Entry}
    (h : admitConfigured settings store (settings.objects.get i) = .ok admitted) :
    admittedUpTo settings store (i + 1) =
      (admittedUpTo settings store i).pendingOn (pendingOf settings
        (admittedUpTo settings store i).store (settings.objects.get i) admitted) := by
  rw [admittedUpTo_succ, admitNext_eq, admitConfigured_admittedUpTo, h]

end

/-- The message of a refusal can be read off the status that it builds. -/
theorem message_of_weigh_eq {prior : Option Status} {refusal other : Refusal}
    (h : weigh prior refusal = weigh prior other) : refusal.message = other.message := by
  have hmessage (refusal : Refusal) :
      (weigh prior refusal).map Status.message = some refusal.message := by
    have herror : (Status.error refusal.message).state ≠ .created := nofun
    rw [weigh, ← Status.some_over, Option.map_some, Status.message_over (.inl herror)]
    rfl
  exact Option.some.inj ((hmessage refusal).symm.trans (h ▸ hmessage other))

theorem message_of_refusing_eq {state : Admitted} {object : DesiredObject}
    {refusal other : Refusal} (h : state.refusing object refusal = state.refusing object other) :
    refusal.message = other.message := by
  have hreports := List.append_cancel_left (congrArg Admitted.reports h)
  exact message_of_weigh_eq (congrArg Report.status (List.singleton_inj.mp hreports))

theorem refusing_ne_pendingOn {state : Admitted} {object : DesiredObject} {refusal : Refusal}
    {pending : Pending} : state.refusing object refusal ≠ state.pendingOn pending := by
  intro h
  have hlength := congrArg (fun after => after.reports.length) h
  simp [Admitted.refusing, Admitted.pendingOn] at hlength

/-! ## What becomes of an entry -/

section

variable (settings : Settings) (store : Store) (connector : Connector World) (world : World)
  (i : Fin settings.objects.length)

/-- The entry at a position is refused: all it leaves is a status and a report that say so. -/
def RefusedAt (message : String) : Prop :=
  let before := admittedUpTo settings store i
  let object := (settings.objects.get i).object
  let prior := (before.store.recordAt (Store.keyOf object)).status
  ∃ refusal : Refusal, refusal.message = message ∧
    admittedUpTo settings store (i + 1) = before.refusing object refusal ∧
      (apply settings connector store world).1.reports[before.reports.length]? =
        some (refusalReport object.place prior refusal)

/-- The entry at a position is handed on, and a pass is made over it. -/
def HandedOnAt : Prop :=
  let before := admittedUpTo settings store i
  ∃ admitted,
    let pending := pendingOf settings before.store (settings.objects.get i) admitted
    admittedUpTo settings store (i + 1) = before.pendingOn pending ∧
      ∃ began, ((Turn.apply settings).passes connector (store, world))[before.pending.length]? =
        some (pending.request, began)

end

section

variable {connector : Connector World} {world : World} {i : Fin settings.objects.length}

theorem refusedAt_of_error {refusal : Refusal}
    (h : admitConfigured settings store (settings.objects.get i) = .error refusal) :
    RefusedAt settings store connector world i refusal.message := by
  have hstep := admittedUpTo_of_error h
  obtain ⟨reports, -, hreports, -⟩ := exists_admitAll_append settings store (i + 1)
  refine ⟨refusal, rfl, hstep, ?_⟩
  rw [apply_eq_walk, hreports, hstep]
  simp only [Admitted.refusing, List.append_assoc, List.getElem?_append_right, le_refl,
    Nat.sub_self]
  rfl

theorem map_fst_passes (runtime : Runtime) (connector : Connector World)
    (requests : List ReconcileRequest) (world : World) :
    (passes runtime connector requests world).map Prod.fst = requests := by
  induction requests generalizing world with
  | nil => rfl
  | cons request requests ih => exact congrArg (request :: ·) (ih _)

theorem handedOnAt_of_ok {admitted : Entry}
    (h : admitConfigured settings store (settings.objects.get i) = .ok admitted) :
    HandedOnAt settings store connector world i := by
  let before := admittedUpTo settings store i
  let pending := pendingOf settings before.store (settings.objects.get i) admitted
  have hstep : admittedUpTo settings store (i + 1) = before.pendingOn pending :=
    admittedUpTo_of_ok h
  obtain ⟨-, more, -, hmore⟩ := exists_admitAll_append settings store (i + 1)
  have hall : (admitAll settings store).pending = before.pending ++ pending :: more := by
    rw [hmore, hstep, Admitted.pendingOn, List.append_assoc, List.singleton_append]
  have hrequests : ((Turn.apply settings).passes connector (store, world)).map Prod.fst =
      (before.pending ++ pending :: more).map Pending.request := by
    rw [← hall]
    exact map_fst_passes ..
  have hat : (((Turn.apply settings).passes connector (store, world))[before.pending.length]?).map
      Prod.fst = some pending.request := by
    rw [← List.getElem?_map, hrequests]
    simp
  obtain ⟨⟨request, began⟩, hpass, rfl⟩ := Option.map_eq_some_iff.mp hat
  exact ⟨admitted, hstep, began, hpass⟩

/-- The turn of an entry shows how the store at the beginning judges it. -/
theorem refusedAt_iff {message : String} :
    RefusedAt settings store connector world i message ↔
      ∃ refusal : Refusal, refusal.message = message ∧
        admitConfigured settings store (settings.objects.get i) = .error refusal := by
  constructor
  · rintro ⟨refusal, rfl, hstep, -⟩
    cases hverdict : admitConfigured settings store (settings.objects.get i) with
    | error other =>
        have hsame := (admittedUpTo_of_error hverdict).symm.trans hstep
        exact ⟨other, message_of_refusing_eq hsame, rfl⟩
    | ok admitted =>
        exact absurd (hstep.symm.trans (admittedUpTo_of_ok hverdict)) refusing_ne_pendingOn
  · rintro ⟨refusal, rfl, hverdict⟩
    exact refusedAt_of_error hverdict

theorem handedOnAt_iff :
    HandedOnAt settings store connector world i ↔
      ∃ admitted, admitConfigured settings store (settings.objects.get i) = .ok admitted := by
  constructor
  · rintro ⟨admitted, hstep, -⟩
    cases hverdict : admitConfigured settings store (settings.objects.get i) with
    | error refusal =>
        exact absurd ((admittedUpTo_of_error hverdict).symm.trans hstep) refusing_ne_pendingOn
    | ok admitted => exact ⟨admitted, rfl⟩
  · rintro ⟨admitted, hverdict⟩
    exact handedOnAt_of_ok hverdict

end

/-! ## Verdicts and rounds -/

/-- The verdict of validation on one entry. -/
def verdictOn (settings : Settings) (store : Store) (entry : Entry) : Verdict where
  kind := entry.object.kind
  name := entry.object.name
  refused :=
    match admitConfigured settings store entry with
    | .ok _ => none
    | .error refusal => some refusal

theorem getElem?_validate (settings : Settings) (store : Store)
    (i : Fin settings.objects.length) :
    (validate settings store)[i.val]? =
      some (verdictOn settings store (settings.objects.get i)) := by
  have hmap : validate settings store = settings.objects.map (verdictOn settings store) := rfl
  rw [hmap, List.getElem?_map, List.getElem?_eq_getElem i.isLt]
  rfl

section

variable {entry : Entry}

theorem refused_verdictOn_iff {message : String} :
    (verdictOn settings store entry).refused.map Refusal.message = some message ↔
      ∃ refusal : Refusal, refusal.message = message ∧
        admitConfigured settings store entry = .error refusal := by
  unfold verdictOn
  cases admitConfigured settings store entry with
  | error refusal => simp [and_comm]
  | ok admitted => simp

theorem unrefused_verdictOn_iff :
    (verdictOn settings store entry).refused = none ↔
      ∃ admitted, admitConfigured settings store entry = .ok admitted := by
  unfold verdictOn
  cases admitConfigured settings store entry <;> simp

end

/--
Validation gives one verdict for each entry, in order.  A round refuses an entry
with exactly the message of its verdict, and hands on exactly the entries whose
verdict is that nothing speaks against them; the connector has no say in it.
-/
theorem validate_foretells_apply (settings : Settings) (store : Store)
    (connector : Connector World) (world : World) :
    (validate settings store).length = settings.objects.length ∧
    ∀ i : Fin settings.objects.length,
      ∃ verdict, (validate settings store)[i.val]? = some verdict ∧
        (verdict.kind, verdict.name) = (settings.objects.get i).object.place ∧
        (∀ message, verdict.refused.map Refusal.message = some message ↔
          RefusedAt settings store connector world i message) ∧
        (verdict.refused = none ↔ HandedOnAt settings store connector world i) := by
  refine ⟨List.length_map _, fun i => ⟨_, getElem?_validate settings store i, rfl, ?_, ?_⟩⟩
  · intro message
    exact refused_verdictOn_iff.trans refusedAt_iff.symm
  · exact unrefused_verdictOn_iff.trans handedOnAt_iff.symm

end SchemaKeeper.Rounds
