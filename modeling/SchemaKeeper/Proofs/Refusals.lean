import SchemaKeeper.Proofs.Statuses

/-!
# Entries that are refused

A round reports on every entry once and leaves records alone that no entry
stands for.  An object all of whose entries are refused is not asked for: no
cluster is contacted on its behalf, and of its record nothing but the status can
change.  The refusals are weighed against that status one after the other, in
the order of the entries.  A deletion leaves alone what its names do not stand
for.
-/

namespace SchemaKeeper

theorem perm_sides {α β γ : Type} (f : α → γ) (g : β → γ) (results : List (α ⊕ β)) :
    ((results.filterMap Sum.getLeft?).map f ++ (results.filterMap Sum.getRight?).map g).Perm
      (results.map (Sum.elim f g)) := by
  induction results with
  | nil => exact .nil
  | cons result results ih =>
      cases result with
      | inl a => exact ih.cons (f a)
      | inr b => exact List.perm_middle.trans (ih.cons (g b))

/-- The calls of a contact are about the object that it is made for. -/
theorem ReconcileRequest.place_of_mem_history {World : Type} {request : ReconcileRequest}
    {runtime : Runtime} {connector : Connector World} {world : World} {contact : Contact}
    (h : contact ∈ request.contacts runtime connector world) {event : Event}
    (hevent : event ∈ contact.history) : event.call.place? = some contact.object.place := by
  obtain ⟨refused, connected, hpass, hobject, hhistory⟩ := Pass.exists_of_mem_contacts h
  have hasks := asks_program runtime none request
  rw [ReconcileRequest.program, hpass] at hasks
  rcases hhistory with hnone | ⟨gateway, after, hcalls⟩
  · rw [hnone] at hevent
    cases hevent
  · rw [hcalls] at hevent
    rw [hobject]
    exact Program.asks_of_mem_history hasks hevent

namespace Rounds

def Report.place (report : Report) : Place :=
  (report.kind, report.name)

variable {World : Type} {settings : Settings} {store : Store} {connector : Connector World}
  {world : World} {entry : Entry} {place : Place} {refusals : List Refusal}

/-! ## One report for each entry -/

theorem place_admitStep (settings : Settings) (entry : Entry) (store : Store) :
    Sum.elim Report.place (·.request.object.place) (admitStep settings entry store).1 =
      entry.object.place := by
  unfold admitStep
  cases hverdict : admitConfigured settings store entry with
  | error refusal => rfl
  | ok admitted => exact place_of_admitConfigured hverdict

theorem places_settled (runtime : Runtime) (asked : List (Pending × ReconcileOutcome))
    (store : Store) :
    (walk (settleStep runtime) asked store).1.map Report.place =
      asked.map fun item => item.1.request.object.place := by
  have hstep (item : Pending × ReconcileOutcome) (store : Store) :
      (settleStep runtime item store).1.place = item.1.request.object.place := rfl
  exact map_walk hstep asked store

/-- Reports are on the entries, each once, whatever the order of the reports is. -/
theorem places_apply (settings : Settings) (connector : Connector World) (store : Store)
    (world : World) :
    ((apply settings connector store world).1.reports.map Report.place).Perm
      (settings.objects.map (·.object.place)) := by
  have hadmitted := map_walk (place_admitStep settings) settings.objects store
  rw [apply_eq_walk, List.map_append, places_settled, askedInApply,
    map_zip_reconcileAll fun pending : Pending => pending.request.object.place, admitAll_eq_walk,
    ← hadmitted]
  exact perm_sides ..

/-! ## Objects that are refused -/

/-- The status on record once a refusal is weighed against it. -/
def weigh (prior : Option Status) (refusal : Refusal) : Option Status :=
  if (Status.error refusal.message).supersedes prior then some (Status.error refusal.message)
  else prior

/-- The report on a refusal, weighed against the status on record. -/
def refusalReport (place : Place) (prior : Option Status) (refusal : Refusal) : Report where
  kind := place.1
  name := place.2
  status := weigh prior refusal
  written := (Status.error refusal.message).supersedes prior
  recheck := none
  marker := .keep

/-- The reports on an object that is refused again and again. -/
def refusalReports (place : Place) : List Refusal → Option Status → List Report
  | [], _ => []
  | refusal :: refusals, prior =>
      refusalReport place prior refusal :: refusalReports place refusals (weigh prior refusal)

/-- There are entries for a place, and all of them are refused. -/
structure TurnedAway (settings : Settings) (store : Store) (place : Place)
    (refusals : List Refusal) : Prop where
  present : refusals ≠ []
  verdicts : (settings.objects.filter (·.object.place == place)).map
    (admitConfigured settings store) = refusals.map .error

theorem TurnedAway.not_admitted (h : TurnedAway settings store place refusals)
    (hentry : entry ∈ settings.objects) (hadmitted : isAdmitted settings store entry = true) :
    entry.object.place ≠ place := by
  intro hplace
  obtain ⟨admitted, hverdict⟩ := isAdmitted_iff.mp hadmitted
  have hmem : admitConfigured settings store entry ∈ refusals.map .error := by
    rw [← h.verdicts]
    exact List.mem_map_of_mem (List.mem_filter.mpr ⟨hentry, by simpa using hplace⟩)
  rw [hverdict] at hmem
  obtain ⟨refusal, -, hsame⟩ := List.mem_map.mp hmem
  cases hsame

theorem sameButStatus_admitStep {later : Store} (h : SameButStatus store later)
    (settings : Settings) (entry : Entry) :
    SameButStatus store (admitStep settings entry later).2 := by
  unfold admitStep
  cases admitConfigured settings later entry with
  | error refusal => exact h.refuse entry.object refusal
  | ok admitted => exact h

theorem get?_refuse (store : Store) (object : DesiredObject) (refusal : Refusal) :
    (refuse store object refusal).1.get? (Store.keyAt object.place) =
      some { store.recordAt (Store.keyAt object.place) with
        status := weigh (store.recordAt (Store.keyAt object.place)).status refusal } := by
  change (refuse store object refusal).1.get? (Store.keyOf object) = _
  simp only [refuse, get?_put, if_true]
  rfl

theorem filter_left_cons_of_eq {report : Report} (h : report.place = place)
    (results : List (Report ⊕ Pending)) :
    ((.inl report :: results).filterMap Sum.getLeft?).filter (·.place == place) =
      report :: (results.filterMap Sum.getLeft?).filter (·.place == place) := by
  have hleft : (Sum.inl report : Report ⊕ Pending).getLeft? = some report := rfl
  rw [List.filterMap_cons_some hleft, List.filter_cons_of_pos]
  simpa using h

theorem filter_left_cons_of_ne {result : Report ⊕ Pending}
    (h : Sum.elim Report.place (·.request.object.place) result ≠ place)
    (results : List (Report ⊕ Pending)) :
    ((result :: results).filterMap Sum.getLeft?).filter (·.place == place) =
      (results.filterMap Sum.getLeft?).filter (·.place == place) := by
  cases result with
  | inl report =>
      have hleft : (Sum.inl report : Report ⊕ Pending).getLeft? = some report := rfl
      rw [List.filterMap_cons_some hleft, List.filter_cons_of_neg]
      simpa using h
  | inr pending => rw [List.filterMap_cons_none rfl]

/-- What admissions have made of a place whose entries among them were refused. -/
structure Weighed (place : Place) (refusals : List Refusal) (before : Store)
    (walked : List (Report ⊕ Pending) × Store) : Prop where
  reports : (walked.1.filterMap Sum.getLeft?).filter (·.place == place) =
    refusalReports place refusals (before.recordAt (Store.keyAt place)).status
  record : walked.2.get? (Store.keyAt place) =
    if refusals = [] then before.get? (Store.keyAt place)
    else some { before.recordAt (Store.keyAt place) with
      status := refusals.foldl weigh (before.recordAt (Store.keyAt place)).status }

theorem Weighed.refused {object : DesiredObject} {refusal : Refusal} {before : Store}
    {walked : List (Report ⊕ Pending) × Store}
    (h : Weighed object.place refusals (refuse before object refusal).1 walked) :
    Weighed object.place (refusal :: refusals) before
      (.inl (refuse before object refusal).2 :: walked.1, walked.2) := by
  have hweighed := get?_refuse before object refusal
  have hat := Store.recordAt_of_get? hweighed
  constructor
  · have hown : (refuse before object refusal).2.place = object.place := rfl
    rw [filter_left_cons_of_eq hown, h.reports, hat]
    rfl
  · rw [if_neg (List.cons_ne_nil _ _), List.foldl_cons]
    refine h.record.trans ?_
    rw [hat]
    split
    next hnone =>
      subst hnone
      exact hweighed
    next => rfl

theorem Weighed.other {result : Report ⊕ Pending} {before after : Store}
    {walked : List (Report ⊕ Pending) × Store} (h : Weighed place refusals after walked)
    (hresult : Sum.elim Report.place (·.request.object.place) result ≠ place)
    (hafter : after.get? (Store.keyAt place) = before.get? (Store.keyAt place)) :
    Weighed place refusals before (result :: walked.1, walked.2) where
  reports := by
    rw [filter_left_cons_of_ne hresult, h.reports, recordAt_congr hafter]
  record := by
    rw [← recordAt_congr hafter, ← hafter]
    exact h.record

/-- Among other entries those of a refused object are weighed one after the other. -/
theorem weighed_walk {entries : List Entry} {later : Store} (hsame : SameButStatus store later)
    (hverdicts : (entries.filter (·.object.place == place)).map (admitConfigured settings store) =
      refusals.map .error) :
    Weighed place refusals later (walk (admitStep settings) entries later) := by
  induction entries generalizing later refusals with
  | nil =>
      obtain rfl := List.map_eq_nil_iff.mp hverdicts.symm
      exact ⟨rfl, (if_pos rfl).symm⟩
  | cons entry entries ih =>
      by_cases hplace : entry.object.place = place
      · subst hplace
        rw [List.filter_cons_of_pos (by simp), List.map_cons] at hverdicts
        cases refusals with
        | nil => cases hverdicts
        | cons refusal refusals =>
            obtain ⟨hverdict, hrest⟩ := List.cons.inj hverdicts
            -- no refusal so far has changed the origin by which the entry is judged
            have hstep : admitStep settings entry later =
                (.inl (refuse later entry.object refusal).2,
                  (refuse later entry.object refusal).1) := by
              rw [admitStep, admitConfigured_congr settings (hsame.origin _), hverdict]
            simp only [walk, hstep]
            exact (ih (hsame.refuse entry.object refusal) hrest).refused
      · rw [List.filter_cons_of_neg (by simpa using hplace)] at hverdicts
        have hkey : Store.keyAt place ≠ Store.keyOf entry.object :=
          fun hkey => hplace (Store.keyAt_inj.mp hkey.symm)
        have hother : Sum.elim Report.place (·.request.object.place)
            (admitStep settings entry later).1 ≠ place := by
          rwa [place_admitStep]
        exact (ih (sameButStatus_admitStep hsame settings entry) hverdicts).other hother
          ((separate_admitStep settings).frame entry later hkey)

section

variable (h : TurnedAway settings store place refusals) (connector : Connector World)
  (world : World)

include h

theorem get?_apply_of_turnedAway :
    let prior := store.recordAt (Store.keyAt place)
    (apply settings connector store world).1.store.get? (Store.keyAt place) =
      some { prior with status := refusals.foldl weigh prior.status } := by
  have hspared : ∀ entry ∈ settings.objects, isAdmitted settings store entry = true →
      Store.keyOf entry.object ≠ Store.keyAt place :=
    fun entry hentry hadmitted hkey =>
      h.not_admitted hentry hadmitted (Store.keyAt_inj.mp hkey)
  have hwalked := (weighed_walk (.refl store) h.verdicts).record
  rw [if_neg h.present] at hwalked
  rw [get?_apply_of_not_asked hspared, admitAll_eq_walk]
  exact hwalked

theorem reports_of_turnedAway :
    (apply settings connector store world).1.reports.filter (·.place == place) =
      refusalReports place refusals (store.recordAt (Store.keyAt place)).status := by
  have hsettled : (walk (settleStep settings.runtime) (askedInApply settings connector store world)
      (admitAll settings store).store).1.filter (·.place == place) = [] := by
    refine List.filter_eq_nil_iff.mpr fun report hreport => ?_
    have hmem := List.mem_map_of_mem (f := Report.place) hreport
    rw [places_settled] at hmem
    obtain ⟨item, hitem, hsame⟩ := List.mem_map.mp hmem
    obtain ⟨entry, hentry, hadmitted, -, hplace⟩ := exists_admitted_of_asked hitem
    rw [beq_iff_eq, ← hsame, hplace]
    exact h.not_admitted hentry hadmitted
  rw [apply_eq_walk, List.filter_append, hsettled, List.append_nil, admitAll_eq_walk]
  exact (weighed_walk (.refl store) h.verdicts).reports

/-- No cluster hears of an object that is refused. -/
theorem uncontacted_of_turnedAway {contact : Contact}
    (hcontact : contact ∈ (Turn.apply settings).contacts connector (store, world)) :
    contact.object.place ≠ place ∧ ∀ event ∈ contact.history, event.call.place? ≠ some place := by
  obtain ⟨request, hrequest, before, hmade⟩ := exists_of_mem_contactsAll hcontact
  obtain ⟨entry, hentry, admitted, hverdict, hobject, -⟩ := exists_of_mem_applyRound hrequest
  have hplace : contact.object.place = entry.object.place := by
    rw [ReconcileRequest.object_of_mem_contacts hmade, hobject]
    exact place_of_admitConfigured hverdict
  have hother : contact.object.place ≠ place := by
    rw [hplace]
    exact h.not_admitted hentry (isAdmitted_iff.mpr ⟨admitted, hverdict⟩)
  refine ⟨hother, fun event hevent hcall => hother ?_⟩
  exact Option.some.inj ((ReconcileRequest.place_of_mem_history hmade hevent).symm.trans hcall)

end

/-! ## Rounds leave alone what is not theirs -/

/--
A round reports on every entry once and leaves records alone that no entry stands
for.  An object whose entries are all refused is not contacted; its record keeps
all but the status, and that is replaced exactly as its reports say.  A deletion
leaves records alone that its names do not stand for.
-/
theorem rounds_keep_to_their_own (settings : Settings) (store : Store)
    (connector : Connector World) (world : World) :
    let result := (apply settings connector store world).1
    (result.reports.map Report.place).Perm (settings.objects.map (·.object.place)) ∧
    (∀ key, (∀ entry ∈ settings.objects, Store.keyOf entry.object ≠ key) →
      result.store.get? key = store.get? key) ∧
    (∀ place refusals, TurnedAway settings store place refusals →
      let prior := store.recordAt (Store.keyAt place)
      (∀ contact ∈ (Turn.apply settings).contacts connector (store, world),
        contact.object.place ≠ place ∧
          ∀ event ∈ contact.history, event.call.place? ≠ some place) ∧
      result.store.get? (Store.keyAt place) =
        some { prior with status := refusals.foldl weigh prior.status } ∧
      result.reports.filter (·.place == place) = refusalReports place refusals prior.status) ∧
    ∀ names key,
      (∀ name ∈ names, ∀ entry ∈ deletionTargets settings store name,
        Store.keyOf entry.object ≠ key) →
      (delete settings connector store names world).1.store.get? key = store.get? key := by
  refine ⟨places_apply .., fun key hkey => ?_, fun place refusals h => ⟨fun contact hcontact => ?_,
    get?_apply_of_turnedAway h connector world, reports_of_turnedAway h connector world⟩,
    fun names key hkey => ?_⟩
  · refine get?_apply_of_not_mem (fun hmem => ?_) connector store world
    obtain ⟨entry, hentry, hown⟩ := List.mem_map.mp hmem
    exact hkey entry hentry hown
  · exact uncontacted_of_turnedAway h connector world hcontact
  · rw [get?_delete, if_neg]
    rw [mem_deletedKeys_iff]
    rintro ⟨name, hname, entry, htarget, hown⟩
    exact hkey name hname entry htarget hown

/-- The index with more shards, which an update cannot give it. -/
def reshardedOrders : Entry :=
  { orders with object := .index { registeredOrders with counts := ⟨4, 1⟩ } }

/-- Settings that ask twice for other shards, and for a pipeline besides. -/
def resharding : Settings :=
  (ordersWith "main" "http://old.cluster:9200").withObjects
    [reshardedOrders, cleaning, reshardedOrders]

def resharded : Refusal :=
  .rejected ⟨.index, "orders", [.shardsChanged]⟩

def ordersPlace : Place :=
  (.index, "orders")

/--
The first refusal is written, the second says nothing new, and the index stays as
it was; so it does when the pipeline of its name is deleted.
-/
theorem resharding_turned_away :
    TurnedAway resharding settled.1 ordersPlace [resharded, resharded] ∧
      ((apply resharding Memory.connector settled.1 settled.2).1.reports.map Report.place).Perm
        (resharding.objects.map (·.object.place)) ∧
      (∀ contact ∈ (Turn.apply resharding).contacts Memory.connector (settled.1, settled.2),
        contact.object.place ≠ ordersPlace ∧
          ∀ event ∈ contact.history, event.call.place? ≠ some ordersPlace) ∧
      (apply resharding Memory.connector settled.1 settled.2).1.store.get?
          (Store.keyAt ordersPlace) =
        some { ordersRecord with status := some (Status.error resharded.message) } ∧
      (apply resharding Memory.connector settled.1 settled.2).1.reports.filter
          (·.place == ordersPlace) =
        [⟨.index, "orders", some (Status.error resharded.message), true, none, .keep⟩,
          ⟨.index, "orders", some (Status.error resharded.message), false, none, .keep⟩] ∧
      (∀ name ∈ ["orders"], ∀ entry ∈ deletionTargets (resharding.withObjects [cleaning])
        settled.1 name, Store.keyOf entry.object ≠ Store.keyAt ordersPlace) ∧
      (delete (resharding.withObjects [cleaning]) Memory.connector settled.1 ["orders"]
        settled.2).1.store.get? (Store.keyAt ordersPlace) = some ordersRecord := by
  have hrecord : settled.1.get? (Store.keyAt ordersPlace) = some ordersRecord := by
    decide +kernel
  have hat : settled.1.recordAt (Store.keyAt ordersPlace) = ordersRecord :=
    Store.recordAt_of_get? hrecord
  have haway : TurnedAway resharding settled.1 ordersPlace [resharded, resharded] :=
    ⟨List.cons_ne_nil _ _, by decide +kernel⟩
  have htargets : ∀ name ∈ ["orders"], ∀ entry ∈ deletionTargets
      (resharding.withObjects [cleaning]) settled.1 name,
        Store.keyOf entry.object ≠ Store.keyAt ordersPlace := by
    decide +kernel
  have hweighed : [resharded, resharded].foldl weigh ordersRecord.status =
      some (Status.error resharded.message) := by
    decide +kernel
  have hwritten : refusalReports ordersPlace [resharded, resharded] ordersRecord.status =
      [⟨.index, "orders", some (Status.error resharded.message), true, none, .keep⟩,
        ⟨.index, "orders", some (Status.error resharded.message), false, none, .keep⟩] := by
    decide +kernel
  obtain ⟨hplaces, -, hrefused, -⟩ :=
    rounds_keep_to_their_own resharding settled.1 Memory.connector settled.2
  obtain ⟨-, -, -, hdeleted⟩ := rounds_keep_to_their_own (resharding.withObjects [cleaning])
    settled.1 Memory.connector settled.2
  obtain ⟨huncontacted, hkept, hreports⟩ := hrefused ordersPlace _ haway
  rw [hat, hweighed] at hkept
  rw [hat, hwritten] at hreports
  exact ⟨haway, hplaces, huncontacted, hkept, hreports, htargets,
    (hdeleted _ _ htargets).trans hrecord⟩

end Rounds

end SchemaKeeper
