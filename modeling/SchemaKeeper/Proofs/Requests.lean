import Mathlib.Data.List.Nodup
import SchemaKeeper.Proofs.Independence

/-!
# What a round asks for

A round of `apply` asks for the entries that are admitted, each judged by the
store that the round begins with: refusals in between change no more than
statuses.  A round of `delete` asks for what its names stand for, each name
once.  Neither looks for an object that is listed twice, so a round asks for
nothing twice exactly when no object it has to do with is.
-/

namespace SchemaKeeper

theorem Table.mem_values_iff {α : Type} {table : Table α} {value : α} :
    value ∈ table.values ↔ ∃ key, table.get? key = some value := by
  constructor
  · intro h
    obtain ⟨⟨key, _⟩, hentry, rfl⟩ := List.mem_map.mp h
    exact ⟨key, Entries.lookup_of_mem table.ordered hentry⟩
  · rintro ⟨key, h⟩
    exact List.mem_map_of_mem (f := Prod.snd) (Entries.mem_of_lookup h)

namespace Rounds

variable {World : Type} {settings : Settings} {store : Store} {entry : Entry}

/-- The keys of the objects that a round asks for. -/
def Round.keys {Result : Type} (round : Round Result) : List String :=
  round.requests.map (Store.keyOf ·.object)

/-! ## Entries that are admitted -/

theorem keys_applyRound (settings : Settings) (store : Store) :
    (applyRound settings store).keys =
      (settings.objects.filter (isAdmitted settings store)).map (Store.keyOf ·.object) := by
  have hkeys : List.Forall₂ (fun entry pending => Store.keyOf entry.object =
      Store.keyOf pending.request.object) (settings.objects.filter (isAdmitted settings store))
      (admitAll settings store).pending :=
    (forall₂_admitAll settings store).imp fun _ _ h => (h.own.trans h.key).symm
  rw [Round.keys, applyRound, List.map_map]
  exact (List.forall₂_eq_eq_eq ▸ (List.forall₂_map_left_iff.mpr
    (List.forall₂_map_right_iff.mpr hkeys))).symm

/-! ## What a name stands for -/

theorem nodup_distinct (names : List String) : (distinct names).Nodup := by
  induction names with
  | nil => exact .nil
  | cons first names ih => exact .cons (by simp) (ih.filter _)

/-- The entries that the records of a store remember. -/
def remembered (store : Store) : List Entry :=
  store.objects.values.filterMap (·.applied)

theorem mem_remembered_iff :
    entry ∈ remembered store ↔
      ∃ key record, store.get? key = some record ∧ record.applied = some entry := by
  simp only [remembered, List.mem_filterMap, Table.mem_values_iff, Store.get?]
  constructor
  · rintro ⟨record, ⟨key, hrecord⟩, happlied⟩
    exact ⟨key, record, hrecord, happlied⟩
  · rintro ⟨key, record, hrecord, happlied⟩
    exact ⟨record, ⟨key, hrecord⟩, happlied⟩

def IsConfigured (settings : Settings) (name : String) : Prop :=
  ∃ entry ∈ settings.objects, entry.object.name = name

theorem deletionTargets_of_configured {name : String} (h : IsConfigured settings name) :
    deletionTargets settings store name =
      settings.objects.filter fun entry => entry.object.name == name := by
  obtain ⟨entry, hentry, hname⟩ := h
  have hmem : entry ∈ settings.objects.filter fun entry => entry.object.name == name :=
    List.mem_filter.mpr ⟨hentry, by simpa using hname⟩
  have hsome : (settings.objects.filter fun entry => entry.object.name == name).isEmpty = false :=
    List.isEmpty_eq_false_iff.mpr (List.ne_nil_of_mem hmem)
  simp only [deletionTargets, hsome, Bool.false_eq_true, if_false]

theorem filter_of_not_configured {name : String} (h : ¬IsConfigured settings name) :
    (settings.objects.filter fun entry => entry.object.name == name) = [] := by
  rw [List.filter_eq_nil_iff]
  intro entry hentry hname
  exact h ⟨entry, hentry, by simpa using hname⟩

theorem deletionTargets_of_not_configured {name : String} (h : ¬IsConfigured settings name) :
    deletionTargets settings store name =
      (remembered store).filter fun entry => entry.object.name == name := by
  simp only [deletionTargets, filter_of_not_configured h, List.isEmpty_nil, if_true, remembered]

theorem mem_deletionTargets_iff {name : String} :
    entry ∈ deletionTargets settings store name ↔
      entry.object.name = name ∧
        (entry ∈ settings.objects ∨ ¬IsConfigured settings name ∧ entry ∈ remembered store) := by
  by_cases h : IsConfigured settings name
  · rw [deletionTargets_of_configured h, List.mem_filter, beq_iff_eq]
    simp [h, and_comm]
  · rw [deletionTargets_of_not_configured h, List.mem_filter, beq_iff_eq]
    have hnot : entry.object.name = name → entry ∉ settings.objects :=
      fun hname hentry => h ⟨entry, hentry, hname⟩
    constructor
    · rintro ⟨hmem, hname⟩
      exact ⟨hname, .inr ⟨h, hmem⟩⟩
    · rintro ⟨hname, hconfigured | ⟨-, hmem⟩⟩
      · exact absurd hconfigured (hnot hname)
      · exact ⟨hmem, hname⟩

theorem keys_deleteRound (settings : Settings) (store : Store) (names : List String) :
    (deleteRound settings store names).keys =
      (distinct names).flatMap fun name =>
        (deletionTargets settings store name).map (Store.keyOf ·.object) := by
  simp only [Round.keys, deleteRound, List.map_map, List.map_flatMap]
  rfl

/-! ## Asking for nothing twice -/

theorem nodup_keys_iff {entries : List Entry} :
    (entries.map (Store.keyOf ·.object)).Nodup ↔
      entries.Pairwise fun a b => a.object.place ≠ b.object.place := by
  rw [List.Nodup, List.pairwise_map]
  simp only [ne_eq, Store.keyOf_eq_iff]

theorem nodup_keys_applyRound_iff :
    (applyRound settings store).keys.Nodup ↔
      settings.objects.Pairwise fun a b => isAdmitted settings store a = true →
        isAdmitted settings store b = true → a.object.place ≠ b.object.place := by
  rw [keys_applyRound, nodup_keys_iff, List.pairwise_filter]

/-- Entries of different names are different objects, so each name can be looked at alone. -/
theorem nodup_keys_deleteRound_iff {names : List String} :
    (deleteRound settings store names).keys.Nodup ↔
      ∀ name ∈ names, (deletionTargets settings store name).Pairwise
        fun a b => a.object.place ≠ b.object.place := by
  have hapart : (distinct names).Pairwise fun name other =>
      List.Disjoint ((deletionTargets settings store name).map (Store.keyOf ·.object))
        ((deletionTargets settings store other).map (Store.keyOf ·.object)) := by
    refine (nodup_distinct names).imp fun hne key hkey hother => ?_
    obtain ⟨a, ha, rfl⟩ := List.mem_map.mp hkey
    obtain ⟨b, hb, hsame⟩ := List.mem_map.mp hother
    have hname : b.object.name = a.object.name :=
      congrArg Prod.snd (Store.keyOf_eq_iff.mp hsame)
    rw [(mem_deletionTargets_iff.mp ha).1, (mem_deletionTargets_iff.mp hb).1] at hname
    exact hne hname.symm
  rw [keys_deleteRound, List.nodup_flatMap]
  simp only [mem_distinct, nodup_keys_iff]
  exact and_iff_left hapart

theorem pairwise_named_iff {entries : List Entry} {P : String → Prop} :
    (entries.Pairwise fun a b => P a.object.name → a.object.place ≠ b.object.place) ↔
      ∀ name, P name → (entries.filter fun entry => entry.object.name == name).Pairwise
        fun a b => a.object.place ≠ b.object.place := by
  simp only [List.pairwise_filter, beq_iff_eq]
  simp only [List.pairwise_iff_forall_sublist]
  constructor
  · rintro h name hname a b hsub rfl -
    exact h hsub hname
  · intro h a b hsub hname hplace
    exact h _ hname hsub rfl (congrArg Prod.snd hplace).symm hplace

theorem pairwise_deletionTargets_iff {names : List String} :
    (∀ name ∈ names, (deletionTargets settings store name).Pairwise
        fun a b => a.object.place ≠ b.object.place) ↔
      (settings.objects.Pairwise fun a b => a.object.name ∈ names →
        a.object.place ≠ b.object.place) ∧
      (remembered store).Pairwise fun a b =>
        a.object.name ∈ names ∧ ¬IsConfigured settings a.object.name →
          a.object.place ≠ b.object.place := by
  rw [pairwise_named_iff (P := (· ∈ names)),
    pairwise_named_iff (P := fun name => name ∈ names ∧ ¬IsConfigured settings name)]
  constructor
  · intro h
    refine ⟨fun name hname => ?_, fun name ⟨hname, hnot⟩ => ?_⟩
    · by_cases hconfigured : IsConfigured settings name
      · exact deletionTargets_of_configured hconfigured ▸ h name hname
      · rw [filter_of_not_configured hconfigured]
        exact .nil
    · exact deletionTargets_of_not_configured hnot ▸ h name hname
  · rintro ⟨hconfigured, hremembered⟩ name hname
    by_cases hname' : IsConfigured settings name
    · rw [deletionTargets_of_configured hname']
      exact hconfigured name hname
    · rw [deletionTargets_of_not_configured hname']
      exact hremembered name ⟨hname, hname'⟩

/-! ## What runs remember -/

/-- Whatever is remembered is remembered under its own key. -/
def Rooted (store : Store) : Prop :=
  ∀ key entry, (store.recordAt key).applied = some entry → Store.keyOf entry.object = key

theorem Rooted.keyOf_eq (h : Rooted store) {key : String} {record : ObjectRecord}
    (hrecord : store.get? key = some record) (happlied : record.applied = some entry) :
    Store.keyOf entry.object = key := by
  refine h key entry ?_
  rw [Store.recordAt, hrecord]
  exact happlied

theorem rooted_runTurns (connector : Connector World) (world : World) (turns : List Turn) :
    Rooted (runTurns connector turns (.empty, world)).1 := by
  intro key entry happlied
  rcases exists_admits_of_origin connector world turns key with hblank | hmade
  · cases happlied.symm.trans (congrArg Origin.applied hblank)
  · obtain ⟨before, last, after, -, hadmits, -⟩ := hmade
    obtain ⟨wanted, -, admitted, rfl, hverdict, horigin⟩ := hadmits
    obtain rfl := Option.some.inj (happlied.symm.trans (congrArg Origin.applied horigin))
    exact keyOf_admitted hverdict

theorem Rooted.pairwise_remembered (h : Rooted store) :
    (remembered store).Pairwise fun a b => a.object.place ≠ b.object.place := by
  have hkey : ∀ item ∈ store.objects.entries, ∀ entry, item.2.applied = some entry →
      Store.keyOf entry.object = item.1 := by
    intro item hitem entry happlied
    exact h.keyOf_eq (Entries.lookup_of_mem store.objects.ordered hitem) happlied
  -- a table holds each key once, and here the keys are those of the entries themselves
  have hordered : store.objects.entries.Pairwise fun a b => a.1 < b.1 :=
    List.pairwise_map.mp store.objects.ordered
  rw [remembered, Table.values, List.pairwise_filterMap, List.pairwise_map]
  refine hordered.imp_of_mem fun {x y} hx hy hlt a ha b hb hplace => ?_
  rw [← hkey x hx a ha, ← hkey y hy b hb, Store.keyOf_eq_iff.mpr hplace] at hlt
  exact String.lt_irrefl _ hlt

/--
A round asks for no object twice exactly when, of the entries that it has to do
with, no two are one object.  What a run remembers never is one object twice, so
after a run only the settings can make a round ask for an object twice.
-/
theorem single_flight_iff (settings : Settings) (store : Store) (names : List String) :
    ((applyRound settings store).keys.Nodup ↔
      settings.objects.Pairwise fun a b => isAdmitted settings store a = true →
        isAdmitted settings store b = true → a.object.place ≠ b.object.place) ∧
    ((deleteRound settings store names).keys.Nodup ↔
      (settings.objects.Pairwise fun a b => a.object.name ∈ names →
        a.object.place ≠ b.object.place) ∧
      (remembered store).Pairwise fun a b =>
        a.object.name ∈ names ∧ ¬IsConfigured settings a.object.name →
          a.object.place ≠ b.object.place) ∧
    ∀ {World : Type} (connector : Connector World) (world : World) (turns : List Turn),
      (remembered (runTurns connector turns (.empty, world)).1).Pairwise
        fun a b => a.object.place ≠ b.object.place :=
  ⟨nodup_keys_applyRound_iff, nodup_keys_deleteRound_iff.trans pairwise_deletionTargets_iff,
    fun connector world turns => (rooted_runTurns connector world turns).pairwise_remembered⟩

def ordersTwice : Settings :=
  (ordersWith "main" "http://old.cluster:9200").withObjects [orders, orders]

/-- An index that is configured twice is reconciled twice in one round, and finalized twice. -/
theorem rounds_can_ask_twice :
    (¬∀ settings store, (applyRound settings store).keys.Nodup) ∧
      ¬∀ settings store names, (deleteRound settings store names).keys.Nodup := by
  have hadmitted : isAdmitted ordersTwice .empty orders = true := by decide +kernel
  constructor
  · intro h
    have hapart := nodup_keys_applyRound_iff.mp (h ordersTwice .empty)
    exact (List.pairwise_cons.mp hapart).1 orders List.mem_cons_self hadmitted hadmitted rfl
  · intro h
    have hapart := pairwise_deletionTargets_iff.mp
      (nodup_keys_deleteRound_iff.mp (h ordersTwice .empty ["orders"]))
    exact (List.pairwise_cons.mp hapart.1).1 orders List.mem_cons_self (by decide) rfl

end Rounds

end SchemaKeeper
