import SchemaKeeper.Proofs.Interleaving
import SchemaKeeper.Proofs.Requests

/-!
# What a deletion forgets

A name stands for what is configured under it or else for what is remembered
under it, while records are kept by kind and name.  So a name is deleted as a
whole unless one of its records stands for nothing that the round asks for.
-/

namespace SchemaKeeper.Rounds

variable {World : Type} {settings : Settings} {store : Store} {entry : Entry}

theorem mem_deletedKeys_iff {names : List String} {key : String} :
    key ∈ deletedKeys settings store names ↔
      ∃ name ∈ names, ∃ entry ∈ deletionTargets settings store name,
        Store.keyOf entry.object = key := by
  have hkeys : deletedKeys settings store names = (deleteRound settings store names).keys := rfl
  rw [hkeys, keys_deleteRound]
  simp only [List.mem_flatMap, List.mem_map, mem_distinct]

/-! ## Deleting a name -/

/--
A record is reached by its name: through a configured entry of its kind or, if
nothing is configured under the name, through the entry that it remembers.
-/
def Reaches (settings : Settings) (kind : Kind) (name : String) (record : ObjectRecord) : Prop :=
  (∃ entry ∈ settings.objects, entry.object.place = (kind, name)) ∨
    ¬IsConfigured settings name ∧ record.applied.isSome = true

theorem mem_deletedKeys_iff_reaches {names : List String} {name : String} (hname : name ∈ names)
    {kind : Kind} {record : ObjectRecord} (hrooted : Rooted store)
    (hrecord : store.get? (Store.key kind name) = some record) :
    Store.key kind name ∈ deletedKeys settings store names ↔ Reaches settings kind name record := by
  rw [mem_deletedKeys_iff]
  constructor
  · rintro ⟨title, -, entry, htarget, hkey⟩
    obtain ⟨hkind, htitle⟩ := Store.key_inj hkey
    obtain ⟨rfl, hconfigured | ⟨hnot, hremembered⟩⟩ := mem_deletionTargets_iff.mp htarget
    · exact .inl ⟨entry, hconfigured, Prod.ext hkind htitle⟩
    · obtain ⟨key, found, hfound, happlied⟩ := mem_remembered_iff.mp hremembered
      rw [← hrooted.keyOf_eq hfound happlied, hkey, hrecord] at hfound
      obtain rfl := Option.some.inj hfound
      exact .inr ⟨htitle ▸ hnot, happlied ▸ rfl⟩
  · rintro (⟨entry, hconfigured, hplace⟩ | ⟨hnot, happlied⟩)
    · obtain ⟨hkind, htitle⟩ := Prod.ext_iff.mp hplace
      exact ⟨name, hname, entry, mem_deletionTargets_iff.mpr ⟨htitle, .inl hconfigured⟩,
        congrArg₂ Store.key hkind htitle⟩
    · obtain ⟨entry, happlied⟩ := Option.isSome_iff_exists.mp happlied
      have hown : Store.keyOf entry.object = Store.key kind name :=
        hrooted.keyOf_eq hrecord happlied
      have hremembered : entry ∈ remembered store :=
        mem_remembered_iff.mpr ⟨_, record, hrecord, happlied⟩
      exact ⟨name, hname, entry, mem_deletionTargets_iff.mpr
        ⟨(Store.key_inj hown).2, .inr ⟨hnot, hremembered⟩⟩, hown⟩

/-- A name goes with all its records, and is missing only where nothing had it. -/
structure DeletesName (settings : Settings) (connector : Connector World) (store : Store)
    (world : World) (name : String) : Prop where
  forgotten : ∀ kind,
    (delete settings connector store [name] world).1.store.get? (Store.key kind name) = none
  finalized : ∀ kind record, store.get? (Store.key kind name) = some record →
    record.hasMarker settings.runtime.finalizerName = true →
    ∃ request ∈ (deleteRound settings store [name]).requests,
      request.object.place = (kind, name) ∧
        ∃ deleteInCluster, request.lifecycle.decide = .finalize deleteInCluster
  missing : name ∈ (delete settings connector store [name] world).1.missing →
    ¬IsConfigured settings name ∧ ∀ kind, store.get? (Store.key kind name) = none

theorem mem_missing_iff {connector : Connector World} {names : List String} {world : World}
    {name : String} :
    name ∈ (delete settings connector store names world).1.missing ↔
      name ∈ names ∧ deletionTargets settings store name = [] := by
  have hmissing : (delete settings connector store names world).1.missing =
      (distinct names).filter fun name => (deletionTargets settings store name).isEmpty := rfl
  rw [hmissing, List.mem_filter, mem_distinct, List.isEmpty_iff]

theorem finalized_of_mem_deletedKeys {names : List String} {kind : Kind} {name : String}
    {record : ObjectRecord} (hrecord : store.get? (Store.key kind name) = some record)
    (hmarker : record.hasMarker settings.runtime.finalizerName = true)
    (hkey : Store.key kind name ∈ deletedKeys settings store names) :
    ∃ request ∈ (deleteRound settings store names).requests,
      request.object.place = (kind, name) ∧
        ∃ deleteInCluster, request.lifecycle.decide = .finalize deleteInCluster := by
  rw [deletedKeys_eq] at hkey
  obtain ⟨asked, hasked, hkeyed⟩ := List.mem_map.mp hkey
  refine ⟨asked.2, List.mem_map_of_mem hasked, ?_⟩
  obtain ⟨entry, -, rfl⟩ := List.mem_map.mp hasked
  have hown : Store.keyOf entry.object = Store.key kind name := hkeyed
  obtain ⟨hkind, hname⟩ := Store.key_inj hown
  refine ⟨Prod.ext hkind hname, entry.deleteInCluster, ?_⟩
  rw [decide_deletionRequest, hown, Store.recordAt, hrecord]
  exact if_pos hmarker

/--
After a run, a name can be deleted exactly when it reaches each of its records.
Out of reach are the records of another kind than what is configured under the
name, and those of refused entries that are configured no longer.
-/
theorem deletesName_iff (connector : Connector World) (world : World) (turns : List Turn)
    (settings : Settings) (name : String) :
    let state := runTurns connector turns (.empty, world)
    DeletesName settings connector state.1 state.2 name ↔
      ∀ kind record, state.1.get? (Store.key kind name) = some record →
        Reaches settings kind name record := by
  intro state
  have hrooted : Rooted state.1 := rooted_runTurns connector world turns
  have hname : name ∈ [name] := List.mem_singleton_self name
  constructor
  · intro h kind record hrecord
    by_contra hout
    have hkept := h.forgotten kind
    rw [get?_delete, if_neg ((mem_deletedKeys_iff_reaches hname hrooted hrecord).not.mpr hout),
      hrecord] at hkept
    cases hkept
  · intro h
    refine ⟨fun kind => ?_, fun kind record hrecord hmarker => ?_, fun hmissing => ?_⟩
    · rw [get?_delete]
      split
      · rfl
      next hkey =>
        cases hrecord : state.1.get? (Store.key kind name) with
        | none => rfl
        | some record =>
            exact absurd ((mem_deletedKeys_iff_reaches hname hrooted hrecord).mpr
              (h kind record hrecord)) hkey
    · exact finalized_of_mem_deletedKeys hrecord hmarker
        ((mem_deletedKeys_iff_reaches hname hrooted hrecord).mpr (h kind record hrecord))
    · -- a record that is reached would be a target, and a missing name has none
      have hempty := (mem_missing_iff.mp hmissing).2
      have hnone (entry : Entry) : entry ∉ deletionTargets settings state.1 name := by
        rw [hempty]
        exact List.not_mem_nil
      refine ⟨fun ⟨entry, hentry, htitle⟩ => hnone entry
        (mem_deletionTargets_iff.mpr ⟨htitle, .inl hentry⟩), fun kind => ?_⟩
      cases hrecord : state.1.get? (Store.key kind name) with
      | none => rfl
      | some record =>
          obtain ⟨title, htitle, entry, htarget, -⟩ := mem_deletedKeys_iff.mp
            ((mem_deletedKeys_iff_reaches hname hrooted hrecord).mpr (h kind record hrecord))
          obtain rfl := List.mem_singleton.mp htitle
          exact absurd htarget (hnone entry)

/-- An index whose name is refused, so that its record remembers no entry. -/
def shoutedOrders : Entry where
  object := .index ⟨"Orders", "main", ⟨3, 1⟩, "\x7b\x7d"⟩
  deleteInCluster := true

/--
Records stay out of reach while all of them remember an entry, and while nothing
is configured under their name.
-/
theorem names_can_be_out_of_reach :
    (¬∀ (turns : List Turn) (settings : Settings) (name : String),
      let state := runTurns Memory.connector turns (.empty, Memory.ofCluster .empty)
      (∀ key record, state.1.get? key = some record → record.applied.isSome = true) →
        DeletesName settings Memory.connector state.1 state.2 name) ∧
    ¬∀ (turns : List Turn) (settings : Settings) (name : String),
      let state := runTurns Memory.connector turns (.empty, Memory.ofCluster .empty)
      ¬IsConfigured settings name →
        DeletesName settings Memory.connector state.1 state.2 name := by
  let settings := ordersWith "main" "http://old.cluster:9200"
  constructor
  · -- an index that was dropped from the settings hides behind a pipeline of its name
    intro h
    let store := (runTurns Memory.connector [.apply settings] (.empty, .ofCluster .empty)).1
    have hall : ∀ record ∈ store.objects.values, record.applied.isSome = true := by
      decide +kernel
    have hdeletes := h [.apply settings] (settings.withObjects [cleaning]) "orders"
      fun key record hrecord => hall record (Table.mem_values_iff.mpr ⟨key, hrecord⟩)
    have hforgotten := hdeletes.forgotten .index
    revert hforgotten
    decide +kernel
  · -- an index that was refused and then dropped from the settings is not found
    intro h
    have hnot : ¬IsConfigured (settings.withObjects []) "Orders" := by
      rintro ⟨entry, hentry, -⟩
      cases hentry
    have hforgotten := (h [.apply (settings.withObjects [shoutedOrders])] (settings.withObjects [])
      "Orders" hnot).forgotten .index
    revert hforgotten
    decide +kernel

end SchemaKeeper.Rounds
