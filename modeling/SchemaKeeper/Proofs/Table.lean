import Mathlib.Data.List.Nodup
import Mathlib.Data.List.Perm.Subperm
import SchemaKeeper.Table

/-!
# Entries in order

Entries that are in order already are the entries they fill a table with, and
what becomes of their values does not disturb the order of their keys.  A table
is known by what is found in it.
-/

namespace SchemaKeeper

namespace Entries

variable {α β γ : Type}

/-! ## Ordered entries -/

theorem insert_eq_append {key : String} {value : α} {entries : Entries α}
    (h : ∀ k ∈ entries.keys, k < key) : insert key value entries = entries ++ [(key, value)] := by
  induction entries with
  | nil => rfl
  | cons entry entries ih =>
      obtain ⟨k, v⟩ := entry
      have hlt : k < key := h k (by simp [keys])
      have hnot : ¬key < k := fun hkey => String.lt_irrefl k (String.lt_trans hlt hkey)
      have hne : key ≠ k := by
        intro heq
        subst heq
        exact String.lt_irrefl key hlt
      have hrest := ih fun l hl => h l (List.mem_cons_of_mem _ hl)
      simp [insert, hnot, hne, hrest]

theorem ofList_eq_self {entries : Entries α} (h : Ordered entries) : ofList entries = entries := by
  suffices ∀ done : Entries α, (done ++ entries).Ordered →
      entries.foldl (fun done entry => insert entry.1 entry.2 done) done = done ++ entries from
    this [] h
  clear h
  induction entries with
  | nil => simp
  | cons entry entries ih =>
      intro done hdone
      have hlast : ∀ k ∈ keys done, k < entry.1 := by
        intro k hk
        simp only [Ordered, keys, List.map_append, List.pairwise_append] at hdone
        exact hdone.2.2 k hk entry.1 (by simp)
      rw [List.foldl_cons, insert_eq_append hlast, ih _ (by simpa using hdone)]
      simp

theorem lookup_of_mem {entries : Entries α} (h : Ordered entries) {key : String} {value : α}
    (hmem : (key, value) ∈ entries) : entries.lookup key = some value := by
  induction entries with
  | nil => cases hmem
  | cons entry entries ih =>
      obtain ⟨k, v⟩ := entry
      simp only [Ordered, keys, List.map_cons, List.pairwise_cons] at h
      rcases List.mem_cons.mp hmem with hfirst | hrest
      · cases hfirst
        simp
      · have hne : key ≠ k := by
          intro heq
          subst heq
          exact String.lt_irrefl key (h.1 key (List.mem_map_of_mem hrest))
        rw [lookup_cons_of_ne hne]
        exact ih h.2 hrest

theorem mem_keys_iff {entries : Entries α} {key : String} :
    key ∈ keys entries ↔ ∃ value, entries.lookup key = some value := by
  constructor
  · intro hkey
    obtain ⟨entry, hentry, rfl⟩ := List.mem_map.mp hkey
    refine Option.ne_none_iff_exists'.mp fun hnone => ?_
    simpa using List.lookup_eq_none_iff.mp hnone entry hentry
  · rintro ⟨value, hlookup⟩
    exact List.mem_map_of_mem (mem_of_lookup hlookup)

theorem nodup_keys_of_ordered {entries : Entries α} (h : Ordered entries) :
    (keys entries).Nodup := by
  refine h.imp fun {a b} hlt heq => ?_
  subst heq
  exact String.lt_irrefl a hlt

/-- Entries with the same keys are as many, and as many entries whose keys occur have the same. -/
theorem keys_subset_iff {xs : Entries α} {ys : Entries β} (hxs : Ordered xs) (hys : Ordered ys) :
    xs.length = ys.length ∧ keys xs ⊆ keys ys ↔ ∀ key, key ∈ keys xs ↔ key ∈ keys ys := by
  have hxsNodup := nodup_keys_of_ordered hxs
  have hlength {γ : Type} (zs : Entries γ) : (keys zs).length = zs.length := List.length_map _
  constructor
  · rintro ⟨hlen, hsub⟩ key
    have hperm : (keys xs).Perm (keys ys) :=
      (List.subperm_of_subset hxsNodup hsub).perm_of_length_le (by simp [hlength, hlen])
    exact hperm.mem_iff
  · intro h
    have hperm : (keys xs).Perm (keys ys) :=
      (List.perm_ext_iff_of_nodup hxsNodup (nodup_keys_of_ordered hys)).mpr h
    exact ⟨by rw [← hlength, ← hlength, hperm.length_eq], fun key hkey => (h key).mp hkey⟩

/-! ## Mapped values -/

def mapValues (f : α → β) (entries : Entries α) : Entries β :=
  entries.map fun entry => (entry.1, f entry.2)

@[simp] theorem keys_mapValues (f : α → β) (entries : Entries α) :
    (mapValues f entries).keys = entries.keys := by
  simp [mapValues, keys]

@[simp] theorem mapValues_mapValues (g : β → γ) (f : α → β) (entries : Entries α) :
    mapValues g (mapValues f entries) = mapValues (g ∘ f) entries := by
  simp [mapValues]

theorem mapValues_congr {f g : α → β} {entries : Entries α}
    (h : ∀ entry ∈ entries, f entry.2 = g entry.2) : mapValues f entries = mapValues g entries :=
  List.map_congr_left fun entry hentry => by rw [h entry hentry]

theorem mapValues_eq_self {f : α → α} {entries : Entries α}
    (h : ∀ entry ∈ entries, f entry.2 = entry.2) : mapValues f entries = entries := by
  rw [mapValues_congr (g := id) h]
  exact List.map_id entries

theorem lookup_mapValues (f : α → β) (entries : Entries α) (key : String) :
    (mapValues f entries).lookup key = (entries.lookup key).map f := by
  induction entries with
  | nil => rfl
  | cons entry entries ih =>
      obtain ⟨k, v⟩ := entry
      simp only [mapValues] at ih
      simp only [mapValues, List.map_cons, List.lookup_cons, ih]
      split <;> rfl

theorem insert_mapValues (f : α → β) (key : String) (value : α) (entries : Entries α) :
    insert key (f value) (mapValues f entries) = mapValues f (insert key value entries) := by
  induction entries with
  | nil => rfl
  | cons entry entries ih =>
      obtain ⟨k, v⟩ := entry
      simp only [mapValues] at ih
      simp only [mapValues, List.map_cons, insert, ih]
      split
      · rfl
      · split <;> rfl

theorem ofList_mapValues (f : α → β) (entries : Entries α) :
    ofList (mapValues f entries) = mapValues f (ofList entries) := by
  suffices ∀ done : Entries α,
      (mapValues f entries).foldl (fun done entry => insert entry.1 entry.2 done)
          (mapValues f done) =
        mapValues f (entries.foldl (fun done entry => insert entry.1 entry.2 done) done) from
    this []
  induction entries with
  | nil => exact fun _ => rfl
  | cons entry entries ih =>
      intro done
      have hstep := ih (insert entry.1 entry.2 done)
      rw [← insert_mapValues] at hstep
      exact hstep

theorem mem_of_mem_insert {key : String} {value : α} {entries : Entries α} {entry : String × α}
    (h : entry ∈ insert key value entries) : entry = (key, value) ∨ entry ∈ entries := by
  induction entries with
  | nil => exact .inl (List.mem_singleton.mp h)
  | cons first entries ih =>
      obtain ⟨k, v⟩ := first
      unfold insert at h
      split at h
      · exact List.mem_cons.mp h
      · split at h
        · rcases List.mem_cons.mp h with hnew | hold
          · exact .inl hnew
          · exact .inr (List.mem_cons_of_mem _ hold)
        · rcases List.mem_cons.mp h with hfirst | hrest
          · exact .inr (hfirst ▸ List.mem_cons_self)
          · rcases ih hrest with hnew | hold
            · exact .inl hnew
            · exact .inr (List.mem_cons_of_mem _ hold)

theorem mem_of_mem_ofList {entries : List (String × α)} {entry : String × α}
    (h : entry ∈ ofList entries) : entry ∈ entries := by
  suffices ∀ done : Entries α,
      entry ∈ entries.foldl (fun done entry => insert entry.1 entry.2 done) done →
        entry ∈ done ∨ entry ∈ entries from
    (this [] h).resolve_left List.not_mem_nil
  clear h
  induction entries with
  | nil => exact fun _ h => .inl h
  | cons first entries ih =>
      intro done h
      rcases ih _ h with hdone | hrest
      · rcases mem_of_mem_insert hdone with hfirst | hdone
        · exact .inr (hfirst ▸ List.mem_cons_self)
        · exact .inl hdone
      · exact .inr (List.mem_cons_of_mem _ hrest)

theorem nodup_of_ordered {entries : Entries α} (h : Ordered entries) : entries.Nodup :=
  List.Nodup.of_map Prod.fst (nodup_keys_of_ordered h)

theorem eq_of_lookup_eq {xs ys : Entries α} (hxs : Ordered xs) (hys : Ordered ys)
    (h : ∀ key, xs.lookup key = ys.lookup key) : xs = ys := by
  have hmem : ∀ entry, entry ∈ xs ↔ entry ∈ ys := by
    rintro ⟨key, value⟩
    constructor
    · intro hentry
      exact mem_of_lookup ((h key).symm.trans (lookup_of_mem hxs hentry))
    · intro hentry
      exact mem_of_lookup ((h key).trans (lookup_of_mem hys hentry))
  have hperm := (List.perm_ext_iff_of_nodup (nodup_of_ordered hxs) (nodup_of_ordered hys)).mpr hmem
  have hfirst : xs.Pairwise fun a b => a.1 < b.1 := List.pairwise_map.mp hxs
  have hsecond : ys.Pairwise fun a b => a.1 < b.1 := List.pairwise_map.mp hys
  refine List.Perm.eq_of_pairwise (fun a b _ _ hab hba => ?_) hfirst hsecond hperm
  exact absurd (String.lt_trans hab hba) (String.lt_irrefl a.1)

/-- What is there already makes no difference. -/
theorem insert_eq_self {entries : Entries α} (h : Ordered entries) {key : String} {value : α}
    (hlookup : entries.lookup key = some value) : insert key value entries = entries := by
  refine eq_of_lookup_eq (ordered_insert h) h fun k => ?_
  by_cases hk : k = key
  · subst hk
    rw [lookup_insert_self, hlookup]
  · exact lookup_insert_of_ne hk value entries

end Entries

theorem Table.eq_of_get?_eq {α : Type} {s t : Table α} (h : ∀ key, s.get? key = t.get? key) :
    s = t :=
  eq_of_entries_eq (Entries.eq_of_lookup_eq s.ordered t.ordered h)

end SchemaKeeper
