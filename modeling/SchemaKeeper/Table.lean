/-!
Tables: values under text keys, kept in increasing order of the keys.

The keys are compared by code points, which is also the order of their bytes in
UTF-8.  The order is part of the type, so equal contents mean equal tables.
-/

namespace SchemaKeeper

/-! ## Ordered lists of entries -/

abbrev Entries (α : Type) := List (String × α)

namespace Entries

variable {α : Type}

def keys (entries : Entries α) : List String :=
  entries.map Prod.fst

def Ordered (entries : Entries α) : Prop :=
  entries.keys.Pairwise (· < ·)

/-- Puts a value in its place; an old value under the key gives way. -/
def insert (key : String) (value : α) : Entries α → Entries α
  | [] => [(key, value)]
  | (k, v) :: entries =>
      if key < k then (key, value) :: (k, v) :: entries
      else if key = k then (key, value) :: entries
      else (k, v) :: insert key value entries

def erase (key : String) (entries : Entries α) : Entries α :=
  entries.filter fun entry => entry.1 != key

/-- All entries put in their places, one after the other. -/
def ofList (entries : List (String × α)) : Entries α :=
  entries.foldl (fun done entry => insert entry.1 entry.2 done) []

theorem lt_of_not_lt_of_ne {a b : String} (h : ¬a < b) (hne : a ≠ b) : b < a :=
  Std.lt_of_le_of_ne (String.not_lt.mp h) (Ne.symm hne)

theorem mem_keys_insert {key k : String} {value : α} {entries : Entries α} :
    k ∈ keys (insert key value entries) ↔ k = key ∨ k ∈ keys entries := by
  induction entries with
  | nil => simp [insert, keys]
  | cons entry entries ih =>
      obtain ⟨l, v⟩ := entry
      simp only [keys] at ih
      by_cases hlt : key < l
      · simp [insert, keys, hlt]
      · by_cases heq : key = l
        · subst heq
          simp [insert, keys]
        · simp only [insert, keys, hlt, heq, if_false, List.map_cons, List.mem_cons, ih]
          constructor
          · rintro (h | h | h)
            · exact .inr (.inl h)
            · exact .inl h
            · exact .inr (.inr h)
          · rintro (h | h | h)
            · exact .inr (.inl h)
            · exact .inl h
            · exact .inr (.inr h)

theorem ordered_insert {key : String} {value : α} {entries : Entries α} (h : Ordered entries) :
    Ordered (insert key value entries) := by
  induction entries with
  | nil => simp [insert, Ordered, keys]
  | cons entry entries ih =>
      obtain ⟨l, v⟩ := entry
      simp only [Ordered, keys, List.map_cons, List.pairwise_cons] at h
      by_cases hlt : key < l
      · simp only [insert, hlt, if_true, Ordered, keys, List.map_cons, List.pairwise_cons]
        refine ⟨fun k hk => ?_, h⟩
        rcases List.mem_cons.mp hk with hk | hk
        · exact hk ▸ hlt
        · exact String.lt_trans hlt (h.1 k hk)
      · by_cases heq : key = l
        · subst heq
          simp only [insert, hlt, if_false, if_true, Ordered, keys, List.map_cons,
            List.pairwise_cons]
          exact h
        · simp only [insert, hlt, heq, if_false, Ordered, keys, List.map_cons,
            List.pairwise_cons]
          refine ⟨fun k hk => ?_, ih h.2⟩
          rcases mem_keys_insert.mp hk with hk | hk
          · exact hk ▸ lt_of_not_lt_of_ne hlt heq
          · exact h.1 k hk

theorem lookup_cons_of_ne {k l : String} (hne : k ≠ l) (value : α) (entries : Entries α) :
    List.lookup k ((l, value) :: entries) = entries.lookup k := by
  simp [List.lookup_cons, beq_false_of_ne hne]

theorem mem_of_lookup {key : String} {value : α} {entries : Entries α}
    (h : entries.lookup key = some value) : (key, value) ∈ entries := by
  obtain ⟨before, after, rfl, -⟩ := List.lookup_eq_some_iff.mp h
  simp

theorem lookup_insert_self (key : String) (value : α) (entries : Entries α) :
    (insert key value entries).lookup key = some value := by
  induction entries with
  | nil => simp [insert]
  | cons entry entries ih =>
      obtain ⟨l, v⟩ := entry
      by_cases hlt : key < l
      · simp [insert, hlt]
      · by_cases heq : key = l
        · simp [insert, heq]
        · simp only [insert, hlt, heq, if_false, lookup_cons_of_ne heq, ih]

theorem lookup_insert_of_ne {key k : String} (hne : k ≠ key) (value : α) (entries : Entries α) :
    (insert key value entries).lookup k = entries.lookup k := by
  induction entries with
  | nil => exact lookup_cons_of_ne hne value []
  | cons entry entries ih =>
      obtain ⟨l, v⟩ := entry
      by_cases hlt : key < l
      · simp only [insert, hlt, if_true, lookup_cons_of_ne hne]
      · by_cases heq : key = l
        · subst heq
          simp only [insert, hlt, if_false, if_true, lookup_cons_of_ne hne]
        · simp only [insert, hlt, heq, if_false, List.lookup_cons, ih]

theorem lookup_erase_self (key : String) (entries : Entries α) :
    (erase key entries).lookup key = none := by
  simp only [erase, List.lookup_eq_none_iff, List.mem_filter, bne_iff_ne]
  rintro entry ⟨_, hne⟩
  simpa using Ne.symm hne

theorem lookup_erase_of_ne {key k : String} (hne : k ≠ key) (entries : Entries α) :
    (erase key entries).lookup k = entries.lookup k := by
  induction entries with
  | nil => rfl
  | cons entry entries ih =>
      obtain ⟨l, v⟩ := entry
      simp only [erase] at ih
      by_cases heq : l = key
      · subst heq
        simp only [erase, List.filter_cons, bne_self_eq_false, Bool.false_eq_true, if_false,
          lookup_cons_of_ne hne, ih]
      · simp only [erase, List.filter_cons, bne_iff_ne, ne_eq, heq, not_false_eq_true, if_true,
          List.lookup_cons, ih]

theorem ordered_erase {key : String} {entries : Entries α} (h : Ordered entries) :
    Ordered (erase key entries) :=
  h.sublist (List.filter_sublist.map Prod.fst)

theorem ordered_ofList (entries : List (String × α)) : Ordered (ofList entries) := by
  suffices ∀ done : Entries α, Ordered done →
      Ordered (entries.foldl (fun done entry => insert entry.1 entry.2 done) done) from
    this [] List.Pairwise.nil
  induction entries with
  | nil => exact fun _ h => h
  | cons entry entries ih => exact fun done h => ih _ (ordered_insert h)

end Entries

/-! ## Tables -/

structure Table (α : Type) where
  entries : Entries α
  ordered : entries.Ordered
  deriving Repr

namespace Table

variable {α : Type}

def empty : Table α :=
  ⟨[], List.Pairwise.nil⟩

instance : Inhabited (Table α) :=
  ⟨empty⟩

theorem eq_of_entries_eq {s t : Table α} (h : s.entries = t.entries) : s = t := by
  cases s
  cases t
  simp_all

instance [DecidableEq α] : DecidableEq (Table α) := fun s t =>
  if h : s.entries = t.entries then isTrue (eq_of_entries_eq h)
  else isFalse fun e => h (e ▸ rfl)

def get? (table : Table α) (key : String) : Option α :=
  table.entries.lookup key

def contains (table : Table α) (key : String) : Bool :=
  (table.get? key).isSome

def insert (table : Table α) (key : String) (value : α) : Table α :=
  ⟨table.entries.insert key value, Entries.ordered_insert table.ordered⟩

def erase (table : Table α) (key : String) : Table α :=
  ⟨table.entries.erase key, Entries.ordered_erase table.ordered⟩

/-- Of several entries with one key the last stays. -/
def ofList (entries : List (String × α)) : Table α :=
  ⟨Entries.ofList entries, Entries.ordered_ofList entries⟩

def values (table : Table α) : List α :=
  table.entries.map Prod.snd

def size (table : Table α) : Nat :=
  table.entries.length

/-! ## What is found -/

@[simp] theorem get?_empty (key : String) : (empty : Table α).get? key = none :=
  rfl

theorem get?_insert (table : Table α) (key k : String) (value : α) :
    (table.insert key value).get? k = if k = key then some value else table.get? k := by
  split
  next h =>
    subst h
    exact Entries.lookup_insert_self k value table.entries
  next h => exact Entries.lookup_insert_of_ne h value table.entries

theorem get?_erase (table : Table α) (key k : String) :
    (table.erase key).get? k = if k = key then none else table.get? k := by
  split
  next h =>
    subst h
    exact Entries.lookup_erase_self k table.entries
  next h => exact Entries.lookup_erase_of_ne h table.entries

theorem contains_eq_true_iff {table : Table α} {key : String} :
    table.contains key = true ↔ ∃ value, table.get? key = some value :=
  Option.isSome_iff_exists

theorem contains_eq_false_iff {table : Table α} {key : String} :
    table.contains key = false ↔ table.get? key = none := by
  simp [contains]

end Table

end SchemaKeeper
