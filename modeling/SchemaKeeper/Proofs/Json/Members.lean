import Mathlib.Logic.Relation
import SchemaKeeper.Proofs.Json.RoundTrip

/-!
# The order of members

Neighbouring members with different keys may change places anywhere in a value:
the document that is read is the same, and so it is whatever the blanks between.
-/

namespace SchemaKeeper

namespace Entries

variable {α : Type}

theorem insert_comm {entries : Entries α} (h : Ordered entries) {a b : String} (hne : a ≠ b)
    (x y : α) : insert a x (insert b y entries) = insert b y (insert a x entries) := by
  refine eq_of_lookup_eq (ordered_insert (ordered_insert h)) (ordered_insert (ordered_insert h))
    fun key => ?_
  by_cases ha : key = a
  · subst ha
    rw [lookup_insert_self, lookup_insert_of_ne hne, lookup_insert_self]
  · rw [lookup_insert_of_ne ha]
    by_cases hb : key = b
    · subst hb
      rw [lookup_insert_self, lookup_insert_self]
    · rw [lookup_insert_of_ne hb, lookup_insert_of_ne hb, lookup_insert_of_ne ha]

theorem ofList_swap {a b : String} (hne : a ≠ b) (x y : α) (before after : List (String × α)) :
    ofList (before ++ (a, x) :: (b, y) :: after) =
      ofList (before ++ (b, y) :: (a, x) :: after) := by
  have hswap := insert_comm (ordered_ofList before) hne.symm y x
  unfold ofList at hswap ⊢
  simp only [List.foldl_append, List.foldl_cons, hswap]

end Entries

namespace Json

variable {v w : Json}

inductive Swapped : Json → Json → Prop where
  | here {x y : String × Json} (hne : x.1 ≠ y.1) (before after : List (String × Json)) :
      Swapped (.object (before ++ x :: y :: after)) (.object (before ++ y :: x :: after))
  | item {v w : Json} (h : Swapped v w) (before after : List Json) :
      Swapped (.array (before ++ v :: after)) (.array (before ++ w :: after))
  | member {v w : Json} (h : Swapped v w) (key : String) (before after : List (String × Json)) :
      Swapped (.object (before ++ (key, v) :: after)) (.object (before ++ (key, w) :: after))

/-- Two values that differ in the order of their members only. -/
def Reordered : Json → Json → Prop :=
  Relation.ReflTransGen Swapped

theorem normalize_eq_of_swapped (h : Swapped v w) : v.normalize = w.normalize := by
  induction h with
  | here hne before after =>
      simp only [normalize_object, Entries.mapValues, List.map_append, List.map_cons]
      rw [Entries.ofList_swap hne]
  | item h before after ih => simp [ih]
  | member h key before after ih => simp [Entries.mapValues, ih]

theorem allNumbers_of_swapped {P : Number → Prop} (h : Swapped v w) (hv : v.AllNumbers P) :
    w.AllNumbers P := by
  induction h with
  | here hne before after =>
      rw [allNumbers_object] at hv ⊢
      intro field hfield
      exact hv field (by simp only [List.mem_append, List.mem_cons] at hfield ⊢; tauto)
  | item h before after ih =>
      simp only [allNumbers_array, List.forall_mem_append, List.forall_mem_cons] at hv ⊢
      exact ⟨hv.1, ih hv.2.1, hv.2.2⟩
  | member h key before after ih =>
      simp only [allNumbers_object, List.forall_mem_append, List.forall_mem_cons] at hv ⊢
      exact ⟨hv.1, ih hv.2.1, hv.2.2⟩

theorem normalize_eq_of_reordered (h : Reordered v w) : v.normalize = w.normalize := by
  induction h with
  | refl => rfl
  | tail _ hstep ih => exact ih.trans (normalize_eq_of_swapped hstep)

theorem allNumbers_of_reordered {P : Number → Prop} (h : Reordered v w) (hv : v.AllNumbers P) :
    w.AllNumbers P := by
  induction h with
  | refl => exact hv
  | tail _ hstep ih => exact allNumbers_of_swapped hstep ih

/-! ## Texts -/

/-- The texts of a value differ in their blanks. -/
def IsText (v : Json) (text : String) : Prop :=
  ∃ before layout after, text.toList = before ++ (layout ++ after) ∧
    Blanks before ∧ Layout v layout ∧ Blanks after

open Reader in
/-- What is read from a text of a value is its document, doubles apart. -/
theorem blurred_of_parse_text {text : String} {root : Json} (hv : v.AllNumbers Number.inRange)
    (htext : v.IsText text) (h : parse text = .ok root) :
    root.blurred = v.normalize.blurred := by
  obtain ⟨before, layout, after, hchars, hbefore, hlayout, hafter⟩ := htext
  have hread := meets_document_normalize hv hbefore hlayout hafter
  rw [← hchars] at hread
  exact of_run_eq_ok (hread.mono (fun w _ hw => hw.2) id) h

theorem blurred_eq_of_reordered {text other : String} {root found : Json}
    (hv : v.AllNumbers Number.inRange) (h : Reordered v w) (htext : v.IsText text)
    (hother : w.IsText other) (hroot : parse text = .ok root)
    (hfound : parse other = .ok found) : root.blurred = found.blurred := by
  rw [blurred_of_parse_text hv htext hroot, normalize_eq_of_reordered h,
    blurred_of_parse_text (allNumbers_of_reordered h hv) hother hfound]

end Json

end SchemaKeeper
