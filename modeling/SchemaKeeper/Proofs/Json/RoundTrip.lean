import SchemaKeeper.Proofs.Json.Layout

/-!
# Documents are read as they are printed

Any layout of a value is read back as that value, its doubles apart: they come
back as doubles.  A text with whole numbers only is always read, as long as it
does not nest too deeply.  The induction is on the levels that may still be
entered; each level goes through its items or members once.
-/

namespace SchemaKeeper.Json

namespace Reader

variable {bad : Prop}

/-! ## Values -/

theorem treeOf_blanks {blanks : List Char} (h : Blanks blanks) (inner : Option (Reader Json))
    (rest : List Char) : treeOf inner (blanks ++ rest) = treeOf inner rest :=
  peekSolid_bind_blanks h _ rest

theorem meets_treeOf_number {inner : Option (Reader Json)} {good : Json → List Char → Prop}
    {c : Char} (hc : c = '-' ∨ isDigit c = true) {chars : List Char}
    (h : (number (c :: chars)).Meets (fun n left => good (.number n) left) bad) :
    (treeOf inner (c :: chars)).Meets good bad := by
  have hne {d : Char} (hd : d ≠ '-' ∧ isDigit d = false) : c ≠ d := by
    rintro rfl
    rcases hc with hminus | hdigit
    · exact hd.1 hminus
    · simp [hd.2] at hdigit
  have hblank : isBlank c = false := by
    rcases hc with rfl | hdigit
    · rfl
    · exact (begins_of_isDigit hdigit).1
  have hdrop : (c :: chars).dropWhile isBlank = c :: chars := by simp [hblank]
  unfold treeOf
  rw [meets_bind, meets_peekSolid, hdrop]
  refine meets_ite (fun h => absurd h (hne (by decide))) fun _ =>
    meets_ite (fun h => absurd h (hne (by decide))) fun _ => ?_
  unfold scalar
  refine meets_ite (fun h => absurd h (hne (by decide))) fun _ =>
    meets_ite (fun h => absurd h (hne (by decide))) fun _ =>
    meets_ite (fun h => absurd h (hne (by decide))) fun _ =>
    meets_ite (fun h => absurd h (hne (by decide))) fun _ =>
    meets_ite (fun _ => ?_) fun h => absurd hc h
  rw [meets_bind]
  exact h

theorem takes_treeOf_number (inner : Option (Reader Json)) {n : Number} (hn : n.inRange) :
    Takes (treeOf inner) (.number n) (fun w => w.blurred = (Json.number n).blurred) (IsDouble n) := by
  intro blanks text rest hblanks htext hrest
  cases htext
  obtain ⟨c, cs, hcs, hc⟩ := exists_begin_number n
  have hread : (Reader.number (c :: (cs ++ rest))).Meets
      (fun m left => left = rest ∧ m.blurred = n.blurred) (IsDouble n) := by
    rw [← List.cons_append, ← hcs]
    cases n with
    | integer n =>
        refine (meets_number_integer hn hrest).mono (fun m left hm => ?_) False.elim
        exact ⟨hm.1, by rw [hm.2]⟩
    | double x =>
        refine (meets_number_double x hrest).mono (fun m left hm => ?_) fun _ => ⟨x, rfl⟩
        obtain ⟨hleft, y, rfl⟩ := hm
        exact ⟨hleft, rfl⟩
  rw [treeOf_blanks hblanks, hcs]
  rcases hc with hminus | hdigit | ⟨hdouble, rfl | rfl⟩
  · exact meets_treeOf_number (.inl hminus)
      (hread.mono (fun m left hm => ⟨hm.1, congrArg Json.number hm.2⟩) id)
  · exact meets_treeOf_number (.inr hdigit)
      (hread.mono (fun m left hm => ⟨hm.1, congrArg Json.number hm.2⟩) id)
  · exact hdouble
  · exact hdouble

theorem takes_treeOf_string (inner : Option (Reader Json)) (s : String) :
    Takes (treeOf inner) (.string s) (· = .string s) bad := by
  intro blanks text rest hblanks htext _
  cases htext
  rw [treeOf_blanks hblanks, quote_append]
  change ((skip >>= fun _ => stringTail >>= fun s => Pure.pure (Json.string s))
    ('"' :: (s.toList.flatMap escapeChar ++ '"' :: rest))).Meets _ _
  rw [meets_bind, meets_skip, meets_bind, List.tail_cons, stringTail_quoted]
  exact ⟨rfl, rfl⟩

/-- What `treeOf` does with a key: its value joins the members read so far. -/
def member (value : Reader Json) (k : String) (done : List (String × Json)) :
    Reader (List (String × Json)) := do
  colon
  return (k, ← value) :: done

/-- The members still to come can be read; with those read so far they are all, doubles apart. -/
structure Gathers (value : Reader Json) (bad : Prop) (all fields done : List (String × Json)) :
    Prop where
  takes : ∀ field ∈ fields, Takes value field.2 (fun w => w.blurred = field.2.blurred) bad
  whole : Entries.mapValues blurred (done.reverse ++ fields) = Entries.mapValues blurred all

theorem takesMember_member {value : Reader Json} {all fields done : List (String × Json)}
    {k : String} {v : Json} (h : Gathers value bad all ((k, v) :: fields) done) :
    TakesMember (member value k done) v (Gathers value bad all fields) bad := by
  obtain ⟨hv, hfields⟩ := List.forall_mem_cons.mp h.takes
  refine takesMember_colon (takes_return (hv.mono (fun w hw => ⟨hfields, ?_⟩) id))
  rw [← h.whole]
  simp [Entries.mapValues, hw]

/-- One level: what holds of the reader of inner values holds of the reader of values. -/
theorem takes_treeOf {inner : Option (Reader Json)} {levels : Nat}
    (hnone : inner = none → levels = 0)
    (hinner : ∀ value ∈ inner, ∀ w : Json, w.AllNumbers Number.inRange →
      Takes value w (fun found => found.blurred = w.blurred) (¬(w.Whole ∧ w.depth < levels)))
    {v : Json} (hv : v.AllNumbers Number.inRange) :
    Takes (treeOf inner) v (fun w => w.blurred = v.blurred) (¬(v.Whole ∧ v.depth ≤ levels)) := by
  cases v with
  | number n =>
      refine (takes_treeOf_number inner hv).mono (fun _ => id) ?_
      rintro ⟨x, rfl⟩ ⟨⟨i, hi⟩, -⟩
      cases hi
  | string s => exact (takes_treeOf_string inner s).mono (fun w hw => by rw [hw]) id
  | null | bool =>
      intro blanks text rest hblanks htext _
      rw [treeOf_blanks hblanks]
      cases htext <;> exact ⟨rfl, rfl⟩
  | array items =>
      intro blanks text rest hblanks htext _
      cases htext with
      | array hitems =>
          rw [treeOf_blanks hblanks]
          cases inner with
          | none =>
              have hdepth : ¬((array items).Whole ∧ (array items).depth ≤ levels) := by
                rw [hnone rfl, depth]
                omega
              exact hdepth
          | some value =>
              have hvalue : ∀ item ∈ items, Takes value (id item)
                  (fun found => found.blurred = item.blurred)
                  (¬((array items).Whole ∧ (array items).depth ≤ levels)) := by
                intro item hitem
                refine (hinner value rfl item (allNumbers_array.mp hv item hitem)).mono
                  (fun _ => id) ?_
                rintro hbad ⟨hwhole, hdepth⟩
                rw [depth] at hdepth
                have hle := depth_le_of_mem_items hitem
                exact hbad ⟨allNumbers_array.mp hwhole item hitem, by omega⟩
              change ((listOf value >>= fun items => Pure.pure (Json.array items)) _).Meets _ _
              rw [meets_bind]
              rw [← List.map_id items] at hitems
              refine (meets_listOf hvalue hitems rest).mono (fun found left hfound => ?_) id
              exact ⟨hfound.1, by simp [hfound.2]⟩
  | object fields =>
      intro blanks text rest hblanks htext _
      cases htext with
      | object hfields =>
          rw [treeOf_blanks hblanks]
          cases inner with
          | none =>
              have hdepth : ¬((object fields).Whole ∧ (object fields).depth ≤ levels) := by
                rw [hnone rfl, depth]
                omega
              exact hdepth
          | some value =>
              have hvalue : ∀ field ∈ fields, Takes value field.2
                  (fun found => found.blurred = field.2.blurred)
                  (¬((object fields).Whole ∧ (object fields).depth ≤ levels)) := by
                intro field hfield
                refine (hinner value rfl field.2 (allNumbers_object.mp hv field hfield)).mono
                  (fun _ => id) ?_
                rintro hbad ⟨hwhole, hdepth⟩
                rw [depth] at hdepth
                have hle := depth_le_of_mem_fields hfield
                exact hbad ⟨allNumbers_object.mp hwhole field hfield, by omega⟩
              change ((objectOf (member value) [] >>= fun out =>
                Pure.pure (Json.object out.reverse)) _).Meets _ _
              rw [meets_bind]
              have hread := meets_objectOf (fun _ _ _ _ => takesMember_member) hfields
                (⟨hvalue, rfl⟩ : Gathers value _ fields fields []) rest
              refine hread.mono (fun out left hout => ⟨hout.1, ?_⟩) id
              have hwhole := hout.2.whole
              rw [List.append_nil] at hwhole
              simp only [blurred_object, hwhole]

/-- The text of a value is read, unless it holds doubles or nests too deeply. -/
theorem takes_tree (levels : Nat) {v : Json} (hv : v.AllNumbers Number.inRange) :
    Takes (tree levels) v (fun w => w.blurred = v.blurred) (¬(v.Whole ∧ v.depth ≤ levels)) := by
  induction levels generalizing v with
  | zero => exact takes_treeOf (fun _ => rfl) (by simp) hv
  | succ levels ih =>
      refine takes_treeOf (by simp) (fun value hvalue w hw => ?_) hv
      obtain rfl := Option.some.inj hvalue
      refine (ih hw).mono (fun _ => id) ?_
      rintro hbad ⟨hwhole, hdepth⟩
      exact hbad ⟨hwhole, by omega⟩

theorem takes_tree_whole {levels : Nat} {v : Json} (hv : v.AllNumbers Number.inRange)
    (hwhole : v.Whole) (hdepth : v.depth ≤ levels) : Takes (tree levels) v (· = v) False :=
  (takes_tree levels hv).mono (fun _ hw => eq_of_blurred_eq hwhole hw)
    fun hbad => hbad ⟨hwhole, hdepth⟩

/-! ## Documents -/

theorem meets_document_normalize {v : Json} (hv : v.AllNumbers Number.inRange)
    {before text after : List Char} (hbefore : Blanks before) (htext : Layout v text)
    (hafter : Blanks after) :
    (document (before ++ (text ++ after))).Meets
      (fun w left => left = after ∧ w.blurred = v.normalize.blurred)
      (¬(v.Whole ∧ v.depth ≤ nestingLimit)) := by
  have hend : Delimited after := by
    rw [← List.append_nil after]
    exact delimited_blanks hafter fun c hc => absurd hc (by simp)
  have hread := takes_tree nestingLimit hv before text after hbefore htext hend
  unfold document
  rw [meets_bind]
  refine hread.mono (fun w left hw => ⟨hw.1, ?_⟩) id
  rw [blurred_normalize, hw.2, ← blurred_normalize]

theorem meets_document {v : Json} (hv : v.wellFormed) {text : List Char} (htext : Layout v text) :
    (document text).Meets (fun w left => left = [] ∧ w.blurred = v.blurred)
      (¬(v.Whole ∧ v.depth ≤ nestingLimit)) := by
  have hread := meets_document_normalize (allNumbers_of_wellFormed hv) blanks_nil htext blanks_nil
  rwa [normalize_eq_self hv, List.nil_append, List.append_nil] at hread

end Reader

open Reader in
theorem parse_compact_cases {v : Json} (hv : v.wellFormed) :
    (∃ w, parse v.compact = .ok w ∧ w.blurred = v.blurred) ∨
      (∃ e, parse v.compact = .error e) ∧ ¬(v.Whole ∧ v.depth ≤ nestingLimit) := by
  have hread := meets_document hv (layout_compact v)
  rw [← String.toList_ofList (l := v.compactChars)] at hread
  exact run_cases hread

/-- What is read from the text of a document is that document, its doubles apart. -/
theorem blurred_of_parse_compact {v w : Json} (hv : v.wellFormed)
    (h : parse v.compact = .ok w) : w.blurred = v.blurred := by
  rcases parse_compact_cases hv with ⟨u, hu, hblurred⟩ | ⟨⟨e, he⟩, -⟩
  · obtain rfl := Except.ok.inj (h.symm.trans hu)
    exact hblurred
  · rw [h] at he
    cases he

/-- A document of whole numbers, not nested too deeply, is read back from its text. -/
theorem parse_compact {v : Json} (hv : v.wellFormed) (hwhole : v.Whole)
    (hdepth : v.depth ≤ Reader.nestingLimit) : parse v.compact = .ok v := by
  rcases parse_compact_cases hv with ⟨w, hw, hblurred⟩ | ⟨-, hbad⟩
  · rw [hw, eq_of_blurred_eq hwhole hblurred]
  · exact absurd ⟨hwhole, hdepth⟩ hbad

end SchemaKeeper.Json
