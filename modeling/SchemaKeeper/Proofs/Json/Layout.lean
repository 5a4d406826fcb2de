import SchemaKeeper.Json.Printer
import SchemaKeeper.Proofs.Json.Scalar

/-!
# Layouts

The texts of a value differ in their blanks only.  A layout is a text of a value
with blanks on either side of commas and colons and inside of brackets; the
compact and the pretty text are layouts.  What a loop over the
items of a list or the members of an object comes to is said for all layouts at
once: by what each item is read as, and by what a member makes of the state.
-/

namespace SchemaKeeper.Json

open Reader

/-! ## Texts with blanks -/

def Blanks (chars : List Char) : Prop :=
  ∀ c ∈ chars, isBlank c = true

/-- The comma in front of all items but the first. -/
def comma (first : Bool) : List Char :=
  if first then [] else [',']

mutual
inductive Layout : Json → List Char → Prop where
  | null : Layout .null "null".toList
  | true : Layout (.bool true) "true".toList
  | false : Layout (.bool false) "false".toList
  | number (n : Number) : Layout (.number n) n.toChars
  | string (s : String) : Layout (.string s) (quote s)
  | array {items : List Json} {text : List Char} (h : ItemsLayout true items text) :
      Layout (.array items) ('[' :: text)
  | object {fields : List (String × Json)} {text : List Char} (h : FieldsLayout true fields text) :
      Layout (.object fields) ('\x7b' :: text)

/-- The items still to come, whether or not there were others before, and the end of the list. -/
inductive ItemsLayout : Bool → List Json → List Char → Prop where
  | nil (first : Bool) {blanks : List Char} (hblanks : Blanks blanks) :
      ItemsLayout first [] (blanks ++ [']'])
  | cons (first : Bool) {item : Json} {items : List Json} {ahead blanks text tail : List Char}
      (hahead : Blanks ahead) (hblanks : Blanks blanks) (hitem : Layout item text)
      (htail : ItemsLayout false items tail) :
      ItemsLayout first (item :: items) (ahead ++ (comma first ++ (blanks ++ (text ++ tail))))

/-- The members still to come and the end of the object. -/
inductive FieldsLayout : Bool → List (String × Json) → List Char → Prop where
  | nil (first : Bool) {blanks : List Char} (hblanks : Blanks blanks) :
      FieldsLayout first [] (blanks ++ ['\x7d'])
  | cons (first : Bool) (key : String) {value : Json} {fields : List (String × Json)}
      {ahead blanks space gap text tail : List Char} (hahead : Blanks ahead)
      (hblanks : Blanks blanks) (hspace : Blanks space) (hgap : Blanks gap)
      (hvalue : Layout value text) (htail : FieldsLayout false fields tail) :
      FieldsLayout first ((key, value) :: fields)
        (ahead ++ (comma first ++
          (blanks ++ (quote key ++ (space ++ ':' :: (gap ++ (text ++ tail)))))))
end

theorem blanks_nil : Blanks [] :=
  fun _ h => absurd h List.not_mem_nil

theorem Blanks.append {blanks others : List Char} (h : Blanks blanks) (hothers : Blanks others) :
    Blanks (blanks ++ others) :=
  List.forall_mem_append.mpr ⟨h, hothers⟩

theorem blanks_newLine (level : Nat) : Blanks (newLine level) := by
  intro c hc
  rcases List.mem_cons.mp hc with rfl | hspace
  · rfl
  · rw [List.eq_of_mem_replicate hspace]
    rfl

theorem dropWhile_blanks {blanks : List Char} (h : Blanks blanks) (rest : List Char) :
    (blanks ++ rest).dropWhile isBlank = rest.dropWhile isBlank :=
  List.dropWhile_append_of_pos h

/-! ## The two texts of the printer -/

section

variable {item : Json} {items : List Json} {field : String × Json} {fields : List (String × Json)}
  {text : List Char}

theorem ItemsLayout.next (h : ItemsLayout true (item :: items) text) :
    ItemsLayout false (item :: items) (',' :: text) := by
  cases h with
  | cons _ hahead hblanks hitem htail =>
      simpa [comma] using ItemsLayout.cons false blanks_nil (hahead.append hblanks) hitem htail

theorem FieldsLayout.next (h : FieldsLayout true (field :: fields) text) :
    FieldsLayout false (field :: fields) (',' :: text) := by
  cases h with
  | cons _ key hahead hblanks hspace hgap hvalue htail =>
      simpa [comma] using
        FieldsLayout.cons false key blanks_nil (hahead.append hblanks) hspace hgap hvalue htail

theorem itemsLayout_compact (h : ∀ item ∈ items, Layout item item.compactChars) :
    ItemsLayout true items (compactItems items ++ [']']) := by
  induction items with
  | nil => exact .nil true blanks_nil
  | cons item items ih =>
      obtain ⟨hitem, hitems⟩ := List.forall_mem_cons.mp h
      cases items with
      | nil => exact .cons true blanks_nil blanks_nil hitem (.nil false blanks_nil)
      | cons other items =>
          have htail := (ih hitems).next
          simpa [compactItems, comma] using
            ItemsLayout.cons true blanks_nil blanks_nil hitem htail

theorem fieldsLayout_compact (h : ∀ field ∈ fields, Layout field.2 field.2.compactChars) :
    FieldsLayout true fields (compactFields fields ++ ['\x7d']) := by
  induction fields with
  | nil => exact .nil true blanks_nil
  | cons field fields ih =>
      obtain ⟨key, value⟩ := field
      obtain ⟨hvalue, hfields⟩ := List.forall_mem_cons.mp h
      cases fields with
      | nil =>
          have htail := FieldsLayout.nil false blanks_nil
          simpa [compactFields, comma] using
            FieldsLayout.cons true key blanks_nil blanks_nil blanks_nil blanks_nil hvalue htail
      | cons other fields =>
          have htail := (ih hfields).next
          simpa [compactFields, comma] using
            FieldsLayout.cons true key blanks_nil blanks_nil blanks_nil blanks_nil hvalue htail

theorem layout_compact (v : Json) : Layout v v.compactChars := by
  induction v using memInduction with
  | null => exact .null
  | bool b => cases b with
    | false => exact .false
    | true => exact .true
  | number n => exact .number n
  | string s => exact .string s
  | array items ih => exact .array (itemsLayout_compact ih)
  | object fields ih => exact .object (fieldsLayout_compact ih)

theorem itemsLayout_pretty (level outer : Nat)
    (h : ∀ item ∈ items, Layout item (item.prettyChars level)) :
    ItemsLayout false items (prettyItems level items ++ (newLine outer ++ [']'])) := by
  induction items with
  | nil => exact .nil false (blanks_newLine outer)
  | cons item items ih =>
      obtain ⟨hitem, hitems⟩ := List.forall_mem_cons.mp h
      simpa [prettyItems, comma] using
        ItemsLayout.cons false blanks_nil (blanks_newLine level) hitem (ih hitems)

theorem fieldsLayout_pretty (level outer : Nat)
    (h : ∀ field ∈ fields, Layout field.2 (field.2.prettyChars level)) :
    FieldsLayout false fields (prettyFields level fields ++ (newLine outer ++ ['\x7d'])) := by
  induction fields with
  | nil => exact .nil false (blanks_newLine outer)
  | cons field fields ih =>
      obtain ⟨key, value⟩ := field
      obtain ⟨hvalue, hfields⟩ := List.forall_mem_cons.mp h
      have hgap : Blanks [' '] := by simp [Blanks, isBlank]
      simpa [prettyFields, comma] using
        FieldsLayout.cons false key blanks_nil (blanks_newLine level) blanks_nil hgap hvalue (ih hfields)

theorem layout_pretty (v : Json) (level : Nat) : Layout v (v.prettyChars level) := by
  induction v using memInduction generalizing level with
  | null => exact .null
  | bool b => cases b with
    | false => exact .false
    | true => exact .true
  | number n => exact .number n
  | string s => exact .string s
  | array items ih =>
      cases items with
      | nil => exact .array (.nil true blanks_nil)
      | cons item items =>
          obtain ⟨hitem, hitems⟩ := List.forall_mem_cons.mp ih
          have htail := itemsLayout_pretty (level + 1) level fun item h => hitems item h (level + 1)
          simpa [prettyChars, comma] using
            Layout.array
              (.cons true blanks_nil (blanks_newLine (level + 1)) (hitem (level + 1)) htail)
  | object fields ih =>
      cases fields with
      | nil => exact .object (.nil true blanks_nil)
      | cons field fields =>
          obtain ⟨key, value⟩ := field
          obtain ⟨hvalue, hfields⟩ := List.forall_mem_cons.mp ih
          have hgap : Blanks [' '] := by simp [Blanks, isBlank]
          have htail := fieldsLayout_pretty (level + 1) level
            fun field h => hfields field h (level + 1)
          simpa [prettyChars, comma] using Layout.object
            (.cons true key blanks_nil (blanks_newLine (level + 1)) blanks_nil hgap
              (hvalue (level + 1)) htail)

end

/-! ## Where values begin and end -/

namespace Reader

/-- A character that can begin a value inside a list. -/
def Begins (c : Char) : Prop :=
  isBlank c = false ∧ c ≠ ']'

theorem begins_of_isDigit {c : Char} (h : isDigit c = true) : Begins c := by
  constructor
  · cases hblank : isBlank c with
    | false => rfl
    | true =>
        simp only [isBlank, Bool.or_eq_true, beq_iff_eq] at hblank
        rcases hblank with ((rfl | rfl) | rfl) | rfl <;> simp [isDigit] at h
  · rintro rfl
    simp [isDigit] at h

/-- Only the text of a double might begin with neither a digit nor a sign. -/
theorem exists_begin_number (n : Number) :
    ∃ c cs, n.toChars = c :: cs ∧
      (c = '-' ∨ isDigit c = true ∨ IsDouble n ∧ (c = '.' ∨ c = 'e')) := by
  cases n with
  | integer n =>
      obtain ⟨d, ds, hds⟩ :=
        List.exists_cons_of_ne_nil (Nat.toDigits_ne_nil (n := n.natAbs) (b := 10))
      simp only [Number.toChars]
      split
      · exact ⟨_, _, rfl, .inl rfl⟩
      · exact ⟨d, ds, hds, .inr (.inl (isDigit_of_mem_toDigits (n := n.natAbs) (by simp [hds])))⟩
  | double x =>
      obtain ⟨body, ⟨whole, tail, rfl, hwhole, htail⟩, hchars⟩ := doubleText_toChars x
      simp only [Number.toChars]
      rcases hchars with hchars | hchars
      · rw [hchars]
        cases whole with
        | nil =>
            cases htail with
            | fraction => exact ⟨_, _, rfl, .inr (.inr ⟨⟨x, rfl⟩, .inl rfl⟩)⟩
            | exponent => exact ⟨_, _, rfl, .inr (.inr ⟨⟨x, rfl⟩, .inr rfl⟩)⟩
        | cons d ds => exact ⟨d, _, rfl, .inr (.inl (hwhole d List.mem_cons_self))⟩
      · exact ⟨_, _, hchars, .inl rfl⟩

/-- Every value can begin inside a list, and none but `null` with its first letter. -/
theorem exists_begin {v : Json} {text : List Char} (h : Layout v text) :
    ∃ c cs, text = c :: cs ∧ Begins c ∧ (v ≠ .null → c ≠ 'n') := by
  have hsign {c : Char} {cs : List Char} (h : isBlank c = false ∧ c ≠ ']') (hn : c ≠ 'n') :
      ∃ d ds, c :: cs = d :: ds ∧ Begins d ∧ (v ≠ .null → d ≠ 'n') :=
    ⟨c, cs, rfl, h, fun _ => hn⟩
  cases h with
  | null => exact ⟨'n', _, rfl, ⟨by decide, by decide⟩, fun hne => absurd rfl hne⟩
  | true | false | string | array | object => exact hsign ⟨by decide, by decide⟩ (by decide)
  | number n =>
      obtain ⟨c, cs, hcs, hc⟩ := exists_begin_number n
      rcases hc with rfl | hdigit | ⟨-, rfl | rfl⟩
      · exact ⟨_, cs, hcs, ⟨by decide, by decide⟩, fun _ => by decide⟩
      · refine ⟨c, cs, hcs, begins_of_isDigit hdigit, ?_⟩
        rintro - rfl
        simp [isDigit] at hdigit
      · exact ⟨_, cs, hcs, ⟨by decide, by decide⟩, fun _ => by decide⟩
      · exact ⟨_, cs, hcs, ⟨by decide, by decide⟩, fun _ => by decide⟩

theorem delimited_cons {c : Char} (h : isBlank c = true ∨ c ∈ [',', ']', '\x7d'])
    (rest : List Char) : Delimited (c :: rest) := by
  intro d hd
  obtain rfl := Option.some.inj hd
  simp only [isBlank, Bool.or_eq_true, beq_iff_eq, List.mem_cons, List.not_mem_nil, or_false] at h
  rcases h with ((((rfl | rfl) | rfl) | rfl) | rfl | rfl | rfl) <;> simp [isDigit]

theorem delimited_blanks {blanks : List Char} (h : Blanks blanks) {rest : List Char}
    (hrest : Delimited rest) : Delimited (blanks ++ rest) := by
  cases blanks with
  | nil => exact hrest
  | cons c blanks => exact delimited_cons (.inl (h c List.mem_cons_self)) _

theorem delimited_items {items : List Json} {text : List Char} (h : ItemsLayout false items text)
    (rest : List Char) : Delimited (text ++ rest) := by
  cases h with
  | nil _ hblanks =>
      rw [List.append_assoc]
      exact delimited_blanks hblanks (delimited_cons (by simp) _)
  | cons _ hahead =>
      rw [List.append_assoc]
      exact delimited_blanks hahead (delimited_cons (.inr (by simp)) _)

theorem delimited_fields {fields : List (String × Json)} {text : List Char}
    (h : FieldsLayout false fields text) (rest : List Char) : Delimited (text ++ rest) := by
  cases h with
  | nil _ hblanks =>
      rw [List.append_assoc]
      exact delimited_blanks hblanks (delimited_cons (by simp) _)
  | cons _ _ hahead =>
      rw [List.append_assoc]
      exact delimited_blanks hahead (delimited_cons (.inr (by simp)) _)

theorem length_lt_items {items : List Json} {first : Bool} {text : List Char}
    (h : ItemsLayout first items text) : items.length < text.length := by
  induction items generalizing first text with
  | nil =>
      cases h with
      | nil => simp
  | cons item items ih =>
      cases h with
      | cons _ hahead hblanks hitem htail =>
          obtain ⟨c, cs, rfl, -⟩ := exists_begin hitem
          have hshort := ih htail
          simp only [List.length_append, List.length_cons]
          omega

theorem length_lt_fields {fields : List (String × Json)} {first : Bool} {text : List Char}
    (h : FieldsLayout first fields text) : fields.length < text.length := by
  induction fields generalizing first text with
  | nil =>
      cases h with
      | nil => simp
  | cons field fields ih =>
      cases h with
      | cons _ key hahead hblanks hspace hgap hvalue htail =>
          have hshort := ih htail
          simp only [List.length_append, List.length_cons]
          omega

/-! ## Readers of values -/

variable {α β ι : Type} {bad : Prop}

theorem peekSolid_bind_blanks {blanks : List Char} (h : Blanks blanks)
    (next : Option Char → Reader α) (rest : List Char) :
    (peekSolid >>= next) (blanks ++ rest) = (peekSolid >>= next) rest := by
  change bind peekSolid next (blanks ++ rest) = bind peekSolid next rest
  simp only [bind, peekSolid, dropWhile_blanks h]

/-- All layouts of a value are read, after any blanks, as something good. -/
def Takes (r : Reader α) (v : Json) (good : α → Prop) (bad : Prop) : Prop :=
  ∀ blanks text rest, Blanks blanks → Layout v text → Delimited rest →
    (r (blanks ++ (text ++ rest))).Meets (fun a left => left = rest ∧ good a) bad

theorem Takes.mono {r : Reader α} {v : Json} {good better : α → Prop} {worse : Prop}
    (h : Takes r v good bad) (hgood : ∀ a, good a → better a) (hbad : bad → worse) :
    Takes r v better worse :=
  fun blanks text rest hblanks htext hrest =>
    (h blanks text rest hblanks htext hrest).mono (fun a _ ha => ⟨ha.1, hgood a ha.2⟩) hbad

/-- All layouts of a value are read after the colon of a member. -/
def TakesMember (r : Reader β) (v : Json) (good : β → Prop) (bad : Prop) : Prop :=
  ∀ space gap text rest, Blanks space → Blanks gap → Layout v text → Delimited rest →
    (r (space ++ ':' :: (gap ++ (text ++ rest)))).Meets (fun b left => left = rest ∧ good b) bad

theorem takesMember_colon {r : Reader β} {v : Json} {good : β → Prop} (h : Takes r v good bad) :
    TakesMember (do colon; r) v good bad := by
  intro space gap text rest hspace hgap htext hrest
  have hcolon : colon (space ++ ':' :: (gap ++ (text ++ rest))) =
      .value () (gap ++ (text ++ rest)) := by
    unfold colon
    rw [peekSolid_bind_blanks hspace]
    rfl
  rw [meets_bind, hcolon]
  exact h gap text rest hgap htext hrest

theorem takes_return {r : Reader α} {v : Json} {good : β → Prop} {f : α → β}
    (h : Takes r v (fun a => good (f a)) bad) : Takes (do return f (← r)) v good bad := by
  intro blanks text rest hblanks htext hrest
  rw [meets_bind]
  exact h blanks text rest hblanks htext hrest

theorem takesMember_return {γ : Type} {r : Reader β} {v : Json} {good : γ → Prop} {f : β → γ}
    (h : TakesMember r v (fun b => good (f b)) bad) :
    TakesMember (do return f (← r)) v good bad := by
  intro space gap text rest hspace hgap htext hrest
  rw [meets_bind]
  exact h space gap text rest hspace hgap htext hrest

theorem TakesMember.mono {r : Reader β} {v : Json} {good better : β → Prop}
    (h : TakesMember r v good bad) (hgood : ∀ b, good b → better b) : TakesMember r v better bad :=
  fun space gap text rest hspace hgap htext hrest =>
    (h space gap text rest hspace hgap htext hrest).mono (fun b _ hb => ⟨hb.1, hgood b hb.2⟩) id

/-! ## Lists -/

theorem meets_moreItems_nil (first : Bool) {blanks : List Char} (hblanks : Blanks blanks)
    {rest : List Char} {good : Bool → List Char → Prop} (h : good false (']' :: rest)) :
    (moreItems first (blanks ++ ']' :: rest)).Meets good bad := by
  unfold moreItems
  rw [meets_bind, meets_peekSolid, dropWhile_blanks hblanks]
  simpa [isBlank] using h

theorem meets_moreItems_cons (first : Bool) {item : Json} {ahead blanks text : List Char}
    (hahead : Blanks ahead) (hblanks : Blanks blanks) (hitem : Layout item text) {rest : List Char}
    {good : Bool → List Char → Prop} (h : good true (text ++ rest)) :
    (moreItems first (ahead ++ (comma first ++ (blanks ++ (text ++ rest))))).Meets good bad := by
  obtain ⟨c, cs, rfl, hc, -⟩ := exists_begin hitem
  have hdrop : (blanks ++ (c :: cs ++ rest)).dropWhile isBlank = c :: cs ++ rest := by
    rw [dropWhile_blanks hblanks, List.cons_append, List.dropWhile_cons_of_neg (by simp [hc.1])]
  unfold moreItems
  rw [peekSolid_bind_blanks hahead]
  cases first with
  | true =>
      simp only [comma, if_true, List.nil_append]
      rw [meets_bind, meets_peekSolid, hdrop]
      simpa [hc.2] using h
  | false =>
      simp only [comma, Bool.false_eq_true, if_false, List.cons_append, List.nil_append]
      rw [meets_bind]
      change ((skip >>= _) (',' :: (blanks ++ (c :: cs ++ rest)))).Meets good bad
      rw [meets_bind, meets_skip, List.tail_cons, meets_bind, meets_peekSolid, hdrop]
      exact meets_ite (fun h => absurd h hc.2) fun _ => h

/-- A loop over items that are read as `f` and `g` agree on them reads a list on which they agree. -/
theorem meets_items {γ : Type} {r : Reader α} {value : ι → Json} {f : α → γ} {g : ι → γ}
    {is : List ι} (h : ∀ i ∈ is, Takes r (value i) (fun a => f a = g i) bad) {fuel : Nat}
    (hfuel : is.length < fuel) {first : Bool} {text : List Char}
    (htext : ItemsLayout first (is.map value) text) (rest : List Char) :
    (items r fuel first (text ++ rest)).Meets
      (fun found left => left = ']' :: rest ∧ found.map f = is.map g) bad := by
  induction is generalizing fuel first text with
  | nil =>
      cases fuel with
      | zero => simp at hfuel
      | succ fuel =>
          cases htext with
          | nil _ hblanks =>
              unfold items
              rw [meets_bind, List.append_assoc]
              exact meets_moreItems_nil first hblanks ⟨rfl, rfl⟩
  | cons i is ih =>
      cases fuel with
      | zero => simp at hfuel
      | succ fuel =>
          cases htext with
          | cons _ hahead hblanks hitem htail =>
              obtain ⟨hi, his⟩ := List.forall_mem_cons.mp h
              have hfuel : is.length < fuel := by simpa using hfuel
              have hmore := ih his hfuel htail
              unfold items
              rw [meets_bind, List.append_assoc, List.append_assoc, List.append_assoc,
                List.append_assoc]
              refine meets_moreItems_cons first hahead hblanks hitem ?_
              simp only [if_true]
              rw [meets_bind]
              refine (hi [] _ _ blanks_nil hitem (delimited_items htail rest)).mono
                (fun a left ha => ?_) id
              rw [meets_bind, ha.1]
              exact hmore.mono (fun as left has => ⟨has.1, by simp [ha.2, has.2]⟩) id

theorem meets_listOf {γ : Type} {r : Reader α} {value : ι → Json} {f : α → γ} {g : ι → γ}
    {is : List ι} (h : ∀ i ∈ is, Takes r (value i) (fun a => f a = g i) bad) {text : List Char}
    (htext : ItemsLayout true (is.map value) text) (rest : List Char) :
    (listOf r ('[' :: (text ++ rest))).Meets
      (fun found left => left = rest ∧ found.map f = is.map g) bad := by
  have hlength := length_lt_items htext
  have hfuel : is.length < (text ++ rest).length + 1 := by
    simp only [List.length_map, List.length_append] at hlength ⊢
    omega
  unfold listOf
  rw [meets_bind, meets_skip]
  apply meets_closedBy
  rw [meets_bind, meets_steps]
  refine (meets_items h hfuel htext rest).mono (fun found left hfound => ?_) id
  obtain ⟨rfl, hfound⟩ := hfound
  simpa [listEnd, isBlank] using hfound

/-! ## Objects -/

theorem meets_moreKeys_nil (first : Bool) {blanks : List Char} (hblanks : Blanks blanks)
    {rest : List Char} {good : Bool → List Char → Prop} (h : good false ('\x7d' :: rest)) :
    (moreKeys first (blanks ++ '\x7d' :: rest)).Meets good bad := by
  unfold moreKeys
  rw [meets_bind, meets_peekSolid, dropWhile_blanks hblanks]
  simpa [isBlank] using h

theorem quote_append (k : String) (rest : List Char) :
    quote k ++ rest = '"' :: (k.toList.flatMap escapeChar ++ '"' :: rest) := by
  simp [quote, quoteChars]

theorem meets_moreKeys_cons (first : Bool) (k : String) {ahead blanks : List Char}
    (hahead : Blanks ahead) (hblanks : Blanks blanks) {rest : List Char}
    {good : Bool → List Char → Prop} (h : good true (quote k ++ rest)) :
    (moreKeys first (ahead ++ (comma first ++ (blanks ++ (quote k ++ rest))))).Meets good bad := by
  have hdrop : (blanks ++ (quote k ++ rest)).dropWhile isBlank = quote k ++ rest := by
    rw [dropWhile_blanks hblanks, quote_append, List.dropWhile_cons_of_neg (by decide)]
  rw [quote_append] at h hdrop ⊢
  unfold moreKeys
  rw [peekSolid_bind_blanks hahead]
  cases first with
  | true =>
      simp only [comma, if_true, List.nil_append]
      rw [meets_bind, meets_peekSolid, hdrop]
      simpa using h
  | false =>
      simp only [comma, Bool.false_eq_true, if_false, List.cons_append, List.nil_append]
      rw [meets_bind, meets_peekSolid, List.dropWhile_cons_of_neg (by decide)]
      change ((skip >>= _) (',' :: _)).Meets good bad
      rw [meets_bind, meets_skip, List.tail_cons, meets_bind, meets_peekSolid, hdrop]
      simpa using h

theorem key_quote (k : String) (rest : List Char) : key (quote k ++ rest) = .value k rest := by
  rw [quote_append]
  exact stringTail_quoted k rest

/-- What holds of the members still to come and the state holds to the end. -/
theorem meets_members {member : String → β → Reader β} {P : List (String × Json) → β → Prop}
    (hstep : ∀ k v fields state, P ((k, v) :: fields) state →
      TakesMember (member k state) v (P fields) bad)
    {fields : List (String × Json)} {fuel : Nat} (hfuel : fields.length < fuel) {first : Bool}
    {text : List Char} (htext : FieldsLayout first fields text) {state : β} (hstate : P fields state)
    (rest : List Char) :
    (members member fuel first state (text ++ rest)).Meets
      (fun out left => left = '\x7d' :: rest ∧ P [] out) bad := by
  induction fields generalizing fuel first text state with
  | nil =>
      cases fuel with
      | zero => simp at hfuel
      | succ fuel =>
          cases htext with
          | nil _ hblanks =>
              unfold members
              rw [meets_bind, List.append_assoc]
              exact meets_moreKeys_nil first hblanks ⟨rfl, hstate⟩
  | cons field fields ih =>
      cases fuel with
      | zero => simp at hfuel
      | succ fuel =>
          cases htext with
          | @cons _ k v _ ahead blanks space gap text tail hahead hblanks hspace hgap hvalue htail =>
              have hfuel : fields.length < fuel := by simpa using hfuel
              have hmember := hstep k v fields state hstate space gap text (tail ++ rest) hspace hgap
                hvalue (delimited_fields htail rest)
              have hassoc : ahead ++ (comma first ++ (blanks ++ (quote k ++
                    (space ++ ':' :: (gap ++ (text ++ tail)))))) ++ rest =
                  ahead ++ (comma first ++ (blanks ++ (quote k ++
                    (space ++ ':' :: (gap ++ (text ++ (tail ++ rest))))))) := by
                simp
              unfold members
              rw [meets_bind, hassoc]
              refine meets_moreKeys_cons first k hahead hblanks ?_
              simp only [if_true]
              rw [meets_bind, key_quote]
              change ((member k state >>= _) _).Meets _ _
              rw [meets_bind]
              refine hmember.mono (fun next left hnext => ?_) id
              obtain ⟨rfl, hnext⟩ := hnext
              exact ih hfuel htail hnext

/-- The text after the opening bracket of an object, with the loop that reads it. -/
theorem meets_allMembers {member : String → β → Reader β} {P : List (String × Json) → β → Prop}
    (hstep : ∀ k v fields state, P ((k, v) :: fields) state →
      TakesMember (member k state) v (P fields) bad)
    {fields : List (String × Json)} {text : List Char} (htext : FieldsLayout true fields text)
    {start : β} (hstart : P fields start) (rest : List Char) :
    ((do members member (← steps) true start) (text ++ rest)).Meets
      (fun out left => left = '\x7d' :: rest ∧ P [] out) bad := by
  have hlength := length_lt_fields htext
  have hfuel : fields.length < (text ++ rest).length + 1 := by
    simp only [List.length_append]
    omega
  rw [meets_bind, meets_steps]
  exact meets_members hstep hfuel htext hstart rest

theorem meets_objectEnd {good : Unit → List Char → Prop} {rest : List Char} (h : good () rest) :
    (objectEnd ('\x7d' :: rest)).Meets good bad :=
  h

theorem meets_objectOf {member : String → β → Reader β} {P : List (String × Json) → β → Prop}
    (hstep : ∀ k v fields state, P ((k, v) :: fields) state →
      TakesMember (member k state) v (P fields) bad)
    {fields : List (String × Json)} {text : List Char} (htext : FieldsLayout true fields text)
    {start : β} (hstart : P fields start) (rest : List Char) :
    (objectOf member start ('\x7b' :: (text ++ rest))).Meets
      (fun out left => left = rest ∧ P [] out) bad := by
  unfold objectOf
  rw [meets_bind, meets_skip]
  apply meets_closedBy
  refine (meets_allMembers hstep htext hstart rest).mono (fun out left hout => ?_) id
  obtain ⟨rfl, hout⟩ := hout
  exact meets_objectEnd ⟨rfl, hout⟩

end Reader

end SchemaKeeper.Json
