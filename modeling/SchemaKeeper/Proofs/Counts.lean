import Mathlib.Data.List.DropRight
import SchemaKeeper.Model
import SchemaKeeper.Proofs.Json.Scalar

/-!
# How counts are read

A count stands at the end of a path through nested objects, as a whole number or as
a text that holds its digits between blanks.  The reader takes these spellings and
no others, and it tells a path that leads to nothing from a value that is no count.
The counts of a desired model and those of a cluster's answer are read by one rule.
-/

namespace SchemaKeeper

/-! ## Paths -/

namespace Json

/-- A path leads from member to member through nested objects to a value. -/
inductive Leads : Json → List String → Json → Prop where
  | here (value : Json) : Leads value [] value
  | member {fields : List (String × Json)} {key : String} {keys : List String}
      {inner value : Json} (hkey : fields.lookup key = some inner) (h : Leads inner keys value) :
      Leads (.object fields) (key :: keys) value

/-- A path breaks off at a value that is no object, or at a member that is not there. -/
inductive BreaksOff : Json → List String → Prop where
  | noObject {value : Json} {key : String} {keys : List String}
      (hvalue : ∀ fields, value ≠ .object fields) : BreaksOff value (key :: keys)
  | noMember {fields : List (String × Json)} {key : String} {keys : List String}
      (hkey : fields.lookup key = none) : BreaksOff (.object fields) (key :: keys)
  | member {fields : List (String × Json)} {key : String} {keys : List String} {inner : Json}
      (hkey : fields.lookup key = some inner) (h : BreaksOff inner keys) :
      BreaksOff (.object fields) (key :: keys)

theorem at?_object (fields : List (String × Json)) (key : String) (keys : List String) :
    (Json.object fields).at? (key :: keys) = (fields.lookup key).bind (·.at? keys) :=
  rfl

theorem at?_of_not_object {value : Json} (h : ∀ fields, value ≠ .object fields) (key : String)
    (keys : List String) : value.at? (key :: keys) = none := by
  cases value with
  | object fields => exact absurd rfl (h fields)
  | null | bool | number | string | array => rfl

theorem at?_of_leads {root value : Json} {path : List String} (h : root.Leads path value) :
    root.at? path = some value := by
  induction h with
  | here value => rfl
  | member hkey _ ih => rw [at?_object, hkey, Option.bind_some, ih]

theorem at?_of_breaksOff {root : Json} {path : List String} (h : root.BreaksOff path) :
    root.at? path = none := by
  induction h with
  | noObject hvalue => exact at?_of_not_object hvalue ..
  | noMember hkey => rw [at?_object, hkey, Option.bind_none]
  | member hkey _ ih => rw [at?_object, hkey, Option.bind_some, ih]

/-- Every path leads to a value or breaks off on the way. -/
theorem leads_or_breaksOff (root : Json) (path : List String) :
    (∃ value, root.Leads path value) ∨ root.BreaksOff path := by
  induction path generalizing root with
  | nil => exact .inl ⟨root, .here root⟩
  | cons key keys ih =>
      cases root with
      | object fields =>
          cases hkey : fields.lookup key with
          | none => exact .inr (.noMember hkey)
          | some inner =>
              rcases ih inner with ⟨value, hleads⟩ | hbreaks
              · exact .inl ⟨value, .member hkey hleads⟩
              · exact .inr (.member hkey hbreaks)
      | null | bool | number | string | array => exact .inr (.noObject nofun)

theorem at?_eq_some_iff {root value : Json} {path : List String} :
    root.at? path = some value ↔ root.Leads path value := by
  refine ⟨fun h => ?_, at?_of_leads⟩
  rcases root.leads_or_breaksOff path with ⟨found, hleads⟩ | hbreaks
  · obtain rfl := Option.some.inj ((at?_of_leads hleads).symm.trans h)
    exact hleads
  · cases (at?_of_breaksOff hbreaks).symm.trans h

theorem at?_eq_none_iff {root : Json} {path : List String} :
    root.at? path = none ↔ root.BreaksOff path := by
  refine ⟨fun h => ?_, at?_of_breaksOff⟩
  rcases root.leads_or_breaksOff path with ⟨found, hleads⟩ | hbreaks
  · cases (at?_of_leads hleads).symm.trans h
  · exact hbreaks

end Json

/-! ## Blanks at the ends -/

namespace Text

variable {test : Char → Bool} {before middle after : List Char}

theorem trimChars_eq (test : Char → Bool) (chars : List Char) :
    trimChars test chars = (chars.dropWhile test).rdropWhile test :=
  rfl

theorem exists_trimChars (test : Char → Bool) (chars : List Char) :
    ∃ before after, chars = before ++ trimChars test chars ++ after ∧
      (∀ c ∈ before, test c = true) ∧ ∀ c ∈ after, test c = true := by
  refine ⟨chars.takeWhile test, (chars.dropWhile test).rtakeWhile test, ?_,
    fun c hc => List.mem_takeWhile_imp hc, fun c hc => List.mem_rtakeWhile_imp hc⟩
  rw [trimChars_eq, List.append_assoc, List.rdropWhile_append_rtakeWhile,
    List.takeWhile_append_dropWhile]

/-- What holds no blank is all that is left between blanks. -/
theorem trimChars_append (hbefore : ∀ c ∈ before, test c = true)
    (hmiddle : ∀ c ∈ middle, test c = false) (hafter : ∀ c ∈ after, test c = true) :
    trimChars test (before ++ middle ++ after) = middle := by
  have hback : (middle ++ after).rdropWhile test = middle := by
    have hreversed : middle.reverse.dropWhile test = middle.reverse :=
      List.dropWhile_eq_self_iff.mpr fun hl =>
        Bool.not_eq_true _ ▸ hmiddle _ (List.mem_reverse.mp (List.getElem_mem hl))
    rw [List.rdropWhile, List.reverse_append,
      List.dropWhile_append_of_pos fun c hc => hafter c (List.mem_reverse.mp hc), hreversed,
      List.reverse_reverse]
  rw [trimChars_eq, List.append_assoc, List.dropWhile_append_of_pos hbefore]
  -- where there is nothing in the middle, the blanks behind it go with those in front
  cases middle with
  | nil => rw [List.nil_append, List.dropWhile_eq_nil_iff.mpr hafter, List.rdropWhile_nil]
  | cons c middle =>
      have hfirst : ¬test c = true := by simp [hmiddle c List.mem_cons_self]
      rw [List.cons_append, List.dropWhile_cons_of_neg hfirst]
      exact hback

end Text

/-! ## Spellings -/

namespace Model

variable {chars digits : List Char} {path : List String}

/-- One or more decimal digits that denote a number. -/
structure IsNumeral (digits : List Char) (n : Nat) : Prop where
  nonempty : digits ≠ []
  decimal : ∀ d ∈ digits, d.isDigit = true
  value : Nat.ofDigitChars 10 digits 0 = n

/-- A count is spelled as a whole number, or as digits in a text, maybe with a plus and blanks. -/
inductive Spells : Json → UInt32 → Prop where
  | number (n : UInt32) : Spells (.number (.integer n.toNat)) n
  | text {s : String} {before sign digits after : List Char} {n : UInt32}
      (hs : s.toList = before ++ (sign ++ digits) ++ after)
      (hbefore : ∀ c ∈ before, Text.isBlank c = true) (hsign : sign = [] ∨ sign = ['+'])
      (hdigits : IsNumeral digits n.toNat) (hafter : ∀ c ∈ after, Text.isBlank c = true) :
      Spells (.string s) n

theorem foldl_digits (digits : List Char) :
    digits.foldl (fun n d => n * 10 + Json.Reader.digitValue d) 0 =
      Nat.ofDigitChars 10 digits 0 := by
  simp only [Nat.ofDigitChars_eq_foldl, Json.Reader.digitValue, Nat.mul_comm]

/-- What is read of digits that come without a sign. -/
theorem unsigned_eq_some_iff {n : Nat} :
    (if digits.isEmpty || !digits.all Json.Reader.isDigit then none
      else
        let n := digits.foldl (fun n d => n * 10 + Json.Reader.digitValue d) 0
        if n < countBound then some n else none) = some n ↔
      IsNumeral digits n ∧ n < countBound := by
  rw [foldl_digits]
  constructor
  · intro h
    split at h
    next => cases h
    next hdigits =>
      dsimp only at h
      split at h
      next hbound =>
        obtain rfl := Option.some.inj h
        simp only [Bool.or_eq_true, List.isEmpty_iff, Bool.not_eq_true', not_or,
          Bool.not_eq_false, List.all_eq_true, Json.Reader.isDigit_eq] at hdigits
        exact ⟨⟨hdigits.1, hdigits.2, rfl⟩, hbound⟩
      next => cases h
  · rintro ⟨⟨hne, hdecimal, rfl⟩, hbound⟩
    have hall : digits.all Json.Reader.isDigit = true :=
      List.all_eq_true.mpr fun d hd => (Json.Reader.isDigit_eq d).trans (hdecimal d hd)
    simp [hne, hall, hbound]

theorem countOfDigits?_eq_some_iff {n : Nat} :
    countOfDigits? chars = some n ↔
      (∃ sign digits, chars = sign ++ digits ∧ (sign = [] ∨ sign = ['+']) ∧
        IsNumeral digits n) ∧ n < countBound := by
  unfold countOfDigits?
  split
  next rest =>
    -- a plus is no digit, so the sign can be split off in one way only
    refine unsigned_eq_some_iff.trans (and_congr_left fun _ => ⟨fun h => ?_, ?_⟩)
    · exact ⟨['+'], rest, rfl, .inr rfl, h⟩
    · rintro ⟨sign, digits, hchars, rfl | rfl, h⟩
      · obtain rfl : digits = '+' :: rest := hchars.symm
        exact absurd (h.decimal '+' List.mem_cons_self) (by decide)
      · obtain rfl := (List.cons.inj hchars).2
        exact h
  next hunsigned =>
    refine unsigned_eq_some_iff.trans (and_congr_left fun _ => ⟨fun h => ?_, ?_⟩)
    · exact ⟨[], chars, rfl, .inl rfl, h⟩
    · rintro ⟨sign, digits, hchars, rfl | rfl, h⟩
      · exact hchars ▸ h
      · exact absurd hchars (hunsigned digits)

example : countOfDigits? "+0004294967295".toList = some 4294967295 ∧
    countOfDigits? "4294967296".toList = none := by
  decide

/-! ## Blanks around digits -/

theorem isBlank_of_isDigit {c : Char} (h : c.isDigit = true) : Text.isBlank c = false := by
  rw [← Json.Reader.isDigit_eq] at h
  simp only [Json.Reader.isDigit, Bool.and_eq_true, decide_eq_true_eq, Char.le_def,
    UInt32.le_iff_toNat_le] at h
  have hlow : 48 ≤ c.toNat := h.1
  have hhigh : c.toNat ≤ 57 := h.2
  simp only [Text.isBlank, Bool.or_eq_false_iff, Bool.and_eq_false_iff, decide_eq_false_iff_not,
    beq_eq_false_iff_ne]
  omega

theorem spells_string_iff {s : String} {n : UInt32} :
    Spells (.string s) n ↔
      countOfDigits? (Text.trimChars Text.isBlank s.toList) = some n.toNat := by
  have hbound : n.toNat < countBound := n.toNat_lt
  rw [countOfDigits?_eq_some_iff, and_iff_left hbound]
  constructor
  · intro h
    cases h with
    | @text _ before sign digits after _ hs hbefore hsign hdigits hafter =>
        have hmiddle : ∀ c ∈ sign ++ digits, Text.isBlank c = false := by
          refine List.forall_mem_append.mpr ⟨?_, fun d hd => ?_⟩
          · rcases hsign with rfl | rfl
            · exact List.forall_mem_nil _
            · exact List.forall_mem_singleton.mpr (by decide)
          · exact isBlank_of_isDigit (hdigits.decimal d hd)
        rw [hs, Text.trimChars_append hbefore hmiddle hafter]
        exact ⟨sign, digits, rfl, hsign, hdigits⟩
  · rintro ⟨sign, digits, hchars, hsign, hdigits⟩
    obtain ⟨before, after, hs, hbefore, hafter⟩ := Text.exists_trimChars Text.isBlank s.toList
    rw [hchars] at hs
    exact .text hs hbefore hsign hdigits hafter

/-! ## Readings -/

theorem readCount_integer_eq_ok_iff {m : Int} {n : UInt32} :
    readCount path (some (.number (.integer m))) = .ok n ↔ m = n.toNat := by
  have hbound : (n.toNat : Int) < countBound := Int.ofNat_lt.mpr n.toNat_lt
  rw [readCount]
  split
  next hrange =>
    obtain ⟨k, rfl⟩ := Int.eq_ofNat_of_zero_le hrange.1
    have hk : k < 2 ^ 32 := Int.ofNat_lt.mp hrange.2
    simp only [Int.toNat_natCast, Except.ok.injEq, ← UInt32.toNat_inj, Nat.toUInt32_eq,
      UInt32.toNat_ofNat_of_lt' hk, Int.natCast_inj]
  next hrange =>
    refine iff_of_false nofun ?_
    rintro rfl
    exact hrange ⟨Int.natCast_nonneg _, hbound⟩

theorem readCount_string_eq_ok_iff {s : String} {n : UInt32} :
    readCount path (some (.string s)) = .ok n ↔ Spells (.string s) n := by
  rw [spells_string_iff, readCount]
  cases hdigits : countOfDigits? (Text.trimChars Text.isBlank s.toList) with
  | none => exact iff_of_false nofun nofun
  | some k =>
      have hk : k < 2 ^ 32 := (countOfDigits?_eq_some_iff.mp hdigits).2
      simp only [Except.ok.injEq, ← UInt32.toNat_inj, Nat.toUInt32_eq,
        UInt32.toNat_ofNat_of_lt' hk, Option.some.injEq]

theorem readCount_some_eq_ok_iff {value : Json} {n : UInt32} :
    readCount path (some value) = .ok n ↔ Spells value n := by
  cases value with
  | number number =>
      cases number with
      | integer m =>
          rw [readCount_integer_eq_ok_iff]
          constructor
          · rintro rfl
            exact .number n
          · rintro ⟨⟩
            rfl
      | double x => exact iff_of_false nofun nofun
  | string s => exact readCount_string_eq_ok_iff
  | null | bool | array | object => exact iff_of_false nofun nofun

/-- What is no count is either missing or something else. -/
theorem readCount_cases (path : List String) (found : Option Json) :
    (∃ n, readCount path found = .ok n) ∨
      (readCount path found = .error (.notFound path) ∧ (found = none ∨ found = some .null)) ∨
      ((∃ text, readCount path found = .error (.notAnInteger path text)) ∧
        ∃ value, found = some value ∧ value ≠ .null) := by
  cases found with
  | none => exact .inr (.inl ⟨rfl, .inl rfl⟩)
  | some value =>
      cases value with
      | null => exact .inr (.inl ⟨rfl, .inr rfl⟩)
      | bool | array | object => exact .inr (.inr ⟨⟨_, rfl⟩, _, rfl, nofun⟩)
      | number number =>
          cases number with
          | double x => exact .inr (.inr ⟨⟨_, rfl⟩, _, rfl, nofun⟩)
          | integer m =>
              rw [readCount]
              split
              next => exact .inl ⟨_, rfl⟩
              next => exact .inr (.inr ⟨⟨_, rfl⟩, _, rfl, nofun⟩)
      | string s =>
          rw [readCount]
          split
          next => exact .inl ⟨_, rfl⟩
          next => exact .inr (.inr ⟨⟨_, rfl⟩, _, rfl, nofun⟩)

section

variable {found : Option Json}

theorem readCount_eq_ok_iff {n : UInt32} :
    readCount path found = .ok n ↔ ∃ value, found = some value ∧ Spells value n := by
  cases found with
  | none => exact iff_of_false nofun nofun
  | some value => simp [readCount_some_eq_ok_iff]

theorem readCount_eq_notFound_iff :
    readCount path found = .error (.notFound path) ↔ found = none ∨ found = some .null := by
  constructor
  · intro h
    rcases readCount_cases path found with ⟨n, hn⟩ | ⟨-, hmissing⟩ | ⟨⟨text, htext⟩, -⟩
    · cases hn.symm.trans h
    · exact hmissing
    · cases htext.symm.trans h
  · rintro (rfl | rfl) <;> rfl

theorem readCount_eq_notAnInteger_iff :
    (∃ text, readCount path found = .error (.notAnInteger path text)) ↔
      ∃ value, found = some value ∧ value ≠ .null ∧ ∀ n, ¬Spells value n := by
  constructor
  · rintro ⟨text, h⟩
    rcases readCount_cases path found with ⟨n, hn⟩ | ⟨hmissing, -⟩ | ⟨-, value, rfl, hnull⟩
    · cases hn.symm.trans h
    · cases hmissing.symm.trans h
    · refine ⟨value, rfl, hnull, fun n hspells => ?_⟩
      cases (readCount_some_eq_ok_iff.mpr hspells).symm.trans h
  · rintro ⟨value, rfl, hnull, hspells⟩
    rcases readCount_cases path (some value) with ⟨n, hn⟩ | ⟨-, hmissing⟩ | ⟨htext, -⟩
    · exact absurd (readCount_some_eq_ok_iff.mp hn) (hspells n)
    · simp [hnull] at hmissing
    · exact htext

end

/-- The rule by which the count at a path of a document is read. -/
structure ReadsCount (root : Json) (path : List String) (reading : Except ModelError UInt32) :
    Prop where
  ok_iff : ∀ n, reading = .ok n ↔ ∃ value, root.Leads path value ∧ Spells value n
  notFound_iff : reading = .error (.notFound path) ↔ root.BreaksOff path ∨ root.Leads path .null
  notAnInteger_iff : (∃ text, reading = .error (.notAnInteger path text)) ↔
    ∃ value, root.Leads path value ∧ value ≠ .null ∧ ∀ n, ¬Spells value n

theorem readsCount_countAt (root : Json) (path : List String) :
    ReadsCount root path (countAt root path) := by
  unfold countAt
  exact {
    ok_iff := fun n => by
      simp only [readCount_eq_ok_iff, Json.at?_eq_some_iff]
    notFound_iff := by
      rw [readCount_eq_notFound_iff, Json.at?_eq_none_iff, Json.at?_eq_some_iff]
    notAnInteger_iff := by
      simp only [readCount_eq_notAnInteger_iff, Json.at?_eq_some_iff] }

theorem shards_of_parse {body : String} {root : Json} (h : Json.parse body = .ok root) :
    shards body = countAt root ["settings", shardsKey] := by
  simp only [shards, parse, h, Except.mapError, bind, Except.bind]

theorem replicas_of_parse {body : String} {root : Json} (h : Json.parse body = .ok root) :
    replicas body = countAt root ["settings", replicasKey] := by
  simp only [replicas, parse, h, Except.mapError, bind, Except.bind]

theorem countAt_of_spells {root value : Json} {n : UInt32} (hvalue : root.at? path = some value)
    (h : Spells value n) : countAt root path = .ok n :=
  readCount_eq_ok_iff.mpr ⟨value, hvalue, h⟩

/-- A number spelled as a text, the way a cluster answers with it. -/
theorem spells_toString (n : UInt32) : Spells (.string (toString n.toNat)) n := by
  have hchars : (toString n.toNat).toList = [] ++ ([] ++ Nat.toDigits 10 n.toNat) ++ [] := by
    simp
  have hdigits : IsNumeral (Nat.toDigits 10 n.toNat) n.toNat := {
    nonempty := Nat.toDigits_ne_nil
    decimal := fun _ hd => Nat.isDigit_of_mem_toDigits (by decide) (by decide) hd
    value := Nat.ofDigitChars_ten_toDigits }
  exact .text hchars nofun (.inl rfl) hdigits nofun

end Model

namespace Remote

variable {index : String} {shards replicas : Json} {n : UInt32}

/-- An answer with two values in the places of an index's counts. -/
def settingsWith (index : String) (shards replicas : Json) : Json :=
  .object [(index, .object [("settings", .object [("index", .object
    [(Model.replicasKey, replicas), (Model.shardsKey, shards)])])])]

theorem shards_settingsWith (h : Model.Spells shards n) :
    Remote.shards (settingsWith index shards replicas) index = .ok n := by
  have hne : (Model.shardsKey == Model.replicasKey) = false := by decide
  refine Model.countAt_of_spells ?_ h
  simp [settingsWith, Json.at?, Json.field?, Json.fields?, List.lookup_cons, hne]

theorem replicas_settingsWith (h : Model.Spells replicas n) :
    Remote.replicas (settingsWith index shards replicas) index = .ok n := by
  refine Model.countAt_of_spells ?_ h
  simp [settingsWith, Json.at?, Json.field?, Json.fields?]

end Remote

end SchemaKeeper
