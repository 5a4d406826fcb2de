import SchemaKeeper.Json.Codec
import SchemaKeeper.Proofs.Json.RoundTrip

/-!
# Codecs read what they write

A codec is faithful when every layout of what it writes is read as the value that
was written, and decoded as it too.  Each way of making codecs from others keeps
them faithful.  For the fields of a record this rests on an invariant of the loop
over the members: as they come, each fills the next slot, and in the end every
slot holds its value or the field it belongs to was left out for its default.
-/

namespace SchemaKeeper.Json

open Reader

variable {α β : Type}

/-! ## Readers that look ahead -/

namespace Reader

variable {bad : Prop} {good : α → List Char → Prop}

theorem meets_located {r : Reader α} {chars : List Char} (h : (r chars).Meets good bad) :
    (located r chars).Meets good bad := by
  unfold located
  cases hr : r chars with
  | value a rest =>
      rw [hr] at h
      exact h
  | fault f rest =>
      rw [hr] at h
      exact h

theorem meets_checked {r : Reader β} {check : β → Except Mismatch α} {chars : List Char}
    (h : (r chars).Meets (fun b left => ∃ a, check b = .ok a ∧ good a left) bad) :
    (checked r check chars).Meets good bad := by
  unfold checked
  rw [meets_bind]
  refine h.mono (fun b left hb => ?_) id
  obtain ⟨a, ha, hgood⟩ := hb
  rw [ha]
  exact hgood

theorem valueStart_bind {blanks : List Char} (hblanks : Blanks blanks) {c : Char}
    (hc : isBlank c = false) (next : Char → Reader α) (rest : List Char) :
    (valueStart >>= next) (blanks ++ c :: rest) = next c (c :: rest) := by
  have hstart : valueStart (blanks ++ c :: rest) = .value c (c :: rest) := by
    have hdrop : (c :: rest).dropWhile isBlank = c :: rest := by simp [hc]
    unfold valueStart
    rw [peekSolid_bind_blanks hblanks]
    change bind peekSolid _ _ = _
    simp only [bind, peekSolid, hdrop]
    rfl
  change bind valueStart next _ = _
  simp only [bind, hstart]

/-- A list or object is entered after its first character, if levels are left. -/
theorem meets_entered {next : Char → Reader α} {levels : Nat} {contents : Nat → Reader α}
    {c : Char} (hnext : next c = nested levels fun inner => located (contents inner))
    (hsolid : isBlank c = false) (hlevels : 0 < levels) {blanks : List Char}
    (hblanks : Blanks blanks) {rest : List Char}
    (h : (contents (levels - 1) (c :: rest)).Meets good bad) :
    ((valueStart >>= next) (blanks ++ c :: rest)).Meets good bad := by
  rw [valueStart_bind hblanks hsolid, hnext]
  cases levels with
  | zero => simp at hlevels
  | succ inner => exact meets_located h

/-- The members of an object are gathered, and something is made of them before it ends. -/
theorem meets_gathered {member : String → β → Reader β} {finish : β → Reader α}
    {P : List (String × Json) → β → Prop} {Q : α → Prop}
    (hstep : ∀ k v fields state, P ((k, v) :: fields) state →
      TakesMember (member k state) v (P fields) bad)
    (hfinish : ∀ state, P [] state → ∃ a, finish state = Pure.pure a ∧ Q a)
    {fields : List (String × Json)} {text : List Char} (htext : FieldsLayout true fields text)
    {start : β} (hstart : P fields start) (rest : List Char) :
    (closedBy (do let state ← members member (← steps) true start; finish state) objectEnd
      (text ++ rest)).Meets (fun a left => left = rest ∧ Q a) bad := by
  have hread := meets_allMembers hstep htext hstart rest
  rw [meets_bind, meets_steps] at hread
  apply meets_closedBy
  rw [meets_bind, meets_steps, meets_bind]
  refine hread.mono (fun state left hstate => ?_) id
  obtain ⟨rfl, hstate⟩ := hstate
  obtain ⟨a, ha, hQ⟩ := hfinish state hstate
  rw [ha]
  exact ⟨rfl, hQ⟩

end Reader

namespace Codec

/-! ## Faithful codecs -/

/-- What is written is read, with so many levels of nesting to spare, and decoded. -/
structure Faithful (codec : Codec α) (depth : Nat) : Prop where
  reads : ∀ levels, depth ≤ levels → ∀ a,
    Takes (codec.read levels) (codec.encode a) (· = a) False
  decodes : ∀ origin a, codec.decode origin (.ofJson .ofInt (codec.encode a)) = .ok a

/-! ## Single values -/

theorem faithful_string : string.Faithful 0 where
  reads levels _ s := by
    intro blanks text rest hblanks htext _
    cases htext
    have hread : (stringTail (s.toList.flatMap escapeChar ++ '"' :: rest)).Meets
        (fun a left => left = rest ∧ a = s) False := by
      rw [stringTail_quoted]
      exact ⟨rfl, rfl⟩
    rw [quote_append]
    unfold string
    dsimp only
    rw [valueStart_bind hblanks (by decide)]
    exact hread
  decodes _ _ := rfl

theorem faithful_bool : bool.Faithful 0 where
  reads levels _ b := by
    intro blanks text rest hblanks htext _
    unfold bool at htext ⊢
    dsimp only at htext ⊢
    cases htext
    all_goals
      change ((valueStart >>= _) (blanks ++ _ :: _)).Meets _ _
      rw [valueStart_bind hblanks (by decide)]
      exact ⟨rfl, rfl⟩
  decodes _ _ := rfl

variable {range : Range} {n : Int}

theorem check_integer (h : range.least ≤ n ∧ n < range.bound) :
    range.check (.integer n) = .ok n := by
  simp only [Range.check, if_pos h]

theorem takes_whole (h : range.least ≤ n ∧ n < range.bound) (hn : (Number.integer n).inRange)
    (levels : Nat) : Takes ((whole range).read levels) (.ofInt n) (· = n) False := by
  intro blanks text rest hblanks htext hrest
  unfold Json.ofInt at htext
  cases htext
  obtain ⟨c, cs, hcs, hc⟩ := exists_begin_number (.integer n)
  have hstart : c = '-' ∨ isDigit c = true := by
    rcases hc with hminus | hdigit | ⟨⟨x, hx⟩, -⟩
    · exact .inl hminus
    · exact .inr hdigit
    · cases hx
  have hsolid : isBlank c = false := by
    rcases hstart with rfl | hdigit
    · rfl
    · exact (begins_of_isDigit hdigit).1
  have hread : (Reader.number (c :: (cs ++ rest))).Meets
      (fun m left => ∃ k, range.check m = .ok k ∧ left = rest ∧ k = n) False := by
    rw [← List.cons_append, ← hcs]
    refine (meets_number_integer hn hrest).mono (fun m left hm => ?_) id
    exact ⟨n, by rw [hm.2, check_integer h], hm.1, rfl⟩
  rw [hcs]
  unfold whole
  change ((valueStart >>= _) (blanks ++ c :: (cs ++ rest))).Meets _ _
  rw [valueStart_bind hblanks hsolid]
  exact meets_ite (fun _ => meets_located (meets_checked hread)) fun h => absurd hstart h

theorem number?_ofInt (n : Int) : (Content.ofInt n).number? = some (.integer n) := by
  unfold Content.ofInt
  split
  next h => simp [Content.number?, Int.toNat_of_nonneg h]
  next => rfl

theorem decode_whole (h : range.least ≤ n ∧ n < range.bound) (origin : Origin) :
    (whole range).decode origin (.ofInt n) = .ok n := by
  simp only [whole, number?_ofInt, check_integer h]
  rfl

theorem faithful_map {codec : Codec α} {build : α → β} {take : β → α} {depth : Nat}
    (h : codec.Faithful depth) (hback : ∀ b, build (take b) = b) :
    (codec.map build take).Faithful depth where
  reads levels hlevels b :=
    takes_return ((h.reads levels hlevels (take b)).mono (fun a ha => by rw [ha, hback]) id)
  decodes origin b :=
    (congrArg (Except.map build) (h.decodes origin (take b))).trans (congrArg Except.ok (hback b))

/-- Words are whole numbers of their range. -/
theorem faithful_word {build : Int → β} {take : β → Int} (hback : ∀ b, build (take b) = b)
    (htake : ∀ b, range.least ≤ take b ∧ take b < range.bound)
    (hleast : Number.leastInteger ≤ range.least) (hbound : range.bound ≤ Number.integerBound) :
    ((whole range).map build take).Faithful 0 where
  reads levels _ b := by
    have hn : (Number.integer (take b)).inRange :=
      ⟨Int.le_trans hleast (htake b).1, Int.lt_of_lt_of_le (htake b).2 hbound⟩
    exact takes_return ((takes_whole (htake b) hn levels).mono (fun a ha => by rw [ha, hback]) id)
  decodes origin b :=
    (congrArg (Except.map build) (decode_whole (htake b) origin)).trans
      (congrArg Except.ok (hback b))

theorem faithful_uint16 : uint16.Faithful 0 := by
  refine faithful_word (by simp) (fun w => ⟨Int.natCast_nonneg _, ?_⟩) (by decide) (by decide)
  have hw := w.toNat_lt
  change (w.toNat : Int) < 0x10000
  omega

theorem faithful_uint32 : uint32.Faithful 0 := by
  refine faithful_word (by simp) (fun w => ⟨Int.natCast_nonneg _, ?_⟩) (by decide) (by decide)
  have hw := w.toNat_lt
  change (w.toNat : Int) < 0x100000000
  omega

theorem faithful_int64 : int64.Faithful 0 :=
  faithful_word (by simp) (fun w => ⟨w.le_toInt, w.toInt_lt⟩) (by decide) (by decide)

theorem ofJson_ne_null {v : Json} (h : v ≠ .null) : Content.ofJson .ofInt v ≠ .null := by
  cases v with
  | null => exact absurd rfl h
  | number n =>
      cases n with
      | integer n =>
          unfold Content.ofJson Content.ofInt
          split <;> simp
      | double x => simp [Content.ofJson]
  | bool | string | array | object => simp [Content.ofJson]

theorem decode_option {codec : Codec α} {origin : Origin} {value : Content} (h : value ≠ .null) :
    codec.option.decode origin value = (codec.decode origin value).map some := by
  cases value with
  | null => exact absurd rfl h
  | bool | count | signed | double | character | string | array | object => rfl

theorem faithful_option {codec : Codec α} {depth : Nat} (h : codec.Faithful depth)
    (hsome : ∀ a, codec.encode a ≠ .null) : codec.option.Faithful depth where
  reads levels hlevels
    | none => by
        intro blanks text rest hblanks htext _
        change Layout .null text at htext
        cases htext
        change ((peekSolid >>= _) (blanks ++ _)).Meets _ _
        rw [peekSolid_bind_blanks hblanks]
        exact ⟨rfl, rfl⟩
    | some a => by
        intro blanks text rest hblanks htext hrest
        change Layout (codec.encode a) text at htext
        obtain ⟨c, cs, rfl, hbegin, hc⟩ := exists_begin htext
        have hread := h.reads levels hlevels a [] _ rest blanks_nil htext hrest
        have hdrop : (c :: cs ++ rest).dropWhile isBlank = c :: cs ++ rest := by
          rw [List.cons_append, List.dropWhile_cons_of_neg (by simp [hbegin.1])]
        change ((peekSolid >>= _) (blanks ++ _)).Meets _ _
        rw [peekSolid_bind_blanks hblanks, meets_bind, meets_peekSolid, hdrop]
        refine meets_ite (fun hn => ?_) fun _ => ?_
        · simp [hc (hsome a)] at hn
        · rw [meets_bind]
          exact hread.mono (fun b left hb => ⟨hb.1, congrArg some hb.2⟩) id
  decodes origin
    | none => rfl
    | some a =>
        (decode_option (ofJson_ne_null (hsome a))).trans
          (congrArg (Except.map some) (h.decodes origin a))

/-! ## Choices, lists and tables -/

theorem takes_readVariant {variants : Variants α} {a : α}
    (h : variants.find (variants.name a) = .ok a) :
    Takes (readVariant variants) (.string (variants.name a)) (· = a) False := by
  intro blanks text rest hblanks htext _
  cases htext
  have hread : (stringTail ((variants.name a).toList.flatMap escapeChar ++ '"' :: rest)).Meets
      (fun s left => ∃ b, variants.find s = .ok b ∧ left = rest ∧ b = a) False := by
    rw [stringTail_quoted]
    exact ⟨a, h, rfl, rfl⟩
  rw [quote_append]
  unfold readVariant
  rw [valueStart_bind hblanks (by decide)]
  exact meets_located (meets_checked hread)

theorem faithful_choice {variants : Variants α}
    (h : ∀ a, variants.find (variants.name a) = .ok a) : (choice variants).Faithful 0 where
  reads levels _ a := by
    intro blanks text rest hblanks htext hrest
    have hvariant := takes_readVariant (h a) [] text rest blanks_nil htext hrest
    change Layout (.string (variants.name a)) text at htext
    cases htext
    rw [List.nil_append, quote_append] at hvariant
    rw [quote_append]
    change ((valueStart >>= _) (blanks ++ _)).Meets _ _
    rw [valueStart_bind hblanks (by decide)]
    exact hvariant
  decodes origin a := by
    change (variants.find (variants.name a)).mapError DecodeError.here = .ok a
    rw [h a]
    rfl

theorem decodeItems_encoded {codec : Codec α} {origin : Origin}
    (h : ∀ a, codec.decode origin (.ofJson .ofInt (codec.encode a)) = .ok a) (index : Nat)
    (as : List α) :
    decodeItems (codec.decode origin) index (Content.ofItems .ofInt (as.map codec.encode)) =
      .ok as := by
  induction as generalizing index with
  | nil => rfl
  | cons a as ih =>
      simp only [List.map_cons, Content.ofItems, decodeItems, h, ih]
      rfl

theorem faithful_list {codec : Codec α} {depth : Nat} (h : codec.Faithful depth) :
    (list codec).Faithful (depth + 1) where
  reads levels hlevels as := by
    intro blanks text rest hblanks htext _
    change Layout (.array (as.map codec.encode)) text at htext
    cases htext with
    | array hitems =>
        have hread : ∀ a ∈ as,
            Takes (codec.read (levels - 1)) (codec.encode a) (fun b => id b = id a) False :=
          fun a _ => h.reads (levels - 1) (by omega) a
        refine meets_entered rfl (by decide) (by omega) hblanks ?_
        exact (meets_listOf hread hitems rest).mono (fun found left hfound => by simpa using hfound) id
  decodes origin as := decodeItems_encoded (h.decodes origin) 0 as

/-- The members still to come are those that follow, in what was written, the ones read so far. -/
def Follows (codec : Codec α) (all : List (String × α)) (fields : List (String × Json))
    (done : List (String × α)) : Prop :=
  ∃ ahead : List (String × α),
    fields = ahead.map (fun (key, a) => (key, codec.encode a)) ∧ done.reverse ++ ahead = all

theorem takesMember_follows {codec : Codec α} {r : Reader α} {all done : List (String × α)}
    {k : String} {v : Json} {fields : List (String × Json)}
    (h : ∀ a, Takes r (codec.encode a) (· = a) False)
    (hdone : Follows codec all ((k, v) :: fields) done) :
    TakesMember (do colon; return (k, ← r) :: done) v (Follows codec all fields) False := by
  obtain ⟨ahead, hahead, hall⟩ := hdone
  cases ahead with
  | nil => cases hahead
  | cons entry ahead =>
      obtain ⟨key, a⟩ := entry
      obtain ⟨hmember, rfl⟩ := List.cons.inj hahead
      obtain ⟨rfl, rfl⟩ := Prod.mk.inj hmember
      refine takesMember_colon (takes_return ((h a).mono (fun b hb => ⟨ahead, rfl, ?_⟩) id))
      rw [hb, List.reverse_cons, List.append_assoc]
      exact hall

theorem decode_members_encoded {codec : Codec α} {origin : Origin}
    (h : ∀ a, codec.decode origin (.ofJson .ofInt (codec.encode a)) = .ok a)
    (as : List (String × α)) :
    (members codec).decode origin
      (.object (Content.ofFields .ofInt (as.map fun (key, a) => (key, codec.encode a)))) =
      .ok as := by
  unfold members
  dsimp only
  induction as with
  | nil => rfl
  | cons entry as ih =>
      simp only [List.map_cons, Content.ofFields, List.mapM_cons, h, ih]
      rfl

theorem faithful_members {codec : Codec α} {depth : Nat} (h : codec.Faithful depth) :
    (members codec).Faithful (depth + 1) where
  reads levels hlevels as := by
    intro blanks text rest hblanks htext _
    change Layout (.object (as.map fun (key, a) => (key, codec.encode a))) text at htext
    cases htext with
    | object hfields =>
        have hstart : Follows codec as (as.map fun (key, a) => (key, codec.encode a)) [] :=
          ⟨as, rfl, rfl⟩
        refine meets_entered rfl (by decide) (by omega) hblanks ?_
        dsimp only
        rw [meets_bind]
        refine (meets_objectOf (fun _ _ _ _ => takesMember_follows
          fun a => h.reads (levels - 1) (by omega) a) hfields hstart rest).mono
          (fun done left hdone => ?_) id
        obtain ⟨rfl, ahead, hahead, hall⟩ := hdone
        obtain rfl := List.map_eq_nil_iff.mp hahead.symm
        exact ⟨rfl, by simpa using hall⟩
  decodes origin as := decode_members_encoded (h.decodes origin) as

/-! ## Records -/

/--
What the loop over the members of a record keeps to: the members still to come
fill the slots so that in the end the slots hold the record that was written.
-/
structure Fields.Keeps (fields : Fields α) (levels : Nat) (a : α)
    (P : List (String × Json) → fields.Slots → Prop) : Prop where
  starts : P (fields.encode a) fields.empty
  reads : ∀ {key value ahead slots}, P ((key, value) :: ahead) slots →
    ∃ r, fields.readMember levels key slots = some r ∧ TakesMember r value (P ahead) False
  decodes : ∀ origin {key value ahead slots}, P ((key, value) :: ahead) slots →
    ∃ next, fields.decodeMember origin key (.ofJson .ofInt value) slots = some (.ok next) ∧
      P ahead next
  finishes : ∀ {slots}, P [] slots → fields.finish slots = .ok a

structure Fields.Faithful (fields : Fields α) (depth : Nat) (names : List String) : Prop where
  names : ∀ a, ∀ member ∈ fields.encode a, member.1 ∈ names
  keeps : ∀ levels, depth ≤ levels → ∀ a, ∃ P, fields.Keeps levels a P

structure Field.Faithful (field : Field α) (depth : Nat) : Prop where
  codec : field.codec.Faithful depth
  omits : ∀ a, field.omits a = true → field.default = some a

theorem faithful_noFields (depth : Nat) : noFields.Faithful depth [] where
  names _ _ h := absurd h List.not_mem_nil
  keeps _ _ _ := ⟨fun members _ => members = [], ⟨rfl, nofun, nofun, fun _ => rfl⟩⟩

section

variable {field : Field α} {fields : Fields β} {a : α} {b : β}

/-- Either the first field is still to come, or its slot is settled and the others are. -/
def Filling (field : Field α) (fields : Fields β) (a : α) (b : β)
    (P : List (String × Json) → fields.Slots → Prop) (ahead : List (String × Json))
    (slots : Option α × fields.Slots) : Prop :=
  (ahead = (field.name, field.codec.encode a) :: fields.encode b ∧ slots = (none, fields.empty)) ∨
    ((slots.1 <|> field.default) = some a ∧ (∀ member ∈ ahead, member.1 ≠ field.name) ∧
      P ahead slots.2)

theorem keeps_withField {levels : Nat} {P : List (String × Json) → fields.Slots → Prop}
    (hcodec : Takes (field.codec.read levels) (field.codec.encode a) (· = a) False)
    (hdecode : ∀ origin, field.codec.decode origin (.ofJson .ofInt (field.codec.encode a)) = .ok a)
    (homits : field.omits a = true → field.default = some a)
    (hname : ∀ member ∈ fields.encode b, member.1 ≠ field.name) (hP : fields.Keeps levels b P) :
    (withField field fields).Keeps levels (a, b) (Filling field fields a b P) where
  starts := by
    unfold withField
    dsimp only
    split
    next h => exact .inr ⟨homits h, hname, hP.starts⟩
    next => exact .inl ⟨rfl, rfl⟩
  reads {key value ahead slots} h := by
    rcases h with ⟨hahead, rfl⟩ | ⟨hslot, hkeys, hrest⟩
    · obtain ⟨hmember, rfl⟩ := List.cons.inj hahead
      obtain ⟨rfl, rfl⟩ := Prod.mk.inj hmember
      refine ⟨_, if_pos rfl, ?_⟩
      refine takesMember_colon (takes_return (hcodec.mono (fun c hc => .inr ⟨?_, hname, hP.starts⟩) id))
      rw [hc]
      rfl
    · obtain ⟨hkey, hkeys⟩ := List.forall_mem_cons.mp hkeys
      obtain ⟨r, hr, htakes⟩ := hP.reads hrest
      refine ⟨do return (slots.1, ← r), ?_, ?_⟩
      · simp only [withField, if_neg hkey, hr]
        rfl
      · exact takesMember_return (htakes.mono fun next hnext => .inr ⟨hslot, hkeys, hnext⟩)
  decodes origin {key value ahead slots} h := by
    rcases h with ⟨hahead, rfl⟩ | ⟨hslot, hkeys, hrest⟩
    · obtain ⟨hmember, rfl⟩ := List.cons.inj hahead
      obtain ⟨rfl, rfl⟩ := Prod.mk.inj hmember
      refine ⟨(some a, fields.empty), ?_, .inr ⟨rfl, hname, hP.starts⟩⟩
      simp only [withField, if_true, hdecode]
      rfl
    · obtain ⟨hkey, hkeys⟩ := List.forall_mem_cons.mp hkeys
      obtain ⟨next, hnext, hahead⟩ := hP.decodes origin hrest
      refine ⟨(slots.1, next), ?_, .inr ⟨hslot, hkeys, hahead⟩⟩
      simp only [withField, if_neg hkey, hnext]
      rfl
  finishes {slots} h := by
    rcases h with ⟨hahead, -⟩ | ⟨hslot, -, hrest⟩
    · cases hahead
    · simp only [withField, hslot, hP.finishes hrest]
      rfl

end

theorem faithful_withField {field : Field α} {fields : Fields β} {depth : Nat}
    {names : List String} (hfield : field.Faithful depth) (hname : field.name ∉ names)
    (hfields : fields.Faithful depth names) :
    (withField field fields).Faithful depth (field.name :: names) where
  names := by
    rintro ⟨a, b⟩ member hmember
    unfold withField at hmember
    dsimp only at hmember
    split at hmember
    next => exact List.mem_cons_of_mem _ (hfields.names b member hmember)
    next =>
      rcases List.mem_cons.mp hmember with rfl | hmember
      · exact List.mem_cons_self
      · exact List.mem_cons_of_mem _ (hfields.names b member hmember)
  keeps := by
    rintro levels hlevels ⟨a, b⟩
    obtain ⟨P, hP⟩ := hfields.keeps levels hlevels b
    have hother : ∀ member ∈ fields.encode b, member.1 ≠ field.name := by
      intro member hmember heq
      exact hname (heq ▸ hfields.names b member hmember)
    exact ⟨_, keeps_withField (hfield.codec.reads levels hlevels a)
      (fun origin => hfield.codec.decodes origin a) (hfield.omits a) hother hP⟩

theorem faithful_required {codec : Codec α} {depth : Nat} (name : String)
    (h : codec.Faithful depth) : (required name codec).Faithful depth :=
  ⟨h, nofun⟩

theorem faithful_defaulted {codec : Codec α} {depth : Nat} (name : String) (default : α)
    (h : codec.Faithful depth) : (defaulted name codec default).Faithful depth :=
  ⟨h, nofun⟩

theorem faithful_omittable {codec : Codec α} {depth : Nat} (name : String)
    (h : codec.Faithful depth) (hsome : ∀ a, codec.encode a ≠ .null) :
    (omittable name codec).Faithful depth where
  codec := faithful_option h hsome
  omits a ha := by
    obtain rfl := Option.isNone_iff_eq_none.mp ha
    rfl

theorem decodeRecordMembers_encoded {fields : Fields α} {levels : Nat} {a : α}
    {P : List (String × Json) → fields.Slots → Prop} (hP : fields.Keeps levels a P)
    (origin : Origin) {ahead : List (String × Json)} {slots : fields.Slots} (h : P ahead slots) :
    ∃ last, decodeRecordMembers fields origin (Content.ofFields .ofInt ahead) slots = .ok last ∧
      P [] last := by
  induction ahead generalizing slots with
  | nil => exact ⟨slots, rfl, h⟩
  | cons member ahead ih =>
      obtain ⟨next, hnext, hahead⟩ := hP.decodes origin h
      obtain ⟨last, hlast, hdone⟩ := ih hahead
      refine ⟨last, ?_, hdone⟩
      simp only [Content.ofFields, decodeRecordMembers, hnext]
      exact hlast

theorem faithful_record {fields : Fields α} {depth : Nat} {names : List String}
    (h : fields.Faithful depth names) (name : String) {build : α → β} {take : β → α}
    (hback : ∀ b, build (take b) = b) : (record name fields build take).Faithful (depth + 1) where
  reads levels hlevels b := by
    intro blanks text rest hblanks htext _
    change Layout (.object (fields.encode (take b))) text at htext
    obtain ⟨P, hP⟩ := h.keeps (levels - 1) (by omega) (take b)
    cases htext with
    | @object _ text hfields =>
        have hmember : ∀ key value ahead slots, P ((key, value) :: ahead) slots →
            TakesMember (readRecordMember fields (levels - 1) key slots) value (P ahead) False := by
          intro key value ahead slots hslots
          obtain ⟨r, hr, htakes⟩ := hP.reads hslots
          unfold readRecordMember
          rw [hr]
          exact htakes
        refine meets_entered rfl (by decide) (by omega) hblanks ?_
        dsimp only
        rw [meets_bind, meets_skip, List.tail_cons, meets_bind]
        refine (meets_gathered (Q := (· = take b)) hmember (fun slots hslots => ?_) hfields
          hP.starts rest).mono (fun a left ha => ?_) id
        · rw [hP.finishes hslots]
          exact ⟨_, rfl, rfl⟩
        · exact ⟨ha.1, (congrArg build ha.2).trans (hback b)⟩
  decodes origin b := by
    obtain ⟨P, hP⟩ := h.keeps depth (Nat.le_refl depth) (take b)
    obtain ⟨last, hlast, hdone⟩ := decodeRecordMembers_encoded hP origin hP.starts
    change (do
      let slots ← decodeRecordMembers fields origin
        (Content.ofFields .ofInt (fields.encode (take b))) fields.empty
      return build (← (fields.finish slots).mapError DecodeError.here)) = Except.ok b
    rw [hlast]
    change (do return build (← (fields.finish last).mapError DecodeError.here)) = Except.ok b
    rw [hP.finishes hdone]
    exact congrArg Except.ok (hback b)

/-! ## Texts -/

open Reader in
theorem ofText_eq_ok {codec : Codec α} {depth : Nat} (h : codec.Faithful depth)
    (hdepth : depth ≤ nestingLimit) (a : α) {text : List Char} (htext : Layout (codec.encode a) text) :
    codec.ofText (String.ofList text) = .ok a := by
  have hread := h.reads nestingLimit hdepth a [] text [] blanks_nil htext
    (fun c hc => absurd hc (by simp))
  rw [List.nil_append, List.append_nil, ← String.toList_ofList (l := text)] at hread
  rcases run_cases hread with ⟨b, hb, rfl⟩ | ⟨-, hbad⟩
  · exact hb
  · exact hbad.elim

/--
Nothing is lost between a value and its texts, whichever of them comes first, nor
between a value and its document.
-/
structure Lossless (codec : Codec α) : Prop where
  document : ∀ a, codec.ofDocument (codec.encode a) = .ok a
  pretty : ∀ a, codec.ofText (codec.toPretty a) = .ok a
  compact : ∀ a, codec.ofText (codec.toText a) = .ok a
  again : ∀ text a, codec.ofText text = .ok a →
    codec.ofText (codec.toPretty a) = codec.ofText text ∧
      codec.ofText (codec.toText a) = codec.ofText text

theorem Faithful.lossless {codec : Codec α} {depth : Nat} (h : codec.Faithful depth)
    (hdepth : depth ≤ nestingLimit) : codec.Lossless := by
  have hpretty (a : α) : codec.ofText (codec.toPretty a) = .ok a :=
    ofText_eq_ok h hdepth a (layout_pretty (codec.encode a) 0)
  have hcompact (a : α) : codec.ofText (codec.toText a) = .ok a :=
    ofText_eq_ok h hdepth a (layout_compact (codec.encode a))
  exact ⟨h.decodes .document, hpretty, hcompact, fun text a ha => by rw [ha, hpretty, hcompact]; exact ⟨rfl, rfl⟩⟩

end Codec

end SchemaKeeper.Json
