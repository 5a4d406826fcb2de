import SchemaKeeper.Store.File
import SchemaKeeper.Proofs.Json.Codec
import SchemaKeeper.Proofs.Table
import SchemaKeeper.Proofs.Text.Utf8

/-!
# The state file loses nothing

What is saved is loaded again, for the store and for each type that it is made
of.  All but desired objects and entries are records, whose codecs are faithful
by construction.  A desired object is read in two steps: its members are set
aside until the kind is known, and then decoded; an entry sets aside the members
of its object in the same way.  The members that are set aside are plain values,
so the trees that are kept of them are the ones that were written.
-/

namespace SchemaKeeper

open Json Json.Codec

/-! ## Records -/

theorem Version.faithful : Version.codec.Faithful 0 :=
  faithful_choice fun version => by cases version <;> decide

theorem State.faithful : State.codec.Faithful 0 :=
  faithful_choice fun state => by cases state <;> rfl

theorem Status.faithful : Status.codec.Faithful 1 :=
  have hfields :=
    faithful_withField (faithful_required "state" State.faithful) (by decide) <|
    faithful_withField (faithful_omittable "code" faithful_uint16 nofun) (by decide) <|
    faithful_withField (faithful_defaulted "message" "" faithful_string) (by decide) <|
    faithful_noFields 0
  faithful_record hfields "ObservedStatus" fun _ => rfl

theorem Connection.faithful : Connection.codec.Faithful 1 :=
  have htext := faithful_option faithful_string nofun
  have hfields :=
    faithful_withField (faithful_required "scheme" faithful_string) (by decide) <|
    faithful_withField (faithful_required "host" faithful_string) (by decide) <|
    faithful_withField (faithful_required "port" faithful_uint16) (by decide) <|
    faithful_withField (faithful_defaulted "username" none htext) (by decide) <|
    faithful_withField (faithful_defaulted "password" none htext) (by decide) <|
    faithful_withField
      (faithful_defaulted "version" none (faithful_option Version.faithful nofun)) (by decide) <|
    faithful_noFields 0
  faithful_record hfields "EsConnection" fun _ => rfl

theorem IndexSpec.faithful : IndexSpec.codec.Faithful 1 :=
  have hfields :=
    faithful_withField (faithful_required "name" faithful_string) (by decide) <|
    faithful_withField (faithful_required "connection" faithful_string) (by decide) <|
    faithful_withField (faithful_required "number_of_shards" faithful_uint32) (by decide) <|
    faithful_withField (faithful_required "number_of_replicas" faithful_uint32) (by decide) <|
    faithful_withField (faithful_required "model" faithful_string) (by decide) <|
    faithful_noFields 0
  faithful_record hfields "IndexSpec" fun _ => rfl

theorem TemplateSpec.faithful : TemplateSpec.codec.Faithful 1 :=
  have hfields :=
    faithful_withField (faithful_required "name" faithful_string) (by decide) <|
    faithful_withField (faithful_required "connection" faithful_string) (by decide) <|
    faithful_withField (faithful_required "number_of_shards" faithful_uint32) (by decide) <|
    faithful_withField (faithful_required "number_of_replicas" faithful_uint32) (by decide) <|
    faithful_withField
      (faithful_defaulted "order" none (faithful_option faithful_int64 nofun)) (by decide) <|
    faithful_withField (faithful_required "model" faithful_string) (by decide) <|
    faithful_noFields 0
  faithful_record hfields "TemplateSpec" fun _ => rfl

theorem PipelineSpec.faithful : PipelineSpec.codec.Faithful 1 :=
  have hfields :=
    faithful_withField (faithful_required "name" faithful_string) (by decide) <|
    faithful_withField (faithful_required "connection" faithful_string) (by decide) <|
    faithful_withField (faithful_required "model" faithful_string) (by decide) <|
    faithful_noFields 0
  faithful_record hfields "PipelineSpec" fun _ => rfl

/-! ## Members that are set aside -/

/-- A value that is no list or object, and no double. -/
def Json.Plain (v : Json) : Prop :=
  v.AllNumbers Number.inRange ∧ v.Whole ∧ v.depth = 0

theorem plain_string (s : String) : (Json.string s).Plain :=
  ⟨trivial, trivial, rfl⟩

theorem plain_ofInt {n : Int} (h : (Number.integer n).inRange) : (Json.ofInt n).Plain :=
  ⟨h, ⟨n, rfl⟩, rfl⟩

theorem plain_uint32 (n : UInt32) : (uint32.encode n).Plain := by
  have hn := n.toNat_lt
  refine plain_ofInt ⟨?_, ?_⟩ <;> simp only [Number.leastInteger, Number.integerBound] <;> omega

theorem plain_order (n : Option Int64) : (int64.option.encode n).Plain := by
  cases n with
  | none => exact ⟨trivial, trivial, rfl⟩
  | some n =>
      have hleast := n.le_toInt
      have hbound := n.toInt_lt
      refine plain_ofInt ⟨?_, ?_⟩ <;> simp only [Number.leastInteger, Number.integerBound] <;> omega

theorem takes_tree_plain {v : Json} (h : v.Plain) (levels : Nat) :
    Reader.Takes (Reader.tree levels) v (· = v) False :=
  Reader.takes_tree_whole h.1 h.2.1 (by rw [h.2.2]; exact Nat.zero_le levels)

/-- Members that are not among those an object or entry reads at once. -/
def SetAside (fields : List (String × Json)) : Prop :=
  ∀ member ∈ fields, member.1 ≠ "kind" ∧ member.1 ≠ Entry.deleteKey ∧ member.2.Plain

theorem setAside_cons {key : String} {v : Json} {fields : List (String × Json)}
    (hkey : key ≠ "kind" ∧ key ≠ Entry.deleteKey) (hv : v.Plain) (h : SetAside fields) :
    SetAside ((key, v) :: fields) :=
  List.forall_mem_cons.mpr ⟨⟨hkey.1, hkey.2, hv⟩, h⟩

namespace DesiredObject

theorem setAside_specFields (object : DesiredObject) : SetAside object.specFields := by
  have hnil : SetAside [] := fun _ h => absurd h List.not_mem_nil
  cases object with
  | index spec =>
      exact
        setAside_cons (by decide) (plain_string _) <|
        setAside_cons (by decide) (plain_string _) <|
        setAside_cons (by decide) (plain_uint32 _) <|
        setAside_cons (by decide) (plain_uint32 _) <|
        setAside_cons (by decide) (plain_string _) hnil
  | template spec =>
      exact
        setAside_cons (by decide) (plain_string _) <|
        setAside_cons (by decide) (plain_string _) <|
        setAside_cons (by decide) (plain_uint32 _) <|
        setAside_cons (by decide) (plain_uint32 _) <|
        setAside_cons (by decide) (plain_order _) <|
        setAside_cons (by decide) (plain_string _) hnil
  | pipeline spec =>
      exact
        setAside_cons (by decide) (plain_string _) <|
        setAside_cons (by decide) (plain_string _) <|
        setAside_cons (by decide) (plain_string _) hnil

/-! ## Objects -/

theorem decodeSpec_specFields (object : DesiredObject) :
    decodeSpec object.kind (.ofJson .ofInt (.object object.specFields)) = .ok object := by
  cases object with
  | index spec =>
      have hencode : IndexSpec.codec.encode spec = .object (specFields (.index spec)) := rfl
      rw [← hencode, kind, decodeSpec, IndexSpec.faithful.decodes .setAside spec]
      rfl
  | template spec =>
      have hencode : TemplateSpec.codec.encode spec = .object (specFields (.template spec)) := rfl
      rw [← hencode, kind, decodeSpec, TemplateSpec.faithful.decodes .setAside spec]
      rfl
  | pipeline spec =>
      have hencode : PipelineSpec.codec.encode spec = .object (specFields (.pipeline spec)) := rfl
      rw [← hencode, kind, decodeSpec, PipelineSpec.faithful.decodes .setAside spec]
      rfl

theorem find_label (kind : Kind) : Kind.variants.find kind.label = .ok kind := by
  cases kind <;> rfl

/-- First the kind is read, and then all other members are set aside. -/
def Gathers (object : DesiredObject) (ahead : List (String × Json)) (known : Gathered) : Prop :=
  (ahead = object.encode ∧ known = ⟨none, []⟩) ∨
    (known.kind = some object.kind ∧ known.others.reverse ++ ahead = object.specFields)

theorem takesMember_gathers {object : DesiredObject} {key : String} {v : Json}
    {ahead : List (String × Json)} {known : Gathered}
    (h : Gathers object ((key, v) :: ahead) known) (levels : Nat) :
    Reader.TakesMember (readMember levels key known) v (Gathers object ahead) False := by
  rcases h with ⟨hahead, rfl⟩ | ⟨hkind, hothers⟩
  · obtain ⟨hmember, rfl⟩ := List.cons.inj hahead
    obtain ⟨rfl, rfl⟩ := Prod.mk.inj hmember
    have hread : Reader.Takes (readVariant Kind.variants) (.string object.kind.label)
        (· = object.kind) False :=
      takes_readVariant (find_label object.kind)
    refine Reader.takesMember_colon (Reader.takes_return (hread.mono (fun kind hk => .inr ?_) id))
    exact ⟨congrArg some hk, rfl⟩
  · have hmember : (key, v) ∈ object.specFields := by simp [← hothers]
    obtain ⟨hkey, -, hv⟩ := setAside_specFields object (key, v) hmember
    unfold readMember
    rw [if_neg hkey]
    refine Reader.takesMember_colon (Reader.takes_return
      ((takes_tree_plain hv levels).mono (fun w hw => .inr ⟨hkind, ?_⟩) id))
    simp only [hw, List.reverse_cons, List.append_assoc, List.singleton_append]
    exact hothers

theorem takes_readTagged (object : DesiredObject) {levels : Nat} (hlevels : 0 < levels) :
    Reader.Takes (readTagged levels) (.object object.encode)
      (· = (object.kind, .object object.specFields)) False := by
  intro blanks text rest hblanks htext _
  cases htext with
  | object hfields =>
      refine Reader.meets_entered rfl (by decide) hlevels hblanks ?_
      dsimp only
      rw [Reader.meets_bind, Reader.meets_skip, List.tail_cons]
      refine Reader.meets_gathered (fun _ _ _ _ h => takesMember_gathers h (levels - 1))
        (fun known hknown => ?_) hfields (.inl ⟨rfl, rfl⟩) rest
      rcases hknown with ⟨hnil, -⟩ | ⟨hkind, hothers⟩
      · cases hnil
      · rw [List.append_nil] at hothers
        rw [hkind, ← hothers]
        exact ⟨_, rfl, rfl⟩

theorem decodeKind_label (origin : Origin) (kind : Kind) :
    decodeKind origin (.string kind.label) = .ok kind := by
  rw [decodeKind, find_label]
  rfl

theorem splitKind_of_setAside {fields : List (String × Json)} (h : SetAside fields)
    (origin : Origin) (kind : Kind) :
    splitKind origin (Content.ofFields .ofInt fields) (some kind) =
      .ok (kind, Content.ofFields .ofInt fields) := by
  induction fields with
  | nil => rfl
  | cons field fields ih =>
      obtain ⟨key, v⟩ := field
      obtain ⟨⟨hkey, -, -⟩, hfields⟩ := List.forall_mem_cons.mp h
      rw [Content.ofFields, splitKind, if_neg hkey, ih hfields]
      rfl

theorem decode_encode (origin : Origin) (object : DesiredObject) :
    decode origin (.object (Content.ofFields .ofInt object.encode)) = .ok object := by
  have hsplit : splitKind origin (Content.ofFields .ofInt object.encode) none =
      .ok (object.kind, Content.ofFields .ofInt object.specFields) := by
    have hrest := splitKind_of_setAside (setAside_specFields object) origin object.kind
    rw [encode, Content.ofFields, splitKind, if_pos rfl]
    simp only [Option.isSome_none, Bool.false_eq_true, if_false, Content.ofJson, decodeKind_label]
    exact hrest
  rw [decode, hsplit]
  exact decodeSpec_specFields object

theorem faithful : codec.Faithful 1 where
  reads levels hlevels object := by
    intro blanks text rest hblanks htext hrest
    have hread := takes_readTagged object hlevels blanks text rest hblanks htext hrest
    change ((readTagged levels >>= _) _).Meets _ _
    rw [Reader.meets_bind]
    refine hread.mono (fun tagged left htagged => ?_) id
    obtain ⟨rfl, rfl⟩ := htagged
    dsimp only
    rw [decodeSpec_specFields]
    exact ⟨rfl, rfl⟩
  decodes := decode_encode

end DesiredObject

/-! ## Entries -/

namespace Entry

/-- The members of the object are set aside, and then comes what is to become of it. -/
def Gathers (entry : Entry) (ahead : List (String × Json)) (known : Gathered) : Prop :=
  (∃ later, ahead = later ++ [(deleteKey, .bool entry.deleteInCluster)] ∧
    known.deleteInCluster = none ∧
    known.others.reverse ++ Content.ofFields .ofInt later =
      Content.ofFields .ofInt entry.object.encode ∧
    ∀ member ∈ later, member.1 ≠ deleteKey ∧ member.2.Plain) ∨
  (ahead = [] ∧ known.deleteInCluster = some entry.deleteInCluster ∧
    known.others.reverse = Content.ofFields .ofInt entry.object.encode)

theorem gathers_encode (entry : Entry) :
    Gathers entry (entry.object.encode ++ [(deleteKey, .bool entry.deleteInCluster)])
      ⟨none, []⟩ := by
  have hkind : "kind" ≠ deleteKey := by decide
  refine .inl ⟨_, rfl, rfl, rfl, List.forall_mem_cons.mpr ⟨⟨hkind, plain_string _⟩, ?_⟩⟩
  exact fun member hmember => (DesiredObject.setAside_specFields entry.object member hmember).2

/-- What the next member is, and what is known after it. -/
theorem gathers_cons {entry : Entry} {key : String} {v : Json} {ahead : List (String × Json)}
    {known : Gathered} (h : Gathers entry ((key, v) :: ahead) known) :
    (key = deleteKey ∧ v = .bool entry.deleteInCluster ∧ known.deleteInCluster = none ∧
      Gathers entry ahead { known with deleteInCluster := some entry.deleteInCluster }) ∨
    (key ≠ deleteKey ∧ v.Plain ∧
      Gathers entry ahead { known with others := (key, .ofJson .ofInt v) :: known.others }) := by
  rcases h with ⟨later, hahead, hnone, hothers, hlater⟩ | ⟨hnil, -⟩
  · cases later with
    | nil =>
        obtain ⟨hmember, rfl⟩ := List.cons.inj hahead
        obtain ⟨rfl, rfl⟩ := Prod.mk.inj hmember
        rw [Content.ofFields, List.append_nil] at hothers
        exact .inl ⟨rfl, rfl, hnone, .inr ⟨rfl, rfl, hothers⟩⟩
    | cons member later =>
        obtain ⟨rfl, rfl⟩ := List.cons.inj hahead
        obtain ⟨⟨hkey, hv⟩, hlater⟩ := List.forall_mem_cons.mp hlater
        refine .inr ⟨hkey, hv, .inl ⟨later, rfl, hnone, ?_, hlater⟩⟩
        rw [← hothers, Content.ofFields]
        simp
  · cases hnil

theorem takesMember_gathers {entry : Entry} {key : String} {v : Json}
    {ahead : List (String × Json)} {known : Gathered}
    (h : Gathers entry ((key, v) :: ahead) known) (levels : Nat) :
    Reader.TakesMember (readMember levels key known) v (Gathers entry ahead) False := by
  unfold readMember
  rcases gathers_cons h with ⟨rfl, rfl, hnone, hnext⟩ | ⟨hkey, hv, hnext⟩
  · have hread := faithful_bool.reads levels (Nat.zero_le levels) entry.deleteInCluster
    rw [if_pos rfl, hnone]
    refine Reader.takesMember_colon (Reader.takes_return (hread.mono (fun b hb => ?_) id))
    rw [hb]
    exact hnext
  · rw [if_neg hkey]
    refine Reader.takesMember_colon (Reader.takes_return
      ((takes_tree_plain hv levels).mono (fun w hw => ?_) id))
    rw [hw]
    exact hnext

theorem ofGathered_of_gathers {entry : Entry} {known : Gathered} (h : Gathers entry [] known) :
    ofGathered known = .ok entry := by
  rcases h with ⟨later, hahead, -⟩ | ⟨-, hdelete, hothers⟩
  · simp at hahead
  · simp only [ofGathered, hothers, DesiredObject.decode_encode, hdelete]
    rfl

theorem decodeMembers_encode (origin : Origin) {entry : Entry} {ahead : List (String × Json)}
    {known : Gathered} (h : Gathers entry ahead known) :
    ∃ all, decodeMembers origin (Content.ofFields .ofInt ahead) known = .ok all ∧
      Gathers entry [] all := by
  induction ahead generalizing known with
  | nil => exact ⟨known, rfl, h⟩
  | cons member ahead ih =>
      obtain ⟨key, v⟩ := member
      rw [Content.ofFields, decodeMembers]
      rcases gathers_cons h with ⟨rfl, rfl, hnone, hnext⟩ | ⟨hkey, -, hnext⟩
      · rw [if_pos rfl, hnone]
        exact ih hnext
      · rw [if_neg hkey]
        exact ih hnext

theorem faithful : codec.Faithful 1 where
  reads levels hlevels entry := by
    intro blanks text rest hblanks htext _
    change Layout (.object (entry.object.encode ++ [(deleteKey, .bool entry.deleteInCluster)])) text
      at htext
    have hfinish : ∀ known, Gathers entry [] known →
        ∃ a, DesiredObject.settle (ofGathered known) = Pure.pure a ∧ a = entry := by
      intro known hknown
      rw [ofGathered_of_gathers hknown]
      exact ⟨_, rfl, rfl⟩
    cases htext with
    | object hfields =>
        refine Reader.meets_entered rfl (by decide) hlevels hblanks ?_
        dsimp only
        rw [Reader.meets_bind, Reader.meets_skip, List.tail_cons]
        exact Reader.meets_gathered (fun _ _ _ _ h => takesMember_gathers h (levels - 1)) hfinish
          hfields (gathers_encode entry) rest
  decodes origin entry := by
    obtain ⟨all, hall, hdone⟩ := decodeMembers_encode origin (gathers_encode entry)
    change (do
      let known ← decodeMembers origin (Content.ofFields .ofInt
        (entry.object.encode ++ [(deleteKey, .bool entry.deleteInCluster)])) ⟨none, []⟩
      ofGathered known) = Except.ok entry
    rw [hall]
    exact ofGathered_of_gathers hdone

end Entry

/-! ## The store -/

theorem ObjectRecord.faithful : ObjectRecord.codec.Faithful 2 :=
  have hfields :=
    faithful_withField (faithful_omittable "status" Status.faithful nofun) (by decide) <|
    faithful_withField
      (faithful_defaulted "markers" [] (faithful_list faithful_string)) (by decide) <|
    faithful_withField (faithful_omittable "applied" Entry.faithful nofun) (by decide) <|
    faithful_withField (faithful_omittable "endpoint" Connection.faithful nofun) (by decide) <|
    faithful_noFields 1
  faithful_record hfields "ObjectState" fun _ => rfl

theorem Table.faithful {α : Type} {codec : Codec α} {depth : Nat} (h : codec.Faithful depth) :
    (Table.codec codec).Faithful (depth + 1) :=
  faithful_map (faithful_members h) fun table =>
    eq_of_entries_eq (Entries.ofList_eq_self table.ordered)

theorem Store.faithful : Store.codec.Faithful 4 :=
  have hfields :=
    faithful_withField
      (faithful_defaulted "objects" Table.empty (Table.faithful ObjectRecord.faithful))
      (by decide) <|
    faithful_noFields 3
  faithful_record hfields "StateFile" fun _ => rfl

theorem Store.load_fileText (path : String) (store : Store) :
    load path (.ofText store.fileText) = .ok store := by
  have hread := (faithful.lossless (by decide)).pretty store
  simp only [load, Found.text?_ofText, Except.mapError, fileText]
  change (codec.ofText (codec.toPretty store)).mapError _ = _
  rw [hread]
  rfl

/--
A store is loaded from the bytes that were saved of it, whatever its records hold,
and no type of the state file loses anything between a value and its texts.
-/
theorem stateFile_lossless :
    (∀ path store, Store.load path (.ofText store.fileText) = .ok store) ∧
      Store.codec.Lossless ∧ ObjectRecord.codec.Lossless ∧ Entry.codec.Lossless ∧
      DesiredObject.codec.Lossless ∧ Status.codec.Lossless ∧ Connection.codec.Lossless :=
  ⟨Store.load_fileText, Store.faithful.lossless (by decide),
    ObjectRecord.faithful.lossless (by decide), Entry.faithful.lossless (by decide),
    DesiredObject.faithful.lossless (by decide), Status.faithful.lossless (by decide),
    Connection.faithful.lossless (by decide)⟩

end SchemaKeeper
