import SchemaKeeper.Gateway.Wire
import SchemaKeeper.Proofs.Admission
import SchemaKeeper.Proofs.Place
import SchemaKeeper.Proofs.Url.Parts
import SchemaKeeper.Url

/-!
# Where requests go

The path of a request is a row of segments: those of the place of its object and
then, for the settings and the mapping of an index, the name of that page.  An
admitted name is one segment, so a path can be taken apart again and tells its
object.  There is one exception, since the words of the protocol are admitted
names too: an index may be named like the directory of all templates.
-/

namespace SchemaKeeper

/-! ## Names -/

namespace Admission

theorem isName_of_validateCreate {object : DesiredObject} (h : validateCreate object = .ok ()) :
    isName object.name = true := by
  by_contra hname
  simp [validateCreate, createComplaints, hname, conclude] at h

theorem forall_of_isName {name : String} (h : isName name = true) :
    ∀ c ∈ name.toList, isNameChar c = true := by
  simp only [isName, Bool.and_eq_true, List.all_eq_true] at h
  exact h.2

variable {c : Char}

theorem toNat_of_isNameChar (h : isNameChar c = true) :
    0x61 ≤ c.toNat ∧ c.toNat ≤ 0x7A ∨ 0x30 ≤ c.toNat ∧ c.toNat ≤ 0x39 ∨
      c.toNat = 0x2D ∨ c.toNat = 0x5F ∨ c.toNat = 0x2E := by
  simp only [isNameChar, Bool.or_eq_true, Bool.and_eq_true, decide_eq_true_eq, beq_iff_eq] at h
  obtain (((h | h) | rfl) | rfl) | rfl := h
  · exact .inl h
  · exact .inr (.inl h)
  · decide
  · decide
  · decide

theorem not_inPath_of_isNameChar (h : isNameChar c = true) : Url.inPath c = false := by
  have hcode := toNat_of_isNameChar h
  have hcontrol : Url.isControl c = false := by
    simp [Url.isControl]
    omega
  have hbarred : ∀ d ∈ " \"<>`#?\x7b\x7d".toList, isNameChar d = false := by
    simp only [← Bool.not_eq_true', ← List.all_eq_true]
    decide
  simp only [Url.inPath, hcontrol, Bool.false_or]
  by_contra hmem
  simp only [Bool.not_eq_false, List.contains_iff_mem] at hmem
  simp [hbarred c hmem] at h

theorem toLower_of_isNameChar (h : isNameChar c = true) : c.toLower = c := by
  have hcode := toNat_of_isNameChar h
  refine dif_neg fun hupper => ?_
  have hlow : 0x41 ≤ c.toNat := UInt32.le_iff_toNat_le.mp hupper.1
  have hhigh : c.toNat ≤ 0x5A := UInt32.le_iff_toNat_le.mp hupper.2
  omega

end Admission

/-! ## Paths and their segments -/

namespace Url

/-- A segment that stands in a path as it is: characters of names, and no step up or to itself. -/
structure IsPlain (segment : List Char) : Prop where
  name : ∀ c ∈ segment, Admission.isNameChar c = true
  ne_dot : segment ≠ ['.']
  ne_dots : segment ≠ ['.', '.']

theorem segments_pathText {parts : List (List Char)} (hne : parts ≠ [])
    (h : ∀ part ∈ parts, ∀ c ∈ part, Admission.isNameChar c = true) :
    segments true (pathText parts).toList.tail = parts := by
  cases parts with
  | nil => contradiction
  | cons first others =>
      have hslash : ∀ part ∈ first :: others, '/' ∉ part :=
        fun part hpart hmem => absurd (h part hpart _ hmem) (by decide)
      have hbackslash : ∀ c ∈ first ++ others.flatMap ('/' :: ·), c ≠ '\\' := by
        rintro c hc rfl
        simp only [List.mem_append, List.mem_flatMap, List.mem_cons] at hc
        obtain hc | ⟨part, hpart, hc | hc⟩ := hc
        · exact absurd (h first (by simp) _ hc) (by decide)
        · exact absurd hc (by decide)
        · exact absurd (h part (by simp [hpart]) _ hc) (by decide)
      have hmap : (first ++ others.flatMap ('/' :: ·)).map
          (fun c => if c = '\\' then '/' else c) = first ++ others.flatMap ('/' :: ·) :=
        (List.map_congr_left fun c hc => if_neg (hbackslash c hc)).trans (List.map_id' _)
      simp only [segments, pathText, String.toList_ofList, List.flatMap_cons, List.cons_append,
        List.tail_cons, if_true, hmap]
      exact splitAt_append_flatMap (hslash first (by simp))
        fun part hpart => hslash part (by simp [hpart])

/-- A path of characters of names tells its segments. -/
theorem pathText_inj {a b : List (List Char)} (ha : a ≠ []) (hb : b ≠ [])
    (hachars : ∀ part ∈ a, ∀ c ∈ part, Admission.isNameChar c = true)
    (hbchars : ∀ part ∈ b, ∀ c ∈ part, Admission.isNameChar c = true) :
    pathText a = pathText b ↔ a = b := by
  constructor
  · intro h
    rw [← segments_pathText ha hachars, h, segments_pathText hb hbchars]
  · exact congrArg pathText

theorem IsPlain.not_mem_percent {part : List Char} (h : IsPlain part) : '%' ∉ part :=
  fun hmem => absurd (h.name '%' hmem) (by decide)

theorem IsPlain.isDot_eq_false {part : List Char} (h : IsPlain part) :
    isSingleDot part = false ∧ isDoubleDot part = false := by
  have hlower : part.map Char.toLower = part :=
    (List.map_congr_left fun c hc => Admission.toLower_of_isNameChar (h.name c hc)).trans
      (List.map_id' _)
  have hpercent : ∀ other : List Char, '%' ∈ other → (part == other) = false := by
    intro other hother
    rw [beq_eq_false_iff_ne]
    rintro rfl
    exact h.not_mem_percent hother
  constructor
  · simp [isSingleDot, hlower, h.ne_dot, hpercent]
  · simp [isDoubleDot, hlower, h.ne_dots, hpercent]

theorem resolveDots_of_plain {parts : List (List Char)} (h : ∀ part ∈ parts, IsPlain part)
    (done : List (List Char)) : resolveDots done parts = done.reverse ++ parts := by
  induction parts generalizing done with
  | nil => simp [resolveDots]
  | cons part parts ih =>
      obtain ⟨hsingle, hdouble⟩ := (h part (by simp)).isDot_eq_false
      cases parts with
      | nil => simp [resolveDots, hsingle, hdouble]
      | cons next parts =>
          rw [resolveDots, if_neg (by simp [hdouble]), if_neg (by simp [hsingle]),
            ih (fun later hlater => h later (by simp_all))]
          · simp
          · simp

theorem IsPlain.flatMap_percentEncodeChar {part : List Char} (h : IsPlain part) :
    part.flatMap (percentEncodeChar inPath) = part := by
  have hkept : ∀ c ∈ part, percentEncodeChar inPath c = [c] := by
    intro c hc
    simp [percentEncodeChar, Admission.not_inPath_of_isNameChar (h.name c hc)]
  rw [List.flatMap_congr hkept]
  simp

/-- A path of plain segments is in normal form. -/
theorem normalPath_pathText {parts : List (List Char)} (hne : parts ≠ [])
    (h : ∀ part ∈ parts, IsPlain part) :
    normalPath true (pathText parts).toList = pathText parts := by
  have hescaped : parts.map (fun part => part.flatMap (percentEncodeChar inPath)) = parts :=
    (List.map_congr_left fun part hpart => (h part hpart).flatMap_percentEncodeChar).trans
      (List.map_id' _)
  rw [normalPath, normalSegments, segments_pathText hne fun part hpart => (h part hpart).name,
    hescaped, resolveDots_of_plain h]
  rfl

end Url

/-! ## Paths of requests -/

/-- The directory and the name under which a place is found. -/
def Place.segments : Place → List (List Char)
  | (.index, name) => [name.toList]
  | (.template, name) => ["_template".toList, name.toList]
  | (.pipeline, name) => ["_ingest".toList, "pipeline".toList, name.toList]

namespace Call

/-- Which page of its object a call is for. -/
def page : Call → List (List Char)
  | .indexSettings _ | .putIndexReplicas .. => ["_settings".toList]
  | .indexProperties _ | .putIndexProperties .. => ["_mapping".toList]
  | _ => []

/--
Calls for two objects that go to one address: writing the settings or the mapping
of an index named like the directory of templates, and putting a template named
like the page.
-/
inductive Crosses : Call → Call → Prop where
  | settings (replicas : UInt32) (model : String) (order : Option Int64) :
      Crosses (.putIndexReplicas "_template" replicas) (.putTemplate "_settings" model order)
  | mapping (properties : Json) (model : String) (order : Option Int64) :
      Crosses (.putIndexProperties "_template" properties) (.putTemplate "_mapping" model order)

end Call

namespace Wire

variable (version : Version) {c d : Call} {place : Place}

theorem path_templateRequest (name model : String) (order : Option Int64) :
    (templateRequest version name model order).path = "/_template/" ++ name := by
  unfold templateRequest
  split <;> rfl

theorem verb_templateRequest (name model : String) (order : Option Int64) :
    (templateRequest version name model order).verb = .put := by
  unfold templateRequest
  split <;> rfl

theorem path_request (h : c.place? = some place) :
    (request version c).path = Url.pathText (place.segments ++ c.page) := by
  apply String.toList_injective
  cases c with
  | ping => cases h
  | putTemplate name model order =>
      cases h
      simp [request, path_templateRequest, Url.pathText, Place.segments, Call.page]
  | _ =>
      cases h
      simp [request, Url.pathText, Place.segments, Call.page, toString]

/-- The words of the protocol and the name of the object are all that a path is made of. -/
theorem forall_segments {P : List Char → Prop} (hname : P place.2.toList)
    (hword : ∀ word ∈ ["_template", "_ingest", "pipeline", "_settings", "_mapping"],
      P word.toList) : ∀ part ∈ place.segments ++ c.page, P part := by
  have hpage : ∀ part ∈ c.page, P part := by
    cases c with
    | indexSettings | putIndexReplicas | indexProperties | putIndexProperties =>
        simp only [Call.page, List.mem_singleton, forall_eq]
        exact hword _ (by simp)
    | _ => simp [Call.page]
  have hplace : ∀ part ∈ place.segments, P part := by
    obtain ⟨kind, name⟩ := place
    cases kind <;> simp_all [Place.segments]
  intro part hpart
  exact (List.mem_append.mp hpart).elim (hplace part) (hpage part)

theorem segments_ne_nil (place : Place) : place.segments ≠ [] := by
  obtain ⟨kind, name⟩ := place
  cases kind <;> simp [Place.segments]

theorem words_are_names :
    ∀ word ∈ ["_template", "_ingest", "pipeline", "_settings", "_mapping"],
      ∀ c ∈ word.toList, Admission.isNameChar c = true := by
  simp only [← List.all_eq_true]
  decide

theorem words_are_plain :
    ∀ word ∈ ["_template", "_ingest", "pipeline", "_settings", "_mapping"],
      Url.IsPlain word.toList := by
  intro word hword
  have hdots : ∀ word ∈ ["_template", "_ingest", "pipeline", "_settings", "_mapping"],
      word.toList ≠ ['.'] ∧ word.toList ≠ ['.', '.'] := by decide
  exact ⟨words_are_names word hword, (hdots word hword).1, (hdots word hword).2⟩

theorem path_inj {version version' : Version} {p q : Place}
    (hc : c.place? = some p) (hd : d.place? = some q) (hp : Admission.isName p.2 = true)
    (hq : Admission.isName q.2 = true) :
    (request version c).path = (request version' d).path ↔
      p.segments ++ c.page = q.segments ++ d.page := by
  rw [path_request version hc, path_request version' hd]
  exact Url.pathText_inj (by simp [segments_ne_nil]) (by simp [segments_ne_nil])
    (forall_segments (Admission.forall_of_isName hp) words_are_names)
    (forall_segments (Admission.forall_of_isName hq) words_are_names)

/-- Only the names that stand for a directory are lost in an address. -/
theorem normalPath_path (h : c.place? = some place) (hname : Admission.isName place.2 = true)
    (hdots : place.2 ∉ [".", ".."]) :
    Url.normalPath true (request version c).path.toList = (request version c).path := by
  have hplain : Url.IsPlain place.2.toList := by
    refine ⟨Admission.forall_of_isName hname, fun hdot => ?_, fun hdot => ?_⟩
    · exact hdots (by simp [String.toList_inj.mp (hdot.trans (by rfl : _ = ".".toList))])
    · exact hdots (by simp [String.toList_inj.mp (hdot.trans (by rfl : _ = "..".toList))])
  rw [path_request version h]
  exact Url.normalPath_pathText (by simp [segments_ne_nil])
    (forall_segments hplain words_are_plain)

/-! ## Calls that meet -/

theorem length_page_le (c : Call) : c.page.length ≤ 1 := by
  cases c <;> simp [Call.page]

theorem page_of_ne_index (h : c.place? = some place) (hkind : place.1 ≠ .index) : c.page = [] := by
  cases c <;> cases h <;> first | rfl | contradiction

theorem exists_putTemplate_of_verb {version : Version} {name : String}
    (h : c.place? = some (.template, name)) (hverb : (request version c).verb = .put) :
    ∃ model order, c = .putTemplate name model order := by
  cases c with
  | putTemplate other model order =>
      cases h
      exact ⟨model, order, rfl⟩
  | templateExists | deleteTemplate => cases hverb
  | _ => cases h

theorem verb_ne_get_of_template {version : Version} {name : String}
    (h : c.place? = some (.template, name)) : (request version c).verb ≠ .get := by
  cases c with
  | putTemplate other model order => simp [request, verb_templateRequest]
  | templateExists | deleteTemplate => simp [request]
  | _ => cases h

/-- A page of an index has the address of a template only when both are written. -/
theorem crosses_of_segments_eq {version version' : Version} {index template : String}
    (hc : c.place? = some (.index, index)) (hd : d.place? = some (.template, template))
    (hverb : (request version c).verb = (request version' d).verb)
    (hsegments : index.toList :: c.page = ["_template".toList, template.toList]) :
    c.Crosses d := by
  obtain ⟨hindex, hpage⟩ := List.cons_eq_cons.mp hsegments
  rw [String.toList_inj] at hindex
  subst hindex
  cases c with
  | indexSettings | indexProperties => exact absurd hverb.symm (verb_ne_get_of_template hd)
  | putIndexReplicas name replicas =>
      cases hc
      obtain ⟨model, order, rfl⟩ := exists_putTemplate_of_verb hd hverb.symm
      rw [Call.page, List.singleton_inj, String.toList_inj] at hpage
      subst hpage
      exact .settings replicas model order
  | putIndexProperties name properties =>
      cases hc
      obtain ⟨model, order, rfl⟩ := exists_putTemplate_of_verb hd hverb.symm
      rw [Call.page, List.singleton_inj, String.toList_inj] at hpage
      subst hpage
      exact .mapping properties model order
  | indexExists | createIndex | deleteIndex => simp [Call.page] at hpage
  | ping | templateExists | putTemplate | deleteTemplate | putPipeline | deletePipeline => cases hc

theorem place_eq_of_segments_eq {p q : Place} (hkind : p.1 = q.1)
    (hsegments : p.segments ++ c.page = q.segments ++ d.page) : p = q := by
  obtain ⟨kind, name⟩ := p
  obtain ⟨kind', name'⟩ := q
  obtain rfl : kind = kind' := hkind
  have hlength : (Place.segments (kind, name)).length = (Place.segments (kind, name')).length := by
    cases kind <;> rfl
  have hplace := (List.append_inj hsegments hlength).1
  have hname : name.toList = name'.toList := by
    cases kind <;> simpa [Place.segments] using hplace
  rw [String.toList_inj.mp hname]

/-- Two places share the segments of a path only where a page of an index looks like a template. -/
theorem crosses_of_request_eq {version version' : Version} {p q : Place} (hne : p ≠ q)
    (hc : c.place? = some p) (hd : d.place? = some q)
    (hverb : (request version c).verb = (request version' d).verb)
    (hsegments : p.segments ++ c.page = q.segments ++ d.page) : c.Crosses d ∨ d.Crosses c := by
  have hkinds : p.1 ≠ q.1 := fun hkind => hne (place_eq_of_segments_eq hkind hsegments)
  have hlength := congrArg List.length hsegments
  have hpages := And.intro (length_page_le c) (length_page_le d)
  obtain ⟨kind, name⟩ := p
  obtain ⟨kind', name'⟩ := q
  cases kind <;> cases kind'
  case index.template =>
      rw [page_of_ne_index hd (by simp)] at hsegments
      exact .inl (crosses_of_segments_eq hc hd hverb hsegments)
  case template.index =>
      rw [page_of_ne_index hc (by simp)] at hsegments
      exact .inr (crosses_of_segments_eq hd hc hverb.symm hsegments.symm)
  case index.pipeline | pipeline.index =>
      simp only [Place.segments, List.length_append, List.length_cons, List.length_nil] at hlength
      omega
  case template.pipeline | pipeline.template =>
      rw [page_of_ne_index hc (by simp), page_of_ne_index hd (by simp)] at hlength
      simp [Place.segments] at hlength
  case index.index | template.template | pipeline.pipeline => contradiction

theorem request_eq_of_crosses (version' : Version) (h : c.Crosses d) :
    (request version c).verb = (request version' d).verb ∧
      (request version c).path = (request version' d).path := by
  cases h with
  | settings | mapping =>
      rw [request, request, path_templateRequest, verb_templateRequest]
      refine ⟨rfl, ?_⟩
      change "/" ++ "_template" ++ _ = "/_template/" ++ _
      decide

/--
Calls for two admitted objects go to one address exactly when they cross.  So it
is with the addresses that go out, unless a name stands for a directory.
-/
theorem same_address_iff (version version' : Version) {a b : DesiredObject}
    (ha : Admission.validateCreate a = .ok ()) (hb : Admission.validateCreate b = .ok ())
    (hne : a.place ≠ b.place) {c d : Call} (hc : c.place? = some a.place)
    (hd : d.place? = some b.place) :
    let r := request version c
    let s := request version' d
    (r.verb = s.verb ∧ r.path = s.path ↔ c.Crosses d ∨ d.Crosses c) ∧
      (a.name ∉ [".", ".."] → b.name ∉ [".", ".."] →
        (r.verb = s.verb ∧
            Url.normalPath true r.path.toList = Url.normalPath true s.path.toList ↔
          c.Crosses d ∨ d.Crosses c)) := by
  have hname := Admission.isName_of_validateCreate ha
  have hname' := Admission.isName_of_validateCreate hb
  have hbuilt : (request version c).verb = (request version' d).verb ∧
      (request version c).path = (request version' d).path ↔ c.Crosses d ∨ d.Crosses c := by
    constructor
    · rintro ⟨hverb, hpath⟩
      exact crosses_of_request_eq hne hc hd hverb ((path_inj hc hd hname hname').mp hpath)
    · rintro (h | h)
      · exact request_eq_of_crosses version version' h
      · exact (request_eq_of_crosses version' version h).imp Eq.symm Eq.symm
  refine ⟨hbuilt, fun hdots hdots' => ?_⟩
  rw [normalPath_path version hc hname hdots, normalPath_path version' hd hname' hdots']
  exact hbuilt

/-! ## An index with the name of a directory -/

def misnamedIndex : DesiredObject :=
  .index ⟨"_template", "main", ⟨1, 1⟩, "\x7b\"mappings\":\x7b\x7d\x7d"⟩

def misnamedTemplate : DesiredObject :=
  .template ⟨"_settings", "main", ⟨1, 1⟩, none, "\x7b\"index_patterns\":[\"*\"]\x7d"⟩

theorem validateCreate_misnamedIndex : Admission.validateCreate misnamedIndex = .ok () := by
  decide +kernel

theorem validateCreate_misnamedTemplate : Admission.validateCreate misnamedTemplate = .ok () := by
  decide +kernel

theorem misnamed_same_address :
    let r := request .v7 (.putIndexReplicas "_template" 2)
    let s := request .v7 (.putTemplate "_settings" misnamedTemplate.model none)
    misnamedIndex.place ≠ misnamedTemplate.place ∧ r.verb = s.verb ∧
      Url.normalPath true r.path.toList = Url.normalPath true s.path.toList := by
  have hne : misnamedIndex.place ≠ misnamedTemplate.place := by decide
  have hmeet := same_address_iff .v7 .v7 validateCreate_misnamedIndex
    validateCreate_misnamedTemplate hne (c := .putIndexReplicas "_template" 2)
    (d := .putTemplate "_settings" misnamedTemplate.model none) rfl rfl
  exact ⟨hne, (hmeet.2 (by decide) (by decide)).mpr (.inl (.settings ..))⟩

/-- Writing the settings of one admitted object can be putting another one. -/
theorem objects_can_share_address :
    ¬∀ (version : Version) (a b : DesiredObject) (c d : Call),
      Admission.validateCreate a = .ok () → Admission.validateCreate b = .ok () →
      c.place? = some a.place → d.place? = some b.place →
      (request version c).verb = (request version d).verb →
      (request version c).path = (request version d).path →
      a.kind = b.kind ∧ a.name = b.name := by
  intro h
  have hcross := request_eq_of_crosses .v7 .v7 (.settings 2 misnamedTemplate.model none)
  have hsame := h .v7 misnamedIndex misnamedTemplate _ _ validateCreate_misnamedIndex
    validateCreate_misnamedTemplate rfl rfl hcross.1 hcross.2
  exact absurd hsame.1 (by decide)

end Wire

end SchemaKeeper
