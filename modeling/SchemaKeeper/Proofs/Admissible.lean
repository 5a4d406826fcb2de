import SchemaKeeper.Proofs.Endpoint
import SchemaKeeper.Proofs.Rest

/-!
# What is admitted can be brought about

Admission and convergence read the same model, one when it writes the counts into
it, the other out of the text that came of this.  So nothing that is admitted is
ever stopped by its model, whatever a cluster answers, and what is refused breaks
one of the rules that are written down here.
-/

namespace SchemaKeeper

/-! ## The rules of admission -/

namespace Admission

/-- What an object must be on its own. -/
structure Admissible (object : DesiredObject) : Prop where
  named : object.name ≠ ""
  name : ∀ c ∈ object.name.toList,
    'a' ≤ c ∧ c ≤ 'z' ∨ '0' ≤ c ∧ c ≤ '9' ∨ c = '-' ∨ c = '_' ∨ c = '.'
  shards : ∀ counts, object.counts? = some counts →
    1 ≤ counts.shards.toNat ∧ counts.shards.toNat ≤ 500
  replicas : ∀ counts, object.counts? = some counts →
    1 ≤ counts.replicas.toNat ∧ counts.replicas.toNat ≤ 3
  shape : Model.checkShape object.kind object.model = .ok ()

/-- What an object must keep of the one whose place it takes. -/
structure Follows (old new : DesiredObject) (oldConnection newConnection : Option Connection) :
    Prop where
  name : old.name = new.name
  shards : ∀ a b, old = .index a → new = .index b → a.counts.shards = b.counts.shards
  endpoint : ∀ c d, oldConnection = some c → newConnection = some d →
    c.host = d.host ∧ c.port = d.port

theorem isNameChar_iff {c : Char} :
    isNameChar c = true ↔
      'a' ≤ c ∧ c ≤ 'z' ∨ '0' ≤ c ∧ c ≤ '9' ∨ c = '-' ∨ c = '_' ∨ c = '.' := by
  simp [isNameChar, or_assoc]

theorem isName_iff {name : String} :
    isName name = true ↔ name ≠ "" ∧ ∀ c ∈ name.toList, isNameChar c = true := by
  simp [isName]

theorem countComplaints_eq_nil_iff {counts : Counts} :
    countComplaints counts = [] ↔
      (1 ≤ counts.shards.toNat ∧ counts.shards.toNat ≤ 500) ∧
        1 ≤ counts.replicas.toNat ∧ counts.replicas.toNat ≤ 3 := by
  simp [countComplaints, UInt32.le_iff_toNat_le, leastShards, mostShards, leastReplicas,
    mostReplicas]

theorem createComplaints_eq_nil_iff {object : DesiredObject} :
    createComplaints object = [] ↔ Admissible object := by
  unfold createComplaints
  rw [List.append_eq_nil_iff, List.append_eq_nil_iff]
  constructor
  · rintro ⟨⟨hname, hcounts⟩, hshape⟩
    have hname : isName object.name = true := by
      split at hname
      next h => exact h
      next => cases hname
    have hranges : ∀ counts, object.counts? = some counts → countComplaints counts = [] := by
      intro counts hsome
      rw [hsome] at hcounts
      exact hcounts
    obtain ⟨hnamed, hchars⟩ := isName_iff.mp hname
    exact {
      named := hnamed
      name := fun c hc => isNameChar_iff.mp (hchars c hc)
      shards := fun counts h => (countComplaints_eq_nil_iff.mp (hranges counts h)).1
      replicas := fun counts h => (countComplaints_eq_nil_iff.mp (hranges counts h)).2
      shape := by
        split at hshape
        next h => exact h
        next => cases hshape }
  · intro h
    have hname : isName object.name = true :=
      isName_iff.mpr ⟨h.named, fun c hc => isNameChar_iff.mpr (h.name c hc)⟩
    refine ⟨⟨if_pos hname, ?_⟩, ?_⟩
    · cases hcounts : object.counts? with
      | none => rfl
      | some counts =>
          exact countComplaints_eq_nil_iff.mpr ⟨h.shards counts hcounts, h.replicas counts hcounts⟩
    · rw [h.shape]

theorem shardComplaints_eq_nil_iff {old new : DesiredObject} :
    shardComplaints old new = [] ↔
      ∀ a b, old = .index a → new = .index b → a.counts.shards = b.counts.shards := by
  cases old <;> cases new <;> simp [shardComplaints]

theorem updateComplaints_eq_nil_iff {old new : DesiredObject}
    {oldConnection newConnection : Option Connection} :
    updateComplaints old new oldConnection newConnection = [] ↔
      Admissible new ∧ Follows old new oldConnection newConnection := by
  have hname : (if old.name = new.name then [] else [Complaint.nameChanged old.name new.name]) =
      [] ↔ old.name = new.name := by
    split <;> simp_all
  have hstays (c d : Connection) : (connectionComplaint c d).toList = [] ↔
      c.host = d.host ∧ c.port = d.port := by
    rw [← Connection.sameEndpoint_iff]
    simp [connectionComplaint]
  unfold updateComplaints
  rw [List.append_eq_nil_iff, List.append_eq_nil_iff, List.append_eq_nil_iff,
    createComplaints_eq_nil_iff, hname, shardComplaints_eq_nil_iff]
  constructor
  · rintro ⟨⟨⟨hadmissible, hsame⟩, hshards⟩, hmoved⟩
    refine ⟨hadmissible, hsame, hshards, ?_⟩
    rintro c d rfl rfl
    exact (hstays c d).mp hmoved
  · rintro ⟨hadmissible, hfollows⟩
    refine ⟨⟨⟨hadmissible, hfollows.name⟩, hfollows.shards⟩, ?_⟩
    cases hold : oldConnection with
    | none => rfl
    | some c =>
        cases hnew : newConnection with
        | none => rfl
        | some d => exact (hstays c d).mpr (hfollows.endpoint c d hold hnew)

end Admission

namespace Rounds

/-- An object is refused when it breaks a rule, on its own or beside the one on record. -/
def Breaks (object : DesiredObject) (connection : Option Connection)
    (stored : Option ObjectRecord) : Prop :=
  ¬Admission.Admissible object ∨
    ∃ previous, stored.bind (·.applied) = some previous ∧
      ¬Admission.Follows previous.object object (stored.bind (·.endpoint)) connection

theorem complaints_ne_nil_iff {object : DesiredObject} {connection : Option Connection}
    {stored : Option ObjectRecord} :
    complaints object connection stored ≠ [] ↔ Breaks object connection stored := by
  unfold complaints Breaks
  cases stored.bind (·.applied) with
  | none => simp [Admission.createComplaints_eq_nil_iff]
  | some previous =>
      simp [Admission.updateComplaints_eq_nil_iff, ← not_and_or]

theorem admitEntry_eq_error_iff {entry : Entry} {connection : Option Connection}
    {stored : Option ObjectRecord} :
    (∃ refusal, admitEntry entry connection stored = .error refusal) ↔
      (∃ reason, Admission.defaultModel entry.object = .error reason) ∨
        ∃ object, Admission.defaultModel entry.object = .ok object ∧
          Breaks object connection stored := by
  rw [admitEntry_eq]
  cases Admission.defaultModel entry.object with
  | error reason => simp
  | ok object =>
      simp only [reduceCtorEq, exists_false, false_or, Except.ok.injEq, exists_eq_left',
        ← complaints_ne_nil_iff]
      cases complaints object connection stored <;> simp

end Rounds

/-! ## Verdicts that are no outcome of a call -/

theorem RemoteError.toStatus_ne_error (e : RemoteError) (message : String) :
    e.toStatus ≠ Status.error message := by
  cases e <;> simp [toStatus, Status.classify, Status.error, Status.retry]

theorem Outcome.toStatus_ne_error (outcome : Outcome) (message : String) :
    Outcome.toStatus outcome ≠ Status.error message := by
  cases outcome with
  | ok response => simp [Outcome.toStatus, Response.toStatus, Status.classify, Status.error]
  | error e => exact e.toStatus_ne_error message

/-! ## Messages told apart by their first words -/

theorem starts_append {start s : String} (h : start.toList <+: s.toList) (t : String) :
    start.toList <+: (s ++ t).toList := by
  rw [String.toList_append]
  exact h.trans (List.prefix_append _ _)

theorem ne_of_starts {start other s t : String} (hs : start.toList <+: s.toList)
    (ht : other.toList <+: t.toList) (hlength : start.toList.length ≤ other.toList.length)
    (hother : ¬start.toList <+: other.toList) : s ≠ t := by
  rintro rfl
  exact hother (List.prefix_of_prefix_length_le hs ht hlength)

theorem ModelError.starts_message (e : ModelError) : "💀".toList <+: e.message.toList := by
  cases e with
  | invalidJson kind reason =>
      cases kind with
      | none => exact starts_append (by decide) _
      | some kind => exact starts_append (starts_append (starts_append (by decide) _) _) _
  | notFound path => exact starts_append (starts_append (by decide) _) _
  | notAnInteger path value =>
      exact starts_append (starts_append (starts_append (by decide) _) _) _
  | shape fault => exact starts_append (by decide) _

namespace Convergence

namespace Refusal

theorem starts_shards (index : String) (current desired : UInt32) :
    "you cannot update".toList <+: (Refusal.shards index current desired).message.toList :=
  starts_append (starts_append (starts_append (starts_append (starts_append (by decide) _) _) _) _) _

theorem starts_fieldLoss (current desired : Json) :
    "you cannot delete".toList <+: (Refusal.fieldLoss current desired).message.toList :=
  starts_append (by decide) _

theorem message_ne_model (refusal : Refusal) (e : ModelError) : e.message ≠ refusal.message := by
  cases refusal with
  | shards index current desired =>
      exact ne_of_starts e.starts_message (starts_shards index current desired) (by decide)
        (by decide)
  | fieldLoss current desired =>
      exact ne_of_starts e.starts_message (starts_fieldLoss current desired) (by decide)
        (by decide)

theorem shards_ne_fieldLoss (index : String) (a b : UInt32) (current desired : Json) :
    (Refusal.shards index a b).message ≠ (Refusal.fieldLoss current desired).message :=
  ne_of_starts (starts_shards index a b) (starts_fieldLoss current desired) (by decide)
    (by decide)

end Refusal

/-! ## Passes that the counts of a model do not stop -/

section

variable {ceiling : Nat} {spec : IndexSpec} {desired : Counts}
  (hdesired : desiredCounts spec = .ok desired) {events : List Event}

include hdesired

/-- The counts of an index are asked for before anything else. -/
theorem SettingsTranscript.begins {step : SettingsStep} (h : SettingsTranscript spec events step) :
    ∃ found later, events = ⟨.indexSettings spec.name, found⟩ :: later := by
  cases h with
  | unreadableModel hunreadable => cases hdesired.symm.trans hunreadable
  | unanswered | unreadable | otherShards | sameCounts | put => exact ⟨_, _, rfl⟩

/-- The step ends in an error without a code only by refusing other shards. -/
theorem SettingsTranscript.refuses {step : SettingsStep} (h : SettingsTranscript spec events step)
    {message : String} (herror : finalVerdict step (.ok none) = Status.error message) :
    ∃ a b, message = (Refusal.shards spec.name a b).message := by
  cases h with
  | unreadableModel hunreadable => cases hdesired.symm.trans hunreadable
  | unanswered => exact absurd herror (RemoteError.toStatus_ne_error _ _)
  | unreadable => cases herror
  | otherShards => exact ⟨_, _, (congrArg Status.message herror).symm⟩
  | sameCounts => cases herror
  | put => split at herror <;> exact absurd herror (Outcome.toStatus_ne_error _ _)

/-- What a step comes to that could read the counts. -/
theorem SettingsTranscript.of_read {step : SettingsStep} (h : SettingsTranscript spec events step)
    {settings : Json} {current : Counts}
    (hread : ⟨.indexSettings spec.name, .ok settings⟩ ∈ events)
    (hcurrent : currentCounts settings spec.name = .ok current) :
    current.shards ≠ desired.shards ∧
        step = .stop (Status.error
          (Refusal.shards spec.name current.shards desired.shards).message) ∨
      current.shards = desired.shards ∧
        ∀ message, finalVerdict step (.ok none) ≠ Status.error message := by
  cases h with
  | unreadableModel hunreadable => cases hdesired.symm.trans hunreadable
  | unanswered => simp at hread
  | unreadable hunreadable =>
      obtain rfl : settings = _ := by simpa using hread
      cases hcurrent.symm.trans hunreadable
  | otherShards hown hfound hother =>
      obtain rfl : settings = _ := by simpa using hread
      obtain rfl := Except.ok.inj (hcurrent.symm.trans hfound)
      obtain rfl := Except.ok.inj (hdesired.symm.trans hown)
      exact .inl ⟨hother.symm, rfl⟩
  | sameCounts hown hfound =>
      obtain rfl : settings = _ := by simpa using hread
      obtain rfl := Except.ok.inj (hcurrent.symm.trans hfound)
      obtain rfl := Except.ok.inj (hdesired.symm.trans hown)
      exact .inr ⟨rfl, nofun⟩
  | put hown hfound hsame =>
      obtain rfl : settings = _ := by simpa using hread
      obtain rfl := Except.ok.inj (hcurrent.symm.trans hfound)
      obtain rfl := Except.ok.inj (hdesired.symm.trans hown)
      refine .inr ⟨hsame.symm, fun message herror => ?_⟩
      split at herror <;> exact Outcome.toStatus_ne_error _ _ herror

end

/-- Beyond the settings an error without a code is that of the settings, or a field is lost. -/
theorem PropertiesTranscript.refuses {ceiling : Nat} {spec : IndexSpec} {events : List Event}
    {result : Except Status (Option Status)} (h : PropertiesTranscript ceiling spec events result)
    {step : SettingsStep} {message : String}
    (herror : finalVerdict step result = Status.error message) :
    result = .ok none ∨ ∃ current tree, message = (Refusal.fieldLoss current tree).message := by
  cases h with
  | noTree | noMapping | same => exact .inl rfl
  | unanswered => exact absurd herror (RemoteError.toStatus_ne_error _ _)
  | fieldLoss => exact .inr ⟨_, _, (congrArg Status.message herror).symm⟩
  | put => exact absurd herror (Outcome.toStatus_ne_error _ _)

section

variable {ceiling : Nat} {spec : IndexSpec} {desired : Counts}
  (hdesired : desiredCounts spec = .ok desired) {history : List Event} {verdict : Status}
  (h : IndexTranscript ceiling spec history verdict)

include hdesired h

/-- A pass asks whether the index exists, and if so for its counts. -/
theorem IndexTranscript.asks :
    ∃ found later, history = ⟨.indexExists spec.name, found⟩ :: later ∧
      (found = .ok true → ∃ settings more, later = ⟨.indexSettings spec.name, settings⟩ :: more) := by
  cases h with
  | unanswered => exact ⟨_, _, rfl, nofun⟩
  | absent => exact ⟨_, _, rfl, nofun⟩
  | stopped hsettings =>
      obtain ⟨settings, later, rfl⟩ := hsettings.begins hdesired
      exact ⟨_, _, rfl, fun _ => ⟨settings, later, rfl⟩⟩
  | finished hsettings =>
      obtain ⟨settings, later, rfl⟩ := hsettings.begins hdesired
      exact ⟨_, _, rfl, fun _ => ⟨settings, _, rfl⟩⟩

/-- An error without a code is a refusal. -/
theorem IndexTranscript.refuses {message : String} (herror : verdict = Status.error message) :
    ∃ refusal : Refusal, message = refusal.message := by
  cases h with
  | unanswered => exact absurd herror (RemoteError.toStatus_ne_error _ _)
  | absent => exact absurd herror (Outcome.toStatus_ne_error _ _)
  | stopped hsettings =>
      obtain ⟨a, b, hmessage⟩ := hsettings.refuses hdesired herror
      exact ⟨_, hmessage⟩
  | finished hsettings hstep hproperties =>
      rcases hproperties.refuses herror with rfl | ⟨current, tree, hmessage⟩
      · obtain ⟨a, b, hmessage⟩ := hsettings.refuses hdesired herror
        exact ⟨_, hmessage⟩
      · exact ⟨_, hmessage⟩

/-- What a pass comes to that could read the counts of an index. -/
theorem IndexTranscript.of_read {settings : Json} {current : Counts}
    (hread : ⟨.indexSettings spec.name, .ok settings⟩ ∈ history)
    (hcurrent : currentCounts settings spec.name = .ok current) :
    current.shards ≠ desired.shards ∧
        verdict = Status.error (Refusal.shards spec.name current.shards desired.shards).message ∨
      current.shards = desired.shards ∧
        ∀ a b, verdict ≠ Status.error (Refusal.shards spec.name a b).message := by
  cases h with
  | unanswered => simp at hread
  | absent => simp at hread
  | stopped hsettings =>
      have hread := (List.mem_cons.mp hread).resolve_left (by simp)
      rcases hsettings.of_read hdesired hread hcurrent with ⟨hother, hstop⟩ | ⟨hsame, hgoes⟩
      · exact .inl ⟨hother, SettingsStep.stop.inj hstop⟩
      · exact .inr ⟨hsame, fun a b => hgoes _⟩
  | finished hsettings hstep hproperties =>
      have hread := List.mem_append.mp ((List.mem_cons.mp hread).resolve_left (by simp))
      have hread := hread.resolve_right fun hlater => by
        cases hproperties <;> simp at hlater
      rcases hsettings.of_read hdesired hread hcurrent with ⟨-, hstop⟩ | ⟨hsame, hgoes⟩
      · exact absurd hstop (hstep _)
      · refine .inr ⟨hsame, fun a b herror => ?_⟩
        rcases hproperties.refuses herror with rfl | ⟨found, tree, hmessage⟩
        · exact hgoes _ herror
        · exact Refusal.shards_ne_fieldLoss _ _ _ _ _ hmessage

end

/-! ## Admission is sound -/

/-- A verdict refuses the shards of an index exactly if they are not those that it has. -/
structure RefusesShards (spec : IndexSpec) (current : Counts) (verdict : Status) : Prop where
  refused : (∃ a b, verdict = Status.error (Refusal.shards spec.name a b).message) ↔
    current.shards ≠ spec.counts.shards
  message : current.shards ≠ spec.counts.shards →
    verdict = Status.error (Refusal.shards spec.name current.shards spec.counts.shards).message

/-- How a pass deals with an index whose model tells its own counts. -/
structure Heeds (ceiling : Nat) (spec : IndexSpec) (history : List Event) (verdict : Status) :
    Prop where
  transcript : IndexTranscript ceiling spec history verdict
  asks : ∃ found later, history = ⟨.indexExists spec.name, found⟩ :: later ∧
    (found = .ok true → ∃ settings more, later = ⟨.indexSettings spec.name, settings⟩ :: more)
  refuses : ∀ settings current, ⟨.indexSettings spec.name, .ok settings⟩ ∈ history →
    currentCounts settings spec.name = .ok current → RefusesShards spec current verdict
  replicas : ∀ name replicas found, ⟨.putIndexReplicas name replicas, found⟩ ∈ history →
    replicas = spec.counts.replicas

theorem IndexTranscript.heeds {ceiling : Nat} {spec : IndexSpec} {history : List Event}
    {verdict : Status} (hdesired : desiredCounts spec = .ok spec.counts)
    (h : IndexTranscript ceiling spec history verdict) : Heeds ceiling spec history verdict where
  transcript := h
  asks := h.asks hdesired
  refuses settings current hread hcurrent := by
    rcases h.of_read hdesired hread hcurrent with ⟨hother, hverdict⟩ | ⟨hsame, hverdict⟩
    · exact ⟨iff_of_true ⟨_, _, hverdict⟩ hother, fun _ => hverdict⟩
    · exact ⟨iff_of_false (fun ⟨a, b, herror⟩ => hverdict a b herror) (not_not_intro hsame),
        fun hother => absurd hsame hother⟩
  replicas name replicas found hput := by
    obtain ⟨before, after, hhistory⟩ := List.append_of_mem hput
    obtain ⟨desired, current, settings, hown, hreplicas, -⟩ := h.justified.reason hhistory
    obtain rfl := Except.ok.inj (hdesired.symm.trans hown)
    exact hreplicas

section

variable {World : Type} (answer : (c : Call) → World → Except RemoteError c.Answer × World)

/-- A gateway has an index and tells its counts. -/
def Shows (world : World) (name : String) (current : Counts) : Prop :=
  let found := answer (.indexExists name) world
  found.1 = .ok true ∧
    ∃ settings, (answer (.indexSettings name) found.2).1 = .ok settings ∧
      currentCounts settings name = .ok current

/-- The model of an object never stops a pass. -/
structure Unhindered (world : World) (ceiling : Nat) (object : DesiredObject)
    (history : List Event) (verdict : Status) : Prop where
  asks : history ≠ []
  unstopped : ∀ e : ModelError, verdict ≠ Status.error e.message
  index : ∀ spec, object = .index spec → Heeds ceiling spec history verdict
  shards : ∀ spec current, object = .index spec → Shows answer world spec.name current →
    RefusesShards spec current verdict
  template : ∀ spec, object = .template spec →
    (∃ e, history = [⟨.templateExists spec.name, .error e⟩] ∧ verdict = e.toStatus) ∨
      ∃ found outcome, history = [⟨.templateExists spec.name, .ok found⟩,
        ⟨.putTemplate spec.name spec.model spec.order, outcome⟩] ∧
        verdict = Outcome.toStatus outcome
  pipeline : ∀ spec, object = .pipeline spec →
    ∃ outcome, history = [⟨.putPipeline spec.name spec.model, outcome⟩] ∧
      verdict = Outcome.toStatus outcome

/-- The counts of an index that exists are read from what the gateway answers at that time. -/
theorem settings_mem_history (ceiling : Nat) {spec : IndexSpec} {desired : Counts} {world : World}
    (hdesired : desiredCounts spec = .ok desired)
    (hexists : (answer (.indexExists spec.name) world).1 = .ok true) :
    ⟨.indexSettings spec.name,
        (answer (.indexSettings spec.name) (answer (.indexExists spec.name) world).2).1⟩ ∈
      (convergeIndex ceiling spec).history answer world := by
  unfold convergeIndex
  rw [Program.history_bind, Program.run_ask, hexists]
  refine List.mem_append_right _ ?_
  dsimp only
  rw [Program.history_bind]
  refine List.mem_append_left _ ?_
  unfold convergeSettings
  rw [hdesired]
  dsimp only
  rw [Program.history_bind]
  exact List.mem_append_left _ List.mem_cons_self

theorem unhindered_convergeIndex {spec : IndexSpec}
    (hdesired : desiredCounts spec = .ok spec.counts) (ceiling : Nat) (world : World) :
    Unhindered answer world ceiling (.index spec)
      ((convergeIndex ceiling spec).history answer world)
      ((convergeIndex ceiling spec).run answer world).1 := by
  have htranscript := indexTranscript answer ceiling spec world
  have hheeds := htranscript.heeds hdesired
  refine ⟨List.cons_ne_nil _ _, fun e herror => ?_, fun _ heq => ?_, fun _ current heq hshows => ?_,
    nofun, nofun⟩
  · obtain ⟨refusal, hmessage⟩ := htranscript.refuses hdesired herror
    exact refusal.message_ne_model e hmessage
  · obtain rfl := DesiredObject.index.inj heq
    exact hheeds
  · obtain rfl := DesiredObject.index.inj heq
    obtain ⟨hexists, settings, hsettings, hcurrent⟩ := hshows
    have hread := settings_mem_history answer ceiling hdesired hexists
    rw [hsettings] at hread
    exact hheeds.refuses settings current hread hcurrent

theorem unhindered_convergeTemplate (ceiling : Nat) (spec : TemplateSpec) (world : World) :
    Unhindered answer world ceiling (.template spec)
      ((convergeTemplate spec).history answer world)
      ((convergeTemplate spec).run answer world).1 := by
  have hhistory := template_history answer spec world
  refine ⟨?_, fun e => ?_, nofun, nofun, fun _ heq => ?_, nofun⟩
  · rcases hhistory with ⟨e, hrow, -⟩ | ⟨found, outcome, hrow, -⟩ <;> simp [hrow]
  · rcases hhistory with ⟨reason, -, hverdict⟩ | ⟨found, outcome, -, hverdict⟩
    · exact hverdict ▸ reason.toStatus_ne_error _
    · exact hverdict ▸ Outcome.toStatus_ne_error outcome _
  · obtain rfl := DesiredObject.template.inj heq
    exact hhistory

theorem unhindered_convergePipeline (ceiling : Nat) (spec : PipelineSpec) (world : World) :
    Unhindered answer world ceiling (.pipeline spec)
      ((convergePipeline spec).history answer world)
      ((convergePipeline spec).run answer world).1 := by
  refine ⟨nofun, fun _ => Outcome.toStatus_ne_error _ _, nofun, nofun, nofun, fun _ heq => ?_⟩
  obtain rfl := DesiredObject.pipeline.inj heq
  exact ⟨_, rfl, rfl⟩

/-- No pass over an object is stopped by a model that is in shape and tells the counts. -/
theorem unhindered_converge {object : DesiredObject}
    (hshape : Model.checkShape object.kind object.model = .ok ()) (hcounts : object.TellsCounts)
    (ceiling : Nat) (world : World) :
    Unhindered answer world ceiling object ((converge ceiling object).history answer world)
      ((converge ceiling object).run answer world).1 := by
  unfold converge
  rw [hshape]
  cases object with
  | index spec =>
      obtain ⟨hshards, hreplicas⟩ := hcounts spec.counts rfl
      exact unhindered_convergeIndex answer (desiredCounts_eq hshards hreplicas) ceiling world
  | template spec => exact unhindered_convergeTemplate answer ceiling spec world
  | pipeline spec => exact unhindered_convergePipeline answer ceiling spec world

end

/--
What is admitted differs from the entry in its model alone, keeps the rules, and
is never stopped by its model, whatever a cluster answers: a pass asks for what
there is, and an index that is shown to be there is refused exactly for other
shards.  What is refused has a model that takes no counts, or breaks a rule.
-/
theorem admission_sound (entry : Entry) (connection : Option Connection)
    (stored : Option ObjectRecord) :
    (∀ admitted, Rounds.admitEntry entry connection stored = .ok admitted →
      admitted = { entry with object := entry.object.withModel admitted.object.model } ∧
        Admission.Admissible admitted.object ∧
        ∀ (ceiling : Nat) (World : Type)
          (answer : (c : Call) → World → Except RemoteError c.Answer × World) (world : World),
          Unhindered answer world ceiling admitted.object
            ((converge ceiling admitted.object).history answer world)
            ((converge ceiling admitted.object).run answer world).1) ∧
      ((∃ refusal, Rounds.admitEntry entry connection stored = .error refusal) ↔
        (∃ reason, Admission.defaultModel entry.object = .error reason) ∨
          ∃ object, Admission.defaultModel entry.object = .ok object ∧
            Rounds.Breaks object connection stored) := by
  refine ⟨fun admitted hadmitted => ?_, Rounds.admitEntry_eq_error_iff⟩
  have hadmissible := Admission.createComplaints_eq_nil_iff.mp
    (Rounds.createComplaints_of_admitEntry hadmitted)
  obtain ⟨hobject, hcounts⟩ := Rounds.model_of_admitEntry hadmitted
  refine ⟨?_, hadmissible, fun ceiling World answer world =>
    unhindered_converge answer hadmissible.shape hcounts ceiling world⟩
  obtain ⟨object, flag⟩ := admitted
  obtain ⟨-, hflag, -⟩ := Rounds.admitEntry_eq_ok_iff.mp hadmitted
  rw [Entry.mk.injEq]
  exact ⟨hobject, hflag⟩

/-- A model with a count that stands twice, as a text and as null. -/
def oddEntry : Entry :=
  ⟨.index ⟨"orders", "main", ⟨3, 2⟩,
    "\x7b\"settings\":\x7b\"number_of_shards\":\" +7 \",\"number_of_shards\":null\x7d\x7d"⟩, true⟩

def plainEntry : Entry :=
  ⟨.index ⟨"orders", "main", ⟨3, 2⟩,
    "\x7b\"settings\":\x7b\"number_of_replicas\":2,\"number_of_shards\":3\x7d\x7d"⟩, true⟩

/-- A cluster that has the index with five shards. -/
def fiveShards : Cluster :=
  Cluster.empty.seedIndex "orders" ⟨⟨5, 1⟩, none⟩

/--
The object's own counts take the place of the odd ones before anything reads
them: three shards pass where there are three, and are refused where there are five.
-/
theorem admission_sound_odd_counts :
    Rounds.admitEntry oddEntry none none = .ok plainEntry ∧
      Admission.Admissible plainEntry.object ∧
      Unhindered losingMappings () 64 plainEntry.object
        ((converge 64 plainEntry.object).history losingMappings ())
        ((converge 64 plainEntry.object).run losingMappings ()).1 ∧
      Shows Cluster.answer fiveShards "orders" ⟨5, 1⟩ ∧
      ((converge 64 plainEntry.object).run Cluster.answer fiveShards).1 =
        Status.error (Refusal.shards "orders" 5 3).message := by
  have hadmitted : Rounds.admitEntry oddEntry none none = .ok plainEntry := by decide +kernel
  obtain ⟨-, hadmissible, hunhindered⟩ :=
    (admission_sound oddEntry none none).1 plainEntry hadmitted
  have hshows : Shows Cluster.answer fiveShards "orders" ⟨5, 1⟩ := by
    refine ⟨by decide +kernel, Cluster.settingsDocument "orders" ⟨5, 1⟩, ?_, ?_⟩ <;>
      decide +kernel
  have hrefuses := (hunhindered 64 Cluster Cluster.answer fiveShards).shards _ _ rfl hshows
  exact ⟨hadmitted, hadmissible, hunhindered 64 Unit losingMappings (), hshows,
    hrefuses.message (by decide)⟩

end Convergence

end SchemaKeeper
