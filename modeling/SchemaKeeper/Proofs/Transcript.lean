import SchemaKeeper.Proofs.Place

/-!
# What a pass asks and why

The step on the settings, the step on the mapping and a whole pass over an index
are described by their transcripts: what was asked and found beside what the
step comes to.  No cluster, however it answers, brings about another transcript.
Every write follows from what was read before it, a call that fails is the last
one, and the verdict is that of the last call that had one.
-/

namespace SchemaKeeper

/-! ## Single calls -/

def failureVerdict {α : Type} : Except RemoteError α → Option Status
  | .ok _ => none
  | .error e => some e.toStatus

namespace Event

/-- The verdict of a single call: the outcome of a write, the failure of a read. -/
def verdict? : Event → Option Status
  | ⟨.ping, found⟩ => failureVerdict found
  | ⟨.indexExists _, found⟩ | ⟨.templateExists _, found⟩ => failureVerdict found
  | ⟨.indexSettings _, found⟩ => failureVerdict found
  | ⟨.indexProperties _, found⟩ => failureVerdict found
  | ⟨.putIndexReplicas .., outcome⟩ | ⟨.putIndexProperties .., outcome⟩
  | ⟨.createIndex .., outcome⟩ | ⟨.deleteIndex _, outcome⟩ | ⟨.putTemplate .., outcome⟩
  | ⟨.deleteTemplate _, outcome⟩ | ⟨.putPipeline .., outcome⟩ | ⟨.deletePipeline _, outcome⟩ =>
      some (Outcome.toStatus outcome)

/-- A code of success does not come as a failure. -/
def Honest (event : Event) : Prop :=
  ∀ code body, event.found = .error (.status code body) → Status.isSuccess code = false

/-- A call that was not answered, or a write that was answered without success. -/
def Failed (event : Event) : Prop :=
  (∃ e, event.found = .error e) ∨ ∃ status, event.verdict? = some status ∧ status.state ≠ .created

end Event

theorem RemoteError.state_toStatus {e : RemoteError}
    (h : ∀ code body, e = .status code body → Status.isSuccess code = false) :
    e.toStatus.state ≠ .created := by
  cases e with
  | status code body =>
      have hcode := h code body rfl
      simp only [Status.isSuccess, beq_eq_false_iff_ne] at hcode
      exact hcode
  | transport | timeout | decode => exact nofun

namespace Event

theorem verdict?_of_error {event : Event} {e : RemoteError} (h : event.found = .error e) :
    event.verdict? = some e.toStatus := by
  obtain ⟨c, found⟩ := event
  obtain rfl : found = .error e := h
  cases c <;> rfl

theorem not_failed {event : Event} (h : event.verdict? = none) : ¬event.Failed := by
  rintro (⟨e, he⟩ | ⟨status, hstatus, -⟩)
  · cases (verdict?_of_error he).symm.trans h
  · cases hstatus.symm.trans h

theorem state_of_failed {event : Event} (hhonest : event.Honest) (hfailed : event.Failed)
    {status : Status} (hverdict : event.verdict? = some status) : status.state ≠ .created := by
  rcases hfailed with ⟨e, he⟩ | ⟨other, hother, hstate⟩
  · obtain rfl := Option.some.inj ((verdict?_of_error he).symm.trans hverdict)
    exact RemoteError.state_toStatus fun code body heq => hhonest code body (heq ▸ he)
  · obtain rfl := Option.some.inj (hother.symm.trans hverdict)
    exact hstate

end Event

/-! ## Failures and verdicts of a row of calls -/

/-- A call that failed is the last one, and its verdict is that of the row. -/
def EndsAtFailure (history : List Event) (verdict : Status) : Prop :=
  ∀ before event after, history = before ++ event :: after → event.Failed →
    after = [] ∧ event.verdict? = some verdict

theorem endsAtFailure_nil (verdict : Status) : EndsAtFailure [] verdict := by
  intro before event after h
  simp at h

theorem endsAtFailure_last {event : Event} {verdict : Status}
    (h : event.Failed → event.verdict? = some verdict) : EndsAtFailure [event] verdict := by
  intro before last after heq hfailed
  cases before with
  | nil =>
      obtain ⟨rfl, rfl⟩ := List.cons.inj heq
      exact ⟨rfl, h hfailed⟩
  | cons first before => simp at heq

theorem endsAtFailure_cons {event : Event} {events : List Event} {verdict : Status}
    (hevent : ¬event.Failed) (h : EndsAtFailure events verdict) :
    EndsAtFailure (event :: events) verdict := by
  intro before failed after heq hfailed
  cases before with
  | nil =>
      obtain ⟨rfl, rfl⟩ := List.cons.inj heq
      exact absurd hfailed hevent
  | cons first before => exact h before failed after (List.cons.inj heq).2 hfailed

theorem endsAtFailure_append {events more : List Event} {verdict : Status}
    (hevents : ∀ event ∈ events, ¬event.Failed) (h : EndsAtFailure more verdict) :
    EndsAtFailure (events ++ more) verdict := by
  induction events with
  | nil => exact h
  | cons event events ih =>
      exact endsAtFailure_cons (hevents event List.mem_cons_self)
        (ih fun other hother => hevents other (List.mem_cons_of_mem _ hother))

def writesOf (history : List Event) : List Call :=
  (history.map Event.call).filter Call.isWrite

theorem writesOf_append (history more : List Event) :
    writesOf (history ++ more) = writesOf history ++ writesOf more := by
  simp [writesOf]

theorem writesOf_cons_of_read {event : Event} (h : event.call.isWrite = false)
    (history : List Event) : writesOf (event :: history) = writesOf history := by
  simp [writesOf, h]

/-- Each call of a row has its reasons in what came before it. -/
def Justified (reasons : List Event → Call → Prop) (past : List Event) : List Event → Prop
  | [] => True
  | event :: events => reasons past event.call ∧ Justified reasons (past ++ [event]) events

section

variable {reasons : List Event → Call → Prop}

theorem justified_append {past events more : List Event} :
    Justified reasons past (events ++ more) ↔
      Justified reasons past events ∧ Justified reasons (past ++ events) more := by
  induction events generalizing past with
  | nil => simp [Justified]
  | cons event events ih => simp [Justified, ih, and_assoc]

theorem Justified.reason {history before after : List Event} {event : Event}
    (h : Justified reasons [] history) (heq : history = before ++ event :: after) :
    reasons before event.call := by
  subst heq
  exact (justified_append.mp h).2.1

end

namespace Convergence

/-! ## Transcripts -/

/-- What the step on the settings may ask and find, and what it comes to. -/
inductive SettingsTranscript (spec : IndexSpec) : List Event → SettingsStep → Prop
  | unreadableModel {e : ModelError} (hdesired : desiredCounts spec = .error e) :
      SettingsTranscript spec [] (.stop (Status.error e.message))
  | unanswered {e : RemoteError} :
      SettingsTranscript spec [⟨.indexSettings spec.name, .error e⟩] (.stop e.toStatus)
  | unreadable {settings : Json} {e : ModelError}
      (hcurrent : currentCounts settings spec.name = .error e) :
      SettingsTranscript spec [⟨.indexSettings spec.name, .ok settings⟩]
        (.stop (Status.retry e.message))
  | otherShards {desired current : Counts} {settings : Json}
      (hdesired : desiredCounts spec = .ok desired)
      (hcurrent : currentCounts settings spec.name = .ok current)
      (hshards : desired.shards ≠ current.shards) :
      SettingsTranscript spec [⟨.indexSettings spec.name, .ok settings⟩]
        (.stop (Status.error (Refusal.shards spec.name current.shards desired.shards).message))
  | sameCounts {desired : Counts} {settings : Json} (hdesired : desiredCounts spec = .ok desired)
      (hcurrent : currentCounts settings spec.name = .ok desired) :
      SettingsTranscript spec [⟨.indexSettings spec.name, .ok settings⟩] .unchanged
  | put {desired current : Counts} {settings : Json} {outcome : Outcome}
      (hdesired : desiredCounts spec = .ok desired)
      (hcurrent : currentCounts settings spec.name = .ok current)
      (hshards : desired.shards = current.shards)
      (hreplicas : desired.replicas ≠ current.replicas) :
      SettingsTranscript spec
        [⟨.indexSettings spec.name, .ok settings⟩,
          ⟨.putIndexReplicas spec.name desired.replicas, outcome⟩]
        (if (Outcome.toStatus outcome).state = .created then .updated (Outcome.toStatus outcome)
          else .stop (Outcome.toStatus outcome))

inductive PropertiesTranscript (ceiling : Nat) (spec : IndexSpec) :
    List Event → Except Status (Option Status) → Prop
  | noTree (hdesired : Model.properties spec.model = none) :
      PropertiesTranscript ceiling spec [] (.ok none)
  | unanswered {e : RemoteError} :
      PropertiesTranscript ceiling spec [⟨.indexProperties spec.name, .error e⟩]
        (.error e.toStatus)
  | noMapping :
      PropertiesTranscript ceiling spec [⟨.indexProperties spec.name, .ok none⟩] (.ok none)
  | same {desired current : Json} (hdesired : Model.properties spec.model = some desired)
      (hsame : current.sameValue desired = true) :
      PropertiesTranscript ceiling spec [⟨.indexProperties spec.name, .ok (some current)⟩]
        (.ok none)
  | fieldLoss {desired current : Json} (hdesired : Model.properties spec.model = some desired)
      (hother : current.sameValue desired = false)
      (hsafe : Compatibility.isSafe ceiling current desired = false) :
      PropertiesTranscript ceiling spec [⟨.indexProperties spec.name, .ok (some current)⟩]
        (.error (Status.error (Refusal.fieldLoss current desired).message))
  | put {desired current : Json} {outcome : Outcome}
      (hdesired : Model.properties spec.model = some desired)
      (hother : current.sameValue desired = false)
      (hsafe : Compatibility.isSafe ceiling current desired = true) :
      PropertiesTranscript ceiling spec
        [⟨.indexProperties spec.name, .ok (some current)⟩,
          ⟨.putIndexProperties spec.name desired, outcome⟩]
        (.ok (some (Outcome.toStatus outcome)))

/-- The verdict of a pass that gets beyond the settings. -/
def finalVerdict (step : SettingsStep) : Except Status (Option Status) → Status
  | .error status => status
  | .ok (some status) => status
  | .ok none =>
      match step with
      | .unchanged => inLine
      | .updated status | .stop status => status

inductive IndexTranscript (ceiling : Nat) (spec : IndexSpec) : List Event → Status → Prop
  | unanswered {e : RemoteError} :
      IndexTranscript ceiling spec [⟨.indexExists spec.name, .error e⟩] e.toStatus
  | absent {outcome : Outcome} :
      IndexTranscript ceiling spec
        [⟨.indexExists spec.name, .ok false⟩, ⟨.createIndex spec.name spec.model, outcome⟩]
        (Outcome.toStatus outcome)
  | stopped {events : List Event} {status : Status}
      (hsettings : SettingsTranscript spec events (.stop status)) :
      IndexTranscript ceiling spec (⟨.indexExists spec.name, .ok true⟩ :: events) status
  | finished {events more : List Event} {step : SettingsStep}
      {result : Except Status (Option Status)} (hsettings : SettingsTranscript spec events step)
      (hstep : ∀ status, step ≠ .stop status)
      (hproperties : PropertiesTranscript ceiling spec more result) :
      IndexTranscript ceiling spec (⟨.indexExists spec.name, .ok true⟩ :: (events ++ more))
        (finalVerdict step result)

section

open Program (history_ask history_bind history_pure run_ask run_bind run_pure)

variable {World : Type} (answer : (c : Call) → World → Except RemoteError c.Answer × World)

theorem settingsTranscript (spec : IndexSpec) (world : World) :
    SettingsTranscript spec ((convergeSettings spec).history answer world)
      ((convergeSettings spec).run answer world).1 := by
  unfold convergeSettings
  cases hdesired : desiredCounts spec with
  | error e => exact .unreadableModel hdesired
  | ok desired =>
      rw [history_bind, run_bind, history_ask, run_ask]
      cases (answer (.indexSettings spec.name) world).1 with
      | error e => exact .unanswered
      | ok settings =>
          dsimp only
          cases hcurrent : currentCounts settings spec.name with
          | error e => exact .unreadable hcurrent
          | ok current =>
              dsimp only
              split
              next hshards => exact .otherShards hdesired hcurrent hshards
              next hshards =>
                have hshards : desired.shards = current.shards := by simpa using hshards
                split
                next hreplicas =>
                  have hsame : desired = current := by
                    cases desired
                    cases current
                    simp_all
                  subst hsame
                  exact .sameCounts hdesired hcurrent
                next hreplicas =>
                  rw [history_bind, run_bind, history_ask, run_ask]
                  exact .put hdesired hcurrent hshards hreplicas

theorem propertiesTranscript (ceiling : Nat) (spec : IndexSpec) (world : World) :
    PropertiesTranscript ceiling spec ((convergeProperties ceiling spec).history answer world)
      ((convergeProperties ceiling spec).run answer world).1 := by
  unfold convergeProperties
  cases hdesired : Model.properties spec.model with
  | none => exact .noTree hdesired
  | some desired =>
      rw [history_bind, run_bind, history_ask, run_ask]
      cases (answer (.indexProperties spec.name) world).1 with
      | error e => exact .unanswered
      | ok found =>
          cases found with
          | none => exact .noMapping
          | some current =>
              dsimp only
              split
              next hsame => exact .same hdesired hsame
              next hother =>
                have hother : current.sameValue desired = false := by simpa using hother
                split
                next hunsafe => exact .fieldLoss hdesired hother (by simpa using hunsafe)
                next hsafe =>
                  rw [history_bind, run_bind, history_ask, run_ask]
                  exact .put hdesired hother (by simpa using hsafe)

theorem indexTranscript (ceiling : Nat) (spec : IndexSpec) (world : World) :
    IndexTranscript ceiling spec ((convergeIndex ceiling spec).history answer world)
      ((convergeIndex ceiling spec).run answer world).1 := by
  unfold convergeIndex
  rw [history_bind, run_bind, history_ask, run_ask]
  cases (answer (.indexExists spec.name) world).1 with
  | error e => exact .unanswered
  | ok found =>
      cases found with
      | false =>
          dsimp only
          rw [history_bind, run_bind, history_ask, run_ask]
          exact .absent
      | true =>
          dsimp only
          have hsettings := settingsTranscript answer spec (answer (.indexExists spec.name) world).2
          rw [history_bind, run_bind]
          cases hstep : ((convergeSettings spec).run answer
              (answer (.indexExists spec.name) world).2).1 with
          | stop status =>
              rw [hstep] at hsettings
              have hstopped : IndexTranscript ceiling spec _ status := .stopped hsettings
              simpa using hstopped
          | unchanged | updated =>
              rw [hstep] at hsettings
              have hproperties := propertiesTranscript answer ceiling spec
                ((convergeSettings spec).run answer (answer (.indexExists spec.name) world).2).2
              have hfinished := IndexTranscript.finished hsettings nofun hproperties
              rw [history_bind, run_bind]
              cases hresult : ((convergeProperties ceiling spec).run answer
                  ((convergeSettings spec).run answer
                    (answer (.indexExists spec.name) world).2).2).1 with
              | error status => simpa [hresult, finalVerdict] using hfinished
              | ok status => cases status <;> simpa [hresult, finalVerdict] using hfinished

end

/-! ## Writes and their reasons -/

/-- What must have been found before a call is made for an index. -/
def IndexReasons (ceiling : Nat) (spec : IndexSpec) (past : List Event) : Call → Prop
  | .createIndex _ model => past = [⟨.indexExists spec.name, .ok false⟩] ∧ model = spec.model
  | .putIndexReplicas _ replicas =>
      ∃ desired current settings, desiredCounts spec = .ok desired ∧ replicas = desired.replicas ∧
        ⟨.indexSettings spec.name, .ok settings⟩ ∈ past ∧
        currentCounts settings spec.name = .ok current ∧
        current.shards = desired.shards ∧ current.replicas ≠ desired.replicas
  | .putIndexProperties _ properties =>
      Model.properties spec.model = some properties ∧
        ∃ current, ⟨.indexProperties spec.name, .ok (some current)⟩ ∈ past ∧
          current.sameValue properties = false ∧
          Compatibility.isSafe ceiling current properties = true
  | c => c.isWrite = false

variable {ceiling : Nat} {spec : IndexSpec} {events : List Event} {step : SettingsStep}
  {result : Except Status (Option Status)}

theorem SettingsTranscript.justified (h : SettingsTranscript spec events step)
    (past : List Event) : Justified (IndexReasons ceiling spec) past events := by
  cases h with
  | unreadableModel => trivial
  | unanswered | unreadable | otherShards | sameCounts => exact ⟨rfl, trivial⟩
  | put hdesired hcurrent hshards hreplicas =>
      refine ⟨rfl, ⟨_, _, _, hdesired, rfl, ?_, hcurrent, hshards.symm, hreplicas.symm⟩, trivial⟩
      exact List.mem_append_right _ List.mem_cons_self

theorem PropertiesTranscript.justified (h : PropertiesTranscript ceiling spec events result)
    (past : List Event) : Justified (IndexReasons ceiling spec) past events := by
  cases h with
  | noTree => trivial
  | unanswered | noMapping | same | fieldLoss => exact ⟨rfl, trivial⟩
  | put hdesired hother hsafe =>
      refine ⟨rfl, ⟨hdesired, _, ?_, hother, hsafe⟩, trivial⟩
      exact List.mem_append_right _ List.mem_cons_self

theorem IndexTranscript.justified {verdict : Status}
    (h : IndexTranscript ceiling spec events verdict) :
    Justified (IndexReasons ceiling spec) [] events := by
  cases h with
  | unanswered => exact ⟨rfl, trivial⟩
  | absent => exact ⟨rfl, ⟨rfl, rfl⟩, trivial⟩
  | stopped hsettings => exact ⟨rfl, hsettings.justified _⟩
  | finished hsettings _ hproperties =>
      exact ⟨rfl, justified_append.mpr ⟨hsettings.justified _, hproperties.justified _⟩⟩

theorem SettingsTranscript.writes (h : SettingsTranscript spec events step) :
    writesOf events = [] ∨
      ∃ replicas, writesOf events = [.putIndexReplicas spec.name replicas] := by
  cases h with
  | unreadableModel | unanswered | unreadable | otherShards | sameCounts => exact .inl rfl
  | put => exact .inr ⟨_, rfl⟩

theorem PropertiesTranscript.writes (h : PropertiesTranscript ceiling spec events result) :
    writesOf events = [] ∨
      ∃ properties, writesOf events = [.putIndexProperties spec.name properties] := by
  cases h with
  | noTree | unanswered | noMapping | same | fieldLoss => exact .inl rfl
  | put => exact .inr ⟨_, rfl⟩

inductive IndexWrites (name : String) : List Call → Prop
  | none : IndexWrites name []
  | create (model : String) : IndexWrites name [.createIndex name model]
  | replicas (replicas : UInt32) : IndexWrites name [.putIndexReplicas name replicas]
  | properties (properties : Json) : IndexWrites name [.putIndexProperties name properties]
  | both (replicas : UInt32) (properties : Json) :
      IndexWrites name [.putIndexReplicas name replicas, .putIndexProperties name properties]

theorem IndexTranscript.writes {verdict : Status}
    (h : IndexTranscript ceiling spec events verdict) :
    IndexWrites spec.name (writesOf events) := by
  cases h with
  | unanswered => exact .none
  | absent => exact .create _
  | stopped hsettings =>
      rw [writesOf_cons_of_read rfl]
      rcases hsettings.writes with hnone | ⟨replicas, hput⟩
      · rw [hnone]
        exact .none
      · rw [hput]
        exact .replicas replicas
  | finished hsettings _ hproperties =>
      rw [writesOf_cons_of_read rfl, writesOf_append]
      rcases hsettings.writes with hnone | ⟨replicas, hput⟩ <;>
        rcases hproperties.writes with hnone' | ⟨properties, hput'⟩
      · rw [hnone, hnone']
        exact .none
      · rw [hnone, hput']
        exact .properties properties
      · rw [hput, hnone']
        exact .replicas replicas
      · rw [hput, hput']
        exact .both replicas properties

/-! ## Failures and verdicts -/

/--
A call that succeeded and stops a pass over an index all the same: the counts in
the answer cannot be read, the shards are others, or the mapping would lose a
field.
-/
inductive Stops (ceiling : Nat) (spec : IndexSpec) : Event → Status → Prop
  | unreadable {settings : Json} {e : ModelError}
      (hcurrent : currentCounts settings spec.name = .error e) :
      Stops ceiling spec ⟨.indexSettings spec.name, .ok settings⟩ (Status.retry e.message)
  | otherShards {desired current : Counts} {settings : Json}
      (hdesired : desiredCounts spec = .ok desired)
      (hcurrent : currentCounts settings spec.name = .ok current)
      (hshards : desired.shards ≠ current.shards) :
      Stops ceiling spec ⟨.indexSettings spec.name, .ok settings⟩
        (Status.error (Refusal.shards spec.name current.shards desired.shards).message)
  | fieldLoss {desired current : Json} (hdesired : Model.properties spec.model = some desired)
      (hother : current.sameValue desired = false)
      (hsafe : Compatibility.isSafe ceiling current desired = false) :
      Stops ceiling spec ⟨.indexProperties spec.name, .ok (some current)⟩
        (Status.error (Refusal.fieldLoss current desired).message)

/-- Nothing in a row of calls stops a pass. -/
def GoesOn (ceiling : Nat) (spec : IndexSpec) (events : List Event) : Prop :=
  ∀ event ∈ events, ∀ status, ¬Stops ceiling spec event status

/--
What a pass comes to: its model stops it, or the answer to its last call does,
or else the verdict is that of the last call that had one.
-/
inductive Decides (ceiling : Nat) : DesiredObject → List Event → Status → Prop
  | malformed {object : DesiredObject} {e : ModelError}
      (hshape : Model.checkShape object.kind object.model = .error e) :
      Decides ceiling object [] (Status.error e.message)
  | unreadableModel {spec : IndexSpec} {e : ModelError} (hdesired : desiredCounts spec = .error e) :
      Decides ceiling (.index spec) [⟨.indexExists spec.name, .ok true⟩] (Status.error e.message)
  | stopped {spec : IndexSpec} {past : List Event} {event : Event} {verdict : Status}
      (h : Stops ceiling spec event verdict) :
      Decides ceiling (.index spec) (past ++ [event]) verdict
  | answered {object : DesiredObject} {history : List Event} (hasked : history ≠ [])
      (hgoes : ∀ spec, object = .index spec → GoesOn ceiling spec history) :
      Decides ceiling object history ((history.filterMap Event.verdict?).getLast?.getD inLine)

theorem SettingsTranscript.endsAtFailure {status : Status}
    (h : SettingsTranscript spec events (.stop status)) : EndsAtFailure events status := by
  generalize hstep : SettingsStep.stop status = step at h
  cases h with
  | unreadableModel => exact endsAtFailure_nil _
  | unanswered =>
      obtain rfl := SettingsStep.stop.inj hstep
      exact endsAtFailure_last fun _ => rfl
  | unreadable | otherShards =>
      exact endsAtFailure_last fun hfailed => absurd hfailed (Event.not_failed rfl)
  | sameCounts => cases hstep
  | put =>
      split at hstep
      · cases hstep
      · obtain rfl := SettingsStep.stop.inj hstep
        exact endsAtFailure_cons (Event.not_failed rfl) (endsAtFailure_last fun _ => rfl)

theorem SettingsTranscript.not_failed (h : SettingsTranscript spec events step)
    (hstep : ∀ status, step ≠ .stop status) (hhonest : ∀ event ∈ events, event.Honest) :
    ∀ event ∈ events, ¬event.Failed := by
  cases h with
  | unreadableModel | unanswered | unreadable | otherShards => exact absurd rfl (hstep _)
  | sameCounts => exact List.forall_mem_singleton.mpr (Event.not_failed rfl)
  | put =>
      refine List.forall_mem_cons.mpr ⟨Event.not_failed rfl, List.forall_mem_singleton.mpr ?_⟩
      intro hfailed
      have hstate := Event.state_of_failed (hhonest _ (by simp)) hfailed rfl
      rw [if_neg hstate] at hstep
      exact hstep _ rfl

theorem PropertiesTranscript.endsAtFailure (h : PropertiesTranscript ceiling spec events result)
    (step : SettingsStep) : EndsAtFailure events (finalVerdict step result) := by
  cases h with
  | noTree => exact endsAtFailure_nil _
  | unanswered => exact endsAtFailure_last fun _ => rfl
  | noMapping | same | fieldLoss =>
      exact endsAtFailure_last fun hfailed => absurd hfailed (Event.not_failed rfl)
  | put => exact endsAtFailure_cons (Event.not_failed rfl) (endsAtFailure_last fun _ => rfl)

theorem IndexTranscript.endsAtFailure {verdict : Status}
    (h : IndexTranscript ceiling spec events verdict) (hhonest : ∀ event ∈ events, event.Honest) :
    EndsAtFailure events verdict := by
  cases h with
  | unanswered => exact endsAtFailure_last fun _ => rfl
  | absent => exact endsAtFailure_cons (Event.not_failed rfl) (endsAtFailure_last fun _ => rfl)
  | stopped hsettings => exact endsAtFailure_cons (Event.not_failed rfl) hsettings.endsAtFailure
  | finished hsettings hstep hproperties =>
      refine endsAtFailure_cons (Event.not_failed rfl) (endsAtFailure_append ?_ ?_)
      · refine hsettings.not_failed hstep fun event hevent => hhonest event ?_
        exact List.mem_cons_of_mem _ (List.mem_append_left _ hevent)
      · exact hproperties.endsAtFailure _

theorem goesOn_cons {event : Event} :
    GoesOn ceiling spec (event :: events) ↔
      (∀ status, ¬Stops ceiling spec event status) ∧ GoesOn ceiling spec events :=
  List.forall_mem_cons

theorem goesOn_append {more : List Event} :
    GoesOn ceiling spec (events ++ more) ↔ GoesOn ceiling spec events ∧ GoesOn ceiling spec more :=
  List.forall_mem_append

theorem goesOn_nil : GoesOn ceiling spec [] :=
  nofun

theorem goesOn_singleton {event : Event} (h : ∀ status, ¬Stops ceiling spec event status) :
    GoesOn ceiling spec [event] :=
  goesOn_cons.mpr ⟨h, goesOn_nil⟩

theorem not_stops_of_sameShards {settings : Json} {desired current : Counts}
    (hdesired : desiredCounts spec = .ok desired)
    (hcurrent : currentCounts settings spec.name = .ok current)
    (hshards : desired.shards = current.shards) (status : Status) :
    ¬Stops ceiling spec ⟨.indexSettings spec.name, .ok settings⟩ status := by
  intro hstops
  cases hstops with
  | unreadable hunreadable => cases hcurrent.symm.trans hunreadable
  | otherShards hown hfound hother =>
      obtain rfl := Except.ok.inj (hdesired.symm.trans hown)
      obtain rfl := Except.ok.inj (hcurrent.symm.trans hfound)
      exact hother hshards

theorem SettingsTranscript.goesOn (h : SettingsTranscript spec events step)
    (hstep : ∀ status, step ≠ .stop status) : GoesOn ceiling spec events := by
  cases h with
  | unreadableModel | unanswered | unreadable | otherShards => exact absurd rfl (hstep _)
  | sameCounts hdesired hcurrent =>
      exact goesOn_singleton (not_stops_of_sameShards hdesired hcurrent rfl)
  | put hdesired hcurrent hshards =>
      exact goesOn_cons.mpr
        ⟨not_stops_of_sameShards hdesired hcurrent hshards, goesOn_singleton nofun⟩

theorem decides_of_goesOn (hasked : events ≠ []) (hgoes : GoesOn ceiling spec events) :
    Decides ceiling (.index spec) events
      ((events.filterMap Event.verdict?).getLast?.getD inLine) :=
  .answered hasked fun _ heq => DesiredObject.index.inj heq ▸ hgoes

/-- The step on the settings stops a pass for one of the reasons there are. -/
theorem SettingsTranscript.decides {status : Status}
    (h : SettingsTranscript spec events (.stop status)) :
    Decides ceiling (.index spec) (⟨.indexExists spec.name, .ok true⟩ :: events) status := by
  generalize hstep : SettingsStep.stop status = step at h
  cases h with
  | unreadableModel hdesired =>
      obtain rfl := SettingsStep.stop.inj hstep
      exact .unreadableModel hdesired
  | unanswered =>
      obtain rfl := SettingsStep.stop.inj hstep
      exact decides_of_goesOn (List.cons_ne_nil _ _)
        (goesOn_cons.mpr ⟨nofun, goesOn_singleton nofun⟩)
  | unreadable hcurrent =>
      obtain rfl := SettingsStep.stop.inj hstep
      change Decides ceiling (.index spec) ([_] ++ [_]) _
      exact .stopped (.unreadable hcurrent)
  | otherShards hdesired hcurrent hshards =>
      obtain rfl := SettingsStep.stop.inj hstep
      change Decides ceiling (.index spec) ([_] ++ [_]) _
      exact .stopped (.otherShards hdesired hcurrent hshards)
  | sameCounts => cases hstep
  | put hdesired hcurrent hshards =>
      split at hstep
      · cases hstep
      · obtain rfl := SettingsStep.stop.inj hstep
        refine decides_of_goesOn (List.cons_ne_nil _ _)
          (goesOn_cons.mpr ⟨nofun, goesOn_cons.mpr ⟨?_, goesOn_singleton nofun⟩⟩)
        exact not_stops_of_sameShards hdesired hcurrent hshards

theorem SettingsTranscript.verdicts (h : SettingsTranscript spec events step)
    (hstep : ∀ status, step ≠ .stop status) :
    (events.filterMap Event.verdict?).getLast?.getD inLine = finalVerdict step (.ok none) := by
  cases h with
  | unreadableModel | unanswered | unreadable | otherShards => exact absurd rfl (hstep _)
  | sameCounts => rfl
  | put =>
      split at hstep
      next hstate =>
        rw [if_pos hstate]
        rfl
      next => exact absurd rfl (hstep _)

/-- The step on the mapping leaves the verdict as it is, or its last call gives it. -/
theorem PropertiesTranscript.decides (h : PropertiesTranscript ceiling spec events result)
    (step : SettingsStep) :
    (GoesOn ceiling spec events ∧
        (events.filterMap Event.verdict? = [] ∧ result = .ok none ∨
          events.filterMap Event.verdict? = [finalVerdict step result])) ∨
      ∃ event, events = [event] ∧ Stops ceiling spec event (finalVerdict step result) := by
  cases h with
  | noTree => exact .inl ⟨goesOn_nil, .inl ⟨rfl, rfl⟩⟩
  | unanswered => exact .inl ⟨goesOn_singleton nofun, .inr rfl⟩
  | noMapping => exact .inl ⟨goesOn_singleton nofun, .inl ⟨rfl, rfl⟩⟩
  | same hdesired hsame =>
      refine .inl ⟨goesOn_singleton fun status hstops => ?_, .inl ⟨rfl, rfl⟩⟩
      cases hstops with
      | fieldLoss hown hother =>
          obtain rfl := Option.some.inj (hdesired.symm.trans hown)
          exact Bool.false_ne_true (hother.symm.trans hsame)
  | fieldLoss hdesired hother hsafe => exact .inr ⟨_, rfl, .fieldLoss hdesired hother hsafe⟩
  | put hdesired hother hsafe =>
      refine .inl ⟨goesOn_cons.mpr ⟨fun status hstops => ?_, goesOn_singleton nofun⟩, .inr rfl⟩
      cases hstops with
      | fieldLoss hown _ hloses =>
          obtain rfl := Option.some.inj (hdesired.symm.trans hown)
          exact Bool.false_ne_true (hloses.symm.trans hsafe)

theorem IndexTranscript.decides {verdict : Status}
    (h : IndexTranscript ceiling spec events verdict) :
    Decides ceiling (.index spec) events verdict := by
  cases h with
  | unanswered => exact decides_of_goesOn (List.cons_ne_nil _ _) (goesOn_singleton nofun)
  | absent =>
      exact decides_of_goesOn (List.cons_ne_nil _ _)
        (goesOn_cons.mpr ⟨nofun, goesOn_singleton nofun⟩)
  | stopped hsettings => exact hsettings.decides
  | @finished events more step result hsettings hstep hproperties =>
      rcases hproperties.decides step with ⟨hmore, hverdicts⟩ | ⟨event, rfl, hstops⟩
      · have hgoes := goesOn_append.mpr ⟨hsettings.goesOn hstep, hmore⟩
        have hdecides := decides_of_goesOn (List.cons_ne_nil ⟨.indexExists spec.name, .ok true⟩ _)
          (goesOn_cons.mpr ⟨nofun, hgoes⟩)
        have hrow : (⟨.indexExists spec.name, .ok true⟩ :: (events ++ more)).filterMap
            Event.verdict? = events.filterMap Event.verdict? ++ more.filterMap Event.verdict? :=
          List.filterMap_append
        rw [hrow] at hdecides
        rcases hverdicts with ⟨hnone, rfl⟩ | hlast
        · rwa [hnone, List.append_nil, hsettings.verdicts hstep] at hdecides
        · rwa [hlast, List.getLast?_concat, Option.getD_some] at hdecides
      · rw [← List.cons_append]
        exact .stopped hstops

/-! ## A whole pass -/

structure IndexDiscipline (ceiling : Nat) (spec : IndexSpec) (history : List Event) : Prop where
  begins : Model.checkShape .index spec.model = .ok () →
    ∃ found later, history = ⟨.indexExists spec.name, found⟩ :: later
  writes : IndexWrites spec.name (writesOf history)
  reasons : ∀ before event after, history = before ++ event :: after →
    IndexReasons ceiling spec before event.call
  created : ⟨.indexExists spec.name, .ok false⟩ ∈ history →
    history.map Event.call = [.indexExists spec.name, .createIndex spec.name spec.model]

theorem SettingsTranscript.methods (h : SettingsTranscript spec events step) :
    ∀ event ∈ events, event.call.method ≠ .indexExists := by
  cases h <;> simp [Call.method]

theorem PropertiesTranscript.methods (h : PropertiesTranscript ceiling spec events result) :
    ∀ event ∈ events, event.call.method ≠ .indexExists := by
  cases h <;> simp [Call.method]

theorem IndexTranscript.created {verdict : Status}
    (h : IndexTranscript ceiling spec events verdict)
    (habsent : ⟨.indexExists spec.name, .ok false⟩ ∈ events) :
    events.map Event.call = [.indexExists spec.name, .createIndex spec.name spec.model] := by
  cases h with
  | unanswered => simp at habsent
  | absent => rfl
  | stopped hsettings =>
      rcases List.mem_cons.mp habsent with hfirst | hlater
      · simp at hfirst
      · exact absurd rfl (hsettings.methods _ hlater)
  | finished hsettings _ hproperties =>
      rcases List.mem_cons.mp habsent with hfirst | hlater
      · simp at hfirst
      · rcases List.mem_append.mp hlater with hlater | hlater
        · exact absurd rfl (hsettings.methods _ hlater)
        · exact absurd rfl (hproperties.methods _ hlater)

/-- A pass over an index begins with the question whether it exists. -/
theorem IndexTranscript.begins {verdict : Status}
    (h : IndexTranscript ceiling spec events verdict) :
    ∃ found later, events = ⟨.indexExists spec.name, found⟩ :: later := by
  cases h <;> exact ⟨_, _, rfl⟩

theorem IndexTranscript.disciplined {verdict : Status}
    (h : IndexTranscript ceiling spec events verdict) : IndexDiscipline ceiling spec events :=
  ⟨fun _ => h.begins, h.writes, fun _ _ _ heq => h.justified.reason heq, h.created⟩

/-- How a pass over an object deals with a cluster, and what it makes of the answers. -/
structure Discipline (ceiling : Nat) (object : DesiredObject) (history : List Event)
    (verdict : Status) : Prop where
  malformed : ∀ e, Model.checkShape object.kind object.model = .error e →
    history = [] ∧ verdict = Status.error e.message
  own : ∀ event ∈ history, event.call.target? = some object.name
  index : ∀ spec, object = .index spec → IndexDiscipline ceiling spec history
  transcript : ∀ spec, object = .index spec → Model.checkShape .index spec.model = .ok () →
    IndexTranscript ceiling spec history verdict
  template : ∀ spec, object = .template spec → Model.checkShape .template spec.model = .ok () →
    (∃ e, history = [⟨.templateExists spec.name, .error e⟩]) ∨
      ∃ found outcome, history = [⟨.templateExists spec.name, .ok found⟩,
        ⟨.putTemplate spec.name spec.model spec.order, outcome⟩]
  pipeline : ∀ spec, object = .pipeline spec → Model.checkShape .pipeline spec.model = .ok () →
    ∃ outcome, history = [⟨.putPipeline spec.name spec.model, outcome⟩]
  failure : EndsAtFailure history verdict
  decided : Decides ceiling object history verdict
  success : verdict.state = .created → ∀ event ∈ history, ¬event.Failed

theorem success_of_endsAtFailure {history : List Event} {verdict : Status}
    (hhonest : ∀ event ∈ history, event.Honest) (h : EndsAtFailure history verdict)
    (hcreated : verdict.state = .created) : ∀ event ∈ history, ¬event.Failed := by
  intro event hevent hfailed
  obtain ⟨before, after, hhistory⟩ := List.append_of_mem hevent
  obtain ⟨-, hverdict⟩ := h before event after hhistory hfailed
  exact Event.state_of_failed (hhonest event hevent) hfailed hverdict hcreated

section

open Program (history_ask history_bind history_pure run_ask run_bind run_pure)

variable {World : Type} (answer : (c : Call) → World → Except RemoteError c.Answer × World)

theorem template_history (spec : TemplateSpec) (world : World) :
    let history := (convergeTemplate spec).history answer world
    let verdict := ((convergeTemplate spec).run answer world).1
    (∃ e, history = [⟨.templateExists spec.name, .error e⟩] ∧ verdict = e.toStatus) ∨
      ∃ found outcome, history = [⟨.templateExists spec.name, .ok found⟩,
        ⟨.putTemplate spec.name spec.model spec.order, outcome⟩] ∧
        verdict = Outcome.toStatus outcome := by
  unfold convergeTemplate
  rw [history_bind, run_bind, history_ask, run_ask]
  cases (answer (.templateExists spec.name) world).1 with
  | error e => exact .inl ⟨e, rfl, rfl⟩
  | ok found => exact .inr ⟨found, _, rfl, rfl⟩

theorem endsAtFailure_template (spec : TemplateSpec) (world : World) :
    EndsAtFailure ((convergeTemplate spec).history answer world)
      ((convergeTemplate spec).run answer world).1 := by
  have hhistory := template_history answer spec world
  rcases hhistory with ⟨e, hrow, hverdict⟩ | ⟨found, outcome, hrow, hverdict⟩
  · rw [hrow, hverdict]
    exact endsAtFailure_last fun _ => rfl
  · rw [hrow, hverdict]
    exact endsAtFailure_cons (Event.not_failed rfl) (endsAtFailure_last fun _ => rfl)

theorem decides_template (ceiling : Nat) (spec : TemplateSpec) (world : World) :
    Decides ceiling (.template spec) ((convergeTemplate spec).history answer world)
      ((convergeTemplate spec).run answer world).1 := by
  have hhistory := template_history answer spec world
  rcases hhistory with ⟨e, hrow, hverdict⟩ | ⟨found, outcome, hrow, hverdict⟩
  · rw [hrow, hverdict]
    exact .answered (List.cons_ne_nil _ _) nofun
  · rw [hrow, hverdict]
    exact .answered (List.cons_ne_nil _ _) nofun

theorem honest_of_mem_history {α : Type} {p : Program α}
    (hhonest : ∀ c world code body, (answer c world).1 = .error (.status code body) →
      Status.isSuccess code = false)
    {world : World} {event : Event} (hevent : event ∈ p.history answer world) : event.Honest := by
  induction p generalizing world with
  | done result => cases hevent
  | call c next ih =>
      rcases List.mem_cons.mp hevent with rfl | hlater
      · exact fun code body h => hhonest c world code body h
      · exact ih _ hlater

theorem own_of_asks (object : DesiredObject) {p : Program Status}
    (hp : p.Asks (·.place? = some object.place)) (world : World) :
    ∀ event ∈ p.history answer world, event.call.target? = some object.name := by
  intro event hevent
  have hplace := Program.asks_of_mem_history hp hevent
  rw [Call.target?_eq, hplace]
  rfl

theorem discipline_of_malformed {object : DesiredObject} {e : ModelError}
    (hshape : Model.checkShape object.kind object.model = .error e) (ceiling : Nat) :
    Discipline ceiling object [] (Status.error e.message) where
  malformed other hother := by
    rw [Except.error.inj (hshape.symm.trans hother)]
    exact ⟨rfl, rfl⟩
  own := nofun
  index spec hspec := by
    subst hspec
    exact ⟨fun hok => (nomatch hshape.symm.trans hok), .none,
      fun before event after h => by simp at h, nofun⟩
  transcript spec hspec hok := by
    subst hspec
    cases hshape.symm.trans hok
  template spec hspec hok := by
    subst hspec
    cases hshape.symm.trans hok
  pipeline spec hspec hok := by
    subst hspec
    cases hshape.symm.trans hok
  failure := endsAtFailure_nil _
  decided := .malformed hshape
  success _ := nofun

variable (hhonest : ∀ c world code body, (answer c world).1 = .error (.status code body) →
  Status.isSuccess code = false)

include hhonest

theorem discipline_index (ceiling : Nat) {spec : IndexSpec}
    (hshape : Model.checkShape .index spec.model = .ok ()) (world : World) :
    Discipline ceiling (.index spec) ((convergeIndex ceiling spec).history answer world)
      ((convergeIndex ceiling spec).run answer world).1 := by
  have hanswers : ∀ event ∈ (convergeIndex ceiling spec).history answer world, event.Honest :=
    fun event hevent => honest_of_mem_history answer hhonest hevent
  have htranscript := indexTranscript answer ceiling spec world
  have hfailure := htranscript.endsAtFailure hanswers
  exact {
    malformed := fun e he => by cases hshape.symm.trans he
    own := own_of_asks answer (.index spec) (asks_convergeIndex ceiling spec) world
    index := fun _ heq => DesiredObject.index.inj heq ▸ htranscript.disciplined
    transcript := fun _ heq _ => DesiredObject.index.inj heq ▸ htranscript
    template := nofun
    pipeline := nofun
    failure := hfailure
    decided := htranscript.decides
    success := success_of_endsAtFailure hanswers hfailure }

theorem discipline_template (ceiling : Nat) {spec : TemplateSpec}
    (hshape : Model.checkShape .template spec.model = .ok ()) (world : World) :
    Discipline ceiling (.template spec) ((convergeTemplate spec).history answer world)
      ((convergeTemplate spec).run answer world).1 := by
  have hanswers : ∀ event ∈ (convergeTemplate spec).history answer world, event.Honest :=
    fun event hevent => honest_of_mem_history answer hhonest hevent
  have hfailure := endsAtFailure_template answer spec world
  exact {
    malformed := fun e he => by cases hshape.symm.trans he
    own := own_of_asks answer (.template spec) (asks_convergeTemplate spec) world
    index := nofun
    transcript := nofun
    template := fun other heq _ => by
      obtain rfl := DesiredObject.template.inj heq
      rcases template_history answer spec world with ⟨e, hrow, -⟩ | ⟨found, outcome, hrow, -⟩
      · exact .inl ⟨e, hrow⟩
      · exact .inr ⟨found, outcome, hrow⟩
    pipeline := nofun
    failure := hfailure
    decided := decides_template answer ceiling spec world
    success := success_of_endsAtFailure hanswers hfailure }

theorem discipline_pipeline (ceiling : Nat) {spec : PipelineSpec}
    (hshape : Model.checkShape .pipeline spec.model = .ok ()) (world : World) :
    Discipline ceiling (.pipeline spec) ((convergePipeline spec).history answer world)
      ((convergePipeline spec).run answer world).1 := by
  have hanswers : ∀ event ∈ (convergePipeline spec).history answer world, event.Honest :=
    fun event hevent => honest_of_mem_history answer hhonest hevent
  have hfailure : EndsAtFailure ((convergePipeline spec).history answer world)
      ((convergePipeline spec).run answer world).1 := endsAtFailure_last fun _ => rfl
  exact {
    malformed := fun e he => by cases hshape.symm.trans he
    own := own_of_asks answer (.pipeline spec) (asks_convergePipeline spec) world
    index := nofun
    transcript := nofun
    template := nofun
    pipeline := fun other heq _ => by
      obtain rfl := DesiredObject.pipeline.inj heq
      exact ⟨_, rfl⟩
    failure := hfailure
    decided := .answered (List.cons_ne_nil _ _) nofun
    success := success_of_endsAtFailure hanswers hfailure }

/--
Whatever a cluster answers, as long as no code of success comes as a failure, a
pass asks in a disciplined way and gives the verdict that its answers call for.
-/
theorem converge_disciplined (ceiling : Nat) (object : DesiredObject) (world : World) :
    Discipline ceiling object ((converge ceiling object).history answer world)
      ((converge ceiling object).run answer world).1 := by
  unfold converge
  cases hshape : Model.checkShape object.kind object.model with
  | error e => exact discipline_of_malformed hshape ceiling
  | ok =>
      cases object with
      | index spec => exact discipline_index answer hhonest ceiling hshape world
      | template spec => exact discipline_template answer hhonest ceiling hshape world
      | pipeline spec => exact discipline_pipeline answer hhonest ceiling hshape world

end

/-- A gateway that loses its connection whenever a mapping is read. -/
def losingMappings : (c : Call) → Unit → Except RemoteError c.Answer × Unit
  | .ping, _ => (.ok (), ())
  | .indexExists _, _ | .templateExists _, _ => (.ok true, ())
  | .indexSettings name, _ => (.ok (Cluster.settingsDocument name ⟨3, 1⟩), ())
  | .indexProperties _, _ => (.error (.transport "connection reset"), ())
  | .putIndexReplicas .., _ | .putIndexProperties .., _ | .createIndex .., _ | .deleteIndex _, _
  | .putTemplate .., _ | .deleteTemplate _, _ | .putPipeline .., _ | .deletePipeline _, _ =>
      (.ok ⟨200, "done"⟩, ())

def mappedOrders : DesiredObject :=
  .index ⟨"orders", "main", ⟨3, 2⟩,
    "\x7b\"mappings\":\x7b\"properties\":\x7b\"id\":\x7b\"type\":\"keyword\"\x7d\x7d\x7d\x7d"⟩

/-- New replicas are accepted before the mapping cannot be read: the pass ends in `retry`. -/
theorem disciplined_without_mapping :
    (∀ c world code body, (losingMappings c world).1 = .error (.status code body) →
      Status.isSuccess code = false) ∧
      writesOf ((converge 64 mappedOrders).history losingMappings ()) =
        [.putIndexReplicas "orders" 2] ∧
      ((converge 64 mappedOrders).run losingMappings ()).1.state = .retry ∧
      Discipline 64 mappedOrders ((converge 64 mappedOrders).history losingMappings ())
        ((converge 64 mappedOrders).run losingMappings ()).1 := by
  have hhonest : ∀ c world code body, (losingMappings c world).1 = .error (.status code body) →
      Status.isSuccess code = false := by
    intro c world code body h
    cases c <;> cases h
  exact ⟨hhonest, by decide +kernel, by decide +kernel,
    converge_disciplined losingMappings hhonest 64 mappedOrders ()⟩

end Convergence

end SchemaKeeper
