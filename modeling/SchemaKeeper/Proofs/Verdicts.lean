import SchemaKeeper.Proofs.Reconciliation

/-!
# Verdicts of single passes

A pass that converges comes to a verdict: there is no connection, the cluster is
not reached, or the calls made there had an outcome.  All verdicts are consistent
with the code they rest on, whatever a cluster answers.  A verdict is weighed
against the status on record, and what is on record then agrees with it.
-/

namespace SchemaKeeper

/-! ## Codes and states -/

namespace Status

/-- A code decides the state, and without a code nothing is known to be created. -/
structure Consistent (status : Status) : Prop where
  coded : ∀ code, status.code = some code → status.state = stateOf code
  uncoded : status.code = none → status.state ≠ .created

theorem consistent_classify (code : UInt16) (message : String) :
    (classify code message).Consistent where
  coded := by
    rintro _ ⟨⟩
    rfl
  uncoded := nofun

theorem consistent_retry (message : String) : (retry message).Consistent :=
  ⟨nofun, nofun⟩

theorem consistent_error (message : String) : (error message).Consistent :=
  ⟨nofun, nofun⟩

end Status

theorem RemoteError.consistent_toStatus (e : RemoteError) : e.toStatus.Consistent := by
  cases e with
  | status code body => exact Status.consistent_classify code body
  | transport | timeout | decode => exact Status.consistent_retry _

theorem Outcome.consistent_toStatus (outcome : Outcome) : (Outcome.toStatus outcome).Consistent := by
  cases outcome with
  | ok response => exact Status.consistent_classify _ _
  | error e => exact e.consistent_toStatus

/-- A ping that fails has its message rewritten and nothing else. -/
theorem ConnectError.consistent_toStatus (e : ConnectError) : e.toStatus.Consistent := by
  cases e with
  | unreachable reason => exact ⟨reason.consistent_toStatus.coded, reason.consistent_toStatus.uncoded⟩
  | connection | client => exact Status.consistent_error _

/-! ## Convergence -/

namespace Convergence

open Program

theorem consistent_inLine : inLine.Consistent where
  coded := by
    rintro _ ⟨⟩
    decide +kernel
  uncoded := nofun

def SettingsStep.Consistent : SettingsStep → Prop
  | .unchanged => True
  | .updated status | .stop status => status.Consistent

theorem consistent_convergeSettings (spec : IndexSpec) :
    (convergeSettings spec).Returns SettingsStep.Consistent := by
  unfold convergeSettings
  split
  · exact Status.consistent_error _
  refine returns_ask_bind.mpr fun found => ?_
  split
  next e => exact e.consistent_toStatus
  split
  · exact Status.consistent_retry _
  split
  · exact Status.consistent_error _
  split
  · exact trivial
  refine returns_ask_bind.mpr fun outcome => ?_
  have hstatus := Outcome.consistent_toStatus outcome
  dsimp only
  split
  · exact hstatus
  · exact hstatus

def PropertiesConsistent : Except Status (Option Status) → Prop
  | .ok none => True
  | .ok (some status) | .error status => status.Consistent

theorem consistent_convergeProperties (ceiling : Nat) (spec : IndexSpec) :
    (convergeProperties ceiling spec).Returns PropertiesConsistent := by
  unfold convergeProperties
  split
  · exact trivial
  refine returns_ask_bind.mpr fun found => ?_
  split
  next e => exact e.consistent_toStatus
  · exact trivial
  split
  · exact trivial
  split
  · exact Status.consistent_error _
  exact returns_ask_bind.mpr fun outcome => Outcome.consistent_toStatus outcome

theorem consistent_getD {status : Option Status} {other : Status}
    (h : PropertiesConsistent (.ok status)) (hother : other.Consistent) :
    (status.getD other).Consistent := by
  cases status with
  | none => exact hother
  | some status => exact h

theorem consistent_convergeIndex (ceiling : Nat) (spec : IndexSpec) :
    (convergeIndex ceiling spec).Returns Status.Consistent := by
  refine returns_ask_bind.mpr fun found => ?_
  split
  next e => exact e.consistent_toStatus
  · exact returns_ask_bind.mpr fun outcome => Outcome.consistent_toStatus outcome
  refine returns_bind (consistent_convergeSettings spec) fun step hstep => ?_
  have hproperties := consistent_convergeProperties ceiling spec
  split
  · exact hstep
  · refine returns_bind hproperties fun result hresult => ?_
    split
    · exact hresult
    · exact consistent_getD hresult consistent_inLine
  · refine returns_bind hproperties fun result hresult => ?_
    split
    · exact hresult
    · exact consistent_getD hresult hstep

theorem consistent_convergeTemplate (spec : TemplateSpec) :
    (convergeTemplate spec).Returns Status.Consistent := by
  refine returns_ask_bind.mpr fun found => ?_
  split
  next e => exact e.consistent_toStatus
  · exact returns_ask_bind.mpr fun outcome => Outcome.consistent_toStatus outcome

theorem consistent_convergePipeline (spec : PipelineSpec) :
    (convergePipeline spec).Returns Status.Consistent :=
  returns_ask_bind.mpr fun outcome => Outcome.consistent_toStatus outcome

theorem consistent_converge (ceiling : Nat) (object : DesiredObject) :
    (converge ceiling object).Returns Status.Consistent := by
  unfold converge
  split
  · exact Status.consistent_error _
  · cases object with
    | index spec => exact consistent_convergeIndex ceiling spec
    | template spec => exact consistent_convergeTemplate spec
    | pipeline spec => exact consistent_convergePipeline spec

end Convergence

/-! ## Passes -/

namespace ReconcileRequest

variable {World : Type}

/-- What a pass that begins in a world finds out about its object; only convergence does. -/
def verdict? (runtime : Runtime) (connector : Connector World) (request : ReconcileRequest)
    (world : World) : Option Status :=
  match request.lifecycle.decide, request.connection with
  | .converge, .error e => some (Status.error e.message)
  | .converge, .ok connection =>
      match connector.connect connection world with
      | (.error e, _) => some e.toStatus
      | (.ok gateway, world) =>
          some ((Convergence.converge runtime.maxMappingDepth.toNat request.object).run
            (connector.answer gateway) world).1
  | _, _ => none

variable {runtime : Runtime} {connector : Connector World} {request : ReconcileRequest}
  {world : World}

theorem consistent_verdict? {verdict : Status}
    (h : request.verdict? runtime connector world = some verdict) : verdict.Consistent := by
  unfold verdict? at h
  split at h
  · cases h
    exact Status.consistent_error _
  · split at h
    · cases h
      exact ConnectError.consistent_toStatus _
    · cases h
      exact Program.returns_run (Convergence.consistent_converge ..) _
  · cases h

theorem verdict?_eq_none (h : request.lifecycle.decide ≠ .converge) :
    request.verdict? runtime connector world = none := by
  unfold verdict?
  split <;> first | contradiction | rfl

theorem exists_verdict? (runtime : Runtime) (connector : Connector World) (world : World)
    (h : request.lifecycle.decide = .converge) :
    ∃ verdict, request.verdict? runtime connector world = some verdict := by
  unfold verdict?
  rw [h]
  cases request.connection with
  | error e => exact ⟨_, rfl⟩
  | ok connection =>
      dsimp only
      split <;> exact ⟨_, rfl⟩

theorem decide_of_verdict? {verdict : Status}
    (h : request.verdict? runtime connector world = some verdict) :
    request.lifecycle.decide = .converge := by
  by_contra hdecide
  rw [verdict?_eq_none hdecide] at h
  cases h

/-- A pass that converges weighs its verdict against the status on record. -/
theorem reconcile_of_verdict {verdict : Status}
    (h : request.verdict? runtime connector world = some verdict) :
    (reconcile runtime connector request world).1 = .ofVerdict verdict request.prior := by
  unfold verdict? at h
  unfold reconcile pass
  split at h
  next hdecide hconnection =>
    cases h
    rw [hdecide, hconnection]
    rfl
  next connection hdecide hconnection =>
    rw [hdecide, hconnection]
    simp only [Pass.run]
    obtain ⟨answer, world', hconnect⟩ :
        ∃ answer world', connector.connect connection world = (answer, world') := ⟨_, _, rfl⟩
    rw [hconnect] at h ⊢
    cases answer with
    | error =>
        cases h
        rfl
    | ok gateway =>
        cases h
        simp only [Program.run_bind]
        rfl
  next => cases h

/-- Any other pass has nothing to say about the status. -/
theorem reconcile_of_no_verdict (h : request.lifecycle.decide ≠ .converge) :
    (reconcile runtime connector request world).1 =
      .onlyMarker request.lifecycle.decide.action := by
  cases hdecide : request.lifecycle.decide with
  | converge => contradiction
  | finalize deleteInCluster => exact reconcile_finalize hdecide
  | register | released =>
      unfold reconcile pass
      rw [hdecide]
      rfl

end ReconcileRequest

/-! ## Verdicts on record -/

/-- What a verdict leaves on record. -/
def Status.over (verdict : Status) (prior : Option Status) : Status :=
  if verdict.supersedes prior then verdict else prior.getD verdict

namespace Status

variable {verdict : Status} {prior : Option Status}

theorem exists_of_not_supersedes (h : ¬verdict.supersedes prior) :
    ∃ recorded, prior = some recorded ∧ recorded.state = verdict.state ∧
      (recorded.state = .created ∨ recorded.message = verdict.message) := by
  cases prior with
  | none => exact absurd rfl h
  | some recorded =>
      refine ⟨recorded, rfl, ?_⟩
      simp only [supersedes, Bool.or_eq_true, Bool.and_eq_true, bne_iff_ne, not_or, not_not,
        not_and_or] at h
      exact h

theorem state_over (verdict : Status) (prior : Option Status) :
    (verdict.over prior).state = verdict.state := by
  unfold Status.over
  split
  next => rfl
  next h =>
    obtain ⟨recorded, rfl, hstate, -⟩ := exists_of_not_supersedes h
    exact hstate

/-- Only an object that stays created keeps the message it had. -/
theorem message_over (h : verdict.state ≠ .created ∨ prior.map state ≠ some verdict.state) :
    (verdict.over prior).message = verdict.message := by
  unfold Status.over
  split
  next => rfl
  next hkept =>
    obtain ⟨recorded, rfl, hstate, hmessage⟩ := exists_of_not_supersedes hkept
    have hcreated : recorded.state ≠ .created := by
      rcases h with h | h
      · rwa [hstate]
      · exact absurd (congrArg some hstate) h
    exact hmessage.resolve_left hcreated

theorem consistent_over (hverdict : verdict.Consistent)
    (hprior : ∀ recorded, prior = some recorded → recorded.Consistent) :
    (verdict.over prior).Consistent := by
  unfold Status.over
  split
  next => exact hverdict
  next hkept =>
    obtain ⟨recorded, rfl, -, -⟩ := exists_of_not_supersedes hkept
    exact hprior recorded rfl

theorem some_over (verdict : Status) (prior : Option Status) :
    some (verdict.over prior) = if verdict.supersedes prior then some verdict else prior := by
  unfold Status.over
  split
  next => rfl
  next hkept =>
    obtain ⟨recorded, rfl, -, -⟩ := exists_of_not_supersedes hkept
    rfl

theorem status_ofVerdict (verdict : Status) (prior : Option Status) :
    ((ReconcileOutcome.ofVerdict verdict prior).status <|> prior) = some (verdict.over prior) := by
  rw [some_over]
  simp only [ReconcileOutcome.ofVerdict]
  split <;> rfl

end Status

end SchemaKeeper
