import SchemaKeeper.Proofs.Model
import SchemaKeeper.Rounds

/-!
# What admission promises

An entry is admitted exactly when its model can be defaulted and nothing speaks
against the defaulted object, neither on its own nor against the entry it
follows.
-/

namespace SchemaKeeper

namespace DesiredObject

variable (object : DesiredObject) (model : String)

@[simp] theorem kind_withModel : (object.withModel model).kind = object.kind := by
  cases object <;> rfl

@[simp] theorem name_withModel : (object.withModel model).name = object.name := by
  cases object <;> rfl

@[simp] theorem counts?_withModel : (object.withModel model).counts? = object.counts? := by
  cases object <;> rfl

@[simp] theorem model_withModel : (object.withModel model).model = model := by
  cases object <;> rfl

/-- The counts of an object are those that its model tells. -/
def TellsCounts : Prop :=
  ∀ counts, object.counts? = some counts →
    Model.shards object.model = .ok counts.shards ∧
      Model.replicas object.model = .ok counts.replicas

end DesiredObject

namespace Admission

theorem createComplaints_eq_nil_of_update {old new : DesiredObject}
    {oldConnection newConnection : Option Connection}
    (h : updateComplaints old new oldConnection newConnection = []) : createComplaints new = [] := by
  simp only [updateComplaints, List.append_eq_nil_iff] at h
  exact h.1.1.1

/-- An object that follows another one stays on its cluster when both clusters are known. -/
theorem sameEndpoint_of_update {old new : DesiredObject} {c d : Connection}
    (h : updateComplaints old new (some c) (some d) = []) : c.sameEndpoint d = true := by
  simp only [updateComplaints, List.append_eq_nil_iff] at h
  have hmoved := h.2
  unfold connectionComplaint at hmoved
  split at hmoved
  next hsame => exact hsame
  next => simp at hmoved

/-- The object at hand changes if there is a new model for it, and is left alone if not. -/
theorem defaultInPlace_run (object : DesiredObject) :
    defaultInPlace.run.run object =
      match defaultedModel object with
      | .ok model => (.ok (), object.withModel model)
      | .error reason => (.error reason, object) := by
  have hrun : defaultInPlace.run.run object =
      (ExceptT.mk (pure (defaultedModel object)) >>= fun model =>
        (modify (·.withModel model) :
          ExceptT ModelError (StateM DesiredObject) Unit)).run.run object := rfl
  rw [hrun]
  cases defaultedModel object <;> rfl

theorem defaultModel_eq (object : DesiredObject) :
    defaultModel object = (defaultedModel object).map object.withModel := by
  rw [defaultModel, defaultInPlace_run]
  cases defaultedModel object <;> rfl

/-- Defaulting changes nothing but the model, into which it writes the counts. -/
theorem defaultModel_eq_ok {object wanted : DesiredObject}
    (h : defaultModel object = .ok wanted) :
    wanted = object.withModel wanted.model ∧
      ∀ counts, object.counts? = some counts →
        Model.mergeCounts object.model counts = .ok wanted.model := by
  rw [defaultModel_eq] at h
  cases hmodel : defaultedModel object with
  | error e =>
      rw [hmodel] at h
      cases h
  | ok model =>
      rw [hmodel] at h
      obtain rfl := Except.ok.inj h
      refine ⟨by simp, fun counts hcounts => ?_⟩
      rw [defaultedModel, hcounts] at hmodel
      simpa using hmodel

/-- A defaulted index has its own counts in its model and differs in nothing else. -/
theorem defaultModel_eq_index {object : DesiredObject} {spec : IndexSpec}
    (h : defaultModel object = .ok (.index spec)) :
    ∃ own, object = .index own ∧ Model.mergeCounts own.model own.counts = .ok spec.model ∧
      spec = { own with model := spec.model } := by
  obtain ⟨hwanted, hmerge⟩ := defaultModel_eq_ok h
  cases object with
  | index own =>
      exact ⟨own, rfl, hmerge own.counts rfl, DesiredObject.index.inj hwanted⟩
  | template | pipeline => cases hwanted

theorem checkShape_of_create {object : DesiredObject} (h : createComplaints object = []) :
    Model.checkShape object.kind object.model = .ok () := by
  simp only [createComplaints, List.append_eq_nil_iff] at h
  have hshape := h.2
  split at hshape
  next hok => exact hok
  next => simp at hshape

end Admission

namespace Rounds

def complaints (object : DesiredObject) (connection : Option Connection)
    (stored : Option ObjectRecord) : List Complaint :=
  match stored.bind (·.applied) with
  | some previous =>
      Admission.updateComplaints previous.object object (stored.bind (·.endpoint)) connection
  | none => Admission.createComplaints object

/-- Admission in one look: the defaulted model first, then what speaks against the object. -/
theorem admitEntry_eq (entry : Entry) (connection : Option Connection)
    (stored : Option ObjectRecord) :
    admitEntry entry connection stored =
      match Admission.defaultModel entry.object with
      | .error reason => .error (.noDefault reason)
      | .ok object =>
          match complaints object connection stored with
          | [] => .ok { entry with object }
          | causes => .error (.rejected ⟨object.kind, object.name, causes⟩) := by
  unfold admitEntry complaints
  cases Admission.defaultModel entry.object with
  | error reason => rfl
  | ok object =>
      cases stored.bind (·.applied) with
      | none =>
          simp only [Except.mapError, bind, Except.bind, Admission.validateCreate]
          cases Admission.createComplaints object <;> rfl
      | some previous =>
          simp only [Except.mapError, bind, Except.bind, Admission.validateUpdate]
          cases Admission.updateComplaints previous.object object (stored.bind (·.endpoint))
            connection <;> rfl

theorem admitEntry_eq_ok_iff {entry admitted : Entry} {connection : Option Connection}
    {stored : Option ObjectRecord} :
    admitEntry entry connection stored = .ok admitted ↔
      Admission.defaultModel entry.object = .ok admitted.object ∧
        admitted.deleteInCluster = entry.deleteInCluster ∧
        complaints admitted.object connection stored = [] := by
  obtain ⟨wanted, flag⟩ := admitted
  rw [admitEntry_eq]
  cases Admission.defaultModel entry.object with
  | error reason => simp
  | ok object =>
      simp only [Except.ok.injEq]
      cases hcauses : complaints object connection stored with
      | nil =>
          simp only [Except.ok.injEq, Entry.mk.injEq]
          constructor
          · rintro ⟨rfl, rfl⟩
            exact ⟨rfl, rfl, hcauses⟩
          · rintro ⟨rfl, rfl, -⟩
            exact ⟨rfl, rfl⟩
      | cons cause causes =>
          simp only [reduceCtorEq, false_iff]
          rintro ⟨rfl, -, hnone⟩
          simp [hcauses] at hnone

theorem createComplaints_of_admitEntry {entry admitted : Entry} {connection : Option Connection}
    {stored : Option ObjectRecord} (h : admitEntry entry connection stored = .ok admitted) :
    Admission.createComplaints admitted.object = [] := by
  have hcauses := (admitEntry_eq_ok_iff.mp h).2.2
  unfold complaints at hcauses
  split at hcauses
  · exact Admission.createComplaints_eq_nil_of_update hcauses
  · exact hcauses

theorem model_of_admitEntry {entry admitted : Entry} {connection : Option Connection}
    {stored : Option ObjectRecord} (h : admitEntry entry connection stored = .ok admitted) :
    admitted.object = entry.object.withModel admitted.object.model ∧
      admitted.object.TellsCounts := by
  obtain ⟨hobject, hmerge⟩ := Admission.defaultModel_eq_ok (admitEntry_eq_ok_iff.mp h).1
  refine ⟨hobject, fun counts hcounts => ?_⟩
  have hshape := Admission.checkShape_of_create (createComplaints_of_admitEntry h)
  obtain ⟨fields, hparse⟩ := Model.exists_parse_of_checkShape hshape
  rw [hobject, DesiredObject.counts?_withModel] at hcounts
  exact Model.counts_of_mergeCounts (hmerge counts hcounts) hparse

/-- The model of an admitted index tells the counts of the index. -/
theorem counts_of_admitEntry {entry admitted : Entry} {connection : Option Connection}
    {stored : Option ObjectRecord} (h : admitEntry entry connection stored = .ok admitted)
    {spec : IndexSpec} (hindex : admitted.object = .index spec) :
    Model.shards spec.model = .ok spec.counts.shards ∧
      Model.replicas spec.model = .ok spec.counts.replicas := by
  have hshape := Admission.checkShape_of_create (createComplaints_of_admitEntry h)
  have hdefault := (admitEntry_eq_ok_iff.mp h).1
  rw [hindex] at hshape hdefault
  obtain ⟨own, -, hmerge, hspec⟩ := Admission.defaultModel_eq_index hdefault
  obtain ⟨fields, hparse⟩ := Model.exists_parse_of_checkShape hshape
  have hcounts : spec.counts = own.counts := by rw [hspec]
  rw [hcounts]
  exact Model.counts_of_mergeCounts hmerge hparse

end Rounds

end SchemaKeeper
