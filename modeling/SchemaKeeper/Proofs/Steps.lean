import SchemaKeeper.Proofs.Transcript

/-!
# The steps of a pass over an index that is there

On a cluster that answers for itself the counts of an index are read back as they
are stored.  So what a step comes to, and what it leaves, is told by the stored
index: a step on the settings compares two pairs of counts, a step on the mapping
two trees.
-/

namespace SchemaKeeper

namespace Cluster

/-! ## Clusters that were only read -/

/-- Nothing was written since, and everything is as it was. -/
structure Undisturbed (earlier later : Cluster) : Prop where
  contents : later.SameContents earlier
  scripted : later.scripted = earlier.scripted
  writes : later.writes = earlier.writes

theorem Undisturbed.refl (cluster : Cluster) : Undisturbed cluster cluster :=
  ⟨⟨rfl, rfl, rfl⟩, rfl, rfl⟩

theorem Undisturbed.trans {a b c : Cluster} (hab : Undisturbed a b) (hbc : Undisturbed b c) :
    Undisturbed a c :=
  ⟨hbc.contents.trans hab.contents, hbc.scripted.trans hab.scripted,
    hbc.writes.trans hab.writes⟩

theorem Undisturbed.get? {a b : Cluster} (h : Undisturbed a b) (name : String) :
    b.indices.get? name = a.indices.get? name := by
  rw [h.contents.indices]

theorem writes_recordCall (cluster : Cluster) (c : Call) :
    (cluster.recordCall c).writes = cluster.writes ++ if c.isWrite then [c] else [] := by
  simp only [writes, recordCall, List.filter_append, List.filter_cons, List.filter_nil]

theorem undisturbed_recordCall {c : Call} (h : c.isWrite = false) (cluster : Cluster) :
    Undisturbed cluster (cluster.recordCall c) :=
  ⟨⟨rfl, rfl, rfl⟩, rfl, by simp [writes_recordCall, h]⟩

end Cluster

namespace Convergence

open Program (run run_ask run_bind run_pure)

/-! ## Counts -/

section

variable {spec : IndexSpec} (hshards : Model.shards spec.model = .ok spec.counts.shards)
  (hreplicas : Model.replicas spec.model = .ok spec.counts.replicas)

include hshards hreplicas

theorem desiredCounts_eq : desiredCounts spec = .ok spec.counts := by
  simp only [desiredCounts, hshards, hreplicas, desiredCount, bind, Except.bind, pure, Except.pure]

theorem createdIndex_eq :
    Cluster.createdIndex spec.model = ⟨spec.counts, Model.properties spec.model⟩ := by
  simp [Cluster.createdIndex, hshards, hreplicas, Except.toOption]

end

theorem currentCounts_eq_ok_iff {settings : Json} {name : String} {counts : Counts} :
    currentCounts settings name = .ok counts ↔
      Remote.shards settings name = .ok counts.shards ∧
        Remote.replicas settings name = .ok counts.replicas := by
  unfold currentCounts
  cases Remote.shards settings name with
  | error e => exact iff_of_false nofun nofun
  | ok shards =>
      cases Remote.replicas settings name with
      | error e => exact iff_of_false nofun nofun
      | ok replicas =>
          cases counts
          simp [bind, Except.bind, pure, Except.pure]

theorem currentCounts_settingsDocument (name : String) (counts : Counts) :
    currentCounts (Cluster.settingsDocument name counts) name = .ok counts :=
  currentCounts_eq_ok_iff.mpr
    ⟨Remote.shards_settingsWith (Model.spells_toString counts.shards),
      Remote.replicas_settingsWith (Model.spells_toString counts.replicas)⟩

theorem state_acknowledged : (Outcome.toStatus (.ok Cluster.acknowledged)).state = .created := by
  simp [Outcome.toStatus, Response.toStatus, Cluster.acknowledged, Status.classify, Status.stateOf,
    Status.leadingDigit]

theorem toStatus_acknowledged :
    Outcome.toStatus (.ok Cluster.acknowledged) =
      Status.created (some 200) Cluster.acknowledged.body := by
  have hstate := state_acknowledged
  simp only [Outcome.toStatus, Response.toStatus, Status.classify] at hstate ⊢
  rw [hstate]
  rfl

/-! ## The steps -/

section

variable {cluster : Cluster} (hplain : cluster.scripted = []) {spec : IndexSpec}
  {index : StoredIndex} (hindex : cluster.indices.get? spec.name = some index)

include hplain hindex

/-- The step on the settings, told by the stored counts. -/
theorem run_convergeSettings_eq {desired : Counts} (hdesired : desiredCounts spec = .ok desired) :
    (convergeSettings spec).run Cluster.answer cluster =
      let read := cluster.recordCall (.indexSettings spec.name)
      if desired.shards ≠ index.counts.shards then
        (.stop (Status.error
          (Refusal.shards spec.name index.counts.shards desired.shards).message), read)
      else if desired.replicas = index.counts.replicas then (.unchanged, read)
      else
        (.updated (Outcome.toStatus (.ok Cluster.acknowledged)),
          (read.recordCall (.putIndexReplicas spec.name desired.replicas)).seedIndex spec.name
            { index with counts := desired }) := by
  unfold convergeSettings
  rw [hdesired]
  dsimp only
  rw [run_bind, run_ask, Cluster.answer_indexSettings hplain hindex]
  dsimp only
  rw [currentCounts_settingsDocument]
  dsimp only
  split
  next => rfl
  next hshards =>
    have hshards : desired.shards = index.counts.shards := by simpa using hshards
    split
    next => rfl
    next =>
      have hput := Cluster.answer_putIndexReplicas
        (cluster.recordCall (.indexSettings spec.name)) hplain hindex desired.replicas
      have hcounts : (⟨index.counts.shards, desired.replicas⟩ : Counts) = desired := by
        rw [← hshards]
      rw [run_bind, run_ask, hput, hcounts]
      dsimp only
      rw [if_pos state_acknowledged, run_pure]

/-- The step on the mapping, told by the stored tree. -/
theorem run_convergeProperties_eq (ceiling : Nat) :
    (convergeProperties ceiling spec).run Cluster.answer cluster =
      let read := cluster.recordCall (.indexProperties spec.name)
      match Model.properties spec.model, index.properties with
      | none, _ => (.ok none, cluster)
      | some _, none => (.ok none, read)
      | some tree, some current =>
          if current.sameValue tree then (.ok none, read)
          else if !Compatibility.isSafe ceiling current tree then
            (.error (Status.error (Refusal.fieldLoss current tree).message), read)
          else
            (.ok (some (Outcome.toStatus (.ok Cluster.acknowledged))),
              (read.recordCall (.putIndexProperties spec.name tree)).seedIndex spec.name
                { index with properties := some tree }) := by
  unfold convergeProperties
  cases Model.properties spec.model with
  | none => rfl
  | some tree =>
      dsimp only
      rw [run_bind, run_ask, Cluster.answer_indexProperties hplain hindex]
      cases index.properties with
      | none => rfl
      | some current =>
          dsimp only
          split
          next => rfl
          next =>
            split
            next => rfl
            next =>
              have hput := Cluster.answer_putIndexProperties
                (cluster.recordCall (.indexProperties spec.name)) hplain hindex tree
              rw [run_bind, run_ask, hput]
              rfl

end

/-! ## Whole passes -/

theorem converge_index {spec : IndexSpec} (hshape : Model.checkShape .index spec.model = .ok ())
    (ceiling : Nat) : converge ceiling (.index spec) = convergeIndex ceiling spec := by
  unfold converge
  rw [show Model.checkShape (DesiredObject.index spec).kind (DesiredObject.index spec).model =
    .ok () from hshape]

theorem converge_misshapen {object : DesiredObject} {e : ModelError}
    (hshape : Model.checkShape object.kind object.model = .error e) (ceiling : Nat) :
    converge ceiling object = pure (Status.error e.message) := by
  unfold converge
  rw [hshape]

/-- An index that is not there is created as its model describes it. -/
theorem run_convergeIndex_create {cluster : Cluster} (hplain : cluster.scripted = [])
    {spec : IndexSpec} (habsent : cluster.indices.get? spec.name = none) (ceiling : Nat) :
    let asked := cluster.recordCall (.indexExists spec.name)
    (convergeIndex ceiling spec).run Cluster.answer cluster =
      (Outcome.toStatus (.ok Cluster.acknowledged),
        (asked.recordCall (.createIndex spec.name spec.model)).seedIndex spec.name
          (Cluster.createdIndex spec.model)) := by
  intro asked
  have hcontains : cluster.indices.contains spec.name = false :=
    Table.contains_eq_false_iff.mpr habsent
  have hasked : cluster.answer (.indexExists spec.name) = (.ok false, asked) := by
    rw [Cluster.answer_of_plain hplain]
    simp [Cluster.respond, Cluster.recordCall, hcontains, asked]
  have hcreated : asked.answer (.createIndex spec.name spec.model) =
      (.ok Cluster.acknowledged, (asked.recordCall (.createIndex spec.name spec.model)).seedIndex
        spec.name (Cluster.createdIndex spec.model)) := by
    have hasked : asked.scripted = [] := hplain
    rw [Cluster.answer_of_plain hasked]
    simp [Cluster.respond, Cluster.recordCall, hcontains, asked]
  unfold convergeIndex
  rw [run_bind, run_ask, hasked]
  dsimp only
  rw [run_bind, run_ask, hcreated]
  rfl

section

variable {cluster : Cluster} (hplain : cluster.scripted = []) {spec : IndexSpec}
  {index : StoredIndex} (hindex : cluster.indices.get? spec.name = some index) (ceiling : Nat)

include hplain hindex

theorem run_convergeIndex_of_stop {status : Status} {after : Cluster}
    (hsettings : (convergeSettings spec).run Cluster.answer
      (cluster.recordCall (.indexExists spec.name)) = (.stop status, after)) :
    (convergeIndex ceiling spec).run Cluster.answer cluster = (status, after) := by
  unfold convergeIndex
  rw [run_bind, run_ask, Cluster.answer_indexExists hplain hindex]
  dsimp only
  rw [run_bind, hsettings, run_pure]

theorem run_convergeIndex_of_not_stop {step : SettingsStep} {middle : Cluster}
    (hsettings : (convergeSettings spec).run Cluster.answer
      (cluster.recordCall (.indexExists spec.name)) = (step, middle))
    (hstep : ∀ status, step ≠ .stop status) :
    (convergeIndex ceiling spec).run Cluster.answer cluster =
      let mapped := (convergeProperties ceiling spec).run Cluster.answer middle
      (finalVerdict step mapped.1, mapped.2) := by
  unfold convergeIndex
  rw [run_bind, run_ask, Cluster.answer_indexExists hplain hindex]
  dsimp only
  rw [run_bind, hsettings]
  cases step with
  | stop status => exact absurd rfl (hstep status)
  | unchanged | updated =>
      dsimp only
      rw [run_bind]
      cases ((convergeProperties ceiling spec).run Cluster.answer middle).1 with
      | error status => rfl
      | ok status => cases status <;> rfl

end

end Convergence

end SchemaKeeper
