import SchemaKeeper.Proofs.Rest

/-!
# Creation and the counts of an index

An index is created by the model as it stands, while a later pass reads the
desired counts out of the model and takes the object's own where the model leaves
one out.  What the two agree on is told count by count: the default of the cluster
stands in for a count that is left out.
-/

namespace SchemaKeeper.Convergence

/-! ## Counts that a model leaves out -/

/-- Nothing stands in the place of a count, or null. -/
def LeavesOut (found : Except ModelError UInt32) : Prop :=
  ∃ path, found = .error (.notFound path)

/--
How far a count reaches a new index: it is sent when the model has it, and it is
stored unless it differs from the default and the model leaves it out.
-/
structure Carried (found : Except ModelError UInt32) (own desired stored : UInt32) : Prop where
  sent : found = .ok desired ↔ ¬LeavesOut found
  stored : stored = desired ↔ (LeavesOut found → own = 1)

theorem desired_of_leavesOut {found : Except ModelError UInt32} {own desired : UInt32}
    (hdesired : desiredCount found own = .ok desired) (h : LeavesOut found) : desired = own := by
  obtain ⟨path, rfl⟩ := h
  exact (Except.ok.inj hdesired).symm

theorem carried_of_desiredCount {found : Except ModelError UInt32} {own desired : UInt32}
    (hdesired : desiredCount found own = .ok desired) :
    Carried found own desired (found.toOption.getD 1) := by
  cases found with
  | ok count =>
      obtain rfl := Except.ok.inj hdesired
      have hfound : ¬LeavesOut (.ok count) := nofun
      exact ⟨by simp [hfound], by simp [hfound, Except.toOption]⟩
  | error e =>
      cases e with
      | notFound path =>
          obtain rfl := Except.ok.inj hdesired
          have hleft : LeavesOut (.error (.notFound path)) := ⟨path, rfl⟩
          exact ⟨by simp [hleft], by simp [hleft, Except.toOption, eq_comm]⟩
      | invalidJson | notAnInteger | shape => cases hdesired

theorem desiredCounts_eq_ok {spec : IndexSpec} {desired : Counts}
    (h : desiredCounts spec = .ok desired) :
    desiredCount (Model.shards spec.model) spec.counts.shards = .ok desired.shards ∧
      desiredCount (Model.replicas spec.model) spec.counts.replicas = .ok desired.replicas := by
  unfold desiredCounts at h
  cases hshards : desiredCount (Model.shards spec.model) spec.counts.shards with
  | error e => simp [hshards, bind, Except.bind] at h
  | ok shards =>
      cases hreplicas : desiredCount (Model.replicas spec.model) spec.counts.replicas with
      | error e => simp [hshards, hreplicas, bind, Except.bind] at h
      | ok replicas =>
          simp only [hshards, hreplicas, bind, Except.bind, pure, Except.pure,
            Except.ok.injEq] at h
          subst h
          exact ⟨rfl, rfl⟩

/-! ## The pass after the creation -/

/-- A new index is refused when the default that it got is not the number of its shards. -/
theorem run_convergeIndex_created {cluster : Cluster} (hplain : cluster.scripted = [])
    {spec : IndexSpec} {desired : Counts} (hdesired : desiredCounts spec = .ok desired)
    (hindex : cluster.indices.get? spec.name = some (Cluster.createdIndex spec.model))
    (ceiling : Nat) :
    let result := (convergeIndex ceiling spec).run Cluster.answer cluster
    (LeavesOut (Model.shards spec.model) → spec.counts.shards = 1) ∧
        result.1.state = .created ∨
      LeavesOut (Model.shards spec.model) ∧ spec.counts.shards ≠ 1 ∧
        result.1 = Status.error (Refusal.shards spec.name 1 spec.counts.shards).message := by
  have hshards := (desiredCounts_eq_ok hdesired).1
  have hcarried := carried_of_desiredCount hshards
  by_cases hsame : (Cluster.createdIndex spec.model).counts.shards = desired.shards
  · refine .inl ⟨hcarried.stored.mp hsame, ?_⟩
    exact state_convergeIndex_of_shards hplain hdesired hindex hsame (settled_of_eq rfl rfl) ceiling
  · obtain ⟨hleft, hone⟩ := Classical.not_imp.mp (mt hcarried.stored.mpr hsame)
    have hstuck : Stuck ceiling spec desired (Cluster.createdIndex spec.model) _ :=
      .shards (Ne.symm hsame)
    obtain ⟨hrefused, -⟩ := run_convergeIndex_stuck hplain hdesired hindex hstuck
    have hdefault : (Cluster.createdIndex spec.model).counts.shards = 1 := by
      obtain ⟨path, hpath⟩ := hleft
      simp [Cluster.createdIndex, hpath, Except.toOption]
    rw [hdefault, desired_of_leavesOut hshards hleft] at hrefused
    exact .inr ⟨hleft, hone, hrefused⟩

/--
An absent index is created by its model as it stands.  A count that the model has
is sent and stored; one that it leaves out is neither, so the index gets the
default of the cluster.  The next pass refuses the index exactly when that default
is not the number of shards that the object has.
-/
theorem creation_carries_counts {spec : IndexSpec} {desired : Counts} {cluster : Cluster}
    (ceiling : Nat) (hshape : Model.checkShape .index spec.model = .ok ())
    (hdesired : desiredCounts spec = .ok desired) (hplain : cluster.scripted = [])
    (habsent : cluster.indices.get? spec.name = none) {first second : Status × Cluster}
    (hfirst : (converge ceiling (.index spec)).run Cluster.answer cluster = first)
    (hsecond : (converge ceiling (.index spec)).run Cluster.answer first.2 = second) :
    first.1.state = .created ∧
      first.2.calls =
        cluster.calls ++ [.indexExists spec.name, .createIndex spec.name spec.model] ∧
      (∃ index, first.2.indices.get? spec.name = some index ∧
        Carried (Model.shards spec.model) spec.counts.shards desired.shards index.counts.shards ∧
        Carried (Model.replicas spec.model) spec.counts.replicas desired.replicas
          index.counts.replicas) ∧
      (second.1.state = .created ↔
        (LeavesOut (Model.shards spec.model) → spec.counts.shards = 1)) ∧
      (second.1.state ≠ .created →
        second.1 = Status.error (Refusal.shards spec.name 1 spec.counts.shards).message) := by
  rw [converge_index hshape] at hfirst hsecond
  rw [run_convergeIndex_create hplain habsent] at hfirst
  obtain ⟨hshards, hreplicas⟩ := desiredCounts_eq_ok hdesired
  have hstored : first.2.indices.get? spec.name = some (Cluster.createdIndex spec.model) := by
    rw [← hfirst]
    exact Cluster.get?_seedIndex_self ..
  have hplainFirst : first.2.scripted = [] := by
    rw [← hfirst]
    exact hplain
  have hcalls : first.2.calls =
      cluster.calls ++ [.indexExists spec.name, .createIndex spec.name spec.model] := by
    rw [← hfirst]
    exact List.append_assoc ..
  have hcreated : first.1.state = .created := by
    rw [← hfirst]
    exact state_acknowledged
  refine ⟨hcreated, hcalls, ⟨_, hstored, carried_of_desiredCount hshards,
    carried_of_desiredCount hreplicas⟩, ?_⟩
  have hnext := run_convergeIndex_created hplainFirst hdesired hstored ceiling
  rw [hsecond] at hnext
  obtain ⟨hone, hstate⟩ | ⟨hleft, hother, hrefused⟩ := hnext
  · exact ⟨iff_of_true hstate hone, fun h => absurd hstate h⟩
  · have hstate : second.1.state ≠ .created := by
      rw [hrefused]
      exact State.noConfusion
    exact ⟨iff_of_false hstate fun h => hother (h hleft), fun _ => hrefused⟩

/-- An index whose counts are not in its model. -/
def bareOrders : IndexSpec :=
  ⟨"orders", "main", ⟨5, 2⟩,
    "\x7b\"mappings\":\x7b\"properties\":\x7b\"id\":\x7b\"type\":\"keyword\"\x7d\x7d\x7d\x7d"⟩

theorem bareOrders_leaves_out :
    Model.checkShape .index bareOrders.model = .ok () ∧
      Model.shards bareOrders.model = .error (.notFound ["settings", Model.shardsKey]) ∧
      Model.replicas bareOrders.model = .error (.notFound ["settings", Model.replicasKey]) := by
  decide +kernel

theorem desiredCounts_bareOrders : desiredCounts bareOrders = .ok ⟨5, 2⟩ := by
  obtain ⟨-, hshards, hreplicas⟩ := bareOrders_leaves_out
  rw [desiredCounts, hshards, hreplicas]
  rfl

theorem absent_bareOrders : Cluster.empty.indices.get? bareOrders.name = none :=
  Table.get?_empty _

def barePass (cluster : Cluster) : Status × Cluster :=
  (converge 64 (.index bareOrders)).run Cluster.answer cluster

theorem creation_of_bareOrders :
    (barePass .empty).1.state = .created ∧
      (barePass (barePass .empty).2).1 = Status.error (Refusal.shards "orders" 1 5).message := by
  obtain ⟨hshape, hshards, -⟩ := bareOrders_leaves_out
  have hempty : Cluster.empty.scripted = [] := rfl
  have hrun (cluster : Cluster) :
      (converge 64 (.index bareOrders)).run Cluster.answer cluster = barePass cluster := rfl
  obtain ⟨hcreated, -, -, hsecond, hrefused⟩ := creation_carries_counts 64 hshape
    desiredCounts_bareOrders hempty absent_bareOrders (hrun _) (hrun _)
  have hother : bareOrders.counts.shards ≠ 1 := by decide
  exact ⟨hcreated, hrefused fun hstate => hother (hsecond.mp hstate ⟨_, hshards⟩)⟩

/-- The object's own counts do not reach the cluster, and the next pass refuses the new index. -/
theorem created_index_can_be_refused :
    ¬ ∀ (spec : IndexSpec) (desired : Counts) (cluster : Cluster) (ceiling : Nat)
        (first second : Status × Cluster),
      Model.checkShape .index spec.model = .ok () →
      desiredCounts spec = .ok desired →
      cluster.scripted = [] →
      cluster.indices.get? spec.name = none →
      (converge ceiling (.index spec)).run Cluster.answer cluster = first →
      (converge ceiling (.index spec)).run Cluster.answer first.2 = second →
      first.2.indices.get? spec.name = some ⟨desired, Model.properties spec.model⟩ ∧
        second.1.state ≠ .error := by
  intro h
  obtain ⟨hshape, hshards, -⟩ := bareOrders_leaves_out
  have hempty : Cluster.empty.scripted = [] := rfl
  have hstored := (h bareOrders ⟨5, 2⟩ .empty 64 _ _ hshape desiredCounts_bareOrders hempty
    absent_bareOrders rfl rfl).1
  rw [converge_index hshape, run_convergeIndex_create hempty absent_bareOrders] at hstored
  have hsame := (Cluster.get?_seedIndex_self ..).symm.trans hstored
  have hcounts := congrArg (·.counts.shards) (Option.some.inj hsame)
  rw [Cluster.createdIndex, hshards] at hcounts
  exact absurd hcounts (by decide)

end SchemaKeeper.Convergence
