import SchemaKeeper.Proofs.Rest

/-!
# What a verdict of success means

On a cluster that answers for itself, a pass over an admitted index that ends in
`created` leaves an index with the desired shards and replicas.  Its mapping
equals the desired one, unless the index was there before without any mapping:
such an index is taken for one that needs no change.
-/

namespace SchemaKeeper.Convergence

/-- What the mapping of an index has become, as far as a mapping is desired. -/
def Matches (before after : Option Json) (desired : Option Json) : Prop :=
  ∀ p, desired = some p → ((∃ q, after = some q ∧ q.sameValue p = true) ↔ before ≠ none)

/-- A settled index has the desired mapping, unless it has none at all. -/
theorem Settled.matches {spec : IndexSpec} {desired : Counts} {left : StoredIndex}
    (h : Settled spec desired left) {before : Option Json}
    (hmapped : left.properties = none ↔ before = none) :
    Matches before left.properties (Model.properties spec.model) := by
  intro p hp
  rw [ne_eq, ← hmapped]
  cases hleft : left.properties with
  | none => simp
  | some q => simp [h.mapping p q hp hleft]

theorem run_convergeIndex_absent {cluster : Cluster} (hplain : cluster.scripted = [])
    {spec : IndexSpec} (habsent : cluster.indices.get? spec.name = none) (ceiling : Nat) :
    ((convergeIndex ceiling spec).run Cluster.answer cluster).2.indices.get? spec.name =
      some (Cluster.createdIndex spec.model) := by
  rw [run_convergeIndex_create hplain habsent]
  exact Cluster.get?_seedIndex_self ..

/-- An index that is there is refused, or left with the desired counts and mapping. -/
theorem run_convergeIndex_present {cluster : Cluster} (hplain : cluster.scripted = [])
    {spec : IndexSpec} (hdesired : desiredCounts spec = .ok spec.counts) {index : StoredIndex}
    (hindex : cluster.indices.get? spec.name = some index) (ceiling : Nat) :
    let result := (convergeIndex ceiling spec).run Cluster.answer cluster
    result.1.state = .error ∨
      ∃ stored, result.2.indices.get? spec.name = some stored ∧ stored.counts = spec.counts ∧
        Matches index.properties stored.properties (Model.properties spec.model) := by
  obtain ⟨left, made, hleft, hmapped, -, hrests⟩ :=
    run_convergeIndex_rests hplain hindex hdesired ceiling
  exact hrests.error_or_settled.imp_right fun hsettled =>
    ⟨left, hleft, hsettled.counts, hsettled.matches hmapped⟩

/--
After a pass over an admitted index that ends in `created` the cluster has the
index with its counts.  It has the desired mapping exactly when the index was
not there before without any mapping.
-/
theorem created_matches_iff {entry admitted : Entry} {connection : Option Connection}
    {record : Option ObjectRecord} {spec : IndexSpec} {cluster : Cluster} (ceiling : Nat)
    (hadmitted : Rounds.admitEntry entry connection record = .ok admitted)
    (hindex : admitted.object = .index spec) (hplain : cluster.scripted = [])
    (hcreated : ((converge ceiling admitted.object).run Cluster.answer cluster).1.state =
      .created) :
    let after := ((converge ceiling admitted.object).run Cluster.answer cluster).2
    ∃ index, after.indices.get? spec.name = some index ∧ index.counts = spec.counts ∧
      ∀ p, Model.properties spec.model = some p →
        ((∃ q, index.properties = some q ∧ q.sameValue p = true) ↔
          ¬∃ before, cluster.indices.get? spec.name = some before ∧ before.properties = none) := by
  have hshape := Admission.checkShape_of_create (Rounds.createComplaints_of_admitEntry hadmitted)
  obtain ⟨hshards, hreplicas⟩ := Rounds.counts_of_admitEntry hadmitted hindex
  rw [hindex] at hshape hcreated ⊢
  have hconverge : converge ceiling (.index spec) = convergeIndex ceiling spec := by
    unfold converge
    rw [hshape]
  rw [hconverge] at hcreated ⊢
  cases hbefore : cluster.indices.get? spec.name with
  | none =>
      refine ⟨_, run_convergeIndex_absent hplain hbefore ceiling, ?_, fun p hp => ?_⟩
      · simp [Cluster.createdIndex, hshards, hreplicas, Except.toOption]
      · have hself := Json.sameValue_self (Model.wellFormed_of_properties hp)
        simp [Cluster.createdIndex, hp, hself]
  | some before =>
      have hdesired := desiredCounts_eq hshards hreplicas
      rcases run_convergeIndex_present hplain hdesired hbefore ceiling with herror | hstored
      · rw [hcreated] at herror
        cases herror
      · obtain ⟨stored, hfound, hcounts, hmatches⟩ := hstored
        refine ⟨stored, hfound, hcounts, fun p hp => ?_⟩
        rw [hmatches p hp]
        simp

def clusterWith (properties : Option Json) : Cluster :=
  Cluster.empty.seedIndex "orders" ⟨⟨3, 1⟩, properties⟩

theorem properties_keyedOrders :
    Model.properties keyedOrders.model =
      some (Model.mappingTree (.object [("id", .object [("type", .string "keyword")])])) := by
  decide +kernel

def emptyMapping : Json :=
  Model.mappingTree (.object [])

theorem created_matches_empty_mapping :
    ((converge 64 keyedEntry.object).run Cluster.answer
        (clusterWith (some emptyMapping))).1.state = .created ∧
      ∃ index, ((converge 64 keyedEntry.object).run Cluster.answer
          (clusterWith (some emptyMapping))).2.indices.get? keyedOrders.name = some index ∧
        index.counts = keyedOrders.counts ∧
        ∃ q, index.properties = some q ∧
          q.sameValue (Model.mappingTree (.object [("id", .object [("type", .string "keyword")])])) =
            true := by
  have hcreated : ((converge 64 keyedEntry.object).run Cluster.answer
      (clusterWith (some emptyMapping))).1.state = .created := by decide +kernel
  obtain ⟨index, hindex, hcounts, hmatches⟩ :=
    created_matches_iff 64 admitEntry_keyedEntry rfl rfl hcreated
  refine ⟨hcreated, index, hindex, hcounts, (hmatches _ properties_keyedOrders).mpr ?_⟩
  rintro ⟨before, hbefore, hnone⟩
  have hstored : (clusterWith (some emptyMapping)).indices.get? keyedOrders.name =
      some ⟨⟨3, 1⟩, some emptyMapping⟩ := by decide
  obtain rfl := Option.some.inj (hstored.symm.trans hbefore)
  cases hnone

/-- An index without any mapping is called created and keeps none. -/
theorem created_without_mapping :
    ¬ ∀ (entry admitted : Entry) (spec : IndexSpec) (cluster : Cluster) (ceiling : Nat),
      Rounds.admitEntry entry none none = .ok admitted →
      admitted.object = .index spec →
      cluster.scripted = [] →
      ((converge ceiling admitted.object).run Cluster.answer cluster).1.state = .created →
      ∃ index, ((converge ceiling admitted.object).run Cluster.answer cluster).2.indices.get?
          spec.name = some index ∧ index.counts = spec.counts ∧
        ∀ p, Model.properties spec.model = some p →
          ∃ q, index.properties = some q ∧ q.sameValue p = true := by
  intro h
  have hcreated : ((converge 64 keyedEntry.object).run Cluster.answer
      (clusterWith none)).1.state = .created := by decide +kernel
  obtain ⟨index, hindex, -, hproperties⟩ :=
    h keyedEntry keyedEntry keyedOrders (clusterWith none) 64 admitEntry_keyedEntry rfl rfl hcreated
  have hafter : ((converge 64 keyedEntry.object).run Cluster.answer
      (clusterWith none)).2.indices.get? "orders" = some ⟨⟨3, 1⟩, none⟩ := by decide +kernel
  obtain rfl := Option.some.inj (hafter.symm.trans hindex)
  obtain ⟨q, hq, -⟩ := hproperties _ properties_keyedOrders
  cases hq

end SchemaKeeper.Convergence
