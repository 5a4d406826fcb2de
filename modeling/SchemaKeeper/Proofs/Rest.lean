import SchemaKeeper.Proofs.Admission
import SchemaKeeper.Proofs.Steps

/-!
# A pass leaves an index at rest

A pass over an index on a cluster that answers for itself ends in one of two
ways.  Either nothing is left to do about the index, or it needs a change that is
refused.  Both are told by the index alone, so the next pass only reads, and
comes to what the first one came to.
-/

namespace SchemaKeeper.Convergence

/-! ## Settled and stuck indices -/

/-- There is nothing to do about an index. -/
structure Settled (spec : IndexSpec) (desired : Counts) (index : StoredIndex) : Prop where
  counts : index.counts = desired
  mapping : ∀ tree current, Model.properties spec.model = some tree →
    index.properties = some current → current.sameValue tree = true

theorem settled_of_eq {spec : IndexSpec} {desired : Counts} {index : StoredIndex}
    (hcounts : index.counts = desired)
    (hmapping : index.properties = Model.properties spec.model) : Settled spec desired index where
  counts := hcounts
  mapping tree current htree hcurrent := by
    -- what is read out of a model is well-formed, so it counts as equal to itself
    obtain rfl := Option.some.inj (htree.symm.trans (hmapping.symm.trans hcurrent))
    exact Json.sameValue_self (Model.wellFormed_of_properties htree)

/-- There is a change to make to an index that is refused. -/
inductive Stuck (ceiling : Nat) (spec : IndexSpec) (desired : Counts) (index : StoredIndex) :
    Refusal → Prop
  | shards (hshards : desired.shards ≠ index.counts.shards) :
      Stuck ceiling spec desired index (.shards spec.name index.counts.shards desired.shards)
  | fieldLoss {tree current : Json} (hcounts : index.counts = desired)
      (htree : Model.properties spec.model = some tree)
      (hcurrent : index.properties = some current) (hother : current.sameValue tree = false)
      (hloses : Compatibility.isSafe ceiling current tree = false) :
      Stuck ceiling spec desired index (.fieldLoss current tree)

/-- A step on the mapping finds nothing to do about a settled index. -/
theorem run_convergeProperties_settled {cluster : Cluster} (hplain : cluster.scripted = [])
    {spec : IndexSpec} {index : StoredIndex}
    (hindex : cluster.indices.get? spec.name = some index) {desired : Counts}
    (h : Settled spec desired index) (ceiling : Nat) :
    let mapped := (convergeProperties ceiling spec).run Cluster.answer cluster
    mapped.1 = .ok none ∧ cluster.Undisturbed mapped.2 := by
  have hread : cluster.Undisturbed (cluster.recordCall (.indexProperties spec.name)) :=
    Cluster.undisturbed_recordCall rfl cluster
  rw [run_convergeProperties_eq hplain hindex]
  dsimp only
  cases htree : Model.properties spec.model with
  | none => exact ⟨rfl, .refl cluster⟩
  | some tree =>
      cases hcurrent : index.properties with
      | none => exact ⟨rfl, hread⟩
      | some current =>
          dsimp only
          rw [if_pos (h.mapping tree current htree hcurrent)]
          exact ⟨rfl, hread⟩

section

variable {cluster : Cluster} (hplain : cluster.scripted = []) {spec : IndexSpec}
  {desired : Counts} (hdesired : desiredCounts spec = .ok desired) {index : StoredIndex}
  (hindex : cluster.indices.get? spec.name = some index) {ceiling : Nat}

include hplain hdesired hindex

/-- Where the counts are right a pass comes down to its step on the mapping. -/
theorem run_convergeIndex_of_counts (hcounts : index.counts = desired) (ceiling : Nat) :
    ∃ read, cluster.Undisturbed read ∧
      (convergeIndex ceiling spec).run Cluster.answer cluster =
        let mapped := (convergeProperties ceiling spec).run Cluster.answer read
        (finalVerdict .unchanged mapped.1, mapped.2) := by
  let asked := cluster.recordCall (.indexExists spec.name)
  let read := asked.recordCall (.indexSettings spec.name)
  have hplainAsked : asked.scripted = [] := hplain
  have hindexAsked : asked.indices.get? spec.name = some index := hindex
  have hsettings : (convergeSettings spec).run Cluster.answer asked = (.unchanged, read) := by
    rw [run_convergeSettings_eq hplainAsked hindexAsked hdesired]
    simp [hcounts, read]
  have hasked : cluster.Undisturbed asked := Cluster.undisturbed_recordCall rfl cluster
  have hread : asked.Undisturbed read := Cluster.undisturbed_recordCall rfl asked
  exact ⟨read, hasked.trans hread,
    run_convergeIndex_of_not_stop hplain hindex ceiling hsettings nofun⟩

theorem run_convergeIndex_settled (h : Settled spec desired index) (ceiling : Nat) :
    let result := (convergeIndex ceiling spec).run Cluster.answer cluster
    result.1 = inLine ∧ cluster.Undisturbed result.2 := by
  obtain ⟨read, hread, hrun⟩ :=
    run_convergeIndex_of_counts hplain hdesired hindex h.counts ceiling
  obtain ⟨hnothing, hmapped⟩ := run_convergeProperties_settled
    (hread.scripted.trans hplain) ((hread.get? _).trans hindex) h ceiling
  rw [hrun]
  dsimp only
  rw [hnothing]
  exact ⟨rfl, hread.trans hmapped⟩

theorem run_convergeIndex_stuck {refusal : Refusal} (h : Stuck ceiling spec desired index refusal) :
    let result := (convergeIndex ceiling spec).run Cluster.answer cluster
    result.1 = Status.error refusal.message ∧ cluster.Undisturbed result.2 := by
  cases h with
  | shards hshards =>
      let asked := cluster.recordCall (.indexExists spec.name)
      let read := asked.recordCall (.indexSettings spec.name)
      have hplainAsked : asked.scripted = [] := hplain
      have hindexAsked : asked.indices.get? spec.name = some index := hindex
      have hsettings := run_convergeSettings_eq hplainAsked hindexAsked hdesired
      dsimp only at hsettings
      rw [if_pos hshards] at hsettings
      rw [run_convergeIndex_of_stop hplain hindex ceiling hsettings]
      have hasked : cluster.Undisturbed asked := Cluster.undisturbed_recordCall rfl cluster
      exact ⟨rfl, hasked.trans (Cluster.undisturbed_recordCall rfl asked)⟩
  | @fieldLoss tree current hcounts htree hcurrent hother hloses =>
      obtain ⟨read, hread, hrun⟩ :=
        run_convergeIndex_of_counts hplain hdesired hindex hcounts ceiling
      have hplainRead : read.scripted = [] := hread.scripted.trans hplain
      have hindexRead : read.indices.get? spec.name = some index := (hread.get? _).trans hindex
      rw [hrun, run_convergeProperties_eq hplainRead hindexRead, htree, hcurrent]
      simp only [hother, hloses, Bool.false_eq_true, if_false, Bool.not_false, if_true]
      exact ⟨rfl, hread.trans (Cluster.undisturbed_recordCall rfl read)⟩

end

/-! ## What a pass leaves -/

/-- No call of a row replaces a mapping. -/
def SparesMappings (made : List Call) : Prop :=
  ∀ c ∈ made, c.method ≠ .putIndexProperties

/-- The writes that a pass made, the index that it left, and its verdict. -/
inductive Rests (ceiling : Nat) (spec : IndexSpec) (desired : Counts) (made : List Call)
    (left : StoredIndex) : Status → Prop
  | settled {status : Status} (hstate : status.state = .created)
      (hleft : Settled spec desired left) : Rests ceiling spec desired made left status
  | stuck {refusal : Refusal} (hmade : SparesMappings made)
      (hleft : Stuck ceiling spec desired left refusal) :
      Rests ceiling spec desired made left (Status.error refusal.message)

section

variable {ceiling : Nat} {spec : IndexSpec} {desired : Counts} {made more : List Call}
  {left : StoredIndex} {status : Status}

theorem Rests.after (hmade : SparesMappings made) (h : Rests ceiling spec desired more left status) :
    Rests ceiling spec desired (made ++ more) left status := by
  cases h with
  | settled hstate hleft => exact .settled hstate hleft
  | stuck hmore hleft => exact .stuck (List.forall_mem_append.mpr ⟨hmade, hmore⟩) hleft

theorem Rests.error_or_settled (h : Rests ceiling spec desired made left status) :
    status.state = .error ∨ Settled spec desired left := by
  cases h with
  | settled hstate hleft => exact .inr hleft
  | stuck hmade hleft => exact .inl rfl

end

section

variable {cluster : Cluster} (hplain : cluster.scripted = []) {spec : IndexSpec}
  {desired : Counts} {index : StoredIndex}
  (hindex : cluster.indices.get? spec.name = some index)

include hplain hindex

/-- The step on the settings refuses, or brings the counts in line. -/
theorem run_convergeSettings_cases (hdesired : desiredCounts spec = .ok desired) :
    let result := (convergeSettings spec).run Cluster.answer cluster
    (∃ refusal, result.1 = .stop (Status.error refusal.message) ∧
        (∀ ceiling, Stuck ceiling spec desired index refusal) ∧
        cluster.Undisturbed result.2) ∨
      (∀ status, result.1 ≠ .stop status) ∧
        (finalVerdict result.1 (.ok none)).state = .created ∧
        result.2.indices.get? spec.name = some { index with counts := desired } ∧
        ∃ made, result.2.writes = cluster.writes ++ made ∧ SparesMappings made := by
  let read := cluster.recordCall (.indexSettings spec.name)
  have hread : cluster.Undisturbed read := Cluster.undisturbed_recordCall rfl cluster
  rw [run_convergeSettings_eq hplain hindex hdesired]
  dsimp only
  split
  next hshards => exact .inl ⟨_, rfl, fun _ => .shards hshards, hread⟩
  next hshards =>
    have hshards : desired.shards = index.counts.shards := by simpa using hshards
    split
    next hreplicas =>
      have hcounts : index.counts = desired := by
        cases desired
        cases hstored : index.counts
        simp_all
      refine .inr ⟨nofun, rfl, ?_, [], ?_, nofun⟩
      · rw [← hcounts]
        exact hindex
      · rw [List.append_nil]
        exact hread.writes
    next =>
      refine .inr ⟨nofun, state_acknowledged, Cluster.get?_seedIndex_self .., ?_⟩
      refine ⟨[.putIndexReplicas spec.name desired.replicas], ?_, ?_⟩
      · exact (Cluster.writes_recordCall read _).trans (congrArg (· ++ _) hread.writes)
      · exact List.forall_mem_singleton.mpr nofun

/-- The step on the mapping leaves an index with its counts in line at rest. -/
theorem run_convergeProperties_rests (hcounts : index.counts = desired) (ceiling : Nat)
    {step : SettingsStep} (hstep : (finalVerdict step (.ok none)).state = .created) :
    let mapped := (convergeProperties ceiling spec).run Cluster.answer cluster
    ∃ left made, mapped.2.indices.get? spec.name = some left ∧
      (left.properties = none ↔ index.properties = none) ∧
      mapped.2.writes = cluster.writes ++ made ∧
      Rests ceiling spec desired made left (finalVerdict step mapped.1) := by
  let read := cluster.recordCall (.indexProperties spec.name)
  have hread : read.writes = cluster.writes ++ [] := Cluster.writes_recordCall cluster _
  rw [run_convergeProperties_eq hplain hindex]
  dsimp only
  cases htree : Model.properties spec.model with
  | none =>
      refine ⟨index, [], hindex, .rfl, (List.append_nil _).symm, .settled hstep ⟨hcounts, ?_⟩⟩
      simp [htree]
  | some tree =>
      cases hcurrent : index.properties with
      | none =>
          refine ⟨index, [], hindex, by simp [hcurrent], hread, .settled hstep ⟨hcounts, ?_⟩⟩
          simp [hcurrent]
      | some current =>
          dsimp only
          split
          next hsame =>
            refine ⟨index, [], hindex, by simp [hcurrent], hread, .settled hstep ⟨hcounts, ?_⟩⟩
            simp [htree, hcurrent, hsame]
          next hother =>
            have hother : current.sameValue tree = false := by simpa using hother
            split
            next hloses =>
              have hloses : Compatibility.isSafe ceiling current tree = false := by
                simpa using hloses
              exact ⟨index, [], hindex, by simp [hcurrent], hread,
                .stuck nofun (.fieldLoss hcounts htree hcurrent hother hloses)⟩
            next =>
              refine ⟨_, [.putIndexProperties spec.name tree], Cluster.get?_seedIndex_self ..,
                by simp, ?_, .settled state_acknowledged (settled_of_eq hcounts htree.symm)⟩
              exact (Cluster.writes_recordCall read _).trans
                (congrArg (· ++ _) (Cluster.undisturbed_recordCall rfl cluster).writes)

/-- A pass over a stored index leaves it at rest. -/
theorem run_convergeIndex_rests (hdesired : desiredCounts spec = .ok desired) (ceiling : Nat) :
    let result := (convergeIndex ceiling spec).run Cluster.answer cluster
    ∃ left made, result.2.indices.get? spec.name = some left ∧
      (left.properties = none ↔ index.properties = none) ∧
      result.2.writes = cluster.writes ++ made ∧
      Rests ceiling spec desired made left result.1 := by
  let asked := cluster.recordCall (.indexExists spec.name)
  have hasked : cluster.Undisturbed asked := Cluster.undisturbed_recordCall rfl cluster
  have hplainAsked : asked.scripted = [] := hplain
  have hindexAsked : asked.indices.get? spec.name = some index := hindex
  rcases run_convergeSettings_cases hplainAsked hindexAsked hdesired with
    ⟨refusal, hstop, hstuck, hread⟩ | ⟨hgoes, hstate, hmiddle, made, hmade, hspares⟩
  · have hread := hasked.trans hread
    rw [run_convergeIndex_of_stop hplain hindex ceiling (Prod.ext hstop rfl)]
    refine ⟨index, [], (hread.get? _).trans hindex, .rfl, ?_, .stuck nofun (hstuck ceiling)⟩
    rw [List.append_nil]
    exact hread.writes
  · have hplainMiddle : ((convergeSettings spec).run Cluster.answer asked).2.scripted = [] :=
      (Cluster.scripted_run _ _).trans hplain
    obtain ⟨left, more, hleft, hmapped, hmore, hrests⟩ :=
      run_convergeProperties_rests hplainMiddle hmiddle rfl ceiling hstate
    rw [run_convergeIndex_of_not_stop hplain hindex ceiling rfl hgoes]
    refine ⟨left, made ++ more, hleft, hmapped, ?_, hrests.after hspares⟩
    dsimp only
    rw [hmore, hmade, hasked.writes, List.append_assoc]

end

/-- With the shards and the mapping right, an index is not refused. -/
theorem state_convergeIndex_of_shards {cluster : Cluster} (hplain : cluster.scripted = [])
    {spec : IndexSpec} {desired : Counts} (hdesired : desiredCounts spec = .ok desired)
    {index : StoredIndex} (hindex : cluster.indices.get? spec.name = some index)
    (hshards : index.counts.shards = desired.shards)
    (hsettled : Settled spec desired { index with counts := desired }) (ceiling : Nat) :
    ((convergeIndex ceiling spec).run Cluster.answer cluster).1.state = .created := by
  let asked := cluster.recordCall (.indexExists spec.name)
  have hplainAsked : asked.scripted = [] := hplain
  have hindexAsked : asked.indices.get? spec.name = some index := hindex
  rcases run_convergeSettings_cases hplainAsked hindexAsked hdesired with
    ⟨refusal, -, hstuck, -⟩ | ⟨hgoes, hstate, hmiddle, -⟩
  · cases hstuck ceiling with
    | shards hother => exact absurd hshards.symm hother
    | fieldLoss hcounts htree hcurrent hother =>
        rw [hsettled.mapping _ _ htree hcurrent] at hother
        cases hother
  · have hplainMiddle : ((convergeSettings spec).run Cluster.answer asked).2.scripted = [] :=
      (Cluster.scripted_run _ _).trans hplain
    obtain ⟨hnothing, -⟩ :=
      run_convergeProperties_settled hplainMiddle hmiddle hsettled ceiling
    rw [run_convergeIndex_of_not_stop hplain hindex ceiling rfl hgoes]
    dsimp only
    rw [hnothing]
    exact hstate

/-- An index that is created by a model that tells its counts is settled at once. -/
theorem run_convergeIndex_create_rests {cluster : Cluster} (hplain : cluster.scripted = [])
    {spec : IndexSpec} (hshards : Model.shards spec.model = .ok spec.counts.shards)
    (hreplicas : Model.replicas spec.model = .ok spec.counts.replicas)
    (habsent : cluster.indices.get? spec.name = none) (ceiling : Nat) :
    let result := (convergeIndex ceiling spec).run Cluster.answer cluster
    ∃ left made, result.2.indices.get? spec.name = some left ∧
      result.2.writes = cluster.writes ++ made ∧
      Rests ceiling spec spec.counts made left result.1 := by
  rw [run_convergeIndex_create hplain habsent, createdIndex_eq hshards hreplicas]
  let asked := cluster.recordCall (.indexExists spec.name)
  refine ⟨_, [.createIndex spec.name spec.model], Cluster.get?_seedIndex_self .., ?_,
    .settled state_acknowledged (settled_of_eq rfl rfl)⟩
  exact (Cluster.writes_recordCall asked _).trans
    (congrArg (· ++ _) (Cluster.undisturbed_recordCall rfl cluster).writes)

/-! ## Two passes in a row -/

/-- A pass over an index at rest only reads, and the verdict is the one that goes with the rest. -/
theorem run_convergeIndex_again {cluster : Cluster} (hplain : cluster.scripted = [])
    {spec : IndexSpec} {desired : Counts} (hdesired : desiredCounts spec = .ok desired)
    {left : StoredIndex} (hleft : cluster.indices.get? spec.name = some left) {ceiling : Nat}
    {made : List Call} {verdict : Status} (h : Rests ceiling spec desired made left verdict) :
    let again := (convergeIndex ceiling spec).run Cluster.answer cluster
    cluster.Undisturbed again.2 ∧
      (verdict.state = .created ∧ again.1 = inLine ∨
        verdict.state = .error ∧ again.1 = verdict ∧ SparesMappings made) := by
  cases h with
  | settled hstate hsettled =>
      obtain ⟨hagain, hread⟩ := run_convergeIndex_settled hplain hdesired hleft hsettled ceiling
      exact ⟨hread, .inl ⟨hstate, hagain⟩⟩
  | stuck hspares hstuck =>
      obtain ⟨hagain, hread⟩ := run_convergeIndex_stuck hplain hdesired hleft hstuck
      exact ⟨hread, .inr ⟨rfl, hagain, hspares⟩⟩

/--
A pass over an admitted index is followed by one that only reads.  After
`created` the second pass finds nothing to do; after `error`, where no mapping was
replaced, it gives the same verdict again.
-/
theorem second_pass_only_reads {entry admitted : Entry} {connection : Option Connection}
    {record : Option ObjectRecord} {spec : IndexSpec} {cluster : Cluster} (ceiling : Nat)
    (hadmitted : Rounds.admitEntry entry connection record = .ok admitted)
    (hindex : admitted.object = .index spec) (hplain : cluster.scripted = [])
    {first second : Status × Cluster}
    (hfirst : (converge ceiling admitted.object).run Cluster.answer cluster = first)
    (hsecond : (converge ceiling admitted.object).run Cluster.answer first.2 = second) :
    first.2.Undisturbed second.2 ∧ (first.1.state = .created ∨ first.1.state = .error) ∧
      (first.1.state = .created → second.1 = Status.created (some 200) "") ∧
      (first.1.state = .error → second.1 = first.1 ∧
        ∃ made, first.2.writes = cluster.writes ++ made ∧ SparesMappings made) := by
  have hshape := Admission.checkShape_of_create (Rounds.createComplaints_of_admitEntry hadmitted)
  obtain ⟨hshards, hreplicas⟩ := Rounds.counts_of_admitEntry hadmitted hindex
  have hdesired := desiredCounts_eq hshards hreplicas
  rw [hindex] at hshape hfirst hsecond
  rw [converge_index hshape] at hfirst hsecond
  have hrests : ∃ left made, first.2.indices.get? spec.name = some left ∧
      first.2.writes = cluster.writes ++ made ∧
      Rests ceiling spec spec.counts made left first.1 := by
    rw [← hfirst]
    cases hbefore : cluster.indices.get? spec.name with
    | none => exact run_convergeIndex_create_rests hplain hshards hreplicas hbefore ceiling
    | some index =>
        obtain ⟨left, made, hleft, -, hmade, hrests⟩ :=
          run_convergeIndex_rests hplain hbefore hdesired ceiling
        exact ⟨left, made, hleft, hmade, hrests⟩
  have hplainFirst : first.2.scripted = [] := by
    rw [← hfirst]
    exact (Cluster.scripted_run _ cluster).trans hplain
  obtain ⟨left, made, hleft, hmade, hrests⟩ := hrests
  have hagain := run_convergeIndex_again hplainFirst hdesired hleft hrests
  rw [hsecond] at hagain
  obtain ⟨hread, ⟨hstate, hquiet⟩ | ⟨hstate, hsame, hspares⟩⟩ := hagain
  · refine ⟨hread, .inl hstate, fun _ => hquiet, fun herror => ?_⟩
    cases hstate.symm.trans herror
  · refine ⟨hread, .inr hstate, fun hcreated => ?_, fun _ => ⟨hsame, made, hmade, hspares⟩⟩
    cases hstate.symm.trans hcreated

/-- An index with one mapped field, its counts already in its model. -/
def keyedOrders : IndexSpec :=
  ⟨"orders", "main", ⟨3, 1⟩,
    "\x7b\"mappings\":\x7b\"properties\":\x7b\"id\":\x7b\"type\":\"keyword\"\x7d\x7d\x7d," ++
      "\"settings\":\x7b\"number_of_replicas\":1,\"number_of_shards\":3\x7d\x7d"⟩

def keyedEntry : Entry :=
  ⟨.index keyedOrders, true⟩

theorem admitEntry_keyedEntry : Rounds.admitEntry keyedEntry none none = .ok keyedEntry := by
  decide +kernel

def ordersWithCounts (counts : Counts) : Cluster :=
  Cluster.empty.seedIndex "orders" ⟨counts, none⟩

def keyedPass (cluster : Cluster) : Status × Cluster :=
  (converge 64 keyedEntry.object).run Cluster.answer cluster

/-- Other replicas are put once; other shards are refused again and again. -/
theorem second_pass_over_orders :
    (keyedPass (ordersWithCounts ⟨3, 2⟩)).1.state = .created ∧
      (keyedPass (keyedPass (ordersWithCounts ⟨3, 2⟩)).2).1 = Status.created (some 200) "" ∧
      (keyedPass (ordersWithCounts ⟨5, 1⟩)).1.state = .error ∧
      (keyedPass (keyedPass (ordersWithCounts ⟨5, 1⟩)).2).1 =
        (keyedPass (ordersWithCounts ⟨5, 1⟩)).1 := by
  have hplain (counts : Counts) : (ordersWithCounts counts).scripted = [] := rfl
  have hstored (counts : Counts) :
      (ordersWithCounts counts).indices.get? keyedOrders.name = some ⟨counts, none⟩ :=
    Cluster.get?_seedIndex_self ..
  obtain ⟨hshards, hreplicas⟩ := Rounds.counts_of_admitEntry admitEntry_keyedEntry rfl
  have hdesired := desiredCounts_eq hshards hreplicas
  have hshape := Admission.checkShape_of_create
    (Rounds.createComplaints_of_admitEntry admitEntry_keyedEntry)
  have hpass (cluster : Cluster) :
      keyedPass cluster = (convergeIndex 64 keyedOrders).run Cluster.answer cluster :=
    congrArg (Program.run Cluster.answer · cluster) (converge_index hshape 64)
  have hsettled : Settled keyedOrders keyedOrders.counts ⟨keyedOrders.counts, none⟩ :=
    ⟨rfl, fun tree current htree hcurrent => by cases hcurrent⟩
  have hstuck : Stuck 64 keyedOrders keyedOrders.counts ⟨⟨5, 1⟩, none⟩ _ := .shards (by decide)
  have hsame : (⟨3, 2⟩ : Counts).shards = keyedOrders.counts.shards := by decide
  have hcreated := state_convergeIndex_of_shards (hplain ⟨3, 2⟩) hdesired (hstored ⟨3, 2⟩)
    hsame hsettled 64
  have herror := congrArg Status.state
    (run_convergeIndex_stuck (hplain ⟨5, 1⟩) hdesired (hstored ⟨5, 1⟩) hstuck).1
  rw [← hpass] at hcreated herror
  have hrun (cluster : Cluster) :
      (converge 64 keyedEntry.object).run Cluster.answer cluster = keyedPass cluster := rfl
  have hmoved := second_pass_only_reads 64 admitEntry_keyedEntry rfl (hplain ⟨3, 2⟩)
    (hrun _) (hrun _)
  have hrefused := second_pass_only_reads 64 admitEntry_keyedEntry rfl (hplain ⟨5, 1⟩)
    (hrun _) (hrun _)
  exact ⟨hcreated, hmoved.2.2.1 hcreated, herror, (hrefused.2.2.2 herror).1⟩

end SchemaKeeper.Convergence
