import SchemaKeeper.Convergence
import SchemaKeeper.Proofs.Cluster

/-!
# Convergence loses nothing

Along any row of convergence passes over a cluster every index stays, keeps its
shards and keeps every field of its mapping, at whatever depth.  Calls may be
scripted to fail or to lie, except that mappings are read truthfully: the check
before a mapping is replaced rests on that reading alone.
-/

namespace SchemaKeeper.Convergence

open Program

/-- Passes one after the other, each with a ceiling of its own. -/
def convergeAll : List (Nat × DesiredObject) → Program (List Status)
  | [] => return []
  | (ceiling, object) :: passes => do
      let status ← converge ceiling object
      let statuses ← convergeAll passes
      return status :: statuses

/-! ## What one pass keeps -/

theorem keeps_ask_retains {c : Call} (h : c.risksIndices = false) (cluster : Cluster) :
    (ask c).Keeps Cluster.answer Cluster.Retains cluster :=
  (keeps_ask c cluster).mpr (Cluster.retains_answer h cluster)

theorem keeps_convergeSettings (spec : IndexSpec) (cluster : Cluster) :
    (convergeSettings spec).Keeps Cluster.answer Cluster.Retains cluster := by
  unfold convergeSettings
  cases desiredCounts spec with
  | error e => exact keeps_pure _ cluster
  | ok desired =>
      refine keeps_bind.mpr ⟨keeps_ask_retains rfl cluster, ?_⟩
      cases (run Cluster.answer (ask (.indexSettings spec.name)) cluster).1 with
      | error e => exact keeps_pure _ _
      | ok settings =>
          dsimp only
          split
          · exact keeps_pure _ _
          · split
            · exact keeps_pure _ _
            · split
              · exact keeps_pure _ _
              · exact keeps_bind.mpr ⟨keeps_ask_retains rfl _, by split <;> exact keeps_pure _ _⟩

/-- The tree that is replaced is the tree that was compared. -/
theorem keeps_convergeProperties (cluster : Cluster)
    (hread : cluster.scripted.lookup .indexProperties = none) (ceiling : Nat) (spec : IndexSpec) :
    (convergeProperties ceiling spec).Keeps Cluster.answer Cluster.Retains cluster := by
  unfold convergeProperties
  cases Model.properties spec.model with
  | none => exact keeps_pure _ cluster
  | some desired =>
      refine keeps_bind.mpr ⟨keeps_ask_retains rfl cluster, ?_⟩
      rw [run_ask]
      cases hfound : (cluster.answer (.indexProperties spec.name)).1 with
      | error e => exact keeps_pure _ _
      | ok found =>
          cases found with
          | none => exact keeps_pure _ _
          | some current =>
              obtain ⟨index, hindex, hcurrent⟩ :=
                Cluster.exists_of_answer_indexProperties hread hfound
              dsimp only
              split
              · exact keeps_pure _ _
              · split
                · exact keeps_pure _ _
                next hsafe =>
                  have hsafe : Compatibility.isSafe ceiling current desired = true := by
                    simpa using hsafe
                  refine keeps_bind.mpr ⟨(keeps_ask _ _).mpr ?_, keeps_pure _ _⟩
                  apply Cluster.retains_answer_putIndexProperties
                  rintro stored path hstored ⟨tree, htree, hpath⟩
                  rw [Cluster.indices_answer_of_read rfl] at hstored
                  obtain rfl : index = stored := Option.some.inj (hindex.symm.trans hstored)
                  obtain rfl : current = tree := Option.some.inj (hcurrent.symm.trans htree)
                  exact Compatibility.hasField_of_isSafe hsafe hpath

theorem keeps_convergeIndex {cluster : Cluster}
    (hread : cluster.scripted.lookup .indexProperties = none) (ceiling : Nat) (spec : IndexSpec) :
    (convergeIndex ceiling spec).Keeps Cluster.answer Cluster.Retains cluster := by
  unfold convergeIndex
  refine keeps_bind.mpr ⟨keeps_ask_retains rfl cluster, ?_⟩
  cases (run Cluster.answer (ask (.indexExists spec.name)) cluster).1 with
  | error e => exact keeps_pure _ _
  | ok found =>
      cases found with
      | false => exact keeps_bind.mpr ⟨keeps_ask_retains rfl _, keeps_pure _ _⟩
      | true =>
          refine keeps_bind.mpr ⟨keeps_convergeSettings spec _, ?_⟩
          have hproperties := keeps_convergeProperties
            (run Cluster.answer (convergeSettings spec)
              (run Cluster.answer (ask (.indexExists spec.name)) cluster).2).2
            (by simpa using hread) ceiling spec
          split
          · exact keeps_pure _ _
          · exact keeps_bind.mpr ⟨hproperties, by split <;> exact keeps_pure _ _⟩
          · exact keeps_bind.mpr ⟨hproperties, by split <;> exact keeps_pure _ _⟩

theorem keeps_converge {cluster : Cluster}
    (hread : cluster.scripted.lookup .indexProperties = none) (ceiling : Nat)
    (object : DesiredObject) :
    (converge ceiling object).Keeps Cluster.answer Cluster.Retains cluster := by
  unfold converge
  split
  · exact keeps_pure _ cluster
  · cases object with
    | index spec => exact keeps_convergeIndex hread ceiling spec
    | template spec =>
        refine keeps_bind.mpr ⟨keeps_ask_retains rfl cluster, ?_⟩
        split
        · exact keeps_pure _ _
        · exact keeps_bind.mpr ⟨keeps_ask_retains rfl _, keeps_pure _ _⟩
    | pipeline spec => exact keeps_bind.mpr ⟨keeps_ask_retains rfl cluster, keeps_pure _ _⟩

/-! ## What a row of passes keeps -/

theorem keeps_convergeAll {cluster : Cluster}
    (hread : cluster.scripted.lookup .indexProperties = none)
    (passes : List (Nat × DesiredObject)) :
    (convergeAll passes).Keeps Cluster.answer Cluster.Retains cluster := by
  induction passes generalizing cluster with
  | nil => exact keeps_pure _ cluster
  | cons pass passes ih =>
      obtain ⟨ceiling, object⟩ := pass
      refine keeps_bind.mpr ⟨keeps_converge hread ceiling object, ?_⟩
      exact keeps_bind.mpr ⟨ih (by simpa using hread), keeps_pure _ _⟩

/--
At any later point of a row of passes, also between two calls of one pass, every
index of an earlier point is there with its shards and its fields.
-/
theorem convergeAll_retains (cluster : Cluster)
    (hread : cluster.scripted.lookup .indexProperties = none)
    (passes : List (Nat × DesiredObject)) :
    (cluster :: (convergeAll passes).worlds Cluster.answer cluster).Pairwise Cluster.Retains :=
  pairwise_worlds (keeps_convergeAll hread passes)

/-- A mapping with fields below an address. -/
def addressWith (fields : List (String × Json)) : Json :=
  .object [("properties", .object [("address", .object [("properties", .object fields)])])]

def city : String × Json :=
  ("city", .object [])

def zip : String × Json :=
  ("zip", .object [("type", .string "keyword")])

/-- A cluster that has the index with one nested field and refuses new replicas. -/
def busyCluster : Cluster :=
  (Cluster.empty.seedIndex "orders" ⟨⟨3, 1⟩, some (addressWith [city])⟩).script
    .putIndexReplicas (.ok ⟨503, "busy"⟩)

/-- One pass wants more replicas, the next one a field beside the nested one. -/
def growingPasses : List (Nat × DesiredObject) :=
  [(64, .index ⟨"orders", "main", ⟨3, 2⟩,
      "\x7b\"settings\":\x7b\"number_of_shards\":3,\"number_of_replicas\":2\x7d\x7d"⟩),
    (64, .index ⟨"orders", "main", ⟨3, 1⟩,
      (Json.object [("mappings", addressWith [city, zip])]).compact⟩)]

/-- The first pass stops at the refused replicas, the second one puts the wider mapping. -/
theorem retains_under_refused_replicas :
    busyCluster.scripted.lookup .indexProperties = none ∧
      (((convergeAll growingPasses).run Cluster.answer busyCluster).2.indices.get? "orders").bind
        StoredIndex.properties = some (addressWith [city, zip]) ∧
      (busyCluster :: (convergeAll growingPasses).worlds Cluster.answer busyCluster).Pairwise
        Cluster.Retains :=
  ⟨rfl, by decide +kernel, convergeAll_retains busyCluster rfl growingPasses⟩

end SchemaKeeper.Convergence
