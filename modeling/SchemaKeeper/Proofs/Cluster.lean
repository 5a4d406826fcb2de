import SchemaKeeper.Gateway.Cluster
import SchemaKeeper.Proofs.Compatibility
import SchemaKeeper.Proofs.Program

/-!
# What a call leaves of a cluster

Scripts never change by a call.  An index is retained when it is still there
with its shards and with every field of its mapping; each call of a
convergence pass but the one that replaces a mapping tree retains all indices,
whatever is scripted.
-/

namespace SchemaKeeper

/-- Whether an index may be missing or lack fields after a call. -/
def Call.risksIndices : Call → Bool
  | .deleteIndex _ | .putIndexProperties .. => true
  | _ => false

namespace StoredIndex

/-- A chain of field names leads somewhere in the stored mapping. -/
def HasField (index : StoredIndex) (path : List String) : Prop :=
  ∃ tree, index.properties = some tree ∧ Compatibility.HasField tree path

structure Retains (earlier later : StoredIndex) : Prop where
  shards : later.counts.shards = earlier.counts.shards
  fields : ∀ path, earlier.HasField path → later.HasField path

theorem Retains.refl (index : StoredIndex) : index.Retains index :=
  ⟨rfl, fun _ h => h⟩

theorem Retains.trans {a b c : StoredIndex} (hab : a.Retains b) (hbc : b.Retains c) :
    a.Retains c :=
  ⟨hbc.shards.trans hab.shards, fun path h => hbc.fields path (hab.fields path h)⟩

end StoredIndex

namespace Cluster

/-! ## Scripts and single answers -/

theorem scripted_changeIndex (cluster : Cluster) (name : String)
    (change : StoredIndex → StoredIndex) :
    (cluster.changeIndex name change).2.scripted = cluster.scripted := by
  unfold changeIndex
  split <;> rfl

theorem respond_of_read {c : Call} (h : c.isWrite = false) (cluster : Cluster) :
    (cluster.respond c).2 = cluster := by
  cases c with
  | ping | indexExists | templateExists => rfl
  | indexSettings name | indexProperties name =>
      cases hindex : cluster.indices.get? name <;> simp [respond, hindex]
  | putIndexReplicas | putIndexProperties | createIndex | deleteIndex | putTemplate
  | deleteTemplate | putPipeline | deletePipeline => simp [Call.isWrite] at h

theorem scripted_respond (c : Call) (cluster : Cluster) :
    (cluster.respond c).2.scripted = cluster.scripted := by
  cases c with
  | ping | indexExists | indexSettings | indexProperties | templateExists =>
      rw [respond_of_read rfl]
  | putTemplate | putPipeline => rfl
  | putIndexReplicas | putIndexProperties => exact scripted_changeIndex ..
  | createIndex name | deleteIndex name =>
      by_cases h : cluster.indices.contains name <;> simp [respond, h, seedIndex]
  | deleteTemplate name => by_cases h : cluster.templates.contains name <;> simp [respond, h]
  | deletePipeline name => by_cases h : cluster.pipelines.contains name <;> simp [respond, h]

@[simp] theorem scripted_answer (c : Call) (cluster : Cluster) :
    (cluster.answer c).2.scripted = cluster.scripted := by
  unfold answer
  split
  · rfl
  · exact scripted_respond c (cluster.recordCall c)

@[simp] theorem scripted_run {α : Type} (p : Program α) (cluster : Cluster) :
    (p.run answer cluster).2.scripted = cluster.scripted := by
  induction p generalizing cluster with
  | done result => rfl
  | call c rest ih => exact (ih _ _).trans (scripted_answer c cluster)

theorem answer_of_unscripted (c : Call) {cluster : Cluster}
    (h : cluster.scripted.lookup c.method = none) :
    cluster.answer c = (cluster.recordCall c).respond c := by
  simp [answer, h]

theorem answer_of_scripted (c : Call) {cluster : Cluster} {outcome : Outcome}
    (h : cluster.scripted.lookup c.method = some outcome) :
    cluster.answer c = (scriptedAnswer outcome c, cluster.recordCall c) := by
  simp [answer, h]

theorem indices_answer_of_read {c : Call} (h : c.isWrite = false) (cluster : Cluster) :
    (cluster.answer c).2.indices = cluster.indices := by
  unfold answer
  split
  · rfl
  · rw [respond_of_read h]
    rfl

/-! ## Clusters without scripts -/

theorem answer_of_plain {cluster : Cluster} (h : cluster.scripted = []) (c : Call) :
    cluster.answer c = (cluster.recordCall c).respond c :=
  answer_of_unscripted c (by simp [h])

theorem answer_indexSettings {cluster : Cluster} (hplain : cluster.scripted = []) {name : String}
    {index : StoredIndex} (h : cluster.indices.get? name = some index) :
    cluster.answer (.indexSettings name) =
      (.ok (settingsDocument name index.counts), cluster.recordCall (.indexSettings name)) := by
  rw [answer_of_plain hplain]
  simp [respond, recordCall, h]

theorem answer_indexProperties {cluster : Cluster} (hplain : cluster.scripted = [])
    {name : String} {index : StoredIndex} (h : cluster.indices.get? name = some index) :
    cluster.answer (.indexProperties name) =
      (.ok index.properties, cluster.recordCall (.indexProperties name)) := by
  rw [answer_of_plain hplain]
  simp [respond, recordCall, h]

theorem answer_indexExists {cluster : Cluster} (hplain : cluster.scripted = []) {name : String}
    {index : StoredIndex} (h : cluster.indices.get? name = some index) :
    cluster.answer (.indexExists name) = (.ok true, cluster.recordCall (.indexExists name)) := by
  rw [answer_of_plain hplain]
  simp [respond, recordCall, Table.contains, h]

theorem changeIndex_of_some {cluster : Cluster} {name : String} {index : StoredIndex}
    (h : cluster.indices.get? name = some index) (change : StoredIndex → StoredIndex) :
    cluster.changeIndex name change =
      (acknowledged, cluster.seedIndex name (change index)) := by
  simp [changeIndex, h]

theorem answer_putIndexReplicas (cluster : Cluster) (hplain : cluster.scripted = [])
    {name : String} {index : StoredIndex} (h : cluster.indices.get? name = some index)
    (replicas : UInt32) :
    cluster.answer (.putIndexReplicas name replicas) =
      (.ok acknowledged, (cluster.recordCall (.putIndexReplicas name replicas)).seedIndex
        name { index with counts := { index.counts with replicas } }) := by
  rw [answer_of_plain hplain]
  have hrecorded : (cluster.recordCall (.putIndexReplicas name replicas)).indices.get? name =
      some index := h
  simp only [respond]
  rw [changeIndex_of_some hrecorded]

theorem answer_putIndexProperties (cluster : Cluster) (hplain : cluster.scripted = [])
    {name : String} {index : StoredIndex} (h : cluster.indices.get? name = some index)
    (properties : Json) :
    cluster.answer (.putIndexProperties name properties) =
      (.ok acknowledged, (cluster.recordCall (.putIndexProperties name properties)).seedIndex
        name { index with properties := some properties }) := by
  rw [answer_of_plain hplain]
  have hrecorded : (cluster.recordCall (.putIndexProperties name properties)).indices.get? name =
      some index := h
  simp only [respond]
  rw [changeIndex_of_some hrecorded]

theorem get?_seedIndex_self (cluster : Cluster) (name : String) (index : StoredIndex) :
    (cluster.seedIndex name index).indices.get? name = some index := by
  simp [seedIndex, Table.get?_insert]

/-! ## Retained indices -/

/-- Every index stays, with its shards and the fields of its mapping. -/
def Retains (earlier later : Cluster) : Prop :=
  ∀ name index, earlier.indices.get? name = some index →
    ∃ kept, later.indices.get? name = some kept ∧ index.Retains kept

theorem retains_of_indices_eq {earlier later : Cluster} (h : later.indices = earlier.indices) :
    earlier.Retains later := by
  intro name index hindex
  exact ⟨index, h ▸ hindex, .refl index⟩

theorem Retains.trans {a b c : Cluster} (hab : a.Retains b) (hbc : b.Retains c) :
    a.Retains c := by
  intro name index hindex
  obtain ⟨middle, hmiddle, hfirst⟩ := hab name index hindex
  obtain ⟨kept, hkept, hsecond⟩ := hbc name middle hmiddle
  exact ⟨kept, hkept, hfirst.trans hsecond⟩

instance : Trans Retains Retains Retains :=
  ⟨Retains.trans⟩

/-- Storing an index retains all, as long as it retains the index it replaces. -/
theorem retains_seedIndex {cluster : Cluster} {name : String} {stored : StoredIndex}
    (h : ∀ index, cluster.indices.get? name = some index → index.Retains stored) :
    cluster.Retains (cluster.seedIndex name stored) := by
  intro other index hindex
  by_cases hname : other = name
  · subst hname
    exact ⟨stored, by simp [seedIndex, Table.get?_insert], h index hindex⟩
  · exact ⟨index, by simpa [seedIndex, Table.get?_insert, hname] using hindex, .refl index⟩

theorem retains_changeIndex (cluster : Cluster) {name : String}
    {change : StoredIndex → StoredIndex}
    (h : ∀ index, cluster.indices.get? name = some index → index.Retains (change index)) :
    cluster.Retains (cluster.changeIndex name change).2 := by
  unfold changeIndex
  split
  next stored hstored =>
    apply retains_seedIndex
    intro index hindex
    obtain rfl : stored = index := Option.some.inj (hstored.symm.trans hindex)
    exact h stored hstored
  next => exact retains_of_indices_eq rfl

theorem retains_createIndex (cluster : Cluster) (name model : String) :
    cluster.Retains (cluster.respond (.createIndex name model)).2 := by
  by_cases hstored : cluster.indices.contains name
  · exact retains_of_indices_eq (by simp [respond, hstored])
  · rw [show (cluster.respond (.createIndex name model)).2 =
      cluster.seedIndex name (createdIndex model) by simp [respond, hstored]]
    apply retains_seedIndex
    intro index hindex
    exact absurd (Table.contains_eq_true_iff.mpr ⟨index, hindex⟩) hstored

/-- A call that neither removes an index nor replaces a mapping tree retains all indices. -/
theorem retains_answer {c : Call} (h : c.risksIndices = false) (cluster : Cluster) :
    cluster.Retains (cluster.answer c).2 := by
  cases hscript : cluster.scripted.lookup c.method with
  | some outcome =>
      rw [answer_of_scripted _ hscript]
      exact retains_of_indices_eq rfl
  | none =>
      rw [answer_of_unscripted _ hscript]
      cases c with
      | putIndexProperties | deleteIndex => simp [Call.risksIndices] at h
      | ping | indexExists | indexSettings | indexProperties | templateExists =>
          rw [respond_of_read rfl]
          exact retains_of_indices_eq rfl
      | putIndexReplicas name replicas =>
          exact retains_changeIndex (cluster.recordCall (.putIndexReplicas name replicas))
            fun index _ => ⟨rfl, fun _ hpath => hpath⟩
      | createIndex name model =>
          exact retains_createIndex (cluster.recordCall (.createIndex name model)) name model
      | putTemplate | putPipeline => exact retains_of_indices_eq rfl
      | deleteTemplate name =>
          by_cases hstored : cluster.templates.contains name <;>
            exact retains_of_indices_eq (by simp [respond, recordCall, hstored])
      | deletePipeline name =>
          by_cases hstored : cluster.pipelines.contains name <;>
            exact retains_of_indices_eq (by simp [respond, recordCall, hstored])

/-- Replacing a mapping tree retains all indices if the fields of the old tree are in the new. -/
theorem retains_answer_putIndexProperties {cluster : Cluster} {name : String} {properties : Json}
    (h : ∀ index path, cluster.indices.get? name = some index → index.HasField path →
      Compatibility.HasField properties path) :
    cluster.Retains (cluster.answer (.putIndexProperties name properties)).2 := by
  cases hscript : cluster.scripted.lookup (Call.putIndexProperties name properties).method with
  | some outcome =>
      rw [answer_of_scripted _ hscript]
      exact retains_of_indices_eq rfl
  | none =>
      rw [answer_of_unscripted _ hscript]
      apply retains_changeIndex (cluster.recordCall (.putIndexProperties name properties))
      intro index hindex
      exact ⟨rfl, fun path hpath => ⟨properties, rfl, h index path hindex hpath⟩⟩

theorem exists_of_answer_indexProperties {cluster : Cluster} {name : String} {tree : Json}
    (hread : cluster.scripted.lookup .indexProperties = none)
    (h : (cluster.answer (.indexProperties name)).1 = .ok (some tree)) :
    ∃ index, cluster.indices.get? name = some index ∧ index.properties = some tree := by
  rw [answer_of_unscripted (.indexProperties name) hread] at h
  cases hindex : cluster.indices.get? name with
  | none => simp [respond, recordCall, hindex] at h
  | some index =>
      simp only [respond, recordCall, hindex, Except.ok.injEq] at h
      exact ⟨index, rfl, h⟩

end Cluster

end SchemaKeeper
