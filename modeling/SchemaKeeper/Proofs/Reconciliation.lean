import SchemaKeeper.Proofs.Program
import SchemaKeeper.Rounds

/-!
# What a pass makes of the marker

The marker follows from the place in the life cycle alone: no connector and no
cluster has a say in it.  Passes of a round are made one after the other, so
every outcome of a round is the outcome of a pass over some world.
-/

namespace SchemaKeeper

def Lifecycle.Decision.action : Lifecycle.Decision → MarkerAction
  | .register => .add
  | .converge | .released => .keep
  | .finalize _ => .remove

/-- A cluster is needed only while the marker is on, and for a deletion only if it is asked for. -/
theorem Lifecycle.present_of_decide {lifecycle : Lifecycle}
    (h : lifecycle.decide = .converge ∨ lifecycle.decide = .finalize true) :
    lifecycle.markerPresent = true ∧
      (lifecycle.deletionRequested = true →
        lifecycle.deleteInCluster = true ∧ lifecycle.decide ≠ .converge) := by
  obtain ⟨requested, present, deleteInCluster⟩ := lifecycle
  cases requested <;> cases present <;> simp_all [decide]

variable {World : Type}

/-- The outcome of a finalization, whatever a cluster has to say. -/
theorem reconcile_finalize {runtime : Runtime} {connector : Connector World}
    {request : ReconcileRequest} {world : World} {deleteInCluster : Bool}
    (h : request.lifecycle.decide = .finalize deleteInCluster) :
    (reconcile runtime connector request world).1 = .onlyMarker .remove := by
  unfold reconcile ReconcileRequest.pass
  rw [h]
  cases deleteInCluster with
  | false => rfl
  | true =>
      cases request.connection with
      | error e => rfl
      | ok connection =>
          simp only [Pass.run]
          split
          · rfl
          · rw [Program.run_bind]
            rfl

theorem marker_reconcile (runtime : Runtime) (connector : Connector World)
    (request : ReconcileRequest) (world : World) :
    (reconcile runtime connector request world).1.marker = request.lifecycle.decide.action := by
  cases hdecide : request.lifecycle.decide with
  | finalize deleteInCluster =>
      rw [reconcile_finalize hdecide]
      rfl
  | register | released =>
      unfold reconcile ReconcileRequest.pass
      rw [hdecide]
      rfl
  | converge =>
      unfold reconcile ReconcileRequest.pass
      rw [hdecide]
      cases request.connection with
      | error e => rfl
      | ok connection =>
          simp only [Pass.run]
          split
          · rfl
          · rw [Program.run_bind]
            rfl

namespace Rounds

theorem marker_of_mem_zip {runtime : Runtime} {connector : Connector World}
    {requests : List ReconcileRequest} {world : World} {request : ReconcileRequest}
    {outcome : ReconcileOutcome}
    (h : (request, outcome) ∈ requests.zip (reconcileAll runtime connector requests world).1) :
    outcome.marker = request.lifecycle.decide.action := by
  induction requests generalizing world with
  | nil => cases h
  | cons first requests ih =>
      rcases List.mem_cons.mp h with hfirst | hrest
      · cases hfirst
        exact marker_reconcile runtime connector request world
      · exact ih hrest

theorem length_reconcileAll (runtime : Runtime) (connector : Connector World)
    (requests : List ReconcileRequest) (world : World) :
    (reconcileAll runtime connector requests world).1.length = requests.length := by
  induction requests generalizing world with
  | nil => rfl
  | cons request requests ih =>
      simp only [reconcileAll, List.length_cons]
      rw [ih]

section

variable {α : Type} {runtime : Runtime} {connector : Connector World}
  {request : α → ReconcileRequest} {items : List α} {world : World}

theorem marker_of_mem_zip_map {item : α × ReconcileOutcome}
    (h : item ∈ items.zip (reconcileAll runtime connector (items.map request) world).1) :
    item.2.marker = (request item.1).lifecycle.decide.action := by
  have hzip := List.mem_map_of_mem (f := Prod.map request id) h
  rw [← List.zip_map_left] at hzip
  exact marker_of_mem_zip hzip

theorem map_zip_reconcileAll {β : Type} (f : α → β) :
    (items.zip (reconcileAll runtime connector (items.map request) world).1).map
        (fun item => f item.1) = items.map f := by
  have hfirst :
      (items.zip (reconcileAll runtime connector (items.map request) world).1).map Prod.fst =
        items := by
    apply List.map_fst_zip
    rw [length_reconcileAll, List.length_map]
  conv_rhs => rw [← hfirst, List.map_map]
  rfl

end

end Rounds

end SchemaKeeper
