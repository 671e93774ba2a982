import Delivery.Proofs.Store.Reachable
import Delivery.Store.Pipelines
set_option autoImplicit false

namespace Delivery.Store

def OnlyRuns (before after : Store) : Prop :=
  after = { before with workflows := after.workflows }

structure Built (run : WorkflowId) (key : ArtifactId) (store : Store) : Prop where
  succeeded : ∃ workflow, store.workflows.get? run = some workflow ∧ workflow.status = .succeeded
  artifact : ∃ artifact, store.artifactOfWorkflow run = some artifact ∧ artifact.id = key

section Runs

variable {before after : Store} {run : WorkflowId} {key : ArtifactId} {workflow : CiWorkflow}

theorem only_runs_trans {first second third : Store} (left : OnlyRuns first second) (right : OnlyRuns second third) :
    OnlyRuns first third := by
  rw [OnlyRuns] at left right ⊢
  rw [left] at right
  exact right

theorem only_runs_artifact (only : OnlyRuns before after) :
    after.artifactOfWorkflow run = before.artifactOfWorkflow run := by
  rw [only]
  rfl

theorem only_runs_filed (only : OnlyRuns before after) (filed : ArtifactsFiled before) : ArtifactsFiled after := by
  rw [only]
  exact filed

theorem only_runs_count (only : OnlyRuns before after) : after.artifactCount = before.artifactCount := by
  rw [only]

theorem only_runs_orderly (only : OnlyRuns before after) (orderly : Orderly before) : Orderly after := by
  rw [only]
  exact ⟨orderly.pipelines, orderly.chartRefs, orderly.artifacts, orderly.charts⟩

theorem only_runs_children (only : OnlyRuns before after) (id : CiPipelineId) :
    after.childrenOf id = before.childrenOf id := by
  rw [only]
  rfl

theorem only_runs_insert (only : OnlyRuns before after) (artifacts : List NewArtifact) :
    OnlyRuns (before.insertArtifacts artifacts).2 (after.insertArtifacts artifacts).2 := by
  induction artifacts generalizing before after with
  | nil => exact only
  | cons artifact rest ih =>
      have next : OnlyRuns (before.insertArtifact artifact).2 (after.insertArtifact artifact).2 := by
        rw [only]
        rfl
      exact ih next

theorem only_runs_inserted (only : OnlyRuns before after) (artifacts : List NewArtifact) :
    (after.insertArtifacts artifacts).1 = (before.insertArtifacts artifacts).1 := by
  rw [insert_artifacts_numbered, insert_artifacts_numbered, only]

theorem update_workflow_allowed (done : before.updateWorkflow workflow = .ok ((), after)) :
    ∃ current, before.workflows.get? workflow.id = some current ∧
      current.status.mayBecome workflow.status = true := by
  rw [updateWorkflow] at done
  split at done
  · cases done
  · split at done
    case h_2.isTrue current found allowed => exact ⟨current, found, allowed⟩
    case h_2.isFalse => cases done

theorem update_built (built : Built run key before) (done : before.updateWorkflow workflow = .ok ((), after)) :
    Built run key after := by
  obtain ⟨current, found, allowed⟩ := update_workflow_allowed done
  obtain ⟨⟨finished, there, succeeded⟩, artifact⟩ := built
  obtain rfl := update_workflow_ok done
  have other : run ≠ workflow.id := by
    rintro rfl
    rw [Option.some.inj (there.symm.trans found)] at succeeded
    rw [succeeded] at allowed
    cases allowed
  exact ⟨⟨finished, (Table.get_insert_other _ _ other).trans there, succeeded⟩, artifact⟩

theorem artifact_after_insert {artifacts : List NewArtifact} (run : WorkflowId) (filed : ArtifactsFiled before)
    (room : before.artifactCount + artifacts.length < Id.capacity) :
    (before.insertArtifacts artifacts).2.artifactOfWorkflow run = (before.artifactOfWorkflow run).or
      ((numbered before.artifactCount artifacts).find? fun artifact => artifact.workflowId == some run) := by
  rw [artifactOfWorkflow, Table.find?, insert_artifacts_rows filed room, List.find?_append]
  rfl

theorem insert_built {artifacts : List NewArtifact} (filed : ArtifactsFiled before)
    (room : before.artifactCount + artifacts.length < Id.capacity) (built : Built run key before) :
    Built run key (before.insertArtifacts artifacts).2 := by
  obtain ⟨succeeded, artifact, found, named⟩ := built
  constructor
  · rw [insert_artifacts_only before artifacts]
    exact succeeded
  · refine ⟨artifact, ?_, named⟩
    rw [artifact_after_insert run filed room, found]
    rfl

end Runs

end Delivery.Store
