import Delivery.Proofs.Store.Builds
import Delivery.Proofs.Store.Charts
import Delivery.Store.History
set_option autoImplicit false

namespace Delivery.Store

inductive Transaction (store : Store) : Store → Prop where
  | putApp (app : Application) : Transaction store (store.putApp app)
  | putEnvironment (environment : Environment) : Transaction store (store.putEnvironment environment)
  | putCiPipeline (pipeline : CiPipeline) : Transaction store (store.putCiPipeline pipeline)
  | putExternalCi (external : ExternalCiPipeline) : Transaction store (store.putExternalCi external)
  | putCdPipeline (pipeline : CdPipeline) : Transaction store (store.putCdPipeline pipeline)
  | putChartRepo (repo : ChartRepo) (isDefault : Bool) : Transaction store (store.putChartRepo repo isDefault)
  | putChartRef (chartRef : ChartRef) : Transaction store (store.putChartRef chartRef)
  | putUser (user : User) : Transaction store (store.putUser user)
  | insertWorkflow {workflow : CiWorkflow} {after : Store} (done : store.insertWorkflow workflow = .ok ((), after)) :
      Transaction store after
  | updateWorkflow {workflow : CiWorkflow} {after : Store} (done : store.updateWorkflow workflow = .ok ((), after)) :
      Transaction store after
  | saveArtifact {artifact : NewArtifact} {row : Artifact} {after : Store}
      (done : store.saveArtifact artifact = .ok (row, after)) : Transaction store after
  | saveArtifacts {artifacts : List NewArtifact} {rows : List Artifact} {after : Store}
      (done : store.saveArtifacts artifacts = .ok (rows, after)) : Transaction store after
  | saveArtifactOfWorkflow {artifact : NewArtifact} {id : WorkflowId} {now : Instant} {row : Artifact} {after : Store}
      (done : store.saveArtifactOfWorkflow artifact id now = .ok (row, after)) : Transaction store after
  | deleteArtifact {id : ArtifactId} {after : Store} (done : store.deleteArtifact id = .ok ((), after)) :
      Transaction store after
  | createChart {chart : NewChart} {row : Chart} {after : Store}
      (done : store.createChart chart = .ok (row, after)) : Transaction store after
  | updateChart {chart : Chart} {row : Chart} {after : Store} (done : store.updateChart chart = .ok (row, after)) :
      Transaction store after
  | createOverride {override : NewEnvOverride} {row : EnvOverride} {after : Store}
      (done : store.createOverride override = .ok (row, after)) : Transaction store after
  | setAppMetrics (app : AppId) (enabled : Bool) (user : UserId) (now : Instant) :
      Transaction store (store.setAppMetrics app enabled user now).2
  | setEnvMetrics (app : AppId) (environment : EnvironmentId) (enabled : Bool) (user : UserId) (now : Instant) :
      Transaction store (store.setEnvMetrics app environment enabled user now).2
  | appendHistory (row : NewHistory) : Transaction store (store.appendHistory row).2
  | appendHistories (rows : List NewHistory) : Transaction store (store.appendHistories rows).2
  | insertRunner {run : CdWorkflowRunner} {after : Store} (done : store.insertRunner run = .ok ((), after)) :
      Transaction store after

inductive Reachable : Store → Prop where
  | empty : Reachable .empty
  | step {before after : Store} (reached : Reachable before) (transaction : Transaction before after) :
      Reachable after

structure Orderly (store : Store) : Prop where
  pipelines : ∀ {key row}, store.ciPipelines.get? key = some row → row.id = key
  chartRefs : ∀ {key row}, store.chartRefs.get? key = some row → row.id = key
  artifacts : ArtifactsFiled store
  charts : ChartsFiled store

theorem own_insert {kind : EntityKind} {α : Type} {name : α → Id kind} {table : Table (Id kind) α} (row : α)
    (own : ∀ {key old}, table.get? key = some old → name old = key) {key : Id kind} {old : α}
    (found : (table.insert (name row) row).get? key = some old) : name old = key := by
  by_cases same : key = name row
  · rw [same, Table.get_insert_same] at found
    rw [same, Option.some.inj found]
  · rw [Table.get_insert_other _ _ same] at found
    exact own found

theorem insert_runner_ok {store after : Store} {run : CdWorkflowRunner}
    (done : store.insertRunner run = .ok ((), after)) :
    after = { store with runners := store.runners.insert run.id run } := by
  rw [insertRunner] at done
  split at done
  · cases done
  · cases done; rfl

theorem orderly_empty : Orderly .empty :=
  ⟨nofun, nofun, filed_empty _ _, filed_empty _ _⟩

theorem inserted_orderly {store after : Store} {artifacts : List NewArtifact} {rows : List Artifact}
    (inserted : store.insertArtifacts artifacts = (rows, after)) (orderly : Orderly store) : Orderly after := by
  obtain ⟨_, rfl⟩ := inserted_parts inserted
  have only : OnlyArtifacts store (store.insertArtifacts artifacts).2 := insert_artifacts_only store artifacts
  refine ⟨?_, ?_, insert_artifacts_filed artifacts orderly.artifacts, ?_⟩ <;> rw [only]
  · exact orderly.pipelines
  · exact orderly.chartRefs
  · exact orderly.charts

theorem keeps_charts_orderly {before after : Store} (keeps : KeepsCharts before after) (orderly : Orderly before) :
    Orderly after := by
  rw [keeps]
  exact ⟨orderly.pipelines, orderly.chartRefs, orderly.artifacts, orderly.charts⟩

theorem transaction_orderly {before after : Store} (transaction : Transaction before after)
    (orderly : Orderly before) : Orderly after := by
  have whole := orderly
  obtain ⟨pipelines, chartRefs, artifacts, charts⟩ := orderly
  cases transaction with
  | putCiPipeline pipeline => exact ⟨own_insert pipeline pipelines, chartRefs, artifacts, charts⟩
  | putChartRef chartRef => exact ⟨pipelines, own_insert chartRef chartRefs, artifacts, charts⟩
  | insertWorkflow done =>
      obtain rfl := insert_workflow_ok done
      exact ⟨pipelines, chartRefs, artifacts, charts⟩
  | updateWorkflow done =>
      obtain rfl := update_workflow_ok done
      exact ⟨pipelines, chartRefs, artifacts, charts⟩
  | saveArtifact done => exact inserted_orderly (inserted_single (save_artifact_ok done).2) whole
  | saveArtifacts done => exact inserted_orderly (save_artifacts_ok done) whole
  | saveArtifactOfWorkflow done =>
      obtain ⟨_, workflow, _, _, inserted⟩ := save_artifact_of_workflow_ok done
      exact inserted_orderly (inserted_single inserted) ⟨pipelines, chartRefs, artifacts, charts⟩
  | deleteArtifact done =>
      obtain rfl := delete_artifact_ok done
      exact ⟨pipelines, chartRefs, filed_erase artifacts _, charts⟩
  | createChart done =>
      have filed := created_filed done charts
      obtain ⟨_, _, rfl⟩ := create_chart_ok done
      exact ⟨pipelines, chartRefs, artifacts, filed⟩
  | updateChart done =>
      have filed := updated_filed done charts
      obtain ⟨_, _, _, rfl⟩ := update_chart_ok done
      exact ⟨pipelines, chartRefs, artifacts, filed⟩
  | createOverride done => exact keeps_charts_orderly (keeps_charts_of_flags (create_override_keeps done)) whole
  | appendHistories rows => exact keeps_charts_orderly (keeps_charts_of_flags (append_histories_keeps before rows)) whole
  | insertRunner done =>
      obtain rfl := insert_runner_ok done
      exact ⟨pipelines, chartRefs, artifacts, charts⟩
  -- All others write none of the four tables.
  | _ => exact ⟨pipelines, chartRefs, artifacts, charts⟩

theorem reachable_orderly {store : Store} (reached : Reachable store) : Orderly store := by
  induction reached with
  | empty => exact orderly_empty
  | step _ transaction ih => exact transaction_orderly transaction ih

structure Registered (store : Store) : Prop where
  externals : ∀ {key row}, store.externalCis.get? key = some row → row.id = key
  deployments : ∀ {key row}, store.cdPipelines.get? key = some row → row.id = key

theorem inserted_registered {store after : Store} {artifacts : List NewArtifact} {rows : List Artifact}
    (inserted : store.insertArtifacts artifacts = (rows, after)) (registered : Registered store) :
    Registered after := by
  obtain ⟨_, rfl⟩ := inserted_parts inserted
  rw [insert_artifacts_only store artifacts]
  exact ⟨registered.externals, registered.deployments⟩

theorem keeps_charts_registered {before after : Store} (keeps : KeepsCharts before after)
    (registered : Registered before) : Registered after := by
  rw [keeps]
  exact ⟨registered.externals, registered.deployments⟩

theorem transaction_registered {before after : Store} (transaction : Transaction before after)
    (registered : Registered before) : Registered after := by
  have whole := registered
  obtain ⟨externals, deployments⟩ := registered
  cases transaction with
  | putExternalCi external => exact ⟨own_insert external externals, deployments⟩
  | putCdPipeline pipeline => exact ⟨externals, own_insert pipeline deployments⟩
  | insertWorkflow done =>
      obtain rfl := insert_workflow_ok done
      exact ⟨externals, deployments⟩
  | updateWorkflow done =>
      obtain rfl := update_workflow_ok done
      exact ⟨externals, deployments⟩
  | saveArtifact done => exact inserted_registered (inserted_single (save_artifact_ok done).2) whole
  | saveArtifacts done => exact inserted_registered (save_artifacts_ok done) whole
  | saveArtifactOfWorkflow done =>
      obtain ⟨_, workflow, _, _, inserted⟩ := save_artifact_of_workflow_ok done
      exact inserted_registered (inserted_single inserted) ⟨externals, deployments⟩
  | deleteArtifact done =>
      obtain rfl := delete_artifact_ok done
      exact ⟨externals, deployments⟩
  | createChart done =>
      obtain ⟨_, _, rfl⟩ := create_chart_ok done
      exact ⟨externals, deployments⟩
  | updateChart done =>
      obtain ⟨_, _, _, rfl⟩ := update_chart_ok done
      exact ⟨externals, deployments⟩
  | createOverride done => exact keeps_charts_registered (keeps_charts_of_flags (create_override_keeps done)) whole
  | appendHistories rows =>
      exact keeps_charts_registered (keeps_charts_of_flags (append_histories_keeps before rows)) whole
  | insertRunner done =>
      obtain rfl := insert_runner_ok done
      exact ⟨externals, deployments⟩
  | _ => exact ⟨externals, deployments⟩

theorem reachable_registered {store : Store} (reached : Reachable store) : Registered store := by
  induction reached with
  | empty => exact ⟨nofun, nofun⟩
  | step _ transaction ih => exact transaction_registered transaction ih

end Delivery.Store
