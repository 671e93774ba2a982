import Delivery.Domain.Build
import Delivery.Domain.Deployment
import Delivery.Domain.Error
import Delivery.Domain.History
import Delivery.Table
set_option autoImplicit false

namespace Delivery

structure AppEnvironment where
  appId : AppId
  environmentId : EnvironmentId
  deriving DecidableEq, Repr

namespace AppEnvironment

def order : AppEnvironment → AppEnvironment → Ordering :=
  compareLex (compareOn (·.appId)) (compareOn (·.environmentId))

instance : Ord AppEnvironment := ⟨order⟩

instance : Std.TransOrd AppEnvironment :=
  inferInstanceAs (Std.TransCmp (compareLex (compareOn _) (compareOn _)))

end AppEnvironment

structure Store where
  artifacts : Table ArtifactId Artifact
  workflows : Table WorkflowId CiWorkflow
  ciPipelines : Table CiPipelineId CiPipeline
  externalCis : Table ExternalCiId ExternalCiPipeline
  cdPipelines : Table CdPipelineId CdPipeline
  apps : Table AppId Application
  environments : Table EnvironmentId Environment
  chartRepos : Table ChartRepoId ChartRepo
  defaultChartRepo : Option ChartRepoId
  chartRefs : Table ChartRefId ChartRef
  charts : Table ChartId Chart
  envOverrides : Table EnvOverrideId EnvOverride
  appMetrics : Table AppId AppLevelMetrics
  envMetrics : Table AppEnvironment EnvLevelMetrics
  history : Table HistoryId History
  runners : Table CdWorkflowRunnerId CdWorkflowRunner
  users : Table UserId User
  artifactCount : Nat
  chartCount : Nat
  envOverrideCount : Nat
  historyCount : Nat
  deriving DecidableEq, Repr

namespace Store

def empty : Store where
  artifacts := .empty
  workflows := .empty
  ciPipelines := .empty
  externalCis := .empty
  cdPipelines := .empty
  apps := .empty
  environments := .empty
  chartRepos := .empty
  defaultChartRepo := none
  chartRefs := .empty
  charts := .empty
  envOverrides := .empty
  appMetrics := .empty
  envMetrics := .empty
  history := .empty
  runners := .empty
  users := .empty
  artifactCount := 0
  chartCount := 0
  envOverrideCount := 0
  historyCount := 0

instance : Inhabited Store := ⟨empty⟩

def missing {kind : EntityKind} (id : Id kind) : Error :=
  .store (.notFound kind id.raw)

def putApp (store : Store) (app : Application) : Store :=
  { store with apps := store.apps.insert app.id app }

def putEnvironment (store : Store) (environment : Environment) : Store :=
  { store with environments := store.environments.insert environment.id environment }

def putCiPipeline (store : Store) (pipeline : CiPipeline) : Store :=
  { store with ciPipelines := store.ciPipelines.insert pipeline.id pipeline }

def putExternalCi (store : Store) (external : ExternalCiPipeline) : Store :=
  { store with externalCis := store.externalCis.insert external.id external }

def putCdPipeline (store : Store) (pipeline : CdPipeline) : Store :=
  { store with cdPipelines := store.cdPipelines.insert pipeline.id pipeline }

def putChartRepo (store : Store) (repo : ChartRepo) (isDefault : Bool) : Store :=
  { store with
    chartRepos := store.chartRepos.insert repo.id repo
    defaultChartRepo := if isDefault then some repo.id else store.defaultChartRepo }

def putChartRef (store : Store) (chartRef : ChartRef) : Store :=
  { store with chartRefs := store.chartRefs.insert chartRef.id chartRef }

def putUser (store : Store) (user : User) : Store :=
  { store with users := store.users.insert user.id user }

end Store

end Delivery
