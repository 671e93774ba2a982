import Delivery.Store.Basic
set_option autoImplicit false

namespace Delivery.Store

def ciPipeline? (store : Store) (id : CiPipelineId) : Option CiPipeline :=
  (store.ciPipelines.get? id).filter fun pipeline => !pipeline.deleted

def childrenOf (store : Store) (parent : CiPipelineId) : List CiPipeline :=
  store.ciPipelines.filter fun pipeline => pipeline.parentId == some parent && !pipeline.deleted

def externalCi? (store : Store) (id : ExternalCiId) : Option ExternalCiPipeline :=
  (store.externalCis.get? id).filter (·.active)

def targetOf? (store : Store) (pipeline : CdPipeline) : Option DownstreamTarget := do
  let app ← store.apps.get? pipeline.appId
  let environment ← store.environments.get? pipeline.environmentId
  return .of pipeline app environment

def targetsOf (store : Store) (id : ExternalCiId) : List DownstreamTarget :=
  let fed := store.cdPipelines.filter fun pipeline =>
    pipeline.externalCiId == some id && !pipeline.deleted
  fed.filterMap store.targetOf?

def cdPipeline? (store : Store) (id : CdPipelineId) : Option CdPipeline :=
  (store.cdPipelines.get? id).filter fun pipeline => !pipeline.deleted

def cdPipelineFor? (store : Store) (app : AppId) (environment : EnvironmentId) : Option CdPipeline :=
  store.cdPipelines.find? fun pipeline =>
    pipeline.appId == app && pipeline.environmentId == environment && !pipeline.deleted

def overridingEnvironments (store : Store) (chart : ChartId) : List EnvironmentId :=
  let overriding := store.envOverrides.filter fun row =>
    row.chartId == chart && row.isOverride && row.active
  overriding.map (·.targetEnvironment)

def pipelinesInheriting (store : Store) (app : AppId) (chart : ChartId) : List CdPipeline :=
  let overriding := store.overridingEnvironments chart
  store.cdPipelines.filter fun pipeline =>
    pipeline.appId == app && !pipeline.deleted && !overriding.contains pipeline.environmentId

end Delivery.Store
