import Delivery.Domain.ChartFamily
import Delivery.Flow
import Delivery.Store.Charts
import Delivery.Store.History
import Delivery.Store.Pipelines
set_option autoImplicit false

namespace Delivery.Recorder

def templateName (chartRef : ChartRef) : String :=
  if chartRef.name = "" then WorkloadKind.rollout.chartName else chartRef.name

def chartRefOf (chart : Chart) : Service Store ChartRef :=
  Service.require (·.chartRefs.get? chart.chartRefId) (.missing chart.chartRefId)

def chartOf (row : EnvOverride) : Service Store Chart :=
  Service.require (·.charts.get? row.chartId) (.missing row.chartId)

def templateRow (chart : Chart) (chartRef : ChartRef) (appMetrics : Bool) (user : UserId)
    (now : Instant) : NewHistory where
  appId := chart.appId
  pipelineId := none
  targetEnvironment := none
  template := chart.globalOverride
  imageDescriptorTemplate := chart.imageDescriptorTemplate
  templateName := templateName chartRef
  templateVersion := chartRef.version.text
  appMetrics
  deployed := false
  deployedOn := none
  deployedBy := none
  snapshot := .empty
  audit := .created now user

def rowFor (row : NewHistory) (pipeline : CdPipeline) : NewHistory :=
  { row with pipelineId := some pipeline.id, targetEnvironment := some pipeline.environmentId }

def recordTemplateChange (chart : Chart) (appMetrics : Bool) (user : UserId) (now : Instant) :
    Service Store (List History) := do
  let chartRef ← chartRefOf chart
  let pipelines ← Service.look fun store => store.pipelinesInheriting chart.appId chart.id
  let row := templateRow chart chartRef appMetrics user now
  Service.act fun store => store.appendHistories (row :: pipelines.map (rowFor row))

def pipelineFor (named : Option CdPipelineId) (app : AppId) (environment : EnvironmentId) :
    Service Store (Option CdPipelineId) :=
  match named with
  | some pipeline => pure (some pipeline)
  | none => Service.look fun store => (store.cdPipelineFor? app environment).map (·.id)

def recordOverrideChange (override : EnvOverride) (appMetrics : Bool)
    (pipeline : Option CdPipelineId) (user : UserId) (now : Instant) : Service Store History := do
  let chart ← chartOf override
  let chartRef ← chartRefOf chart
  let pipelineId ← pipelineFor pipeline chart.appId override.targetEnvironment
  let row : NewHistory :=
    { templateRow chart chartRef appMetrics user now with
      pipelineId
      targetEnvironment := some override.targetEnvironment
      template := override.effectiveTemplate chart }
  Service.act fun store => store.appendHistory row

def resolveAppMetrics (app : AppId) (environment : EnvironmentId) : Service Store Bool := do
  match ← Service.look fun store => store.envMetrics.get? ⟨app, environment⟩ with
  | some row => return row.enabled
  | none => Service.look fun store => store.appMetricsFlag app

def recordDeployment (pipeline : CdPipeline) (override : EnvOverride) (imageTemplate : String)
    (deployedOn : Instant) (deployedBy : UserId) (snapshot : Table String String) :
    Service Store History := do
  let chart ← chartOf override
  let chartRef ← chartRefOf chart
  let appMetrics ← resolveAppMetrics pipeline.appId pipeline.environmentId
  let row : NewHistory :=
    { appId := pipeline.appId
      pipelineId := some pipeline.id
      targetEnvironment := some pipeline.environmentId
      template := override.effectiveTemplate chart
      imageDescriptorTemplate := imageTemplate
      templateName := templateName chartRef
      templateVersion := chartRef.version.text
      appMetrics
      deployed := true
      deployedOn := some deployedOn
      deployedBy := some deployedBy
      snapshot
      audit := .created deployedOn deployedBy }
  Service.act fun store => store.appendHistory row

end Delivery.Recorder
