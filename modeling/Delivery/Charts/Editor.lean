import Delivery.Charts.Canary
import Delivery.History.Recorder
import Delivery.Json.Merge
set_option autoImplicit false

namespace Delivery.Charts

def chartRef (id : ChartRefId) : Service Store ChartRef :=
  Service.require (·.chartRefs.get? id) (.missing id)

def chart (id : ChartId) : Service Store Chart :=
  Service.require (·.charts.get? id) (.missing id)

def latest (app : AppId) : Service Store Chart :=
  Service.require (·.latestChart? app) (.notFound .chart app.raw)

def nextVersion (repo name : String) (base : ChartVersion) : Service Store ChartVersion := do
  match ← Service.look fun store => store.newestVersion? repo name base.major base.minor with
  | some newest => return newest.bumpPatch
  | none => return .firstInBucket base.major base.minor

def chartFor (request : TemplateRequest) (app : Application) (chartRef : ChartRef) (repo : ChartRepo)
    (version : ChartVersion) (now : Instant) : NewChart where
  appId := app.id
  repoId := repo.id
  repoName := repo.name
  name := app.appName
  chartRefId := chartRef.id
  referenceTemplate := chartRef.location
  values := chartRef.defaultValues.merged request.valuesOverride
  globalOverride := request.valuesOverride
  imageDescriptorTemplate := chartRef.imageDescriptorTemplate
  version
  audit := .created now request.userId

def create (request : TemplateRequest) (now : Instant) : Service Store Chart := do
  let app ← Service.require (·.apps.get? request.appId) (.missing request.appId)
  let chartRef ← chartRef request.chartRefId
  if (← Service.look fun store => store.chartByRef? app.id chartRef.id).isSome then
    throw (.validation (.duplicateChartReference app.id chartRef.id))
  let repo ← Service.require (·.defaultRepo?) (.notFound .chartRepo 0)
  let version ← nextVersion repo.name app.appName chartRef.version
  let new := chartFor request app chartRef repo version now
  let created ← Service.transact fun store => store.createChart new
  let appMetrics := request.appMetrics && chartRef.appMetricsSupported
  let _ ← Service.act fun store => store.setAppMetrics app.id appMetrics request.userId now
  let _ ← Recorder.recordTemplateChange created appMetrics request.userId now
  return created

def edited (chart : Chart) (delta : Json) (user : UserId) (now : Instant) : Chart :=
  { chart with
    values := chart.values.merged delta
    globalOverride := chart.globalOverride.merged delta
    audit := chart.audit.touch now user }

def resolveRequested (chart : Chart) (requested : Option Bool) (user : UserId) (now : Instant) :
    Service Store Bool := do
  match requested with
  | some wanted =>
      let chartRef ← chartRef chart.chartRefId
      let enabled := wanted && chartRef.appMetricsSupported
      let _ ← Service.act fun store => store.setAppMetrics chart.appId enabled user now
      return enabled
  | none => Service.look fun store => store.appMetricsFlag chart.appId

def update (id : ChartId) (delta : Json) (appMetrics : Option Bool) (user : UserId)
    (now : Instant) : Service Store Chart := do
  let current ← chart id
  let updated ← Service.transact fun store => store.updateChart (edited current delta user now)
  let enabled ← resolveRequested updated appMetrics user now
  let _ ← Recorder.recordTemplateChange updated enabled user now
  return updated

def compatible (old new : ChartRefId) : Service Store Bool := do
  let before ← chartRef old
  let after ← chartRef new
  return chartNamesCompatible before.name after.name

def carried (row : EnvOverride) (target : ChartId) (user : UserId) (now : Instant) :
    NewEnvOverride where
  chartId := target
  targetEnvironment := row.targetEnvironment
  values := row.values
  isOverride := row.isOverride
  active := true
  audit := .created now user

def carryOverride (app : AppId) (target : ChartId) (user : UserId) (now : Instant)
    (row : EnvOverride) : Service Store Unit := do
  let created ← Service.transact fun store => store.createOverride (carried row target user now)
  let appMetrics ← Recorder.resolveAppMetrics app created.targetEnvironment
  let _ ← Recorder.recordOverrideChange created appMetrics none user now
  return ()

def checkKinds (current : Chart) (before after : ChartRef) : Except Error Unit := do
  let old := ChartKind.ofChartName? before.name (← canaryEnabled current.values)
  let new := ChartKind.ofChartName? after.name (← canaryEnabled after.defaultValues)
  let incompatible : Error := .validation (.incompatibleChartKinds before.name after.name)
  match old, new with
  | some old, some new => if old.isCompatibleWith new then .ok () else .error incompatible
  | _, _ => .error incompatible

def upgrade (app : AppId) (target : ChartRefId) (user : UserId) (now : Instant) :
    Service Store Chart := do
  let current ← latest app
  let before ← chartRef current.chartRefId
  let after ← chartRef target
  Service.ofExcept (checkKinds current before after)
  let appMetrics ← Service.look fun store => store.appMetricsFlag app
  let upgraded ← create
    { appId := app, chartRefId := after.id, valuesOverride := current.globalOverride, appMetrics,
      userId := user }
    now
  let overrides ← Service.look fun store => store.activeOverrides current.id
  overrides.forM (carryOverride app upgraded.id user now)
  return upgraded

def checkMetrics (chartRef : ChartRef) (enabled : Bool) : Except Error Unit :=
  if enabled && !(chartRef.userUploaded || chartRef.version.supportsAppMetrics) then
    .error (.validation (.invalidValue "app_metrics"
      ("chart version " ++ chartRef.version.text ++ " does not support app metrics")))
  else .ok ()

def setMetrics (app : AppId) (enabled : Bool) (user : UserId) (now : Instant) :
    Service Store AppLevelMetrics := do
  let current ← latest app
  let chartRef ← chartRef current.chartRefId
  Service.ofExcept (checkMetrics chartRef enabled)
  let metrics ← Service.act fun store => store.setAppMetrics app enabled user now
  let _ ← Recorder.recordTemplateChange current enabled user now
  return metrics

end Delivery.Charts
