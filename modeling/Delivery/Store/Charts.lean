import Delivery.Store.Basic
set_option autoImplicit false

namespace Delivery.Store

def defaultRepo? (store : Store) : Option ChartRepo :=
  store.defaultChartRepo.bind store.chartRepos.get?

def latestChart? (store : Store) (app : AppId) : Option Chart :=
  store.charts.find? fun chart => chart.appId == app && chart.latest

def previousChart? (store : Store) (app : AppId) : Option Chart :=
  store.charts.find? fun chart => chart.appId == app && chart.previous

def chartByRef? (store : Store) (app : AppId) (chartRef : ChartRefId) : Option Chart :=
  store.charts.find? fun chart => chart.appId == app && chart.chartRefId == chartRef

def chartsOf (store : Store) (app : AppId) : List Chart :=
  store.charts.filter fun chart => chart.appId == app

def isInBucket (repo name : String) (major minor : UInt32) (chart : Chart) : Bool :=
  chart.repoName == repo && chart.name == name &&
    chart.version.major == major && chart.version.minor == minor

def newestVersion? (store : Store) (repo name : String) (major minor : UInt32) :
    Option ChartVersion :=
  ChartVersion.newest? ((store.charts.filter (isInBucket repo name major minor)).map (·.version))

def demoteCharts (store : Store) (app : AppId) (keep : ChartId) : Store :=
  { store with
    charts := store.charts.mapRows fun _ chart =>
      if chart.appId == app && chart.id != keep then chart.demoted else chart }

def createChart (store : Store) (chart : NewChart) : Except Error (Chart × Store) :=
  if (store.chartByRef? chart.appId chart.chartRefId).isSome then
    .error (.store (.duplicateChart chart.appId chart.chartRefId))
  else
    let row := chart.stored (Id.nth store.chartCount)
    let store := store.demoteCharts chart.appId row.id
    .ok (row,
      { store with charts := store.charts.insert row.id row, chartCount := store.chartCount + 1 })

def updateChart (store : Store) (chart : Chart) : Except Error (Chart × Store) :=
  match store.charts.get? chart.id with
  | none => .error (missing chart.id)
  | some current =>
      let store := if current.latest then store else store.demoteCharts chart.appId chart.id
      let row := chart.promoted
      .ok (row, { store with charts := store.charts.insert row.id row })

def activeOverrides (store : Store) (chart : ChartId) : List EnvOverride :=
  store.envOverrides.filter fun row => row.chartId == chart && row.active

def envOverrideFor? (store : Store) (chart : ChartId) (environment : EnvironmentId) :
    Option EnvOverride :=
  store.envOverrides.findLast? fun row =>
    row.chartId == chart && row.targetEnvironment == environment && row.active

def isChartOf (store : Store) (app : AppId) (chart : ChartId) : Bool :=
  (store.charts.get? chart).any fun row => row.appId == app

def demoteOverrides (store : Store) (app : AppId) (environment : EnvironmentId)
    (keep : EnvOverrideId) : Store :=
  { store with
    envOverrides := store.envOverrides.mapRows fun _ row =>
      if row.id != keep && row.targetEnvironment == environment && store.isChartOf app row.chartId
      then row.demoted else row }

def createOverride (store : Store) (override : NewEnvOverride) :
    Except Error (EnvOverride × Store) :=
  match store.charts.get? override.chartId with
  | none => .error (missing override.chartId)
  | some chart =>
      let row := override.stored (Id.nth store.envOverrideCount)
      let store := store.demoteOverrides chart.appId override.targetEnvironment row.id
      .ok (row,
        { store with
          envOverrides := store.envOverrides.insert row.id row
          envOverrideCount := store.envOverrideCount + 1 })

def setAppMetrics (store : Store) (app : AppId) (enabled : Bool) (user : UserId) (now : Instant) :
    AppLevelMetrics × Store :=
  let row := match store.appMetrics.get? app with
    | some row => { row with enabled, audit := row.audit.touch now user }
    | none => { appId := app, enabled, audit := .created now user }
  (row, { store with appMetrics := store.appMetrics.insert app row })

def setEnvMetrics (store : Store) (app : AppId) (environment : EnvironmentId) (enabled : Bool)
    (user : UserId) (now : Instant) : EnvLevelMetrics × Store :=
  let key : AppEnvironment := ⟨app, environment⟩
  let row := match store.envMetrics.get? key with
    | some row => { row with enabled, audit := row.audit.touch now user }
    | none =>
        { appId := app, environmentId := environment, enabled, audit := .created now user }
  (row, { store with envMetrics := store.envMetrics.insert key row })

def appMetricsFlag (store : Store) (app : AppId) : Bool :=
  (store.appMetrics.get? app).any (·.enabled)

end Delivery.Store
