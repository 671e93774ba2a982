import Delivery.Domain.Audit
import Delivery.Domain.Version
set_option autoImplicit false

namespace Delivery

structure ChartRepo where
  id : ChartRepoId
  name : String
  deriving DecidableEq, Repr

def ChartRepo.codec : Codec ChartRepo :=
  Codec.record "ChartRepo" <|
    (Codec.Fields.start ChartRepo.mk)
      |>.field "id" (·.id) Id.codec
      |>.field "name" (·.name) Codec.string

structure ChartRef where
  id : ChartRefId
  name : String
  version : ChartVersion
  location : String
  defaultValues : Json
  imageDescriptorTemplate : String
  userUploaded : Bool
  appMetricsSupported : Bool
  deriving DecidableEq, Repr

def ChartRef.codec : Codec ChartRef :=
  Codec.record "ChartRef" <|
    (Codec.Fields.start ChartRef.mk)
      |>.field "id" (·.id) Id.codec
      |>.field "name" (·.name) Codec.string
      |>.field "version" (·.version) ChartVersion.codec
      |>.field "location" (·.location) Codec.string
      |>.field "default_values" (·.defaultValues) Codec.json
      |>.field "image_descriptor_template" (·.imageDescriptorTemplate) Codec.string
      |>.field "user_uploaded" (·.userUploaded) Codec.bool
      |>.field "app_metrics_supported" (·.appMetricsSupported) Codec.bool

structure NewChart where
  appId : AppId
  repoId : ChartRepoId
  repoName : String
  name : String
  chartRefId : ChartRefId
  referenceTemplate : String
  -- The defaults of the reference chart with the global override merged in.
  values : Json
  globalOverride : Json
  imageDescriptorTemplate : String
  version : ChartVersion
  audit : AuditLog
  deriving DecidableEq, Repr

structure Chart extends NewChart where
  id : ChartId
  latest : Bool
  previous : Bool
  deriving DecidableEq, Repr

namespace NewChart

def stored (chart : NewChart) (id : ChartId) : Chart :=
  { chart with id, latest := true, previous := false }

def codec : Codec NewChart :=
  Codec.record "NewChart" <|
    (Codec.Fields.start NewChart.mk)
      |>.field "app_id" (·.appId) Id.codec
      |>.field "chart_repo_id" (·.repoId) Id.codec
      |>.field "chart_repo" (·.repoName) Codec.string
      |>.field "chart_name" (·.name) Codec.string
      |>.field "chart_ref_id" (·.chartRefId) Id.codec
      |>.field "reference_template" (·.referenceTemplate) Codec.string
      |>.field "values" (·.values) Codec.json
      |>.field "global_override" (·.globalOverride) Codec.json
      |>.field "image_descriptor_template" (·.imageDescriptorTemplate) Codec.string
      |>.field "chart_version" (·.version) ChartVersion.codec
      |>.field "audit" (·.audit) AuditLog.codec

end NewChart

namespace Chart

def demoted (chart : Chart) : Chart :=
  { chart with latest := false, previous := chart.latest }

def promoted (chart : Chart) : Chart :=
  { chart with latest := true, previous := false }

def make (id : ChartId) (appId : AppId) (repoId : ChartRepoId) (repoName name : String)
    (chartRefId : ChartRefId) (referenceTemplate : String) (values globalOverride : Json)
    (imageDescriptorTemplate : String) (version : ChartVersion) (latest previous : Bool)
    (audit : AuditLog) : Chart :=
  { id, appId, repoId, repoName, name, chartRefId, referenceTemplate, values, globalOverride,
    imageDescriptorTemplate, version, latest, previous, audit }

def codec : Codec Chart :=
  Codec.record "Chart" <|
    (Codec.Fields.start make)
      |>.field "id" (·.id) Id.codec
      |>.field "app_id" (·.appId) Id.codec
      |>.field "chart_repo_id" (·.repoId) Id.codec
      |>.field "chart_repo" (·.repoName) Codec.string
      |>.field "chart_name" (·.name) Codec.string
      |>.field "chart_ref_id" (·.chartRefId) Id.codec
      |>.field "reference_template" (·.referenceTemplate) Codec.string
      |>.field "values" (·.values) Codec.json
      |>.field "global_override" (·.globalOverride) Codec.json
      |>.field "image_descriptor_template" (·.imageDescriptorTemplate) Codec.string
      |>.field "chart_version" (·.version) ChartVersion.codec
      |>.field "latest" (·.latest) Codec.bool
      |>.field "previous" (·.previous) Codec.bool
      |>.field "audit" (·.audit) AuditLog.codec

end Chart

structure NewEnvOverride where
  chartId : ChartId
  targetEnvironment : EnvironmentId
  values : Json
  -- Otherwise the environment inherits the global values.
  isOverride : Bool
  active : Bool
  audit : AuditLog
  deriving DecidableEq, Repr

structure EnvOverride extends NewEnvOverride where
  id : EnvOverrideId
  latest : Bool
  previous : Bool
  deriving DecidableEq, Repr

namespace NewEnvOverride

def stored (row : NewEnvOverride) (id : EnvOverrideId) : EnvOverride :=
  { row with id, latest := true, previous := false }

def codec : Codec NewEnvOverride :=
  Codec.record "NewEnvOverride" <|
    (Codec.Fields.start NewEnvOverride.mk)
      |>.field "chart_id" (·.chartId) Id.codec
      |>.field "target_environment" (·.targetEnvironment) Id.codec
      |>.field "env_override_values" (·.values) Codec.json
      |>.field "is_override" (·.isOverride) Codec.bool
      |>.field "active" (·.active) Codec.bool
      |>.field "audit" (·.audit) AuditLog.codec

end NewEnvOverride

namespace EnvOverride

def demoted (row : EnvOverride) : EnvOverride :=
  { row with latest := false, previous := row.latest }

def make (id : EnvOverrideId) (chartId : ChartId) (targetEnvironment : EnvironmentId)
    (values : Json) (isOverride latest previous active : Bool) (audit : AuditLog) : EnvOverride :=
  { id, chartId, targetEnvironment, values, isOverride, latest, previous, active, audit }

def codec : Codec EnvOverride :=
  Codec.record "EnvOverride" <|
    (Codec.Fields.start make)
      |>.field "id" (·.id) Id.codec
      |>.field "chart_id" (·.chartId) Id.codec
      |>.field "target_environment" (·.targetEnvironment) Id.codec
      |>.field "env_override_values" (·.values) Codec.json
      |>.field "is_override" (·.isOverride) Codec.bool
      |>.field "latest" (·.latest) Codec.bool
      |>.field "previous" (·.previous) Codec.bool
      |>.field "active" (·.active) Codec.bool
      |>.field "audit" (·.audit) AuditLog.codec

def effectiveTemplate (row : EnvOverride) (chart : Chart) : Json :=
  if row.isOverride then row.values else chart.globalOverride

end EnvOverride

structure AppLevelMetrics where
  appId : AppId
  enabled : Bool
  audit : AuditLog
  deriving DecidableEq, Repr

def AppLevelMetrics.codec : Codec AppLevelMetrics :=
  Codec.record "AppLevelMetrics" <|
    (Codec.Fields.start AppLevelMetrics.mk)
      |>.field "app_id" (·.appId) Id.codec
      |>.field "app_metrics" (·.enabled) Codec.bool
      |>.field "audit" (·.audit) AuditLog.codec

structure EnvLevelMetrics where
  appId : AppId
  environmentId : EnvironmentId
  enabled : Bool
  audit : AuditLog
  deriving DecidableEq, Repr

def EnvLevelMetrics.codec : Codec EnvLevelMetrics :=
  Codec.record "EnvLevelAppMetrics" <|
    (Codec.Fields.start EnvLevelMetrics.mk)
      |>.field "app_id" (·.appId) Id.codec
      |>.field "env_id" (·.environmentId) Id.codec
      |>.field "app_metrics" (·.enabled) Codec.bool
      |>.field "audit" (·.audit) AuditLog.codec

structure TemplateRequest where
  appId : AppId
  chartRefId : ChartRefId
  valuesOverride : Json
  appMetrics : Bool
  userId : UserId
  deriving DecidableEq, Repr

def TemplateRequest.codec : Codec TemplateRequest :=
  Codec.record "TemplateRequest" <|
    (Codec.Fields.start TemplateRequest.mk)
      |>.field "app_id" (·.appId) Id.codec
      |>.field "chart_ref_id" (·.chartRefId) Id.codec
      |>.field "values_override" (·.valuesOverride) Codec.json
      |>.field "is_app_metrics_enabled" (·.appMetrics) Codec.bool
      |>.field "user_id" (·.userId) Id.codec

end Delivery
