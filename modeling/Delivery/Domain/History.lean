import Delivery.Domain.Chart
import Delivery.Domain.Status
set_option autoImplicit false

namespace Delivery

structure NewHistory where
  appId : AppId
  -- A row about the template of the application as a whole has no pipeline.
  pipelineId : Option CdPipelineId
  targetEnvironment : Option EnvironmentId
  template : Json
  imageDescriptorTemplate : String
  templateName : String
  templateVersion : String
  appMetrics : Bool
  deployed : Bool
  deployedOn : Option Instant
  deployedBy : Option UserId
  snapshot : Table String String
  audit : AuditLog
  deriving DecidableEq, Repr

structure History extends NewHistory where
  id : HistoryId
  deriving DecidableEq, Repr

namespace NewHistory

def stored (row : NewHistory) (id : HistoryId) : History := { row with id }

def fields : Codec.Fields NewHistory NewHistory :=
  (Codec.Fields.start NewHistory.mk)
    |>.field "app_id" (·.appId) Id.codec
    |>.field "pipeline_id" (·.pipelineId) Id.codec.option
    |>.field "target_environment" (·.targetEnvironment) Id.codec.option
    |>.field "template" (·.template) Codec.json
    |>.field "image_descriptor_template" (·.imageDescriptorTemplate) Codec.string
    |>.field "template_name" (·.templateName) Codec.string
    |>.field "template_version" (·.templateVersion) Codec.string
    |>.field "is_app_metrics_enabled" (·.appMetrics) Codec.bool
    |>.field "deployed" (·.deployed) Codec.bool
    |>.field "deployed_on" (·.deployedOn) Codec.instant.option
    |>.field "deployed_by" (·.deployedBy) Id.codec.option
    |>.field "variable_snapshot" (·.snapshot) Codec.strings
    |>.field "audit" (·.audit) AuditLog.codec

def codec : Codec NewHistory := Codec.record "NewDeploymentTemplateHistory" fields

end NewHistory

def History.codec : Codec History :=
  Codec.record "DeploymentTemplateHistory" <|
    (Codec.Fields.start fun id (row : NewHistory) => row.stored id)
      |>.field "id" (·.id) Id.codec
      |>.flatten NewHistory.fields (·.toNewHistory)

structure CodeEditorValue where
  displayName : String
  value : Json
  deriving DecidableEq, Repr

def CodeEditorValue.codec : Codec CodeEditorValue :=
  Codec.record "CodeEditorValue" <|
    (Codec.Fields.start CodeEditorValue.mk)
      |>.field "display_name" (·.displayName) Codec.string
      |>.field "value" (·.value) Codec.json

structure HistoryDetail where
  templateName : String
  templateVersion : String
  appMetrics : Bool
  codeEditorValue : CodeEditorValue
  snapshot : Table String String
  deriving DecidableEq, Repr

def HistoryDetail.codec : Codec HistoryDetail :=
  Codec.record "HistoryDetail" <|
    (Codec.Fields.start HistoryDetail.mk)
      |>.field "template_name" (·.templateName) Codec.string
      |>.field "template_version" (·.templateVersion) Codec.string
      |>.field "is_app_metrics_enabled" (·.appMetrics) Codec.bool
      |>.field "code_editor_value" (·.codeEditorValue) CodeEditorValue.codec
      |>.field "variable_snapshot" (·.snapshot) Codec.strings

def NewHistory.detail (row : NewHistory) : HistoryDetail where
  templateName := row.templateName
  templateVersion := row.templateVersion
  appMetrics := row.appMetrics
  codeEditorValue := { displayName := "values.yaml", value := row.template }
  snapshot := row.snapshot

structure DeploymentDetail where
  historyId : HistoryId
  pipelineId : CdPipelineId
  deployedOn : Instant
  deployedBy : UserId
  email : String
  status : WorkflowStatus
  runnerId : CdWorkflowRunnerId
  stage : CdStage
  deriving DecidableEq, Repr

def DeploymentDetail.codec : Codec DeploymentDetail :=
  Codec.record "DeploymentDetail" <|
    (Codec.Fields.start DeploymentDetail.mk)
      |>.field "history_id" (·.historyId) Id.codec
      |>.field "pipeline_id" (·.pipelineId) Id.codec
      |>.field "deployed_on" (·.deployedOn) Codec.instant
      |>.field "deployed_by" (·.deployedBy) Id.codec
      |>.field "email_id" (·.email) Codec.string
      |>.field "deployment_status" (·.status) WorkflowStatus.codec
      |>.field "wfr_id" (·.runnerId) Id.codec
      |>.field "workflow_type" (·.stage) CdStage.codec

structure DeployedHistorySummary where
  id : HistoryId
  deployedOn : Instant
  deployedBy : String
  status : WorkflowStatus
  deriving DecidableEq, Repr

def DeployedHistorySummary.codec : Codec DeployedHistorySummary :=
  Codec.record "DeployedHistorySummary" <|
    (Codec.Fields.start DeployedHistorySummary.mk)
      |>.field "id" (·.id) Id.codec
      |>.field "deployed_on" (·.deployedOn) Codec.instant
      |>.field "deployed_by" (·.deployedBy) Codec.string
      |>.field "deployment_status" (·.status) WorkflowStatus.codec

end Delivery
