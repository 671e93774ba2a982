import Delivery.Domain.Audit
import Delivery.Domain.Status
set_option autoImplicit false

namespace Delivery

structure Application where
  id : AppId
  appName : String
  teamName : String
  deriving DecidableEq, Repr

def Application.codec : Codec Application :=
  Codec.record "Application" <|
    (Codec.Fields.start Application.mk)
      |>.field "id" (·.id) Id.codec
      |>.field "app_name" (·.appName) Codec.string
      |>.field "team_name" (·.teamName) Codec.string

structure Environment where
  id : EnvironmentId
  name : String
  identifier : String
  deriving DecidableEq, Repr

def Environment.codec : Codec Environment :=
  Codec.record "Environment" <|
    (Codec.Fields.start Environment.mk)
      |>.field "id" (·.id) Id.codec
      |>.field "name" (·.name) Codec.string
      |>.field "environment_identifier" (·.identifier) Codec.string

structure CdPipeline where
  id : CdPipelineId
  appId : AppId
  environmentId : EnvironmentId
  name : String
  ciPipelineId : Option CiPipelineId
  externalCiId : Option ExternalCiId
  deleted : Bool
  deriving DecidableEq, Repr

def CdPipeline.codec : Codec CdPipeline :=
  Codec.record "CdPipeline" <|
    (Codec.Fields.start CdPipeline.mk)
      |>.field "id" (·.id) Id.codec
      |>.field "app_id" (·.appId) Id.codec
      |>.field "environment_id" (·.environmentId) Id.codec
      |>.field "name" (·.name) Codec.string
      |>.field "ci_pipeline_id" (·.ciPipelineId) Id.codec.option
      |>.field "external_ci_id" (·.externalCiId) Id.codec.option
      |>.field "deleted" (·.deleted) Codec.bool

structure DownstreamTarget where
  cdPipelineId : CdPipelineId
  projectResource : String
  envResource : String
  deriving DecidableEq, Repr

namespace DownstreamTarget

def of (pipeline : CdPipeline) (app : Application) (env : Environment) : DownstreamTarget where
  cdPipelineId := pipeline.id
  projectResource := app.teamName ++ "/" ++ app.appName
  envResource := env.identifier ++ "/" ++ app.appName

def codec : Codec DownstreamTarget :=
  Codec.record "DownstreamTarget" <|
    (Codec.Fields.start DownstreamTarget.mk)
      |>.field "cd_pipeline_id" (·.cdPipelineId) Id.codec
      |>.field "project_resource" (·.projectResource) Codec.string
      |>.field "env_resource" (·.envResource) Codec.string

end DownstreamTarget

structure CdWorkflowRunner where
  id : CdWorkflowRunnerId
  cdPipelineId : CdPipelineId
  stage : CdStage
  status : WorkflowStatus
  startedOn : Instant
  artifactId : ArtifactId
  triggeredBy : UserId
  deriving DecidableEq, Repr

def CdWorkflowRunner.codec : Codec CdWorkflowRunner :=
  Codec.record "CdWorkflowRunner" <|
    (Codec.Fields.start CdWorkflowRunner.mk)
      |>.field "id" (·.id) Id.codec
      |>.field "cd_pipeline_id" (·.cdPipelineId) Id.codec
      |>.field "workflow_type" (·.stage) CdStage.codec
      |>.field "status" (·.status) WorkflowStatus.codec
      |>.field "started_on" (·.startedOn) Codec.instant
      |>.field "artifact_id" (·.artifactId) Id.codec
      |>.field "triggered_by" (·.triggeredBy) Id.codec

structure User where
  id : UserId
  email : String
  deriving DecidableEq, Repr

def User.codec : Codec User :=
  Codec.record "User" <|
    (Codec.Fields.start User.mk)
      |>.field "id" (·.id) Id.codec
      |>.field "email_id" (·.email) Codec.string

end Delivery
