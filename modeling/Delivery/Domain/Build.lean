import Delivery.Domain.Audit
import Delivery.Domain.Status
set_option autoImplicit false

namespace Delivery

structure NewArtifact where
  -- The build pipeline; an artifact of an external source has none.
  pipelineId : Option CiPipelineId
  externalCiId : Option ExternalCiId
  image : String
  imageDigest : String
  materialInfo : String
  dataSource : DataSource
  workflowId : Option WorkflowId
  -- The artifact of which this one is a clone for a child pipeline.
  parentId : Option ArtifactId
  scanEnabled : Bool
  scanned : Bool
  isUploaded : Bool
  audit : AuditLog
  deriving DecidableEq, Repr

structure Artifact extends NewArtifact where
  id : ArtifactId
  deriving DecidableEq, Repr

namespace NewArtifact

def stored (artifact : NewArtifact) (id : ArtifactId) : Artifact := { artifact with id }

def fields : Codec.Fields NewArtifact NewArtifact :=
  (Codec.Fields.start NewArtifact.mk)
    |>.field "pipeline_id" (·.pipelineId) Id.codec.option
    |>.field "external_ci_pipeline_id" (·.externalCiId) Id.codec.option
    |>.field "image" (·.image) Codec.string
    |>.field "image_digest" (·.imageDigest) Codec.string
    |>.field "material_info" (·.materialInfo) Codec.string
    |>.field "data_source" (·.dataSource) DataSource.codec
    |>.field "workflow_id" (·.workflowId) Id.codec.option
    |>.field "parent_ci_artifact" (·.parentId) Id.codec.option
    |>.field "scan_enabled" (·.scanEnabled) Codec.bool
    |>.field "scanned" (·.scanned) Codec.bool
    |>.field "is_artifact_uploaded" (·.isUploaded) Codec.bool
    |>.field "audit" (·.audit) AuditLog.codec

def codec : Codec NewArtifact := Codec.record "NewArtifact" fields

end NewArtifact

def Artifact.codec : Codec Artifact :=
  Codec.record "Artifact" <|
    (Codec.Fields.start fun id (artifact : NewArtifact) => artifact.stored id)
      |>.field "id" (·.id) Id.codec
      |>.flatten NewArtifact.fields (·.toNewArtifact)

structure GitCommit where
  commit : String := ""
  author : String := ""
  message : String := ""
  date : Option Instant := none
  changes : List String := []
  deriving DecidableEq, Repr, Inhabited

def GitCommit.codec : Codec GitCommit :=
  Codec.record "GitCommit" <|
    (Codec.Fields.start GitCommit.mk)
      |>.field "commit" (·.commit) Codec.string
      |>.field "author" (·.author) Codec.string
      |>.field "message" (·.message) Codec.string
      |>.field "date" (·.date) Codec.instant.option
      |>.defaulted "changes" (·.changes) Codec.string.list []

structure CiWorkflow where
  id : WorkflowId
  name : String
  status : WorkflowStatus
  message : String
  startedOn : Instant
  finishedOn : Option Instant
  ciPipelineId : CiPipelineId
  gitTriggers : Table Int64 GitCommit
  triggeredBy : UserId
  deriving DecidableEq, Repr

def CiWorkflow.codec : Codec CiWorkflow :=
  Codec.record "CiWorkflow" <|
    (Codec.Fields.start CiWorkflow.mk)
      |>.field "id" (·.id) Id.codec
      |>.field "name" (·.name) Codec.string
      |>.field "status" (·.status) WorkflowStatus.codec
      |>.field "message" (·.message) Codec.string
      |>.field "started_on" (·.startedOn) Codec.instant
      |>.field "finished_on" (·.finishedOn) Codec.instant.option
      |>.field "ci_pipeline_id" (·.ciPipelineId) Id.codec
      |>.field "git_triggers" (·.gitTriggers) GitCommit.codec.byInteger
      |>.field "triggered_by" (·.triggeredBy) Id.codec

-- A build pipeline. One that names a parent does not build: it takes over what the parent built.
structure CiPipeline where
  id : CiPipelineId
  appId : AppId
  name : String
  parentId : Option CiPipelineId
  scanEnabled : Bool
  deleted : Bool
  deriving DecidableEq, Repr

def CiPipeline.codec : Codec CiPipeline :=
  Codec.record "CiPipeline" <|
    (Codec.Fields.start CiPipeline.mk)
      |>.field "id" (·.id) Id.codec
      |>.field "app_id" (·.appId) Id.codec
      |>.field "name" (·.name) Codec.string
      |>.field "parent_ci_pipeline" (·.parentId) Id.codec.option
      |>.field "scan_enabled" (·.scanEnabled) Codec.bool
      |>.field "deleted" (·.deleted) Codec.bool

structure ExternalCiPipeline where
  id : ExternalCiId
  appId : AppId
  accessToken : String
  active : Bool
  deriving DecidableEq, Repr

def ExternalCiPipeline.codec : Codec ExternalCiPipeline :=
  Codec.record "ExternalCiPipeline" <|
    (Codec.Fields.start ExternalCiPipeline.mk)
      |>.field "id" (·.id) Id.codec
      |>.field "app_id" (·.appId) Id.codec
      |>.field "access_token" (·.accessToken) Codec.string
      |>.field "active" (·.active) Codec.bool

structure BuildEventRequest where
  image : String := ""
  imageDigest : String := ""
  materialInfo : Option String := none
  dataSource : Option String := none
  pipelineName : Option String := none
  workflowId : Option WorkflowId := none
  userId : UserId := ⟨0⟩
  isUploaded : Bool := false
  failureReason : Option String := none
  deriving DecidableEq, Repr, Inhabited

def BuildEventRequest.codec : Codec BuildEventRequest :=
  Codec.record "BuildEventRequest" <|
    (Codec.Fields.start BuildEventRequest.mk)
      |>.field "image" (·.image) Codec.string
      |>.field "image_digest" (·.imageDigest) Codec.string
      |>.field "material_info" (·.materialInfo) Codec.string.option
      |>.field "data_source" (·.dataSource) Codec.string.option
      |>.field "pipeline_name" (·.pipelineName) Codec.string.option
      |>.field "workflow_id" (·.workflowId) Id.codec.option
      |>.field "user_id" (·.userId) Id.codec
      |>.field "is_artifact_uploaded" (·.isUploaded) Codec.bool
      |>.field "failure_reason" (·.failureReason) Codec.string.option

inductive BuildEventKind where
  | success
  | fail
  deriving DecidableEq, Repr

namespace BuildEventKind

def name : BuildEventKind → String
  | .success => "Success"
  | .fail => "Fail"

def all : List BuildEventKind := [.success, .fail]

def codec : Codec BuildEventKind := Codec.variant name all

end BuildEventKind

structure BuildEvent where
  kind : BuildEventKind
  pipelineId : CiPipelineId
  pipelineName : String
  appId : AppId
  workflowId : Option WorkflowId
  artifactId : Option ArtifactId
  userId : UserId
  image : String
  source : String
  failureReason : Option String
  gitTriggers : Table Int64 GitCommit
  deriving DecidableEq, Repr

def BuildEvent.codec : Codec BuildEvent :=
  Codec.record "BuildEvent" <|
    (Codec.Fields.start BuildEvent.mk)
      |>.field "kind" (·.kind) BuildEventKind.codec
      |>.field "pipeline_id" (·.pipelineId) Id.codec
      |>.field "pipeline_name" (·.pipelineName) Codec.string
      |>.field "app_id" (·.appId) Id.codec
      |>.field "workflow_id" (·.workflowId) Id.codec.option
      |>.field "artifact_id" (·.artifactId) Id.codec.option
      |>.field "user_id" (·.userId) Id.codec
      |>.field "image" (·.image) Codec.string
      |>.field "source" (·.source) Codec.string
      |>.field "failure_reason" (·.failureReason) Codec.string.option
      |>.field "git_triggers" (·.gitTriggers) GitCommit.codec.byInteger

end Delivery
