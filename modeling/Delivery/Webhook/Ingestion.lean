import Delivery.Config.Builds
import Delivery.Provenance.Basic
import Delivery.Store.Builds
import Delivery.Store.Pipelines
import Delivery.Webhook.World
set_option autoImplicit false

namespace Delivery

structure IngestionOutcome where
  artifactId : ArtifactId
  cloneIds : List ArtifactId
  fanOut : FanOutReport
  deriving DecidableEq, Repr

structure Webhook (ω : Type) where
  config : CiConfig
  engine : Engine ω

inductive Recorded where
  | already (artifact : ArtifactId) (clones : List ArtifactId)
  | fresh (artifact : Artifact) (clones : List Artifact) (event : BuildEvent)
  deriving DecidableEq, Repr

namespace CiConfig

def dataSource (config : CiConfig) (name : Option String) : Except Error DataSource :=
  let trimmed := Text.trim (name.getD "")
  if trimmed = "" then .ok config.defaultDataSource
  else
    match DataSource.ofName? trimmed with
    | some source => .ok source
    | none => .error (.validation (.unsupportedDataSource trimmed))

def triggerMode (config : CiConfig) (user : UserId) : TriggerMode :=
  if user = config.systemUser then .automatic else .manual

end CiConfig

namespace BuildEventRequest

def provenance (request : BuildEventRequest) : Except Error String :=
  (Provenance.compact request.materialInfo).mapError .validation

def nameFor (request : BuildEventRequest) (pipeline : CiPipeline) : String :=
  match request.pipelineName with
  | some name => if name = "" then pipeline.name else name
  | none => pipeline.name

def ownArtifact (request : BuildEventRequest) (pipeline : CiPipeline) (dataSource : DataSource)
    (materialInfo : String) (createdOn : Instant) : NewArtifact where
  pipelineId := some pipeline.id
  externalCiId := none
  image := request.image
  imageDigest := request.imageDigest
  materialInfo
  dataSource
  workflowId := request.workflowId
  parentId := none
  scanEnabled := pipeline.scanEnabled
  scanned := !pipeline.scanEnabled
  isUploaded := request.isUploaded
  audit := .created createdOn request.userId

def cloneFor (request : BuildEventRequest) (parent : ArtifactId) (dataSource : DataSource)
    (materialInfo : String) (now : Instant) (child : CiPipeline) : NewArtifact where
  pipelineId := some child.id
  externalCiId := none
  image := request.image
  imageDigest := request.imageDigest
  materialInfo
  dataSource
  workflowId := none
  parentId := some parent
  scanEnabled := child.scanEnabled
  scanned := !child.scanEnabled
  isUploaded := request.isUploaded
  audit := .created now request.userId

def externalArtifact (request : BuildEventRequest) (external : ExternalCiId)
    (dataSource : DataSource) (materialInfo : String) (now : Instant) : NewArtifact where
  pipelineId := none
  externalCiId := some external
  image := request.image
  imageDigest := request.imageDigest
  materialInfo
  dataSource
  workflowId := request.workflowId
  parentId := none
  scanEnabled := false
  scanned := false
  isUploaded := request.isUploaded
  audit := .created now request.userId

def successEvent (request : BuildEventRequest) (pipeline : CiPipeline) (artifact : Artifact) :
    BuildEvent where
  kind := .success
  pipelineId := pipeline.id
  pipelineName := request.nameFor pipeline
  appId := pipeline.appId
  workflowId := request.workflowId
  artifactId := some artifact.id
  userId := request.userId
  image := request.image
  source := Provenance.source artifact.materialInfo
  failureReason := none
  gitTriggers := .empty

def failureEvent (request : BuildEventRequest) (pipeline : CiPipeline) (workflow : CiWorkflow) :
    BuildEvent where
  kind := .fail
  pipelineId := pipeline.id
  pipelineName := pipeline.name
  appId := pipeline.appId
  workflowId := some workflow.id
  artifactId := none
  userId := workflow.triggeredBy
  image := request.image
  source := (request.materialInfo.map Provenance.source).getD ""
  failureReason := request.failureReason
  gitTriggers := workflow.gitTriggers

end BuildEventRequest

namespace Webhook

variable {ω : Type}

def workflow (id : WorkflowId) : Service Store CiWorkflow :=
  Service.require (·.workflows.get? id) (.missing id)

def pipeline (id : CiPipelineId) : Service Store CiPipeline :=
  Service.require (·.ciPipeline? id) (.missing id)

def earlierBuild (id : WorkflowId) : Service Store Recorded := do
  let artifact ← Service.require (·.artifactOfWorkflow id)
    (Store.transitionError id .succeeded .succeeded)
  let clones ← Service.look fun store => store.clonesOf artifact.id
  return .already artifact.id (clones.map (·.id))

def hasSucceeded : Option WorkflowId → Service Store (Option WorkflowId)
  | none => pure none
  | some id => do
      let run ← workflow id
      return if run.status = .succeeded then some id else none

def saveOwn (request : BuildEventRequest) (artifact : NewArtifact) (now : Instant) :
    Service Store Artifact :=
  match request.workflowId with
  | some id => Service.transact fun store => store.saveArtifactOfWorkflow artifact id now
  | none => Service.transact fun store => store.saveArtifact artifact

def saveClones : List NewArtifact → Service Store (List Artifact)
  | [] => pure []
  | clones => Service.transact fun store => store.saveArtifacts clones

def recordBuild (config : CiConfig) (id : CiPipelineId) (request : BuildEventRequest)
    (pushedAt : Option Instant) (now : Instant) : Service Store Recorded := do
  let pipeline ← pipeline id
  let dataSource ← Service.ofExcept (config.dataSource request.dataSource)
  let materialInfo ← Service.ofExcept request.provenance
  let own := request.ownArtifact pipeline dataSource materialInfo (pushedAt.getD now)
  let artifact ← saveOwn request own now
  let children ← Service.look fun store => store.childrenOf pipeline.id
  let clones ← saveClones
    (children.map (request.cloneFor artifact.id dataSource materialInfo now))
  return .fresh artifact clones (request.successEvent pipeline artifact)

def recordSuccess (config : CiConfig) (id : CiPipelineId) (request : BuildEventRequest)
    (pushedAt : Option Instant) (now : Instant) : Service Store Recorded := do
  match ← hasSucceeded request.workflowId with
  | some run => earlierBuild run
  | none => recordBuild config id request pushedAt now

def buildSucceeded (webhook : Webhook ω) (id : CiPipelineId) (request : BuildEventRequest)
    (pushedAt : Option Instant) (now : Instant) : Service (World ω) IngestionOutcome := do
  match ← World.onStore (recordSuccess webhook.config id request pushedAt now) with
  | .already artifactId cloneIds => return { artifactId, cloneIds, fanOut := {} }
  | .fresh artifact clones event =>
      World.announce event
      let mode := webhook.config.triggerMode request.userId
      let fanOut ← World.fanOut (webhook.engine.fanOut (artifact :: clones) mode request.userId)
      return { artifactId := artifact.id, cloneIds := clones.map (·.id), fanOut }

def whyNothing (artifact : ArtifactId) (external : ExternalCiId) (report : FanOutReport) : Error :=
  if report.cancelled then .trigger (.cancelled artifact)
  else
    match report.failure? with
    | some failure => .partialFanOut failure
    | none =>
        if 0 < report.skipped then
          .authorization (.denied ("external ci " ++ external.text ++ " downstream pipelines"))
        else .notFound .cdPipeline 0

def recordExternal (config : CiConfig) (id : ExternalCiId) (request : BuildEventRequest)
    (now : Instant) : Service Store (Artifact × List DownstreamTarget) := do
  let external ← Service.require (·.externalCi? id) (.authorization (.invalidExternalCiId id))
  let dataSource ← Service.ofExcept (config.dataSource request.dataSource)
  let materialInfo ← Service.ofExcept request.provenance
  let new := request.externalArtifact external.id dataSource materialInfo now
  let artifact ← Service.transact fun store => store.saveArtifact new
  let targets ← Service.look fun store => store.targetsOf external.id
  return (artifact, targets)

def externalBuild (webhook : Webhook ω) (id : ExternalCiId) (request : BuildEventRequest)
    (token : String) (authorizer : Authorizer) (now : Instant) :
    Service (World ω) IngestionOutcome := do
  let (artifact, targets) ← World.onStore (recordExternal webhook.config id request now)
  World.ask (Engine.inquiries targets token authorizer)
  let report ← World.fanOut
    (webhook.engine.fanOutExternal artifact targets token authorizer request.userId)
  if report.triggeredAny then
    return { artifactId := artifact.id, cloneIds := [], fanOut := report }
  else
    World.onStore (Service.transact fun store => store.deleteArtifact artifact.id)
    throw (whyNothing artifact.id id report)

def buildFailed (id : CiPipelineId) (request : BuildEventRequest) : Service (World ω) Unit := do
  match request.workflowId with
  | none => throw (.validation (.requiredFieldMissing "workflow_id"))
  | some workflowId =>
      let run ← World.onStore (workflow workflowId)
      let pipeline ← World.onStore (pipeline id)
      World.announce (request.failureEvent pipeline run)

end Webhook

end Delivery
