import Delivery.Domain.ChartFamily
import Delivery.Store.Basic
set_option autoImplicit false

namespace Delivery.Fixtures

def testUser : UserId := ⟨2⟩

def application (id : AppId) (name : String) : Application :=
  { id, appName := name, teamName := "platform" }

def environment (id : EnvironmentId) (identifier : String) : Environment :=
  { id, name := identifier, identifier }

def ciPipeline (id : CiPipelineId) (appId : AppId) (scanEnabled : Bool) : CiPipeline :=
  { id, appId, name := "ci-" ++ id.text, parentId := none, scanEnabled, deleted := false }

def childCiPipeline (id : CiPipelineId) (appId : AppId) (parent : CiPipelineId)
    (scanEnabled : Bool) : CiPipeline :=
  { ciPipeline id appId scanEnabled with parentId := some parent }

def externalCi (id : ExternalCiId) (appId : AppId) (accessToken : String) : ExternalCiPipeline :=
  { id, appId, accessToken, active := true }

def cdPipeline (id : CdPipelineId) (appId : AppId) (environmentId : EnvironmentId) : CdPipeline :=
  { id, appId, environmentId, name := "cd-" ++ id.text, ciPipelineId := none, externalCiId := none,
    deleted := false }

def runningWorkflow (id : WorkflowId) (ciPipelineId : CiPipelineId) (now : Instant) : CiWorkflow :=
  { id, name := "build-" ++ id.text, status := .running, message := "", startedOn := now,
    finishedOn := none, ciPipelineId, gitTriggers := .empty, triggeredBy := testUser }

def chartRepo : ChartRepo := { id := ⟨1⟩, name := "default-chartmuseum" }

def chartDefaults : Json :=
  .ofMembers [("replicaCount", .int 1),
    ("image", .ofMembers [("pullPolicy", .string "IfNotPresent")])]

def chartRef (id : ChartRefId) (name version : String) : ChartRef :=
  let version := (ChartVersion.parse? version).getD ⟨1, 0, 0⟩
  { id, name, version
    location := "reference-chart_" ++ version.text
    defaultValues := chartDefaults
    imageDescriptorTemplate := "\x7b\x7b.image\x7d\x7d"
    userUploaded := false
    appMetricsSupported := version.supportsAppMetrics }

def user (id : UserId) (email : String) : User := { id, email }

def materials : Json :=
  let material := Json.ofMembers [("plugin-id", .string "git"),
    ("git-configuration", .ofMembers [("url", .string "https://example.com/app.git")]),
    ("type", .string "git")]
  let modification := Json.ofMembers [("revision", .string "abc123"), ("modified-time", .string "")]
  .array [.ofMembers [("material", material), ("changed", .bool true),
    ("modifications", .array [modification])]]

def buildRequest (image imageDigest : String) : BuildEventRequest :=
  { image, imageDigest, materialInfo := some materials.compact, userId := testUser }

def newArtifact (pipeline : CiPipelineId) (image imageDigest : String) (now : Instant) :
    NewArtifact :=
  { pipelineId := some pipeline, externalCiId := none, image, imageDigest, materialInfo := "[]",
    dataSource := .ciRunner, workflowId := none, parentId := none, scanEnabled := false,
    scanned := true, isUploaded := false, audit := .created now testUser }

def values (replicas : Int64) : Json :=
  .ofMembers [("replicaCount", .int replicas.toInt)]

def seedApp (store : Store) : Store :=
  let app := application ⟨1⟩ "demo-app"
  store
    |>.putApp app
    |>.putEnvironment (environment ⟨10⟩ "dev")
    |>.putEnvironment (environment ⟨11⟩ "prod")
    |>.putCdPipeline (cdPipeline ⟨100⟩ app.id ⟨10⟩)
    |>.putCdPipeline (cdPipeline ⟨101⟩ app.id ⟨11⟩)
    |>.putChartRepo chartRepo true
    |>.putChartRef (chartRef ⟨1⟩ WorkloadKind.deployment.chartName "1.2.0")
    |>.putChartRef (chartRef ⟨2⟩ WorkloadKind.deployment.chartName "3.9.0")
    |>.putChartRef (chartRef ⟨3⟩ WorkloadKind.job.chartName "1.2.0")
    |>.putUser (user testUser "dev@example.com")

end Delivery.Fixtures
