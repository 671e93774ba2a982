import Delivery.Rehearsal.Fixtures
set_option autoImplicit false

namespace Delivery.Sample

def moment : Instant := .ofSeconds 1704067200

def audit : AuditLog := .created moment Fixtures.testUser

def newArtifact : NewArtifact := Fixtures.newArtifact ⟨1⟩ "repo/app:1" "sha256:a" moment

def artifact : Artifact := newArtifact.stored ⟨1⟩

def workflow : CiWorkflow :=
  { Fixtures.runningWorkflow ⟨1⟩ ⟨1⟩ moment with name := "build" }

def ciPipeline : CiPipeline := { Fixtures.ciPipeline ⟨1⟩ ⟨1⟩ false with name := "ci" }

def externalCi : ExternalCiPipeline := Fixtures.externalCi ⟨5⟩ ⟨1⟩ "s3cret"

def cdPipeline : CdPipeline := { Fixtures.cdPipeline ⟨100⟩ ⟨1⟩ ⟨10⟩ with name := "cd" }

def application : Application := Fixtures.application ⟨1⟩ "demo-app"

def environment : Environment := Fixtures.environment ⟨10⟩ "dev"

def user : User := Fixtures.user Fixtures.testUser "dev@example.com"

def noValues : Json := .object []

def chartRef : ChartRef :=
  { Fixtures.chartRef ⟨1⟩ WorkloadKind.deployment.chartName "1.2.0" with
    location := "ref", defaultValues := noValues }

def newChart : NewChart where
  appId := ⟨1⟩
  repoId := ⟨1⟩
  repoName := "default"
  name := "demo-app"
  chartRefId := ⟨1⟩
  referenceTemplate := "ref"
  values := noValues
  globalOverride := noValues
  imageDescriptorTemplate := ""
  version := ⟨1, 0, 1⟩
  audit := audit

def chart : Chart := { newChart.stored ⟨1⟩ with latest := false }

def newEnvOverride : NewEnvOverride where
  chartId := ⟨1⟩
  targetEnvironment := ⟨10⟩
  values := noValues
  isOverride := true
  active := true
  audit := audit

def envOverride : EnvOverride := newEnvOverride.stored ⟨1⟩

def history : NewHistory where
  appId := ⟨1⟩
  pipelineId := some ⟨100⟩
  targetEnvironment := some ⟨10⟩
  template := noValues
  imageDescriptorTemplate := ""
  templateName := WorkloadKind.deployment.chartName
  templateVersion := "1.2.0"
  appMetrics := false
  deployed := true
  deployedOn := some moment
  deployedBy := some Fixtures.testUser
  snapshot := .empty
  audit := audit

def runner : CdWorkflowRunner where
  id := ⟨1⟩
  cdPipelineId := ⟨100⟩
  stage := .deploy
  status := .succeeded
  startedOn := moment
  artifactId := ⟨1⟩
  triggeredBy := Fixtures.testUser

def buildRequest : BuildEventRequest :=
  { image := "repo/app:1", imageDigest := "sha256:a", userId := Fixtures.testUser }

def templateRequest : TemplateRequest where
  appId := ⟨1⟩
  chartRefId := ⟨1⟩
  valuesOverride := noValues
  appMetrics := false
  userId := Fixtures.testUser

end Delivery.Sample
