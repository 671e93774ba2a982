import Delivery.Store.Basic
import Delivery.Text.Blank
set_option autoImplicit false

namespace Delivery

def NewArtifact.check (artifact : NewArtifact) : Except Error Unit :=
  if Text.isBlankText artifact.image then .error (.store .emptyImage)
  else if Text.isBlankText artifact.imageDigest then .error (.store .emptyImageDigest)
  else .ok ()

namespace Store

def insertArtifact (store : Store) (artifact : NewArtifact) : Artifact × Store :=
  let row := artifact.stored (Id.nth store.artifactCount)
  (row,
    { store with
      artifacts := store.artifacts.insert row.id row
      artifactCount := store.artifactCount + 1 })

def insertArtifacts (store : Store) : List NewArtifact → List Artifact × Store
  | [] => ([], store)
  | artifact :: rest =>
      let (row, store) := store.insertArtifact artifact
      let (rows, store) := insertArtifacts store rest
      (row :: rows, store)

def saveArtifact (store : Store) (artifact : NewArtifact) : Except Error (Artifact × Store) := do
  artifact.check
  return store.insertArtifact artifact

def saveArtifacts (store : Store) (artifacts : List NewArtifact) :
    Except Error (List Artifact × Store) := do
  artifacts.forM NewArtifact.check
  return store.insertArtifacts artifacts

def transitionError (id : WorkflowId) (current next : WorkflowStatus) : Error :=
  .validation (.invalidStatusTransition id current.name next.name)

def finishWorkflow (workflow : CiWorkflow) (finishedOn : Instant) : CiWorkflow :=
  { workflow with status := .succeeded, finishedOn := some finishedOn }

def saveArtifactOfWorkflow (store : Store) (artifact : NewArtifact) (id : WorkflowId)
    (finishedOn : Instant) : Except Error (Artifact × Store) := do
  artifact.check
  match store.workflows.get? id with
  | none => throw (missing id)
  | some workflow =>
      if workflow.status.mayBecome .succeeded then
        let workflows := store.workflows.insert id (finishWorkflow workflow finishedOn)
        return { store with workflows }.insertArtifact artifact
      else throw (transitionError id workflow.status .succeeded)

def deleteArtifact (store : Store) (id : ArtifactId) : Except Error (Unit × Store) :=
  if store.artifacts.contains id then
    .ok ((), { store with artifacts := store.artifacts.erase id })
  else .error (missing id)

def latestArtifactOf (store : Store) (pipeline : CiPipelineId) : Option Artifact :=
  store.artifacts.findLast? fun artifact => artifact.pipelineId == some pipeline

def artifactByDigest (store : Store) (digest : String) : Option Artifact :=
  store.artifacts.findLast? fun artifact => artifact.imageDigest == digest

-- What the run has built; clones name no run.
def artifactOfWorkflow (store : Store) (id : WorkflowId) : Option Artifact :=
  store.artifacts.find? fun artifact => artifact.workflowId == some id

def clonesOf (store : Store) (parent : ArtifactId) : List Artifact :=
  store.artifacts.filter fun artifact => artifact.parentId == some parent

def isSuccessfulDeploy (pipeline : CdPipelineId) (run : CdWorkflowRunner) : Bool :=
  run.cdPipelineId == pipeline && run.stage == .deploy && run.status == .succeeded

def startsNoEarlier (first second : CdWorkflowRunner) : Bool :=
  (compare second.startedOn first.startedOn).isLE

def deployedArtifacts (store : Store) (pipeline : CdPipelineId) : List Artifact :=
  let runs := (store.runners.filter (isSuccessfulDeploy pipeline)).mergeSort startsNoEarlier
  (runs.map (·.artifactId)).eraseDups.filterMap store.artifacts.get?

def insertWorkflow (store : Store) (workflow : CiWorkflow) : Except Error (Unit × Store) :=
  if store.workflows.contains workflow.id then .error (.store (.alreadyExists .ciWorkflow))
  else .ok ((), { store with workflows := store.workflows.insert workflow.id workflow })

def updateWorkflow (store : Store) (workflow : CiWorkflow) : Except Error (Unit × Store) :=
  match store.workflows.get? workflow.id with
  | none => .error (missing workflow.id)
  | some current =>
      if current.status.mayBecome workflow.status then
        .ok ((), { store with workflows := store.workflows.insert workflow.id workflow })
      else .error (transitionError workflow.id current.status workflow.status)

end Store

end Delivery
