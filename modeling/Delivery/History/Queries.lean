import Delivery.Store.History
set_option autoImplicit false

namespace Delivery.Store

def historyDetail (store : Store) (id : HistoryId) (pipeline : CdPipelineId) :
    Except Error HistoryDetail :=
  match (store.history.get? id).filter fun row =>
      row.pipelineId == some pipeline && row.deployed with
  | some row => .ok row.detail
  | none => .error (.missing id)

def runAt? (runs : List CdWorkflowRunner) (time : Instant) : Option CdWorkflowRunner :=
  runs.reverse.find? fun run => run.startedOn == time

def joined? (runs : List CdWorkflowRunner) (row : History) : Option (History × CdWorkflowRunner) := do
  let run ← runAt? runs (← row.deployedOn)
  return (row, run)

def deploymentsWithRuns (store : Store) (pipeline : CdPipelineId) :
    List (History × CdWorkflowRunner) :=
  (store.deploymentsOf pipeline).filterMap (joined? (store.deployRunsOf pipeline))

def emailOf (store : Store) (user : UserId) : String :=
  ((store.users.get? user).map (·.email)).getD ""

def detailOf? (store : Store) (pipeline : CdPipelineId) (row : History) (run : CdWorkflowRunner) :
    Option DeploymentDetail := do
  let deployedOn ← row.deployedOn
  let deployedBy ← row.deployedBy
  return {
    historyId := row.id
    pipelineId := pipeline
    deployedOn
    deployedBy
    email := store.emailOf deployedBy
    status := run.status
    runnerId := run.id
    stage := run.stage }

def deploymentDetails (store : Store) (pipeline : CdPipelineId) (offset limit : Nat) :
    List DeploymentDetail :=
  let page := ((store.deploymentsWithRuns pipeline).drop offset).take limit
  page.filterMap fun (row, run) => store.detailOf? pipeline row run

def summaryOf? (store : Store) (row : History) (run : CdWorkflowRunner) :
    Option DeployedHistorySummary := do
  let deployedOn ← row.deployedOn
  return {
    id := row.id
    deployedOn
    deployedBy := (row.deployedBy.map store.emailOf).getD ""
    status := run.status }

def deployedList (store : Store) (pipeline : CdPipelineId) (base : HistoryId) :
    List DeployedHistorySummary :=
  let upToBase := (store.deploymentsWithRuns pipeline).filter fun (row, _) =>
    (compare row.id base).isLE
  upToBase.filterMap fun (row, run) => store.summaryOf? row run

def historyOfRun? (store : Store) (pipeline : CdPipelineId) (run : CdWorkflowRunnerId) :
    Option History := do
  let run ← (store.runners.get? run).filter fun row => row.cdPipelineId == pipeline
  (store.deploymentsOf pipeline).find? fun row => row.deployedOn == some run.startedOn

def detailOfRun (store : Store) (pipeline : CdPipelineId) (run : CdWorkflowRunnerId) :
    Except Error HistoryDetail :=
  match store.historyOfRun? pipeline run with
  | some row => .ok row.detail
  | none => .error (.notFound .deploymentTemplateHistory run.raw)

end Delivery.Store
