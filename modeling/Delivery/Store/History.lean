import Delivery.Store.Basic
set_option autoImplicit false

namespace Delivery.Store

def appendHistory (store : Store) (row : NewHistory) : History × Store :=
  let row := row.stored (Id.nth store.historyCount)
  (row,
    { store with
      history := store.history.insert row.id row
      historyCount := store.historyCount + 1 })

def appendHistories (store : Store) : List NewHistory → List History × Store
  | [] => ([], store)
  | row :: rest =>
      let (row, store) := store.appendHistory row
      let (rows, store) := appendHistories store rest
      (row :: rows, store)

def historyOf (store : Store) (app : AppId) : List History :=
  store.history.filter fun row => row.appId == app

def deploymentsOf (store : Store) (pipeline : CdPipelineId) : List History :=
  (store.history.filter fun row => row.pipelineId == some pipeline && row.deployed).reverse

def insertRunner (store : Store) (run : CdWorkflowRunner) : Except Error (Unit × Store) :=
  if store.runners.contains run.id then .error (.store (.alreadyExists .cdWorkflowRunner))
  else .ok ((), { store with runners := store.runners.insert run.id run })

def deployRunsOf (store : Store) (pipeline : CdPipelineId) : List CdWorkflowRunner :=
  store.runners.filter fun run => run.cdPipelineId == pipeline && run.stage == .deploy

end Delivery.Store
