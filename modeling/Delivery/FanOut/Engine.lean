import Delivery.Entries
import Delivery.FanOut.Basic
set_option autoImplicit false

namespace Delivery

-- The choices of a scheduler during a batch. A choice counts the tasks that wait for their start and then
-- those that run, in a circle; choices that are left out fall on the first.
abbrev Choices := List Nat

structure Engine (ω : Type) where
  executor : Executor ω
  batchSize : Nat
  schedule : List Choices := []

structure FanOutRun (ω : Type) where
  outside : ω
  moments : List Moment := []
  report : FanOutReport := {}

structure Batch (ω : Type) where
  outside : ω
  moments : List Moment := []
  waiting : List (Nat × Trigger)
  running : List (Nat × Trigger) := []
  outcomes : List (Nat × Outcome) := []

namespace Batch

variable {ω : Type}

def startTask (executor : Executor ω) (batch : Batch ω) (place : Nat) : Batch ω :=
  match batch.waiting[place]? with
  | none => batch
  | some task =>
      { batch with
        outside := executor.start task.2 batch.outside
        moments := batch.moments ++ [.started task.2]
        waiting := batch.waiting.eraseIdx place
        running := batch.running ++ [task] }

def endTask (executor : Executor ω) (batch : Batch ω) (place : Nat) : Batch ω :=
  match batch.running[place]? with
  | none => batch
  | some task =>
      let (outcome, outside) := executor.finish task.2 batch.outside
      { batch with
        outside
        moments := batch.moments ++ [.ended task.2]
        running := batch.running.eraseIdx place
        outcomes := Entries.insert task.1 outcome batch.outcomes }

def turn (executor : Executor ω) (batch : Batch ω) (choice : Nat) : Batch ω :=
  let place := choice % (batch.waiting.length + batch.running.length)
  if place < batch.waiting.length then batch.startTask executor place
  else batch.endTask executor (place - batch.waiting.length)

def turns (executor : Executor ω) : Nat → Choices → Batch ω → Batch ω
  | 0, _, batch => batch
  | count + 1, choices, batch =>
      turns executor count choices.tail (batch.turn executor (choices.headD 0))

def run (executor : Executor ω) (choices : Choices) (triggers : List Trigger) (outside : ω) :
    Batch ω :=
  turns executor (2 * triggers.length) choices
    { outside, waiting := triggers.zipIdx.map fun (trigger, place) => (place, trigger) }

end Batch

namespace Engine

variable {ω : Type}

-- The list cut into batches of the size, the last of which may be smaller, in at most `fuel` cuts.
def cut {α : Type} (size : Nat) : Nat → List α → List (List α)
  | 0, _ => []
  | _ + 1, [] => []
  | fuel + 1, item :: rest => (item :: rest).take size :: cut size fuel ((item :: rest).drop size)

def batches {α : Type} (size : Nat) (items : List α) : List (List α) :=
  cut (max size 1) items.length items

def errors (triggers : List Trigger) (batch : Batch ω) : List (Option TriggerError) :=
  (triggers.zip (batch.outcomes.map (·.2))).map fun (trigger, outcome) =>
    outcome.error? trigger.artifact.id

def runBatch (engine : Engine ω) (choices : Choices) (triggers : List Trigger)
    (run : FanOutRun ω) : FanOutRun ω :=
  let batch := Batch.run engine.executor choices triggers run.outside
  { outside := batch.outside
    moments := run.moments ++ batch.moments
    report := (errors triggers batch).foldl FanOutReport.absorb run.report }

def runBatches (engine : Engine ω) : List Choices → List (List Trigger) → FanOutRun ω → FanOutRun ω
  | _, [], run => run
  | schedule, triggers :: later, run =>
      if engine.executor.cancelled run.outside then
        { run with report := { run.report with cancelled := true } }
      else runBatches engine schedule.tail later (engine.runBatch (schedule.headD []) triggers run)

def runTriggers (engine : Engine ω) (triggers : List Trigger) (report : FanOutReport) (outside : ω) :
    FanOutRun ω :=
  engine.runBatches engine.schedule (batches engine.batchSize triggers) { outside, report }

def fanOut (engine : Engine ω) (artifacts : List Artifact) (mode : TriggerMode) (user : UserId)
    (outside : ω) : FanOutRun ω :=
  let triggers := artifacts.map fun artifact => .internal artifact mode.isManual false user
  engine.runTriggers triggers {} outside

def inquiries (targets : List DownstreamTarget) (token : String) (authorizer : Authorizer) :
    List Inquiry :=
  targets.map fun target =>
    { token
      projectResource := target.projectResource
      envResource := target.envResource
      answer := authorizer token target.projectResource target.envResource }

def isAllowed (token : String) (authorizer : Authorizer) (target : DownstreamTarget) : Bool :=
  authorizer token target.projectResource target.envResource

def fanOutExternal (engine : Engine ω) (artifact : Artifact) (targets : List DownstreamTarget)
    (token : String) (authorizer : Authorizer) (user : UserId) (outside : ω) : FanOutRun ω :=
  let allowed := targets.filter (isAllowed token authorizer)
  let triggers := allowed.map fun target => .external artifact target user
  let denied := targets.countP fun target => !isAllowed token authorizer target
  engine.runTriggers triggers { skipped := denied } outside

end Engine

end Delivery
