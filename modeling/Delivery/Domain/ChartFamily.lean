import Delivery.Json.Codec
import Delivery.Text.Blank
set_option autoImplicit false

namespace Delivery

inductive WorkloadKind where
  | deployment
  | rollout
  | job
  | statefulSet
  deriving DecidableEq, Repr

namespace WorkloadKind

def name : WorkloadKind → String
  | .deployment => "Deployment"
  | .rollout => "Rollout"
  | .job => "Job"
  | .statefulSet => "StatefulSet"

def all : List WorkloadKind := [.deployment, .rollout, .job, .statefulSet]

def chartName : WorkloadKind → String
  | .deployment => "Deployment"
  | .rollout => "Rollout Deployment"
  | .job => "Job & CronJob"
  | .statefulSet => "StatefulSet"

-- The workload of a chart name, blanks at its ends apart. No name stands for the rollout chart, and a name
-- that is not known for nothing.
def ofChartName? (text : String) : Option WorkloadKind :=
  let trimmed := Text.trim text
  if trimmed = "" then some .rollout else all.find? fun kind => kind.chartName = trimmed

def codec : Codec WorkloadKind := Codec.variant name all

end WorkloadKind

structure ChartKind where
  workload : WorkloadKind
  canary : Bool
  deriving DecidableEq, Repr

namespace ChartKind

def ofChartName? (text : String) (canary : Bool) : Option ChartKind :=
  (WorkloadKind.ofChartName? text).map fun workload => ⟨workload, canary⟩

def isCompatibleWith (first second : ChartKind) : Bool :=
  first.workload == second.workload

def codec : Codec ChartKind :=
  Codec.record "ChartKind" <|
    (Codec.Fields.start ChartKind.mk)
      |>.field "workload" (·.workload) WorkloadKind.codec
      |>.field "canary" (·.canary) Codec.bool

end ChartKind

def chartNamesCompatible (old new : String) : Bool :=
  match WorkloadKind.ofChartName? old, WorkloadKind.ofChartName? new with
  | some first, some second => first == second
  | _, _ => false

end Delivery
