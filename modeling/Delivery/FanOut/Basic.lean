import Delivery.Domain.Build
import Delivery.Domain.Deployment
import Delivery.Domain.Error
set_option autoImplicit false

namespace Delivery

inductive Trigger where
  | internal (artifact : Artifact) (isManual : Bool) (isAsync : Bool) (user : UserId)
  | external (artifact : Artifact) (target : DownstreamTarget) (user : UserId)
  deriving DecidableEq, Repr

def Trigger.artifact : Trigger → Artifact
  | .internal artifact _ _ _ | .external artifact _ _ => artifact

-- A task that panicked has the text in which the runtime reports this, as it may be.
inductive Outcome where
  | succeeded
  | failed (error : TriggerError)
  | panicked (reason : String)
  deriving DecidableEq, Repr

def Outcome.error? (artifact : ArtifactId) : Outcome → Option TriggerError
  | .succeeded => none
  | .failed error => some error
  | .panicked reason => some (.aborted artifact reason)

-- Who carries triggers out. A trigger starts, and ends some time later; the executor keeps a state of its
-- own. It also carries the signal to stop.
structure Executor (ω : Type) where
  cancelled : ω → Bool
  start : Trigger → ω → ω
  finish : Trigger → ω → Outcome × ω

inductive Moment where
  | started (trigger : Trigger)
  | ended (trigger : Trigger)
  deriving DecidableEq, Repr

abbrev Authorizer := String → String → String → Bool

structure Inquiry where
  token : String
  projectResource : String
  envResource : String
  answer : Bool
  deriving DecidableEq, Repr

structure FanOutReport where
  attempted : Nat := 0
  succeeded : Nat := 0
  skipped : Nat := 0
  failures : List TriggerError := []
  cancelled : Bool := false
  deriving DecidableEq, Repr, Inhabited

namespace FanOutReport

def triggeredAny (report : FanOutReport) : Bool := 0 < report.succeeded

def failure? (report : FanOutReport) : Option FanOutFailure :=
  if report.failures.isEmpty then none
  else
    some {
      failures := report.failures
      succeeded := report.succeeded
      triggeredAny := report.triggeredAny }

def absorb (report : FanOutReport) : Option TriggerError → FanOutReport
  | none => { report with attempted := report.attempted + 1, succeeded := report.succeeded + 1 }
  | some error =>
      { report with attempted := report.attempted + 1, failures := report.failures ++ [error] }

end FanOutReport

end Delivery
