import Delivery.FanOut.Engine
set_option autoImplicit false

namespace Delivery

structure Script where
  failArtifacts : List ArtifactId := []
  failPipelines : List CiPipelineId := []
  failCd : List CdPipelineId := []
  panicOn : List Int64 := []
  cancelOn : List Int64 := []
  deriving DecidableEq, Repr, Inhabited

structure TriggerCall where
  artifactId : ArtifactId
  pipelineId : Option CiPipelineId
  cdPipelineId : Option CdPipelineId
  isManual : Bool
  user : UserId
  deriving DecidableEq, Repr

namespace TriggerCall

def of : Trigger → TriggerCall
  | .internal artifact isManual _ user =>
      { artifactId := artifact.id
        pipelineId := artifact.pipelineId
        cdPipelineId := none
        isManual
        user }
  | .external artifact target user =>
      { artifactId := artifact.id
        pipelineId := none
        cdPipelineId := some target.cdPipelineId
        isManual := true
        user }

def codec : Codec TriggerCall :=
  Codec.record "TriggerCall" <|
    (Codec.Fields.start TriggerCall.mk)
      |>.field "artifact_id" (·.artifactId) Id.codec
      |>.field "pipeline_id" (·.pipelineId) Id.codec.option
      |>.field "cd_pipeline_id" (·.cdPipelineId) Id.codec.option
      |>.field "is_manual" (·.isManual) Codec.bool
      |>.field "user" (·.user) Id.codec

end TriggerCall

namespace Trigger

def scriptKey : Trigger → Int64
  | .internal artifact _ _ _ => artifact.id.raw
  | .external _ target _ => target.cdPipelineId.raw

def label : Trigger → String
  | .internal artifact _ _ _ => artifact.id.text
  | .external artifact target _ => artifact.id.text ++ ">" ++ target.cdPipelineId.text

def suffix : Trigger → String
  | .internal _ _ true _ => " async"
  | _ => ""

end Trigger

namespace Script

def add (script more : Script) : Script where
  failArtifacts := script.failArtifacts ++ more.failArtifacts
  failPipelines := script.failPipelines ++ more.failPipelines
  failCd := script.failCd ++ more.failCd
  panicOn := script.panicOn ++ more.panicOn
  cancelOn := script.cancelOn ++ more.cancelOn

def failsArtifact (script : Script) (artifact : Artifact) : Bool :=
  script.failArtifacts.contains artifact.id ||
    artifact.pipelineId.any fun pipeline => script.failPipelines.contains pipeline

def panics (script : Script) (trigger : Trigger) : Bool :=
  script.panicOn.contains trigger.scriptKey

def refusing? (script : Script) : Trigger → Option CdPipelineId
  | .internal _ _ _ _ => none
  | .external _ target _ =>
      if script.failCd.contains target.cdPipelineId then some target.cdPipelineId else none

def panicReason (trigger : Trigger) : String :=
  "task <id> panicked with message \"executor panic on " ++ Text.Decimal.ofInt64 trigger.scriptKey ++ "\""

def outcome (script : Script) (trigger : Trigger) : Outcome :=
  let artifact := trigger.artifact
  if script.panics trigger then .panicked (panicReason trigger)
  else if script.failsArtifact artifact then .failed (.failed artifact.id "injected failure")
  else
    match script.refusing? trigger with
    | some pipeline => .failed (.failed artifact.id ("cd " ++ pipeline.text ++ " refused"))
    | none => .succeeded

def executor (script : Script) (cancellable : Bool) : Executor Bool where
  cancelled signal := cancellable && signal
  start trigger signal := signal || script.cancelOn.contains trigger.scriptKey
  finish trigger signal := (script.outcome trigger, signal)

def note? (script : Script) : Moment → Option String
  | .started trigger => some ("start " ++ trigger.label ++ trigger.suffix)
  | .ended trigger =>
      if script.panics trigger then none else some ("end " ++ trigger.label ++ trigger.suffix)

def trace (script : Script) (moments : List Moment) : List String :=
  moments.filterMap script.note?

end Script

def callsOf (moments : List Moment) : List TriggerCall :=
  moments.filterMap fun
    | .started trigger => some (.of trigger)
    | .ended _ => none

namespace Authorizer

def allowEnvs (envs : List Json) : Authorizer := fun _ _ env =>
  envs.any fun value => value = .string env

def matching (named : List (String × Json)) : Authorizer := fun token project env =>
  [("token", token), ("project", project), ("env", env)].all fun (name, asked) =>
    (Entries.find? name named).all fun value => value = .string asked

def denyAll : Authorizer := fun _ _ _ => false

def allowAll : Authorizer := fun _ _ _ => true

end Authorizer

end Delivery
