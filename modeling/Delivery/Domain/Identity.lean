import Delivery.Json.Codec
set_option autoImplicit false

namespace Delivery

inductive EntityKind where
  | artifact
  | ciWorkflow
  | ciPipeline
  | externalCiPipeline
  | cdPipeline
  | cdWorkflowRunner
  | application
  | environment
  | chart
  | chartRef
  | chartRepo
  | envOverride
  | appLevelMetrics
  | envLevelMetrics
  | deploymentTemplateHistory
  | user
  deriving DecidableEq, Repr

namespace EntityKind

def name : EntityKind → String
  | .artifact => "Artifact"
  | .ciWorkflow => "CiWorkflow"
  | .ciPipeline => "CiPipeline"
  | .externalCiPipeline => "ExternalCiPipeline"
  | .cdPipeline => "CdPipeline"
  | .cdWorkflowRunner => "CdWorkflowRunner"
  | .application => "Application"
  | .environment => "Environment"
  | .chart => "Chart"
  | .chartRef => "ChartRef"
  | .chartRepo => "ChartRepo"
  | .envOverride => "EnvOverride"
  | .appLevelMetrics => "AppLevelMetrics"
  | .envLevelMetrics => "EnvLevelMetrics"
  | .deploymentTemplateHistory => "DeploymentTemplateHistory"
  | .user => "User"

def all : List EntityKind :=
  [.artifact, .ciWorkflow, .ciPipeline, .externalCiPipeline, .cdPipeline, .cdWorkflowRunner,
    .application, .environment, .chart, .chartRef, .chartRepo, .envOverride, .appLevelMetrics,
    .envLevelMetrics, .deploymentTemplateHistory, .user]

def codec : Codec EntityKind := Codec.variant name all

end EntityKind

structure Id (kind : EntityKind) where
  raw : Int64
  deriving DecidableEq, Repr, Inhabited

namespace Id

variable {kind : EntityKind}

instance : Ord (Id kind) := ⟨fun first second => compare first.raw second.raw⟩

theorem compare_eq (first second : Id kind) :
    compare first second = compare first.raw second.raw := rfl

instance : Std.OrientedOrd (Id kind) where
  eq_swap := Std.OrientedOrd.eq_swap (α := Int64)

instance : Std.TransOrd (Id kind) where
  isLE_trans := Std.TransOrd.isLE_trans (α := Int64)

instance : Std.LawfulEqOrd (Id kind) where
  eq_of_compare {first second} equal := by
    cases first; cases second
    exact congrArg Id.mk (Std.LawfulEqOrd.eq_of_compare equal)

def capacity : Nat := 9223372036854775808

def nth (count : Nat) : Id kind := ⟨Int64.ofNat (count + 1)⟩

theorem raw_nth {count : Nat} (room : count + 1 < capacity) :
    (nth count : Id kind).raw.toInt = count + 1 :=
  Int64.toInt_ofNat_of_lt room

theorem nth_before {earlier later : Nat} (before : earlier < later) (room : later + 1 < capacity) :
    compare (nth earlier : Id kind) (nth later) = .lt := by
  have left : (nth earlier : Id kind).raw.toInt = earlier + 1 := raw_nth (by omega)
  have right : (nth later : Id kind).raw.toInt = later + 1 := raw_nth room
  rw [compare_eq, Std.compare_eq_lt, Int64.lt_iff_toInt_lt, left, right]
  omega

theorem nth_different {earlier later : Nat} (before : earlier < later) (room : later + 1 < capacity) :
    (nth earlier : Id kind) ≠ nth later := by
  intro same
  have less : compare (nth earlier : Id kind) (nth later) = .lt := nth_before before room
  rw [same, Std.compare_eq_iff_eq.mpr rfl] at less
  cases less

def text (id : Id kind) : String := Text.Decimal.ofInt64 id.raw

def codec : Codec (Id kind) := Codec.int64.via Id.mk Id.raw

end Id

abbrev ArtifactId := Id .artifact
abbrev WorkflowId := Id .ciWorkflow
abbrev CiPipelineId := Id .ciPipeline
abbrev ExternalCiId := Id .externalCiPipeline
abbrev CdPipelineId := Id .cdPipeline
abbrev CdWorkflowRunnerId := Id .cdWorkflowRunner
abbrev AppId := Id .application
abbrev EnvironmentId := Id .environment
abbrev ChartId := Id .chart
abbrev ChartRefId := Id .chartRef
abbrev ChartRepoId := Id .chartRepo
abbrev EnvOverrideId := Id .envOverride
abbrev HistoryId := Id .deploymentTemplateHistory
abbrev UserId := Id .user

namespace UserId

def system : UserId := ⟨1⟩

def isSystem (id : UserId) : Bool := id == system

end UserId

end Delivery
