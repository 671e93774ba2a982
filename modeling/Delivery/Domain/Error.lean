import Delivery.Domain.Identity
set_option autoImplicit false

namespace Delivery

inductive StoreError where
  | notFound (entity : EntityKind) (id : Int64)
  | insertFailed (entity : EntityKind) (reason : String)
  | updateFailed (entity : EntityKind) (id : Int64) (reason : String)
  | deleteFailed (entity : EntityKind) (id : Int64) (reason : String)
  | constraintViolation (constraint : String) (reason : String)
  | transactionFailed (reason : String)
  | lockPoisoned
  deriving DecidableEq, Repr

namespace StoreError

def emptyImage : StoreError :=
  .constraintViolation "ci_artifact.image" "image must not be empty"

def emptyImageDigest : StoreError :=
  .constraintViolation "ci_artifact.image_digest" "image digest must not be empty"

def duplicateChart (app : AppId) (chartRef : ChartRefId) : StoreError :=
  .constraintViolation "charts.app_id_chart_ref_id"
    ("application " ++ app.text ++ " already has chart reference " ++ chartRef.text)

def alreadyExists (entity : EntityKind) : StoreError :=
  .insertFailed entity "already exists"

def message : StoreError → String
  | .notFound entity id =>
      "Entity not found: " ++ entity.name ++ " with id " ++ Text.Decimal.ofInt64 id
  | .insertFailed entity reason => "Insert failed for " ++ entity.name ++ ": " ++ reason
  | .updateFailed entity id reason =>
      "Update failed for " ++ entity.name ++ " with id " ++ Text.Decimal.ofInt64 id ++ ": " ++ reason
  | .deleteFailed entity id reason =>
      "Delete failed for " ++ entity.name ++ " with id " ++ Text.Decimal.ofInt64 id ++ ": " ++ reason
  | .constraintViolation constraint reason =>
      "Constraint violation on " ++ constraint ++ ": " ++ reason
  | .transactionFailed reason => "Transaction failed: " ++ reason
  | .lockPoisoned => "Storage lock poisoned"

def code : StoreError → String
  | .notFound _ _ => "NotFound"
  | .insertFailed _ _ => "InsertFailed"
  | .updateFailed _ _ _ => "UpdateFailed"
  | .deleteFailed _ _ _ => "DeleteFailed"
  | .constraintViolation _ _ => "ConstraintViolation"
  | .transactionFailed _ => "TransactionFailed"
  | .lockPoisoned => "LockPoisoned"

end StoreError

inductive ValidationError where
  | requiredFieldMissing (field : String)
  | invalidValue (field : String) (reason : String)
  | duplicateChartReference (app : AppId) (chartRef : ChartRefId)
  | unsupportedDataSource (name : String)
  | invalidChartVersion (version : String)
  | incompatibleChartKinds (before : String) (after : String)
  | invalidStatusTransition (workflow : WorkflowId) (before : String) (after : String)
  | invalidMaterialInfo (reason : String)
  deriving DecidableEq, Repr

namespace ValidationError

def message : ValidationError → String
  | .requiredFieldMissing field => "Required field missing: " ++ field
  | .invalidValue field reason => "Invalid value for " ++ field ++ ": " ++ reason
  | .duplicateChartReference app chartRef =>
      "Chart reference " ++ chartRef.text ++ " is already bound to application " ++ app.text
  | .unsupportedDataSource name => "Data source not supported: " ++ name
  | .invalidChartVersion version => "Invalid chart version: " ++ version
  | .incompatibleChartKinds before after =>
      "Chart kinds are not compatible: " ++ before ++ " -> " ++ after
  | .invalidStatusTransition workflow before after =>
      "Invalid workflow status transition for " ++ workflow.text ++ ": " ++ before ++ " -> " ++ after
  | .invalidMaterialInfo reason => "Invalid material info: " ++ reason

def code : ValidationError → String
  | .requiredFieldMissing _ => "RequiredFieldMissing"
  | .invalidValue _ _ => "InvalidValue"
  | .duplicateChartReference _ _ => "DuplicateChartReference"
  | .unsupportedDataSource _ => "UnsupportedDataSource"
  | .invalidChartVersion _ => "InvalidChartVersion"
  | .incompatibleChartKinds _ _ => "IncompatibleChartKinds"
  | .invalidStatusTransition _ _ _ => "InvalidStatusTransition"
  | .invalidMaterialInfo _ => "InvalidMaterialInfo"

end ValidationError

inductive AuthorizationError where
  | invalidExternalCiId (id : ExternalCiId)
  | invalidApiKey (reason : String)
  | denied (resource : String)
  deriving DecidableEq, Repr

namespace AuthorizationError

def message : AuthorizationError → String
  | .invalidExternalCiId id => "invalid external ci id: " ++ id.text
  | .invalidApiKey reason => "invalid api key: " ++ reason
  | .denied resource => "permission denied on " ++ resource

def code : AuthorizationError → String
  | .invalidExternalCiId _ => "InvalidExternalCiId"
  | .invalidApiKey _ => "InvalidApiKey"
  | .denied _ => "Denied"

end AuthorizationError

inductive ConfigError where
  | missingRequired (field : String)
  | invalidValue (field : String) (value : String) (reason : String)
  | tracingInit (reason : String)
  deriving DecidableEq, Repr

namespace ConfigError

def message : ConfigError → String
  | .missingRequired field => "Missing required configuration field: " ++ field
  | .invalidValue field value reason =>
      "Invalid value for " ++ field ++ ": " ++ value ++ " - " ++ reason
  | .tracingInit reason => "Tracing initialisation failed: " ++ reason

def code : ConfigError → String
  | .missingRequired _ => "MissingRequired"
  | .invalidValue _ _ _ => "InvalidValue"
  | .tracingInit _ => "TracingInit"

end ConfigError

inductive TriggerError where
  | failed (artifact : ArtifactId) (reason : String)
  | aborted (artifact : ArtifactId) (reason : String)
  | cancelled (artifact : ArtifactId)
  deriving DecidableEq, Repr

namespace TriggerError

def artifact : TriggerError → ArtifactId
  | .failed artifact _ | .aborted artifact _ | .cancelled artifact => artifact

def message : TriggerError → String
  | .failed artifact reason => "trigger failed for artifact " ++ artifact.text ++ ": " ++ reason
  | .aborted artifact reason =>
      "trigger task for artifact " ++ artifact.text ++ " aborted: " ++ reason
  | .cancelled artifact =>
      "fan-out for artifact " ++ artifact.text ++ " cancelled before any trigger ran"

def code : TriggerError → String
  | .failed _ _ => "Failed"
  | .aborted _ _ => "Aborted"
  | .cancelled _ => "Cancelled"

end TriggerError

structure FanOutFailure where
  failures : List TriggerError
  succeeded : Nat
  triggeredAny : Bool
  deriving DecidableEq, Repr

def FanOutFailure.message (failure : FanOutFailure) : String :=
  String.ofList (Text.Decimal.ofNat failure.failures.length) ++ " downstream trigger(s) failed, " ++
    String.ofList (Text.Decimal.ofNat failure.succeeded) ++ " succeeded"

inductive Error where
  | notFound (entity : EntityKind) (id : Int64)
  | store (cause : StoreError)
  | validation (cause : ValidationError)
  | authorization (cause : AuthorizationError)
  | config (cause : ConfigError)
  | trigger (cause : TriggerError)
  | partialFanOut (failure : FanOutFailure)
  deriving DecidableEq, Repr

namespace Error

def inner? : Error → Option String
  | .notFound _ _ => none
  | .store cause => some cause.message
  | .validation cause => some cause.message
  | .authorization cause => some cause.message
  | .config cause => some cause.message
  | .trigger cause => some cause.message
  | .partialFanOut failure => some failure.message

def message : Error → String
  | .notFound entity id => entity.name ++ " not found: " ++ Text.Decimal.ofInt64 id
  | .store cause => "Persistence error: " ++ cause.message
  | .validation cause => "Validation error: " ++ cause.message
  | .authorization cause => "Authorization error: " ++ cause.message
  | .config cause => "Config error: " ++ cause.message
  | .trigger cause => "Trigger error: " ++ cause.message
  | .partialFanOut failure => "Partial fan-out failure: " ++ failure.message

def code : Error → String
  | .notFound _ _ => "NotFound"
  | .store cause => "Persistence." ++ cause.code
  | .validation cause => "Validation." ++ cause.code
  | .authorization cause => "Authorization." ++ cause.code
  | .config cause => "Config." ++ cause.code
  | .trigger cause => "Trigger." ++ cause.code
  | .partialFanOut _ => "PartialFanOut"

def isNotFound : Error → Bool
  | .notFound _ _ => true
  | .store (.notFound _ _) => true
  | _ => false

def missing {kind : EntityKind} (id : Id kind) : Error :=
  .notFound kind id.raw

instance : Inhabited Error := ⟨.store .lockPoisoned⟩

end Error

end Delivery
