import Delivery.Domain.Error
import Delivery.Domain.ChartFamily
set_option autoImplicit false

namespace Delivery

def canaryField : String := "flaggerCanary.enabled"

def canaryEnabled (values : Json) : Except Error Bool :=
  match values.get? "flaggerCanary" with
  | none => .ok false
  | some canary =>
      match canary.get? "enabled" with
      | some (.bool enabled) => .ok enabled
      | some other =>
          .error (.validation (.invalidValue canaryField ("expected boolean, got " ++ other.compact)))
      | none => .error (.validation (.requiredFieldMissing canaryField))

end Delivery
