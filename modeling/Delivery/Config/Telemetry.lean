import Delivery.Config.LogFilter
import Delivery.Config.Variables
import Delivery.Domain.Error
set_option autoImplicit false

namespace Delivery

structure TelemetryConfig where
  logFilter : String := "shipyard_pipeline=info,shipyard_storage=info,warn"
  json : Bool := true
  serviceName : String := "shipyard"
  deriving DecidableEq, Repr, Inhabited

namespace TelemetryConfig

def filterVariable : String := "SHIPYARD_LOG_FILTER"

def ofVariables (settings : Variables) : TelemetryConfig :=
  let standard : TelemetryConfig := {}
  let json := (settings.text? "SHIPYARD_LOG_JSON").map fun text => text == "true" || text == "1"
  { logFilter := (settings.text? filterVariable).getD standard.logFilter
    json := json.getD standard.json
    serviceName := (settings.text? "SHIPYARD_SERVICE_NAME").getD standard.serviceName }

-- What comes of turning logging on in a process that logs already: the filter is looked at first, and then
-- there is no second time. A filter that is torn ends the process instead.
def installAgain (config : TelemetryConfig) : Option Error :=
  match LogFilter.check config.logFilter with
  | .error .torn => none
  | .error (.invalid reason) =>
      some (.config (.invalidValue filterVariable config.logFilter reason))
  | .ok _ => some (.config (.tracingInit "a global default trace dispatcher has already been set"))

end TelemetryConfig

end Delivery
