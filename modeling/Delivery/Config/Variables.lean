import Delivery.Table
import Delivery.Text.Utf8
set_option autoImplicit false

namespace Delivery

structure Variables where
  values : Table String (List UInt8)
  deriving DecidableEq, Repr

namespace Variables

def text? (settings : Variables) (name : String) : Option String :=
  (settings.values.get? name).bind Text.Utf8.text?

end Variables

end Delivery
