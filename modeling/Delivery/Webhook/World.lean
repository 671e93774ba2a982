import Delivery.FanOut.Engine
import Delivery.Flow
import Delivery.Store.Basic
set_option autoImplicit false

namespace Delivery

structure World (ω : Type) where
  store : Store
  outside : ω
  moments : List Moment := []
  events : List BuildEvent := []
  inquiries : List Inquiry := []

namespace World

variable {ω α : Type}

def onStore (service : Service Store α) : Service (World ω) α :=
  service.within (·.store) fun world store => { world with store }

def announce (event : BuildEvent) : Service (World ω) Unit :=
  Service.act fun world => ((), { world with events := world.events ++ [event] })

def fanOut (start : ω → FanOutRun ω) : Service (World ω) FanOutReport :=
  Service.act fun world =>
    let run := start world.outside
    (run.report, { world with outside := run.outside, moments := world.moments ++ run.moments })

def ask (questions : List Inquiry) : Service (World ω) Unit :=
  Service.act fun world => ((), { world with inquiries := world.inquiries ++ questions })

end World

end Delivery
