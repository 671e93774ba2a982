import Delivery.Rehearsal.Script
import Delivery.Webhook.Ingestion
set_option autoImplicit false

namespace Delivery

structure Session where
  world : World Bool := { store := .empty, outside := false }
  script : Script := {}
  config : CiConfig := {}
  cancellable : Bool := false

namespace Session

def webhook (session : Session) : Webhook Bool where
  config := session.config
  engine :=
    { executor := session.script.executor session.cancellable
      batchSize := session.config.effectiveBatchSize }

def extend (session : Session) (more : Script) (signal : Option Bool) : Session :=
  { session with
    script := session.script.add more
    world := { session.world with outside := signal.getD session.world.outside } }

def forget (session : Session) : Session :=
  { session with world := { session.world with moments := [], events := [], inquiries := [] } }

def trace (session : Session) : List String := session.script.trace session.world.moments

end Session

end Delivery
