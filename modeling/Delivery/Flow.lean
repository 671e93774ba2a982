import Delivery.Domain.Error
set_option autoImplicit false

namespace Delivery

inductive Flow (ω α : Type) where
  | done (result : α)
  | step (change : ω → ω) (rest : ω → Flow ω α)

namespace Flow

variable {ω σ α β : Type}

def run : Flow ω α → ω → α × ω
  | .done result, world => (result, world)
  | .step change rest, world => (rest world).run (change world)

def bind (flow : Flow ω α) (next : α → Flow ω β) : Flow ω β :=
  match flow with
  | .done result => next result
  | .step change rest => .step change fun world => bind (rest world) next

instance : Monad (Flow ω) where
  pure := .done
  bind := bind

def act (action : ω → α × ω) : Flow ω α :=
  .step (fun world => (action world).2) fun world => .done (action world).1

def look (view : ω → α) : Flow ω α :=
  .step (fun world => world) fun world => .done (view world)

def within (part : ω → σ) (put : ω → σ → ω) : Flow σ α → Flow ω α
  | .done result => .done result
  | .step change rest =>
      .step (fun world => put world (change (part world)))
        fun world => within part put (rest (part world))

theorem run_pure (result : α) (world : ω) : (pure result : Flow ω α).run world = (result, world) := rfl

theorem run_bind (flow : Flow ω α) (next : α → Flow ω β) (world : ω) :
    (flow >>= next).run world = (next (flow.run world).1).run (flow.run world).2 := by
  show (Flow.bind flow next).run world = _
  induction flow generalizing world with
  | done result => rfl
  | step change rest ih => exact ih world (change world)

theorem run_act (action : ω → α × ω) (world : ω) : (act action).run world = action world := rfl

theorem run_look (view : ω → α) (world : ω) : (look view).run world = (view world, world) := rfl

theorem run_within (part : ω → σ) (put : ω → σ → ω) (flow : Flow σ α) (world : ω)
    (part_put : ∀ world value, part (put world value) = value)
    (put_put : ∀ world first second, put (put world first) second = put world second)
    (put_part : ∀ world, put world (part world) = world) :
    (within part put flow).run world =
      ((flow.run (part world)).1, put world (flow.run (part world)).2) := by
  induction flow generalizing world with
  | done result => simp [within, run, put_part]
  | step change rest ih => simp [within, run, ih, part_put, put_put]

end Flow

abbrev Service (ω : Type) := ExceptT Error (Flow ω)

namespace Service

variable {ω σ α β : Type}

def run (service : Service ω α) (world : ω) : Except Error α × ω :=
  Flow.run (ExceptT.run service) world

def transact (transaction : ω → Except Error (α × ω)) : Service ω α :=
  ExceptT.mk <| Flow.act fun world =>
    match transaction world with
    | .ok (result, after) => (.ok result, after)
    | .error error => (.error error, world)

def look (view : ω → α) : Service ω α :=
  ExceptT.mk <| Flow.look fun world => .ok (view world)

def act (action : ω → α × ω) : Service ω α :=
  ExceptT.mk <| Flow.act fun world => (.ok (action world).1, (action world).2)

def require (view : ω → Option α) (error : Error) : Service ω α := do
  match ← look view with
  | some row => return row
  | none => throw error

def ofExcept : Except Error α → Service ω α
  | .ok result => pure result
  | .error error => throw error

def within (part : ω → σ) (put : ω → σ → ω) (service : Service σ α) : Service ω α :=
  ExceptT.mk (Flow.within part put (ExceptT.run service))

theorem run_pure (result : α) (world : ω) : (pure result : Service ω α).run world = (.ok result, world) := rfl

theorem run_look (view : ω → α) (world : ω) : (look view).run world = (.ok (view world), world) := rfl

theorem run_act (action : ω → α × ω) (world : ω) :
    (act action).run world = (.ok (action world).1, (action world).2) := rfl

theorem run_of_except (answer : Except Error α) (world : ω) :
    (ofExcept answer).run world = (answer, world) := by
  cases answer <;> rfl

theorem run_bind (service : Service ω α) (next : α → Service ω β) (world : ω) :
    (service >>= next).run world =
      match service.run world with
      | (.ok result, after) => (next result).run after
      | (.error error, after) => (.error error, after) := by
  refine (Flow.run_bind (ExceptT.run service) (ExceptT.bindCont next) world).trans ?_
  show Flow.run (ExceptT.bindCont next (service.run world).1) (service.run world).2 = _
  cases outcome : service.run world with
  | mk answer after => cases answer <;> rfl

theorem run_transact (transaction : ω → Except Error (α × ω)) (world : ω) :
    (transact transaction).run world =
      match transaction world with
      | .ok (result, after) => (.ok result, after)
      | .error error => (.error error, world) := rfl

theorem run_require (view : ω → Option α) (error : Error) (world : ω) :
    (require view error).run world =
      match view world with
      | some row => (.ok row, world)
      | none => (.error error, world) := by
  rw [require, run_bind, run_look]
  cases view world <;> rfl

theorem run_within (part : ω → σ) (put : ω → σ → ω) (service : Service σ α) (world : ω)
    (part_put : ∀ world value, part (put world value) = value)
    (put_put : ∀ world first second, put (put world first) second = put world second)
    (put_part : ∀ world, put world (part world) = world) :
    (within part put service).run world =
      ((service.run (part world)).1, put world (service.run (part world)).2) :=
  Flow.run_within part put (ExceptT.run service) world part_put put_put put_part

end Service

end Delivery
