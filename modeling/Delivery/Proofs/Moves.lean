import Delivery.Flow
set_option autoImplicit false

namespace Delivery

namespace Flow

variable {ω α β : Type} {related : ω → ω → Prop}

-- The rest of a program must keep to the relation in every world: another program may step in between.
def Moves (related : ω → ω → Prop) : Flow ω α → Prop
  | .done _ => True
  | .step change rest => (∀ world, related world (change world)) ∧ ∀ world, Moves related (rest world)

theorem moves_bind {flow : Flow ω α} {next : α → Flow ω β} (first : flow.Moves related)
    (later : ∀ result, (next result).Moves related) : (flow >>= next).Moves related := by
  show (Flow.bind flow next).Moves related
  induction flow with
  | done result => exact later result
  | step change rest ih => exact ⟨first.1, fun world => ih world (first.2 world)⟩

theorem moves_within {σ : Type} {part : ω → σ} {put : ω → σ → ω} {inner : σ → σ → Prop} {flow : Flow σ α}
    (moves : flow.Moves inner) (lifts : ∀ world after, inner (part world) after → related world (put world after)) :
    (Flow.within part put flow).Moves related := by
  induction flow with
  | done result => trivial
  | step change rest ih =>
      exact ⟨fun world => lifts world _ (moves.1 (part world)), fun world => ih (part world) (moves.2 (part world))⟩

theorem moves_run {flow : Flow ω α} (reflexive : ∀ world, related world world)
    (transitive : ∀ {a b c}, related a b → related b c → related a c) (moves : flow.Moves related)
    (world : ω) : related world (flow.run world).2 := by
  induction flow generalizing world with
  | done result => exact reflexive world
  -- The rest was chosen by the world before the step; it runs in the world after it.
  | step change rest ih => exact transitive (moves.1 world) (ih world (moves.2 world) (change world))

end Flow

namespace Service

variable {ω α β : Type} {related : ω → ω → Prop}

def Moves (related : ω → ω → Prop) (service : Service ω α) : Prop :=
  Flow.Moves related (ExceptT.run service)

theorem moves_pure (result : α) : Moves related (pure result : Service ω α) := trivial

theorem moves_throw (error : Error) : Moves related (throw error : Service ω α) := trivial

theorem moves_throw_bind (error : Error) (next : β → Service ω α) :
    Moves related ((throw error : Service ω β) >>= next) := trivial

theorem moves_bind {service : Service ω α} {next : α → Service ω β} (first : service.Moves related)
    (later : ∀ result, (next result).Moves related) : (service >>= next).Moves related := by
  refine Flow.moves_bind first fun outcome => ?_
  cases outcome with
  | ok result => exact later result
  | error error => trivial

theorem moves_within {σ : Type} {part : ω → σ} {put : ω → σ → ω} {inner : σ → σ → Prop} {service : Service σ α}
    (moves : service.Moves inner) (lifts : ∀ world after, inner (part world) after → related world (put world after)) :
    (service.within part put).Moves related :=
  Flow.moves_within moves lifts

theorem moves_act {action : ω → α × ω} (each : ∀ world, related world (action world).2) :
    (act action).Moves related :=
  ⟨each, fun _ => trivial⟩

theorem moves_look (reflexive : ∀ world, related world world) (view : ω → α) :
    (look view).Moves related :=
  ⟨reflexive, fun _ => trivial⟩

theorem moves_transact (reflexive : ∀ world, related world world)
    {transaction : ω → Except Error (α × ω)}
    (each : ∀ world result after, transaction world = .ok (result, after) → related world after) :
    (transact transaction).Moves related := by
  refine ⟨fun world => ?_, fun world => trivial⟩
  cases outcome : transaction world with
  | ok pair => simpa only [outcome] using each world pair.1 pair.2 outcome
  | error error => simpa only [outcome] using reflexive world

theorem moves_require (reflexive : ∀ world, related world world) (view : ω → Option α) (error : Error) :
    (require view error).Moves related := by
  refine moves_bind (moves_look reflexive view) fun found => ?_
  cases found with
  | some row => exact moves_pure row
  | none => exact moves_throw error

theorem moves_of_except (answer : Except Error α) : Moves related (ofExcept answer : Service ω α) := by
  cases answer with
  | ok result => exact moves_pure result
  | error error => exact moves_throw error

def discarded (service : Service ω α) : Service ω Unit := do
  let _ ← service
  return ()

theorem run_discarded (service : Service ω α) (world : ω) :
    (service.discarded.run world).2 = (service.run world).2 := by
  rw [discarded, run_bind]
  cases service.run world with
  | mk answer after => cases answer <;> rfl

theorem moves_discarded {service : Service ω α} (moves : service.Moves related) : service.discarded.Moves related :=
  moves_bind moves fun _ => moves_pure ()

theorem moves_for_each {items : List β} {program : β → Service ω Unit}
    (each : ∀ item, (program item).Moves related) : (items.forM program).Moves related := by
  induction items with
  | nil => exact moves_pure ()
  | cons item rest ih => exact moves_bind (each item) fun _ => ih

theorem moves_run {service : Service ω α} (reflexive : ∀ world, related world world)
    (transitive : ∀ {a b c}, related a b → related b c → related a c) (moves : service.Moves related)
    (world : ω) : related world (service.run world).2 :=
  Flow.moves_run reflexive transitive moves world

theorem moves_iff_flow {service : Service ω α} : service.Moves related ↔ Flow.Moves related (ExceptT.run service) :=
  Iff.rfl

-- From here on only the rules open it: otherwise every step of a proof would run the program.
attribute [irreducible] Moves

end Service

end Delivery
