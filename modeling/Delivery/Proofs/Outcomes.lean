import Delivery.Proofs.Moves
set_option autoImplicit false

namespace Delivery.Service

variable {ω α β : Type}

def Ends (service : Service ω α) (world : ω) (good : α → ω → Prop) (bad : Error → ω → Prop) : Prop :=
  match service.run world with
  | (.ok result, after) => good result after
  | (.error error, after) => bad error after

section Rules

variable {world : ω} {good : α → ω → Prop} {bad : Error → ω → Prop}

theorem ends_pure {result : α} (holds : good result world) : (pure result : Service ω α).Ends world good bad :=
  holds

theorem ends_throw {error : Error} (holds : bad error world) :
    (throw error : Service ω α).Ends world good bad :=
  holds

theorem ends_bind {service : Service ω β} {next : β → Service ω α}
    (first : service.Ends world (fun result after => (next result).Ends after good bad) bad) :
    (service >>= next).Ends world good bad := by
  rw [Ends] at first
  rw [Ends, run_bind]
  cases outcome : service.run world with
  | mk answer after =>
      rw [outcome] at first
      cases answer <;> exact first

theorem ends_look {view : ω → α} (holds : good (view world) world) : (look view).Ends world good bad :=
  holds

theorem ends_act {action : ω → α × ω} (holds : good (action world).1 (action world).2) :
    (act action).Ends world good bad :=
  holds

theorem ends_require {view : ω → Option α} {error : Error}
    (present : ∀ row, view world = some row → good row world)
    (absent : view world = none → bad error world) : (require view error).Ends world good bad := by
  rw [Ends, run_require]
  cases found : view world with
  | none => exact absent found
  | some row => exact present row found

theorem ends_of_except {answer : Except Error α} (right : ∀ result, answer = .ok result → good result world)
    (wrong : ∀ error, answer = .error error → bad error world) : (ofExcept answer).Ends world good bad := by
  rw [Ends, run_of_except]
  cases answer with
  | ok result => exact right result rfl
  | error error => exact wrong error rfl

theorem ends_transact {transaction : ω → Except Error (α × ω)}
    (done : ∀ result after, transaction world = .ok (result, after) → good result after)
    (refused : ∀ error, transaction world = .error error → bad error world) :
    (transact transaction).Ends world good bad := by
  rw [Ends, run_transact]
  cases outcome : transaction world with
  | ok pair => exact done pair.1 pair.2 outcome
  | error error => exact refused error outcome

theorem ends_moves {related : ω → ω → Prop} {service : Service ω α}
    (reflexive : ∀ world, related world world)
    (transitive : ∀ {a b c}, related a b → related b c → related a c) (moves : service.Moves related)
    (right : ∀ result after, related world after → good result after)
    (wrong : ∀ error after, related world after → bad error after) : service.Ends world good bad := by
  have kept : related world (service.run world).2 := moves_run reflexive transitive moves world
  rw [Ends]
  cases outcome : service.run world with
  | mk answer after =>
      rw [outcome] at kept
      cases answer with
      | ok result => exact right result after kept
      | error error => exact wrong error after kept

theorem ends_weaken {service : Service ω α} {better : α → ω → Prop} {worse : Error → ω → Prop}
    (ends : service.Ends world better worse) (right : ∀ result after, better result after → good result after)
    (wrong : ∀ error after, worse error after → bad error after) : service.Ends world good bad := by
  rw [Ends] at ends ⊢
  cases outcome : service.run world with
  | mk answer after =>
      rw [outcome] at ends
      cases answer with
      | ok result => exact right result after ends
      | error error => exact wrong error after ends

theorem ends_with_run {service : Service ω α} (ends : service.Ends world good bad) :
    service.Ends world (fun result after => service.run world = (.ok result, after) ∧ good result after)
      (fun error after => service.run world = (.error error, after) ∧ bad error after) := by
  rw [Ends] at ends ⊢
  cases outcome : service.run world with
  | mk answer after =>
      rw [outcome] at ends
      cases answer with
      | ok result => exact ⟨rfl, ends⟩
      | error error => exact ⟨rfl, ends⟩

theorem ends_ok {service : Service ω α} {result : α} {after : ω} (ends : service.Ends world good bad)
    (answer : service.run world = (.ok result, after)) : good result after := by
  rw [Ends, answer] at ends
  exact ends

theorem ends_error {service : Service ω α} {error : Error} {after : ω} (ends : service.Ends world good bad)
    (answer : service.run world = (.error error, after)) : bad error after := by
  rw [Ends, answer] at ends
  exact ends

theorem ends_answer {service : Service ω α} {answer : Except Error α} {after : ω}
    {motive : Except Error α → ω → Prop} (ends : service.Ends world good bad)
    (answered : service.run world = (answer, after))
    (right : ∀ result after, good result after → motive (.ok result) after)
    (wrong : ∀ error after, bad error after → motive (.error error) after) : motive answer after := by
  rw [Ends, answered] at ends
  cases answer with
  | ok result => exact right result after ends
  | error error => exact wrong error after ends

theorem ends_after {service : Service ω α} {motive : ω → Prop} (ends : service.Ends world good bad)
    (right : ∀ result after, good result after → motive after)
    (wrong : ∀ error after, bad error after → motive after) : motive (service.run world).2 :=
  ends_answer (motive := fun _ after => motive after) ends rfl right wrong

theorem run_of_ends {service : Service ω α} {result : α} {after : ω}
    (ends : service.Ends world (fun answer left => answer = result ∧ left = after) fun _ _ => False) :
    service.run world = (.ok result, after) := by
  rw [Ends] at ends
  cases outcome : service.run world with
  | mk answer left =>
      rw [outcome] at ends
      cases answer with
      | ok answer => rw [ends.1, ends.2]
      | error error => exact ends.elim

theorem result_of_ends {service : Service ω α} (ends : service.Ends world good fun _ _ => False) :
    ∃ result after, service.run world = (.ok result, after) ∧ good result after := by
  rw [Ends] at ends
  cases outcome : service.run world with
  | mk answer after =>
      rw [outcome] at ends
      cases answer with
      | ok result => exact ⟨result, after, rfl, ends⟩
      | error error => exact ends.elim

end Rules

-- From here on only the rules open it: otherwise every step of a proof would run the whole program.
attribute [irreducible] Ends

end Delivery.Service
