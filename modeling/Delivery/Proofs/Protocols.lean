import Delivery.Proofs.Moves
set_option autoImplicit false

namespace Delivery

structure Protocol (ω σ : Type) where
  sees : σ → ω → Prop
  moves : σ → ω → ω → σ → Prop

namespace Flow

variable {ω ν σ τ α β : Type} {protocol : Protocol ω σ}

-- Each step finds a world that the program may meet, and leads to where the protocol lets it stand.
def Follows (protocol : Protocol ω σ) (ends : σ → α → Prop) : Flow ω α → σ → Prop
  | .done result, standing => ends standing result
  | .step change rest, standing => ∀ world, protocol.sees standing world →
      ∃ next, protocol.moves standing world (change world) next ∧ Follows protocol ends (rest world) next

theorem follows_weaken {ends other : σ → α → Prop} {flow : Flow ω α} {standing : σ}
    (follows : flow.Follows protocol ends standing)
    (weaken : ∀ standing result, ends standing result → other standing result) :
    flow.Follows protocol other standing := by
  induction flow generalizing standing with
  | done result => exact weaken standing result follows
  | step change rest ih =>
      intro world seen
      obtain ⟨next, moves, later⟩ := follows world seen
      exact ⟨next, moves, ih world later⟩

theorem follows_of_moves {related : ω → ω → Prop} {ends : σ → α → Prop} {flow : Flow ω α} {standing : σ}
    (moves : flow.Moves related)
    (free : ∀ world after, related world after → protocol.moves standing world after standing)
    (ends_all : ∀ result, ends standing result) : flow.Follows protocol ends standing := by
  induction flow with
  | done result => exact ends_all result
  | step change rest ih =>
      exact fun world _ => ⟨standing, free world _ (moves.1 world), ih world (moves.2 world)⟩

theorem follows_bind {ends : σ → β → Prop} {flow : Flow ω α} {next : α → Flow ω β} {standing : σ}
    (first : flow.Follows protocol (fun standing result => (next result).Follows protocol ends standing) standing) :
    (flow >>= next).Follows protocol ends standing := by
  show (Flow.bind flow next).Follows protocol ends standing
  induction flow generalizing standing with
  | done result => exact first
  | step change rest ih =>
      intro world seen
      obtain ⟨after, moves, later⟩ := first world seen
      exact ⟨after, moves, ih world later⟩

theorem follows_within {part : ω → ν} {put : ω → ν → ω} {inner : Protocol ν τ} (embed : τ → σ)
    {ends : σ → α → Prop} {flow : Flow ν α} {standing : τ}
    (follows : flow.Follows inner (fun standing result => ends (embed standing) result) standing)
    (sees : ∀ standing world, protocol.sees (embed standing) world → inner.sees standing (part world))
    (moves : ∀ standing next world after, protocol.sees (embed standing) world →
      inner.moves standing (part world) after next →
      protocol.moves (embed standing) world (put world after) (embed next)) :
    (Flow.within part put flow).Follows protocol ends (embed standing) := by
  induction flow generalizing standing with
  | done result => exact follows
  | step change rest ih =>
      intro world seen
      obtain ⟨next, moved, later⟩ := follows (part world) (sees standing world seen)
      exact ⟨embed next, moves standing next world _ seen moved, ih (part world) later⟩

end Flow

namespace Service

variable {ω σ α β : Type} {protocol : Protocol ω σ}

def Answers (good : σ → α → Prop) (bad : σ → Error → Prop) (standing : σ) : Except Error α → Prop
  | .ok result => good standing result
  | .error error => bad standing error

def Follows (protocol : Protocol ω σ) (good : σ → α → Prop) (bad : σ → Error → Prop) (service : Service ω α)
    (standing : σ) : Prop :=
  Flow.Follows protocol (Answers good bad) (ExceptT.run service) standing

section Rules

variable {good : σ → α → Prop} {bad : σ → Error → Prop} {standing : σ}

theorem follows_pure {result : α} (holds : good standing result) :
    (pure result : Service ω α).Follows protocol good bad standing :=
  holds

theorem follows_throw {error : Error} (holds : bad standing error) :
    (throw error : Service ω α).Follows protocol good bad standing :=
  holds

theorem follows_bind {service : Service ω β} {next : β → Service ω α}
    (first : service.Follows protocol (fun standing result => (next result).Follows protocol good bad standing) bad
      standing) :
    (service >>= next).Follows protocol good bad standing := by
  refine Flow.follows_bind (Flow.follows_weaken first fun standing outcome holds => ?_)
  cases outcome <;> exact holds

theorem follows_weaken {service : Service ω α} {better : σ → α → Prop} {worse : σ → Error → Prop}
    (follows : service.Follows protocol better worse standing)
    (right : ∀ standing result, better standing result → good standing result)
    (wrong : ∀ standing error, worse standing error → bad standing error) :
    service.Follows protocol good bad standing := by
  refine Flow.follows_weaken follows fun standing outcome holds => ?_
  cases outcome with
  | ok result => exact right standing result holds
  | error error => exact wrong standing error holds

theorem follows_within {ν τ : Type} {part : ω → ν} {put : ω → ν → ω} {inner : Protocol ν τ} {service : Service ν α}
    (embed : τ → σ) (start : τ)
    (follows : service.Follows inner (fun standing result => good (embed standing) result)
      (fun standing error => bad (embed standing) error) start)
    (sees : ∀ standing world, protocol.sees (embed standing) world → inner.sees standing (part world))
    (moves : ∀ standing next world after, protocol.sees (embed standing) world →
      inner.moves standing (part world) after next →
      protocol.moves (embed standing) world (put world after) (embed next)) :
    (service.within part put).Follows protocol good bad (embed start) := by
  refine Flow.follows_within embed (Flow.follows_weaken follows fun standing outcome holds => ?_) sees moves
  cases outcome <;> exact holds

theorem follows_act {action : ω → α × ω}
    (each : ∀ world, protocol.sees standing world →
      ∃ next, protocol.moves standing world (action world).2 next ∧ good next (action world).1) :
    (act action).Follows protocol good bad standing :=
  each

theorem follows_look {view : ω → α}
    (each : ∀ world, protocol.sees standing world →
      ∃ next, protocol.moves standing world world next ∧ good next (view world)) :
    (look view).Follows protocol good bad standing :=
  each

theorem follows_require {view : ω → Option α} {error : Error}
    (each : ∀ world, protocol.sees standing world → ∃ next, protocol.moves standing world world next ∧
      (∀ row, view world = some row → good next row) ∧ (view world = none → bad next error)) :
    (require view error).Follows protocol good bad standing := by
  apply follows_bind
  apply follows_look
  intro world seen
  obtain ⟨next, moves, present, absent⟩ := each world seen
  refine ⟨next, moves, ?_⟩
  cases found : view world with
  | none => exact absent found
  | some row => exact present row found

theorem follows_of_except {answer : Except Error α} (right : ∀ result, answer = .ok result → good standing result)
    (wrong : ∀ error, answer = .error error → bad standing error) :
    (ofExcept answer : Service ω α).Follows protocol good bad standing := by
  cases answer with
  | ok result => exact right result rfl
  | error error => exact wrong error rfl

theorem follows_transact {transaction : ω → Except Error (α × ω)}
    (done : ∀ world result after, protocol.sees standing world → transaction world = .ok (result, after) →
      ∃ next, protocol.moves standing world after next ∧ good next result)
    (refused : ∀ world error, protocol.sees standing world → transaction world = .error error →
      ∃ next, protocol.moves standing world world next ∧ bad next error) :
    (transact transaction).Follows protocol good bad standing := by
  intro world seen
  cases outcome : transaction world with
  | ok pair =>
      obtain ⟨next, moves, holds⟩ := done world pair.1 pair.2 seen outcome
      simp only [outcome]
      exact ⟨next, moves, holds⟩
  | error error =>
      obtain ⟨next, moves, holds⟩ := refused world error seen outcome
      simp only [outcome]
      exact ⟨next, moves, holds⟩

theorem follows_of_moves {related : ω → ω → Prop} {service : Service ω α} (moves : service.Moves related)
    (free : ∀ world after, related world after → protocol.moves standing world after standing)
    (right : ∀ result, good standing result) (wrong : ∀ error, bad standing error) :
    service.Follows protocol good bad standing := by
  refine Flow.follows_of_moves (moves_iff_flow.mp moves) free fun outcome => ?_
  cases outcome with
  | ok result => exact right result
  | error error => exact wrong error

theorem follows_iff_flow {service : Service ω α} : service.Follows protocol good bad standing ↔
    Flow.Follows protocol (Answers good bad) (ExceptT.run service) standing :=
  Iff.rfl

end Rules

-- From here on only the rules open it: otherwise every step of a proof would run the whole program.
attribute [irreducible] Follows

end Service

structure Pool (ω α : Type) where
  world : ω
  flows : List (Flow ω α)

theorem found_in_set {β : Type} {items : List β} {place other : Nat} {item found : β}
    (here : (items.set place item)[other]? = some found) :
    (other = place ∧ found = item) ∨ (other ≠ place ∧ items[other]? = some found) := by
  by_cases same : place = other
  · subst same
    rw [List.getElem?_set_self'] at here
    obtain ⟨_, _, rfl⟩ := Option.map_eq_some_iff.mp here
    exact .inl ⟨rfl, rfl⟩
  · rw [List.getElem?_set_ne same] at here
    exact .inr ⟨Ne.symm same, here⟩

inductive Turn (ι : Type) where
  | step (place : Nat)
  | aside (action : ι)

namespace Pool

variable {ω ι α : Type}

def advance (pool : Pool ω α) (place : Nat) : Pool ω α :=
  match pool.flows[place]? with
  | some (.step change rest) =>
      { world := change pool.world, flows := pool.flows.set place (rest pool.world) }
  | _ => pool

def turn (acts : ι → ω → ω) (pool : Pool ω α) : Turn ι → Pool ω α
  | .step place => pool.advance place
  | .aside action => { pool with world := acts action pool.world }

def play (acts : ι → ω → ω) (pool : Pool ω α) (turns : List (Turn ι)) : Pool ω α :=
  turns.foldl (turn acts) pool

def Silent (acts : ι → ω → ω) (pool : Pool ω α) (turns : List (Turn ι)) (place : Nat) : Prop :=
  ∀ earlier later, turns = earlier ++ .step place :: later →
    (pool.play acts (earlier ++ [.step place])).world = (pool.play acts earlier).world

section Moves

variable {related : ω → ω → Prop} {acts : ι → ω → ω} {pool : Pool ω α}

theorem moves_advance (reflexive : ∀ world, related world world) (moves : ∀ flow ∈ pool.flows, flow.Moves related)
    (place : Nat) : related pool.world (pool.advance place).world := by
  rw [advance]
  split
  case h_1 change rest here => exact (moves _ (List.mem_of_getElem? here)).1 pool.world
  case h_2 => exact reflexive pool.world

theorem still_moves_advance (moves : ∀ flow ∈ pool.flows, flow.Moves related) (place : Nat) :
    ∀ flow ∈ (pool.advance place).flows, flow.Moves related := by
  rw [advance]
  split
  case h_1 change rest here =>
    intro flow member
    cases List.mem_or_eq_of_mem_set member with
    | inl other => exact moves flow other
    | inr same => exact same ▸ (moves _ (List.mem_of_getElem? here)).2 pool.world
  case h_2 => exact moves

theorem still_moves_turn (moves : ∀ flow ∈ pool.flows, flow.Moves related) (turn : Turn ι) :
    ∀ flow ∈ (pool.turn acts turn).flows, flow.Moves related := by
  cases turn with
  | step place => exact still_moves_advance moves place
  | aside action => exact moves

theorem still_moves_play (moves : ∀ flow ∈ pool.flows, flow.Moves related) (turns : List (Turn ι)) :
    ∀ flow ∈ (pool.play acts turns).flows, flow.Moves related := by
  induction turns generalizing pool with
  | nil => exact moves
  | cons turn rest ih => exact ih (still_moves_turn moves turn)

theorem moves_play (reflexive : ∀ world, related world world)
    (transitive : ∀ {a b c}, related a b → related b c → related a c)
    (moves : ∀ flow ∈ pool.flows, flow.Moves related) {turns : List (Turn ι)}
    (aside : ∀ action, .aside action ∈ turns → ∀ world, related world (acts action world)) :
    related pool.world (pool.play acts turns).world := by
  induction turns generalizing pool with
  | nil => exact reflexive pool.world
  | cons turn rest ih =>
      have later : related (pool.turn acts turn).world (pool.play acts (turn :: rest)).world :=
        ih (still_moves_turn moves turn) fun action member => aside action (List.mem_cons_of_mem _ member)
      cases turn with
      | step place => exact transitive (moves_advance reflexive moves place) later
      | aside action => exact transitive (aside action List.mem_cons_self pool.world) later

theorem play_append (pool : Pool ω α) (earlier later : List (Turn ι)) :
    pool.play acts (earlier ++ later) = (pool.play acts earlier).play acts later :=
  List.foldl_append

end Moves

variable {acts : ι → ω → ω} {pool : Pool ω α} {turn : Turn ι} {turns : List (Turn ι)} {place : Nat}

theorem silent_nil : pool.Silent acts [] place := by
  intro earlier later split
  cases earlier <;> cases split

theorem silent_cons (now : turn = .step place → (pool.turn acts turn).world = pool.world)
    (later : (pool.turn acts turn).Silent acts turns place) : pool.Silent acts (turn :: turns) place := by
  intro earlier rest split
  cases earlier with
  | nil => exact (List.cons.inj split).1 ▸ now (List.cons.inj split).1
  | cons first earlier =>
      obtain ⟨rfl, behind⟩ := List.cons.inj split
      exact later earlier rest behind

theorem silent_other {turned : Nat} (different : place ≠ turned)
    (later : (pool.turn acts (.step turned)).Silent acts turns place) :
    pool.Silent acts (.step turned :: turns) place := by
  refine silent_cons (fun same => ?_) later
  cases same
  exact absurd rfl different

end Pool

end Delivery
