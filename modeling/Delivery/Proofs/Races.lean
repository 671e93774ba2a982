import Delivery.Proofs.Protocols
set_option autoImplicit false

namespace Delivery

-- The world is free until it is taken under a key. `rely` bounds what may happen aside once it is taken.
structure Race (ω κ : Type) where
  free : ω → Prop
  taken : κ → ω → Prop
  rely : ω → ω → Prop
  apart : ∀ {key world}, free world → ¬ taken key world
  alone : ∀ {first second world}, taken first world → taken second world → first = second
  still : ∀ world, rely world world
  further : ∀ {first second third}, rely first second → rely second third → rely first third

-- A program that takes part has not noticed yet that the race is over, or has; or it has won and knows the
-- world as it left it last.
inductive Standing (ω κ : Type) where
  | racing
  | lost (key : κ)
  | won (key : κ) (mine : ω)

def Standing.Idle {ω κ : Type} : Standing ω κ → Prop
  | .won _ _ => False
  | _ => True

def Standing.MayFail {ω κ : Type} (standing : Standing ω κ) (_ : Error) : Prop := standing.Idle

def Standing.Beaten {ω κ : Type} (key : κ) : Standing ω κ → Prop
  | .racing => True
  | .lost other => other = key
  | .won _ _ => False

namespace Race

variable {ω κ α β : Type} {race : Race ω κ}

def Sees (race : Race ω κ) : Standing ω κ → ω → Prop
  | .racing, world => race.free world ∨ ∃ key, race.taken key world
  | .lost key, world => race.taken key world
  | .won key mine, world => race.taken key world ∧ race.rely mine world

inductive Moves (race : Race ω κ) : Standing ω κ → ω → ω → Standing ω κ → Prop where
  | wait {world : ω} (free : race.free world) : Moves race .racing world world .racing
  | win {world after : ω} {key : κ} (free : race.free world) (taken : race.taken key after) :
      Moves race .racing world after (.won key after)
  | lose {world : ω} {key : κ} (taken : race.taken key world) : Moves race .racing world world (.lost key)
  | rest {world : ω} {key : κ} : Moves race (.lost key) world world (.lost key)
  | work {mine world after : ω} {key : κ} (taken : race.taken key after) :
      Moves race (.won key mine) world after (.won key after)

def protocol (race : Race ω κ) : Protocol ω (Standing ω κ) where
  sees := race.Sees
  moves := race.Moves

section Rules

variable {good : Standing ω κ → α → Prop} {bad : Standing ω κ → Error → Prop} {standing : Standing ω κ}

def Tells (race : Race ω κ) (world : ω) : Standing ω κ → Prop
  | .racing => race.free world
  | .lost key => race.taken key world
  | .won _ _ => False

theorem idle_of_tells {world : ω} (tells : race.Tells world standing) : standing.Idle := by
  cases standing with
  | won key mine => exact tells
  | _ => trivial

theorem idle_looks {world : ω} (idle : standing.Idle) (seen : race.Sees standing world) :
    ∃ next, race.Moves standing world world next ∧ race.Tells world next := by
  cases standing with
  | racing =>
      rcases seen with free | ⟨key, taken⟩
      · exact ⟨.racing, .wait free, free⟩
      · exact ⟨.lost key, .lose taken, taken⟩
  | lost key => exact ⟨.lost key, .rest, seen⟩
  | won key mine => exact idle.elim

theorem idle_require {view : ω → Option α} {error : Error} (idle : standing.Idle)
    (present : ∀ world next row, race.Tells world next → view world = some row → good next row)
    (absent : ∀ world next, race.Tells world next → view world = none → bad next error) :
    (Service.require view error).Follows race.protocol good bad standing := by
  apply Service.follows_require
  intro world seen
  obtain ⟨next, moves, tells⟩ := idle_looks idle seen
  exact ⟨next, moves, fun row found => present world next row tells found, absent world next tells⟩

theorem lost_look {view : ω → α} {key : κ}
    (each : ∀ world, race.taken key world → good (.lost key) (view world)) :
    (Service.look view).Follows race.protocol good bad (.lost key) :=
  Service.follows_look fun world seen => ⟨.lost key, .rest, each world seen⟩

theorem idle_transact {transaction : ω → Except Error (α × ω)} (idle : standing.Idle)
    (wins : ∀ world result after, standing = .racing → race.free world → transaction world = .ok (result, after) →
      ∃ key, race.taken key after ∧ good (.won key after) result)
    (late : ∀ world key result after, race.taken key world → transaction world ≠ .ok (result, after))
    (fails : ∀ next error, next.Idle → bad next error) :
    (Service.transact transaction).Follows race.protocol good bad standing := by
  apply Service.follows_transact
  · intro world result after seen done
    cases standing with
    | racing =>
        rcases seen with free | ⟨key, taken⟩
        · obtain ⟨key, taken, holds⟩ := wins world result after rfl free done
          exact ⟨.won key after, .win free taken, holds⟩
        · exact absurd done (late world key result after taken)
    | lost key => exact absurd done (late world key result after seen)
    | won key mine => exact idle.elim
  · intro world error seen refused
    obtain ⟨next, moves, tells⟩ := idle_looks idle seen
    exact ⟨next, moves, fails next error (idle_of_tells tells)⟩

variable {key : κ} {mine : ω}

theorem won_look {view : ω → α}
    (each : ∀ world, race.taken key world → race.rely mine world → good (.won key world) (view world)) :
    (Service.look view).Follows race.protocol good bad (.won key mine) :=
  Service.follows_look fun world seen => ⟨.won key world, .work seen.1, each world seen.1 seen.2⟩

theorem won_act {action : ω → α × ω}
    (each : ∀ world, race.taken key world → race.rely mine world →
      race.taken key (action world).2 ∧ good (.won key (action world).2) (action world).1) :
    (Service.act action).Follows race.protocol good bad (.won key mine) := by
  apply Service.follows_act
  intro world seen
  obtain ⟨taken, holds⟩ := each world seen.1 seen.2
  exact ⟨.won key _, .work taken, holds⟩

theorem won_transact {transaction : ω → Except Error (α × ω)}
    (each : ∀ world, race.taken key world → race.rely mine world → ∃ result after,
      transaction world = .ok (result, after) ∧ race.taken key after ∧ good (.won key after) result) :
    (Service.transact transaction).Follows race.protocol good bad (.won key mine) := by
  apply Service.follows_transact
  · intro world result after seen done
    obtain ⟨_, _, same, taken, holds⟩ := each world seen.1 seen.2
    cases done.symm.trans same
    exact ⟨.won key after, .work taken, holds⟩
  · intro world error seen refused
    obtain ⟨_, _, same, _⟩ := each world seen.1 seen.2
    cases refused.symm.trans same

end Rules

section Run

variable {ι : Type} {ends : Nat → Standing ω κ → α → Prop} {acts : ι → ω → ω} {pool : Pool ω α} {key : κ}
  {winner place : Nat} {turns : List (Turn ι)}

structure Polite (race : Race ω κ) (acts : ι → ω → ω) : Prop where
  free : ∀ action {world}, race.free world → race.free (acts action world)
  taken : ∀ action {key world}, race.taken key world → race.taken key (acts action world)
  relied : ∀ action {key world}, race.taken key world → race.rely world (acts action world)

structure Undecided (race : Race ω κ) (ends : Nat → Standing ω κ → α → Prop) (pool : Pool ω α) : Prop where
  free : race.free pool.world
  all : ∀ (place : Nat) (flow : Flow ω α), pool.flows[place]? = some flow →
    flow.Follows race.protocol (ends place) .racing

structure Decided (race : Race ω κ) (ends : Nat → Standing ω κ → α → Prop) (winner : Nat) (key : κ)
    (pool : Pool ω α) : Prop where
  taken : race.taken key pool.world
  won : ∃ flow mine, pool.flows[winner]? = some flow ∧ race.rely mine pool.world ∧
    flow.Follows race.protocol (ends winner) (.won key mine)
  others : ∀ (place : Nat) (flow : Flow ω α), place ≠ winner → pool.flows[place]? = some flow →
    ∃ standing, standing.Beaten key ∧ flow.Follows race.protocol (ends place) standing

theorem set_here {flows : List (Flow ω α)} {flow old : Flow ω α} (there : flows[place]? = some old) :
    (flows.set place flow)[place]? = some flow := by
  rw [List.getElem?_set_self', there]
  rfl

theorem undecided_advance (undecided : race.Undecided ends pool) (place : Nat) :
    (race.Undecided ends (pool.advance place) ∧ (pool.advance place).world = pool.world) ∨
      ∃ key, race.Decided ends place key (pool.advance place) := by
  rw [Pool.advance]
  split
  case h_2 => exact .inl ⟨undecided, rfl⟩
  case h_1 change rest here =>
    obtain ⟨next, moves, later⟩ := undecided.all place _ here pool.world (.inl undecided.free)
    generalize after : change pool.world = world at moves
    cases moves with
    | wait free =>
        refine .inl ⟨⟨free, fun other flow found => ?_⟩, rfl⟩
        rcases found_in_set found with ⟨rfl, rfl⟩ | ⟨_, found⟩
        · exact later
        · exact undecided.all other flow found
    | @win _ _ key free taken =>
        refine .inr ⟨key, taken, ⟨_, world, set_here here, race.still world, later⟩, ?_⟩
        intro other flow different found
        rcases found_in_set found with ⟨same, _⟩ | ⟨_, found⟩
        · exact absurd same different
        · exact ⟨.racing, trivial, undecided.all other flow found⟩
    | lose taken => exact absurd taken (race.apart undecided.free)

theorem beaten_sees {standing : Standing ω κ} {world : ω} (beaten : standing.Beaten key)
    (taken : race.taken key world) : race.Sees standing world := by
  cases standing with
  | racing => exact .inr ⟨key, taken⟩
  | lost other =>
      obtain rfl : other = key := beaten
      exact taken
  | won other mine => exact beaten.elim

theorem beaten_moves {standing next : Standing ω κ} {world after : ω} (beaten : standing.Beaten key)
    (taken : race.taken key world) (moves : race.Moves standing world after next) :
    after = world ∧ next = .lost key := by
  cases moves with
  | wait free => exact absurd taken (race.apart free)
  | win free _ => exact absurd taken (race.apart free)
  | lose other => exact ⟨rfl, congrArg Standing.lost (race.alone other taken)⟩
  | rest => exact ⟨rfl, congrArg Standing.lost beaten⟩
  | work _ => exact beaten.elim

theorem winner_advance (decided : race.Decided ends winner key pool) :
    race.Decided ends winner key (pool.advance winner) := by
  rw [Pool.advance]
  split
  case h_2 => exact decided
  case h_1 change rest here =>
    obtain ⟨flow, mine, there, relied, follows⟩ := decided.won
    obtain rfl := Option.some.inj (here.symm.trans there)
    obtain ⟨next, moves, later⟩ := follows pool.world ⟨decided.taken, relied⟩
    generalize after : change pool.world = world at moves
    cases moves with
    | work taken =>
        refine ⟨taken, ⟨_, world, set_here here, race.still world, later⟩, ?_⟩
        intro other flow different found
        rcases found_in_set found with ⟨same, _⟩ | ⟨_, found⟩
        · exact absurd same different
        · exact decided.others other flow different found

theorem beaten_advance (decided : race.Decided ends winner key pool) (different : place ≠ winner) :
    race.Decided ends winner key (pool.advance place) ∧ (pool.advance place).world = pool.world := by
  rw [Pool.advance]
  split
  case h_2 => exact ⟨decided, rfl⟩
  case h_1 change rest here =>
    obtain ⟨standing, beaten, follows⟩ := decided.others place _ different here
    obtain ⟨next, moves, later⟩ := follows pool.world (beaten_sees beaten decided.taken)
    obtain ⟨same, rfl⟩ := beaten_moves beaten decided.taken moves
    rw [same]
    refine ⟨⟨decided.taken, ?_, fun other flow apart found => ?_⟩, rfl⟩
    · obtain ⟨flow, mine, there, won⟩ := decided.won
      exact ⟨flow, mine, (List.getElem?_set_ne different).trans there, won⟩
    · rcases found_in_set found with ⟨rfl, rfl⟩ | ⟨_, found⟩
      · exact ⟨.lost key, rfl, later⟩
      · exact decided.others other flow apart found

theorem decided_aside (polite : race.Polite acts) (decided : race.Decided ends winner key pool) (action : ι) :
    race.Decided ends winner key (pool.turn acts (.aside action)) := by
  obtain ⟨flow, mine, there, relied, follows⟩ := decided.won
  have further : race.rely mine (acts action pool.world) := race.further relied (polite.relied action decided.taken)
  exact ⟨polite.taken action decided.taken, ⟨flow, mine, there, further, follows⟩, decided.others⟩

theorem decided_play (polite : race.Polite acts) (decided : race.Decided ends winner key pool)
    (turns : List (Turn ι)) : race.Decided ends winner key (pool.play acts turns) ∧
      ∀ place, place ≠ winner → pool.Silent acts turns place := by
  induction turns generalizing pool with
  | nil => exact ⟨decided, fun _ _ => Pool.silent_nil⟩
  | cons turn rest ih =>
      cases turn with
      | aside action =>
          obtain ⟨still, silent⟩ := ih (decided_aside polite decided action)
          exact ⟨still, fun place different => Pool.silent_cons nofun (silent place different)⟩
      | step turned =>
          by_cases own : turned = winner
          · subst own
            obtain ⟨still, silent⟩ := ih (winner_advance decided)
            exact ⟨still, fun place different => Pool.silent_other different (silent place different)⟩
          · obtain ⟨decided, same⟩ := beaten_advance decided own
            obtain ⟨still, silent⟩ := ih decided
            exact ⟨still, fun place different => Pool.silent_cons (fun _ => same) (silent place different)⟩

/-- Whatever the scheduler does, either no program wins and none changes the world, or one wins and no other
ever changes the world. -/
theorem race_play (polite : race.Polite acts) (undecided : race.Undecided ends pool) (turns : List (Turn ι)) :
    (race.Undecided ends (pool.play acts turns) ∧ ∀ place, pool.Silent acts turns place) ∨
      ∃ winner key, race.Decided ends winner key (pool.play acts turns) ∧
        ∀ place, place ≠ winner → pool.Silent acts turns place := by
  induction turns generalizing pool with
  | nil => exact .inl ⟨undecided, fun _ => Pool.silent_nil⟩
  | cons turn rest ih =>
      cases turn with
      | aside action =>
          have undecided : race.Undecided ends (pool.turn acts (.aside action)) :=
            ⟨polite.free action undecided.free, undecided.all⟩
          rcases ih undecided with ⟨still, silent⟩ | ⟨winner, key, decided, silent⟩
          · exact .inl ⟨still, fun place => Pool.silent_cons nofun (silent place)⟩
          · exact .inr ⟨winner, key, decided, fun place different => Pool.silent_cons nofun (silent place different)⟩
      | step turned =>
          rcases undecided_advance undecided turned with ⟨undecided, same⟩ | ⟨key, decided⟩
          · rcases ih undecided with ⟨still, silent⟩ | ⟨winner, key, decided, silent⟩
            · exact .inl ⟨still, fun place => Pool.silent_cons (fun _ => same) (silent place)⟩
            · refine .inr ⟨winner, key, decided, fun place different => ?_⟩
              exact Pool.silent_cons (fun _ => same) (silent place different)
          · obtain ⟨decided, silent⟩ := decided_play polite decided rest
            refine .inr ⟨turned, key, decided, fun place different => ?_⟩
            exact Pool.silent_other different (silent place different)

section Ended

variable {world : ω} {answers : List α}

theorem answered_flow {answer : α} (answered : answers[place]? = some answer) :
    (answers.map fun answer => (.done answer : Flow ω α))[place]? = some (.done answer) := by
  rw [List.getElem?_map, answered]
  rfl

theorem undecided_ends {answer : α} (undecided : race.Undecided ends ⟨world, answers.map .done⟩)
    (answered : answers[place]? = some answer) : ends place .racing answer :=
  undecided.all place (.done answer) (answered_flow answered)

theorem winner_ends (decided : race.Decided ends winner key ⟨world, answers.map .done⟩) :
    ∃ answer mine, answers[winner]? = some answer ∧ race.rely mine world ∧ ends winner (.won key mine) answer := by
  obtain ⟨flow, mine, there, relied, follows⟩ := decided.won
  rw [List.getElem?_map, Option.map_eq_some_iff] at there
  obtain ⟨answer, answered, rfl⟩ := there
  exact ⟨answer, mine, answered, relied, follows⟩

theorem beaten_ends {answer : α} (decided : race.Decided ends winner key ⟨world, answers.map .done⟩)
    (different : place ≠ winner) (answered : answers[place]? = some answer) :
    ∃ standing, standing.Beaten key ∧ ends place standing answer :=
  decided.others place (.done answer) different (answered_flow answered)

end Ended

end Run

end Race

end Delivery
