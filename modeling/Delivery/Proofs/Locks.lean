import Delivery.Proofs.Protocols
set_option autoImplicit false

namespace Delivery

structure Caller (κ ω α : Type) where
  key : κ
  flow : Flow ω α
  begun : Bool

def Caller.holds {κ ω α : Type} (caller : Caller κ ω α) : Bool :=
  match caller.flow with
  | .done _ => false
  | .step _ _ => caller.begun

structure Locked (κ ω α : Type) where
  world : ω
  callers : List (Caller κ ω α)

namespace Locked

variable {κ ω α : Type}

def start (world : ω) (calls : List (κ × Flow ω α)) : Locked κ ω α where
  world := world
  callers := calls.map fun call => ⟨call.1, call.2, false⟩

variable [DecidableEq κ]

def advance (pool : Locked κ ω α) (place : Nat) : Locked κ ω α :=
  match pool.callers[place]? with
  | some ⟨key, flow, false⟩ =>
      if pool.callers.any fun other => other.key = key && other.holds then pool
      else { pool with callers := pool.callers.set place ⟨key, flow, true⟩ }
  | some ⟨key, .step change rest, true⟩ =>
      { world := change pool.world, callers := pool.callers.set place ⟨key, rest pool.world, true⟩ }
  | _ => pool

def play (pool : Locked κ ω α) (places : List Nat) : Locked κ ω α :=
  places.foldl advance pool

end Locked

-- Under each key a protocol. No step takes away what a program of another key may see.
structure Discipline (κ ω σ : Type) where
  protocol : κ → Protocol ω σ
  sound : ω → Prop
  idle : σ
  enters : ∀ {key world}, sound world → (protocol key).sees idle world
  keeps : ∀ {key standing world after next}, (protocol key).sees standing world →
    (protocol key).moves standing world after next → sound after ∧ (protocol key).sees next after
  apart : ∀ {key other standing elsewhere world after next}, other ≠ key → (protocol key).sees standing world →
    (protocol key).moves standing world after next → (protocol other).sees elsewhere world →
    (protocol other).sees elsewhere after

namespace Discipline

variable {κ ω σ α : Type} {discipline : Discipline κ ω σ}

def Obeys (discipline : Discipline κ ω σ) (key : κ) (flow : Flow ω α) (standing : σ) : Prop :=
  flow.Follows (discipline.protocol key) (fun _ _ => True) standing

inductive Fits (discipline : Discipline κ ω σ) (world : ω) : Caller κ ω α → Prop where
  | waits {key : κ} {flow : Flow ω α} (obeys : discipline.Obeys key flow discipline.idle) :
      Fits discipline world ⟨key, flow, false⟩
  | works {key : κ} {flow : Flow ω α} {standing : σ} (seen : (discipline.protocol key).sees standing world)
      (obeys : discipline.Obeys key flow standing) : Fits discipline world ⟨key, flow, true⟩
  | ended {key : κ} {result : α} {begun : Bool} : Fits discipline world ⟨key, .done result, begun⟩

structure Keeps (discipline : Discipline κ ω σ) (pool : Locked κ ω α) : Prop where
  sound : discipline.sound pool.world
  fits : ∀ {place : Nat} {caller : Caller κ ω α}, pool.callers[place]? = some caller →
    discipline.Fits pool.world caller
  alone : ∀ {place other : Nat} {caller rival : Caller κ ω α}, pool.callers[place]? = some caller →
    pool.callers[other]? = some rival → caller.key = rival.key → caller.holds = true → rival.holds = true →
    place = other

section Step

variable {pool : Locked κ ω α} {place : Nat} {key : κ}

theorem alone_set {caller : Caller κ ω α} (keeps : discipline.Keeps pool)
    (free : caller.holds = true → ∀ {other : Nat} {rival : Caller κ ω α}, other ≠ place →
      pool.callers[other]? = some rival → rival.key = caller.key → rival.holds = false)
    {left right : Nat} {first second : Caller κ ω α} (one : (pool.callers.set place caller)[left]? = some first)
    (two : (pool.callers.set place caller)[right]? = some second) (same : first.key = second.key)
    (holds : first.holds = true) (rival : second.holds = true) : left = right := by
  rcases found_in_set one with ⟨rfl, rfl⟩ | ⟨apart, there⟩
  · rcases found_in_set two with ⟨rfl, rfl⟩ | ⟨different, here⟩
    · rfl
    · rw [free holds different here same.symm] at rival
      cases rival
  · rcases found_in_set two with ⟨rfl, rfl⟩ | ⟨_, here⟩
    · rw [free rival apart there same] at holds
      cases holds
    · exact keeps.alone there here same holds rival

variable [DecidableEq κ]

theorem lock_taken {flow : Flow ω α} (keeps : discipline.Keeps pool)
    (here : pool.callers[place]? = some ⟨key, flow, false⟩)
    (free : ¬(pool.callers.any fun other => other.key = key && other.holds) = true) :
    discipline.Keeps { pool with callers := pool.callers.set place ⟨key, flow, true⟩ } := by
  have unheld : ∀ {other : Nat} {rival : Caller κ ω α}, pool.callers[other]? = some rival → rival.key = key →
      rival.holds = false := by
    intro other rival there own
    have member : rival ∈ pool.callers := List.mem_of_getElem? there
    have none := List.any_eq_false.mp (Bool.eq_false_iff.mpr free) rival member
    simpa [own] using none
  refine ⟨keeps.sound, fun {other caller} found => ?_, alone_set keeps fun _ _ _ _ there own => unheld there own⟩
  rcases found_in_set found with ⟨rfl, rfl⟩ | ⟨_, there⟩
  · cases keeps.fits here with
    | waits obeys => exact .works (discipline.enters keeps.sound) obeys
    | ended => exact .ended
  · exact keeps.fits there

omit [DecidableEq κ] in
theorem step_taken {change : ω → ω} {rest : ω → Flow ω α} (keeps : discipline.Keeps pool)
    (here : pool.callers[place]? = some ⟨key, .step change rest, true⟩) :
    discipline.Keeps { world := change pool.world, callers := pool.callers.set place ⟨key, rest pool.world, true⟩ } := by
  -- No other caller of the key holds its lock, so a caller that holds one has another key.
  have unheld : ∀ {other : Nat} {rival : Caller κ ω α}, other ≠ place → pool.callers[other]? = some rival →
      rival.key = key → rival.holds = false := by
    intro other rival different there own
    cases held : rival.holds with
    | false => rfl
    | true => exact absurd (keeps.alone there here own held rfl) different
  cases keeps.fits here with
  | @works _ _ standing seen obeys =>
      obtain ⟨next, moves, later⟩ := obeys pool.world seen
      obtain ⟨sound, still⟩ := discipline.keeps seen moves
      refine ⟨sound, fun {other caller} found => ?_, alone_set keeps fun _ _ _ => unheld⟩
      rcases found_in_set found with ⟨rfl, rfl⟩ | ⟨different, there⟩
      · exact .works still later
      · cases keeps.fits there with
        | waits obeys => exact .waits obeys
        | ended => exact .ended
        | @works own flow elsewhere seenThere follows =>
            cases flow with
            | done result => exact .ended
            | step other more =>
                have apart : own ≠ key := fun same => nomatch unheld different there same
                exact .works (discipline.apart apart seen moves seenThere) follows

theorem keeps_advance (keeps : discipline.Keeps pool) (place : Nat) : discipline.Keeps (pool.advance place) := by
  rw [Locked.advance]
  split
  case h_1 key flow here =>
    split
    · exact keeps
    · exact lock_taken keeps here (by assumption)
  case h_2 key change rest here => exact step_taken keeps here
  case h_3 => exact keeps

end Step

section Run

variable {world : ω} {calls : List (κ × Flow ω α)}

theorem keeps_start (sound : discipline.sound world)
    (obey : ∀ call ∈ calls, discipline.Obeys call.1 call.2 discipline.idle) :
    discipline.Keeps (.start world calls) := by
  have found : ∀ {place : Nat} {caller : Caller κ ω α}, (Locked.start world calls).callers[place]? = some caller →
      ∃ call ∈ calls, caller = ⟨call.1, call.2, false⟩ := by
    intro place caller here
    obtain ⟨call, there, rfl⟩ := List.mem_map.mp (List.mem_of_getElem? here)
    exact ⟨call, there, rfl⟩
  constructor
  · exact sound
  · intro place caller here
    obtain ⟨call, member, rfl⟩ := found here
    exact .waits (obey call member)
  · intro place other caller rival here _ _ holds
    obtain ⟨⟨key, flow⟩, _, rfl⟩ := found here
    cases flow <;> cases holds

variable [DecidableEq κ]

theorem keeps_play {pool : Locked κ ω α} (keeps : discipline.Keeps pool) (places : List Nat) :
    discipline.Keeps (pool.play places) := by
  induction places generalizing pool with
  | nil => exact keeps
  | cons place rest ih => exact ih (keeps_advance keeps place)

/-- Whatever the scheduler does, the world stays sound if each call obeys the protocol of its key. -/
theorem sound_play (discipline : Discipline κ ω σ) (sound : discipline.sound world)
    (obey : ∀ call ∈ calls, discipline.Obeys call.1 call.2 discipline.idle) (places : List Nat) :
    discipline.sound ((Locked.start world calls).play places).world :=
  (keeps_play (keeps_start sound obey) places).sound

end Run

end Discipline

end Delivery
