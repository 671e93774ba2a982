import Delivery.Proofs.Protocols
set_option autoImplicit false

namespace Delivery

-- A protocol under which every step is polite, and no polite change takes away what a program may see.
structure Concord (ω σ : Type) where
  protocol : Protocol ω σ
  sound : ω → Prop
  polite : ω → ω → Prop
  idle : σ
  enters : ∀ {world}, sound world → protocol.sees idle world
  stays : ∀ {world after}, sound world → polite world after → sound after
  keeps : ∀ {standing world after next}, sound world → protocol.sees standing world →
    protocol.moves standing world after next → polite world after ∧ protocol.sees next after
  undisturbed : ∀ {standing world after}, sound world → polite world after → protocol.sees standing world →
    protocol.sees standing after

namespace Concord

variable {ω σ ι α : Type} {concord : Concord ω σ}

def Obeys (concord : Concord ω σ) (flow : Flow ω α) (standing : σ) : Prop :=
  flow.Follows concord.protocol (fun _ _ => True) standing

structure Keeps (concord : Concord ω σ) (pool : Pool ω α) : Prop where
  sound : concord.sound pool.world
  stands : ∀ flow ∈ pool.flows, ∃ standing, concord.protocol.sees standing pool.world ∧ concord.Obeys flow standing

section Turns

variable {pool : Pool ω α}

theorem keeps_aside {after : ω} (keeps : concord.Keeps pool) (polite : concord.polite pool.world after) :
    concord.Keeps { pool with world := after } := by
  refine ⟨concord.stays keeps.sound polite, fun flow member => ?_⟩
  obtain ⟨standing, seen, obeys⟩ := keeps.stands flow member
  exact ⟨standing, concord.undisturbed keeps.sound polite seen, obeys⟩

theorem keeps_advance (keeps : concord.Keeps pool) (place : Nat) : concord.Keeps (pool.advance place) := by
  rw [Pool.advance]
  split
  case h_1 change rest here =>
    obtain ⟨standing, seen, obeys⟩ := keeps.stands _ (List.mem_of_getElem? here)
    obtain ⟨next, moves, later⟩ := obeys pool.world seen
    obtain ⟨polite, seenNext⟩ := concord.keeps keeps.sound seen moves
    have others := keeps_aside keeps polite
    refine ⟨others.sound, fun flow member => ?_⟩
    rcases List.mem_or_eq_of_mem_set member with other | rfl
    · exact others.stands flow other
    · exact ⟨next, seenNext, later⟩
  case h_2 => exact keeps

theorem keeps_play {acts : ι → ω → ω} (keeps : concord.Keeps pool) {turns : List (Turn ι)}
    (aside : ∀ action, .aside action ∈ turns → ∀ world, concord.sound world →
      concord.polite world (acts action world)) : concord.Keeps (pool.play acts turns) := by
  induction turns generalizing pool with
  | nil => exact keeps
  | cons turn rest ih =>
      have later := fun action member => aside action (List.mem_cons_of_mem turn member)
      cases turn with
      | step place => exact ih (keeps_advance keeps place) later
      | aside action => exact ih (keeps_aside keeps (aside action List.mem_cons_self pool.world keeps.sound)) later

/-- Whatever the scheduler does, the world stays sound if each program obeys and what happens beside them is polite. -/
theorem sound_play (concord : Concord ω σ) (acts : ι → ω → ω) (sound : concord.sound pool.world)
    (obey : ∀ flow ∈ pool.flows, concord.Obeys flow concord.idle) {turns : List (Turn ι)}
    (aside : ∀ action, .aside action ∈ turns → ∀ world, concord.sound world →
      concord.polite world (acts action world)) : concord.sound (pool.play acts turns).world := by
  have start : concord.Keeps pool := ⟨sound, fun flow member => ⟨concord.idle, concord.enters sound, obey flow member⟩⟩
  exact (keeps_play start aside).sound

end Turns

end Concord

end Delivery
