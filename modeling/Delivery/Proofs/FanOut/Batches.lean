import Delivery.FanOut.Engine
import Mathlib.Data.List.Perm.Basic
set_option autoImplicit false

namespace Delivery

variable {ω : Type}

def Moment.started? : Moment → Option Trigger
  | .started trigger => some trigger
  | .ended _ => none

def startedIn (moments : List Moment) : List Trigger :=
  moments.filterMap Moment.started?

theorem started_in_append (first second : List Moment) :
    startedIn (first ++ second) = startedIn first ++ startedIn second :=
  List.filterMap_append

abbrev Carried := Trigger × Outcome

namespace Executor

def play (executor : Executor ω) : List Moment → ω → List Carried × ω
  | [], outside => ([], outside)
  | .started trigger :: rest, outside => play executor rest (executor.start trigger outside)
  | .ended trigger :: rest, outside =>
      let ended := executor.finish trigger outside
      let later := play executor rest ended.2
      ((trigger, ended.1) :: later.1, later.2)

structure Carries (executor : Executor ω) (outside : ω) (moments : List Moment) (carried : List Carried)
    (after : ω) : Prop where
  started : (startedIn moments).Perm (carried.map (·.1))
  played : (executor.play moments outside).1.Perm carried
  outside : (executor.play moments outside).2 = after

theorem play_append (executor : Executor ω) (first second : List Moment) (outside : ω) :
    executor.play (first ++ second) outside =
      ((executor.play first outside).1 ++ (executor.play second (executor.play first outside).2).1,
        (executor.play second (executor.play first outside).2).2) := by
  induction first generalizing outside with
  | nil => rfl
  | cons moment rest ih =>
      cases moment with
      | started trigger => exact ih _
      | ended trigger => rw [List.cons_append, play, ih]; rfl

theorem carries_none (executor : Executor ω) (outside : ω) : executor.Carries outside [] [] outside :=
  ⟨.refl _, .refl _, rfl⟩

theorem carries_append {executor : Executor ω} {outside middle after : ω} {first second : List Moment}
    {earlier later : List Carried} (left : executor.Carries outside first earlier middle)
    (right : executor.Carries middle second later after) :
    executor.Carries outside (first ++ second) (earlier ++ later) after := by
  refine ⟨?_, ?_, ?_⟩
  · rw [started_in_append, List.map_append]
    exact left.started.append right.started
  · rw [play_append, left.outside]
    exact left.played.append right.played
  · rw [play_append, left.outside]
    exact right.outside

end Executor

namespace Batch

def tasks (triggers : List Trigger) : List (Nat × Trigger) :=
  triggers.zipIdx.map fun (trigger, place) => (place, trigger)

theorem tasks_triggers (triggers : List Trigger) : (tasks triggers).map (·.2) = triggers := by
  rw [tasks, List.map_map]
  exact List.zipIdx_map_fst 0 triggers

theorem tasks_places (triggers : List Trigger) : (tasks triggers).map (·.1) = List.range triggers.length := by
  rw [tasks, List.map_map, List.range_eq_range']
  exact List.zipIdx_map_snd 0 triggers

theorem mem_tasks {triggers : List Trigger} {task : Nat × Trigger} (member : task ∈ tasks triggers) :
    triggers[task.1]? = some task.2 := by
  obtain ⟨⟨trigger, place⟩, there, rfl⟩ := List.mem_map.mp member
  exact List.mem_zipIdx_iff_getElem?.mp there

structure Ending where
  place : Nat
  trigger : Trigger
  outcome : Outcome

namespace Ending

def task (ending : Ending) : Nat × Trigger := (ending.place, ending.trigger)

def noted (ending : Ending) : Nat × Outcome := (ending.place, ending.outcome)

def carried (ending : Ending) : Carried := (ending.trigger, ending.outcome)

end Ending

def begun (batch : Batch ω) (endings : List Ending) : List (Nat × Trigger) :=
  batch.running ++ endings.map Ending.task

-- What is so at every turn: each task waits or has started, and the outcomes are those of the ended ones.
structure OnTheWay (executor : Executor ω) (triggers : List Trigger) (outside : ω) (batch : Batch ω)
    (endings : List Ending) : Prop where
  tasks : (batch.waiting ++ batch.begun endings).Perm (tasks triggers)
  started : (startedIn batch.moments).Perm ((batch.begun endings).map (·.2))
  played : executor.play batch.moments outside = (endings.map Ending.carried, batch.outside)
  outcomes : batch.outcomes.Perm (endings.map Ending.noted)
  sorted : Entries.Sorted batch.outcomes

theorem perm_erase_at {α : Type} {items : List α} {place : Nat} {item : α} (found : items[place]? = some item) :
    items.Perm (item :: items.eraseIdx place) := by
  obtain ⟨bound, rfl⟩ := List.getElem?_eq_some_iff.mp found
  exact (List.getElem_cons_eraseIdx_perm bound).symm

section Turns

variable {executor : Executor ω} {triggers : List Trigger} {outside : ω} {batch : Batch ω} {endings : List Ending}

theorem start_task_found (executor : Executor ω) {place : Nat} {task : Nat × Trigger}
    (found : batch.waiting[place]? = some task) : batch.startTask executor place =
      { batch with
        outside := executor.start task.2 batch.outside
        moments := batch.moments ++ [.started task.2]
        waiting := batch.waiting.eraseIdx place
        running := batch.running ++ [task] } := by
  rw [startTask, found]

theorem end_task_found (executor : Executor ω) {place : Nat} {task : Nat × Trigger}
    (found : batch.running[place]? = some task) : batch.endTask executor place =
      { batch with
        outside := (executor.finish task.2 batch.outside).2
        moments := batch.moments ++ [.ended task.2]
        running := batch.running.eraseIdx place
        outcomes := Entries.insert task.1 (executor.finish task.2 batch.outside).1 batch.outcomes } := by
  rw [endTask, found]

theorem start_on_the_way (way : OnTheWay executor triggers outside batch endings) {place : Nat} {task : Nat × Trigger}
    (found : batch.waiting[place]? = some task) :
    OnTheWay executor triggers outside (batch.startTask executor place) endings := by
  have picked : batch.waiting.Perm (task :: batch.waiting.eraseIdx place) := perm_erase_at found
  have more : ((batch.running ++ [task]) ++ endings.map Ending.task).Perm (task :: batch.begun endings) := by
    rw [List.append_assoc]
    exact List.perm_middle
  rw [start_task_found executor found]
  refine ⟨?_, ?_, ?_, way.outcomes, way.sorted⟩
  · have moved := (more.append_left _).trans (List.perm_middle.trans (picked.symm.append_right _))
    exact moved.trans way.tasks
  · have after : startedIn (batch.moments ++ [.started task.2]) = startedIn batch.moments ++ [task.2] :=
      started_in_append _ _
    show (startedIn (batch.moments ++ [.started task.2])).Perm _
    rw [after]
    refine (List.perm_append_singleton _ _).trans ?_
    exact (way.started.cons task.2).trans (more.map Prod.snd).symm
  · rw [Executor.play_append, way.played]
    exact congrArg (·, _) (List.append_nil _)

theorem running_not_ended (way : OnTheWay executor triggers outside batch endings) {place : Nat}
    {task : Nat × Trigger} (found : batch.running[place]? = some task) {entry : Nat × Outcome}
    (member : entry ∈ batch.outcomes) : entry.1 ≠ task.1 := by
  -- No two tasks have one place, and one of these runs while the other has ended.
  have places : ((batch.waiting ++ batch.begun endings).map (·.1)).Nodup := by
    refine (way.tasks.map (·.1)).nodup_iff.mpr ?_
    rw [tasks_places]
    exact List.nodup_range
  rw [begun, List.map_append, List.map_append] at places
  have apart := (List.nodup_append.mp (List.nodup_append.mp places).2.1).2.2
  obtain ⟨ending, there, rfl⟩ := List.mem_map.mp (way.outcomes.subset member)
  have runs : task.1 ∈ batch.running.map (·.1) := List.mem_map_of_mem (List.mem_of_getElem? found)
  have ended : ending.place ∈ (endings.map Ending.task).map (·.1) :=
    List.mem_map.mpr ⟨ending.task, List.mem_map_of_mem there, rfl⟩
  exact (apart task.1 runs ending.place ended).symm

theorem end_on_the_way (way : OnTheWay executor triggers outside batch endings) {place : Nat} {task : Nat × Trigger}
    (found : batch.running[place]? = some task) :
    ∃ more, OnTheWay executor triggers outside (batch.endTask executor place) more := by
  have picked : batch.running.Perm (task :: batch.running.eraseIdx place) := perm_erase_at found
  let ending : Ending := ⟨task.1, task.2, (executor.finish task.2 batch.outside).1⟩
  have same : (batch.running.eraseIdx place ++ (endings ++ [ending]).map Ending.task).Perm (batch.begun endings) := by
    rw [List.map_append, ← List.append_assoc]
    exact (List.perm_append_singleton _ _).trans (picked.symm.append_right _)
  refine ⟨endings ++ [ending], ?_⟩
  rw [end_task_found executor found]
  refine ⟨?_, ?_, ?_, ?_, Entries.sorted_insert _ _ way.sorted⟩
  · exact (same.append_left _).trans way.tasks
  · have after : startedIn (batch.moments ++ [.ended task.2]) = startedIn batch.moments :=
      (started_in_append _ _).trans (List.append_nil _)
    show (startedIn (batch.moments ++ [.ended task.2])).Perm _
    rw [after]
    exact way.started.trans (same.map Prod.snd).symm
  · rw [Executor.play_append, way.played, List.map_append]
    rfl
  · refine (Entries.perm_insert _ fun entry member => running_not_ended way found member).trans ?_
    rw [List.map_append]
    exact (way.outcomes.cons _).trans (List.perm_append_singleton _ _).symm

def turnsLeft (batch : Batch ω) : Nat := 2 * batch.waiting.length + batch.running.length

theorem turn_on_the_way (way : OnTheWay executor triggers outside batch endings) (choice : Nat) :
    (∃ more, OnTheWay executor triggers outside (batch.turn executor choice) more) ∧
      (batch.turn executor choice).turnsLeft = batch.turnsLeft - 1 := by
  rw [turn]
  generalize placed : choice % (batch.waiting.length + batch.running.length) = place
  split
  next waits =>
    have found : batch.waiting[place]? = some batch.waiting[place] := List.getElem?_eq_getElem waits
    refine ⟨⟨endings, start_on_the_way way found⟩, ?_⟩
    rw [start_task_found executor found, turnsLeft, turnsLeft, List.length_append, List.length_eraseIdx_of_lt waits,
      List.length_singleton]
    omega
  next runs =>
    by_cases some : 0 < batch.waiting.length + batch.running.length
    · have bound : place < batch.waiting.length + batch.running.length := placed ▸ Nat.mod_lt _ some
      have within : place - batch.waiting.length < batch.running.length := by omega
      have found := List.getElem?_eq_getElem within
      refine ⟨end_on_the_way way found, ?_⟩
      rw [end_task_found executor found, turnsLeft, turnsLeft]
      dsimp only
      rw [List.length_eraseIdx_of_lt within]
      omega
    · -- Nothing waits and nothing runs, so a turn changes nothing.
      have idle : batch.running.length ≤ place - batch.waiting.length := by omega
      have same : batch.endTask executor (place - batch.waiting.length) = batch := by
        rw [endTask, List.getElem?_eq_none idle]
      rw [same]
      refine ⟨⟨endings, way⟩, ?_⟩
      rw [turnsLeft]
      omega

theorem turns_on_the_way (count : Nat) (choices : Choices)
    (way : OnTheWay executor triggers outside batch endings) :
    (∃ more, OnTheWay executor triggers outside (turns executor count choices batch) more) ∧
      (turns executor count choices batch).turnsLeft = batch.turnsLeft - count := by
  induction count generalizing choices batch endings with
  | zero => exact ⟨⟨endings, way⟩, rfl⟩
  | succ count ih =>
      obtain ⟨⟨more, onward⟩, fewer⟩ := turn_on_the_way way (choices.headD 0)
      obtain ⟨ends, left⟩ := ih choices.tail onward
      refine ⟨ends, ?_⟩
      rw [turns, left, fewer]
      omega

end Turns

def carried (triggers : List Trigger) (batch : Batch ω) : List Carried :=
  triggers.zip (batch.outcomes.map (·.2))

def answered (triggers : List Trigger) (noted : Nat × Outcome) : Option Carried :=
  triggers[noted.1]?.map (·, noted.2)

theorem answered_in_order (before triggers : List Trigger) {outcomes : List (Nat × Outcome)}
    (places : outcomes.map (·.1) = List.range' before.length triggers.length) :
    outcomes.filterMap (answered (before ++ triggers)) = triggers.zip (outcomes.map (·.2)) := by
  induction triggers generalizing before outcomes with
  | nil =>
      obtain rfl : outcomes = [] := List.map_eq_nil_iff.mp places
      rfl
  | cons trigger rest ih =>
      cases outcomes with
      | nil => cases places
      | cons noted more =>
          obtain ⟨(here : noted.1 = before.length), later⟩ := List.cons.inj places
          have found : answered (before ++ trigger :: rest) noted = some (trigger, noted.2) := by
            rw [answered, here, List.getElem?_append_right (Nat.le_refl _), Nat.sub_self]
            rfl
          have places : more.map (·.1) = List.range' (before ++ [trigger]).length rest.length := by
            rw [later, List.length_append]
            rfl
          have others := ih (before ++ [trigger]) places
          rw [List.append_assoc] at others
          rw [List.filterMap_cons, found]
          exact congrArg (_ :: ·) others

section Done

variable {executor : Executor ω} {triggers : List Trigger} {outside : ω} {batch : Batch ω} {endings : List Ending}

theorem run_on_the_way (executor : Executor ω) (choices : Choices) (triggers : List Trigger) (outside : ω) :
    ∃ endings, OnTheWay executor triggers outside (run executor choices triggers outside) endings ∧
      (run executor choices triggers outside).waiting = [] ∧ (run executor choices triggers outside).running = [] := by
  have start : OnTheWay executor triggers outside { outside, waiting := tasks triggers } [] := by
    refine ⟨?_, .refl _, rfl, .refl _, Entries.sorted_nil⟩
    exact .of_eq (List.append_nil _)
  obtain ⟨⟨endings, way⟩, left⟩ := turns_on_the_way (2 * triggers.length) choices start
  have none : (run executor choices triggers outside).turnsLeft = 0 := by
    refine left.trans ?_
    rw [turnsLeft, ← List.length_map, tasks_triggers]
    exact Nat.sub_self _
  rw [turnsLeft] at none
  refine ⟨endings, way, List.length_eq_zero_iff.mp ?_, List.length_eq_zero_iff.mp ?_⟩ <;> omega

theorem all_ended (way : OnTheWay executor triggers outside batch endings) (noneWaits : batch.waiting = [])
    (noneRuns : batch.running = []) : (endings.map Ending.task).Perm (tasks triggers) := by
  have every := way.tasks
  rw [begun, noneWaits, noneRuns] at every
  exact every

theorem outcomes_places (way : OnTheWay executor triggers outside batch endings)
    (ended : (endings.map Ending.task).Perm (tasks triggers)) :
    batch.outcomes.map (·.1) = List.range triggers.length := by
  have places : (batch.outcomes.map (·.1)).Perm (List.range triggers.length) := by
    have noted := way.outcomes.map Prod.fst
    rw [List.map_map] at noted
    rw [← tasks_places]
    refine noted.trans ?_
    have same := ended.map Prod.fst
    rwa [List.map_map] at same
  -- Both lists ascend.
  have ascending : (batch.outcomes.map (·.1)).Pairwise (· < ·) :=
    List.pairwise_map.mpr (way.sorted.imp fun before => Nat.compare_eq_lt.mp before)
  exact places.eq_of_pairwise (fun first second _ _ before after => absurd before (Nat.lt_asymm after)) ascending
    List.pairwise_lt_range

theorem endings_carried (way : OnTheWay executor triggers outside batch endings)
    (ended : (endings.map Ending.task).Perm (tasks triggers)) :
    (endings.map Ending.carried).Perm (carried triggers batch) := by
  have places := outcomes_places way ended
  rw [List.range_eq_range'] at places
  rw [carried, ← answered_in_order [] triggers places]
  have each : endings.map Ending.carried = (endings.map Ending.noted).filterMap (answered triggers) := by
    rw [List.filterMap_map, ← List.filterMap_eq_map]
    refine List.filterMap_congr fun ending member => ?_
    have there : triggers[ending.place]? = some ending.trigger :=
      mem_tasks (ended.subset (List.mem_map_of_mem member))
    simp [answered, Ending.noted, Ending.carried, there]
  rw [each]
  exact (way.outcomes.filterMap _).symm

end Done

/-- However the tasks of a batch are scheduled, each of its triggers is carried out once. -/
theorem run_carries (executor : Executor ω) (choices : Choices) (triggers : List Trigger) (outside : ω) :
    let batch := run executor choices triggers outside
    (carried triggers batch).map (·.1) = triggers ∧
      executor.Carries outside batch.moments (carried triggers batch) batch.outside := by
  obtain ⟨endings, way, noneWaits, noneRuns⟩ := run_on_the_way executor choices triggers outside
  have ended := all_ended way noneWaits noneRuns
  have length := congrArg List.length (outcomes_places way ended)
  rw [List.length_map, List.length_range] at length
  have order : (carried triggers (run executor choices triggers outside)).map (·.1) = triggers :=
    List.map_fst_zip (Nat.le_of_eq (by rw [List.length_map, length]))
  refine ⟨order, ?_, ?_, ?_⟩
  · have begins := way.started
    rw [begun, noneRuns] at begins
    rw [order]
    exact begins.trans ((ended.map Prod.snd).trans (.of_eq (tasks_triggers triggers)))
  · rw [way.played]
    exact endings_carried way ended
  · rw [way.played]

end Batch

end Delivery
