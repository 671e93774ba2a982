import Delivery.Proofs.FanOut.Coverage
import Mathlib.Data.List.Perm.Subperm
set_option autoImplicit false

namespace Delivery

variable {ω : Type}

def Moment.ended? : Moment → Option Trigger
  | .started _ => none
  | .ended trigger => some trigger

def endedIn (moments : List Moment) : List Trigger :=
  moments.filterMap Moment.ended?

def inFlight (moments : List Moment) : List Trigger :=
  (startedIn moments).diff (endedIn moments)

theorem ended_in_append (first second : List Moment) : endedIn (first ++ second) = endedIn first ++ endedIn second :=
  List.filterMap_append

theorem Executor.play_ended (executor : Executor ω) (moments : List Moment) (outside : ω) :
    (executor.play moments outside).1.map (·.1) = endedIn moments := by
  induction moments generalizing outside with
  | nil => rfl
  | cons moment rest ih =>
      cases moment with
      | started trigger => exact ih _
      | ended trigger => exact congrArg (trigger :: ·) (ih _)

def Causal (moments : List Moment) : Prop :=
  ∀ earlier, earlier <+: moments → (endedIn earlier).Subperm (startedIn earlier)

theorem causal_none : Causal [] := by
  intro earlier first
  rw [List.prefix_nil.mp first]
  exact List.Subperm.refl _

theorem causal_next {moments : List Moment} {moment : Moment} (causal : Causal moments)
    (next : (endedIn (moments ++ [moment])).Subperm (startedIn (moments ++ [moment]))) :
    Causal (moments ++ [moment]) := by
  intro earlier first
  rcases List.prefix_concat_iff.mp first with rfl | within
  · exact next
  · exact causal earlier within

theorem flight_perm {moments : List Moment} (ended : (endedIn moments).Subperm (startedIn moments)) :
    (endedIn moments ++ inFlight moments).Perm (startedIn moments) :=
  List.subperm_append_diff_self_of_count_le fun trigger _ => ended.count_le trigger

structure Interleaves (triggers : List Trigger) (moments : List Moment) : Prop where
  started : (startedIn moments).Perm triggers
  ended : (endedIn moments).Perm triggers
  causal : Causal moments

namespace Batch

section Turns

variable {executor : Executor ω} {triggers : List Trigger} {outside : ω} {batch : Batch ω} {endings : List Ending}

theorem started_perm (way : OnTheWay executor triggers outside batch endings) :
    (startedIn batch.moments).Perm (batch.running.map (·.2) ++ endedIn batch.moments) := by
  have ended : endedIn batch.moments = endings.map (·.trigger) := by
    rw [← executor.play_ended batch.moments outside, way.played, List.map_map]
    rfl
  have started := way.started
  rwa [begun, List.map_append, List.map_map, show (Prod.snd ∘ Ending.task) = (·.trigger) from rfl, ← ended] at started

theorem ended_subperm (way : OnTheWay executor triggers outside batch endings) :
    (endedIn batch.moments).Subperm (startedIn batch.moments) :=
  (List.sublist_append_right _ _).subperm.trans (started_perm way).symm.subperm

theorem turn_moments (executor : Executor ω) (batch : Batch ω) (choice : Nat) :
    (batch.turn executor choice).moments = batch.moments ∨
      ∃ moment, (batch.turn executor choice).moments = batch.moments ++ [moment] := by
  rw [turn]
  split
  · rw [startTask]
    split
    · exact .inl rfl
    · exact .inr ⟨_, rfl⟩
  · rw [endTask]
    split
    · exact .inl rfl
    · exact .inr ⟨_, rfl⟩

theorem turns_causal (count : Nat) (choices : Choices) (way : OnTheWay executor triggers outside batch endings)
    (causal : Causal batch.moments) : Causal (turns executor count choices batch).moments := by
  induction count generalizing choices batch endings with
  | zero => exact causal
  | succ count ih =>
      obtain ⟨⟨more, onward⟩, _⟩ := turn_on_the_way way (choices.headD 0)
      refine ih choices.tail onward ?_
      rcases turn_moments executor batch (choices.headD 0) with same | ⟨moment, added⟩
      · rwa [same]
      · rw [added]
        refine causal_next causal ?_
        rw [← added]
        exact ended_subperm onward

theorem run_interleaves (executor : Executor ω) (choices : Choices) (triggers : List Trigger) (outside : ω) :
    Interleaves triggers (run executor choices triggers outside).moments := by
  obtain ⟨order, carries⟩ := run_carries executor choices triggers outside
  have start : OnTheWay executor triggers outside { outside, waiting := tasks triggers } [] :=
    ⟨.of_eq (List.append_nil _), .refl _, rfl, .refl _, Entries.sorted_nil⟩
  refine ⟨carries.started.trans (.of_eq order), ?_, turns_causal _ choices start causal_none⟩
  rw [← executor.play_ended _ outside]
  exact (carries.played.map _).trans (.of_eq order)

end Turns

theorem task_of_trigger {tasks : List (Nat × Trigger)} {trigger : Trigger} (member : trigger ∈ tasks.map (·.2)) :
    ∃ (place : Nat) (task : Nat × Trigger), place < tasks.length ∧ tasks[place]? = some task ∧ task.2 = trigger := by
  obtain ⟨task, there, same⟩ := List.mem_map.mp member
  obtain ⟨place, bound, found⟩ := List.getElem_of_mem there
  exact ⟨place, task, bound, List.getElem?_eq_some_iff.mpr ⟨bound, found⟩, same⟩

theorem turn_starts (executor : Executor ω) {batch : Batch ω} {place : Nat} (waits : place < batch.waiting.length) :
    batch.turn executor place = batch.startTask executor place := by
  rw [turn, Nat.mod_eq_of_lt (by omega), if_pos waits]

theorem turn_ends (executor : Executor ω) {batch : Batch ω} {place : Nat} (runs : place < batch.running.length) :
    batch.turn executor (batch.waiting.length + place) = batch.endTask executor place := by
  rw [turn, Nat.mod_eq_of_lt (by omega), if_neg (by omega), Nat.add_sub_cancel_left]

-- Choices for moments that are still to come: those that start find their trigger among the waiting tasks, and
-- those that end find theirs among the running ones.
theorem turns_follow (executor : Executor ω) (moments : List Moment) {batch : Batch ω}
    (starts : (startedIn moments).Perm (batch.waiting.map (·.2)))
    (causal : ∀ earlier, earlier <+: moments →
      (endedIn earlier).Subperm (batch.running.map (·.2) ++ startedIn earlier)) :
    ∃ choices, (turns executor moments.length choices batch).moments = batch.moments ++ moments := by
  induction moments generalizing batch with
  | nil => exact ⟨[], (List.append_nil _).symm⟩
  | cons moment rest ih =>
      cases moment with
      | started trigger =>
          have waits : trigger ∈ batch.waiting.map (·.2) := starts.subset List.mem_cons_self
          obtain ⟨place, task, bound, found, rfl⟩ := task_of_trigger waits
          have turned := (turn_starts executor bound).trans (start_task_found executor found)
          have fewer : (startedIn rest).Perm ((batch.waiting.eraseIdx place).map (·.2)) :=
            (starts.trans ((perm_erase_at found).map (·.2))).cons_inv
          have onward : ∀ earlier, earlier <+: rest →
              (endedIn earlier).Subperm ((batch.running ++ [task]).map (·.2) ++ startedIn earlier) := by
            intro earlier first
            rw [List.map_append, List.append_assoc]
            exact causal (.started task.2 :: earlier) (List.cons_prefix_cons.mpr ⟨rfl, first⟩)
          have later := @ih (batch.turn executor place)
          rw [turned] at later
          obtain ⟨choices, followed⟩ := later fewer onward
          refine ⟨place :: choices, ?_⟩
          rw [List.length_cons, turns, List.headD_cons, turned]
          exact followed.trans (List.append_assoc _ _ _)
      | ended trigger =>
          have first : [Moment.ended trigger] <+: .ended trigger :: rest := ⟨rest, rfl⟩
          have runs : trigger ∈ batch.running.map (·.2) := by
            have ended := (causal _ first).subset (List.mem_cons_self (a := trigger))
            rwa [show startedIn [Moment.ended trigger] = [] from rfl, List.append_nil] at ended
          obtain ⟨place, task, bound, found, rfl⟩ := task_of_trigger runs
          have turned := (turn_ends executor bound).trans (end_task_found executor found)
          have onward : ∀ earlier, earlier <+: rest →
              (endedIn earlier).Subperm ((batch.running.eraseIdx place).map (·.2) ++ startedIn earlier) := by
            intro earlier first
            have ended := causal (.ended task.2 :: earlier) (List.cons_prefix_cons.mpr ⟨rfl, first⟩)
            have picked := ((perm_erase_at found).map (·.2)).append_right (startedIn earlier)
            exact (List.subperm_cons _).mp (ended.trans picked.subperm)
          have later := @ih (batch.turn executor (batch.waiting.length + place))
          rw [turned] at later
          obtain ⟨choices, followed⟩ := later starts onward
          refine ⟨(batch.waiting.length + place) :: choices, ?_⟩
          rw [List.length_cons, turns, List.headD_cons, turned]
          exact followed.trans (List.append_assoc _ _ _)

/-- The schedules of a batch are the ways in which its triggers can start and end: each schedule is one of them, and
each of them has a schedule. -/
theorem interleaves_iff_scheduled (executor : Executor ω) (triggers : List Trigger) (moments : List Moment)
    (outside : ω) :
    Interleaves triggers moments ↔ ∃ choices, (run executor choices triggers outside).moments = moments := by
  constructor
  · intro way
    have starts : (startedIn moments).Perm ((tasks triggers).map (·.2)) := by
      rw [tasks_triggers]
      exact way.started
    let batch : Batch ω := { outside, waiting := tasks triggers }
    obtain ⟨choices, followed⟩ : ∃ choices, (turns executor moments.length choices batch).moments = [] ++ moments :=
      turns_follow executor moments starts way.causal
    have length : moments.length = 2 * triggers.length := by
      have ends := congrArg List.length (executor.play_ended moments outside)
      rw [List.length_map, way.ended.length_eq] at ends
      rw [executor.play_length moments outside, way.started.length_eq, ends]
      omega
    rw [length] at followed
    exact ⟨choices, followed⟩
  · rintro ⟨choices, rfl⟩
    exact run_interleaves executor choices triggers outside

end Batch

namespace Engine

inductive InTurn : List (List Trigger) → List Moment → Prop where
  | none : InTurn [] []
  | batch {triggers : List Trigger} {later : List (List Trigger)} {first rest : List Moment}
      (interleaves : Interleaves triggers first) (onward : InTurn later rest) :
      InTurn (triggers :: later) (first ++ rest)

theorem run_batches_in_turn (engine : Engine ω) (schedule : List Choices) (cuts : List (List Trigger))
    (run : FanOutRun ω) :
    ∃ done left moments, cuts = done ++ left ∧ InTurn done moments ∧
      (engine.runBatches schedule cuts run).moments = run.moments ++ moments := by
  induction cuts generalizing schedule run with
  | nil => exact ⟨[], [], [], rfl, .none, (List.append_nil _).symm⟩
  | cons triggers later ih =>
      rw [runBatches]
      split
      · exact ⟨[], triggers :: later, [], rfl, .none, (List.append_nil _).symm⟩
      · obtain ⟨done, left, moments, rfl, onward, added⟩ :=
          ih schedule.tail (engine.runBatch (schedule.headD []) triggers run)
        have first := Batch.run_interleaves engine.executor (schedule.headD []) triggers run.outside
        refine ⟨triggers :: done, left, _, rfl, .batch first onward, added.trans ?_⟩
        exact List.append_assoc _ _ _

theorem begun_of_batch {triggers : List Trigger} {moments earlier : List Moment}
    (interleaves : Interleaves triggers moments) (first : earlier <+: moments) :
    (startedIn earlier).Subperm triggers :=
  (first.sublist.filterMap _).subperm.trans interleaves.started.subperm

theorem in_turn_bounded {cuts : List (List Trigger)} {moments earlier : List Moment} {size : Nat}
    (inTurn : InTurn cuts moments) (within : ∀ batch ∈ cuts, batch.length ≤ size) (first : earlier <+: moments) :
    (endedIn earlier).Subperm (startedIn earlier) ∧ (startedIn earlier).length ≤ (endedIn earlier).length + size := by
  induction inTurn generalizing earlier with
  | none =>
      obtain rfl := List.prefix_nil.mp first
      exact ⟨List.Subperm.refl _, Nat.zero_le _⟩
  | @batch triggers later part rest interleaves onward ih =>
      have inBatch : ∀ earlier, earlier <+: part → (endedIn earlier).Subperm (startedIn earlier) ∧
          (startedIn earlier).length ≤ (endedIn earlier).length + size := by
        intro earlier first
        have fewer := (begun_of_batch interleaves first).length_le
        have small := within triggers List.mem_cons_self
        exact ⟨interleaves.causal earlier first, by omega⟩
      obtain ⟨others, split⟩ := first
      rcases List.append_eq_append_iff.mp split with ⟨more, whole, _⟩ | ⟨more, rfl, after⟩
      · exact inBatch earlier ⟨more, whole.symm⟩
      · -- The whole batch is over, and its triggers count on both sides.
        have smaller : ∀ batch ∈ later, batch.length ≤ size := fun batch member =>
          within batch (List.mem_cons_of_mem _ member)
        obtain ⟨ended, bound⟩ := ih smaller ⟨others, after.symm⟩
        have started := interleaves.started.length_eq
        have complete := interleaves.ended.length_eq
        rw [started_in_append, ended_in_append, List.length_append, List.length_append]
        refine ⟨?_, by omega⟩
        exact (interleaves.ended.trans interleaves.started.symm).subperm.append ended

-- Where a trigger starts as one of its batch: the batches before that are over, and those after it wait.
structure StartsIn (before : List (List Trigger)) (batch : List Trigger) (earlier : List Moment) (trigger : Trigger) :
    Prop where
  own : trigger ∈ batch
  ended : before.flatten.Subperm (endedIn earlier)
  begun : (startedIn earlier ++ [trigger]).Subperm (before.flatten ++ batch)

theorem starts_in_first {triggers : List Trigger} {earlier later : List Moment} {trigger : Trigger}
    (interleaves : Interleaves triggers (earlier ++ .started trigger :: later)) :
    StartsIn [] triggers earlier trigger := by
  have first : earlier ++ [.started trigger] <+: earlier ++ .started trigger :: later :=
    ⟨later, List.append_assoc _ _ _⟩
  have starts := begun_of_batch interleaves first
  rw [started_in_append] at starts
  exact ⟨starts.subset (List.mem_append_right _ List.mem_cons_self), List.nil_subperm, starts⟩

theorem starts_in_later {triggers batch : List Trigger} {before : List (List Trigger)} {part earlier : List Moment}
    {trigger : Trigger} (interleaves : Interleaves triggers part) (starts : StartsIn before batch earlier trigger) :
    StartsIn (triggers :: before) batch (part ++ earlier) trigger := by
  refine ⟨starts.own, ?_, ?_⟩
  · rw [ended_in_append, List.flatten_cons]
    exact interleaves.ended.symm.subperm.append starts.ended
  · rw [started_in_append, List.flatten_cons, List.append_assoc, List.append_assoc]
    exact interleaves.started.subperm.append starts.begun

theorem in_turn_start {cuts : List (List Trigger)} {moments earlier later : List Moment} {trigger : Trigger}
    (inTurn : InTurn cuts moments) (split : moments = earlier ++ .started trigger :: later) :
    ∃ before batch after, cuts = before ++ batch :: after ∧ StartsIn before batch earlier trigger := by
  induction inTurn generalizing earlier with
  | none => cases earlier <;> cases split
  | @batch triggers others part rest interleaves onward ih =>
      rcases List.append_eq_append_iff.mp split with ⟨more, rfl, after⟩ | ⟨more, whole, after⟩
      · obtain ⟨before, batch, left, rfl, starts⟩ := ih after
        exact ⟨triggers :: before, batch, left, rfl, starts_in_later interleaves starts⟩
      · cases more with
        | nil =>
            obtain ⟨before, batch, left, rfl, starts⟩ := @ih [] after.symm
            refine ⟨triggers :: before, batch, left, rfl, ?_⟩
            have first := starts_in_later interleaves starts
            rwa [whole, List.append_nil, List.append_nil] at first
        | cons moment more =>
            obtain ⟨rfl, _⟩ := List.cons.inj after
            subst whole
            exact ⟨[], triggers, others, rfl, starts_in_first interleaves⟩

theorem run_triggers_in_turn (engine : Engine ω) (triggers : List Trigger) (report : FanOutReport) (outside : ω) :
    ∃ done left, batches engine.batchSize triggers = done ++ left ∧
      InTurn done (engine.runTriggers triggers report outside).moments := by
  obtain ⟨done, left, moments, cuts, inTurn, added⟩ :=
    run_batches_in_turn engine engine.schedule (batches engine.batchSize triggers) { outside, report }
  rw [List.nil_append] at added
  refine ⟨done, left, cuts, ?_⟩
  rw [runTriggers, added]
  exact inTurn

section Reports

variable {engine : Engine ω} {artifacts : List Artifact} {mode : TriggerMode} {user : UserId} {outside : ω}

def onSchedule (engine : Engine ω) (schedule : List Choices) : Engine ω := { engine with schedule }

def Settled (engine : Engine ω) (artifacts : List Artifact) (mode : TriggerMode) (user : UserId) (outside : ω)
    (view : String → String) (outcome : Artifact → Outcome) : Prop :=
  ∀ schedule, let run := (engine.onSchedule schedule).fanOut artifacts mode user outside
    ∀ call ∈ (engine.executor.play run.moments outside).1, call.2.seen view = outcome call.1.artifact

def Signals (engine : Engine ω) (artifacts : List Artifact) (mode : TriggerMode) (user : UserId) (outside : ω)
    (signal : Nat → Bool) : Prop :=
  ∀ schedule, let run := (engine.onSchedule schedule).fanOut artifacts mode user outside
    ∀ done, max engine.batchSize 1 ∣ done → done ≤ run.report.attempted → done < artifacts.length →
      engine.executor.cancelled (engine.executor.standing run.moments outside done) = signal done

def Unordered (executor : Executor ω) : Prop :=
  ∀ moments others outside, moments.Perm others →
    executor.cancelled (executor.play moments outside).2 = executor.cancelled (executor.play others outside).2

structure StopsAt (signal : Nat → Bool) (size total done : Nat) : Prop where
  within : done ≤ total
  quiet : ∀ fewer, size ∣ fewer → fewer < done → signal fewer = false
  stopped : done < total → size ∣ done ∧ signal done = true

theorem stops_once {signal : Nat → Bool} {size total first second : Nat} (stops : StopsAt signal size total first)
    (stopsToo : StopsAt signal size total second) : first = second := by
  have apart : ∀ {few many : Nat}, StopsAt signal size total few → StopsAt signal size total many → ¬few < many := by
    intro few many here there fewer
    obtain ⟨divides, found⟩ := here.stopped (Nat.lt_of_lt_of_le fewer there.within)
    rw [there.quiet few divides fewer] at found
    cases found
  have notMore : ¬second < first := apart stopsToo stops
  have notFewer : ¬first < second := apart stops stopsToo
  omega

theorem signal_at_stop {triggers left : List Trigger} {before after : FanOutRun ω} {size : Nat}
    {moments : List Moment} {carried : List Carried}
    (carries : engine.executor.Carries before.outside moments carried after.outside)
    (paced : Paced engine.executor size before.outside moments carried left)
    (fans : engine.FansOut triggers before after carried left) (some : left ≠ []) :
    size ∣ carried.length ∧
      engine.executor.cancelled (engine.executor.standing moments before.outside carried.length) = true := by
  obtain ⟨done, divides, bound, _, given⟩ := (left_iff_signal carries paced fans).mp some
  rcases Nat.lt_or_eq_of_le bound with fewer | rfl
  · rw [paced.quiet done divides fewer] at given
    cases given
  · exact ⟨divides, given⟩

theorem run_stops (engine : Engine ω) (artifacts : List Artifact) (mode : TriggerMode) (user : UserId) (outside : ω) :
    let run := engine.fanOut artifacts mode user outside
    StopsAt (fun done => engine.executor.cancelled (engine.executor.standing run.moments outside done))
      (max engine.batchSize 1) artifacts.length run.report.attempted := by
  intro run
  obtain ⟨_, carried, left, rfl, carries, paced, fans⟩ :=
    engine.run_triggers_paced (artifacts.map (triggerFor mode user)) {} outside
  have attempted : run.report.attempted = carried.length := by
    refine (congrArg FanOutReport.attempted fans.report).trans ?_
    exact Nat.zero_add _
  have total := congrArg List.length fans.triggers
  rw [List.length_map, List.length_append, List.length_map] at total
  rw [attempted]
  refine ⟨by omega, paced.quiet, ?_⟩
  intro fewer
  have some : left ≠ [] := by
    rw [← List.length_pos_iff]
    omega
  exact signal_at_stop carries paced fans some

theorem signals_attempted {signal : Nat → Bool} (signals : engine.Signals artifacts mode user outside signal)
    (schedule : List Choices) :
    StopsAt signal (max engine.batchSize 1) artifacts.length
      ((engine.onSchedule schedule).fanOut artifacts mode user outside).report.attempted := by
  have stops := run_stops (engine.onSchedule schedule) artifacts mode user outside
  refine ⟨stops.within, ?_, ?_⟩
  · intro fewer divides less
    rw [← signals schedule fewer divides (Nat.le_of_lt less) (Nat.lt_of_lt_of_le less stops.within)]
    exact stops.quiet fewer divides less
  · intro less
    obtain ⟨divides, found⟩ := stops.stopped less
    exact ⟨divides, (signals schedule _ divides (Nat.le_refl _) less).symm.trans found⟩

def inOrder (triggers : List Trigger) : List Moment :=
  triggers.map .started ++ triggers.map .ended

theorem moments_perm (moments : List Moment) :
    moments.Perm ((startedIn moments).map .started ++ (endedIn moments).map .ended) := by
  induction moments with
  | nil => exact .refl _
  | cons moment rest ih =>
      cases moment with
      | started trigger => exact ih.cons _
      | ended trigger => exact (ih.cons _).trans List.perm_middle.symm

theorem carries_in_order {executor : Executor ω} {after : ω} {moments : List Moment} {carried : List Carried}
    (carries : executor.Carries outside moments carried after) : moments.Perm (inOrder (carried.map (·.1))) := by
  have ended : (endedIn moments).Perm (carried.map (·.1)) := by
    rw [← executor.play_ended moments outside]
    exact carries.played.map _
  exact (moments_perm moments).trans ((carries.started.map _).append (ended.map _))

theorem unordered_signals (unordered : Unordered engine.executor) :
    engine.Signals artifacts mode user outside fun done =>
      engine.executor.cancelled
        (engine.executor.play (inOrder ((artifacts.take done).map (triggerFor mode user))) outside).2 := by
  intro schedule run done divides bound _
  obtain ⟨calls, left, covers, report⟩ := (engine.onSchedule schedule).fan_out_calls artifacts mode user outside
  have attempted : run.report.attempted = calls.length := (tells_of_report report).attempted
  rw [attempted] at bound
  have begins : ((calls.take done).map fun call => (triggerFor mode user call.1, call.2)).map (·.1) =
      (artifacts.take done).map (triggerFor mode user) := by
    rw [covers.order, List.take_append_of_le_length (by rwa [List.length_map]), ← List.map_take, List.map_map,
      List.map_map]
    rfl
  have moments := carries_in_order (covers.standing done divides bound)
  rw [begins] at moments
  exact unordered _ _ outside moments

theorem started_taken (engine : Engine ω) (artifacts : List Artifact) (mode : TriggerMode) (user : UserId)
    (outside : ω) :
    let run := engine.fanOut artifacts mode user outside
    (startedIn run.moments).Perm ((artifacts.take run.report.attempted).map (triggerFor mode user)) := by
  intro run
  obtain ⟨calls, left, covers, report⟩ := engine.fan_out_calls artifacts mode user outside
  have attempted : run.report.attempted = calls.length := (tells_of_report report).attempted
  rw [attempted, covers.order, List.take_left' (List.length_map _), List.map_map]
  exact covers.started

theorem started_iff_attempted {first second : Engine ω} :
    let run := first.fanOut artifacts mode user outside
    let other := second.fanOut artifacts mode user outside
    (startedIn other.moments).Perm (startedIn run.moments) ↔ other.report.attempted = run.report.attempted := by
  intro run other
  have own : (startedIn run.moments).Perm _ := started_taken first artifacts mode user outside
  have others : (startedIn other.moments).Perm _ := started_taken second artifacts mode user outside
  constructor
  · intro same
    have length := ((others.symm.trans same).trans own).length_eq
    have within := (run_stops first artifacts mode user outside).within
    have withinToo := (run_stops second artifacts mode user outside).within
    rwa [List.length_map, List.length_map, List.length_take_of_le within, List.length_take_of_le withinToo] at length
  · intro same
    rw [same] at others
    exact others.trans own.symm

theorem settled_report {view : String → String} {outcome : Artifact → Outcome}
    (settled : engine.Settled artifacts mode user outside view outcome) (schedule : List Choices) :
    let run := (engine.onSchedule schedule).fanOut artifacts mode user outside
    run.report.seen view =
      { ({} : FanOutReport).including
          ((artifacts.take run.report.attempted).map fun artifact => (triggerFor mode user artifact, outcome artifact)) with
        cancelled := decide (run.report.attempted < artifacts.length) } := by
  intro run
  obtain ⟨calls, left, covers, report⟩ := (engine.onSchedule schedule).fan_out_calls artifacts mode user outside
  have attempted : run.report.attempted = calls.length := (tells_of_report report).attempted
  have made : (artifacts.take calls.length).map (fun artifact => (triggerFor mode user artifact, outcome artifact)) =
      (calls.map fun call => (triggerFor mode user call.1, call.2)).map fun call => (call.1, call.2.seen view) := by
    rw [covers.order, List.take_left' (List.length_map _), List.map_map, List.map_map]
    apply List.map_congr_left
    intro call member
    have said := settled schedule _ (covers.ended.mem_iff.mpr (List.mem_map_of_mem member))
    exact congrArg (Prod.mk _) said.symm
  have stopped : decide (calls.length < artifacts.length) = !left.isEmpty := by
    rw [covers.order, List.length_append, List.length_map]
    cases left <;> simp
  rw [attempted, made, stopped]
  refine (congrArg (FanOutReport.seen view) report).trans ?_
  exact congrArg (fun report : FanOutReport => { report with cancelled := !left.isEmpty })
    (FanOutReport.including_seen view {} _)

theorem settled_of_assigns {view : String → String} {outcome : Artifact → Outcome}
    (assigns : Assigns engine.executor mode user view outcome) :
    engine.Settled artifacts mode user outside view outcome := by
  intro schedule run call member
  obtain ⟨calls, left, covers, _⟩ := (engine.onSchedule schedule).fan_out_calls artifacts mode user outside
  obtain ⟨made, _, rfl⟩ := List.mem_map.mp (covers.ended.mem_iff.mp member)
  obtain ⟨world, said⟩ := Executor.mem_play member
  exact (congrArg (Outcome.seen view) said).trans (assigns _ world)

end Reports

/-- Whatever the size of the batches and however their tasks are scheduled: at every time no more triggers are in
flight than a batch holds, and when one starts, all of the earlier batches have ended. If what comes of an artifact is
the same in every schedule, so is the report, unless the signal leaves out other artifacts. It leaves out the same if
each look at it finds the same, as it does if the signal does not depend on the order in which triggers start and end,
or if there is none. The view is `id` where the texts of panics are the same, and hides them where they are not. -/
theorem fan_out_any_schedule (engine : Engine ω) (artifacts : List Artifact) (mode : TriggerMode) (user : UserId)
    (outside : ω) :
    let run := engine.fanOut artifacts mode user outside
    (∀ earlier, earlier <+: run.moments → (endedIn earlier ++ inFlight earlier).Perm (startedIn earlier) ∧
      (inFlight earlier).length ≤ max engine.batchSize 1) ∧
    (∀ earlier trigger later, run.moments = earlier ++ .started trigger :: later →
      ∃ before batch after,
        Pieces (max engine.batchSize 1) (artifacts.map (triggerFor mode user)) (before ++ batch :: after) ∧
        StartsIn before batch earlier trigger) ∧
    ∀ view outcome, engine.Settled artifacts mode user outside view outcome → ∀ schedule,
      let other := (engine.onSchedule schedule).fanOut artifacts mode user outside
      (other.report.seen view = run.report.seen view ↔ (startedIn other.moments).Perm (startedIn run.moments)) ∧
      (∀ signal, engine.Signals artifacts mode user outside signal → other.report.seen view = run.report.seen view) ∧
      (Unordered engine.executor → other.report.seen view = run.report.seen view) := by
  intro run
  obtain ⟨done, left, cuts, inTurn⟩ := engine.run_triggers_in_turn (artifacts.map (triggerFor mode user)) {} outside
  have pieces := batches_pieces engine.batchSize (artifacts.map (triggerFor mode user))
  rw [cuts] at pieces
  refine ⟨?_, ?_, ?_⟩
  · intro earlier first
    have within : ∀ batch ∈ done, batch.length ≤ max engine.batchSize 1 := fun batch member =>
      pieces.within batch (List.mem_append_left _ member)
    obtain ⟨ended, bound⟩ := in_turn_bounded inTurn within first
    have flight := flight_perm ended
    have counted := flight.length_eq
    rw [List.length_append] at counted
    exact ⟨flight, by omega⟩
  · intro earlier trigger later split
    obtain ⟨before, batch, after, rfl, starts⟩ := in_turn_start inTurn split
    rw [List.append_assoc, List.cons_append] at pieces
    exact ⟨before, batch, after ++ left, pieces, starts⟩
  · intro view outcome settled schedule other
    have own : run.report.seen view = _ := settled_report settled engine.schedule
    have others : other.report.seen view = _ := settled_report settled schedule
    have counted : other.report.attempted = run.report.attempted → other.report.seen view = run.report.seen view := by
      intro same
      rw [others, own, same]
      rfl
    have found : ∀ signal, engine.Signals artifacts mode user outside signal →
        other.report.seen view = run.report.seen view := fun signal signals =>
      counted (stops_once (signals_attempted signals schedule) (signals_attempted signals engine.schedule))
    refine ⟨?_, found, fun unordered => found _ (unordered_signals unordered)⟩
    constructor
    · intro same
      have attempted := congrArg FanOutReport.attempted same
      exact started_iff_attempted.mpr attempted
    · intro same
      exact counted (started_iff_attempted.mp same)

-- What is said of a panic tells how many tasks had started.
def numbered (script : Script) : Executor (Nat × Bool) where
  cancelled world := world.2
  start trigger world := (world.1 + 1, world.2 || script.cancelOn.contains trigger.scriptKey)
  finish trigger world :=
    let outcome := if script.panics trigger then .panicked (toString world.1 ++ " started")
      else script.outcome trigger
    (outcome, world)

theorem numbered_signal (script : Script) (moments : List Moment) (world : Nat × Bool) :
    ((numbered script).play moments world).2.2 =
      (world.2 || (startedIn moments).any fun trigger => script.cancelOn.contains trigger.scriptKey) := by
  induction moments generalizing world with
  | nil => exact (Bool.or_false _).symm
  | cons moment rest ih =>
      cases moment with
      | started trigger => exact (ih _).trans (Bool.or_assoc _ _ _)
      | ended trigger => exact ih _

theorem numbered_unordered (script : Script) : Unordered (numbered script) := by
  intro moments others world same
  exact (numbered_signal script moments world).trans
    ((congrArg (world.2 || ·) (same.filterMap _).any_eq).trans (numbered_signal script others world).symm)

theorem numbered_assigns (script : Script) (mode : TriggerMode) (user : UserId) :
    Assigns (numbered script) mode user (fun _ => "")
      fun artifact => (script.outcome (triggerFor mode user artifact)).seen fun _ => "" := by
  intro artifact world
  by_cases panics : script.panics (triggerFor mode user artifact) = true
  · simp only [numbered, Script.outcome, if_pos panics, Outcome.seen]
  · simp only [numbered, if_neg panics]

theorem sample_any_schedule :
    let engine : Engine (Nat × Bool) := { executor := numbered sampleScript, batchSize := 2 }
    let run := engine.fanOut (sampleArtifacts 5) .automatic Fixtures.testUser (0, false)
    let other := (engine.onSchedule [[0, 1]]).fanOut (sampleArtifacts 5) .automatic Fixtures.testUser (0, false)
    (startedIn other.moments).length = 4 ∧ (inFlight (other.moments.take 6)).length ≤ 2 ∧
      other.report.seen (fun _ => "") = run.report.seen (fun _ => "") ∧ other.report ≠ run.report ∧
      run.report.attempted = 4 ∧ run.report.failures.length = 2 ∧ run.report.cancelled = true := by
  intro engine run other
  obtain ⟨inFlight, _, _⟩ := fan_out_any_schedule (engine.onSchedule [[0, 1]]) (sampleArtifacts 5) .automatic
    Fixtures.testUser (0, false)
  obtain ⟨_, _, reports⟩ := fan_out_any_schedule engine (sampleArtifacts 5) .automatic Fixtures.testUser (0, false)
  have assigns := numbered_assigns sampleScript .automatic Fixtures.testUser
  obtain ⟨_, _, same⟩ := reports _ _ (settled_of_assigns assigns) [[0, 1]]
  refine ⟨?_, (inFlight (other.moments.take 6) (List.take_prefix 6 _)).2, same (numbered_unordered sampleScript), ?_⟩
  · decide +kernel
  · decide +kernel

end Engine

end Delivery
