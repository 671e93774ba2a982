import Delivery.Proofs.FanOut.Batches
set_option autoImplicit false

namespace Delivery

variable {ω : Type}

def errorOf (carried : Carried) : Option TriggerError :=
  carried.2.error? carried.1.artifact.id

theorem error_of_success (trigger : Trigger) : errorOf (trigger, .succeeded) = none :=
  rfl

theorem error_of_failure (trigger : Trigger) (error : TriggerError) :
    errorOf (trigger, .failed error) = some error :=
  rfl

theorem error_of_panic (trigger : Trigger) (reason : String) :
    errorOf (trigger, .panicked reason) = some (.aborted trigger.artifact.id reason) :=
  rfl

def isSuccess (carried : Carried) : Bool :=
  carried.2 = .succeeded

theorem some_succeeded_iff {carried : List Carried} :
    0 < carried.countP isSuccess ↔ ∃ trigger, (trigger, Outcome.succeeded) ∈ carried := by
  rw [List.countP_pos_iff]
  constructor
  · rintro ⟨⟨trigger, outcome⟩, member, done⟩
    obtain rfl : outcome = .succeeded := of_decide_eq_true done
    exact ⟨trigger, member⟩
  · rintro ⟨trigger, member⟩
    exact ⟨_, member, rfl⟩

theorem succeeded_of_no_error {carried : Carried} (none : errorOf carried = none) : carried.2 = .succeeded := by
  obtain ⟨trigger, outcome⟩ := carried
  cases outcome with
  | succeeded => rfl
  | failed error =>
      rw [error_of_failure] at none
      cases none
  | panicked reason =>
      rw [error_of_panic] at none
      cases none

theorem none_carried {carried : List Carried} (noSuccess : carried.countP isSuccess = 0)
    (noError : carried.filterMap errorOf = []) : carried = [] := by
  cases carried with
  | nil => rfl
  | cons call rest =>
      have clean : errorOf call = none := List.filterMap_eq_nil_iff.mp noError call List.mem_cons_self
      have done : call.2 = .succeeded := succeeded_of_no_error clean
      have some : 0 < (call :: rest).countP isSuccess :=
        some_succeeded_iff.mpr ⟨call.1, done ▸ List.mem_cons_self⟩
      omega

section Seen

-- What is seen of the text with which a trigger was aborted: all of it, nothing, or something in between.
variable (view : String → String)

def TriggerError.seen : TriggerError → TriggerError
  | .aborted artifact reason => .aborted artifact (view reason)
  | error => error

def Outcome.seen : Outcome → Outcome
  | .succeeded => .succeeded
  | .failed error => .failed (error.seen view)
  | .panicked reason => .panicked (view reason)

def FanOutReport.seen (report : FanOutReport) : FanOutReport :=
  { report with failures := report.failures.map (TriggerError.seen view) }

theorem TriggerError.seen_id (error : TriggerError) : error.seen id = error := by
  cases error <;> rfl

theorem FanOutReport.seen_id (report : FanOutReport) : report.seen id = report := by
  have each : report.failures.map (TriggerError.seen id) = report.failures :=
    List.map_id'' TriggerError.seen_id report.failures
  rw [FanOutReport.seen, each]

theorem error_seen (trigger : Trigger) (outcome : Outcome) :
    errorOf (trigger, outcome.seen view) = (errorOf (trigger, outcome)).map (TriggerError.seen view) := by
  cases outcome <;> rfl

theorem success_seen (trigger : Trigger) (outcome : Outcome) :
    isSuccess (trigger, outcome.seen view) = isSuccess (trigger, outcome) := by
  cases outcome <;> rfl

end Seen

namespace FanOutReport

def including (report : FanOutReport) (carried : List Carried) : FanOutReport :=
  { report with
    attempted := report.attempted + carried.length
    succeeded := report.succeeded + carried.countP isSuccess
    failures := report.failures ++ carried.filterMap errorOf }

theorem including_none (report : FanOutReport) : report.including [] = report := by
  rw [including, List.filterMap_nil, List.append_nil]
  rfl

theorem including_append (report : FanOutReport) (first second : List Carried) :
    report.including (first ++ second) = (report.including first).including second := by
  simp only [including, List.length_append, List.countP_append, List.filterMap_append, Nat.add_assoc,
    List.append_assoc]

theorem absorb_including (report : FanOutReport) (carried : Carried) :
    report.absorb (errorOf carried) = report.including [carried] := by
  obtain ⟨trigger, outcome⟩ := carried
  cases outcome with
  | succeeded =>
      exact congrArg (fun failures => { report.including [(trigger, .succeeded)] with failures })
        (List.append_nil _).symm
  | failed error => rfl
  | panicked message => rfl

theorem including_seen (view : String → String) (report : FanOutReport) (carried : List Carried) :
    (report.including carried).seen view =
      (report.seen view).including (carried.map fun call => (call.1, call.2.seen view)) := by
  have counted : (carried.map fun call => (call.1, call.2.seen view)).countP isSuccess = carried.countP isSuccess := by
    rw [List.countP_map]
    exact List.countP_congr fun call _ => by rw [Function.comp_apply, success_seen]
  have errors : (carried.map fun call => (call.1, call.2.seen view)).filterMap errorOf =
      (carried.filterMap errorOf).map (TriggerError.seen view) := by
    rw [List.filterMap_map, List.map_filterMap]
    exact List.filterMap_congr fun call _ => error_seen view call.1 call.2
  rw [including, seen, List.map_append, including, List.length_map, counted, errors]
  rfl

theorem absorb_all (report : FanOutReport) (carried : List Carried) :
    (carried.map errorOf).foldl absorb report = report.including carried := by
  induction carried generalizing report with
  | nil => exact (including_none report).symm
  | cons head rest ih =>
      rw [List.map_cons, List.foldl_cons, absorb_including, ih, ← including_append]
      rfl

end FanOutReport

namespace Engine

section Cuts

variable {α : Type}

theorem cut_flatten {size : Nat} (positive : 0 < size) {fuel : Nat} {items : List α} (enough : items.length ≤ fuel) :
    (cut size fuel items).flatten = items := by
  induction fuel generalizing items with
  | zero =>
      obtain rfl := List.length_eq_zero_iff.mp (Nat.le_zero.mp enough)
      rfl
  | succ fuel ih =>
      cases items with
      | nil => rfl
      | cons item rest =>
          have shorter : ((item :: rest).drop size).length ≤ fuel := by
            rw [List.length_drop]
            rw [List.length_cons] at enough ⊢
            omega
          rw [cut, List.flatten_cons, ih shorter, List.take_append_drop]

theorem cut_nonempty {size : Nat} (positive : 0 < size) {fuel : Nat} {items batch : List α}
    (member : batch ∈ cut size fuel items) : batch ≠ [] := by
  induction fuel generalizing items with
  | zero => cases member
  | succ fuel ih =>
      cases items with
      | nil => cases member
      | cons item rest =>
          rcases List.mem_cons.mp member with rfl | later
          · cases size with
            | zero => cases positive
            | succ size => exact List.cons_ne_nil _ _
          · exact ih later

theorem cut_none (size fuel : Nat) : cut size fuel ([] : List α) = [] := by
  cases fuel with
  | zero => rfl
  | succ fuel => rfl

theorem cut_length {size fuel : Nat} {items batch : List α} (member : batch ∈ cut size fuel items) :
    batch.length ≤ size := by
  induction fuel generalizing items with
  | zero => cases member
  | succ fuel ih =>
      cases items with
      | nil => cases member
      | cons item rest =>
          rcases List.mem_cons.mp member with rfl | later
          · exact List.length_take_le _ _
          · exact ih later

theorem cut_full {size fuel : Nat} {items batch : List α}
    (member : batch ∈ (cut size fuel items).dropLast) : batch.length = size := by
  induction fuel generalizing items with
  | zero => cases member
  | succ fuel ih =>
      cases items with
      | nil => cases member
      | cons item rest =>
          rw [cut] at member
          cases onward : cut size fuel ((item :: rest).drop size) with
          | nil =>
              rw [onward] at member
              cases member
          | cons next others =>
              rw [onward, List.dropLast_cons_cons, ← onward] at member
              rcases List.mem_cons.mp member with rfl | later
              · have more : size < (item :: rest).length := by
                  by_contra fewer
                  rw [List.drop_eq_nil_of_le (by omega), cut_none] at onward
                  cases onward
                exact List.length_take_of_le (Nat.le_of_lt more)
              · exact ih later

theorem batches_flatten (size : Nat) (items : List α) : (batches size items).flatten = items :=
  cut_flatten (Nat.lt_of_lt_of_le Nat.zero_lt_one (Nat.le_max_right _ _)) (Nat.le_refl _)

theorem batches_nonempty {size : Nat} {items batch : List α} (member : batch ∈ batches size items) : batch ≠ [] :=
  cut_nonempty (Nat.lt_of_lt_of_le Nat.zero_lt_one (Nat.le_max_right _ _)) member

structure Pieces (size : Nat) (items : List α) (pieces : List (List α)) : Prop where
  joined : pieces.flatten = items
  nonempty : ∀ piece ∈ pieces, piece ≠ []
  within : ∀ piece ∈ pieces, piece.length ≤ size
  full : ∀ piece ∈ pieces.dropLast, piece.length = size

theorem batches_pieces (size : Nat) (items : List α) : Pieces (max size 1) items (batches size items) where
  joined := batches_flatten size items
  nonempty _ member := batches_nonempty member
  within _ member := cut_length member
  full _ member := cut_full member

end Cuts

-- From one run to a later one the first triggers are carried out. What is left was stopped by the signal.
structure FansOut (engine : Engine ω) (triggers : List Trigger) (before after : FanOutRun ω) (carried : List Carried)
    (left : List Trigger) : Prop where
  triggers : triggers = carried.map (·.1) ++ left
  moments : ∃ moments, after.moments = before.moments ++ moments ∧
    engine.executor.Carries before.outside moments carried after.outside
  report : after.report = { before.report.including carried with
    cancelled := before.report.cancelled || !left.isEmpty }
  stopped : left ≠ [] → engine.executor.cancelled after.outside = true

theorem run_batch_report (engine : Engine ω) (choices : Choices) (triggers : List Trigger) (run : FanOutRun ω) :
    (engine.runBatch choices triggers run).report =
      run.report.including (Batch.carried triggers (Batch.run engine.executor choices triggers run.outside)) :=
  FanOutReport.absorb_all _ _

inductive Ran (engine : Engine ω) : List (List Trigger) → FanOutRun ω → List Moment → List (List Carried) →
    List (List Trigger) → FanOutRun ω → Prop where
  | finished (run : FanOutRun ω) : Ran engine [] run [] [] [] run
  | stopped {triggers : List Trigger} {later : List (List Trigger)} {run : FanOutRun ω}
      (signal : engine.executor.cancelled run.outside = true) :
      Ran engine (triggers :: later) run [] [] (triggers :: later)
        { run with report := { run.report with cancelled := true } }
  | batch {triggers : List Trigger} {later left : List (List Trigger)} {run middle after : FanOutRun ω}
      {moments others : List Moment} {carried : List Carried} {done : List (List Carried)}
      (quiet : engine.executor.cancelled run.outside = false) (order : carried.map (·.1) = triggers)
      (added : middle.moments = run.moments ++ moments)
      (carries : engine.executor.Carries run.outside moments carried middle.outside)
      (report : middle.report = run.report.including carried)
      (rest : Ran engine later middle others done left after) :
      Ran engine (triggers :: later) run (moments ++ others) (carried :: done) left after

theorem run_batches_ran (engine : Engine ω) (schedule : List Choices) (cuts : List (List Trigger))
    (run : FanOutRun ω) :
    ∃ moments done left, engine.Ran cuts run moments done left (engine.runBatches schedule cuts run) := by
  induction cuts generalizing schedule run with
  | nil => exact ⟨[], [], [], .finished run⟩
  | cons triggers later ih =>
      rw [runBatches]
      split
      next signal => exact ⟨[], [], triggers :: later, .stopped signal⟩
      next quiet =>
        obtain ⟨order, carries⟩ := Batch.run_carries engine.executor (schedule.headD []) triggers run.outside
        obtain ⟨others, done, left, rest⟩ := ih schedule.tail (engine.runBatch (schedule.headD []) triggers run)
        refine ⟨_, _, left, .batch ?_ order rfl carries (run_batch_report engine _ triggers run) rest⟩
        simpa using quiet

theorem ran_fans_out {engine : Engine ω} {cuts left : List (List Trigger)} {run after : FanOutRun ω}
    {moments : List Moment} {done : List (List Carried)} (nonempty : ∀ triggers ∈ cuts, triggers ≠ [])
    (ran : engine.Ran cuts run moments done left after) :
    after.moments = run.moments ++ moments ∧ engine.executor.Carries run.outside moments done.flatten after.outside ∧
      engine.FansOut cuts.flatten run after done.flatten left.flatten := by
  induction ran with
  | finished run =>
      have carries := Executor.carries_none engine.executor run.outside
      refine ⟨(List.append_nil _).symm, carries, rfl, ⟨[], (List.append_nil _).symm, carries⟩, ?_, nofun⟩
      simp [FanOutReport.including_none]
  | @stopped triggers later run signal =>
      have carries := Executor.carries_none engine.executor run.outside
      refine ⟨(List.append_nil _).symm, carries, rfl, ⟨[], (List.append_nil _).symm, carries⟩, ?_, fun _ => signal⟩
      have some : triggers ≠ [] := nonempty triggers List.mem_cons_self
      simp [FanOutReport.including_none, some]
  | @batch triggers later left run middle after moments others carried done _ order added carries report _ ih =>
      obtain ⟨rest, further, split, _, counted, stopped⟩ :=
        ih fun triggers member => nonempty triggers (List.mem_cons_of_mem _ member)
      have whole := Executor.carries_append carries further
      have all : after.moments = run.moments ++ (moments ++ others) := by
        rw [rest, added, List.append_assoc]
      refine ⟨all, whole, ?_, ⟨_, all, whole⟩, ?_, stopped⟩
      · rw [List.flatten_cons, List.flatten_cons, List.map_append, order, split, List.append_assoc]
      · rw [counted, report, List.flatten_cons, FanOutReport.including_append]
        rfl

theorem run_batches_fan_out (engine : Engine ω) (schedule : List Choices) {cuts : List (List Trigger)}
    (nonempty : ∀ triggers ∈ cuts, triggers ≠ []) (run : FanOutRun ω) :
    ∃ carried left, engine.FansOut cuts.flatten run (engine.runBatches schedule cuts run) carried left := by
  obtain ⟨moments, done, left, ran⟩ := run_batches_ran engine schedule cuts run
  exact ⟨_, _, (ran_fans_out nonempty ran).2.2⟩

theorem run_triggers_fan_out (engine : Engine ω) (triggers : List Trigger) (report : FanOutReport) (outside : ω) :
    ∃ carried left,
      engine.FansOut triggers { outside, report } (engine.runTriggers triggers report outside) carried left := by
  have nonempty : ∀ batch ∈ batches engine.batchSize triggers, batch ≠ [] := fun _ member => batches_nonempty member
  have cuts := run_batches_fan_out engine engine.schedule nonempty { outside, report }
  rwa [batches_flatten] at cuts

theorem run_triggers_started (engine : Engine ω) (triggers : List Trigger) (report : FanOutReport) (outside : ω) :
    let run := engine.runTriggers triggers report outside
    ∃ left, (startedIn run.moments ++ left).Perm triggers ∧
      run.report.cancelled = (report.cancelled || !left.isEmpty) := by
  obtain ⟨carried, left, order, ⟨moments, added, carries⟩, reported, _⟩ :=
    engine.run_triggers_fan_out triggers report outside
  refine ⟨left, ?_, congrArg (·.cancelled) reported⟩
  rw [List.nil_append] at added
  rw [added, order]
  exact carries.started.append_right left

end Engine

end Delivery
