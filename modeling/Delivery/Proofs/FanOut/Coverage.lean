import Delivery.Proofs.FanOut.Reports
import Delivery.Rehearsal.Samples
import Delivery.Rehearsal.Script
set_option autoImplicit false

namespace Delivery

variable {ω : Type}

theorem count_carried (carried : List Carried) :
    carried.length = carried.countP isSuccess + (carried.filterMap errorOf).length := by
  induction carried with
  | nil => rfl
  | cons call rest ih =>
      obtain ⟨trigger, outcome⟩ := call
      rw [List.length_cons, ih, List.countP_cons, List.filterMap_cons]
      cases outcome with
      | succeeded =>
          simp [isSuccess, error_of_success]
          omega
      | failed error =>
          simp [isSuccess, error_of_failure]
          omega
      | panicked reason =>
          simp [isSuccess, error_of_panic]
          omega

theorem errors_none_iff (carried : List Carried) :
    carried.filterMap errorOf = [] ↔ ∀ call ∈ carried, call.2 = .succeeded := by
  rw [List.filterMap_eq_nil_iff]
  constructor
  · intro none call member
    exact succeeded_of_no_error (none call member)
  · rintro each ⟨trigger, outcome⟩ member
    obtain rfl : outcome = .succeeded := each _ member
    exact error_of_success trigger

namespace Executor

theorem play_length (executor : Executor ω) (moments : List Moment) (outside : ω) :
    moments.length = (startedIn moments).length + (executor.play moments outside).1.length := by
  induction moments generalizing outside with
  | nil => rfl
  | cons moment rest ih =>
      cases moment with
      | started trigger =>
          have later := ih (executor.start trigger outside)
          simp only [startedIn, List.filterMap_cons, Moment.started?, play, List.length_cons] at later ⊢
          omega
      | ended trigger =>
          have later := ih (executor.finish trigger outside).2
          simp only [startedIn, List.filterMap_cons, Moment.started?, play, List.length_cons] at later ⊢
          omega

theorem mem_play {executor : Executor ω} {moments : List Moment} {outside : ω} {call : Carried}
    (member : call ∈ (executor.play moments outside).1) : ∃ world, call.2 = (executor.finish call.1 world).1 := by
  induction moments generalizing outside with
  | nil => cases member
  | cons moment rest ih =>
      cases moment with
      | started trigger => exact ih member
      | ended trigger =>
          cases member with
          | head => exact ⟨outside, rfl⟩
          | tail _ later => exact ih later

def standing (executor : Executor ω) (moments : List Moment) (outside : ω) (done : Nat) : ω :=
  (executor.play (moments.take (2 * done)) outside).2

section Carrying

variable {executor : Executor ω} {outside middle after : ω} {moments first second : List Moment}
  {carried : List Carried}

theorem carries_length (carries : executor.Carries outside moments carried after) :
    moments.length = 2 * carried.length := by
  have starts := carries.started.length_eq
  have ends := carries.played.length_eq
  have all := play_length executor moments outside
  rw [List.length_map] at starts
  omega

theorem take_carried (carries : executor.Carries outside first carried middle) (more : Nat) :
    (first ++ second).take (2 * (carried.length + more)) = first ++ second.take (2 * more) := by
  have length := carries_length carries
  rw [List.take_append, List.take_of_length_le (by omega), length]
  congr 2
  omega

theorem standing_after (carries : executor.Carries outside first carried middle) (more : Nat) :
    executor.standing (first ++ second) outside (carried.length + more) = executor.standing second middle more := by
  rw [standing, take_carried carries, play_append, carries.outside, standing]

end Carrying

end Executor

namespace Engine

open Executor

structure Paced (executor : Executor ω) (size : Nat) (outside : ω) (moments : List Moment) (carried : List Carried)
    (left : List Trigger) : Prop where
  whole : left = [] ∨ size ∣ carried.length
  standing : ∀ done, size ∣ done → done ≤ carried.length → executor.Carries outside (moments.take (2 * done))
    (carried.take done) (executor.standing moments outside done)
  quiet : ∀ done, size ∣ done → done < carried.length →
    executor.cancelled (executor.standing moments outside done) = false

theorem paced_none (executor : Executor ω) (size : Nat) (outside : ω) (left : List Trigger) :
    Paced executor size outside [] [] left := by
  constructor
  · exact .inr (Nat.dvd_zero size)
  · intro done _ _
    rw [List.take_nil, List.take_nil, Executor.standing, List.take_nil]
    exact carries_none executor outside
  · intro done _ less
    exact absurd less (Nat.not_lt_zero done)

theorem paced_batch {executor : Executor ω} {size : Nat} {outside middle : ω} {first second : List Moment}
    {batch later : List Carried} {left : List Trigger} (quiet : executor.cancelled outside = false)
    (carries : executor.Carries outside first batch middle) (atMost : batch.length ≤ size)
    (last : batch.length = size ∨ later = [] ∧ left = []) (rest : Paced executor size middle second later left) :
    Paced executor size outside (first ++ second) (batch ++ later) left := by
  have full : ∀ done, size ∣ done → done ≤ (batch ++ later).length →
      done = 0 ∨ ∃ more, size ∣ more ∧ more ≤ later.length ∧ batch.length = size ∧ done = batch.length + more := by
    intro done divides bound
    rw [List.length_append] at bound
    rcases Nat.eq_zero_or_pos done with none | some
    · exact .inl none
    · have reaches : size ≤ done := Nat.le_of_dvd some divides
      have whole : batch.length = size := by
        rcases last with whole | ⟨rfl, _⟩
        · exact whole
        · exact Nat.le_antisymm atMost (Nat.le_trans reaches bound)
      have split : done = batch.length + (done - size) := by omega
      exact .inr ⟨done - size, Nat.dvd_sub divides (Nat.dvd_refl size), by omega, whole, split⟩
  constructor
  · rcases last with whole | ⟨_, none⟩
    · rcases rest.whole with none | divides
      · exact .inl none
      · rw [List.length_append, whole]
        exact .inr (Nat.dvd_add (Nat.dvd_refl size) divides)
    · exact .inl none
  · intro done divides bound
    rcases full done divides bound with rfl | ⟨more, cuts, within, _, rfl⟩
    · exact carries_none executor outside
    · rw [standing_after carries, take_carried carries, List.take_length_add_append]
      exact carries_append carries (rest.standing more cuts within)
  · intro done divides bound
    rcases full done divides (Nat.le_of_lt bound) with rfl | ⟨more, cuts, _, _, rfl⟩
    · exact quiet
    · rw [standing_after carries]
      rw [List.length_append] at bound
      exact rest.quiet more cuts (by omega)

theorem ran_paced {engine : Engine ω} {size : Nat} (fuel : Nat) {items : List Trigger} {run after : FanOutRun ω}
    {moments : List Moment} {done : List (List Carried)} {left : List (List Trigger)}
    (ran : engine.Ran (cut size fuel items) run moments done left after) :
    Paced engine.executor size run.outside moments done.flatten left.flatten := by
  induction fuel generalizing items run moments done with
  | zero =>
      cases ran with
      | finished => exact paced_none _ _ _ _
  | succ fuel ih =>
      cases items with
      | nil =>
          cases ran with
          | finished => exact paced_none _ _ _ _
      | cons item others =>
          cases ran with
          | stopped signal => exact paced_none _ _ _ _
          | @batch _ _ _ _ middle _ first second batch later quiet order _ carries _ rest =>
              have length : batch.length = min size (item :: others).length := by
                rw [← List.length_take, ← order, List.length_map]
              have atMost : batch.length ≤ size := length ▸ Nat.min_le_left _ _
              by_cases whole : batch.length = size
              · exact paced_batch quiet carries atMost (.inl whole) (ih rest)
              · -- The list is shorter than the size, so nothing comes after this batch.
                have drained : (item :: others).drop size = [] := List.drop_eq_nil_of_le (by omega)
                have paced := ih rest
                rw [drained, cut_none] at rest
                cases rest with
                | finished => exact paced_batch quiet carries atMost (.inr ⟨rfl, rfl⟩) paced

theorem run_triggers_paced (engine : Engine ω) (triggers : List Trigger) (report : FanOutReport) (outside : ω) :
    ∃ moments carried left, (engine.runTriggers triggers report outside).moments = moments ∧
      engine.executor.Carries outside moments carried (engine.runTriggers triggers report outside).outside ∧
      Paced engine.executor (max engine.batchSize 1) outside moments carried left ∧
      engine.FansOut triggers { outside, report } (engine.runTriggers triggers report outside) carried left := by
  obtain ⟨moments, done, left, ran⟩ :=
    run_batches_ran engine engine.schedule (batches engine.batchSize triggers) { outside, report }
  obtain ⟨added, carries, fans⟩ := ran_fans_out (fun _ member => batches_nonempty member) ran
  rw [batches_flatten] at fans
  exact ⟨moments, done.flatten, left.flatten, added, carries, ran_paced _ ran, fans⟩

theorem left_iff_signal {engine : Engine ω} {triggers left : List Trigger} {before after : FanOutRun ω} {size : Nat}
    {moments : List Moment} {carried : List Carried}
    (carries : engine.executor.Carries before.outside moments carried after.outside)
    (paced : Paced engine.executor size before.outside moments carried left)
    (fans : engine.FansOut triggers before after carried left) :
    left ≠ [] ↔ ∃ done, size ∣ done ∧ done ≤ carried.length ∧ done < triggers.length ∧
      engine.executor.cancelled (engine.executor.standing moments before.outside done) = true := by
  have total : triggers.length = carried.length + left.length := by
    rw [fans.triggers, List.length_append, List.length_map]
  constructor
  · intro some
    have fewer : 0 < left.length := List.length_pos_iff.mpr some
    have divides : size ∣ carried.length := paced.whole.resolve_left some
    have stands : engine.executor.standing moments before.outside carried.length = after.outside := by
      rw [Executor.standing, ← carries_length carries, List.take_length]
      exact carries.outside
    refine ⟨carried.length, divides, Nat.le_refl _, by omega, ?_⟩
    rw [stands]
    exact fans.stopped some
  · rintro ⟨done, divides, bound, within, signal⟩ rfl
    rw [List.length_nil] at total
    have quiet := paced.quiet done divides (by omega)
    rw [signal] at quiet
    cases quiet

end Engine

theorem calls_of_carried {α : Type} (toTrigger : α → Trigger) {items : List α} {carried : List Carried}
    {left : List Trigger} (order : items.map toTrigger = carried.map (·.1) ++ left) :
    ∃ (calls : List (α × Outcome)) (rest : List α), items = calls.map (·.1) ++ rest ∧
      carried = calls.map (fun call => (toTrigger call.1, call.2)) ∧ left = rest.map toTrigger := by
  obtain ⟨first, rest, rfl, triggered, untouched⟩ := List.map_eq_append_iff.mp order
  have length : first.length = (carried.map (·.2)).length := by
    rw [List.length_map, ← List.length_map (f := toTrigger), triggered, List.length_map]
  refine ⟨first.zip (carried.map (·.2)), rest, ?_, ?_, untouched.symm⟩
  · rw [List.map_fst_zip (Nat.le_of_eq length)]
  · have each : (first.map toTrigger).zip ((carried.map (·.2)).map id) = _ := List.zip_map
    rw [triggered, List.map_id, List.zip_map'] at each
    exact (List.map_id' carried).symm.trans each

def failuresOf : List (Artifact × Outcome) → List TriggerError
  | [] => []
  | (_, .succeeded) :: later => failuresOf later
  | (_, .failed error) :: later => error :: failuresOf later
  | (artifact, .panicked reason) :: later => .aborted artifact.id reason :: failuresOf later

namespace FanOutReport

def counting (report : FanOutReport) (artifact : Artifact) (outcome : Outcome) : FanOutReport :=
  let attempted := report.attempted + 1
  match outcome with
  | .succeeded => { report with attempted, succeeded := report.succeeded + 1 }
  | .failed error => { report with attempted, failures := report.failures ++ [error] }
  | .panicked reason => { report with attempted, failures := report.failures ++ [.aborted artifact.id reason] }

theorem counting_including (report : FanOutReport) (trigger : Trigger) (outcome : Outcome) :
    report.counting trigger.artifact outcome = report.including [(trigger, outcome)] := by
  rw [← absorb_including]
  cases outcome with
  | succeeded => rw [error_of_success, counting, absorb]
  | failed error => rw [error_of_failure, counting, absorb]
  | panicked reason => rw [error_of_panic, counting, absorb]

end FanOutReport

namespace Engine

open Executor

def oneByOne (executor : Executor ω) : List Trigger → FanOutReport → ω → FanOutReport
  | [], report, _ => report
  | trigger :: later, report, outside =>
      let ended := executor.finish trigger (executor.start trigger outside)
      oneByOne executor later (report.counting trigger.artifact ended.1) ended.2

def triggerFor (mode : TriggerMode) (user : UserId) (artifact : Artifact) : Trigger :=
  .internal artifact mode.isManual false user

structure Covers (engine : Engine ω) (artifacts : List Artifact) (mode : TriggerMode) (user : UserId) (outside : ω)
    (moments : List Moment) (calls : List (Artifact × Outcome)) (left : List Artifact) : Prop where
  order : artifacts = calls.map (·.1) ++ left
  started : (startedIn moments).Perm (calls.map fun call => triggerFor mode user call.1)
  ended : (engine.executor.play moments outside).1.Perm (calls.map fun call => (triggerFor mode user call.1, call.2))
  whole : left = [] ∨ max engine.batchSize 1 ∣ calls.length
  -- When as many calls are over as batches hold, they are the first ones and no other has started.
  standing : ∀ done, max engine.batchSize 1 ∣ done → done ≤ calls.length →
    engine.executor.Carries outside (moments.take (2 * done))
      ((calls.take done).map fun call => (triggerFor mode user call.1, call.2))
      (engine.executor.standing moments outside done)
  signal : left ≠ [] ↔ ∃ done, max engine.batchSize 1 ∣ done ∧ done ≤ calls.length ∧ done < artifacts.length ∧
    engine.executor.cancelled (engine.executor.standing moments outside done) = true

end Engine

theorem FanOutReport.failure_none_iff (report : FanOutReport) : report.failure? = none ↔ report.failures = [] := by
  simp [FanOutReport.failure?]

structure FanOutReport.Tells (report : FanOutReport) (calls : List (Artifact × Outcome)) : Prop where
  attempted : report.attempted = calls.length
  counted : report.attempted = report.succeeded + report.failures.length
  failures : report.failures = failuresOf calls
  failure : report.failure? = none ↔ ∀ call ∈ calls, call.2 = .succeeded

namespace Engine

theorem covers_of_paced {engine : Engine ω} {artifacts : List Artifact} {mode : TriggerMode} {user : UserId}
    {before after : FanOutRun ω} {moments : List Moment} {calls : List (Artifact × Outcome)} {left : List Artifact}
    (order : artifacts = calls.map (·.1) ++ left)
    (carries : engine.executor.Carries before.outside moments
      (calls.map fun call => (triggerFor mode user call.1, call.2)) after.outside)
    (paced : Paced engine.executor (max engine.batchSize 1) before.outside moments
      (calls.map fun call => (triggerFor mode user call.1, call.2)) (left.map (triggerFor mode user)))
    (fans : engine.FansOut (artifacts.map (triggerFor mode user)) before after
      (calls.map fun call => (triggerFor mode user call.1, call.2)) (left.map (triggerFor mode user))) :
    engine.Covers artifacts mode user before.outside moments calls left := by
  constructor
  · exact order
  · have started := carries.started
    rwa [List.map_map] at started
  · exact carries.played
  · simpa using paced.whole
  · intro done divides bound
    have stands := paced.standing done divides (by rwa [List.length_map])
    rwa [← List.map_take] at stands
  · simpa using left_iff_signal carries paced fans

theorem failures_of_calls (mode : TriggerMode) (user : UserId) (calls : List (Artifact × Outcome)) :
    (calls.map fun call => (triggerFor mode user call.1, call.2)).filterMap errorOf = failuresOf calls := by
  induction calls with
  | nil => rfl
  | cons call later ih =>
      obtain ⟨artifact, outcome⟩ := call
      rw [List.map_cons, List.filterMap_cons]
      cases outcome with
      | succeeded => rw [error_of_success, failuresOf, ih]
      | failed error => rw [error_of_failure, failuresOf, ih]
      | panicked reason => rw [error_of_panic, failuresOf, ih]; rfl

theorem tells_of_report {report : FanOutReport} {calls : List (Artifact × Outcome)} {mode : TriggerMode}
    {user : UserId} {stopped : Bool} (reported : report =
      { ({} : FanOutReport).including (calls.map fun call => (triggerFor mode user call.1, call.2)) with
        cancelled := stopped }) : report.Tells calls := by
  subst reported
  have failures := failures_of_calls mode user calls
  have all := count_carried (calls.map fun call => (triggerFor mode user call.1, call.2))
  have none := errors_none_iff (calls.map fun call => (triggerFor mode user call.1, call.2))
  rw [List.forall_mem_map, failures] at none
  constructor
  · simp [FanOutReport.including]
  · simp only [FanOutReport.including, Nat.zero_add, List.nil_append]
    exact all
  · simp [FanOutReport.including, failures]
  · rw [FanOutReport.failure_none_iff, FanOutReport.including, List.nil_append, failures]
    exact none

theorem fan_out_calls (engine : Engine ω) (artifacts : List Artifact) (mode : TriggerMode) (user : UserId)
    (outside : ω) :
    let run := engine.fanOut artifacts mode user outside
    ∃ calls left, engine.Covers artifacts mode user outside run.moments calls left ∧
      run.report = { ({} : FanOutReport).including (calls.map fun call => (triggerFor mode user call.1, call.2)) with
        cancelled := !left.isEmpty } := by
  obtain ⟨moments, carried, left, own, carries, paced, fans⟩ :=
    engine.run_triggers_paced (artifacts.map (triggerFor mode user)) {} outside
  obtain ⟨calls, rest, order, rfl, rfl⟩ := calls_of_carried (triggerFor mode user) fans.triggers
  refine ⟨calls, rest, ?_, ?_⟩
  · subst own
    exact covers_of_paced order carries paced fans
  · have report := fans.report
    rw [List.isEmpty_map, Bool.false_or] at report
    exact report

def Assigns (executor : Executor ω) (mode : TriggerMode) (user : UserId) (view : String → String)
    (outcome : Artifact → Outcome) : Prop :=
  ∀ artifact world, (executor.finish (triggerFor mode user artifact) world).1.seen view = outcome artifact

section Assigned

variable {mode : TriggerMode} {user : UserId} {view : String → String} {outcome : Artifact → Outcome}

theorem one_by_one_seen {executor : Executor ω} (assigns : Assigns executor mode user view outcome)
    (artifacts : List Artifact) (report : FanOutReport) (outside : ω) :
    (oneByOne executor (artifacts.map (triggerFor mode user)) report outside).seen view =
      (report.seen view).including
        (artifacts.map fun artifact => (triggerFor mode user artifact, outcome artifact)) := by
  induction artifacts generalizing report outside with
  | nil => exact (FanOutReport.including_none _).symm
  | cons artifact later ih =>
      rw [List.map_cons, oneByOne, ih, FanOutReport.counting_including, FanOutReport.including_seen,
        ← FanOutReport.including_append, List.map_singleton, assigns]
      rfl

theorem whole_report {engine : Engine ω} (assigns : Assigns engine.executor mode user view outcome)
    {artifacts : List Artifact} {outside : ω}
    (whole : (engine.fanOut artifacts mode user outside).report.cancelled = false) :
    (engine.fanOut artifacts mode user outside).report.seen view =
      ({} : FanOutReport).including
        (artifacts.map fun artifact => (triggerFor mode user artifact, outcome artifact)) := by
  obtain ⟨calls, left, covers, report⟩ := engine.fan_out_calls artifacts mode user outside
  rw [report] at whole ⊢
  obtain rfl : left = [] := by simpa using whole
  have outcomes : (calls.map fun call => (triggerFor mode user call.1, call.2)).map
      (fun call => (call.1, call.2.seen view)) =
      artifacts.map fun artifact => (triggerFor mode user artifact, outcome artifact) := by
    rw [covers.order, List.append_nil, List.map_map, List.map_map]
    apply List.map_congr_left
    intro call member
    obtain ⟨world, said⟩ := Executor.mem_play (covers.ended.mem_iff.mpr (List.mem_map_of_mem member))
    exact congrArg (Prod.mk _) ((congrArg (Outcome.seen view) said).trans (assigns call.1 world))
  rw [← outcomes]
  exact FanOutReport.including_seen view {} _

end Assigned

/-- A fan-out triggers the first of the artifacts, each once: all of them, or as many whole batches as were over when
the signal was found where a batch would start. The report counts these calls and gives their errors in order. If it
was not stopped, it says what triggering them one by one says, whatever the size of the batches. With `id` as the view
the texts of panics belong to the outcomes, and the reports are equal; a view that hides them asks only that the same
artifacts panic. -/
theorem fan_out_covers_first (engine : Engine ω) (artifacts : List Artifact) (mode : TriggerMode) (user : UserId)
    (outside : ω) :
    let run := engine.fanOut artifacts mode user outside
    (∃ calls left, engine.Covers artifacts mode user outside run.moments calls left ∧ run.report.Tells calls ∧
      (run.report.cancelled = true ↔ left ≠ [])) ∧
    ∀ view outcome, Assigns engine.executor mode user view outcome → run.report.cancelled = false →
      run.report.seen view = (oneByOne engine.executor (artifacts.map (triggerFor mode user)) {} outside).seen view ∧
      ∀ size schedule elsewhere,
        let other := ({ engine with batchSize := size, schedule } : Engine ω).fanOut artifacts mode user elsewhere
        other.report.cancelled = false → other.report.seen view = run.report.seen view := by
  intro run
  obtain ⟨calls, left, covers, report⟩ := engine.fan_out_calls artifacts mode user outside
  refine ⟨⟨calls, left, covers, tells_of_report report, ?_⟩, ?_⟩
  · rw [report]
    simp
  · intro view outcome assigns whole
    have once : run.report.seen view = _ := whole_report assigns whole
    rw [once]
    refine ⟨(one_by_one_seen assigns artifacts {} outside).symm, ?_⟩
    intro size schedule elsewhere other wholeToo
    let resized : Engine ω := { engine with batchSize := size, schedule }
    have assignsToo : Assigns resized.executor mode user view outcome := assigns
    exact whole_report assignsToo wholeToo

def sampleScript : Script := { panicOn := [2], failArtifacts := [⟨3⟩], cancelOn := [4] }

def sampleEngine : Engine Bool := { executor := sampleScript.executor true, batchSize := 2 }

def sampleArtifacts (count : Nat) : List Artifact :=
  (List.range count).map fun place => Sample.newArtifact.stored (Id.nth (place + 1))

theorem sample_report_one_by_one :
    let triggers := (sampleArtifacts 3).map (triggerFor .automatic Fixtures.testUser)
    let run := sampleEngine.fanOut (sampleArtifacts 3) .automatic Fixtures.testUser false
    run.report = oneByOne sampleEngine.executor triggers {} false ∧
      run.report.failures = [
        .aborted ⟨2⟩ "task <id> panicked with message \"executor panic on 2\"",
        .failed ⟨3⟩ "injected failure"] ∧
      (({ sampleEngine with batchSize := 0 } : Engine Bool).fanOut (sampleArtifacts 3) .automatic Fixtures.testUser
        false).report = run.report := by
  obtain ⟨_, uncancelled⟩ := fan_out_covers_first sampleEngine (sampleArtifacts 3) .automatic Fixtures.testUser false
  have assigns : Assigns sampleEngine.executor .automatic Fixtures.testUser id
      (fun artifact => (sampleScript.outcome (triggerFor .automatic Fixtures.testUser artifact)).seen id) :=
    fun _ _ => rfl
  obtain ⟨same, others⟩ := uncancelled _ _ assigns rfl
  have resized := others 0 [] false rfl
  rw [FanOutReport.seen_id, FanOutReport.seen_id] at same resized
  exact ⟨same, rfl, resized⟩

example : ((sampleEngine.fanOut (sampleArtifacts 5) .automatic Fixtures.testUser false).report.attempted,
    (sampleEngine.fanOut (sampleArtifacts 5) .automatic Fixtures.testUser false).report.cancelled) = (4, true) := by
  rfl

end Engine

end Delivery
