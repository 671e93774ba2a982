import Delivery.Proofs.Charts.Commands
import Delivery.Proofs.Charts.Marks
import Delivery.Rehearsal.Samples
set_option autoImplicit false

namespace Delivery.Charts

open Store

inductive Step where
  | use (command : Command)
  | storeNew (chart : NewChart)
  | storeAgain (chart : Chart)

namespace Step

def perform (store : Store) : Step → Store
  | .use command => command.perform store
  | .storeNew chart => ((Service.transact fun store => store.createChart chart).run store).2
  | .storeAgain chart => ((Service.transact fun store => store.updateChart chart).run store).2

def Fits (store : Store) : Step → Prop
  | .storeAgain chart => ∀ current, store.charts.get? chart.id = some current → chart.appId = current.appId
  | _ => True

def performAll (store : Store) (steps : List Step) : Store :=
  steps.foldl perform store

def AllFit (store : Store) : List Step → Prop
  | [] => True
  | step :: rest => step.Fits store ∧ AllFit (step.perform store) rest

end Step

def latestId (store : Store) (app : AppId) : Option ChartId :=
  (store.latestChart? app).map (·.id)

def previousId (store : Store) (app : AppId) : Option ChartId :=
  (store.previousChart? app).map (·.id)

structure Flagged (charts : List Chart) : Prop where
  latest : charts ≠ [] → ∃ chart, charts.filter (·.latest) = [chart]
  apart : ∀ chart ∈ charts, ¬(chart.latest = true ∧ chart.previous = true)
  lone : charts.length ≤ 1 → charts.filter (·.previous) = []
  several : 2 ≤ charts.length → ∃ chart, charts.filter (·.previous) = [chart]

section Read

variable {store : Store} {app : AppId} {latest previous : Option ChartId}

theorem filter_charts_of (store : Store) (app : AppId) (flag : Chart → Bool) :
    (store.chartsOf app).filter flag = store.charts.filter fun chart => chart.appId == app && flag chart := by
  rw [chartsOf, Table.filter, Table.filter, List.filter_filter]
  exact List.filter_congr fun chart _ => Bool.and_comm _ _

theorem mem_charts_of {chart : Chart} :
    chart ∈ store.chartsOf app ↔ ∃ key, store.charts.get? key = some chart ∧ chart.appId = app := by
  rw [chartsOf, Table.filter, List.mem_filter, Table.mem_rows]
  simp

theorem flag_filter {flag : Chart → Bool} {pointer : Option ChartId}
    (flags : ∀ {key chart}, store.charts.get? key = some chart → chart.appId = app →
      (flag chart = true ↔ pointer = some key)) {key : ChartId} {chart : Chart} (points : pointer = some key)
    (found : store.charts.get? key = some chart) (own : chart.appId = app) :
    store.charts.filter (fun chart => chart.appId == app && flag chart) = [chart] := by
  refine Table.filter_one found ?_ fun other old there passes => ?_
  · simp [own, (flags found own).mpr points]
  · rw [Bool.and_eq_true, beq_iff_eq] at passes
    have pointed : pointer = some other := (flags there passes.1).mp passes.2
    exact Option.some.inj (pointed.symm.trans points)

theorem flag_filter_none {flag : Chart → Bool}
    (flags : ∀ {key chart}, store.charts.get? key = some chart → chart.appId = app →
      (flag chart = true ↔ (none : Option ChartId) = some key)) :
    store.charts.filter (fun chart => chart.appId == app && flag chart) = [] := by
  refine Table.filter_none fun key chart found => ?_
  by_cases own : chart.appId = app
  · have lowered : flag chart ≠ true := fun raised => nomatch (flags found own).mp raised
    simp [lowered]
  · simp [own]

theorem eq_of_at_most_one {charts : List Chart} (atMostOne : charts.length ≤ 1) {first second : Chart}
    (left : first ∈ charts) (right : second ∈ charts) : first = second := by
  cases charts with
  | nil => cases left
  | cons head rest =>
      have empty : rest = [] := List.length_eq_zero_iff.mp (Nat.le_zero.mp (Nat.le_of_succ_le_succ atMostOne))
      rw [empty, List.mem_singleton] at left right
      exact left.trans right.symm

theorem latest_id_of_marks (filed : ChartsFiled store) (marks : Marks store app latest previous) :
    latestId store app = latest := by
  rw [latestId, latestChart?, Table.find_eq_head]
  cases latest with
  | none => rw [flag_filter_none marks.latestFlag]; rfl
  | some key =>
      obtain ⟨chart, found, own⟩ := marks.latestOwned rfl
      rw [flag_filter marks.latestFlag rfl found own, List.head?_cons, Option.map_some, filed.own found]

theorem previous_id_of_marks (filed : ChartsFiled store) (marks : Marks store app latest previous) :
    previousId store app = previous := by
  rw [previousId, previousChart?, Table.find_eq_head]
  cases previous with
  | none => rw [flag_filter_none marks.previousFlag]; rfl
  | some key =>
      obtain ⟨chart, found, own⟩ := marks.previousOwned rfl
      rw [flag_filter marks.previousFlag rfl found own, List.head?_cons, Option.map_some, filed.own found]

theorem flagged_of_marks (filed : ChartsFiled store) (marks : Marks store app latest previous) :
    Flagged (store.chartsOf app) := by
  constructor
  · intro nonempty
    obtain ⟨chart, member⟩ := List.exists_mem_of_ne_nil _ nonempty
    obtain ⟨key, found, own⟩ := mem_charts_of.mp member
    cases latest with
    | none => exact absurd rfl (marks.someLatest found own)
    | some target =>
        obtain ⟨top, there, owned⟩ := marks.latestOwned rfl
        exact ⟨top, by rw [filter_charts_of, flag_filter marks.latestFlag rfl there owned]⟩
  · rintro chart member ⟨isLatest, isPrevious⟩
    obtain ⟨key, found, own⟩ := mem_charts_of.mp member
    exact marks.apart ((marks.latestFlag found own).mp isLatest) ((marks.previousFlag found own).mp isPrevious)
  · intro atMostOne
    rw [filter_charts_of]
    cases previous with
    | none => exact flag_filter_none marks.previousFlag
    | some older =>
        -- The previous chart and the latest one would be two.
        obtain ⟨old, there, owned⟩ := marks.previousOwned rfl
        cases latest with
        | none => exact absurd rfl (marks.someLatest there owned)
        | some newer =>
            obtain ⟨new, found, own⟩ := marks.latestOwned rfl
            have same : old = new := eq_of_at_most_one atMostOne
              (mem_charts_of.mpr ⟨older, there, owned⟩) (mem_charts_of.mpr ⟨newer, found, own⟩)
            have keys : older = newer := by rw [← filed.own there, same, filed.own found]
            exact absurd (congrArg some keys) (marks.apart rfl)
  · intro several
    rw [filter_charts_of]
    cases previous with
    | some older =>
        obtain ⟨old, there, owned⟩ := marks.previousOwned rfl
        exact ⟨old, flag_filter marks.previousFlag rfl there owned⟩
    | none =>
        -- Without a previous chart all charts are the latest one.
        obtain ⟨chart, member⟩ := List.exists_mem_of_length_pos (Nat.lt_of_lt_of_le Nat.zero_lt_two several)
        obtain ⟨key, found, own⟩ := mem_charts_of.mp member
        have single : store.chartsOf app = [chart] := by
          refine Table.filter_one found (by simp [own]) fun other old there passes => ?_
          have points := marks.lone rfl there (beq_iff_eq.mp passes)
          exact Option.some.inj (points.symm.trans (marks.lone rfl found own))
        rw [single] at several
        simp at several

end Read

inductive Puts (before after : Store) : Prop where
  | nothing (kept : KeepsCharts before after)
  | creates {new : NewChart} {row : Chart} {made : Store} (done : before.createChart new = .ok (row, made))
      (kept : KeepsCharts made after)
  | updates {chart current row : Chart} {made : Store} (found : before.charts.get? chart.id = some current)
      (owner : chart.appId = current.appId) (done : before.updateChart chart = .ok (row, made))
      (kept : KeepsCharts made after)

theorem edited_found {store : Store} {id : ChartId} {current : Chart} (filed : ChartsFiled store)
    (found : store.charts.get? id = some current) (delta : Json) (user : UserId) (now : Instant) :
    store.charts.get? (edited current delta user now).id = some current := by
  have own : current.id = id := filed.own found
  exact (congrArg store.charts.get? own).trans found

theorem edits_puts {before after : Store} {id : ChartId} {delta : Json} {user : UserId} {now : Instant}
    (filed : ChartsFiled before) (edits : Edits id delta user now before after) : Puts before after := by
  obtain ⟨current, row, made, found, done, kept⟩ := edits
  exact .updates (edited_found filed found delta user now) rfl done kept

theorem command_puts {store : Store} (filed : ChartsFiled store) (command : Command) :
    Puts store (command.perform store) := by
  generalize result : command.perform store = after
  have writes : command.Writes store after := result ▸ command_writes store command
  cases writes with
  | nothing _ kept => exact .nothing kept
  | creates created creates =>
      obtain ⟨_, _, _, _, _, _, _, done, kept⟩ := creates
      exact .creates done kept
  | edits edits => exact edits_puts filed edits
  | upgrades upgrades =>
      obtain ⟨_, _, _, _, _, _, _, ⟨_, _, _, _, _, _, _, done, made⟩, kept⟩ := upgrades
      exact .creates done (keeps_charts_trans made kept)

theorem step_puts {store : Store} {step : Step} (filed : ChartsFiled store) (fits : step.Fits store) :
    Puts store (step.perform store) := by
  cases step with
  | use command => exact command_puts filed command
  | storeNew chart =>
      rw [Step.perform, Service.run_transact]
      cases outcome : store.createChart chart with
      | error error => exact .nothing rfl
      | ok pair => exact .creates outcome rfl
  | storeAgain chart =>
      rw [Step.perform, Service.run_transact]
      cases outcome : store.updateChart chart with
      | error error => exact .nothing rfl
      | ok pair =>
          obtain ⟨current, found, _⟩ := update_chart_ok outcome
          exact .updates found (fits current found) outcome rfl

section Put

variable {before after made : Store} {app : AppId} {latest previous : Option ChartId}

theorem puts_filed (puts : Puts before after) (filed : ChartsFiled before) : ChartsFiled after := by
  cases puts with
  | nothing kept => exact keeps_charts_filed kept filed
  | creates done kept =>
      exact keeps_charts_filed kept (created_filed done filed)
  | updates _ _ done kept =>
      exact keeps_charts_filed kept (updated_filed done filed)

theorem puts_count (puts : Puts before after) : before.chartCount ≤ after.chartCount := by
  cases puts with
  | nothing kept => exact Nat.le_of_eq (keeps_charts_count kept).symm
  | creates done kept =>
      obtain ⟨_, _, madeEq⟩ := create_chart_ok done
      rw [keeps_charts_count kept, madeEq]
      exact Nat.le_succ _
  | updates _ _ done kept =>
      obtain ⟨_, _, _, madeEq⟩ := update_chart_ok done
      have same : after.chartCount = before.chartCount := by rw [keeps_charts_count kept, madeEq]
      exact Nat.le_of_eq same.symm

theorem created_fresh {new : NewChart} {row : Chart} (filed : ChartsFiled before)
    (room : before.chartCount + 1 < Id.capacity) (done : before.createChart new = .ok (row, made)) :
    before.charts.get? row.id = none := by
  obtain ⟨rowEq, _, _⟩ := create_chart_ok done
  rw [rowEq]
  exact later_missing filed (Nat.le_refl _) room

theorem created_put {new : NewChart} {row : Chart} (filed : ChartsFiled before)
    (room : before.chartCount + 1 < Id.capacity) (done : before.createChart new = .ok (row, made)) :
    PutLatest before made row.id row := by
  obtain ⟨rowEq, _, _⟩ := create_chart_ok done
  have owner : new.appId = row.appId := by rw [rowEq]; rfl
  exact
    { here := created_here done
      latest := by rw [rowEq]; rfl
      previous := by rw [rowEq]; rfl
      elsewhere := fun different => owner ▸ created_elsewhere done different
      owner := fun found => by rw [created_fresh filed room done] at found; cases found }

theorem created_turns {new : NewChart} {row : Chart} (filed : ChartsFiled before)
    (room : before.chartCount + 1 < Id.capacity) (done : before.createChart new = .ok (row, made))
    (marks : Marks before app latest previous) : latest ≠ some row.id := by
  intro points
  obtain ⟨_, found, _⟩ := marks.latestOwned points
  rw [created_fresh filed room done] at found
  cases found

theorem created_marks {new : NewChart} {row : Chart} (filed : ChartsFiled before)
    (room : before.chartCount + 1 < Id.capacity) (done : before.createChart new = .ok (row, made))
    (marks : Marks before app latest previous) :
    Marks made app latest previous ∨ ∃ target, latest ≠ some target ∧ Marks made app (some target) latest := by
  have put : PutLatest before made row.id row := created_put filed room done
  by_cases own : app = row.appId
  · subst own
    have turns := created_turns filed room done marks
    exact .inr ⟨row.id, turns, put_marks_own filed put turns marks⟩
  · exact .inl (put_marks_other put own marks)

theorem updated_marks {chart current row : Chart} (filed : ChartsFiled before)
    (found : before.charts.get? chart.id = some current) (owner : chart.appId = current.appId)
    (done : before.updateChart chart = .ok (row, made)) (marks : Marks before app latest previous) :
    Marks made app latest previous ∨ ∃ target, latest ≠ some target ∧ Marks made app (some target) latest := by
  -- The chart that is the latest already turns nothing; any other is put as a new one would be.
  cases flag : current.latest with
  | true =>
      exact .inl (rewrite_marks (updated_here done) rfl rfl found owner.symm flag
        (updated_latest_elsewhere done found flag) marks)
  | false =>
      have put : PutLatest before made chart.promoted.id chart.promoted :=
        { here := updated_here done
          latest := rfl
          previous := rfl
          elsewhere := updated_older_elsewhere done found flag
          owner := fun there => by rw [Option.some.inj (there.symm.trans found)]; exact owner.symm }
      by_cases own : app = chart.promoted.appId
      · subst own
        have turns : latest ≠ some chart.promoted.id := by
          intro points
          rw [(marks.latestFlag found owner.symm).mpr points] at flag
          cases flag
        exact .inr ⟨_, turns, put_marks_own filed put turns marks⟩
      · exact .inl (put_marks_other put own marks)

theorem puts_marks (puts : Puts before after) (filed : ChartsFiled before) (room : after.chartCount < Id.capacity)
    (marks : Marks before app latest previous) :
    Marks after app latest previous ∨ ∃ target, latest ≠ some target ∧ Marks after app (some target) latest := by
  cases puts with
  | nothing kept => exact .inl (marks_congr (keeps_charts_charts kept) marks)
  | creates done kept =>
      have more : before.chartCount + 1 < Id.capacity := by
        obtain ⟨_, _, madeEq⟩ := create_chart_ok done
        rw [keeps_charts_count kept, madeEq] at room
        exact room
      refine (created_marks filed more done marks).imp (marks_congr (keeps_charts_charts kept)) ?_
      exact fun ⟨target, turns, turned⟩ => ⟨target, turns, marks_congr (keeps_charts_charts kept) turned⟩
  | updates found owner done kept =>
      refine (updated_marks filed found owner done marks).imp (marks_congr (keeps_charts_charts kept)) ?_
      exact fun ⟨target, turns, turned⟩ => ⟨target, turns, marks_congr (keeps_charts_charts kept) turned⟩

end Put

section Runs

variable {store : Store}

theorem perform_all_append (store : Store) (earlier later : List Step) :
    Step.performAll store (earlier ++ later) = Step.performAll (Step.performAll store earlier) later :=
  List.foldl_append

theorem all_fit_append {earlier later : List Step} (fit : Step.AllFit store (earlier ++ later)) :
    Step.AllFit store earlier ∧ Step.AllFit (Step.performAll store earlier) later := by
  induction earlier generalizing store with
  | nil => exact ⟨trivial, fit⟩
  | cons step rest ih =>
      obtain ⟨first, others⟩ := ih fit.2
      exact ⟨⟨fit.1, first⟩, others⟩

theorem run_filed {steps : List Step} (filed : ChartsFiled store) (fit : Step.AllFit store steps) :
    ChartsFiled (Step.performAll store steps) := by
  induction steps generalizing store with
  | nil => exact filed
  | cons step rest ih => exact ih (puts_filed (step_puts filed fit.1) filed) fit.2

theorem run_count {steps : List Step} (filed : ChartsFiled store) (fit : Step.AllFit store steps) :
    store.chartCount ≤ (Step.performAll store steps).chartCount := by
  induction steps generalizing store with
  | nil => exact Nat.le_refl _
  | cons step rest ih =>
      have puts : Puts store (step.perform store) := step_puts filed fit.1
      exact Nat.le_trans (puts_count puts) (ih (puts_filed puts filed) fit.2)

-- The count only grows, so identifiers that are enough for the whole run are enough for its first step.
theorem step_marks {step : Step} {rest : List Step} {app : AppId} {latest previous : Option ChartId}
    (filed : ChartsFiled store) (fit : Step.AllFit store (step :: rest))
    (room : (Step.performAll store (step :: rest)).chartCount < Id.capacity)
    (marks : Marks store app latest previous) :
    Marks (step.perform store) app latest previous ∨
      ∃ target, latest ≠ some target ∧ Marks (step.perform store) app (some target) latest := by
  have puts : Puts store (step.perform store) := step_puts filed fit.1
  exact puts_marks puts filed (Nat.lt_of_le_of_lt (run_count (puts_filed puts filed) fit.2) room) marks

theorem run_marks {steps : List Step} {app : AppId} {latest previous : Option ChartId}
    (filed : ChartsFiled store) (fit : Step.AllFit store steps)
    (room : (Step.performAll store steps).chartCount < Id.capacity) (marks : Marks store app latest previous) :
    ∃ newest older, Marks (Step.performAll store steps) app newest older := by
  -- The pointers may turn at each step, so the induction is over all of them.
  induction steps generalizing store latest previous with
  | nil => exact ⟨latest, previous, marks⟩
  | cons step rest ih =>
      have later : ChartsFiled (step.perform store) := puts_filed (step_puts filed fit.1) filed
      rcases step_marks filed fit room marks with same | ⟨target, _, turned⟩
      · exact ih later fit.2 room same
      · exact ih later fit.2 room turned

theorem quiet_marks {steps : List Step} {app : AppId} {latest previous : Option ChartId}
    (filed : ChartsFiled store) (fit : Step.AllFit store steps)
    (room : (Step.performAll store steps).chartCount < Id.capacity) (marks : Marks store app latest previous)
    (quiet : ∀ more rest, steps = more ++ rest → latestId (Step.performAll store more) app = latest) :
    Marks (Step.performAll store steps) app latest previous := by
  -- A step that turned the pointer would show: it turns it to another chart.
  induction steps generalizing store with
  | nil => exact marks
  | cons step rest ih =>
      have later : ChartsFiled (step.perform store) := puts_filed (step_puts filed fit.1) filed
      rcases step_marks filed fit room marks with same | ⟨target, turns, turned⟩
      · exact ih later fit.2 room same fun more others split => quiet (step :: more) others (by rw [split]; rfl)
      · have stays : latestId (step.perform store) app = latest := quiet [step] rest rfl
        rw [latest_id_of_marks later turned] at stays
        exact absurd stays.symm turns

structure LastTurn (before : Store) (app : AppId) (step : Step) (later : List Step) : Prop where
  turned : latestId (step.perform before) app ≠ latestId before app
  stayed : ∀ more rest, later = more ++ rest →
    latestId (Step.performAll (step.perform before) more) app = latestId (step.perform before) app

theorem last_turn_previous {step : Step} {later : List Step} {app : AppId} {latest previous : Option ChartId}
    (filed : ChartsFiled store) (fit : Step.AllFit store (step :: later))
    (room : (Step.performAll store (step :: later)).chartCount < Id.capacity)
    (marks : Marks store app latest previous) (turn : LastTurn store app step later) :
    previousId (Step.performAll store (step :: later)) app = latestId store app := by
  have after : ChartsFiled (step.perform store) := puts_filed (step_puts filed fit.1) filed
  have wasLatest : latestId store app = latest := latest_id_of_marks filed marks
  rcases step_marks filed fit room marks with same | ⟨target, _, turnedMarks⟩
  · exact absurd ((latest_id_of_marks after same).trans wasLatest.symm) turn.turned
  · have isLatest : latestId (step.perform store) app = some target := latest_id_of_marks after turnedMarks
    have atEnd : Marks (Step.performAll (step.perform store) later) app (some target) latest :=
      quiet_marks after fit.2 room turnedMarks fun more rest split => (turn.stayed more rest split).trans isLatest
    have filedEnd : ChartsFiled (Step.performAll (step.perform store) later) := run_filed after fit.2
    rw [wasLatest]
    exact previous_id_of_marks filedEnd atEnd

end Runs

/-- After every run from a store without charts each application's flags are right, and its previous chart is
the one that was the latest just before the last step that turned to another. -/
theorem latest_and_previous_after_run (start : Store) (steps : List Step) (noCharts : start.charts = .empty)
    (fit : Step.AllFit start steps) (room : (Step.performAll start steps).chartCount < Id.capacity) :
    (∀ app, Flagged ((Step.performAll start steps).chartsOf app)) ∧
    ∀ app earlier step later, steps = earlier ++ step :: later →
      LastTurn (Step.performAll start earlier) app step later →
      previousId (Step.performAll start steps) app = latestId (Step.performAll start earlier) app := by
  have filed : ChartsFiled start := by
    rw [ChartsFiled, noCharts]
    exact filed_empty _ _
  constructor
  · intro app
    obtain ⟨latest, previous, marks⟩ := run_marks filed fit room (marks_of_empty noCharts app)
    exact flagged_of_marks (run_filed filed fit) marks
  · rintro app earlier step later rfl turn
    -- Up to the last turn it is enough that there are pointers; from there on they are followed.
    obtain ⟨fitEarlier, fitLater⟩ := all_fit_append fit
    rw [perform_all_append] at room ⊢
    have before : ChartsFiled (Step.performAll start earlier) := run_filed filed fitEarlier
    have roomEarlier := Nat.lt_of_le_of_lt (run_count before fitLater) room
    obtain ⟨latest, previous, marks⟩ := run_marks filed fitEarlier roomEarlier (marks_of_empty noCharts app)
    exact last_turn_previous before fitLater room marks turn

def sampleCreations : List Step :=
  let second := { Sample.templateRequest with chartRefId := ⟨2⟩ }
  [.use (.create Sample.templateRequest Sample.moment), .use (.create second Sample.moment)]

def sampleEdit : Step :=
  .use (.update (Id.nth 0) (Fixtures.values 3) none Fixtures.testUser Sample.moment)

theorem previous_after_edits_of_older :
    previousId (Step.performAll (Fixtures.seedApp .empty) (sampleCreations ++ [sampleEdit, sampleEdit])) ⟨1⟩ =
      some (Id.nth 1) := by
  let start : Store := Fixtures.seedApp .empty
  have fit : Step.AllFit start (sampleCreations ++ [sampleEdit, sampleEdit]) :=
    ⟨trivial, trivial, trivial, trivial, trivial⟩
  have room : (Step.performAll start (sampleCreations ++ [sampleEdit, sampleEdit])).chartCount < Id.capacity := by decide
  have runs := (latest_and_previous_after_run start _ rfl fit room).2 ⟨1⟩ sampleCreations sampleEdit [sampleEdit] rfl
  let made : Store := Step.performAll start sampleCreations
  have before : latestId made ⟨1⟩ = some (Id.nth 1) := by decide
  have edited : latestId (sampleEdit.perform made) ⟨1⟩ = some (Id.nth 0) := by decide
  have again : latestId (Step.performAll (sampleEdit.perform made) [sampleEdit]) ⟨1⟩ = some (Id.nth 0) := by decide
  have turned : latestId (sampleEdit.perform made) ⟨1⟩ ≠ latestId made ⟨1⟩ := by
    rw [edited, before]
    decide
  have stayed : ∀ more rest, [sampleEdit] = more ++ rest →
      latestId (Step.performAll (sampleEdit.perform made) more) ⟨1⟩ = latestId (sampleEdit.perform made) ⟨1⟩ := by
    intro more rest split
    cases more with
    | nil => rfl
    | cons first others =>
        obtain ⟨rfl, empty⟩ := List.cons.inj split
        obtain ⟨rfl, _⟩ := List.append_eq_nil_iff.mp empty.symm
        rw [again, edited]
  exact (runs ⟨turned, stayed⟩).trans before

end Delivery.Charts
