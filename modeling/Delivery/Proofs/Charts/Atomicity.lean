import Delivery.Proofs.Charts.Upgrades
import Delivery.Proofs.History.Changes
set_option autoImplicit false

namespace Delivery.Charts

open Store

-- How an edit ends, by what there is of the chart and of its reference. Only the second error leaves anything behind.
inductive EditEnds (store : Store) (id : ChartId) (delta : Json) (user : UserId) (now : Instant) :
    Except Error Chart → Store → Prop where
  | unknown (absent : store.charts.get? id = none) : EditEnds store id delta user now (.error (.missing id)) store
  | unregistered {current row : Chart} {after : Store} (found : store.charts.get? id = some current)
      (absent : store.chartRefs.get? current.chartRefId = none)
      (stored : store.updateChart (edited current delta user now) = .ok (row, after)) :
      EditEnds store id delta user now (.error (.missing current.chartRefId)) after
  | done {current row : Chart} {chartRef : ChartRef} {after : Store} (found : store.charts.get? id = some current)
      (registered : store.chartRefs.get? current.chartRefId = some chartRef) :
      EditEnds store id delta user now (.ok row) after

section Edits

variable {store made : Store} {id : ChartId} {current row : Chart} {chartRef : ChartRef} {delta : Json}
  {requested : Option Bool} {user : UserId} {now : Instant}

theorem edit_stored (filed : ChartsFiled store) (found : store.charts.get? id = some current) (delta : Json)
    (user : UserId) (now : Instant) :
    ∃ row made, store.updateChart (edited current delta user now) = .ok (row, made) := by
  cases outcome : store.updateChart (edited current delta user now) with
  | ok pair => exact ⟨pair.1, pair.2, rfl⟩
  | error error =>
      have missing : store.charts.get? (edited current delta user now).id = none := update_chart_refused outcome
      have present : store.charts.get? current.id = some current := by rw [filed.own found, found]
      cases missing.symm.trans present

theorem edit_keeps_reference (stored : store.updateChart (edited current delta user now) = .ok (row, made)) :
    made.chartRefs.get? row.chartRefId = store.chartRefs.get? current.chartRefId ∧
      row.chartRefId = current.chartRefId := by
  obtain ⟨_, _, rowEq, madeEq⟩ := update_chart_ok stored
  have reference : row.chartRefId = current.chartRefId := by
    rw [rowEq]
    rfl
  exact ⟨by rw [reference, madeEq], reference⟩

theorem edit_shows (filed : ChartsFiled store) (found : store.charts.get? id = some current)
    (stored : store.updateChart (edited current delta user now) = .ok (row, made))
    (other : user ≠ current.audit.updatedBy) : made ≠ store := by
  intro same
  have here : made.charts.get? current.id = some (edited current delta user now).promoted := updated_here stored
  rw [same, filed.own found, found] at here
  have editor : current.audit.updatedBy = user := congrArg (·.audit.updatedBy) (Option.some.inj here)
  exact other editor.symm

theorem unregistered_noted_ends (absent : store.chartRefs.get? row.chartRefId = none) :
    Service.Ends (do
      let enabled ← resolveRequested row requested user now
      let _ ← Recorder.recordTemplateChange row enabled user now
      return row) store (fun _ _ => False) fun error after => error = .missing row.chartRefId ∧ after = store := by
  have records : ∀ enabled, (Recorder.recordTemplateChange row enabled user now).Ends store (fun _ _ => False)
      fun error after => error = .missing row.chartRefId ∧ after = store := fun enabled => by
    refine Service.ends_weaken (Recorder.record_template_change_ends row enabled user now store) ?_ ?_
    · rintro _ _ ⟨_, found, _⟩
      simp [absent] at found
    · rintro _ _ ⟨error, after, _⟩
      exact ⟨error, after⟩
  have notes : ∀ enabled, Service.Ends (do
      let _ ← Recorder.recordTemplateChange row enabled user now
      return row) store (fun _ _ => False) fun error after => error = .missing row.chartRefId ∧ after = store :=
    fun enabled => Service.ends_bind (Service.ends_weaken (records enabled) (fun _ _ never => never.elim)
      fun _ _ failed => failed)
  cases requested with
  | none => exact Service.ends_bind (Service.ends_look (notes _))
  | some wanted =>
      refine Service.ends_bind (Service.ends_bind (Service.ends_require (fun chartRef found => ?_) fun _ => ⟨rfl, rfl⟩))
      simp [absent] at found

theorem registered_noted_ends (found : store.chartRefs.get? row.chartRefId = some chartRef) :
    Service.Ends (do
      let enabled ← resolveRequested row requested user now
      let _ ← Recorder.recordTemplateChange row enabled user now
      return row) store (fun _ _ => True) fun _ _ => False := by
  have notes : ∀ enabled middle, middle.chartRefs = store.chartRefs → Service.Ends (do
      let _ ← Recorder.recordTemplateChange row enabled user now
      return row) middle (fun _ _ => True) fun _ _ => False := by
    intro enabled middle same
    have still : middle.chartRefs.get? row.chartRefId = some chartRef := same ▸ found
    exact Service.ends_bind (Service.ends_weaken (Recorder.template_noted_ends still enabled)
      (fun _ _ _ => Service.ends_pure trivial) fun _ _ never => never)
  cases requested with
  | none => exact Service.ends_bind (Service.ends_look (notes _ _ rfl))
  | some wanted =>
      refine Service.ends_bind (Service.ends_bind (Service.ends_require (fun _ _ => ?_) fun missing => ?_))
      · exact Service.ends_bind (Service.ends_act (Service.ends_pure (notes _ _ rfl)))
      · simp [found] at missing

theorem edit_ends (filed : ChartsFiled store) : (update id delta requested user now).Ends store
    (fun row after => EditEnds store id delta user now (.ok row) after)
    (fun error after => EditEnds store id delta user now (.error error) after) := by
  refine Service.ends_bind (Service.ends_require (fun current found => ?_) fun absent => .unknown absent)
  refine Service.ends_bind (Service.ends_transact (fun row made stored => ?_) fun _ refused => ?_)
  · obtain ⟨same, reference⟩ := edit_keeps_reference stored
    cases registered : store.chartRefs.get? current.chartRefId with
    | none =>
        refine Service.ends_weaken (unregistered_noted_ends (same.trans registered)) (fun _ _ never => never.elim) ?_
        rintro _ _ ⟨rfl, rfl⟩
        rw [reference]
        exact .unregistered found registered stored
    | some chartRef =>
        exact Service.ends_weaken (registered_noted_ends (same.trans registered))
          (fun _ _ _ => .done found registered) fun _ _ never => never.elim
  · obtain ⟨row, made, stored⟩ := edit_stored filed found delta user now
    cases refused.symm.trans stored

theorem unregistered_stored {answer : Except Error Chart} {after : Store} (found : store.charts.get? id = some current)
    (absent : store.chartRefs.get? current.chartRefId = none) (ends : EditEnds store id delta user now answer after) :
    answer = .error (.missing current.chartRefId) ∧
      ∃ row, store.updateChart (edited current delta user now) = .ok (row, after) := by
  cases ends with
  | unknown unknown => simp [unknown] at found
  | @unregistered there row _ present _ stored =>
      obtain rfl : there = current := Option.some.inj (present.symm.trans found)
      exact ⟨rfl, row, stored⟩
  | @done there row chartRef _ present registered =>
      obtain rfl : there = current := Option.some.inj (present.symm.trans found)
      simp [registered] at absent

end Edits

/-- Edits of a chart change all or nothing exactly if the chart is unknown or its reference is registered; then no edit
fails but of an unknown chart. Where the reference is not registered every edit fails on it, and leaves the chart
stored as edited and made the latest one, and nothing else. -/
theorem update_all_or_nothing_iff (store : Store) (reached : Reachable store) (id : ChartId) :
    ((∀ delta requested user now error after,
        (update id delta requested user now).run store = (.error error, after) → after = store) ↔
      ∀ current, store.charts.get? id = some current → (store.chartRefs.get? current.chartRefId).isSome = true) ∧
    ∀ delta requested user now answer after, (update id delta requested user now).run store = (answer, after) →
      EditEnds store id delta user now answer after := by
  have filed : ChartsFiled store := (reachable_orderly reached).charts
  have ends : ∀ delta requested user now answer after, (update id delta requested user now).run store = (answer, after) →
      EditEnds store id delta user now answer after := fun delta requested user now answer after ran =>
    Service.ends_answer (motive := EditEnds store id delta user now) (edit_ends filed) ran (fun _ _ done => done)
      fun _ _ failed => failed
  refine ⟨⟨fun whole current found => ?_, fun registered delta requested user now error after ran => ?_⟩, ends⟩
  · by_contra unregistered
    have absent : store.chartRefs.get? current.chartRefId = none := by simpa using unregistered
    -- An edit by a user who did not edit the chart last shows that it has been stored.
    obtain ⟨user, other⟩ : ∃ user, user ≠ current.audit.updatedBy := by
      by_cases first : current.audit.updatedBy = ⟨1⟩
      · exact ⟨⟨2⟩, by simp [first]⟩
      · exact ⟨⟨1⟩, fun same => first same.symm⟩
    let outcome := (update id .null none user Sample.moment).run store
    obtain ⟨refused, row, stored⟩ :=
      unregistered_stored found absent (ends .null none user Sample.moment outcome.1 outcome.2 rfl)
    have same : outcome.2 = store := whole .null none user Sample.moment _ outcome.2 (Prod.ext refused rfl)
    exact edit_shows filed found stored other same
  · cases ends delta requested user now _ after ran with
    | unknown absent => rfl
    | unregistered found absent stored =>
        have known := registered _ found
        simp [absent] at known

def sampleUnregistered : Store :=
  let older := Write.perform (Fixtures.seedApp .empty) (.createChart { Sample.newChart with chartRefId := ⟨101⟩ })
  Write.perform older (.createChart Sample.newChart)

theorem sample_unregistered_reachable : Reachable sampleUnregistered :=
  perform_reachable (perform_reachable seed_app_reachable _) _

theorem sample_edits_all_or_nothing :
    (∀ delta requested user now error after,
      (update (Id.nth 1) delta requested user now).run sampleUnregistered = (.error error, after) →
        after = sampleUnregistered) ∧
    ¬∀ delta requested user now error after,
      (update (Id.nth 0) delta requested user now).run sampleUnregistered = (.error error, after) →
        after = sampleUnregistered := by
  constructor
  · refine (update_all_or_nothing_iff sampleUnregistered sample_unregistered_reachable (Id.nth 1)).1.mpr ?_
    intro current found
    have registered : (sampleUnregistered.charts.get? (Id.nth 1)).all fun chart =>
        (sampleUnregistered.chartRefs.get? chart.chartRefId).isSome := by decide
    simpa [found] using registered
  · rw [(update_all_or_nothing_iff sampleUnregistered sample_unregistered_reachable (Id.nth 0)).1]
    intro registered
    have unregistered : (sampleUnregistered.charts.get? (Id.nth 0)).any fun chart =>
        (sampleUnregistered.chartRefs.get? chart.chartRefId).isNone := by decide
    cases found : sampleUnregistered.charts.get? (Id.nth 0) with
    | none => simp [found] at unregistered
    | some current =>
        have known := registered current found
        simp [found] at unregistered
        simp [unregistered] at known

theorem unregistered_edit_stays :
    Reachable sampleUnregistered ∧
    ∃ after, (update (Id.nth 0) (Fixtures.values 3) none Fixtures.testUser Sample.moment).run sampleUnregistered =
        (.error (.missing (⟨101⟩ : ChartRefId)), after) ∧
      after ≠ sampleUnregistered ∧
      (sampleUnregistered.charts.get? (Id.nth 0)).map (fun chart => (chart.values, chart.latest, chart.previous)) =
        some (Sample.noValues, false, true) ∧
      (after.charts.get? (Id.nth 0)).map (fun chart => (chart.values, chart.latest, chart.previous)) =
        some (Fixtures.values 3, true, false) ∧
      (sampleUnregistered.charts.get? (Id.nth 1)).map (fun chart => (chart.latest, chart.previous)) = some (true, false) ∧
      (after.charts.get? (Id.nth 1)).map (fun chart => (chart.latest, chart.previous)) = some (false, true) := by
  refine ⟨sample_unregistered_reachable, _, rfl, ?_⟩
  decide

end Delivery.Charts
