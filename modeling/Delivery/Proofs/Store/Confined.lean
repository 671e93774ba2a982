import Delivery.Proofs.Store.Trail
import Mathlib.Logic.Relation
set_option autoImplicit false

namespace Delivery.Store

def OfAnother (store : Store) (app : AppId) (row : EnvOverride) : Prop :=
  ∃ chart, store.charts.get? row.chartId = some chart ∧ chart.appId ≠ app

structure Isolates (app : AppId) (before after : Store) : Prop where
  charts : ∀ key chart, chart.appId ≠ app →
    (after.charts.get? key = some chart ↔ before.charts.get? key = some chart)
  overrides : ∀ key row, before.OfAnother app row →
    (after.envOverrides.get? key = some row ↔ before.envOverrides.get? key = some row)
  metrics : ∀ other, other ≠ app → after.appMetrics.get? other = before.appMetrics.get? other
  noted : ∃ rows, after.history.rows = before.history.rows ++ rows ∧ ∀ row ∈ rows, row.appId = app
  -- The metrics of environments are among the rest, and so are artifacts, workflows, pipelines, users and runs.
  rest : after = { before with
    charts := after.charts
    chartCount := after.chartCount
    envOverrides := after.envOverrides
    envOverrideCount := after.envOverrideCount
    appMetrics := after.appMetrics
    history := after.history
    historyCount := after.historyCount }

section Isolation

variable {app : AppId} {first second third : Store}

theorem isolates_refl (store : Store) : Isolates app store store :=
  have none : ∃ rows, store.history.rows = store.history.rows ++ rows ∧ ∀ row ∈ rows, row.appId = app :=
    ⟨[], (List.append_nil _).symm, List.forall_mem_nil _⟩
  ⟨fun _ _ _ => .rfl, fun _ _ _ => .rfl, fun _ _ => rfl, none, rfl⟩

theorem isolates_of_another (isolates : Isolates app first second) (row : EnvOverride) :
    second.OfAnother app row ↔ first.OfAnother app row :=
  exists_congr fun chart => and_congr_left fun other => isolates.charts row.chartId chart other

theorem isolates_trans (left : Isolates app first second) (right : Isolates app second third) :
    Isolates app first third := by
  obtain ⟨rows, behind, own⟩ := left.noted
  obtain ⟨more, further, ownMore⟩ := right.noted
  constructor
  · exact fun key chart other => (right.charts key chart other).trans (left.charts key chart other)
  · intro key row another
    have still : second.OfAnother app row := (isolates_of_another left row).mpr another
    exact (right.overrides key row still).trans (left.overrides key row another)
  · exact fun other different => (right.metrics other different).trans (left.metrics other different)
  · refine ⟨rows ++ more, ?_, List.forall_mem_append.mpr ⟨own, ownMore⟩⟩
    rw [further, behind, List.append_assoc]
  · have rest := right.rest
    rw [left.rest] at rest
    exact rest

end Isolation

inductive Confined (app : AppId) (before : Store) : Store → Prop where
  | creates {new : NewChart} {row : Chart} {after : Store} (own : new.appId = app)
      (done : before.createChart new = .ok (row, after)) : Confined app before after
  | updates {current chart row : Chart} {after : Store} (found : before.charts.get? chart.id = some current)
      (owned : current.appId = app) (own : chart.appId = app) (done : before.updateChart chart = .ok (row, after)) :
      Confined app before after
  | overrides {new : NewEnvOverride} {row : EnvOverride} {after : Store} (own : before.isChartOf app new.chartId = true)
      (done : before.createOverride new = .ok (row, after)) : Confined app before after
  | sets (enabled : Bool) (user : UserId) (now : Instant) :
      Confined app before (before.setAppMetrics app enabled user now).2
  | notes (rows : List NewHistory) (own : ∀ row ∈ rows, row.appId = app) :
      Confined app before (before.appendHistories rows).2

section Writes

variable {app : AppId} {before after : Store}

theorem confined_transaction (confined : Confined app before after) : Transaction before after := by
  cases confined with
  | creates _ done => exact .createChart done
  | updates _ _ _ done => exact .updateChart done
  | overrides _ done => exact .createOverride done
  | sets enabled user now => exact .setAppMetrics app enabled user now
  | notes rows _ => exact .appendHistories rows

theorem beside_latest_of_another {found : Option Chart} {keep : ChartId} {chart : Chart} (other : chart.appId ≠ app) :
    found.map (besideLatest app keep) = some chart ↔ found = some chart := by
  rw [Option.map_eq_some_iff]
  constructor
  · rintro ⟨old, rfl, rfl⟩
    rw [beside_latest_app] at other
    rw [beside_latest_other other]
  · rintro rfl
    exact ⟨chart, rfl, beside_latest_other other⟩

theorem confined_charts (filed : ChartsFiled before) (confined : Confined app before after) (room : HasRoom after)
    (key : ChartId) {chart : Chart} (other : chart.appId ≠ app) :
    after.charts.get? key = some chart ↔ before.charts.get? key = some chart := by
  have neither : ∀ row : Chart, row.appId = app → some row ≠ some chart := by
    rintro row own same
    exact other (Option.some.inj same ▸ own)
  cases confined with
  | @creates new row _ own done =>
      have rowEq := (create_chart_ok done).1
      by_cases here : key = row.id
      · have fresh : before.charts.get? row.id = none := by
          rw [rowEq]
          exact later_missing filed (Nat.le_refl _) (created_count done ▸ room.charts)
        rw [here, created_here done, fresh]
        exact iff_of_false (neither row (by rw [rowEq]; exact own)) nofun
      · rw [created_elsewhere done here, own]
        exact beside_latest_of_another other
  | @updates current edited row _ found owned own done =>
      by_cases here : key = edited.id
      · rw [here, updated_here done, found]
        exact iff_of_false (neither _ own) (neither current owned)
      · rcases updated_elsewhere done here with same | beside
        · rw [same]
        · rw [beside, own]
          exact beside_latest_of_another other
  | overrides _ done => rw [override_charts done]
  | sets enabled user now => exact .rfl
  | notes rows _ =>
      have only : OnlyHistory before (before.appendHistories rows).2 := append_histories_only before rows
      rw [only]

theorem confined_overrides (filed : OverridesFiled before) (confined : Confined app before after) (room : HasRoom after)
    (key : EnvOverrideId) {row : EnvOverride} (another : before.OfAnother app row) :
    after.envOverrides.get? key = some row ↔ before.envOverrides.get? key = some row := by
  cases confined with
  | creates _ done =>
      obtain ⟨_, _, rfl⟩ := create_chart_ok done
      exact .rfl
  | updates _ _ _ done =>
      obtain ⟨_, _, _, rfl⟩ := update_chart_ok done
      exact .rfl
  | overrides own done =>
      obtain ⟨owner, there, rfl⟩ := chart_of_owner own
      refine override_outside done there filed room.overrides ?_ key
      rintro ⟨_, scope⟩
      obtain ⟨chart, found, same⟩ := chart_of_owner scope
      obtain ⟨other, alsoFound, different⟩ := another
      obtain rfl : chart = other := Option.some.inj (found.symm.trans alsoFound)
      exact different same
  | sets enabled user now => exact .rfl
  | notes rows _ =>
      have only : OnlyHistory before (before.appendHistories rows).2 := append_histories_only before rows
      rw [only]

theorem confined_metrics (confined : Confined app before after) {other : AppId} (different : other ≠ app) :
    after.appMetrics.get? other = before.appMetrics.get? other := by
  cases confined with
  | creates _ done =>
      obtain ⟨_, _, rfl⟩ := create_chart_ok done
      rfl
  | updates _ _ _ done =>
      obtain ⟨_, _, _, rfl⟩ := update_chart_ok done
      rfl
  | overrides _ done =>
      obtain ⟨_, _, _, rfl⟩ := create_override_ok done
      rfl
  | sets enabled user now => exact Table.get_insert_other _ _ different
  | notes rows _ =>
      have only : OnlyHistory before (before.appendHistories rows).2 := append_histories_only before rows
      rw [only]

theorem confined_noted (ordered : before.trail.InOrder) (confined : Confined app before after)
    (room : after.historyCount < Id.capacity) :
    ∃ rows, after.history.rows = before.history.rows ++ rows ∧ ∀ row ∈ rows, row.appId = app := by
  have grows : TrailGrows (fun row => row.appId = app) before after := by
    cases confined with
    | creates _ done => exact unnoted_grows (.createChart _) rfl (map_of_made done)
    | updates _ _ _ done => exact unnoted_grows (.updateChart _) rfl (map_of_made done)
    | overrides _ done => exact unnoted_grows (.createOverride _) rfl (map_of_made done)
    | sets enabled user now => exact unnoted_grows (.setAppMetrics app enabled user now) rfl rfl
    | notes rows own => exact write_grows (.appendHistories rows) own rfl
  obtain ⟨rows, behind, _, own⟩ := trail_grows_rows ordered room grows
  exact ⟨rows, behind, own⟩

theorem confined_isolates (reached : Reachable before) (confined : Confined app before after) (room : HasRoom after)
    (roomNoted : after.historyCount < Id.capacity) : Isolates app before after where
  charts key _ other := confined_charts (reachable_orderly reached).charts confined room key other
  overrides key _ another := confined_overrides (reachable_rooted reached).overrides confined room key another
  metrics _ different := confined_metrics confined different
  noted := confined_noted (reachable_in_order reached) confined roomNoted
  rest := by
    cases confined with
    | creates _ done =>
        obtain ⟨_, _, rfl⟩ := create_chart_ok done
        rfl
    | updates _ _ _ done =>
        obtain ⟨_, _, _, rfl⟩ := update_chart_ok done
        rfl
    | overrides _ done =>
        obtain ⟨_, _, _, rfl⟩ := create_override_ok done
        rfl
    | sets enabled user now => rfl
    | notes rows _ =>
        have only : OnlyHistory before (before.appendHistories rows).2 := append_histories_only before rows
        rw [only]

abbrev Confines (app : AppId) : Store → Store → Prop :=
  Relation.ReflTransGen (Confined app)

theorem confines_reachable (reached : Reachable before) (confines : Confines app before after) : Reachable after := by
  induction confines with
  | refl => exact reached
  | tail _ confined ih => exact .step ih (confined_transaction confined)

theorem confines_isolates (reached : Reachable before) (confines : Confines app before after) (room : HasRoom after)
    (roomNoted : after.historyCount < Id.capacity) : Isolates app before after := by
  induction confines with
  | refl => exact isolates_refl before
  | tail earlier confined ih =>
      have transaction := confined_transaction confined
      have fewer := transaction_history_count transaction
      have first := ih (transaction_room transaction room) (Nat.lt_of_le_of_lt fewer roomNoted)
      exact isolates_trans first (confined_isolates (confines_reachable reached earlier) confined room roomNoted)

end Writes

end Delivery.Store
