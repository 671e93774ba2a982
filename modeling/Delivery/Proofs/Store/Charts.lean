import Delivery.Proofs.Store.Filed
import Delivery.Store.Charts
import Delivery.Store.History
set_option autoImplicit false

namespace Delivery.Store

abbrev ChartsFiled (store : Store) : Prop :=
  Filed (·.id) store.charts store.chartCount

def KeepsCharts (before after : Store) : Prop :=
  after = { before with
    appMetrics := after.appMetrics
    envOverrides := after.envOverrides
    envOverrideCount := after.envOverrideCount
    history := after.history
    historyCount := after.historyCount }

theorem keeps_charts_refl (store : Store) : KeepsCharts store store := rfl

theorem keeps_charts_of_eq {before after : Store} (same : after = before) : KeepsCharts before after := by
  rw [same]
  exact keeps_charts_refl before

theorem keeps_charts_trans {first second third : Store} (left : KeepsCharts first second)
    (right : KeepsCharts second third) : KeepsCharts first third := by
  rw [KeepsCharts] at left right ⊢
  rw [left] at right
  exact right

theorem keeps_charts_charts {before after : Store} (keeps : KeepsCharts before after) :
    after.charts = before.charts := by
  rw [keeps]

theorem keeps_charts_count {before after : Store} (keeps : KeepsCharts before after) :
    after.chartCount = before.chartCount := by
  rw [keeps]

theorem keeps_charts_refs {before after : Store} (keeps : KeepsCharts before after) :
    after.chartRefs = before.chartRefs := by
  rw [keeps]

theorem keeps_charts_filed {before after : Store} (keeps : KeepsCharts before after) (filed : ChartsFiled before) :
    ChartsFiled after := by
  rw [keeps]
  exact filed

def KeepsFlags (before after : Store) : Prop :=
  after = { before with
    envOverrides := after.envOverrides
    envOverrideCount := after.envOverrideCount
    history := after.history
    historyCount := after.historyCount }

theorem keeps_flags_refl (store : Store) : KeepsFlags store store := rfl

theorem keeps_flags_trans {first second third : Store} (left : KeepsFlags first second)
    (right : KeepsFlags second third) : KeepsFlags first third := by
  rw [KeepsFlags] at left right ⊢
  rw [left] at right
  exact right

theorem keeps_charts_of_flags {before after : Store} (keeps : KeepsFlags before after) : KeepsCharts before after := by
  rw [KeepsFlags] at keeps
  rw [KeepsCharts, keeps]

def OnlyHistory (before after : Store) : Prop :=
  after = { before with history := after.history, historyCount := after.historyCount }

theorem only_history_refl (store : Store) : OnlyHistory store store := rfl

theorem only_history_trans {first second third : Store} (left : OnlyHistory first second)
    (right : OnlyHistory second third) : OnlyHistory first third := by
  rw [OnlyHistory] at left right ⊢
  rw [left] at right
  exact right

theorem keeps_flags_of_history {before after : Store} (only : OnlyHistory before after) : KeepsFlags before after := by
  rw [OnlyHistory] at only
  rw [KeepsFlags, only]

theorem append_history_only (store : Store) (row : NewHistory) : OnlyHistory store (store.appendHistory row).2 :=
  rfl

theorem append_histories_only (store : Store) (rows : List NewHistory) :
    OnlyHistory store (store.appendHistories rows).2 := by
  induction rows generalizing store with
  | nil => rfl
  | cons row rest ih => exact only_history_trans (append_history_only store row) (ih _)

theorem append_histories_keeps (store : Store) (rows : List NewHistory) :
    KeepsFlags store (store.appendHistories rows).2 :=
  keeps_flags_of_history (append_histories_only store rows)

theorem create_override_keeps {store after : Store} {new : NewEnvOverride} {row : EnvOverride}
    (done : store.createOverride new = .ok (row, after)) : KeepsFlags store after := by
  cases found : store.charts.get? new.chartId with
  | none => simp [createOverride, found] at done
  | some chart =>
      simp only [createOverride, found, Except.ok.injEq, Prod.mk.injEq] at done
      rw [← done.2]
      rfl

def besideLatest (app : AppId) (keep : ChartId) (chart : Chart) : Chart :=
  if chart.appId == app && chart.id != keep then chart.demoted else chart

theorem beside_latest_own {app : AppId} {keep : ChartId} {chart : Chart} (own : chart.appId = app)
    (other : chart.id ≠ keep) : besideLatest app keep chart = chart.demoted := by
  simp [besideLatest, own, other]

theorem beside_latest_other {app : AppId} {keep : ChartId} {chart : Chart} (other : chart.appId ≠ app) :
    besideLatest app keep chart = chart := by
  simp [besideLatest, other]

theorem beside_latest_id (app : AppId) (keep : ChartId) (chart : Chart) :
    (besideLatest app keep chart).id = chart.id := by
  unfold besideLatest
  split <;> rfl

theorem beside_latest_app (app : AppId) (keep : ChartId) (chart : Chart) :
    (besideLatest app keep chart).appId = chart.appId := by
  unfold besideLatest
  split <;> rfl

theorem beside_latest_content (app : AppId) (keep : ChartId) (chart : Chart) :
    (besideLatest app keep chart).chartRefId = chart.chartRefId ∧ (besideLatest app keep chart).values = chart.values ∧
      (besideLatest app keep chart).globalOverride = chart.globalOverride := by
  unfold besideLatest
  split <;> exact ⟨rfl, rfl, rfl⟩

theorem create_chart_ok {store made : Store} {new : NewChart} {row : Chart}
    (done : store.createChart new = .ok (row, made)) :
    row = new.stored (Id.nth store.chartCount) ∧ store.chartByRef? new.appId new.chartRefId = none ∧
      made = { store with
        charts := (store.charts.mapRows fun _ => besideLatest new.appId row.id).insert row.id row
        chartCount := store.chartCount + 1 } := by
  rw [createChart] at done
  split at done
  · cases done
  · rename_i free
    simp only [Except.ok.injEq, Prod.mk.injEq] at done
    obtain ⟨rfl, rfl⟩ := done
    exact ⟨rfl, by simpa using free, rfl⟩

theorem update_chart_ok {store made : Store} {chart row : Chart}
    (done : store.updateChart chart = .ok (row, made)) :
    ∃ current, store.charts.get? chart.id = some current ∧ row = chart.promoted ∧
      made = { store with
        charts := (if current.latest then store.charts
          else store.charts.mapRows fun _ => besideLatest chart.appId chart.id).insert chart.id row } := by
  cases found : store.charts.get? chart.id with
  | none => simp [updateChart, found] at done
  | some current =>
      refine ⟨current, rfl, ?_⟩
      simp only [updateChart, found, Except.ok.injEq, Prod.mk.injEq] at done
      obtain ⟨rfl, rfl⟩ := done
      refine ⟨rfl, ?_⟩
      cases current.latest <;> rfl

theorem update_chart_refused {store : Store} {chart : Chart} {error : Error}
    (refused : store.updateChart chart = .error error) : store.charts.get? chart.id = none := by
  cases found : store.charts.get? chart.id with
  | none => rfl
  | some current => simp [updateChart, found] at refused

section Created

variable {store made : Store} {new : NewChart} {row : Chart}

theorem created_here (done : store.createChart new = .ok (row, made)) :
    made.charts.get? row.id = some row := by
  obtain ⟨_, _, rfl⟩ := create_chart_ok done
  exact Table.get_insert_same _ _ _

theorem created_elsewhere (done : store.createChart new = .ok (row, made)) {key : ChartId}
    (different : key ≠ row.id) :
    made.charts.get? key = (store.charts.get? key).map (besideLatest new.appId row.id) := by
  obtain ⟨_, _, rfl⟩ := create_chart_ok done
  exact (Table.get_insert_other _ _ different).trans (Table.get_map_rows _ _ _)

theorem created_count (done : store.createChart new = .ok (row, made)) : made.chartCount = store.chartCount + 1 := by
  obtain ⟨_, _, rfl⟩ := create_chart_ok done
  rfl

theorem created_filed (done : store.createChart new = .ok (row, made)) (filed : ChartsFiled store) :
    ChartsFiled made := by
  obtain ⟨rowEq, _, rfl⟩ := create_chart_ok done
  have named : row.id = Id.nth store.chartCount := by rw [rowEq]; rfl
  have beside := filed_map_rows filed fun _ => beside_latest_id new.appId row.id
  exact named ▸ filed_insert_next beside named

end Created

section Updated

variable {store made : Store} {chart row current : Chart}

theorem updated_here (done : store.updateChart chart = .ok (row, made)) :
    made.charts.get? chart.id = some chart.promoted := by
  obtain ⟨_, _, rfl, rfl⟩ := update_chart_ok done
  exact Table.get_insert_same _ _ _

theorem updated_latest_elsewhere (done : store.updateChart chart = .ok (row, made))
    (found : store.charts.get? chart.id = some current) (latest : current.latest = true) {key : ChartId}
    (different : key ≠ chart.id) : made.charts.get? key = store.charts.get? key := by
  obtain ⟨there, present, _, rfl⟩ := update_chart_ok done
  have same : there = current := Option.some.inj (present.symm.trans found)
  rw [same, if_pos latest]
  exact Table.get_insert_other _ _ different

theorem updated_older_elsewhere (done : store.updateChart chart = .ok (row, made))
    (found : store.charts.get? chart.id = some current) (older : current.latest = false) {key : ChartId}
    (different : key ≠ chart.id) :
    made.charts.get? key = (store.charts.get? key).map (besideLatest chart.appId chart.id) := by
  obtain ⟨there, present, _, rfl⟩ := update_chart_ok done
  have same : there = current := Option.some.inj (present.symm.trans found)
  rw [same, if_neg (by simp [older])]
  exact (Table.get_insert_other _ _ different).trans (Table.get_map_rows _ _ _)

theorem updated_elsewhere (done : store.updateChart chart = .ok (row, made)) {key : ChartId}
    (different : key ≠ chart.id) : made.charts.get? key = store.charts.get? key ∨
      made.charts.get? key = (store.charts.get? key).map (besideLatest chart.appId chart.id) := by
  obtain ⟨current, found, _⟩ := update_chart_ok done
  cases flag : current.latest with
  | true => exact .inl (updated_latest_elsewhere done found flag different)
  | false => exact .inr (updated_older_elsewhere done found flag different)

theorem updated_filed (done : store.updateChart chart = .ok (row, made)) (filed : ChartsFiled store) :
    ChartsFiled made := by
  obtain ⟨current, found, rfl, rfl⟩ := update_chart_ok done
  have here : store.charts.get? chart.promoted.id = some current := found
  -- Both times the row goes back under its own key; the second time others are demoted before.
  split
  · exact filed_insert_again chart.promoted filed here
  · have beside := filed_map_rows filed fun _ => beside_latest_id chart.appId chart.id
    have there : (store.charts.mapRows fun _ => besideLatest chart.appId chart.id).get? chart.promoted.id =
        some (besideLatest chart.appId chart.id current) := by
      rw [Table.get_map_rows, here]
      rfl
    exact filed_insert_again chart.promoted beside there

end Updated

end Delivery.Store
