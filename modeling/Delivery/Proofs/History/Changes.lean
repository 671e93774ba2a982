import Delivery.History.Recorder
import Delivery.Proofs.Outcomes
import Delivery.Proofs.Store.Trail
set_option autoImplicit false

namespace Delivery.Store

theorem append_histories_rows (store : Store) (rows : List NewHistory) (ordered : store.trail.InOrder)
    (room : store.historyCount + rows.length < Id.capacity) :
    (store.appendHistories rows).2.history.rows = store.history.rows ++ (store.appendHistories rows).1 ∧
      (store.appendHistories rows).1.map (·.toNewHistory) = rows := by
  induction rows generalizing store with
  | nil => exact ⟨(List.append_nil _).symm, rfl⟩
  | cons row rest ih =>
      rw [List.length_cons] at room
      let noted := store.appendHistory row
      have spare : store.historyCount + 1 < Id.capacity := by omega
      have first : noted.2.history.rows = store.history.rows ++ [noted.1] :=
        Table.rows_insert_above _ fun _ _ found => next_above ordered spare found
      have still : noted.2.trail.InOrder := filed_insert_next ordered rfl
      have more : noted.2.historyCount + rest.length < Id.capacity := by
        show store.historyCount + 1 + rest.length < Id.capacity
        omega
      obtain ⟨behind, contents⟩ := ih noted.2 still more
      refine ⟨?_, congrArg (row :: ·) contents⟩
      show (noted.2.appendHistories rest).2.history.rows =
        store.history.rows ++ noted.1 :: (noted.2.appendHistories rest).1
      rw [behind, first, List.append_assoc, List.singleton_append]

theorem append_histories_count (store : Store) (rows : List NewHistory) :
    (store.appendHistories rows).2.historyCount = store.historyCount + rows.length :=
  (congrArg Trail.count (append_histories_trail store rows)).trans note_all_count

end Delivery.Store

namespace Delivery.Recorder

open Store

def changeRows (store : Store) (chart : Chart) (chartRef : ChartRef) (appMetrics : Bool) (user : UserId)
    (now : Instant) : List NewHistory :=
  let row := templateRow chart chartRef appMetrics user now
  row :: (store.pipelinesInheriting chart.appId chart.id).map (rowFor row)

theorem record_template_change_ends (chart : Chart) (appMetrics : Bool) (user : UserId) (now : Instant)
    (store : Store) : (recordTemplateChange chart appMetrics user now).Ends store
      (fun rows after => ∃ chartRef, store.chartRefs.get? chart.chartRefId = some chartRef ∧
        store.appendHistories (changeRows store chart chartRef appMetrics user now) = (rows, after))
      (fun error after => error = .missing chart.chartRefId ∧ after = store ∧
        store.chartRefs.get? chart.chartRefId = none) := by
  refine Service.ends_bind (Service.ends_require (fun chartRef found => ?_) fun absent => ⟨rfl, rfl, absent⟩)
  exact Service.ends_bind (Service.ends_look (Service.ends_act ⟨chartRef, found, rfl⟩))

theorem template_noted_ends {store : Store} {chart : Chart} {chartRef : ChartRef} {user : UserId} {now : Instant}
    (found : store.chartRefs.get? chart.chartRefId = some chartRef) (appMetrics : Bool) :
    (recordTemplateChange chart appMetrics user now).Ends store (fun _ after => OnlyHistory store after)
      fun _ _ => False := by
  refine Service.ends_weaken (record_template_change_ends chart appMetrics user now store) ?_ ?_
  · rintro rows after ⟨_, _, appended⟩
    have behind : after = (store.appendHistories _).2 := (congrArg Prod.snd appended).symm
    exact behind ▸ append_histories_only store _
  · rintro _ _ ⟨_, _, absent⟩
    cases absent.symm.trans found

def overrideRow (store : Store) (chart : Chart) (chartRef : ChartRef) (override : EnvOverride) (appMetrics : Bool)
    (user : UserId) (now : Instant) : NewHistory :=
  { templateRow chart chartRef appMetrics user now with
    pipelineId := (store.cdPipelineFor? chart.appId override.targetEnvironment).map (·.id)
    targetEnvironment := some override.targetEnvironment
    template := override.effectiveTemplate chart }

theorem record_override_change_ends (override : EnvOverride) (appMetrics : Bool) (user : UserId) (now : Instant)
    (store : Store) : (recordOverrideChange override appMetrics none user now).Ends store
      (fun entry after => ∃ chart chartRef, store.charts.get? override.chartId = some chart ∧
        store.chartRefs.get? chart.chartRefId = some chartRef ∧
        store.appendHistory (overrideRow store chart chartRef override appMetrics user now) = (entry, after))
      (fun _ after => after = store) := by
  refine Service.ends_bind (Service.ends_require (fun chart found => ?_) fun _ => rfl)
  refine Service.ends_bind (Service.ends_require (fun chartRef foundRef => ?_) fun _ => rfl)
  exact Service.ends_bind (Service.ends_look (Service.ends_act ⟨chart, chartRef, found, foundRef, rfl⟩))

end Delivery.Recorder
