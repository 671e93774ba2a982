import Mathlib.Data.List.Nodup
import Delivery.Proofs.Charts.Upgrades
import Delivery.Proofs.History.Changes
set_option autoImplicit false

namespace Delivery.Store

def inherits (store : Store) (chart : ChartId) (environment : EnvironmentId) : Bool :=
  (store.envOverrideFor? chart environment).all fun row => !row.isOverride

def inheritors (store : Store) (app : AppId) (chart : ChartId) : List CdPipeline :=
  store.cdPipelines.filter fun pipeline =>
    pipeline.appId == app && !pipeline.deleted && store.inherits chart pipeline.environmentId

def NoOverrideBehind (store : Store) (app : AppId) (chart : ChartId) : Prop :=
  ∀ pipeline ∈ store.inheritors app chart, ∀ row ∈ store.activeOverrides chart,
    row.targetEnvironment = pipeline.environmentId → row.isOverride = false

section Views

variable {store : Store} {app : AppId} {chart : ChartId} {environment : EnvironmentId} {pipeline : CdPipeline}

theorem active_override_iff {row : EnvOverride} :
    row ∈ store.activeOverrides chart ↔ row ∈ store.envOverrides.rows ∧ row.chartId = chart ∧ row.active = true := by
  simp [activeOverrides, Table.filter]

theorem newest_active {row : EnvOverride} (newest : store.envOverrideFor? chart environment = some row) :
    row ∈ store.activeOverrides chart ∧ row.targetEnvironment = environment := by
  rw [Charts.newest_of_active] at newest
  have here : Charts.isIn environment row = true := List.find?_some newest
  exact ⟨List.mem_reverse.mp (List.mem_of_find?_eq_some newest), beq_iff_eq.mp here⟩

theorem overriding_iff : (store.overridingEnvironments chart).contains environment = true ↔
    ∃ row ∈ store.activeOverrides chart, row.targetEnvironment = environment ∧ row.isOverride = true := by
  simp only [overridingEnvironments, List.contains_iff_mem, List.mem_map, active_override_iff]
  constructor
  · rintro ⟨row, member, here⟩
    obtain ⟨present, passes⟩ := List.mem_filter.mp member
    simp only [Bool.and_eq_true, beq_iff_eq] at passes
    exact ⟨row, ⟨present, passes.1.1, passes.2⟩, here, passes.1.2⟩
  · rintro ⟨row, ⟨present, own, active⟩, here, overrides⟩
    exact ⟨row, List.mem_filter.mpr ⟨present, by simp [own, overrides, active]⟩, here⟩

theorem inherits_of_none (none : ∀ row ∈ store.activeOverrides chart, row.targetEnvironment = environment →
    row.isOverride = false) : store.inherits chart environment = true := by
  cases newest : store.envOverrideFor? chart environment with
  | none => simp [inherits, newest]
  | some row =>
      obtain ⟨active, here⟩ := newest_active newest
      simp [inherits, newest, none row active here]

theorem inheritor_iff : pipeline ∈ store.inheritors app chart ↔
    pipeline ∈ store.cdPipelines.rows ∧ pipeline.appId = app ∧ pipeline.deleted = false ∧
      store.inherits chart pipeline.environmentId = true := by
  simp [inheritors, Table.filter, and_assoc]

theorem inheriting_iff : pipeline ∈ store.pipelinesInheriting app chart ↔
    pipeline ∈ store.cdPipelines.rows ∧ pipeline.appId = app ∧ pipeline.deleted = false ∧
      ∀ row ∈ store.activeOverrides chart, row.targetEnvironment = pipeline.environmentId → row.isOverride = false := by
  have passed : (store.overridingEnvironments chart).contains pipeline.environmentId = false ↔
      ∀ row ∈ store.activeOverrides chart, row.targetEnvironment = pipeline.environmentId → row.isOverride = false := by
    rw [← Bool.not_eq_true, overriding_iff]
    simp
  rw [← passed]
  simp [pipelinesInheriting, Table.filter, and_assoc]

theorem inheritor_of_inheriting (member : pipeline ∈ store.pipelinesInheriting app chart) :
    pipeline ∈ store.inheritors app chart := by
  obtain ⟨present, own, alive, none⟩ := inheriting_iff.mp member
  exact inheritor_iff.mpr ⟨present, own, alive, inherits_of_none none⟩

theorem inheriting_eq_iff :
    store.pipelinesInheriting app chart = store.inheritors app chart ↔ store.NoOverrideBehind app chart := by
  constructor
  · intro same pipeline member
    rw [← same] at member
    exact (inheriting_iff.mp member).2.2.2
  · intro none
    refine List.filter_congr fun pipeline present => Bool.eq_iff_iff.mpr ⟨fun passes => ?_, fun passes => ?_⟩
    · have member := inheritor_of_inheriting (List.mem_filter.mpr ⟨present, passes⟩)
      exact (List.mem_filter.mp member).2
    · have member : pipeline ∈ store.inheritors app chart := List.mem_filter.mpr ⟨present, passes⟩
      obtain ⟨_, own, alive, _⟩ := inheritor_iff.mp member
      have taken := inheriting_iff.mpr ⟨present, own, alive, none pipeline member⟩
      exact (List.mem_filter.mp taken).2

end Views

theorem pipeline_ids_distinct {store : Store} (registered : Registered store) :
    (store.cdPipelines.rows.map (·.id)).Nodup :=
  names_distinct registered.deployments

end Delivery.Store

namespace Delivery.Recorder

open Store

theorem change_rows_pipelines (store : Store) (chart : Chart) (chartRef : ChartRef) (appMetrics : Bool) (user : UserId)
    (now : Instant) : (changeRows store chart chartRef appMetrics user now).map (·.pipelineId) =
      none :: (store.pipelinesInheriting chart.appId chart.id).map fun pipeline => some pipeline.id := by
  simp [changeRows, templateRow, rowFor, Function.comp_def]

theorem noted_for_inheritors_iff {store : Store} (registered : Registered store) (app : AppId) (chart : ChartId) :
    ((store.pipelinesInheriting app chart).map fun pipeline => some pipeline.id) =
      ((store.inheritors app chart).map fun pipeline => some pipeline.id) ↔ store.NoOverrideBehind app chart := by
  rw [← inheriting_eq_iff]
  constructor
  · intro same
    rw [inheriting_eq_iff]
    intro pipeline member
    have named : some pipeline.id ∈ (store.pipelinesInheriting app chart).map fun pipeline => some pipeline.id :=
      same ▸ List.mem_map_of_mem member
    obtain ⟨other, inheriting, sameId⟩ := List.mem_map.mp named
    have present : pipeline ∈ store.cdPipelines.rows := (inheritor_iff.mp member).1
    have there : other ∈ store.cdPipelines.rows := (inheriting_iff.mp inheriting).1
    obtain rfl : other = pipeline :=
      List.inj_on_of_nodup_map (pipeline_ids_distinct registered) there present (Option.some.inj sameId)
    exact (inheriting_iff.mp inheriting).2.2.2
  · intro same
    rw [same]

/-- The pipelines that are given the template of a chart are those whose environment inherits it, exactly if no active
override stands behind a newer one that inherits. A change of the template is noted once for the application and once
for each pipeline that is given the template; these are the inheriting ones, each of them once and no others, exactly
under the same condition. -/
theorem inheriting_views_agree_iff (store : Store) (reached : Reachable store) :
    (∀ app chart, store.pipelinesInheriting app chart = store.inheritors app chart ↔
      store.NoOverrideBehind app chart) ∧
    ∀ chart chartRef appMetrics user now, store.chartRefs.get? chart.chartRefId = some chartRef →
      ∃ rows after, (recordTemplateChange chart appMetrics user now).run store = (.ok rows, after) ∧
        (after.historyCount < Id.capacity →
          after.history.rows = store.history.rows ++ rows ∧
          rows.map (·.toNewHistory) = changeRows store chart chartRef appMetrics user now ∧
          ((store.inheritors chart.appId chart.id).map (·.id)).Nodup ∧
          (rows.map (·.pipelineId) =
            none :: ((store.inheritors chart.appId chart.id).map fun pipeline => some pipeline.id) ↔
              store.NoOverrideBehind chart.appId chart.id)) := by
  have registered : Registered store := reachable_registered reached
  refine ⟨fun app chart => inheriting_eq_iff, fun chart chartRef appMetrics user now found => ?_⟩
  let noted := store.appendHistories (changeRows store chart chartRef appMetrics user now)
  refine ⟨noted.1, noted.2, ?_, fun room => ?_⟩
  · apply Service.run_of_ends
    refine Service.ends_weaken (record_template_change_ends chart appMetrics user now store) ?_ ?_
    · rintro rows after ⟨other, there, appended⟩
      obtain rfl : other = chartRef := Option.some.inj (there.symm.trans found)
      exact ⟨(congrArg Prod.fst appended).symm, (congrArg Prod.snd appended).symm⟩
    · rintro _ _ ⟨_, _, absent⟩
      cases absent.symm.trans found
  · rw [append_histories_count] at room
    obtain ⟨behind, contents⟩ := append_histories_rows store _ (reachable_in_order reached) room
    have pipelines := change_rows_pipelines store chart chartRef appMetrics user now
    rw [← contents, List.map_map] at pipelines
    refine ⟨behind, contents, ?_, ?_⟩
    · exact (pipeline_ids_distinct registered).sublist (List.filter_sublist.map _)
    · show noted.1.map ((fun row : NewHistory => row.pipelineId) ∘ fun row => row.toNewHistory) = _ ↔ _
      rw [pipelines, List.cons.injEq, ← noted_for_inheritors_iff registered]
      simp

def sampleChart : Chart :=
  (Charts.sampleOverridden.charts.get? (Id.nth 0)).getD Sample.chart

theorem sample_views_agree :
    Charts.sampleOverridden.pipelinesInheriting ⟨1⟩ sampleChart.id =
      Charts.sampleOverridden.inheritors ⟨1⟩ sampleChart.id ∧
    ∃ rows after, (recordTemplateChange sampleChart false Fixtures.testUser Sample.moment).run Charts.sampleOverridden =
      (.ok rows, after) ∧ rows.map (·.pipelineId) = [none, some ⟨101⟩] := by
  have reached : Reachable Charts.sampleOverridden := Charts.edited_reachable Charts.sample_overridden_edited
  have none : Charts.sampleOverridden.NoOverrideBehind ⟨1⟩ sampleChart.id := by
    unfold NoOverrideBehind
    decide
  have inheriting : (Charts.sampleOverridden.inheritors ⟨1⟩ sampleChart.id).map (·.id) = [⟨101⟩] := by decide
  obtain ⟨views, notes⟩ := inheriting_views_agree_iff Charts.sampleOverridden reached
  obtain ⟨rows, after, ran, noted⟩ :=
    notes sampleChart (Fixtures.chartRef ⟨1⟩ WorkloadKind.deployment.chartName "1.2.0") false Fixtures.testUser
      Sample.moment (by decide)
  refine ⟨(views ⟨1⟩ sampleChart.id).mpr none, rows, after, ran, ?_⟩
  have room : after.historyCount < Id.capacity := by
    have counted := congrArg (fun outcome => outcome.2.historyCount) ran
    rw [← counted]
    decide
  rw [(noted room).2.2.2.mpr none]
  exact congrArg (fun ids => Option.none :: ids.map some) inheriting

def sampleReverted : Store :=
  Charts.storeOverride Charts.sampleOverridden { Sample.newEnvOverride with isOverride := false }

theorem inheriting_views_disagree :
    Reachable sampleReverted ∧
    (sampleReverted.inheritors ⟨1⟩ (Id.nth 0)).map (·.id) = [⟨100⟩, ⟨101⟩] ∧
    (sampleReverted.pipelinesInheriting ⟨1⟩ (Id.nth 0)).map (·.id) = [⟨101⟩] ∧
    ((recordTemplateChange sampleChart false Fixtures.testUser Sample.moment).run sampleReverted).1.map
      (·.map (·.pipelineId)) = .ok [none, some ⟨101⟩] :=
  ⟨Charts.edited_reachable (Charts.store_override_edited Charts.sample_overridden_edited _), by decide, by decide,
    by decide⟩

end Delivery.Recorder
