import Delivery.Proofs.History.Inheritance
import Delivery.Proofs.History.Trail
set_option autoImplicit false

namespace Delivery.Store

def pipelinesOf (store : Store) (app : AppId) : List CdPipeline :=
  store.cdPipelines.filter fun pipeline => pipeline.appId == app && !pipeline.deleted

def templateInForce (store : Store) (chart : Chart) (environment : EnvironmentId) : Json :=
  match store.envOverrideFor? chart.id environment with
  | some row => row.effectiveTemplate chart
  | none => chart.globalOverride

section Pipelines

variable {store : Store} {app : AppId} {chart : Chart} {environment : EnvironmentId} {pipeline : CdPipeline}

theorem mem_pipelines_of : pipeline ∈ store.pipelinesOf app ↔
    pipeline ∈ store.cdPipelines.rows ∧ pipeline.appId = app ∧ pipeline.deleted = false := by
  simp [pipelinesOf, Table.filter]

theorem pipeline_found (registered : Registered store) (member : pipeline ∈ store.pipelinesOf app) :
    store.cdPipelines.get? pipeline.id = some pipeline :=
  (mem_rows_own registered.deployments).mp (mem_pipelines_of.mp member).1

theorem pipeline_for_member (found : store.cdPipelineFor? app environment = some pipeline) :
    pipeline ∈ store.pipelinesOf app ∧ pipeline.environmentId = environment := by
  have passes := List.find?_some found
  have present : pipeline ∈ store.cdPipelines.rows := List.mem_of_find?_eq_some found
  simp only [Bool.and_eq_true, beq_iff_eq, Bool.not_eq_true'] at passes
  exact ⟨mem_pipelines_of.mpr ⟨present, passes.1.1, passes.2⟩, passes.1.2⟩

theorem pipeline_for_found (member : pipeline ∈ store.pipelinesOf app) :
    ∃ other, store.cdPipelineFor? app pipeline.environmentId = some other := by
  obtain ⟨present, own, alive⟩ := mem_pipelines_of.mp member
  have passes : ∃ other ∈ store.cdPipelines.rows,
      (other.appId == app && other.environmentId == pipeline.environmentId && !other.deleted) = true :=
    ⟨pipeline, present, by simp [own, alive]⟩
  exact Option.isSome_iff_exists.mp (List.find?_isSome.mpr passes)

theorem inheriting_fresh (rooted : Rooted store) (fresh : store.charts.get? chart.id = none) :
    store.activeOverrides chart.id = [] ∧ store.pipelinesInheriting app chart.id = store.pipelinesOf app := by
  have none : store.activeOverrides chart.id = [] := by
    refine List.eq_nil_iff_forall_not_mem.mpr fun row member => ?_
    obtain ⟨present, own, _⟩ := active_override_iff.mp member
    obtain ⟨key, found⟩ := Table.mem_rows.mp present
    obtain ⟨owner, there⟩ := rooted.charted found
    simp [own, fresh] at there
  refine ⟨none, List.filter_congr fun pipeline _ => ?_⟩
  have passed : (store.overridingEnvironments chart.id).contains pipeline.environmentId = false := by
    rw [← Bool.not_eq_true, overriding_iff, none]
    simp
  calc (pipeline.appId == app && !pipeline.deleted && !(store.overridingEnvironments chart.id).contains
        pipeline.environmentId)
      = (pipeline.appId == app && !pipeline.deleted && true) := by rw [passed, Bool.not_false]
    _ = (pipeline.appId == app && !pipeline.deleted) := Bool.and_true _

end Pipelines

end Delivery.Store

namespace Delivery.Recorder

open Store Charts

def OfPipeline (store : Store) (holds : CdPipeline → NewHistory → Prop) (row : NewHistory) : Prop :=
  ∀ id, row.pipelineId = some id → ∃ pipeline, store.cdPipelines.get? id = some pipeline ∧ holds pipeline row

def Truthful (store : Store) (chart : Chart) : NewHistory → Prop :=
  OfPipeline store fun pipeline row => row.template = store.templateInForce chart pipeline.environmentId

def ForInheriting (store : Store) (chart : Chart) : NewHistory → Prop :=
  OfPipeline store fun pipeline _ => store.inherits chart.id pipeline.environmentId = true

-- No active override for an environment that the application deploys to says anything else than the chart.
def OverridesAlike (store : Store) (app : AppId) (chart : Chart) : Prop :=
  ∀ pipeline ∈ store.pipelinesOf app, ∀ row ∈ store.activeOverrides chart.id,
    row.targetEnvironment = pipeline.environmentId → row.effectiveTemplate chart = chart.globalOverride

def carriedRow (store : Store) (chart : Chart) (chartRef : ChartRef) (user : UserId) (now : Instant)
    (override : EnvOverride) : NewHistory :=
  overrideRow store chart chartRef override (metricsInForce store chart.appId override.targetEnvironment) user now

section Notes

variable {store : Store} {chart : Chart} {chartRef : ChartRef} {user : UserId} {now : Instant}

theorem carry_override_notes (found : store.charts.get? chart.id = some chart)
    (foundRef : store.chartRefs.get? chart.chartRefId = some chartRef) (row : EnvOverride) :
    (carryOverride chart.appId chart.id user now row).Ends store
      (fun _ after => KeepsFlags store after ∧
        after.trail = store.trail.note (carriedRow store chart chartRef user now row)) (fun _ _ => True) := by
  refine Service.ends_bind (Service.ends_transact (fun created made done => ?_) fun _ _ => trivial)
  obtain ⟨_, _, createdEq, madeEq⟩ := create_override_ok done
  have charts : made.charts = store.charts := override_charts done
  refine Service.ends_bind (resolve_app_metrics_ends ?_)
  refine Service.ends_bind (Service.ends_weaken (record_override_change_ends created _ user now made) ?_
    fun _ _ _ => trivial)
  rintro entry after ⟨owner, ref, there, thereRef, appended⟩
  obtain rfl : owner = chart := by
    rw [createdEq, charts] at there
    exact Option.some.inj (there.symm.trans found)
  obtain rfl : ref = chartRef := by
    rw [madeEq] at thereRef
    exact Option.some.inj (thereRef.symm.trans foundRef)
  have behind : after = (made.appendHistory _).2 := (congrArg Prod.snd appended).symm
  refine Service.ends_pure ⟨?_, ?_⟩
  · rw [behind]
    exact keeps_flags_trans (create_override_keeps done) (keeps_flags_of_history (append_history_only made _))
  · rw [behind, madeEq, createdEq]
    rfl

theorem carried_row_kept {middle : Store} (kept : KeepsFlags store middle) :
    carriedRow middle chart chartRef user now = carriedRow store chart chartRef user now := by
  rw [kept]
  rfl

theorem carry_all_notes (found : store.charts.get? chart.id = some chart)
    (foundRef : store.chartRefs.get? chart.chartRefId = some chartRef) (rows : List EnvOverride) :
    (rows.forM (carryOverride chart.appId chart.id user now)).Ends store
      (fun _ after => KeepsFlags store after ∧
        after.trail = store.trail.noteAll (rows.map (carriedRow store chart chartRef user now))) (fun _ _ => True) := by
  induction rows generalizing store with
  | nil => exact Service.ends_pure ⟨keeps_flags_refl store, rfl⟩
  | cons row rest ih =>
      refine Service.ends_bind (Service.ends_weaken (carry_override_notes found foundRef row) ?_ fun _ _ _ => trivial)
      rintro _ middle ⟨kept, noted⟩
      have charted : KeepsCharts store middle := keeps_charts_of_flags kept
      refine Service.ends_weaken (ih ?_ ?_) ?_ fun _ _ _ => trivial
      · rw [keeps_charts_charts charted, found]
      · rw [keeps_charts_refs charted, foundRef]
      · rintro _ after ⟨later, behind⟩
        refine ⟨keeps_flags_trans kept later, ?_⟩
        rw [behind, noted, carried_row_kept kept]
        rfl

theorem create_notes (request : TemplateRequest) (now : Instant) (store : Store) :
    (create request now).Ends store
      (fun created after => CreatesFlagged request now store created after ∧ ∃ chartRef appMetrics,
        after.trail = store.trail.noteAll (changeRows store created chartRef appMetrics request.userId now))
      (fun _ _ => True) := by
  refine Service.ends_bind (Service.ends_require (fun app foundApp => ?_) fun _ => trivial)
  refine Service.ends_bind (Service.ends_require (fun chartRef foundRef => ?_) fun _ => trivial)
  refine Service.ends_bind (Service.ends_look ?_)
  dsimp only
  split
  · exact Service.ends_bind (Service.ends_throw trivial)
  · refine Service.ends_bind (Service.ends_require (fun repo foundRepo => ?_) fun _ => trivial)
    refine Service.ends_bind (next_version_ends ?_)
    refine Service.ends_bind (Service.ends_transact (fun created made done => ?_) fun _ _ => trivial)
    refine Service.ends_bind (Service.ends_act ?_)
    refine Service.ends_bind (Service.ends_weaken (record_template_change_ends created _ request.userId now _) ?_
      fun _ _ _ => trivial)
    rintro rows after ⟨ref, _, appended⟩
    have behind : after = (Store.appendHistories _ _).2 := (congrArg Prod.snd appended).symm
    refine Service.ends_pure ⟨⟨app, chartRef, repo, made, foundApp, foundRef, foundRepo, done, ?_⟩, ref,
      request.appMetrics && chartRef.appMetricsSupported, ?_⟩
    · rw [behind]
      exact append_histories_keeps _ _
    · obtain ⟨_, _, madeEq⟩ := create_chart_ok done
      rw [behind, append_histories_trail, madeEq]
      rfl

theorem upgrade_notes (app : AppId) (target : ChartRefId) (user : UserId) (now : Instant) (store : Store)
    (reached : Reachable store) : (upgrade app target user now).Ends store
      (fun created after => ∃ old createdRef chartRef appMetrics, store.latestChart? app = some old ∧
        after.trail = store.trail.noteAll (changeRows store created createdRef appMetrics user now ++
          (store.activeOverrides old.id).map (carriedRow after created chartRef user now))) (fun _ _ => True) := by
  refine Service.ends_bind (Service.ends_require (fun old isLatest => ?_) fun _ => trivial)
  refine Service.ends_bind (Service.ends_require (fun _ _ => ?_) fun _ => trivial)
  refine Service.ends_bind (Service.ends_require (fun chartRef found => ?_) fun _ => trivial)
  refine Service.ends_bind (Service.ends_of_except (fun _ _ => ?_) fun _ _ => trivial)
  refine Service.ends_bind (Service.ends_look ?_)
  refine Service.ends_bind (Service.ends_weaken (Service.ends_with_run (create_notes _ now store)) ?_ fun _ _ _ => trivial)
  rintro created middle ⟨ran, creates, createdRef, appMetrics, noted⟩
  have named : chartRef.id = target := (reachable_orderly reached).chartRefs found
  have makes : Makes app old created chartRef middle := created_makes reached rfl (named ▸ found) creates
  have kept : KeepsOverrides store middle := created_keeps_overrides ran
  refine Service.ends_bind (Service.ends_look ?_)
  have same : middle.activeOverrides old.id = store.activeOverrides old.id := by
    rw [activeOverrides, activeOverrides, kept.1]
  rw [same, ← makes.own]
  refine Service.ends_bind (Service.ends_weaken (carry_all_notes makes.here makes.foundRef _) ?_ fun _ _ _ => trivial)
  rintro _ after ⟨later, behind⟩
  refine Service.ends_pure ⟨old, createdRef, chartRef, appMetrics, makes.own ▸ isLatest, ?_⟩
  rw [behind, noted, carried_row_kept later]
  exact (List.foldl_append ..).symm

end Notes

section Truth

variable {app : AppId} {target : ChartRefId} {user : UserId} {now : Instant} {before middle after : Store}
  {old created : Chart} {oldRef chartRef : ChartRef} {pipeline : CdPipeline} {holds : CdPipeline → NewHistory → Prop}

theorem of_pipeline_iff {row : NewHistory} (named : row.pipelineId = some pipeline.id)
    (found : after.cdPipelines.get? pipeline.id = some pipeline) :
    OfPipeline after holds row ↔ holds pipeline row := by
  constructor
  · intro of
    obtain ⟨other, there, right⟩ := of pipeline.id named
    obtain rfl : other = pipeline := Option.some.inj (there.symm.trans found)
    exact right
  · intro right id other
    obtain rfl : pipeline.id = id := Option.some.inj (named.symm.trans other)
    exact ⟨pipeline, found, right⟩

theorem change_rows_of_pipelines (rooted : Rooted before) (registered : Registered before)
    (fresh : before.charts.get? created.id = none) (own : created.appId = app)
    (pipelines : after.cdPipelines = before.cdPipelines) (appMetrics : Bool) :
    (∀ row ∈ changeRows before created chartRef appMetrics user now, OfPipeline after holds row) ↔
      ∀ pipeline ∈ before.pipelinesOf app,
        holds pipeline (rowFor (templateRow created chartRef appMetrics user now) pipeline) := by
  rw [changeRows, List.forall_mem_cons, List.forall_mem_map, own, (inheriting_fresh rooted fresh).2]
  have first : OfPipeline after holds (templateRow created chartRef appMetrics user now) := by
    intro id named
    cases named
  simp only [first, true_and]
  refine forall₂_congr fun pipeline member => of_pipeline_iff rfl ?_
  rw [pipelines]
  exact pipeline_found registered member

theorem carried_rows_truthful (registered : Registered before) (own : created.appId = app)
    (pipelines : after.cdPipelines = before.cdPipelines) (rows : List EnvOverride) :
    (∀ row ∈ rows.map (carriedRow after created chartRef user now), Truthful after created row) ↔
      ∀ row ∈ rows, ∀ pipeline, before.cdPipelineFor? app row.targetEnvironment = some pipeline →
        row.effectiveTemplate created = after.templateInForce created row.targetEnvironment := by
  rw [List.forall_mem_map]
  refine forall₂_congr fun row member => ?_
  have same : after.cdPipelineFor? created.appId row.targetEnvironment =
      before.cdPipelineFor? app row.targetEnvironment := by
    rw [cdPipelineFor?, cdPipelineFor?, pipelines, own]
  cases found : before.cdPipelineFor? app row.targetEnvironment with
  | none =>
      have unnamed : (carriedRow after created chartRef user now row).pipelineId = none := by
        simp [carriedRow, overrideRow, same, found]
      simp [Truthful, OfPipeline, unnamed]
  | some pipeline =>
      obtain ⟨mine, here⟩ := pipeline_for_member found
      have named : (carriedRow after created chartRef user now row).pipelineId = some pipeline.id := by
        simp [carriedRow, overrideRow, same, found]
      have there : after.cdPipelines.get? pipeline.id = some pipeline := by
        rw [pipelines]
        exact pipeline_found registered mine
      rw [Truthful, of_pipeline_iff named there, here]
      simp [carriedRow, overrideRow]

theorem in_force_of_alike (alike : OverridesAlike before app old) (member : pipeline ∈ before.pipelinesOf app) :
    before.templateInForce old pipeline.environmentId = old.globalOverride := by
  cases newest : before.envOverrideFor? old.id pipeline.environmentId with
  | none => simp [templateInForce, newest]
  | some row =>
      obtain ⟨active, here⟩ := newest_active newest
      simpa [templateInForce, newest] using alike pipeline member row active here

theorem alike_iff_in_force : OverridesAlike before app old ↔
    (∀ pipeline ∈ before.pipelinesOf app,
      old.globalOverride = before.templateInForce old pipeline.environmentId) ∧
    ∀ row ∈ before.activeOverrides old.id, ∀ pipeline,
      before.cdPipelineFor? app row.targetEnvironment = some pipeline →
      row.effectiveTemplate old = before.templateInForce old row.targetEnvironment := by
  constructor
  · intro alike
    refine ⟨fun pipeline member => (in_force_of_alike alike member).symm, fun row active pipeline found => ?_⟩
    obtain ⟨member, here⟩ := pipeline_for_member found
    rw [alike pipeline member row active here.symm, ← here, in_force_of_alike alike member]
  · rintro ⟨whole, each⟩ pipeline member row active here
    obtain ⟨other, found⟩ := pipeline_for_found member
    rw [each row active other (here ▸ found), here, ← whole pipeline member]

theorem moved_pipelines (moved : Moved app target user now before old created oldRef chartRef middle after) :
    after.cdPipelines = before.cdPipelines := by
  obtain ⟨_, _, _, made, _, _, _, done, sets⟩ := moved.creates
  obtain ⟨_, _, madeEq⟩ := create_chart_ok done
  have first : KeepsCharts made middle := sets_flag_keeps_charts sets
  have second : KeepsCharts middle after := keeps_charts_of_flags (carries_over_keeps moved.carries)
  rw [second, first, madeEq]

theorem moved_in_force (globalOverride : created.globalOverride = old.globalOverride) {environment : EnvironmentId}
    (same : SameOverride app environment before old.id after created.id) :
    after.templateInForce created environment = before.templateInForce old environment ∧
      after.inherits created.id environment = before.inherits old.id environment := by
  cases same with
  | none absent still => simp [templateInForce, inherits, absent, still, globalOverride]
  | some newest carried alike _ _ =>
      simp [templateInForce, inherits, newest, carried, EnvOverride.effectiveTemplate, alike.values, alike.isOverride,
        globalOverride]

end Truth

/-- An upgrade that ends well notes the template of the new chart for the application and for all its pipelines, and
then each active override of the old chart for the pipeline of its environment. All of these rows show what their
environments deploy with once the upgrade is done exactly if no override of an environment that is deployed to says
anything else than the chart; and the template of the chart is noted for no pipeline whose environment overrides it
exactly if there is none. -/
theorem upgrade_truthful_iff (app : AppId) (target : ChartRefId) (user : UserId) (now : Instant)
    (before after : Store) (created : Chart) (reached : Reachable before)
    (answered : (upgrade app target user now).run before = (.ok created, after))
    (roomCharts : after.chartCount < Id.capacity) (roomOverrides : after.envOverrideCount < Id.capacity)
    (roomHistory : after.historyCount < Id.capacity) :
    ∃ old noted carried, before.latestChart? app = some old ∧
      after.history.rows = before.history.rows ++ (noted ++ carried) ∧
      noted.map (fun row => (row.pipelineId, row.template)) = (none, created.globalOverride) ::
        (before.pipelinesOf app).map (fun pipeline => (some pipeline.id, created.globalOverride)) ∧
      carried.map (fun row => (row.pipelineId, row.template)) = (before.activeOverrides old.id).map (fun row =>
        ((before.cdPipelineFor? app row.targetEnvironment).map (·.id), row.effectiveTemplate created)) ∧
      ((∀ row ∈ noted ++ carried, Truthful after created row.toNewHistory) ↔ OverridesAlike before app old) ∧
      ((∀ row ∈ noted, ForInheriting after created row.toNewHistory) ↔
        ∀ pipeline ∈ before.pipelinesOf app, before.inherits old.id pipeline.environmentId = true) := by
  obtain ⟨old, oldRef, chartRef, middle, moved⟩ := Service.ends_ok (upgrade_moves app target user now before) answered
  obtain ⟨other, createdRef, ref, appMetrics, isLatest, noted⟩ :=
    Service.ends_ok (upgrade_notes app target user now before reached) answered
  obtain rfl : other = old := Option.some.inj (isLatest.symm.trans moved.isLatest)
  have rooted : Rooted before := reachable_rooted reached
  have registered : Registered before := reachable_registered reached
  have makes : Makes app other created chartRef middle := moved_makes reached moved
  have charts : middle.chartCount = after.chartCount :=
    (keeps_charts_count (keeps_charts_of_flags (carries_over_keeps moved.carries))).symm
  have fresh : before.charts.get? created.id = none := creates_fresh reached (charts ▸ roomCharts) moved.creates
  have pipelines : after.cdPipelines = before.cdPipelines := moved_pipelines moved
  have inForce := fun environment => moved_in_force makes.globalOverride
    (moved_same_override reached roomOverrides moved fresh environment)
  have templates : ∀ row : EnvOverride, row.effectiveTemplate created = row.effectiveTemplate other := fun row => by
    rw [EnvOverride.effectiveTemplate, EnvOverride.effectiveTemplate, makes.globalOverride]
  -- The rows stand behind the earlier ones, in the order in which they were noted.
  have counted : after.historyCount = before.trail.count + (_ ++ _ : List NewHistory).length :=
    (congrArg Trail.count noted).trans note_all_count
  obtain ⟨rows, behind, contents⟩ := note_all_rows (reachable_in_order reached) (counted ▸ roomHistory)
  obtain ⟨template, overrides, rfl, templateRows, overrideRows⟩ := List.map_eq_append_iff.mp contents
  refine ⟨other, template, overrides, isLatest, (congrArg (·.table.rows) noted).trans behind, ?_, ?_, ?_, ?_⟩
  · have shown := congrArg (List.map fun row => (row.pipelineId, row.template)) templateRows
    rw [changeRows, makes.own, (inheriting_fresh rooted fresh).2] at shown
    simpa [templateRow, rowFor, Function.comp_def] using shown
  · have shown := congrArg (List.map fun row => (row.pipelineId, row.template)) overrideRows
    simpa [carriedRow, overrideRow, cdPipelineFor?, pipelines, makes.own, Function.comp_def] using shown
  · have parts : (∀ row ∈ template ++ overrides, Truthful after created row.toNewHistory) ↔
        (∀ row ∈ changeRows before created createdRef appMetrics user now, Truthful after created row) ∧
        ∀ row ∈ (before.activeOverrides other.id).map (carriedRow after created ref user now),
          Truthful after created row := by
      rw [← templateRows, ← overrideRows, List.forall_mem_append, List.forall_mem_map, List.forall_mem_map]
    rw [parts, alike_iff_in_force, carried_rows_truthful registered makes.own pipelines]
    refine and_congr ((change_rows_of_pipelines rooted registered fresh makes.own pipelines appMetrics).trans ?_) ?_
    · refine forall₂_congr fun pipeline _ => ?_
      rw [(inForce pipeline.environmentId).1, ← makes.globalOverride]
      rfl
    · refine forall₂_congr fun row _ => ?_
      rw [(inForce row.targetEnvironment).1, templates row]
  · have parts : (∀ row ∈ template, ForInheriting after created row.toNewHistory) ↔
        ∀ row ∈ changeRows before created createdRef appMetrics user now, ForInheriting after created row := by
      rw [← templateRows, List.forall_mem_map]
    rw [parts]
    refine (change_rows_of_pipelines rooted registered fresh makes.own pipelines appMetrics).trans ?_
    refine forall₂_congr fun pipeline _ => ?_
    rw [(inForce pipeline.environmentId).2]

def sampleInherited : Store :=
  let made := Command.perform (Fixtures.seedApp .empty) (.create Sample.templateRequest Sample.moment)
  storeOverride made { Sample.newEnvOverride with isOverride := false }

theorem sample_inherited_edited : Edited sampleInherited := by
  have made : Edited (Command.perform (Fixtures.seedApp .empty) (.create Sample.templateRequest Sample.moment)) :=
    .use (.start seed_app_reachable rfl) _
  exact store_override_edited made _

theorem sample_upgrade_truthful : ∃ created after noted,
    (upgrade ⟨1⟩ ⟨2⟩ Fixtures.testUser Sample.moment).run sampleInherited = (.ok created, after) ∧
    after.history.rows = sampleInherited.history.rows ++ noted ∧
    noted.map (·.pipelineId) = [none, some ⟨100⟩, some ⟨101⟩, some ⟨100⟩] ∧
    ∀ row ∈ noted, Truthful after created row.toNewHistory := by
  obtain ⟨old, noted, carried, isLatest, behind, _, _, truthful, _⟩ :=
    upgrade_truthful_iff ⟨1⟩ ⟨2⟩ Fixtures.testUser Sample.moment sampleInherited _ _
      (edited_reachable sample_inherited_edited) rfl (by decide) (by decide) (by decide)
  have alike : ∀ chart ∈ sampleInherited.latestChart? ⟨1⟩, OverridesAlike sampleInherited ⟨1⟩ chart := by
    unfold OverridesAlike
    decide
  refine ⟨_, _, noted ++ carried, rfl, behind, ?_, truthful.mpr (alike old isLatest)⟩
  have later := congrArg (List.drop sampleInherited.history.rows.length) behind
  rw [List.drop_left] at later
  rw [← later]
  decide

theorem upgrade_untruthful : Reachable sampleOverridden ∧ ∃ created after row,
    (upgrade ⟨1⟩ ⟨2⟩ Fixtures.testUser Sample.moment).run sampleOverridden = (.ok created, after) ∧
    sampleOverridden.history.get? ⟨5⟩ = none ∧ after.history.get? ⟨5⟩ = some row ∧
    row.pipelineId = some ⟨100⟩ ∧ row.template = created.globalOverride ∧
    after.templateInForce created ⟨10⟩ = Fixtures.values 5 ∧
    ¬Truthful after created row.toNewHistory ∧ ¬ForInheriting after created row.toNewHistory := by
  refine ⟨edited_reachable sample_overridden_edited, _, _, _, rfl, rfl, rfl, rfl, rfl, by decide, ?_, ?_⟩
  · intro truthful
    obtain ⟨pipeline, found, shown⟩ := truthful ⟨100⟩ rfl
    obtain rfl := Option.some.inj found
    exact absurd shown (by decide)
  · intro inheriting
    obtain ⟨pipeline, found, shown⟩ := inheriting ⟨100⟩ rfl
    obtain rfl := Option.some.inj found
    exact absurd shown (by decide)

end Delivery.Recorder
