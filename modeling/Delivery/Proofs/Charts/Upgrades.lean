import Delivery.Proofs.Charts.Editing
import Delivery.Proofs.Charts.Metrics
set_option autoImplicit false

namespace Delivery.Charts

open Store

def KeepsOverrides (before after : Store) : Prop :=
  after.envOverrides = before.envOverrides ∧ after.envOverrideCount = before.envOverrideCount

theorem keeps_overrides_filed {before after : Store} (keeps : KeepsOverrides before after)
    (filed : OverridesFiled before) : OverridesFiled after := by
  rw [OverridesFiled, keeps.1, keeps.2]
  exact filed

theorem create_keeps_overrides (request : TemplateRequest) (now : Instant) :
    (create request now).Moves KeepsOverrides := by
  apply create_steps
  · exact fun _ => ⟨rfl, rfl⟩
  · intro store new row after done
    obtain ⟨_, _, rfl⟩ := create_chart_ok done
    exact ⟨rfl, rfl⟩
  · exact fun _ _ _ _ _ => ⟨rfl, rfl⟩
  · intro store rows _
    have only : OnlyHistory store (store.appendHistories rows).2 := append_histories_only store rows
    rw [only]
    exact ⟨rfl, rfl⟩

theorem created_keeps_overrides {request : TemplateRequest} {now : Instant} {store after : Store}
    {answer : Except Error Chart} (ran : (create request now).run store = (answer, after)) :
    KeepsOverrides store after := by
  have kept := Service.moves_run (fun _ => ⟨rfl, rfl⟩)
    (fun left right => ⟨right.1.trans left.1, right.2.trans left.2⟩) (create_keeps_overrides request now) store
  rwa [ran] at kept

inductive CarriesOver (target : ChartId) (user : UserId) (now : Instant) : List EnvOverride → Store → Store → Prop where
  | none (store : Store) : CarriesOver target user now [] store store
  | next {row created : EnvOverride} {rest : List EnvOverride} {store made middle after : Store}
      (done : store.createOverride (carried row target user now) = .ok (created, made))
      (noted : OnlyHistory made middle) (later : CarriesOver target user now rest middle after) :
      CarriesOver target user now (row :: rest) store after

section Ends

variable (app : AppId) (target : ChartId) (user : UserId) (now : Instant)

theorem carry_override_ends (row : EnvOverride) (store : Store) : (carryOverride app target user now row).Ends store
    (fun _ after => ∃ created made, store.createOverride (carried row target user now) = .ok (created, made) ∧
      OnlyHistory made after) (fun _ _ => True) := by
  refine Service.ends_bind (Service.ends_transact (fun created made done => ?_) fun _ _ => trivial)
  apply Service.ends_moves only_history_refl only_history_trans
  · exact carry_noted_steps only_history_refl (fun store rows _ => append_histories_only store rows) app user now created
  · exact fun _ after only => ⟨created, made, done, only⟩
  · exact fun _ _ _ => trivial

theorem carry_all_ends (rows : List EnvOverride) (store : Store) :
    (rows.forM (carryOverride app target user now)).Ends store
      (fun _ after => CarriesOver target user now rows store after) (fun _ _ => True) := by
  induction rows generalizing store with
  | nil => exact Service.ends_pure (.none store)
  | cons row rest ih =>
      refine Service.ends_bind (Service.ends_weaken (carry_override_ends app target user now row store) ?_ ?_)
      · rintro _ middle ⟨created, made, done, noted⟩
        exact Service.ends_weaken (ih middle) (fun _ _ later => .next done noted later) fun _ _ _ => trivial
      · exact fun _ _ _ => trivial

end Ends

structure Moved (app : AppId) (target : ChartRefId) (user : UserId) (now : Instant) (before : Store)
    (old created : Chart) (oldRef chartRef : ChartRef) (middle after : Store) : Prop where
  isLatest : before.latestChart? app = some old
  foundOld : before.chartRefs.get? old.chartRefId = some oldRef
  foundRef : before.chartRefs.get? target = some chartRef
  creates : CreatesFlagged
    { appId := app, chartRefId := chartRef.id, valuesOverride := old.globalOverride,
      appMetrics := before.appMetricsFlag app, userId := user } now before created middle
  keeps : KeepsOverrides before middle
  carries : CarriesOver created.id user now (before.activeOverrides old.id) middle after

theorem upgrade_moves (app : AppId) (target : ChartRefId) (user : UserId) (now : Instant) (store : Store) :
    (upgrade app target user now).Ends store
      (fun created after => ∃ old oldRef chartRef middle,
        Moved app target user now store old created oldRef chartRef middle after) (fun _ _ => True) := by
  refine Service.ends_bind (Service.ends_require (fun old found => ?_) fun _ => trivial)
  refine Service.ends_bind (Service.ends_require (fun oldRef foundOld => ?_) fun _ => trivial)
  refine Service.ends_bind (Service.ends_require (fun chartRef foundRef => ?_) fun _ => trivial)
  refine Service.ends_bind (Service.ends_of_except (fun _ _ => ?_) fun _ _ => trivial)
  refine Service.ends_bind (Service.ends_look ?_)
  refine Service.ends_bind (Service.ends_weaken (Service.ends_with_run (create_ends _ now store)) ?_ fun _ _ _ => trivial)
  rintro created middle ⟨ran, creates⟩
  have kept : KeepsOverrides store middle := created_keeps_overrides ran
  refine Service.ends_bind (Service.ends_look ?_)
  have same : middle.activeOverrides old.id = store.activeOverrides old.id := by
    rw [activeOverrides, activeOverrides, kept.1]
  rw [same]
  refine Service.ends_bind (Service.ends_weaken (carry_all_ends app created.id user now _ middle) ?_ fun _ _ _ => trivial)
  exact fun _ after carries => Service.ends_pure
    ⟨old, oldRef, chartRef, middle, found, foundOld, foundRef, creates, kept, carries⟩

section CarryOver

variable {app : AppId} {target : ChartId} {user : UserId} {now : Instant} {rows : List EnvOverride}
  {store after : Store} {chart : Chart}

theorem carries_over_keeps (carries : CarriesOver target user now rows store after) : KeepsFlags store after := by
  induction carries with
  | none store => exact keeps_flags_refl store
  | next done noted _ ih =>
      exact keeps_flags_trans (keeps_flags_trans (create_override_keeps done) (keeps_flags_of_history noted)) ih

theorem carries_over_count (carries : CarriesOver target user now rows store after) :
    store.envOverrideCount ≤ after.envOverrideCount := by
  induction carries with
  | none store => exact Nat.le_refl _
  | @next row created rest store made middle after done noted _ ih =>
      obtain ⟨_, _, _, madeEq⟩ := create_override_ok done
      have more : made.envOverrideCount = store.envOverrideCount + 1 := by rw [madeEq]
      have same : middle.envOverrideCount = made.envOverrideCount := by rw [noted]
      omega

theorem only_history_filed {before after : Store} (only : OnlyHistory before after) (filed : OverridesFiled before) :
    OverridesFiled after := by
  rw [only]
  exact filed

theorem carries_over_kept (carries : CarriesOver target user now rows store after) (filed : OverridesFiled store)
    (room : after.envOverrideCount < Id.capacity) {key : EnvOverrideId} {old : EnvOverride}
    (there : store.envOverrides.get? key = some old) :
    ∃ kept, after.envOverrides.get? key = some kept ∧ SameButFlags old kept := by
  induction carries generalizing old with
  | none store => exact ⟨old, there, same_but_flags_refl old⟩
  | @next row created rest store made middle after done noted later ih =>
      have same : middle.envOverrideCount = made.envOverrideCount := by rw [noted]
      have roomMade := Nat.lt_of_le_of_lt (same ▸ carries_over_count later) room
      obtain ⟨once, present, first⟩ := override_kept done filed roomMade there
      have stays : middle.envOverrides.get? key = some once := by
        rw [noted]
        exact present
      obtain ⟨kept, found, second⟩ := ih (only_history_filed noted (override_filed done filed)) room stays
      exact ⟨kept, found, same_but_flags_trans first second⟩

def isIn (environment : EnvironmentId) (row : EnvOverride) : Bool :=
  row.targetEnvironment == environment

structure SaysSame (row other : EnvOverride) : Prop where
  values : other.values = row.values
  isOverride : other.isOverride = row.isOverride

structure Arrived (app : AppId) (target : ChartId) (rows : List EnvOverride) (environment : EnvironmentId)
    (store after : Store) : Prop where
  last : ∀ row, rows.reverse.find? (isIn environment) = some row → ∃ made,
    after.envOverrideFor? target environment = some made ∧ LatestOverride after app environment made ∧
      SaysSame row made
  absent : rows.reverse.find? (isIn environment) = none →
    after.envOverrideFor? target environment = store.envOverrideFor? target environment ∧
      ∀ other, LatestOverride store app environment other → LatestOverride after app environment other

theorem arrived_next {row created : EnvOverride} {made middle : Store} {environment : EnvironmentId}
    (found : store.charts.get? target = some chart) (own : chart.appId = app) (filed : OverridesFiled store)
    (room : made.envOverrideCount < Id.capacity)
    (done : store.createOverride (carried row target user now) = .ok (created, made)) (noted : OnlyHistory made middle)
    (rest : Arrived app target rows environment middle after) :
    Arrived app target (row :: rows) environment store after := by
  obtain ⟨_, _, createdEq, _⟩ := create_override_ok done
  -- The newest overrides and the latest ones are not history.
  have newest : middle.envOverrideFor? target environment = made.envOverrideFor? target environment := by rw [noted]; rfl
  have latest : ∀ {other}, LatestOverride made app environment other → LatestOverride middle app environment other := by
    intro other is
    rw [noted]
    exact ⟨is.found, is.here, is.own, is.latest, is.only⟩
  constructor
  · intro last isLast
    rw [List.reverse_cons, List.find?_append] at isLast
    cases later : rows.reverse.find? (isIn environment) with
    | some other =>
        rw [later, Option.some_or] at isLast
        exact rest.last last (later.trans isLast)
    | none =>
        -- No row after this one is for the environment.
        rw [later, Option.none_or] at isLast
        obtain ⟨here, rfl⟩ : isIn environment row = true ∧ row = last := by simpa using isLast
        obtain rfl : row.targetEnvironment = environment := beq_iff_eq.mp here
        obtain ⟨same, stays⟩ := rest.absent later
        have isNewest := newest_here done rfl filed room
        have isLatest := latest_override_here done found filed
        rw [createdEq] at isNewest isLatest
        rw [own] at isLatest
        exact ⟨_, (same.trans newest).trans isNewest, stays _ (latest isLatest), rfl, rfl⟩
  · intro none
    rw [List.reverse_cons, List.find?_append, Option.or_eq_none_iff] at none
    have elsewhere : environment ≠ row.targetEnvironment := by
      rintro rfl
      simp [isIn] at none
    obtain ⟨same, stays⟩ := rest.absent none.1
    refine ⟨(same.trans newest).trans (newest_elsewhere done filed room elsewhere target), ?_⟩
    intro other is
    exact stays other (latest (latest_override_elsewhere done filed room elsewhere is))

theorem carries_over_arrived (carries : CarriesOver target user now rows store after)
    (found : store.charts.get? target = some chart) (own : chart.appId = app) (filed : OverridesFiled store)
    (room : after.envOverrideCount < Id.capacity) (environment : EnvironmentId) :
    Arrived app target rows environment store after := by
  induction carries with
  | none store =>
      constructor
      · intro row isLast
        cases isLast
      · exact fun _ => ⟨rfl, fun _ is => is⟩
  | @next row created rest store made middle after done noted later ih =>
      have same : middle.envOverrideCount = made.envOverrideCount := by rw [noted]
      have roomMade := Nat.lt_of_le_of_lt (same ▸ carries_over_count later) room
      have charts : middle.charts = made.charts := by rw [noted]
      rw [override_charts done] at charts
      refine arrived_next found own filed roomMade done noted ?_
      exact ih (charts ▸ found) (only_history_filed noted (override_filed done filed)) room

theorem newest_of_active (store : Store) (id : ChartId) (environment : EnvironmentId) :
    store.envOverrideFor? id environment = (store.activeOverrides id).reverse.find? (isIn environment) := by
  rw [envOverrideFor?, Table.findLast?, activeOverrides, Table.filter, ← List.filter_reverse, List.find?_filter]
  congr 1
  funext row
  apply Bool.eq_iff_iff.mpr
  simp [isIn, and_assoc, and_comm]

end CarryOver

theorem previous_chart_of_marks {store : Store} {app : AppId} {latest previous : Option ChartId} {key : ChartId}
    {chart : Chart} (marks : Marks store app latest previous) (found : store.charts.get? key = some chart)
    (own : chart.appId = app) (flag : chart.previous = true) : store.previousChart? app = some chart := by
  have points : previous = some key := (marks.previousFlag found own).mp flag
  rw [previousChart?, Table.find_eq_head, flag_filter marks.previousFlag points found own]
  rfl

theorem newest_found {store : Store} {id : ChartId} {environment : EnvironmentId} {row : EnvOverride}
    (newest : store.envOverrideFor? id environment = some row) :
    row.chartId = id ∧ row.targetEnvironment = environment ∧ ∃ key, store.envOverrides.get? key = some row := by
  rw [envOverrideFor?, Table.findLast?] at newest
  have passes := List.find?_some newest
  simp only [Bool.and_eq_true, beq_iff_eq] at passes
  exact ⟨passes.1.1, passes.1.2, Table.mem_rows.mp (List.mem_reverse.mp (List.mem_of_find?_eq_some newest))⟩

theorem deployment_recorded {store : Store} {chart : Chart} {chartRef : ChartRef} {row : EnvOverride}
    (found : store.charts.get? row.chartId = some chart)
    (foundRef : store.chartRefs.get? chart.chartRefId = some chartRef) (pipeline : CdPipeline) (imageTemplate : String)
    (deployedOn : Instant) (deployedBy : UserId) (snapshot : Table String String) :
    ∃ noted after, (Recorder.recordDeployment pipeline row imageTemplate deployedOn deployedBy snapshot).run store =
      (.ok noted, after) ∧ noted.template = row.effectiveTemplate chart := by
  apply Service.result_of_ends
  refine Service.ends_bind (Service.ends_require (fun other there => ?_) fun absent => ?_)
  · obtain rfl : other = chart := Option.some.inj (there.symm.trans found)
    refine Service.ends_bind (Service.ends_require (fun ref present => ?_) fun absent => ?_)
    · refine Service.ends_bind (Service.ends_bind (Service.ends_look ?_))
      split
      · exact Service.ends_pure (Service.ends_act rfl)
      · exact Service.ends_look (Service.ends_act rfl)
    · cases absent.symm.trans foundRef
  · cases absent.symm.trans found

structure SameDeployment (before : Store) (row : EnvOverride) (after : Store) (made : EnvOverride) : Prop where
  template : ∀ pipeline imageTemplate deployedOn deployedBy snapshot, ∃ noted later notedAgain laterAgain,
    (Recorder.recordDeployment pipeline row imageTemplate deployedOn deployedBy snapshot).run before =
      (.ok noted, later) ∧
    (Recorder.recordDeployment pipeline made imageTemplate deployedOn deployedBy snapshot).run after =
      (.ok notedAgain, laterAgain) ∧
    notedAgain.template = noted.template

inductive SameOverride (app : AppId) (environment : EnvironmentId) (before : Store) (old : ChartId) (after : Store)
    (created : ChartId) : Prop where
  | none (absent : before.envOverrideFor? old environment = none)
      (still : after.envOverrideFor? created environment = none) : SameOverride app environment before old after created
  | some {row made : EnvOverride} (newest : before.envOverrideFor? old environment = some row)
      (carried : after.envOverrideFor? created environment = some made) (same : SaysSame row made)
      (latest : LatestOverride after app environment made) (deployment : SameDeployment before row after made) :
      SameOverride app environment before old after created

structure KeepsSettings (app : AppId) (target : ChartRefId) (before : Store) (old created : Chart) (after : Store) :
    Prop where
  latest : after.latestChart? app = some created
  previous : after.previousChart? app = some old.demoted
  globalOverride : created.globalOverride = old.globalOverride
  values : ∃ chartRef, before.chartRefs.get? target = some chartRef ∧
    created.values = chartRef.defaultValues.merged old.globalOverride
  overrides : ∀ environment, SameOverride app environment before old.id after created.id
  rows : ∀ key row, before.envOverrides.get? key = some row →
    ∃ kept, after.envOverrides.get? key = some kept ∧ SameButFlags row kept

section Settings

variable {app : AppId} {target : ChartRefId} {user : UserId} {now : Instant} {before middle after : Store}
  {old created : Chart} {oldRef chartRef : ChartRef}

structure Makes (app : AppId) (old created : Chart) (chartRef : ChartRef) (middle : Store) : Prop where
  own : created.appId = app
  globalOverride : created.globalOverride = old.globalOverride
  values : created.values = chartRef.defaultValues.merged old.globalOverride
  foundRef : middle.chartRefs.get? created.chartRefId = some chartRef
  here : middle.charts.get? created.id = some created

structure Replaces (app : AppId) (before : Store) (old created : Chart) (chartRef : ChartRef) (middle : Store) : Prop
    extends Makes app old created chartRef middle where
  fresh : before.charts.get? created.id = none
  demoted : middle.charts.get? old.id = some old.demoted
  marks : Marks middle app (some created.id) (some old.id)

theorem created_makes {request : TemplateRequest} (reached : Reachable before)
    (asked : request.valuesOverride = old.globalOverride) (found : before.chartRefs.get? request.chartRefId = some chartRef)
    (creates : CreatesFlagged request now before created middle) :
    Makes request.appId old created chartRef middle := by
  obtain ⟨application, ref, repo, made, foundApp, foundRef, _, done, sets⟩ := creates
  have named : application.id = request.appId := (reachable_rooted reached).apps foundApp
  have filed : chartRef.id = request.chartRefId := (reachable_orderly reached).chartRefs found
  obtain rfl : ref = chartRef := Option.some.inj (foundRef.symm.trans found)
  have kept : KeepsCharts made middle := sets_flag_keeps_charts sets
  obtain ⟨createdEq, _, madeEq⟩ := create_chart_ok done
  constructor
  · rw [createdEq]
    exact named
  · rw [createdEq]
    exact asked
  · rw [createdEq, ← asked]
    rfl
  · have reference : created.chartRefId = ref.id := by
      rw [createdEq]
      rfl
    rw [keeps_charts_refs kept, madeEq, reference, filed]
    exact found
  · rw [keeps_charts_charts kept]
    exact created_here done

theorem creates_fresh {request : TemplateRequest} (reached : Reachable before) (room : middle.chartCount < Id.capacity)
    (creates : CreatesFlagged request now before created middle) : before.charts.get? created.id = none := by
  obtain ⟨_, _, _, made, _, _, _, done, sets⟩ := creates
  have counted : middle.chartCount = before.chartCount + 1 := by
    rw [keeps_charts_count (sets_flag_keeps_charts sets), created_count done]
  exact created_fresh (reachable_orderly reached).charts (counted ▸ room) done

theorem moved_makes (reached : Reachable before)
    (moved : Moved app target user now before old created oldRef chartRef middle after) :
    Makes app old created chartRef middle := by
  have named : chartRef.id = target := (reachable_orderly reached).chartRefs moved.foundRef
  exact created_makes reached rfl (named ▸ moved.foundRef) moved.creates

theorem moved_replaces (edited : Edited before) (room : middle.chartCount < Id.capacity)
    (moved : Moved app target user now before old created oldRef chartRef middle after) :
    Replaces app before old created chartRef middle := by
  have reached : Reachable before := edited_reachable edited
  have orderly : Orderly before := reachable_orderly reached
  have makes : Makes app old created chartRef middle := moved_makes reached moved
  have fresh : before.charts.get? created.id = none := creates_fresh reached room moved.creates
  obtain ⟨_, _, _, made, _, _, _, done, sets⟩ := moved.creates
  have kept : KeepsCharts made middle := sets_flag_keeps_charts sets
  have charts : middle.charts = made.charts := keeps_charts_charts kept
  have roomCreated : before.chartCount + 1 < Id.capacity := by
    rwa [keeps_charts_count kept, created_count done] at room
  obtain ⟨createdEq, _, _⟩ := create_chart_ok done
  obtain ⟨⟨key, found⟩, owned, flag⟩ := latest_chart_found moved.isLatest
  obtain rfl : old.id = key := orderly.charts.own found
  have apart : old.id ≠ created.id := by
    intro same
    rw [same, fresh] at found
    cases found
  obtain ⟨latest, previous, marks⟩ := edited_marks edited (Nat.lt_of_succ_lt roomCreated) app
  have points : latest = some old.id := (marks.latestFlag found owned).mp flag
  have turned : Marks made app (some created.id) (some old.id) := by
    rw [← makes.own] at marks ⊢
    rw [← points]
    exact put_marks_own orderly.charts (created_put orderly.charts roomCreated done)
      (created_turns orderly.charts roomCreated done marks) marks
  refine ⟨makes, fresh, ?_, marks_congr charts turned⟩
  have ownCreated : old.appId = created.appId := owned.trans makes.own.symm
  rw [createdEq] at ownCreated
  rw [charts, created_elsewhere done apart, found, Option.map_some]
  exact congrArg some (beside_latest_own ownCreated apart)

theorem same_deployment {row made : EnvOverride} (found : before.charts.get? row.chartId = some old)
    (foundRef : before.chartRefs.get? old.chartRefId = some oldRef)
    (foundMade : after.charts.get? made.chartId = some created)
    (foundMadeRef : after.chartRefs.get? created.chartRefId = some chartRef)
    (globalOverride : created.globalOverride = old.globalOverride) (same : SaysSame row made) :
    SameDeployment before row after made := by
  constructor
  intro pipeline imageTemplate deployedOn deployedBy snapshot
  obtain ⟨noted, later, ran, template⟩ :=
    deployment_recorded found foundRef pipeline imageTemplate deployedOn deployedBy snapshot
  obtain ⟨notedAgain, laterAgain, ranAgain, templateAgain⟩ :=
    deployment_recorded foundMade foundMadeRef pipeline imageTemplate deployedOn deployedBy snapshot
  refine ⟨noted, later, notedAgain, laterAgain, ran, ranAgain, ?_⟩
  rw [templateAgain, template, EnvOverride.effectiveTemplate, EnvOverride.effectiveTemplate, same.isOverride,
    same.values, globalOverride]

theorem moved_same_override (reached : Reachable before) (room : after.envOverrideCount < Id.capacity)
    (moved : Moved app target user now before old created oldRef chartRef middle after)
    (fresh : before.charts.get? created.id = none) (environment : EnvironmentId) :
    SameOverride app environment before old.id after created.id := by
  have rooted : Rooted before := reachable_rooted reached
  have orderly : Orderly before := reachable_orderly reached
  have makes : Makes app old created chartRef middle := moved_makes reached moved
  have filed : OverridesFiled middle := keeps_overrides_filed moved.keeps rooted.overrides
  have kept : KeepsCharts middle after := keeps_charts_of_flags (carries_over_keeps moved.carries)
  have arrived := carries_over_arrived moved.carries makes.here makes.own filed room environment
  have newest := newest_of_active before old.id environment
  -- No override belonged to the new chart before.
  have none : middle.envOverrideFor? created.id environment = none := by
    cases found : middle.envOverrideFor? created.id environment with
    | none => rfl
    | some row =>
        obtain ⟨belongs, _, key, there⟩ := newest_found found
        rw [moved.keeps.1] at there
        obtain ⟨chart, present⟩ := rooted.charted there
        rw [belongs, fresh] at present
        cases present
  cases last : (before.activeOverrides old.id).reverse.find? (isIn environment) with
  | none => exact .none (newest.trans last) ((arrived.absent last).1.trans none)
  | some row =>
      obtain ⟨made, carried, latest, same⟩ := arrived.last row last
      have isNewest : before.envOverrideFor? old.id environment = some row := newest.trans last
      obtain ⟨belongs, _⟩ := newest_found isNewest
      obtain ⟨belongsMade, _⟩ := newest_found carried
      obtain ⟨⟨key, found⟩, _⟩ := latest_chart_found moved.isLatest
      obtain rfl : old.id = key := orderly.charts.own found
      have foundOld : before.charts.get? row.chartId = some old := belongs ▸ found
      have foundMade : after.charts.get? made.chartId = some created := by
        rw [belongsMade, keeps_charts_charts kept]
        exact makes.here
      have foundRef : after.chartRefs.get? created.chartRefId = some chartRef := by
        rw [keeps_charts_refs kept]
        exact makes.foundRef
      exact .some isNewest carried same latest
        (same_deployment foundOld moved.foundOld foundMade foundRef makes.globalOverride same)

end Settings

/-- An upgrade that ends well keeps what is in force. The new chart is the latest one and the old one the previous;
what users changed goes along, and so does the newest override of each environment, which is the latest one there and
deploys with the same template. The overrides of before change nothing but their flags. -/
theorem upgrade_keeps_settings (app : AppId) (target : ChartRefId) (user : UserId) (now : Instant)
    (before after : Store) (created : Chart) (edited : Edited before)
    (answered : (upgrade app target user now).run before = (.ok created, after))
    (roomCharts : after.chartCount < Id.capacity) (roomOverrides : after.envOverrideCount < Id.capacity) :
    ∃ old, before.latestChart? app = some old ∧ KeepsSettings app target before old created after := by
  obtain ⟨old, oldRef, chartRef, middle, moved⟩ :=
    Service.ends_ok (upgrade_moves app target user now before) answered
  have kept : KeepsCharts middle after := keeps_charts_of_flags (carries_over_keeps moved.carries)
  have charts : after.charts = middle.charts := keeps_charts_charts kept
  have replaces := moved_replaces edited (keeps_charts_count kept ▸ roomCharts) moved
  have marks : Marks after app (some created.id) (some old.id) := marks_congr charts replaces.marks
  obtain ⟨_, owned, flag⟩ := latest_chart_found moved.isLatest
  refine ⟨old, moved.isLatest, ?_⟩
  constructor
  · have here : after.charts.get? created.id = some created := charts ▸ replaces.here
    exact latest_chart_of_marks marks here replaces.own ((marks.latestFlag here replaces.own).mpr rfl)
  · have there : after.charts.get? old.id = some old.demoted := charts ▸ replaces.demoted
    exact previous_chart_of_marks marks there owned flag
  · exact replaces.globalOverride
  · exact ⟨chartRef, moved.foundRef, replaces.values⟩
  · exact moved_same_override (edited_reachable edited) roomOverrides moved replaces.fresh
  · intro key row found
    have rooted : Rooted before := reachable_rooted (edited_reachable edited)
    have filed : OverridesFiled middle := keeps_overrides_filed moved.keeps rooted.overrides
    exact carries_over_kept moved.carries filed roomOverrides (moved.keeps.1 ▸ found)

def storeOverride (store : Store) (new : NewEnvOverride) : Store :=
  ((Service.transact fun store => store.createOverride new).run store).2

theorem store_override_edited {store : Store} (edited : Edited store) (new : NewEnvOverride) :
    Edited (storeOverride store new) := by
  rw [storeOverride, Service.run_transact]
  cases outcome : store.createOverride new with
  | ok pair => exact .storeOverride edited outcome
  | error error => exact edited

def sampleOverridden : Store :=
  let made := Command.perform (Fixtures.seedApp .empty) (.create Sample.templateRequest Sample.moment)
  [3, 5].foldl (fun store replicas =>
    storeOverride store { Sample.newEnvOverride with values := Fixtures.values replicas }) made

theorem sample_overridden_edited : Edited sampleOverridden := by
  have made : Edited (Command.perform (Fixtures.seedApp .empty) (.create Sample.templateRequest Sample.moment)) :=
    .use (.start seed_app_reachable rfl) _
  exact store_override_edited (store_override_edited made _) _

theorem sample_upgrade_keeps_settings : ∃ old created after,
    (upgrade ⟨1⟩ ⟨2⟩ Fixtures.testUser Sample.moment).run sampleOverridden = (.ok created, after) ∧
    KeepsSettings ⟨1⟩ ⟨2⟩ sampleOverridden old created after ∧
    (after.envOverrideFor? created.id ⟨10⟩).map (·.values) = some (Fixtures.values 5) := by
  obtain ⟨old, _, keeps⟩ := upgrade_keeps_settings ⟨1⟩ ⟨2⟩ Fixtures.testUser Sample.moment sampleOverridden _ _
    sample_overridden_edited rfl (by decide) (by decide)
  exact ⟨old, _, _, rfl, keeps, by decide⟩

end Delivery.Charts
