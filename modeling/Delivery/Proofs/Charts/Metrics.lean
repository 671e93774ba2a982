import Delivery.Proofs.Charts.Latest
import Delivery.Proofs.Store.Reachable
set_option autoImplicit false

namespace Delivery.Charts

open Store

def MetricsSupported (store : Store) : Prop :=
  ∀ app, store.appMetricsFlag app = true → ∃ chart chartRef, store.latestChart? app = some chart ∧
    store.chartRefs.get? chart.chartRefId = some chartRef ∧ chartRef.appMetricsSupported = true

def Command.RespectsMetrics (store : Store) : Command → Prop
  | .update id _ none _ _ => ∀ chart chartRef, store.charts.get? id = some chart →
      store.chartRefs.get? chart.chartRefId = some chartRef → store.appMetricsFlag chart.appId = true →
      chartRef.appMetricsSupported = true
  | _ => True

structure Renders (store : Store) : Prop where
  filed : ChartsFiled store
  refs : ∀ {key chartRef}, store.chartRefs.get? key = some chartRef → chartRef.id = key
  rule : ∀ {key chartRef}, store.chartRefs.get? key = some chartRef →
    chartRef.appMetricsSupported = (chartRef.userUploaded || chartRef.version.supportsAppMetrics)
  referenced : ∀ {key chart}, store.charts.get? key = some chart →
    ∃ chartRef, store.chartRefs.get? chart.chartRefId = some chartRef
  marks : ∀ app, ∃ latest previous, Marks store app latest previous
  owned : ∀ {app}, store.appMetricsFlag app = true → ∃ key chart, store.charts.get? key = some chart ∧ chart.appId = app

section Flags

variable {before after : Store}

theorem flag_set (store : Store) (app : AppId) (enabled : Bool) (user : UserId) (now : Instant) (other : AppId) :
    (store.setAppMetrics app enabled user now).2.appMetricsFlag other =
      if other = app then enabled else store.appMetricsFlag other := by
  rw [appMetricsFlag, setAppMetrics]
  by_cases same : other = app
  · rw [if_pos same, same]
    dsimp only
    rw [Table.get_insert_same]
    cases store.appMetrics.get? app <;> rfl
  · rw [if_neg same]
    dsimp only
    rw [Table.get_insert_other _ _ same]
    rfl

theorem keeps_flags_flag (kept : KeepsFlags before after) (app : AppId) :
    after.appMetricsFlag app = before.appMetricsFlag app := by
  rw [kept]
  rfl

theorem sets_flag_flag {app : AppId} {enabled : Bool} {user : UserId} {now : Instant}
    (sets : SetsFlag before after app enabled user now) (other : AppId) :
    after.appMetricsFlag other = if other = app then enabled else before.appMetricsFlag other :=
  (keeps_flags_flag sets other).trans (flag_set before app enabled user now other)

end Flags

section Latest

variable {store : Store} {app : AppId} {latest previous : Option ChartId} {key : ChartId} {chart : Chart}

theorem latest_chart_of_marks (marks : Marks store app latest previous) (found : store.charts.get? key = some chart)
    (own : chart.appId = app) (flag : chart.latest = true) : store.latestChart? app = some chart := by
  have points : latest = some key := (marks.latestFlag found own).mp flag
  rw [latestChart?, Table.find_eq_head, flag_filter marks.latestFlag points found own]
  rfl

theorem latest_chart_found (found : store.latestChart? app = some chart) :
    (∃ key, store.charts.get? key = some chart) ∧ chart.appId = app ∧ chart.latest = true := by
  rw [latestChart?, Table.find?] at found
  have passes := List.find?_some found
  rw [Bool.and_eq_true, beq_iff_eq] at passes
  exact ⟨Table.mem_rows.mp (List.mem_of_find?_eq_some found), passes.1, passes.2⟩

theorem metrics_supported_iff_charts (renders : Renders store) : MetricsSupported store ↔
    ∀ key chart chartRef, store.charts.get? key = some chart → chart.latest = true →
      store.appMetricsFlag chart.appId = true → store.chartRefs.get? chart.chartRefId = some chartRef →
      chartRef.appMetricsSupported = true := by
  constructor
  · intro supported key chart chartRef found flag up foundRef
    obtain ⟨latest, previous, marks⟩ := renders.marks chart.appId
    obtain ⟨top, topRef, isTop, foundTop, supports⟩ := supported chart.appId up
    obtain rfl : top = chart := Option.some.inj (isTop.symm.trans (latest_chart_of_marks marks found rfl flag))
    obtain rfl : topRef = chartRef := Option.some.inj (foundTop.symm.trans foundRef)
    exact supports
  · intro each app up
    obtain ⟨key, chart, found, own⟩ := renders.owned up
    obtain ⟨latest, previous, marks⟩ := renders.marks app
    cases latest with
    | none => exact absurd rfl (marks.someLatest found own)
    | some target =>
        obtain ⟨top, there, owned⟩ := marks.latestOwned rfl
        have flag : top.latest = true := (marks.latestFlag there owned).mpr rfl
        obtain ⟨topRef, foundRef⟩ := renders.referenced there
        refine ⟨top, topRef, latest_chart_of_marks marks there owned flag, foundRef, ?_⟩
        exact each target top topRef there flag (owned ▸ up) foundRef

end Latest

structure PutsFlagged (before after : Store) (key : ChartId) (row : Chart) (enabled : Bool) : Prop where
  here : after.charts.get? key = some row
  latest : row.latest = true
  owner : ∀ {old}, before.charts.get? key = some old → old.appId = row.appId
  elsewhere : ∀ {other}, other ≠ key → after.charts.get? other = before.charts.get? other ∨
    after.charts.get? other = (before.charts.get? other).map (besideLatest row.appId key)
  refs : after.chartRefs = before.chartRefs
  flag : ∀ app, after.appMetricsFlag app = if app = row.appId then enabled else before.appMetricsFlag app

section Put

variable {before after made : Store} {key : ChartId} {row : Chart} {chartRef : ChartRef} {enabled : Bool}

theorem flagged_from (puts : PutsFlagged before after key row enabled) {other : ChartId} {chart : Chart}
    (different : other ≠ key) (found : after.charts.get? other = some chart) :
    ∃ old, before.charts.get? other = some old ∧ (chart = old ∨ chart = besideLatest row.appId key old) := by
  rcases puts.elsewhere different with same | beside
  · exact ⟨chart, same ▸ found, .inl rfl⟩
  · rw [beside, Option.map_eq_some_iff] at found
    obtain ⟨old, there, changed⟩ := found
    exact ⟨old, there, .inr changed.symm⟩

theorem flagged_remains (puts : PutsFlagged before after key row enabled) {other : ChartId} {old : Chart}
    (there : before.charts.get? other = some old) :
    ∃ chart, after.charts.get? other = some chart ∧ chart.appId = old.appId := by
  by_cases same : other = key
  · subst same
    exact ⟨row, puts.here, (puts.owner there).symm⟩
  · rcases puts.elsewhere same with kept | beside
    · exact ⟨old, kept.trans there, rfl⟩
    · exact ⟨_, beside.trans (congrArg _ there), beside_latest_app _ _ _⟩

theorem flagged_owned (puts : PutsFlagged before after key row enabled) (renders : Renders before) {app : AppId}
    (up : after.appMetricsFlag app = true) :
    ∃ place chart, after.charts.get? place = some chart ∧ chart.appId = app := by
  by_cases own : app = row.appId
  · exact ⟨key, row, puts.here, own.symm⟩
  · rw [puts.flag, if_neg own] at up
    obtain ⟨place, old, there, owned⟩ := renders.owned up
    obtain ⟨chart, found, same⟩ := flagged_remains puts there
    exact ⟨place, chart, found, same.trans owned⟩

theorem flagged_referenced (puts : PutsFlagged before after key row enabled) (renders : Renders before)
    (foundRef : before.chartRefs.get? row.chartRefId = some chartRef) {other : ChartId} {chart : Chart}
    (found : after.charts.get? other = some chart) : ∃ ref, after.chartRefs.get? chart.chartRefId = some ref := by
  rw [puts.refs]
  by_cases same : other = key
  · subst same
    obtain rfl : row = chart := Option.some.inj (puts.here.symm.trans found)
    exact ⟨chartRef, foundRef⟩
  · obtain ⟨old, there, rfl | rfl⟩ := flagged_from puts same found
    · exact renders.referenced there
    · rw [(beside_latest_content _ _ _).1]
      exact renders.referenced there

theorem flagged_renders (puts : PutsFlagged before after key row enabled) (renders : Renders before)
    (foundRef : before.chartRefs.get? row.chartRefId = some chartRef) (filed : ChartsFiled after)
    (marks : ∀ app, ∃ latest previous, Marks after app latest previous) : Renders after :=
  { filed
    refs := fun found => renders.refs (puts.refs ▸ found)
    rule := fun found => renders.rule (puts.refs ▸ found)
    referenced := flagged_referenced puts renders foundRef
    marks
    owned := flagged_owned puts renders }

theorem flagged_supported_iff (puts : PutsFlagged before after key row enabled) (renders : Renders before)
    (still : Renders after) (foundRef : before.chartRefs.get? row.chartRefId = some chartRef)
    (supported : MetricsSupported before) :
    MetricsSupported after ↔ (enabled = true → chartRef.appMetricsSupported = true) := by
  rw [metrics_supported_iff_charts still]
  rw [metrics_supported_iff_charts renders] at supported
  constructor
  · intro each up
    refine each key row chartRef puts.here puts.latest ?_ (puts.refs ▸ foundRef)
    rw [puts.flag, if_pos rfl, up]
  · intro supports other chart ref found flag up refFound
    rw [puts.refs] at refFound
    by_cases own : chart.appId = row.appId
    · -- The chart that is put is the one that its application has as the latest.
      obtain ⟨latest, previous, marks⟩ := still.marks row.appId
      have points : latest = some other := (marks.latestFlag found own).mp flag
      have same : other = key := by
        have here : latest = some key := (marks.latestFlag puts.here rfl).mp puts.latest
        exact Option.some.inj (points.symm.trans here)
      subst same
      obtain rfl : row = chart := Option.some.inj (puts.here.symm.trans found)
      obtain rfl : chartRef = ref := Option.some.inj (foundRef.symm.trans refFound)
      rw [puts.flag, if_pos rfl] at up
      exact supports up
    · have different : other ≠ key := by
        rintro rfl
        exact own (congrArg (·.appId) (Option.some.inj (found.symm.trans puts.here)))
      rw [puts.flag, if_neg own] at up
      obtain ⟨old, there, rfl | rfl⟩ := flagged_from puts different found
      · exact supported other _ ref there flag up refFound
      · rw [beside_latest_app] at own
        rw [beside_latest_other own] at flag up refFound
        exact supported other old ref there flag up refFound

theorem created_flagged {new : NewChart} {user : UserId} {now : Instant} (filed : ChartsFiled before)
    (room : after.chartCount < Id.capacity) (done : before.createChart new = .ok (row, made))
    (sets : SetsFlag made after new.appId enabled user now) : PutsFlagged before after row.id row enabled := by
  obtain ⟨rowEq, _, madeEq⟩ := create_chart_ok done
  have kept : KeepsCharts made after := sets_flag_keeps_charts sets
  have owner : row.appId = new.appId := by rw [rowEq]; rfl
  have fresh : before.charts.get? row.id = none := by
    rw [keeps_charts_count kept, madeEq] at room
    rw [rowEq]
    exact later_missing filed (Nat.le_refl _) room
  refine ⟨?_, ?_, fun found => ?_, fun different => .inr ?_, ?_, fun app => ?_⟩
  · rw [keeps_charts_charts kept]
    exact created_here done
  · rw [rowEq]
    rfl
  · rw [fresh] at found
    cases found
  · rw [keeps_charts_charts kept, owner]
    exact created_elsewhere done different
  · rw [keeps_charts_refs kept, madeEq]
  · rw [sets_flag_flag sets, owner, madeEq]
    rfl

theorem updated_flagged {chart current : Chart} (found : before.charts.get? chart.id = some current)
    (owner : chart.appId = current.appId) (done : before.updateChart chart = .ok (row, made))
    (kept : KeepsCharts made after)
    (flag : ∀ app, after.appMetricsFlag app = if app = row.appId then enabled else made.appMetricsFlag app) :
    PutsFlagged before after chart.id row enabled := by
  obtain ⟨_, _, rfl, madeEq⟩ := update_chart_ok done
  refine ⟨?_, rfl, fun there => ?_, fun different => ?_, ?_, fun app => ?_⟩
  · rw [keeps_charts_charts kept]
    exact updated_here done
  · rw [← Option.some.inj (found.symm.trans there)]
    exact owner.symm
  · rw [keeps_charts_charts kept]
    exact updated_elsewhere done different
  · rw [keeps_charts_refs kept, madeEq]
  · rw [flag, madeEq]
    rfl

end Put

def PutsUnder (before after : Store) (condition : Prop) : Prop :=
  ∃ key row chartRef enabled, PutsFlagged before after key row enabled ∧
    before.chartRefs.get? row.chartRefId = some chartRef ∧
    ((enabled = true → chartRef.appMetricsSupported = true) ↔ condition)

section Commands

variable {store after : Store}

theorem creates_puts_under {request : TemplateRequest} {now : Instant} {created : Chart} (renders : Renders store)
    (room : after.chartCount < Id.capacity) (creates : CreatesFlagged request now store created after) :
    PutsUnder store after True := by
  obtain ⟨app, chartRef, repo, made, _, foundRef, _, done, sets⟩ := creates
  obtain ⟨rowEq, _, _⟩ := create_chart_ok done
  have puts := created_flagged renders.filed room done sets
  refine ⟨created.id, created, chartRef, _, puts, ?_, iff_of_true (fun both => (Bool.and_eq_true_iff.mp both).2) trivial⟩
  have named : created.chartRefId = request.chartRefId := by
    rw [rowEq]
    exact renders.refs foundRef
  rw [named, foundRef]

theorem edits_puts_under {id : ChartId} {delta : Json} {requested : Option Bool} {user : UserId} {now : Instant}
    (renders : Renders store) (edits : EditsFlagged id delta requested user now store after) :
    PutsUnder store after (Command.RespectsMetrics store (.update id delta requested user now)) := by
  obtain ⟨current, row, made, found, done, resolves⟩ := edits
  obtain ⟨chartRef, foundRef⟩ := renders.referenced found
  obtain ⟨_, _, rowEq, madeEq⟩ := update_chart_ok done
  have there := edited_found renders.filed found delta user now
  have kept : KeepsCharts made after := resolves_flag_keeps_charts resolves
  have sameRef : row.chartRefId = current.chartRefId := by rw [rowEq]; rfl
  have sameApp : row.appId = current.appId := by rw [rowEq]; rfl
  have sameRefs : made.chartRefs = store.chartRefs := by rw [madeEq]
  have rowRef : store.chartRefs.get? row.chartRefId = some chartRef := sameRef ▸ foundRef
  cases resolves with
  | silent keptFlags =>
      -- The flag that the application had is now that of the edited chart, whichever was its latest before.
      have sameFlags : ∀ app, made.appMetricsFlag app = store.appMetricsFlag app := fun app => by rw [madeEq]; rfl
      refine ⟨_, row, chartRef, store.appMetricsFlag row.appId, updated_flagged there rfl done kept fun app => ?_, rowRef, ?_⟩
      · rw [keeps_flags_flag keptFlags]
        split
        next own => rw [own, sameFlags]
        next => rfl
      · rw [sameApp]
        constructor
        · intro supports chart ref foundChart refFound up
          obtain rfl : current = chart := Option.some.inj (found.symm.trans foundChart)
          obtain rfl : chartRef = ref := Option.some.inj (foundRef.symm.trans refFound)
          exact supports up
        · exact fun respects up => respects current chartRef found foundRef up
  | asked refFound sets =>
      rw [sameRefs, rowRef] at refFound
      cases refFound
      have puts := updated_flagged there rfl done kept (sets_flag_flag sets)
      exact ⟨_, row, chartRef, _, puts, rowRef, iff_of_true (fun both => (Bool.and_eq_true_iff.mp both).2) trivial⟩
  | unknown absent _ =>
      rw [sameRefs, rowRef] at absent
      cases absent

theorem check_metrics_ok {chartRef : ChartRef} {enabled : Bool} (checked : checkMetrics chartRef enabled = .ok ())
    (up : enabled = true) : (chartRef.userUploaded || chartRef.version.supportsAppMetrics) = true := by
  rw [checkMetrics, up, Bool.true_and] at checked
  split at checked
  · cases checked
  · rename_i passed
    rwa [Bool.not_eq_true, Bool.not_eq_false'] at passed

theorem sets_puts_under {app : AppId} {enabled : Bool} {user : UserId} {now : Instant} (renders : Renders store)
    (sets : SetsMetrics app enabled user now store after) : PutsUnder store after True := by
  obtain ⟨current, chartRef, isLatest, foundRef, checked, set⟩ := sets
  obtain ⟨⟨key, found⟩, own, flag⟩ := latest_chart_found isLatest
  have kept : KeepsCharts store after := sets_flag_keeps_charts set
  -- The chart that is the latest stays so: it is put where it stands.
  have puts : PutsFlagged store after key current enabled :=
    { here := (keeps_charts_charts kept).symm ▸ found
      latest := flag
      owner := fun there => congrArg (·.appId) (Option.some.inj (there.symm.trans found))
      elsewhere := fun _ => .inl (by rw [keeps_charts_charts kept])
      refs := keeps_charts_refs kept
      flag := own ▸ sets_flag_flag set }
  refine ⟨key, current, chartRef, enabled, puts, foundRef, iff_of_true (fun up => ?_) trivial⟩
  rw [renders.rule foundRef]
  exact check_metrics_ok checked up

theorem command_puts_under (renders : Renders store) (command : Command)
    (room : (command.perform store).chartCount < Id.capacity) :
    command.perform store = store ∧ command.RespectsMetrics store ∨
      PutsUnder store (command.perform store) (command.RespectsMetrics store) := by
  have writes : command.WritesFlagged store (command.perform store) := command_writes_flagged store command
  cases command with
  | create request now =>
      cases writes with
      | nothing _ same => exact .inl ⟨same, trivial⟩
      | creates created creates => exact .inr (creates_puts_under renders room creates)
  | update id delta appMetrics user now =>
      rcases update_writes_flagged id delta appMetrics user now store with ⟨same, noEdit⟩ | edits
      · refine .inl ⟨same, ?_⟩
        cases appMetrics with
        | some wanted => trivial
        | none =>
            intro chart chartRef found
            have missing := noEdit chart found
            rw [renders.filed.own found, found] at missing
            cases missing
      · exact .inr (edits_puts_under renders edits)
  | upgrade app target user now =>
      cases writes with
      | nothing _ same => exact .inl ⟨same, trivial⟩
      | upgrades upgrades =>
          obtain ⟨_, _, created, middle, _, _, creates, kept⟩ := upgrades
          exact .inr (creates_puts_under renders room (creates_flagged_then creates kept))
  | setMetrics app enabled user now =>
      cases writes with
      | nothing _ same => exact .inl ⟨same, trivial⟩
      | sets sets => exact .inr (sets_puts_under renders sets)

theorem command_supported_iff (renders : Renders store) (supported : MetricsSupported store) (command : Command)
    (room : (command.perform store).chartCount < Id.capacity) :
    Renders (command.perform store) ∧
      (MetricsSupported (command.perform store) ↔ command.RespectsMetrics store) := by
  have charts : Puts store (command.perform store) := command_puts renders.filed command
  rcases command_puts_under renders command room with ⟨same, respects⟩ | under
  · rw [same]
    exact ⟨renders, iff_of_true supported respects⟩
  · obtain ⟨key, row, chartRef, enabled, puts, foundRef, right⟩ := under
    have marks : ∀ app, ∃ latest previous, Marks (command.perform store) app latest previous := fun app => by
      obtain ⟨latest, previous, marks⟩ := renders.marks app
      rcases puts_marks charts renders.filed room marks with kept | ⟨target, _, turned⟩
      · exact ⟨latest, previous, kept⟩
      · exact ⟨some target, latest, turned⟩
    have still := flagged_renders puts renders foundRef (puts_filed charts renders.filed) marks
    exact ⟨still, (flagged_supported_iff puts renders still foundRef supported).trans right⟩

theorem commands_fit (commands : List Command) : Step.AllFit store (commands.map .use) := by
  induction commands generalizing store with
  | nil => trivial
  | cons command rest ih => exact ⟨trivial, ih⟩

structure Prepared (store : Store) (commands : List Command) : Prop where
  renders : Renders store
  room : (Step.performAll store (commands.map .use)).chartCount < Id.capacity

theorem prepared_first {command : Command} {rest : List Command} (prepared : Prepared store (command :: rest)) :
    (command.perform store).chartCount < Id.capacity := by
  have filed : ChartsFiled store := prepared.renders.filed
  have after : ChartsFiled (command.perform store) := puts_filed (command_puts filed command) filed
  exact Nat.lt_of_le_of_lt (run_count after (commands_fit rest)) prepared.room

theorem run_supported_iff {commands : List Command} (prepared : Prepared store commands)
    (supported : MetricsSupported store) :
    Command.Always MetricsSupported store commands ↔ Command.Each Command.RespectsMetrics store commands := by
  refine always_iff_each Prepared (fun {_ command _} now supported => ?_) prepared supported
  obtain ⟨still, right⟩ := command_supported_iff now.renders supported command (prepared_first now)
  exact ⟨⟨still, now.room⟩, right⟩

end Commands

/-- In a run from a store without charts and metrics the latest chart of every application whose flag is up can
report metrics, exactly when no edit that asks for nothing meets a flag that is up over a chart that cannot. -/
theorem metrics_supported_iff (start : Store) (commands : List Command) (reached : Reachable start)
    (noCharts : start.charts = .empty) (noMetrics : start.appMetrics = .empty)
    (rule : ∀ key chartRef, start.chartRefs.get? key = some chartRef →
      chartRef.appMetricsSupported = (chartRef.userUploaded || chartRef.version.supportsAppMetrics))
    (room : (Step.performAll start (commands.map .use)).chartCount < Id.capacity) :
    Command.Always MetricsSupported start commands ↔ Command.Each Command.RespectsMetrics start commands := by
  have orderly : Orderly start := reachable_orderly reached
  have down : ∀ app, start.appMetricsFlag app ≠ true := by
    intro app up
    rw [appMetricsFlag, noMetrics] at up
    cases up
  have renders : Renders start :=
    { filed := orderly.charts
      refs := orderly.chartRefs
      rule := fun found => rule _ _ found
      referenced := fun found => by rw [noCharts] at found; cases found
      marks := fun app => ⟨none, none, marks_of_empty noCharts app⟩
      owned := fun up => absurd up (down _) }
  exact run_supported_iff ⟨renders, room⟩ fun app up => absurd up (down app)

def sampleMetrics (later : List Command) : List Command :=
  let second := { Sample.templateRequest with chartRefId := ⟨2⟩, appMetrics := true }
  [.create Sample.templateRequest Sample.moment, .create second Sample.moment] ++ later

def sampleRevision (id : ChartId) (appMetrics : Option Bool) : Command :=
  .update id (Fixtures.values 3) appMetrics Fixtures.testUser Sample.moment

theorem seed_app_reachable : Reachable (Fixtures.seedApp .empty) := by
  refine .step ?_ (.putUser _)
  refine .step (.step (.step ?_ (.putChartRef _)) (.putChartRef _)) (.putChartRef _)
  refine .step ?_ (.putChartRepo _ _)
  refine .step (.step ?_ (.putCdPipeline _)) (.putCdPipeline _)
  refine .step (.step ?_ (.putEnvironment _)) (.putEnvironment _)
  exact .step .empty (.putApp _)

theorem seed_app_rule (key : ChartRefId) (chartRef : ChartRef)
    (found : (Fixtures.seedApp .empty).chartRefs.get? key = some chartRef) :
    chartRef.appMetricsSupported = (chartRef.userUploaded || chartRef.version.supportsAppMetrics) := by
  have each : ∀ entry ∈ (Fixtures.seedApp .empty).chartRefs.entries,
      entry.2.appMetricsSupported = (entry.2.userUploaded || entry.2.version.supportsAppMetrics) := by decide
  exact each _ (Entries.mem_of_find found)

theorem sample_metrics_supported :
    Command.Always MetricsSupported (Fixtures.seedApp .empty)
      (sampleMetrics [sampleRevision (Id.nth 0) (some true), sampleRevision (Id.nth 1) none]) := by
  refine (metrics_supported_iff (Fixtures.seedApp .empty) _ seed_app_reachable rfl rfl seed_app_rule (by decide)).mpr ?_
  refine ⟨trivial, trivial, trivial, fun chart chartRef found foundRef _ => ?_, trivial⟩
  let earlier := sampleMetrics [sampleRevision (Id.nth 0) (some true)]
  let made : Store := Step.performAll (Fixtures.seedApp .empty) (earlier.map .use)
  have second : (made.charts.get? (Id.nth 1)).all fun chart =>
      (made.chartRefs.get? chart.chartRefId).all (·.appMetricsSupported) := by decide
  have here : made.charts.get? (Id.nth 1) = some chart := found
  have ref : made.chartRefs.get? chart.chartRefId = some chartRef := foundRef
  rw [here, Option.all_some, ref, Option.all_some] at second
  exact second

theorem metrics_unsupported_when_older_edited :
    let start : Store := Fixtures.seedApp .empty
    let commands := sampleMetrics [sampleRevision (Id.nth 0) none]
    Reachable start ∧ start.charts = .empty ∧ start.appMetrics = .empty ∧
      (∀ key chartRef, start.chartRefs.get? key = some chartRef →
        chartRef.appMetricsSupported = (chartRef.userUploaded || chartRef.version.supportsAppMetrics)) ∧
      (Step.performAll start (commands.map .use)).chartCount < Id.capacity ∧
      ¬Command.Always MetricsSupported start commands := by
  refine ⟨seed_app_reachable, rfl, rfl, seed_app_rule, by decide, fun always => ?_⟩
  let start : Store := Fixtures.seedApp .empty
  let final : Store := Step.performAll start ((sampleMetrics [sampleRevision (Id.nth 0) none]).map .use)
  have supported : MetricsSupported final := always.2.2.2
  obtain ⟨chart, chartRef, isLatest, foundRef, supports⟩ := supported ⟨1⟩ (by decide)
  have older : (final.latestChart? ⟨1⟩).all fun chart =>
      (final.chartRefs.get? chart.chartRefId).all fun chartRef => !chartRef.appMetricsSupported := by decide
  rw [isLatest, Option.all_some, foundRef, Option.all_some, supports] at older
  cases older

end Delivery.Charts
