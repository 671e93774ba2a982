import Delivery.Charts.Editor
import Delivery.Proofs.Outcomes
import Delivery.Proofs.Store.Buckets
set_option autoImplicit false

namespace Delivery.Charts

open Store

inductive Command where
  | create (request : TemplateRequest) (now : Instant)
  | update (id : ChartId) (delta : Json) (appMetrics : Option Bool) (user : UserId) (now : Instant)
  | upgrade (app : AppId) (target : ChartRefId) (user : UserId) (now : Instant)
  | setMetrics (app : AppId) (enabled : Bool) (user : UserId) (now : Instant)

def Command.perform (store : Store) : Command → Store
  | .create request now => ((Charts.create request now).run store).2
  | .update id delta appMetrics user now => ((Charts.update id delta appMetrics user now).run store).2
  | .upgrade app target user now => ((Charts.upgrade app target user now).run store).2
  | .setMetrics app enabled user now => ((Charts.setMetrics app enabled user now).run store).2

namespace Command

def service : Command → Service Store Unit
  | .create request now => (Charts.create request now).discarded
  | .update id delta appMetrics user now => (Charts.update id delta appMetrics user now).discarded
  | .upgrade app target user now => (Charts.upgrade app target user now).discarded
  | .setMetrics app enabled user now => (Charts.setMetrics app enabled user now).discarded

def Always (good : Store → Prop) (store : Store) : List Command → Prop
  | [] => good store
  | command :: rest => good store ∧ Always good (command.perform store) rest

def Each (meets : Store → Command → Prop) (store : Store) : List Command → Prop
  | [] => True
  | command :: rest => meets store command ∧ Each meets (command.perform store) rest

end Command

theorem perform_eq_run (store : Store) (command : Command) :
    command.perform store = (command.service.run store).2 := by
  cases command <;> exact (Service.run_discarded _ store).symm

theorem always_now {good : Store → Prop} {store : Store} {commands : List Command}
    (always : Command.Always good store commands) : good store := by
  cases commands with
  | nil => exact always
  | cons command rest => exact always.1

theorem always_iff_each {good : Store → Prop} {meets : Store → Command → Prop} (ready : Store → List Command → Prop)
    (step : ∀ {store command rest}, ready store (command :: rest) → good store →
      ready (command.perform store) rest ∧ (good (command.perform store) ↔ meets store command))
    {store : Store} {commands : List Command} (start : ready store commands) (now : good store) :
    Command.Always good store commands ↔ Command.Each meets store commands := by
  induction commands generalizing store with
  | nil => exact iff_of_true now trivial
  | cons command rest ih =>
      obtain ⟨still, right⟩ := step start now
      -- Both sides go on only where this operation left all well, which is what the next one needs.
      constructor
      · rintro ⟨_, always⟩
        have after : good (command.perform store) := always_now always
        exact ⟨right.mp after, (ih still after).mp always⟩
      · rintro ⟨met, others⟩
        exact ⟨now, (ih still (right.mpr met)).mpr others⟩

section Steps

variable {related : Store → Store → Prop} (reflexive : ∀ store, related store store)
  (creates : ∀ store new row after, store.createChart new = .ok (row, after) → related store after)
  (updates : ∀ store chart row after, store.updateChart chart = .ok (row, after) → related store after)
  (stores : ∀ store new row after, store.createOverride new = .ok (row, after) → related store after)
  (sets : ∀ (store : Store) app enabled user now, related store (store.setAppMetrics app enabled user now).2)
  (appends : ∀ (store : Store) rows, (∀ row ∈ rows, row.deployed = false) → related store (store.appendHistories rows).2)

include reflexive appends in
theorem record_template_change_steps (chart : Chart) (appMetrics : Bool) (user : UserId) (now : Instant) :
    (Recorder.recordTemplateChange chart appMetrics user now).Moves related := by
  refine Service.moves_bind (Service.moves_require reflexive _ _) fun chartRef => ?_
  refine Service.moves_bind (Service.moves_look reflexive _) fun pipelines => Service.moves_act fun store => ?_
  refine appends store _ (List.forall_mem_cons.mpr ⟨rfl, fun row member => ?_⟩)
  obtain ⟨pipeline, _, rfl⟩ := List.mem_map.mp member
  rfl

include reflexive appends in
theorem record_override_change_steps (row : EnvOverride) (appMetrics : Bool) (pipeline : Option CdPipelineId)
    (user : UserId) (now : Instant) :
    (Recorder.recordOverrideChange row appMetrics pipeline user now).Moves related := by
  refine Service.moves_bind (Service.moves_require reflexive _ _) fun chart => ?_
  refine Service.moves_bind (Service.moves_require reflexive _ _) fun chartRef => ?_
  refine Service.moves_bind ?_ fun pipelineId => Service.moves_act fun store => ?_
  · cases pipeline with
    | some pipeline => exact Service.moves_pure _
    | none => exact Service.moves_look reflexive _
  · exact appends store [_] (List.forall_mem_singleton.mpr rfl)

include reflexive in
theorem resolve_app_metrics_steps (app : AppId) (environment : EnvironmentId) :
    (Recorder.resolveAppMetrics app environment).Moves related := by
  refine Service.moves_bind (Service.moves_look reflexive _) fun found => ?_
  cases found with
  | some row => exact Service.moves_pure _
  | none => exact Service.moves_look reflexive _

include reflexive appends in
theorem carry_noted_steps (app : AppId) (user : UserId) (now : Instant) (created : EnvOverride) :
    Service.Moves related do
      let appMetrics ← Recorder.resolveAppMetrics app created.targetEnvironment
      let _ ← Recorder.recordOverrideChange created appMetrics none user now
      return () :=
  Service.moves_bind (resolve_app_metrics_steps reflexive app _) fun _ =>
    Service.moves_bind (record_override_change_steps reflexive appends _ _ none user now) fun _ =>
      Service.moves_pure ()

include reflexive stores appends in
theorem carry_override_steps (app : AppId) (target : ChartId) (user : UserId) (now : Instant) (row : EnvOverride) :
    (carryOverride app target user now row).Moves related :=
  Service.moves_bind (Service.moves_transact reflexive fun store => stores store _) fun created =>
    carry_noted_steps reflexive appends app user now created

include reflexive in
theorem next_version_steps (repo name : String) (base : ChartVersion) : (nextVersion repo name base).Moves related := by
  refine Service.moves_bind (Service.moves_look reflexive _) fun newest => ?_
  cases newest with
  | some newest => exact Service.moves_pure _
  | none => exact Service.moves_pure _

include reflexive creates sets appends in
theorem create_steps (request : TemplateRequest) (now : Instant) : (create request now).Moves related := by
  refine Service.moves_bind (Service.moves_require reflexive _ _) fun app => ?_
  refine Service.moves_bind (Service.moves_require reflexive _ _) fun chartRef => ?_
  refine Service.moves_bind (Service.moves_look reflexive _) fun taken => ?_
  dsimp only
  split
  · exact Service.moves_throw_bind _ _
  · refine Service.moves_bind (Service.moves_require reflexive _ _) fun repo => ?_
    refine Service.moves_bind (next_version_steps reflexive _ _ _) fun version => ?_
    refine Service.moves_bind (Service.moves_transact reflexive fun store => creates store _) fun created => ?_
    refine Service.moves_bind (Service.moves_act fun store => sets store _ _ _ _) fun _ => ?_
    exact Service.moves_bind (record_template_change_steps reflexive appends _ _ _ _) fun _ => Service.moves_pure _

include reflexive sets in
theorem resolve_requested_steps (chart : Chart) (requested : Option Bool) (user : UserId) (now : Instant) :
    (resolveRequested chart requested user now).Moves related := by
  cases requested with
  | none => exact Service.moves_look reflexive _
  | some wanted =>
      refine Service.moves_bind (Service.moves_require reflexive _ _) fun chartRef => ?_
      exact Service.moves_bind (Service.moves_act fun store => sets store _ _ user now) fun _ => Service.moves_pure _

include reflexive updates sets appends in
theorem update_steps (id : ChartId) (delta : Json) (appMetrics : Option Bool) (user : UserId) (now : Instant) :
    (update id delta appMetrics user now).Moves related := by
  refine Service.moves_bind (Service.moves_require reflexive _ _) fun current => ?_
  refine Service.moves_bind (Service.moves_transact reflexive fun store => updates store _) fun updated => ?_
  refine Service.moves_bind (resolve_requested_steps reflexive sets updated appMetrics user now) fun enabled => ?_
  exact Service.moves_bind (record_template_change_steps reflexive appends _ _ _ _) fun _ => Service.moves_pure _

include reflexive creates stores sets appends in
theorem upgrade_steps (app : AppId) (target : ChartRefId) (user : UserId) (now : Instant) :
    (upgrade app target user now).Moves related := by
  refine Service.moves_bind (Service.moves_require reflexive _ _) fun current => ?_
  refine Service.moves_bind (Service.moves_require reflexive _ _) fun before => ?_
  refine Service.moves_bind (Service.moves_require reflexive _ _) fun after => ?_
  refine Service.moves_bind (Service.moves_of_except _) fun _ => ?_
  refine Service.moves_bind (Service.moves_look reflexive _) fun appMetrics => ?_
  refine Service.moves_bind (create_steps reflexive creates sets appends _ now) fun upgraded => ?_
  refine Service.moves_bind (Service.moves_look reflexive _) fun overrides => ?_
  refine Service.moves_bind (Service.moves_for_each fun row => ?_) fun _ => Service.moves_pure _
  exact carry_override_steps reflexive stores appends app upgraded.id user now row

include reflexive sets appends in
theorem set_metrics_steps (app : AppId) (enabled : Bool) (user : UserId) (now : Instant) :
    (setMetrics app enabled user now).Moves related := by
  refine Service.moves_bind (Service.moves_require reflexive _ _) fun current => ?_
  refine Service.moves_bind (Service.moves_require reflexive _ _) fun chartRef => ?_
  refine Service.moves_bind (Service.moves_of_except _) fun _ => ?_
  refine Service.moves_bind (Service.moves_act fun store => sets store app enabled user now) fun metrics => ?_
  exact Service.moves_bind (record_template_change_steps reflexive appends _ _ _ _) fun _ => Service.moves_pure _

include reflexive creates updates stores sets appends in
theorem command_steps (command : Command) : command.service.Moves related := by
  cases command with
  | create request now => exact Service.moves_discarded (create_steps reflexive creates sets appends request now)
  | update id delta appMetrics user now =>
      exact Service.moves_discarded (update_steps reflexive updates sets appends id delta appMetrics user now)
  | upgrade app target user now =>
      exact Service.moves_discarded (upgrade_steps reflexive creates stores sets appends app target user now)
  | setMetrics app enabled user now =>
      exact Service.moves_discarded (set_metrics_steps reflexive sets appends app enabled user now)

end Steps

theorem record_template_change_moves (chart : Chart) (appMetrics : Bool) (user : UserId) (now : Instant) :
    (Recorder.recordTemplateChange chart appMetrics user now).Moves KeepsFlags :=
  record_template_change_steps keeps_flags_refl (fun store rows _ => append_histories_keeps store rows) chart appMetrics
    user now

theorem carry_override_moves (app : AppId) (target : ChartId) (user : UserId) (now : Instant)
    (row : EnvOverride) : (carryOverride app target user now row).Moves KeepsFlags :=
  carry_override_steps keeps_flags_refl (fun _ _ _ _ => create_override_keeps)
    (fun store rows _ => append_histories_keeps store rows) app target user now row

theorem ends_keeping {α : Type} {service : Service Store α} (before : Store) {store : Store}
    {good : α → Store → Prop} {bad : Error → Store → Prop} (moves : service.Moves KeepsFlags)
    (soFar : KeepsFlags before store) (right : ∀ result after, KeepsFlags before after → good result after)
    (wrong : ∀ error after, KeepsFlags before after → bad error after) : service.Ends store good bad :=
  Service.ends_moves keeps_flags_refl keeps_flags_trans moves
    (fun result after kept => right result after (keeps_flags_trans soFar kept))
    (fun error after kept => wrong error after (keeps_flags_trans soFar kept))

def versionAfter (newest : Option ChartVersion) (base : ChartVersion) : ChartVersion :=
  match newest with
  | some newest => newest.bumpPatch
  | none => .firstInBucket base.major base.minor

theorem version_after_newest (store : Store) (repo name : String) (base : ChartVersion) :
    versionAfter (store.newestVersion? repo name base.major base.minor) base =
      (⟨repo, name, base.major, base.minor⟩ : Bucket).next store.identities := by
  rw [Bucket.next, ← newest_version_members]
  rfl

def Creates (request : TemplateRequest) (now : Instant) (before : Store) (created : Chart) (after : Store) : Prop :=
  ∃ app chartRef repo made,
    before.apps.get? request.appId = some app ∧
    before.chartRefs.get? request.chartRefId = some chartRef ∧
    before.defaultRepo? = some repo ∧
    before.createChart (chartFor request app chartRef repo
      (versionAfter (before.newestVersion? repo.name app.appName chartRef.version.major chartRef.version.minor)
        chartRef.version) now) = .ok (created, made) ∧
    KeepsCharts made after

def SetsFlag (before after : Store) (app : AppId) (enabled : Bool) (user : UserId) (now : Instant) : Prop :=
  KeepsFlags (before.setAppMetrics app enabled user now).2 after

theorem sets_flag_keeps_charts {before after : Store} {app : AppId} {enabled : Bool} {user : UserId} {now : Instant}
    (sets : SetsFlag before after app enabled user now) : KeepsCharts before after :=
  have set : KeepsCharts before (before.setAppMetrics app enabled user now).2 := rfl
  keeps_charts_trans set (keeps_charts_of_flags sets)

def CreatesFlagged (request : TemplateRequest) (now : Instant) (before : Store) (created : Chart) (after : Store) :
    Prop :=
  ∃ app chartRef repo made,
    before.apps.get? request.appId = some app ∧
    before.chartRefs.get? request.chartRefId = some chartRef ∧
    before.defaultRepo? = some repo ∧
    before.createChart (chartFor request app chartRef repo
      (versionAfter (before.newestVersion? repo.name app.appName chartRef.version.major chartRef.version.minor)
        chartRef.version) now) = .ok (created, made) ∧
    SetsFlag made after app.id (request.appMetrics && chartRef.appMetricsSupported) request.userId now

theorem creates_of_flagged {request : TemplateRequest} {now : Instant} {before after : Store} {created : Chart}
    (creates : CreatesFlagged request now before created after) : Creates request now before created after := by
  obtain ⟨app, chartRef, repo, made, foundApp, foundRef, foundRepo, done, sets⟩ := creates
  exact ⟨app, chartRef, repo, made, foundApp, foundRef, foundRepo, done, sets_flag_keeps_charts sets⟩

theorem creates_flagged_then {request : TemplateRequest} {now : Instant} {before middle after : Store} {created : Chart}
    (creates : CreatesFlagged request now before created middle) (kept : KeepsFlags middle after) :
    CreatesFlagged request now before created after := by
  obtain ⟨app, chartRef, repo, made, foundApp, foundRef, foundRepo, done, sets⟩ := creates
  exact ⟨app, chartRef, repo, made, foundApp, foundRef, foundRepo, done, keeps_flags_trans sets kept⟩

theorem next_version_ends {store : Store} {repo name : String} {base : ChartVersion}
    {good : ChartVersion → Store → Prop} {bad : Error → Store → Prop}
    (holds : good (versionAfter (store.newestVersion? repo name base.major base.minor) base) store) :
    (nextVersion repo name base).Ends store good bad := by
  refine Service.ends_bind (Service.ends_look ?_)
  cases newest : store.newestVersion? repo name base.major base.minor with
  | none => exact Service.ends_pure (by rwa [newest] at holds)
  | some version => exact Service.ends_pure (by rwa [newest] at holds)

theorem create_ends (request : TemplateRequest) (now : Instant) (store : Store) :
    (create request now).Ends store (fun created after => CreatesFlagged request now store created after)
      (fun _ after => after = store ∨ ∃ created, CreatesFlagged request now store created after) := by
  refine Service.ends_bind (Service.ends_require (fun app foundApp => ?_) fun _ => .inl rfl)
  refine Service.ends_bind (Service.ends_require (fun chartRef foundRef => ?_) fun _ => .inl rfl)
  refine Service.ends_bind (Service.ends_look ?_)
  dsimp only
  split
  · exact Service.ends_bind (Service.ends_throw (.inl rfl))
  · refine Service.ends_bind (Service.ends_require (fun repo foundRepo => ?_) fun _ => .inl rfl)
    refine Service.ends_bind (next_version_ends ?_)
    refine Service.ends_bind (Service.ends_transact (fun created made done => ?_) fun _ _ => .inl rfl)
    -- The chart is stored now. What fails from here on does not take it back.
    have creates : ∀ after,
        SetsFlag made after app.id (request.appMetrics && chartRef.appMetricsSupported) request.userId now →
        CreatesFlagged request now store created after := fun after sets =>
      ⟨app, chartRef, repo, made, foundApp, foundRef, foundRepo, done, sets⟩
    refine Service.ends_bind (Service.ends_act ?_)
    refine Service.ends_bind (ends_keeping _ (record_template_change_moves _ _ _ _) (keeps_flags_refl _) ?_ ?_)
    · exact fun _ after kept => Service.ends_pure (creates after kept)
    · exact fun _ after kept => .inr ⟨created, creates after kept⟩

def Edits (id : ChartId) (delta : Json) (user : UserId) (now : Instant) (before after : Store) : Prop :=
  ∃ current row made, before.charts.get? id = some current ∧
    before.updateChart (edited current delta user now) = .ok (row, made) ∧ KeepsCharts made after

inductive ResolvesFlag (chart : Chart) (user : UserId) (now : Instant) (before after : Store) : Option Bool → Prop where
  | silent (kept : KeepsFlags before after) : ResolvesFlag chart user now before after none
  | asked {wanted : Bool} {chartRef : ChartRef} (found : before.chartRefs.get? chart.chartRefId = some chartRef)
      (sets : SetsFlag before after chart.appId (wanted && chartRef.appMetricsSupported) user now) :
      ResolvesFlag chart user now before after (some wanted)
  | unknown {wanted : Bool} (absent : before.chartRefs.get? chart.chartRefId = none) (kept : KeepsFlags before after) :
      ResolvesFlag chart user now before after (some wanted)

def EditsFlagged (id : ChartId) (delta : Json) (requested : Option Bool) (user : UserId) (now : Instant)
    (before after : Store) : Prop :=
  ∃ current row made, before.charts.get? id = some current ∧
    before.updateChart (edited current delta user now) = .ok (row, made) ∧
    ResolvesFlag row user now made after requested

theorem resolves_flag_then {chart : Chart} {requested : Option Bool} {user : UserId} {now : Instant}
    {before middle after : Store} (resolves : ResolvesFlag chart user now before middle requested)
    (kept : KeepsFlags middle after) : ResolvesFlag chart user now before after requested := by
  cases resolves with
  | silent same => exact .silent (keeps_flags_trans same kept)
  | asked found sets => exact .asked found (keeps_flags_trans sets kept)
  | unknown absent same => exact .unknown absent (keeps_flags_trans same kept)

theorem resolves_flag_keeps_charts {chart : Chart} {requested : Option Bool} {user : UserId} {now : Instant}
    {before after : Store} (resolves : ResolvesFlag chart user now before after requested) :
    KeepsCharts before after := by
  cases resolves with
  | silent kept => exact keeps_charts_of_flags kept
  | asked _ sets => exact sets_flag_keeps_charts sets
  | unknown _ kept => exact keeps_charts_of_flags kept

theorem edits_of_flagged {id : ChartId} {delta : Json} {requested : Option Bool} {user : UserId} {now : Instant}
    {before after : Store} (edits : EditsFlagged id delta requested user now before after) :
    Edits id delta user now before after := by
  obtain ⟨current, row, made, found, done, resolves⟩ := edits
  exact ⟨current, row, made, found, done, resolves_flag_keeps_charts resolves⟩

theorem resolve_requested_ends (chart : Chart) (requested : Option Bool) (user : UserId) (now : Instant)
    (store : Store) : (resolveRequested chart requested user now).Ends store
      (fun _ after => ResolvesFlag chart user now store after requested)
      (fun _ after => ResolvesFlag chart user now store after requested) := by
  cases requested with
  | none => exact Service.ends_look (.silent (keeps_flags_refl store))
  | some wanted =>
      refine Service.ends_bind (Service.ends_require (fun chartRef found => ?_) fun absent => ?_)
      · exact Service.ends_bind (Service.ends_act (Service.ends_pure (.asked found (keeps_flags_refl _))))
      · exact .unknown absent (keeps_flags_refl store)

-- There is nothing to edit: the chart is looked up, and then once more under the identifier in its row.
def NoEdit (store : Store) (id : ChartId) : Prop :=
  ∀ current, store.charts.get? id = some current → store.charts.get? current.id = none

theorem update_ends (id : ChartId) (delta : Json) (appMetrics : Option Bool) (user : UserId) (now : Instant)
    (store : Store) :
    (update id delta appMetrics user now).Ends store
      (fun _ after => EditsFlagged id delta appMetrics user now store after)
      (fun _ after => after = store ∧ NoEdit store id ∨ EditsFlagged id delta appMetrics user now store after) := by
  refine Service.ends_bind (Service.ends_require (fun current found => ?_) fun absent => .inl ⟨rfl, ?_⟩)
  · refine Service.ends_bind (Service.ends_transact (fun row made done => ?_) fun _ refused => .inl ⟨rfl, ?_⟩)
    · have edits : ∀ after, ResolvesFlag row user now made after appMetrics →
          EditsFlagged id delta appMetrics user now store after := fun after resolves =>
        ⟨current, row, made, found, done, resolves⟩
      refine Service.ends_bind (Service.ends_weaken (resolve_requested_ends row appMetrics user now made) ?_ ?_)
      · intro enabled middle resolves
        refine Service.ends_bind (ends_keeping middle (record_template_change_moves _ _ _ _) rfl ?_ ?_)
        · exact fun _ after kept => Service.ends_pure (edits after (resolves_flag_then resolves kept))
        · exact fun _ after kept => .inr (edits after (resolves_flag_then resolves kept))
      · exact fun _ after resolves => .inr (edits after resolves)
    · intro other there
      rw [Option.some.inj (there.symm.trans found)]
      have missing : store.charts.get? (edited current delta user now).id = none := update_chart_refused refused
      exact missing
  · intro current found
    rw [absent] at found
    cases found

theorem update_writes_flagged (id : ChartId) (delta : Json) (appMetrics : Option Bool) (user : UserId) (now : Instant)
    (store : Store) :
    let after := Command.perform store (.update id delta appMetrics user now)
    after = store ∧ NoEdit store id ∨ EditsFlagged id delta appMetrics user now store after :=
  Service.ends_after
    (motive := fun after => after = store ∧ NoEdit store id ∨ EditsFlagged id delta appMetrics user now store after)
    (update_ends id delta appMetrics user now store) (fun _ _ edits => .inr edits) fun _ _ either => either

theorem update_writes (id : ChartId) (delta : Json) (appMetrics : Option Bool) (user : UserId) (now : Instant)
    (store : Store) :
    let after := Command.perform store (.update id delta appMetrics user now)
    after = store ∧ NoEdit store id ∨ Edits id delta user now store after :=
  (update_writes_flagged id delta appMetrics user now store).imp_right edits_of_flagged

def Upgrades (app : AppId) (target : ChartRefId) (user : UserId) (now : Instant) (before after : Store) : Prop :=
  ∃ current chartRef appMetrics created middle, before.latestChart? app = some current ∧
    before.chartRefs.get? target = some chartRef ∧
    Creates
      { appId := app, chartRefId := chartRef.id, valuesOverride := current.globalOverride, appMetrics,
        userId := user } now before created middle ∧
    KeepsCharts middle after

def UpgradesFlagged (app : AppId) (target : ChartRefId) (user : UserId) (now : Instant) (before after : Store) : Prop :=
  ∃ current chartRef created middle, before.latestChart? app = some current ∧
    before.chartRefs.get? target = some chartRef ∧
    CreatesFlagged
      { appId := app, chartRefId := chartRef.id, valuesOverride := current.globalOverride,
        appMetrics := before.appMetricsFlag app, userId := user } now before created middle ∧
    KeepsFlags middle after

theorem upgrades_of_flagged {app : AppId} {target : ChartRefId} {user : UserId} {now : Instant} {before after : Store}
    (upgrades : UpgradesFlagged app target user now before after) : Upgrades app target user now before after := by
  obtain ⟨current, chartRef, created, middle, found, foundRef, creates, kept⟩ := upgrades
  exact ⟨current, chartRef, _, created, middle, found, foundRef, creates_of_flagged creates, keeps_charts_of_flags kept⟩

theorem upgrade_ends (app : AppId) (target : ChartRefId) (user : UserId) (now : Instant) (store : Store) :
    (upgrade app target user now).Ends store (fun _ after => UpgradesFlagged app target user now store after)
      (fun _ after => after = store ∨ UpgradesFlagged app target user now store after) := by
  refine Service.ends_bind (Service.ends_require (fun current found => ?_) fun _ => .inl rfl)
  refine Service.ends_bind (Service.ends_require (fun before foundBefore => ?_) fun _ => .inl rfl)
  refine Service.ends_bind (Service.ends_require (fun chartRef foundRef => ?_) fun _ => .inl rfl)
  refine Service.ends_bind (Service.ends_of_except (fun _ _ => ?_) fun _ _ => .inl rfl)
  refine Service.ends_bind (Service.ends_look ?_)
  refine Service.ends_bind (Service.ends_weaken (create_ends _ now store) ?_ ?_)
  · intro created middle creates
    refine Service.ends_bind (Service.ends_look ?_)
    have carries : ∀ rows : List EnvOverride,
        (rows.forM (carryOverride app created.id user now)).Moves KeepsFlags := fun rows =>
      Service.moves_for_each fun row => carry_override_moves app created.id user now row
    refine Service.ends_bind (ends_keeping middle (carries _) (keeps_flags_refl middle) ?_ ?_)
    · exact fun _ after kept => Service.ends_pure ⟨current, chartRef, created, middle, found, foundRef, creates, kept⟩
    · exact fun _ after kept => .inr ⟨current, chartRef, created, middle, found, foundRef, creates, kept⟩
  -- A creation that failed may have stored its chart, and then the application has moved all the same.
  · rintro _ after (same | ⟨created, creates⟩)
    · exact .inl same
    · exact .inr ⟨current, chartRef, created, after, found, foundRef, creates, keeps_flags_refl after⟩

def SetsMetrics (app : AppId) (enabled : Bool) (user : UserId) (now : Instant) (before after : Store) : Prop :=
  ∃ current chartRef, before.latestChart? app = some current ∧
    before.chartRefs.get? current.chartRefId = some chartRef ∧ checkMetrics chartRef enabled = .ok () ∧
    SetsFlag before after app enabled user now

theorem set_metrics_ends (app : AppId) (enabled : Bool) (user : UserId) (now : Instant) (store : Store) :
    (setMetrics app enabled user now).Ends store (fun _ after => SetsMetrics app enabled user now store after)
      (fun _ after => after = store ∨ SetsMetrics app enabled user now store after) := by
  refine Service.ends_bind (Service.ends_require (fun current found => ?_) fun _ => .inl rfl)
  refine Service.ends_bind (Service.ends_require (fun chartRef foundRef => ?_) fun _ => .inl rfl)
  refine Service.ends_bind (Service.ends_of_except (fun _ checked => ?_) fun _ _ => .inl rfl)
  refine Service.ends_bind (Service.ends_act ?_)
  refine Service.ends_bind (ends_keeping _ (record_template_change_moves _ _ _ _) (keeps_flags_refl _) ?_ ?_)
  · exact fun _ after kept => Service.ends_pure ⟨current, chartRef, found, foundRef, checked, kept⟩
  · exact fun _ after kept => .inr ⟨current, chartRef, found, foundRef, checked, kept⟩

inductive Command.WritesFlagged (before after : Store) : Command → Prop where
  | nothing (command : Command) (same : after = before) : Command.WritesFlagged before after command
  | creates {request : TemplateRequest} {now : Instant} (created : Chart)
      (creates : CreatesFlagged request now before created after) :
      Command.WritesFlagged before after (.create request now)
  | edits {id : ChartId} {delta : Json} {appMetrics : Option Bool} {user : UserId} {now : Instant}
      (edits : EditsFlagged id delta appMetrics user now before after) :
      Command.WritesFlagged before after (.update id delta appMetrics user now)
  | upgrades {app : AppId} {target : ChartRefId} {user : UserId} {now : Instant}
      (upgrades : UpgradesFlagged app target user now before after) :
      Command.WritesFlagged before after (.upgrade app target user now)
  | sets {app : AppId} {enabled : Bool} {user : UserId} {now : Instant}
      (sets : SetsMetrics app enabled user now before after) :
      Command.WritesFlagged before after (.setMetrics app enabled user now)

theorem command_writes_flagged (store : Store) (command : Command) :
    command.WritesFlagged store (Command.perform store command) := by
  cases command with
  | create request now =>
      refine Service.ends_after (motive := fun after => Command.WritesFlagged store after (.create request now))
        (create_ends request now store) (fun created after creates => .creates created creates) ?_
      rintro _ after (same | ⟨created, creates⟩)
      · exact .nothing _ same
      · exact .creates created creates
  | update id delta appMetrics user now =>
      rcases update_writes_flagged id delta appMetrics user now store with ⟨same, _⟩ | edits
      · exact .nothing _ same
      · exact .edits edits
  | upgrade app target user now =>
      refine Service.ends_after (motive := fun after => Command.WritesFlagged store after (.upgrade app target user now))
        (upgrade_ends app target user now store) (fun _ after upgrades => .upgrades upgrades) ?_
      rintro _ after (same | upgrades)
      · exact .nothing _ same
      · exact .upgrades upgrades
  | setMetrics app enabled user now =>
      refine Service.ends_after
        (motive := fun after => Command.WritesFlagged store after (.setMetrics app enabled user now))
        (set_metrics_ends app enabled user now store) (fun _ after sets => .sets sets) ?_
      rintro _ after (same | sets)
      · exact .nothing _ same
      · exact .sets sets

inductive Command.Writes (before after : Store) : Command → Prop where
  | nothing (command : Command) (kept : KeepsCharts before after) : Command.Writes before after command
  | creates {request : TemplateRequest} {now : Instant} (created : Chart)
      (creates : Creates request now before created after) : Command.Writes before after (.create request now)
  | edits {id : ChartId} {delta : Json} {appMetrics : Option Bool} {user : UserId} {now : Instant}
      (edits : Edits id delta user now before after) :
      Command.Writes before after (.update id delta appMetrics user now)
  | upgrades {app : AppId} {target : ChartRefId} {user : UserId} {now : Instant}
      (upgrades : Upgrades app target user now before after) :
      Command.Writes before after (.upgrade app target user now)

theorem command_writes (store : Store) (command : Command) :
    command.Writes store (Command.perform store command) := by
  cases command_writes_flagged store command with
  | nothing _ same => exact .nothing _ (keeps_charts_of_eq same)
  | creates created creates => exact .creates created (creates_of_flagged creates)
  | edits edits => exact .edits (edits_of_flagged edits)
  | upgrades upgrades => exact .upgrades (upgrades_of_flagged upgrades)
  | sets sets =>
      obtain ⟨_, _, _, _, _, set⟩ := sets
      exact .nothing _ (sets_flag_keeps_charts set)

end Delivery.Charts
