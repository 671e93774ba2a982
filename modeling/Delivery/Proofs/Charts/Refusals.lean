import Delivery.Proofs.Charts.Upgrades
import Delivery.Proofs.History.Changes
import Delivery.Proofs.History.Trail
set_option autoImplicit false

namespace Delivery.Charts

open Store

-- The store as it is decides whether the operation can be done. It is done then, and otherwise nothing changes.
structure AllOrNothing {α : Type} (possible : Prop) (before : Store) (answer : Except Error α) (after : Store) :
    Prop where
  whole : ∀ error, answer = .error error → after = before
  decided : (∃ result, answer = .ok result) ↔ possible

structure Creatable (store : Store) (app : AppId) (target : ChartRefId) : Prop where
  owner : ∃ row, store.apps.get? app = some row
  reference : ∃ chartRef, store.chartRefs.get? target = some chartRef
  free : store.chartByRef? app target = none
  repo : ∃ repo, store.defaultRepo? = some repo

structure Upgradable (store : Store) (app : AppId) (target : ChartRefId) : Prop extends
    Creatable store app target where
  kinds : ∃ current before after, store.latestChart? app = some current ∧
    store.chartRefs.get? current.chartRefId = some before ∧ store.chartRefs.get? target = some after ∧
    checkKinds current before after = .ok ()

def CanSetMetrics (store : Store) (app : AppId) (enabled : Bool) : Prop :=
  ∃ current chartRef, store.latestChart? app = some current ∧
    store.chartRefs.get? current.chartRefId = some chartRef ∧ checkMetrics chartRef enabled = .ok ()

def Notable (id : ChartId) (store : Store) : Prop :=
  ∃ chart chartRef, store.charts.get? id = some chart ∧ store.chartRefs.get? chart.chartRefId = some chartRef

theorem all_or_nothing_of_ends {α : Type} {service : Service Store α} {possible : Prop} {store after : Store}
    {answer : Except Error α}
    (ends : service.Ends store (fun _ _ => possible) fun _ after => after = store ∧ ¬possible)
    (ran : service.run store = (answer, after)) : AllOrNothing possible store answer after := by
  refine Service.ends_answer (motive := AllOrNothing possible store) ends ran ?_ ?_
  · exact fun result after can => ⟨nofun, iff_of_true ⟨result, rfl⟩ can⟩
  · exact fun error after failed => ⟨fun _ _ => failed.1, iff_of_false nofun failed.2⟩

section Notes

variable {store before after : Store} {id : ChartId} {row : EnvOverride} {user : UserId} {now : Instant}

theorem notable_kept (kept : KeepsCharts before after) (notable : Notable id before) : Notable id after := by
  obtain ⟨chart, chartRef, found, foundRef⟩ := notable
  refine ⟨chart, chartRef, ?_, ?_⟩
  · rw [keeps_charts_charts kept, found]
  · rw [keeps_charts_refs kept, foundRef]

theorem override_noted_ends (notable : Notable row.chartId store) (appMetrics : Bool) :
    (Recorder.recordOverrideChange row appMetrics none user now).Ends store (fun _ after => OnlyHistory store after)
      fun _ _ => False := by
  obtain ⟨chart, chartRef, found, foundRef⟩ := notable
  refine Service.ends_bind (Service.ends_require (fun other there => ?_) fun absent => ?_)
  · obtain rfl : other = chart := Option.some.inj (there.symm.trans found)
    refine Service.ends_bind (Service.ends_require (fun _ _ => ?_) fun absent => ?_)
    · exact Service.ends_bind (Service.ends_look (Service.ends_act (append_history_only store _)))
    · cases absent.symm.trans foundRef
  · cases absent.symm.trans found

theorem carried_ends (app : AppId) (notable : Notable id store) (row : EnvOverride) :
    (carryOverride app id user now row).Ends store (fun _ after => Notable id after) fun _ _ => False := by
  refine Service.ends_bind (Service.ends_transact (fun created made done => ?_) fun error refused => ?_)
  · obtain ⟨_, _, createdEq, _⟩ := create_override_ok done
    have kept : KeepsCharts store made := keeps_charts_of_flags (create_override_keeps done)
    have own : created.chartId = id := by
      rw [createdEq]
      rfl
    have still : Notable created.chartId made := own ▸ notable_kept kept notable
    refine Service.ends_bind (Recorder.resolve_app_metrics_ends ?_)
    refine Service.ends_bind (Service.ends_weaken (override_noted_ends still _) ?_ fun _ _ never => never)
    intro _ after only
    exact Service.ends_pure (own ▸ notable_kept (keeps_charts_of_flags (keeps_flags_of_history only)) still)
  · obtain ⟨chart, _, found, _⟩ := notable
    have present : store.charts.get? (carried row id user now).chartId = some chart := found
    simp [createOverride, present] at refused

theorem all_carried_ends (app : AppId) (notable : Notable id store) (rows : List EnvOverride) :
    (rows.forM (carryOverride app id user now)).Ends store (fun _ after => Notable id after) fun _ _ => False := by
  induction rows generalizing store with
  | nil => exact Service.ends_pure notable
  | cons row rest ih =>
      exact Service.ends_bind (Service.ends_weaken (carried_ends app notable row) (fun _ _ still => ih still)
        fun _ _ never => never)

end Notes

section Operations

variable {store : Store} {created : Chart} {chartRef : ChartRef}

theorem create_chart_free {new : NewChart} (free : store.chartByRef? new.appId new.chartRefId = none) {error : Error} :
    store.createChart new ≠ .error error := by
  simp [createChart, free]

theorem stored_noted_ends (found : store.charts.get? created.id = some created)
    (foundRef : store.chartRefs.get? created.chartRefId = some chartRef) (app : AppId) (enabled : Bool) (user : UserId)
    (now : Instant) :
    Service.Ends (do
      let _ ← Service.act fun store => store.setAppMetrics app enabled user now
      let _ ← Recorder.recordTemplateChange created enabled user now
      return created) store (fun row after => row = created ∧ Notable created.id after) fun _ _ => False := by
  have still : (store.setAppMetrics app enabled user now).2.chartRefs.get? created.chartRefId = some chartRef :=
    foundRef
  refine Service.ends_bind (Service.ends_act ?_)
  refine Service.ends_bind (Service.ends_weaken (Recorder.template_noted_ends still enabled) (fun _ after only => ?_)
    fun _ _ never => never)
  have sets : SetsFlag store after app enabled user now := keeps_flags_of_history only
  exact Service.ends_pure ⟨rfl, notable_kept (sets_flag_keeps_charts sets) ⟨created, chartRef, found, foundRef⟩⟩

theorem create_decided (reached : Reachable store) (request : TemplateRequest) (now : Instant) :
    (create request now).Ends store
      (fun created after => Creatable store request.appId request.chartRefId ∧ Notable created.id after)
      fun _ after => after = store ∧ ¬Creatable store request.appId request.chartRefId := by
  refine Service.ends_bind (Service.ends_require (fun app foundApp => ?_) fun absent => ⟨rfl, fun can => ?_⟩)
  · refine Service.ends_bind (Service.ends_require (fun chartRef foundRef => ?_) fun absent => ⟨rfl, fun can => ?_⟩)
    · have owner : app.id = request.appId := (reachable_rooted reached).apps foundApp
      have named : chartRef.id = request.chartRefId := (reachable_orderly reached).chartRefs foundRef
      refine Service.ends_bind (Service.ends_look ?_)
      cases taken : store.chartByRef? app.id chartRef.id with
      | some chart =>
          refine Service.ends_bind (Service.ends_throw ⟨rfl, fun can => ?_⟩)
          cases (owner ▸ named ▸ taken).symm.trans can.free
      | none =>
          refine Service.ends_bind (Service.ends_require (fun repo foundRepo => ?_) fun absent => ⟨rfl, fun can => ?_⟩)
          · have can : Creatable store request.appId request.chartRefId :=
              ⟨⟨app, foundApp⟩, ⟨chartRef, foundRef⟩, owner ▸ named ▸ taken, ⟨repo, foundRepo⟩⟩
            refine Service.ends_bind (next_version_ends ?_)
            refine Service.ends_bind (Service.ends_transact (fun created made done => ?_) fun _ refused => ?_)
            · have reference : made.chartRefs.get? created.chartRefId = some chartRef := by
                have here : store.chartRefs.get? chartRef.id = some chartRef := by rw [named, foundRef]
                obtain ⟨rfl, _, rfl⟩ := create_chart_ok done
                exact here
              refine Service.ends_weaken (stored_noted_ends (created_here done) reference _ _ _ _) ?_
                fun _ _ never => never.elim
              rintro _ after ⟨rfl, notable⟩
              exact ⟨can, notable⟩
            · exact absurd refused (create_chart_free taken)
          · obtain ⟨repo, present⟩ := can.repo
            cases absent.symm.trans present
    · obtain ⟨chartRef, present⟩ := can.reference
      cases absent.symm.trans present
  · obtain ⟨app, present⟩ := can.owner
    cases absent.symm.trans present

theorem upgrade_decided (reached : Reachable store) (app : AppId) (target : ChartRefId) (user : UserId)
    (now : Instant) :
    (upgrade app target user now).Ends store (fun _ _ => Upgradable store app target)
      fun _ after => after = store ∧ ¬Upgradable store app target := by
  refine Service.ends_bind (Service.ends_require (fun current found => ?_) fun absent => ⟨rfl, fun can => ?_⟩)
  · refine Service.ends_bind (Service.ends_require (fun before foundOld => ?_) fun absent => ⟨rfl, fun can => ?_⟩)
    · refine Service.ends_bind (Service.ends_require (fun after foundRef => ?_) fun absent => ⟨rfl, fun can => ?_⟩)
      · have named : after.id = target := (reachable_orderly reached).chartRefs foundRef
        refine Service.ends_bind (Service.ends_of_except (fun _ alike => ?_) fun error unlike => ⟨rfl, fun can => ?_⟩)
        · refine Service.ends_bind (Service.ends_look ?_)
          refine Service.ends_bind (Service.ends_weaken (create_decided reached _ now) ?_ ?_)
          · rintro created middle ⟨can, notable⟩
            refine Service.ends_bind (Service.ends_look ?_)
            refine Service.ends_bind (Service.ends_weaken (all_carried_ends app notable _) (fun _ _ _ => ?_)
              fun _ _ never => never.elim)
            exact Service.ends_pure ⟨named ▸ can, current, before, after, found, foundOld, foundRef, alike⟩
          · rintro _ left ⟨same, cannot⟩
            exact ⟨same, fun can => cannot (named ▸ can.toCreatable)⟩
        · obtain ⟨_, _, _, isLatest, old, new, alike⟩ := can.kinds
          cases isLatest.symm.trans found
          cases old.symm.trans foundOld
          cases new.symm.trans foundRef
          cases unlike.symm.trans alike
      · obtain ⟨_, _, _, _, _, new, _⟩ := can.kinds
        cases absent.symm.trans new
    · obtain ⟨_, _, _, isLatest, old, _⟩ := can.kinds
      cases isLatest.symm.trans found
      cases absent.symm.trans old
  · obtain ⟨_, _, _, isLatest, _⟩ := can.kinds
    cases absent.symm.trans isLatest

theorem set_metrics_decided (store : Store) (app : AppId) (enabled : Bool) (user : UserId) (now : Instant) :
    (setMetrics app enabled user now).Ends store (fun _ _ => CanSetMetrics store app enabled)
      fun _ after => after = store ∧ ¬CanSetMetrics store app enabled := by
  refine Service.ends_bind (Service.ends_require (fun current found => ?_) fun absent => ⟨rfl, ?_⟩)
  · refine Service.ends_bind (Service.ends_require (fun chartRef foundRef => ?_) fun absent => ⟨rfl, ?_⟩)
    · refine Service.ends_bind (Service.ends_of_except (fun _ allowed => ?_) fun error forbidden => ⟨rfl, ?_⟩)
      · have still : (store.setAppMetrics app enabled user now).2.chartRefs.get? current.chartRefId = some chartRef :=
          foundRef
        refine Service.ends_bind (Service.ends_act ?_)
        refine Service.ends_bind (Service.ends_weaken (Recorder.template_noted_ends still enabled) (fun _ _ _ => ?_)
          fun _ _ never => never.elim)
        exact Service.ends_pure ⟨current, chartRef, found, foundRef, allowed⟩
      · rintro ⟨_, _, isLatest, reference, allowed⟩
        cases isLatest.symm.trans found
        cases reference.symm.trans foundRef
        cases forbidden.symm.trans allowed
    · rintro ⟨_, _, isLatest, reference, _⟩
      cases isLatest.symm.trans found
      cases absent.symm.trans reference
  · rintro ⟨_, _, isLatest, _⟩
    cases absent.symm.trans isLatest

end Operations

/-- A creation, an upgrade and a change of the metrics flag do all or nothing, in every store that there can be, also
in one with charts whose reference is not registered. One that fails leaves the whole store as it was, and none fails
if what it looks up in the store before its first write is there: no later step can fail. -/
theorem operations_all_or_nothing (store : Store) (reached : Reachable store) :
    (∀ request now answer after, (create request now).run store = (answer, after) →
      AllOrNothing (Creatable store request.appId request.chartRefId) store answer after) ∧
    (∀ app target user now answer after, (upgrade app target user now).run store = (answer, after) →
      AllOrNothing (Upgradable store app target) store answer after) ∧
    (∀ app enabled user now answer after, (setMetrics app enabled user now).run store = (answer, after) →
      AllOrNothing (CanSetMetrics store app enabled) store answer after) := by
  refine ⟨fun request now answer after ran => ?_, fun app target user now answer after ran => ?_,
    fun app enabled user now answer after ran => ?_⟩
  · refine all_or_nothing_of_ends (Service.ends_weaken (create_decided reached request now) ?_ ?_) ran
    · exact fun _ _ done => done.1
    · exact fun _ _ failed => failed
  · exact all_or_nothing_of_ends (upgrade_decided reached app target user now) ran
  · exact all_or_nothing_of_ends (set_metrics_decided store app enabled user now) ran

def sampleStray : Store :=
  Write.perform (Fixtures.seedApp .empty) (.createChart { Sample.newChart with chartRefId := ⟨101⟩ })

theorem sample_stray_all_or_nothing :
    Reachable sampleStray ∧
    (upgrade ⟨1⟩ ⟨2⟩ Fixtures.testUser Sample.moment).run sampleStray =
      (.error (.missing (⟨101⟩ : ChartRefId)), sampleStray) ∧
    (setMetrics ⟨1⟩ false Fixtures.testUser Sample.moment).run sampleStray =
      (.error (.missing (⟨101⟩ : ChartRefId)), sampleStray) ∧
    ∃ created after, (create Sample.templateRequest Sample.moment).run sampleStray = (.ok created, after) := by
  have reached : Reachable sampleStray := perform_reachable seed_app_reachable _
  obtain ⟨creates, upgrades, sets⟩ := operations_all_or_nothing sampleStray reached
  refine ⟨reached, Prod.ext rfl ?_, Prod.ext rfl ?_, ?_⟩
  · exact (upgrades ⟨1⟩ ⟨2⟩ Fixtures.testUser Sample.moment _ _ rfl).whole _ rfl
  · exact (sets ⟨1⟩ false Fixtures.testUser Sample.moment _ _ rfl).whole _ rfl
  · have can : Creatable sampleStray ⟨1⟩ ⟨1⟩ := ⟨⟨_, rfl⟩, ⟨_, rfl⟩, by decide, ⟨_, rfl⟩⟩
    obtain ⟨created, done⟩ := (creates Sample.templateRequest Sample.moment _ _ rfl).decided.mpr can
    exact ⟨created, _, Prod.ext done rfl⟩

end Delivery.Charts
