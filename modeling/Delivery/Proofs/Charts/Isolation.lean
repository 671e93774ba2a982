import Delivery.Proofs.Charts.Upgrades
import Delivery.Proofs.Store.Confined
set_option autoImplicit false

namespace Delivery.Charts

open Store

def Command.Concerns (app : AppId) (store : Store) : Command → Prop
  | .create request _ => request.appId = app
  | .update id _ _ _ _ => ∀ chart, store.charts.get? id = some chart → chart.appId = app
  | .upgrade own _ _ _ => own = app
  | .setMetrics own _ _ _ => own = app

abbrev StaysWith {α : Type} (app : AppId) (start store : Store) (service : Service Store α) : Prop :=
  service.Ends store (fun _ => Confines app start) fun _ => Confines app start

section Programs

variable {α : Type} {app : AppId} {start store : Store}

theorem confines_one {before after : Store} (confined : Confined app before after) : Confines app before after :=
  Relation.ReflTransGen.single confined

theorem stays_of_moves {service : Service Store α} (soFar : Confines app start store)
    (moves : service.Moves (Confines app)) : StaysWith app start store service :=
  Service.ends_moves (fun _ => .refl) (fun left right => left.trans right) moves
    (fun _ _ later => soFar.trans later) fun _ _ later => soFar.trans later

theorem stays_later {service : Service Store α} (soFar : Confines app start store)
    (stays : StaysWith app store store service) : StaysWith app start store service :=
  Service.ends_weaken stays (fun _ _ later => soFar.trans later) fun _ _ later => soFar.trans later

theorem stays_run {service : Service Store α} (stays : StaysWith app store store service) :
    Confines app store (service.run store).2 :=
  Service.ends_after (motive := Confines app store) stays (fun _ _ confines => confines) fun _ _ confines => confines

theorem set_app_metrics_confined (enabled : Bool) (user : UserId) (now : Instant) (store : Store) :
    Confines app store (store.setAppMetrics app enabled user now).2 :=
  confines_one (.sets enabled user now)

theorem record_template_change_confined {chart : Chart} (own : chart.appId = app) (appMetrics : Bool) (user : UserId)
    (now : Instant) : (Recorder.recordTemplateChange chart appMetrics user now).Moves (Confines app) := by
  refine Service.moves_bind (Service.moves_require (fun _ => .refl) _ _) fun chartRef => ?_
  refine Service.moves_bind (Service.moves_look (fun _ => .refl) _) fun pipelines => ?_
  refine Service.moves_act fun store => confines_one (.notes _ ?_)
  refine List.forall_mem_cons.mpr ⟨own, fun row member => ?_⟩
  obtain ⟨pipeline, _, rfl⟩ := List.mem_map.mp member
  exact own

theorem record_override_change_stays {row : EnvOverride} (own : store.isChartOf app row.chartId = true)
    (appMetrics : Bool) (pipeline : Option CdPipelineId) (user : UserId) (now : Instant) :
    StaysWith app store store (Recorder.recordOverrideChange row appMetrics pipeline user now) := by
  refine Service.ends_bind (Service.ends_require (fun chart found => ?_) fun _ => .refl)
  obtain ⟨owner, there, owned⟩ := chart_of_owner own
  obtain rfl : chart = owner := Option.some.inj (found.symm.trans there)
  refine stays_of_moves .refl (Service.moves_bind (Service.moves_require (fun _ => .refl) _ _) fun chartRef => ?_)
  refine Service.moves_bind ?_ fun pipelineId => Service.moves_act fun store => ?_
  · cases pipeline with
    | some pipeline => exact Service.moves_pure _
    | none => exact Service.moves_look (fun _ => .refl) _
  · exact confines_one (.notes [_] (List.forall_mem_singleton.mpr owned))

theorem carry_override_stays {target : ChartId} (own : store.isChartOf app target = true) (user : UserId)
    (now : Instant) (row : EnvOverride) : StaysWith app store store (carryOverride app target user now row) := by
  refine Service.ends_bind (Service.ends_transact (fun created made done => ?_) fun _ _ => .refl)
  have stored : Confines app store made := confines_one (.overrides own done)
  have still : made.isChartOf app created.chartId = true := by
    obtain ⟨_, _, rowEq, _⟩ := create_override_ok done
    rw [chart_of_iff done, rowEq]
    exact own
  -- The flag that counts is only read.
  refine Service.ends_bind (Service.ends_moves (fun _ => rfl) Eq.trans (resolve_app_metrics_steps (fun _ => rfl) app _)
    ?_ ?_)
  · rintro appMetrics _ rfl
    refine Service.ends_bind (Service.ends_weaken
      (stays_later stored (record_override_change_stays still appMetrics none user now)) ?_ fun _ _ noted => noted)
    exact fun _ _ noted => Service.ends_pure noted
  · rintro _ _ rfl
    exact stored

theorem carry_all_stays {target : ChartId} (own : store.isChartOf app target = true) (user : UserId) (now : Instant)
    (rows : List EnvOverride) : StaysWith app store store (rows.forM (carryOverride app target user now)) := by
  induction rows generalizing store with
  | nil => exact Service.ends_pure .refl
  | cons row rest ih =>
      have one := Service.ends_with_run (carry_override_stays own user now row)
      refine Service.ends_bind (Service.ends_weaken one ?_ fun _ _ carried => carried.2)
      rintro _ middle ⟨ran, first⟩
      -- The charts are as they were, so the target is still the application's.
      have kept : KeepsFlags store middle := by
        have moved := Service.moves_run keeps_flags_refl keeps_flags_trans
          (carry_override_moves app target user now row) store
        rwa [ran] at moved
      have still : middle.isChartOf app target = true := by
        rw [isChartOf, keeps_charts_charts (keeps_charts_of_flags kept)]
        exact own
      exact stays_later first (ih still)

theorem create_stays {request : TemplateRequest} (own : request.appId = app) (rooted : Rooted store) (now : Instant) :
    StaysWith app store store (create request now) := by
  refine Service.ends_bind (Service.ends_require (fun row found => ?_) fun _ => .refl)
  have owned : row.id = app := (rooted.apps found).trans own
  refine Service.ends_bind (Service.ends_require (fun chartRef _ => ?_) fun _ => .refl)
  refine Service.ends_bind (Service.ends_look ?_)
  dsimp only
  split
  · exact Service.ends_bind (Service.ends_throw .refl)
  · refine Service.ends_bind (Service.ends_require (fun repo _ => ?_) fun _ => .refl)
    refine Service.ends_bind (next_version_ends ?_)
    refine Service.ends_bind (Service.ends_transact (fun created made done => ?_) fun _ _ => .refl)
    have stored : Confines app store made := confines_one (.creates owned done)
    have ownCreated : created.appId = app := by
      rw [(create_chart_ok done).1]
      exact owned
    rw [owned]
    refine stays_of_moves stored (Service.moves_bind (Service.moves_act (set_app_metrics_confined _ _ _)) fun _ => ?_)
    exact Service.moves_bind (record_template_change_confined ownCreated _ _ _) fun _ => Service.moves_pure _

theorem resolve_requested_confined {chart : Chart} (own : chart.appId = app) (requested : Option Bool) (user : UserId)
    (now : Instant) : (resolveRequested chart requested user now).Moves (Confines app) := by
  cases requested with
  | none => exact Service.moves_look (fun _ => .refl) _
  | some wanted =>
      refine Service.moves_bind (Service.moves_require (fun _ => .refl) _ _) fun chartRef => ?_
      rw [own]
      exact Service.moves_bind (Service.moves_act (set_app_metrics_confined _ _ _)) fun _ => Service.moves_pure _

theorem update_stays {id : ChartId} (own : ∀ chart, store.charts.get? id = some chart → chart.appId = app)
    (filed : ChartsFiled store) (delta : Json) (appMetrics : Option Bool) (user : UserId) (now : Instant) :
    StaysWith app store store (update id delta appMetrics user now) := by
  refine Service.ends_bind (Service.ends_require (fun current found => ?_) fun _ => .refl)
  have owned : current.appId = app := own current found
  refine Service.ends_bind (Service.ends_transact (fun updated made done => ?_) fun _ _ => .refl)
  have there : store.charts.get? (edited current delta user now).id = some current := by
    rw [← filed.own found] at found
    exact found
  have stored : Confines app store made := confines_one (.updates there owned owned done)
  have ownUpdated : updated.appId = app := by
    obtain ⟨_, _, rfl, _⟩ := update_chart_ok done
    exact owned
  refine stays_of_moves stored (Service.moves_bind (resolve_requested_confined ownUpdated _ _ _) fun enabled => ?_)
  exact Service.moves_bind (record_template_change_confined ownUpdated _ _ _) fun _ => Service.moves_pure _

theorem created_owned {request : TemplateRequest} {now : Instant} {created : Chart} {after : Store}
    (rooted : Rooted store) (creates : CreatesFlagged request now store created after) :
    after.isChartOf request.appId created.id = true := by
  obtain ⟨row, _, _, made, found, _, _, done, sets⟩ := creates
  have owned : created.appId = request.appId := by
    rw [(create_chart_ok done).1]
    exact rooted.apps found
  rw [isChartOf, keeps_charts_charts (sets_flag_keeps_charts sets), created_here done]
  exact beq_iff_eq.mpr owned

theorem upgrade_stays (rooted : Rooted store) (target : ChartRefId) (user : UserId) (now : Instant) :
    StaysWith app store store (upgrade app target user now) := by
  refine Service.ends_bind (Service.ends_require (fun current _ => ?_) fun _ => .refl)
  refine Service.ends_bind (Service.ends_require (fun before _ => ?_) fun _ => .refl)
  refine Service.ends_bind (Service.ends_require (fun chartRef _ => ?_) fun _ => .refl)
  refine Service.ends_bind (Service.ends_of_except (fun _ _ => ?_) fun _ _ => .refl)
  refine Service.ends_bind (Service.ends_look ?_)
  refine Service.ends_bind (Service.ends_weaken (Service.ends_with_run (create_stays rfl rooted now)) ?_
    fun _ _ made => made.2)
  rintro created middle ⟨ran, first⟩
  have own := created_owned rooted (Service.ends_ok (create_ends _ now store) ran)
  refine Service.ends_bind (Service.ends_look ?_)
  refine Service.ends_bind (Service.ends_weaken (stays_later first (carry_all_stays own user now _)) ?_
    fun _ _ carried => carried)
  exact fun _ _ carried => Service.ends_pure carried

theorem set_metrics_stays (enabled : Bool) (user : UserId) (now : Instant) :
    StaysWith app store store (setMetrics app enabled user now) := by
  refine Service.ends_bind (Service.ends_require (fun current found => ?_) fun _ => .refl)
  have own : current.appId = app := (latest_chart_found found).2.1
  refine Service.ends_bind (Service.ends_require (fun chartRef _ => ?_) fun _ => .refl)
  refine Service.ends_bind (Service.ends_of_except (fun _ _ => ?_) fun _ _ => .refl)
  refine stays_of_moves .refl (Service.moves_bind (Service.moves_act (set_app_metrics_confined _ _ _)) fun _ => ?_)
  exact Service.moves_bind (record_template_change_confined own _ _ _) fun _ => Service.moves_pure _

theorem command_confined (reached : Reachable store) {command : Command} (concerns : command.Concerns app store) :
    Confines app store (command.perform store) := by
  have rooted : Rooted store := reachable_rooted reached
  have filed : ChartsFiled store := (reachable_orderly reached).charts
  cases command with
  | create request now => exact stays_run (create_stays concerns rooted now)
  | update id delta appMetrics user now => exact stays_run (update_stays concerns filed delta appMetrics user now)
  | upgrade own target user now =>
      obtain rfl : own = app := concerns
      exact stays_run (upgrade_stays rooted target user now)
  | setMetrics own enabled user now =>
      obtain rfl : own = app := concerns
      exact stays_run (set_metrics_stays enabled user now)

end Programs

/-- An operation on charts, whether it ends well or not, leaves the charts, the overrides and the metrics of all other
applications as they are. What it adds to the history is about its own application, and nothing else of the store
changes. -/
theorem command_isolates (app : AppId) (store : Store) (command : Command) (reached : Reachable store)
    (concerns : command.Concerns app store) (room : HasRoom (command.perform store))
    (roomNoted : (command.perform store).historyCount < Id.capacity) : Isolates app store (command.perform store) :=
  confines_isolates reached (command_confined reached concerns) room roomNoted

def sampleNeighbours : Store :=
  let start := (Fixtures.seedApp .empty).putApp (Fixtures.application ⟨2⟩ "other-app")
  let own := Command.perform start (.create Sample.templateRequest Sample.moment)
  let both := Command.perform own (.create { Sample.templateRequest with appId := ⟨2⟩ } Sample.moment)
  storeOverride (storeOverride both Sample.newEnvOverride) { Sample.newEnvOverride with chartId := ⟨2⟩ }

theorem sample_neighbours_edited : Edited sampleNeighbours := by
  have start : Edited ((Fixtures.seedApp .empty).putApp (Fixtures.application ⟨2⟩ "other-app")) :=
    .start (.step seed_app_reachable (.putApp _)) rfl
  exact store_override_edited (store_override_edited (.use (.use start _) _) _) _

theorem sample_upgrade_isolates :
    let after := Command.perform sampleNeighbours (.upgrade ⟨1⟩ ⟨2⟩ Fixtures.testUser Sample.moment)
    Isolates ⟨1⟩ sampleNeighbours after ∧ after.chartCount = 3 ∧ after.envOverrideCount = 3 ∧
      (sampleNeighbours.envOverrides.rows.filter (·.latest)).length = 2 ∧
      (after.envOverrides.rows.filter (·.latest)).map (·.chartId) = [⟨2⟩, ⟨3⟩] := by
  intro after
  have isolated := command_isolates ⟨1⟩ sampleNeighbours (.upgrade ⟨1⟩ ⟨2⟩ Fixtures.testUser Sample.moment)
    (edited_reachable sample_neighbours_edited) rfl ⟨by decide, by decide⟩ (by decide)
  exact ⟨isolated, by decide, by decide, by decide, by decide⟩

end Delivery.Charts
