import Delivery.History.Queries
import Delivery.Proofs.Charts.Editing
import Delivery.Proofs.Charts.Metrics
import Delivery.Proofs.Protocols
import Delivery.Proofs.Store.Trail
import Delivery.Proofs.Webhook.Writes
set_option autoImplicit false

namespace Delivery.Recorder

open Store Webhook

variable {ω : Type}

-- The programs of all services. What services read otherwise are functions of a store.
inductive Operation (ω : Type) where
  | edit (command : Charts.Command)
  | compatible (old new : ChartRefId)
  | latest (app : AppId)
  | templateChange (chart : Chart) (appMetrics : Bool) (user : UserId) (now : Instant)
  | overrideChange (override : EnvOverride) (appMetrics : Bool) (pipeline : Option CdPipelineId) (user : UserId)
      (now : Instant)
  | resolveMetrics (app : AppId) (environment : EnvironmentId)
  | deployment (pipeline : CdPipeline) (override : EnvOverride) (imageTemplate : String) (deployedOn : Instant)
      (deployedBy : UserId) (snapshot : Table String String)
  | webhook (call : Call ω)

namespace Operation

def service : Operation ω → Service (World ω) Unit
  | .edit command => World.onStore command.service
  | .compatible old new => World.onStore (Charts.compatible old new).discarded
  | .latest app => World.onStore (Charts.latest app).discarded
  | .templateChange chart appMetrics user now =>
      World.onStore (recordTemplateChange chart appMetrics user now).discarded
  | .overrideChange override appMetrics pipeline user now =>
      World.onStore (recordOverrideChange override appMetrics pipeline user now).discarded
  | .resolveMetrics app environment => World.onStore (resolveAppMetrics app environment).discarded
  | .deployment pipeline override imageTemplate deployedOn deployedBy snapshot =>
      World.onStore (recordDeployment pipeline override imageTemplate deployedOn deployedBy snapshot).discarded
  | .webhook call => call.service.discarded

def flow (operation : Operation ω) : Flow (World ω) (Except Error Unit) :=
  ExceptT.run operation.service

def Deploys (row : NewHistory) : Operation ω → Prop
  | .deployment pipeline _ imageTemplate deployedOn deployedBy snapshot =>
      row.pipelineId = some pipeline.id ∧ row.imageDescriptorTemplate = imageTemplate ∧
        row.deployedOn = some deployedOn ∧ row.deployedBy = some deployedBy ∧ row.snapshot = snapshot
  | _ => False

end Operation

section Moves

variable {allowed : NewHistory → Prop} (undeployed : ∀ row, row.deployed = false → allowed row)

include undeployed in
theorem undeployed_grow (store : Store) (rows : List NewHistory) (none : ∀ row ∈ rows, row.deployed = false) :
    TrailGrows allowed store (store.appendHistories rows).2 :=
  write_grows (.appendHistories rows) (fun row member => undeployed row (none row member)) rfl

include undeployed in
theorem edit_grows (command : Charts.Command) : command.service.Moves (TrailGrows allowed) :=
  Charts.command_steps trail_grows_refl
    (fun _ new _ _ done => unnoted_grows (.createChart new) rfl (map_of_made done))
    (fun _ chart _ _ done => unnoted_grows (.updateChart chart) rfl (map_of_made done))
    (fun _ new _ _ done => unnoted_grows (.createOverride new) rfl (map_of_made done))
    (fun _ app enabled user now => unnoted_grows (.setAppMetrics app enabled user now) rfl rfl)
    (undeployed_grow undeployed) command

theorem build_write_grows {before after : Store} (write : BuildWrite before after) :
    TrailGrows allowed before after := by
  cases write with
  | external _ done => exact unnoted_grows (.saveArtifact _) rfl (map_of_made done)
  | own _ done => exact unnoted_grows (.saveArtifact _) rfl (map_of_made done)
  | ownOfRun _ done => exact unnoted_grows (.saveArtifactOfWorkflow _ _ _) rfl (map_of_made done)
  | clones _ done => exact unnoted_grows (.saveArtifacts _) rfl (map_of_made done)
  | withdrawn done => exact unnoted_grows (.deleteArtifact _) rfl (map_of_made done)

include undeployed in
theorem operation_grows (operation : Operation ω) (deploys : ∀ row, operation.Deploys row → allowed row) :
    operation.service.Moves (StoresRelated (TrailGrows allowed)) := by
  have reflexive : ∀ store, TrailGrows allowed store store := trail_grows_refl
  cases operation with
  | edit command => exact on_store_moves (edit_grows undeployed command)
  | compatible old new =>
      refine on_store_moves (Service.moves_discarded ?_)
      refine Service.moves_bind (Service.moves_require reflexive _ _) fun before => ?_
      exact Service.moves_bind (Service.moves_require reflexive _ _) fun after => Service.moves_pure _
  | latest app => exact on_store_moves (Service.moves_discarded (Service.moves_require reflexive _ _))
  | templateChange chart appMetrics user now =>
      refine on_store_moves (Service.moves_discarded ?_)
      exact Charts.record_template_change_steps reflexive (undeployed_grow undeployed) chart appMetrics user now
  | overrideChange override appMetrics pipeline user now =>
      refine on_store_moves (Service.moves_discarded ?_)
      exact Charts.record_override_change_steps reflexive (undeployed_grow undeployed) override appMetrics pipeline
        user now
  | resolveMetrics app environment =>
      exact on_store_moves (Service.moves_discarded (Charts.resolve_app_metrics_steps reflexive app environment))
  | deployment pipeline override imageTemplate deployedOn deployedBy snapshot =>
      refine on_store_moves (Service.moves_discarded ?_)
      refine Service.moves_bind (Service.moves_require reflexive _ _) fun chart => ?_
      refine Service.moves_bind (Service.moves_require reflexive _ _) fun chartRef => ?_
      refine Service.moves_bind (Charts.resolve_app_metrics_steps reflexive _ _) fun appMetrics => ?_
      refine Service.moves_act fun store => write_grows (.appendHistory _) ?_ rfl
      exact List.forall_mem_singleton.mpr (deploys _ ⟨rfl, rfl, rfl, rfl, rfl⟩)
  | webhook call => exact Service.moves_discarded (call_moves reflexive (fun _ _ => build_write_grows) call)

end Moves

section Run

def poolOfOperations (start : World ω) (operations : List (Operation ω)) : Pool (World ω) (Except Error Unit) where
  world := start
  flows := operations.map Operation.flow

def beside (write : Write) (world : World ω) : World ω :=
  { world with store := write.perform world.store }

def storeAfter (start : World ω) (operations : List (Operation ω)) (turns : List (Turn Write)) : Store :=
  ((poolOfOperations start operations).play beside turns).world.store

def Noted (operations : List (Operation ω)) (turns : List (Turn Write)) (row : NewHistory) : Prop :=
  (∃ operation ∈ operations, operation.Deploys row) ∨ ∃ write : Write, .aside write ∈ turns ∧ row ∈ write.noted

variable {start : World ω} {operations : List (Operation ω)}

theorem trail_grows_later (earlier later : List (Turn Write)) :
    TrailGrows (fun row => row.deployed = true → Noted operations later row) (storeAfter start operations earlier)
      (storeAfter start operations (earlier ++ later)) := by
  let grows : World ω → World ω → Prop :=
    StoresRelated (TrailGrows fun row => row.deployed = true → Noted operations later row)
  have moves : ∀ flow ∈ (poolOfOperations start operations).flows, flow.Moves grows := by
    intro flow member
    obtain ⟨operation, there, rfl⟩ := List.mem_map.mp member
    have undeployed : ∀ row : NewHistory, row.deployed = false → row.deployed = true → Noted operations later row :=
      fun _ down up => absurd (down.symm.trans up) Bool.false_ne_true
    have each : operation.service.Moves grows :=
      operation_grows undeployed operation fun row deploys _ => .inl ⟨operation, there, deploys⟩
    exact Service.moves_iff_flow.mp each
  have written : ∀ write, .aside write ∈ later → ∀ world, grows world (beside write world) := by
    intro write member world
    exact perform_grows write (fun row noted _ => .inr ⟨write, member, noted⟩) world.store
  have reflexive : ∀ world, grows world world := fun world => trail_grows_refl world.store
  have transitive : ∀ {a b c}, grows a b → grows b c → grows a c := trail_grows_trans
  rw [storeAfter, storeAfter, Pool.play_append]
  exact Pool.moves_play reflexive transitive (Pool.still_moves_play moves earlier) written

end Run

section Snapshots

def metricsInForce (store : Store) (app : AppId) (environment : EnvironmentId) : Bool :=
  match store.envMetrics.get? ⟨app, environment⟩, store.appMetrics.get? app with
  | some row, _ => row.enabled
  | none, some row => row.enabled
  | none, none => false

def pointed (version : ChartVersion) : String :=
  let digits (part : UInt32) := Nat.toDigits 10 part.toNat
  String.ofList (digits version.major ++ '.' :: digits version.minor ++ '.' :: digits version.patch)

def detailInForce (store : Store) (pipeline : CdPipeline) (override : EnvOverride) (snapshot : Table String String)
    (chart : Chart) (chartRef : ChartRef) : HistoryDetail where
  templateName := if chartRef.name = "" then "Rollout Deployment" else chartRef.name
  templateVersion := pointed chartRef.version
  appMetrics := metricsInForce store pipeline.appId pipeline.environmentId
  codeEditorValue := {
    displayName := "values.yaml"
    value := if override.isOverride then override.values else chart.globalOverride }
  snapshot

variable {store : Store} {pipeline : CdPipeline} {override : EnvOverride} {imageTemplate : String}
  {deployedOn : Instant} {deployedBy : UserId} {snapshot : Table String String} {entry row : History}

theorem resolve_app_metrics_ends {app : AppId} {environment : EnvironmentId} {good : Bool → Store → Prop}
    {bad : Error → Store → Prop} (holds : good (metricsInForce store app environment) store) :
    (resolveAppMetrics app environment).Ends store good bad := by
  rw [metricsInForce] at holds
  refine Service.ends_bind (Service.ends_look ?_)
  cases found : store.envMetrics.get? ⟨app, environment⟩ with
  | some row => exact Service.ends_pure (by simpa only [found] using holds)
  | none =>
      refine Service.ends_look ?_
      rw [appMetricsFlag]
      cases flag : store.appMetrics.get? app with
      | some row => simpa only [found, flag, Option.any_some] using holds
      | none => simpa only [found, flag, Option.any_none] using holds

theorem record_deployment_ends (store : Store) :
    (recordDeployment pipeline override imageTemplate deployedOn deployedBy snapshot).Ends store
      (fun entry after => ∃ chart chartRef row, store.charts.get? override.chartId = some chart ∧
        store.chartRefs.get? chart.chartRefId = some chartRef ∧ store.appendHistory row = (entry, after) ∧
        entry.pipelineId = some pipeline.id ∧ entry.deployed = true ∧
        entry.detail = detailInForce store pipeline override snapshot chart chartRef)
      (fun _ after => after = store) := by
  refine Service.ends_bind (Service.ends_require (fun chart found => ?_) fun _ => rfl)
  refine Service.ends_bind (Service.ends_require (fun chartRef foundRef => ?_) fun _ => rfl)
  refine Service.ends_bind (resolve_app_metrics_ends ?_)
  exact Service.ends_act ⟨chart, chartRef, _, found, foundRef, rfl, rfl, rfl, rfl⟩

theorem record_deployment_reachable {after : Store} (reached : Reachable store)
    (done : (recordDeployment pipeline override imageTemplate deployedOn deployedBy snapshot).run store =
      (.ok entry, after)) : Reachable after := by
  obtain ⟨_, _, row, _, _, appended, _⟩ := Service.ends_ok (record_deployment_ends store) done
  have behind : after = (store.appendHistory row).2 := (congrArg Prod.snd appended).symm
  exact behind ▸ .step reached (.appendHistory row)

theorem history_detail_found {id : HistoryId} (found : store.history.get? id = some row)
    (deployed : row.deployed = true) (other : CdPipelineId) :
    store.historyDetail id other = if row.pipelineId = some other then .ok row.detail else .error (.missing id) := by
  by_cases own : row.pipelineId = some other
  · simp [historyDetail, found, deployed, own, Option.filter]
  · simp [historyDetail, found, own, Option.filter]

end Snapshots

/-- Operations of all services, in any order and between each other's steps, while all kinds of rows are written
aside. At any time the history is that of any earlier time with rows behind it, under identifiers that are greater;
and a new row tells of a deployment only if one was recorded or the row was put in as it is. Whatever happens after a
deployment, its row shows what was in force then, to its own pipeline and to no other. -/
theorem history_only_grows (start : World ω) (operations : List (Operation ω)) (earlier later : List (Turn Write))
    (reached : Reachable start.store)
    (room : (storeAfter start operations (earlier ++ later)).historyCount < Id.capacity) :
    let middle := storeAfter start operations earlier
    let final := storeAfter start operations (earlier ++ later)
    (∃ rows : List History, final.history.rows = middle.history.rows ++ rows ∧
      (∀ old ∈ middle.history.rows, ∀ row ∈ rows, old.id.raw < row.id.raw) ∧
      ∀ row ∈ rows, row.deployed = true → Noted operations later row.toNewHistory) ∧
    (∀ key row, middle.history.get? key = some row → final.history.get? key = some row) ∧
    ∀ before pipeline override imageTemplate deployedOn deployedBy snapshot entry,
      (recordDeployment pipeline override imageTemplate deployedOn deployedBy snapshot).run before =
        (.ok entry, start.store) →
      ∃ chart chartRef, before.charts.get? override.chartId = some chart ∧
        before.chartRefs.get? chart.chartRefId = some chartRef ∧
        final.historyDetail entry.id pipeline.id =
          .ok (detailInForce before pipeline override snapshot chart chartRef) ∧
        ∀ other, other ≠ pipeline.id → final.historyDetail entry.id other = .error (.missing entry.id) := by
  intro middle final
  have ordered : start.store.trail.InOrder := reachable_in_order reached
  have still : middle.trail.InOrder := trail_grows_in_order (trail_grows_later [] earlier) ordered
  have grows : TrailGrows (fun row => row.deployed = true → Noted operations later row) middle final :=
    trail_grows_later earlier later
  refine ⟨trail_grows_rows still room grows, fun _ _ found => trail_grows_kept still room grows found, ?_⟩
  intro before pipeline override imageTemplate deployedOn deployedBy snapshot entry done
  obtain ⟨chart, chartRef, row, found, foundRef, appended, own, deployed, detail⟩ :=
    Service.ends_ok (record_deployment_ends before) done
  have there : final.history.get? entry.id = some entry :=
    trail_grows_kept ordered room (trail_grows_later [] (earlier ++ later)) (appended_found appended)
  have shows := history_detail_found there deployed
  refine ⟨chart, chartRef, found, foundRef, ?_, fun other different => ?_⟩
  · rw [shows, if_pos own, detail]
  · have foreign : entry.pipelineId ≠ some other := fun same => different (Option.some.inj (same.symm.trans own))
    rw [shows, if_neg foreign]

-- A deployment to an environment that reports no metrics. Afterwards its application turns metrics on, its chart is
-- edited, its override gives way to another one, and it is deployed again.
def sampleCharted : Store :=
  Charts.Command.perform (Fixtures.seedApp .empty)
    (.create { Sample.templateRequest with chartRefId := ⟨2⟩ } Sample.moment)

def sampleDeployment : Service Store History :=
  let override := { Sample.envOverride with values := Fixtures.values 4 }
  recordDeployment Sample.cdPipeline override "repo/app:1" Sample.moment Fixtures.testUser .empty

def sampleDeployed : World Unit where
  store := (sampleDeployment.run sampleCharted).2
  outside := ()

def sampleOperations : List (Operation Unit) :=
  [.edit (.setMetrics ⟨1⟩ true Fixtures.testUser Sample.moment),
    .edit (.update (Id.nth 0) (Fixtures.values 3) none Fixtures.testUser Sample.moment),
    .deployment Sample.cdPipeline Sample.envOverride "repo/app:2" Sample.moment Fixtures.testUser .empty]

def sampleTurns : List (Turn Write) :=
  List.replicate 7 (.step 0) ++ [.aside (.createOverride Sample.newEnvOverride)] ++ List.replicate 7 (.step 1) ++
    List.replicate 7 (.step 2)

theorem sample_deployment_stays :
    let final := storeAfter sampleDeployed sampleOperations sampleTurns
    ∃ entry detail, sampleDeployment.run sampleCharted = (.ok entry, sampleDeployed.store) ∧
      final.historyDetail entry.id ⟨100⟩ = .ok detail ∧ detail.codeEditorValue.value = Fixtures.values 4 ∧
      detail.templateName = "Deployment" ∧ detail.templateVersion = "3.9.0" ∧ detail.appMetrics = false ∧
      metricsInForce final ⟨1⟩ ⟨10⟩ = true ∧ final.historyDetail entry.id ⟨101⟩ = .error (.missing entry.id) := by
  intro final
  have recorded : (sampleDeployment.run sampleCharted).1.toOption.isSome := by decide
  cases outcome : (sampleDeployment.run sampleCharted).1 with
  | error error =>
      rw [outcome] at recorded
      cases recorded
  | ok entry =>
      have done : sampleDeployment.run sampleCharted = (.ok entry, sampleDeployed.store) := Prod.ext outcome rfl
      have charted : Reachable sampleCharted :=
        Charts.follows_reachable (Charts.command_follows _ _) Charts.seed_app_reachable
      have reached : Reachable sampleDeployed.store := record_deployment_reachable charted done
      have quiet : metricsInForce sampleCharted ⟨1⟩ ⟨10⟩ = false := by decide
      have named : (sampleCharted.charts.get? (Id.nth 0)).bind (fun chart =>
          (sampleCharted.chartRefs.get? chart.chartRefId).map fun chartRef => (chartRef.name, chartRef.version)) =
          some ("Deployment", ⟨3, 9, 0⟩) := by decide
      obtain ⟨_, _, stays⟩ := history_only_grows sampleDeployed sampleOperations [] sampleTurns reached (by decide)
      obtain ⟨chart, chartRef, found, foundRef, shown, hidden⟩ := stays sampleCharted _ _ _ _ _ _ entry done
      have there : sampleCharted.charts.get? (Id.nth 0) = some chart := found
      obtain ⟨name, version⟩ : chartRef.name = "Deployment" ∧ chartRef.version = ⟨3, 9, 0⟩ := by
        rw [there, Option.bind_some, foundRef] at named
        exact Prod.ext_iff.mp (Option.some.inj named)
      refine ⟨entry, _, done, shown, rfl, ?_, ?_, quiet, by decide, hidden ⟨101⟩ (by decide)⟩
      · exact congrArg (fun name => if name = "" then "Rollout Deployment" else name) name
      · exact congrArg pointed version

end Delivery.Recorder
