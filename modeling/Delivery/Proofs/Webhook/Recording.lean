import Delivery.Proofs.Outcomes
import Delivery.Proofs.Store.Builds
import Delivery.Rehearsal.Samples
import Delivery.Webhook.Ingestion
set_option autoImplicit false

namespace Delivery.Webhook

open Store

variable {ω : Type}

theorem run_on_store {α : Type} (service : Service Store α) (world : World ω) :
    (World.onStore service).run world =
      ((service.run world.store).1, { world with store := (service.run world.store).2 }) :=
  Service.run_within _ _ service world (fun _ _ => rfl) (fun _ _ _ => rfl) fun _ => rfl

theorem ends_on_store {α : Type} {service : Service Store α} {world : World ω}
    {good : α → World ω → Prop} {bad : Error → World ω → Prop}
    (ends : service.Ends world.store (fun result after => good result { world with store := after })
      (fun error after => bad error { world with store := after })) :
    (World.onStore service).Ends world good bad := by
  rw [Service.Ends] at ends
  rw [Service.Ends, run_on_store]
  cases outcome : service.run world.store with
  | mk answer after =>
      rw [outcome] at ends
      cases answer <;> exact ends

def finishRun (store : Store) (now : Instant) : Option WorkflowId → Store
  | none => store
  | some id =>
      match store.workflows.get? id with
      | none => store
      | some workflow => { store with workflows := store.workflows.insert id (finishWorkflow workflow now) }

theorem finish_run_found {store : Store} {id : WorkflowId} {workflow : CiWorkflow} (now : Instant)
    (found : store.workflows.get? id = some workflow) : finishRun store now (some id) =
      { store with workflows := store.workflows.insert id (finishWorkflow workflow now) } := by
  simp [finishRun, found]

theorem finish_run_only (store : Store) (now : Instant) (run : Option WorkflowId) :
    finishRun store now run = { store with workflows := (finishRun store now run).workflows } := by
  cases run with
  | none => rfl
  | some id =>
      rw [finishRun]
      cases store.workflows.get? id <;> rfl

theorem finish_run_count (store : Store) (now : Instant) (run : Option WorkflowId) :
    (finishRun store now run).artifactCount = store.artifactCount := by
  rw [finish_run_only]

theorem finish_run_filed {store : Store} (now : Instant) (run : Option WorkflowId) (filed : ArtifactsFiled store) :
    ArtifactsFiled (finishRun store now run) := by
  rw [finish_run_only]
  exact filed

theorem save_own_ends {request : BuildEventRequest} {artifact : NewArtifact} {now : Instant} {store : Store}
    {good : Artifact → Store → Prop} {bad : Error → Store → Prop}
    (right : ∀ row after, artifact.check = .ok () →
      (∀ run, request.workflowId = some run → ∃ workflow, store.workflows.get? run = some workflow) →
      (finishRun store now request.workflowId).insertArtifact artifact = (row, after) → good row after)
    (wrong : ∀ error, bad error store) : (saveOwn request artifact now).Ends store good bad := by
  rw [saveOwn]
  cases named : request.workflowId with
  | none =>
      refine Service.ends_transact (fun row after done => ?_) fun error _ => wrong error
      obtain ⟨checked, inserted⟩ := save_artifact_ok done
      refine right row after checked ?_ ?_
      · rw [named]
        exact nofun
      · rw [named]
        exact inserted
  | some id =>
      refine Service.ends_transact (fun row after done => ?_) fun error _ => wrong error
      obtain ⟨checked, workflow, found, _, inserted⟩ := save_artifact_of_workflow_ok done
      refine right row after checked ?_ ?_
      · rw [named]
        rintro run ⟨⟩
        exact ⟨workflow, found⟩
      · rw [named, finish_run_found now found]
        exact inserted

theorem save_clones_ends {clones : List NewArtifact} {store : Store} {good : List Artifact → Store → Prop}
    {bad : Error → Store → Prop} (right : ∀ clone ∈ clones, clone.check = .ok ())
    (holds : good (store.insertArtifacts clones).1 (store.insertArtifacts clones).2) :
    (saveClones clones).Ends store good bad := by
  cases clones with
  | nil => exact Service.ends_pure holds
  | cons clone rest =>
      refine Service.ends_transact (fun rows after done => ?_) fun error refused => ?_
      · rw [save_artifacts_right right] at done
        obtain ⟨rfl, rfl⟩ := Prod.mk.inj (Except.ok.inj done)
        exact holds
      · rw [save_artifacts_right right] at refused
        cases refused

def Ready (store : Store) (request : BuildEventRequest) : Prop :=
  ∀ run workflow, request.workflowId = some run → store.workflows.get? run = some workflow →
    workflow.status ≠ .succeeded

structure Build where
  pipeline : CiPipeline
  dataSource : DataSource
  materialInfo : String
  own : Artifact
  clones : List Artifact

def Build.news (build : Build) (store : Store) (request : BuildEventRequest) (pushedAt : Option Instant)
    (now : Instant) : List NewArtifact :=
  request.ownArtifact build.pipeline build.dataSource build.materialInfo (pushedAt.getD now) ::
    (store.childrenOf build.pipeline.id).map
      (request.cloneFor (Id.nth store.artifactCount) build.dataSource build.materialInfo now)

structure Records (config : CiConfig) (id : CiPipelineId) (request : BuildEventRequest) (pushedAt : Option Instant)
    (now : Instant) (before : Store) (build : Build) (after : Store) : Prop where
  pipeline : before.ciPipeline? id = some build.pipeline
  dataSource : config.dataSource request.dataSource = .ok build.dataSource
  materialInfo : request.provenance = .ok build.materialInfo
  run : ∀ run, request.workflowId = some run →
    ∃ workflow, before.workflows.get? run = some workflow ∧ workflow.status ≠ .succeeded
  stored : (finishRun before now request.workflowId).insertArtifacts (build.news before request pushedAt now) =
    (build.own :: build.clones, after)

section Record

variable {config : CiConfig} {id : CiPipelineId} {request : BuildEventRequest} {pushedAt : Option Instant}
  {now : Instant} {store : Store}

theorem clone_right {pipeline : CiPipeline} {dataSource : DataSource} {materialInfo : String} {createdOn : Instant}
    (right : (request.ownArtifact pipeline dataSource materialInfo createdOn).check = .ok ()) (parent : ArtifactId)
    (child : CiPipeline) : (request.cloneFor parent dataSource materialInfo now child).check = .ok () :=
  right

theorem record_build_ends (ready : Ready store request) :
    (recordBuild config id request pushedAt now).Ends store
      (fun recorded after => ∃ build, Records config id request pushedAt now store build after ∧
        recorded = .fresh build.own build.clones (request.successEvent build.pipeline build.own))
      (fun _ after => after = store) := by
  rw [recordBuild]
  refine Service.ends_bind (Service.ends_require (fun pipeline foundPipeline => ?_) fun _ => rfl)
  refine Service.ends_bind (Service.ends_of_except (fun dataSource source => ?_) fun _ _ => rfl)
  refine Service.ends_bind (Service.ends_of_except (fun materialInfo provenance => ?_) fun _ _ => rfl)
  refine Service.ends_bind (save_own_ends (fun own middle right named saved => ?_) fun _ => rfl)
  refine Service.ends_bind (Service.ends_look ?_)
  have clonesRight : ∀ clone ∈ (middle.childrenOf pipeline.id).map
      (request.cloneFor own.id dataSource materialInfo now), clone.check = .ok () := by
    intro clone member
    obtain ⟨child, _, rfl⟩ := List.mem_map.mp member
    exact clone_right right own.id child
  refine Service.ends_bind (save_clones_ends clonesRight (Service.ends_pure ?_))
  refine ⟨⟨pipeline, dataSource, materialInfo, own, _⟩, ⟨foundPipeline, source, provenance, ?_, ?_⟩, rfl⟩
  · intro run asked
    obtain ⟨workflow, found⟩ := named run asked
    exact ⟨workflow, found, ready run workflow asked found⟩
  · obtain ⟨ownEq, middleEq⟩ := Prod.mk.inj saved
    have ownId : own.id = Id.nth store.artifactCount := by
      rw [← ownEq, ← finish_run_count store now request.workflowId]
      rfl
    -- The children are looked up after the first artifact is stored, which does not touch pipelines.
    have children : middle.childrenOf pipeline.id = store.childrenOf pipeline.id := by
      rw [← middleEq, finish_run_only]
      rfl
    rw [Build.news, insertArtifacts, saved, children, ownId]

theorem has_succeeded_ends : (hasSucceeded request.workflowId).Ends store
    (fun run after => after = store ∧ match run with
      | some run => request.workflowId = some run ∧
          ∃ workflow, store.workflows.get? run = some workflow ∧ workflow.status = .succeeded
      | none => Ready store request)
    (fun _ after => after = store) := by
  rw [hasSucceeded.eq_def]
  cases named : request.workflowId with
  | none =>
      refine Service.ends_pure ⟨rfl, fun run workflow asked => ?_⟩
      rw [named] at asked
      cases asked
  | some id =>
      refine Service.ends_bind (Service.ends_require (fun workflow found => Service.ends_pure ⟨rfl, ?_⟩) fun _ => rfl)
      by_cases done : workflow.status = .succeeded
      · rw [if_pos done]
        exact ⟨rfl, workflow, found, done⟩
      · rw [if_neg done]
        intro run other asked there
        cases named.symm.trans asked
        rwa [Option.some.inj (there.symm.trans found)]

def earlierOutcome (store : Store) (artifact : Artifact) : Recorded :=
  .already artifact.id ((store.clonesOf artifact.id).map (·.id))

theorem record_success_ends : (recordSuccess config id request pushedAt now).Ends store
    (fun recorded after =>
      (∃ run workflow artifact, request.workflowId = some run ∧ store.workflows.get? run = some workflow ∧
        workflow.status = .succeeded ∧ store.artifactOfWorkflow run = some artifact ∧
        recorded = earlierOutcome store artifact ∧ after = store) ∨
      ∃ build, Records config id request pushedAt now store build after ∧
        recorded = .fresh build.own build.clones (request.successEvent build.pipeline build.own))
    (fun _ after => after = store) := by
  refine Service.ends_bind (Service.ends_weaken has_succeeded_ends ?_ fun _ _ same => same)
  rintro run _ ⟨rfl, answer⟩
  cases run with
  | none => exact Service.ends_weaken (record_build_ends answer) (fun _ _ records => .inr records) fun _ _ same => same
  | some run =>
      obtain ⟨asked, workflow, found, done⟩ := answer
      refine Service.ends_bind (Service.ends_require (fun artifact there => ?_) fun _ => rfl)
      refine Service.ends_bind (Service.ends_look (Service.ends_pure ?_))
      exact .inl ⟨run, workflow, artifact, asked, found, done, there, rfl, rfl⟩

end Record

section Success

variable {webhook : Webhook ω} {id : CiPipelineId} {request : BuildEventRequest} {pushedAt : Option Instant}
  {now : Instant} {world after : World ω} {outcome : IngestionOutcome}

inductive Succeeds (webhook : Webhook ω) (id : CiPipelineId) (request : BuildEventRequest)
    (pushedAt : Option Instant) (now : Instant) (world : World ω) : IngestionOutcome → World ω → Prop where
  | again {run : WorkflowId} {workflow : CiWorkflow} {artifact : Artifact} (asked : request.workflowId = some run)
      (found : world.store.workflows.get? run = some workflow) (done : workflow.status = .succeeded)
      (recorded : world.store.artifactOfWorkflow run = some artifact) :
      Succeeds webhook id request pushedAt now world
        { artifactId := artifact.id, cloneIds := (world.store.clonesOf artifact.id).map (·.id), fanOut := {} } world
  | first {build : Build} {store : Store} {run : FanOutRun ω}
      (records : Records webhook.config id request pushedAt now world.store build store)
      (triggers : webhook.engine.fanOut (build.own :: build.clones) (webhook.config.triggerMode request.userId)
        request.userId world.outside = run) :
      Succeeds webhook id request pushedAt now world
        { artifactId := build.own.id, cloneIds := build.clones.map (·.id), fanOut := run.report }
        { world with
          store
          outside := run.outside
          moments := world.moments ++ run.moments
          events := world.events ++ [request.successEvent build.pipeline build.own] }

theorem build_succeeded_ends : (webhook.buildSucceeded id request pushedAt now).Ends world
    (fun outcome after => Succeeds webhook id request pushedAt now world outcome after)
    (fun _ after => after = world) := by
  refine Service.ends_bind (ends_on_store (Service.ends_weaken record_success_ends ?_ fun _ _ same => by rw [same]))
  rintro recorded store (⟨run, workflow, artifact, asked, found, done, there, rfl, rfl⟩ | ⟨build, records, rfl⟩)
  · exact Service.ends_pure (.again asked found done there)
  · refine Service.ends_bind (Service.ends_act ?_)
    refine Service.ends_bind (Service.ends_act (Service.ends_pure ?_))
    exact .first records rfl

theorem first_success_records (ready : Ready world.store request)
    (answer : (webhook.buildSucceeded id request pushedAt now).run world = (.ok outcome, after)) :
    ∃ build, Records webhook.config id request pushedAt now world.store build after.store ∧
      after.events = world.events ++ [request.successEvent build.pipeline build.own] ∧
      outcome.artifactId = build.own.id ∧ outcome.cloneIds = build.clones.map (·.id) := by
  have succeeds : Succeeds webhook id request pushedAt now world outcome after :=
    Service.ends_ok build_succeeded_ends answer
  cases succeeds with
  | again asked found done _ => exact absurd done (ready _ _ asked found)
  | @first build store run records _ => exact ⟨build, records, rfl, rfl, rfl⟩

end Success

section Records

variable {config : CiConfig} {id : CiPipelineId} {request : BuildEventRequest} {pushedAt : Option Instant}
  {now : Instant} {before after : Store} {build : Build}

theorem records_numbered (records : Records config id request pushedAt now before build after) :
    build.own :: build.clones = numbered before.artifactCount (build.news before request pushedAt now) := by
  rw [← finish_run_count before now request.workflowId]
  exact (inserted_parts records.stored).1

theorem records_count (records : Records config id request pushedAt now before build after) :
    after.artifactCount = before.artifactCount + (build.news before request pushedAt now).length := by
  obtain ⟨_, rfl⟩ := inserted_parts records.stored
  rw [insert_artifacts_count, finish_run_count]

theorem news_length (build : Build) (store : Store) (request : BuildEventRequest) (pushedAt : Option Instant)
    (now : Instant) :
    (build.news store request pushedAt now).length = (store.childrenOf build.pipeline.id).length + 1 := by
  rw [Build.news, List.length_cons, List.length_map]

theorem records_only (records : Records config id request pushedAt now before build after) :
    after = { before with
      artifacts := after.artifacts
      artifactCount := after.artifactCount
      workflows := (finishRun before now request.workflowId).workflows } := by
  obtain ⟨_, same⟩ := inserted_parts records.stored
  have only := insert_artifacts_only (finishRun before now request.workflowId) (build.news before request pushedAt now)
  rw [← same, OnlyArtifacts, finish_run_only] at only
  exact only

theorem records_own (records : Records config id request pushedAt now before build after) :
    build.own = (request.ownArtifact build.pipeline build.dataSource build.materialInfo (pushedAt.getD now)).stored
      (Id.nth before.artifactCount) :=
  (List.cons.inj (records_numbered records)).1

theorem records_clones (records : Records config id request pushedAt now before build after) :
    build.clones = numbered (before.artifactCount + 1) ((before.childrenOf build.pipeline.id).map
      (request.cloneFor build.own.id build.dataSource build.materialInfo now)) := by
  rw [records_own records]
  exact (List.cons.inj (records_numbered records)).2

theorem records_ready (records : Records config id request pushedAt now before build after) : Ready before request := by
  intro run workflow asked found
  obtain ⟨other, there, unfinished⟩ := records.run run asked
  rwa [Option.some.inj (found.symm.trans there)]

end Records

def sampleOfRun : BuildEventRequest :=
  { Sample.buildRequest with workflowId := some ⟨1⟩ }

theorem sample_run_ready {store : Store} (here : store.workflows.get? ⟨1⟩ = some Sample.workflow) :
    Ready store sampleOfRun := by
  rintro run workflow ⟨⟩ found
  obtain rfl := Option.some.inj (here.symm.trans found)
  decide

end Delivery.Webhook
