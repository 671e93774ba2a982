import Delivery.Proofs.Store.Reachable
import Delivery.Proofs.Webhook.Recording
import Delivery.Rehearsal.Session
import Mathlib.Data.List.Nodup
set_option autoImplicit false

namespace Delivery.Webhook

open Store

structure BuiltFor (request : BuildEventRequest) (dataSource : DataSource) (materialInfo : String)
    (pipeline : CiPipeline) (artifact : Artifact) : Prop where
  pipelineId : artifact.pipelineId = some pipeline.id
  externalCiId : artifact.externalCiId = none
  image : artifact.image = request.image
  imageDigest : artifact.imageDigest = request.imageDigest
  materialInfo : artifact.materialInfo = materialInfo
  dataSource : artifact.dataSource = dataSource
  isUploaded : artifact.isUploaded = request.isUploaded
  scanEnabled : artifact.scanEnabled = pipeline.scanEnabled
  scanned : artifact.scanned = !pipeline.scanEnabled

structure Children (store : Store) (parent : CiPipelineId) (children : List CiPipeline) : Prop where
  listed : ∀ child, child ∈ children ↔
    store.ciPipelines.get? child.id = some child ∧ child.parentId = some parent ∧ child.deleted = false
  ascending : children.Pairwise fun first second => first.id.raw < second.id.raw

theorem children_of {store : Store} (orderly : Orderly store) (parent : CiPipelineId) :
    Children store parent (store.childrenOf parent) := by
  constructor
  · intro child
    rw [childrenOf, Table.filter, List.mem_filter, mem_rows_own orderly.pipelines, Bool.and_eq_true, beq_iff_eq,
      Bool.not_eq_true']
  · refine ((rows_ascending orderly.pipelines).filter _).imp fun {first second} before => ?_
    rwa [Id.compare_eq, Std.compare_eq_lt] at before

theorem children_distinct {store : Store} {parent : CiPipelineId} {children : List CiPipeline}
    (rows : Children store parent children) : (children.map (·.id)).Nodup := by
  refine List.pairwise_map.mpr (rows.ascending.imp fun before same => ?_)
  rw [same] at before
  exact Int64.lt_irrefl before

theorem children_unique {store : Store} {parent : CiPipelineId} {children others : List CiPipeline}
    (rows : Children store parent children) (rowsToo : Children store parent others) : children = others := by
  have once : children.Nodup := List.Nodup.of_map _ (children_distinct rows)
  have onceToo : others.Nodup := List.Nodup.of_map _ (children_distinct rowsToo)
  have same : children.Perm others := (List.perm_ext_iff_of_nodup once onceToo).mpr fun child =>
    (rows.listed child).trans (rowsToo.listed child).symm
  refine same.eq_of_pairwise ?_ rows.ascending rowsToo.ascending
  intro first second _ _ before after
  exact absurd after (Int64.lt_asymm before)

structure Adds {ω : Type} (config : CiConfig) (id : CiPipelineId) (request : BuildEventRequest) (now : Instant)
    (before : World ω) (outcome : IngestionOutcome) (after : World ω) (build : Build) (children : List CiPipeline) :
    Prop where
  pipeline : before.store.ciPipelines.get? id = some build.pipeline
  pipelineId : build.pipeline.id = id
  live : build.pipeline.deleted = false
  dataSource : config.dataSource request.dataSource = .ok build.dataSource
  materialInfo : request.provenance = .ok build.materialInfo
  entries : after.store.artifacts.entries =
    before.store.artifacts.entries ++ (build.own :: build.clones).map underId
  childRows : Children before.store id children
  consecutive : (build.own :: build.clones).map (·.id) =
    (List.range (children.length + 1)).map fun place => Id.nth (before.store.artifactCount + place)
  fresh : ∀ artifact ∈ build.own :: build.clones, before.store.artifacts.get? artifact.id = none
  own : BuiltFor request build.dataSource build.materialInfo build.pipeline build.own ∧
    build.own.parentId = none ∧ build.own.workflowId = request.workflowId
  clones : List.Forall₂ (fun child clone => BuiltFor request build.dataSource build.materialInfo child clone ∧
      clone.parentId = some build.own.id ∧ clone.workflowId = none)
    children build.clones
  noRun : request.workflowId = none → after.store.workflows = before.store.workflows
  run : ∀ run, request.workflowId = some run → ∃ workflow, before.store.workflows.get? run = some workflow ∧
    after.store.workflows =
      before.store.workflows.insert run { workflow with status := .succeeded, finishedOn := some now }
  others : after.store = { before.store with
    artifacts := after.store.artifacts
    artifactCount := after.store.artifactCount
    workflows := after.store.workflows }
  announced : ∃ event, after.events = before.events ++ [event] ∧ event.kind = .success ∧
    event.artifactId = some build.own.id
  artifactId : outcome.artifactId = build.own.id
  cloneIds : outcome.cloneIds = build.clones.map (·.id)

section Records

variable {config : CiConfig} {id : CiPipelineId} {request : BuildEventRequest} {pushedAt : Option Instant}
  {now : Instant} {before after : Store} {build : Build}

theorem records_pipeline (orderly : Orderly before)
    (records : Records config id request pushedAt now before build after) :
    before.ciPipelines.get? id = some build.pipeline ∧ build.pipeline.id = id ∧ build.pipeline.deleted = false := by
  have found := records.pipeline
  rw [ciPipeline?, Option.filter_eq_some_iff] at found
  exact ⟨found.1, orderly.pipelines found.1, by simpa using found.2⟩

theorem records_entries (filed : ArtifactsFiled before) (room : after.artifactCount < Id.capacity)
    (records : Records config id request pushedAt now before build after) :
    after.artifacts.entries = before.artifacts.entries ++ (build.own :: build.clones).map underId := by
  have finished : ArtifactsFiled (finishRun before now request.workflowId) := finish_run_filed now _ filed
  obtain ⟨rows, rfl⟩ := inserted_parts records.stored
  rw [insert_artifacts_count] at room
  rw [insert_artifacts_entries finished room, rows, finish_run_only]

theorem records_fresh (filed : ArtifactsFiled before) (room : after.artifactCount < Id.capacity)
    (records : Records config id request pushedAt now before build after) {artifact : Artifact}
    (member : artifact ∈ build.own :: build.clones) : before.artifacts.get? artifact.id = none := by
  rw [records_numbered records] at member
  obtain ⟨place, new, bound, _, rfl⟩ := mem_numbered member
  rw [records_count records] at room
  exact later_missing filed (Nat.le_add_right _ _) (by omega)

theorem records_own_built (records : Records config id request pushedAt now before build after) :
    BuiltFor request build.dataSource build.materialInfo build.pipeline build.own ∧
      build.own.parentId = none ∧ build.own.workflowId = request.workflowId := by
  rw [records_own records]
  exact ⟨⟨rfl, rfl, rfl, rfl, rfl, rfl, rfl, rfl, rfl⟩, rfl, rfl⟩

theorem records_clones_built (records : Records config id request pushedAt now before build after) :
    List.Forall₂ (fun child clone => BuiltFor request build.dataSource build.materialInfo child clone ∧
        clone.parentId = some build.own.id ∧ clone.workflowId = none)
      (before.childrenOf build.pipeline.id) build.clones := by
  rw [records_clones records]
  refine (numbered_map _ _ _).imp fun child clone made => ?_
  obtain ⟨key, rfl⟩ := made
  exact ⟨⟨rfl, rfl, rfl, rfl, rfl, rfl, rfl, rfl, rfl⟩, rfl, rfl⟩

end Records

def samplePipelines : Store :=
  let child := Fixtures.childCiPipeline ⟨2⟩ ⟨1⟩ ⟨1⟩ true
  let gone := Fixtures.childCiPipeline ⟨3⟩ ⟨1⟩ ⟨1⟩ true
  ((Store.empty.putCiPipeline Sample.ciPipeline).putCiPipeline child).putCiPipeline { gone with deleted := true }

def sampleWorld : World Bool where
  store := { samplePipelines with workflows := samplePipelines.workflows.insert ⟨1⟩ Sample.workflow }
  outside := false

theorem sample_world_reachable : Reachable sampleWorld.store := by
  have inserted : samplePipelines.insertWorkflow Sample.workflow = .ok ((), sampleWorld.store) := rfl
  exact .step (.step (.step (.step .empty (.putCiPipeline _)) (.putCiPipeline _)) (.putCiPipeline _))
    (.insertWorkflow inserted)

/-- A success that is refused, at whichever of its steps, leaves all as it was: no row is written and no identifier
given out, nothing is triggered and nothing told. -/
theorem refused_success_changes_nothing {ω : Type} (webhook : Webhook ω) (id : CiPipelineId)
    (request : BuildEventRequest) (pushedAt : Option Instant) (now : Instant) (before after : World ω) (error : Error)
    (answer : (webhook.buildSucceeded id request pushedAt now).run before = (.error error, after)) : after = before :=
  Service.ends_error build_succeeded_ends answer

def sampleFailed : World Bool where
  store :=
    let failed := { Sample.workflow with status := .failed, finishedOn := some Sample.moment }
    { samplePipelines with workflows := samplePipelines.workflows.insert ⟨1⟩ failed }
  outside := false

theorem refused_success_of_failed_run : ∃ after,
    (({} : Session).webhook.buildSucceeded ⟨1⟩ sampleOfRun none Sample.moment).run sampleFailed =
      (.error (transitionError ⟨1⟩ .failed .succeeded), after) ∧ after = sampleFailed :=
  ⟨_, rfl, refused_success_changes_nothing ({} : Session).webhook ⟨1⟩ sampleOfRun none Sample.moment sampleFailed _ _ rfl⟩

end Delivery.Webhook
