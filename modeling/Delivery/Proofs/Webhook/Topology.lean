import Delivery.Proofs.Webhook.Success
set_option autoImplicit false

namespace Delivery.Webhook

open Store

section Children

variable {store : Store} {parent : CiPipelineId} {child : CiPipeline}

theorem mem_children (orderly : Orderly store) : child ∈ store.childrenOf parent ↔
    store.ciPipeline? child.id = some child ∧ child.parentId = some parent := by
  rw [(children_of orderly parent).listed, ciPipeline?, Option.filter_eq_some_iff, Bool.not_eq_true']
  constructor
  · rintro ⟨there, sprung, live⟩
    exact ⟨⟨there, live⟩, sprung⟩
  · rintro ⟨⟨there, live⟩, sprung⟩
    exact ⟨there, sprung, live⟩

end Children

section Records

variable {config : CiConfig} {id : CiPipelineId} {request : BuildEventRequest} {pushedAt : Option Instant}
  {now : Instant} {before after : Store} {build : Build}

theorem recorded_pipelines (records : Records config id request pushedAt now before build after) :
    (build.own :: build.clones).map (·.pipelineId) =
      ((build.pipeline :: before.childrenOf build.pipeline.id).map (·.id)).map some := by
  have built : List.Forall₂ (fun artifact pipeline => artifact.pipelineId = some pipeline.id)
      (build.own :: build.clones) (build.pipeline :: before.childrenOf build.pipeline.id) :=
    .cons (records_own_built records).1.pipelineId
      ((records_clones_built records).flip.imp fun _ _ clone => clone.1.pipelineId)
  rw [List.map_map, ← List.forall₂_eq_eq_eq, List.forall₂_map_left_iff, List.forall₂_map_right_iff]
  exact built

theorem recorded_distinct_iff (orderly : Orderly before)
    (records : Records config id request pushedAt now before build after) :
    ((build.own :: build.clones).map (·.pipelineId)).Nodup ↔ build.pipeline.parentId ≠ some id := by
  obtain ⟨_, rfl, _⟩ := records_pipeline orderly records
  have itself : build.pipeline.id ∈ (before.childrenOf build.pipeline.id).map (·.id) ↔
      build.pipeline.parentId = some build.pipeline.id := by
    constructor
    · intro member
      obtain ⟨child, there, same⟩ := List.mem_map.mp member
      obtain ⟨found, sprung⟩ := (mem_children orderly).mp there
      rw [same, records.pipeline] at found
      obtain rfl := Option.some.inj found
      exact sprung
    · exact fun own => List.mem_map_of_mem ((mem_children orderly).mpr ⟨records.pipeline, own⟩)
  rw [recorded_pipelines records, List.nodup_map_iff (fun _ _ => Option.some.inj), List.map_cons, List.nodup_cons,
    itself]
  exact and_iff_left (children_distinct (children_of orderly _))

end Records

/-- However the pipelines hang together, the artifacts that a build makes are of different pipelines, except where the
pipeline of the build is its own parent. Then its own artifact and one of the clones are of one pipeline. -/
theorem one_artifact_per_pipeline_iff {ω : Type} (webhook : Webhook ω) (id : CiPipelineId)
    (request : BuildEventRequest) (pushedAt : Option Instant) (now : Instant) (before after : World ω)
    (answer : Except Error IngestionOutcome) (reached : Reachable before.store)
    (called : (webhook.buildSucceeded id request pushedAt now).run before = (answer, after))
    (recorded : after.store.artifacts ≠ before.store.artifacts) :
    ∃ build outcome, answer = .ok outcome ∧
      Records webhook.config id request pushedAt now before.store build after.store ∧
      outcome.artifactId = build.own.id ∧ outcome.cloneIds = build.clones.map (·.id) ∧
      (after.store.artifactCount < Id.capacity → after.store.artifacts.entries =
        before.store.artifacts.entries ++ (build.own :: build.clones).map underId) ∧
      (((build.own :: build.clones).map (·.pipelineId)).Nodup ↔ build.pipeline.parentId ≠ some id) := by
  have orderly : Orderly before.store := reachable_orderly reached
  cases answer with
  | error error =>
      obtain rfl := Service.ends_error build_succeeded_ends called
      exact absurd rfl recorded
  | ok outcome =>
      have succeeds : Succeeds webhook id request pushedAt now before outcome after :=
        Service.ends_ok build_succeeded_ends called
      cases succeeds with
      | again _ _ _ _ => exact absurd rfl recorded
      | @first build store run records _ =>
          exact ⟨build, _, rfl, records, rfl, rfl, fun room => records_entries orderly.artifacts room records,
            recorded_distinct_iff orderly records⟩

def sampleRing : World Bool where
  store :=
    let first := Fixtures.childCiPipeline ⟨1⟩ ⟨1⟩ ⟨2⟩ true
    let second := Fixtures.childCiPipeline ⟨2⟩ ⟨1⟩ ⟨1⟩ true
    (Store.empty.putCiPipeline first).putCiPipeline second
  outside := false

theorem sample_ring_reachable : Reachable sampleRing.store :=
  .step (.step .empty (.putCiPipeline _)) (.putCiPipeline _)

theorem sample_one_artifact_per_pipeline : ∃ (outcome : IngestionOutcome) (after : World Bool) (build : Build),
    (({} : Session).webhook.buildSucceeded ⟨1⟩ Sample.buildRequest none Sample.moment).run sampleRing =
      (.ok outcome, after) ∧ after.store.artifacts ≠ sampleRing.store.artifacts ∧
    after.store.artifacts.entries = (build.own :: build.clones).map underId ∧
    ((build.own :: build.clones).map (·.pipelineId)).Nodup := by
  let after := ((({} : Session).webhook.buildSucceeded ⟨1⟩ Sample.buildRequest none Sample.moment).run sampleRing).2
  have recorded : after.store.artifacts ≠ sampleRing.store.artifacts :=
    fun same => absurd (congrArg (·.entries.length) same) (by decide)
  obtain ⟨build, outcome, ended, records, _, _, entries, distinct⟩ :=
    one_artifact_per_pipeline_iff ({} : Session).webhook ⟨1⟩ Sample.buildRequest none Sample.moment sampleRing after _
      sample_ring_reachable rfl recorded
  have pipeline : build.pipeline = Fixtures.childCiPipeline ⟨1⟩ ⟨1⟩ ⟨2⟩ true :=
    (Option.some.inj records.pipeline).symm
  refine ⟨outcome, after, build, Prod.ext ended rfl, recorded, entries (by decide), distinct.mpr ?_⟩
  rw [pipeline]
  decide

def sampleLoop : World Bool where
  store := Store.empty.putCiPipeline { Sample.ciPipeline with parentId := some ⟨1⟩ }
  outside := false

theorem own_parent_recorded_twice :
    Reachable sampleLoop.store ∧ ∃ outcome after,
      (({} : Session).webhook.buildSucceeded ⟨1⟩ Sample.buildRequest none Sample.moment).run sampleLoop =
        (.ok outcome, after) ∧
      outcome.artifactId = ⟨1⟩ ∧ outcome.cloneIds = [⟨2⟩] ∧
      after.store.artifacts.rows.map (fun artifact => (artifact.id, artifact.pipelineId, artifact.imageDigest)) =
        [(⟨1⟩, some ⟨1⟩, "sha256:a"), (⟨2⟩, some ⟨1⟩, "sha256:a")] := by
  refine ⟨.step .empty (.putCiPipeline _), _, _, rfl, ?_⟩
  decide

end Delivery.Webhook
