import Delivery.Proofs.Webhook.Calls
import Delivery.Rehearsal.Samples
import Delivery.Rehearsal.Session
set_option autoImplicit false

namespace Delivery.Webhook

open Store

variable {ω : Type}

theorem succeeded_again {webhook : Webhook ω} {id : CiPipelineId} {request : BuildEventRequest}
    {pushedAt : Option Instant} {now : Instant} {world : World ω} {run : WorkflowId} {workflow : CiWorkflow}
    {artifact : Artifact} (asked : request.workflowId = some run)
    (found : world.store.workflows.get? run = some workflow) (done : workflow.status = .succeeded)
    (recorded : world.store.artifactOfWorkflow run = some artifact) :
    (webhook.buildSucceeded id request pushedAt now).run world =
      (.ok { artifactId := artifact.id, cloneIds := (world.store.clonesOf artifact.id).map (·.id), fanOut := {} },
        world) := by
  refine Service.run_of_ends (Service.ends_bind (ends_on_store (Service.ends_bind ?_)))
  rw [asked, hasSucceeded]
  refine Service.ends_bind (Service.ends_require (fun other there => ?_) fun absent => ?_)
  · rw [found] at there
    obtain rfl := Option.some.inj there
    rw [if_pos done]
    refine Service.ends_pure (Service.ends_bind (Service.ends_require (fun other there => ?_) fun absent => ?_))
    · rw [recorded] at there
      obtain rfl := Option.some.inj there
      exact Service.ends_bind (Service.ends_look (Service.ends_pure (Service.ends_pure ⟨rfl, rfl⟩)))
    · rw [recorded] at absent
      cases absent
  · rw [found] at absent
    cases absent

section Later

variable {config : CiConfig} {id : CiPipelineId} {request : BuildEventRequest} {pushedAt : Option Instant}
  {now : Instant} {before made after : Store} {build : Build} {run : WorkflowId}

def ParentsGiven (store : Store) : Prop :=
  ∀ row ∈ store.artifacts.rows, ∀ parent, row.parentId = some parent → GivenWithin 0 store.artifactCount parent

theorem recorded_rows (filed : ArtifactsFiled before)
    (records : Records config id request pushedAt now before build made) (grows : Grows made after)
    (room : after.artifactCount < Id.capacity) :
    ∃ rows, after.artifacts.rows = before.artifacts.rows ++ (build.own :: build.clones ++ rows) ∧
      ∀ row ∈ rows, StoredWithin made.artifactCount after.artifactCount row := by
  obtain ⟨rows, split, stored⟩ := grows.added
  refine ⟨rows, ?_, stored⟩
  have finished : ArtifactsFiled (finishRun before now request.workflowId) := finish_run_filed now _ filed
  have roomMade : made.artifactCount < Id.capacity := Nat.lt_of_le_of_lt grows.count room
  obtain ⟨own, rfl⟩ := inserted_parts records.stored
  rw [insert_artifacts_count] at roomMade
  rw [split, insert_artifacts_rows finished roomMade, own, finish_run_only, List.append_assoc]

theorem before_made (records : Records config id request pushedAt now before build made) :
    before.artifactCount < made.artifactCount := by
  rw [records_count records, news_length]
  exact Nat.lt_add_of_pos_right (Nat.succ_pos _)

theorem own_id (records : Records config id request pushedAt now before build made) :
    build.own.id = Id.nth before.artifactCount := by
  rw [records_own records]
  rfl

theorem recorded_artifact (asked : request.workflowId = some run) (filed : ArtifactsFiled before)
    (records : Records config id request pushedAt now before build made) (grows : Grows made after)
    (room : after.artifactCount < Id.capacity) :
    after.artifactOfWorkflow run = (before.artifactOfWorkflow run).or (some build.own) := by
  obtain ⟨rows, split, _⟩ := recorded_rows filed records grows room
  have named : build.own.workflowId = some run := by
    rw [records_own records]
    exact asked
  rw [artifactOfWorkflow, Table.find?, split, List.find?_append, List.cons_append, List.find?_cons_of_pos]
  · rfl
  · simp [named]

theorem recorded_clones (parents : ParentsGiven before) (filed : ArtifactsFiled before)
    (records : Records config id request pushedAt now before build made) (grows : Grows made after)
    (room : after.artifactCount < Id.capacity) : after.clonesOf build.own.id = build.clones := by
  obtain ⟨rows, split, stored⟩ := recorded_rows filed records grows room
  have below : before.artifactCount < made.artifactCount := before_made records
  have roomOwn : before.artifactCount + 1 < Id.capacity := Nat.lt_of_le_of_lt (Nat.le_trans below grows.count) room
  -- Rows from before name older artifacts as their parents, and rows from after newer ones.
  have earlier : before.artifacts.rows.filter (fun row => row.parentId == some build.own.id) = [] := by
    refine List.filter_eq_nil_iff.mpr fun row member points => ?_
    have given := parents row member _ (beq_iff_eq.mp points)
    exact given_before given (Nat.le_refl _) roomOwn (own_id records)
  have ownRoot : build.own.parentId = none := by
    rw [records_own records]
    rfl
  have clones : build.clones.filter (fun row => row.parentId == some build.own.id) = build.clones := by
    refine List.filter_eq_self.mpr fun row member => ?_
    rw [records_clones records] at member
    obtain ⟨_, new, _, there, rfl⟩ := mem_numbered member
    obtain ⟨child, _, rfl⟩ := List.mem_map.mp there
    exact beq_iff_eq.mpr rfl
  have later : rows.filter (fun row => row.parentId == some build.own.id) = [] := by
    refine List.filter_eq_nil_iff.mpr fun row member points => ?_
    have given := (stored row member).parent _ (beq_iff_eq.mp points)
    exact given_after given room below (own_id records)
  rw [clonesOf, Table.filter, split, List.filter_append, List.cons_append, List.filter_cons_of_neg, List.filter_append,
    earlier, clones, later, List.nil_append, List.append_nil]
  simp [ownRoot]

theorem earlier_differs (filed : ArtifactsFiled before)
    (records : Records config id request pushedAt now before build made) (room : made.artifactCount < Id.capacity)
    {earlier : Artifact} (found : before.artifactOfWorkflow run = some earlier) : earlier.id ≠ build.own.id := by
  obtain ⟨key, there⟩ := Table.mem_rows.mp (List.mem_of_find?_eq_some found)
  obtain ⟨place, given, rfl⟩ := filed.given there
  have below : before.artifactCount < made.artifactCount := before_made records
  rw [filed.own there, own_id records]
  exact Id.nth_different given (by omega)

theorem recorded_run (asked : request.workflowId = some run)
    (records : Records config id request pushedAt now before build made) (grows : Grows made after) :
    ∃ workflow, after.workflows.get? run = some workflow ∧ workflow.status = .succeeded := by
  obtain ⟨workflow, found, _⟩ := records.run run asked
  refine ⟨finishWorkflow workflow now, grows.finished run _ ?_ rfl, rfl⟩
  rw [records_only records, asked, finish_run_found now found]
  exact Table.get_insert_same _ _ _

end Later

theorem run_parents {start : World ω} {calls : List (Call ω)} (noArtifacts : start.store.artifacts = .empty)
    (room : (Call.performAll start calls).store.artifactCount < Id.capacity) :
    ParentsGiven (Call.performAll start calls).store := by
  have filed : ArtifactsFiled start.store := by
    rw [ArtifactsFiled, noArtifacts]
    exact filed_empty _ _
  obtain ⟨rows, split, stored⟩ := (run_grows filed room).added
  intro row member parent named
  rw [split, noArtifacts] at member
  exact given_within_mono (Nat.zero_le _) (Nat.le_refl _) ((stored row member).parent parent named)

/-- From a store without artifacts: a success that is told again, however often and whatever came between, is
answered and changes nothing. It is answered like the first time exactly when no artifact, such as that of an
external build, named the run before the first time. -/
theorem told_again_like_first (start : World ω) (earlier between : List (Call ω))
    (webhook later : Webhook ω) (id laterId : CiPipelineId) (request laterRequest : BuildEventRequest)
    (pushedAt laterPushedAt : Option Instant) (now laterNow : Instant) (run : WorkflowId) (outcome : IngestionOutcome)
    (made : World ω) (noArtifacts : start.store.artifacts = .empty) (asked : request.workflowId = some run)
    (askedLater : laterRequest.workflowId = some run) (ready : Ready (Call.performAll start earlier).store request)
    (answer : (webhook.buildSucceeded id request pushedAt now).run (Call.performAll start earlier) =
      (.ok outcome, made))
    (room : (Call.performAll made between).store.artifactCount < Id.capacity) :
    ∃ again, (later.buildSucceeded laterId laterRequest laterPushedAt laterNow).run (Call.performAll made between) =
        (.ok again, Call.performAll made between) ∧ again.fanOut = {} ∧
      (again.artifactId = outcome.artifactId ∧ again.cloneIds = outcome.cloneIds ↔
        (Call.performAll start earlier).store.artifactOfWorkflow run = none) := by
  have filedStart : ArtifactsFiled start.store := by
    rw [ArtifactsFiled, noArtifacts]
    exact filed_empty _ _
  have filed : ArtifactsFiled (Call.performAll start earlier).store := run_filed filedStart
  obtain ⟨build, records, _, artifactId, cloneIds⟩ := first_success_records ready answer
  have filedMade : ArtifactsFiled made.store := writes_filed (.build records) filed
  have roomMade : made.store.artifactCount < Id.capacity := Nat.lt_of_le_of_lt (run_count made between) room
  have parents : ParentsGiven (Call.performAll start earlier).store :=
    run_parents noArtifacts (Nat.lt_trans (before_made records) roomMade)
  have grows : Grows made.store (Call.performAll made between).store := run_grows filedMade room
  obtain ⟨workflow, found, done⟩ := recorded_run asked records grows
  have artifact := recorded_artifact asked filed records grows room
  rw [artifactId, cloneIds]
  cases before : (Call.performAll start earlier).store.artifactOfWorkflow run with
  | none =>
      rw [before, Option.none_or] at artifact
      refine ⟨_, succeeded_again askedLater found done artifact, rfl, iff_of_true ⟨rfl, ?_⟩ rfl⟩
      exact congrArg (List.map (·.id)) (recorded_clones parents filed records grows room)
  | some first =>
      rw [before, Option.some_or] at artifact
      refine ⟨_, succeeded_again askedLater found done artifact, rfl, iff_of_false (fun same => ?_) nofun⟩
      exact earlier_differs filed records roomMade before same.1

def sampleFed : World Bool where
  store := { Store.empty with
    workflows := Store.empty.workflows.insert ⟨1⟩ Sample.workflow
    ciPipelines := Store.empty.ciPipelines.insert ⟨1⟩ Sample.ciPipeline
    externalCis := Store.empty.externalCis.insert ⟨5⟩ Sample.externalCi
    apps := Store.empty.apps.insert ⟨1⟩ Sample.application
    environments := Store.empty.environments.insert ⟨10⟩ Sample.environment
    cdPipelines := Store.empty.cdPipelines.insert ⟨100⟩ { Sample.cdPipeline with externalCiId := some ⟨5⟩ } }
  outside := false

def sampleSuccess : Service (World Bool) IngestionOutcome :=
  ({} : Session).webhook.buildSucceeded ⟨1⟩ sampleOfRun none Sample.moment

def sampleExternal : Call Bool :=
  .external ({} : Session).webhook ⟨5⟩ sampleOfRun "token" Authorizer.allowAll Sample.moment

theorem told_again_after_failure : ∃ first made again,
    sampleSuccess.run sampleFed = (.ok first, made) ∧
    sampleSuccess.run (Call.performAll made [.failure ⟨1⟩ sampleOfRun]) =
      (.ok again, Call.performAll made [.failure ⟨1⟩ sampleOfRun]) ∧
    again.artifactId = first.artifactId ∧ again.cloneIds = first.cloneIds := by
  obtain ⟨again, answer, _, like⟩ := told_again_like_first sampleFed [] [.failure ⟨1⟩ sampleOfRun]
    ({} : Session).webhook ({} : Session).webhook ⟨1⟩ ⟨1⟩ sampleOfRun sampleOfRun none none Sample.moment Sample.moment
    ⟨1⟩ _ _ rfl rfl rfl (sample_run_ready rfl) rfl (by decide)
  exact ⟨_, _, again, rfl, answer, like.mpr rfl⟩

theorem told_again_unlike_first : sampleFed.store.artifacts = .empty ∧ ∃ first made again,
    sampleSuccess.run (sampleExternal.perform sampleFed) = (.ok first, made) ∧
    sampleSuccess.run made = (.ok again, made) ∧ again.artifactId ≠ first.artifactId :=
  ⟨rfl, _, _, _, rfl, rfl, by decide⟩

end Delivery.Webhook
