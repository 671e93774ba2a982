import Delivery.Proofs.Webhook.External
set_option autoImplicit false

namespace Delivery.Webhook

open Store

variable {ω : Type}

inductive Call (ω : Type) where
  | success (webhook : Webhook ω) (id : CiPipelineId) (request : BuildEventRequest) (pushedAt : Option Instant)
      (now : Instant)
  | external (webhook : Webhook ω) (id : ExternalCiId) (request : BuildEventRequest) (token : String)
      (authorizer : Authorizer) (now : Instant)
  | failure (id : CiPipelineId) (request : BuildEventRequest)

namespace Call

def perform (world : World ω) : Call ω → World ω
  | .success webhook id request pushedAt now => ((webhook.buildSucceeded id request pushedAt now).run world).2
  | .external webhook id request token authorizer now =>
      ((webhook.externalBuild id request token authorizer now).run world).2
  | .failure id request => ((buildFailed id request).run world).2

def performAll (world : World ω) (calls : List (Call ω)) : World ω :=
  calls.foldl perform world

end Call

inductive CallWrites (before after : Store) : Prop where
  | nothing (same : after = before)
  | build {config : CiConfig} {id : CiPipelineId} {request : BuildEventRequest} {pushedAt : Option Instant}
      {now : Instant} {build : Build} (records : Records config id request pushedAt now before build after)
  | external {new : NewArtifact} {row : Artifact} (root : new.parentId = none)
      (inserted : before.insertArtifacts [new] = ([row], after))
  | withdrawn {new : NewArtifact} {row : Artifact} {made : Store}
      (inserted : before.insertArtifacts [new] = ([row], made))
      (erased : after = { made with artifacts := made.artifacts.erase row.id })

theorem settles_writes {webhook : Webhook ω} {id : ExternalCiId} {request : BuildEventRequest} {token : String}
    {authorizer : Authorizer} {now : Instant} {before after : World ω} {answer : Except Error IngestionOutcome}
    (settles : Settles webhook id request token authorizer now before answer after) :
    CallWrites before.store after.store := by
  cases settles with
  | refused => exact .nothing rfl
  | kept feeds => exact .external rfl (inserted_single feeds.records.stored)
  | withdrawn feeds => exact .withdrawn (inserted_single feeds.records.stored) rfl

theorem build_failed_announces {id : CiPipelineId} {request : BuildEventRequest} {world : World ω} :
    (buildFailed id request).Ends world
      (fun _ after => ∃ pipeline run,
        after = { world with events := world.events ++ [request.failureEvent pipeline run] })
      (fun _ after => after = world) := by
  rw [buildFailed]
  cases request.workflowId with
  | none => exact Service.ends_throw rfl
  | some run =>
      refine Service.ends_bind (ends_on_store (Service.ends_require (fun workflow _ => ?_) fun _ => rfl))
      refine Service.ends_bind (ends_on_store (Service.ends_require (fun pipeline _ => ?_) fun _ => rfl))
      exact Service.ends_act ⟨pipeline, workflow, rfl⟩

theorem build_failed_ends {id : CiPipelineId} {request : BuildEventRequest} {world : World ω} :
    (buildFailed id request).Ends world
      (fun _ after => after.store = world.store ∧ after.moments = world.moments)
      (fun _ after => after.store = world.store ∧ after.moments = world.moments) := by
  refine Service.ends_weaken build_failed_announces ?_ ?_
  · rintro _ _ ⟨pipeline, run, rfl⟩
    exact ⟨rfl, rfl⟩
  · rintro _ _ rfl
    exact ⟨rfl, rfl⟩

theorem call_writes (world : World ω) (call : Call ω) : CallWrites world.store (call.perform world).store := by
  cases call with
  | success webhook id request pushedAt now =>
      refine Service.ends_after (motive := fun after : World ω => CallWrites world.store after.store) build_succeeded_ends
        (fun outcome after succeeds => ?_) fun _ after same => .nothing (by rw [same])
      cases succeeds with
      | again => exact .nothing rfl
      | first records _ => exact .build records
  | external webhook id request token authorizer now =>
      exact settles_writes (external_build_settles rfl)
  | failure id request =>
      exact Service.ends_after (motive := fun after : World ω => CallWrites world.store after.store) build_failed_ends
        (fun _ _ same => .nothing same.1) fun _ _ same => .nothing same.1

def GivenWithin (low high : Nat) (id : ArtifactId) : Prop :=
  ∃ place, low ≤ place ∧ place < high ∧ id = Id.nth place

theorem given_within_mono {low lower high higher : Nat} {id : ArtifactId} (below : lower ≤ low) (above : high ≤ higher)
    (given : GivenWithin low high id) : GivenWithin lower higher id := by
  obtain ⟨place, least, most, same⟩ := given
  exact ⟨place, Nat.le_trans below least, Nat.lt_of_lt_of_le most above, same⟩

theorem given_after {low high place : Nat} {id : ArtifactId} (given : GivenWithin low high id) (room : high < Id.capacity)
    (outside : place < low) : id ≠ Id.nth place := by
  obtain ⟨later, least, most, rfl⟩ := given
  exact (Id.nth_different (Nat.lt_of_lt_of_le outside least) (by omega)).symm

theorem given_before {low high place : Nat} {id : ArtifactId} (given : GivenWithin low high id) (outside : high ≤ place)
    (room : place + 1 < Id.capacity) : id ≠ Id.nth place := by
  obtain ⟨earlier, _, most, rfl⟩ := given
  exact Id.nth_different (Nat.lt_of_lt_of_le most outside) room

structure StoredWithin (low high : Nat) (artifact : Artifact) : Prop where
  id : GivenWithin low high artifact.id
  parent : ∀ parent, artifact.parentId = some parent → GivenWithin low high parent

structure Grows (before after : Store) : Prop where
  count : before.artifactCount ≤ after.artifactCount
  added : ∃ rows, after.artifacts.rows = before.artifacts.rows ++ rows ∧
    ∀ row ∈ rows, StoredWithin before.artifactCount after.artifactCount row
  finished : ∀ run workflow, before.workflows.get? run = some workflow → workflow.status = .succeeded →
    after.workflows.get? run = some workflow

theorem grows_refl (store : Store) : Grows store store :=
  ⟨Nat.le_refl _, ⟨[], (List.append_nil _).symm, List.forall_mem_nil _⟩, fun _ _ found _ => found⟩

theorem grows_trans {first second third : Store} (left : Grows first second) (right : Grows second third) :
    Grows first third := by
  obtain ⟨leftRows, leftSplit, leftStored⟩ := left.added
  obtain ⟨rightRows, rightSplit, rightStored⟩ := right.added
  refine ⟨Nat.le_trans left.count right.count, ⟨leftRows ++ rightRows, ?_, fun row member => ?_⟩, ?_⟩
  · rw [rightSplit, leftSplit, List.append_assoc]
  · rcases List.mem_append.mp member with old | new
    · obtain ⟨id, parent⟩ := leftStored row old
      exact ⟨given_within_mono (Nat.le_refl _) right.count id,
        fun other named => given_within_mono (Nat.le_refl _) right.count (parent other named)⟩
    · obtain ⟨id, parent⟩ := rightStored row new
      exact ⟨given_within_mono left.count (Nat.le_refl _) id,
        fun other named => given_within_mono left.count (Nat.le_refl _) (parent other named)⟩
  · exact fun run workflow found done => right.finished run workflow (left.finished run workflow found done) done

section Writes

variable {before after : Store}

theorem finish_run_grows {store : Store} {request : BuildEventRequest} (now : Instant) (ready : Ready store request) :
    Grows store (finishRun store now request.workflowId) := by
  refine ⟨Nat.le_of_eq (finish_run_count _ _ _).symm, ⟨[], ?_, List.forall_mem_nil _⟩, fun run workflow found done => ?_⟩
  · rw [finish_run_only, List.append_nil]
  · cases named : request.workflowId with
    | none => exact found
    | some id =>
        cases there : store.workflows.get? id with
        | none => simpa [finishRun, there] using found
        | some current =>
            -- The run that succeeds now had not succeeded, so it is none of those that had.
            have different : run ≠ id := by
              rintro rfl
              rw [found] at there
              exact ready run workflow named found done
            rw [finish_run_found now there]
            exact (Table.get_insert_other _ _ different).trans found

theorem insert_artifacts_grows {artifacts : List NewArtifact} (filed : ArtifactsFiled before)
    (room : before.artifactCount + artifacts.length < Id.capacity)
    (parents : ∀ artifact ∈ artifacts, ∀ parent, artifact.parentId = some parent →
      GivenWithin before.artifactCount (before.artifactCount + artifacts.length) parent) :
    Grows before (before.insertArtifacts artifacts).2 := by
  have count := insert_artifacts_count before artifacts
  refine ⟨by omega, ⟨numbered before.artifactCount artifacts, insert_artifacts_rows filed room, ?_⟩, ?_⟩
  · intro row member
    rw [count]
    obtain ⟨place, artifact, bound, there, rfl⟩ := mem_numbered member
    exact ⟨⟨_, Nat.le_add_right _ _, Nat.add_lt_add_left bound _, rfl⟩, parents artifact there⟩
  · intro run workflow found _
    rw [insert_artifacts_only before artifacts]
    exact found

theorem external_grows {new : NewArtifact} {row : Artifact} (filed : ArtifactsFiled before)
    (room : after.artifactCount < Id.capacity) (root : new.parentId = none)
    (inserted : before.insertArtifacts [new] = ([row], after)) : Grows before after := by
  obtain ⟨_, rfl⟩ := inserted_parts inserted
  rw [insert_artifacts_count] at room
  refine insert_artifacts_grows filed room fun artifact member parent named => ?_
  rw [List.mem_singleton.mp member, root] at named
  cases named

theorem withdrawn_grows {made : Store} {new : NewArtifact} {row : Artifact} (filed : ArtifactsFiled before)
    (room : after.artifactCount < Id.capacity) (inserted : before.insertArtifacts [new] = ([row], made))
    (erased : after = { made with artifacts := made.artifacts.erase row.id }) : Grows before after := by
  have single : before.insertArtifact new = (row, made) := single_inserted inserted
  have count : after.artifactCount = before.artifactCount + 1 := by
    obtain ⟨_, rfl⟩ := Prod.mk.inj single
    rw [erased]
  rw [erased, erase_inserted filed (count ▸ room) single]
  exact ⟨Nat.le_succ _, ⟨[], (List.append_nil _).symm, List.forall_mem_nil _⟩, fun _ _ found _ => found⟩

theorem records_grows {config : CiConfig} {id : CiPipelineId} {request : BuildEventRequest}
    {pushedAt : Option Instant} {now : Instant} {build : Build} (filed : ArtifactsFiled before)
    (room : after.artifactCount < Id.capacity) (records : Records config id request pushedAt now before build after) :
    Grows before after := by
  obtain ⟨_, rfl⟩ := inserted_parts records.stored
  rw [insert_artifacts_count] at room
  refine grows_trans (finish_run_grows now (records_ready records)) ?_
  refine insert_artifacts_grows (finish_run_filed now _ filed) room fun artifact member parent named => ?_
  -- The clones name the artifact of the pipeline, which got the first of the identifiers.
  rcases List.mem_cons.mp member with rfl | clone
  · cases named
  · obtain ⟨child, _, rfl⟩ := List.mem_map.mp clone
    obtain rfl := Option.some.inj named
    rw [finish_run_count]
    exact ⟨before.artifactCount, Nat.le_refl _, Nat.lt_add_of_pos_right (Nat.succ_pos _), rfl⟩

theorem writes_filed (writes : CallWrites before after) (filed : ArtifactsFiled before) : ArtifactsFiled after := by
  cases writes with
  | nothing same => rwa [same]
  | build records =>
      obtain ⟨_, rfl⟩ := inserted_parts records.stored
      exact insert_artifacts_filed _ (finish_run_filed _ _ filed)
  | external _ inserted =>
      obtain ⟨_, rfl⟩ := inserted_parts inserted
      exact insert_artifacts_filed _ filed
  | withdrawn inserted erased =>
      obtain ⟨_, rfl⟩ := inserted_parts inserted
      rw [erased]
      exact filed_erase (insert_artifacts_filed _ filed) _

theorem writes_grows (writes : CallWrites before after) (filed : ArtifactsFiled before)
    (room : after.artifactCount < Id.capacity) : Grows before after := by
  cases writes with
  | nothing same => exact same ▸ grows_refl before
  | build records => exact records_grows filed room records
  | external root inserted => exact external_grows filed room root inserted
  | withdrawn inserted erased => exact withdrawn_grows filed room inserted erased

theorem writes_count (writes : CallWrites before after) : before.artifactCount ≤ after.artifactCount := by
  cases writes with
  | nothing same => exact Nat.le_of_eq (congrArg _ same.symm)
  | build records =>
      obtain ⟨_, rfl⟩ := inserted_parts records.stored
      rw [insert_artifacts_count, finish_run_count]
      exact Nat.le_add_right _ _
  | external _ inserted =>
      obtain ⟨_, rfl⟩ := inserted_parts inserted
      rw [insert_artifacts_count]
      exact Nat.le_add_right _ _
  | withdrawn inserted erased =>
      obtain ⟨_, rfl⟩ := inserted_parts inserted
      rw [erased]
      exact Nat.le_succ _

end Writes

section Runs

variable {world : World ω} {calls : List (Call ω)}

theorem run_count (world : World ω) (calls : List (Call ω)) :
    world.store.artifactCount ≤ (Call.performAll world calls).store.artifactCount := by
  induction calls generalizing world with
  | nil => exact Nat.le_refl _
  | cons call rest ih => exact Nat.le_trans (writes_count (call_writes world call)) (ih _)

theorem run_filed (filed : ArtifactsFiled world.store) : ArtifactsFiled (Call.performAll world calls).store := by
  induction calls generalizing world with
  | nil => exact filed
  | cons call rest ih => exact ih (writes_filed (call_writes world call) filed)

theorem run_grows (filed : ArtifactsFiled world.store)
    (room : (Call.performAll world calls).store.artifactCount < Id.capacity) :
    Grows world.store (Call.performAll world calls).store := by
  induction calls generalizing world with
  | nil => exact grows_refl _
  | cons call rest ih =>
      have writes : CallWrites world.store (call.perform world).store := call_writes world call
      have here := Nat.lt_of_le_of_lt (run_count (call.perform world) rest) room
      exact grows_trans (writes_grows writes filed here) (ih (writes_filed writes filed) room)

end Runs

end Delivery.Webhook
