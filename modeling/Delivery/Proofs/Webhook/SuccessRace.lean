import Delivery.Proofs.Races
import Delivery.Proofs.Store.Runs
import Delivery.Proofs.Webhook.Recording
set_option autoImplicit false

namespace Delivery.Webhook

open Store

variable {ω : Type}

-- The success of the run is recorded at most once: the store is free while only runs are written.
def storeRace (start : Store) (run : WorkflowId) (unbuilt : start.artifactOfWorkflow run = none) :
    Race Store ArtifactId where
  free := OnlyRuns start
  taken := Built run
  rely := OnlyRuns
  apart := by
    rintro key store free ⟨_, artifact, found, _⟩
    rw [only_runs_artifact free, unbuilt] at found
    cases found
  alone := by
    rintro first second store ⟨_, artifact, found, rfl⟩ ⟨_, other, there, rfl⟩
    rw [Option.some.inj (found.symm.trans there)]
  still := fun _ => rfl
  further := only_runs_trans

def worldRace (race : Race Store ArtifactId) (start : World ω) : Race (World ω) ArtifactId where
  free world := ∃ store, world = { start with store } ∧ race.free store
  taken key world := race.taken key world.store
  rely before after := ∃ store, after = { before with store } ∧ race.rely before.store store
  apart := by
    rintro key world ⟨store, rfl, free⟩ taken
    exact race.apart free taken
  alone := race.alone
  still world := ⟨world.store, rfl, race.still _⟩
  further := by
    rintro first second third ⟨_, rfl, left⟩ ⟨store, rfl, right⟩
    exact ⟨store, rfl, race.further left right⟩

def inWorld (start : World ω) : Standing Store ArtifactId → Standing (World ω) ArtifactId
  | .racing => .racing
  | .lost key => .lost key
  | .won key store => .won key { start with store }

theorem follows_on_store {α : Type} {race : Race Store ArtifactId} {start : World ω} {service : Service Store α}
    {good : Standing (World ω) ArtifactId → α → Prop} (standing : Standing Store ArtifactId)
    (follows : service.Follows race.protocol (fun standing result => good (inWorld start standing) result)
      Standing.MayFail standing) :
    (World.onStore service).Follows (worldRace race start).protocol good Standing.MayFail (inWorld start standing) := by
  have inside : service.Follows race.protocol (fun standing result => good (inWorld start standing) result)
      (fun standing => (inWorld start standing).MayFail) standing := by
    refine Service.follows_weaken follows (fun _ _ holds => holds) fun standing error fails => ?_
    cases standing <;> exact fails
  refine Service.follows_within (inWorld start) standing inside ?sees ?moves
  case sees =>
    intro standing world seen
    cases standing with
    | racing =>
        rcases seen with ⟨store, rfl, free⟩ | taken
        · exact .inl free
        · exact .inr taken
    | lost key => exact seen
    | won key mine =>
        obtain ⟨taken, store, rfl, relied⟩ := seen
        exact ⟨taken, relied⟩
  case moves =>
    intro standing next world after seen moves
    cases moves with
    | wait free =>
        rcases seen with inside | ⟨key, taken⟩
        · exact .wait inside
        · exact absurd taken (race.apart free)
    | win free taken =>
        rcases seen with ⟨store, rfl, _⟩ | ⟨key, late⟩
        · exact .win ⟨store, rfl, free⟩ taken
        · exact absurd late (race.apart free)
    | lose taken => exact .lose taken
    | rest => exact .rest
    | work taken =>
        obtain ⟨_, store, rfl, _⟩ := seen
        exact .work taken

section Record

variable {start : Store} {run : WorkflowId} {config : CiConfig} {id : CiPipelineId} {request : BuildEventRequest}
  {pushedAt : Option Instant} {now : Instant} {unbuilt : start.artifactOfWorkflow run = none}
  {standing : Standing Store ArtifactId}

def Recorded.Fits (start : Store) (config : CiConfig) (id : CiPipelineId) (request : BuildEventRequest)
    (pushedAt : Option Instant) (now : Instant) : Standing Store ArtifactId → Recorded → Prop
  | .racing, _ => False
  | .lost key, recorded => ∃ clones, recorded = .already key clones
  | .won key mine, recorded => ∃ before build made, OnlyRuns start before ∧
      Records config id request pushedAt now before build made ∧ OnlyRuns made mine ∧ build.own.id = key ∧
      recorded = .fresh build.own build.clones (request.successEvent build.pipeline build.own)

structure Saves (start : Store) (run : WorkflowId) (now : Instant) (new : NewArtifact) (before : Store)
    (row : Artifact) (after : Store) : Prop where
  free : OnlyRuns start before
  right : new.check = .ok ()
  unfinished : ∃ workflow, before.workflows.get? run = some workflow ∧ workflow.status ≠ .succeeded
  stored : (finishRun before now (some run)).insertArtifact new = (row, after)

theorem saves_finished {new : NewArtifact} {before made : Store} {row : Artifact}
    (saves : Saves start run now new before row made) : OnlyRuns start (finishRun before now (some run)) :=
  only_runs_trans saves.free (finish_run_only before now (some run))

theorem saves_built {new : NewArtifact} {before after : Store} {row : Artifact}
    (unbuilt : start.artifactOfWorkflow run = none) (filed : ArtifactsFiled start)
    (room : start.artifactCount + 1 < Id.capacity) (named : new.workflowId = some run)
    (saves : Saves start run now new before row after) : Built run row.id after := by
  have finished : OnlyRuns start (finishRun before now (some run)) := saves_finished saves
  have filed : ArtifactsFiled (finishRun before now (some run)) := only_runs_filed finished filed
  have room : (finishRun before now (some run)).artifactCount + [new].length < Id.capacity :=
    (only_runs_count finished).symm ▸ room
  have artifact := artifact_after_insert run filed room
  obtain ⟨workflow, found, _⟩ := saves.unfinished
  rw [inserted_single saves.stored, only_runs_artifact finished, unbuilt] at artifact
  obtain ⟨rfl, rfl⟩ := Prod.mk.inj saves.stored
  refine ⟨⟨finishWorkflow workflow now, ?_, rfl⟩, _, artifact.trans ?_, rfl⟩
  · rw [finish_run_found now found]
    exact Table.get_insert_same _ _ _
  · simp [numbered, NewArtifact.stored, named]

theorem saves_leaves {new : NewArtifact} {before made : Store} {row : Artifact} (filed : ArtifactsFiled start)
    (saves : Saves start run now new before row made) : ArtifactsFiled made ∧
      made.artifactCount = start.artifactCount + 1 ∧ ∀ id, made.childrenOf id = start.childrenOf id := by
  have finished : OnlyRuns start (finishRun before now (some run)) := saves_finished saves
  have children := only_runs_children finished
  obtain ⟨_, rfl⟩ := Prod.mk.inj saves.stored
  refine ⟨insert_artifact_filed new (only_runs_filed finished filed), ?_, children⟩
  exact congrArg (· + 1) (only_runs_count finished)

theorem save_own_follows {new : NewArtifact} {good : Standing Store ArtifactId → Artifact → Prop}
    (idle : standing.Idle) (filed : ArtifactsFiled start) (room : start.artifactCount + 1 < Id.capacity)
    (asked : request.workflowId = some run) (named : new.workflowId = some run)
    (wins : standing = .racing → ∀ before row after, Saves start run now new before row after →
      good (.won row.id after) row) :
    (saveOwn request new now).Follows (storeRace start run unbuilt).protocol good Standing.MayFail standing := by
  rw [saveOwn, asked]
  refine Race.idle_transact idle (fun before row after racing free done => ?wins)
    (fun store key row after built done => ?late) fun _ _ idle => idle
  case wins =>
    obtain ⟨right, workflow, found, allowed, inserted⟩ := save_artifact_of_workflow_ok done
    have saves : Saves start run now new before row after := by
      refine ⟨free, right, ⟨workflow, found, ?_⟩, ?_⟩
      · intro succeeded
        rw [succeeded] at allowed
        cases allowed
      · rw [finish_run_found now found]
        exact inserted
    exact ⟨row.id, saves_built unbuilt filed room named saves, wins racing before row after saves⟩
  case late =>
    obtain ⟨finished, there, succeeded⟩ := built.succeeded
    obtain ⟨_, workflow, found, allowed, _⟩ := save_artifact_of_workflow_ok done
    rw [Option.some.inj (found.symm.trans there), succeeded] at allowed
    cases allowed

theorem save_clones_follows {key : ArtifactId} {mine : Store} {clones : List NewArtifact}
    {good : Standing Store ArtifactId → List Artifact → Prop} {bad : Standing Store ArtifactId → Error → Prop}
    (right : ∀ clone ∈ clones, clone.check = .ok ()) (filed : ArtifactsFiled mine)
    (room : mine.artifactCount + clones.length < Id.capacity)
    (holds : ∀ later, OnlyRuns mine later →
      good (.won key (later.insertArtifacts clones).2) (later.insertArtifacts clones).1) :
    (saveClones clones).Follows (storeRace start run unbuilt).protocol good bad (.won key mine) := by
  cases clones with
  | nil => exact Service.follows_pure (holds mine rfl)
  | cons clone rest =>
      refine Race.won_transact fun later built relied => ?_
      have room : later.artifactCount + (clone :: rest).length < Id.capacity := (only_runs_count relied).symm ▸ room
      have still : Built run key (later.insertArtifacts (clone :: rest)).2 :=
        insert_built (only_runs_filed relied filed) room built
      exact ⟨_, _, save_artifacts_right right, still, holds later relied⟩

theorem saves_records {pipeline : CiPipeline} {dataSource : DataSource} {materialInfo : String}
    {before made : Store} {own : Artifact} (asked : request.workflowId = some run)
    (found : start.ciPipeline? id = some pipeline) (source : config.dataSource request.dataSource = .ok dataSource)
    (provenance : request.provenance = .ok materialInfo)
    (saves : Saves start run now (request.ownArtifact pipeline dataSource materialInfo (pushedAt.getD now)) before own
      made) :
    let clones := (start.childrenOf pipeline.id).map (request.cloneFor own.id dataSource materialInfo now)
    Records config id request pushedAt now before ⟨pipeline, dataSource, materialInfo, own,
      (made.insertArtifacts clones).1⟩ (made.insertArtifacts clones).2 := by
  have ownId : own.id = Id.nth before.artifactCount := by
    obtain ⟨rfl, _⟩ := Prod.mk.inj saves.stored
    rw [← finish_run_count before now (some run)]
    rfl
  refine ⟨?_, source, provenance, fun other named => ?_, ?_⟩
  · rw [saves.free]
    exact found
  · cases asked.symm.trans named
    exact saves.unfinished
  · rw [asked, Build.news, insertArtifacts, saves.stored, ownId, only_runs_children saves.free]

theorem record_clones_follows {pipeline : CiPipeline} {dataSource : DataSource} {materialInfo : String}
    {before made : Store} {own : Artifact} (orderly : Orderly start)
    (room : start.artifactCount + (start.childrenOf id).length + 1 < Id.capacity)
    (asked : request.workflowId = some run) (found : start.ciPipeline? id = some pipeline)
    (source : config.dataSource request.dataSource = .ok dataSource)
    (provenance : request.provenance = .ok materialInfo)
    (saves : Saves start run now (request.ownArtifact pipeline dataSource materialInfo (pushedAt.getD now)) before own
      made) :
    Service.Follows (storeRace start run unbuilt).protocol (Recorded.Fits start config id request pushedAt now)
      Standing.MayFail
      (do
        let children ← Service.look fun store => store.childrenOf pipeline.id
        let clones ← saveClones (children.map (request.cloneFor own.id dataSource materialInfo now))
        return .fresh own clones (request.successEvent pipeline own))
      (.won own.id made) := by
  have pipelineId : pipeline.id = id := orderly.pipelines (Option.filter_eq_some_iff.mp found).1
  obtain ⟨filed, count, children⟩ := saves_leaves orderly.artifacts saves
  apply Service.follows_bind
  apply Race.won_look
  intro world built relied
  rw [only_runs_children relied, children]
  apply Service.follows_bind
  refine save_clones_follows ?right (only_runs_filed relied filed) ?room fun later kept => Service.follows_pure ?_
  case right =>
    intro clone member
    obtain ⟨child, _, rfl⟩ := List.mem_map.mp member
    exact clone_right saves.right own.id child
  case room =>
    rw [List.length_map, only_runs_count relied, count, pipelineId]
    omega
  have since : OnlyRuns made later := only_runs_trans relied kept
  refine ⟨before, _, _, saves.free, saves_records asked found source provenance saves, ?_, rfl, ?_⟩
  · exact only_runs_insert since _
  · rw [only_runs_inserted since]

theorem record_build_follows (idle : standing.Idle) (orderly : Orderly start)
    (room : start.artifactCount + (start.childrenOf id).length + 1 < Id.capacity)
    (asked : request.workflowId = some run) :
    (recordBuild config id request pushedAt now).Follows (storeRace start run unbuilt).protocol
      (Recorded.Fits start config id request pushedAt now) Standing.MayFail standing := by
  rw [recordBuild]
  apply Service.follows_bind
  refine Race.idle_require idle (fun store next pipeline tells found => ?_)
    fun _ next tells _ => Race.idle_of_tells tells
  have still : next.Idle := Race.idle_of_tells tells
  apply Service.follows_bind
  refine Service.follows_of_except (fun dataSource source => ?_) fun _ _ => still
  apply Service.follows_bind
  refine Service.follows_of_except (fun materialInfo provenance => ?_) fun _ _ => still
  apply Service.follows_bind
  refine save_own_follows still orderly.artifacts (by omega) asked asked fun racing before own made saves => ?_
  subst racing
  have there : start.ciPipeline? id = some pipeline := by
    rw [← found, show OnlyRuns start store from tells]
    rfl
  exact record_clones_follows orderly room asked there source provenance saves

theorem earlier_build_follows (idle : standing.Idle) :
    (earlierBuild run).Follows (storeRace start run unbuilt).protocol
      (Recorded.Fits start config id request pushedAt now) Standing.MayFail standing := by
  rw [earlierBuild]
  apply Service.follows_bind
  refine Race.idle_require idle (fun store next artifact tells found => ?_)
    fun _ next tells _ => Race.idle_of_tells tells
  apply Service.follows_bind
  cases next with
  | racing =>
      rw [only_runs_artifact tells, unbuilt] at found
      cases found
  | lost key =>
      obtain ⟨_, there, named⟩ := Built.artifact tells
      rw [Option.some.inj (there.symm.trans found)] at named
      subst named
      exact Race.lost_look fun world _ => Service.follows_pure ⟨_, rfl⟩
  | won key mine => exact tells.elim

theorem record_success_follows (orderly : Orderly start)
    (room : start.artifactCount + (start.childrenOf id).length + 1 < Id.capacity)
    (asked : request.workflowId = some run) :
    (recordSuccess config id request pushedAt now).Follows (storeRace start run unbuilt).protocol
      (Recorded.Fits start config id request pushedAt now) Standing.MayFail .racing := by
  rw [recordSuccess, asked, hasSucceeded]
  apply Service.follows_bind
  apply Service.follows_bind
  refine Race.idle_require trivial (fun store next workflow tells found => ?_)
    fun _ next tells _ => Race.idle_of_tells tells
  apply Service.follows_pure
  -- What was read may be out of date at the next step, so neither branch takes it for granted.
  by_cases succeeded : workflow.status = .succeeded
  · rw [if_pos succeeded]
    exact earlier_build_follows (Race.idle_of_tells tells)
  · rw [if_neg succeeded]
    exact record_build_follows (Race.idle_of_tells tells) orderly room asked

end Record

end Delivery.Webhook
