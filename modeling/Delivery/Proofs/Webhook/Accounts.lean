import Delivery.Proofs.Protocols
import Delivery.Proofs.Store.Runs
import Delivery.Proofs.Webhook.Success
import Delivery.Proofs.Webhook.Writes
set_option autoImplicit false

namespace Delivery.Webhook

open Store

variable {ω : Type}

inductive RunWrite where
  | insert (workflow : CiWorkflow)
  | update (workflow : CiWorkflow)

namespace RunWrite

def service : RunWrite → Service Store Unit
  | .insert workflow => Service.transact fun store => store.insertWorkflow workflow
  | .update workflow => Service.transact fun store => store.updateWorkflow workflow

def perform (write : RunWrite) (world : World ω) : World ω :=
  ((World.onStore write.service).run world).2

end RunWrite

def BuiltIn (run : WorkflowId) (artifact : Artifact) : Prop :=
  artifact.pipelineId ≠ none ∧ artifact.workflowId = some run

structure Accounted (store : Store) : Prop where
  finished : ∀ {key artifact run}, store.artifacts.get? key = some artifact → BuiltIn run artifact →
    ∃ workflow, store.workflows.get? run = some workflow ∧ workflow.status = .succeeded ∧ workflow.finishedOn ≠ none
  single : ∀ {key other artifact rival run}, store.artifacts.get? key = some artifact →
    store.artifacts.get? other = some rival → BuiltIn run artifact → BuiltIn run rival → key = other

-- What may become of the row of a run. It does not change once the run has ended, and the run is not pending again
-- once it has begun.
structure GoesOn (workflow later : CiWorkflow) : Prop where
  ended : workflow.status.isTerminal = true → later = workflow
  begun : workflow.status ≠ .pending → later.status ≠ .pending

def RunsGoOn (before after : Store) : Prop :=
  ∀ run workflow, before.workflows.get? run = some workflow →
    ∃ later, after.workflows.get? run = some later ∧ GoesOn workflow later

section Runs

variable {before after : Store} {workflow : CiWorkflow}

theorem goes_on_refl (workflow : CiWorkflow) : GoesOn workflow workflow :=
  ⟨fun _ => rfl, fun begun => begun⟩

theorem goes_on_trans {first second third : CiWorkflow} (left : GoesOn first second) (right : GoesOn second third) :
    GoesOn first third := by
  constructor
  · intro ended
    have same : second = first := left.ended ended
    rw [right.ended (same ▸ ended), same]
  · exact fun begun => right.begun (left.begun begun)

theorem runs_go_on_refl (store : Store) : RunsGoOn store store :=
  fun _ workflow found => ⟨workflow, found, goes_on_refl workflow⟩

theorem runs_go_on_trans {first second third : Store} (left : RunsGoOn first second) (right : RunsGoOn second third) :
    RunsGoOn first third := by
  intro run workflow found
  obtain ⟨middle, there, goes⟩ := left run workflow found
  obtain ⟨later, here, on⟩ := right run middle there
  exact ⟨later, here, goes_on_trans goes on⟩

theorem runs_go_on_of_same (same : after.workflows = before.workflows) : RunsGoOn before after := by
  intro run workflow found
  exact ⟨workflow, by rw [same, found], goes_on_refl workflow⟩

theorem may_become_goes_on {current next : CiWorkflow} (allowed : current.status.mayBecome next.status = true) :
    GoesOn current next := by
  cases was : current.status <;> cases is : next.status <;> rw [was, is] at allowed <;>
    first
    | exact absurd allowed (by decide)
    | exact ⟨by simp [was, WorkflowStatus.isTerminal], by simp [was, is]⟩

theorem put_run_goes_on {key : WorkflowId} {next : CiWorkflow}
    (goes : ∀ current, before.workflows.get? key = some current → GoesOn current next) :
    RunsGoOn before { before with workflows := before.workflows.insert key next } := by
  intro run workflow found
  by_cases here : run = key
  · subst here
    exact ⟨next, Table.get_insert_same _ _ _, goes workflow found⟩
  · exact ⟨workflow, (Table.get_insert_other _ _ here).trans found, goes_on_refl workflow⟩

theorem insert_workflow_goes_on (done : before.insertWorkflow workflow = .ok ((), after)) : RunsGoOn before after := by
  have absent : before.workflows.get? workflow.id = none := by
    by_contra there
    rw [insertWorkflow, Table.contains, if_pos (Option.isSome_iff_ne_none.mpr there)] at done
    cases done
  obtain rfl := insert_workflow_ok done
  refine put_run_goes_on fun current found => ?_
  rw [absent] at found
  cases found

theorem update_workflow_goes_on (done : before.updateWorkflow workflow = .ok ((), after)) : RunsGoOn before after := by
  obtain ⟨current, found, allowed⟩ := update_workflow_allowed done
  obtain rfl := update_workflow_ok done
  refine put_run_goes_on fun there here => ?_
  obtain rfl := Option.some.inj (found.symm.trans here)
  exact may_become_goes_on allowed

end Runs

section Artifacts

variable {before after : Store} {new : NewArtifact} {row : Artifact}

theorem accounted_empty {store : Store} (none : store.artifacts = .empty) : Accounted store := by
  have missing : ∀ {key artifact}, store.artifacts.get? key ≠ some artifact := by
    intro key artifact found
    rw [none, Table.get_empty] at found
    cases found
  exact ⟨fun found => absurd found missing, fun found => absurd found missing⟩

theorem runs_go_on_accounted (goes : RunsGoOn before after) (artifacts : after.artifacts = before.artifacts)
    (accounted : Accounted before) : Accounted after := by
  constructor
  · intro key artifact run found built
    rw [artifacts] at found
    obtain ⟨workflow, there, succeeded, finished⟩ := accounted.finished found built
    obtain ⟨later, here, on⟩ := goes run workflow there
    obtain rfl := on.ended (by rw [succeeded]; rfl)
    exact ⟨later, here, succeeded, finished⟩
  · intro key other artifact rival run found there
    rw [artifacts] at found there
    exact accounted.single found there

theorem insert_artifact_accounted {artifact : NewArtifact} (accounted : Accounted before)
    (finished : ∀ {run}, BuiltIn run (artifact.stored (Id.nth before.artifactCount)) →
      (∃ workflow, before.workflows.get? run = some workflow ∧ workflow.status = .succeeded ∧
        workflow.finishedOn ≠ none) ∧
      ∀ {key old}, before.artifacts.get? key = some old → ¬BuiltIn run old) :
    Accounted (before.insertArtifact artifact).2 := by
  let key : ArtifactId := Id.nth before.artifactCount
  have cases : ∀ {other found}, (before.insertArtifact artifact).2.artifacts.get? other = some found →
      other = key ∧ found = artifact.stored key ∨ before.artifacts.get? other = some found := by
    intro other found here
    by_cases same : other = key
    · subst same
      exact .inl ⟨rfl, (Option.some.inj ((Table.get_insert_same _ _ _).symm.trans here)).symm⟩
    · exact .inr ((Table.get_insert_other _ _ same).symm.trans here)
  constructor
  · intro other found run here built
    rcases cases here with ⟨_, rfl⟩ | old
    · exact (finished built).1
    · exact accounted.finished old built
  · intro one other left right run there here built again
    rcases cases there with ⟨rfl, rfl⟩ | old
    · rcases cases here with ⟨rfl, _⟩ | older
      · rfl
      · exact absurd again ((finished built).2 older)
    · rcases cases here with ⟨rfl, rfl⟩ | older
      · exact absurd built ((finished again).2 old)
      · exact accounted.single old older built again

theorem insert_artifacts_accounted {artifacts : List NewArtifact} (accounted : Accounted before)
    (aside : ∀ artifact ∈ artifacts, artifact.pipelineId = none ∨ artifact.workflowId = none) :
    Accounted (before.insertArtifacts artifacts).2 := by
  induction artifacts generalizing before with
  | nil => exact accounted
  | cons artifact rest ih =>
      refine ih (insert_artifact_accounted accounted fun built => ?_) fun other member =>
        aside other (List.mem_cons_of_mem _ member)
      cases aside artifact List.mem_cons_self with
      | inl outside => exact absurd outside built.1
      | inr unnamed => exact absurd (unnamed.symm.trans built.2) nofun

end Artifacts

def KeepsAccounts (before after : Store) : Prop :=
  RunsGoOn before after ∧ (Accounted before → Accounted after)

section Writes

variable {before after : Store}

theorem keeps_accounts_refl (store : Store) : KeepsAccounts store store :=
  ⟨runs_go_on_refl store, id⟩

theorem keeps_accounts_trans {first second third : Store} (left : KeepsAccounts first second)
    (right : KeepsAccounts second third) : KeepsAccounts first third :=
  ⟨runs_go_on_trans left.1 right.1, fun accounted => right.2 (left.2 accounted)⟩

theorem runs_go_on_keeps (goes : RunsGoOn before after) (artifacts : after.artifacts = before.artifacts) :
    KeepsAccounts before after :=
  ⟨goes, runs_go_on_accounted goes artifacts⟩

theorem inserted_keeps {artifacts : List NewArtifact} {rows : List Artifact}
    (aside : ∀ artifact ∈ artifacts, artifact.pipelineId = none ∨ artifact.workflowId = none)
    (inserted : before.insertArtifacts artifacts = (rows, after)) : KeepsAccounts before after := by
  obtain ⟨_, rfl⟩ := inserted_parts inserted
  refine ⟨runs_go_on_of_same ?_, fun accounted => insert_artifacts_accounted accounted aside⟩
  rw [insert_artifacts_only before artifacts]

theorem save_of_run_keeps {new : NewArtifact} {run : WorkflowId} {now : Instant} {row : Artifact}
    (named : new.workflowId = some run) (done : before.saveArtifactOfWorkflow new run now = .ok (row, after)) :
    KeepsAccounts before after := by
  obtain ⟨_, workflow, found, allowed, inserted⟩ := save_artifact_of_workflow_ok done
  let finished : CiWorkflow := finishWorkflow workflow now
  let middle : Store := { before with workflows := before.workflows.insert run finished }
  have goes : RunsGoOn before middle := by
    refine put_run_goes_on fun current there => ?_
    obtain rfl := Option.some.inj (found.symm.trans there)
    exact may_become_goes_on allowed
  obtain ⟨_, rfl⟩ := Prod.mk.inj inserted
  have later : RunsGoOn middle (middle.insertArtifact new).2 := runs_go_on_of_same rfl
  refine ⟨runs_go_on_trans goes later, fun accounted => ?_⟩
  refine insert_artifact_accounted (runs_go_on_accounted goes rfl accounted) fun {built} own => ?_
  obtain rfl : run = built := Option.some.inj (named.symm.trans own.2)
  refine ⟨⟨finished, Table.get_insert_same _ _ _, rfl, nofun⟩, fun there builtBefore => ?_⟩
  obtain ⟨current, here, succeeded, _⟩ := accounted.finished there builtBefore
  obtain rfl := Option.some.inj (found.symm.trans here)
  rw [succeeded] at allowed
  cases allowed

theorem delete_artifact_keeps {id : ArtifactId} (done : before.deleteArtifact id = .ok ((), after)) :
    KeepsAccounts before after := by
  obtain rfl := delete_artifact_ok done
  refine ⟨runs_go_on_of_same rfl, fun accounted => ⟨?_, ?_⟩⟩
  · exact fun found built => accounted.finished (Table.get_of_erase found) built
  · exact fun found other built again =>
      accounted.single (Table.get_of_erase found) (Table.get_of_erase other) built again

theorem build_write_keeps (write : BuildWrite before after) : KeepsAccounts before after := by
  cases write with
  | external outside done =>
      refine inserted_keeps (fun artifact member => ?_) (inserted_single (save_artifact_ok done).2)
      exact .inl (List.mem_singleton.mp member ▸ outside)
  | own unnamed done =>
      refine inserted_keeps (fun artifact member => ?_) (inserted_single (save_artifact_ok done).2)
      exact .inr (List.mem_singleton.mp member ▸ unnamed)
  | ownOfRun named done => exact save_of_run_keeps named done
  | clones unnamed done => exact inserted_keeps (fun new member => .inr (unnamed new member)) (save_artifacts_ok done)
  | withdrawn done => exact delete_artifact_keeps done

theorem run_write_moves (write : RunWrite) : write.service.Moves KeepsAccounts := by
  cases write with
  | insert workflow =>
      refine Service.moves_transact keeps_accounts_refl fun store _ after done => ?_
      exact runs_go_on_keeps (insert_workflow_goes_on done) (by rw [insert_workflow_ok done])
  | update workflow =>
      refine Service.moves_transact keeps_accounts_refl fun store _ after done => ?_
      exact runs_go_on_keeps (update_workflow_goes_on done) (by rw [update_workflow_ok done])

end Writes

section Play

variable {α : Type} {pool : Pool (World ω) α}

def poolOfCalls (start : World ω) (calls : List (Call ω)) : Pool (World ω) (Except Error (Option IngestionOutcome)) where
  world := start
  flows := calls.map Call.flow

theorem calls_keep (start : World ω) (calls : List (Call ω)) :
    ∀ flow ∈ (poolOfCalls start calls).flows, flow.Moves (StoresRelated KeepsAccounts) := by
  intro flow member
  obtain ⟨call, _, rfl⟩ := List.mem_map.mp member
  exact Service.moves_iff_flow.mp (call_moves keeps_accounts_refl (fun _ _ => build_write_keeps) call)

theorem play_keeps (moves : ∀ flow ∈ pool.flows, flow.Moves (StoresRelated KeepsAccounts))
    (turns : List (Turn RunWrite)) :
    KeepsAccounts pool.world.store (pool.play RunWrite.perform turns).world.store ∧
      ∀ flow ∈ (pool.play RunWrite.perform turns).flows, flow.Moves (StoresRelated KeepsAccounts) := by
  have reflexive : ∀ world : World ω, StoresRelated KeepsAccounts world world := fun world =>
    keeps_accounts_refl world.store
  have transitive : ∀ {a b c : World ω}, StoresRelated KeepsAccounts a b → StoresRelated KeepsAccounts b c →
      StoresRelated KeepsAccounts a c := keeps_accounts_trans
  have aside : ∀ (write : RunWrite) (world : World ω), StoresRelated KeepsAccounts world (write.perform world) :=
    fun write world => Service.moves_run reflexive transitive (on_store_moves (run_write_moves write)) world
  exact ⟨Pool.moves_play reflexive transitive moves fun write _ => aside write, Pool.still_moves_play moves turns⟩

end Play

/-- Calls of webhooks, in any order and between each other's steps, while runs are written aside. From a store without
artifacts on, what a pipeline built in a run is there only if the run has succeeded, and only once. The row of a run
stays, it does not change once the run has ended, and the run is not pending again once it has begun. -/
theorem artifacts_account_for_runs (start : World ω) (calls : List (Call ω)) (turns : List (Turn RunWrite))
    (noArtifacts : start.store.artifacts = .empty) :
    let stores (turns : List (Turn RunWrite)) : Store :=
      ((poolOfCalls start calls).play RunWrite.perform turns).world.store
    (∀ key artifact run, (stores turns).artifacts.get? key = some artifact → artifact.pipelineId ≠ none →
      artifact.workflowId = some run → ∃ workflow, (stores turns).workflows.get? run = some workflow ∧
        workflow.status = .succeeded ∧ workflow.finishedOn ≠ none) ∧
    (∀ key other artifact rival run, (stores turns).artifacts.get? key = some artifact →
      (stores turns).artifacts.get? other = some rival → artifact.pipelineId ≠ none → rival.pipelineId ≠ none →
      artifact.workflowId = some run → rival.workflowId = some run → key = other) ∧
    ∀ earlier later run workflow, turns = earlier ++ later → (stores earlier).workflows.get? run = some workflow →
      ∃ after, (stores turns).workflows.get? run = some after ∧
        (workflow.status.isTerminal = true → after = workflow) ∧
        (workflow.status ≠ .pending → after.status ≠ .pending) := by
  intro stores
  obtain ⟨⟨_, accounts⟩, _⟩ := play_keeps (calls_keep start calls) turns
  have accounted : Accounted (stores turns) := accounts (accounted_empty noArtifacts)
  refine ⟨fun key artifact run found pipeline named => accounted.finished found ⟨pipeline, named⟩, ?_, ?_⟩
  · intro key other artifact rival run found there pipeline beside named again
    exact accounted.single found there ⟨pipeline, named⟩ ⟨beside, again⟩
  · rintro earlier later run workflow rfl found
    obtain ⟨_, still⟩ := play_keeps (calls_keep start calls) earlier
    obtain ⟨⟨goes, _⟩, _⟩ := play_keeps still later
    obtain ⟨after, there, on⟩ := goes run workflow found
    rw [← Pool.play_append] at there
    exact ⟨after, there, on.ended, on.begun⟩

def sampleCalls : List (Call Bool) :=
  List.replicate 2 (.success ({} : Session).webhook ⟨1⟩ sampleOfRun none Sample.moment)

def sampleAccountTurns : List (Turn RunWrite) :=
  List.replicate 9 (.step 0) ++ [.aside (.update { Sample.workflow with status := .failed })] ++
    List.replicate 9 (.step 1)

theorem sample_artifact_accounts_for_run :
    let final : Store := ((poolOfCalls sampleWorld sampleCalls).play RunWrite.perform sampleAccountTurns).world.store
    ∃ artifact workflow, final.artifacts.get? (Id.nth 0) = some artifact ∧ artifact.workflowId = some ⟨1⟩ ∧
      final.workflows.get? ⟨1⟩ = some workflow ∧ workflow.status = .succeeded ∧ workflow.finishedOn ≠ none := by
  intro final
  have made : (final.artifacts.get? (Id.nth 0)).any fun artifact =>
      artifact.pipelineId ≠ none && artifact.workflowId = some ⟨1⟩ := by decide
  obtain ⟨artifact, found, built⟩ := (Option.any_eq_true _ _).mp made
  simp only [Bool.and_eq_true, decide_eq_true_iff] at built
  obtain ⟨finished, _⟩ := artifacts_account_for_runs sampleWorld sampleCalls sampleAccountTurns rfl
  obtain ⟨workflow, there, succeeded, ended⟩ := finished (Id.nth 0) artifact ⟨1⟩ found built.1 built.2
  exact ⟨artifact, workflow, found, built.2, there, succeeded, ended⟩

end Delivery.Webhook
