import Delivery.Proofs.Store.Filed
import Delivery.Store.Builds
import Mathlib.Data.List.Forall2
set_option autoImplicit false

namespace Delivery.Store

abbrev ArtifactsFiled (store : Store) : Prop :=
  Filed (·.id) store.artifacts store.artifactCount

def numbered (count : Nat) : List NewArtifact → List Artifact
  | [] => []
  | artifact :: rest => artifact.stored (Id.nth count) :: numbered (count + 1) rest

theorem numbered_ids (count : Nat) (artifacts : List NewArtifact) : (numbered count artifacts).map (·.id) =
    (List.range artifacts.length).map fun place => Id.nth (count + place) := by
  induction artifacts generalizing count with
  | nil => rfl
  | cons artifact rest ih =>
      rw [numbered, List.map_cons, ih, List.length_cons, List.range_succ_eq_map, List.map_cons, List.map_map]
      refine congrArg₂ List.cons rfl (List.map_congr_left fun place _ => ?_)
      exact congrArg Id.nth (by omega)

theorem numbered_nodup {count : Nat} {artifacts : List NewArtifact} (room : count + artifacts.length < Id.capacity) :
    ((numbered count artifacts).map (·.id)).Nodup := by
  rw [numbered_ids]
  refine List.pairwise_map.mpr (List.pairwise_lt_range.imp_of_mem fun {earlier later} _ bound before => ?_)
  have within : later < artifacts.length := List.mem_range.mp bound
  exact Id.nth_different (Nat.add_lt_add_left before count) (by omega)

theorem mem_numbered {count : Nat} {artifacts : List NewArtifact} {row : Artifact}
    (member : row ∈ numbered count artifacts) : ∃ place artifact, place < artifacts.length ∧ artifact ∈ artifacts ∧
      row = artifact.stored (Id.nth (count + place)) := by
  induction artifacts generalizing count with
  | nil => cases member
  | cons artifact rest ih =>
      rcases List.mem_cons.mp member with rfl | later
      · exact ⟨0, artifact, Nat.succ_pos _, List.mem_cons_self, rfl⟩
      · obtain ⟨place, other, bound, there, rfl⟩ := ih later
        refine ⟨place + 1, other, Nat.succ_lt_succ bound, List.mem_cons_of_mem _ there, ?_⟩
        exact congrArg (fun place => other.stored (Id.nth place)) (by omega)

theorem numbered_map {α : Type} (count : Nat) (items : List α) (make : α → NewArtifact) :
    List.Forall₂ (fun item row => ∃ id, row = (make item).stored id) items (numbered count (items.map make)) := by
  induction items generalizing count with
  | nil => exact .nil
  | cons item rest ih => exact .cons ⟨Id.nth count, rfl⟩ (ih (count + 1))

def underId (artifact : Artifact) : ArtifactId × Artifact := (artifact.id, artifact)

def OnlyArtifacts (before after : Store) : Prop :=
  after = { before with artifacts := after.artifacts, artifactCount := after.artifactCount }

section Insert

variable (store : Store) (artifact : NewArtifact) (artifacts : List NewArtifact)

theorem insert_artifacts_numbered : (store.insertArtifacts artifacts).1 = numbered store.artifactCount artifacts := by
  induction artifacts generalizing store with
  | nil => rfl
  | cons artifact rest ih =>
      have later := ih (store.insertArtifact artifact).2
      exact congrArg (artifact.stored (Id.nth store.artifactCount) :: ·) later

theorem insert_artifacts_only : OnlyArtifacts store (store.insertArtifacts artifacts).2 := by
  induction artifacts generalizing store with
  | nil => rfl
  | cons artifact rest ih =>
      have later := ih (store.insertArtifact artifact).2
      rw [OnlyArtifacts] at later ⊢
      exact later

theorem insert_artifacts_count :
    (store.insertArtifacts artifacts).2.artifactCount = store.artifactCount + artifacts.length := by
  induction artifacts generalizing store with
  | nil => rfl
  | cons artifact rest ih =>
      refine (ih (store.insertArtifact artifact).2).trans ?_
      rw [List.length_cons]
      exact Nat.succ_add_eq_add_succ _ _

variable {store}

theorem insert_artifact_filed (filed : ArtifactsFiled store) : ArtifactsFiled (store.insertArtifact artifact).2 :=
  filed_insert_next filed rfl

theorem insert_artifacts_filed (filed : ArtifactsFiled store) :
    ArtifactsFiled (store.insertArtifacts artifacts).2 := by
  induction artifacts generalizing store with
  | nil => exact filed
  | cons artifact rest ih => exact ih (insert_artifact_filed artifact filed)

variable {artifact} {artifacts}

theorem insert_artifact_entries (filed : ArtifactsFiled store) (room : store.artifactCount + 1 < Id.capacity) :
    (store.insertArtifact artifact).2.artifacts.entries =
      store.artifacts.entries ++ [underId (artifact.stored (Id.nth store.artifactCount))] :=
  Table.entries_insert_above _ fun _ _ found => next_above filed room found

theorem insert_artifacts_entries (filed : ArtifactsFiled store)
    (room : store.artifactCount + artifacts.length < Id.capacity) :
    (store.insertArtifacts artifacts).2.artifacts.entries =
      store.artifacts.entries ++ (numbered store.artifactCount artifacts).map underId := by
  induction artifacts generalizing store with
  | nil => exact (List.append_nil _).symm
  | cons artifact rest ih =>
      -- Each artifact comes after all that are there, so the list grows at its end.
      rw [List.length_cons] at room
      have one : store.artifactCount + 1 < Id.capacity := by omega
      have more : (store.insertArtifact artifact).2.artifactCount + rest.length < Id.capacity := by
        show store.artifactCount + 1 + rest.length < Id.capacity
        omega
      refine (ih (insert_artifact_filed artifact filed) more).trans ?_
      rw [insert_artifact_entries filed one, List.append_assoc]
      rfl

theorem insert_artifacts_rows (filed : ArtifactsFiled store)
    (room : store.artifactCount + artifacts.length < Id.capacity) :
    (store.insertArtifacts artifacts).2.artifacts.rows =
      store.artifacts.rows ++ numbered store.artifactCount artifacts := by
  have values : (·.2) ∘ underId = id := rfl
  rw [Table.rows, insert_artifacts_entries filed room, List.map_append, List.map_map, values, List.map_id]
  rfl

end Insert

section Inserted

variable {store after : Store}

theorem inserted_parts {artifacts : List NewArtifact} {rows : List Artifact}
    (inserted : store.insertArtifacts artifacts = (rows, after)) :
    rows = numbered store.artifactCount artifacts ∧ after = (store.insertArtifacts artifacts).2 := by
  rw [← insert_artifacts_numbered, inserted]
  exact ⟨rfl, rfl⟩

theorem inserted_single {artifact : NewArtifact} {row : Artifact}
    (inserted : store.insertArtifact artifact = (row, after)) :
    store.insertArtifacts [artifact] = ([row], after) := by
  rw [insertArtifacts, inserted]
  rfl

theorem single_inserted {artifact : NewArtifact} {row : Artifact}
    (inserted : store.insertArtifacts [artifact] = ([row], after)) : store.insertArtifact artifact = (row, after) := by
  obtain ⟨rows, rfl⟩ := Prod.mk.inj inserted
  exact congrArg (·, _) (List.singleton_inj.mp rows)

theorem inserted_found {artifact : NewArtifact} {row : Artifact}
    (inserted : store.insertArtifact artifact = (row, after)) : after.artifacts.get? row.id = some row := by
  obtain ⟨rfl, rfl⟩ := Prod.mk.inj inserted
  exact Table.get_insert_same _ _ _

theorem erase_inserted {artifact : NewArtifact} {row : Artifact} (filed : ArtifactsFiled store)
    (room : store.artifactCount + 1 < Id.capacity) (inserted : store.insertArtifact artifact = (row, after)) :
    { after with artifacts := after.artifacts.erase row.id } =
      { store with artifactCount := store.artifactCount + 1 } := by
  obtain ⟨rfl, rfl⟩ := Prod.mk.inj inserted
  have absent : store.artifacts.get? (Id.nth store.artifactCount) = none := later_missing filed (Nat.le_refl _) room
  have back := Table.erase_insert _ (artifact.stored (Id.nth store.artifactCount)) absent
  exact congrArg (fun artifacts => { store with artifacts, artifactCount := store.artifactCount + 1 }) back

end Inserted

section Saved

variable {store after : Store} {artifact : NewArtifact} {row : Artifact}

theorem check_ok_iff : artifact.check = .ok () ↔
    Text.isBlankText artifact.image = false ∧ Text.isBlankText artifact.imageDigest = false := by
  rw [NewArtifact.check]
  cases Text.isBlankText artifact.image <;> cases Text.isBlankText artifact.imageDigest <;> decide

theorem save_artifact_ok (done : store.saveArtifact artifact = .ok (row, after)) :
    artifact.check = .ok () ∧ store.insertArtifact artifact = (row, after) := by
  rw [saveArtifact] at done
  cases checked : artifact.check with
  | error error => rw [checked] at done; cases done
  | ok _ => rw [checked] at done; exact ⟨rfl, Except.ok.inj done⟩

theorem save_artifact_right (right : artifact.check = .ok ()) :
    store.saveArtifact artifact = .ok (store.insertArtifact artifact) := by
  rw [saveArtifact, right]
  rfl

theorem save_artifacts_ok {artifacts : List NewArtifact} {rows : List Artifact}
    (done : store.saveArtifacts artifacts = .ok (rows, after)) : store.insertArtifacts artifacts = (rows, after) := by
  rw [saveArtifacts] at done
  cases checked : artifacts.forM NewArtifact.check with
  | error error => rw [checked] at done; cases done
  | ok _ => rw [checked] at done; exact Except.ok.inj done

theorem save_artifacts_right {artifacts : List NewArtifact} (right : ∀ artifact ∈ artifacts, artifact.check = .ok ()) :
    store.saveArtifacts artifacts = .ok (store.insertArtifacts artifacts) := by
  have checked : artifacts.forM NewArtifact.check = .ok () := by
    induction artifacts with
    | nil => rfl
    | cons artifact rest ih =>
        show (artifact.check >>= fun _ => rest.forM NewArtifact.check) = .ok ()
        rw [right artifact List.mem_cons_self]
        exact ih fun other member => right other (List.mem_cons_of_mem _ member)
  rw [saveArtifacts, checked]
  rfl

theorem save_artifact_of_workflow_ok {id : WorkflowId} {now : Instant}
    (done : store.saveArtifactOfWorkflow artifact id now = .ok (row, after)) :
    artifact.check = .ok () ∧
    ∃ workflow, store.workflows.get? id = some workflow ∧ workflow.status.mayBecome .succeeded = true ∧
      { store with workflows := store.workflows.insert id (finishWorkflow workflow now) }.insertArtifact artifact =
        (row, after) := by
  rw [saveArtifactOfWorkflow] at done
  cases checked : artifact.check with
  | error error => rw [checked] at done; cases done
  | ok _ =>
      rw [checked] at done
      cases found : store.workflows.get? id with
      | none => simp only [found] at done; cases done
      | some workflow =>
          cases allowed : workflow.status.mayBecome .succeeded with
          | false => simp only [found, allowed] at done; cases done
          | true =>
              simp only [found, allowed] at done
              exact ⟨rfl, workflow, rfl, allowed, Except.ok.inj done⟩

theorem delete_artifact_ok {id : ArtifactId} (done : store.deleteArtifact id = .ok ((), after)) :
    after = { store with artifacts := store.artifacts.erase id } := by
  rw [deleteArtifact] at done
  split at done
  · cases done; rfl
  · cases done

theorem delete_artifact_right {id : ArtifactId} {found : Artifact} (there : store.artifacts.get? id = some found) :
    store.deleteArtifact id = .ok ((), { store with artifacts := store.artifacts.erase id }) := by
  rw [deleteArtifact, Table.contains, there]
  rfl

theorem insert_workflow_ok {workflow : CiWorkflow} (done : store.insertWorkflow workflow = .ok ((), after)) :
    after = { store with workflows := store.workflows.insert workflow.id workflow } := by
  rw [insertWorkflow] at done
  split at done
  · cases done
  · cases done; rfl

theorem update_workflow_ok {workflow : CiWorkflow} (done : store.updateWorkflow workflow = .ok ((), after)) :
    after = { store with workflows := store.workflows.insert workflow.id workflow } := by
  rw [updateWorkflow] at done
  split at done
  · cases done
  · split at done
    · cases done; rfl
    · cases done

end Saved

end Delivery.Store
