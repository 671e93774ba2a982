import Delivery.Flow
import Delivery.Proofs.Store.Builds
set_option autoImplicit false

namespace Delivery

def Shown (text : String) : Prop :=
  ∃ c ∈ text.toList, Text.isBlank c = false

namespace NewArtifact

structure Proper (artifact : NewArtifact) : Prop where
  image : Shown artifact.image
  digest : Shown artifact.imageDigest

inductive Refused (artifact : NewArtifact) : Error → Prop where
  | image (blank : ¬Shown artifact.image) : Refused artifact (.store .emptyImage)
  | digest (shown : Shown artifact.image) (blank : ¬Shown artifact.imageDigest) :
      Refused artifact (.store .emptyImageDigest)

end NewArtifact

section Checks

variable {artifact : NewArtifact} {error : Error}

theorem shown_iff {text : String} : Text.isBlankText text = false ↔ Shown text := by
  rw [Text.isBlankText, List.all_eq_false, Shown]
  simp

theorem check_ok_iff_proper : artifact.check = .ok () ↔ artifact.Proper := by
  rw [Store.check_ok_iff, shown_iff, shown_iff]
  exact ⟨fun ⟨image, digest⟩ => ⟨image, digest⟩, fun proper => ⟨proper.image, proper.digest⟩⟩

theorem check_error_refused (failed : artifact.check = .error error) : artifact.Refused error := by
  rw [NewArtifact.check] at failed
  split at failed
  case isTrue blank =>
    cases failed
    exact .image fun shown => by simp [shown_iff.mpr shown] at blank
  case isFalse image =>
    have shown : Shown artifact.image := shown_iff.mp (Bool.not_eq_true _ ▸ image)
    split at failed
    case isTrue blank =>
      cases failed
      exact .digest shown fun digest => by simp [shown_iff.mpr digest] at blank
    case isFalse => cases failed

theorem checks_end (artifacts : List NewArtifact) :
    ((∀ artifact ∈ artifacts, artifact.check = .ok ()) ∧ artifacts.forM NewArtifact.check = .ok ()) ∨
    ∃ front artifact back error, artifacts = front ++ artifact :: back ∧ (∀ earlier ∈ front, earlier.check = .ok ()) ∧
      artifact.check = .error error ∧ artifacts.forM NewArtifact.check = .error error := by
  induction artifacts with
  | nil => exact .inl ⟨List.forall_mem_nil _, rfl⟩
  | cons artifact rest ih =>
      have step : (artifact :: rest).forM NewArtifact.check =
          artifact.check >>= fun _ => rest.forM NewArtifact.check := rfl
      rw [step]
      cases checked : artifact.check with
      | error error => exact .inr ⟨[], artifact, rest, error, rfl, List.forall_mem_nil _, checked, rfl⟩
      | ok _ =>
          rcases ih with ⟨right, all⟩ | ⟨front, failing, back, error, rfl, right, failed, ended⟩
          · exact .inl ⟨List.forall_mem_cons.mpr ⟨checked, right⟩, all⟩
          · exact .inr ⟨artifact :: front, failing, back, error, rfl, List.forall_mem_cons.mpr ⟨checked, right⟩,
              failed, ended⟩

end Checks

namespace Store

def save (artifact : NewArtifact) : Service Store Artifact :=
  Service.transact fun store => store.saveArtifact artifact

def saveTogether (artifacts : List NewArtifact) : Service Store (List Artifact) :=
  Service.transact fun store => store.saveArtifacts artifacts

def saveEach : List NewArtifact → Service Store (List Artifact)
  | [] => return []
  | artifact :: rest => do
      let row ← save artifact
      let rows ← saveEach rest
      return row :: rows

section Saves

variable {store : Store} {artifact : NewArtifact} {artifacts : List NewArtifact} {error : Error}

theorem save_right (right : artifact.check = .ok ()) :
    (save artifact).run store = (.ok (store.insertArtifact artifact).1, (store.insertArtifact artifact).2) := by
  rw [save, Service.run_transact, save_artifact_right right]

theorem save_refused (failed : artifact.check = .error error) (store : Store) :
    (save artifact).run store = (.error error, store) := by
  rw [save, Service.run_transact, saveArtifact, failed]
  rfl

theorem save_together_right (right : ∀ artifact ∈ artifacts, artifact.check = .ok ()) :
    (saveTogether artifacts).run store =
      (.ok (store.insertArtifacts artifacts).1, (store.insertArtifacts artifacts).2) := by
  rw [saveTogether, Service.run_transact, save_artifacts_right right]

theorem save_together_refused (failed : artifacts.forM NewArtifact.check = .error error) (store : Store) :
    (saveTogether artifacts).run store = (.error error, store) := by
  rw [saveTogether, Service.run_transact, saveArtifacts, failed]
  rfl

theorem save_each_right (right : ∀ artifact ∈ artifacts, artifact.check = .ok ()) :
    (saveEach artifacts).run store =
      (.ok (store.insertArtifacts artifacts).1, (store.insertArtifacts artifacts).2) := by
  induction artifacts generalizing store with
  | nil => rfl
  | cons artifact rest ih =>
      obtain ⟨first, others⟩ := List.forall_mem_cons.mp right
      rw [saveEach, Service.run_bind, save_right first]
      simp only [Service.run_bind, ih others]
      rfl

end Saves

/-- Saving artifacts together either does what saving them one after another does, which gives a row for each of them,
if all are proper; or there is a first that is not, and what it would be refused for alone, in any store, the whole list
is refused for, and the store stays as it was. -/
theorem saved_together_or_refused (store : Store) (artifacts : List NewArtifact) :
    ((∀ artifact ∈ artifacts, artifact.Proper) ∧ ∃ rows after,
      (saveTogether artifacts).run store = (.ok rows, after) ∧ (saveEach artifacts).run store = (.ok rows, after)) ∨
    ∃ front artifact back error, artifacts = front ++ artifact :: back ∧ (∀ earlier ∈ front, earlier.Proper) ∧
      artifact.Refused error ∧ (∀ other, (save artifact).run other = (.error error, other)) ∧
      (saveTogether artifacts).run store = (.error error, store) := by
  rcases checks_end artifacts with ⟨right, _⟩ | ⟨front, artifact, back, error, split, right, failed, ended⟩
  · exact .inl ⟨fun artifact member => check_ok_iff_proper.mp (right artifact member), _, _,
      save_together_right right, save_each_right right⟩
  · exact .inr ⟨front, artifact, back, error, split,
      fun earlier member => check_ok_iff_proper.mp (right earlier member), check_error_refused failed,
      save_refused failed, save_together_refused ended store⟩

end Store

end Delivery
