import Delivery.Proofs.Store.Overrides
set_option autoImplicit false

namespace Delivery.Store

structure Trail where
  table : Table HistoryId History
  count : Nat

namespace Trail

def note (trail : Trail) (row : NewHistory) : Trail where
  table := trail.table.insert (Id.nth trail.count) (row.stored (Id.nth trail.count))
  count := trail.count + 1

def noteAll (trail : Trail) (rows : List NewHistory) : Trail :=
  rows.foldl note trail

abbrev InOrder (trail : Trail) : Prop :=
  Filed (·.id) trail.table trail.count

end Trail

def trail (store : Store) : Trail :=
  ⟨store.history, store.historyCount⟩

section Notes

variable {trail : Trail} {rows : List NewHistory}

theorem note_all_in_order (ordered : trail.InOrder) : (trail.noteAll rows).InOrder := by
  induction rows generalizing trail with
  | nil => exact ordered
  | cons row rest ih => exact ih (filed_insert_next ordered rfl)

theorem note_all_count : (trail.noteAll rows).count = trail.count + rows.length := by
  induction rows generalizing trail with
  | nil => rfl
  | cons row rest ih =>
      calc ((trail.note row).noteAll rest).count = trail.count + 1 + rest.length := ih
        _ = trail.count + (rest.length + 1) := by omega

theorem note_all_rows (ordered : trail.InOrder) (room : trail.count + rows.length < Id.capacity) :
    ∃ noted : List History, (trail.noteAll rows).table.rows = trail.table.rows ++ noted ∧
      noted.map (·.toNewHistory) = rows := by
  induction rows generalizing trail with
  | nil => exact ⟨[], (List.append_nil _).symm, rfl⟩
  | cons row rest ih =>
      rw [List.length_cons] at room
      have first : (trail.note row).table.rows = trail.table.rows ++ [row.stored (Id.nth trail.count)] :=
        Table.rows_insert_above _ fun _ _ found => next_above ordered (by omega) found
      have still : (trail.note row).InOrder := filed_insert_next ordered rfl
      have more : (trail.note row).count + rest.length < Id.capacity := by
        show trail.count + 1 + rest.length < Id.capacity
        omega
      obtain ⟨noted, behind, contents⟩ := ih still more
      refine ⟨row.stored (Id.nth trail.count) :: noted, ?_, congrArg (row :: ·) contents⟩
      rw [List.append_cons, ← first]
      exact behind

theorem note_all_kept (ordered : trail.InOrder) (room : trail.count + rows.length < Id.capacity) {key : HistoryId}
    {old : History} (found : trail.table.get? key = some old) : (trail.noteAll rows).table.get? key = some old := by
  obtain ⟨noted, behind, _⟩ := note_all_rows ordered room
  have member : old ∈ (trail.noteAll rows).table.rows :=
    behind ▸ List.mem_append_left noted (Table.mem_rows.mpr ⟨key, found⟩)
  obtain ⟨other, there⟩ := Table.mem_rows.mp member
  have still : (trail.noteAll rows).InOrder := note_all_in_order ordered
  rw [← ordered.own found, still.own there]
  exact there

end Notes

def TrailGrows (allowed : NewHistory → Prop) (before after : Store) : Prop :=
  ∃ rows, (∀ row ∈ rows, allowed row) ∧ after.trail = before.trail.noteAll rows

section Grows

variable {allowed : NewHistory → Prop} {before after : Store}

theorem trail_grows_refl (store : Store) : TrailGrows allowed store store :=
  ⟨[], List.forall_mem_nil _, rfl⟩

theorem trail_grows_trans {first second third : Store} (left : TrailGrows allowed first second)
    (right : TrailGrows allowed second third) : TrailGrows allowed first third := by
  obtain ⟨rows, allowedRows, one⟩ := left
  obtain ⟨more, allowedMore, two⟩ := right
  refine ⟨rows ++ more, List.forall_mem_append.mpr ⟨allowedRows, allowedMore⟩, ?_⟩
  rw [two, one, Trail.noteAll, Trail.noteAll, Trail.noteAll, List.foldl_append]

theorem trail_grows_in_order (grows : TrailGrows allowed before after) (ordered : before.trail.InOrder) :
    after.trail.InOrder := by
  obtain ⟨rows, _, noted⟩ := grows
  rw [noted]
  exact note_all_in_order ordered

theorem trail_grows_count (grows : TrailGrows allowed before after) :
    ∃ rows, (∀ row ∈ rows, allowed row) ∧ after.trail = before.trail.noteAll rows ∧
      after.historyCount = before.trail.count + rows.length := by
  obtain ⟨rows, each, noted⟩ := grows
  exact ⟨rows, each, noted, (congrArg Trail.count noted).trans note_all_count⟩

theorem trail_grows_rows (ordered : before.trail.InOrder) (room : after.historyCount < Id.capacity)
    (grows : TrailGrows allowed before after) :
    ∃ rows : List History, after.history.rows = before.history.rows ++ rows ∧
      (∀ old ∈ before.history.rows, ∀ row ∈ rows, old.id.raw < row.id.raw) ∧
      ∀ row ∈ rows, allowed row.toNewHistory := by
  have still : after.trail.InOrder := trail_grows_in_order grows ordered
  obtain ⟨news, each, noted, counted⟩ := trail_grows_count grows
  obtain ⟨rows, behind, contents⟩ := note_all_rows ordered (counted ▸ room)
  have split : after.history.rows = before.history.rows ++ rows := (congrArg (·.table.rows) noted).trans behind
  have ascending := rows_ascending still.own
  refine ⟨rows, split, fun old member row new => ?_, fun row new => ?_⟩
  · have less : compare old.id row.id = .lt := (List.pairwise_append.mp (split ▸ ascending)).2.2 old member row new
    rwa [Id.compare_eq, Std.compare_eq_lt] at less
  · exact each row.toNewHistory (contents ▸ List.mem_map_of_mem new)

theorem trail_grows_kept (ordered : before.trail.InOrder) (room : after.historyCount < Id.capacity)
    (grows : TrailGrows allowed before after) {key : HistoryId} {row : History}
    (found : before.history.get? key = some row) : after.history.get? key = some row := by
  obtain ⟨rows, _, noted, counted⟩ := trail_grows_count grows
  have kept : (before.trail.noteAll rows).table.get? key = some row := note_all_kept ordered (counted ▸ room) found
  rw [← noted] at kept
  exact kept

theorem appended_found {row : NewHistory} {entry : History} (appended : before.appendHistory row = (entry, after)) :
    after.history.get? entry.id = some entry := by
  obtain ⟨rfl, rfl⟩ := Prod.mk.inj appended
  exact Table.get_insert_same _ _ _

theorem append_histories_trail (store : Store) (rows : List NewHistory) :
    (store.appendHistories rows).2.trail = store.trail.noteAll rows := by
  induction rows generalizing store with
  | nil => rfl
  | cons row rest ih => exact ih (store.appendHistory row).2

end Grows

inductive Write where
  | putApp (app : Application)
  | putEnvironment (environment : Environment)
  | putCiPipeline (pipeline : CiPipeline)
  | putExternalCi (external : ExternalCiPipeline)
  | putCdPipeline (pipeline : CdPipeline)
  | putChartRepo (repo : ChartRepo) (isDefault : Bool)
  | putChartRef (chartRef : ChartRef)
  | putUser (user : User)
  | insertWorkflow (workflow : CiWorkflow)
  | updateWorkflow (workflow : CiWorkflow)
  | saveArtifact (artifact : NewArtifact)
  | saveArtifacts (artifacts : List NewArtifact)
  | saveArtifactOfWorkflow (artifact : NewArtifact) (id : WorkflowId) (now : Instant)
  | deleteArtifact (id : ArtifactId)
  | createChart (chart : NewChart)
  | updateChart (chart : Chart)
  | createOverride (override : NewEnvOverride)
  | setAppMetrics (app : AppId) (enabled : Bool) (user : UserId) (now : Instant)
  | setEnvMetrics (app : AppId) (environment : EnvironmentId) (enabled : Bool) (user : UserId) (now : Instant)
  | appendHistory (row : NewHistory)
  | appendHistories (rows : List NewHistory)
  | insertRunner (run : CdWorkflowRunner)

namespace Write

def act (store : Store) : Write → Except Error Store
  | .putApp app => .ok (store.putApp app)
  | .putEnvironment environment => .ok (store.putEnvironment environment)
  | .putCiPipeline pipeline => .ok (store.putCiPipeline pipeline)
  | .putExternalCi external => .ok (store.putExternalCi external)
  | .putCdPipeline pipeline => .ok (store.putCdPipeline pipeline)
  | .putChartRepo repo isDefault => .ok (store.putChartRepo repo isDefault)
  | .putChartRef chartRef => .ok (store.putChartRef chartRef)
  | .putUser user => .ok (store.putUser user)
  | .insertWorkflow workflow => (store.insertWorkflow workflow).map (·.2)
  | .updateWorkflow workflow => (store.updateWorkflow workflow).map (·.2)
  | .saveArtifact artifact => (store.saveArtifact artifact).map (·.2)
  | .saveArtifacts artifacts => (store.saveArtifacts artifacts).map (·.2)
  | .saveArtifactOfWorkflow artifact id now => (store.saveArtifactOfWorkflow artifact id now).map (·.2)
  | .deleteArtifact id => (store.deleteArtifact id).map (·.2)
  | .createChart chart => (store.createChart chart).map (·.2)
  | .updateChart chart => (store.updateChart chart).map (·.2)
  | .createOverride override => (store.createOverride override).map (·.2)
  | .setAppMetrics app enabled user now => .ok (store.setAppMetrics app enabled user now).2
  | .setEnvMetrics app environment enabled user now => .ok (store.setEnvMetrics app environment enabled user now).2
  | .appendHistory row => .ok (store.appendHistory row).2
  | .appendHistories rows => .ok (store.appendHistories rows).2
  | .insertRunner run => (store.insertRunner run).map (·.2)

def noted : Write → List NewHistory
  | .appendHistory row => [row]
  | .appendHistories rows => rows
  | _ => []

def perform (store : Store) (write : Write) : Store :=
  (write.act store).toOption.getD store

end Write

section Writes

variable {before after : Store}

theorem made_of_map {α : Type} {outcome : Except Error (α × Store)} (done : outcome.map (·.2) = .ok after) :
    ∃ result, outcome = .ok (result, after) := by
  cases outcome with
  | error error => cases done
  | ok pair =>
      obtain rfl := Except.ok.inj done
      exact ⟨pair.1, rfl⟩

theorem map_of_made {α : Type} {outcome : Except Error (α × Store)} {result : α}
    (done : outcome = .ok (result, after)) : outcome.map (·.2) = .ok after := by
  rw [done]
  rfl

theorem inserted_trail {artifacts : List NewArtifact} {rows : List Artifact}
    (inserted : before.insertArtifacts artifacts = (rows, after)) : after.trail = before.trail := by
  obtain ⟨_, rfl⟩ := inserted_parts inserted
  rw [insert_artifacts_only before artifacts]
  rfl

theorem write_trail (write : Write) (done : write.act before = .ok after) :
    after.trail = before.trail.noteAll write.noted := by
  cases write with
  | insertWorkflow workflow =>
      obtain ⟨_, made⟩ := made_of_map done
      rw [insert_workflow_ok made]
      rfl
  | updateWorkflow workflow =>
      obtain ⟨_, made⟩ := made_of_map done
      rw [update_workflow_ok made]
      rfl
  | saveArtifact artifact =>
      obtain ⟨_, made⟩ := made_of_map done
      exact inserted_trail (inserted_single (save_artifact_ok made).2)
  | saveArtifacts artifacts =>
      obtain ⟨_, made⟩ := made_of_map done
      exact inserted_trail (save_artifacts_ok made)
  | saveArtifactOfWorkflow artifact id now =>
      obtain ⟨_, made⟩ := made_of_map done
      obtain ⟨_, workflow, _, _, inserted⟩ := save_artifact_of_workflow_ok made
      have only := inserted_trail (inserted_single inserted)
      exact only
  | deleteArtifact id =>
      obtain ⟨_, made⟩ := made_of_map done
      rw [delete_artifact_ok made]
      rfl
  | createChart chart =>
      obtain ⟨_, made⟩ := made_of_map done
      obtain ⟨_, _, rfl⟩ := create_chart_ok made
      rfl
  | updateChart chart =>
      obtain ⟨_, made⟩ := made_of_map done
      obtain ⟨_, _, _, rfl⟩ := update_chart_ok made
      rfl
  | createOverride override =>
      obtain ⟨_, made⟩ := made_of_map done
      obtain ⟨_, _, _, rfl⟩ := create_override_ok made
      rfl
  | insertRunner run =>
      obtain ⟨_, made⟩ := made_of_map done
      rw [insert_runner_ok made]
      rfl
  | appendHistories rows =>
      obtain rfl := Except.ok.inj done
      exact append_histories_trail before rows
  -- All others are never refused, and the history is only written by one of them.
  | _ =>
      obtain rfl := Except.ok.inj done
      rfl

theorem write_grows {allowed : NewHistory → Prop} (write : Write) (noted : ∀ row ∈ write.noted, allowed row)
    (done : write.act before = .ok after) : TrailGrows allowed before after :=
  ⟨write.noted, noted, write_trail write done⟩

theorem unnoted_grows {allowed : NewHistory → Prop} (write : Write) (unnoted : write.noted = [])
    (done : write.act before = .ok after) : TrailGrows allowed before after := by
  refine write_grows write ?_ done
  rw [unnoted]
  exact List.forall_mem_nil _

theorem perform_grows {allowed : NewHistory → Prop} (write : Write) (noted : ∀ row ∈ write.noted, allowed row)
    (store : Store) : TrailGrows allowed store (write.perform store) := by
  rw [Write.perform]
  cases done : write.act store with
  | error error => exact trail_grows_refl store
  | ok after => exact write_grows write noted done

theorem transaction_write (transaction : Transaction before after) : ∃ write : Write, write.act before = .ok after := by
  cases transaction with
  | putApp app => exact ⟨.putApp app, rfl⟩
  | putEnvironment environment => exact ⟨.putEnvironment environment, rfl⟩
  | putCiPipeline pipeline => exact ⟨.putCiPipeline pipeline, rfl⟩
  | putExternalCi external => exact ⟨.putExternalCi external, rfl⟩
  | putCdPipeline pipeline => exact ⟨.putCdPipeline pipeline, rfl⟩
  | putChartRepo repo isDefault => exact ⟨.putChartRepo repo isDefault, rfl⟩
  | putChartRef chartRef => exact ⟨.putChartRef chartRef, rfl⟩
  | putUser user => exact ⟨.putUser user, rfl⟩
  | insertWorkflow done => exact ⟨.insertWorkflow _, map_of_made done⟩
  | updateWorkflow done => exact ⟨.updateWorkflow _, map_of_made done⟩
  | saveArtifact done => exact ⟨.saveArtifact _, map_of_made done⟩
  | saveArtifacts done => exact ⟨.saveArtifacts _, map_of_made done⟩
  | saveArtifactOfWorkflow done => exact ⟨.saveArtifactOfWorkflow _ _ _, map_of_made done⟩
  | deleteArtifact done => exact ⟨.deleteArtifact _, map_of_made done⟩
  | createChart done => exact ⟨.createChart _, map_of_made done⟩
  | updateChart done => exact ⟨.updateChart _, map_of_made done⟩
  | createOverride done => exact ⟨.createOverride _, map_of_made done⟩
  | setAppMetrics app enabled user now => exact ⟨.setAppMetrics app enabled user now, rfl⟩
  | setEnvMetrics app environment enabled user now => exact ⟨.setEnvMetrics app environment enabled user now, rfl⟩
  | appendHistory row => exact ⟨.appendHistory row, rfl⟩
  | appendHistories rows => exact ⟨.appendHistories rows, rfl⟩
  | insertRunner done => exact ⟨.insertRunner _, map_of_made done⟩

theorem write_transaction (write : Write) (done : write.act before = .ok after) : Transaction before after := by
  cases write with
  | insertWorkflow workflow =>
      obtain ⟨_, made⟩ := made_of_map done
      exact .insertWorkflow made
  | updateWorkflow workflow =>
      obtain ⟨_, made⟩ := made_of_map done
      exact .updateWorkflow made
  | saveArtifact artifact =>
      obtain ⟨_, made⟩ := made_of_map done
      exact .saveArtifact made
  | saveArtifacts artifacts =>
      obtain ⟨_, made⟩ := made_of_map done
      exact .saveArtifacts made
  | saveArtifactOfWorkflow artifact id now =>
      obtain ⟨_, made⟩ := made_of_map done
      exact .saveArtifactOfWorkflow made
  | deleteArtifact id =>
      obtain ⟨_, made⟩ := made_of_map done
      exact .deleteArtifact made
  | createChart chart =>
      obtain ⟨_, made⟩ := made_of_map done
      exact .createChart made
  | updateChart chart =>
      obtain ⟨_, made⟩ := made_of_map done
      exact .updateChart made
  | createOverride override =>
      obtain ⟨_, made⟩ := made_of_map done
      exact .createOverride made
  | insertRunner run =>
      obtain ⟨_, made⟩ := made_of_map done
      exact .insertRunner made
  -- All others are never refused.
  | putApp app => exact Except.ok.inj done ▸ .putApp app
  | putEnvironment environment => exact Except.ok.inj done ▸ .putEnvironment environment
  | putCiPipeline pipeline => exact Except.ok.inj done ▸ .putCiPipeline pipeline
  | putExternalCi external => exact Except.ok.inj done ▸ .putExternalCi external
  | putCdPipeline pipeline => exact Except.ok.inj done ▸ .putCdPipeline pipeline
  | putChartRepo repo isDefault => exact Except.ok.inj done ▸ .putChartRepo repo isDefault
  | putChartRef chartRef => exact Except.ok.inj done ▸ .putChartRef chartRef
  | putUser user => exact Except.ok.inj done ▸ .putUser user
  | setAppMetrics app enabled user now => exact Except.ok.inj done ▸ .setAppMetrics app enabled user now
  | setEnvMetrics app environment enabled user now =>
      exact Except.ok.inj done ▸ .setEnvMetrics app environment enabled user now
  | appendHistory row => exact Except.ok.inj done ▸ .appendHistory row
  | appendHistories rows => exact Except.ok.inj done ▸ .appendHistories rows

theorem perform_reachable {store : Store} (reached : Reachable store) (write : Write) :
    Reachable (write.perform store) := by
  rw [Write.perform]
  cases done : write.act store with
  | error error => exact reached
  | ok after => exact .step reached (write_transaction write done)

theorem transaction_history_count (transaction : Transaction before after) :
    before.historyCount ≤ after.historyCount := by
  obtain ⟨write, done⟩ := transaction_write transaction
  have counted : after.historyCount = before.historyCount + write.noted.length :=
    (congrArg Trail.count (write_trail write done)).trans note_all_count
  omega

theorem reachable_in_order {store : Store} (reached : Reachable store) : store.trail.InOrder := by
  induction reached with
  | empty => exact filed_empty _ _
  | step _ transaction ih =>
      obtain ⟨write, done⟩ := transaction_write transaction
      rw [write_trail write done]
      exact note_all_in_order ih

end Writes

end Delivery.Store
