import Delivery.History.Queries
import Delivery.Proofs.Store.Trail
import Delivery.Rehearsal.Samples
import Mathlib.Data.List.Nodup
import Mathlib.Logic.ExistsUnique
set_option autoImplicit false

namespace Delivery

def DeploymentDetail.summary (detail : DeploymentDetail) : DeployedHistorySummary where
  id := detail.historyId
  deployedOn := detail.deployedOn
  deployedBy := detail.email
  status := detail.status

namespace Store

structure Deployment (store : Store) (pipeline : CdPipelineId) (row : History) : Prop where
  found : store.history.get? row.id = some row
  own : row.pipelineId = some pipeline
  deployed : row.deployed = true

structure DeployRun (store : Store) (pipeline : CdPipelineId) (run : CdWorkflowRunner) : Prop where
  found : store.runners.get? run.id = some run
  own : run.cdPipelineId = pipeline
  stage : run.stage = .deploy

structure RunAt (store : Store) (pipeline : CdPipelineId) (time : Instant) (run : CdWorkflowRunner) : Prop extends
    DeployRun store pipeline run where
  started : run.startedOn = time
  highest : ∀ other, DeployRun store pipeline other → other.startedOn = time → other.id.raw ≤ run.id.raw

structure Shows (store : Store) (pipeline : CdPipelineId) (row : History) (run : CdWorkflowRunner)
    (detail : DeploymentDetail) : Prop where
  historyId : detail.historyId = row.id
  pipelineId : detail.pipelineId = pipeline
  deployedOn : row.deployedOn = some detail.deployedOn
  deployedBy : row.deployedBy = some detail.deployedBy
  known : ∀ user, store.users.get? detail.deployedBy = some user → detail.email = user.email
  unknown : store.users.get? detail.deployedBy = none → detail.email = ""
  status : detail.status = run.status
  runnerId : detail.runnerId = run.id
  stage : detail.stage = run.stage

def Started (store : Store) (pipeline : CdPipelineId) (row : History) : Prop :=
  ∃ run, DeployRun store pipeline run ∧ row.deployedOn = some run.startedOn

structure Stamped (row : History) : Prop where
  time : row.deployedOn.isSome
  deployer : row.deployedBy.isSome

structure Listed (store : Store) (pipeline : CdPipelineId) (details : List DeploymentDetail) : Prop where
  descending : details.Pairwise fun newer older => older.historyId.raw < newer.historyId.raw
  once : ∀ row, Deployment store pipeline row → Started store pipeline row →
    ∃! detail, detail ∈ details ∧ detail.historyId = row.id
  never : ∀ row, Deployment store pipeline row → ¬Started store pipeline row →
    ∀ detail ∈ details, detail.historyId ≠ row.id
  only : ∀ detail ∈ details, ∃ row run, Deployment store pipeline row ∧ RunAt store pipeline detail.deployedOn run ∧
    Shows store pipeline row run detail

section Runners

theorem transaction_runners {before after : Store} (transaction : Transaction before after) :
    after.runners = before.runners ∨ ∃ run, after.runners = before.runners.insert run.id run := by
  have inserted : ∀ {store made : Store} {artifacts : List NewArtifact} {rows : List Artifact},
      store.insertArtifacts artifacts = (rows, made) → made.runners = store.runners := by
    intro store made artifacts rows done
    obtain ⟨_, rfl⟩ := inserted_parts done
    rw [insert_artifacts_only store artifacts]
  cases transaction with
  | insertWorkflow done => exact .inl (by rw [insert_workflow_ok done])
  | updateWorkflow done => exact .inl (by rw [update_workflow_ok done])
  | saveArtifact done => exact .inl (inserted (inserted_single (save_artifact_ok done).2))
  | saveArtifacts done => exact .inl (inserted (save_artifacts_ok done))
  | saveArtifactOfWorkflow done =>
      obtain ⟨_, workflow, _, _, made⟩ := save_artifact_of_workflow_ok done
      have same := inserted (inserted_single made)
      exact .inl same
  | deleteArtifact done => exact .inl (by rw [delete_artifact_ok done])
  | createChart done =>
      obtain ⟨_, _, rfl⟩ := create_chart_ok done
      exact .inl rfl
  | updateChart done =>
      obtain ⟨_, _, _, rfl⟩ := update_chart_ok done
      exact .inl rfl
  | createOverride done =>
      obtain ⟨_, _, _, rfl⟩ := create_override_ok done
      exact .inl rfl
  | appendHistories rows =>
      have only : OnlyHistory before (before.appendHistories rows).2 := append_histories_only before rows
      exact .inl (by rw [only])
  | @insertRunner run _ done => exact .inr ⟨run, by rw [insert_runner_ok done]⟩
  | _ => exact .inl rfl

theorem reachable_runners {store : Store} (reached : Reachable store) {key : CdWorkflowRunnerId}
    {run : CdWorkflowRunner} (found : store.runners.get? key = some run) : run.id = key := by
  induction reached generalizing key run with
  | empty => cases found
  | step _ transaction ih =>
      rcases transaction_runners transaction with same | ⟨new, inserted⟩
      · exact ih (same ▸ found)
      · exact own_insert new ih (inserted ▸ found)

end Runners

section Highest

variable {kind : EntityKind} {α : Type} {name : α → Id kind} {rows : List α} {row : α}

theorem last_iff_highest (ascending : rows.Pairwise fun first second => (name first).raw < (name second).raw) :
    rows.getLast? = some row ↔ row ∈ rows ∧ ∀ other ∈ rows, (name other).raw ≤ (name row).raw := by
  rcases List.eq_nil_or_concat' rows with rfl | ⟨earlier, last, rfl⟩
  · simp
  · obtain ⟨_, _, apart⟩ := List.pairwise_append.mp ascending
    have below : ∀ other ∈ earlier, (name other).raw < (name last).raw := fun other member =>
      apart other member last List.mem_cons_self
    rw [List.getLast?_concat, Option.some.injEq]
    constructor
    · rintro rfl
      refine ⟨List.mem_concat_self, fun other member => ?_⟩
      rcases List.mem_append.mp member with before | same
      · exact Int64.le_of_lt (below other before)
      · rw [List.mem_singleton.mp same]
        exact Int64.le_refl _
    · rintro ⟨member, highest⟩
      rcases List.mem_append.mp member with before | same
      · exact absurd (highest last List.mem_concat_self) (Int64.not_le.mpr (below row before))
      · exact (List.mem_singleton.mp same).symm

end Highest

section Joined

variable {store : Store} {pipeline : CdPipelineId} {row : History} {run : CdWorkflowRunner} {time : Instant}

theorem mem_deployments (reached : Reachable store) :
    row ∈ store.deploymentsOf pipeline ↔ Deployment store pipeline row := by
  have own : ∀ {key row}, store.history.get? key = some row → row.id = key := (reachable_in_order reached).own
  rw [deploymentsOf, List.mem_reverse, Table.filter, List.mem_filter, mem_rows_own own, Bool.and_eq_true, beq_iff_eq]
  constructor
  · rintro ⟨found, mine, deployed⟩
    exact ⟨found, mine, deployed⟩
  · exact fun deployment => ⟨deployment.found, deployment.own, deployment.deployed⟩

theorem mem_deploy_runs (reached : Reachable store) :
    run ∈ store.deployRunsOf pipeline ↔ DeployRun store pipeline run := by
  rw [deployRunsOf, Table.filter, List.mem_filter, mem_rows_own (reachable_runners reached), Bool.and_eq_true,
    beq_iff_eq, beq_iff_eq]
  constructor
  · rintro ⟨found, mine, stage⟩
    exact ⟨found, mine, stage⟩
  · exact fun deploy => ⟨deploy.found, deploy.own, deploy.stage⟩

theorem ids_ascending {kind : EntityKind} {α : Type} {name : α → Id kind} {table : Table (Id kind) α}
    (own : ∀ {key row}, table.get? key = some row → name row = key) (test : α → Bool) :
    (table.filter test).Pairwise fun first second => (name first).raw < (name second).raw := by
  refine ((rows_ascending own).filter test).imp fun {first second} before => ?_
  rwa [Id.compare_eq, Std.compare_eq_lt] at before

theorem deployments_descending (reached : Reachable store) (pipeline : CdPipelineId) :
    (store.deploymentsOf pipeline).Pairwise fun newer older => older.id.raw < newer.id.raw :=
  List.pairwise_reverse.mpr (ids_ascending (reachable_in_order reached).own _)

theorem run_at_iff (reached : Reachable store) :
    runAt? (store.deployRunsOf pipeline) time = some run ↔ RunAt store pipeline time run := by
  have ascending : (store.deployRunsOf pipeline).Pairwise fun first second => first.id.raw < second.id.raw :=
    ids_ascending (reachable_runners reached) _
  have then_started : ∀ other, other ∈ (store.deployRunsOf pipeline).filter (·.startedOn == time) ↔
      DeployRun store pipeline other ∧ other.startedOn = time := fun other => by
    rw [List.mem_filter, mem_deploy_runs reached, beq_iff_eq]
  rw [runAt?, ← List.head?_filter, List.filter_reverse, List.head?_reverse, last_iff_highest (ascending.filter _)]
  constructor
  · rintro ⟨member, highest⟩
    obtain ⟨deploy, started⟩ := (then_started run).mp member
    exact { deploy with
      started
      highest := fun other deploys same => highest other ((then_started other).mpr ⟨deploys, same⟩) }
  · rintro ⟨deploy, started, highest⟩
    refine ⟨(then_started run).mpr ⟨deploy, started⟩, fun other member => ?_⟩
    obtain ⟨deploys, same⟩ := (then_started other).mp member
    exact highest other deploys same

theorem run_at_exists (reached : Reachable store) {started : CdWorkflowRunner}
    (deploy : DeployRun store pipeline started) : ∃ run, RunAt store pipeline started.startedOn run := by
  have some_run : (runAt? (store.deployRunsOf pipeline) started.startedOn).isSome := by
    rw [runAt?, List.find?_isSome]
    exact ⟨started, List.mem_reverse.mpr ((mem_deploy_runs reached).mpr deploy), beq_self_eq_true _⟩
  obtain ⟨run, found⟩ := Option.isSome_iff_exists.mp some_run
  exact ⟨run, (run_at_iff reached).mp found⟩

theorem joined_some {runs : List CdWorkflowRunner} {entry : History × CdWorkflowRunner} :
    joined? runs row = some entry ↔
      entry.1 = row ∧ ∃ time, row.deployedOn = some time ∧ runAt? runs time = some entry.2 := by
  obtain ⟨shown, run⟩ := entry
  cases stamp : row.deployedOn with
  | none => simp [joined?, stamp]
  | some time => cases found : runAt? runs time <;> simp [joined?, stamp, found, eq_comm]

theorem mem_joined (reached : Reachable store) :
    (row, run) ∈ store.deploymentsWithRuns pipeline ↔
      Deployment store pipeline row ∧ ∃ time, row.deployedOn = some time ∧ RunAt store pipeline time run := by
  simp only [deploymentsWithRuns, List.mem_filterMap, mem_deployments reached, joined_some, run_at_iff reached]
  constructor
  · rintro ⟨deployed, deployment, rfl, found⟩
    exact ⟨deployment, found⟩
  · rintro ⟨deployment, found⟩
    exact ⟨row, deployment, rfl, found⟩

theorem joined_descending (reached : Reachable store) (pipeline : CdPipelineId) :
    (store.deploymentsWithRuns pipeline).Pairwise fun newer older => older.1.id.raw < newer.1.id.raw := by
  refine (deployments_descending reached pipeline).filterMap _ ?_
  intro newer older before first one second two
  rw [(joined_some.mp one).1, (joined_some.mp two).1]
  exact before

theorem joined_length (store : Store) (pipeline : CdPipelineId) :
    (store.deploymentsWithRuns pipeline).length ≤ store.history.size :=
  calc (store.deploymentsWithRuns pipeline).length
    _ ≤ (store.deploymentsOf pipeline).length := List.length_filterMap_le _ _
    _ ≤ store.history.rows.length := by
      rw [deploymentsOf, List.length_reverse]
      exact List.length_filter_le _ _
    _ = store.history.size := List.length_map _

end Joined

section Details

variable {store : Store} {pipeline : CdPipelineId} {row : History} {run : CdWorkflowRunner} {detail : DeploymentDetail}

theorem Shows.email_of (shows : Shows store pipeline row run detail) :
    detail.email = store.emailOf detail.deployedBy := by
  cases found : store.users.get? detail.deployedBy with
  | none => rw [shows.unknown found, emailOf, found]; rfl
  | some user => rw [shows.known user found, emailOf, found]; rfl

theorem shown_iff : store.detailOf? pipeline row run = some detail ↔ Shows store pipeline row run detail := by
  constructor
  · intro shown
    cases deployedOn : row.deployedOn with
    | none => simp [detailOf?, deployedOn] at shown
    | some time =>
        cases deployedBy : row.deployedBy with
        | none => simp [detailOf?, deployedOn, deployedBy] at shown
        | some user =>
            rw [detailOf?, deployedOn, deployedBy] at shown
            cases shown
            exact {
              historyId := rfl
              pipelineId := rfl
              deployedOn
              deployedBy
              known := fun user found => by simp [emailOf, found]
              unknown := fun missing => by simp [emailOf, missing]
              status := rfl
              runnerId := rfl
              stage := rfl }
  · intro shows
    rw [detailOf?, shows.deployedOn, shows.deployedBy, ← shows.historyId, ← shows.pipelineId, ← shows.status,
      ← shows.runnerId, ← shows.stage]
    exact congrArg (fun address => some { detail with email := address }) shows.email_of.symm

theorem full_details (pipeline : CdPipelineId) {unlimited : Nat} (enough : store.history.size ≤ unlimited) :
    store.deploymentDetails pipeline 0 unlimited =
      (store.deploymentsWithRuns pipeline).filterMap fun (row, run) => store.detailOf? pipeline row run := by
  rw [deploymentDetails, List.drop_zero, List.take_of_length_le (Nat.le_trans (joined_length store pipeline) enough)]

theorem mem_details (reached : Reachable store) {unlimited : Nat} (enough : store.history.size ≤ unlimited) :
    detail ∈ store.deploymentDetails pipeline 0 unlimited ↔
      ∃ row run, Deployment store pipeline row ∧ RunAt store pipeline detail.deployedOn run ∧
        Shows store pipeline row run detail := by
  rw [full_details pipeline enough, List.mem_filterMap]
  constructor
  · rintro ⟨⟨row, run⟩, member, shown⟩
    have shows := shown_iff.mp shown
    obtain ⟨deployment, time, stamp, latest⟩ := (mem_joined reached).mp member
    have same : time = detail.deployedOn := Option.some.inj (stamp.symm.trans shows.deployedOn)
    exact ⟨row, run, deployment, same ▸ latest, shows⟩
  · rintro ⟨row, run, deployment, latest, shows⟩
    exact ⟨(row, run), (mem_joined reached).mpr ⟨deployment, _, shows.deployedOn, latest⟩, shown_iff.mpr shows⟩

theorem details_descending (reached : Reachable store) (pipeline : CdPipelineId) (offset limit : Nat) :
    (store.deploymentDetails pipeline offset limit).Pairwise fun newer older =>
      older.historyId.raw < newer.historyId.raw := by
  have page := ((joined_descending reached pipeline).drop (i := offset)).take (i := limit)
  refine page.filterMap _ fun newer older before first one second two => ?_
  rw [(shown_iff.mp one).historyId, (shown_iff.mp two).historyId]
  exact before

theorem details_distinct (reached : Reachable store) {offset limit : Nat} {first second : DeploymentDetail}
    (one : first ∈ store.deploymentDetails pipeline offset limit)
    (two : second ∈ store.deploymentDetails pipeline offset limit) (same : first.historyId = second.historyId) :
    first = second := by
  have apart : ((store.deploymentDetails pipeline offset limit).map (·.historyId)).Nodup := by
    refine List.pairwise_map.mpr ((details_descending reached pipeline offset limit).imp ?_)
    rintro newer older before equal
    exact Int64.lt_irrefl (equal ▸ before)
  exact List.inj_on_of_nodup_map apart one two same

theorem summary_of_shown (shown : store.detailOf? pipeline row run = some detail) :
    store.summaryOf? row run = some detail.summary := by
  have shows := shown_iff.mp shown
  rw [summaryOf?, shows.deployedOn, shows.deployedBy, ← shows.historyId, ← shows.status]
  exact congrArg (fun address => some { detail.summary with deployedBy := address }) shows.email_of.symm

end Details

section Stamped

variable {store : Store} {pipeline : CdPipelineId}

theorem Stamped.shown {row : History} (stamped : Stamped row) (store : Store) (pipeline : CdPipelineId)
    (run : CdWorkflowRunner) : ∃ detail, store.detailOf? pipeline row run = some detail := by
  obtain ⟨time, deployedOn⟩ := Option.isSome_iff_exists.mp stamped.time
  obtain ⟨user, deployedBy⟩ := Option.isSome_iff_exists.mp stamped.deployer
  rw [detailOf?, deployedOn, deployedBy]
  exact ⟨_, rfl⟩

theorem joined_shown (reached : Reachable store) (stamped : ∀ row, Deployment store pipeline row → Stamped row)
    (entry : History × CdWorkflowRunner) (member : entry ∈ store.deploymentsWithRuns pipeline) :
    ∃ detail, store.detailOf? pipeline entry.1 entry.2 = some detail := by
  obtain ⟨deployment, _⟩ := (mem_joined reached).mp member
  exact (stamped entry.1 deployment).shown store pipeline entry.2

end Stamped

section Pages

variable {α β : Type} {f : α → Option β} {rows : List α}

theorem filter_map_page (every : ∀ row ∈ rows, ∃ made, f row = some made) (offset limit : Nat) :
    ((rows.drop offset).take limit).filterMap f = ((rows.filterMap f).drop offset).take limit := by
  induction rows generalizing offset limit with
  | nil => simp
  | cons row rest ih =>
      obtain ⟨made, shown⟩ := every row List.mem_cons_self
      have next := ih fun other member => every other (List.mem_cons_of_mem row member)
      rw [List.filterMap_cons_some shown]
      cases offset with
      | succ offset => exact next offset limit
      | zero =>
          cases limit with
          | zero => rfl
          | succ limit =>
              rw [List.drop_zero, List.take_succ_cons, List.filterMap_cons_some shown, List.drop_zero,
                List.take_succ_cons]
              exact congrArg (made :: ·) (next 0 limit)

theorem pages_joined (rows : List α) (limit pages : Nat) :
    ((List.range pages).flatMap fun page => (rows.drop (page * limit)).take limit) = rows.take (pages * limit) := by
  induction pages with
  | zero => simp
  | succ pages ih => rw [List.range_succ, List.flatMap_append, ih, List.flatMap_singleton, Nat.succ_mul, List.take_add]

end Pages

section Complete

variable {store : Store} {pipeline : CdPipelineId}

theorem details_listed (reached : Reachable store) (stamped : ∀ row, Deployment store pipeline row → Stamped row)
    {unlimited : Nat} (enough : store.history.size ≤ unlimited) :
    Listed store pipeline (store.deploymentDetails pipeline 0 unlimited) := by
  refine ⟨details_descending reached pipeline 0 unlimited, ?once, ?never, fun detail => (mem_details reached enough).mp⟩
  case once =>
    rintro row deployment ⟨started, deploy, deployedOn⟩
    obtain ⟨run, latest⟩ := run_at_exists reached deploy
    obtain ⟨detail, shown⟩ := (stamped row deployment).shown store pipeline run
    have shows := shown_iff.mp shown
    have member : detail ∈ store.deploymentDetails pipeline 0 unlimited := by
      rw [full_details pipeline enough]
      exact List.mem_filterMap.mpr ⟨(row, run), (mem_joined reached).mpr ⟨deployment, _, deployedOn, latest⟩, shown⟩
    exact ⟨detail, ⟨member, shows.historyId⟩, fun other ⟨listed, same⟩ =>
      details_distinct reached listed member (same.trans shows.historyId.symm)⟩
  case never =>
    intro row deployment missing detail member same
    obtain ⟨found, run, other, latest, shows⟩ := (mem_details reached enough).mp member
    have row_same : found = row := by
      have id_same : found.id = row.id := shows.historyId.symm.trans same
      exact Option.some.inj (other.found.symm.trans (id_same ▸ deployment.found))
    subst row_same
    exact missing ⟨run, latest.toDeployRun, latest.started ▸ shows.deployedOn⟩

theorem list_of_details (every : ∀ entry ∈ store.deploymentsWithRuns pipeline, ∃ detail,
      store.detailOf? pipeline entry.1 entry.2 = some detail) {unlimited : Nat}
    (enough : store.history.size ≤ unlimited) (base : HistoryId) :
    store.deployedList pipeline base =
      ((store.deploymentDetails pipeline 0 unlimited).filter (·.historyId.raw ≤ base.raw)).map (·.summary) := by
  rw [full_details pipeline enough, deployedList, List.filterMap_filter, List.filter_filterMap, List.map_filterMap]
  refine List.filterMap_congr fun ⟨row, run⟩ member => ?_
  obtain ⟨detail, shown⟩ := every (row, run) member
  have shows := shown_iff.mp shown
  have up_to : (compare row.id base).isLE = decide (detail.historyId.raw ≤ base.raw) := by
    rw [shows.historyId, Id.compare_eq, Bool.eq_iff_iff, decide_eq_true_iff, Std.isLE_compare]
  simp only [shown, summary_of_shown shown, up_to, Option.filter_some]
  split <;> rfl

/--
When all deployments of the pipeline are stamped, the whole list shows each one that a deploy run started with, once,
the newest first, with the highest such run; pages are cut out of it, and the shorter list is the part up to a row.
-/
theorem deployment_details_complete (reached : Reachable store) (pipeline : CdPipelineId)
    (stamped : ∀ row, Deployment store pipeline row → Stamped row) (unlimited : Nat)
    (enough : store.history.size ≤ unlimited) :
    let full := store.deploymentDetails pipeline 0 unlimited
    Listed store pipeline full ∧
      (∀ offset limit, store.deploymentDetails pipeline offset limit = (full.drop offset).take limit) ∧
      (∀ limit pages, ((List.range pages).flatMap fun page => store.deploymentDetails pipeline (page * limit) limit) =
        full.take (pages * limit)) ∧
      ∀ base, store.deployedList pipeline base =
        (full.filter (·.historyId.raw ≤ base.raw)).map (·.summary) := by
  have every := joined_shown reached stamped
  have paged : ∀ offset limit, store.deploymentDetails pipeline offset limit =
      ((store.deploymentDetails pipeline 0 unlimited).drop offset).take limit := by
    intro offset limit
    rw [full_details pipeline enough]
    exact filter_map_page every offset limit
  refine ⟨details_listed reached stamped enough, paged, fun limit pages => ?_, list_of_details every enough⟩
  simp only [paged _ limit]
  exact pages_joined _ limit pages

end Complete

def sampleDeployments : Store :=
  let later := Instant.ofSeconds 1704067260
  let latest := Instant.ofSeconds 1704067320
  let noted := Write.perform (Write.perform .empty (.putUser Sample.user)) (.appendHistories [
    Sample.history,
    { Sample.history with deployedOn := some later },
    { Sample.history with deployedOn := some latest, deployedBy := some ⟨9⟩ },
    { Sample.history with deployed := false, deployedOn := none, deployedBy := none },
    Sample.history])
  [Sample.runner,
    { Sample.runner with id := ⟨2⟩, status := .failed },
    { Sample.runner with id := ⟨3⟩, stage := .preDeploy, startedOn := later },
    { Sample.runner with id := ⟨4⟩, startedOn := latest, status := .running },
    { Sample.runner with id := ⟨5⟩, stage := .postDeploy, startedOn := latest }].foldl
    (fun store run => Write.perform store (.insertRunner run)) noted

theorem sample_deployments_reachable : Reachable sampleDeployments := by
  refine List.foldlRecOn _ _ (perform_reachable (perform_reachable .empty _) _) fun store reached run _ => ?_
  exact perform_reachable reached _

theorem sample_deployments_stamped (row : History) (deployment : Deployment sampleDeployments ⟨100⟩ row) :
    Stamped row := by
  have every : ∀ row ∈ sampleDeployments.history.rows, row.deployed = true →
      row.deployedOn.isSome ∧ row.deployedBy.isSome := by decide
  obtain ⟨time, deployer⟩ := every row (Table.mem_rows.mpr ⟨row.id, deployment.found⟩) deployment.deployed
  exact ⟨time, deployer⟩

theorem sample_deployments_complete :
    sampleDeployments.history.size ≤ 10 ∧
    Listed sampleDeployments ⟨100⟩ (sampleDeployments.deploymentDetails ⟨100⟩ 0 10) ∧
    (sampleDeployments.deploymentDetails ⟨100⟩ 0 10).map
        (fun detail => (detail.historyId.raw, detail.runnerId.raw, detail.status, detail.email)) =
      [(5, 2, .failed, "dev@example.com"), (3, 4, .running, ""), (1, 2, .failed, "dev@example.com")] ∧
    sampleDeployments.deployedList ⟨100⟩ ⟨3⟩ =
      ((sampleDeployments.deploymentDetails ⟨100⟩ 0 10).drop 1).map (·.summary) := by
  obtain ⟨listed, _, _, summaries⟩ := deployment_details_complete sample_deployments_reachable ⟨100⟩
    sample_deployments_stamped 10 (by decide)
  refine ⟨by decide, listed, by decide, ?_⟩
  rw [summaries]
  decide

end Store

end Delivery
