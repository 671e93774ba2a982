import Delivery.Proofs.History.Deployments
set_option autoImplicit false

namespace Delivery.Store

structure TimesApart (store : Store) (pipeline : CdPipelineId) : Prop where
  runs : ∀ first second, DeployRun store pipeline first → DeployRun store pipeline second →
    first.startedOn = second.startedOn → first = second
  deployments : ∀ first second time, Deployment store pipeline first → Deployment store pipeline second →
    first.deployedOn = some time → second.deployedOn = some time → first = second

structure Beside (store : Store) (pipeline : CdPipelineId) (key : CdWorkflowRunnerId) (row : History)
    (run : CdWorkflowRunner) : Prop where
  found : store.runners.get? key = some run
  own : run.cdPipelineId = pipeline
  deployment : Deployment store pipeline row
  time : row.deployedOn = some run.startedOn

structure LookupAgrees (store : Store) (pipeline : CdPipelineId) (unlimited : Nat) (key : CdWorkflowRunnerId) :
    Prop where
  check : ∀ id, (store.historyOfRun? pipeline key).map (·.id) = some id ↔
    ∃ detail ∈ store.deploymentDetails pipeline 0 unlimited, detail.historyId = id ∧ detail.runnerId = key
  content : ∀ content, store.detailOfRun pipeline key = .ok content ↔
    ∃ detail ∈ store.deploymentDetails pipeline 0 unlimited, detail.runnerId = key ∧
      ∃ row, store.history.get? detail.historyId = some row ∧ row.detail = content

section Lookups

variable {store : Store} {pipeline : CdPipelineId} {key : CdWorkflowRunnerId} {row : History}

theorem found_for_run (reached : Reachable store) (apart : TimesApart store pipeline) :
    store.historyOfRun? pipeline key = some row ↔ ∃ run, Beside store pipeline key row run := by
  simp only [historyOfRun?, Option.bind_eq_bind, Option.bind_eq_some_iff, Option.filter_eq_some_iff, beq_iff_eq]
  constructor
  · rintro ⟨run, ⟨found, own⟩, first⟩
    have deployment := (mem_deployments reached).mp (List.mem_of_find?_eq_some first)
    exact ⟨run, found, own, deployment, beq_iff_eq.mp (List.find?_some first :)⟩
  · rintro ⟨run, found, own, deployment, time⟩
    refine ⟨run, ⟨found, own⟩, ?_⟩
    cases first : (store.deploymentsOf pipeline).find? fun row => row.deployedOn == some run.startedOn with
    | none =>
        have misses := List.find?_eq_none.mp first row ((mem_deployments reached).mpr deployment)
        exact absurd (beq_iff_eq.mpr time) misses
    | some other =>
        have listed := (mem_deployments reached).mp (List.mem_of_find?_eq_some first)
        have same_time : other.deployedOn = some run.startedOn := beq_iff_eq.mp (List.find?_some first :)
        rw [apart.deployments other row _ listed deployment same_time time]

theorem run_at_of_apart (apart : TimesApart store pipeline) {run : CdWorkflowRunner}
    (deploy : DeployRun store pipeline run) : RunAt store pipeline run.startedOn run where
  toDeployRun := deploy
  started := rfl
  highest other deploys same := by
    rw [apart.runs other run deploys deploy same]
    exact Int64.le_refl _

theorem shown_for_run (reached : Reachable store) (apart : TimesApart store pipeline)
    (deployers : ∀ row, Deployment store pipeline row → row.deployedBy.isSome) {unlimited : Nat}
    (enough : store.history.size ≤ unlimited) :
    (∃ detail ∈ store.deploymentDetails pipeline 0 unlimited,
        detail.runnerId = key ∧ store.history.get? detail.historyId = some row) ↔
      ∃ run, Beside store pipeline key row run ∧ run.stage = .deploy := by
  constructor
  · rintro ⟨detail, member, rfl, found⟩
    obtain ⟨listed, run, deployment, latest, shows⟩ := (mem_details reached enough).mp member
    have same : listed = row := by
      rw [shows.historyId, deployment.found] at found
      exact Option.some.inj found
    subst same
    refine ⟨run, ⟨?_, latest.own, deployment, ?_⟩, latest.stage⟩
    · rw [shows.runnerId, latest.found]
    · rw [shows.deployedOn, latest.started]
  · rintro ⟨run, beside, stage⟩
    have named : run.id = key := reachable_runners reached beside.found
    have deploy : DeployRun store pipeline run := ⟨named ▸ beside.found, beside.own, stage⟩
    have stamped : Stamped row := ⟨Option.isSome_of_eq_some beside.time, deployers row beside.deployment⟩
    obtain ⟨detail, shown⟩ := stamped.shown store pipeline run
    have shows := shown_iff.mp shown
    have time : detail.deployedOn = run.startedOn := Option.some.inj (shows.deployedOn.symm.trans beside.time)
    refine ⟨detail, (mem_details reached enough).mpr ?_, shows.runnerId.trans named, ?_⟩
    · exact ⟨row, run, beside.deployment, time ▸ run_at_of_apart apart deploy, shows⟩
    · rw [shows.historyId, beside.deployment.found]

theorem detail_of_run_ok {content : HistoryDetail} :
    store.detailOfRun pipeline key = .ok content ↔
      ∃ row, store.historyOfRun? pipeline key = some row ∧ row.detail = content := by
  rw [detailOfRun]
  cases store.historyOfRun? pipeline key <;> simp

end Lookups

section Agreement

variable {store : Store} {pipeline : CdPipelineId} {key : CdWorkflowRunnerId} {unlimited : Nat}

theorem agrees_of_rows (reached : Reachable store) (enough : store.history.size ≤ unlimited)
    (same : ∀ row, store.historyOfRun? pipeline key = some row ↔
      ∃ detail ∈ store.deploymentDetails pipeline 0 unlimited,
        detail.runnerId = key ∧ store.history.get? detail.historyId = some row) :
    LookupAgrees store pipeline unlimited key := by
  have own : ∀ {id row}, store.history.get? id = some row → row.id = id := (reachable_in_order reached).own
  constructor
  case check =>
    intro id
    rw [Option.map_eq_some_iff]
    constructor
    · rintro ⟨row, found, rfl⟩
      obtain ⟨detail, member, with_run, there⟩ := (same row).mp found
      exact ⟨detail, member, (own there).symm, with_run⟩
    · rintro ⟨detail, member, rfl, with_run⟩
      obtain ⟨row, _, deployment, _, shows⟩ := (mem_details reached enough).mp member
      have there : store.history.get? detail.historyId = some row := shows.historyId ▸ deployment.found
      exact ⟨row, (same row).mpr ⟨detail, member, with_run, there⟩, own there⟩
  case content =>
    intro content
    rw [detail_of_run_ok]
    constructor
    · rintro ⟨row, found, written⟩
      obtain ⟨detail, member, with_run, there⟩ := (same row).mp found
      exact ⟨detail, member, with_run, row, there, written⟩
    · rintro ⟨detail, member, with_run, row, there, written⟩
      exact ⟨row, (same row).mpr ⟨detail, member, with_run, there⟩, written⟩

/--
When deploy runs and deployments of the pipeline have times of their own, the look-ups by a run agree with the list
unless the run is one of another stage that started at the time of a deployment.
-/
theorem run_lookup_agrees_iff (reached : Reachable store) (pipeline : CdPipelineId)
    (apart : TimesApart store pipeline) (deployers : ∀ row, Deployment store pipeline row → row.deployedBy.isSome)
    (unlimited : Nat) (enough : store.history.size ≤ unlimited) (key : CdWorkflowRunnerId) :
    LookupAgrees store pipeline unlimited key ↔
      ∀ run, store.runners.get? key = some run → run.cdPipelineId = pipeline → run.stage ≠ .deploy →
        ∀ row, Deployment store pipeline row → row.deployedOn ≠ some run.startedOn := by
  constructor
  · intro agrees run found own other row deployment time
    have beside : Beside store pipeline key row run := ⟨found, own, deployment, time⟩
    have answered := (found_for_run reached apart).mpr ⟨run, beside⟩
    obtain ⟨detail, member, named, with_run⟩ := (agrees.check row.id).mp (by rw [answered]; rfl)
    have shown := (shown_for_run reached apart deployers enough).mp ⟨detail, member, with_run, named ▸ deployment.found⟩
    obtain ⟨deploy, listed, stage⟩ := shown
    rw [Option.some.inj (found.symm.trans listed.found)] at other
    exact other stage
  · intro alone
    refine agrees_of_rows reached enough fun row => ?_
    rw [found_for_run reached apart, shown_for_run reached apart deployers enough]
    constructor
    · rintro ⟨run, beside⟩
      refine ⟨run, beside, ?_⟩
      by_contra other
      exact alone run beside.found beside.own other row beside.deployment beside.time
    · rintro ⟨run, beside, _⟩
      exact ⟨run, beside⟩

end Agreement

def sampleStages : Store :=
  let noted := Write.perform (Write.perform .empty (.putUser Sample.user)) (.appendHistory Sample.history)
  let deployed := Write.perform noted (.insertRunner Sample.runner)
  Write.perform deployed (.insertRunner { Sample.runner with id := ⟨2⟩, stage := .preDeploy })

theorem sample_stages_reachable : Reachable sampleStages :=
  perform_reachable (perform_reachable (perform_reachable (perform_reachable .empty _) _) _) _

theorem sample_stages_deployments {row : History} :
    Deployment sampleStages ⟨100⟩ row ↔ row = Sample.history.stored ⟨1⟩ := by
  have listed : sampleStages.deploymentsOf ⟨100⟩ = [Sample.history.stored ⟨1⟩] := by decide
  rw [← mem_deployments sample_stages_reachable, listed, List.mem_singleton]

theorem sample_stages_apart : TimesApart sampleStages ⟨100⟩ where
  runs first second one two _ := by
    have listed : sampleStages.deployRunsOf ⟨100⟩ = [Sample.runner] := by decide
    rw [← mem_deploy_runs sample_stages_reachable, listed, List.mem_singleton] at one two
    rw [one, two]
  deployments first second _ one two _ _ := by
    rw [sample_stages_deployments.mp one, sample_stages_deployments.mp two]

theorem sample_stages_deployers (row : History) (deployment : Deployment sampleStages ⟨100⟩ row) :
    row.deployedBy.isSome := by
  rw [sample_stages_deployments.mp deployment]
  rfl

theorem sample_lookup_agrees :
    LookupAgrees sampleStages ⟨100⟩ 10 ⟨1⟩ ∧ ¬LookupAgrees sampleStages ⟨100⟩ 10 ⟨2⟩ := by
  have agrees_iff := run_lookup_agrees_iff sample_stages_reachable ⟨100⟩ sample_stages_apart sample_stages_deployers 10
    (by decide)
  constructor
  · refine (agrees_iff ⟨1⟩).mpr fun run found _ other => ?_
    cases (Option.some.inj found : Sample.runner = run)
    exact absurd rfl other
  · intro agrees
    exact (agrees_iff ⟨2⟩).mp agrees _ rfl rfl (by decide) _ (sample_stages_deployments.mpr rfl) rfl

theorem lookup_of_another_stage :
    Reachable sampleStages ∧ TimesApart sampleStages ⟨100⟩ ∧
    (∀ row, Deployment sampleStages ⟨100⟩ row → row.deployedBy.isSome) ∧ sampleStages.history.size ≤ 10 ∧
    (sampleStages.historyOfRun? ⟨100⟩ ⟨2⟩).map (·.id) = some ⟨1⟩ ∧
    sampleStages.detailOfRun ⟨100⟩ ⟨2⟩ = .ok (Sample.history.stored ⟨1⟩).detail ∧
    ¬∃ detail ∈ sampleStages.deploymentDetails ⟨100⟩ 0 10, detail.historyId = ⟨1⟩ ∧ detail.runnerId = ⟨2⟩ := by
  refine ⟨sample_stages_reachable, sample_stages_apart, sample_stages_deployers, ?_⟩
  decide

end Delivery.Store
