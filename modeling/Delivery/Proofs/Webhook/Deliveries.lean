import Delivery.Proofs.Webhook.SuccessRace
import Delivery.Proofs.Webhook.Triggers
set_option autoImplicit false

namespace Delivery.Webhook

open Store

variable {ω : Type}

structure Notice (ω : Type) where
  webhook : Webhook ω
  id : CiPipelineId
  request : BuildEventRequest
  pushedAt : Option Instant
  now : Instant

namespace Notice

def success (notice : Notice ω) : Service (World ω) IngestionOutcome :=
  notice.webhook.buildSucceeded notice.id notice.request notice.pushedAt notice.now

def flow (notice : Notice ω) : Flow (World ω) (Except Error IngestionOutcome) :=
  ExceptT.run notice.success

end Notice

def writeRun (workflow : CiWorkflow) (world : World ω) : World ω :=
  ((World.onStore (Service.transact fun store => store.updateWorkflow workflow)).run world).2

-- How a delivery ends. The winner does what it does alone in a world where only runs have been written, which is
-- where it stored its artifact.
def Notice.Ends (start : World ω) (notice : Notice ω) : Standing (World ω) ArtifactId → IngestionOutcome → Prop
  | .racing, _ => False
  | .lost key, outcome => ∃ cloneIds, outcome = { artifactId := key, cloneIds, fanOut := {} }
  | .won key mine, outcome => outcome.artifactId = key ∧ ∃ before made, OnlyRuns start.store before ∧
      Ready before notice.request ∧ OnlyRuns made.store mine.store ∧ mine = { made with store := mine.store } ∧
      Succeeds notice.webhook notice.id notice.request notice.pushedAt notice.now { start with store := before }
        outcome made

section Delivery

variable {start : World ω} {run : WorkflowId} {unbuilt : start.store.artifactOfWorkflow run = none}
  {notice : Notice ω}

theorem delivery_follows (orderly : Orderly start.store)
    (room : start.store.artifactCount + (start.store.childrenOf notice.id).length + 1 < Id.capacity)
    (asked : notice.request.workflowId = some run) :
    notice.success.Follows (worldRace (storeRace start.store run unbuilt) start).protocol (notice.Ends start)
      Standing.MayFail .racing := by
  rw [Notice.success, buildSucceeded]
  apply Service.follows_bind
  refine follows_on_store .racing (Service.follows_weaken (record_success_follows orderly room asked)
    (fun standing recorded fits => ?_) fun _ _ fails => fails)
  cases standing with
  | racing => exact fits.elim
  | lost key =>
      obtain ⟨clones, rfl⟩ := fits
      exact Service.follows_pure ⟨clones, rfl⟩
  | won key mine =>
      obtain ⟨before, build, made, free, records, kept, named, rfl⟩ := fits
      apply Service.follows_bind
      refine Race.won_act fun world taken relied => ⟨taken, ?_⟩
      obtain ⟨store, rfl, relied⟩ := relied
      apply Service.follows_bind
      refine Race.won_act fun world taken again => ⟨taken, Service.follows_pure ?_⟩
      obtain ⟨later, rfl, further⟩ := again
      refine ⟨named, before, _, free, records_ready records, ?_, ?_, .first records rfl⟩
      · exact only_runs_trans kept (only_runs_trans relied further)
      · rfl

theorem write_run_writes (workflow : CiWorkflow) (world : World ω) :
    ∃ after, writeRun workflow world = { world with store := after } ∧ OnlyRuns world.store after ∧
      ∀ run key, Built run key world.store → Built run key after := by
  rw [writeRun, run_on_store, Service.run_transact]
  cases done : world.store.updateWorkflow workflow with
  | error error => exact ⟨world.store, rfl, rfl, fun _ _ built => built⟩
  | ok pair => exact ⟨pair.2, rfl, by rw [update_workflow_ok done]; rfl, fun _ _ built => update_built built done⟩

theorem write_run_polite (start : World ω) (run : WorkflowId)
    (unbuilt : start.store.artifactOfWorkflow run = none) :
    (worldRace (storeRace start.store run unbuilt) start).Polite writeRun := by
  constructor
  · rintro workflow _ ⟨store, rfl, free⟩
    obtain ⟨after, same, only, _⟩ := write_run_writes workflow { start with store }
    exact ⟨after, same, only_runs_trans free only⟩
  · intro workflow key world taken
    obtain ⟨after, same, _, built⟩ := write_run_writes workflow world
    rw [same]
    exact built run key taken
  · intro workflow key world _
    obtain ⟨after, same, only, _⟩ := write_run_writes workflow world
    exact ⟨after, same, only⟩

def EndsAt (start : World ω) (notices : List (Notice ω)) (place : Nat) (standing : Standing (World ω) ArtifactId)
    (answer : Except Error IngestionOutcome) : Prop :=
  ∃ notice, notices[place]? = some notice ∧ Service.Answers (notice.Ends start) Standing.MayFail standing answer

def poolOf (start : World ω) (notices : List (Notice ω)) : Pool (World ω) (Except Error IngestionOutcome) where
  world := start
  flows := notices.map Notice.flow

theorem deliveries_undecided {notices : List (Notice ω)} (orderly : Orderly start.store)
    (room : ∀ notice ∈ notices,
      start.store.artifactCount + (start.store.childrenOf notice.id).length + 1 < Id.capacity)
    (asked : ∀ notice ∈ notices, notice.request.workflowId = some run) :
    (worldRace (storeRace start.store run unbuilt) start).Undecided (EndsAt start notices) (poolOf start notices) := by
  refine ⟨⟨start.store, rfl, rfl⟩, fun place flow here => ?_⟩
  rw [poolOf, List.getElem?_map, Option.map_eq_some_iff] at here
  obtain ⟨notice, there, rfl⟩ := here
  have member : notice ∈ notices := List.mem_of_getElem? there
  have follows : notice.success.Follows (worldRace (storeRace start.store run unbuilt) start).protocol
      (notice.Ends start) Standing.MayFail .racing :=
    delivery_follows orderly (room notice member) (asked notice member)
  exact Flow.follows_weaken (Service.follows_iff_flow.mp follows) fun standing answer holds => ⟨notice, there, holds⟩

end Delivery

structure RecordedBy (start : World ω) (run : WorkflowId) (notice : Notice ω) (outcome : IngestionOutcome)
    (final : World ω) (build : Build) (children : List CiPipeline) : Prop where
  pipeline : start.store.ciPipelines.get? notice.id = some build.pipeline
  childRows : Children start.store notice.id children
  entries : final.store.artifacts.entries =
    start.store.artifacts.entries ++ (build.own :: build.clones).map underId
  fresh : ∀ artifact ∈ build.own :: build.clones, start.store.artifacts.get? artifact.id = none
  own : BuiltFor notice.request build.dataSource build.materialInfo build.pipeline build.own ∧
    build.own.parentId = none ∧ build.own.workflowId = some run
  clones : List.Forall₂ (fun child clone =>
      BuiltFor notice.request build.dataSource build.materialInfo child clone ∧
        clone.parentId = some build.own.id ∧ clone.workflowId = none)
    children build.clones
  others : final.store = { start.store with
    artifacts := final.store.artifacts
    artifactCount := final.store.artifactCount
    workflows := final.store.workflows }
  succeeded : ∃ workflow, final.store.workflows.get? run = some workflow ∧ workflow.status = .succeeded
  triggered : ∃ moments, final.moments = start.moments ++ moments ∧ (internalIds (startedIn moments)).Nodup ∧
    ∀ trigger ∈ startedIn moments, ∃ artifact ∈ build.own :: build.clones, trigger =
      .internal artifact (decide (notice.request.userId ≠ notice.webhook.config.systemUser)) false notice.request.userId
  announced : ∃ event, final.events = start.events ++ [event] ∧ event.kind = .success ∧
    event.artifactId = some build.own.id
  artifactId : outcome.artifactId = build.own.id
  cloneIds : outcome.cloneIds = build.clones.map (·.id)

section Winner

variable {start mine final : World ω} {run : WorkflowId} {notice : Notice ω} {key : ArtifactId}
  {outcome : IngestionOutcome} {before stored : Store} {build : Build}

theorem build_told {engine : Engine ω} {outside : ω} {fanned : FanOutRun ω} {config : CiConfig} {id : CiPipelineId}
    {request : BuildEventRequest} {pushedAt : Option Instant} {now : Instant}
    (room : stored.artifactCount < Id.capacity)
    (records : Records config id request pushedAt now before build stored)
    (fans : engine.fanOut (build.own :: build.clones) (config.triggerMode request.userId) request.userId outside =
      fanned) :
    (internalIds (startedIn fanned.moments)).Nodup ∧
      ∀ trigger ∈ startedIn fanned.moments, ∃ artifact ∈ build.own :: build.clones, trigger =
        .internal artifact (decide (request.userId ≠ config.systemUser)) false request.userId := by
  subst fans
  obtain ⟨left, perm, _⟩ := fan_out_started engine (build.own :: build.clones) (config.triggerMode request.userId)
    request.userId outside
  constructor
  · exact (told_of_perm perm (build_triggers_told room records _ _)).internal
  · intro trigger member
    obtain ⟨artifact, there, rfl⟩ := List.mem_map.mp (perm.subset (List.mem_append_left left member))
    exact ⟨artifact, there, by rw [is_manual_iff]⟩

theorem records_others {after : Store} {config : CiConfig} {id : CiPipelineId} {request : BuildEventRequest}
    {pushedAt : Option Instant} {now : Instant} (free : OnlyRuns start.store before)
    (records : Records config id request pushedAt now before build stored) (whole : OnlyRuns stored after) :
    after = { start.store with
      artifacts := after.artifacts
      artifactCount := after.artifactCount
      workflows := after.workflows } := by
  have artifacts : after.artifacts = stored.artifacts := by rw [whole]
  have count : after.artifactCount = stored.artifactCount := by rw [whole]
  have only := records_only records
  rw [free] at only
  rw [OnlyRuns, only] at whole
  rw [artifacts, count]
  exact whole

theorem winner_records (orderly : Orderly start.store)
    (room : start.store.artifactCount + (start.store.childrenOf notice.id).length + 1 < Id.capacity)
    (asked : notice.request.workflowId = some run) (built : Built run key final.store)
    (aside : OnlyRuns mine.store final.store) (rest : final = { mine with store := final.store })
    (ends : notice.Ends start (.won key mine) outcome) :
    outcome.artifactId = key ∧ ∃ build children, RecordedBy start run notice outcome final build children := by
  obtain ⟨named, before, made, free, ready, kept, same, succeeds⟩ := ends
  refine ⟨named, ?_⟩
  cases succeeds with
  | again other found done _ => exact absurd done (ready _ _ other found)
  | @first build stored fanned records fans =>
      have orderlyBefore : Orderly before := only_runs_orderly free orderly
      obtain ⟨pipeline, pipelineId, _⟩ := records_pipeline orderlyBefore records
      have roomStored : stored.artifactCount < Id.capacity := by
        rw [records_count records, news_length, only_runs_children free, only_runs_count free, pipelineId]
        omega
      have whole : OnlyRuns stored final.store := only_runs_trans kept aside
      obtain ⟨once, told⟩ := build_told roomStored records fans
      refine ⟨build, _,
        { pipeline := ?pipeline
          childRows := children_of orderly notice.id
          entries := ?entries
          fresh := ?fresh
          own := ?own
          clones := ?clones
          others := records_others free records whole
          succeeded := built.succeeded
          triggered := ⟨fanned.moments, ?moments, once, told⟩
          announced := ⟨notice.request.successEvent build.pipeline build.own, ?events, rfl, rfl⟩
          artifactId := rfl
          cloneIds := rfl }⟩
      case pipeline =>
        rw [free] at pipeline
        exact pipeline
      case entries =>
        have entries := records_entries orderlyBefore.artifacts roomStored records
        rw [free] at entries
        rw [whole]
        exact entries
      case fresh =>
        intro artifact member
        have fresh := records_fresh orderlyBefore.artifacts roomStored records member
        rw [free] at fresh
        exact fresh
      case own => exact asked ▸ records_own_built records
      case clones =>
        have clones := records_clones_built records
        rw [only_runs_children free, pipelineId] at clones
        exact clones
      case moments => rw [rest, same]
      case events => rw [rest, same]

end Winner

theorem beaten_answer {start : World ω} {notice : Notice ω} {key : ArtifactId}
    {standing : Standing (World ω) ArtifactId} {answer : Except Error IngestionOutcome}
    (beaten : standing.Beaten key) (holds : Service.Answers (notice.Ends start) Standing.MayFail standing answer) :
    (∃ error, answer = .error error) ∨
      ∃ cloneIds, answer = .ok { artifactId := key, cloneIds, fanOut := {} } := by
  cases answer with
  | error error => exact .inl ⟨error, rfl⟩
  | ok outcome =>
      cases standing with
      | racing => exact holds.elim
      | lost other =>
          obtain ⟨cloneIds, rfl⟩ := holds
          obtain rfl : other = key := beaten
          exact .inr ⟨cloneIds, rfl⟩
      | won other mine => exact beaten.elim

/-- Of successes of one run that are delivered at the same time, in a store where no artifact names the run, at
most one is recorded, however they and the writes of runs take turns. If one is, the run ends as succeeded, and
the artifact and its clones are stored once and triggered at most once. The others never change anything, and
fail or are answered with the artifact that was recorded. -/
theorem one_delivery_recorded (start final : World ω) (run : WorkflowId) (notices : List (Notice ω))
    (turns : List (Turn CiWorkflow)) (answers : List (Except Error IngestionOutcome))
    (reached : Reachable start.store)
    (unbuilt : ∀ artifact ∈ start.store.artifacts.rows, artifact.workflowId ≠ some run)
    (asked : ∀ notice ∈ notices, notice.request.workflowId = some run)
    (room : ∀ notice ∈ notices, ∀ children, Children start.store notice.id children →
      start.store.artifactCount + children.length + 1 < Id.capacity)
    (ended : (poolOf start notices).play writeRun turns = { world := final, flows := answers.map .done }) :
    (∀ place, (poolOf start notices).Silent writeRun turns place ∧
      ∀ answer, answers[place]? = some answer → ∃ error, answer = .error error) ∨
    ∃ winner notice outcome build children, notices[winner]? = some notice ∧
      answers[winner]? = some (.ok outcome) ∧ RecordedBy start run notice outcome final build children ∧
      ∀ place, place ≠ winner → (poolOf start notices).Silent writeRun turns place ∧
        ∀ answer, answers[place]? = some answer → (∃ error, answer = .error error) ∨
          ∃ cloneIds, answer = .ok { artifactId := outcome.artifactId, cloneIds, fanOut := {} } := by
  have orderly : Orderly start.store := reachable_orderly reached
  have fits : ∀ notice ∈ notices,
      start.store.artifactCount + (start.store.childrenOf notice.id).length + 1 < Id.capacity :=
    fun notice member => room notice member _ (children_of orderly notice.id)
  have none : start.store.artifactOfWorkflow run = none := by
    refine List.find?_eq_none.mpr fun artifact member named => ?_
    exact unbuilt artifact member (beq_iff_eq.mp named)
  have undecided : (worldRace (storeRace start.store run none) start).Undecided (EndsAt start notices)
      (poolOf start notices) := deliveries_undecided orderly fits asked
  rcases Race.race_play (write_run_polite start run none) undecided turns with
    ⟨still, silent⟩ | ⟨winner, key, decided, silent⟩
  · rw [ended] at still
    refine .inl fun place => ⟨silent place, fun answer answered => ?_⟩
    obtain ⟨notice, _, holds⟩ := Race.undecided_ends still answered
    cases answer with
    | ok outcome => exact holds.elim
    | error error => exact ⟨error, rfl⟩
  · rw [ended] at decided
    obtain ⟨answer, mine, answered, ⟨store, rest, aside⟩, notice, there, holds⟩ := Race.winner_ends decided
    have member : notice ∈ notices := List.mem_of_getElem? there
    cases answer with
    | error error => exact holds.elim
    | ok outcome =>
        obtain ⟨named, build, children, recorded⟩ := winner_records orderly (fits notice member) (asked notice member)
          decided.taken (rest ▸ aside) (rest ▸ rfl) holds
        refine .inr ⟨winner, notice, outcome, build, children, there, answered, recorded, fun place different => ?_⟩
        refine ⟨silent place different, fun answer answered => ?_⟩
        obtain ⟨standing, beaten, other, _, holds⟩ := Race.beaten_ends decided different answered
        rw [named]
        exact beaten_answer beaten holds

-- Three successes of one run, the second of which is recorded. The first had read that the run goes on, and is
-- refused when it saves; so is a write of the run. The third finds that the run has succeeded.
def sampleNotice : Notice Bool where
  webhook := ({} : Session).webhook
  id := ⟨1⟩
  request := sampleOfRun
  pushedAt := none
  now := Sample.moment

def sampleTurns : List (Turn CiWorkflow) :=
  [.step 0, .step 1, .step 1, .step 1, .aside Sample.workflow, .step 0, .step 0] ++
    List.replicate 4 (.step 1) ++ List.replicate 3 (.step 2)

theorem sample_second_recorded : ∃ (final : World Bool) (refused : Error) (first again : IngestionOutcome),
    (poolOf sampleWorld [sampleNotice, sampleNotice, sampleNotice]).play writeRun sampleTurns =
      { world := final, flows := [.done (.error refused), .done (.ok first), .done (.ok again)] } ∧
    again.artifactId = first.artifactId ∧
    ∃ build children, RecordedBy sampleWorld ⟨1⟩ sampleNotice first final build children ∧
      (build.own :: build.clones).map (·.pipelineId) = [some ⟨1⟩, some ⟨2⟩] := by
  refine ⟨_, _, _, _, rfl, rfl, ?_⟩
  have room : ∀ notice ∈ [sampleNotice, sampleNotice, sampleNotice], ∀ children,
      Children sampleWorld.store notice.id children →
      sampleWorld.store.artifactCount + children.length + 1 < Id.capacity := by
    intro notice member children rows
    obtain rfl : notice = sampleNotice := by simpa using member
    rw [children_unique rows (children_of (reachable_orderly sample_world_reachable) _)]
    decide
  have once := one_delivery_recorded sampleWorld _ ⟨1⟩ [sampleNotice, sampleNotice, sampleNotice] sampleTurns
    [.error _, .ok _, .ok _] sample_world_reachable (by decide) (by decide) room rfl
  rcases once with failed | ⟨winner, notice, outcome, build, children, there, answered, recorded, others⟩
  · obtain ⟨_, wrong⟩ := (failed 1).2 _ rfl
    cases wrong
  · -- The answer of the second tells of triggers, so it is not one of the others.
    by_cases second : winner = 1
    · subst second
      obtain rfl := Option.some.inj there
      obtain rfl := Except.ok.inj (Option.some.inj answered)
      have pipelines := congrArg (List.map fun entry => entry.2.pipelineId) recorded.entries
      rw [List.map_append, List.map_map] at pipelines
      exact ⟨build, children, recorded, pipelines.symm⟩
    · rcases (others 1 (Ne.symm second)).2 _ rfl with ⟨_, wrong⟩ | ⟨_, same⟩
      · cases wrong
      · have attempted : 2 = 0 := congrArg (·.fanOut.attempted) (Except.ok.inj same)
        cases attempted

end Delivery.Webhook
