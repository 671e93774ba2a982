import Delivery.Proofs.FanOut.Reports
import Delivery.Proofs.Store.Reachable
import Delivery.Proofs.Webhook.Recording
import Delivery.Rehearsal.Session
set_option autoImplicit false

namespace Delivery.Webhook

open Store

variable {ω : Type}

def Active (store : Store) (id : ExternalCiId) : Prop :=
  ∃ external, store.externalCis.get? id = some external ∧ external.active = true

structure Valid (config : CiConfig) (request : BuildEventRequest) : Prop where
  dataSource : ∃ source, config.dataSource request.dataSource = .ok source
  materialInfo : ∃ text, request.provenance = .ok text
  image : Text.isBlankText request.image = false
  imageDigest : Text.isBlankText request.imageDigest = false

structure ExternalBuild where
  external : ExternalCiPipeline
  dataSource : DataSource
  materialInfo : String
  artifact : Artifact

structure RecordsExternal (config : CiConfig) (id : ExternalCiId) (request : BuildEventRequest) (now : Instant)
    (before : Store) (build : ExternalBuild) (after : Store) : Prop where
  external : before.externalCi? id = some build.external
  valid : Valid config request
  stored : before.insertArtifact
      (request.externalArtifact build.external.id build.dataSource build.materialInfo now) = (build.artifact, after)

section Record

variable {config : CiConfig} {id : ExternalCiId} {request : BuildEventRequest} {now : Instant}
  {before after : Store} {build : ExternalBuild}

theorem active_iff : Active before id ↔ ∃ external, before.externalCi? id = some external := by
  simp only [Active, externalCi?, Option.filter_eq_some_iff]

theorem external_own (registered : Registered before)
    (records : RecordsExternal config id request now before build after) : build.external.id = id := by
  have found := records.external
  rw [externalCi?, Option.filter_eq_some_iff] at found
  exact registered.externals found.1

theorem records_external_parts (registered : Registered before)
    (records : RecordsExternal config id request now before build after) :
    build.artifact = (request.externalArtifact id build.dataSource build.materialInfo now).stored
        (Id.nth before.artifactCount) ∧
      after = { before with
        artifacts := before.artifacts.insert build.artifact.id build.artifact
        artifactCount := before.artifactCount + 1 } := by
  have stored := records.stored
  rw [external_own registered records] at stored
  obtain ⟨row, rfl⟩ := Prod.mk.inj stored
  rw [← row]
  exact ⟨rfl, rfl⟩

theorem record_external_ends : (recordExternal config id request now).Ends before
    (fun answer after => ∃ build, RecordsExternal config id request now before build after ∧
      answer = (build.artifact, before.targetsOf build.external.id))
    (fun _ after => after = before ∧ ¬ (Active before id ∧ Valid config request)) := by
  refine Service.ends_bind (Service.ends_require (fun external found => ?_) fun absent => ⟨rfl, ?_⟩)
  · refine Service.ends_bind (Service.ends_of_except (fun dataSource source => ?_) fun error wrong => ⟨rfl, ?_⟩)
    · refine Service.ends_bind (Service.ends_of_except (fun materialInfo provenance => ?_) fun error wrong => ⟨rfl, ?_⟩)
      · refine Service.ends_bind (Service.ends_transact (fun row after done => ?_) fun error refused => ⟨rfl, ?_⟩)
        · obtain ⟨checked, inserted⟩ := save_artifact_ok done
          obtain ⟨image, imageDigest⟩ := check_ok_iff.mp checked
          have valid : Valid config request := ⟨⟨dataSource, source⟩, ⟨materialInfo, provenance⟩, image, imageDigest⟩
          -- The targets are looked up after the artifact is stored, which touches none of their tables.
          have targets : after.targetsOf external.id = before.targetsOf external.id := by
            obtain ⟨_, rfl⟩ := Prod.mk.inj inserted
            rfl
          refine Service.ends_bind (Service.ends_look (Service.ends_pure ?_))
          rw [targets]
          exact ⟨⟨external, dataSource, materialInfo, row⟩, ⟨found, valid, inserted⟩, rfl⟩
        · rintro ⟨_, valid⟩
          cases refused.symm.trans (save_artifact_right (check_ok_iff.mpr ⟨valid.image, valid.imageDigest⟩))
      · rintro ⟨_, valid⟩
        obtain ⟨text, right⟩ := valid.materialInfo
        cases wrong.symm.trans right
    · rintro ⟨_, valid⟩
      obtain ⟨source, right⟩ := valid.dataSource
      cases wrong.symm.trans right
  · rintro ⟨active, _⟩
    obtain ⟨external, found⟩ := active_iff.mp active
    cases absent.symm.trans found

end Record

def allowedTriggers (artifact : Artifact) (targets : List DownstreamTarget) (token : String) (authorizer : Authorizer)
    (user : UserId) : List Trigger :=
  (targets.filter (Engine.isAllowed token authorizer)).map fun target => .external artifact target user

section Settle

variable (webhook : Webhook ω) (id : ExternalCiId) (request : BuildEventRequest) (token : String)
  (authorizer : Authorizer) (now : Instant) (before : World ω)

def fannedOut (build : ExternalBuild) (store : Store) (run : FanOutRun ω) : World ω :=
  { before with
    store
    outside := run.outside
    moments := before.moments ++ run.moments
    inquiries := before.inquiries ++
      Engine.inquiries (before.store.targetsOf build.external.id) token authorizer }

structure Feeds (build : ExternalBuild) (made : Store) (run : FanOutRun ω) : Prop where
  records : RecordsExternal webhook.config id request now before.store build made
  recorded : (recordExternal webhook.config id request now).run before.store =
    (.ok (build.artifact, before.store.targetsOf build.external.id), made)
  run : webhook.engine.fanOutExternal build.artifact (before.store.targetsOf build.external.id) token authorizer
    request.userId before.outside = run

inductive Settles : Except Error IngestionOutcome → World ω → Prop where
  | refused {error : Error} (wrong : ¬ (Active before.store id ∧ Valid webhook.config request)) :
      Settles (.error error) before
  | kept {build : ExternalBuild} {made : Store} {run : FanOutRun ω}
      (feeds : Feeds webhook id request token authorizer now before build made run)
      (some : run.report.triggeredAny = true) :
      Settles (.ok { artifactId := build.artifact.id, cloneIds := [], fanOut := run.report })
        (fannedOut token authorizer before build made run)
  | withdrawn {build : ExternalBuild} {made : Store} {run : FanOutRun ω}
      (feeds : Feeds webhook id request token authorizer now before build made run)
      (none : run.report.triggeredAny = false) :
      Settles (.error (whyNothing build.artifact.id id run.report))
        (fannedOut token authorizer before build
          { made with artifacts := made.artifacts.erase build.artifact.id } run)

theorem external_build_ends : (webhook.externalBuild id request token authorizer now).Ends before
    (fun outcome after => Settles webhook id request token authorizer now before (.ok outcome) after)
    (fun error after => Settles webhook id request token authorizer now before (.error error) after) := by
  refine Service.ends_bind (ends_on_store (Service.ends_weaken (Service.ends_with_run record_external_ends) ?_ ?_))
  · rintro _ made ⟨recorded, build, records, rfl⟩
    refine Service.ends_bind (Service.ends_act ?_)
    refine Service.ends_bind (Service.ends_act ?_)
    split
    next some => exact Service.ends_pure (.kept ⟨records, recorded, rfl⟩ some)
    next none =>
      refine Service.ends_bind (ends_on_store (Service.ends_transact (fun _ after deleted => ?_) fun error refused => ?_))
      · obtain rfl := delete_artifact_ok deleted
        exact Service.ends_throw (.withdrawn ⟨records, recorded, rfl⟩ (Bool.not_eq_true _ ▸ none))
      · -- The artifact was stored just before, so it can be deleted.
        rw [delete_artifact_right (inserted_found records.stored)] at refused
        cases refused
  · rintro error _ ⟨_, rfl, wrong⟩
    exact .refused wrong

variable {webhook id request token authorizer now before} in
theorem external_build_settles {answer : Except Error IngestionOutcome} {after : World ω}
    (answered : (webhook.externalBuild id request token authorizer now).run before = (answer, after)) :
    Settles webhook id request token authorizer now before answer after :=
  Service.ends_answer (external_build_ends webhook id request token authorizer now before) answered
    (fun _ _ settles => settles) fun _ _ settles => settles

end Settle

section Feed

variable {webhook : Webhook ω} {id : ExternalCiId} {request : BuildEventRequest} {token : String}
  {authorizer : Authorizer} {now : Instant} {before : World ω} {build : ExternalBuild} {made : Store}
  {run : FanOutRun ω}

structure Fed (engine : Engine ω) (allowed : List Trigger) (denied : Nat) (outside : ω) (run : FanOutRun ω)
    (carried : List Carried) (left : List Trigger) : Prop where
  order : allowed = carried.map (·.1) ++ left
  carries : engine.executor.Carries outside run.moments carried run.outside
  report : run.report = {
    attempted := carried.length
    succeeded := carried.countP isSuccess
    skipped := denied
    failures := carried.filterMap errorOf
    cancelled := !left.isEmpty }
  stopped : left ≠ [] → engine.executor.cancelled run.outside = true

theorem feeds_fed (feeds : Feeds webhook id request token authorizer now before build made run) :
    let targets := before.store.targetsOf build.external.id
    ∃ carried left, Fed webhook.engine (allowedTriggers build.artifact targets token authorizer request.userId)
      (targets.countP fun target => !Engine.isAllowed token authorizer target) before.outside run carried left := by
  obtain rfl := feeds.run
  obtain ⟨carried, left, order, ⟨moments, added, carries⟩, report, stopped⟩ :=
    webhook.engine.run_triggers_fan_out _ _ before.outside
  refine ⟨carried, left, order, ?_, ?_, stopped⟩
  · rw [List.nil_append] at added
    rw [← added] at carries
    exact carries
  · refine report.trans ?_
    simp only [FanOutReport.including, Nat.zero_add, List.nil_append, Bool.false_or]

theorem fed_triggered_any {engine : Engine ω} {allowed : List Trigger} {denied : Nat} {outside : ω}
    {carried : List Carried} {left : List Trigger} (fed : Fed engine allowed denied outside run carried left) :
    run.report.triggeredAny = true ↔
      ∃ trigger, (trigger, Outcome.succeeded) ∈ (engine.executor.play run.moments outside).1 := by
  have same : (∃ trigger, (trigger, Outcome.succeeded) ∈ (engine.executor.play run.moments outside).1) ↔
      ∃ trigger, (trigger, Outcome.succeeded) ∈ carried :=
    exists_congr fun trigger => fed.carries.played.mem_iff
  rw [same, ← some_succeeded_iff, fed.report]
  exact decide_eq_true_iff

-- Why an external build triggered nothing. Each reason excludes those after it.
inductive Unfed (engine : Engine ω) (id : ExternalCiId) (artifact : ArtifactId) (targets : List DownstreamTarget)
    (allowed : List Trigger) (calls : List Carried) (outside : ω) : Error → Prop where
  | stopped (signal : engine.executor.cancelled outside = true) (fewer : calls.length < allowed.length) :
      Unfed engine id artifact targets allowed calls outside (.trigger (.cancelled artifact))
  | failed {carried : List Carried} (every : carried.map (·.1) = allowed) (called : calls.Perm carried)
      (some : carried.filterMap errorOf ≠ []) :
      Unfed engine id artifact targets allowed calls outside
        (.partialFanOut { failures := carried.filterMap errorOf, succeeded := 0, triggeredAny := false })
  | denied (none : allowed = []) (some : targets ≠ []) :
      Unfed engine id artifact targets allowed calls outside
        (.authorization (.denied ("external ci " ++ id.text ++ " downstream pipelines")))
  | noTarget (none : targets = []) :
      Unfed engine id artifact targets allowed calls outside (.notFound .cdPipeline 0)

theorem unfed_why {engine : Engine ω} {artifact : Artifact} {targets : List DownstreamTarget} {outside : ω}
    {carried : List Carried} {left : List Trigger}
    (fed : Fed engine (allowedTriggers artifact targets token authorizer request.userId)
      (targets.countP fun target => !Engine.isAllowed token authorizer target) outside run carried left)
    (none : run.report.triggeredAny = false) :
    Unfed engine id artifact.id targets (allowedTriggers artifact targets token authorizer request.userId)
      (engine.executor.play run.moments outside).1 run.outside (whyNothing artifact.id id run.report) := by
  obtain ⟨order, carries, report, stopped⟩ := fed
  have noneSucceeded : carried.countP isSuccess = 0 := by
    rw [report] at none
    exact Nat.eq_zero_of_not_pos (of_decide_eq_false none)
  rw [whyNothing, report]
  cases left with
  | cons next later =>
      refine .stopped (stopped (List.cons_ne_nil _ _)) ?_
      rw [order, carries.played.length_eq, List.length_append, List.length_map, List.length_cons]
      omega
  | nil =>
      rw [List.append_nil] at order
      by_cases failures : carried.filterMap errorOf = []
      · have noCalls : carried = [] := none_carried noneSucceeded failures
        rw [noCalls] at order
        have noneAllowed : targets.filter (Engine.isAllowed token authorizer) = [] := List.map_eq_nil_iff.mp order
        simp only [noCalls, FanOutReport.failure?, List.filterMap_nil, List.isEmpty_nil, if_true, Bool.not_true,
          Bool.false_eq_true, if_false]
        split
        next skipped =>
          refine .denied order ?_
          rintro rfl
          exact absurd skipped (Nat.lt_irrefl 0)
        next skipped =>
          refine .noTarget (List.eq_nil_iff_forall_not_mem.mpr fun target member => ?_)
          refine skipped (List.countP_pos_iff.mpr ⟨target, member, ?_⟩)
          simpa using List.filter_eq_nil_iff.mp noneAllowed target member
      · have some : (carried.filterMap errorOf).isEmpty = false := List.isEmpty_eq_false_iff.mpr failures
        simp only [FanOutReport.failure?, FanOutReport.triggeredAny, noneSucceeded, some]
        exact .failed order.symm carries.played failures

theorem fed_calls {engine : Engine ω} {artifact : Artifact} {targets : List DownstreamTarget} {denied : Nat}
    {outside : ω} {carried : List Carried} {left : List Trigger}
    (fed : Fed engine (allowedTriggers artifact targets token authorizer request.userId) denied outside run carried left)
    {call : Carried} (member : call ∈ (engine.executor.play run.moments outside).1) :
    ∃ target, call.1 = .external artifact target request.userId := by
  have allowed : call.1 ∈ allowedTriggers artifact targets token authorizer request.userId := by
    rw [fed.order]
    exact List.mem_append_left _ (List.mem_map_of_mem (fed.carries.played.mem_iff.mp member))
  obtain ⟨target, _, same⟩ := List.mem_map.mp allowed
  exact ⟨target, same.symm⟩

end Feed

structure AllOrNothing (webhook : Webhook ω) (id : ExternalCiId) (request : BuildEventRequest) (token : String)
    (authorizer : Authorizer) (before : World ω) (calls : List Carried) (answer : Except Error IngestionOutcome)
    (after : World ω) : Prop where
  called : ∀ call ∈ calls, ∃ artifact target, call.1 = .external artifact target request.userId
  answered : (∃ outcome, answer = .ok outcome) ↔
    Active before.store id ∧ Valid webhook.config request ∧ ∃ trigger, (trigger, Outcome.succeeded) ∈ calls
  kept : ∀ outcome, answer = .ok outcome → ∃ artifact : Artifact,
    artifact.id = outcome.artifactId ∧ artifact.externalCiId = some id ∧ artifact.pipelineId = none ∧
    before.store.artifacts.get? artifact.id = none ∧
    after.store = { before.store with
      artifacts := before.store.artifacts.insert artifact.id artifact
      artifactCount := before.store.artifactCount + 1 }
  withdrawn : ∀ error, answer = .error error →
    after.store = { before.store with artifactCount := after.store.artifactCount }
  why : ∀ error, answer = .error error → Active before.store id → Valid webhook.config request →
    ∃ artifact : Artifact, artifact.id = Id.nth before.store.artifactCount ∧ artifact.externalCiId = some id ∧
      Unfed webhook.engine id artifact.id (before.store.targetsOf id)
        (allowedTriggers artifact (before.store.targetsOf id) token authorizer request.userId) calls after.outside error

section Settled

variable {webhook : Webhook ω} {id : ExternalCiId} {request : BuildEventRequest} {token : String}
  {authorizer : Authorizer} {now : Instant} {before : World ω} {build : ExternalBuild} {made : Store}
  {run : FanOutRun ω}

theorem refused_all_or_nothing (error : Error) (wrong : ¬ (Active before.store id ∧ Valid webhook.config request)) :
    AllOrNothing webhook id request token authorizer before [] (.error error) before where
  called := List.forall_mem_nil _
  answered := iff_of_false nofun fun right => wrong ⟨right.1, right.2.1⟩
  kept := nofun
  withdrawn := fun _ _ => rfl
  why := fun _ _ active valid => absurd ⟨active, valid⟩ wrong

theorem kept_all_or_nothing (registered : Registered before.store) (filed : ArtifactsFiled before.store)
    (room : before.store.artifactCount + 1 < Id.capacity)
    (feeds : Feeds webhook id request token authorizer now before build made run)
    (some : run.report.triggeredAny = true) :
    AllOrNothing webhook id request token authorizer before
      (webhook.engine.executor.play run.moments before.outside).1
      (.ok { artifactId := build.artifact.id, cloneIds := [], fanOut := run.report })
      (fannedOut token authorizer before build made run) := by
  obtain ⟨carried, left, fed⟩ := feeds_fed feeds
  obtain ⟨artifact, stored⟩ := records_external_parts registered feeds.records
  have active : Active before.store id := active_iff.mpr ⟨_, feeds.records.external⟩
  refine ⟨fun call member => ⟨build.artifact, fed_calls fed member⟩, ?_, ?_, fun _ wrong => ?_, fun _ wrong => ?_⟩
  · exact iff_of_true ⟨_, rfl⟩ ⟨active, feeds.records.valid, (fed_triggered_any fed).mp some⟩
  · rintro _ ⟨⟩
    refine ⟨build.artifact, rfl, ?_, ?_, ?_, stored⟩
    · rw [artifact]
      rfl
    · rw [artifact]
      rfl
    · rw [artifact]
      exact later_missing filed (Nat.le_refl _) room
  · cases wrong
  · cases wrong

theorem withdrawn_all_or_nothing (registered : Registered before.store) (filed : ArtifactsFiled before.store)
    (room : before.store.artifactCount + 1 < Id.capacity)
    (feeds : Feeds webhook id request token authorizer now before build made run)
    (none : run.report.triggeredAny = false) :
    AllOrNothing webhook id request token authorizer before
      (webhook.engine.executor.play run.moments before.outside).1
      (.error (whyNothing build.artifact.id id run.report))
      (fannedOut token authorizer before build
        { made with artifacts := made.artifacts.erase build.artifact.id } run) := by
  obtain ⟨carried, left, fed⟩ := feeds_fed feeds
  obtain ⟨artifact, stored⟩ := records_external_parts registered feeds.records
  refine ⟨fun call member => ⟨build.artifact, fed_calls fed member⟩, ?_, nofun, ?_, ?_⟩
  · refine iff_of_false nofun fun right => ?_
    rw [(fed_triggered_any fed).mpr right.2.2] at none
    cases none
  · rintro _ ⟨⟩
    have count : made.artifactCount = before.store.artifactCount + 1 := congrArg (·.artifactCount) stored
    refine (erase_inserted filed room feeds.records.stored).trans ?_
    exact congrArg (fun count => { before.store with artifactCount := count }) count.symm
  · rintro _ ⟨⟩ _ _
    rw [external_own registered feeds.records] at fed
    refine ⟨build.artifact, ?_, ?_, unfed_why fed none⟩
    · rw [artifact]
      rfl
    · rw [artifact]
      rfl

end Settled

/-- An external build is answered just when its source is active, its request is valid and a trigger of it succeeded.
Only then is its artifact kept; otherwise the tables are as before, and the error is the first reason that applies. -/
theorem external_build_all_or_nothing (webhook : Webhook ω) (id : ExternalCiId) (request : BuildEventRequest)
    (token : String) (authorizer : Authorizer) (now : Instant) (before : World ω) (reached : Reachable before.store)
    (room : before.store.artifactCount + 1 < Id.capacity) :
    ∃ answer after moments, (webhook.externalBuild id request token authorizer now).run before = (answer, after) ∧
      after.moments = before.moments ++ moments ∧
      AllOrNothing webhook id request token authorizer before
        (webhook.engine.executor.play moments before.outside).1 answer after := by
  have filed : ArtifactsFiled before.store := (reachable_orderly reached).artifacts
  have registered : Registered before.store := reachable_registered reached
  cases ran : (webhook.externalBuild id request token authorizer now).run before with
  | mk answer after =>
      refine ⟨answer, after, ?_⟩
      cases external_build_settles ran with
      | refused wrong => exact ⟨[], rfl, (List.append_nil _).symm, refused_all_or_nothing _ wrong⟩
      | kept feeds some => exact ⟨_, rfl, rfl, kept_all_or_nothing registered filed room feeds some⟩
      | withdrawn feeds none => exact ⟨_, rfl, rfl, withdrawn_all_or_nothing registered filed room feeds none⟩

def sampleSource : World Bool where
  store :=
    let fed := { Sample.cdPipeline with externalCiId := some ⟨5⟩ }
    Store.empty
      |>.putApp Sample.application
      |>.putEnvironment Sample.environment
      |>.putExternalCi Sample.externalCi
      |>.putCdPipeline fed
      |>.putCdPipeline { fed with id := ⟨101⟩ }
  outside := false

def sampleFailing : Session :=
  { script := { failCd := [⟨100⟩], panicOn := [101] } }

theorem sample_source_reachable : Reachable sampleSource.store :=
  .step (.step (.step (.step (.step .empty (.putApp _)) (.putEnvironment _)) (.putExternalCi _)) (.putCdPipeline _))
    (.putCdPipeline _)

theorem sample_external_withdrawn : ∃ failure after,
    (sampleFailing.webhook.externalBuild ⟨5⟩ Sample.buildRequest "token" Authorizer.allowAll Sample.moment).run
      sampleSource = (.error (.partialFanOut failure), after) ∧
    failure.failures.length = 2 ∧
    after.store = { sampleSource.store with artifactCount := after.store.artifactCount } := by
  obtain ⟨answer, after, moments, ran, _, all⟩ := external_build_all_or_nothing sampleFailing.webhook ⟨5⟩
    Sample.buildRequest "token" Authorizer.allowAll Sample.moment sampleSource sample_source_reachable (by decide)
  obtain ⟨rfl, rfl⟩ := Prod.mk.inj ran
  exact ⟨_, _, rfl, rfl, all.withdrawn _ rfl⟩

end Delivery.Webhook
