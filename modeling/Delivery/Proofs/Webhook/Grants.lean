import Delivery.Proofs.FanOut.Coverage
import Delivery.Proofs.Webhook.External
set_option autoImplicit false

namespace Delivery

structure Grant where
  pipeline : CdPipeline
  app : Application
  environment : Environment

namespace Grant

def target (grant : Grant) : DownstreamTarget := .of grant.pipeline grant.app grant.environment

def allowed (token : String) (authorizer : Authorizer) (grant : Grant) : Bool :=
  authorizer token (grant.app.teamName ++ "/" ++ grant.app.appName)
    (grant.environment.identifier ++ "/" ++ grant.app.appName)

def Before (first second : Grant) : Prop :=
  compare first.pipeline.id second.pipeline.id = .lt

end Grant

namespace Store

def grant? (store : Store) (pipeline : CdPipeline) : Option Grant := do
  let app ← store.apps.get? pipeline.appId
  let environment ← store.environments.get? pipeline.environmentId
  return { pipeline, app, environment }

def grantsOf (store : Store) (id : ExternalCiId) : List Grant :=
  let fed := store.cdPipelines.filter fun pipeline => pipeline.externalCiId == some id && !pipeline.deleted
  fed.filterMap store.grant?

structure FeedsPipeline (store : Store) (id : ExternalCiId) (grant : Grant) : Prop where
  pipeline : store.cdPipelines.get? grant.pipeline.id = some grant.pipeline
  live : grant.pipeline.deleted = false
  bound : grant.pipeline.externalCiId = some id
  app : store.apps.get? grant.pipeline.appId = some grant.app
  environment : store.environments.get? grant.pipeline.environmentId = some grant.environment

section Grants

variable {store : Store} {id : ExternalCiId}

theorem grant_found_iff {pipeline : CdPipeline} {grant : Grant} :
    store.grant? pipeline = some grant ↔ grant.pipeline = pipeline ∧
      store.apps.get? pipeline.appId = some grant.app ∧
      store.environments.get? pipeline.environmentId = some grant.environment := by
  rw [grant?]
  constructor
  · intro found
    obtain ⟨app, hasApp, rest⟩ := Option.bind_eq_some_iff.mp found
    obtain ⟨environment, hasEnvironment, same⟩ := Option.bind_eq_some_iff.mp rest
    obtain rfl := Option.some.inj same
    exact ⟨rfl, hasApp, hasEnvironment⟩
  · rintro ⟨rfl, app, environment⟩
    simp [app, environment]

theorem target_of_grant (store : Store) (pipeline : CdPipeline) :
    store.targetOf? pipeline = (store.grant? pipeline).map Grant.target := by
  rw [targetOf?, grant?]
  cases store.apps.get? pipeline.appId with
  | none => rfl
  | some app =>
      cases store.environments.get? pipeline.environmentId with
      | none => rfl
      | some environment => rfl

theorem targets_of_grants (store : Store) (id : ExternalCiId) :
    store.targetsOf id = (store.grantsOf id).map Grant.target := by
  rw [targetsOf, grantsOf, List.map_filterMap]
  apply List.filterMap_congr
  intro pipeline _
  exact target_of_grant store pipeline

theorem mem_grants_of (registered : Registered store) {grant : Grant} :
    grant ∈ store.grantsOf id ↔ store.FeedsPipeline id grant := by
  simp only [grantsOf, List.mem_filterMap, Table.filter, List.mem_filter, mem_rows_own registered.deployments,
    grant_found_iff]
  constructor
  · rintro ⟨pipeline, ⟨found, fed⟩, rfl, app, environment⟩
    simp only [Bool.and_eq_true, beq_iff_eq, Bool.not_eq_true'] at fed
    exact ⟨found, fed.2, fed.1, app, environment⟩
  · intro feeds
    refine ⟨grant.pipeline, ⟨feeds.pipeline, ?_⟩, rfl, feeds.app, feeds.environment⟩
    simp [feeds.bound, feeds.live]

theorem grants_ascending (registered : Registered store) (id : ExternalCiId) :
    (store.grantsOf id).Pairwise Grant.Before := by
  have ascending := (rows_ascending registered.deployments).filter
    fun pipeline => pipeline.externalCiId == some id && !pipeline.deleted
  apply ascending.filterMap
  intro first second before here found other foundOther
  rw [Grant.Before, (grant_found_iff.mp found).1, (grant_found_iff.mp foundOther).1]
  exact before

end Grants

end Store

namespace Engine

variable {targets : List DownstreamTarget} {token : String} {authorizer other : Authorizer}

theorem inquiries_alike
    (agree : ∀ target ∈ targets, isAllowed token other target = isAllowed token authorizer target) :
    inquiries targets token other = inquiries targets token authorizer := by
  apply List.map_congr_left
  intro target member
  have same : other token target.projectResource target.envResource =
    authorizer token target.projectResource target.envResource := agree target member
  rw [same]

theorem fan_out_external_alike {ω : Type}
    (agree : ∀ target ∈ targets, isAllowed token other target = isAllowed token authorizer target)
    (engine : Engine ω) (artifact : Artifact) (user : UserId) :
    engine.fanOutExternal artifact targets token other user =
      engine.fanOutExternal artifact targets token authorizer user := by
  have allowed : targets.filter (isAllowed token other) = targets.filter (isAllowed token authorizer) :=
    List.filter_congr agree
  have denied : (targets.countP fun target => !isAllowed token other target) =
      targets.countP fun target => !isAllowed token authorizer target := by
    apply List.countP_congr
    intro target member
    rw [agree target member]
  funext outside
  rw [fanOutExternal, fanOutExternal, allowed, denied]

end Engine

namespace Webhook

open Store

variable {ω : Type} {webhook : Webhook ω} {id : ExternalCiId} {request : BuildEventRequest} {token : String}
  {authorizer other : Authorizer} {now : Instant} {before : World ω}

def targetTrigger (artifact : Artifact) (user : UserId) (grant : Grant) : Trigger :=
  .external artifact grant.target user

theorem allowed_triggers_of_grants (store : Store) (id : ExternalCiId) (artifact : Artifact) (user : UserId) :
    allowedTriggers artifact (store.targetsOf id) token authorizer user =
      ((store.grantsOf id).filter (Grant.allowed token authorizer)).map (targetTrigger artifact user) := by
  rw [allowedTriggers, targets_of_grants, List.filter_map, List.map_map]
  rfl

theorem denied_of_grants (store : Store) (id : ExternalCiId) :
    ((store.targetsOf id).countP fun target => !Engine.isAllowed token authorizer target) =
      ((store.grantsOf id).filter fun grant => !grant.allowed token authorizer).length := by
  rw [targets_of_grants, List.countP_map, List.countP_eq_length_filter]
  rfl

structure Triggers (webhook : Webhook ω) (id : ExternalCiId) (request : BuildEventRequest) (token : String)
    (authorizer : Authorizer) (store : Store) (outside : ω) (artifact : Artifact) (own : List Moment)
    (report : FanOutReport) (called left denied : List Grant) : Prop where
  accepts : ∀ grant, grant ∈ called ++ left ↔ store.FeedsPipeline id grant ∧ grant.allowed token authorizer = true
  denies : ∀ grant, grant ∈ denied ↔ store.FeedsPipeline id grant ∧ grant.allowed token authorizer = false
  ascending : (called ++ left).Pairwise Grant.Before
  ascendingDenied : denied.Pairwise Grant.Before
  started : (startedIn own).Perm (called.map (targetTrigger artifact request.userId))
  skipped : report.skipped = denied.length
  cancelled : report.cancelled = true ↔ left ≠ []
  stopped : left ≠ [] → webhook.engine.executor.cancelled outside = true

theorem feeds_triggers (registered : Registered before.store) {build : ExternalBuild} {made : Store}
    {run : FanOutRun ω} (feeds : Feeds webhook id request token authorizer now before build made run) :
    ∃ called left denied, Triggers webhook id request token authorizer before.store run.outside build.artifact
      run.moments run.report called left denied := by
  obtain ⟨carried, left, order, carries, report, stopped⟩ := feeds_fed feeds
  rw [external_own registered feeds.records] at order report
  rw [allowed_triggers_of_grants] at order
  rw [denied_of_grants] at report
  obtain ⟨calls, rest, parts, rfl, rfl⟩ := calls_of_carried _ order
  have started := carries.started
  rw [List.map_map] at started
  refine ⟨calls.map (·.1), rest, _, ?_, ?_, ?_, ?_, ?_, congrArg (·.skipped) report, ?_, ?_⟩
  · intro grant
    rw [← parts, List.mem_filter, mem_grants_of registered]
  · intro grant
    rw [List.mem_filter, mem_grants_of registered, Bool.not_eq_true']
  · rw [← parts]
    exact (grants_ascending registered id).filter _
  · exact (grants_ascending registered id).filter _
  · rw [List.map_map]
    exact started
  · simp [report]
  · simpa using stopped

theorem external_build_alike
    (agree : ∀ external, before.store.externalCi? id = some external → ∀ target ∈ before.store.targetsOf external.id,
      Engine.isAllowed token other target = Engine.isAllowed token authorizer target) :
    (webhook.externalBuild id request token other now).run before =
      (webhook.externalBuild id request token authorizer now).run before := by
  rw [externalBuild, externalBuild, Service.run_bind, Service.run_bind, run_on_store]
  cases ran : (recordExternal webhook.config id request now).run before.store with
  | mk recorded made =>
      cases recorded with
      | error error => rfl
      | ok answer =>
          obtain ⟨build, records, rfl⟩ := Service.ends_ok record_external_ends ran
          have same := agree build.external records.external
          dsimp only
          rw [Engine.inquiries_alike same, Engine.fan_out_external_alike same]

theorem external_build_alike_of_grants (registered : Registered before.store)
    (agree : ∀ grant, before.store.FeedsPipeline id grant →
      grant.allowed token other = grant.allowed token authorizer) :
    (webhook.externalBuild id request token other now).run before =
      (webhook.externalBuild id request token authorizer now).run before := by
  apply external_build_alike
  intro external found target member
  rw [externalCi?, Option.filter_eq_some_iff] at found
  rw [registered.externals found.1, targets_of_grants] at member
  obtain ⟨grant, there, rfl⟩ := List.mem_map.mp member
  exact agree grant ((mem_grants_of registered).mp there)

theorem settles_fed (registered : Registered before.store) {answer : Except Error IngestionOutcome} {after : World ω}
    (settles : Settles webhook id request token authorizer now before answer after) :
    (¬ (Active before.store id ∧ Valid webhook.config request) ∧ after = before) ∨
      ∃ artifact, ∃ run : FanOutRun ω, ∃ called left denied, (Active before.store id ∧ Valid webhook.config request) ∧
        after.moments = before.moments ++ run.moments ∧
        Triggers webhook id request token authorizer before.store after.outside artifact run.moments run.report called
          left denied ∧
        (answer = .ok { artifactId := artifact.id, cloneIds := [], fanOut := run.report } ∨
          answer = .error (whyNothing artifact.id id run.report)) := by
  have right : ∀ {build made run}, Feeds webhook id request token authorizer now before build made run →
      Active before.store id ∧ Valid webhook.config request := by
    intro build made run feeds
    exact ⟨active_iff.mpr ⟨_, feeds.records.external⟩, feeds.records.valid⟩
  cases settles with
  | refused wrong => exact .inl ⟨wrong, rfl⟩
  | @kept build made run feeds _ =>
      obtain ⟨called, left, denied, triggers⟩ := feeds_triggers registered feeds
      exact .inr ⟨build.artifact, run, called, left, denied, right feeds, rfl, triggers, .inl rfl⟩
  | @withdrawn build made run feeds _ =>
      obtain ⟨called, left, denied, triggers⟩ := feeds_triggers registered feeds
      exact .inr ⟨build.artifact, run, called, left, denied, right feeds, rfl, triggers, .inr rfl⟩

/-- An external build triggers the deployment pipelines that its source feeds and that the authorizer accepts under
their own names, each once, in their order, and no others. It leaves out the last of them if it finds the signal to
stop, and otherwise none. It skips as many as were denied. An authorizer that says the same of what is fed makes the
same run. -/
theorem external_build_triggers_accepted (webhook : Webhook ω) (id : ExternalCiId) (request : BuildEventRequest)
    (token : String) (authorizer : Authorizer) (now : Instant) (before : World ω) (reached : Reachable before.store) :
    ∃ answer after own, (webhook.externalBuild id request token authorizer now).run before = (answer, after) ∧
      after.moments = before.moments ++ own ∧
      (¬ (Active before.store id ∧ Valid webhook.config request) → own = []) ∧
      (Active before.store id ∧ Valid webhook.config request → ∃ artifact report called left denied,
        Triggers webhook id request token authorizer before.store after.outside artifact own report called left denied ∧
        (answer = .ok { artifactId := artifact.id, cloneIds := [], fanOut := report } ∨
          answer = .error (whyNothing artifact.id id report))) ∧
      ∀ other : Authorizer,
        (∀ grant, before.store.FeedsPipeline id grant →
          grant.allowed token other = grant.allowed token authorizer) →
        (webhook.externalBuild id request token other now).run before = (answer, after) := by
  have registered : Registered before.store := reachable_registered reached
  cases ran : (webhook.externalBuild id request token authorizer now).run before with
  | mk answer after =>
      have alike : ∀ other : Authorizer,
          (∀ grant, before.store.FeedsPipeline id grant →
            grant.allowed token other = grant.allowed token authorizer) →
          (webhook.externalBuild id request token other now).run before = (answer, after) := by
        intro other agree
        exact (external_build_alike_of_grants registered agree).trans ran
      rcases settles_fed registered (external_build_settles ran) with
        ⟨wrong, rfl⟩ | ⟨artifact, run, called, left, denied, right, moments, triggers, answered⟩
      · refine ⟨answer, after, [], rfl, (List.append_nil _).symm, fun _ => rfl, ?_, alike⟩
        intro right
        exact absurd right wrong
      · refine ⟨answer, after, run.moments, rfl, moments, ?_, ?_, alike⟩
        · intro wrong
          exact absurd right wrong
        · intro _
          exact ⟨artifact, run.report, called, left, denied, triggers, answered⟩

def sampleDevAndProd : World Bool where
  store := (sampleSource.store.putEnvironment (Fixtures.environment ⟨11⟩ "prod")).putCdPipeline
    { Sample.cdPipeline with id := ⟨102⟩, environmentId := ⟨11⟩, externalCiId := some ⟨5⟩ }
  outside := false

theorem sample_dev_and_prod_reachable : Reachable sampleDevAndProd.store :=
  .step (.step sample_source_reachable (.putEnvironment _)) (.putCdPipeline _)

def devOnly : Authorizer := .allowEnvs [.string "dev/demo-app"]

def devOfPlatform : Authorizer := fun _ project env => project == "platform/demo-app" && env == "dev/demo-app"

theorem sample_dev_triggered : ∃ answer after own artifact report called left denied,
    (({} : Session).webhook.externalBuild ⟨5⟩ Sample.buildRequest "token" devOnly Sample.moment).run sampleDevAndProd =
      (answer, after) ∧
    Triggers ({} : Session).webhook ⟨5⟩ Sample.buildRequest "token" devOnly sampleDevAndProd.store after.outside artifact
      own report called left denied ∧
    (startedIn own).length = 2 ∧
    (({} : Session).webhook.externalBuild ⟨5⟩ Sample.buildRequest "token" devOfPlatform Sample.moment).run
      sampleDevAndProd = (answer, after) := by
  obtain ⟨answer, after, own, ran, added, _, triggered, alike⟩ := external_build_triggers_accepted
    ({} : Session).webhook ⟨5⟩ Sample.buildRequest "token" devOnly Sample.moment sampleDevAndProd
    sample_dev_and_prod_reachable
  have active : Active sampleDevAndProd.store ⟨5⟩ := ⟨Sample.externalCi, rfl, rfl⟩
  have valid : Valid ({} : Session).webhook.config Sample.buildRequest := ⟨⟨_, rfl⟩, ⟨_, rfl⟩, by decide, by decide⟩
  obtain ⟨artifact, report, called, left, denied, triggers, _⟩ := triggered ⟨active, valid⟩
  have both : ∀ grant ∈ sampleDevAndProd.store.grantsOf ⟨5⟩,
      grant.allowed "token" devOfPlatform = grant.allowed "token" devOnly := by
    decide
  refine ⟨answer, after, own, artifact, report, called, left, denied, ran, triggers, ?_, alike _ ?_⟩
  · obtain ⟨rfl, rfl⟩ := Prod.mk.inj ran
    obtain rfl : _ = own := added
    rfl
  · intro grant feeds
    exact both grant ((mem_grants_of (reachable_registered sample_dev_and_prod_reachable)).mpr feeds)

end Webhook

end Delivery
