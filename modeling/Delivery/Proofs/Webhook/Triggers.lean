import Delivery.Proofs.Webhook.Calls
import Delivery.Proofs.Webhook.Success
import Mathlib.Data.List.Nodup
set_option autoImplicit false

namespace Delivery

namespace Trigger

def internalId? : Trigger → Option ArtifactId
  | .internal artifact _ _ _ => some artifact.id
  | .external _ _ _ => none

def externalKey? : Trigger → Option (ArtifactId × CdPipelineId)
  | .internal _ _ _ _ => none
  | .external artifact target _ => some (artifact.id, target.cdPipelineId)

theorem internal_id_artifact {trigger : Trigger} {id : ArtifactId} (named : trigger.internalId? = some id) :
    trigger.artifact.id = id := by
  cases trigger with
  | internal artifact isManual isAsync user => exact Option.some.inj named
  | external artifact target user => cases named

theorem external_key_artifact {trigger : Trigger} {key : ArtifactId × CdPipelineId}
    (named : trigger.externalKey? = some key) : trigger.artifact.id = key.1 := by
  cases trigger with
  | internal artifact isManual isAsync user => cases named
  | external artifact target user => exact congrArg Prod.fst (Option.some.inj named)

end Trigger

def internalIds (triggers : List Trigger) : List ArtifactId :=
  triggers.filterMap Trigger.internalId?

def externalKeys (triggers : List Trigger) : List (ArtifactId × CdPipelineId) :=
  triggers.filterMap Trigger.externalKey?

theorem internal_ids_append (first second : List Trigger) :
    internalIds (first ++ second) = internalIds first ++ internalIds second :=
  List.filterMap_append

theorem external_keys_append (first second : List Trigger) :
    externalKeys (first ++ second) = externalKeys first ++ externalKeys second :=
  List.filterMap_append

theorem internal_ids_perm {first second : List Trigger} (perm : first.Perm second) :
    (internalIds first).Perm (internalIds second) :=
  perm.filterMap _

theorem external_keys_perm {first second : List Trigger} (perm : first.Perm second) :
    (externalKeys first).Perm (externalKeys second) :=
  perm.filterMap _

namespace Webhook

open Store

variable {ω : Type}

-- Triggers of artifacts with numbers from `low` on and below `high`, none of them told twice.
structure ToldOnce (low high : Nat) (triggers : List Trigger) : Prop where
  given : ∀ trigger ∈ triggers, GivenWithin low high trigger.artifact.id
  internal : (internalIds triggers).Nodup
  external : (externalKeys triggers).Nodup

section Told

variable {low middle high : Nat} {first second triggers : List Trigger}

theorem told_none (low high : Nat) : ToldOnce low high [] :=
  ⟨List.forall_mem_nil _, List.nodup_nil, List.nodup_nil⟩

theorem given_apart {left right : ArtifactId} (before : GivenWithin low middle left)
    (after : GivenWithin middle high right) (room : high < Id.capacity) : left ≠ right := by
  obtain ⟨place, _, most, rfl⟩ := before
  exact (given_after after room most).symm

theorem internal_given (told : ∀ trigger ∈ triggers, GivenWithin low high trigger.artifact.id) {id : ArtifactId}
    (member : id ∈ internalIds triggers) : GivenWithin low high id := by
  obtain ⟨trigger, there, named⟩ := List.mem_filterMap.mp member
  exact Trigger.internal_id_artifact named ▸ told trigger there

theorem external_given (told : ∀ trigger ∈ triggers, GivenWithin low high trigger.artifact.id)
    {key : ArtifactId × CdPipelineId} (member : key ∈ externalKeys triggers) : GivenWithin low high key.1 := by
  obtain ⟨trigger, there, named⟩ := List.mem_filterMap.mp member
  exact Trigger.external_key_artifact named ▸ told trigger there

theorem told_append (left : ToldOnce low middle first) (right : ToldOnce middle high second) (lower : low ≤ middle)
    (upper : middle ≤ high) (room : high < Id.capacity) : ToldOnce low high (first ++ second) := by
  refine ⟨fun trigger member => ?_, ?_, ?_⟩
  · rcases List.mem_append.mp member with old | new
    · exact given_within_mono (Nat.le_refl _) upper (left.given trigger old)
    · exact given_within_mono lower (Nat.le_refl _) (right.given trigger new)
  · rw [internal_ids_append]
    refine List.nodup_append.mpr ⟨left.internal, right.internal, fun id old other new => ?_⟩
    exact given_apart (internal_given left.given old) (internal_given right.given new) room
  · rw [external_keys_append]
    refine List.nodup_append.mpr ⟨left.external, right.external, fun key old other new same => ?_⟩
    refine given_apart (external_given left.given old) (external_given right.given new) room ?_
    rw [same]

theorem told_of_perm {started left : List Trigger} (perm : (started ++ left).Perm triggers)
    (told : ToldOnce low high triggers) : ToldOnce low high started := by
  have internal := (internal_ids_perm perm).nodup_iff.mpr told.internal
  have external := (external_keys_perm perm).nodup_iff.mpr told.external
  rw [internal_ids_append] at internal
  rw [external_keys_append] at external
  refine ⟨fun trigger member => ?_, (List.nodup_append.mp internal).1, (List.nodup_append.mp external).1⟩
  exact told.given trigger (perm.subset (List.mem_append_left left member))

structure Alike (low high : Nat) (own all : List Trigger) : Prop where
  internal : ∀ id, GivenWithin low high id → (internalIds all).count id = (internalIds own).count id
  external : ∀ key ∈ externalKeys all, GivenWithin low high key.1 → key ∈ externalKeys own

theorem alike_between {start low high last : Nat} {earlier own later : List Trigger}
    (before : ∀ trigger ∈ earlier, GivenWithin start low trigger.artifact.id)
    (after : ∀ trigger ∈ later, GivenWithin high last trigger.artifact.id) (upper : high ≤ last)
    (room : last < Id.capacity) : Alike low high own (earlier ++ (own ++ later)) := by
  constructor
  · intro id given
    have notEarlier : (internalIds earlier).count id = 0 := List.count_eq_zero.mpr fun member =>
      given_apart (internal_given before member) given (Nat.lt_of_le_of_lt upper room) rfl
    have notLater : (internalIds later).count id = 0 := List.count_eq_zero.mpr fun member =>
      given_apart given (internal_given after member) room rfl
    rw [internal_ids_append, internal_ids_append, List.count_append, List.count_append, notEarlier, notLater,
      Nat.zero_add, Nat.add_zero]
  · intro key member given
    rw [external_keys_append, external_keys_append] at member
    rcases List.mem_append.mp member with old | rest
    · exact absurd rfl (given_apart (external_given before old) given (Nat.lt_of_le_of_lt upper room))
    · rcases List.mem_append.mp rest with here | new
      · exact here
      · exact absurd rfl (given_apart given (external_given after new) room)

end Told

def Added (before after : Store) (artifact : Artifact) : Prop :=
  before.artifacts.get? artifact.id = none ∧ after.artifacts.get? artifact.id = some artifact

section Success

variable {config : CiConfig} {id : CiPipelineId} {request : BuildEventRequest} {pushedAt : Option Instant}
  {now : Instant} {before after : Store} {build : Build} {artifact : Artifact}

theorem not_added (store : Store) : ¬ Added store store artifact := by
  rintro ⟨absent, there⟩
  cases absent.symm.trans there

theorem records_added_iff (filed : ArtifactsFiled before) (room : after.artifactCount < Id.capacity)
    (records : Records config id request pushedAt now before build after) :
    Added before after artifact ↔ artifact ∈ build.own :: build.clones := by
  have entries := records_entries filed room records
  constructor
  · rintro ⟨absent, there⟩
    have member : (artifact.id, artifact) ∈ after.artifacts.entries := Entries.mem_of_find there
    rw [entries] at member
    rcases List.mem_append.mp member with old | new
    · cases absent.symm.trans (Entries.find_of_mem before.artifacts.sorted old)
    · obtain ⟨row, made, same⟩ := List.mem_map.mp new
      obtain rfl : row = artifact := congrArg Prod.snd same
      exact made
  · intro member
    refine ⟨records_fresh filed room records member, Entries.find_of_mem after.artifacts.sorted ?_⟩
    rw [entries]
    exact List.mem_append_right _ (List.mem_map.mpr ⟨artifact, member, rfl⟩)

theorem build_given (records : Records config id request pushedAt now before build after)
    (member : artifact ∈ build.own :: build.clones) :
    GivenWithin before.artifactCount after.artifactCount artifact.id := by
  rw [records_numbered records] at member
  obtain ⟨place, new, bound, _, rfl⟩ := mem_numbered member
  rw [records_count records]
  exact ⟨_, Nat.le_add_right _ _, Nat.add_lt_add_left bound _, rfl⟩

def buildTriggers (artifacts : List Artifact) (isManual : Bool) (user : UserId) : List Trigger :=
  artifacts.map fun artifact => .internal artifact isManual false user

theorem build_triggers_ids (artifacts : List Artifact) (isManual : Bool) (user : UserId) :
    internalIds (buildTriggers artifacts isManual user) = artifacts.map (·.id) := by
  rw [internalIds, buildTriggers, List.filterMap_map]
  exact congrFun List.filterMap_eq_map artifacts

theorem build_triggers_keys (artifacts : List Artifact) (isManual : Bool) (user : UserId) :
    externalKeys (buildTriggers artifacts isManual user) = [] := by
  rw [externalKeys, buildTriggers, List.filterMap_map]
  exact List.filterMap_eq_nil_iff.mpr fun _ _ => rfl

theorem build_triggers_told (room : after.artifactCount < Id.capacity)
    (records : Records config id request pushedAt now before build after) (isManual : Bool) (user : UserId) :
    ToldOnce before.artifactCount after.artifactCount (buildTriggers (build.own :: build.clones) isManual user) := by
  refine ⟨fun trigger member => ?_, ?_, ?_⟩
  · obtain ⟨artifact, there, rfl⟩ := List.mem_map.mp member
    exact build_given records there
  · rw [records_count records] at room
    rw [build_triggers_ids, records_numbered records]
    exact numbered_nodup room
  · rw [build_triggers_keys]
    exact List.nodup_nil

theorem fan_out_started (engine : Engine ω) (artifacts : List Artifact) (mode : TriggerMode) (user : UserId)
    (outside : ω) : let run := engine.fanOut artifacts mode user outside
    ∃ left, (startedIn run.moments ++ left).Perm (buildTriggers artifacts mode.isManual user) ∧
      run.report.cancelled = !left.isEmpty := by
  obtain ⟨left, perm, cancelled⟩ :=
    engine.run_triggers_started (buildTriggers artifacts mode.isManual user) {} outside
  exact ⟨left, perm, cancelled.trans (Bool.false_or _)⟩

theorem is_manual_iff (config : CiConfig) (user : UserId) :
    (config.triggerMode user).isManual = decide (user ≠ config.systemUser) := by
  rw [CiConfig.triggerMode]
  by_cases system : user = config.systemUser
  · rw [if_pos system, decide_eq_false (not_not_intro system)]
    rfl
  · rw [if_neg system, decide_eq_true system]
    rfl

end Success

structure SuccessTells (webhook : Webhook ω) (request : BuildEventRequest) (before : Store)
    (answer : Except Error IngestionOutcome) (after : Store) (own all : List Trigger) : Prop where
  told : ∀ trigger ∈ own, ∃ artifact, Added before after artifact ∧
    trigger = .internal artifact (decide (request.userId ≠ webhook.config.systemUser)) false request.userId
  once : ∀ outcome, answer = .ok outcome → outcome.fanOut.cancelled = false →
    ∀ artifact, Added before after artifact → (internalIds all).count artifact.id = 1
  apart : ∀ artifact, Added before after artifact → ∀ key ∈ externalKeys all, key.1 ≠ artifact.id

structure ExternalTells (request : BuildEventRequest) (recorded : Except Error (Artifact × List DownstreamTarget))
    (made : Store) (own all : List Trigger) : Prop where
  told : ∀ trigger ∈ own, ∃ artifact targets target, recorded = .ok (artifact, targets) ∧ target ∈ targets ∧
    made.artifacts.get? artifact.id = some artifact ∧ trigger = .external artifact target request.userId
  apart : ∀ artifact targets, recorded = .ok (artifact, targets) → artifact.id ∉ internalIds all

def Tells (before : World ω) (own all : List Trigger) : Call ω → Prop
  | .success webhook id request pushedAt now =>
      let ran := (webhook.buildSucceeded id request pushedAt now).run before
      SuccessTells webhook request before.store ran.1 ran.2.store own all
  | .external webhook id request _ _ now =>
      let ran := (recordExternal webhook.config id request now).run before.store
      ExternalTells request ran.1 ran.2 own all
  | .failure _ _ => own = []

section SuccessTold

variable {webhook : Webhook ω} {id : CiPipelineId} {request : BuildEventRequest} {pushedAt : Option Instant}
  {now : Instant} {before : World ω} {after : Store} {build : Build} {run : FanOutRun ω}

theorem silent_success_tells (store : Store) (answer : Except Error IngestionOutcome) (all : List Trigger) :
    SuccessTells webhook request store answer store [] all :=
  ⟨List.forall_mem_nil _, fun _ _ _ _ added => absurd added (not_added store),
    fun _ added => absurd added (not_added store)⟩

theorem first_success_tells (filed : ArtifactsFiled before.store) (room : after.artifactCount < Id.capacity)
    (records : Records webhook.config id request pushedAt now before.store build after)
    (triggers : webhook.engine.fanOut (build.own :: build.clones) (webhook.config.triggerMode request.userId)
      request.userId before.outside = run) :
    ToldOnce before.store.artifactCount after.artifactCount (startedIn run.moments) ∧
      ∀ all, Alike before.store.artifactCount after.artifactCount (startedIn run.moments) all →
        SuccessTells webhook request before.store
          (.ok { artifactId := build.own.id, cloneIds := build.clones.map (·.id), fanOut := run.report })
          after (startedIn run.moments) all := by
  obtain rfl := triggers
  obtain ⟨left, perm, cancelled⟩ := fan_out_started webhook.engine (build.own :: build.clones)
    (webhook.config.triggerMode request.userId) request.userId before.outside
  have whole := build_triggers_told room records (webhook.config.triggerMode request.userId).isManual request.userId
  refine ⟨told_of_perm perm whole, fun all alike => ⟨fun trigger member => ?_, ?_, ?_⟩⟩
  · obtain ⟨artifact, there, rfl⟩ := List.mem_map.mp (perm.subset (List.mem_append_left left member))
    exact ⟨artifact, (records_added_iff filed room records).mpr there, by rw [is_manual_iff]⟩
  · rintro _ ⟨⟩ quiet artifact added
    have there := (records_added_iff filed room records).mp added
    -- Nothing was left, so all triggers of the build have started.
    obtain rfl : left = [] := by
      rw [cancelled] at quiet
      simpa using quiet
    rw [List.append_nil] at perm
    rw [alike.internal _ (build_given records there), (internal_ids_perm perm).count_eq]
    refine List.count_eq_one_of_mem whole.internal ?_
    rw [build_triggers_ids]
    exact List.mem_map_of_mem there
  · rintro artifact added key member same
    have there := (records_added_iff filed room records).mp added
    have own := alike.external key member (same ▸ build_given records there)
    have none : key ∈ externalKeys (buildTriggers (build.own :: build.clones)
        (webhook.config.triggerMode request.userId).isManual request.userId) :=
      (external_keys_perm perm).subset (by
        rw [external_keys_append]
        exact List.mem_append_left _ own)
    rw [build_triggers_keys] at none
    cases none

theorem success_told {answer : Except Error IngestionOutcome} {after : World ω}
    (answered : (webhook.buildSucceeded id request pushedAt now).run before = (answer, after))
    (filed : ArtifactsFiled before.store) (room : after.store.artifactCount < Id.capacity) :
    ∃ own, after.moments = before.moments ++ own ∧
      ToldOnce before.store.artifactCount after.store.artifactCount (startedIn own) ∧
      ∀ all, Alike before.store.artifactCount after.store.artifactCount (startedIn own) all →
        SuccessTells webhook request before.store answer after.store (startedIn own) all := by
  cases answer with
  | error error =>
      obtain rfl : after = before := Service.ends_error build_succeeded_ends answered
      exact ⟨[], (List.append_nil _).symm, told_none _ _, fun all _ => silent_success_tells _ _ all⟩
  | ok outcome =>
      have succeeds : Succeeds webhook id request pushedAt now before outcome after :=
        Service.ends_ok build_succeeded_ends answered
      cases succeeds with
      | again => exact ⟨[], (List.append_nil _).symm, told_none _ _, fun all _ => silent_success_tells _ _ all⟩
      | @first build store run records triggers =>
          obtain ⟨told, tells⟩ := first_success_tells filed room records triggers
          exact ⟨run.moments, rfl, told, tells⟩

end SuccessTold

section ExternalTold

variable {webhook : Webhook ω} {id : ExternalCiId} {request : BuildEventRequest} {token : String}
  {authorizer : Authorizer} {now : Instant} {before : World ω} {made : Store} {build : ExternalBuild} {run : FanOutRun ω}

theorem target_of_pipeline {store : Store} {pipeline : CdPipeline} {target : DownstreamTarget}
    (found : store.targetOf? pipeline = some target) : target.cdPipelineId = pipeline.id := by
  obtain ⟨app, _, rest⟩ := Option.bind_eq_some_iff.mp found
  obtain ⟨environment, _, same⟩ := Option.bind_eq_some_iff.mp rest
  obtain rfl := Option.some.inj same
  rfl

theorem targets_distinct {store : Store} (registered : Registered store) (id : ExternalCiId) :
    ((store.targetsOf id).map (·.cdPipelineId)).Nodup := by
  have apart := (List.pairwise_map.mp (names_distinct registered.deployments)).filter
    fun pipeline => pipeline.externalCiId == some id && !pipeline.deleted
  refine List.pairwise_map.mpr (apart.filterMap _ fun first second different target here other there same => ?_)
  rw [target_of_pipeline here, target_of_pipeline there] at same
  exact different same

theorem allowed_triggers_ids (artifact : Artifact) (targets : List DownstreamTarget) (token : String)
    (authorizer : Authorizer) (user : UserId) :
    internalIds (allowedTriggers artifact targets token authorizer user) = [] := by
  rw [internalIds, allowedTriggers, List.filterMap_map]
  exact List.filterMap_eq_nil_iff.mpr fun _ _ => rfl

theorem allowed_triggers_keys (artifact : Artifact) (targets : List DownstreamTarget) (token : String)
    (authorizer : Authorizer) (user : UserId) :
    externalKeys (allowedTriggers artifact targets token authorizer user) =
      (targets.filter (Engine.isAllowed token authorizer)).map fun target => (artifact.id, target.cdPipelineId) := by
  rw [externalKeys, allowedTriggers, List.filterMap_map]
  exact congrFun List.filterMap_eq_map _

theorem recorded_right {store made : Store} {answer : Artifact × List DownstreamTarget}
    (recorded : (recordExternal webhook.config id request now).run store = (.ok answer, made)) :
    Active store id ∧ Valid webhook.config request := by
  obtain ⟨build, records, _⟩ := Service.ends_ok record_external_ends recorded
  exact ⟨active_iff.mpr ⟨_, records.external⟩, records.valid⟩

theorem external_given_id (records : RecordsExternal webhook.config id request now before.store build made) :
    build.artifact.id = Id.nth before.store.artifactCount ∧
      made.artifactCount = before.store.artifactCount + 1 := by
  obtain ⟨artifact, rfl⟩ := Prod.mk.inj records.stored
  exact ⟨congrArg (·.id) artifact.symm, rfl⟩

theorem allowed_triggers_told (registered : Registered before.store)
    (records : RecordsExternal webhook.config id request now before.store build made) :
    ToldOnce before.store.artifactCount made.artifactCount
      (allowedTriggers build.artifact (before.store.targetsOf build.external.id) token authorizer request.userId) := by
  obtain ⟨artifactId, count⟩ := external_given_id records
  refine ⟨fun trigger member => ?_, ?_, ?_⟩
  · obtain ⟨target, _, rfl⟩ := List.mem_map.mp member
    exact ⟨before.store.artifactCount, Nat.le_refl _, by omega, artifactId⟩
  · rw [allowed_triggers_ids]
    exact List.nodup_nil
  · rw [allowed_triggers_keys]
    have distinct := List.pairwise_map.mp (targets_distinct registered build.external.id)
    refine List.pairwise_map.mpr ((distinct.filter _).imp fun different same => ?_)
    exact different (congrArg Prod.snd same)

theorem external_feeds_tell (registered : Registered before.store)
    (feeds : Feeds webhook id request token authorizer now before build made run) :
    ToldOnce before.store.artifactCount made.artifactCount (startedIn run.moments) ∧
      ∀ all, Alike before.store.artifactCount made.artifactCount (startedIn run.moments) all →
        let ran := (recordExternal webhook.config id request now).run before.store
        ExternalTells request ran.1 ran.2 (startedIn run.moments) all := by
  obtain ⟨records, recorded, rfl⟩ := feeds
  obtain ⟨artifactId, count⟩ := external_given_id records
  obtain ⟨left, perm, _⟩ := webhook.engine.run_triggers_started (allowedTriggers build.artifact
    (before.store.targetsOf build.external.id) token authorizer request.userId) _ before.outside
  have told := told_of_perm perm (allowed_triggers_told registered records)
  refine ⟨told, fun all alike => ?_⟩
  rw [recorded]
  refine ⟨fun trigger member => ?_, ?_⟩
  · obtain ⟨target, allowed, rfl⟩ := List.mem_map.mp (perm.subset (List.mem_append_left left member))
    exact ⟨build.artifact, _, target, rfl, (List.mem_filter.mp allowed).1, inserted_found records.stored, rfl⟩
  · rintro _ _ ⟨⟩
    have given : GivenWithin before.store.artifactCount made.artifactCount build.artifact.id :=
      ⟨before.store.artifactCount, Nat.le_refl _, by omega, artifactId⟩
    have none := internal_ids_perm perm
    rw [internal_ids_append, allowed_triggers_ids] at none
    refine List.count_eq_zero.mp ((alike.internal _ given).trans (List.count_eq_zero.mpr fun member => ?_))
    cases none.subset (List.mem_append_left _ member)

theorem external_told {answer : Except Error IngestionOutcome} {after : World ω}
    (answered : (webhook.externalBuild id request token authorizer now).run before = (answer, after))
    (registered : Registered before.store) :
    ∃ own, after.moments = before.moments ++ own ∧
      ToldOnce before.store.artifactCount after.store.artifactCount (startedIn own) ∧
      ∀ all, Alike before.store.artifactCount after.store.artifactCount (startedIn own) all →
        let ran := (recordExternal webhook.config id request now).run before.store
        ExternalTells request ran.1 ran.2 (startedIn own) all := by
  cases external_build_settles answered with
  | refused wrong =>
      refine ⟨[], (List.append_nil _).symm, told_none _ _, fun all _ => ⟨List.forall_mem_nil _, ?_⟩⟩
      intro artifact targets recorded
      exact absurd (recorded_right (Prod.ext recorded rfl)) wrong
  | @kept build made run feeds =>
      obtain ⟨told, tells⟩ := external_feeds_tell registered feeds
      exact ⟨run.moments, rfl, told, tells⟩
  | @withdrawn build made run feeds =>
      obtain ⟨told, tells⟩ := external_feeds_tell registered feeds
      exact ⟨run.moments, rfl, told, tells⟩

end ExternalTold

section Runs

variable {before start : World ω} {calls : List (Call ω)}

theorem writes_registered {before after : Store} (writes : CallWrites before after) (registered : Registered before) :
    Registered after := by
  cases writes with
  | nothing same => exact same ▸ registered
  | build records =>
      refine inserted_registered records.stored ?_
      rw [finish_run_only]
      exact ⟨registered.externals, registered.deployments⟩
  | external _ inserted => exact inserted_registered inserted registered
  | withdrawn inserted erased =>
      obtain ⟨externals, deployments⟩ := inserted_registered inserted registered
      rw [erased]
      exact ⟨externals, deployments⟩

theorem call_told (call : Call ω) (registered : Registered before.store) (filed : ArtifactsFiled before.store)
    (room : (call.perform before).store.artifactCount < Id.capacity) :
    ∃ own, (call.perform before).moments = before.moments ++ own ∧
      ToldOnce before.store.artifactCount (call.perform before).store.artifactCount (startedIn own) ∧
      ∀ all, Alike before.store.artifactCount (call.perform before).store.artifactCount (startedIn own) all →
        Tells before (startedIn own) all call := by
  cases call with
  | success webhook id request pushedAt now => exact success_told rfl filed room
  | external webhook id request token authorizer now => exact external_told rfl registered
  | failure id request =>
      have silent : ((buildFailed id request).run before).2.moments = before.moments :=
        Service.ends_after (motive := fun after : World ω => after.moments = before.moments) build_failed_ends
          (fun _ _ same => same.2) fun _ _ same => same.2
      exact ⟨[], silent.trans (List.append_nil _).symm, told_none _ _, fun _ _ => rfl⟩

theorem run_told (registered : Registered start.store) (filed : ArtifactsFiled start.store)
    (room : (Call.performAll start calls).store.artifactCount < Id.capacity) :
    ∃ moments, (Call.performAll start calls).moments = start.moments ++ moments ∧
      ToldOnce start.store.artifactCount (Call.performAll start calls).store.artifactCount (startedIn moments) := by
  induction calls generalizing start with
  | nil => exact ⟨[], (List.append_nil _).symm, told_none _ _⟩
  | cons call rest ih =>
      have writes : CallWrites start.store (call.perform start).store := call_writes start call
      have upper := run_count (call.perform start) rest
      obtain ⟨own, added, told, _⟩ := call_told call registered filed (Nat.lt_of_le_of_lt upper room)
      obtain ⟨more, grown, later⟩ := ih (writes_registered writes registered) (writes_filed writes filed) room
      refine ⟨own ++ more, ?_, ?_⟩
      · rw [← List.append_assoc, ← added]
        exact grown
      · rw [started_in_append]
        exact told_append told later (writes_count writes) upper room

theorem run_registered (registered : Registered start.store) :
    Registered (Call.performAll start calls).store := by
  induction calls generalizing start with
  | nil => exact registered
  | cons call rest ih => exact ih (writes_registered (call_writes start call) registered)

end Runs

/-- Whatever calls come after one another, whatever becomes of the triggers and whenever the signal to stop is given:
no artifact is triggered twice, and none of an external build twice for one deployment pipeline. Each call triggers
only what it stored itself and in its own way; a success that was not stopped triggers all of that. -/
theorem artifacts_triggered_once (start : World ω) (calls : List (Call ω)) (reached : Reachable start.store)
    (room : (Call.performAll start calls).store.artifactCount < Id.capacity) :
    ∃ moments, (Call.performAll start calls).moments = start.moments ++ moments ∧
      (internalIds (startedIn moments)).Nodup ∧ (externalKeys (startedIn moments)).Nodup ∧
      ∀ earlier call later, calls = earlier ++ call :: later →
        let before := Call.performAll start earlier
        ∃ own, (call.perform before).moments = before.moments ++ own ∧
          Tells before (startedIn own) (startedIn moments) call := by
  have registered : Registered start.store := reachable_registered reached
  have filed : ArtifactsFiled start.store := (reachable_orderly reached).artifacts
  obtain ⟨moments, added, told⟩ := run_told registered filed room
  refine ⟨moments, added, told.internal, told.external, ?_⟩
  rintro earlier call later rfl before
  have whole : Call.performAll start (earlier ++ call :: later) = Call.performAll (call.perform before) later :=
    List.foldl_append
  rw [whole] at added room
  have lower : before.store.artifactCount ≤ (call.perform before).store.artifactCount :=
    writes_count (call_writes before call)
  have upper := run_count (call.perform before) later
  have roomAfter := Nat.lt_of_le_of_lt upper room
  have registeredBefore : Registered before.store := run_registered registered
  have filedBefore : ArtifactsFiled before.store := run_filed filed
  have registeredAfter := writes_registered (call_writes before call) registeredBefore
  have filedAfter := writes_filed (call_writes before call) filedBefore
  obtain ⟨first, addedFirst, toldFirst⟩ := run_told registered filed (Nat.lt_of_le_of_lt lower roomAfter)
  obtain ⟨own, addedOwn, _, tells⟩ := call_told call registeredBefore filedBefore roomAfter
  obtain ⟨rest, addedRest, toldRest⟩ := run_told registeredAfter filedAfter room
  refine ⟨own, addedOwn, tells _ ?_⟩
  -- What the run tells is what was told before the call, then by it, then after it.
  have parts : moments = first ++ (own ++ rest) := by
    refine List.append_cancel_left (added.symm.trans ?_)
    rw [addedRest, addedOwn, addedFirst, List.append_assoc, List.append_assoc]
  rw [parts, started_in_append, started_in_append]
  exact alike_between toldFirst.given toldRest.given upper room

def sampleBoth : Store :=
  let child := Fixtures.childCiPipeline ⟨2⟩ ⟨1⟩ ⟨1⟩ false
  (sampleSource.store.putCiPipeline Sample.ciPipeline).putCiPipeline child

def sampleShared : World Bool where
  store := { sampleBoth with workflows := sampleBoth.workflows.insert ⟨1⟩ Sample.workflow }
  outside := false

theorem sample_shared_reachable : Reachable sampleShared.store := by
  have inserted : sampleBoth.insertWorkflow Sample.workflow = .ok ((), sampleShared.store) := rfl
  exact .step (.step (.step sample_source_reachable (.putCiPipeline _)) (.putCiPipeline _)) (.insertWorkflow inserted)

def sampleOutside : Call Bool :=
  .external ({} : Session).webhook ⟨5⟩ Sample.buildRequest "token" Authorizer.allowAll Sample.moment

def sampleInside : Call Bool :=
  .success ({} : Session).webhook ⟨1⟩ sampleOfRun none Sample.moment

def sampleStored : Artifact :=
  (sampleOfRun.ownArtifact Sample.ciPipeline .external "[]" Sample.moment).stored ⟨2⟩

theorem sample_artifact_triggered_once : ∃ moments,
    (Call.performAll sampleShared [sampleOutside, sampleInside, sampleInside]).moments = moments ∧
    (externalKeys (startedIn moments)).length = 2 ∧ (internalIds (startedIn moments)).count sampleStored.id = 1 := by
  obtain ⟨moments, added, _, _, each⟩ := artifacts_triggered_once sampleShared
    [sampleOutside, sampleInside, sampleInside] sample_shared_reachable (by decide)
  obtain ⟨own, _, tells⟩ := each [sampleOutside] sampleInside [sampleInside] rfl
  refine ⟨moments, added, ?_, tells.once _ rfl rfl sampleStored ⟨rfl, rfl⟩⟩
  obtain rfl : _ = moments := added
  rfl

end Webhook

end Delivery
