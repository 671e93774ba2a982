import Delivery.Proofs.Moves
import Delivery.Proofs.Webhook.Calls
set_option autoImplicit false

namespace Delivery.Webhook

open Store

variable {ω : Type}

inductive BuildWrite (before after : Store) : Prop where
  | external {new : NewArtifact} {row : Artifact} (outside : new.pipelineId = none)
      (done : before.saveArtifact new = .ok (row, after)) : BuildWrite before after
  | own {new : NewArtifact} {row : Artifact} (unnamed : new.workflowId = none)
      (done : before.saveArtifact new = .ok (row, after)) : BuildWrite before after
  | ownOfRun {new : NewArtifact} {run : WorkflowId} {now : Instant} {row : Artifact}
      (named : new.workflowId = some run) (done : before.saveArtifactOfWorkflow new run now = .ok (row, after)) :
      BuildWrite before after
  | clones {news : List NewArtifact} {rows : List Artifact} (unnamed : ∀ new ∈ news, new.workflowId = none)
      (done : before.saveArtifacts news = .ok (rows, after)) : BuildWrite before after
  | withdrawn {id : ArtifactId} (done : before.deleteArtifact id = .ok ((), after)) : BuildWrite before after

def Call.service : Call ω → Service (World ω) (Option IngestionOutcome)
  | .success webhook id request pushedAt now => do
      return some (← webhook.buildSucceeded id request pushedAt now)
  | .external webhook id request token authorizer now => do
      return some (← webhook.externalBuild id request token authorizer now)
  | .failure id request => do
      buildFailed id request
      return none

def Call.flow (call : Call ω) : Flow (World ω) (Except Error (Option IngestionOutcome)) :=
  ExceptT.run call.service

def StoresRelated (related : Store → Store → Prop) (before after : World ω) : Prop :=
  related before.store after.store

section Moves

variable {related : Store → Store → Prop} (reflexive : ∀ store, related store store)
  (writes : ∀ before after, BuildWrite before after → related before after)

theorem on_store_moves {α : Type} {service : Service Store α} (moves : service.Moves related) :
    (World.onStore service : Service (World ω) α).Moves (StoresRelated related) :=
  Service.moves_within moves fun _ _ step => step

include reflexive writes in
theorem save_own_moves (request : BuildEventRequest) {artifact : NewArtifact}
    (own : artifact.workflowId = request.workflowId) (now : Instant) : (saveOwn request artifact now).Moves related := by
  rw [saveOwn]
  cases named : request.workflowId with
  | none =>
      exact Service.moves_transact reflexive fun store _ after done =>
        writes store after (.own (own.trans named) done)
  | some run =>
      exact Service.moves_transact reflexive fun store _ after done =>
        writes store after (.ownOfRun (own.trans named) done)

include reflexive writes in
theorem save_clones_moves {clones : List NewArtifact} (unnamed : ∀ clone ∈ clones, clone.workflowId = none) :
    (saveClones clones).Moves related := by
  cases clones with
  | nil => exact Service.moves_pure []
  | cons clone rest =>
      exact Service.moves_transact reflexive fun store _ after done => writes store after (.clones unnamed done)

include reflexive writes in
theorem record_build_moves (config : CiConfig) (id : CiPipelineId) (request : BuildEventRequest)
    (pushedAt : Option Instant) (now : Instant) : (recordBuild config id request pushedAt now).Moves related := by
  refine Service.moves_bind (Service.moves_require reflexive _ _) fun pipeline => ?_
  refine Service.moves_bind (Service.moves_of_except _) fun dataSource => ?_
  refine Service.moves_bind (Service.moves_of_except _) fun materialInfo => ?_
  refine Service.moves_bind (save_own_moves reflexive writes request rfl now) fun artifact => ?_
  refine Service.moves_bind (Service.moves_look reflexive _) fun children => ?_
  refine Service.moves_bind (save_clones_moves reflexive writes fun clone member => ?_) fun clones => ?_
  · obtain ⟨child, _, rfl⟩ := List.mem_map.mp member
    rfl
  · exact Service.moves_pure _

include reflexive in
theorem has_succeeded_moves (run : Option WorkflowId) : (hasSucceeded run).Moves related := by
  cases run with
  | none => exact Service.moves_pure none
  | some id => exact Service.moves_bind (Service.moves_require reflexive _ _) fun _ => Service.moves_pure _

include reflexive in
theorem earlier_build_moves (run : WorkflowId) : (earlierBuild run).Moves related :=
  Service.moves_bind (Service.moves_require reflexive _ _) fun _ =>
    Service.moves_bind (Service.moves_look reflexive _) fun _ => Service.moves_pure _

include reflexive writes in
theorem record_success_moves (config : CiConfig) (id : CiPipelineId) (request : BuildEventRequest)
    (pushedAt : Option Instant) (now : Instant) : (recordSuccess config id request pushedAt now).Moves related := by
  refine Service.moves_bind (has_succeeded_moves reflexive _) fun succeeded => ?_
  cases succeeded with
  | some run => exact earlier_build_moves reflexive run
  | none => exact record_build_moves reflexive writes config id request pushedAt now

include reflexive writes in
theorem record_external_moves (config : CiConfig) (id : ExternalCiId) (request : BuildEventRequest)
    (now : Instant) : (recordExternal config id request now).Moves related := by
  refine Service.moves_bind (Service.moves_require reflexive _ _) fun external => ?_
  refine Service.moves_bind (Service.moves_of_except _) fun dataSource => ?_
  refine Service.moves_bind (Service.moves_of_except _) fun materialInfo => ?_
  refine Service.moves_bind (Service.moves_transact reflexive fun store _ after done => ?_) fun artifact => ?_
  · exact writes store after (.external rfl done)
  · exact Service.moves_bind (Service.moves_look reflexive _) fun _ => Service.moves_pure _

include reflexive writes in
theorem call_moves (call : Call ω) : call.service.Moves (StoresRelated related) := by
  -- What is told and what is triggered leaves the store as it is.
  have aside : ∀ {α : Type} {action : World ω → α × World ω}, (∀ world, (action world).2.store = world.store) →
      (Service.act action).Moves (StoresRelated related) := by
    intro α action same
    refine Service.moves_act fun world => ?_
    rw [StoresRelated, same]
    exact reflexive world.store
  cases call with
  | success webhook id request pushedAt now =>
      refine Service.moves_bind ?_ fun _ => Service.moves_pure _
      rw [buildSucceeded]
      refine Service.moves_bind (on_store_moves (record_success_moves reflexive writes _ id request pushedAt now)) ?_
      intro recorded
      cases recorded with
      | already artifact clones => exact Service.moves_pure _
      | fresh artifact clones event =>
          refine Service.moves_bind (aside fun _ => rfl) fun _ => ?_
          exact Service.moves_bind (aside fun _ => rfl) fun _ => Service.moves_pure _
  | external webhook id request token authorizer now =>
      refine Service.moves_bind ?_ fun _ => Service.moves_pure _
      rw [externalBuild]
      refine Service.moves_bind (on_store_moves (record_external_moves reflexive writes _ id request now)) ?_
      rintro ⟨artifact, targets⟩
      refine Service.moves_bind (aside fun _ => rfl) fun _ => ?_
      refine Service.moves_bind (aside fun _ => rfl) fun report => ?_
      cases triggered : report.triggeredAny with
      | true => exact Service.moves_pure _
      | false =>
          refine Service.moves_bind (on_store_moves (Service.moves_transact reflexive ?_)) fun _ => ?_
          · exact fun store _ after done => writes store after (.withdrawn done)
          · exact Service.moves_throw _
  | failure id request =>
      refine Service.moves_bind ?_ fun _ => Service.moves_pure _
      rw [buildFailed]
      cases request.workflowId with
      | none => exact Service.moves_throw _
      | some run =>
          refine Service.moves_bind (on_store_moves (Service.moves_require reflexive _ _)) fun workflow => ?_
          refine Service.moves_bind (on_store_moves (Service.moves_require reflexive _ _)) fun pipeline => ?_
          exact aside fun _ => rfl

end Moves

end Delivery.Webhook
