import Delivery.Proofs.Charts.Upgrades
import Delivery.Proofs.Concord
import Delivery.Proofs.Store.Ranks
set_option autoImplicit false

namespace Delivery.Charts

open Store

structure Advances (before after : Store) : Prop where
  reached : Reachable after
  room : HasRoom after → HasRoom before
  owners : HasRoom after → KeepsOwners before after
  ranked : HasRoom after → AllRanked before → AllRanked after

def Steady (before after : Store) : Prop :=
  Reachable before → Advances before after

theorem steady_refl (store : Store) : Steady store store := fun reached =>
  ⟨reached, fun room => room, fun _ => keeps_owners_of_charts rfl, fun _ ranked => ranked⟩

theorem write_steady {before after : Store} (write : Write) (done : write.act before = .ok after)
    (fits : HasRoom before → write.Fits before) : Steady before after := by
  intro reached
  have transaction : Transaction before after := write_transaction write done
  have earlier : HasRoom after → HasRoom before := transaction_room transaction
  have owners : HasRoom after → KeepsOwners before after := fun room =>
    write_keeps_owners write done (fits (earlier room)) (reachable_orderly reached).charts room
  exact ⟨.step reached transaction, earlier, owners, fun room ranked =>
    transaction_ranked transaction reached room (owners room) ranked⟩

theorem perform_steady (write : Write) (noEdit : ∀ chart, write ≠ .updateChart chart) (store : Store) :
    Steady store (write.perform store) := by
  rw [Write.perform]
  cases done : write.act store with
  | error error => exact steady_refl store
  | ok after =>
      refine write_steady write done fun _ => ?_
      cases write with
      | updateChart chart => exact absurd rfl (noEdit chart)
      | _ => trivial

def Knows (store : Store) : Option Chart → Prop
  | none => True
  | some chart => HasRoom store → ∃ there, store.charts.get? chart.id = some there ∧ there.appId = chart.appId

theorem still_knows {before after : Store} {known : Option Chart} (advances : Advances before after)
    (knows : Knows before known) : Knows after known := by
  cases known with
  | none => trivial
  | some chart =>
      intro room
      obtain ⟨there, found, own⟩ := knows (advances.room room)
      obtain ⟨still, foundStill, same⟩ := advances.owners room found
      exact ⟨still, foundStill, same.trans own⟩

def editing : Concord Store (Option Chart) where
  protocol :=
    { sees := fun known store => Reachable store ∧ Knows store known
      moves := fun known before after next => Steady before after ∧ (next = known ∨ Knows after next) }
  sound store := Reachable store ∧ (HasRoom store → AllRanked store)
  polite := Steady
  idle := none
  enters sound := ⟨sound.1, trivial⟩
  stays sound steady :=
    have advances := steady sound.1
    ⟨advances.reached, fun room => advances.ranked room (sound.2 (advances.room room))⟩
  keeps := by
    rintro known world after next sound ⟨reached, knows⟩ ⟨steady, rfl | knowsNext⟩
    · exact ⟨steady, (steady reached).reached, still_knows (steady reached) knows⟩
    · exact ⟨steady, (steady reached).reached, knowsNext⟩
  undisturbed := fun _ steady ⟨reached, knows⟩ =>
    ⟨(steady reached).reached, still_knows (steady reached) knows⟩

section Programs

variable {α : Type}

abbrev Follow (service : Service Store α) (known : Option Chart) : Prop :=
  service.Follows editing.protocol (fun _ _ => True) (fun _ _ => True) known

theorem follow_of_moves {service : Service Store α} (moves : service.Moves Steady) (known : Option Chart) :
    Follow service known :=
  Service.follows_of_moves moves (fun _ _ steady => ⟨steady, .inl rfl⟩) (fun _ => trivial) fun _ => trivial

theorem append_histories_steady (store : Store) (rows : List NewHistory) :
    Steady store (store.appendHistories rows).2 :=
  write_steady (.appendHistories rows) rfl fun _ => trivial

theorem set_app_metrics_steady (store : Store) (app : AppId) (enabled : Bool) (user : UserId) (now : Instant) :
    Steady store (store.setAppMetrics app enabled user now).2 :=
  write_steady (.setAppMetrics app enabled user now) rfl fun _ => trivial

theorem create_chart_steady (store : Store) (new : NewChart) (row : Chart) (after : Store)
    (done : store.createChart new = .ok (row, after)) : Steady store after :=
  write_steady (.createChart new) (map_of_made done) fun _ => trivial

theorem create_override_steady (store : Store) (new : NewEnvOverride) (row : EnvOverride) (after : Store)
    (done : store.createOverride new = .ok (row, after)) : Steady store after :=
  write_steady (.createOverride new) (map_of_made done) fun _ => trivial

theorem update_follows (id : ChartId) (delta : Json) (appMetrics : Option Bool) (user : UserId) (now : Instant) :
    Follow (update id delta appMetrics user now) none := by
  refine Service.follows_bind (Service.follows_require fun world seen => ?_)
  refine ⟨world.charts.get? id, ⟨steady_refl world, .inr ?_⟩, fun current found => ?_, fun _ => trivial⟩
  · cases found : world.charts.get? id with
    | none => trivial
    | some current =>
        have own : current.id = id := (reachable_orderly seen.1).charts.own found
        exact fun _ => ⟨current, own ▸ found, rfl⟩
  rw [found]
  refine Service.follows_bind (Service.follows_transact (fun world updated after seen done => ?_) fun world _ _ _ =>
    ⟨some current, ⟨steady_refl world, .inl rfl⟩, trivial⟩)
  refine ⟨some current, ⟨write_steady (.updateChart _) (map_of_made done) fun room => ?_, .inl rfl⟩, ?_⟩
  · intro there foundThere
    obtain ⟨known, foundKnown, same⟩ := seen.2 room
    obtain rfl : there = known := Option.some.inj (foundThere.symm.trans foundKnown)
    exact same
  · refine follow_of_moves (Service.moves_bind ?_ fun enabled => Service.moves_bind ?_ fun _ => Service.moves_pure _) _
    · exact resolve_requested_steps steady_refl set_app_metrics_steady updated appMetrics user now
    · exact record_template_change_steps steady_refl (fun store rows _ => append_histories_steady store rows) _ _ _ _

theorem discarded_follows {service : Service Store α} {known : Option Chart} (follows : Follow service known) :
    Follow service.discarded known :=
  Service.follows_bind (Service.follows_weaken follows (fun _ _ _ => Service.follows_pure trivial) fun _ _ _ => trivial)

theorem command_follow (command : Command) : Follow command.service none := by
  have appends := fun (store : Store) (rows : List NewHistory) (_ : ∀ row ∈ rows, row.deployed = false) =>
    append_histories_steady store rows
  cases command with
  | create request now =>
      have moves := create_steps steady_refl create_chart_steady set_app_metrics_steady appends request now
      exact follow_of_moves (Service.moves_discarded moves) none
  | update id delta appMetrics user now => exact discarded_follows (update_follows id delta appMetrics user now)
  | upgrade app target user now =>
      have moves := upgrade_steps steady_refl create_chart_steady create_override_steady set_app_metrics_steady appends
        app target user now
      exact follow_of_moves (Service.moves_discarded moves) none
  | setMetrics app enabled user now =>
      have moves := set_metrics_steps steady_refl set_app_metrics_steady appends app enabled user now
      exact follow_of_moves (Service.moves_discarded moves) none

end Programs

def poolOfCommands (start : Store) (commands : List Command) : Pool Store (Except Error Unit) where
  world := start
  flows := commands.map fun command => ExceptT.run command.service

def storeAfter (start : Store) (commands : List Command) (turns : List (Turn Write)) : Store :=
  ((poolOfCommands start commands).play (fun write store => write.perform store) turns).world

section Run

variable {start : Store} {commands : List Command} {turns : List (Turn Write)}

theorem store_after_sound (reached : Reachable start) (none : start.envOverrides = .empty)
    (noEdit : ∀ chart, Turn.aside (.updateChart chart) ∉ turns) : editing.sound (storeAfter start commands turns) := by
  have ranked : AllRanked start := by
    intro app environment row member
    obtain ⟨⟨key, found⟩, _⟩ := mem_overrides_in member
    rw [none] at found
    cases found
  refine editing.sound_play _ ⟨reached, fun _ => ranked⟩ ?_ ?_
  · intro flow member
    obtain ⟨command, _, rfl⟩ := List.mem_map.mp member
    exact Flow.follows_weaken (Service.follows_iff_flow.mp (command_follow command)) fun _ _ _ => trivial
  · intro write member store sound
    refine perform_steady write ?_ store
    rintro chart rfl
    exact noEdit chart member

end Run

structure AddsOverride (store : Store) (new : NewEnvOverride) (chart : Chart) (after : Store) : Prop where
  stored : ∃ row, row = new.stored (Id.nth store.envOverrideCount) ∧ after.envOverrides.get? row.id = some row
  outside : ∀ key row,
    ¬(row.targetEnvironment = new.targetEnvironment ∧ store.isChartOf chart.appId row.chartId = true) →
    (after.envOverrides.get? key = some row ↔ store.envOverrides.get? key = some row)
  rest : after = { store with
    envOverrides := after.envOverrides
    envOverrideCount := store.envOverrideCount + 1 }

theorem creation_refused {store : Store} {new : NewEnvOverride} (unknown : store.charts.get? new.chartId = none) :
    (Write.createOverride new).perform store = store := by
  rw [Write.perform, Write.act, createOverride, unknown]
  rfl

theorem creation_adds {store : Store} {new : NewEnvOverride} {chart : Chart} (reached : Reachable store)
    (found : store.charts.get? new.chartId = some chart)
    (room : HasRoom ((Write.createOverride new).perform store)) :
    AddsOverride store new chart ((Write.createOverride new).perform store) := by
  cases done : store.createOverride new with
  | error error => simp [createOverride, found] at done
  | ok pair =>
      obtain ⟨row, after⟩ := pair
      have performed : (Write.createOverride new).perform store = after := by
        rw [Write.perform, Write.act, done]
        rfl
      rw [performed] at room ⊢
      have filed : OverridesFiled store := (reachable_rooted reached).overrides
      obtain ⟨_, _, rowEq, made⟩ := create_override_ok done
      refine ⟨⟨row, rowEq, override_here done⟩, fun key old outside => ?_, by rw [made]⟩
      exact override_outside done found filed room.overrides outside key

/-- However creations of overrides, operations on charts and all other writes but raw edits of charts come one after
another or in between one another: of the overrides of an application for an environment, one is the latest exactly if
its identifier is the highest, and the previous one exactly if it is the second highest. A creation leaves the overrides
of other applications and for other environments as they are, and one for an unknown chart changes nothing. -/
theorem overrides_ranked (start : Store) (commands : List Command) (turns : List (Turn Write))
    (reached : Reachable start) (none : start.envOverrides = .empty)
    (noEdit : ∀ chart, Turn.aside (.updateChart chart) ∉ turns) (room : HasRoom (storeAfter start commands turns)) :
    let store := storeAfter start commands turns
    AllRanked store ∧
      ∀ new, let after := (Write.createOverride new).perform store
        (store.charts.get? new.chartId = .none → after = store) ∧
        ∀ chart, store.charts.get? new.chartId = some chart → HasRoom after → AddsOverride store new chart after := by
  intro store
  have sound : editing.sound store := store_after_sound reached none noEdit
  exact ⟨sound.2 room, fun new => ⟨creation_refused, fun chart found => creation_adds sound.1 found⟩⟩

def sampleTurns : List (Turn Write) :=
  let stored := Turn.aside (Write.createOverride Sample.newEnvOverride)
  List.replicate 12 (.step 0) ++ [stored] ++ List.replicate 16 (.step 1) ++ [stored] ++ List.replicate 5 (.step 1)

def sampleEdits : List Command :=
  [.create Sample.templateRequest Sample.moment, .upgrade ⟨1⟩ ⟨2⟩ Fixtures.testUser Sample.moment]

theorem sample_overrides_ranked :
    let store := storeAfter (Fixtures.seedApp .empty) sampleEdits sampleTurns
    AllRanked store ∧ (store.overridesIn ⟨1⟩ ⟨10⟩).map (fun row => (row.chartId, row.latest, row.previous)) =
      [(⟨1⟩, false, false), (⟨2⟩, false, true), (⟨1⟩, true, false)] := by
  have noEdit : ∀ chart, Turn.aside (.updateChart chart) ∉ sampleTurns := by
    simp [sampleTurns]
  obtain ⟨ranked, _⟩ := overrides_ranked (Fixtures.seedApp .empty) sampleEdits sampleTurns seed_app_reachable rfl
    noEdit ⟨by decide +kernel, by decide +kernel⟩
  exact ⟨ranked, by decide +kernel⟩

end Delivery.Charts
