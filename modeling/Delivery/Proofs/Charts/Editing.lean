import Delivery.Proofs.Charts.Latest
import Delivery.Proofs.Store.Overrides
import Mathlib.Logic.Relation
set_option autoImplicit false

namespace Delivery.Charts

open Store

abbrev Follows : Store → Store → Prop :=
  Relation.ReflTransGen Transaction

theorem follows_one {before after : Store} (transaction : Transaction before after) : Follows before after :=
  Relation.ReflTransGen.single transaction

theorem follows_reachable {before after : Store} (follows : Follows before after) (reached : Reachable before) :
    Reachable after := by
  induction follows with
  | refl => exact reached
  | tail _ transaction ih => exact .step ih transaction

theorem command_follows (store : Store) (command : Command) : Follows store (command.perform store) := by
  have moves : command.service.Moves Follows := command_steps (fun _ => .refl)
    (fun _ _ _ _ done => follows_one (.createChart done)) (fun _ _ _ _ done => follows_one (.updateChart done))
    (fun _ _ _ _ done => follows_one (.createOverride done))
    (fun _ app enabled user now => follows_one (.setAppMetrics app enabled user now))
    (fun _ rows _ => follows_one (.appendHistories rows)) command
  rw [perform_eq_run]
  exact Service.moves_run (fun _ => .refl) (fun left right => left.trans right) moves store

-- A store whose charts come from the editor, or were stored as new ones. Overrides may be stored at any time, and
-- anything may happen that puts no chart.
inductive Edited : Store → Prop where
  | start {store : Store} (reached : Reachable store) (none : store.charts = .empty) : Edited store
  | use {store : Store} (edited : Edited store) (command : Command) : Edited (command.perform store)
  | storeChart {store after : Store} {new : NewChart} {row : Chart} (edited : Edited store)
      (done : store.createChart new = .ok (row, after)) : Edited after
  | storeOverride {store after : Store} {new : NewEnvOverride} {row : EnvOverride} (edited : Edited store)
      (done : store.createOverride new = .ok (row, after)) : Edited after
  | beside {store after : Store} (edited : Edited store) (transaction : Transaction store after)
      (charts : after.charts = store.charts) : Edited after

theorem edited_reachable {store : Store} (edited : Edited store) : Reachable store := by
  induction edited with
  | start reached _ => exact reached
  | use _ command ih => exact follows_reachable (command_follows _ command) ih
  | storeChart _ done ih => exact .step ih (.createChart done)
  | storeOverride _ done ih => exact .step ih (.createOverride done)
  | beside _ transaction _ ih => exact .step ih transaction

theorem puts_some_marks {before after : Store} {app : AppId} (puts : Puts before after) (filed : ChartsFiled before)
    (room : after.chartCount < Id.capacity) (marks : ∃ latest previous, Marks before app latest previous) :
    ∃ latest previous, Marks after app latest previous := by
  obtain ⟨latest, previous, marks⟩ := marks
  rcases puts_marks puts filed room marks with same | ⟨target, _, turned⟩
  · exact ⟨latest, previous, same⟩
  · exact ⟨some target, latest, turned⟩

theorem edited_marks {store : Store} (edited : Edited store) (room : store.chartCount < Id.capacity) (app : AppId) :
    ∃ latest previous, Marks store app latest previous := by
  induction edited with
  | start _ empty => exact ⟨none, none, marks_of_empty empty app⟩
  | @use store edited command ih =>
      have filed : ChartsFiled store := (reachable_orderly (edited_reachable edited)).charts
      have puts := command_puts filed command
      exact puts_some_marks puts filed room (ih (Nat.lt_of_le_of_lt (puts_count puts) room))
  | @storeChart store after new row edited done ih =>
      have filed : ChartsFiled store := (reachable_orderly (edited_reachable edited)).charts
      have puts : Puts store after := .creates done (keeps_charts_refl after)
      exact puts_some_marks puts filed room (ih (Nat.lt_of_le_of_lt (puts_count puts) room))
  | @storeOverride store after new row edited done ih =>
      have kept := keeps_charts_of_flags (create_override_keeps done)
      obtain ⟨latest, previous, marks⟩ := ih (keeps_charts_count kept ▸ room)
      exact ⟨latest, previous, marks_congr (override_charts done) marks⟩
  | @beside store after edited transaction charts ih =>
      obtain ⟨latest, previous, marks⟩ := ih (Nat.lt_of_le_of_lt (transaction_chart_count transaction) room)
      exact ⟨latest, previous, marks_congr charts marks⟩

end Delivery.Charts
