import Delivery.Proofs.Store.Reachable
set_option autoImplicit false

namespace Delivery.Store

abbrev OverridesFiled (store : Store) : Prop :=
  Filed (·.id) store.envOverrides store.envOverrideCount

def besideOverride (store : Store) (app : AppId) (environment : EnvironmentId) (keep : EnvOverrideId)
    (row : EnvOverride) : EnvOverride :=
  if row.id != keep && row.targetEnvironment == environment && store.isChartOf app row.chartId then row.demoted
  else row

def SameButFlags (before after : EnvOverride) : Prop :=
  after = { before with latest := after.latest, previous := after.previous }

theorem same_but_flags_refl (row : EnvOverride) : SameButFlags row row := rfl

theorem same_but_flags_trans {first second third : EnvOverride} (left : SameButFlags first second)
    (right : SameButFlags second third) : SameButFlags first third := by
  rw [SameButFlags] at left right ⊢
  rw [left] at right
  exact right

theorem chart_of_owner {store : Store} {app : AppId} {id : ChartId} (own : store.isChartOf app id = true) :
    ∃ chart, store.charts.get? id = some chart ∧ chart.appId = app := by
  rw [isChartOf, Option.any_eq_true] at own
  obtain ⟨chart, found, same⟩ := own
  exact ⟨chart, found, beq_iff_eq.mp same⟩

section Beside

variable {store : Store} {app : AppId} {environment : EnvironmentId} {keep : EnvOverrideId} {row : EnvOverride}

theorem beside_override_flags (store : Store) (app : AppId) (environment : EnvironmentId) (keep : EnvOverrideId)
    (row : EnvOverride) : SameButFlags row (besideOverride store app environment keep row) := by
  unfold besideOverride
  split <;> rfl

theorem beside_override_id (store : Store) (app : AppId) (environment : EnvironmentId) (keep : EnvOverrideId)
    (row : EnvOverride) : (besideOverride store app environment keep row).id = row.id := by
  rw [beside_override_flags store app environment keep row]

theorem beside_override_elsewhere (elsewhere : row.targetEnvironment ≠ environment) :
    besideOverride store app environment keep row = row := by
  simp [besideOverride, elsewhere]

theorem beside_override_latest (different : row.id ≠ keep) (here : row.targetEnvironment = environment)
    (own : store.isChartOf app row.chartId = true) : (besideOverride store app environment keep row).latest = false := by
  simp [besideOverride, different, here, own, EnvOverride.demoted]

theorem beside_override_outside {found : Option EnvOverride}
    (outside : ¬(row.targetEnvironment = environment ∧ store.isChartOf app row.chartId = true)) :
    found.map (besideOverride store app environment keep) = some row ↔ found = some row := by
  have untouched : ∀ old : EnvOverride,
      ¬(old.targetEnvironment = environment ∧ store.isChartOf app old.chartId = true) →
      besideOverride store app environment keep old = old := by
    intro old outside
    rw [besideOverride, if_neg]
    simp only [Bool.and_eq_true, beq_iff_eq, bne_iff_ne]
    exact fun scope => outside ⟨scope.1.2, scope.2⟩
  rw [Option.map_eq_some_iff]
  constructor
  · rintro ⟨old, rfl, rfl⟩
    rw [beside_override_flags store app environment keep old] at outside
    rw [untouched old outside]
  · rintro rfl
    exact ⟨row, rfl, untouched row outside⟩

end Beside

theorem create_override_ok {store after : Store} {new : NewEnvOverride} {row : EnvOverride}
    (done : store.createOverride new = .ok (row, after)) :
    ∃ chart, store.charts.get? new.chartId = some chart ∧ row = new.stored (Id.nth store.envOverrideCount) ∧
      after = { store with
        envOverrides := (store.envOverrides.mapRows fun _ =>
          besideOverride store chart.appId new.targetEnvironment row.id).insert row.id row
        envOverrideCount := store.envOverrideCount + 1 } := by
  cases found : store.charts.get? new.chartId with
  | none => simp [createOverride, found] at done
  | some chart =>
      simp only [createOverride, found, Except.ok.injEq, Prod.mk.injEq] at done
      obtain ⟨rfl, rfl⟩ := done
      exact ⟨chart, rfl, rfl, rfl⟩

structure LatestOverride (store : Store) (app : AppId) (environment : EnvironmentId) (row : EnvOverride) : Prop where
  found : store.envOverrides.get? row.id = some row
  here : row.targetEnvironment = environment
  own : store.isChartOf app row.chartId = true
  latest : row.latest = true
  only : ∀ {key other}, store.envOverrides.get? key = some other → other.targetEnvironment = environment →
    store.isChartOf app other.chartId = true → other.latest = true → other = row

section Stored

variable {store after : Store} {new : NewEnvOverride} {row : EnvOverride} {chart : Chart}

theorem override_charts (done : store.createOverride new = .ok (row, after)) : after.charts = store.charts :=
  keeps_charts_charts (keeps_charts_of_flags (create_override_keeps done))

theorem override_filed (done : store.createOverride new = .ok (row, after)) (filed : OverridesFiled store) :
    OverridesFiled after := by
  obtain ⟨chart, _, rowEq, rfl⟩ := create_override_ok done
  have named : row.id = Id.nth store.envOverrideCount := by rw [rowEq]; rfl
  have beside := filed_map_rows filed fun _ =>
    beside_override_id store chart.appId new.targetEnvironment row.id
  exact named ▸ filed_insert_next beside named

theorem override_here (done : store.createOverride new = .ok (row, after)) :
    after.envOverrides.get? row.id = some row := by
  obtain ⟨_, _, _, rfl⟩ := create_override_ok done
  exact Table.get_insert_same _ _ _

theorem override_elsewhere (done : store.createOverride new = .ok (row, after))
    (found : store.charts.get? new.chartId = some chart) {key : EnvOverrideId} (different : key ≠ row.id) :
    after.envOverrides.get? key = (store.envOverrides.get? key).map
      (besideOverride store chart.appId new.targetEnvironment row.id) := by
  obtain ⟨owner, there, _, rfl⟩ := create_override_ok done
  obtain rfl : owner = chart := Option.some.inj (there.symm.trans found)
  exact (Table.get_insert_other _ _ different).trans (Table.get_map_rows _ _ _)

theorem override_rows (done : store.createOverride new = .ok (row, after))
    (found : store.charts.get? new.chartId = some chart) (filed : OverridesFiled store)
    (room : after.envOverrideCount < Id.capacity) :
    after.envOverrides.rows = store.envOverrides.rows.map
      (besideOverride store chart.appId new.targetEnvironment row.id) ++ [row] := by
  obtain ⟨owner, there, rowEq, made⟩ := create_override_ok done
  obtain rfl : owner = chart := Option.some.inj (there.symm.trans found)
  have named : row.id = Id.nth store.envOverrideCount := by rw [rowEq]; rfl
  rw [made] at room ⊢
  have above : ∀ other old, (store.envOverrides.mapRows fun _ =>
      besideOverride store owner.appId new.targetEnvironment row.id).get? other = some old →
      compare other row.id = .lt := by
    intro other old present
    rw [Table.get_map_rows, Option.map_eq_some_iff] at present
    obtain ⟨was, before, _⟩ := present
    rw [named]
    exact next_above filed room before
  rw [Table.rows_insert_above row above, Table.rows_map_rows]

theorem override_fresh (done : store.createOverride new = .ok (row, after)) (filed : OverridesFiled store)
    (room : after.envOverrideCount < Id.capacity) : store.envOverrides.get? row.id = none := by
  obtain ⟨_, _, rowEq, rfl⟩ := create_override_ok done
  rw [rowEq]
  exact later_missing filed (Nat.le_refl _) room

theorem override_kept (done : store.createOverride new = .ok (row, after)) (filed : OverridesFiled store)
    (room : after.envOverrideCount < Id.capacity) {key : EnvOverrideId} {old : EnvOverride}
    (there : store.envOverrides.get? key = some old) :
    ∃ kept, after.envOverrides.get? key = some kept ∧ SameButFlags old kept := by
  obtain ⟨chart, found, _⟩ := create_override_ok done
  have different : key ≠ row.id := by
    rintro rfl
    rw [override_fresh done filed room] at there
    cases there
  rw [override_elsewhere done found different, there]
  exact ⟨_, rfl, beside_override_flags _ _ _ _ old⟩

theorem stored_in_scope (done : store.createOverride new = .ok (row, after))
    (found : store.charts.get? new.chartId = some chart) :
    row.targetEnvironment = new.targetEnvironment ∧ store.isChartOf chart.appId row.chartId = true := by
  obtain ⟨_, _, rfl, _⟩ := create_override_ok done
  refine ⟨rfl, ?_⟩
  show (store.charts.get? new.chartId).any _ = true
  simp [found]

theorem override_outside (done : store.createOverride new = .ok (row, after))
    (found : store.charts.get? new.chartId = some chart) (filed : OverridesFiled store)
    (room : after.envOverrideCount < Id.capacity) {old : EnvOverride}
    (outside : ¬(old.targetEnvironment = new.targetEnvironment ∧ store.isChartOf chart.appId old.chartId = true))
    (key : EnvOverrideId) :
    after.envOverrides.get? key = some old ↔ store.envOverrides.get? key = some old := by
  by_cases here : key = row.id
  · rw [here, override_here done, override_fresh done filed room]
    refine iff_of_false ?_ nofun
    intro same
    exact outside (Option.some.inj same ▸ stored_in_scope done found)
  · rw [override_elsewhere done found here]
    exact beside_override_outside outside

theorem newest_here (done : store.createOverride new = .ok (row, after)) (active : new.active = true)
    (filed : OverridesFiled store) (room : after.envOverrideCount < Id.capacity) :
    after.envOverrideFor? row.chartId row.targetEnvironment = some row := by
  obtain ⟨chart, found, rowEq, _⟩ := create_override_ok done
  have alive : row.active = true := by rw [rowEq]; exact active
  simp [envOverrideFor?, Table.findLast?, override_rows done found filed room, alive]

theorem newest_elsewhere (done : store.createOverride new = .ok (row, after)) (filed : OverridesFiled store)
    (room : after.envOverrideCount < Id.capacity) {environment : EnvironmentId}
    (elsewhere : environment ≠ new.targetEnvironment) (id : ChartId) :
    after.envOverrideFor? id environment = store.envOverrideFor? id environment := by
  obtain ⟨chart, found, rowEq, _⟩ := create_override_ok done
  have away : row.targetEnvironment ≠ environment := by rw [rowEq]; exact elsewhere.symm
  let beside := besideOverride store chart.appId new.targetEnvironment row.id
  let counts (row : EnvOverride) : Bool := row.chartId == id && row.targetEnvironment == environment && row.active
  have alike : counts ∘ beside = counts := by
    funext old
    show counts (beside old) = counts old
    have flags : SameButFlags old (beside old) := beside_override_flags _ _ _ _ old
    rw [flags]
  rw [envOverrideFor?, Table.findLast?, override_rows done found filed room, List.reverse_append,
    List.reverse_singleton, List.singleton_append, List.find?_cons_of_neg (by simp [away]), ← List.map_reverse,
    List.find?_map]
  show (store.envOverrides.rows.reverse.find? (counts ∘ beside)).map beside = _
  rw [alike]
  cases newest : store.envOverrides.rows.reverse.find? counts with
  | none => exact newest.symm
  | some old =>
      have passes : counts old = true := List.find?_some newest
      simp only [counts, Bool.and_eq_true, beq_iff_eq] at passes
      have same : beside old = old := beside_override_elsewhere (by rw [passes.1.2]; exact elsewhere)
      rw [Option.map_some, same]
      exact newest.symm

theorem chart_of_iff (done : store.createOverride new = .ok (row, after)) (app : AppId) (id : ChartId) :
    after.isChartOf app id = store.isChartOf app id := by
  rw [isChartOf, isChartOf, override_charts done]

theorem latest_override_here (done : store.createOverride new = .ok (row, after))
    (found : store.charts.get? new.chartId = some chart) (filed : OverridesFiled store) :
    LatestOverride after chart.appId row.targetEnvironment row := by
  obtain ⟨_, _, rowEq, _⟩ := create_override_ok done
  have environment : row.targetEnvironment = new.targetEnvironment := by rw [rowEq]; rfl
  have own : store.isChartOf chart.appId row.chartId = true := by
    have chartId : row.chartId = new.chartId := by rw [rowEq]; rfl
    simp [isChartOf, chartId, found]
  refine ⟨override_here done, rfl, (chart_of_iff done _ _).trans own, by rw [rowEq]; rfl, ?_⟩
  intro key other there same owned latest
  by_cases here : key = row.id
  · rw [here, override_here done] at there
    exact (Option.some.inj there).symm
  · rw [override_elsewhere done found here, Option.map_eq_some_iff] at there
    obtain ⟨old, present, rfl⟩ := there
    have flags := beside_override_flags store chart.appId new.targetEnvironment row.id old
    rw [chart_of_iff done, flags] at owned
    rw [flags, environment] at same
    have apart : old.id ≠ row.id := filed.own present ▸ here
    rw [beside_override_latest apart same owned] at latest
    cases latest

theorem latest_override_elsewhere (done : store.createOverride new = .ok (row, after)) (filed : OverridesFiled store)
    (room : after.envOverrideCount < Id.capacity) {app : AppId} {environment : EnvironmentId}
    (elsewhere : environment ≠ new.targetEnvironment) {other : EnvOverride}
    (latest : LatestOverride store app environment other) : LatestOverride after app environment other := by
  obtain ⟨chart, found, rowEq, _⟩ := create_override_ok done
  have away : row.targetEnvironment ≠ environment := by rw [rowEq]; exact elsewhere.symm
  -- The rows of the environment are the same in both stores.
  have same : ∀ {key old}, old.targetEnvironment = environment →
      (after.envOverrides.get? key = some old ↔ store.envOverrides.get? key = some old) := by
    intro key old here
    by_cases stored : key = row.id
    · rw [stored, override_here done, override_fresh done filed room]
      refine iff_of_false ?_ nofun
      intro equal
      exact away (Option.some.inj equal ▸ here)
    · rw [override_elsewhere done found stored, Option.map_eq_some_iff]
      constructor
      · rintro ⟨was, present, rfl⟩
        have flags := beside_override_flags store chart.appId new.targetEnvironment row.id was
        rw [flags] at here
        rw [beside_override_elsewhere (here ▸ elsewhere)]
        exact present
      · intro present
        exact ⟨old, present, beside_override_elsewhere (here ▸ elsewhere)⟩
  refine ⟨(same latest.here).mpr latest.found, latest.here, ?_, latest.latest, ?_⟩
  · rw [chart_of_iff done]
    exact latest.own
  · intro key old present here own up
    rw [chart_of_iff done] at own
    exact latest.only ((same here).mp present) here own up

end Stored

inductive Touches (before after : Store) : Prop where
  | putsApp (app : Application) (same : after = before.putApp app)
  | creates {new : NewChart} {row : Chart} (done : before.createChart new = .ok (row, after))
  | updates {chart row : Chart} (done : before.updateChart chart = .ok (row, after))
  | overrides {new : NewEnvOverride} {row : EnvOverride} (done : before.createOverride new = .ok (row, after))
  | neither (apps : after.apps = before.apps) (charts : after.charts = before.charts)
      (chartCount : after.chartCount = before.chartCount) (overrides : after.envOverrides = before.envOverrides)
      (overrideCount : after.envOverrideCount = before.envOverrideCount)

theorem inserted_touches {store after : Store} {artifacts : List NewArtifact} {rows : List Artifact}
    (inserted : store.insertArtifacts artifacts = (rows, after)) : Touches store after := by
  obtain ⟨_, rfl⟩ := inserted_parts inserted
  rw [insert_artifacts_only store artifacts]
  exact .neither rfl rfl rfl rfl rfl

theorem transaction_touches {before after : Store} (transaction : Transaction before after) : Touches before after := by
  cases transaction with
  | putApp app => exact .putsApp app rfl
  | createChart done => exact .creates done
  | updateChart done => exact .updates done
  | createOverride done => exact .overrides done
  | insertWorkflow done =>
      obtain rfl := insert_workflow_ok done
      exact .neither rfl rfl rfl rfl rfl
  | updateWorkflow done =>
      obtain rfl := update_workflow_ok done
      exact .neither rfl rfl rfl rfl rfl
  | saveArtifact done => exact inserted_touches (inserted_single (save_artifact_ok done).2)
  | saveArtifacts done => exact inserted_touches (save_artifacts_ok done)
  | saveArtifactOfWorkflow done =>
      obtain ⟨_, workflow, _, _, inserted⟩ := save_artifact_of_workflow_ok done
      obtain ⟨_, rfl⟩ := inserted_parts (inserted_single inserted)
      rw [insert_artifacts_only]
      exact .neither rfl rfl rfl rfl rfl
  | deleteArtifact done =>
      obtain rfl := delete_artifact_ok done
      exact .neither rfl rfl rfl rfl rfl
  | appendHistories rows =>
      have only : OnlyHistory before (before.appendHistories rows).2 := append_histories_only before rows
      rw [only]
      exact .neither rfl rfl rfl rfl rfl
  | insertRunner done =>
      obtain rfl := insert_runner_ok done
      exact .neither rfl rfl rfl rfl rfl
  | _ => exact .neither rfl rfl rfl rfl rfl

theorem transaction_chart_count {before after : Store} (transaction : Transaction before after) :
    before.chartCount ≤ after.chartCount := by
  cases transaction_touches transaction with
  | putsApp app same => exact Nat.le_of_eq (congrArg (·.chartCount) same).symm
  | creates done =>
      obtain ⟨_, _, rfl⟩ := create_chart_ok done
      exact Nat.le_succ _
  | updates done =>
      obtain ⟨_, _, _, rfl⟩ := update_chart_ok done
      exact Nat.le_refl _
  | overrides done =>
      exact Nat.le_of_eq (keeps_charts_count (keeps_charts_of_flags (create_override_keeps done))).symm
  | neither _ _ chartCount _ _ => exact Nat.le_of_eq chartCount.symm

structure HasRoom (store : Store) : Prop where
  charts : store.chartCount < Id.capacity
  overrides : store.envOverrideCount < Id.capacity

theorem transaction_room {before after : Store} (transaction : Transaction before after) (room : HasRoom after) :
    HasRoom before := by
  obtain ⟨charts, overrides⟩ := room
  cases transaction_touches transaction with
  | putsApp app same =>
      rw [same] at charts overrides
      exact ⟨charts, overrides⟩
  | creates done =>
      obtain ⟨_, _, rfl⟩ := create_chart_ok done
      exact ⟨Nat.lt_of_succ_lt charts, overrides⟩
  | updates done =>
      obtain ⟨_, _, _, rfl⟩ := update_chart_ok done
      exact ⟨charts, overrides⟩
  | overrides done =>
      obtain ⟨_, _, _, rfl⟩ := create_override_ok done
      exact ⟨charts, Nat.lt_of_succ_lt overrides⟩
  | neither _ _ chartCount _ overrideCount => exact ⟨chartCount ▸ charts, overrideCount ▸ overrides⟩

structure Rooted (store : Store) : Prop where
  apps : ∀ {key row}, store.apps.get? key = some row → row.id = key
  overrides : OverridesFiled store
  charted : ∀ {key row}, store.envOverrides.get? key = some row → ∃ chart, store.charts.get? row.chartId = some chart

theorem created_still {store after : Store} {new : NewChart} {row old : Chart} {id : ChartId}
    (done : store.createChart new = .ok (row, after)) (found : store.charts.get? id = some old) :
    ∃ chart, after.charts.get? id = some chart := by
  by_cases here : id = row.id
  · exact ⟨row, here ▸ created_here done⟩
  · rw [created_elsewhere done here, found]
    exact ⟨_, rfl⟩

theorem updated_still {store after : Store} {chart row old : Chart} {id : ChartId}
    (done : store.updateChart chart = .ok (row, after)) (found : store.charts.get? id = some old) :
    ∃ chart, after.charts.get? id = some chart := by
  by_cases here : id = chart.id
  · exact ⟨_, here ▸ updated_here done⟩
  · rcases updated_elsewhere done here with same | beside
    · exact ⟨old, same.trans found⟩
    · rw [beside, found]
      exact ⟨_, rfl⟩

theorem override_rooted {store after : Store} {new : NewEnvOverride} {row : EnvOverride}
    (done : store.createOverride new = .ok (row, after)) (rooted : Rooted store) : Rooted after := by
  obtain ⟨chart, found, rowEq, made⟩ := create_override_ok done
  refine ⟨?_, override_filed done rooted.overrides, ?_⟩
  · rw [made]
    exact rooted.apps
  · intro key other there
    rw [override_charts done]
    by_cases here : key = row.id
    · rw [here, override_here done] at there
      rw [← Option.some.inj there, rowEq]
      exact ⟨chart, found⟩
    · rw [override_elsewhere done found here, Option.map_eq_some_iff] at there
      obtain ⟨old, present, rfl⟩ := there
      obtain ⟨owner, belongs⟩ := rooted.charted present
      rw [beside_override_flags store chart.appId new.targetEnvironment row.id old]
      exact ⟨owner, belongs⟩

theorem transaction_rooted {before after : Store} (transaction : Transaction before after) (rooted : Rooted before) :
    Rooted after := by
  cases transaction_touches transaction with
  | putsApp app same =>
      rw [same]
      exact ⟨own_insert app rooted.apps, rooted.overrides, rooted.charted⟩
  | creates done =>
      have charted : ∀ {key row}, before.envOverrides.get? key = some row →
          ∃ chart, after.charts.get? row.chartId = some chart := by
        intro key row found
        obtain ⟨chart, there⟩ := rooted.charted found
        exact created_still done there
      obtain ⟨_, _, rfl⟩ := create_chart_ok done
      exact ⟨rooted.apps, rooted.overrides, charted⟩
  | updates done =>
      have charted : ∀ {key row}, before.envOverrides.get? key = some row →
          ∃ chart, after.charts.get? row.chartId = some chart := by
        intro key row found
        obtain ⟨chart, there⟩ := rooted.charted found
        exact updated_still done there
      obtain ⟨_, _, _, rfl⟩ := update_chart_ok done
      exact ⟨rooted.apps, rooted.overrides, charted⟩
  | overrides done => exact override_rooted done rooted
  | neither apps charts _ overrides overrideCount =>
      refine ⟨?_, ?_, ?_⟩
      · rw [apps]
        exact rooted.apps
      · rw [OverridesFiled, overrides, overrideCount]
        exact rooted.overrides
      · rw [overrides, charts]
        exact rooted.charted

theorem reachable_rooted {store : Store} (reached : Reachable store) : Rooted store := by
  induction reached with
  | empty => exact ⟨nofun, filed_empty _ _, nofun⟩
  | step _ transaction ih => exact transaction_rooted transaction ih

end Delivery.Store
