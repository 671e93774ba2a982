import Delivery.Proofs.Store.Trail
set_option autoImplicit false

namespace Delivery.Store

def overridesIn (store : Store) (app : AppId) (environment : EnvironmentId) : List EnvOverride :=
  store.envOverrides.filter fun row => row.targetEnvironment == environment && store.isChartOf app row.chartId

def above (rows : List EnvOverride) (row : EnvOverride) : Nat :=
  rows.countP fun other => row.id.raw < other.id.raw

def Ranked (rows : List EnvOverride) : Prop :=
  ∀ row ∈ rows, (row.latest = true ↔ above rows row = 0) ∧ (row.previous = true ↔ above rows row = 1)

def AllRanked (store : Store) : Prop :=
  ∀ app environment, Ranked (store.overridesIn app environment)

def KeepsOwners (before after : Store) : Prop :=
  ∀ {id old}, before.charts.get? id = some old → ∃ chart, after.charts.get? id = some chart ∧ chart.appId = old.appId

theorem above_append (first second : List EnvOverride) (row : EnvOverride) :
    above (first ++ second) row = above first row + above second row :=
  List.countP_append

theorem above_demoted (rows : List EnvOverride) (row : EnvOverride) :
    above (rows.map EnvOverride.demoted) row = above rows row :=
  List.countP_map

theorem ranked_next {rows : List EnvOverride} {row : EnvOverride} (ranked : Ranked rows)
    (higher : ∀ old ∈ rows, old.id.raw < row.id.raw) (latest : row.latest = true) (older : row.previous = false) :
    Ranked (rows.map EnvOverride.demoted ++ [row]) := by
  intro other member
  rw [above_append, above_demoted]
  rcases List.mem_append.mp member with before | new
  · obtain ⟨old, there, rfl⟩ := List.mem_map.mp before
    have same : above rows old.demoted = above rows old := rfl
    have one : above [row] old.demoted = 1 := by
      have less : old.demoted.id.raw < row.id.raw := higher old there
      simp [above, less]
    have previous : old.demoted.previous = old.latest := rfl
    have down : old.demoted.latest = false := rfl
    rw [same, one, previous, down, (ranked old there).1]
    constructor <;> simp
  · obtain rfl := List.mem_singleton.mp new
    have top : above rows other = 0 := by
      refine List.countP_eq_zero.mpr fun old there => ?_
      simpa using Int64.le_of_lt (higher old there)
    have alone : above [other] other = 0 := by simp [above]
    rw [top, alone, latest, older]
    constructor <;> simp

section Scope

variable {before after : Store} {app : AppId} {environment : EnvironmentId}

theorem keeps_owners_of_charts (same : after.charts = before.charts) : KeepsOwners before after := by
  intro id old found
  exact ⟨old, same ▸ found, rfl⟩

theorem keeps_owners_chart_of (keeps : KeepsOwners before after) {id : ChartId} {chart : Chart}
    (found : before.charts.get? id = some chart) : after.isChartOf app id = before.isChartOf app id := by
  obtain ⟨still, there, own⟩ := keeps found
  simp [isChartOf, found, there, own]

theorem overrides_in_kept (keeps : KeepsOwners before after) (rooted : Rooted before)
    (same : after.envOverrides = before.envOverrides) :
    after.overridesIn app environment = before.overridesIn app environment := by
  rw [overridesIn, overridesIn, same]
  refine List.filter_congr fun row member => ?_
  obtain ⟨key, found⟩ := Table.mem_rows.mp member
  obtain ⟨chart, there⟩ := rooted.charted found
  rw [keeps_owners_chart_of keeps there]

theorem mem_overrides_in {store : Store} {row : EnvOverride} (member : row ∈ store.overridesIn app environment) :
    (∃ key, store.envOverrides.get? key = some row) ∧ row.targetEnvironment = environment ∧
      store.isChartOf app row.chartId = true := by
  obtain ⟨there, passes⟩ := List.mem_filter.mp member
  rw [Bool.and_eq_true, beq_iff_eq] at passes
  exact ⟨Table.mem_rows.mp there, passes⟩

variable {new : NewEnvOverride} {row : EnvOverride} {chart : Chart}

theorem override_highest (done : before.createOverride new = .ok (row, after)) (filed : OverridesFiled before)
    (room : after.envOverrideCount < Id.capacity) {key : EnvOverrideId} {old : EnvOverride}
    (found : before.envOverrides.get? key = some old) : old.id.raw < row.id.raw := by
  obtain ⟨_, _, rowEq, rfl⟩ := create_override_ok done
  have less : compare old.id (Id.nth before.envOverrideCount) = .lt := by
    rw [filed.own found]
    exact next_above filed room found
  rw [rowEq]
  rwa [Id.compare_eq, Std.compare_eq_lt] at less

theorem overrides_in_created (done : before.createOverride new = .ok (row, after))
    (found : before.charts.get? new.chartId = some chart) (rooted : Rooted before)
    (room : after.envOverrideCount < Id.capacity) :
    after.overridesIn app environment =
      (before.overridesIn app environment).map
        (besideOverride before chart.appId new.targetEnvironment row.id) ++
      [row].filter fun row => row.targetEnvironment == environment && before.isChartOf app row.chartId := by
  have scope : ∀ row : EnvOverride, after.isChartOf app row.chartId = before.isChartOf app row.chartId := fun row =>
    chart_of_iff done app row.chartId
  simp only [overridesIn, Table.filter, scope]
  rw [override_rows done found rooted.overrides room, List.filter_append, List.filter_map]
  congr 2
  refine List.filter_congr fun old _ => ?_
  rw [Function.comp, beside_override_flags before chart.appId new.targetEnvironment row.id old]

theorem overrides_in_created_here (done : before.createOverride new = .ok (row, after))
    (found : before.charts.get? new.chartId = some chart) (rooted : Rooted before)
    (room : after.envOverrideCount < Id.capacity) :
    after.overridesIn chart.appId new.targetEnvironment =
      (before.overridesIn chart.appId new.targetEnvironment).map EnvOverride.demoted ++ [row] := by
  obtain ⟨_, _, rowEq, _⟩ := create_override_ok done
  rw [overrides_in_created done found rooted room]
  congr 1
  · refine List.map_congr_left fun old member => ?_
    obtain ⟨⟨key, there⟩, here, own⟩ := mem_overrides_in member
    have different : old.id ≠ row.id := by
      intro same
      have less := override_highest done rooted.overrides room there
      rw [same] at less
      exact Int64.lt_irrefl less
    simp [besideOverride, different, here, own]
  · obtain ⟨here, own⟩ := stored_in_scope done found
    simp [own, here]

theorem overrides_in_created_elsewhere (done : before.createOverride new = .ok (row, after))
    (found : before.charts.get? new.chartId = some chart) (rooted : Rooted before)
    (room : after.envOverrideCount < Id.capacity)
    (elsewhere : ¬(app = chart.appId ∧ environment = new.targetEnvironment)) :
    after.overridesIn app environment = before.overridesIn app environment := by
  -- No override belongs to two applications, nor is it for two environments.
  have outside : ∀ old : EnvOverride, old.targetEnvironment = environment → before.isChartOf app old.chartId = true →
      ¬(old.targetEnvironment = new.targetEnvironment ∧ before.isChartOf chart.appId old.chartId = true) := by
    rintro old here own ⟨there, owned⟩
    obtain ⟨_, first, rfl⟩ := chart_of_owner own
    obtain ⟨_, second, same⟩ := chart_of_owner owned
    rw [Option.some.inj (first.symm.trans second)] at elsewhere
    exact elsewhere ⟨same, here.symm.trans there⟩
  obtain ⟨here, own⟩ := stored_in_scope done found
  have apart : (row.targetEnvironment == environment && before.isChartOf app row.chartId) = false := by
    rw [Bool.and_eq_false_imp, beq_iff_eq, ← Bool.not_eq_true]
    exact fun same owned => outside row same owned ⟨here, own⟩
  rw [overrides_in_created done found rooted room, List.filter_singleton, apart, Bool.cond_false, List.append_nil]
  refine (List.map_congr_left fun old member => ?_).trans (List.map_id _)
  obtain ⟨_, same, owned⟩ := mem_overrides_in member
  exact Option.some.inj ((beside_override_outside (outside old same owned)).mpr rfl)

end Scope

theorem transaction_ranked {before after : Store} (transaction : Transaction before after) (reached : Reachable before)
    (room : HasRoom after) (keeps : KeepsOwners before after) (ranked : AllRanked before) : AllRanked after := by
  have rooted : Rooted before := reachable_rooted reached
  intro app environment
  have untouched : after.envOverrides = before.envOverrides → Ranked (after.overridesIn app environment) := by
    intro same
    rw [overrides_in_kept keeps rooted same]
    exact ranked app environment
  cases transaction_touches transaction with
  | putsApp app same => exact untouched (by rw [same]; rfl)
  | creates done =>
      obtain ⟨_, _, rfl⟩ := create_chart_ok done
      exact untouched rfl
  | updates done =>
      obtain ⟨_, _, _, rfl⟩ := update_chart_ok done
      exact untouched rfl
  | @overrides new row done =>
      obtain ⟨chart, found, rowEq, _⟩ := create_override_ok done
      by_cases scope : app = chart.appId ∧ environment = new.targetEnvironment
      · obtain ⟨rfl, rfl⟩ := scope
        rw [overrides_in_created_here done found rooted room.overrides]
        refine ranked_next (ranked _ _) (fun old member => ?_) (by rw [rowEq]; rfl) (by rw [rowEq]; rfl)
        obtain ⟨⟨key, there⟩, _⟩ := mem_overrides_in member
        exact override_highest done rooted.overrides room.overrides there
      · rw [overrides_in_created_elsewhere done found rooted room.overrides scope]
        exact ranked app environment
  | neither _ _ _ overrides _ => exact untouched overrides

def Write.Fits (store : Store) : Write → Prop
  | .updateChart chart => ∀ current, store.charts.get? chart.id = some current → current.appId = chart.appId
  | _ => True

section Owners

variable {before after : Store}

theorem inserted_charts {artifacts : List NewArtifact} {rows : List Artifact}
    (inserted : before.insertArtifacts artifacts = (rows, after)) : after.charts = before.charts := by
  obtain ⟨_, rfl⟩ := inserted_parts inserted
  rw [insert_artifacts_only before artifacts]

theorem created_keeps_owners {new : NewChart} {row : Chart} (done : before.createChart new = .ok (row, after))
    (filed : ChartsFiled before) (room : HasRoom after) : KeepsOwners before after := by
  intro id old found
  have different : id ≠ row.id := by
    rintro rfl
    rw [(create_chart_ok done).1] at found
    have fresh := later_missing filed (Nat.le_refl _) (created_count done ▸ room.charts)
    cases fresh.symm.trans found
  rw [created_elsewhere done different, found]
  exact ⟨_, rfl, beside_latest_app _ _ old⟩

theorem updated_keeps_owners {chart row : Chart} (done : before.updateChart chart = .ok (row, after))
    (fits : ∀ current, before.charts.get? chart.id = some current → current.appId = chart.appId) :
    KeepsOwners before after := by
  intro id old found
  by_cases here : id = chart.id
  · subst here
    exact ⟨chart.promoted, updated_here done, (fits old found).symm⟩
  · rcases updated_elsewhere done here with same | beside
    · exact ⟨old, same.trans found, rfl⟩
    · rw [beside, found]
      exact ⟨_, rfl, beside_latest_app _ _ old⟩

theorem write_keeps_owners (write : Write) (done : write.act before = .ok after) (fits : write.Fits before)
    (filed : ChartsFiled before) (room : HasRoom after) : KeepsOwners before after := by
  cases write with
  | createChart chart =>
      obtain ⟨_, made⟩ := made_of_map done
      exact created_keeps_owners made filed room
  | updateChart chart =>
      obtain ⟨_, made⟩ := made_of_map done
      exact updated_keeps_owners made fits
  | createOverride override =>
      obtain ⟨_, made⟩ := made_of_map done
      exact keeps_owners_of_charts (override_charts made)
  | insertWorkflow workflow =>
      obtain ⟨_, made⟩ := made_of_map done
      exact keeps_owners_of_charts (by rw [insert_workflow_ok made])
  | updateWorkflow workflow =>
      obtain ⟨_, made⟩ := made_of_map done
      exact keeps_owners_of_charts (by rw [update_workflow_ok made])
  | saveArtifact artifact =>
      obtain ⟨_, made⟩ := made_of_map done
      exact keeps_owners_of_charts (inserted_charts (inserted_single (save_artifact_ok made).2))
  | saveArtifacts artifacts =>
      obtain ⟨_, made⟩ := made_of_map done
      exact keeps_owners_of_charts (inserted_charts (save_artifacts_ok made))
  | saveArtifactOfWorkflow artifact id now =>
      obtain ⟨_, made⟩ := made_of_map done
      obtain ⟨_, workflow, _, _, inserted⟩ := save_artifact_of_workflow_ok made
      exact keeps_owners_of_charts (inserted_charts (inserted_single inserted))
  | deleteArtifact id =>
      obtain ⟨_, made⟩ := made_of_map done
      exact keeps_owners_of_charts (by rw [delete_artifact_ok made])
  | insertRunner run =>
      obtain ⟨_, made⟩ := made_of_map done
      exact keeps_owners_of_charts (by rw [insert_runner_ok made])
  | appendHistories rows =>
      obtain rfl := Except.ok.inj done
      exact keeps_owners_of_charts (keeps_charts_charts (keeps_charts_of_flags (append_histories_keeps before rows)))
  -- All others are never refused, and none of them writes charts.
  | _ =>
      obtain rfl := Except.ok.inj done
      exact keeps_owners_of_charts rfl

end Owners

end Delivery.Store
