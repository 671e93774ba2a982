import Delivery.Proofs.Charts.Upgrades
import Delivery.Proofs.History.Changes
import Delivery.Proofs.History.Trail
set_option autoImplicit false

namespace Delivery

namespace WorkloadKind

def StandsFor (text : String) (kind : WorkloadKind) : Prop :=
  Text.trim text = kind.chartName ∨ Text.trim text = "" ∧ kind = .rollout

theorem of_chart_name_iff {text : String} {kind : WorkloadKind} :
    ofChartName? text = some kind ↔ StandsFor text kind := by
  rw [ofChartName?, StandsFor]
  by_cases empty : Text.trim text = ""
  · have named : "" ≠ kind.chartName := by cases kind <;> decide
    simp [empty, named, eq_comm]
  · simp only [empty, if_false, false_and, or_false]
    constructor
    · intro found
      simpa [eq_comm] using List.find?_some found
    · intro same
      rw [same]
      cases kind <;> rfl

theorem stands_for_one {text : String} {first second : WorkloadKind} (one : StandsFor text first)
    (other : StandsFor text second) : first = second :=
  Option.some.inj ((of_chart_name_iff.mpr one).symm.trans (of_chart_name_iff.mpr other))

end WorkloadKind

open WorkloadKind

theorem names_compatible_iff {old new : String} :
    chartNamesCompatible old new = true ↔ ∃ kind, StandsFor old kind ∧ StandsFor new kind := by
  simp only [← of_chart_name_iff, chartNamesCompatible]
  cases ofChartName? old with
  | none => simp
  | some first =>
      cases ofChartName? new with
      | none => simp
      | some second => simpa using eq_comm

theorem names_compatible_swap (first second : String) :
    chartNamesCompatible first second = chartNamesCompatible second first := by
  rw [Bool.eq_iff_iff, names_compatible_iff, names_compatible_iff]
  exact exists_congr fun _ => and_comm

theorem names_compatible_chain {first second third : String} (left : chartNamesCompatible first second = true)
    (right : chartNamesCompatible second third = true) : chartNamesCompatible first third = true := by
  obtain ⟨kind, one, two⟩ := names_compatible_iff.mp left
  obtain ⟨other, again, three⟩ := names_compatible_iff.mp right
  rw [stands_for_one again two] at three
  exact names_compatible_iff.mpr ⟨kind, one, three⟩

theorem names_compatible_self {name : String} :
    chartNamesCompatible name name = true ↔ ∃ kind, StandsFor name kind := by
  rw [names_compatible_iff]
  exact exists_congr fun _ => and_self_iff

def CanaryFormed (values : Json) : Prop :=
  ∀ canary, values.get? "flaggerCanary" = some canary → ∃ enabled, canary.get? "enabled" = some (.bool enabled)

theorem canary_enabled_formed {values : Json} (formed : CanaryFormed values) :
    ∃ enabled, canaryEnabled values = .ok enabled := by
  cases found : values.get? "flaggerCanary" with
  | none => exact ⟨false, by simp only [canaryEnabled, found]⟩
  | some canary =>
      obtain ⟨enabled, said⟩ := formed canary found
      exact ⟨enabled, by simp only [canaryEnabled, found, said]⟩

namespace Charts

open Store

inductive CreationRefused : Error → Prop where
  | absent (kind : EntityKind) (id : Int64) : CreationRefused (.notFound kind id)
  | unstored (kind : EntityKind) (id : Int64) : CreationRefused (.store (.notFound kind id))
  | bound (app : AppId) (chartRef : ChartRefId) : CreationRefused (.validation (.duplicateChartReference app chartRef))
  | taken (app : AppId) (chartRef : ChartRefId) : CreationRefused (.store (.duplicateChart app chartRef))

section Refusals

variable {store : Store} {user : UserId} {now : Instant}

theorem create_chart_error {new : NewChart} {error : Error} (refused : store.createChart new = .error error) :
    error = .store (.duplicateChart new.appId new.chartRefId) := by
  rw [createChart] at refused
  split at refused
  · exact (Except.error.inj refused).symm
  · cases refused

theorem create_override_error {new : NewEnvOverride} {error : Error}
    (refused : store.createOverride new = .error error) : error = Store.missing new.chartId := by
  rw [createOverride] at refused
  split at refused
  · exact (Except.error.inj refused).symm
  · cases refused

theorem create_refused (request : TemplateRequest) (now : Instant) (store : Store) :
    (create request now).Ends store (fun _ _ => True) fun error _ => CreationRefused error := by
  refine Service.ends_bind (Service.ends_require (fun app _ => ?_) fun _ => .absent _ _)
  refine Service.ends_bind (Service.ends_require (fun chartRef _ => ?_) fun _ => .absent _ _)
  refine Service.ends_bind (Service.ends_look ?_)
  cases store.chartByRef? app.id chartRef.id with
  | some _ => exact Service.ends_bind (Service.ends_throw (.bound _ _))
  | none =>
      refine Service.ends_bind (Service.ends_require (fun repo _ => ?_) fun _ => .absent _ _)
      refine Service.ends_bind (next_version_ends ?_)
      refine Service.ends_bind (Service.ends_transact (fun created made _ => ?_) fun error refused => ?_)
      · refine Service.ends_bind (Service.ends_act (Service.ends_bind ?_))
        refine Service.ends_weaken (Recorder.record_template_change_ends created _ request.userId now _) ?_ ?_
        · exact fun _ _ _ => Service.ends_pure trivial
        · rintro _ _ ⟨rfl, _⟩
          exact .absent _ _
      · rw [create_chart_error refused]
        exact .taken _ _

theorem record_override_change_refused (override : EnvOverride) (appMetrics : Bool) (store : Store) :
    (Recorder.recordOverrideChange override appMetrics none user now).Ends store (fun _ _ => True)
      fun error _ => CreationRefused error := by
  refine Service.ends_bind (Service.ends_require (fun chart _ => ?_) fun _ => .absent _ _)
  refine Service.ends_bind (Service.ends_require (fun chartRef _ => ?_) fun _ => .absent _ _)
  exact Service.ends_bind (Service.ends_look (Service.ends_act trivial))

theorem carry_override_refused (app : AppId) (target : ChartId) (row : EnvOverride) (store : Store) :
    (carryOverride app target user now row).Ends store (fun _ _ => True) fun error _ => CreationRefused error := by
  refine Service.ends_bind (Service.ends_transact (fun created made _ => ?_) fun error refused => ?_)
  · refine Service.ends_bind (Recorder.resolve_app_metrics_ends (Service.ends_bind ?_))
    exact Service.ends_weaken (record_override_change_refused created _ made) (fun _ _ _ => Service.ends_pure trivial)
      fun _ _ refused => refused
  · rw [create_override_error refused]
    exact .unstored _ _

theorem carry_all_refused (app : AppId) (target : ChartId) (rows : List EnvOverride) (store : Store) :
    (rows.forM (carryOverride app target user now)).Ends store (fun _ _ => True)
      fun error _ => CreationRefused error := by
  induction rows generalizing store with
  | nil => exact Service.ends_pure trivial
  | cons row rest ih =>
      exact Service.ends_bind (Service.ends_weaken (carry_override_refused app target row store)
        (fun _ after _ => ih after) fun _ _ refused => refused)

end Refusals

section Gate

variable {store : Store} {app : AppId} {target : ChartRefId} {current : Chart} {before after : ChartRef}

theorem check_kinds_names (formedOld : CanaryFormed current.values) (formedNew : CanaryFormed after.defaultValues) :
    checkKinds current before after = if chartNamesCompatible before.name after.name then .ok ()
      else .error (.validation (.incompatibleChartKinds before.name after.name)) := by
  obtain ⟨first, saidOld⟩ := canary_enabled_formed formedOld
  obtain ⟨second, saidNew⟩ := canary_enabled_formed formedNew
  rw [checkKinds, saidOld, saidNew, chartNamesCompatible]
  simp only [ChartKind.ofChartName?]
  cases ofChartName? before.name <;> cases ofChartName? after.name <;> rfl

theorem compatible_answer (foundOld : store.chartRefs.get? current.chartRefId = some before)
    (foundNew : store.chartRefs.get? target = some after) :
    (compatible current.chartRefId target).run store = (.ok (chartNamesCompatible before.name after.name), store) := by
  refine Service.run_of_ends (Service.ends_bind (Service.ends_require (fun first one => ?_) fun absent => ?_))
  · refine Service.ends_bind (Service.ends_require (fun second two => ?_) fun absent => ?_)
    · cases one.symm.trans foundOld
      cases two.symm.trans foundNew
      exact Service.ends_pure ⟨rfl, rfl⟩
    · cases absent.symm.trans foundNew
  · cases absent.symm.trans foundOld

-- The gate lets pass, or turns away before anything is written; what fails behind it fails for another reason.
theorem upgrade_gate_ends (isLatest : store.latestChart? app = some current)
    (foundOld : store.chartRefs.get? current.chartRefId = some before)
    (foundNew : store.chartRefs.get? target = some after) (user : UserId) (now : Instant) :
    (upgrade app target user now).Ends store (fun _ _ => checkKinds current before after = .ok ())
      fun error left => checkKinds current before after = .error error ∧ left = store ∨
        checkKinds current before after = .ok () ∧ CreationRefused error := by
  refine Service.ends_bind (Service.ends_require (fun chart one => ?_) fun absent => ?_)
  · cases one.symm.trans isLatest
    refine Service.ends_bind (Service.ends_require (fun old two => ?_) fun absent => ?_)
    · cases two.symm.trans foundOld
      refine Service.ends_bind (Service.ends_require (fun new three => ?_) fun absent => ?_)
      · cases three.symm.trans foundNew
        refine Service.ends_bind (Service.ends_of_except (fun _ passed => ?_) fun _ refused => .inl ⟨refused, rfl⟩)
        refine Service.ends_bind (Service.ends_look (Service.ends_bind ?_))
        refine Service.ends_weaken (create_refused _ now store) (fun created middle _ => ?_)
          fun _ _ refused => .inr ⟨passed, refused⟩
        refine Service.ends_bind (Service.ends_look (Service.ends_bind ?_))
        exact Service.ends_weaken (carry_all_refused app created.id _ middle) (fun _ _ _ => Service.ends_pure passed)
          fun _ _ refused => .inr ⟨passed, refused⟩
      · cases absent.symm.trans foundNew
    · cases absent.symm.trans foundOld
  · cases absent.symm.trans isLatest

theorem turned_away (isLatest : store.latestChart? app = some current)
    (foundOld : store.chartRefs.get? current.chartRefId = some before)
    (foundNew : store.chartRefs.get? target = some after) (user : UserId) (now : Instant) {error : Error}
    (refused : checkKinds current before after = .error error) :
    (upgrade app target user now).run store = (.error error, store) := by
  refine Service.ends_answer (motive := fun answer left => (answer, left) = (.error error, store))
    (upgrade_gate_ends isLatest foundOld foundNew user now) rfl ?_ ?_
  · intro _ _ passed
    cases refused.symm.trans passed
  · rintro _ left (⟨same, rfl⟩ | ⟨passed, _⟩)
    · cases refused.symm.trans same
      rfl
    · cases refused.symm.trans passed

/-- The upgrade gate and the compatibility query decide alike, whatever the canary sections say as long as they are
well formed: the upgrade fails on incompatible kinds, naming both reference charts, exactly if the query answers no.
Names are compatible in both directions and along chains, and with themselves exactly if they stand for a workload. So
an application on a chart of an unknown family is never upgraded, and nothing is written when it is tried. -/
theorem upgrade_gate_agrees (isLatest : store.latestChart? app = some current)
    (foundOld : store.chartRefs.get? current.chartRefId = some before)
    (foundNew : store.chartRefs.get? target = some after) (formedOld : CanaryFormed current.values)
    (formedNew : CanaryFormed after.defaultValues) :
    (∀ user now old new, ((upgrade app target user now).run store).1 =
        .error (.validation (.incompatibleChartKinds old new)) ↔
      ((compatible current.chartRefId target).run store).1 = .ok false ∧ old = before.name ∧ new = after.name) ∧
    ((compatible current.chartRefId target).run store).1 = .ok (chartNamesCompatible before.name after.name) ∧
    (∀ first second, chartNamesCompatible first second = chartNamesCompatible second first) ∧
    (∀ first second third, chartNamesCompatible first second = true → chartNamesCompatible second third = true →
      chartNamesCompatible first third = true) ∧
    (∀ name, chartNamesCompatible name name = true ↔ ∃ kind, StandsFor name kind) ∧
    ((∀ kind, ¬StandsFor before.name kind) → ∀ user now, (upgrade app target user now).run store =
      (.error (.validation (.incompatibleChartKinds before.name after.name)), store)) := by
  have gate : checkKinds current before after = _ := check_kinds_names formedOld formedNew
  have query := compatible_answer foundOld foundNew
  refine ⟨fun user now old new => ?_, by rw [query], names_compatible_swap,
    fun _ _ _ => names_compatible_chain, fun _ => names_compatible_self, fun unknown user now => ?_⟩
  · rw [query]
    cases alike : chartNamesCompatible before.name after.name with
    | false =>
        rw [alike] at gate
        rw [turned_away isLatest foundOld foundNew user now gate]
        simp [eq_comm]
    | true =>
        rw [alike] at gate
        refine iff_of_false (fun failed => ?_) (by simp)
        have ends := upgrade_gate_ends isLatest foundOld foundNew user now
        rcases Service.ends_error ends (Prod.ext failed rfl) with ⟨refused, _⟩ | ⟨_, refused⟩
        · cases refused.symm.trans gate
        · cases refused
  · have unlike : chartNamesCompatible before.name after.name = false := by
      rw [← Bool.not_eq_true, names_compatible_iff]
      rintro ⟨kind, stands, _⟩
      exact unknown kind stands
    rw [unlike] at gate
    exact turned_away isLatest foundOld foundNew user now gate

end Gate

def sampleCanary : Json :=
  .ofMembers [("flaggerCanary", .ofMembers [("enabled", .bool true)])]

def sampleCanaryStore : Store :=
  Write.perform (Fixtures.seedApp .empty) (.createChart { Sample.newChart with values := sampleCanary })

theorem sample_canary_formed : CanaryFormed sampleCanary := by
  intro canary found
  cases (Option.some.inj found : Json.ofMembers [("enabled", .bool true)] = canary)
  exact ⟨true, rfl⟩

theorem chart_defaults_formed : CanaryFormed Fixtures.chartDefaults := by
  intro canary found
  cases (found : none = some canary)

theorem sample_gate_agrees :
    let deployment := WorkloadKind.deployment.chartName
    let job := WorkloadKind.job.chartName
    ((compatible ⟨1⟩ ⟨3⟩).run sampleCanaryStore).1 = .ok false ∧
    ((upgrade ⟨1⟩ ⟨3⟩ Fixtures.testUser Sample.moment).run sampleCanaryStore).1 =
      .error (.validation (.incompatibleChartKinds deployment job)) ∧
    ((compatible ⟨1⟩ ⟨2⟩).run sampleCanaryStore).1 = .ok true ∧
    ∀ old new, ((upgrade ⟨1⟩ ⟨2⟩ Fixtures.testUser Sample.moment).run sampleCanaryStore).1 ≠
      .error (.validation (.incompatibleChartKinds old new)) := by
  have isLatest : sampleCanaryStore.latestChart? ⟨1⟩ = some _ := rfl
  have deployments : sampleCanaryStore.chartRefs.get? ⟨1⟩ = some _ := rfl
  have newer : sampleCanaryStore.chartRefs.get? ⟨2⟩ = some _ := rfl
  have jobs : sampleCanaryStore.chartRefs.get? ⟨3⟩ = some _ := rfl
  obtain ⟨apart, query, _⟩ :=
    upgrade_gate_agrees isLatest deployments jobs sample_canary_formed chart_defaults_formed
  obtain ⟨alike, answer, _⟩ :=
    upgrade_gate_agrees isLatest deployments newer sample_canary_formed chart_defaults_formed
  have no : ((compatible ⟨1⟩ ⟨3⟩).run sampleCanaryStore).1 = .ok false := query.trans (by decide)
  have yes : ((compatible ⟨1⟩ ⟨2⟩).run sampleCanaryStore).1 = .ok true := answer.trans (by decide)
  refine ⟨no, (apart _ _ _ _).mpr ⟨no, rfl, rfl⟩, yes, fun old new failed => ?_⟩
  cases yes.symm.trans ((alike _ _ _ _).mp failed).1

end Charts

end Delivery
