import Delivery.Proofs.Charts.Commands
import Delivery.Proofs.Json.Merge
import Delivery.Proofs.Store.Reachable
import Delivery.Rehearsal.Samples
set_option autoImplicit false

namespace Delivery.Charts

open Store

def Explained (store : Store) (chart : Chart) : Prop :=
  ∃ chartRef, store.chartRefs.get? chart.chartRefId = some chartRef ∧
    chart.values = chartRef.defaultValues.merged chart.globalOverride

def AllExplained (store : Store) : Prop :=
  ∀ key chart, store.charts.get? key = some chart → Explained store chart

namespace Command

def WellFormed : Command → Prop
  | .create request _ => request.valuesOverride.WellFormed
  | .update _ delta _ _ _ => delta.WellFormed
  | _ => True

def FollowsOverride (store : Store) : Command → Prop
  | .update id delta _ _ _ => ∀ chart chartRef, store.charts.get? id = some chart →
      store.chartRefs.get? chart.chartRefId = some chartRef →
      chartRef.defaultValues.Follows chart.globalOverride delta
  | _ => True

def AllFollow (store : Store) : List Command → Prop
  | [] => True
  | command :: rest => command.FollowsOverride store ∧ AllFollow (command.perform store) rest

def AlwaysExplained (store : Store) : List Command → Prop
  | [] => AllExplained store
  | command :: rest => AllExplained store ∧ AlwaysExplained (command.perform store) rest

end Command

structure Readable (store : Store) : Prop where
  filed : ChartsFiled store
  refs : ∀ {key chartRef}, store.chartRefs.get? key = some chartRef → chartRef.id = key
  defaults : ∀ {key chartRef}, store.chartRefs.get? key = some chartRef → chartRef.defaultValues.WellFormed
  overrides : ∀ {key chart}, store.charts.get? key = some chart → chart.globalOverride.WellFormed

structure PutsOne (before after : Store) (key : ChartId) (row : Chart) : Prop where
  here : after.charts.get? key = some row
  elsewhere : ∀ {other chart}, other ≠ key → after.charts.get? other = some chart →
    ∃ old, before.charts.get? other = some old ∧ chart.chartRefId = old.chartRefId ∧ chart.values = old.values ∧
      chart.globalOverride = old.globalOverride
  refs : after.chartRefs = before.chartRefs
  filed : ChartsFiled before → ChartsFiled after

section Put

variable {before made after : Store} {key : ChartId} {row : Chart}

theorem created_puts {new : NewChart} (done : before.createChart new = .ok (row, made)) (kept : KeepsCharts made after) :
    PutsOne before after row.id row := by
  have charts : after.charts = made.charts := keeps_charts_charts kept
  refine ⟨?_, ?_, ?_, fun filed => keeps_charts_filed kept (created_filed done filed)⟩
  · rw [charts]
    exact created_here done
  · intro other chart different found
    rw [charts, created_elsewhere done different, Option.map_eq_some_iff] at found
    obtain ⟨old, there, rfl⟩ := found
    exact ⟨old, there, beside_latest_content _ _ _⟩
  · obtain ⟨_, _, madeEq⟩ := create_chart_ok done
    rw [keeps_charts_refs kept, madeEq]

theorem updated_puts {chart : Chart} (done : before.updateChart chart = .ok (row, made))
    (kept : KeepsCharts made after) : PutsOne before after chart.id chart.promoted := by
  have charts : after.charts = made.charts := keeps_charts_charts kept
  refine ⟨?_, ?_, ?_, fun filed => keeps_charts_filed kept (updated_filed done filed)⟩
  · rw [charts]
    exact updated_here done
  · intro other chart different found
    rw [charts] at found
    rcases updated_elsewhere done different with same | beside
    · exact ⟨chart, same ▸ found, rfl, rfl, rfl⟩
    · rw [beside, Option.map_eq_some_iff] at found
      obtain ⟨old, there, rfl⟩ := found
      exact ⟨old, there, beside_latest_content _ _ _⟩
  · obtain ⟨_, _, _, madeEq⟩ := update_chart_ok done
    rw [keeps_charts_refs kept, madeEq]

theorem keeps_charts_readable (kept : KeepsCharts before after) (readable : Readable before) : Readable after := by
  rw [kept]
  exact ⟨readable.filed, readable.refs, readable.defaults, readable.overrides⟩

theorem keeps_charts_explained (kept : KeepsCharts before after) : AllExplained after ↔ AllExplained before := by
  rw [AllExplained, AllExplained, keeps_charts_charts kept]
  simp only [Explained, keeps_charts_refs kept]

theorem puts_readable (puts : PutsOne before after key row) (formed : row.globalOverride.WellFormed)
    (readable : Readable before) : Readable after := by
  obtain ⟨filed, refs, defaults, overrides⟩ := readable
  rw [← puts.refs] at refs defaults
  refine ⟨puts.filed filed, refs, defaults, fun {other chart} found => ?_⟩
  by_cases same : other = key
  · rw [same, puts.here] at found
    rwa [← Option.some.inj found]
  · obtain ⟨old, there, _, _, content⟩ := puts.elsewhere same found
    rw [content]
    exact overrides there

theorem puts_explained_iff (puts : PutsOne before after key row) (explained : AllExplained before) :
    AllExplained after ↔ Explained before row := by
  have refs : ∀ chart, Explained after chart ↔ Explained before chart := fun chart => by
    rw [Explained, Explained, puts.refs]
  constructor
  · intro all
    exact (refs row).mp (all key row puts.here)
  · intro one other chart found
    by_cases same : other = key
    · rw [same, puts.here] at found
      rw [← Option.some.inj found]
      exact (refs row).mpr one
    · obtain ⟨old, there, sameRef, sameValues, sameOverride⟩ := puts.elsewhere same found
      obtain ⟨chartRef, foundRef, values⟩ := explained other old there
      refine (refs chart).mpr ⟨chartRef, ?_, ?_⟩
      · rw [sameRef, foundRef]
      · rw [sameValues, sameOverride, values]

end Put

section Commands

variable {store : Store}

theorem creates_explained {request : TemplateRequest} {now : Instant} {created : Chart} {after : Store}
    (creates : Creates request now store created after) (formed : request.valuesOverride.WellFormed)
    (readable : Readable store) (explained : AllExplained store) : Readable after ∧ AllExplained after := by
  obtain ⟨app, chartRef, repo, made, _, foundRef, _, done, kept⟩ := creates
  have puts := created_puts done kept
  obtain ⟨rowEq, _, _⟩ := create_chart_ok done
  have override : created.globalOverride = request.valuesOverride := by rw [rowEq]; rfl
  refine ⟨puts_readable puts (override ▸ formed) readable, (puts_explained_iff puts explained).mpr ⟨chartRef, ?_, ?_⟩⟩
  · have named : created.chartRefId = request.chartRefId := by
      rw [rowEq]
      exact readable.refs foundRef
    rw [named, foundRef]
  · rw [rowEq]
    rfl

theorem edits_explained_iff {id : ChartId} {delta : Json} {user : UserId} {now : Instant} {after : Store}
    (edits : Edits id delta user now store after) (formed : delta.WellFormed) (readable : Readable store)
    (explained : AllExplained store) :
    Readable after ∧ (AllExplained after ↔ ∀ chart chartRef, store.charts.get? id = some chart →
      store.chartRefs.get? chart.chartRefId = some chartRef →
      chartRef.defaultValues.Follows chart.globalOverride delta) := by
  obtain ⟨current, row, made, found, done, kept⟩ := edits
  have puts := updated_puts done kept
  have override : current.globalOverride.WellFormed := readable.overrides found
  obtain ⟨chartRef, foundRef, values⟩ := explained id current found
  -- The chart was explained, so its values are now the defaults with two patches, one after the other.
  have composes := Json.composes_iff_follows (readable.defaults foundRef) override formed
  refine ⟨puts_readable puts (Json.merged_well_formed override formed) readable, ?_⟩
  rw [puts_explained_iff puts explained]
  constructor
  · rintro ⟨other, there, same⟩ chart otherRef foundChart foundOther
    have chartEq : chart = current := Option.some.inj (foundChart.symm.trans found)
    subst chartEq
    have refEq : otherRef = chartRef := Option.some.inj (foundOther.symm.trans foundRef)
    have againEq : other = chartRef := Option.some.inj (there.symm.trans foundRef)
    subst refEq againEq
    refine composes.mp ?_
    rw [Json.Composes, ← values]
    exact same
  · intro follows
    refine ⟨chartRef, foundRef, ?_⟩
    have composed := composes.mpr (follows current chartRef found foundRef)
    rw [Json.Composes, ← values] at composed
    exact composed

theorem upgrades_explained {app : AppId} {target : ChartRefId} {user : UserId} {now : Instant} {after : Store}
    (upgrades : Upgrades app target user now store after) (readable : Readable store)
    (explained : AllExplained store) : Readable after ∧ AllExplained after := by
  obtain ⟨current, chartRef, appMetrics, created, middle, found, _, creates, kept⟩ := upgrades
  obtain ⟨key, there⟩ := Table.mem_rows.mp (List.mem_of_find?_eq_some found)
  obtain ⟨stillReadable, stillExplained⟩ := creates_explained creates (readable.overrides there) readable explained
  exact ⟨keeps_charts_readable kept stillReadable, (keeps_charts_explained kept).mpr stillExplained⟩

theorem idle_explained_iff {after : Store} {follows : Prop} (kept : KeepsCharts store after) (readable : Readable store)
    (explained : AllExplained store) (holds : follows) : Readable after ∧ (AllExplained after ↔ follows) := by
  have still : AllExplained after := (keeps_charts_explained kept).mpr explained
  exact ⟨keeps_charts_readable kept readable, iff_of_true still holds⟩

theorem command_explained_iff {command : Command} (formed : command.WellFormed) (readable : Readable store)
    (explained : AllExplained store) :
    Readable (command.perform store) ∧ (AllExplained (command.perform store) ↔ command.FollowsOverride store) := by
  have writes : command.Writes store (command.perform store) := command_writes store command
  cases command with
  | update id delta appMetrics user now =>
      rcases update_writes id delta appMetrics user now store with ⟨same, noEdit⟩ | edits
      · rw [same]
        refine ⟨readable, iff_of_true explained fun chart _ found _ => ?_⟩
        have missing := noEdit chart found
        rw [readable.filed.own found, found] at missing
        cases missing
      · exact edits_explained_iff edits formed readable explained
  | create request now =>
      cases writes with
      | nothing _ kept => exact idle_explained_iff kept readable explained trivial
      | creates created creates =>
          have still := creates_explained creates formed readable explained
          exact ⟨still.1, iff_of_true still.2 trivial⟩
  | upgrade app target user now =>
      cases writes with
      | nothing _ kept => exact idle_explained_iff kept readable explained trivial
      | upgrades upgrades =>
          have still := upgrades_explained upgrades readable explained
          exact ⟨still.1, iff_of_true still.2 trivial⟩
  | setMetrics app enabled user now =>
      cases writes with
      | nothing _ kept => exact idle_explained_iff kept readable explained trivial

theorem always_explained_first {commands : List Command} (always : Command.AlwaysExplained store commands) :
    AllExplained store := by
  cases commands with
  | nil => exact always
  | cons command rest => exact always.1

theorem run_explained_iff {commands : List Command} (formed : ∀ command ∈ commands, command.WellFormed)
    (readable : Readable store) (explained : AllExplained store) :
    Command.AlwaysExplained store commands ↔ Command.AllFollow store commands := by
  induction commands generalizing store with
  | nil => exact iff_of_true explained trivial
  | cons command rest ih =>
      have later : ∀ other ∈ rest, other.WellFormed := fun other member => formed other (List.mem_cons_of_mem _ member)
      -- Both sides go on only where this operation left all explained, which is what the next one needs.
      obtain ⟨after, step⟩ := command_explained_iff (formed command List.mem_cons_self) readable explained
      constructor
      · rintro ⟨_, always⟩
        have still : AllExplained (command.perform store) := always_explained_first always
        exact ⟨step.mp still, (ih later after still).mp always⟩
      · rintro ⟨follows, others⟩
        exact ⟨explained, (ih later after (step.mpr follows)).mpr others⟩

end Commands

/-- In a run from a store without charts the values of all charts stay the defaults of their references with
the global overrides merged in, exactly when every edit follows the override of its chart. -/
theorem values_explained_iff (start : Store) (commands : List Command) (reached : Reachable start)
    (noCharts : start.charts = .empty)
    (defaults : ∀ key chartRef, start.chartRefs.get? key = some chartRef → chartRef.defaultValues.WellFormed)
    (formed : ∀ command ∈ commands, command.WellFormed) :
    Command.AlwaysExplained start commands ↔ Command.AllFollow start commands := by
  have orderly : Orderly start := reachable_orderly reached
  have missing : ∀ key chart, start.charts.get? key ≠ some chart := by
    intro key chart found
    rw [noCharts] at found
    cases found
  have readable : Readable start :=
    { filed := orderly.charts
      refs := orderly.chartRefs
      defaults := fun found => defaults _ _ found
      overrides := fun found => absurd found (missing _ _) }
  exact run_explained_iff formed readable fun key chart found => absurd found (missing key chart)

def sampleStore : Store :=
  ((Store.empty.putApp Sample.application).putChartRepo Fixtures.chartRepo true).putChartRef
    { Sample.chartRef with defaultValues := Fixtures.values 1 }

def sampleCommands (delta : Json) : List Command :=
  [.create Sample.templateRequest Sample.moment, .update (Id.nth 0) delta none Fixtures.testUser Sample.moment]

theorem sample_store_reachable : Reachable sampleStore :=
  .step (.step (.step .empty (.putApp _)) (.putChartRepo _ _)) (.putChartRef _)

theorem fixture_values_well_formed {replicas : Int64} (fits : Json.fitsInteger replicas.toInt = true) :
    (Fixtures.values replicas).WellFormed :=
  ⟨List.pairwise_singleton _ _, fits, trivial⟩

theorem sample_defaults_well_formed (key : ChartRefId) (chartRef : ChartRef)
    (found : sampleStore.chartRefs.get? key = some chartRef) : chartRef.defaultValues.WellFormed := by
  have only : (key, chartRef) ∈ sampleStore.chartRefs.entries := Entries.mem_of_find found
  obtain ⟨-, rfl⟩ := Prod.mk.inj (List.mem_singleton.mp only)
  exact fixture_values_well_formed (by decide)

theorem values_explained_when_set :
    Command.AlwaysExplained sampleStore (sampleCommands (Fixtures.values 3)) := by
  have formed : ∀ command ∈ sampleCommands (Fixtures.values 3), command.WellFormed :=
    List.forall_mem_cons.mpr ⟨⟨List.Pairwise.nil, trivial⟩,
      List.forall_mem_cons.mpr ⟨fixture_values_well_formed (by decide), nofun⟩⟩
  refine (values_explained_iff sampleStore _ sample_store_reachable rfl sample_defaults_well_formed formed).mpr ?_
  refine ⟨trivial, fun chart chartRef found _ => ?_, trivial⟩
  have created : ((Command.perform sampleStore (.create Sample.templateRequest Sample.moment)).charts.get?
      (Id.nth 0)).all (·.globalOverride.isObject) = true := by decide
  rw [found] at created
  exact ⟨.inl created, trivial, trivial⟩

theorem values_unexplained_when_removed : Reachable sampleStore ∧ sampleStore.charts = .empty ∧
    ¬Command.AlwaysExplained sampleStore (sampleCommands (.object [("replicaCount", .null)])) := by
  refine ⟨sample_store_reachable, rfl, fun always => ?_⟩
  obtain ⟨chartRef, found, values⟩ := always.2.2 (Id.nth 0) _ rfl
  have same : chartRef = { Sample.chartRef with defaultValues := Fixtures.values 1 } :=
    Option.some.inj (found.symm.trans rfl)
  rw [same] at values
  exact absurd values (by decide)

end Delivery.Charts
