import Delivery.Proofs.Store.Charts
set_option autoImplicit false

namespace Delivery.Charts

open Store

-- The flags of the application's charts are two pointers: each flag is up on the chart that its pointer
-- names and on no other. Only an application without charts has no latest one.
structure Marks (store : Store) (app : AppId) (latest previous : Option ChartId) : Prop where
  latestFlag : ∀ {key chart}, store.charts.get? key = some chart → chart.appId = app →
    (chart.latest = true ↔ latest = some key)
  previousFlag : ∀ {key chart}, store.charts.get? key = some chart → chart.appId = app →
    (chart.previous = true ↔ previous = some key)
  latestOwned : ∀ {key}, latest = some key → ∃ chart, store.charts.get? key = some chart ∧ chart.appId = app
  previousOwned : ∀ {key}, previous = some key → ∃ chart, store.charts.get? key = some chart ∧ chart.appId = app
  apart : ∀ {key}, latest = some key → previous ≠ some key
  someLatest : ∀ {key chart}, store.charts.get? key = some chart → chart.appId = app → latest ≠ none
  lone : previous = none → ∀ {key chart}, store.charts.get? key = some chart → chart.appId = app →
    latest = some key

theorem marks_of_empty {store : Store} (none : store.charts = .empty) (app : AppId) :
    Marks store app Option.none Option.none := by
  have missing : ∀ {key chart}, store.charts.get? key ≠ some chart := by
    intro key chart found
    rw [none, Table.get_empty] at found
    cases found
  exact ⟨fun found => absurd found missing, fun found => absurd found missing, nofun, nofun, nofun,
    fun found => absurd found missing, fun _ _ _ found => absurd found missing⟩

theorem marks_congr {before after : Store} {app : AppId} {latest previous : Option ChartId}
    (charts : after.charts = before.charts) (marks : Marks before app latest previous) :
    Marks after app latest previous := by
  obtain ⟨latestFlag, previousFlag, latestOwned, previousOwned, apart, someLatest, lone⟩ := marks
  rw [← charts] at latestFlag previousFlag latestOwned previousOwned someLatest lone
  exact ⟨latestFlag, previousFlag, latestOwned, previousOwned, apart, someLatest, lone⟩

section Put

variable {before after : Store} {app : AppId} {target : ChartId} {row : Chart} {latest previous : Option ChartId}

structure PutLatest (before after : Store) (target : ChartId) (row : Chart) : Prop where
  here : after.charts.get? target = some row
  latest : row.latest = true
  previous : row.previous = false
  elsewhere : ∀ {key}, key ≠ target →
    after.charts.get? key = (before.charts.get? key).map (besideLatest row.appId target)
  owner : ∀ {old}, before.charts.get? target = some old → old.appId = row.appId

theorem put_found (put : PutLatest before after target row) {key : ChartId} {chart : Chart}
    (different : key ≠ target) (found : after.charts.get? key = some chart) :
    ∃ old, before.charts.get? key = some old ∧ chart = besideLatest row.appId target old := by
  rw [put.elsewhere different, Option.map_eq_some_iff] at found
  obtain ⟨old, there, same⟩ := found
  exact ⟨old, there, same.symm⟩

theorem put_kept (put : PutLatest before after target row) {key : ChartId} {old : Chart}
    (found : before.charts.get? key = some old) :
    ∃ chart, after.charts.get? key = some chart ∧ chart.appId = old.appId := by
  by_cases same : key = target
  · subst same
    exact ⟨row, put.here, (put.owner found).symm⟩
  · exact ⟨_, by rw [put.elsewhere same, found]; rfl, beside_latest_app _ _ _⟩

theorem put_marks_other (put : PutLatest before after target row) (other : app ≠ row.appId)
    (marks : Marks before app latest previous) : Marks after app latest previous := by
  -- No row of the application is written.
  have same : ∀ {key chart}, after.charts.get? key = some chart → chart.appId = app →
      before.charts.get? key = some chart := by
    intro key chart found own
    have different : key ≠ target := by
      rintro rfl
      rw [put.here] at found
      exact other (Option.some.inj found ▸ own.symm)
    obtain ⟨old, there, rfl⟩ := put_found put different found
    rw [beside_latest_app] at own
    rw [beside_latest_other (own ▸ other), there]
  have kept : ∀ {key}, (∃ chart, before.charts.get? key = some chart ∧ chart.appId = app) →
      ∃ chart, after.charts.get? key = some chart ∧ chart.appId = app := by
    rintro key ⟨old, there, rfl⟩
    exact put_kept put there
  exact ⟨fun found own => marks.latestFlag (same found own) own,
    fun found own => marks.previousFlag (same found own) own,
    fun points => kept (marks.latestOwned points), fun points => kept (marks.previousOwned points),
    marks.apart, fun found own => marks.someLatest (same found own) own,
    fun alone _ _ found own => marks.lone alone (same found own) own⟩

theorem put_marks_own (filed : ChartsFiled before) (put : PutLatest before after target row)
    (turns : latest ≠ some target) (marks : Marks before row.appId latest previous) :
    Marks after row.appId (some target) latest := by
  -- Every other chart of the application is demoted: the flag of the latest one becomes that of the
  -- previous one, and the flag of the previous one goes down.
  have demoted : ∀ {key chart}, key ≠ target → after.charts.get? key = some chart → chart.appId = row.appId →
      ∃ old, before.charts.get? key = some old ∧ old.appId = row.appId ∧ chart = old.demoted := by
    intro key chart different found own
    obtain ⟨old, there, rfl⟩ := put_found put different found
    rw [beside_latest_app] at own
    have apart : old.id ≠ target := filed.own there ▸ different
    exact ⟨old, there, own, beside_latest_own own apart⟩
  refine ⟨?_, ?_, ?_, ?_, ?_, ?_, ?_⟩
  · intro key chart found own
    by_cases same : key = target
    · subst same
      rw [put.here] at found
      simp [← Option.some.inj found, put.latest]
    · obtain ⟨old, _, _, rfl⟩ := demoted same found own
      simp [Chart.demoted, Ne.symm same]
  · intro key chart found own
    by_cases same : key = target
    · subst same
      rw [put.here] at found
      simp [← Option.some.inj found, put.previous, turns]
    · obtain ⟨old, there, owned, rfl⟩ := demoted same found own
      exact marks.latestFlag there owned
  · rintro key points
    cases points
    exact ⟨row, put.here, rfl⟩
  · intro key points
    obtain ⟨old, there, own⟩ := marks.latestOwned points
    obtain ⟨chart, found, kept⟩ := put_kept put there
    exact ⟨chart, found, kept.trans own⟩
  · rintro key points
    cases points
    exact turns
  · exact nofun
  · intro alone key chart found own
    by_cases same : key = target
    · rw [same]
    · obtain ⟨old, there, owned, _⟩ := demoted same found own
      exact absurd alone (marks.someLatest there owned)

theorem rewrite_marks (here : after.charts.get? target = some row) (latestFlag : row.latest = true)
    (previousFlag : row.previous = false) {old : Chart} (found : before.charts.get? target = some old)
    (owner : old.appId = row.appId) (points : old.latest = true)
    (elsewhere : ∀ {key}, key ≠ target → after.charts.get? key = before.charts.get? key)
    (marks : Marks before app latest previous) : Marks after app latest previous := by
  -- The chart was the latest and so not the previous one; its flags are written as they were.
  have flags : ∀ {key chart}, after.charts.get? key = some chart → chart.appId = app →
      ∃ was, before.charts.get? key = some was ∧ was.appId = app ∧
        chart.latest = was.latest ∧ (chart.previous = true ↔ previous = some key) := by
    intro key chart there own
    by_cases same : key = target
    · subst same
      rw [here] at there
      have rowEq : row = chart := Option.some.inj there
      subst rowEq
      have latestHere : latest = some key := (marks.latestFlag found (owner.trans own)).mp points
      exact ⟨old, found, owner.trans own, latestFlag.trans points.symm, by simp [previousFlag, marks.apart latestHere]⟩
    · rw [elsewhere same] at there
      exact ⟨chart, there, own, rfl, marks.previousFlag there own⟩
  have kept : ∀ {key}, (∃ chart, before.charts.get? key = some chart ∧ chart.appId = app) →
      ∃ chart, after.charts.get? key = some chart ∧ chart.appId = app := by
    rintro key ⟨chart, there, own⟩
    by_cases same : key = target
    · subst same
      have chartEq : old = chart := Option.some.inj (found.symm.trans there)
      exact ⟨row, here, owner.symm.trans (chartEq ▸ own)⟩
    · exact ⟨chart, (elsewhere same).trans there, own⟩
  refine ⟨?_, ?_, fun points => kept (marks.latestOwned points), fun points => kept (marks.previousOwned points),
    marks.apart, ?_, ?_⟩
  · intro key chart there own
    obtain ⟨was, present, owned, same, _⟩ := flags there own
    rw [same]
    exact marks.latestFlag present owned
  · intro key chart there own
    obtain ⟨_, _, _, _, flag⟩ := flags there own
    exact flag
  · intro key chart there own
    obtain ⟨was, present, owned, _⟩ := flags there own
    exact marks.someLatest present owned
  · intro alone key chart there own
    obtain ⟨was, present, owned, _⟩ := flags there own
    exact marks.lone alone present owned

end Put

end Delivery.Charts
