import Delivery.Proofs.Charts.Editing
import Delivery.Proofs.Charts.Metrics
set_option autoImplicit false

namespace Delivery.Charts

open Store

inductive Event where
  | use (command : Command)
  | registerApp (app : Application)
  | registerRef (chartRef : ChartRef)
  | registerRepo (repo : ChartRepo) (isDefault : Bool)

namespace Event

def perform (store : Store) : Event → Store
  | .use command => command.perform store
  | .registerApp app => store.putApp app
  | .registerRef chartRef => store.putChartRef chartRef
  | .registerRepo repo isDefault => store.putChartRepo repo isDefault

def performAll (store : Store) (events : List Event) : Store :=
  events.foldl perform store

end Event

theorem perform_events_append (store : Store) (earlier later : List Event) :
    Event.performAll store (earlier ++ later) = Event.performAll (Event.performAll store earlier) later :=
  List.foldl_append

structure Adds (before after : Store) (created : ChartIdentity) : Prop where
  last : after.identities = before.identities ++ [created]
  free : ∀ chart ∈ before.identities, ¬(chart.appId = created.appId ∧ chart.chartRefId = created.chartRefId)
  version : created.version = created.bucket.next before.identities
  reference : ∃ chartRef, before.chartRefs.get? created.chartRefId = some chartRef ∧
    created.version.major = chartRef.version.major ∧ created.version.minor = chartRef.version.minor

inductive Extends (before after : Store) : Prop where
  | still (same : after.identities = before.identities)
  | adds {created : ChartIdentity} (adds : Adds before after created)

structure Numbered (charts : List ChartIdentity) : Prop where
  counted : ∀ bucket : Bucket, (bucket.members charts).length ≤ 4294967295 →
    (bucket.members charts).map (·.version.patch.toNat) = List.range' 1 (bucket.members charts).length
  single : ∀ first ∈ charts, ∀ second ∈ charts, first.appId = second.appId →
    first.chartRefId = second.chartRefId → first = second

section Step

variable {before after : Store}

theorem creates_adds {request : TemplateRequest} {now : Instant} {created : Chart} (orderly : Orderly before)
    (room : after.chartCount < Id.capacity) (creates : Creates request now before created after) :
    Adds before after created.identity := by
  obtain ⟨app, chartRef, repo, made, _, foundRef, _, done, kept⟩ := creates
  obtain ⟨rowEq, _, _⟩ := create_chart_ok done
  have more : before.chartCount + 1 < Id.capacity := by
    rw [keeps_charts_count kept, created_count done] at room
    exact room
  let bucket : Bucket := ⟨repo.name, app.appName, chartRef.version.major, chartRef.version.minor⟩
  have version : created.version = bucket.next before.identities := by
    rw [rowEq]
    exact version_after_newest before repo.name app.appName chartRef.version
  obtain ⟨major, minor, _⟩ := bucket.next_patch before.identities
  rw [← version] at major minor
  have own : created.identity.bucket = bucket := by
    rw [ChartIdentity.bucket, Bucket.mk.injEq]
    exact ⟨by rw [rowEq]; rfl, by rw [rowEq]; rfl, major, minor⟩
  have reference : created.chartRefId = request.chartRefId := by
    rw [rowEq]
    exact orderly.chartRefs foundRef
  exact
    { last := (identities_congr (keeps_charts_charts kept)).trans (created_identities orderly.charts more done)
      free := created_free done
      version := own ▸ version
      reference := ⟨chartRef, (congrArg before.chartRefs.get? reference).trans foundRef, major, minor⟩ }

theorem command_extends {command : Command} (orderly : Orderly before)
    (room : (command.perform before).chartCount < Id.capacity) : Extends before (command.perform before) := by
  generalize result : command.perform before = after at room
  have writes : command.Writes before after := result ▸ command_writes before command
  cases writes with
  | nothing _ kept => exact .still (identities_congr (keeps_charts_charts kept))
  | creates created creates => exact .adds (creates_adds orderly room creates)
  | @edits id delta _ user now edits =>
      obtain ⟨current, row, made, found, done, kept⟩ := edits
      have here := edited_found orderly.charts found delta user now
      exact .still ((identities_congr (keeps_charts_charts kept)).trans (updated_identities done here rfl))
  | upgrades upgrades =>
      obtain ⟨_, _, _, created, middle, _, _, creates, kept⟩ := upgrades
      have count : middle.chartCount = after.chartCount := (keeps_charts_count kept).symm
      have adds := creates_adds orderly (count ▸ room) creates
      exact .adds { adds with last := (identities_congr (keeps_charts_charts kept)).trans adds.last }

theorem event_extends {event : Event} (orderly : Orderly before)
    (room : (event.perform before).chartCount < Id.capacity) : Extends before (event.perform before) := by
  cases event with
  | use command => exact command_extends orderly room
  | registerApp app => exact .still rfl
  | registerRef chartRef => exact .still rfl
  | registerRepo repo isDefault => exact .still rfl

theorem event_follows (store : Store) (event : Event) : Follows store (event.perform store) := by
  cases event with
  | use command => exact command_follows store command
  | registerApp app => exact follows_one (.putApp app)
  | registerRef chartRef => exact follows_one (.putChartRef chartRef)
  | registerRepo repo isDefault => exact follows_one (.putChartRepo repo isDefault)

theorem follows_chart_count (follows : Follows before after) : before.chartCount ≤ after.chartCount := by
  induction follows with
  | refl => exact Nat.le_refl _
  | tail _ transaction ih => exact Nat.le_trans ih (transaction_chart_count transaction)

end Step

section Counting

variable {charts : List ChartIdentity} {created : ChartIdentity}

theorem next_counted {bucket : Bucket} (few : (bucket.members charts).length < 4294967295)
    (counted : (bucket.members charts).map (·.version.patch.toNat) =
      List.range' 1 (bucket.members charts).length) :
    (bucket.next charts).patch.toNat = (bucket.members charts).length + 1 := by
  obtain ⟨_, _, top, above, attained, patch⟩ := bucket.next_patch charts
  have numbers : ∀ number, (∃ chart ∈ bucket.members charts, chart.version.patch.toNat = number) ↔
      1 ≤ number ∧ number < 1 + (bucket.members charts).length := by
    intro number
    rw [← List.mem_range'_1, ← counted, List.mem_map]
  have least : (bucket.members charts).length ≤ top := by
    by_cases none : (bucket.members charts).length = 0
    · exact none ▸ Nat.zero_le top
    · obtain ⟨chart, member, same⟩ := (numbers (bucket.members charts).length).mpr (by omega)
      exact same ▸ above chart member
  have most : top ≤ (bucket.members charts).length := by
    cases attained with
    | inl zero => exact zero ▸ Nat.zero_le _
    | inr there => exact Nat.le_of_lt_succ (by have := ((numbers top).mp there).2; omega)
  omega

theorem numbered_empty : Numbered [] :=
  ⟨fun _ _ => rfl, nofun⟩

theorem adds_numbered {before after : Store} (numbered : Numbered before.identities)
    (adds : Adds before after created) : Numbered after.identities := by
  rw [adds.last]
  constructor
  · intro bucket few
    by_cases own : created.bucket = bucket
    · rw [Bucket.members_append_own own] at few ⊢
      rw [List.length_append, List.length_singleton] at few
      have counted := numbered.counted bucket (Nat.le_of_succ_le few)
      have patch : created.version.patch.toNat = (bucket.members before.identities).length + 1 := by
        rw [adds.version, own]
        exact next_counted few counted
      rw [List.map_append, counted, List.map_singleton, patch, List.length_append, List.length_singleton,
        List.range'_1_concat, Nat.add_comm 1]
    · rw [Bucket.members_append_other own] at few ⊢
      exact numbered.counted bucket few
  · intro first left second right app chartRef
    rw [List.mem_append, List.mem_singleton] at left right
    cases left with
    | inl old =>
        cases right with
        | inl other => exact numbered.single first old second other app chartRef
        | inr new => exact absurd (new ▸ ⟨app, chartRef⟩) (adds.free first old)
    | inr new =>
        cases right with
        | inl old => exact absurd (new ▸ ⟨app.symm, chartRef.symm⟩) (adds.free second old)
        | inr again => rw [new, again]

end Counting

section Run

variable {start : Store} {events : List Event}

theorem events_follow (start : Store) (events : List Event) : Follows start (Event.performAll start events) := by
  induction events generalizing start with
  | nil => exact .refl
  | cons event rest ih => exact (event_follows start event).trans (ih (event.perform start))

theorem events_numbered (reached : Reachable start) (numbered : Numbered start.identities)
    (room : (Event.performAll start events).chartCount < Id.capacity) :
    Numbered (Event.performAll start events).identities ∧
      start.identities <+: (Event.performAll start events).identities := by
  induction events generalizing start with
  | nil => exact ⟨numbered, List.prefix_rfl⟩
  | cons event rest ih =>
      have follows : Follows start (event.perform start) := event_follows start event
      have later : Reachable (event.perform start) := follows_reachable follows reached
      have count := follows_chart_count (events_follow (event.perform start) rest)
      have roomHere : (event.perform start).chartCount < Id.capacity := Nat.lt_of_le_of_lt count room
      cases event_extends (reachable_orderly reached) roomHere with
      | still same =>
          obtain ⟨counted, grows⟩ := ih later (same ▸ numbered) room
          exact ⟨counted, same ▸ grows⟩
      | adds added =>
          obtain ⟨counted, grows⟩ := ih later (adds_numbered numbered added) room
          exact ⟨counted, (added.last ▸ List.prefix_append _ _ : start.identities <+: _).trans grows⟩

end Run

section Read

variable {store : Store}

theorem bucket_numbered (filed : ChartsFiled store) (numbered : Numbered store.identities) (repo name : String)
    (major minor : UInt32) :
    let bucket := store.charts.filter (isInBucket repo name major minor)
    bucket.Pairwise (fun first second => compare first.id second.id = .lt) ∧
      (bucket.length ≤ 4294967295 →
        bucket.map (·.version.patch.toNat) = List.range' 1 bucket.length) := by
  intro bucket
  have ascending : bucket.Pairwise fun first second => compare first.id second.id = .lt :=
    (rows_ascending filed.own).filter _
  have members : bucket.map (·.identity) = (⟨repo, name, major, minor⟩ : Bucket).members store.identities :=
    bucket_identities store ⟨repo, name, major, minor⟩
  refine ⟨ascending, fun few => ?_⟩
  have counted := numbered.counted ⟨repo, name, major, minor⟩
  rw [← members, List.length_map, List.map_map] at counted
  exact counted few

theorem chart_of_reference (filed : ChartsFiled store) (numbered : Numbered store.identities)
    {first second : ChartId} {left right : Chart} (there : store.charts.get? first = some left)
    (here : store.charts.get? second = some right) (app : left.appId = right.appId)
    (chartRef : left.chartRefId = right.chartRefId) : first = second := by
  have one : left.identity ∈ store.identities := mem_identities.mpr ⟨first, left, there, rfl⟩
  have other : right.identity ∈ store.identities := mem_identities.mpr ⟨second, right, here, rfl⟩
  have same : left.identity = right.identity := numbered.single _ one _ other app chartRef
  rw [← filed.own there, ← filed.own here]
  exact congrArg ChartIdentity.id same

theorem new_chart_referenced {event : Event} (reached : Reachable store)
    (room : (event.perform store).chartCount < Id.capacity) {key : ChartId} {chart : Chart}
    (absent : store.charts.get? key = none) (found : (event.perform store).charts.get? key = some chart) :
    ∃ chartRef, store.chartRefs.get? chart.chartRefId = some chartRef ∧
      chart.version.major = chartRef.version.major ∧ chart.version.minor = chartRef.version.minor := by
  have orderly : Orderly store := reachable_orderly reached
  have after : Orderly (event.perform store) := reachable_orderly (follows_reachable (event_follows store event) reached)
  have own : chart.identity.id = key := after.charts.own found
  have member : chart.identity ∈ (event.perform store).identities := mem_identities.mpr ⟨key, chart, found, rfl⟩
  -- One that was named before would have been found before.
  have new : chart.identity ∉ store.identities := by
    intro old
    obtain ⟨other, there, _⟩ := identity_found orderly.charts old
    rw [own, absent] at there
    cases there
  cases event_extends orderly room with
  | still same => exact absurd (same ▸ member) new
  | adds added =>
      rw [added.last, List.mem_append, List.mem_singleton] at member
      obtain rfl := member.resolve_left new
      exact added.reference

theorem identity_kept {events : List Event} (reached : Reachable store) (numbered : Numbered store.identities)
    (room : (Event.performAll store events).chartCount < Id.capacity) {key : ChartId} {chart : Chart}
    (found : store.charts.get? key = some chart) :
    ∃ kept, (Event.performAll store events).charts.get? key = some kept ∧ kept.identity = chart.identity := by
  have own : chart.identity.id = key := (reachable_orderly reached).charts.own found
  have later : Orderly (Event.performAll store events) :=
    reachable_orderly (follows_reachable (events_follow store events) reached)
  obtain ⟨_, grows⟩ := events_numbered reached numbered room
  have member := grows.subset (mem_identities.mpr ⟨key, chart, found, rfl⟩)
  obtain ⟨kept, there, same⟩ := identity_found later.charts member
  exact ⟨kept, own ▸ there, same⟩

end Read

/-- After every run of operations, with what charts are made from put anew in between, the charts of a bucket are
numbered from 1 in the order of their identifiers. A chart has the first two numbers of its reference as it was when
the chart was made, is the only one of its application for that reference, and keeps what names it. -/
theorem charts_numbered_in_order (start : Store) (events : List Event) (reached : Reachable start)
    (noCharts : start.charts = .empty) (room : (Event.performAll start events).chartCount < Id.capacity) :
    let final := Event.performAll start events
    (∀ repo name major minor,
      let bucket := final.charts.filter (isInBucket repo name major minor)
      bucket.Pairwise (fun first second => compare first.id second.id = .lt) ∧
        (bucket.length ≤ 4294967295 →
          bucket.map (·.version.patch.toNat) = List.range' 1 bucket.length)) ∧
    (∀ earlier event later, events = earlier ++ event :: later →
      let before := Event.performAll start earlier
      ∀ key chart, before.charts.get? key = none → (event.perform before).charts.get? key = some chart →
        ∃ chartRef, before.chartRefs.get? chart.chartRefId = some chartRef ∧
          chart.version.major = chartRef.version.major ∧ chart.version.minor = chartRef.version.minor) ∧
    (∀ first second left right, final.charts.get? first = some left → final.charts.get? second = some right →
      left.appId = right.appId → left.chartRefId = right.chartRefId → first = second) ∧
    ∀ earlier later key chart, events = earlier ++ later →
      (Event.performAll start earlier).charts.get? key = some chart →
      ∃ kept, final.charts.get? key = some kept ∧ kept.identity = chart.identity := by
  intro final
  have empty : Numbered start.identities := by
    rw [identities, noCharts]
    exact numbered_empty
  have reachedAfter : ∀ run, Reachable (Event.performAll start run) :=
    fun run => follows_reachable (events_follow start run) reached
  have filed : ChartsFiled final := (reachable_orderly (reachedAfter events)).charts
  obtain ⟨numbered, _⟩ := events_numbered reached empty room
  have roomBefore : ∀ earlier later, events = earlier ++ later →
      (Event.performAll start earlier).chartCount < Id.capacity := by
    rintro earlier later rfl
    rw [perform_events_append] at room
    exact Nat.lt_of_le_of_lt (follows_chart_count (events_follow _ later)) room
  refine ⟨bucket_numbered filed numbered, ?_, fun _ _ _ _ => chart_of_reference filed numbered, ?_⟩
  · intro earlier event later split before key chart absent found
    have roomAfter := roomBefore (earlier ++ [event]) later (by rw [split, List.append_assoc]; rfl)
    rw [perform_events_append] at roomAfter
    exact new_chart_referenced (reachedAfter earlier) roomAfter absent found
  · rintro earlier later key chart rfl found
    obtain ⟨counted, _⟩ := events_numbered reached empty (roomBefore earlier later rfl)
    obtain ⟨kept, there, same⟩ := identity_kept (reachedAfter earlier) counted
      (by rwa [← perform_events_append]) found
    rw [← perform_events_append] at there
    exact ⟨kept, there, same⟩

def sampleEvents : List Event :=
  let other := { Sample.templateRequest with appId := ⟨2⟩ }
  [.use (.create Sample.templateRequest Sample.moment), .registerApp { Sample.application with id := ⟨2⟩ },
    .use (.create other Sample.moment), .use (.upgrade ⟨1⟩ ⟨2⟩ Fixtures.testUser Sample.moment)]

theorem sample_numbered_in_order :
    let final := Event.performAll (Fixtures.seedApp .empty) sampleEvents
    (final.charts.filter (isInBucket "default-chartmuseum" "demo-app" 1 2)).map (·.version.patch.toNat) = [1, 2] := by
  intro final
  obtain ⟨numbered, _⟩ := charts_numbered_in_order (Fixtures.seedApp .empty) sampleEvents seed_app_reachable rfl
    (by decide)
  have two : (final.charts.filter (isInBucket "default-chartmuseum" "demo-app" 1 2)).length = 2 := by decide
  have counted := (numbered "default-chartmuseum" "demo-app" 1 2).2
  rw [two] at counted
  exact counted (by decide)

end Delivery.Charts
