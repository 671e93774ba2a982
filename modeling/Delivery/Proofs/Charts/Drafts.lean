import Delivery.Proofs.Charts.Editing
import Delivery.Proofs.Charts.Metrics
import Delivery.Proofs.Locks
set_option autoImplicit false

namespace Delivery.Charts

open Store

structure Draft where
  repoName : String
  name : String
  version : ChartVersion

def Draft.bucket (draft : Draft) : Bucket :=
  ⟨draft.repoName, draft.name, draft.version.major, draft.version.minor⟩

-- The number is free for the application: its own charts in the bucket all have smaller ones. In a full bucket
-- there may be no such number.
def Reserved (app : AppId) (draft : Draft) (charts : List ChartIdentity) : Prop :=
  (draft.bucket.members charts).length < 4294967295 →
    draft.version.patch.toNat ≤ (draft.bucket.members charts).length + 1 ∧
      ∀ chart ∈ draft.bucket.members charts, chart.appId = app →
        chart.version.patch.toNat < draft.version.patch.toNat

structure Versioned (apps : Table AppId Application) (charts : List ChartIdentity) : Prop where
  named : ∀ chart ∈ charts, ∃ app, apps.get? chart.appId = some app ∧ app.appName = chart.name
  within : ∀ bucket : Bucket, (bucket.members charts).length ≤ 4294967295 →
    ∀ chart ∈ bucket.members charts, chart.version.patch.toNat ≤ (bucket.members charts).length
  apart : ∀ bucket : Bucket, (bucket.members charts).length ≤ 4294967295 →
    ∀ first ∈ bucket.members charts, ∀ second ∈ bucket.members charts, first.appId = second.appId →
      first.version = second.version → first = second

section Lists

variable {apps : Table AppId Application} {charts : List ChartIdentity} {created : ChartIdentity} {app : AppId}
  {draft : Draft}

theorem versioned_empty (apps : Table AppId Application) : Versioned apps [] :=
  ⟨nofun, nofun, nofun⟩

theorem reserved_next (versioned : Versioned apps charts) (version : draft.version = draft.bucket.next charts)
    (app : AppId) : Reserved app draft charts := by
  intro few
  obtain ⟨_, _, top, above, attained, patch⟩ := draft.bucket.next_patch charts
  rw [← version] at patch
  have most : top ≤ (draft.bucket.members charts).length := by
    cases attained with
    | inl zero => exact zero ▸ Nat.zero_le _
    | inr there =>
        obtain ⟨chart, member, same⟩ := there
        exact same ▸ versioned.within draft.bucket (Nat.le_of_lt few) chart member
  refine ⟨by omega, fun chart member _ => ?_⟩
  have := above chart member
  omega

theorem reserved_append (reserved : Reserved app draft charts) (other : created.appId ≠ app) :
    Reserved app draft (charts ++ [created]) := by
  by_cases own : created.bucket = draft.bucket
  · rw [Reserved, Bucket.members_append_own own, List.length_append, List.length_singleton]
    intro few
    obtain ⟨within, above⟩ := reserved (by omega)
    refine ⟨by omega, fun chart member owner => ?_⟩
    rw [List.mem_append, List.mem_singleton] at member
    cases member with
    | inl old => exact above chart old owner
    | inr new => exact absurd (new ▸ owner) other
  · rw [Reserved, Bucket.members_append_other own]
    exact reserved

theorem versioned_append (versioned : Versioned apps charts)
    (named : ∃ app, apps.get? created.appId = some app ∧ app.appName = created.name)
    (own : created.bucket = draft.bucket) (version : created.version = draft.version)
    (reserved : Reserved created.appId draft charts) : Versioned apps (charts ++ [created]) := by
  constructor
  · intro chart member
    rw [List.mem_append, List.mem_singleton] at member
    cases member with
    | inl old => exact versioned.named chart old
    | inr new => exact new ▸ named
  · intro bucket few chart member
    by_cases here : created.bucket = bucket
    · rw [Bucket.members_append_own here, List.length_append, List.length_singleton] at few ⊢
      rw [Bucket.members_append_own here, List.mem_append, List.mem_singleton] at member
      cases member with
      | inl old => exact Nat.le_succ_of_le (versioned.within bucket (by omega) chart old)
      | inr new =>
          rw [own] at here
          subst here
          rw [new, version]
          exact (reserved (by omega)).1
    · rw [Bucket.members_append_other here] at few member ⊢
      exact versioned.within bucket few chart member
  · intro bucket few first left second right owner same
    by_cases here : created.bucket = bucket
    · rw [Bucket.members_append_own here] at few left right
      rw [List.length_append, List.length_singleton] at few
      rw [List.mem_append, List.mem_singleton] at left right
      rw [own] at here
      subst here
      -- The new number is greater than those of all charts of the application that are there.
      have greater := (reserved (by omega)).2
      rw [← version] at greater
      cases left with
      | inl old =>
          cases right with
          | inl other => exact versioned.apart draft.bucket (by omega) first old second other owner same
          | inr new =>
              subst new
              exact absurd (same ▸ greater first old owner) (Nat.lt_irrefl _)
      | inr new =>
          subst new
          cases right with
          | inl old => exact absurd (same ▸ greater second old owner.symm) (Nat.lt_irrefl _)
          | inr again => exact again.symm
    · rw [Bucket.members_append_other here] at few left right
      exact versioned.apart bucket few first left second right owner same

end Lists

structure Consistent (apps : Table AppId Application) (store : Store) : Prop where
  filed : ChartsFiled store
  registered : store.apps = apps
  versioned : store.chartCount < Id.capacity → Versioned apps store.identities

def Keeping (app : AppId) (store : Store) : Option Draft → Prop
  | some draft => store.chartCount < Id.capacity → Reserved app draft store.identities
  | none => True

-- What a program that makes a chart may do. Reading a version it gets a draft, and storing the chart uses it up.
inductive Drafting (apps : Table AppId Application) (app : AppId) :
    Option Draft → Store → Store → Option Draft → Prop where
  | keep {standing : Option Draft} {before after : Store} (kept : KeepsCharts before after) :
      Drafting apps app standing before after standing
  | draft {standing : Option Draft} {store : Store} {draft : Draft} (keeping : Keeping app store (some draft)) :
      Drafting apps app standing store store (some draft)
  | store {before after : Store} {draft : Draft} {new : NewChart} {row : Chart}
      (done : before.createChart new = .ok (row, after)) (owner : row.appId = app)
      (named : ∃ app, apps.get? row.appId = some app ∧ app.appName = row.name)
      (bucket : row.identity.bucket = draft.bucket) (version : row.version = draft.version) :
      Drafting apps app (some draft) before after none

def drafting (apps : Table AppId Application) (app : AppId) : Protocol Store (Option Draft) where
  sees standing store := Consistent apps store ∧ Keeping app store standing
  moves := Drafting apps app

section Protocol

variable {apps : Table AppId Application} {app other : AppId} {standing next elsewhere : Option Draft}
  {before after : Store}

theorem keeps_charts_consistent (kept : KeepsCharts before after) (consistent : Consistent apps before) :
    Consistent apps after := by
  rw [kept]
  exact ⟨consistent.filed, consistent.registered, consistent.versioned⟩

theorem keeps_charts_keeping (kept : KeepsCharts before after) (keeping : Keeping app before standing) :
    Keeping app after standing := by
  cases standing with
  | none => trivial
  | some draft =>
      rw [kept]
      exact keeping

theorem drafting_keeps (seen : (drafting apps app).sees standing before)
    (moves : (drafting apps app).moves standing before after next) :
    Consistent apps after ∧ (drafting apps app).sees next after := by
  obtain ⟨consistent, keeping⟩ := seen
  have both : Consistent apps after ∧ Keeping app after next := by
    cases moves with
    | keep kept => exact ⟨keeps_charts_consistent kept consistent, keeps_charts_keeping kept keeping⟩
    | draft reserved => exact ⟨consistent, reserved⟩
    | store done owner named bucket version =>
        refine ⟨⟨created_filed done consistent.filed, ?_, fun room => ?_⟩, trivial⟩
        · obtain ⟨_, _, rfl⟩ := create_chart_ok done
          exact consistent.registered
        · have more : before.chartCount + 1 < Id.capacity := created_count done ▸ room
          rw [created_identities consistent.filed more done]
          subst owner
          exact versioned_append (consistent.versioned (by omega)) named bucket version (keeping (by omega))
  exact ⟨both.1, both⟩

theorem drafting_apart (different : other ≠ app) (seen : (drafting apps app).sees standing before)
    (moves : (drafting apps app).moves standing before after next)
    (there : (drafting apps other).sees elsewhere before) : (drafting apps other).sees elsewhere after := by
  refine ⟨(drafting_keeps seen moves).1, ?_⟩
  cases moves with
  | keep kept => exact keeps_charts_keeping kept there.2
  | draft _ => exact there.2
  | store done owner _ _ _ =>
      cases elsewhere with
      | none => trivial
      | some draft =>
          intro room
          have more : before.chartCount + 1 < Id.capacity := created_count done ▸ room
          rw [created_identities seen.1.filed more done]
          exact reserved_append (there.2 (by omega)) fun same => different (same.symm.trans owner)

end Protocol

def draftDiscipline (apps : Table AppId Application) : Discipline AppId Store (Option Draft) where
  protocol := drafting apps
  sound := Consistent apps
  idle := none
  enters consistent := ⟨consistent, trivial⟩
  keeps := drafting_keeps
  apart := drafting_apart

inductive Creation where
  | create (request : TemplateRequest) (now : Instant)
  | upgrade (app : AppId) (target : ChartRefId) (user : UserId) (now : Instant)

namespace Creation

def app : Creation → AppId
  | .create request _ => request.appId
  | .upgrade app _ _ _ => app

def service : Creation → Service Store Chart
  | .create request now => Charts.create request now
  | .upgrade app target user now => Charts.upgrade app target user now

def flow (creation : Creation) : Flow Store (Except Error Chart) :=
  ExceptT.run creation.service

end Creation

def makeCharts (start : Store) (creations : List Creation) (places : List Nat) : Store :=
  ((Locked.start start (creations.map fun creation => (creation.app, creation.flow))).play places).world

section Obey

variable {apps : Table AppId Application} {app : AppId} {user : UserId} {now : Instant}

theorem keeping_obeys {α : Type} {service : Service Store α} (moves : service.Moves KeepsCharts)
    (standing : Option Draft) : service.Follows (drafting apps app) (fun _ _ => True) (fun _ _ => True) standing :=
  Service.follows_of_moves moves (fun _ _ kept => .keep kept) (fun _ => trivial) fun _ => trivial

theorem next_version_obeys {repo name : String} {base : ChartVersion} {good : Option Draft → ChartVersion → Prop}
    (drafted : ∀ version, good (some ⟨repo, name, version⟩) version) :
    (nextVersion repo name base).Follows (drafting apps app) good (fun _ _ => True) none := by
  apply Service.follows_bind
  apply Service.follows_look
  intro store seen
  let bucket : Bucket := ⟨repo, name, base.major, base.minor⟩
  let draft : Draft := ⟨repo, name, versionAfter (store.newestVersion? repo name base.major base.minor) base⟩
  have version : draft.version = bucket.next store.identities := version_after_newest store repo name base
  have own : draft.bucket = bucket := by
    obtain ⟨major, minor, _⟩ := bucket.next_patch store.identities
    rw [← version] at major minor
    rw [Draft.bucket, major, minor]
  have reserved : Keeping app store (some draft) := fun room =>
    reserved_next (seen.1.versioned room) (own ▸ version) app
  refine ⟨some draft, .draft reserved, ?_⟩
  have read : good (some draft) draft.version := drafted draft.version
  cases found : store.newestVersion? repo name base.major base.minor with
  | none => exact Service.follows_pure (by simpa only [draft, found, versionAfter] using read)
  | some newest => exact Service.follows_pure (by simpa only [draft, found, versionAfter] using read)

theorem note_creation_moves (app : AppId) (created : Chart) (appMetrics : Bool) (user : UserId) (now : Instant) :
    Service.Moves KeepsCharts do
      let _ ← Service.act fun store => store.setAppMetrics app appMetrics user now
      let _ ← Recorder.recordTemplateChange created appMetrics user now
      return created := by
  refine Service.moves_bind (Service.moves_act fun _ => rfl) fun _ => ?_
  refine Service.moves_bind (record_template_change_steps keeps_charts_refl ?_ _ _ _ _) fun _ => Service.moves_pure _
  exact fun store rows _ => keeps_charts_of_flags (append_histories_keeps store rows)

theorem create_obeys (own : ∀ {key row}, apps.get? key = some row → row.id = key) (request : TemplateRequest)
    (now : Instant) :
    (create request now).Follows (drafting apps request.appId) (fun _ _ => True) (fun _ _ => True) none := by
  have kept : ∀ store, (drafting apps request.appId).moves none store store none := fun _ => .keep rfl
  apply Service.follows_bind
  refine Service.follows_require fun store seen => ⟨none, kept store, fun app found => ?_, fun _ => trivial⟩
  rw [seen.1.registered] at found
  apply Service.follows_bind
  refine Service.follows_require fun store _ => ⟨none, kept store, fun chartRef _ => ?_, fun _ => trivial⟩
  apply Service.follows_bind
  refine Service.follows_look fun store _ => ⟨none, kept store, ?_⟩
  dsimp only
  split
  · exact Service.follows_bind (Service.follows_throw trivial)
  · apply Service.follows_bind
    refine Service.follows_require fun store _ => ⟨none, kept store, fun repo _ => ?_, fun _ => trivial⟩
    apply Service.follows_bind
    apply next_version_obeys
    intro version
    apply Service.follows_bind
    apply Service.follows_transact
    · intro before row after _ done
      obtain ⟨rfl, _, _⟩ := create_chart_ok done
      have owner : app.id = request.appId := own found
      have registered : apps.get? app.id = some app := (congrArg apps.get? owner).trans found
      refine ⟨none, .store done owner ⟨app, registered, rfl⟩ rfl rfl, ?_⟩
      exact keeping_obeys (note_creation_moves app.id _ _ _ now) none
    · exact fun store _ _ _ => ⟨_, .keep rfl, trivial⟩

theorem upgrade_obeys (own : ∀ {key row}, apps.get? key = some row → row.id = key) (app : AppId)
    (target : ChartRefId) (user : UserId) (now : Instant) :
    (upgrade app target user now).Follows (drafting apps app) (fun _ _ => True) (fun _ _ => True) none := by
  have kept : ∀ store, (drafting apps app).moves none store store none := fun _ => .keep rfl
  apply Service.follows_bind
  refine Service.follows_require fun store _ => ⟨none, kept store, fun current _ => ?_, fun _ => trivial⟩
  apply Service.follows_bind
  refine Service.follows_require fun store _ => ⟨none, kept store, fun before _ => ?_, fun _ => trivial⟩
  apply Service.follows_bind
  refine Service.follows_require fun store _ => ⟨none, kept store, fun after _ => ?_, fun _ => trivial⟩
  apply Service.follows_bind
  refine Service.follows_of_except (fun _ _ => ?_) fun _ _ => trivial
  apply Service.follows_bind
  refine Service.follows_look fun store _ => ⟨none, kept store, ?_⟩
  apply Service.follows_bind
  have creates := create_obeys own
    { appId := app, chartRefId := after.id, valuesOverride := current.globalOverride,
      appMetrics := store.appMetricsFlag app, userId := user } now
  refine Service.follows_weaken creates (fun standing upgraded _ => ?_) fun _ _ _ => trivial
  -- The chart is stored by now, and overrides put no other.
  have carries : ∀ row, (carryOverride app upgraded.id user now row).Moves KeepsCharts := fun row =>
    carry_override_steps keeps_charts_refl (fun _ _ _ _ done => keeps_charts_of_flags (create_override_keeps done))
      (fun store rows _ => keeps_charts_of_flags (append_histories_keeps store rows)) app upgraded.id user now row
  refine keeping_obeys (Service.moves_bind (Service.moves_look keeps_charts_refl _) fun overrides => ?_) standing
  exact Service.moves_bind (Service.moves_for_each carries) fun _ => Service.moves_pure _

theorem creation_obeys (own : ∀ {key row}, apps.get? key = some row → row.id = key) (creation : Creation) :
    (draftDiscipline apps).Obeys creation.app creation.flow none := by
  have flows : ∀ {app : AppId} {service : Service Store Chart},
      service.Follows (drafting apps app) (fun _ _ => True) (fun _ _ => True) none →
      (draftDiscipline apps).Obeys app (ExceptT.run service) none := fun follows =>
    Flow.follows_weaken (Service.follows_iff_flow.mp follows) fun _ _ _ => trivial
  cases creation with
  | create request now => exact flows (create_obeys own request now)
  | upgrade app target user now => exact flows (upgrade_obeys own app target user now)

end Obey

theorem make_charts_consistent {start : Store} (creations : List Creation) (places : List Nat)
    (reached : Reachable start) (noCharts : start.charts = .empty) :
    Consistent start.apps (makeCharts start creations places) := by
  have rooted : Rooted start := reachable_rooted reached
  have sound : Consistent start.apps start := by
    refine ⟨(reachable_orderly reached).charts, rfl, fun _ => ?_⟩
    rw [identities, noCharts]
    exact versioned_empty start.apps
  refine (draftDiscipline start.apps).sound_play sound (fun call member => ?_) places
  obtain ⟨creation, _, rfl⟩ := List.mem_map.mp member
  exact creation_obeys rooted.apps creation

/-- However calls that make charts are scheduled, two charts of a bucket have one version only where they belong to
two applications of one name, or where the bucket has more charts than there are numbers. -/
theorem versions_apart_under_locks (start : Store) (creations : List Creation) (places : List Nat)
    (reached : Reachable start) (noCharts : start.charts = .empty)
    (room : (makeCharts start creations places).chartCount < Id.capacity) :
    let final := makeCharts start creations places
    ∀ first second left right, final.charts.get? first = some left → final.charts.get? second = some right →
      left.identity.bucket = right.identity.bucket → left.version = right.version →
      (final.charts.filter (isInBucket left.repoName left.name left.version.major left.version.minor)).length ≤
        4294967295 →
      first = second ∨ left.appId ≠ right.appId ∧ ∃ app other, start.apps.get? left.appId = some app ∧
        start.apps.get? right.appId = some other ∧ app.appName = other.appName := by
  intro final first second left right there here bucket version few
  have consistent : Consistent start.apps final := make_charts_consistent creations places reached noCharts
  have versioned : Versioned start.apps final.identities := consistent.versioned room
  have one : left.identity ∈ final.identities := mem_identities.mpr ⟨first, left, there, rfl⟩
  have two : right.identity ∈ final.identities := mem_identities.mpr ⟨second, right, here, rfl⟩
  by_cases owner : left.appId = right.appId
  · have members : (left.identity.bucket.members final.identities).length ≤ 4294967295 := by
      rwa [← bucket_identities, List.length_map]
    have same : left.identity = right.identity := versioned.apart left.identity.bucket members
      left.identity (Bucket.mem_members.mpr ⟨one, rfl⟩) right.identity (Bucket.mem_members.mpr ⟨two, bucket.symm⟩)
      owner version
    rw [← consistent.filed.own there, ← consistent.filed.own here]
    exact .inl (congrArg ChartIdentity.id same)
  · obtain ⟨app, foundApp, nameApp⟩ := versioned.named left.identity one
    obtain ⟨other, foundOther, nameOther⟩ := versioned.named right.identity two
    have names : left.identity.name = right.identity.name := congrArg Bucket.name bucket
    exact .inr ⟨owner, app, other, foundApp, foundOther, nameApp.trans (names.trans nameOther.symm)⟩

def sampleCreationsOfOne : List Creation :=
  [.create Sample.templateRequest Sample.moment,
    .create { Sample.templateRequest with chartRefId := ⟨3⟩ } Sample.moment]

def sampleTurnByTurn : List Nat :=
  (List.replicate 12 [0, 1]).flatten ++ List.replicate 12 1

theorem sample_versions_apart :
    let final := makeCharts (Fixtures.seedApp .empty) sampleCreationsOfOne sampleTurnByTurn
    ∃ left right, final.charts.get? (Id.nth 0) = some left ∧ final.charts.get? (Id.nth 1) = some right ∧
      left.identity.bucket = right.identity.bucket ∧ left.version ≠ right.version := by
  intro final
  have made : (final.charts.get? (Id.nth 0)).any fun left => (final.charts.get? (Id.nth 1)).any fun right =>
      left.identity.bucket = right.identity.bucket && left.appId = right.appId &&
        (final.charts.filter
          (isInBucket left.repoName left.name left.version.major left.version.minor)).length = 2 := by decide
  obtain ⟨left, there, others⟩ := (Option.any_eq_true _ _).mp made
  obtain ⟨right, here, facts⟩ := (Option.any_eq_true _ _).mp others
  simp only [Bool.and_eq_true, decide_eq_true_iff] at facts
  obtain ⟨⟨bucket, owner⟩, two⟩ := facts
  refine ⟨left, right, there, here, bucket, fun same => ?_⟩
  cases versions_apart_under_locks (Fixtures.seedApp .empty) sampleCreationsOfOne _ seed_app_reachable rfl (by decide)
    (Id.nth 0) (Id.nth 1) left right there here bucket same (two ▸ by decide) with
  | inl one => exact absurd one (by decide)
  | inr apart => exact apart.1 owner

-- Two applications of one name. The call for the second comes to its end between the first one's reading of a
-- version and its storing of the chart.
def sampleCreationsOfTwo : List Creation :=
  [.create Sample.templateRequest Sample.moment,
    .create { Sample.templateRequest with appId := ⟨2⟩ } Sample.moment]

def sampleOvertaken : List Nat :=
  List.replicate 6 0 ++ List.replicate 12 1 ++ List.replicate 6 0

theorem one_version_for_two_applications :
    let start : Store := (Fixtures.seedApp .empty).putApp { Sample.application with id := ⟨2⟩ }
    let final := makeCharts start sampleCreationsOfTwo sampleOvertaken
    Reachable start ∧ start.charts = .empty ∧ final.chartCount < Id.capacity ∧
      ¬∀ first second left right, final.charts.get? first = some left → final.charts.get? second = some right →
        left.identity.bucket = right.identity.bucket → left.version = right.version → first = second := by
  intro start final
  refine ⟨.step seed_app_reachable (.putApp _), rfl, by decide, fun apart => ?_⟩
  have made : (final.charts.get? (Id.nth 0)).any fun left => (final.charts.get? (Id.nth 1)).any fun right =>
      left.identity.bucket = right.identity.bucket && left.version = right.version := by decide
  obtain ⟨left, there, others⟩ := (Option.any_eq_true _ _).mp made
  obtain ⟨right, here, facts⟩ := (Option.any_eq_true _ _).mp others
  simp only [Bool.and_eq_true, decide_eq_true_iff] at facts
  exact absurd (apart _ _ left right there here facts.1 facts.2) (by decide)

end Delivery.Charts
