import Delivery.Proofs.Store.Charts
set_option autoImplicit false

namespace Delivery

namespace ChartVersion

theorem newer_patch {first second : ChartVersion} (major : second.major = first.major)
    (minor : second.minor = first.minor) :
    (newer first second = first ∨ newer first second = second) ∧ first.patch ≤ (newer first second).patch ∧
      second.patch ≤ (newer first second).patch := by
  have order : compare first second = compare first.patch second.patch := by
    show ((compare first.major second.major).then (compare first.minor second.minor)).then
      (compare first.patch second.patch) = _
    rw [major, minor, Std.compare_eq_iff_eq.mpr rfl, Std.compare_eq_iff_eq.mpr rfl]
    rfl
  rw [newer, order]
  by_cases less : compare first.patch second.patch = .lt
  · rw [if_pos less]
    exact ⟨.inr rfl, UInt32.le_of_lt (Std.compare_eq_lt.mp less), UInt32.le_refl _⟩
  · rw [if_neg less]
    exact ⟨.inl rfl, UInt32.le_refl _, UInt32.not_lt.mp fun above => less (Std.compare_eq_lt.mpr above)⟩

theorem newest_from (start : ChartVersion) (versions : List ChartVersion)
    (same : ∀ version ∈ versions, version.major = start.major ∧ version.minor = start.minor) :
    versions.foldl newer start ∈ start :: versions ∧
      ∀ version ∈ start :: versions, version.patch ≤ (versions.foldl newer start).patch := by
  induction versions generalizing start with
  | nil => simp
  | cons version rest ih =>
      obtain ⟨major, minor⟩ := same version List.mem_cons_self
      obtain ⟨either, left, right⟩ := newer_patch major minor
      have bucket : (newer start version).major = start.major ∧ (newer start version).minor = start.minor := by
        cases either with
        | inl first => rw [first]; exact ⟨rfl, rfl⟩
        | inr second => rw [second]; exact ⟨major, minor⟩
      obtain ⟨member, above⟩ := ih (newer start version) fun other there => by
        rw [bucket.1, bucket.2]
        exact same other (List.mem_cons_of_mem _ there)
      have top := above _ List.mem_cons_self
      rw [List.foldl_cons]
      constructor
      · cases List.mem_cons.mp member with
        | inl here => rw [here]; cases either with
          | inl first => rw [first]; exact List.mem_cons_self
          | inr second => rw [second]; exact List.mem_cons_of_mem _ List.mem_cons_self
        | inr later => exact List.mem_cons_of_mem _ (List.mem_cons_of_mem _ later)
      · intro other there
        simp only [List.mem_cons] at there
        rcases there with rfl | rfl | later
        · exact UInt32.le_trans left top
        · exact UInt32.le_trans right top
        · exact above other (List.mem_cons_of_mem _ later)

theorem bump_patch_toNat (version : ChartVersion) :
    version.bumpPatch.patch.toNat = min (version.patch.toNat + 1) 4294967295 := by
  have bound : version.patch.toNat < 4294967296 := version.patch.toNat_lt
  by_cases last : version.patch = 4294967295
  · simp [bumpPatch, last]
  · have below : version.patch.toNat ≠ 4294967295 := fun equal => last (UInt32.toNat_inj.mp equal)
    simp only [bumpPatch, if_neg last, UInt32.toNat_add, UInt32.toNat_one]
    omega

end ChartVersion

structure ChartIdentity where
  id : ChartId
  appId : AppId
  chartRefId : ChartRefId
  repoName : String
  name : String
  version : ChartVersion
  deriving DecidableEq, Repr

def Chart.identity (chart : Chart) : ChartIdentity where
  id := chart.id
  appId := chart.appId
  chartRefId := chart.chartRefId
  repoName := chart.repoName
  name := chart.name
  version := chart.version

structure Bucket where
  repoName : String
  name : String
  major : UInt32
  minor : UInt32
  deriving DecidableEq, Repr

def ChartIdentity.bucket (chart : ChartIdentity) : Bucket :=
  ⟨chart.repoName, chart.name, chart.version.major, chart.version.minor⟩

namespace Bucket

def members (bucket : Bucket) (charts : List ChartIdentity) : List ChartIdentity :=
  charts.filter fun chart => chart.bucket = bucket

def next (bucket : Bucket) (charts : List ChartIdentity) : ChartVersion :=
  match ChartVersion.newest? ((bucket.members charts).map (·.version)) with
  | some newest => newest.bumpPatch
  | none => .firstInBucket bucket.major bucket.minor

variable {bucket : Bucket} {charts : List ChartIdentity} {chart : ChartIdentity}

theorem mem_members : chart ∈ bucket.members charts ↔ chart ∈ charts ∧ chart.bucket = bucket := by
  simp [members]

theorem members_append_own (own : chart.bucket = bucket) :
    bucket.members (charts ++ [chart]) = bucket.members charts ++ [chart] := by
  simp [members, own]

theorem members_append_other (other : chart.bucket ≠ bucket) :
    bucket.members (charts ++ [chart]) = bucket.members charts := by
  simp [members, other]

theorem next_patch (bucket : Bucket) (charts : List ChartIdentity) :
    (bucket.next charts).major = bucket.major ∧ (bucket.next charts).minor = bucket.minor ∧
      ∃ top, (∀ chart ∈ bucket.members charts, chart.version.patch.toNat ≤ top) ∧
        (top = 0 ∨ ∃ chart ∈ bucket.members charts, chart.version.patch.toNat = top) ∧
        (bucket.next charts).patch.toNat = min (top + 1) 4294967295 := by
  have within : ∀ chart ∈ bucket.members charts,
      chart.version.major = bucket.major ∧ chart.version.minor = bucket.minor := by
    intro chart member
    obtain ⟨_, rfl⟩ := mem_members.mp member
    exact ⟨rfl, rfl⟩
  cases found : bucket.members charts with
  | nil =>
      refine ⟨?_, ?_, 0, ?_, .inl rfl, ?_⟩ <;>
        simp [next, found, ChartVersion.newest?, ChartVersion.firstInBucket]
  | cons head rest =>
      rw [found] at within
      have newest : ChartVersion.newest? ((bucket.members charts).map (·.version)) =
          some ((rest.map (·.version)).foldl ChartVersion.newer head.version) := by
        rw [found]
        rfl
      obtain ⟨member, above⟩ := ChartVersion.newest_from head.version (rest.map (·.version))
        fun version there => by
          obtain ⟨chart, later, rfl⟩ := List.mem_map.mp there
          rw [(within chart (List.mem_cons_of_mem _ later)).1, (within chart (List.mem_cons_of_mem _ later)).2]
          exact ⟨(within head List.mem_cons_self).1.symm, (within head List.mem_cons_self).2.symm⟩
      rw [next, newest]
      obtain ⟨top, there, topEq⟩ := List.mem_map.mp (List.map_cons ▸ member : _ ∈ (head :: rest).map (·.version))
      rw [← topEq] at above ⊢
      refine ⟨(within top there).1, (within top there).2, top.version.patch.toNat, fun chart member => ?_,
        .inr ⟨top, there, rfl⟩, ChartVersion.bump_patch_toNat _⟩
      have listed : chart.version ∈ head.version :: rest.map (·.version) := List.mem_map_of_mem member
      exact UInt32.le_iff_toNat_le.mp (above _ listed)

end Bucket

namespace Store

def identities (store : Store) : List ChartIdentity :=
  store.charts.rows.map (·.identity)

variable {store made : Store} {chart row : Chart} {key : ChartId}

theorem identities_congr {before after : Store} (charts : after.charts = before.charts) :
    after.identities = before.identities := by
  rw [identities, identities, charts]

theorem mem_identities {identity : ChartIdentity} :
    identity ∈ store.identities ↔ ∃ key chart, store.charts.get? key = some chart ∧ chart.identity = identity := by
  simp only [identities, List.mem_map, Table.mem_rows]
  exact ⟨fun ⟨chart, ⟨key, found⟩, same⟩ => ⟨key, chart, found, same⟩,
    fun ⟨key, chart, found, same⟩ => ⟨chart, ⟨key, found⟩, same⟩⟩

theorem identity_found (filed : ChartsFiled store) {identity : ChartIdentity} (member : identity ∈ store.identities) :
    ∃ chart, store.charts.get? identity.id = some chart ∧ chart.identity = identity := by
  obtain ⟨key, chart, found, rfl⟩ := mem_identities.mp member
  have own : chart.identity.id = key := filed.own found
  exact ⟨chart, by rw [own, found], rfl⟩

theorem bucket_identities (store : Store) (bucket : Bucket) :
    (store.charts.filter (isInBucket bucket.repoName bucket.name bucket.major bucket.minor)).map (·.identity) =
      bucket.members store.identities := by
  have same : isInBucket bucket.repoName bucket.name bucket.major bucket.minor =
      (fun chart : ChartIdentity => decide (chart.bucket = bucket)) ∘ Chart.identity := by
    funext chart
    rw [Bool.eq_iff_iff, Function.comp_apply, decide_eq_true_iff]
    cases bucket
    simp [isInBucket, Chart.identity, ChartIdentity.bucket, and_assoc]
  rw [Bucket.members, identities, List.filter_map, Table.filter, same]

theorem newest_version_members (store : Store) (bucket : Bucket) :
    store.newestVersion? bucket.repoName bucket.name bucket.major bucket.minor =
      ChartVersion.newest? ((bucket.members store.identities).map (·.version)) := by
  rw [newestVersion?, ← bucket_identities, List.map_map]
  rfl

theorem beside_latest_identity (app : AppId) (keep : ChartId) (chart : Chart) :
    (besideLatest app keep chart).identity = chart.identity := by
  unfold besideLatest
  split <;> rfl

theorem created_identities {new : NewChart} (filed : ChartsFiled store) (room : store.chartCount + 1 < Id.capacity)
    (done : store.createChart new = .ok (row, made)) : made.identities = store.identities ++ [row.identity] := by
  obtain ⟨rowEq, _, rfl⟩ := create_chart_ok done
  have named : row.id = Id.nth store.chartCount := by rw [rowEq]; rfl
  have beside := filed_map_rows filed fun _ => beside_latest_id new.appId row.id
  have rows : ((store.charts.mapRows fun _ => besideLatest new.appId row.id).insert row.id row).rows =
      store.charts.rows.map (besideLatest new.appId row.id) ++ [row] := by
    have above : ∀ key old, (store.charts.mapRows fun _ => besideLatest new.appId row.id).get? key = some old →
        compare key row.id = .lt := fun _ _ found => named ▸ next_above beside room found
    rw [Table.rows_insert_above row above, Table.rows_map_rows]
  have same : Chart.identity ∘ besideLatest new.appId row.id = Chart.identity :=
    funext fun chart => beside_latest_identity new.appId row.id chart
  rw [identities, identities, rows, List.map_append, List.map_map, same, List.map_singleton]

theorem created_free {new : NewChart} (done : store.createChart new = .ok (row, made)) :
    ∀ chart ∈ store.identities, ¬(chart.appId = row.appId ∧ chart.chartRefId = row.chartRefId) := by
  obtain ⟨rfl, free, _⟩ := create_chart_ok done
  intro chart member
  obtain ⟨key, old, found, rfl⟩ := mem_identities.mp member
  have other := List.find?_eq_none.mp free old (Table.mem_rows.mpr ⟨key, found⟩)
  rw [Bool.and_eq_true, beq_iff_eq, beq_iff_eq] at other
  exact other

theorem updated_identities {current : Chart} (done : store.updateChart chart = .ok (row, made))
    (found : store.charts.get? chart.id = some current) (same : chart.identity = current.identity) :
    made.identities = store.identities := by
  refine Table.rows_map_congr Chart.identity fun key => ?_
  by_cases here : key = chart.id
  · rw [here, updated_here done, found, Option.map_some, Option.map_some, ← same]
    rfl
  · cases updated_elsewhere done here with
    | inl kept => rw [kept]
    | inr beside =>
        have view : Chart.identity ∘ besideLatest chart.appId chart.id = Chart.identity :=
          funext fun old => beside_latest_identity chart.appId chart.id old
        rw [beside, Option.map_map, view]

end Store

end Delivery
