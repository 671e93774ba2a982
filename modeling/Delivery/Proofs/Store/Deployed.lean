import Delivery.Proofs.History.Deployments
set_option autoImplicit false

namespace Delivery

namespace Instant

instance : Std.TransOrd Instant :=
  inferInstanceAs (Std.TransCmp (compareLex (compareOn Instant.seconds) (compareOn Instant.nanos)))

instance : Std.LawfulEqOrd Instant where
  eq_of_compare {first second} equal := by
    obtain ⟨seconds, nanos⟩ := Ordering.then_eq_eq.mp equal
    cases first; cases second
    cases Std.LawfulEqOrd.eq_of_compare seconds
    cases Std.LawfulEqOrd.eq_of_compare nanos
    rfl

end Instant

section Lists

variable {α κ : Type} {rows : List α} {test : α → Bool} {le : α → α → Bool}

theorem filter_merge_sort (trans : ∀ a b c, le a b = true → le b c = true → le a c = true)
    (total : ∀ a b, (le a b || le b a) = true)
    (alike : ∀ a ∈ rows.filter test, ∀ b ∈ rows.filter test, le a b = true) :
    (rows.mergeSort le).filter test = rows.filter test := by
  have sorted : (rows.filter test).Pairwise fun a b => le a b = true :=
    List.pairwise_of_forall_sublist fun inside =>
      alike _ (inside.subset List.mem_cons_self) _ (inside.subset (by simp))
  have kept : (rows.filter test).Sublist ((rows.mergeSort le).filter test) := by
    have inside := (List.sublist_mergeSort trans total sorted List.filter_sublist).filter test
    simpa only [List.filter_filter, Bool.and_self] using inside
  exact (kept.eq_of_length ((List.mergeSort_perm rows le).filter test).length_eq.symm).symm

theorem erase_dups_nodup [BEq κ] [LawfulBEq κ] (keys : List κ) : keys.eraseDups.Nodup := by
  cases keys with
  | nil => exact List.nodup_nil
  | cons first rest =>
      rw [List.eraseDups_cons, List.nodup_cons, List.mem_eraseDups]
      exact ⟨by simp, erase_dups_nodup (rest.filter fun other => !other == first)⟩
termination_by keys.length
decreasing_by exact Nat.lt_succ_of_le (List.length_filter_le _ _)

structure Leads (key : α → κ) (before : α → α → Prop) (rows : List α) (row : α) : Prop where
  member : row ∈ rows
  first : ∀ other ∈ rows, key other = key row → other = row ∨ before row other

variable {key : α → κ} {before : α → α → Prop}

theorem head_leads {head : α} (above : ∀ row ∈ rows, before head row) : Leads key before (head :: rows) head :=
  ⟨List.mem_cons_self, fun other there _ => (List.mem_cons.mp there).imp_right (above other)⟩

theorem leader_exists {row : α} (ordered : rows.Pairwise before) (member : row ∈ rows) :
    ∃ leader, Leads key before rows leader ∧ key leader = key row := by
  induction rows with
  | nil => cases member
  | cons head rest ih =>
      obtain ⟨above, later⟩ := List.pairwise_cons.mp ordered
      by_cases same : key head = key row
      · exact ⟨head, head_leads above, same⟩
      · have inside : row ∈ rest := (List.mem_cons.mp member).resolve_left fun equal => same (equal ▸ rfl)
        obtain ⟨leader, leads, own⟩ := ih later inside
        refine ⟨leader, ⟨List.mem_cons_of_mem _ leads.member, fun other there alike => ?_⟩, own⟩
        rcases List.mem_cons.mp there with rfl | behind
        · exact absurd (alike.trans own) same
        · exact leads.first other behind alike

theorem leader_unique {one two : α} (apart : ∀ one two, before one two → ¬before two one)
    (first : Leads key before rows one) (second : Leads key before rows two) (same : key one = key two) :
    one = two := by
  rcases first.first two second.member same.symm with equal | precedes
  · exact equal.symm
  · exact (second.first one first.member same).resolve_right (apart _ _ precedes)

theorem leaders_in_order [BEq κ] [LawfulBEq κ] (apart : ∀ one two, before one two → ¬before two one) (rows : List α)
    (ordered : rows.Pairwise before) : (rows.map key).eraseDups.Pairwise fun first second =>
      ∀ one two, Leads key before rows one → key one = first → Leads key before rows two → key two = second →
        before one two := by
  match rows with
  | [] => exact .nil
  | head :: rest =>
      obtain ⟨above, later⟩ := List.pairwise_cons.mp ordered
      have others : (rest.map key).filter (fun other => !other == key head) =
          (rest.filter fun row => !key row == key head).map key := List.filter_map
      -- Where the key is another one, the row leads among the others as well.
      have leads : ∀ {row}, Leads key before (head :: rest) row → key row ≠ key head →
          Leads key before (rest.filter fun row => !key row == key head) row := by
        rintro row ⟨member, first⟩ different
        have inside : row ∈ rest := (List.mem_cons.mp member).resolve_left (different ∘ congrArg key)
        refine ⟨List.mem_filter.mpr ⟨inside, by simpa using different⟩, fun other there => ?_⟩
        exact first other (List.mem_cons_of_mem _ (List.mem_filter.mp there).1)
      have elsewhere : ∀ other ∈ ((rest.filter fun row => !key row == key head).map key).eraseDups,
          other ≠ key head := by
        intro other member
        obtain ⟨row, there, rfl⟩ := List.mem_map.mp (List.mem_eraseDups.mp member)
        simpa using (List.mem_filter.mp there).2
      rw [List.map_cons, List.eraseDups_cons, others]
      refine List.pairwise_cons.mpr ⟨fun second member one two first own led named => ?_, ?_⟩
      · have leader : head = one := leader_unique apart (head_leads above) first own.symm
        rcases List.mem_cons.mp led.member with rfl | inside
        · exact absurd named.symm (elsewhere second member)
        · exact leader ▸ above two inside
      · refine (leaders_in_order apart _ (later.filter _)).imp_of_mem fun {first second} there here rest => ?_
        intro one two leader own led named
        have other : key one ≠ key head := own ▸ elsewhere first there
        have another : key two ≠ key head := named ▸ elsewhere second here
        exact rest one two (leads leader other) own (leads led another) named
termination_by rows.length
decreasing_by exact Nat.lt_succ_of_le (List.length_filter_le _ _)

end Lists

namespace Store

structure SuccessfulRun (store : Store) (pipeline : CdPipelineId) (run : CdWorkflowRunner) : Prop extends
    DeployRun store pipeline run where
  succeeded : run.status = .succeeded

def ComesBefore (first second : CdWorkflowRunner) : Prop :=
  compare second.startedOn first.startedOn = .lt ∨
    second.startedOn = first.startedOn ∧ first.id.raw < second.id.raw

-- Of the runs that have deployed the artifact one that started last, and of those the one with the lowest identifier.
structure LeadingRun (store : Store) (pipeline : CdPipelineId) (artifact : ArtifactId) (run : CdWorkflowRunner) :
    Prop extends SuccessfulRun store pipeline run where
  deployed : run.artifactId = artifact
  latest : ∀ other, SuccessfulRun store pipeline other → other.artifactId = artifact →
    (compare other.startedOn run.startedOn).isLE
  lowest : ∀ other, SuccessfulRun store pipeline other → other.artifactId = artifact →
    other.startedOn = run.startedOn → run.id.raw ≤ other.id.raw

def runsByTime (store : Store) (pipeline : CdPipelineId) : List CdWorkflowRunner :=
  (store.runners.filter (isSuccessfulDeploy pipeline)).mergeSort startsNoEarlier

def startsWith (first other : CdWorkflowRunner) : Bool :=
  other.startedOn == first.startedOn

section Deployed

variable {store : Store} {pipeline : CdPipelineId} {run first second : CdWorkflowRunner} {artifact : ArtifactId}

theorem starts_no_earlier_trans (first second third : CdWorkflowRunner) (left : startsNoEarlier first second = true)
    (right : startsNoEarlier second third = true) : startsNoEarlier first third = true :=
  Std.TransCmp.isLE_trans right left

theorem starts_no_earlier_total (first second : CdWorkflowRunner) :
    (startsNoEarlier first second || startsNoEarlier second first) = true := by
  rw [startsNoEarlier, startsNoEarlier, Std.OrientedOrd.eq_swap (a := first.startedOn)]
  cases compare second.startedOn first.startedOn <;> rfl

theorem runs_by_time_stable (store : Store) (pipeline : CdPipelineId) (first : CdWorkflowRunner) :
    (store.runsByTime pipeline).filter (startsWith first) =
      (store.runners.filter (isSuccessfulDeploy pipeline)).filter (startsWith first) := by
  refine filter_merge_sort starts_no_earlier_trans starts_no_earlier_total fun one here two there => ?_
  have left : one.startedOn = first.startedOn := beq_iff_eq.mp (List.mem_filter.mp here).2
  have right : two.startedOn = first.startedOn := beq_iff_eq.mp (List.mem_filter.mp there).2
  rw [startsNoEarlier, left, right, Std.compare_eq_iff_eq.mpr rfl]
  rfl

theorem comes_before_apart (first second : CdWorkflowRunner) (before : ComesBefore first second) :
    ¬ComesBefore second first := by
  rintro (later | ⟨same, lower⟩)
  · rcases before with earlier | ⟨same, _⟩
    · rw [Std.OrientedOrd.eq_swap, earlier] at later
      cases later
    · rw [same, Std.compare_eq_iff_eq.mpr rfl] at later
      cases later
  · rcases before with earlier | ⟨_, higher⟩
    · rw [same, Std.compare_eq_iff_eq.mpr rfl] at earlier
      cases earlier
    · exact Int64.lt_irrefl (Int64.lt_trans lower higher)

theorem mem_successful_runs (reached : Reachable store) :
    run ∈ store.runners.filter (isSuccessfulDeploy pipeline) ↔ SuccessfulRun store pipeline run := by
  rw [Table.filter, List.mem_filter, mem_rows_own (reachable_runners reached), isSuccessfulDeploy, Bool.and_eq_true,
    Bool.and_eq_true, beq_iff_eq, beq_iff_eq, beq_iff_eq]
  constructor
  · rintro ⟨found, ⟨mine, stage⟩, succeeded⟩
    exact ⟨⟨found, mine, stage⟩, succeeded⟩
  · exact fun run => ⟨run.found, ⟨run.own, run.stage⟩, run.succeeded⟩

theorem mem_runs_by_time (reached : Reachable store) :
    run ∈ store.runsByTime pipeline ↔ SuccessfulRun store pipeline run := by
  rw [runsByTime, List.mem_mergeSort, mem_successful_runs reached]

theorem runs_by_time_ordered (reached : Reachable store) (pipeline : CdPipelineId) :
    (store.runsByTime pipeline).Pairwise ComesBefore := by
  have sorted : (store.runsByTime pipeline).Pairwise fun first second => startsNoEarlier first second = true :=
    List.pairwise_mergeSort starts_no_earlier_trans starts_no_earlier_total _
  have ascending : (store.runners.filter (isSuccessfulDeploy pipeline)).Pairwise fun first second =>
      first.id.raw < second.id.raw := ids_ascending (reachable_runners reached) _
  refine List.pairwise_of_forall_sublist fun {first second} inside => ?_
  have ordered : startsNoEarlier first second = true := List.pairwise_iff_forall_sublist.mp sorted inside
  rcases Ordering.isLE_iff_eq_lt_or_eq_eq.mp ordered with later | same
  · exact .inl later
  · have together : second.startedOn = first.startedOn := Std.LawfulEqOrd.eq_of_compare same
    have kept : [first, second].filter (startsWith first) = [first, second] := by simp [startsWith, together]
    have pair := inside.filter (startsWith first)
    rw [kept, runs_by_time_stable] at pair
    exact .inr ⟨together, List.pairwise_iff_forall_sublist.mp (ascending.filter _) pair⟩

theorem leading_run_iff (reached : Reachable store) : LeadingRun store pipeline artifact run ↔
    Leads CdWorkflowRunner.artifactId ComesBefore (store.runsByTime pipeline) run ∧ run.artifactId = artifact := by
  constructor
  · intro leading
    refine ⟨⟨(mem_runs_by_time reached).mpr leading.toSuccessfulRun, fun other member same => ?_⟩, leading.deployed⟩
    have succeeded : SuccessfulRun store pipeline other := (mem_runs_by_time reached).mp member
    have own : other.artifactId = artifact := same.trans leading.deployed
    rcases Ordering.isLE_iff_eq_lt_or_eq_eq.mp (leading.latest other succeeded own) with earlier | equal
    · exact .inr (.inl earlier)
    · have together : other.startedOn = run.startedOn := Std.LawfulEqOrd.eq_of_compare equal
      rcases Int64.lt_or_eq_of_le (leading.lowest other succeeded own together) with lower | equal
      · exact .inr (.inr ⟨together, lower⟩)
      · have named : run.id = other.id := congrArg Id.mk equal
        have found := leading.found
        rw [named, succeeded.found] at found
        exact .inl (Option.some.inj found)
  · rintro ⟨⟨member, first⟩, own⟩
    have others : ∀ other, SuccessfulRun store pipeline other → other.artifactId = artifact →
        other = run ∨ ComesBefore run other := fun other succeeded same =>
      first other ((mem_runs_by_time reached).mpr succeeded) (same.trans own.symm)
    refine ⟨(mem_runs_by_time reached).mp member, own, fun other succeeded same => ?_,
      fun other succeeded same together => ?_⟩
    · rcases others other succeeded same with rfl | earlier | ⟨together, _⟩
      · exact Std.ReflCmp.isLE_rfl
      · rw [earlier]
        rfl
      · rw [together]
        exact Std.ReflCmp.isLE_rfl
    · rcases others other succeeded same with rfl | earlier | ⟨_, lower⟩
      · exact Int64.le_refl _
      · rw [together, Std.compare_eq_iff_eq.mpr rfl] at earlier
        cases earlier
      · exact Int64.le_of_lt lower

theorem one_leading_run (reached : Reachable store) (succeeded : SuccessfulRun store pipeline run) :
    ∃! leading, LeadingRun store pipeline run.artifactId leading := by
  simp only [leading_run_iff reached]
  obtain ⟨leading, leads, own⟩ : ∃ leading,
      Leads CdWorkflowRunner.artifactId ComesBefore (store.runsByTime pipeline) leading ∧
        leading.artifactId = run.artifactId :=
    leader_exists (runs_by_time_ordered reached pipeline) ((mem_runs_by_time reached).mpr succeeded)
  refine ⟨leading, ⟨leads, own⟩, fun other ⟨alsoLeads, same⟩ => ?_⟩
  exact leader_unique comes_before_apart alsoLeads leads (same.trans own.symm)

theorem mem_deployed_ids (reached : Reachable store) :
    artifact ∈ ((store.runsByTime pipeline).map (·.artifactId)).eraseDups ↔
      ∃ run, SuccessfulRun store pipeline run ∧ run.artifactId = artifact := by
  rw [List.mem_eraseDups, List.mem_map]
  exact exists_congr fun run => and_congr_left fun _ => mem_runs_by_time reached

theorem deployed_artifacts_eq (store : Store) (pipeline : CdPipelineId) : store.deployedArtifacts pipeline =
    ((store.runsByTime pipeline).map (·.artifactId)).eraseDups.filterMap store.artifacts.get? := rfl

/-- The artifacts that a pipeline has deployed: none of them twice; exactly those, as they are stored, that a successful
run of the deploy stage refers to; and the newest first. Each of them has one leading run, of those that started last
the one with the lowest identifier, and an artifact whose leading run started later, or at the same time under a lower
identifier, stands before the other. -/
theorem deployed_newest_first (reached : Reachable store) (pipeline : CdPipelineId) :
    ((store.deployedArtifacts pipeline).map (·.id)).Nodup ∧
    (∀ artifact, artifact ∈ store.deployedArtifacts pipeline ↔ store.artifacts.get? artifact.id = some artifact ∧
      ∃ run, SuccessfulRun store pipeline run ∧ run.artifactId = artifact.id) ∧
    (∀ artifact ∈ store.deployedArtifacts pipeline, ∃! run, LeadingRun store pipeline artifact.id run) ∧
    (store.deployedArtifacts pipeline).Pairwise fun newer older => ∀ one two,
      LeadingRun store pipeline newer.id one → LeadingRun store pipeline older.id two → ComesBefore one two := by
  have own : ∀ {key row}, store.artifacts.get? key = some row → row.id = key :=
    (reachable_orderly reached).artifacts.own
  have listed : ∀ artifact, artifact ∈ store.deployedArtifacts pipeline ↔
      store.artifacts.get? artifact.id = some artifact ∧
        ∃ run, SuccessfulRun store pipeline run ∧ run.artifactId = artifact.id := by
    intro artifact
    simp only [deployed_artifacts_eq, List.mem_filterMap, mem_deployed_ids reached]
    constructor
    · rintro ⟨key, deployed, found⟩
      obtain rfl := own found
      exact ⟨found, deployed⟩
    · exact fun ⟨found, deployed⟩ => ⟨artifact.id, deployed, found⟩
  refine ⟨?_, listed, fun artifact member => ?_, ?_⟩
  · refine List.pairwise_map.mpr (List.Pairwise.filterMap _ (fun first second apart one here two there => ?_)
      (erase_dups_nodup _))
    rwa [own here, own there]
  · obtain ⟨_, run, succeeded, same⟩ := (listed artifact).mp member
    exact same ▸ one_leading_run reached succeeded
  · refine (leaders_in_order comes_before_apart _ (runs_by_time_ordered reached pipeline)).filterMap _ ?_
    intro first second ordered newer here older there one two leading other
    obtain ⟨leads, deployed⟩ := (leading_run_iff reached).mp leading
    obtain ⟨follows, follower⟩ := (leading_run_iff reached).mp other
    exact ordered one two leads (deployed.trans (own here)) follows (follower.trans (own there))

end Deployed

def sampleLater : Instant := .ofSeconds 1704067260

def sampleSecond : CdWorkflowRunner := { Sample.runner with id := ⟨2⟩, artifactId := ⟨2⟩, startedOn := sampleLater }

def sampleAgain : CdWorkflowRunner := { Sample.runner with id := ⟨3⟩, startedOn := sampleLater }

def sampleGone : CdWorkflowRunner := { Sample.runner with id := ⟨4⟩, artifactId := ⟨3⟩, startedOn := sampleLater }

def sampleDeploys : List CdWorkflowRunner := [Sample.runner, sampleSecond, sampleAgain, sampleGone]

def sampleRuns : Store :=
  let saved := Write.perform .empty (.saveArtifacts [Sample.newArtifact, Sample.newArtifact, Sample.newArtifact])
  let deployed := sampleDeploys.foldl (fun store run => Write.perform store (.insertRunner run)) saved
  Write.perform deployed (.deleteArtifact ⟨3⟩)

theorem sample_runs_reachable : Reachable sampleRuns := by
  refine perform_reachable (List.foldlRecOn _ _ (perform_reachable .empty _) fun store reached run _ => ?_) _
  exact perform_reachable reached _

theorem sample_successful {run : CdWorkflowRunner} : SuccessfulRun sampleRuns ⟨100⟩ run ↔ run ∈ sampleDeploys := by
  have listed : sampleRuns.runners.filter (isSuccessfulDeploy ⟨100⟩) = sampleDeploys := by decide
  rw [← mem_successful_runs sample_runs_reachable, listed]

theorem sample_leading (run : CdWorkflowRunner) (member : run ∈ sampleDeploys)
    (leads : ∀ other ∈ sampleDeploys, other.artifactId = run.artifactId →
      (compare other.startedOn run.startedOn).isLE ∧ (other.startedOn = run.startedOn → run.id.raw ≤ other.id.raw)) :
    LeadingRun sampleRuns ⟨100⟩ run.artifactId run where
  toSuccessfulRun := sample_successful.mpr member
  deployed := rfl
  latest other succeeded same := (leads other (sample_successful.mp succeeded) same).1
  lowest other succeeded same := (leads other (sample_successful.mp succeeded) same).2

theorem sample_newest_first :
    Reachable sampleRuns ∧ ((sampleRuns.deployedArtifacts ⟨100⟩).map (·.id)).Nodup ∧
    Sample.newArtifact.stored ⟨1⟩ ∈ sampleRuns.deployedArtifacts ⟨100⟩ ∧
    Sample.newArtifact.stored ⟨2⟩ ∈ sampleRuns.deployedArtifacts ⟨100⟩ ∧
    (∀ artifact ∈ sampleRuns.deployedArtifacts ⟨100⟩, artifact.id ≠ ⟨3⟩) ∧
    (sampleRuns.deployedArtifacts ⟨100⟩).Pairwise fun newer older => ¬(newer.id = ⟨1⟩ ∧ older.id = ⟨2⟩) := by
  obtain ⟨distinct, listed, _, ordered⟩ := deployed_newest_first sample_runs_reachable ⟨100⟩
  refine ⟨sample_runs_reachable, distinct, ?_, ?_, fun artifact member gone => ?_, ?_⟩
  · exact (listed _).mpr ⟨rfl, Sample.runner, sample_successful.mpr (by decide), rfl⟩
  · exact (listed _).mpr ⟨rfl, sampleSecond, sample_successful.mpr (by decide), rfl⟩
  · have found := ((listed artifact).mp member).1
    rw [gone] at found
    cases found
  · refine ordered.imp fun {newer older} before => ?_
    rintro ⟨first, second⟩
    have again : LeadingRun sampleRuns ⟨100⟩ ⟨1⟩ sampleAgain := sample_leading sampleAgain (by decide) (by decide)
    have other : LeadingRun sampleRuns ⟨100⟩ ⟨2⟩ sampleSecond := sample_leading sampleSecond (by decide) (by decide)
    have early : ComesBefore sampleAgain sampleSecond := before _ _ (first ▸ again) (second ▸ other)
    rcases early with earlier | ⟨_, lower⟩
    · exact absurd earlier (by decide)
    · exact absurd lower (by decide)

end Store

end Delivery
