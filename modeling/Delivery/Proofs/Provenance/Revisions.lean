import Delivery.Proofs.Attempts
import Delivery.Provenance.Basic
set_option autoImplicit false

namespace Delivery.Provenance

inductive Repository (material : Material) : String → Prop where
  | git (typed : material.typeName = "git") : Repository material (Text.trim material.gitConfiguration.url)
  | scm (typed : material.typeName = "scm") : Repository material (Text.trim material.scmConfiguration.url)

def FirstRevision (info : MaterialInfo) (revision : String) : Prop :=
  ∃ modification later, info.modifications = modification :: later ∧ modification.revision = revision

structure Usable (info : MaterialInfo) : Prop where
  typed : info.material.typeName = "git" ∨ info.material.typeName = "scm"
  modified : info.modifications ≠ []

-- What is said of a material that cannot be used. Its type counts before its modifications.
inductive Offends (info : MaterialInfo) : ValidationError → Prop where
  | untyped (other : info.material.typeName ≠ "git" ∧ info.material.typeName ≠ "scm") :
      Offends info (.invalidMaterialInfo ("unknown material type: " ++ info.material.typeName))
  | unmodified {url : String} (repository : Repository info.material url) (none : info.modifications = []) :
      Offends info (.invalidMaterialInfo ("material " ++ url ++ " has no modifications"))

section Material

variable {info : MaterialInfo} {url taken : String} {error : ValidationError}

theorem repository_url_ok_iff {material : Material} :
    repositoryUrl material = .ok url ↔ Repository material url := by
  constructor
  · intro read
    unfold repositoryUrl at read
    split at read
    · next git =>
        cases read
        exact .git git
    · split at read
      · next scm =>
          cases read
          exact .scm scm
      · cases read
  · intro repository
    cases repository with
    | git typed => simp [repositoryUrl, typed]
    | scm typed => simp [repositoryUrl, typed]

theorem repository_url_error {material : Material} (untyped : material.typeName ≠ "git" ∧ material.typeName ≠ "scm") :
    repositoryUrl material = .error (invalid ("unknown material type: " ++ material.typeName)) := by
  rw [repositoryUrl, if_neg untyped.1, if_neg untyped.2]

theorem repository_of_typed {material : Material} (typed : material.typeName = "git" ∨ material.typeName = "scm") :
    ∃ url, Repository material url := by
  rcases typed with git | scm
  · exact ⟨_, .git git⟩
  · exact ⟨_, .scm scm⟩

theorem repository_unique {material : Material} {other : String} (one : Repository material url)
    (two : Repository material other) : url = other :=
  Except.ok.inj ((repository_url_ok_iff.mpr one).symm.trans (repository_url_ok_iff.mpr two))

theorem first_unique {other : String} (one : FirstRevision info taken) (two : FirstRevision info other) :
    taken = other := by
  obtain ⟨modification, later, listed, rfl⟩ := one
  obtain ⟨_, _, same, rfl⟩ := two
  rw [listed] at same
  cases same
  rfl

theorem typed_of_repository {material : Material} (repository : Repository material url) :
    material.typeName = "git" ∨ material.typeName = "scm" := by
  cases repository with
  | git typed => exact .inl typed
  | scm typed => exact .inr typed

theorem revision_ok_iff :
    revision info = .ok (url, taken) ↔ Repository info.material url ∧ FirstRevision info taken := by
  constructor
  · intro read
    obtain ⟨found, repository, first⟩ := bind_ok read
    cases listed : info.modifications with
    | nil =>
        rw [listed] at first
        cases first
    | cons modification later =>
        rw [listed] at first
        cases first
        exact ⟨repository_url_ok_iff.mp repository, modification, later, listed, rfl⟩
  · rintro ⟨repository, modification, later, listed, rfl⟩
    rw [revision, repository_url_ok_iff.mpr repository, listed]
    rfl

theorem revision_of_offence (offends : Offends info error) : revision info = .error error := by
  cases offends with
  | untyped other =>
      rw [revision, repository_url_error other]
      rfl
  | unmodified repository none =>
      rw [revision, repository_url_ok_iff.mpr repository, none]
      rfl

theorem usable_or_offends (info : MaterialInfo) : Usable info ∨ ∃ error, Offends info error := by
  by_cases typed : info.material.typeName = "git" ∨ info.material.typeName = "scm"
  · by_cases modified : info.modifications = []
    · obtain ⟨url, repository⟩ := repository_of_typed typed
      exact .inr ⟨_, .unmodified repository modified⟩
    · exact .inl ⟨typed, modified⟩
  · exact .inr ⟨_, .untyped (not_or.mp typed)⟩

theorem usable_iff : Usable info ↔ ∃ result, revision info = .ok result := by
  constructor
  · rintro ⟨typed, modified⟩
    obtain ⟨url, repository⟩ := repository_of_typed typed
    obtain ⟨modification, later, listed⟩ := List.exists_cons_of_ne_nil modified
    exact ⟨_, revision_ok_iff.mpr ⟨repository, modification, later, listed, rfl⟩⟩
  · rintro ⟨⟨url, taken⟩, read⟩
    obtain ⟨repository, modification, later, listed, _⟩ := revision_ok_iff.mp read
    refine ⟨typed_of_repository repository, ?_⟩
    rw [listed]
    exact List.cons_ne_nil modification later

theorem revision_error_iff : revision info = .error error ↔ Offends info error := by
  constructor
  · intro failed
    rcases usable_or_offends info with usable | ⟨offence, offends⟩
    · obtain ⟨result, read⟩ := usable_iff.mp usable
      rw [read] at failed
      cases failed
    · rw [revision_of_offence offends] at failed
      cases failed
      exact offends
  · exact revision_of_offence

end Material

section Materials

variable {infos : List MaterialInfo} {pairs : List (String × String)}

theorem named_iff {url : String} (read : infos.mapM revision = .ok pairs) :
    (∃ pair ∈ pairs, pair.1 = url) ↔ ∃ info ∈ infos, Repository info.material url := by
  have paired := attempts_ok_iff.mp read
  constructor
  · rintro ⟨pair, member, rfl⟩
    obtain ⟨info, present, taken⟩ := item_of_result paired member
    exact ⟨info, present, (revision_ok_iff.mp taken).1⟩
  · rintro ⟨info, member, repository⟩
    obtain ⟨pair, present, taken⟩ := result_of_item paired member
    exact ⟨pair, present, repository_unique (revision_ok_iff.mp taken).1 repository⟩

theorem unnamed_iff {url : String} (read : infos.mapM revision = .ok pairs) :
    (∀ pair ∈ pairs, pair.1 ≠ url) ↔ ∀ info ∈ infos, ¬ Repository info.material url := by
  simpa only [not_exists, not_and] using not_congr (named_iff read)

structure LastTaken (infos : List MaterialInfo) (table : Table String String) : Prop where
  repositories : ∀ url, table.contains url = true ↔ ∃ info ∈ infos, Repository info.material url
  taken : ∀ url taken, table.get? url = some taken ↔
    ∃ front info back, infos = front ++ info :: back ∧ Repository info.material url ∧ FirstRevision info taken ∧
      ∀ later ∈ back, ¬ Repository later.material url

theorem last_taken (read : infos.mapM revision = .ok pairs) : LastTaken infos (Table.ofList pairs) := by
  have paired := attempts_ok_iff.mp read
  constructor
  · intro url
    rw [Table.contains_ofList_iff, named_iff read]
  · intro url taken
    rw [Table.get_ofList_iff]
    constructor
    · rintro ⟨front, back, rfl, last⟩
      obtain ⟨earlier, info, later, rfl, _, first, rest⟩ := around_result paired
      obtain ⟨repository, first⟩ := revision_ok_iff.mp first
      exact ⟨earlier, info, later, rfl, repository, first, (unnamed_iff (attempts_ok_iff.mpr rest)).mp last⟩
    · rintro ⟨front, info, back, rfl, repository, first, last⟩
      obtain ⟨earlier, pair, later, rfl, _, read, rest⟩ := around_item paired
      obtain rfl := Except.ok.inj (read.symm.trans (revision_ok_iff.mpr ⟨repository, first⟩))
      exact ⟨earlier, later, rfl, (unnamed_iff (attempts_ok_iff.mpr rest)).mpr last⟩

theorem firsts_of_usable (usable : ∀ info ∈ infos, Usable info) : List.Forall₂ FirstRevision infos
    (infos.filterMap fun info => info.modifications.head?.map (·.revision)) := by
  induction infos with
  | nil => exact .nil
  | cons info rest ih =>
      obtain ⟨first, others⟩ := List.forall_mem_cons.mp usable
      obtain ⟨modification, later, listed⟩ := List.exists_cons_of_ne_nil first.modified
      rw [List.filterMap_cons, listed]
      exact .cons ⟨modification, later, listed, rfl⟩ (ih others)

theorem all_usable_iff : (∃ pairs, infos.mapM revision = .ok pairs) ↔ ∀ info ∈ infos, Usable info := by
  simp only [attempts_succeed_iff, usable_iff]

theorem first_offence_iff {error : ValidationError} : infos.mapM revision = .error error ↔
    ∃ front info back, infos = front ++ info :: back ∧ (∀ earlier ∈ front, Usable earlier) ∧ Offends info error := by
  simp only [attempts_error_iff, usable_iff, revision_error_iff]

theorem listed_of_read {text : String} (typed : materials text = .ok infos) (read : infos.mapM revision = .ok pairs) :
    ∃ firsts, source text = ",".intercalate firsts ∧ List.Forall₂ FirstRevision infos firsts ∧
      ∀ url taken, (Table.ofList pairs).get? url = some taken → taken ∈ firsts := by
  have firsts := firsts_of_usable (all_usable_iff.mp ⟨pairs, read⟩)
  refine ⟨_, by rw [source, typed], firsts, fun url taken found => ?_⟩
  obtain ⟨front, info, back, rfl, _, first, _⟩ := ((last_taken read).taken url taken).mp found
  obtain ⟨listed, member, same⟩ := result_of_item firsts List.mem_append_cons_self
  rwa [first_unique first same]

end Materials

/-- The revisions of a list of materials can be read exactly when every material is of a known type and has a
modification. Each repository then has the first revision of the last material that names it, and the text for people
lists one revision for each material, those that are read among them. Otherwise the first material that is not as it
must be decides what is said. A data source that is not known is named whatever the text is. -/
theorem revisions_of_materials {text name : String} {infos : List MaterialInfo} {dataSource : DataSource}
    (typed : materials text = .ok infos) (supported : DataSource.ofName? name = some dataSource) :
    ((∃ table, revisions text name = .ok table) ↔ ∀ info ∈ infos, Usable info) ∧
      (∀ table, revisions text name = .ok table → LastTaken infos table ∧
        ∃ firsts, source text = ",".intercalate firsts ∧ List.Forall₂ FirstRevision infos firsts ∧
          ∀ url taken, table.get? url = some taken → taken ∈ firsts) ∧
      (∀ error, revisions text name = .error error ↔ ∃ front info back, infos = front ++ info :: back ∧
        (∀ earlier ∈ front, Usable earlier) ∧ Offends info error) ∧
      ∀ unreadable unknown, DataSource.ofName? unknown = none →
        revisions unreadable unknown = .error (.unsupportedDataSource unknown) := by
  have read : revisions text name = (infos.mapM revision).map Table.ofList := by rw [revisions, supported, typed]
  rw [read]
  refine ⟨?_, fun table made => ?_, fun error => ?_, fun unreadable unknown unsupported => ?_⟩
  · rw [← all_usable_iff]
    cases infos.mapM revision <;> simp [Except.map]
  · cases ran : infos.mapM revision with
    | error fault =>
        rw [ran] at made
        cases made
    | ok pairs =>
        rw [ran] at made
        cases made
        exact ⟨last_taken ran, listed_of_read typed ran⟩
  · rw [← first_offence_iff]
    cases infos.mapM revision <;> simp [Except.map]
  · rw [revisions, unsupported]

def sampleRepeated : String :=
  "[[[\"\",[\" url\\t\"],[],\"git\"],true,[[\"4ab1\"]]],[[\"\",[],[\"url\"],\"scm\"],false,[[\"5cd2\"],[\"4ab1\"]]]]"

def sampleGit : MaterialInfo where
  material := { gitConfiguration := { url := " url\t" }, typeName := "git" }
  changed := true
  modifications := [{ revision := "4ab1" }]

def sampleScm : MaterialInfo where
  material := { scmConfiguration := { url := "url" }, typeName := "scm" }
  modifications := [{ revision := "5cd2" }, { revision := "4ab1" }]

theorem sample_revisions :
    materials sampleRepeated = .ok [sampleGit, sampleScm] ∧ DataSource.ofName? "gocd" = some .gocd ∧
      ∃ table, revisions sampleRepeated "gocd" = .ok table ∧ table.get? "url" = some "5cd2" ∧
        source sampleRepeated = "4ab1,5cd2" := by
  have typed : materials sampleRepeated = .ok [sampleGit, sampleScm] := by decide +kernel
  have supported : DataSource.ofName? "gocd" = some .gocd := by decide +kernel
  have usable : ∀ info ∈ [sampleGit, sampleScm], Usable info := by
    refine List.forall_mem_cons.mpr ⟨⟨.inl rfl, ?_⟩, List.forall_mem_singleton.mpr ⟨.inr rfl, ?_⟩⟩ <;>
      exact List.cons_ne_nil _ _
  have repository : Repository sampleScm.material "url" := repository_url_ok_iff.mp (by decide +kernel)
  obtain ⟨readable, read, _⟩ := revisions_of_materials typed supported
  obtain ⟨table, made⟩ := readable.mpr usable
  refine ⟨typed, supported, table, made, ((read table made).1.taken "url" "5cd2").mpr ?_, ?_⟩
  · exact ⟨[sampleGit], sampleScm, [], rfl, repository, ⟨_, _, rfl, rfl⟩, nofun⟩
  · rw [source, typed]
    rfl

end Delivery.Provenance
