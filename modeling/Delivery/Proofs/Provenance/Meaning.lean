import Delivery.Proofs.Json.Followed
import Delivery.Proofs.Json.Settling
import Delivery.Proofs.Provenance.Compact
import Delivery.Proofs.Webhook.Calls
set_option autoImplicit false

namespace Delivery.Provenance

open Json

section Blanks

theorem stops_of_blank {cs : List Char} (blank : ∀ c ∈ cs, Text.isBlank c = true) : Scan.Stops cs := by
  cases cs with
  | nil => trivial
  | cons c rest =>
      have shown := blank c List.mem_cons_self
      refine ⟨?_, ?_, ?_, ?_⟩
      · cases digit : c.isDigit with
        | false => rfl
        | true =>
            rw [Text.not_blank_of_digit digit] at shown
            cases shown
      all_goals
        rintro rfl
        cases shown

theorem trim_left_of_starts {cs more : List Char} {c : Char} (starts : Scan.skipSpace cs = c :: more)
    (shown : Text.isBlank c = false) : Text.trimLeft cs = c :: more := by
  induction cs with
  | nil => cases starts
  | cons d rest ih =>
      rw [Scan.skipSpace] at starts
      rw [Text.trimLeft]
      cases space : Scan.isSpace d with
      | true =>
          rw [List.dropWhile_cons_of_pos space] at starts
          rw [List.dropWhile_cons_of_pos (blank_of_space space)]
          exact ih starts
      | false =>
          rw [List.dropWhile_cons_of_neg (by simp [space])] at starts
          obtain ⟨rfl, rfl⟩ := List.cons.inj starts
          rw [List.dropWhile_cons_of_neg (by simp [shown])]

end Blanks

section Typed

variable {item : Schema} {raw compacted : String} {value : Json}

theorem to_option_some {α ε : Type} {outcome : Except ε α} {value : α} :
    outcome.toOption = some value ↔ outcome = .ok value := by
  cases outcome <;> simp [Except.toOption]

theorem list_starts {cs rest : List Char} (read : (Schema.list item).read cs = .ok (value, rest)) :
    ∃ more, Scan.skipSpace cs = '[' :: more := by
  have found := to_option_some.mpr read
  rw [Schema.read, Schema.readList] at found
  split at found
  · next starts => exact ⟨_, starts⟩
  · rw [Schema.mismatch_none] at found
    cases found

theorem trimmed_of_starts {raw : String} {more : List Char} (starts : Scan.skipSpace raw.toList = '[' :: more) :
    ∃ right, Scan.skipSpace raw.toList = (stated raw).toList ++ right ∧ ∀ c ∈ right, Text.isBlank c = true := by
  obtain ⟨right, whole, blank⟩ := Text.trim_right_append ('[' :: more)
  have left := trim_left_of_starts starts rfl
  have trimmed : (Text.trim raw).toList = Text.trimRight ('[' :: more) := by
    rw [Text.trim, String.toList_ofList, Text.trimChars, left]
  have some : Text.trim raw ≠ "" := by
    intro none
    rw [none] at trimmed
    have bracket : '[' ∈ right := by
      rw [← trimmed] at whole
      have all : right = '[' :: more := whole
      rw [all]
      exact List.mem_cons_self
    cases blank _ bracket
  exact ⟨right, by rw [stated, if_neg some, trimmed, whole, starts], blank⟩

theorem parse_stored {schema : Schema} {said : Json} (formed : said.WellFormed)
    (shown : schema.view said = some value) : schema.parse said.compact = .ok value := by
  have spelled : said.Spelled (print said ++ []) [] := printed_spelled formed trivial
  have read := Schema.read_shows schema spelled
  rw [List.append_nil, shown, Option.map_some] at read
  exact whole_of_read (by rw [Json.compact, String.toList_ofList, to_option_some.mp read])

theorem typed_of_compact (accepted : compact (some raw) = .ok compacted)
    (typed : (Schema.list item).parse raw = .ok value) : (Schema.list item).parse compacted = .ok value := by
  obtain ⟨said, meant, rfl⟩ := compact_ok_iff.mp accepted
  have formed : said.WellFormed := parse_well_formed (denoted_eq_parse raw ▸ meant)
  obtain ⟨written, asked, rfl⟩ : ∃ written, asWritten (stated raw) = .ok written ∧ settled written = said := by
    rw [denoted] at meant
    cases read : asWritten (stated raw) with
    | error fault =>
        rw [read] at meant
        cases meant
    | ok written =>
        rw [read] at meant
        exact ⟨written, rfl, Except.ok.inj meant⟩
  obtain ⟨behind, read, _⟩ := whole_ok asked
  obtain ⟨rest, found, _⟩ := whole_ok typed
  obtain ⟨more, starts⟩ := list_starts found
  obtain ⟨right, trimmed, blank⟩ := trimmed_of_starts starts
  have spelled : written.Spelled raw.toList (behind ++ right) := by
    have followed := spelled_followed (written_spelled read) (stops_of_blank blank)
    rw [← trimmed] at followed
    exact spelled_from (List.dropWhile_idempotent _ _).symm followed
  have shown := Schema.read_shows (.list item) spelled
  rw [to_option_some.mpr found] at shown
  obtain ⟨seen, viewed, same⟩ := Option.map_eq_some_iff.mp shown.symm
  obtain ⟨rfl, _⟩ := Prod.mk.inj same
  exact parse_stored formed (Schema.view_settles _ viewed)

end Typed

section Told

structure Tells (ω : Type) (raw told : String) : Prop where
  success : ∀ {webhook : Webhook ω} {id : CiPipelineId} {request : BuildEventRequest} {pushedAt : Option Instant}
    {now : Instant} {before after : World ω} {outcome : IngestionOutcome}, request.materialInfo = some raw →
      Webhook.Ready before.store request →
        (webhook.buildSucceeded id request pushedAt now).run before = (.ok outcome, after) →
          ∃ event, after.events = before.events ++ [event] ∧ event.kind = .success ∧ event.source = told
  failure : ∀ {id : CiPipelineId} {request : BuildEventRequest} {before after : World ω},
    request.materialInfo = some raw → (Webhook.buildFailed id request).run before = (.ok (), after) →
      ∃ event, after.events = before.events ++ [event] ∧ event.kind = .fail ∧ event.source = told

theorem tells_source (ω : Type) {raw compacted : String} (accepted : compact (some raw) = .ok compacted)
    (same : source compacted = source raw) : Tells ω raw (source raw) := by
  constructor
  · intro webhook id request pushedAt now before after outcome asked ready answer
    obtain ⟨build, records, events, _⟩ := Webhook.first_success_records ready answer
    have stored : build.materialInfo = compacted := by
      have provenance := records.materialInfo
      rw [BuildEventRequest.provenance, asked, accepted] at provenance
      exact (Except.ok.inj provenance).symm
    refine ⟨_, events, rfl, ?_⟩
    show source build.own.materialInfo = source raw
    rw [Webhook.records_own records]
    show source build.materialInfo = source raw
    rw [stored, same]
  · intro id request before after asked answer
    obtain ⟨pipeline, run, rfl⟩ := Service.ends_ok Webhook.build_failed_announces answer
    refine ⟨_, rfl, rfl, ?_⟩
    show (request.materialInfo.map source).getD "" = source raw
    rw [asked]
    rfl

/-- Compacting changes nothing of what a text means to those who look for materials in it. It lists the same materials,
and for every data source the same revisions; a success, which is told from the stored text, is told with the source
with which a failure is told from the text that was handed in. -/
theorem compaction_keeps_meaning {raw compacted : String} {infos : List MaterialInfo}
    (accepted : compact (some raw) = .ok compacted) (typed : materials raw = .ok infos) :
    materials compacted = .ok infos ∧ source compacted = source raw ∧
      (∀ dataSource, revisions compacted dataSource = revisions raw dataSource) ∧
      ∀ ω, Tells ω raw (source raw) := by
  obtain ⟨value, parsed, decoded⟩ := bind_ok typed
  have kept : materials compacted = .ok infos := by
    rw [materials, typed_of_compact accepted parsed]
    exact decoded
  have same : source compacted = source raw := by rw [source, source, kept, typed]
  refine ⟨kept, same, fun dataSource => ?_, fun ω => tells_source ω accepted same⟩
  rw [revisions, revisions, kept, typed]

end Told

def sampleMaterials : String :=
  "\n[\x7b\"material\":\x7b\"type\":\"git\",\"n\":1.50e2," ++
    "\"git\\u002dconfiguration\":[\"url\"]\x7d,\"a\":[],\"a\":-0,\"modifications\":[[\"4ab1\"]]\x7d ]\r"

def sampleMaterialsStored : String :=
  "[\x7b\"a\":-0.0,\"material\":\x7b\"git-configuration\":[\"url\"],\"n\":150.0," ++
    "\"type\":\"git\"\x7d,\"modifications\":[[\"4ab1\"]]\x7d]"

def sampleInfos : List MaterialInfo :=
  [{ material := { gitConfiguration := { url := "url" }, typeName := "git" }
     modifications := [{ revision := "4ab1" }] }]

theorem sample_compaction :
    compact (some sampleMaterials) = .ok sampleMaterialsStored ∧
      materials sampleMaterials = .ok sampleInfos ∧ materials sampleMaterialsStored = .ok sampleInfos ∧
      source sampleMaterialsStored = "4ab1" := by
  have accepted : compact (some sampleMaterials) = .ok sampleMaterialsStored := by decide +kernel
  have typed : materials sampleMaterials = .ok sampleInfos := by decide +kernel
  obtain ⟨kept, same, _⟩ := compaction_keeps_meaning accepted typed
  refine ⟨accepted, typed, kept, ?_⟩
  rw [same, source, typed]
  rfl

end Delivery.Provenance
