import Mathlib
import Delivery.Proofs.Json.Canonical
import Delivery.Provenance.Basic
set_option autoImplicit false

namespace Delivery.Provenance

def stated (raw : String) : String :=
  if Text.trim raw = "" then "[]" else Text.trim raw

def denoted (raw : String) : Except Json.DecodeError Json :=
  (Json.asWritten (stated raw)).map Json.settled

def Floatless (raw : String) : Prop :=
  ∀ value, denoted raw = .ok value → value.FloatFree

theorem denoted_eq_parse (raw : String) : denoted raw = Json.parse (stated raw) :=
  (Json.parse_eq_settled (stated raw)).symm

theorem parse_no_material : Json.parse "[]" = .ok (.array []) := by
  have readable : Json.Readable Json.depthLimit (.array []) := fun item member => absurd member (by simp)
  have parsed : Json.parse (Json.compact (.array [])) = .ok (.array []) := Json.parse_compact readable trivial
  exact parsed

theorem compact_ok_iff {raw compacted : String} :
    compact (some raw) = .ok compacted ↔ ∃ value, denoted raw = .ok value ∧ compacted = value.compact := by
  rw [denoted_eq_parse]
  by_cases blank : Text.trim raw = ""
  · have nothing : Json.compact (.array []) = "[]" := rfl
    simp [compact, stated, blank, parse_no_material, nothing, eq_comm]
  · cases parsed : Json.parse (Text.trim raw) <;> simp [compact, stated, blank, parsed, eq_comm]

theorem denoted_readable {raw : String} {value : Json} (meant : denoted raw = .ok value) :
    Json.Readable Json.depthLimit value := by
  rw [denoted_eq_parse] at meant
  exact Json.parse_readable meant

theorem denoted_compact {value : Json} (readable : Json.Readable Json.depthLimit value)
    (floatFree : value.FloatFree) : denoted value.compact = .ok value := by
  rw [denoted_eq_parse, stated, Json.trim_compact floatFree, if_neg (Json.compact_ne_empty floatFree)]
  exact Json.parse_compact readable floatFree

/-- Compacting gives the canonical text of what a text without floating-point numbers says. -/
theorem compact_canonical {raw compacted : String} (floatless : Floatless raw)
    (accepted : compact (some raw) = .ok compacted) :
    (∃ value, Json.parse (stated raw) = .ok value ∧ Json.parse compacted = .ok value) ∧
      compact (some compacted) = .ok compacted ∧
      Json.Unspaced compacted.toList ∧
      (∃ written, Json.asWritten compacted = .ok written ∧ written.KeysAscend) ∧
      ∀ other otherCompacted, Floatless other → compact (some other) = .ok otherCompacted →
        (compacted = otherCompacted ↔ denoted raw = denoted other) := by
  obtain ⟨value, meant, rfl⟩ := compact_ok_iff.mp accepted
  have readable := denoted_readable meant
  have floatFree := floatless value meant
  have parsed : Json.parse value.compact = .ok value := Json.parse_compact readable floatFree
  refine ⟨⟨value, denoted_eq_parse raw ▸ meant, parsed⟩,
    compact_ok_iff.mpr ⟨value, denoted_compact readable floatFree, rfl⟩, Json.unspaced_compact floatFree,
    ⟨value, Json.as_written_compact readable floatFree, Json.keys_ascend_of_readable readable⟩, ?_⟩
  intro other otherCompacted otherFloatless otherAccepted
  obtain ⟨otherValue, otherMeant, rfl⟩ := compact_ok_iff.mp otherAccepted
  constructor
  · intro same
    have otherParsed : Json.parse otherValue.compact = .ok otherValue :=
      Json.parse_compact (denoted_readable otherMeant) (otherFloatless otherValue otherMeant)
    rw [← same, parsed] at otherParsed
    rw [meant, otherMeant, otherParsed]
  · intro same
    rw [meant, otherMeant] at same
    cases same
    rfl

def sampleText : String :=
  " [\x7b\"b\": 1, \"a\": \" \\u0041\", \"b\": -2\x7d]\n"

def sampleRespelled : String :=
  "[\x7b\"b\":-2,\"\\u0061\":\" A\"\x7d]"

def sampleStored : String :=
  "[\x7b\"a\":\" A\",\"b\":-2\x7d]"

theorem sample_floatless : Floatless sampleText ∧ Floatless sampleRespelled := by
  have first : denoted sampleText = .ok (.array [.object [("a", .string " A"), ("b", .int (-2))]]) := by cbv
  have second : denoted sampleRespelled = .ok (.array [.object [("a", .string " A"), ("b", .int (-2))]]) := by cbv
  constructor
  · intro value meant
    rw [first] at meant
    cases meant
    simp [Json.FloatFree, Json.FloatFreeItems, Json.FloatFreeMembers]
  · intro value meant
    rw [second] at meant
    cases meant
    simp [Json.FloatFree, Json.FloatFreeItems, Json.FloatFreeMembers]

theorem sample_compact_canonical :
    compact (some sampleText) = .ok sampleStored ∧ compact (some sampleRespelled) = .ok sampleStored ∧
      compact (some sampleStored) = .ok sampleStored ∧ denoted sampleText = denoted sampleRespelled := by
  have accepted : compact (some sampleText) = .ok sampleStored := by cbv
  have respelled : compact (some sampleRespelled) = .ok sampleStored := by cbv
  obtain ⟨_, fixed, _, _, alike⟩ := compact_canonical sample_floatless.1 accepted
  exact ⟨accepted, respelled, fixed, (alike _ _ sample_floatless.2 respelled).mp rfl⟩

end Delivery.Provenance
