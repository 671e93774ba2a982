import Delivery.Proofs.Json.Patches
import Delivery.Charts.Editor
import Delivery.Rehearsal.Samples
set_option autoImplicit false

namespace Delivery.Charts

/-- An edit that is made a second time, by whomever and whenever, leaves the same values and the same override. -/
theorem edited_again {delta : Json} (formed : delta.WellFormed) :
    (∀ base : Json, base.WellFormed → (base.merged delta).merged delta = base.merged delta) ∧
    ∀ (chart : Chart) (user again : UserId) (now later : Instant), chart.values.WellFormed →
      chart.globalOverride.WellFormed →
        (edited (edited chart delta user now) delta again later).values = (edited chart delta user now).values ∧
        (edited (edited chart delta user now) delta again later).globalOverride =
          (edited chart delta user now).globalOverride := by
  have enough := Json.once_is_enough formed
  refine ⟨enough, fun chart user again now later values override => ?_⟩
  exact ⟨enough chart.values values, enough chart.globalOverride override⟩

def sampleDelta : Json :=
  .object [("gone", .null), ("image", .object [("digest", .null), ("tag", .string "v2")]),
    ("ports", .array [.int 80, .null]), ("replicas", .object [("least", .int 1), ("most", .null)])]

def sampleValues : Json :=
  .object [("gone", .bool true), ("image", .object [("digest", .string "d"), ("tag", .string "v1")]),
    ("ports", .object [("http", .int 8080)]), ("replicas", .int 3)]

theorem sample_values_well_formed : sampleDelta.WellFormed ∧ sampleValues.WellFormed := by
  constructor <;>
    simp only [sampleDelta, sampleValues, Json.WellFormed, Json.WellFormedItems, Json.WellFormedMembers,
      Entries.Sorted] <;>
    decide

theorem sample_edited_again :
    sampleValues.merged sampleDelta ≠ sampleValues ∧
    (sampleValues.merged sampleDelta).merged sampleDelta = sampleValues.merged sampleDelta ∧
    (edited (edited { Sample.chart with values := sampleValues } sampleDelta ⟨1⟩ Sample.moment) sampleDelta ⟨2⟩
        Sample.moment).values =
      .object [("image", .object [("tag", .string "v2")]), ("ports", .array [.int 80, .null]),
        ("replicas", .object [("least", .int 1)])] := by
  obtain ⟨delta, values⟩ := sample_values_well_formed
  obtain ⟨law, edits⟩ := edited_again delta
  have same := (edits { Sample.chart with values := sampleValues } ⟨1⟩ ⟨2⟩ Sample.moment Sample.moment values
    ⟨List.Pairwise.nil, trivial⟩).1
  exact ⟨by decide, law sampleValues values, same.trans (by decide)⟩

/-- Where a delta removes nothing and fits the override, merging it in after the override is merging both in at once.
So an edit with such a delta keeps the values of a chart the defaults with its override merged in. -/
theorem fitting_edit_composes {override delta : Json} (overrideFormed : override.WellFormed)
    (deltaFormed : delta.WellFormed) (keeps : delta.RemovesNothing) (fits : override.Fits delta) :
    (∀ defaults : Json, defaults.WellFormed →
      (defaults.merged override).merged delta = defaults.merged (override.merged delta)) ∧
    ∀ (chart : Chart) (defaults : Json) (user : UserId) (now : Instant), defaults.WellFormed →
      chart.globalOverride = override → chart.values = defaults.merged chart.globalOverride →
        (edited chart delta user now).values = defaults.merged (edited chart delta user now).globalOverride := by
  have composes : ∀ defaults : Json, defaults.WellFormed →
      (defaults.merged override).merged delta = defaults.merged (override.merged delta) := fun defaults formed =>
    (Json.composes_iff_follows formed overrideFormed deltaFormed).mpr (Json.follows_of_fits keeps fits)
  refine ⟨composes, ?_⟩
  rintro chart defaults user now formed rfl explained
  have both := composes defaults formed
  rw [← explained] at both
  exact both

def sampleOverride : Json :=
  .object [("image", .object [("tag", .string "v3")]), ("replicas", .int 5)]

def sampleFittingDelta : Json :=
  .object [("image", .object [("digest", .string "e")]), ("ports", .object [("admin", .int 9)]),
    ("replicas", .int 7)]

theorem sample_fitting_edit :
    (sampleValues.merged sampleOverride).merged sampleFittingDelta =
      sampleValues.merged (sampleOverride.merged sampleFittingDelta) ∧
    (edited { Sample.chart with values := sampleValues.merged sampleOverride, globalOverride := sampleOverride }
        sampleFittingDelta ⟨1⟩ Sample.moment).values =
      .object [("gone", .bool true), ("image", .object [("digest", .string "e"), ("tag", .string "v3")]),
        ("ports", .object [("admin", .int 9), ("http", .int 8080)]), ("replicas", .int 7)] := by
  have override : sampleOverride.WellFormed := by
    simp only [sampleOverride, Json.WellFormed, Json.WellFormedMembers, Entries.Sorted]
    decide
  have delta : sampleFittingDelta.WellFormed := by
    simp only [sampleFittingDelta, Json.WellFormed, Json.WellFormedMembers, Entries.Sorted]
    decide
  have keeps : sampleFittingDelta.RemovesNothing := by
    simp [sampleFittingDelta, Json.RemovesNothing, Json.RemovesNothingMembers, Json.isNull]
  have fits : sampleOverride.Fits sampleFittingDelta := by
    refine ⟨rfl, ?image, ?ports, fun said found => trivial, trivial⟩
    case image =>
      intro said found
      cases found
      refine ⟨rfl, ?_, trivial⟩
      intro digest missing
      cases missing
    case ports =>
      intro said missing
      cases missing
  obtain ⟨law, edits⟩ := fitting_edit_composes override delta keeps fits
  have kept := edits
    { Sample.chart with values := sampleValues.merged sampleOverride, globalOverride := sampleOverride }
    sampleValues ⟨1⟩ Sample.moment sample_values_well_formed.2 rfl rfl
  exact ⟨law sampleValues sample_values_well_formed.2, kept.trans (by decide)⟩

end Delivery.Charts
