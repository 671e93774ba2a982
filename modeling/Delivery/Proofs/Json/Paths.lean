import Delivery.Proofs.Json.Merge
set_option autoImplicit false

namespace Delivery.Json

open Entries

def at? : Json → List String → Option Json
  | value, [] => some value
  | value, key :: rest => (value.get? key).bind fun inner => inner.at? rest

inductive Verdict where
  | removes
  -- The value that the patch has on the way, and what is left of the path from there.
  | replaces (value : Json) (rest : List String)
  | leaves
  | patches

def verdict : Json → List String → Verdict
  | .object _, [] => .patches
  | .object changes, key :: rest =>
      match find? key changes with
      | none => .leaves
      | some change => if change.isNull then .removes else verdict change rest
  | value, path => .replaces value path

def Verdict.Gives (before after : Option Json) : Verdict → Prop
  | .removes => after = none
  | .replaces value rest => after = value.at? rest
  | .leaves => after = before
  | .patches => ∃ members, after = some (.object members)

section Leaves

variable {value patch : Json}

theorem at_of_leaf (leaf : value.isObject = false) (key : String) (rest : List String) :
    value.at? (key :: rest) = none := by
  cases value with
  | object members => cases leaf
  | _ => rfl

theorem verdict_of_leaf (leaf : patch.isObject = false) (path : List String) :
    verdict patch path = .replaces patch path := by
  cases patch with
  | object changes => cases leaf
  | _ => cases path <;> rfl

theorem merged_of_leaf (target : Json) (leaf : patch.isObject = false) : target.merged patch = patch := by
  cases patch with
  | object changes => cases leaf
  | _ => rfl

end Leaves

section Objects

variable {changes : List (String × Json)} {key : String} {change : Json}

theorem verdict_of_absent (absent : find? key changes = none) (rest : List String) :
    verdict (.object changes) (key :: rest) = .leaves := by
  rw [verdict, absent]

theorem verdict_of_null (found : find? key changes = some change) (null : change.isNull = true) (rest : List String) :
    verdict (.object changes) (key :: rest) = .removes := by
  rw [verdict, found]
  exact if_pos null

theorem verdict_of_change (found : find? key changes = some change) (keeps : change.isNull = false)
    (rest : List String) : verdict (.object changes) (key :: rest) = verdict change rest := by
  rw [verdict, found]
  simp [keeps]

theorem at_through (before : Option Json) (key : String) (rest : List String) :
    (before.bind fun value => value.at? (key :: rest)) =
      ((before.getD .null).get? key).bind fun inner => inner.at? rest := by
  cases before <;> rfl

end Objects

-- By induction on the path. Under its first key the patch goes on with what it has there, and the target with what
-- it has, which may be nothing at all.
theorem verdict_gives {patch : Json} (formed : patch.WellFormed) (before : Option Json) (path : List String) :
    (verdict patch path).Gives (before.bind fun value => value.at? path)
      (((before.getD .null).merged patch).at? path) := by
  induction path generalizing before patch with
  | nil => cases patch <;> first | exact ⟨_, rfl⟩ | exact rfl
  | cons key rest ih =>
      cases patch with
      | object changes =>
          have under : ((before.getD .null).merged (.object changes)).at? (key :: rest) =
              (memberAfter ((before.getD .null).get? key) (find? key changes)).bind fun inner => inner.at? rest :=
            congrArg (·.bind fun inner => inner.at? rest) (find_merged_object _ formed.1 key)
          rw [at_through, under]
          cases found : find? key changes with
          | none =>
              rw [verdict_of_absent found]
              exact rfl
          | some change =>
              cases kind : change.isNull with
              | true =>
                  rw [verdict_of_null found kind, member_after_null kind]
                  exact rfl
              | false =>
                  rw [verdict_of_change found kind, member_after_some kind]
                  exact ih (found_well_formed formed.2 found) _
      | _ => exact rfl

section Found

variable {patch value : Json} {path rest : List String}

theorem verdict_of_found (found : patch.at? path = some value) (leaf : value.isObject = false)
    (keeps : value.isNull = false) : verdict patch path = .replaces value [] := by
  induction path generalizing patch with
  | nil =>
      obtain rfl : patch = value := Option.some.inj found
      exact verdict_of_leaf leaf []
  | cons key rest ih =>
      cases patch with
      | object changes =>
          obtain ⟨change, there, inner⟩ : ∃ change, find? key changes = some change ∧ change.at? rest = some value :=
            Option.bind_eq_some_iff.mp found
          cases kind : change.isNull with
          | true =>
              cases change <;> cases kind
              -- Beneath a null there is nothing, and itself it is not the value.
              cases rest with
              | nil => cases Option.some.inj inner; cases keeps
              | cons next rest => cases inner
          | false =>
              rw [verdict_of_change there kind]
              exact ih inner
      | _ => cases found

theorem verdict_replaces (whole : patch.isObject = true) (decision : verdict patch path = .replaces value rest) :
    value.isNull = false ∧ value.isObject = false := by
  induction path generalizing patch with
  | nil =>
      cases patch with
      | object changes => cases decision
      | _ => cases whole
  | cons key others ih =>
      cases patch with
      | object changes =>
          cases found : find? key changes with
          | none =>
              rw [verdict_of_absent found] at decision
              cases decision
          | some change =>
              cases kind : change.isNull with
              | true =>
                  rw [verdict_of_null found kind] at decision
                  cases decision
              | false =>
                  rw [verdict_of_change found kind] at decision
                  cases shape : change.isObject with
                  | true => exact ih shape decision
                  | false =>
                      rw [verdict_of_leaf shape] at decision
                      cases decision
                      exact ⟨kind, shape⟩
      | _ => cases whole

theorem null_left {target : Json} (whole : patch.isObject = true)
    (gives : (verdict patch path).Gives (target.at? path) ((target.merged patch).at? path))
    (null : (target.merged patch).at? path = some .null) :
    verdict patch path = .leaves ∧ target.at? path = some .null := by
  rw [null] at gives
  cases decision : verdict patch path with
  | removes =>
      rw [decision] at gives
      cases gives
  | replaces value rest =>
      rw [decision] at gives
      obtain ⟨keeps, leaf⟩ := verdict_replaces whole decision
      have found : some Json.null = value.at? rest := gives
      cases rest with
      | nil =>
          cases Option.some.inj found
          cases keeps
      | cons key rest =>
          rw [at_of_leaf leaf] at found
          cases found
  | leaves =>
      rw [decision] at gives
      exact ⟨rfl, gives.symm⟩
  | patches =>
      rw [decision] at gives
      obtain ⟨members, same⟩ := gives
      cases same

end Found

/-- A patch that is no object takes the place of the target. Otherwise the walk down the patch decides what is found
at the end of each path. Of the patch, whatever is neither an object nor null is put in whole, and no null of a patch
that is an object gets into the members: each one found there was the target's, where the patch has nothing. -/
theorem merged_along_paths (target patch : Json) (formed : patch.WellFormed) :
    (patch.isObject = false → target.merged patch = patch) ∧
    (∀ path, (verdict patch path).Gives (target.at? path) ((target.merged patch).at? path)) ∧
    (∀ path value, patch.at? path = some value → value.isObject = false → value.isNull = false →
      (target.merged patch).at? path = some value) ∧
    (patch.isObject = true → ∀ path, (target.merged patch).at? path = some .null →
      verdict patch path = .leaves ∧ target.at? path = some .null) := by
  have gives : ∀ path, (verdict patch path).Gives (target.at? path) ((target.merged patch).at? path) := fun path =>
    verdict_gives formed (some target) path
  refine ⟨merged_of_leaf target, gives, fun path value found leaf keeps => ?_, fun whole path null => ?_⟩
  · have put := gives path
    rw [verdict_of_found found leaf keeps] at put
    exact put
  · exact null_left whole (gives path) null

def sampleTarget : Json :=
  .object [("a", .object [("b", .int 1), ("e", .null)]), ("k", .object [("z", .int 2)]), ("s", .int 3), ("y", .null)]

def samplePatch : Json :=
  .object [("a", .object [("b", .null), ("c", .object [("d", .null)])]), ("k", .array [.null]),
    ("s", .object [("t", .bool true)]), ("x", .null)]

theorem sample_merged_along_paths :
    samplePatch.WellFormed ∧
    (sampleTarget.merged samplePatch).at? ["a", "b"] = none ∧
    (∃ members, (sampleTarget.merged samplePatch).at? ["a", "c"] = some (.object members)) ∧
    (sampleTarget.merged samplePatch).at? ["a", "c", "d"] = none ∧
    (sampleTarget.merged samplePatch).at? ["a", "e"] = some .null ∧
    (sampleTarget.merged samplePatch).at? ["k"] = some (.array [.null]) ∧
    (sampleTarget.merged samplePatch).at? ["k", "z"] = none ∧
    (sampleTarget.merged samplePatch).at? ["s", "t"] = some (.bool true) ∧
    (sampleTarget.merged samplePatch).at? ["y"] = some .null := by
  have formed : samplePatch.WellFormed := by
    simp only [samplePatch, WellFormed, WellFormedMembers, WellFormedItems, Sorted]
    decide
  obtain ⟨_, gives, whole, _⟩ := merged_along_paths sampleTarget samplePatch formed
  exact ⟨formed, gives ["a", "b"], gives ["a", "c"], gives ["a", "c", "d"], gives ["a", "e"], whole ["k"] _ rfl rfl rfl,
    gives ["k", "z"], whole ["s", "t"] _ rfl rfl rfl, gives ["y"]⟩

end Delivery.Json
