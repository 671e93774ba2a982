import Delivery.Proofs.Json.Merge
set_option autoImplicit false

namespace Delivery.Json

open Entries

section Again

def OnceIsEnough (patch : Json) : Prop :=
  ∀ target : Json, target.WellFormed → (target.merged patch).merged patch = target.merged patch

theorem member_after_again {before change : Option Json} (formed : (before.getD .null).WellFormed)
    (enough : ∀ value ∈ change, value.OnceIsEnough) :
    memberAfter (memberAfter before change) change = memberAfter before change := by
  cases change with
  | none => rfl
  | some value =>
      cases kind : value.isNull with
      | true => rw [member_after_null kind, member_after_null kind]
      | false =>
          have again := enough value rfl _ formed
          rw [member_after_some kind, member_after_some kind, Option.getD_some, again]

theorem object_once_is_enough {changes : List (String × Json)} (sorted : Sorted changes)
    (enough : ∀ entry ∈ changes, entry.2.OnceIsEnough) : (Json.object changes).OnceIsEnough := by
  intro target formed
  obtain ⟨targetSorted, members⟩ := members_well_formed formed
  have once : Sorted (mergedMembers target.members changes) := sorted_merged_members changes targetSorted
  refine congrArg Json.object (sorted_ext (sorted_merged_members changes once) once fun key => ?_)
  rw [find_merged_members key _ sorted, find_merged_members key _ sorted, find_merged_object target sorted]
  exact member_after_again (found_or_null_well_formed members key) fun value found =>
    enough (key, value) (mem_of_find found)

mutual
theorem once_is_enough : ∀ {patch : Json}, patch.WellFormed → patch.OnceIsEnough
  | .object _, formed => object_once_is_enough formed.1 (members_once_is_enough formed.2)
  | .null, _ => fun _ _ => rfl
  | .bool _, _ => fun _ _ => rfl
  | .int _, _ => fun _ _ => rfl
  | .float _, _ => fun _ _ => rfl
  | .string _, _ => fun _ _ => rfl
  | .array _, _ => fun _ _ => rfl

theorem members_once_is_enough : ∀ {changes : List (String × Json)}, WellFormedMembers changes →
    ∀ entry ∈ changes, entry.2.OnceIsEnough
  | [], _ => nofun
  | (_, _) :: _, formed => List.forall_mem_cons.mpr ⟨once_is_enough formed.1, members_once_is_enough formed.2⟩
end

end Again

section Fitting

mutual
def RemovesNothing : Json → Prop
  | .object changes => RemovesNothingMembers changes
  | _ => True

def RemovesNothingMembers : List (String × Json) → Prop
  | [] => True
  | (_, change) :: rest => change.isNull = false ∧ change.RemovesNothing ∧ RemovesNothingMembers rest
end

mutual
def Fits (first : Json) : Json → Prop
  | .object changes => first.isObject = true ∧ FitsMembers first changes
  | _ => True

def FitsMembers (first : Json) : List (String × Json) → Prop
  | [] => True
  | (key, change) :: rest => (∀ said, first.get? key = some said → Fits said change) ∧ FitsMembers first rest
end

theorem fits_empty (change : Json) : Fits (.object []) change := by
  cases change with
  | object changes =>
      refine ⟨rfl, ?_⟩
      induction changes with
      | nil => trivial
      | cons head rest ih => exact ⟨nofun, ih⟩
  | _ => trivial

theorem fits_beneath {first : Json} {key : String} {change : Json} (whole : first.isObject = true)
    (fits : ∀ said, first.get? key = some said → Fits said change) : Fits (beneath first key) change := by
  cases first with
  | object members =>
      show Fits ((find? key members).getD (.object [])) change
      cases found : find? key members with
      | some said => exact fits said found
      | none => exact fits_empty change
  | _ => cases whole

mutual
theorem follows_of_fits : ∀ {target first later : Json}, later.RemovesNothing → first.Fits later →
    Follows target first later
  | _, _, .object _, keeps, fits => ⟨.inl fits.1, follows_members_of_fits fits.1 keeps fits.2⟩
  | _, _, .null, _, _ => trivial
  | _, _, .bool _, _, _ => trivial
  | _, _, .int _, _, _ => trivial
  | _, _, .float _, _, _ => trivial
  | _, _, .string _, _, _ => trivial
  | _, _, .array _, _, _ => trivial

theorem follows_members_of_fits : ∀ {target first : Json} {changes : List (String × Json)}, first.isObject = true →
    RemovesNothingMembers changes → FitsMembers first changes → FollowsMembers target first changes
  | _, _, [], _, _, _ => trivial
  | _, _, (key, change) :: rest, whole, keeps, fits => by
      refine ⟨?_, follows_members_of_fits whole keeps.2.2 fits.2⟩
      rw [if_neg (by simp [keeps.1])]
      exact follows_of_fits keeps.2.1 (fits_beneath whole fits.1)
end

end Fitting

end Delivery.Json
