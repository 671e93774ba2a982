import Delivery.Json.Merge
set_option autoImplicit false

namespace Delivery.Json

open Entries

section WellFormed

theorem well_formed_items_iff {items : List Json} : WellFormedItems items ↔ ∀ item ∈ items, item.WellFormed := by
  induction items with
  | nil => simp [WellFormedItems]
  | cons item rest ih => simp [WellFormedItems, ih]

theorem well_formed_members_iff {members : List (String × Json)} :
    WellFormedMembers members ↔ ∀ entry ∈ members, entry.2.WellFormed := by
  induction members with
  | nil => simp [WellFormedMembers]
  | cons head rest ih => simp [WellFormedMembers, ih]

theorem members_well_formed {value : Json} (formed : value.WellFormed) :
    Sorted value.members ∧ WellFormedMembers value.members := by
  cases value with
  | object members => exact formed
  | _ => exact ⟨sorted_nil, trivial⟩

theorem found_well_formed {members : List (String × Json)} (formed : WellFormedMembers members) {key : String}
    {value : Json} (found : find? key members = some value) : value.WellFormed :=
  well_formed_members_iff.mp formed _ (mem_of_find found)

theorem found_or_null_well_formed {members : List (String × Json)} (formed : WellFormedMembers members)
    (key : String) : ((find? key members).getD .null).WellFormed := by
  cases found : find? key members with
  | none => exact trivial
  | some value => exact found_well_formed formed found

theorem sorted_merged_members {target : List (String × Json)} (changes : List (String × Json))
    (sorted : Sorted target) : Sorted (mergedMembers target changes) := by
  induction changes generalizing target with
  | nil => exact sorted
  | cons head rest ih =>
      obtain ⟨key, change⟩ := head
      rw [mergedMembers]
      split
      · exact ih (sorted_erase key sorted)
      · exact ih (sorted_insert key _ sorted)

mutual
theorem merged_well_formed : ∀ {target patch : Json}, target.WellFormed → patch.WellFormed →
    (target.merged patch).WellFormed
  | _, .object changes, formed, wellFormed =>
      have ⟨sorted, members⟩ := members_well_formed formed
      ⟨sorted_merged_members changes sorted, merged_members_well_formed members wellFormed.2⟩
  | _, .null, _, _ => trivial
  | _, .bool _, _, _ => trivial
  | _, .int _, _, wellFormed => wellFormed
  | _, .float _, _, wellFormed => wellFormed
  | _, .string _, _, _ => trivial
  | _, .array _, _, wellFormed => wellFormed

theorem merged_members_well_formed : ∀ {target changes : List (String × Json)}, WellFormedMembers target →
    WellFormedMembers changes → WellFormedMembers (mergedMembers target changes)
  | _, [], formed, _ => formed
  | target, (key, change) :: rest, formed, wellFormed => by
      rw [mergedMembers]
      split
      · refine merged_members_well_formed (well_formed_members_iff.mpr fun entry member => ?_) wellFormed.2
        exact well_formed_members_iff.mp formed entry (mem_of_mem_erase member)
      · refine merged_members_well_formed (well_formed_members_iff.mpr fun entry member => ?_) wellFormed.2
        rcases mem_insert member with rfl | old
        · exact merged_well_formed (found_or_null_well_formed formed key) wellFormed.1
        · exact well_formed_members_iff.mp formed entry old
end

end WellFormed

def memberAfter (before change : Option Json) : Option Json :=
  match change with
  | none => before
  | some change => if change.isNull then none else some ((before.getD .null).merged change)

theorem find_merged_members (key : String) (target : List (String × Json)) {changes : List (String × Json)}
    (sorted : Sorted changes) :
    find? key (mergedMembers target changes) = memberAfter (find? key target) (find? key changes) := by
  induction changes generalizing target with
  | nil => rfl
  | cons head rest ih =>
      obtain ⟨first, change⟩ := head
      rw [mergedMembers]
      by_cases same : key = first
      · subst same
        -- Keys ascend, so the rest of the patch does not come back to this one.
        have once : find? key rest = none := by
          cases later : find? key rest with
          | none => rfl
          | some value =>
              have before := List.rel_of_pairwise_cons sorted (mem_of_find later)
              simp at before
        rw [find_cons_same]
        split
        · rename_i removes
          rw [ih _ sorted.of_cons, once, memberAfter, find_erase_same, memberAfter, if_pos removes]
        · rename_i keeps
          rw [ih _ sorted.of_cons, once, memberAfter, find_insert_same, memberAfter, if_neg keeps]
      · rw [find_cons_other change rest same]
        split
        · rw [ih _ sorted.of_cons, find_erase_other target same]
        · rw [ih _ sorted.of_cons, find_insert_other _ target same]

theorem merged_null_iff (target patch : Json) : (target.merged patch).isNull = patch.isNull := by
  cases patch <;> rfl

theorem merged_of_members {first second : Json} (same : first.members = second.members) (patch : Json) :
    first.merged patch = second.merged patch := by
  cases patch with
  | object changes => rw [merged, merged, same]
  | _ => rfl

def isObject : Json → Bool
  | .object _ => true
  | _ => false

-- What the first patch says beneath a key. Where it says nothing it leaves an object as it is; where it is
-- no object it takes the whole away.
def beneath (first : Json) (key : String) : Json :=
  match first with
  | .object members => (find? key members).getD (.object [])
  | _ => .null

def Covers (changes members : List (String × Json)) : Prop :=
  ∀ key, find? key members ≠ none → ∃ change, find? key changes = some change ∧ change.isNull = false

mutual
-- The later patch follows the first one on the target: it takes away only what the target does not have,
-- and where the first is no object it gives anew every member that the target has.
def Follows (target first : Json) : Json → Prop
  | .object changes =>
      (first.isObject ∨ Covers changes target.members) ∧ FollowsMembers target first changes
  | _ => True

def FollowsMembers (target first : Json) : List (String × Json) → Prop
  | [] => True
  | (key, change) :: rest =>
      (if change.isNull then find? key target.members = none
        else Follows ((find? key target.members).getD .null) (beneath first key) change) ∧
      FollowsMembers target first rest
end

def Composes (target first later : Json) : Prop :=
  (target.merged first).merged later = target.merged (first.merged later)

def ComposesAt (target first : Json) (key : String) (change : Json) : Prop :=
  if change.isNull then find? key target.members = none
  else Composes ((find? key target.members).getD .null) (beneath first key) change

section Member

variable {target first : Json} {key : String}

def MemberComposes (target first : Json) (key : String) (change : Option Json) : Prop :=
  memberAfter (find? key (target.merged first).members) change =
    memberAfter (find? key target.members) (memberAfter (find? key first.members) change)

theorem member_after_some {before : Option Json} {change : Json} (keeps : change.isNull = false) :
    memberAfter before (some change) = some ((before.getD .null).merged change) := by
  simp [memberAfter, keeps]

theorem member_after_null {before : Option Json} {change : Json} (removes : change.isNull = true) :
    memberAfter before (some change) = none := by
  simp [memberAfter, removes]

theorem find_merged_object {members : List (String × Json)} (target : Json) (sorted : Sorted members)
    (key : String) : find? key (target.merged (.object members)).members =
      memberAfter (find? key target.members) (find? key members) :=
  find_merged_members key target.members sorted

theorem merged_left {change : Json} (formed : first.WellFormed) :
    ((find? key (target.merged first).members).getD .null).merged change =
      (((find? key target.members).getD .null).merged (beneath first key)).merged change := by
  cases first with
  | object members =>
      rw [find_merged_object target formed.1, beneath]
      cases found : find? key members with
      | none =>
          have same : ((find? key target.members).getD .null).members =
            (((find? key target.members).getD .null).merged (.object [])).members := rfl
          exact merged_of_members same change
      | some value =>
          cases kind : value.isNull with
          | true =>
              rw [member_after_null kind]
              cases value <;> first | rfl | cases kind
          | false => rw [member_after_some kind]; rfl
  | _ => rfl

theorem merged_right {change : Json} (first : Json) (key : String) :
    ((find? key first.members).getD .null).merged change = (beneath first key).merged change := by
  cases first with
  | object said =>
      show ((find? key said).getD .null).merged change = ((find? key said).getD (.object [])).merged change
      cases find? key said with
      | none =>
          have same : Json.null.members = (Json.object []).members := rfl
          exact merged_of_members same change
      | some value => rfl
  | _ => rfl

theorem member_composes_some {change : Json} (formed : first.WellFormed) :
    MemberComposes target first key (some change) ↔ ComposesAt target first key change := by
  rw [MemberComposes, ComposesAt]
  cases kind : change.isNull with
  | true =>
      -- Merged into the first patch, a removal only takes a member out of it; that of the target comes back.
      rw [member_after_null kind, member_after_null kind, if_pos rfl]
      exact eq_comm
  | false =>
      have stays : (((find? key first.members).getD .null).merged change).isNull = false := by
        rw [merged_null_iff, kind]
      rw [member_after_some kind, member_after_some kind, member_after_some stays, if_neg (by simp), Composes,
        Option.some.injEq, merged_left formed, merged_right first key]

theorem member_composes_none (formed : first.WellFormed) :
    MemberComposes target first key none ↔ first.isObject ∨ find? key target.members = none := by
  cases first with
  | object said => exact iff_of_true (find_merged_object target formed.1 key) (.inl rfl)
  | _ => simp [MemberComposes, memberAfter, isObject, merged, members, find?, eq_comm]

end Member

section Composition

variable {target first : Json}

theorem composes_iff_members {changes : List (String × Json)} (formed : target.WellFormed)
    (firstFormed : first.WellFormed) (sorted : Sorted changes) :
    Composes target first (.object changes) ↔ ∀ key, MemberComposes target first key (find? key changes) := by
  have left : Sorted (target.merged first).members :=
    (members_well_formed (merged_well_formed formed firstFormed)).1
  have right : Sorted (mergedMembers first.members changes) :=
    sorted_merged_members changes (members_well_formed firstFormed).1
  have lookups : ∀ key,
      (find? key (mergedMembers (target.merged first).members changes) =
        find? key (mergedMembers target.members (mergedMembers first.members changes))) ↔
      MemberComposes target first key (find? key changes) := fun key => by
    rw [find_merged_members key _ sorted, find_merged_members key _ right, find_merged_members key _ sorted,
      MemberComposes]
  rw [Composes]
  simp only [merged, members, Json.object.injEq]
  constructor
  · intro same key
    exact (lookups key).mp (congrArg (find? key) same)
  · intro each
    exact sorted_ext (sorted_merged_members changes left)
      (sorted_merged_members _ (members_well_formed formed).1) fun key => (lookups key).mpr (each key)

theorem composes_object_iff {changes : List (String × Json)} (formed : target.WellFormed)
    (firstFormed : first.WellFormed) (sorted : Sorted changes) :
    Composes target first (.object changes) ↔ (first.isObject ∨ Covers changes target.members) ∧
      ∀ entry ∈ changes, ComposesAt target first entry.1 entry.2 := by
  rw [composes_iff_members formed firstFormed sorted]
  constructor
  · intro each
    have named : ∀ entry ∈ changes, ComposesAt target first entry.1 entry.2 := fun entry member => by
      have here := each entry.1
      rw [find_of_mem sorted member] at here
      exact (member_composes_some firstFormed).mp here
    refine ⟨?_, named⟩
    -- A first patch that is no object leaves nothing of the target, so the later one must name every member.
    by_cases kind : first.isObject
    · exact .inl kind
    · refine .inr fun key present => ?_
      have here := each key
      cases found : find? key changes with
      | none =>
          rw [found, member_composes_none firstFormed] at here
          exact absurd (here.resolve_left kind) present
      | some change =>
          refine ⟨change, rfl, ?_⟩
          cases removes : change.isNull with
          | false => rfl
          | true =>
              have absent := named (key, change) (mem_of_find found)
              rw [ComposesAt, if_pos removes] at absent
              exact absurd absent present
  · rintro ⟨rest, named⟩ key
    cases found : find? key changes with
    | some change => exact (member_composes_some firstFormed).mpr (named (key, change) (mem_of_find found))
    | none =>
        refine (member_composes_none firstFormed).mpr (rest.imp id fun covers => ?_)
        by_cases present : find? key target.members = none
        · exact present
        · obtain ⟨change, there, _⟩ := covers key present
          rw [found] at there
          cases there

theorem beneath_well_formed (formed : first.WellFormed) (key : String) : (beneath first key).WellFormed := by
  cases first with
  | object said =>
      rw [beneath]
      cases found : find? key said with
      | none => exact ⟨sorted_nil, trivial⟩
      | some value => exact found_well_formed formed.2 found
  | _ => exact trivial

mutual
-- Both go down the later patch. Under each of its keys the question comes up again, with what the target
-- has there and what the first patch says there.
theorem composes_iff_follows : ∀ {target first later : Json}, target.WellFormed → first.WellFormed →
    later.WellFormed → (Composes target first later ↔ Follows target first later)
  | _, _, .object changes, formed, firstFormed, laterFormed => by
      rw [composes_object_iff formed firstFormed laterFormed.1, Follows]
      exact and_congr_right fun _ => composes_at_iff_follows formed firstFormed laterFormed.2
  | _, _, .null, _, _, _ => iff_of_true rfl trivial
  | _, _, .bool _, _, _, _ => iff_of_true rfl trivial
  | _, _, .int _, _, _, _ => iff_of_true rfl trivial
  | _, _, .float _, _, _, _ => iff_of_true rfl trivial
  | _, _, .string _, _, _, _ => iff_of_true rfl trivial
  | _, _, .array _, _, _, _ => iff_of_true rfl trivial

theorem composes_at_iff_follows : ∀ {target first : Json} {changes : List (String × Json)}, target.WellFormed →
    first.WellFormed → WellFormedMembers changes →
    ((∀ entry ∈ changes, ComposesAt target first entry.1 entry.2) ↔ FollowsMembers target first changes)
  | _, _, [], _, _, _ => iff_of_true nofun trivial
  | target, first, (key, change) :: rest, formed, firstFormed, laterFormed => by
      rw [List.forall_mem_cons, FollowsMembers, ComposesAt,
        composes_at_iff_follows formed firstFormed laterFormed.2,
        composes_iff_follows (found_or_null_well_formed (members_well_formed formed).2 key)
          (beneath_well_formed firstFormed key) laterFormed.1]
end

end Composition

end Delivery.Json
