import Delivery.Proofs.Json.Views
set_option autoImplicit false

namespace Delivery.Json.Schema

def Settles (seen : View) : Prop :=
  ∀ ⦃value shown⦄, seen value = some shown → seen value.settled = some shown

theorem bool_settles : Settles viewBool := by
  intro value shown seen
  cases value with
  | bool b => exact seen
  | _ => cases seen

theorem string_settles : Settles viewString := by
  intro value shown seen
  cases value with
  | string s => exact seen
  | _ => cases seen

theorem items_settle {item : View} (settles : Settles item) {items shown : List Json}
    (seen : items.mapM item = some shown) : (items.map settled).mapM item = some shown := by
  induction items generalizing shown with
  | nil => exact seen
  | cons head rest ih =>
      rw [List.mapM_cons] at seen
      obtain ⟨first, here, seen⟩ := Option.bind_eq_some_iff.mp seen
      obtain ⟨others, later, seen⟩ := Option.bind_eq_some_iff.mp seen
      cases seen
      rw [List.map_cons, List.mapM_cons, settles here, ih later]
      rfl

theorem list_settles {item : View} (settles : Settles item) : Settles (viewList item) := by
  intro value shown seen
  cases value with
  | array items =>
      obtain ⟨values, each, rfl⟩ := Option.map_eq_some_iff.mp seen
      rw [settled, settled_items_eq_map, viewList, items_settle settles each, Option.map_some]
  | _ => cases seen

variable {views : List (String × View)} {before : List (String × Json)}

theorem contains_inserted {key other : String} (value : Json) (different : other ≠ key)
    (entries : List (String × Json)) :
    Entries.contains other (Entries.insert key value entries) = Entries.contains other entries := by
  rw [Entries.contains, Entries.contains, Entries.find_insert_other value entries different]

theorem contains_own (key : String) (value : Json) (entries : List (String × Json)) :
    Entries.contains key (Entries.insert key value entries) = true := by
  rw [Entries.contains, Entries.find_insert_same, Option.isSome_some]

theorem named_swap (sorted : Entries.Sorted before) (first second : String × Json) (rest : List (String × Json)) :
    viewNamed views before (first :: second :: rest) = viewNamed views before (second :: first :: rest) := by
  obtain ⟨firstKey, firstValue⟩ := first
  obtain ⟨secondKey, secondValue⟩ := second
  cases one : viewFor? firstKey views with
  | none => cases two : viewFor? secondKey views <;> simp [viewNamed, one, two]
  | some firstView =>
      cases two : viewFor? secondKey views with
      | none => simp [viewNamed, one, two]
      | some secondView =>
          by_cases same : firstKey = secondKey
          · subst same
            have nothing : ∀ (value other : Json) (view : View), viewFor? firstKey views = some view →
                viewNamed views before ((firstKey, value) :: (firstKey, other) :: rest) = none := by
              intro value other view found
              simp [viewNamed, found, contains_own]
            rw [nothing _ _ _ one, nothing _ _ _ one]
          · have other : secondKey ≠ firstKey := fun equal => same equal.symm
            cases firstShown : firstView firstValue with
            | none => simp [viewNamed, one, two, firstShown, contains_inserted _ same]
            | some firstSeen =>
                cases secondShown : secondView secondValue with
                | none => simp [viewNamed, one, two, secondShown, contains_inserted _ other]
                | some secondSeen =>
                    simp only [viewNamed, one, two, firstShown, secondShown, Option.bind_some,
                      contains_inserted _ same, contains_inserted _ other,
                      Entries.insert_comm same firstSeen secondSeen sorted]
                    split <;> split <;> rfl

theorem named_perm (sorted : Entries.Sorted before) {first second : List (String × Json)} (perm : first.Perm second) :
    viewNamed views before first = viewNamed views before second := by
  induction perm generalizing before with
  | nil => rfl
  | cons member _ ih =>
      obtain ⟨key, value⟩ := member
      rw [viewNamed, viewNamed]
      cases viewFor? key views with
      | none => exact ih sorted
      | some view =>
          dsimp only
          split
          · rfl
          · cases view value with
            | none => rfl
            | some shown => exact ih (Entries.sorted_insert key shown sorted)
  | swap first second rest => exact named_swap sorted second first rest
  | trans _ _ one two => exact (one sorted).trans (two sorted)

theorem named_unknown {key : String} (unknown : viewFor? key views = none) (value : Json)
    (entries rest : List (String × Json)) :
    viewNamed views before (Entries.insert key value entries ++ rest) = viewNamed views before (entries ++ rest) := by
  induction entries generalizing before with
  | nil => simp [Entries.insert, viewNamed, unknown]
  | cons head more ih =>
      obtain ⟨name, old⟩ := head
      rw [Entries.insert]
      split
      · simp [viewNamed, unknown]
      · next same =>
          have own : key = name := Std.compare_eq_iff_eq.mp same
          subst own
          simp [viewNamed, unknown]
      · simp only [List.cons_append, viewNamed, ih]

theorem named_absent {key : String} {view : View} (known : viewFor? key views = some view)
    (present : Entries.contains key before = true) {members shown : List (String × Json)}
    (seen : viewNamed views before members = some shown) : ∀ entry ∈ members, entry.1 ≠ key := by
  induction members generalizing before with
  | nil => exact nofun
  | cons head rest ih =>
      obtain ⟨name, value⟩ := head
      rw [viewNamed] at seen
      rw [List.forall_mem_cons]
      cases found : viewFor? name views with
      | none =>
          rw [found] at seen
          refine ⟨?_, ih present seen⟩
          rintro rfl
          rw [found] at known
          cases known
      | some other =>
          rw [found] at seen
          obtain ⟨fresh, seen⟩ := Option.ite_none_left_eq_some.mp seen
          obtain ⟨here, _, seen⟩ := Option.bind_eq_some_iff.mp seen
          have different : key ≠ name := by
            rintro rfl
            exact fresh present
          exact ⟨different.symm, ih ((contains_inserted here different before).trans present) seen⟩

theorem named_gathered (sorted : Entries.Sorted before) {start members shown : List (String × Json)}
    (seen : viewNamed views before (start ++ members) = some shown) :
    viewNamed views before (members.foldl (fun gathered entry => Entries.insert entry.1 entry.2 gathered) start) =
      some shown := by
  induction members generalizing start with
  | nil => rwa [List.append_nil] at seen
  | cons head rest ih =>
      obtain ⟨key, value⟩ := head
      refine ih ?_
      have front : viewNamed views before (start ++ (key, value) :: rest) =
          viewNamed views before ((key, value) :: (start ++ rest)) := named_perm sorted List.perm_middle
      rw [front] at seen
      cases known : viewFor? key views with
      | none =>
          rw [named_unknown known]
          simpa [viewNamed, known] using seen
      | some view =>
          have fresh : ∀ entry ∈ start ++ rest, entry.1 ≠ key := by
            rw [viewNamed, known] at seen
            obtain ⟨_, seen⟩ := Option.ite_none_left_eq_some.mp seen
            obtain ⟨here, _, seen⟩ := Option.bind_eq_some_iff.mp seen
            exact named_absent known (contains_own key here before) seen
          have absent : ∀ entry ∈ start, entry.1 ≠ key := fun entry member =>
            fresh entry (List.mem_append_left rest member)
          have placed := (Entries.perm_insert value absent).append_right rest
          rwa [named_perm sorted placed]

theorem view_for_settles {key : String} (settles : ∀ field ∈ views, Settles field.2) {view : View}
    (known : viewFor? key views = some view) : Settles view := by
  induction views with
  | nil => cases known
  | cons field rest ih =>
      obtain ⟨first, later⟩ := List.forall_mem_cons.mp settles
      obtain ⟨name, own⟩ := field
      rw [viewFor?] at known
      split at known
      · cases known
        exact first
      · exact ih later known

theorem named_settled (settles : ∀ field ∈ views, Settles field.2) {members shown : List (String × Json)}
    (seen : viewNamed views before members = some shown) :
    viewNamed views before (settledMembers members) = some shown := by
  induction members generalizing before with
  | nil => exact seen
  | cons head rest ih =>
      obtain ⟨key, value⟩ := head
      rw [viewNamed] at seen
      rw [settledMembers, viewNamed]
      cases known : viewFor? key views with
      | none =>
          rw [known] at seen
          exact ih seen
      | some view =>
          rw [known] at seen
          obtain ⟨fresh, seen⟩ := Option.ite_none_left_eq_some.mp seen
          obtain ⟨here, own, seen⟩ := Option.bind_eq_some_iff.mp seen
          dsimp only
          rw [if_neg fresh, view_for_settles settles known own, Option.bind_some]
          exact ih seen

theorem positional_settled (settles : ∀ field ∈ views, Settles field.2) {items : List Json}
    {shown : List (String × Json)} (seen : viewPositional views before items = some shown) :
    viewPositional views before (items.map settled) = some shown := by
  induction views generalizing items before with
  | nil =>
      cases items with
      | nil => exact seen
      | cons item rest => cases seen
  | cons field views ih =>
      obtain ⟨first, later⟩ := List.forall_mem_cons.mp settles
      obtain ⟨name, view⟩ := field
      cases items with
      | nil => exact seen
      | cons item rest =>
          obtain ⟨here, own, seen⟩ := Option.bind_eq_some_iff.mp seen
          have again : view item.settled = some here := first own
          rw [List.map_cons, viewPositional, again, Option.bind_some]
          exact ih later seen

theorem record_settles (settles : ∀ field ∈ views, Settles field.2) : Settles (viewRecord views) := by
  intro value shown seen
  cases value with
  | object members =>
      obtain ⟨found, named, rfl⟩ := Option.map_eq_some_iff.mp seen
      have again : viewNamed views [] (Entries.ofList (settledMembers members)) = some found :=
        named_gathered Entries.sorted_nil (named_settled settles named)
      rw [settled, viewRecord, again, Option.map_some]
  | array items =>
      obtain ⟨found, positional, rfl⟩ := Option.map_eq_some_iff.mp seen
      rw [settled, settled_items_eq_map, viewRecord, positional_settled settles positional, Option.map_some]
  | _ => cases seen

mutual
/-- Letting only the last member of each key stay changes nothing of what a type shows, where it shows anything. -/
theorem view_settles : ∀ schema : Schema, Settles schema.view
  | .bool => bool_settles
  | .string => string_settles
  | .list item => list_settles (view_settles item)
  | .record _ fields => record_settles (views_settle fields)

theorem views_settle : ∀ fields : List (String × Schema), ∀ field ∈ Schema.views fields, Settles field.2
  | [] => nofun
  | (_, schema) :: rest => List.forall_mem_cons.mpr ⟨view_settles schema, views_settle rest⟩
end

end Delivery.Json.Schema
