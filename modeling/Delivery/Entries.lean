set_option autoImplicit false

namespace Delivery.Entries

variable {κ : Type} {α : Type} [Ord κ]

def find? (key : κ) : List (κ × α) → Option α
  | [] => none
  | (k, value) :: rest => if compare key k = .eq then some value else find? key rest

def contains (key : κ) (entries : List (κ × α)) : Bool :=
  (find? key entries).isSome

def insert (key : κ) (value : α) : List (κ × α) → List (κ × α)
  | [] => [(key, value)]
  | (k, v) :: rest =>
      match compare key k with
      | .lt => (key, value) :: (k, v) :: rest
      | .eq => (key, value) :: rest
      | .gt => (k, v) :: insert key value rest

def erase (key : κ) : List (κ × α) → List (κ × α)
  | [] => []
  | (k, v) :: rest => if compare key k = .eq then erase key rest else (k, v) :: erase key rest

def ofList (entries : List (κ × α)) : List (κ × α) :=
  entries.foldl (fun sorted entry => insert entry.1 entry.2 sorted) []

def Sorted (entries : List (κ × α)) : Prop :=
  entries.Pairwise fun first second => compare first.1 second.1 = .lt

theorem sorted_nil : Sorted ([] : List (κ × α)) := List.Pairwise.nil

theorem mem_insert {key : κ} {value : α} {entry : κ × α} {entries : List (κ × α)}
    (member : entry ∈ insert key value entries) : entry = (key, value) ∨ entry ∈ entries := by
  induction entries with
  | nil => exact .inl (by simpa [insert] using member)
  | cons head rest ih =>
      obtain ⟨k, v⟩ := head
      rw [insert] at member
      split at member
      · simpa using member
      · rcases List.mem_cons.mp member with same | later
        · exact .inl same
        · exact .inr (List.mem_cons_of_mem _ later)
      · rcases List.mem_cons.mp member with same | later
        · exact .inr (by simp [same])
        · exact (ih later).imp id (List.mem_cons_of_mem _)

theorem mem_of_mem_erase {key : κ} {entry : κ × α} {entries : List (κ × α)}
    (member : entry ∈ erase key entries) : entry ∈ entries := by
  induction entries with
  | nil => simp [erase] at member
  | cons head rest ih =>
      obtain ⟨k, v⟩ := head
      rw [erase] at member
      split at member
      · exact List.mem_cons_of_mem _ (ih member)
      · rcases List.mem_cons.mp member with same | later
        · simp [same]
        · exact List.mem_cons_of_mem _ (ih later)

theorem sorted_erase {entries : List (κ × α)} (key : κ) (sorted : Sorted entries) :
    Sorted (erase key entries) := by
  induction entries with
  | nil => exact sorted_nil
  | cons head rest ih =>
      obtain ⟨k, v⟩ := head
      have tail : Sorted rest := sorted.of_cons
      rw [erase]
      split
      · exact ih tail
      · exact (ih tail).cons fun entry member =>
          List.rel_of_pairwise_cons sorted (mem_of_mem_erase member)

theorem sorted_insert [Std.TransOrd κ] {entries : List (κ × α)} (key : κ) (value : α)
    (sorted : Sorted entries) : Sorted (insert key value entries) := by
  induction entries with
  | nil => exact List.pairwise_singleton _ _
  | cons head rest ih =>
      obtain ⟨k, v⟩ := head
      have tail : Sorted rest := sorted.of_cons
      rw [insert]
      split
      next before =>
        refine sorted.cons fun entry member => ?_
        rcases List.mem_cons.mp member with same | later
        · simpa [same] using before
        · exact Std.TransCmp.lt_trans before (List.rel_of_pairwise_cons sorted later)
      next same =>
        refine tail.cons fun entry member => ?_
        exact Std.TransCmp.lt_of_eq_of_lt same (List.rel_of_pairwise_cons sorted member)
      next after =>
        refine (ih tail).cons fun entry member => ?_
        rcases mem_insert member with same | later
        · simpa [same] using Std.OrientedCmp.lt_of_gt after
        · exact List.rel_of_pairwise_cons sorted later

theorem sorted_ofList [Std.TransOrd κ] (entries : List (κ × α)) : Sorted (ofList entries) := by
  suffices grows : ∀ start : List (κ × α), Sorted start →
      Sorted (entries.foldl (fun sorted entry => insert entry.1 entry.2 sorted) start) from
    grows [] sorted_nil
  induction entries with
  | nil => exact fun start sorted => sorted
  | cons head rest ih => exact fun start sorted => ih _ (sorted_insert head.1 head.2 sorted)

theorem sorted_mapValues {β : Type} {entries : List (κ × α)} (change : κ → α → β)
    (sorted : Sorted entries) :
    Sorted (entries.map fun entry => (entry.1, change entry.1 entry.2)) :=
  List.pairwise_map.mpr sorted

theorem eq_of_perm [Std.TransOrd κ] {first second : List (κ × α)} (left : Sorted first) (right : Sorted second)
    (same : first.Perm second) : first = second := by
  have antisymmetric : ∀ a b : κ × α, a ∈ first → b ∈ second →
      compare a.1 b.1 = .lt → compare b.1 a.1 = .lt → a = b := by
    intro a b _ _ before after
    rw [Std.OrientedCmp.gt_of_lt before] at after
    cases after
  exact same.eq_of_pairwise antisymmetric left right

theorem find_append (key : κ) (first second : List (κ × α)) :
    find? key (first ++ second) = (find? key first).or (find? key second) := by
  induction first with
  | nil => rfl
  | cons head rest ih =>
      obtain ⟨k, v⟩ := head
      rw [List.cons_append, find?, find?]
      split
      · rfl
      · exact ih

section Lookups

variable [Std.LawfulEqOrd κ]

theorem find_cons_same (key : κ) (value : α) (rest : List (κ × α)) :
    find? key ((key, value) :: rest) = some value := by
  rw [find?, if_pos (Std.compare_eq_iff_eq.mpr rfl)]

theorem find_cons_other {key head : κ} (value : α) (rest : List (κ × α)) (different : key ≠ head) :
    find? key ((head, value) :: rest) = find? key rest := by
  rw [find?, if_neg fun same => different (Std.compare_eq_iff_eq.mp same)]

theorem find_insert_same [Std.TransOrd κ] (key : κ) (value : α) (entries : List (κ × α)) :
    find? key (insert key value entries) = some value := by
  induction entries with
  | nil => exact find_cons_same key value []
  | cons head rest ih =>
      obtain ⟨k, v⟩ := head
      rw [insert]
      split
      next => exact find_cons_same key value _
      next => exact find_cons_same key value _
      next after =>
        have different : key ≠ k := fun same => by simp [same] at after
        rw [find_cons_other v _ different, ih]

theorem find_insert_other [Std.TransOrd κ] {key other : κ} (value : α) (entries : List (κ × α))
    (different : other ≠ key) : find? other (insert key value entries) = find? other entries := by
  induction entries with
  | nil => exact find_cons_other value [] different
  | cons head rest ih =>
      obtain ⟨k, v⟩ := head
      rw [insert]
      split
      next => exact find_cons_other value _ different
      next same =>
        rw [find_cons_other value rest different,
          find_cons_other v rest (Std.compare_eq_iff_eq.mp same ▸ different)]
      next => rw [find?, find?, ih]

theorem find_eq_none_iff {key : κ} {entries : List (κ × α)} :
    find? key entries = none ↔ ∀ entry ∈ entries, entry.1 ≠ key := by
  induction entries with
  | nil => simp [find?]
  | cons head rest ih =>
      obtain ⟨k, v⟩ := head
      by_cases same : key = k
      · subst same
        simp [find_cons_same]
      · rw [find_cons_other v rest same, ih, List.forall_mem_cons]
        exact ⟨fun apart => ⟨Ne.symm same, apart⟩, And.right⟩

theorem find_eq_some_iff {key : κ} {value : α} {entries : List (κ × α)} : find? key entries = some value ↔
    ∃ front back, entries = front ++ (key, value) :: back ∧ ∀ entry ∈ front, entry.1 ≠ key := by
  constructor
  · intro found
    induction entries with
    | nil => cases found
    | cons head rest ih =>
        obtain ⟨k, v⟩ := head
        by_cases same : key = k
        · subst same
          rw [find_cons_same] at found
          cases found
          exact ⟨[], rest, rfl, nofun⟩
        · rw [find_cons_other v rest same] at found
          obtain ⟨front, back, rfl, apart⟩ := ih found
          exact ⟨(k, v) :: front, back, rfl, List.forall_mem_cons.mpr ⟨Ne.symm same, apart⟩⟩
  · rintro ⟨front, back, rfl, apart⟩
    rw [find_append, find_eq_none_iff.mpr apart, find_cons_same]
    rfl

theorem find_ofList [Std.TransOrd κ] (key : κ) (entries : List (κ × α)) :
    find? key (ofList entries) = find? key entries.reverse := by
  suffices put : ∀ start : List (κ × α),
      find? key (entries.foldl (fun sorted entry => insert entry.1 entry.2 sorted) start) =
        (find? key entries.reverse).or (find? key start) from by
    rw [ofList, put, find?, Option.or_none]
  induction entries with
  | nil => exact fun start => rfl
  | cons head rest ih =>
      intro start
      rw [List.foldl_cons, ih, List.reverse_cons, find_append, Option.or_assoc]
      obtain ⟨k, v⟩ := head
      by_cases same : key = k
      · subst same
        rw [find_insert_same, find_cons_same]
        rfl
      · rw [find_insert_other v start same, find_cons_other v [] same]
        rfl

theorem find_erase_same (key : κ) (entries : List (κ × α)) : find? key (erase key entries) = none := by
  induction entries with
  | nil => rfl
  | cons head rest ih =>
      obtain ⟨k, v⟩ := head
      by_cases same : key = k
      · rw [erase, if_pos (Std.compare_eq_iff_eq.mpr same), ih]
      · rw [erase, if_neg fun equal => same (Std.compare_eq_iff_eq.mp equal),
          find_cons_other v _ same, ih]

theorem find_erase_other {key other : κ} (entries : List (κ × α)) (different : other ≠ key) :
    find? other (erase key entries) = find? other entries := by
  induction entries with
  | nil => rfl
  | cons head rest ih =>
      obtain ⟨k, v⟩ := head
      by_cases same : key = k
      · subst same
        rw [erase, if_pos (Std.compare_eq_iff_eq.mpr rfl), find_cons_other v rest different, ih]
      · rw [erase, if_neg fun equal => same (Std.compare_eq_iff_eq.mp equal), find?, find?, ih]

theorem find_map_values {β : Type} (change : κ → α → β) (key : κ) (entries : List (κ × α)) :
    find? key (entries.map fun entry => (entry.1, change entry.1 entry.2)) =
      (find? key entries).map (change key) := by
  induction entries with
  | nil => rfl
  | cons head rest ih =>
      obtain ⟨k, v⟩ := head
      by_cases same : key = k
      · subst same
        rw [List.map_cons, find_cons_same, find_cons_same, Option.map_some]
      · rw [List.map_cons, find_cons_other _ _ same, find_cons_other _ _ same, ih]

theorem mem_of_find {key : κ} {value : α} {entries : List (κ × α)}
    (found : find? key entries = some value) : (key, value) ∈ entries := by
  induction entries with
  | nil => simp [find?] at found
  | cons head rest ih =>
      obtain ⟨k, v⟩ := head
      by_cases same : key = k
      · subst same
        rw [find_cons_same] at found
        simp [Option.some.inj found]
      · rw [find_cons_other v rest same] at found
        exact List.mem_cons_of_mem _ (ih found)

theorem find_of_mem [Std.TransOrd κ] {key : κ} {value : α} {entries : List (κ × α)} (sorted : Sorted entries)
    (member : (key, value) ∈ entries) : find? key entries = some value := by
  induction entries with
  | nil => simp at member
  | cons head rest ih =>
      obtain ⟨k, v⟩ := head
      rcases List.mem_cons.mp member with same | later
      · cases same
        exact find_cons_same key value rest
      · have before : compare k key = .lt := List.rel_of_pairwise_cons sorted later
        have different : key ≠ k := fun same => by simp [same] at before
        rw [find_cons_other v rest different, ih sorted.of_cons later]

theorem distinct_keys {entries : List (κ × α)} (sorted : Sorted entries) : (entries.map (·.1)).Nodup :=
  List.pairwise_map.mpr (sorted.imp fun before same => by simp [same] at before)

theorem sorted_ext [Std.TransOrd κ] {first second : List (κ × α)} (left : Sorted first) (right : Sorted second)
    (same : ∀ key, find? key first = find? key second) : first = second := by
  have irreflexive : ∀ {entries : List (κ × α)}, Sorted entries → entries.Nodup := fun sorted =>
    sorted.imp fun before equal => by simp [equal] at before
  have members : ∀ entry, entry ∈ first ↔ entry ∈ second := fun entry =>
    ⟨fun member => mem_of_find (same entry.1 ▸ find_of_mem left member),
      fun member => mem_of_find (same entry.1 ▸ find_of_mem right member)⟩
  have permuted : first.Perm second :=
    (List.perm_ext_iff_of_nodup (irreflexive left) (irreflexive right)).mpr members
  exact eq_of_perm left right permuted

theorem insert_comm [Std.TransOrd κ] {first second : κ} (different : first ≠ second) (a b : α)
    {entries : List (κ × α)} (sorted : Sorted entries) :
    insert first a (insert second b entries) = insert second b (insert first a entries) := by
  refine sorted_ext (sorted_insert _ _ (sorted_insert _ _ sorted)) (sorted_insert _ _ (sorted_insert _ _ sorted)) ?_
  intro key
  by_cases one : key = first
  · subst one
    rw [find_insert_same, find_insert_other b _ different, find_insert_same]
  · by_cases other : key = second
    · subst other
      rw [find_insert_other a _ one, find_insert_same, find_insert_same]
    · rw [find_insert_other a _ one, find_insert_other b _ other, find_insert_other b _ other,
        find_insert_other a _ one]

end Lookups

theorem insert_above [Std.TransOrd κ] {key : κ} (value : α) {entries : List (κ × α)}
    (above : ∀ entry ∈ entries, compare entry.1 key = .lt) :
    insert key value entries = entries ++ [(key, value)] := by
  induction entries with
  | nil => rfl
  | cons head rest ih =>
      obtain ⟨k, v⟩ := head
      have after : compare key k = .gt := Std.OrientedCmp.gt_of_lt (above (k, v) List.mem_cons_self)
      rw [insert, after, List.cons_append, ih fun entry member => above entry (List.mem_cons_of_mem _ member)]

theorem ofList_of_sorted [Std.TransOrd κ] {entries : List (κ × α)} (sorted : Sorted entries) :
    ofList entries = entries := by
  suffices appends : ∀ start : List (κ × α), Sorted (start ++ entries) →
      entries.foldl (fun sorted entry => insert entry.1 entry.2 sorted) start = start ++ entries from
    appends [] sorted
  clear sorted
  induction entries with
  | nil => simp
  | cons head rest ih =>
      intro start sorted
      have above : ∀ entry ∈ start, compare entry.1 head.1 = .lt := fun entry member =>
        (List.pairwise_append.mp sorted).2.2 entry member head List.mem_cons_self
      rw [List.foldl_cons, insert_above head.2 above, ih _ (by simpa using sorted), List.append_assoc,
        List.singleton_append]

theorem perm_insert [Std.LawfulEqOrd κ] {key : κ} (value : α) {entries : List (κ × α)}
    (absent : ∀ entry ∈ entries, entry.1 ≠ key) : (insert key value entries).Perm ((key, value) :: entries) := by
  induction entries with
  | nil => exact .refl _
  | cons head rest ih =>
      obtain ⟨k, v⟩ := head
      rw [insert]
      split
      next => exact .refl _
      next same => exact absurd (Std.compare_eq_iff_eq.mp same).symm (absent (k, v) List.mem_cons_self)
      next =>
        have later := ih fun entry member => absent entry (List.mem_cons_of_mem _ member)
        exact (later.cons (k, v)).trans (.swap (key, value) (k, v) rest)

theorem perm_ofList [Std.LawfulEqOrd κ] {entries : List (κ × α)} (distinct : (entries.map (·.1)).Nodup) :
    (ofList entries).Perm entries := by
  suffices grows : ∀ start : List (κ × α), (∀ entry ∈ entries, ∀ old ∈ start, old.1 ≠ entry.1) →
      (entries.foldl (fun sorted entry => insert entry.1 entry.2 sorted) start).Perm (start ++ entries) from
    grows [] nofun
  induction entries with
  | nil => simp
  | cons head rest ih =>
      intro start fresh
      obtain ⟨first, later⟩ := List.nodup_cons.mp distinct
      have inserted : (insert head.1 head.2 start).Perm (head :: start) :=
        perm_insert head.2 (fresh head List.mem_cons_self)
      have apart : ∀ entry ∈ rest, ∀ old ∈ insert head.1 head.2 start, old.1 ≠ entry.1 := by
        intro entry member old present same
        rcases mem_insert present with rfl | before
        · exact first (List.mem_map.mpr ⟨entry, member, same.symm⟩)
        · exact fresh entry (List.mem_cons_of_mem _ member) old before same
      rw [List.foldl_cons]
      exact (ih later _ apart).trans ((inserted.append_right rest).trans List.perm_middle.symm)

end Delivery.Entries
