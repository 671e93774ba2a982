import Delivery.Entries
set_option autoImplicit false

namespace Delivery

structure Table (κ α : Type) [Ord κ] where
  entries : List (κ × α)
  sorted : Entries.Sorted entries

namespace Table

variable {κ : Type} {α : Type} [Ord κ]

theorem ext_entries {first second : Table κ α} (same : first.entries = second.entries) :
    first = second := by
  cases first; cases second; cases same; rfl

instance [DecidableEq κ] [DecidableEq α] : DecidableEq (Table κ α) := fun first second =>
  if same : first.entries = second.entries then isTrue (ext_entries same)
  else isFalse fun equal => same (equal ▸ rfl)

instance [Repr κ] [Repr α] : Repr (Table κ α) :=
  ⟨fun table precedence => reprPrec table.entries precedence⟩

def empty : Table κ α := ⟨[], Entries.sorted_nil⟩

instance : Inhabited (Table κ α) := ⟨empty⟩

def get? (table : Table κ α) (key : κ) : Option α :=
  Entries.find? key table.entries

def contains (table : Table κ α) (key : κ) : Bool :=
  (table.get? key).isSome

def rows (table : Table κ α) : List α :=
  table.entries.map (·.2)

def size (table : Table κ α) : Nat :=
  table.entries.length

def insert [Std.TransOrd κ] (table : Table κ α) (key : κ) (row : α) : Table κ α :=
  ⟨Entries.insert key row table.entries, Entries.sorted_insert key row table.sorted⟩

def erase (table : Table κ α) (key : κ) : Table κ α :=
  ⟨Entries.erase key table.entries, Entries.sorted_erase key table.sorted⟩

def mapRows (table : Table κ α) (change : κ → α → α) : Table κ α :=
  ⟨table.entries.map fun entry => (entry.1, change entry.1 entry.2),
    Entries.sorted_mapValues change table.sorted⟩

def ofList [Std.TransOrd κ] (entries : List (κ × α)) : Table κ α :=
  ⟨Entries.ofList entries, Entries.sorted_ofList entries⟩

def find? (table : Table κ α) (test : α → Bool) : Option α :=
  table.rows.find? test

def findLast? (table : Table κ α) (test : α → Bool) : Option α :=
  table.rows.reverse.find? test

def filter (table : Table κ α) (test : α → Bool) : List α :=
  table.rows.filter test

theorem get_empty (key : κ) : (empty : Table κ α).get? key = none := rfl

theorem rows_map_rows (table : Table κ α) (change : α → α) :
    (table.mapRows fun _ => change).rows = table.rows.map change := by
  rw [rows, rows, mapRows, List.map_map, List.map_map]
  rfl

theorem find_eq_head (table : Table κ α) (test : α → Bool) : table.find? test = (table.filter test).head? :=
  List.head?_filter.symm

section Lookups

variable [Std.LawfulEqOrd κ]

theorem get_map_rows (table : Table κ α) (change : κ → α → α) (key : κ) :
    (table.mapRows change).get? key = (table.get? key).map (change key) :=
  Entries.find_map_values change key table.entries

theorem get_erase_same (table : Table κ α) (key : κ) : (table.erase key).get? key = none :=
  Entries.find_erase_same key table.entries

theorem get_erase_other (table : Table κ α) {key other : κ} (different : other ≠ key) :
    (table.erase key).get? other = table.get? other :=
  Entries.find_erase_other table.entries different

theorem get_of_erase {table : Table κ α} {key other : κ} {row : α} (found : (table.erase key).get? other = some row) :
    table.get? other = some row := by
  by_cases same : other = key
  · rw [same, get_erase_same] at found
    cases found
  · rwa [get_erase_other _ same] at found

variable [Std.TransOrd κ]

theorem get_insert_same (table : Table κ α) (key : κ) (row : α) :
    (table.insert key row).get? key = some row :=
  Entries.find_insert_same key row table.entries

theorem get_insert_other (table : Table κ α) {key other : κ} (row : α) (different : other ≠ key) :
    (table.insert key row).get? other = table.get? other :=
  Entries.find_insert_other row table.entries different

theorem get_ofList_iff {entries : List (κ × α)} {key : κ} {row : α} : (ofList entries).get? key = some row ↔
    ∃ front back, entries = front ++ (key, row) :: back ∧ ∀ entry ∈ back, entry.1 ≠ key := by
  rw [get?, ofList, Entries.find_ofList, Entries.find_eq_some_iff]
  constructor
  · rintro ⟨front, back, same, apart⟩
    refine ⟨back.reverse, front.reverse, ?_, fun entry member => apart entry (List.mem_reverse.mp member)⟩
    rw [← List.reverse_reverse entries, same]
    simp
  · rintro ⟨front, back, rfl, apart⟩
    refine ⟨back.reverse, front.reverse, ?_, fun entry member => apart entry (List.mem_reverse.mp member)⟩
    simp

theorem contains_ofList_iff {entries : List (κ × α)} {key : κ} :
    (ofList entries).contains key = true ↔ ∃ entry ∈ entries, entry.1 = key := by
  rw [contains, get?, ofList, Entries.find_ofList, Option.isSome_iff_ne_none, Ne, Entries.find_eq_none_iff]
  simp

theorem mem_rows {table : Table κ α} {row : α} : row ∈ table.rows ↔ ∃ key, table.get? key = some row := by
  constructor
  · intro member
    obtain ⟨entry, present, rfl⟩ := List.mem_map.mp member
    exact ⟨entry.1, Entries.find_of_mem table.sorted present⟩
  · rintro ⟨key, found⟩
    exact List.mem_map.mpr ⟨(key, row), Entries.mem_of_find found, rfl⟩

theorem filter_none {table : Table κ α} {test : α → Bool}
    (fails : ∀ key row, table.get? key = some row → test row = false) : table.filter test = [] := by
  refine List.filter_eq_nil_iff.mpr fun row member => ?_
  obtain ⟨key, found⟩ := mem_rows.mp member
  simp [fails key row found]

theorem filter_one {table : Table κ α} {test : α → Bool} {key : κ} {row : α}
    (found : table.get? key = some row) (passes : test row = true)
    (only : ∀ other old, table.get? other = some old → test old = true → other = key) :
    table.filter test = [row] := by
  have distinct : table.entries.Nodup := table.sorted.imp fun before same => by simp [same] at before
  have members : ∀ entry, entry ∈ table.entries.filter (fun entry => test entry.2) ↔ entry ∈ [(key, row)] := by
    intro entry
    rw [List.mem_filter, List.mem_singleton]
    constructor
    · rintro ⟨member, passed⟩
      have there : table.get? entry.1 = some entry.2 := Entries.find_of_mem table.sorted member
      have same : entry.1 = key := only entry.1 entry.2 there passed
      rw [same, found] at there
      exact Prod.ext same (Option.some.inj there).symm
    · rintro rfl
      exact ⟨Entries.mem_of_find found, passes⟩
  have single : (table.entries.filter fun entry => test entry.2).Perm [(key, row)] :=
    (List.perm_ext_iff_of_nodup (distinct.filter _) (List.pairwise_singleton _ _)).mpr members
  rw [filter, rows, List.filter_map]
  exact congrArg (List.map (·.2)) (List.perm_singleton.mp single)

theorem ext_get {first second : Table κ α} (same : ∀ key, first.get? key = second.get? key) :
    first = second :=
  ext_entries (Entries.sorted_ext first.sorted second.sorted same)

theorem rows_map_congr {β : Type} {first second : Table κ α} (view : α → β)
    (same : ∀ key, (first.get? key).map view = (second.get? key).map view) :
    first.rows.map view = second.rows.map view := by
  let viewed (table : Table κ α) : List (κ × β) := table.entries.map fun entry => (entry.1, view entry.2)
  have sorted : ∀ table, Entries.Sorted (viewed table) := fun table =>
    Entries.sorted_mapValues (fun _ => view) table.sorted
  have rows : ∀ table, table.rows.map view = (viewed table).map (·.2) := fun table => by simp [viewed, Table.rows]
  have entries : viewed first = viewed second := by
    refine Entries.sorted_ext (sorted first) (sorted second) fun key => ?_
    have found : ∀ table, Entries.find? key (viewed table) = (Entries.find? key table.entries).map view :=
      fun table => Entries.find_map_values (fun _ => view) key table.entries
    rw [found, found]
    exact same key
  rw [rows, rows, entries]

theorem erase_insert (table : Table κ α) {key : κ} (row : α) (absent : table.get? key = none) :
    (table.insert key row).erase key = table := by
  apply ext_get
  intro other
  by_cases same : other = key
  · rw [same, get_erase_same, absent]
  · rw [get_erase_other _ same, get_insert_other _ _ same]

theorem entries_insert_above {table : Table κ α} {key : κ} (row : α)
    (above : ∀ other old, table.get? other = some old → compare other key = .lt) :
    (table.insert key row).entries = table.entries ++ [(key, row)] :=
  Entries.insert_above row fun entry member => above entry.1 entry.2 (Entries.find_of_mem table.sorted member)

theorem rows_insert_above {table : Table κ α} {key : κ} (row : α)
    (above : ∀ other old, table.get? other = some old → compare other key = .lt) :
    (table.insert key row).rows = table.rows ++ [row] := by
  rw [rows, entries_insert_above row above, List.map_append]
  rfl

end Lookups

end Table

end Delivery
