import Delivery.Domain.Identity
import Delivery.Table
set_option autoImplicit false

namespace Delivery

structure Filed {kind : EntityKind} {α : Type} (name : α → Id kind) (table : Table (Id kind) α) (count : Nat) :
    Prop where
  own : ∀ {key row}, table.get? key = some row → name row = key
  given : ∀ {key row}, table.get? key = some row → ∃ place, place < count ∧ key = Id.nth place

section Filed

variable {kind : EntityKind} {α : Type} {name : α → Id kind} {table : Table (Id kind) α} {count : Nat}

theorem filed_empty (name : α → Id kind) (count : Nat) : Filed name (.empty : Table (Id kind) α) count :=
  ⟨nofun, nofun⟩

theorem later_missing (filed : Filed name table count) {place : Nat} (later : count ≤ place)
    (room : place + 1 < Id.capacity) : table.get? (Id.nth place) = none := by
  cases found : table.get? (Id.nth place) with
  | none => rfl
  | some row =>
      -- A row there would have its identifier from before, and none is given out twice.
      obtain ⟨earlier, before, same⟩ := filed.given found
      exact absurd same.symm (Id.nth_different (Nat.lt_of_lt_of_le before later) room)

theorem next_above (filed : Filed name table count) (room : count + 1 < Id.capacity) {key : Id kind} {row : α}
    (found : table.get? key = some row) : compare key (Id.nth count) = .lt := by
  obtain ⟨place, before, rfl⟩ := filed.given found
  exact Id.nth_before before room

theorem filed_insert_next (filed : Filed name table count) {row : α} (named : name row = Id.nth count) :
    Filed name (table.insert (Id.nth count) row) (count + 1) := by
  constructor
  · intro key old found
    by_cases same : key = Id.nth count
    · rw [same, Table.get_insert_same] at found
      rw [← Option.some.inj found, named, same]
    · rw [Table.get_insert_other _ _ same] at found
      exact filed.own found
  · intro key old found
    by_cases same : key = Id.nth count
    · exact ⟨count, Nat.lt_succ_self _, same⟩
    · rw [Table.get_insert_other _ _ same] at found
      obtain ⟨place, before, given⟩ := filed.given found
      exact ⟨place, Nat.lt_succ_of_lt before, given⟩

theorem filed_insert_again (row : α) (filed : Filed name table count) {current : α}
    (found : table.get? (name row) = some current) : Filed name (table.insert (name row) row) count := by
  constructor
  · intro key old there
    by_cases same : key = name row
    · rw [same, Table.get_insert_same] at there
      rw [same, Option.some.inj there]
    · rw [Table.get_insert_other _ _ same] at there
      exact filed.own there
  · intro key old there
    by_cases same : key = name row
    · exact same ▸ filed.given found
    · rw [Table.get_insert_other _ _ same] at there
      exact filed.given there

theorem filed_map_rows (filed : Filed name table count) {change : Id kind → α → α}
    (keeps : ∀ key row, name (change key row) = name row) : Filed name (table.mapRows change) count := by
  constructor
  · intro key row found
    rw [Table.get_map_rows, Option.map_eq_some_iff] at found
    obtain ⟨old, there, rfl⟩ := found
    rw [keeps, filed.own there]
  · intro key row found
    rw [Table.get_map_rows, Option.map_eq_some_iff] at found
    obtain ⟨old, there, _⟩ := found
    exact filed.given there

theorem filed_erase (filed : Filed name table count) (key : Id kind) : Filed name (table.erase key) count :=
  ⟨fun found => filed.own (Table.get_of_erase found), fun found => filed.given (Table.get_of_erase found)⟩

theorem rows_ascending (own : ∀ {key row}, table.get? key = some row → name row = key) :
    table.rows.Pairwise fun first second => compare (name first) (name second) = .lt := by
  refine List.pairwise_map.mpr (table.sorted.imp_of_mem fun {first second} left right before => ?_)
  rw [own (Entries.find_of_mem table.sorted left), own (Entries.find_of_mem table.sorted right)]
  exact before

theorem mem_rows_own (own : ∀ {key row}, table.get? key = some row → name row = key) {row : α} :
    row ∈ table.rows ↔ table.get? (name row) = some row := by
  rw [Table.mem_rows]
  constructor
  · rintro ⟨key, found⟩
    rwa [own found]
  · exact fun found => ⟨name row, found⟩

theorem names_distinct (own : ∀ {key row}, table.get? key = some row → name row = key) :
    (table.rows.map name).Nodup :=
  List.pairwise_map.mpr ((rows_ascending own).imp fun before same => by simp [same] at before)

end Filed

end Delivery
