import Delivery.Json.Reader
import Delivery.Proofs.Attempts
set_option autoImplicit false

namespace Delivery.Json

open Entries

@[simp] theorem fault_here_ne_ok {α : Type} (fault : SyntaxFault) (rest : List Char) (value : α) :
    Fault.here fault rest ≠ .ok value := by
  simp [Fault.here]

@[simp] theorem fault_next_ne_ok {α : Type} (fault : SyntaxFault) (rest : List Char) (value : α) :
    Fault.next fault rest ≠ .ok value := by
  simp [Fault.next]

namespace Reader

variable {α β : Type}

def Gives (reader : Reader α) (property : α → Prop) : Prop :=
  ∀ ⦃cs value rest⦄, reader cs = .ok (value, rest) → property value

def thenMap (reader : Reader α) (change : α → β) : Reader β :=
  fun cs => (reader cs).map fun read => (change read.1, read.2)

end Reader

section Items

variable {α β : Type}

theorem items_gives {item : Reader α} {property : α → Prop} (gives : item.Gives property) (fuel : Nat)
    (first : Bool) : (readItems item fuel first).Gives fun values => ∀ value ∈ values, property value := by
  induction fuel generalizing first with
  | zero => intro cs values rest read; simp [readItems] at read
  | succ fuel ih =>
      intro cs values rest read
      rw [readItems] at read
      obtain ⟨step, _, read⟩ := bind_ok read
      cases step with
      | closed after =>
          cases read
          simp
      | item after =>
          obtain ⟨⟨value, after⟩, one, read⟩ := bind_ok read
          obtain ⟨⟨more, after⟩, others, read⟩ := bind_ok read
          cases read
          simpa using ⟨gives one, ih false others⟩

theorem items_then_map (item : Reader α) (change : α → β) (fuel : Nat) (first : Bool) (cs : List Char) :
    readItems (item.thenMap change) fuel first cs =
      Reader.thenMap (readItems item fuel first) (List.map change) cs := by
  induction fuel generalizing first cs with
  | zero => rfl
  | succ fuel ih =>
      simp only [readItems, Reader.thenMap] at ih ⊢
      cases nextItem first cs with
      | error fault => rfl
      | ok step =>
          cases step with
          | closed rest => rfl
          | item rest =>
              cases read : item rest with
              | error fault => simp [read, bind, Except.bind, Except.map]
              | ok found =>
                  cases more : readItems item fuel false found.2 <;>
                    simp [read, ih, more, bind, Except.bind, Except.map]

end Items

section Members

theorem members_gives {value : Reader Json} {property : Json → Prop} (gives : value.Gives property) (fuel : Nat)
    (first : Bool) {before : List (String × Json)} (sorted : Sorted before)
    (every : ∀ entry ∈ before, property entry.2) :
    (readMembers value fuel first before).Gives fun members =>
      Sorted members ∧ ∀ entry ∈ members, property entry.2 := by
  induction fuel generalizing first before with
  | zero => intro cs members rest read; simp [readMembers] at read
  | succ fuel ih =>
      intro cs members rest read
      rw [readMembers] at read
      obtain ⟨step, _, read⟩ := bind_ok read
      cases step with
      | closed after =>
          cases read
          exact ⟨sorted, every⟩
      | item after =>
          obtain ⟨⟨key, after⟩, _, read⟩ := bind_ok read
          obtain ⟨after, _, read⟩ := bind_ok read
          obtain ⟨⟨member, after⟩, one, read⟩ := bind_ok read
          refine ih false (sorted_insert key member sorted) (fun entry present => ?_) read
          rcases mem_insert present with rfl | old
          · exact gives one
          · exact every entry old

end Members

end Delivery.Json
