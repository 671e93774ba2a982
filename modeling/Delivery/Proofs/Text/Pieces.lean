import Delivery.Text.Blank
set_option autoImplicit false

namespace Delivery.Text

variable {separator : Char}

theorem pieces_append {front : List Char} (absent : separator ∉ front) (rest : List Char) :
    pieces separator (front ++ separator :: rest) = front :: pieces separator rest := by
  induction front with
  | nil => simp [pieces]
  | cons c front ih =>
      have different : separator ≠ c := List.ne_of_not_mem_cons absent
      have later := List.not_mem_of_not_mem_cons absent
      rw [List.cons_append, pieces, if_neg different.symm, ih later]

theorem pieces_of_absent {cs : List Char} (absent : separator ∉ cs) : pieces separator cs = [cs] := by
  induction cs with
  | nil => rfl
  | cons c rest ih =>
      have different : separator ≠ c := List.ne_of_not_mem_cons absent
      have later := List.not_mem_of_not_mem_cons absent
      rw [pieces, if_neg different.symm, ih later]

theorem pieces_of_present {cs : List Char} (present : separator ∈ cs) :
    ∃ first second more, pieces separator cs = first :: second :: more := by
  obtain ⟨front, rest, rfl, absent⟩ := List.eq_append_cons_of_mem present
  rw [pieces_append absent]
  cases pieced : pieces separator rest with
  | nil => exact absurd pieced (pieces_ne_nil separator rest)
  | cons second more => exact ⟨front, second, more, rfl⟩

theorem only_piece {cs piece : List Char} (pieced : pieces separator cs = [piece]) :
    cs = piece ∧ separator ∉ piece := by
  by_cases present : separator ∈ cs
  · obtain ⟨first, second, more, several⟩ := pieces_of_present present
    rw [several] at pieced
    cases pieced
  · rw [pieces_of_absent present] at pieced
    cases pieced
    exact ⟨rfl, present⟩

theorem first_piece {cs first second : List Char} {more : List (List Char)}
    (pieced : pieces separator cs = first :: second :: more) :
    ∃ rest, cs = first ++ separator :: rest ∧ separator ∉ first ∧ pieces separator rest = second :: more := by
  by_cases present : separator ∈ cs
  · obtain ⟨front, rest, rfl, absent⟩ := List.eq_append_cons_of_mem present
    rw [pieces_append absent] at pieced
    obtain ⟨rfl, later⟩ := List.cons.inj pieced
    exact ⟨rest, rfl, absent, later⟩
  · rw [pieces_of_absent present] at pieced
    cases pieced

theorem two_pieces_iff {cs first second : List Char} :
    pieces separator cs = [first, second] ↔
      cs = first ++ separator :: second ∧ separator ∉ first ∧ separator ∉ second := by
  constructor
  · intro pieced
    obtain ⟨rest, rfl, absent, later⟩ := first_piece pieced
    obtain ⟨rfl, last⟩ := only_piece later
    exact ⟨rfl, absent, last⟩
  · rintro ⟨rfl, absent, last⟩
    rw [pieces_append absent, pieces_of_absent last]

theorem three_pieces_iff {cs first second third : List Char} :
    pieces separator cs = [first, second, third] ↔
      cs = first ++ separator :: (second ++ separator :: third) ∧
        separator ∉ first ∧ separator ∉ second ∧ separator ∉ third := by
  constructor
  · intro pieced
    obtain ⟨rest, rfl, absent, later⟩ := first_piece pieced
    obtain ⟨rfl, others⟩ := two_pieces_iff.mp later
    exact ⟨rfl, absent, others⟩
  · rintro ⟨rfl, absent, others⟩
    rw [pieces_append absent, two_pieces_iff.mpr ⟨rfl, others⟩]

end Delivery.Text
