import Mathlib.Data.List.Forall2
set_option autoImplicit false

namespace Delivery

theorem bind_ok {α β ε : Type} {outcome : Except ε α} {next : α → Except ε β} {value : β}
    (ran : (outcome >>= next) = .ok value) : ∃ middle, outcome = .ok middle ∧ next middle = .ok value := by
  cases outcome with
  | error fault => cases ran
  | ok middle => exact ⟨middle, rfl, ran⟩

section Around

variable {α β : Type} {R : α → β → Prop} {items : List α} {results : List β}

theorem around_result {front back : List β} {result : β} (paired : List.Forall₂ R items (front ++ result :: back)) :
    ∃ earlier item later, items = earlier ++ item :: later ∧
      List.Forall₂ R earlier front ∧ R item result ∧ List.Forall₂ R later back := by
  have before := List.forall₂_take_append _ _ _ paired
  have behind := List.forall₂_drop_append _ _ _ paired
  obtain ⟨item, later, related, rest, same⟩ := List.forall₂_cons_right_iff.mp behind
  refine ⟨_, item, later, ?_, before, related, rest⟩
  rw [← same, List.take_append_drop]

theorem around_item {front back : List α} {item : α} (paired : List.Forall₂ R (front ++ item :: back) results) :
    ∃ earlier result later, results = earlier ++ result :: later ∧
      List.Forall₂ R front earlier ∧ R item result ∧ List.Forall₂ R back later := by
  obtain ⟨earlier, result, later, same, before, related, rest⟩ := around_result paired.flip
  exact ⟨earlier, result, later, same, before.flip, related, rest.flip⟩

theorem item_of_result (paired : List.Forall₂ R items results) {result : β} (member : result ∈ results) :
    ∃ item ∈ items, R item result := by
  obtain ⟨front, back, rfl⟩ := List.mem_iff_append.mp member
  obtain ⟨earlier, item, later, rfl, _, related, _⟩ := around_result paired
  exact ⟨item, List.mem_append_cons_self, related⟩

theorem result_of_item (paired : List.Forall₂ R items results) {item : α} (member : item ∈ items) :
    ∃ result ∈ results, R item result :=
  item_of_result paired.flip member

end Around

section Items

variable {α β ε : Type} {attempt : α → Except ε β} {items : List α}

theorem attempts_ok_iff {results : List β} : items.mapM attempt = .ok results ↔
    List.Forall₂ (fun item result => attempt item = .ok result) items results := by
  constructor
  · intro ran
    induction items generalizing results with
    | nil =>
        cases ran
        exact .nil
    | cons item rest ih =>
        rw [List.mapM_cons] at ran
        obtain ⟨result, first, more⟩ := bind_ok ran
        obtain ⟨others, later, same⟩ := bind_ok more
        cases same
        exact .cons first (ih later)
  · intro each
    induction each with
    | nil => rfl
    | cons first _ ih =>
        rw [List.mapM_cons, first, ih]
        rfl

theorem attempts_error_iff {error : ε} : items.mapM attempt = .error error ↔
    ∃ front item back, items = front ++ item :: back ∧
      (∀ earlier ∈ front, ∃ result, attempt earlier = .ok result) ∧ attempt item = .error error := by
  induction items with
  | nil => simp [pure, Except.pure]
  | cons item rest ih =>
      rw [List.mapM_cons]
      constructor
      · intro ran
        cases first : attempt item with
        | error fault =>
            rw [first] at ran
            cases ran
            exact ⟨[], item, rest, rfl, nofun, first⟩
        | ok result =>
            cases later : rest.mapM attempt with
            | ok others =>
                rw [first, later] at ran
                cases ran
            | error fault =>
                rw [first, later] at ran
                cases ran
                obtain ⟨front, failing, back, rfl, fine, failed⟩ := ih.mp later
                exact ⟨item :: front, failing, back, rfl, List.forall_mem_cons.mpr ⟨⟨result, first⟩, fine⟩, failed⟩
      · rintro ⟨front, failing, back, same, fine, failed⟩
        cases front with
        | nil =>
            cases same
            rw [failed]
            rfl
        | cons _ front =>
            cases same
            obtain ⟨⟨result, first⟩, others⟩ := List.forall_mem_cons.mp fine
            rw [first, ih.mpr ⟨front, failing, back, rfl, others, failed⟩]
            rfl

theorem attempts_succeed_iff : (∃ results, items.mapM attempt = .ok results) ↔
    ∀ item ∈ items, ∃ result, attempt item = .ok result := by
  constructor
  · rintro ⟨results, ran⟩ item member
    obtain ⟨result, _, taken⟩ := result_of_item (attempts_ok_iff.mp ran) member
    exact ⟨result, taken⟩
  · intro each
    cases ran : items.mapM attempt with
    | ok results => exact ⟨results, rfl⟩
    | error fault =>
        obtain ⟨front, item, back, rfl, _, failed⟩ := attempts_error_iff.mp ran
        obtain ⟨result, taken⟩ := each item List.mem_append_cons_self
        rw [failed] at taken
        cases taken

end Items

end Delivery
