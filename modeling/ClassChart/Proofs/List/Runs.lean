import Mathlib.Data.List.TakeWhile

/-! The run of elements that a list starts with, and what follows it. -/
namespace ClassChart
variable {α : Type} {p : α → Bool} {run rest : List α}

theorem takeWhile_run (hrun : ∀ a ∈ run, p a = true) (hrest : ∀ a ∈ rest.head?, p a = false) :
    (run ++ rest).takeWhile p = run := by
  rw [List.takeWhile_append_of_pos hrun]
  cases rest with
  | nil => simp
  | cons a rest => simp [hrest a rfl]

theorem dropWhile_run (hrun : ∀ a ∈ run, p a = true) (hrest : ∀ a ∈ rest.head?, p a = false) :
    (run ++ rest).dropWhile p = rest := by
  rw [List.dropWhile_append_of_pos hrun]
  cases rest with
  | nil => rfl
  | cons a rest => simp [hrest a rfl]

theorem takeWhile_all (ts : List α) : ∀ a ∈ ts.takeWhile p, p a = true :=
  List.all_eq_true.mp List.all_takeWhile

theorem head_dropWhile (ts : List α) : ∀ a ∈ (ts.dropWhile p).head?, p a = false := by
  intro a ha
  have h := List.head?_dropWhile_not p ts
  rw [Option.mem_def.mp ha] at h
  simpa using h

end ClassChart
