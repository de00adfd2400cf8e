import HomePortal.Hub.Rest
import Mathlib.Data.List.Perm.Basic
import Mathlib.Logic.Function.Basic
/-!
The orders in which tasks are done of which only so many may be under way at a time. They are all
those in which the next task that is done never has as many others before it.
-/

namespace HomePortal.RestHub

variable {α : Type} {limit : Nat} {next : Nat → Nat} {tasks done : List α}

inductive Completes (limit : Nat) : List α → List α → Prop
  | nil : Completes limit [] []
  | cons {before after done : List α} {task : α} (hunder : before.length < limit)
    (hrest : Completes limit (before ++ after) done) :
    Completes limit (before ++ task :: after) (task :: done)

theorem Completes.perm (h : Completes limit tasks done) : done.Perm tasks := by
  induction h with
  | nil => exact .refl _
  | cons _ _ ih => exact (ih.cons _).trans List.perm_middle.symm

theorem completes_completed (hlimit : 0 < limit) (next : Nat → Nat) (tasks : List α) :
    Completes limit tasks (completed limit next tasks) := by
  fun_induction completed limit next tasks with
  | case1 => exact .nil
  | case2 task rest i ih =>
    have hi : i < (task :: rest).length := Nat.lt_succ_of_le (Nat.min_le_right _ _)
    have hlow : i < limit := Nat.lt_of_le_of_lt (Nat.min_le_left _ _) (Nat.mod_lt _ hlimit)
    have hsplit : (task :: rest).take i ++ (task :: rest).getD i task :: (task :: rest).drop (i + 1) =
        task :: rest := by
      rw [List.getD_eq_getElem?_getD, List.getElem?_eq_getElem hi, Option.getD_some,
        List.getElem_cons_drop, List.take_append_drop]
    rw [List.eraseIdx_eq_take_drop_succ] at ih ⊢
    have hunder : ((task :: rest).take i).length < limit :=
      Nat.lt_of_le_of_lt (List.length_take_le _ _) hlow
    have hcompletes : Completes limit _ ((task :: rest).getD i task :: _) := .cons hunder ih
    rwa [hsplit] at hcompletes

/-- The task that is done first is taken out of those that are left. -/
theorem completed_append {before after : List α} (task : α)
    (hi : min (next (before ++ after).length % limit) (before ++ after).length = before.length) :
    completed limit next (before ++ task :: after) =
      task :: completed limit next (before ++ after) := by
  obtain ⟨first, rest, hsplit⟩ := List.exists_cons_of_ne_nil
    (List.append_ne_nil_of_right_ne_nil before (List.cons_ne_nil task after))
  have hlength : rest.length = (before ++ after).length := by
    have hsame := congrArg List.length hsplit
    simp only [List.length_cons, List.length_append] at hsame ⊢
    omega
  rw [hsplit, completed, hlength, hi, ← hsplit]
  simp [List.eraseIdx_append_of_length_le]

/-- Only those numbers count that are looked at. -/
theorem completed_congr {next' : Nat → Nat} (h : ∀ n < tasks.length, next n = next' n) :
    completed limit next tasks = completed limit next' tasks := by
  fun_induction completed limit next tasks with
  | case1 => rw [completed]
  | case2 task rest i ih =>
    rw [completed, ← h rest.length (Nat.lt_succ_self _)]
    exact congrArg (_ :: ·) (ih fun n hn =>
      h n (Nat.lt_of_lt_of_le hn (List.length_eraseIdx_le _ _)))

/-- All orders come about in which the tasks before the next one that is done are fewer than may be
under way, and no others. -/
theorem completes_iff (hlimit : 0 < limit) :
    Completes limit tasks done ↔ ∃ next, completed limit next tasks = done := by
  constructor
  · intro h
    induction h with
    | nil => exact ⟨id, by rw [completed]⟩
    | @cons before after done task hunder hrest ih =>
      obtain ⟨next, rfl⟩ := ih
      have hsame : completed limit (Function.update next (before ++ after).length before.length)
          (before ++ after) = completed limit next (before ++ after) :=
        completed_congr fun n hn => Function.update_of_ne (Nat.ne_of_lt hn) _ _
      refine ⟨Function.update next (before ++ after).length before.length, ?_⟩
      rw [completed_append, hsame]
      rw [Function.update_self, Nat.mod_eq_of_lt hunder, List.length_append]
      omega
  · rintro ⟨next, rfl⟩
    exact completes_completed hlimit next tasks

/-- Tasks are done in their own order where only one is under way at a time, or none overtakes
another. -/
theorem completed_eq_self (h : limit = 1 ∨ ∀ n, next n = 0) : completed limit next tasks = tasks := by
  have hzero : ∀ n, next n % limit = 0 := by
    intro n
    obtain rfl | h := h
    · exact Nat.mod_one _
    · rw [h, Nat.zero_mod]
  induction tasks with
  | nil => rw [completed]
  | cons task rest ih =>
    have hfirst : completed limit next ([] ++ task :: rest) =
        task :: completed limit next ([] ++ rest) :=
      completed_append task (by rw [hzero]; exact Nat.zero_min _)
    rw [List.nil_append, List.nil_append] at hfirst
    rw [hfirst, ih]

end HomePortal.RestHub
