import Mathlib.Data.List.Basic
import Mathlib.Tactic.SplitIfs

/-!
# Windows of an array

An array is a function of the index. A window is the list of what stands in a range of it; a list is
stored behind an index.
-/

namespace Window

variable {α : Type} {f : ℕ → α} {a n k : ℕ} {xs : List α}

/-- The `n` elements from index `a` on. -/
def window (f : ℕ → α) (a n : ℕ) : List α := (List.range n).map fun i => f (a + i)

/-- Store `xs` from index `a` on. -/
def store (f : ℕ → α) (a : ℕ) (xs : List α) : ℕ → α :=
  fun i => if a ≤ i then (xs[i - a]?).getD (f i) else f i

@[simp] lemma length_window : (window f a n).length = n := by simp [window]

@[simp] lemma window_zero : window f a 0 = [] := rfl

lemma window_add : window f a (n + k) = window f a n ++ window f (a + n) k := by
  simp [window, List.range_add, Nat.add_assoc]

lemma take_window (h : k ≤ n) : (window f a n).take k = window f a k := by
  obtain ⟨j, rfl⟩ := Nat.exists_eq_add_of_le h
  rw [window_add, List.take_left' length_window]

lemma drop_window (h : k ≤ n) : (window f a n).drop k = window f (a + k) (n - k) := by
  obtain ⟨j, rfl⟩ := Nat.exists_eq_add_of_le h
  rw [window_add, List.drop_left' length_window, Nat.add_sub_cancel_left]

/-- What stands before the stored list stays. -/
lemma window_store_of_le (h : k + n ≤ a) : window (store f a xs) k n = window f k n := by
  refine List.map_congr_left fun i hi => if_neg ?_
  have := List.mem_range.mp hi
  omega

lemma window_store : window (store f a xs) a xs.length = xs := by
  apply List.ext_getElem length_window
  intro i h _
  rw [length_window] at h
  simp [window, store, h]

end Window
