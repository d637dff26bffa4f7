import Mathlib.Algebra.Order.BigOperators.Group.List
import Mathlib.Algebra.Order.Ring.Nat
import Mathlib.Data.List.Forall2
import Mathlib.Tactic.SplitIfs

/-!
# Losses in a numbered sequence

The elements of a sequence are numbered from zero and some of them are lost. A receiver remembers
the last value it got and looks at each new one together with it.

What it finds is determined by the gaps: for each element that arrives, how many were lost right in
front of it.
-/

namespace Losses

/-- The numbers of the elements that arrive. `mask` says which do, from number `i` on. -/
def arriving (i : ℕ) : List Bool → List ℕ
  | [] => []
  | true :: mask => i :: arriving (i + 1) mask
  | false :: mask => arriving (i + 1) mask

/-- For each element that arrives, its number and how many were lost right in front of it. -/
def gaps (i lost : ℕ) : List Bool → List (ℕ × ℕ)
  | [] => []
  | true :: mask => (i, lost) :: gaps (i + 1) 0 mask
  | false :: mask => gaps (i + 1) (lost + 1) mask

/-- The maximal runs of lost elements behind which another one arrives: the number of that element
and the length of the run. -/
def runs (mask : List Bool) : List (ℕ × ℕ) := (gaps 0 0 mask).filter (·.2 ≠ 0)

example : runs [false, true, true, false, false, true, false] = [(1, 1), (5, 2)] := by decide

variable {i lost : ℕ} {mask : List Bool}

/-- No more elements are lost than have been sent. -/
lemma lost_le (h : lost ≤ i) : ∀ g ∈ gaps i lost mask, g.2 ≤ g.1 := by
  induction mask generalizing i lost with
  | nil => exact fun g hg => absurd hg List.not_mem_nil
  | cons b mask ih =>
    cases b with
    | false => exact ih (Nat.succ_le_succ h)
    | true =>
      intro g hg
      rcases List.mem_cons.mp hg with rfl | hg
      · exact h
      · exact ih (Nat.zero_le _) g hg

lemma mem_runs {r : ℕ × ℕ} : r ∈ runs mask ↔ r ∈ gaps 0 0 mask ∧ r.2 ≠ 0 := by
  simp [runs]

/-- If everything arrives there are no gaps. -/
lemma lost_eq_zero {n : ℕ} : ∀ g ∈ gaps i 0 (List.replicate n true), g.2 = 0 := by
  induction n generalizing i with
  | zero => exact fun g hg => absurd hg List.not_mem_nil
  | succ n ih =>
    intro g hg
    rcases List.mem_cons.mp hg with rfl | hg
    · rfl
    · exact ih g hg

lemma lt_of_mem_arriving {j : ℕ} (h : j ∈ arriving i mask) : j < i + mask.length := by
  induction mask generalizing i with
  | nil => exact absurd h List.not_mem_nil
  | cons b mask ih =>
    rw [List.length_cons]
    cases b with
    | false =>
      have hlt := ih h
      omega
    | true =>
      rcases List.mem_cons.mp h with rfl | h
      · omega
      · have hlt := ih h
        omega

/-- What arrives in front of the first loss leaves no gap. -/
lemma runs_replicate_append (n : ℕ) (mask : List Bool) :
    runs (List.replicate n true ++ mask) = (gaps n 0 mask).filter (·.2 ≠ 0) := by
  have hgaps : ∀ i, (gaps i 0 (List.replicate n true ++ mask)).filter (·.2 ≠ 0) =
      (gaps (i + n) 0 mask).filter (·.2 ≠ 0) := by
    induction n with
    | zero => exact fun i => rfl
    | succ n ih =>
      intro i
      rw [List.replicate_succ, List.cons_append, gaps, List.filter_cons_of_neg (by simp), ih,
        Nat.add_right_comm, Nat.add_assoc]
  exact (hgaps 0).trans (by rw [Nat.zero_add])

@[simp] lemma arriving_replicate {n : ℕ} :
    arriving i (List.replicate n true) = List.range' i n := by
  induction n generalizing i with
  | zero => rfl
  | succ n ih => rw [List.replicate_succ, arriving, ih, List.range'_succ]

/-! ### A receiver with one value in memory -/

variable {β : Type} (bad : β → β → Prop) [DecidableRel bad]

/-- How often a new value does not go with the last one. -/
def errors : β → List β → ℕ
  | _, [] => 0
  | last, x :: xs => (if bad last x then 1 else 0) + errors x xs

/-- What the receiver does: remember the value, and count it if it does not go with the last
one. -/
def track (state : β × UInt32) (x : β) : β × UInt32 :=
  (x, if bad state.1 x then state.2 + 1 else state.2)

lemma foldl_track (xs : List β) (last : β) (err : UInt32) :
    (xs.foldl (track bad) (last, err)).2 = err + UInt32.ofNat (errors bad last xs) := by
  induction xs generalizing last err with
  | nil => exact (UInt32.add_zero err).symm
  | cons x xs ih =>
    rw [List.foldl_cons, track, ih, errors, UInt32.ofNat_add, ← UInt32.add_assoc]
    split_ifs
    · rfl
    · exact congrArg (· + _) (UInt32.add_zero err).symm

variable {bad}

/-- With losses, the value in memory is the one in front of the gap. The receiver starts out with
`value 0`, and the element with number `j` has `value (j + 1)`. -/
lemma errors_arriving (value : ℕ → β) :
    errors bad (value (i - lost)) ((arriving i mask).map fun j => value (j + 1)) =
      (gaps i lost mask).countP fun g => bad (value (g.1 - g.2)) (value (g.1 + 1)) := by
  induction mask generalizing i lost with
  | nil => rfl
  | cons b mask ih =>
    cases b with
    | false =>
      have hlast : i - lost = i + 1 - (lost + 1) := (Nat.add_sub_add_right i 1 lost).symm
      rw [arriving, gaps, hlast]
      exact ih
    | true =>
      rw [arriving, gaps, List.map_cons, errors, List.countP_cons, Nat.add_comm, ← ih]
      simp

/-- If what the receiver finds depends on the gaps, and nothing is found where nothing was lost, it
counts runs. -/
theorem errors_eq_countP_runs (value : ℕ → β) (P : ℕ × ℕ → Prop) [DecidablePred P]
    (h : ∀ g ∈ gaps 0 0 mask, bad (value (g.1 - g.2)) (value (g.1 + 1)) ↔ P g ∧ g.2 ≠ 0) :
    errors bad (value 0) ((arriving 0 mask).map fun j => value (j + 1)) =
      (runs mask).countP (P ·) := by
  have hgaps := @errors_arriving 0 0 mask β bad _ value
  rw [Nat.sub_zero] at hgaps
  rw [hgaps, runs, List.countP_filter]
  refine List.countP_congr fun g hg => ?_
  simp [h g hg]

/-- If the values follow on each other, the receiver counts no more than the runs. -/
lemma errors_le_length_runs (value : ℕ → β) (h : ∀ i, ¬ bad (value i) (value (i + 1))) :
    errors bad (value 0) ((arriving 0 mask).map fun j => value (j + 1)) ≤ (runs mask).length := by
  rw [errors_eq_countP_runs value fun g => bad (value (g.1 - g.2)) (value (g.1 + 1))]
  · exact List.countP_le_length
  · intro g _
    refine ⟨fun hbad => ⟨hbad, fun hzero => ?_⟩, And.left⟩
    rw [hzero, Nat.sub_zero] at hbad
    exact h g.1 hbad

/-- If everything arrives and the values follow on each other, nothing is found. -/
lemma errors_replicate (value : ℕ → β) (h : ∀ i, ¬ bad (value i) (value (i + 1))) (n : ℕ) :
    errors bad (value 0) ((arriving 0 (List.replicate n true)).map fun j => value (j + 1)) = 0 := by
  have hgaps := @errors_arriving 0 0 (List.replicate n true) β bad _ value
  rw [Nat.sub_zero] at hgaps
  rw [hgaps]
  refine List.countP_eq_zero.mpr fun g hg => ?_
  rw [lost_eq_zero g hg, Nat.sub_zero, decide_eq_true_eq]
  exact h g.1

/-! ### How much is lost -/

lemma arriving_succ : arriving (i + 1) mask = (arriving i mask).map (· + 1) := by
  induction mask generalizing i with
  | nil => rfl
  | cons b mask ih =>
    cases b with
    | false => exact ih
    | true => exact congrArg (List.cons (i + 1)) ih

/-- The elements of a sublist arrive, the others are lost. -/
lemma exists_mask {α : Type} {xs ys : List α} (h : ys.Sublist xs) :
    ∃ mask : List Bool, mask.length = xs.length ∧
      List.Forall₂ (fun j y => xs[j]? = some y) (arriving 0 mask) ys := by
  induction h with
  | slnil => exact ⟨[], rfl, .nil⟩
  | cons x _ ih =>
    obtain ⟨mask, hlen, hys⟩ := ih
    refine ⟨false :: mask, congrArg (· + 1) hlen, ?_⟩
    rw [arriving, arriving_succ, List.forall₂_map_left_iff]
    exact hys
  | cons_cons x _ ih =>
    obtain ⟨mask, hlen, hys⟩ := ih
    refine ⟨true :: mask, congrArg (· + 1) hlen, .cons rfl ?_⟩
    rw [arriving_succ, List.forall₂_map_left_iff]
    exact hys

/-- What arrives and what is lost in front of it are no more than what was sent. -/
lemma sum_gaps_add_le :
    ((gaps i lost mask).map Prod.snd).sum + (arriving i mask).length ≤ lost + mask.length := by
  induction mask generalizing i lost with
  | nil => exact Nat.zero_le _
  | cons b mask ih =>
    cases b with
    | false =>
      have hrest := @ih (i + 1) (lost + 1)
      rw [List.length_cons, ← Nat.add_assoc, Nat.add_right_comm]
      exact hrest
    | true =>
      have hrest := @ih (i + 1) 0
      simp only [gaps, arriving, List.map_cons, List.sum_cons, List.length_cons]
      omega

lemma sum_runs : ((runs mask).map Prod.snd).sum = ((gaps 0 0 mask).map Prod.snd).sum := by
  unfold runs
  induction gaps 0 0 mask with
  | nil => rfl
  | cons g gs ih =>
    rw [List.filter_cons]
    split_ifs with h
    · rw [List.map_cons, List.map_cons, List.sum_cons, List.sum_cons, ih]
    · have hzero : g.2 = 0 := by simpa using h
      rw [List.map_cons, List.sum_cons, hzero, Nat.zero_add, ih]

/-- Each loss takes an element. -/
lemma length_runs_add_le : (runs mask).length + (arriving 0 mask).length ≤ mask.length := by
  have hle : ((runs mask).map Prod.snd).length ≤ ((runs mask).map Prod.snd).sum := by
    apply List.length_le_sum_of_one_le
    intro n hn
    obtain ⟨r, hr, rfl⟩ := List.mem_map.mp hn
    exact Nat.one_le_iff_ne_zero.mpr (mem_runs.mp hr).2
  rw [List.length_map, sum_runs] at hle
  have hsum := @sum_gaps_add_le 0 0 mask
  omega

end Losses
