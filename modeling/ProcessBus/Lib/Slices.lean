import Mathlib.Algebra.BigOperators.Intervals
import Mathlib.Algebra.Order.Group.Nat
import Mathlib.Order.Monotone.Basic

/-!
# Slices of a range

The numbers below `n`, cut into `k` slices one behind the other, the remainder of the division
spread over the first of them. Slice `i` reaches from `bound n k i` up to the next bound.
-/

namespace Slices

/-- Where a slice starts, and where the one in front of it ends. -/
def bound (n k i : ℕ) : ℕ := i * (n / k) + min i (n % k)

/-- The numbers in a slice. -/
def InSlice (n k i x : ℕ) : Prop := bound n k i ≤ x ∧ x < bound n k (i + 1)

instance (n k i x : ℕ) : Decidable (InSlice n k i x) := inferInstanceAs (Decidable (_ ∧ _))

variable {n k i j x : ℕ}

@[simp] lemma bound_zero : bound n k 0 = 0 := by simp [bound]

lemma bound_self (hk : 0 < k) : bound n k k = n := by
  have hmod := Nat.mod_lt n hk
  rw [bound, Nat.min_eq_right hmod.le]
  exact Nat.div_add_mod n k

/-- The size of a slice. -/
lemma bound_succ : bound n k (i + 1) = bound n k i + (n / k + if i < n % k then 1 else 0) := by
  unfold bound
  rw [Nat.succ_mul]
  split_ifs <;> omega

lemma monotone_bound : Monotone (bound n k) :=
  monotone_nat_of_le_succ fun _ => bound_succ ▸ Nat.le_add_right ..

lemma bound_le (hk : 0 < k) (hi : i ≤ k) : bound n k i ≤ n :=
  (monotone_bound hi).trans_eq (bound_self hk)

/-- With no more slices than numbers, none is empty. -/
lemma bound_lt_succ (hk : 0 < k) (hkn : k ≤ n) : bound n k i < bound n k (i + 1) := by
  have hdiv : 0 < n / k := Nat.div_pos hkn hk
  rw [bound_succ]
  omega

/-- Two slices differ in size by at most one. -/
lemma size_le_succ :
    bound n k (i + 1) - bound n k i ≤ bound n k (j + 1) - bound n k j + 1 := by
  rw [bound_succ, bound_succ, Nat.add_sub_cancel_left, Nat.add_sub_cancel_left]
  split_ifs <;> omega

lemma exists_inSlice_of_lt (h : x < bound n k j) : ∃ i < j, InSlice n k i x := by
  induction j with
  | zero => exact absurd h (by simp)
  | succ j ih =>
    by_cases hj : x < bound n k j
    · obtain ⟨i, hi, hslice⟩ := ih hj
      exact ⟨i, hi.trans (Nat.lt_succ_self j), hslice⟩
    · exact ⟨j, Nat.lt_succ_self j, not_lt.mp hj, h⟩

/-- Every number is in a slice. -/
lemma exists_inSlice (hk : 0 < k) (hx : x < n) : ∃ i < k, InSlice n k i x :=
  exists_inSlice_of_lt ((bound_self hk).symm ▸ hx)

/-- And in one only. -/
lemma InSlice.unique (hi : InSlice n k i x) (hj : InSlice n k j x) : i = j := by
  have hlt : ∀ {i j}, InSlice n k i x → InSlice n k j x → ¬ i < j := fun hi hj h =>
    absurd (hi.2.trans_le (monotone_bound h)) (not_lt.mpr hj.1)
  exact Nat.le_antisymm (not_lt.mp (hlt hj hi)) (not_lt.mp (hlt hi hj))

/-- The sizes of all slices. -/
lemma sum_size (hk : 0 < k) : ∑ i ∈ Finset.range k, (bound n k (i + 1) - bound n k i) = n := by
  rw [Finset.sum_range_tsub monotone_bound, bound_self hk, bound_zero]
  exact Nat.sub_zero n

/-- The numbers of a slice, in order. -/
lemma filter_range (hi : i < k) : (List.range n).filter (InSlice n k i ·) =
    (List.range (bound n k (i + 1) - bound n k i)).map (bound n k i + ·) := by
  have hk : 0 < k := Nat.zero_lt_of_lt hi
  have hle : bound n k i ≤ bound n k (i + 1) := monotone_bound (Nat.le_succ i)
  have hend : bound n k (i + 1) ≤ n := bound_le hk hi
  have hsplit : n = bound n k i + (bound n k (i + 1) - bound n k i) + (n - bound n k (i + 1)) := by
    omega
  conv_lhs => rw [hsplit]
  rw [List.range_add, List.range_add, List.filter_append, List.filter_append, ← hsplit]
  have hbefore : (List.range (bound n k i)).filter (InSlice n k i ·) = [] := by
    apply List.filter_eq_nil_iff.mpr
    intro x hx hslice
    exact absurd (List.mem_range.mp hx) (not_lt.mpr (of_decide_eq_true hslice).1)
  have hin : ((List.range (bound n k (i + 1) - bound n k i)).map (bound n k i + ·)).filter
      (InSlice n k i ·) =
      (List.range (bound n k (i + 1) - bound n k i)).map (bound n k i + ·) := by
    apply List.filter_eq_self.mpr
    intro x hx
    obtain ⟨y, hy, rfl⟩ := List.mem_map.mp hx
    have hy := List.mem_range.mp hy
    exact decide_eq_true ⟨Nat.le_add_right _ _, by omega⟩
  have hbehind : ((List.range (n - bound n k (i + 1))).map
      (bound n k i + (bound n k (i + 1) - bound n k i) + ·)).filter (InSlice n k i ·) = [] := by
    apply List.filter_eq_nil_iff.mpr
    intro x hx hslice
    obtain ⟨y, -, rfl⟩ := List.mem_map.mp hx
    rw [Nat.add_sub_cancel' hle] at hslice
    exact absurd (of_decide_eq_true hslice).2 (not_lt.mpr (Nat.le_add_right _ _))
  rw [hbefore, hin, hbehind, List.nil_append, List.append_nil]

end Slices
