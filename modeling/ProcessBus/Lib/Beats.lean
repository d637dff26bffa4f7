import Mathlib.Algebra.Order.Group.Nat
import Mathlib.Data.List.Chain

/-!
# Beats

Times that follow a start, each of them meant to be a period behind the one before. A beat may come
late, and then those behind it go by the late one. None comes early.
-/

namespace Beats

variable {period start a b : ℕ} {beats : List ℕ}

/-- The last beat, or the start. -/
def last : ℕ → List ℕ → ℕ
  | a, [] => a
  | _, b :: beats => last b beats

/-- How many beats are late. -/
def late (period : ℕ) : ℕ → List ℕ → ℕ
  | _, [] => 0
  | a, b :: beats => (if b = a + period then 0 else 1) + late period b beats

/-- No beat is early. -/
def Spaced (period : ℕ) : ℕ → List ℕ → Prop
  | _, [] => True
  | a, b :: beats => a + period ≤ b ∧ Spaced period b beats

@[simp] lemma last_append : last a (beats ++ [b]) = b := by
  induction beats generalizing a with
  | nil => rfl
  | cons c beats ih => exact ih

lemma late_append :
    late period a (beats ++ [b]) =
      late period a beats + if b = last a beats + period then 0 else 1 := by
  induction beats generalizing a with
  | nil => exact Nat.add_comm _ _
  | cons c beats ih =>
    show (if c = a + period then 0 else 1) + late period c (beats ++ [b]) = _
    rw [ih]
    exact (Nat.add_assoc _ _ _).symm

lemma spaced_append :
    Spaced period a (beats ++ [b]) ↔ Spaced period a beats ∧ last a beats + period ≤ b := by
  induction beats generalizing a with
  | nil => simp [Spaced, last]
  | cons c beats ih => simp only [List.cons_append, Spaced, last, ih, and_assoc]

/-- There are no more beats than periods. -/
lemma Spaced.le_last (h : Spaced period a beats) : a + beats.length * period ≤ last a beats := by
  induction beats generalizing a with
  | nil => simp [last]
  | cons b beats ih =>
    obtain ⟨hb, h⟩ := h
    have hrest := ih h
    rw [List.length_cons, Nat.succ_mul]
    show _ ≤ last b beats
    omega

lemma late_le_length : late period a beats ≤ beats.length := by
  induction beats generalizing a with
  | nil => rfl
  | cons b beats ih =>
    have hrest := ih (a := b)
    rw [late, List.length_cons]
    split_ifs <;> omega

/-- Without a late beat all are where they are meant to be, and the other way round. -/
lemma late_eq_zero_iff :
    late period a beats = 0 ↔
      beats = (List.range beats.length).map fun j => a + (j + 1) * period := by
  induction beats generalizing a with
  | nil => simp [late]
  | cons b beats ih =>
    have hshift : ∀ n, (List.range n).map (fun j => a + (j + 1 + 1) * period) =
        (List.range n).map fun j => a + period + (j + 1) * period := by
      intro n
      apply List.map_congr_left
      intro j _
      rw [Nat.succ_mul (j + 1), Nat.add_assoc, Nat.add_comm period]
    rw [late, List.length_cons, List.range_succ_eq_map, List.map_cons, List.map_map,
      List.cons.injEq, Nat.add_eq_zero_iff, ih, Nat.zero_add, Nat.one_mul]
    simp only [Function.comp_def, Nat.succ_eq_add_one, hshift]
    constructor
    · rintro ⟨hb, hbeats⟩
      have hb : b = a + period := by
        by_contra hne
        rw [if_neg hne] at hb
        cases hb
      exact ⟨hb, hb ▸ hbeats⟩
    · rintro ⟨hb, hbeats⟩
      exact ⟨if_pos hb, hb ▸ hbeats⟩

end Beats
