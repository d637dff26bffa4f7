import Mathlib.Algebra.BigOperators.Group.Finset.Basic
import Mathlib.Algebra.Order.BigOperators.Group.Finset
import Mathlib.Data.Fintype.Basic
import Mathlib.Data.List.Perm.Basic

/-!
# What is taken and given back

Things are taken from a pool and given back to it, each of them any number of times. A ledger is
balanced when whatever was taken has been given back exactly once for each time, except for what
is still held.
-/

namespace Ledger

variable {ι : Type} {got back held xs : List ι}

/-- What was taken is what was given back and what is held. -/
def Balanced (got back held : List ι) : Prop := got.Perm (back ++ held)

lemma balanced_nil : Balanced ([] : List ι) [] [] := .nil

lemma Balanced.take (h : Balanced got back held) (xs : List ι) :
    Balanced (got ++ xs) back (held ++ xs) := by
  rw [Balanced, ← List.append_assoc]
  exact h.append_right xs

/-- What is given back first is no longer held. -/
lemma Balanced.give (h : Balanced got back (xs ++ held)) : Balanced got (back ++ xs) held := by
  rw [Balanced, List.append_assoc]
  exact h

lemma Balanced.congr_back {back' : List ι} (h : Balanced got back held) (hp : back.Perm back') :
    Balanced got back' held :=
  h.trans (hp.append_right held)

variable [DecidableEq ι]

lemma Balanced.count_eq (h : Balanced got back held) (x : ι) :
    got.count x = back.count x + held.count x := by
  rw [List.Perm.count_eq h, List.count_append]

/-- `x` was taken and not given back. -/
def InHand (got back : List ι) (x : ι) : Prop := back.count x < got.count x

instance (got back : List ι) (x : ι) : Decidable (InHand got back x) :=
  inferInstanceAs (Decidable (_ < _))

lemma Balanced.inHand_iff (h : Balanced got back held) {x : ι} :
    InHand got back x ↔ x ∈ held := by
  rw [InHand, h.count_eq, ← List.count_pos_iff]
  omega

/-- Only what is not in hand is taken, so nothing is held twice. -/
lemma Balanced.nodup_take (h : Balanced got back held) (hheld : held.Nodup) (hxs : xs.Nodup)
    (hfree : ∀ x ∈ xs, ¬ InHand got back x) : (held ++ xs).Nodup :=
  List.nodup_append.mpr ⟨hheld, hxs, fun _ ha _ hb hab =>
    hfree _ hb (h.inHand_iff.mpr (hab ▸ ha))⟩

/-- A pool that is large enough for what is held, what is set aside and so many more has them. -/
lemma exists_free {ω : Type} [Fintype ω] {pool idle : Finset ι} {held : ω → List ι} {num : ℕ}
    (h : ∑ w, (held w).length + idle.card + num ≤ pool.card) :
    ∃ xs : List ι, xs.length = num ∧ xs.Nodup ∧
      ∀ x ∈ xs, x ∈ pool ∧ x ∉ idle ∧ ∀ w, x ∉ held w := by
  let taken := idle ∪ Finset.univ.biUnion fun w => (held w).toFinset
  have htaken : taken.card ≤ ∑ w, (held w).length + idle.card := by
    calc taken.card ≤ idle.card + (Finset.univ.biUnion fun w => (held w).toFinset).card :=
          Finset.card_union_le _ _
      _ ≤ idle.card + ∑ w, (held w).toFinset.card := Nat.add_le_add_left Finset.card_biUnion_le _
      _ ≤ idle.card + ∑ w, (held w).length :=
          Nat.add_le_add_left (Finset.sum_le_sum fun w _ => List.toFinset_card_le _) _
      _ = ∑ w, (held w).length + idle.card := Nat.add_comm _ _
  have hfree : num ≤ (pool \ taken).card := by
    have hsdiff := Finset.le_card_sdiff taken pool
    omega
  obtain ⟨free, hsub, hcard⟩ := Finset.exists_subset_card_eq hfree
  refine ⟨free.toList, by rw [Finset.length_toList, hcard], free.nodup_toList, fun x hx => ?_⟩
  obtain ⟨hpool, hnot⟩ := Finset.mem_sdiff.mp (hsub (Finset.mem_toList.mp hx))
  rw [Finset.mem_union, not_or] at hnot
  refine ⟨hpool, hnot.1, fun w hw => hnot.2 ?_⟩
  exact Finset.mem_biUnion.mpr ⟨w, Finset.mem_univ w, List.mem_toFinset.mpr hw⟩

end Ledger
