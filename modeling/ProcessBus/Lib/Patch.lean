import ProcessBus.Lib.Memory

/-!
# Patching memory

A program that reuses a buffer stores some fields at fixed places and relies on the rest. What it
leaves behind depends on the stored bytes and, outside of the places, on what was there before.
Two memories that agree on the rest are therefore equal where the fields or the rest are.
-/

namespace Mem

/-- A place and the bytes to store there. -/
abbrev Patch := ℕ × List UInt8

/-- Store all of them, in order. -/
def patch (m : Mem) (ps : List Patch) : Mem := ps.foldl (fun m p => m.write p.1 p.2) m

/-- One of the patches stores a byte at `i`. -/
def Covers (ps : List Patch) (i : ℕ) : Prop := ∃ p ∈ ps, p.1 ≤ i ∧ i < p.1 + p.2.length

variable {m m' : Mem} {p : Patch} {ps qs : List Patch} {a i : ℕ} {bs : List UInt8}

@[simp] lemma patch_nil : m.patch [] = m := rfl

@[simp] lemma patch_cons : m.patch (p :: ps) = (m.write p.1 p.2).patch ps := rfl

lemma patch_append : m.patch (ps ++ qs) = (m.patch ps).patch qs := List.foldl_append

lemma covers_cons : Covers (p :: ps) i ↔ (p.1 ≤ i ∧ i < p.1 + p.2.length) ∨ Covers ps i := by
  simp [Covers]

/-- What is covered depends on the places and the lengths only. -/
lemma Covers.congr (h : Covers ps i)
    (hshape : ps.map (fun p => (p.1, p.2.length)) = qs.map fun p => (p.1, p.2.length)) :
    Covers qs i := by
  obtain ⟨p, hp, hle, hlt⟩ := h
  have hmem : (p.1, p.2.length) ∈ qs.map fun p => (p.1, p.2.length) :=
    hshape ▸ List.mem_map_of_mem hp
  obtain ⟨q, hq, heq⟩ := List.mem_map.mp hmem
  obtain ⟨hplace, hlen⟩ := Prod.mk.inj heq
  exact ⟨q, hq, by rw [hplace]; exact hle, by rw [hplace, hlen]; exact hlt⟩

lemma write_of_not_mem (h : ¬(a ≤ i ∧ i < a + bs.length)) : m.write a bs i = m i := if_neg h

/-- A copy to the start of a memory. -/
lemma write_zero_slice {n : ℕ} (h : i < n) : m'.write 0 (m.slice a n) i = m (a + i) := by
  have hmem := m'.holds_write 0 (m.slice a n) i (by rw [length_slice]; exact h)
  rw [getElem_slice, Nat.zero_add] at hmem
  exact hmem

/-- A write makes two memories agree where it stores. -/
lemma write_eq (h : ¬(a ≤ i ∧ i < a + bs.length) → m i = m' i) :
    m.write a bs i = m'.write a bs i := by
  by_cases hi : a ≤ i ∧ i < a + bs.length
  · simp only [write, if_pos hi]
  · rw [write_of_not_mem hi, write_of_not_mem hi]
    exact h hi

/-- And so do patches. -/
lemma patch_eq (h : ¬ Covers ps i → m i = m' i) : m.patch ps i = m'.patch ps i := by
  induction ps generalizing m m' with
  | nil => exact h fun ⟨_, hmem, _⟩ => absurd hmem List.not_mem_nil
  | cons p ps ih =>
    refine ih fun hps => write_eq fun hp => h fun hcovers => ?_
    exact (covers_cons.mp hcovers).elim hp hps

/-- Everything else stays. -/
lemma patch_of_not_covers (h : ¬ Covers ps i) : m.patch ps i = m i := by
  induction ps generalizing m with
  | nil => rfl
  | cons p ps ih =>
    rw [covers_cons, not_or] at h
    rw [patch_cons, ih h.2, write_of_not_mem h.1]

lemma Holds.patch (h : m.Holds a bs)
    (hdisj : ∀ p ∈ ps, a + bs.length ≤ p.1 ∨ p.1 + p.2.length ≤ a) : (m.patch ps).Holds a bs := by
  induction ps generalizing m with
  | nil => exact h
  | cons p ps ih =>
    rw [List.forall_mem_cons] at hdisj
    exact ih (h.write hdisj.1) hdisj.2

/-- Patches at places that do not overlap are all there behind the last one. -/
lemma holds_patch_of_mem
    (hdisj : ps.Pairwise fun p q => p.1 + p.2.length ≤ q.1 ∨ q.1 + q.2.length ≤ p.1)
    (hp : p ∈ ps) : (m.patch ps).Holds p.1 p.2 := by
  induction ps generalizing m with
  | nil => exact absurd hp List.not_mem_nil
  | cons q ps ih =>
    rw [List.pairwise_cons] at hdisj
    rcases List.mem_cons.mp hp with rfl | hp
    · exact (holds_write m p.1 p.2).patch hdisj.1
    · exact ih hdisj.2 hp

end Mem
