import ProcessBus.Lib.Patch

/-!
# Segments

A layout as a list of segments one behind the other. To store a segment of the same length in place
of another replaces it in the list and moves nothing.
-/

namespace Mem

/-- Where a segment starts. -/
def segAt (segs : List (List UInt8)) (i : ℕ) : ℕ := (segs.take i).flatten.length

variable {m : Mem} {segs : List (List UInt8)} {a b i : ℕ} {cs : List UInt8}

lemma segAt_succ (hi : i < segs.length) : segAt segs (i + 1) = segAt segs i + segs[i].length := by
  rw [segAt, List.take_succ_eq_append_getElem hi, List.flatten_append, List.length_append,
    List.flatten_singleton, segAt]

lemma segAt_set (hlen : (segs.getD i []).length = cs.length) (j : ℕ) :
    segAt (segs.set i cs) j = segAt segs j := by
  induction segs generalizing i j with
  | nil => rfl
  | cons s segs ih =>
    cases j with
    | zero => rfl
    | succ j =>
      cases i with
      | zero =>
        have hlen : s.length = cs.length := hlen
        simp [segAt, hlen]
      | succ i =>
        have := ih (i := i) hlen j
        simp only [segAt] at this
        simp [segAt, this]

/-- Store a segment in place of another. -/
lemma Holds.write_seg (h : m.Holds a segs.flatten) (hi : i < segs.length)
    (hlen : (segs.getD i []).length = cs.length) (hb : b = a + segAt segs i) :
    (m.write b cs).Holds a (segs.set i cs).flatten := by
  have hget : segs.getD i [] = segs[i] := by simp [hi]
  rw [hget] at hlen
  have hsplit : segs.flatten =
      (segs.take i).flatten ++ (segs[i] ++ (segs.drop (i + 1)).flatten) := by
    rw [← List.flatten_cons, ← List.flatten_append, ← List.drop_eq_getElem_cons hi,
      List.take_append_drop]
  rw [hsplit] at h
  have hset : (segs.set i cs).flatten =
      (segs.take i).flatten ++ (cs ++ (segs.drop (i + 1)).flatten) := by
    rw [List.set_eq_take_append_cons_drop, if_pos hi, List.flatten_append, List.flatten_cons]
  rw [hset]
  exact h.write_mid hb hlen.symm

/-- Store several. -/
lemma Holds.patch_segs (ps : List (ℕ × List UInt8)) (h : m.Holds a segs.flatten)
    (hps : ∀ p ∈ ps, p.1 < segs.length ∧ (segs.getD p.1 []).length = p.2.length) :
    (m.patch (ps.map fun p => (a + segAt segs p.1, p.2))).Holds a
      (ps.foldl (fun segs p => segs.set p.1 p.2) segs).flatten := by
  induction ps generalizing m segs with
  | nil => exact h
  | cons p ps ih =>
    rw [List.forall_mem_cons] at hps
    obtain ⟨⟨hlt, hlen⟩, hps⟩ := hps
    have hstep := ih (h.write_seg hlt hlen rfl) fun q hq => ?_
    · simp only [segAt_set hlen] at hstep
      exact hstep
    · obtain ⟨hq, hqlen⟩ := hps q hq
      refine ⟨by rwa [List.length_set], ?_⟩
      rw [← hqlen, List.getD_eq_getElem?_getD, List.getD_eq_getElem?_getD, List.getElem?_set]
      by_cases heq : p.1 = q.1
      · rw [if_pos heq, if_pos hlt, ← List.getD_eq_getElem?_getD, ← heq, hlen]
        rfl
      · rw [if_neg heq]

end Mem
