import ProcessBus.Parser.Sv.Readers

/-!
# Elements in another place

A stretch of bytes that stands in a second memory too, perhaps some bytes further on. As far as
the stretch reaches, the elements of the one are those of the other.
-/

namespace ProcessBus

/-- The bytes `lo` to `hi` behind `b` stand behind `b'` as well, `d` bytes further on. -/
def Copied (d lo hi : ℕ) (b' b : Ptr) : Prop :=
  ∀ i, lo ≤ i → i < hi → b'.mem (b'.off + (d + i)) = b.mem (b.off + i)

variable {d lo hi lo' hi' p n : ℕ} {b b' : Ptr}

namespace Copied

lemma mono (h : Copied d lo hi b' b) (hlo : lo ≤ lo') (hhi : hi' ≤ hi) : Copied d lo' hi' b' b :=
  fun i hi₁ hi₂ => h i (hlo.trans hi₁) (hi₂.trans_le hhi)

lemma slice_eq (h : Copied d lo hi b' b) (hlo : lo ≤ p) (hhi : p + n ≤ hi) :
    b'.mem.slice (b'.off + (d + p)) n = b.mem.slice (b.off + p) n := by
  refine List.map_congr_left fun i hi => ?_
  have hlt := List.mem_range.mp hi
  rw [Nat.add_assoc, Nat.add_assoc d, Nat.add_assoc b.off]
  exact h (p + i) (by omega) (by omega)

lemma tagAt_eq (h : Copied d lo hi b' b) (hlo : lo ≤ p) (hhi : p < hi) :
    tagAt b' (d + p) = tagAt b p :=
  h p hlo hhi

/-- The first length octet. -/
lemma first_eq (h : Copied d lo hi b' b) (hlo : lo ≤ p) (hhi : p + 1 < hi) :
    b'.mem (b'.off + (d + p + 1)) = b.mem (b.off + (p + 1)) := by
  rw [Nat.add_assoc d]
  exact h (p + 1) (by omega) hhi

lemma headEnd_eq (h : Copied d lo hi b' b) (hlo : lo ≤ p) (hhi : p + 1 < hi) :
    headEnd b' (d + p) = d + headEnd b p := by
  simp only [headEnd, lenSize]
  rw [h.first_eq hlo hhi]
  omega

lemma headLen_eq (h : Copied d lo hi b' b) (hlo : lo ≤ p) (hhi : headEnd b p ≤ hi) :
    headLen b' (d + p) = headLen b p := by
  have hlt := lt_headEnd b p
  simp only [headLen, lenValue]
  rw [h.first_eq hlo (by omega)]
  have hslice := h.slice_eq (p := p + 1 + 1) (n := lenOctets (b.mem (b.off + (p + 1))))
    (by omega) (by simp only [headEnd, lenSize] at hhi; omega)
  rw [show b'.off + (d + p + 1) + 1 = b'.off + (d + (p + 1 + 1)) by omega, hslice,
    Nat.add_assoc b.off]

lemma valueAt_eq (h : Copied d lo hi b' b) (hlo : lo ≤ p)
    (hhi : headEnd b p + headLen b p ≤ hi) : valueAt b' (d + p) = valueAt b p := by
  have hlt := lt_headEnd b p
  rw [valueAt, h.headEnd_eq hlo (by omega), h.headLen_eq hlo (by omega),
    h.slice_eq (by omega) hhi, valueAt]

end Copied

/-! ### In the same place -/

variable {apdu apdu' : Ptr} {stop : ℕ}

/-- The element at `p` has the same tag and length in both. -/
structure SameHead (apdu apdu' : Ptr) (p : ℕ) : Prop where
  tag : tagAt apdu' p = tagAt apdu p
  headEnd : headEnd apdu' p = headEnd apdu p
  headLen : headLen apdu' p = headLen apdu p
  headOk : HeadOk apdu' p ↔ HeadOk apdu p

lemma sameHead_of_copied (h : Copied 0 p (headEnd apdu p) apdu' apdu) : SameHead apdu apdu' p := by
  have hlt := lt_headEnd apdu p
  have htag := h.tagAt_eq le_rfl (by omega)
  have hend := h.headEnd_eq le_rfl hlt
  have hlen := h.headLen_eq le_rfl le_rfl
  have hfirst := h.first_eq le_rfl hlt
  simp only [Nat.zero_add] at htag hend hlen hfirst
  exact ⟨htag, hend, hlen, by rw [HeadOk, HeadOk, hfirst]⟩

namespace SameHead

lemma valueEnd (h : SameHead apdu apdu' p) : valueEnd apdu' p = valueEnd apdu p := by
  rw [ProcessBus.valueEnd, ProcessBus.valueEnd, h.headEnd, h.headLen]

lemma fits_iff (h : SameHead apdu apdu' p) : Fits apdu' stop p ↔ Fits apdu stop p := by
  rw [Fits, Fits, h.headOk, h.valueEnd]

end SameHead

lemma valueAt_of_copied (h : Copied 0 p (valueEnd apdu p) apdu' apdu) :
    valueAt apdu' p = valueAt apdu p := by
  have hval := h.valueAt_eq le_rfl le_rfl
  rwa [Nat.zero_add] at hval

end ProcessBus
