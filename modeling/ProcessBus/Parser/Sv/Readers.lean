import ProcessBus.Parser.Sv.Basic

/-!
# The bounded readers of the Sampled Values walk

One specification for each reader: it succeeds exactly if the element at its cursor has a length
field it knows and ends before the bound. Whatever it finds, it stays before the bound and its
cursor arithmetic does not wrap.
-/

namespace ProcessBus

variable (buffer : Ptr) (stop p : ℕ)

/-- The length of the element at `p` is in short form or has one to four octets. -/
def HeadOk : Prop :=
  buffer.mem (buffer.off + (p + 1)) ≠ 0x80 ∧ lenOctets (buffer.mem (buffer.off + (p + 1))) ≤ 4

/-- Where the element at `p` ends. -/
def valueEnd : ℕ := headEnd buffer p + headLen buffer p

/-- The element at `p` is definite and ends before `stop`. -/
def Fits : Prop := HeadOk buffer p ∧ valueEnd buffer p ≤ stop

instance : Decidable (HeadOk buffer p) := inferInstanceAs (Decidable (_ ∧ _))

instance : Decidable (Fits buffer stop p) := inferInstanceAs (Decidable (_ ∧ _))

lemma headEnd_le_valueEnd : headEnd buffer p ≤ valueEnd buffer p := Nat.le_add_right _ _

lemma headLen_le_valueEnd : headLen buffer p ≤ valueEnd buffer p := Nat.le_add_left _ _

lemma lt_valueEnd : p < valueEnd buffer p := by
  have := lt_headEnd buffer p
  have := headEnd_le_valueEnd buffer p
  omega

/-! ### Lengths -/

/-- The two readers of the long form agree. -/
lemma val_boundedOctets (n length p : ℕ) :
    (boundedOctets buffer n length p).val = (decodeAsn1Octets buffer n length p).val := by
  induction n generalizing length p with
  | zero => rfl
  | succ n ih =>
    simp only [boundedOctets, decodeAsn1Octets, Traced.val_bind, ih]
    rfl

variable {stop p}

lemma lenOctets_eq_zero_iff {b : UInt8} (hb : ¬ b.toNat < 128) : lenOctets b = 0 ↔ b = 0x80 := by
  rw [lenOctets, if_neg hb, ← UInt8.toNat_inj]
  show _ ↔ b.toNat = 128
  omega

lemma headOk_short (hb : (buffer.mem (buffer.off + (p + 1))).toNat < 128) :
    HeadOk buffer p ∧ headEnd buffer p = p + 2 ∧
      headLen buffer p = (buffer.mem (buffer.off + (p + 1))).toNat := by
  have hne : buffer.mem (buffer.off + (p + 1)) ≠ 0x80 := fun h => by
    rw [h] at hb
    exact absurd hb (by decide)
  refine ⟨⟨hne, ?_⟩, ?_, ?_⟩
  · simp [lenOctets, hb]
  · simp [headEnd, lenSize, lenOctets, hb]
  · simp [headLen, lenValue, hb]

/-- Behind a first octet that announces others. -/
lemma headOk_long (hb : ¬ (buffer.mem (buffer.off + (p + 1))).toNat < 128) :
    HeadOk buffer p ↔ lenOctets (buffer.mem (buffer.off + (p + 1))) ≠ 0 ∧
      lenOctets (buffer.mem (buffer.off + (p + 1))) ≤ 4 := by
  rw [HeadOk, ne_eq, ne_eq, lenOctets_eq_zero_iff hb]

/-- `decode_asn1_len_bounded` behind the tag at `p`. -/
lemma val_decodeAsn1LenBounded (hstop : stop < 2 ^ 32) :
    (decodeAsn1LenBounded buffer stop (p + 1)).val =
      if HeadOk buffer p ∧ headEnd buffer p ≤ stop then some (headLen buffer p, headEnd buffer p)
      else none := by
  have hlt := lt_headEnd buffer p
  unfold decodeAsn1LenBounded
  by_cases hpos : p + 1 ≥ stop
  · rw [if_pos hpos, if_neg (fun h => by have := h.2; omega)]
    rfl
  · have hadd : (Cursor.add 32 (p + 1) 1).val = p + 2 := Cursor.val_add (by omega)
    have hsub : (Cursor.sub 32 stop (p + 2)).val = stop - (p + 2) :=
      Cursor.val_sub (by omega)
    rw [if_neg hpos]
    simp only [Traced.val_bind, Ptr.val_get, hadd]
    by_cases hb : (buffer.mem (buffer.off + (p + 1))).toNat < 128
    · obtain ⟨hok, hend, hlen⟩ := headOk_short buffer hb
      rw [if_pos ((and_0x80_eq_zero _).mpr hb), if_pos ⟨hok, by omega⟩, hend, hlen]
      rfl
    · rw [if_neg (mt (and_0x80_eq_zero _).mp hb), and_0x7F_eq_lenOctets hb]
      have hok := headOk_long buffer hb
      have hend : headEnd buffer p =
          p + 2 + lenOctets (buffer.mem (buffer.off + (p + 1))) := by
        simp only [headEnd, lenSize]
        omega
      by_cases hoct : lenOctets (buffer.mem (buffer.off + (p + 1))) = 0 ∨
          lenOctets (buffer.mem (buffer.off + (p + 1))) > 4
      · rw [if_pos hoct, if_neg (fun h => by have := hok.mp h.1; omega)]
        rfl
      · rw [if_neg hoct]
        simp only [Traced.val_bind, hsub]
        by_cases hrest : lenOctets (buffer.mem (buffer.off + (p + 1))) > stop - (p + 2)
        · rw [if_pos hrest, if_neg (fun h => by have := h.2; omega)]
          rfl
        · have hval : (boundedOctets buffer (lenOctets (buffer.mem (buffer.off + (p + 1)))) 0
              (p + 2)).val = (headLen buffer p, headEnd buffer p) := by
            rw [val_boundedOctets, val_decodeAsn1Octets _ _ _ _ (by omega) (by decide), hend,
              headLen, lenValue, if_neg hb, Nat.zero_mul, Nat.zero_add, Nat.add_assoc buffer.off]
          rw [if_neg hrest, if_pos ⟨hok.mpr (by omega), by omega⟩, Traced.val_bind, hval]
          rfl

/-! ### Elements -/

lemma val_takeLength (hstop : stop < 2 ^ 32) :
    (takeLength buffer stop (p + 1)).val =
      if Fits buffer stop p then some (headLen buffer p, headEnd buffer p) else none := by
  have hle := headEnd_le_valueEnd buffer p
  simp only [takeLength, Traced.val_bind, val_decodeAsn1LenBounded buffer hstop]
  by_cases hhead : HeadOk buffer p ∧ headEnd buffer p ≤ stop
  · have hsub : (Cursor.sub 32 stop (headEnd buffer p)).val = stop - headEnd buffer p :=
      Cursor.val_sub hhead.2
    rw [if_pos hhead]
    simp only [Traced.val_bind, hsub]
    by_cases hfits : Fits buffer stop p
    · have := hfits.2
      rw [if_pos hfits, if_neg (by unfold valueEnd at this; omega)]
      rfl
    · rw [if_neg hfits, if_pos]
      · rfl
      · by_contra h
        exact hfits ⟨hhead.1, by unfold valueEnd; omega⟩
  · rw [if_neg hhead, if_neg fun h => hhead ⟨h.1, hle.trans h.2⟩]
    rfl

/-- `take_tlv` succeeds exactly on an element of that tag that fits. -/
theorem val_takeTlv (hstop : stop < 2 ^ 32) (tag : UInt8) :
    (takeTlv buffer stop p tag).val =
      if tagAt buffer p = tag ∧ Fits buffer stop p then
        some (headEnd buffer p, valueEnd buffer p) else none := by
  have hlt := lt_valueEnd buffer p
  unfold takeTlv
  by_cases hpos : p ≥ stop
  · rw [if_pos hpos, if_neg fun h => by have := h.2.2; omega]
    rfl
  · have hadd : (Cursor.add 32 p 1).val = p + 1 := Cursor.val_add (by omega)
    rw [if_neg hpos]
    simp only [Traced.val_bind, hadd, val_tag]
    by_cases htag : tagAt buffer p = tag
    · rw [if_neg (not_not.mpr htag)]
      simp only [Traced.val_bind, val_takeLength buffer hstop, htag, true_and]
      by_cases hfits : Fits buffer stop p
      · have hval : (Cursor.add 32 (headEnd buffer p) (headLen buffer p)).val =
            valueEnd buffer p := Cursor.val_add (by have := hfits.2; unfold valueEnd at this; omega)
        rw [if_pos hfits, if_pos hfits]
        simp only [Traced.val_bind, hval, Traced.val_pure]
      · rw [if_neg hfits, if_neg hfits]
        rfl
    · rw [if_pos htag, if_neg fun h => htag h.1]
      rfl

/-! ### Safety -/

section Safe

variable {n : ℕ}

lemma all_boundedOctets {k length pos : ℕ} (hpos : buffer.off + pos + k ≤ n)
    (hlt : pos + k < 2 ^ 32) : (boundedOctets buffer k length pos).All (Event.Safe n) := by
  induction k generalizing length pos with
  | zero => exact Traced.all_pure _
  | succ k ih =>
    have hadd : (Cursor.add 32 pos 1).val = pos + 1 := Cursor.val_add (by omega)
    simp only [boundedOctets, Traced.all_bind, Ptr.all_get, Cursor.all_add, hadd]
    exact ⟨show _ < n by omega, show pos + 1 < 2 ^ 32 by omega, ih (by omega) (by omega)⟩

/-- Whatever it finds, the length reader stays before `stop`. -/
lemma all_decodeAsn1LenBounded {pos : ℕ} (hn : buffer.off + stop ≤ n) (hstop : stop < 2 ^ 32) :
    (decodeAsn1LenBounded buffer stop pos).All (Event.Safe n) := by
  unfold decodeAsn1LenBounded
  by_cases hpos : pos ≥ stop
  · rw [if_pos hpos]
    exact Traced.all_pure _
  · have hadd : (Cursor.add 32 pos 1).val = pos + 1 := Cursor.val_add (by omega)
    have hsub : (Cursor.sub 32 stop (pos + 1)).val = stop - (pos + 1) :=
      Cursor.val_sub (by omega)
    rw [if_neg hpos]
    simp only [Traced.all_bind, Ptr.all_get, Cursor.all_add, hadd, Traced.all_ite, Cursor.all_sub,
      hsub, Traced.all_pure, implies_true, true_and, and_true]
    refine ⟨show _ < n by omega, show pos + 1 < 2 ^ 32 by omega, fun _ _ =>
      ⟨show pos + 1 ≤ stop by omega, fun hrest => ?_⟩⟩
    exact all_boundedOctets buffer (by omega) (by omega)

lemma all_takeLength (hn : buffer.off + stop ≤ n) (hstop : stop < 2 ^ 32) :
    (takeLength buffer stop (p + 1)).All (Event.Safe n) := by
  simp only [takeLength, Traced.all_bind, val_decodeAsn1LenBounded buffer hstop]
  refine ⟨all_decodeAsn1LenBounded buffer hn hstop, ?_⟩
  split_ifs with hhead
  · simp only [Traced.all_bind, Cursor.all_sub, Traced.all_ite, Traced.all_pure, implies_true,
      and_true]
    exact hhead.2
  · exact Traced.all_pure _

theorem all_takeTlv (hn : buffer.off + stop ≤ n) (hstop : stop < 2 ^ 32) (tag : UInt8) :
    (takeTlv buffer stop p tag).All (Event.Safe n) := by
  unfold takeTlv
  by_cases hpos : p ≥ stop
  · rw [if_pos hpos]
    exact Traced.all_pure _
  · have hadd : (Cursor.add 32 p 1).val = p + 1 := Cursor.val_add (by omega)
    rw [if_neg hpos]
    simp only [Traced.all_bind, Ptr.all_get, Cursor.all_add, hadd]
    refine ⟨show _ < n by omega, show p + 1 < 2 ^ 32 by omega, ?_⟩
    split_ifs with htag
    · exact Traced.all_pure _
    · simp only [Traced.all_bind, val_takeLength buffer hstop]
      refine ⟨all_takeLength buffer hn hstop, ?_⟩
      split_ifs with hfits
      · simp only [Traced.all_bind, Cursor.all_add, Traced.all_pure, and_true]
        exact lt_of_le_of_lt hfits.2 hstop
      · exact Traced.all_pure _

end Safe

end ProcessBus
