import ProcessBus.Generator.Streams

/-!
# The counters of a stream

A call makes an IED count one frame, or the samples in it. A stream starts with zeros and only its
own calls count, so a frame tells its place in the stream, up to the turn of the counter.
-/

namespace ProcessBus

section Iterate

variable {ι β : Type} {next : ι → ι}

/-- A counter that each call moves on by one. -/
lemma counter_iterate {count : ι → UInt32} (h : ∀ ied, count (next ied) = count ied + 1) (ied : ι)
    (k : ℕ) : count (next^[k] ied) = count ied + UInt32.ofNat k := by
  induction k with
  | zero => exact (UInt32.add_zero _).symm
  | succ k ih =>
    rw [Function.iterate_succ_apply', h, ih, UInt32.ofNat_add, UInt32.add_assoc]
    rfl

/-- What no call changes. -/
lemma kept_iterate {value : ι → β} (h : ∀ ied, value (next ied) = value ied) (ied : ι) (k : ℕ) :
    value (next^[k] ied) = value ied := by
  induction k with
  | zero => rfl
  | succ k ih => rw [Function.iterate_succ_apply', h, ih]

end Iterate

/-! ### Samples -/

namespace SVSourceIED

variable {freq num : ℕ}

/-- The sample counter counts modulo the samples of a second. -/
lemma smpCnt_advance {ied : SVSourceIED} (hfreq : freq ≤ 2 ^ 16) (h : ied.smpCnt.toNat < freq) :
    (ied.advance freq).smpCnt.toNat = (ied.smpCnt.toNat + 1) % freq := by
  rw [advance]
  dsimp only
  split_ifs with hlt
  · rw [UInt16.toNat_add, Nat.mod_eq_of_lt hlt]
    exact Nat.mod_eq_of_lt (hlt.trans_le hfreq)
  · rw [show ied.smpCnt.toNat + 1 = freq by omega, Nat.mod_self]
    rfl

lemma smpCnt_iterate {ied : SVSourceIED} (hfreq : freq ≤ 2 ^ 16) (h : ied.smpCnt.toNat < freq)
    (k : ℕ) : ((advance freq)^[k] ied).smpCnt.toNat = (ied.smpCnt.toNat + k) % freq := by
  induction k with
  | zero => exact (Nat.mod_eq_of_lt h).symm
  | succ k ih =>
    have hlt : ((advance freq)^[k] ied).smpCnt.toNat < freq := by
      rw [ih]
      exact Nat.mod_lt _ (Nat.zero_lt_of_lt h)
    rw [Function.iterate_succ_apply', smpCnt_advance hfreq hlt, ih, Nat.mod_add_mod, Nat.add_assoc]

/-- Behind `k` frames. -/
lemma smpCnt_behind_iterate {ied : SVSourceIED} (hfreq : freq ≤ 2 ^ 16)
    (h : ied.smpCnt.toNat < freq) (k : ℕ) :
    ((·.behind freq num)^[k] ied).smpCnt.toNat = (ied.smpCnt.toNat + num * k) % freq := by
  show (((advance freq)^[num])^[k] ied).smpCnt.toNat = _
  rw [← Function.iterate_mul, smpCnt_iterate hfreq h]

lemma spduNumber_behind (ied : SVSourceIED) :
    (ied.behind freq num).spduNumber = ied.spduNumber := by
  have hkept : ∀ ied : SVSourceIED, (ied.advance freq).spduNumber = ied.spduNumber := fun _ => rfl
  exact kept_iterate hkept ied num

lemma sID_behind (ied : SVSourceIED) : (ied.behind freq num).sID = ied.sID := by
  have hkept : ∀ ied : SVSourceIED, (ied.advance freq).sID = ied.sID := fun _ => rfl
  exact kept_iterate hkept ied num

end SVSourceIED

/-! ### Frames -/

namespace RGooseTrafficGen

variable {gen : RGooseTrafficGen} {ied : GooseSourceIED}

lemma spduNumber_behind (ied : GooseSourceIED) :
    (gen.behind ied).spduNumber = ied.spduNumber + 1 := rfl

lemma stNum_behind (ied : GooseSourceIED) : (gen.behind ied).stNum = ied.stNum + 1 := rfl

lemma sID_behind (ied : GooseSourceIED) : (gen.behind ied).sID = ied.sID := rfl

variable (gen) in
/-- The SPDU number of the frame number `k`. -/
lemma spduNumber_iterate (h : ied.spduNumber = 0) (k : ℕ) :
    (gen.behind (gen.behind^[k] ied)).spduNumber = UInt32.ofNat (k + 1) := by
  rw [← Function.iterate_succ_apply' gen.behind, counter_iterate spduNumber_behind, h]
  exact UInt32.zero_add _

end RGooseTrafficGen

namespace RSVTrafficGen

variable {gen : RSVTrafficGen} {num : ℕ} {ied : SVSourceIED}

lemma spduNumber_behind (ied : SVSourceIED) :
    (gen.behind num ied).spduNumber = ied.spduNumber + 1 :=
  SVSourceIED.spduNumber_behind _

lemma sID_behind (ied : SVSourceIED) : (gen.behind num ied).sID = ied.sID :=
  SVSourceIED.sID_behind _

lemma smpCnt_behind {ied : SVSourceIED} (hfreq : gen.m_freq ≤ 2 ^ 16)
    (h : ied.smpCnt.toNat < gen.m_freq) :
    (gen.behind num ied).smpCnt.toNat = (ied.smpCnt.toNat + num) % gen.m_freq :=
  @SVSourceIED.smpCnt_iterate gen.m_freq { ied with spduNumber := ied.spduNumber + 1 } hfreq h num

/-- The sample counter of the frame number `k`. -/
lemma smpCnt_iterate (hfreq : gen.m_freq ≤ 2 ^ 16) (h : ied.smpCnt.toNat < gen.m_freq) (k : ℕ) :
    ((gen.behind num)^[k] ied).smpCnt.toNat = (ied.smpCnt.toNat + num * k) % gen.m_freq := by
  induction k with
  | zero => exact (Nat.mod_eq_of_lt h).symm
  | succ k ih =>
    have hlt : ((gen.behind num)^[k] ied).smpCnt.toNat < gen.m_freq := by
      rw [ih]
      exact Nat.mod_lt _ (Nat.zero_lt_of_lt h)
    rw [Function.iterate_succ_apply', smpCnt_behind hfreq hlt, ih, Nat.mod_add_mod, Nat.add_assoc,
      Nat.mul_succ]

variable (gen) in
/-- The SPDU number of the frame number `k`. -/
lemma spduNumber_iterate (h : ied.spduNumber = 0) (k : ℕ) :
    ((gen.behind num)^[k] ied).spduNumber + 1 = UInt32.ofNat (k + 1) := by
  rw [← spduNumber_behind, ← Function.iterate_succ_apply' (gen.behind num),
    counter_iterate spduNumber_behind, h]
  exact UInt32.zero_add _

end RSVTrafficGen

end ProcessBus
