import ProcessBus.Processor.Delivery
import ProcessBus.Processor.Gaps

/-!
# Lost frames

What a source counts when frames of its stream are lost. The GOOSE counter counts the losses, each
however long it is. The SV counter does not count a loss if the frame behind it is the first one of
a second, since a sample counter of zero is always taken for the roll-over.
-/

namespace ProcessBus

open RSess RFrame Relation

/-! ### Runs of any length -/

section Again

variable {σ ι ω : Type} [DecidableEq ω] (kind : GenKind σ ι) (gens : ω → σ) (buffers : ℕ → Mem)
  (w : ω) (idx : UInt32)

/-- A stream that is called `n` times, each time with the same buffer. -/
def GenKind.callAgain : ℕ → Pool.State ω UInt32 σ
  | 0 => { writers := gens, buffers := buffers }
  | n + 1 =>
    let s := callAgain n
    let r := kind.amend (s.writers w) (s.buffers 0) idx
    { writers := Function.update s.writers w r.1
      buffers := Function.update s.buffers 0 r.2
      sent := s.sent ++ [((w, idx), r.2)] }

variable {kind gens buffers w idx}

lemma GenKind.run_callAgain (hbuffers : kind.Unused gens buffers)
    (hidx : idx.toNat < (kind.ieds (gens w)).length) (n : ℕ) :
    kind.Run gens (kind.callAgain gens buffers w idx n) := by
  refine ⟨buffers, hbuffers, ?_⟩
  induction n with
  | zero => exact .refl
  | succ n ih => exact ih.tail (.call _ w idx 0 hidx)

lemma GenKind.length_callAgain (n : ℕ) :
    ((kind.callAgain gens buffers w idx n).frames w idx).length = n := by
  induction n with
  | zero => rfl
  | succ n ih => rw [callAgain, Pool.frames_append_self, List.length_append, ih]; rfl

end Again

/-- The frames that are not lost, as they were sent. -/
def receivedOf (frames : List Mem) (size : ℕ) (mask : List Bool) : List RxFrame :=
  (Losses.arriving 0 mask).map fun j => received (frames.getD j fun _ => 0) size

lemma survive_receivedOf {frames : List Mem} {size : ℕ} {mask : List Bool}
    (hlen : mask.length ≤ frames.length) (hsize : size ≤ 1518) :
    Survive frames size mask (receivedOf frames size mask) := by
  have harriving : ∀ j ∈ Losses.arriving 0 mask, j < 0 + mask.length := fun j =>
    Losses.lt_of_mem_arriving
  refine List.forall₂_map_right_iff.mpr (List.forall₂_same.mpr fun j hj => ?_)
  have hlt : j < frames.length := by
    have := harriving j hj
    omega
  refine ⟨frames[j], List.getElem?_eq_getElem hlt, ?_⟩
  rw [List.getD_eq_getElem?_getD, List.getElem?_eq_getElem hlt]
  exact ⟨(arrives_received _ hsize).reaches, pktLen_received _ hsize⟩

/-! ### GOOSE -/

section Goose

/-- A state number that comes later does not go with the last one if it is less than a whole turn
ahead. -/
lemma stGap_iff {i lost : ℕ} (hle : lost ≤ i) (hlt : lost < 2 ^ 32 - 1) :
    StGap (UInt32.ofNat (i - lost)) (UInt32.ofNat (i + 1)) ↔ lost ≠ 0 := by
  obtain ⟨a, rfl⟩ := Nat.exists_eq_add_of_le hle
  have hshift : ∀ {a d : ℕ}, d < 2 ^ 32 → (UInt32.ofNat (a + d) = UInt32.ofNat a ↔ d = 0) :=
    fun {a d} hd => by
      rw [← UInt32.toNat_inj, UInt32.toNat_ofNat', UInt32.toNat_ofNat']
      omega
  have hrepeated : UInt32.ofNat a ≠ UInt32.ofNat (lost + a + 1) := fun h => by
    rw [show lost + a + 1 = a + (lost + 1) by omega] at h
    exact Nat.succ_ne_zero _ ((hshift (by omega)).mp h.symm)
  have hnext : UInt32.ofNat (lost + a + 1) = UInt32.ofNat a + 1 ↔ lost = 0 := by
    have hsucc : UInt32.ofNat a + 1 = UInt32.ofNat (a + 1) := (UInt32.ofNat_add a 1).symm
    rw [show lost + a + 1 = a + 1 + lost by omega, hsucc]
    exact hshift (by omega)
  rw [Nat.add_sub_cancel_left, StGap, ne_eq _ (UInt32.ofNat a + 1), hnext]
  exact and_iff_right hrepeated

/-- The errors of a stream whose frames have the state numbers 1, 2, 3, ... -/
lemma errors_stNum {mask : List Bool} (h : ∀ r ∈ Losses.runs mask, r.2 < 2 ^ 32 - 1) :
    Losses.errors StGap (UInt32.ofNat 0)
      ((Losses.arriving 0 mask).map fun j => UInt32.ofNat (j + 1)) = (Losses.runs mask).length := by
  rw [Losses.errors_eq_countP_runs UInt32.ofNat (fun _ => True) fun g hg => ?_]
  · exact List.countP_eq_length.mpr fun r _ => decide_eq_true trivial
  · have hlt : g.2 < 2 ^ 32 - 1 := by
      by_cases hzero : g.2 = 0
      · omega
      · exact h g (Losses.mem_runs.mpr ⟨hg, hzero⟩)
    rw [stGap_iff (Losses.lost_le le_rfl g hg) hlt, true_and]

/-- The sequence errors of a source are the losses in its stream, up to the turn of the counter. -/
def CountsLosses {σ ι ω : Type} [DecidableEq ω] (kind : GenKind σ ι) (gens : ω → σ)
    (num : ω → UInt32) (crypto : Crypto) (mode : SecurityMode) : Prop :=
  ∀ s, kind.Run gens s → ∀ (w : ω) (idx : UInt32), idx < num w →
    ∀ (mask : List Bool) (got : List RxFrame),
      Survive (s.frames w idx) (kind.size (gens w)) mask got →
      (∀ r ∈ Losses.runs mask, r.2 < 2 ^ 32 - 1) →
      ∀ src : GooseSource, ∃ f, ∀ fuel, f ≤ fuel →
        (got.foldl (deliver (gooseHit fuel crypto mode)) src.fresh).getErrSeqNum =
          UInt32.ofNat (Losses.runs mask).length

lemma Numbered.countsLosses {σ ι ω : Type} [DecidableEq ω] {kind : GenKind σ ι} {gens : ω → σ}
    {num : ω → UInt32} {crypto : Crypto} {mode : SecurityMode} {spduNumber : ℕ → Option UInt32}
    (hnum : Numbered kind gens num (fun fuel => gooseHit fuel crypto mode) GooseSource.counts StGap
      spduNumber UInt32.ofNat) : CountsLosses kind gens num crypto mode := by
  intro s hrun w idx hidx mask got h hruns src
  obtain ⟨f, hf⟩ := hnum.counts_of_survive hrun hidx h src.fresh rfl
  refine ⟨f, fun fuel hfuel => ?_⟩
  rw [← errors_stNum hruns]
  exact (hf fuel hfuel).1

/-- Whatever is lost of a stream with the state numbers 1, 2, 3, ..., each maximal run of lost
frames in front of one that arrives counts once, also the one in front of the first frame that
arrives. Behind 2^32 - 1 lost frames the state number is the same again. -/
theorem errSeqNum_eq_length_runs {crypto : Crypto} (hlaw : crypto.Lawful) (dstIP : UInt32)
    (mode : SecurityMode) {ω : Type} [DecidableEq ω] (num base : ω → UInt32) :
    (∀ mask : List Bool, (∀ r ∈ Losses.runs mask, r.2 < 2 ^ 32 - 1) →
      ∀ (src : GooseSource) (pass : GoosePassport) (states : List GooseState),
        states.map GooseState.stNum =
          (Losses.arriving 0 mask).map (fun j => UInt32.ofNat (j + 1)) →
        (states.foldl (·.processState pass) src.fresh).getErrSeqNum =
          UInt32.ofNat (Losses.runs mask).length) ∧
    ∀ (msg : GooseMessage) (k : GooseLayout) (v : GooseValues), k.Describes v msg →
      (msg.size = (k.head.bytes 0xB8 ++ k.pdu v).length →
        CountsLosses GenKind.goose (fun w => .make msg (num w)) num crypto mode) ∧
      ∀ gens, (∀ w, RGooseTrafficGen.make msg { dstIP := dstIP, mode := mode } crypto (num w)
          (base w) = some (gens w)) →
        CountsLosses (GenKind.rgoose mode) gens num crypto mode := by
  refine ⟨fun mask hruns src pass states hstates => ?_, fun msg k v hk => ⟨fun hsize => ?_,
    fun gens hmake => ?_⟩⟩
  · have hfold : ∀ (states : List GooseState) (src : GooseSource),
        (states.foldl (·.processState pass) src).counts.1 =
          (states.map GooseState.stNum).foldl (Losses.track StGap) src.counts.1 := by
      intro states
      induction states with
      | nil => exact fun _ => rfl
      | cons state states ih =>
        intro src
        rw [List.foldl_cons, ih, GooseSource.counts_processState]
        rfl
    show (states.foldl (·.processState pass) src.fresh).counts.1.2 = _
    rw [hfold, hstates]
    refine (Losses.foldl_track StGap _ 0 0).trans ?_
    rw [UInt32.zero_add]
    exact congrArg UInt32.ofNat (errors_stNum hruns)
  · exact (numbered_goose hk hsize).countsLosses
  · exact (numbered_rgoose { dstIP := dstIP, mode := mode } hlaw hk rfl hmake).countsLosses

/-- A publisher and a stream of each kind, of which the second frame is lost. -/
theorem errSeqNum_eq_length_runs_sample :
    let l2 := GenKind.goose.callAgain (fun _ : Bool => .make sampleGooseMessage 1)
      (fun _ => (GooseTrafficGen.make sampleGooseMessage 1).m_skeleton) true 0 3
    let routable := (GenKind.rgoose .SEC_GCM).callAgain sampleGooseGen
      (fun _ => (sampleGooseGen false).m_skeleton) true 0 3
    ([({ stNum := 1 } : GooseState), { stNum := 3 }].foldl (·.processState {})
      (GooseSource.fresh {})).getErrSeqNum = 1 ∧
    (∃ f, ∀ fuel, f ≤ fuel → ((receivedOf (l2.frames true 0) 152 [true, false, true]).foldl
      (deliver (gooseHit fuel sampleRunCrypto .SEC_GCM)) (GooseSource.fresh {})).getErrSeqNum =
        1) ∧
    ∃ f, ∀ fuel, f ≤ fuel → ((receivedOf (routable.frames true 0)
      (sampleGooseGen true).m_skeletonSize [true, false, true]).foldl
        (deliver (gooseHit fuel sampleRunCrypto .SEC_GCM)) (GooseSource.fresh {})).getErrSeqNum =
        1 := by
  intro l2 routable
  obtain ⟨hstates, hframes⟩ := errSeqNum_eq_length_runs lawful_sampleRunCrypto R_DEFAULT_DST_IP
    .SEC_GCM (fun _ : Bool => 1) fun w => if w then 1 else 0
  obtain ⟨hl2, hroutable⟩ := hframes sampleGooseMessage sampleGooseLayout sampleGooseValues
    describes_sampleGooseMessage
  have hmake : ∀ w : Bool, RGooseTrafficGen.make sampleGooseMessage sampleRunConfig sampleRunCrypto
      1 (if w then 1 else 0) = some (sampleGooseGen w) := fun _ => (Option.some_get _).symm
  have hruns : ∀ r ∈ Losses.runs [true, false, true], r.2 < 2 ^ 32 - 1 := by decide
  have hlen : GenKind.goose.ieds (GooseTrafficGen.make sampleGooseMessage 1) =
      [.init 1] := rfl
  refine ⟨hstates [true, false, true] hruns {} {} _ rfl, ?_, ?_⟩
  · have hrun : GenKind.goose.Run (fun _ : Bool => .make sampleGooseMessage 1) l2 :=
      GenKind.run_callAgain (fun _ _ => rfl) (by rw [hlen]; decide) 3
    have hframes : (l2.frames true 0).length = 3 := GenKind.length_callAgain 3
    exact hl2 (by decide +kernel) l2 hrun true 0 (by decide) [true, false, true] _
      (survive_receivedOf hframes.ge (by decide)) hruns {}
  · have hunused : (GenKind.rgoose .SEC_GCM).Unused sampleGooseGen
        fun _ => (sampleGooseGen false).m_skeleton := fun w b => by
      show Mem.slice _ _ _ = Mem.slice (sampleGooseGen w).m_skeleton _ _
      rw [skeleton_sampleGooseGen w]
    have hrun : (GenKind.rgoose .SEC_GCM).Run sampleGooseGen routable :=
      GenKind.run_callAgain hunused (by rw [length_sampleGooseGen]; decide) 3
    have hframes : (routable.frames true 0).length = 3 := GenKind.length_callAgain 3
    have hsize := (RGooseTrafficGen.size_of_make describes_sampleGooseMessage (hmake true)).2
    exact hroutable sampleGooseGen hmake routable hrun true 0 (by decide) [true, false, true] _
      (survive_receivedOf hframes.ge hsize) hruns {}

end Goose

/-! ### Sampled Values -/

section SampledValues

/-- The losses that are noticed: the frame behind the lost ones is not the first one of a second,
and it is not the very first frame alone that is lost. A loss is the number of the frame behind it
and how many were lost. -/
def SvType.Notices (type : SvType) (r : ℕ × ℕ) : Prop :=
  type.asduNum * r.1 % type.freq ≠ 0 ∧ r ≠ (1, 1)

instance (type : SvType) : DecidablePred type.Notices := fun r =>
  inferInstanceAs (Decidable (type.asduNum * r.1 % type.freq ≠ 0 ∧ r ≠ (1, 1)))

variable {type : SvType} {mask : List Bool}

/-- The errors of a stream of which less than a second is lost at a time. -/
lemma errors_smpCnt (h : ∀ r ∈ Losses.runs mask, r.2 < type.framesPerSecond) :
    Losses.errors (SmpGap (UInt32.ofNat type.asduNum)) (smpValue type 0)
      ((Losses.arriving 0 mask).map fun j => smpValue type (j + 1)) =
      (Losses.runs mask).countP (type.Notices ·) := by
  refine Losses.errors_eq_countP_runs (smpValue type) type.Notices fun g hg => ?_
  have hlt : g.2 < type.framesPerSecond := by
    by_cases hzero : g.2 = 0
    · rw [hzero]
      cases type <;> decide
    · exact h g (Losses.mem_runs.mpr ⟨hg, hzero⟩)
  exact smpGap_iff (Losses.lost_le le_rfl g hg) hlt

variable {msg : SvMessage} {k : SvLayout} {sID : List UInt8} {cnt : ℕ → List UInt8} {ω : Type}
  [DecidableEq ω] {num : ω → UInt32} {s : Pool.State ω UInt32 SVTrafficGen}

/-- What a source has counted. -/
lemma errSeqNum_of_lost (crypto : Crypto) (mode : SecurityMode) (hk : k.Describes sID cnt msg)
    (hsID : sID.length = 4) (hcnt : ∀ i, (cnt i).length = 2)
    (hasdus : k.asdus.length = type.asduNum)
    (hrun : (GenKind.sv type).Run (fun w => .make msg (num w) type) s) {w : ω} {idx : UInt32}
    (hidx : idx < num w) {got : List RxFrame} (h : Survive (s.frames w idx) msg.size mask got)
    (hruns : ∀ r ∈ Losses.runs mask, r.2 < type.framesPerSecond) (src : SVStreamSource) :
    ∃ f, ∀ fuel, f ≤ fuel →
      (got.foldl (deliver (svHit fuel crypto mode)) src.fresh).getErrSeqNum =
        UInt32.ofNat ((Losses.runs mask).countP (type.Notices ·)) := by
  have hnum := @numbered_sv ω _ num crypto mode type msg k sID cnt hk hsID hcnt hasdus
  obtain ⟨f, hf⟩ := hnum.counts_of_survive hrun hidx h src.fresh rfl
  refine ⟨f, fun fuel hfuel => ?_⟩
  rw [← errors_smpCnt hruns]
  exact (hf fuel hfuel).1

/-- `CountGaps` reports every SV stream with sequence errors. -/
lemma countGaps_ne_zero {app : RxApplication} (h : app.Configured) {src : SVStreamSource}
    (hsrc : src ∈ app.svStreams) (hpos : 0 < src.getErrSeqNum) : app.countGaps.2 ≠ 0 := by
  have hlen := h.svMap.length_le
  have hle : app.svStreams.length ≤ _ := List.length_filterMap_le _ _
  have hsum := toNat_foldl_counts SVStreamSource.getErrSeqNum SVStreamSource.getErrSpduNum
    app.svStreams 0 (by simp; omega)
  have hmem := List.single_le_sum (fun _ _ => Nat.zero_le _) _ (List.mem_map_of_mem
    (f := fun src : SVStreamSource => max src.getErrSeqNum.toNat src.getErrSpduNum.toNat) hsrc)
  have hposNat : 0 < src.getErrSeqNum.toNat := UInt32.lt_iff_toNat_lt.mp hpos
  intro hzero
  rw [show (app.svStreams.foldl (fun sum src =>
    sum + (max src.getErrSeqNum src.getErrSpduNum).toUInt64) 0) = 0 from hzero] at hsum
  have hzeroNat : (0 : UInt64).toNat = 0 := rfl
  omega

/-- The sequence errors of a source after any losses of less than a second each: they are positive
exactly if the number of losses that are noticed is not a multiple of 2^32, and if they are then
`CountGaps` reports the stream. -/
theorem errSeqNum_pos_iff (crypto : Crypto) (mode : SecurityMode) (hk : k.Describes sID cnt msg)
    (hsID : sID.length = 4) (hcnt : ∀ i, (cnt i).length = 2)
    (hasdus : k.asdus.length = type.asduNum)
    (hrun : (GenKind.sv type).Run (fun w => .make msg (num w) type) s) (w : ω) (idx : UInt32)
    (hidx : idx < num w) (mask : List Bool) (got : List RxFrame)
    (h : Survive (s.frames w idx) msg.size mask got)
    (hruns : ∀ r ∈ Losses.runs mask, r.2 < type.framesPerSecond) (src : SVStreamSource) :
    ∃ f, ∀ fuel, f ≤ fuel →
      let src := got.foldl (deliver (svHit fuel crypto mode)) src.fresh
      (0 < src.getErrSeqNum ↔ ¬ 2 ^ 32 ∣ (Losses.runs mask).countP (type.Notices ·)) ∧
        ∀ app : RxApplication, app.Configured → src ∈ app.svStreams → 0 < src.getErrSeqNum →
          app.countGaps.2 ≠ 0 := by
  obtain ⟨f, hf⟩ := errSeqNum_of_lost crypto mode hk hsID hcnt hasdus hrun hidx h hruns src
  refine ⟨f, fun fuel hfuel => ⟨?_, fun app happ => countGaps_ne_zero happ⟩⟩
  rw [hf fuel hfuel, UInt32.lt_iff_toNat_lt, UInt32.toNat_ofNat', Nat.dvd_iff_mod_eq_zero]
  exact Nat.pos_iff_ne_zero

/-- The second frame of a stream is lost, and this is noticed. -/
theorem errSeqNum_pos_sample :
    let s := (GenKind.sv .SV256).callAgain (fun _ : Bool => .make (sampleSvMessage .SV256) 1 .SV256)
      (fun _ => (sampleSvMessage .SV256).buffer) true 0 3
    ∃ f, ∀ fuel, f ≤ fuel → 0 < ((receivedOf (s.frames true 0) 765 [true, false, true]).foldl
      (deliver (svHit fuel sampleRunCrypto .SEC_GCM)) (SVStreamSource.fresh {})).getErrSeqNum := by
  intro s
  have hrun : (GenKind.sv .SV256).Run
      (fun _ : Bool => .make (sampleSvMessage .SV256) 1 .SV256) s :=
    GenKind.run_callAgain (fun _ _ => rfl) (by decide) 3
  have hframes : (s.frames true 0).length = 3 := GenKind.length_callAgain 3
  obtain ⟨f, hf⟩ := errSeqNum_pos_iff sampleRunCrypto .SEC_GCM (describes_sampleSvMessage .SV256)
    rfl (fun _ => rfl) rfl hrun true 0 (by decide) [true, false, true] _
    (survive_receivedOf hframes.ge (by decide)) (by decide) {}
  exact ⟨f, fun fuel hfuel => (hf fuel hfuel).1.mpr (by decide)⟩

/-- One frame is lost, the last one of the first second, and nothing is noticed. -/
theorem lost_last_frame_of_second :
    let gens := fun _ : Bool => SVTrafficGen.make (sampleSvMessage .SV80) 1 .SV80
    let s := (GenKind.sv .SV80).callAgain gens (fun _ => (sampleSvMessage .SV80).buffer) true 0 4001
    let mask := List.replicate 3999 true ++ [false, true]
    let got := receivedOf (s.frames true 0) 124 mask
    (GenKind.sv .SV80).Run gens s ∧ Survive (s.frames true 0) 124 mask got ∧
      Losses.runs mask = [(4000, 1)] ∧ 1 < SvType.SV80.framesPerSecond ∧
      ∃ f, ∀ fuel, f ≤ fuel → (got.foldl (deliver (svHit fuel sampleRunCrypto .SEC_GCM))
        (SVStreamSource.fresh {})).getErrSeqNum = 0 := by
  intro gens s mask got
  have hrun : (GenKind.sv .SV80).Run gens s :=
    GenKind.run_callAgain (fun _ _ => rfl) (by decide) 4001
  have hframes : (s.frames true 0).length = 4001 := GenKind.length_callAgain 4001
  have hmask : mask.length = 4001 := by
    rw [List.length_append, List.length_replicate]
    rfl
  have hgot : Survive (s.frames true 0) 124 mask got :=
    survive_receivedOf (by rw [hmask, hframes]) (by decide)
  have hruns : Losses.runs mask = [(4000, 1)] := Losses.runs_replicate_append 3999 [false, true]
  have hshort : 1 < SvType.SV80.framesPerSecond := by decide
  refine ⟨hrun, hgot, hruns, hshort, ?_⟩
  obtain ⟨f, hf⟩ := errSeqNum_of_lost sampleRunCrypto .SEC_GCM (describes_sampleSvMessage .SV80) rfl
    (fun _ => rfl) rfl hrun (show (0 : UInt32) < 1 by decide) hgot (by
      rw [hruns]
      exact List.forall_mem_singleton.mpr hshort) {}
  rw [hruns] at hf
  exact ⟨f, hf⟩

end SampledValues

end ProcessBus
