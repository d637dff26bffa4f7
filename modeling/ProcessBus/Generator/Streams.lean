import ProcessBus.Generator.Recycling

/-!
# The frames of a stream

For each kind of generator: what a call leaves in a buffer is a function of the global number of
the stream and of the state of its IED, and the state of an IED is a function of the number of its
calls. This holds for all generators of a run, whichever buffers they use and in whatever order
their streams are called.
-/

namespace ProcessBus

open RSess RFrame Relation

/-- Behind a call the IED of the stream is replaced, the others stay. -/
lemma getD_set {α : Type} (l : List α) (a d : α) {i j : UInt32} (hi : i.toNat < l.length) :
    (l.set i.toNat a).getD j.toNat d = if j = i then a else l.getD j.toNat d := by
  rw [List.getD_eq_getElem?_getD, List.getD_eq_getElem?_getD, List.getElem?_set]
  by_cases h : j = i
  · rw [if_pos h, if_pos (congrArg UInt32.toNat h.symm), if_pos hi]
    rfl
  · rw [if_neg h, if_neg fun heq => h (UInt32.toNat_inj.mp heq.symm)]

/-- The places of fields that are stored from `r` on are from `r` on. -/
lemma le_of_covers {ps : List Mem.Patch} {r i : ℕ} (hps : ∀ p ∈ ps, r ≤ p.1)
    (h : Mem.Covers ps i) : r ≤ i := by
  obtain ⟨p, hp, hle, _⟩ := h
  exact (hps p hp).trans hle

/-- Buffers that hold the skeleton. -/
def Fresh (skeleton : Mem) (size : ℕ) (m : Mem) : Prop := m.slice 0 size = skeleton.slice 0 size

lemma Fresh.eq {skeleton m : Mem} {size i : ℕ} (h : Fresh skeleton size m) (hi : i < size) :
    m i = skeleton i := by
  rw [← Nat.zero_add i]
  exact Mem.eq_of_slice_eq h hi

/-! ### L2 GOOSE -/

section Goose

/-- All messages have their fields in the same places. -/
lemma GooseSourceIED.shape_fields (ied ied' : GooseSourceIED) (at' : GooseParam → ℕ) :
    (ied.fields at').map (fun p => (p.1, p.2.length)) =
      (ied'.fields at').map fun p => (p.1, p.2.length) := by
  simp [fields, ied.size, ied'.size]

namespace GooseTrafficGen

/-- What a call stores. -/
def patches (gen : GooseTrafficGen) (idx : UInt32) (ied : GooseSourceIED) : List Mem.Patch :=
  ((gen.m_offsets .GOOSE_APPID_OFFSET).toNat, beBytes 2 (idx + 1).toUInt16.toNat) ::
    (ied.amended gen.m_tsDeltaChange).fields fun i => (gen.m_offsets i).toNat

variable {gen : GooseTrafficGen} {idx idx' : UInt32} {ied ied' : GooseSourceIED}

lemma covers_patches {i : ℕ} (h : Mem.Covers (gen.patches idx ied) i) :
    Mem.Covers (gen.patches idx' ied') i :=
  h.congr (by simp [patches, GooseSourceIED.shape_fields _ (ied'.amended gen.m_tsDeltaChange)])

variable (gen) in
/-- The frame of a stream whose IED is in state `ied`. -/
def frame (idx : UInt32) (ied : GooseSourceIED) : List UInt8 :=
  (gen.m_skeleton.patch (gen.patches idx ied)).slice 0 gen.m_skeletonSize

variable (gen) in
/-- A buffer is the skeleton outside of the fields. -/
def Fits (m : Mem) : Prop :=
  ∀ i < gen.m_skeletonSize, ¬ Mem.Covers (gen.patches 0 default) i → m i = gen.m_skeleton i

/-- The rules of `AmendPacket`, for generators that differ in their IEDs only. -/
theorem rules {ω : Type} (n : ω → ℕ) :
    Pool.Rules amendPacket (fun w idx => idx.toNat < n w)
      (fun w g => ∃ ieds, g = { gen with m_ieds := ieds } ∧ ieds.length = n w) gen.Fits
      (fun g idx => g.m_ieds.getD idx.toNat default) (·.amended gen.m_tsDeltaChange) where
  good := by
    rintro w _ m idx ⟨ieds, rfl, hlen⟩ _ _
    exact ⟨_, rfl, by rw [List.length_set, hlen]⟩
  fits := by
    rintro w _ m idx ⟨ieds, rfl, hlen⟩ hm _ i hi hnot
    exact (Mem.patch_of_not_covers (mt covers_patches hnot)).trans (hm i hi hnot)
  view_self := by
    rintro w _ m idx ⟨ieds, rfl, hlen⟩ hkey
    exact (getD_set _ _ _ (by rw [hlen]; exact hkey)).trans (if_pos rfl)
  view_of_ne := by
    rintro w _ m idx idx' ⟨ieds, rfl, hlen⟩ hkey hne
    exact (getD_set _ _ _ (by rw [hlen]; exact hkey)).trans (if_neg hne)

/-- What `AmendPacket` leaves in a buffer. -/
lemma shown {ω : Type} (n : ω → ℕ) :
    Pool.Shown amendPacket (fun w idx => idx.toNat < n w)
      (fun w g => ∃ ieds, g = { gen with m_ieds := ieds } ∧ ieds.length = n w) gen.Fits
      (fun g idx => g.m_ieds.getD idx.toNat default) (·.slice 0 gen.m_skeletonSize)
      fun _ idx ied => gen.frame idx ied := by
  rintro w _ m idx ⟨ieds, rfl, hlen⟩ hm _
  refine Mem.slice_congr fun i _ hi => Mem.patch_eq fun hnot => ?_
  exact hm i (by omega) (mt covers_patches hnot)

end GooseTrafficGen

end Goose

/-! ### L2 Sampled Values -/

section SampledValues

lemma SVSourceIED.shape_fields {freq : ℕ} {svidAt smpCntAt : ℕ → ℕ} (num : ℕ) :
    ∀ (i : ℕ) (ied ied' : SVSourceIED),
      (fields freq svidAt smpCntAt num i ied).1.map (fun p => (p.1, p.2.length)) =
        (fields freq svidAt smpCntAt num i ied').1.map fun p => (p.1, p.2.length) := by
  induction num with
  | zero => exact fun _ _ _ => rfl
  | succ num ih =>
    intro i ied ied'
    simp [fields, ied.size, ied'.size, ih (i + 1) (ied.advance freq) (ied'.advance freq)]

/-- The IED behind the ASDUs of a frame. -/
def SVSourceIED.behind (freq num : ℕ) (ied : SVSourceIED) : SVSourceIED :=
  (advance freq)^[num] ied

lemma SVSourceIED.fields_snd {freq : ℕ} {svidAt smpCntAt : ℕ → ℕ} (num : ℕ) :
    ∀ (i : ℕ) (ied : SVSourceIED),
      (fields freq svidAt smpCntAt num i ied).2 = ied.behind freq num := by
  induction num with
  | zero => exact fun _ _ => rfl
  | succ num ih => exact fun i ied => ih (i + 1) (ied.advance freq)

namespace SVTrafficGen

/-- What a call for `num` ASDUs stores. -/
def patches (num : ℕ) (gen : SVTrafficGen) (idx : UInt32) (ied : SVSourceIED) : List Mem.Patch :=
  (gen.m_appidOffset.toNat, beBytes 2 (idx + 1).toUInt16.toNat) ::
    (SVSourceIED.fields gen.m_freq (fun i => (gen.m_asduOffs i).svid.toNat)
      (fun i => (gen.m_asduOffs i).smpCnt.toNat) num 0 ied).1

variable {num : ℕ} {gen : SVTrafficGen} {idx idx' : UInt32} {ied ied' : SVSourceIED}

lemma covers_patches {i : ℕ} (h : Mem.Covers (gen.patches num idx ied) i) :
    Mem.Covers (gen.patches num idx' ied') i :=
  h.congr (by simp [patches, SVSourceIED.shape_fields num 0 ied ied'])

variable (num gen) in
/-- The frame of a stream whose IED is in state `ied`. -/
def frame (idx : UInt32) (ied : SVSourceIED) : List UInt8 :=
  (gen.m_skeleton.patch (gen.patches num idx ied)).slice 0 gen.m_skeletonSize

variable (num gen) in
/-- A buffer is the skeleton outside of the fields. -/
def Fits (m : Mem) : Prop :=
  ∀ i < gen.m_skeletonSize, ¬ Mem.Covers (gen.patches num 0 default) i → m i = gen.m_skeleton i

/-- The rules of the `Amend` functions, for generators that differ in their IEDs only. -/
theorem rules {ω : Type} (n : ω → ℕ) :
    Pool.Rules (amendAsdus num) (fun w idx => idx.toNat < n w)
      (fun w g => ∃ ieds, g = { gen with m_ieds := ieds } ∧ ieds.length = n w) (gen.Fits num)
      (fun g idx => g.m_ieds.getD idx.toNat default) (·.behind gen.m_freq num) where
  good := by
    rintro w _ m idx ⟨ieds, rfl, hlen⟩ _ _
    exact ⟨_, rfl, by rw [List.length_set, hlen]⟩
  fits := by
    rintro w _ m idx ⟨ieds, rfl, hlen⟩ hm _ i hi hnot
    exact (Mem.patch_of_not_covers (mt covers_patches hnot)).trans (hm i hi hnot)
  view_self := by
    rintro w _ m idx ⟨ieds, rfl, hlen⟩ hkey
    exact ((getD_set _ _ _ (by rw [hlen]; exact hkey)).trans (if_pos rfl)).trans
      (SVSourceIED.fields_snd _ _ _)
  view_of_ne := by
    rintro w _ m idx idx' ⟨ieds, rfl, hlen⟩ hkey hne
    exact (getD_set _ _ _ (by rw [hlen]; exact hkey)).trans (if_neg hne)

/-- What the `Amend` functions leave in a buffer. -/
lemma shown {ω : Type} (n : ω → ℕ) :
    Pool.Shown (amendAsdus num) (fun w idx => idx.toNat < n w)
      (fun w g => ∃ ieds, g = { gen with m_ieds := ieds } ∧ ieds.length = n w) (gen.Fits num)
      (fun g idx => g.m_ieds.getD idx.toNat default) (·.slice 0 gen.m_skeletonSize)
      fun _ idx ied => gen.frame num idx ied := by
  rintro w _ m idx ⟨ieds, rfl, hlen⟩ hm _
  refine Mem.slice_congr fun i _ hi => Mem.patch_eq fun hnot => ?_
  exact hm i (by omega) (mt covers_patches hnot)

end SVTrafficGen

end SampledValues

/-! ### R-GOOSE -/

section RGoose

namespace RGooseTrafficGen

/-- The IED behind a call. -/
def behind (gen : RGooseTrafficGen) (ied : GooseSourceIED) : GooseSourceIED :=
  { ied with spduNumber := ied.spduNumber + 1 }.amended gen.m_tsDeltaChange

/-- What is stored in a region that starts at `region`. -/
def patches (gen : RGooseTrafficGen) (stream : UInt32) (ied : GooseSourceIED) (region : ℕ) :
    List Mem.Patch :=
  (region + (gen.m_offsets .GOOSE_APPID_OFFSET).toNat, beBytes 2 (stream + 1).toUInt16.toNat) ::
    (gen.behind ied).fields fun i => region + (gen.m_offsets i).toNat

/-- The places of the APDU fields. -/
def places (gen : RGooseTrafficGen) (region : ℕ) : ℕ → Prop :=
  Mem.Covers (gen.patches 0 default region)

variable {gen : RGooseTrafficGen} {mode : SecurityMode}

lemma amendPacket_snd (g : RGooseTrafficGen) (m : Mem) (idx : UInt32) :
    (g.amendPacket mode m idx).2 =
      (g.amendFrame mode m (idx + g.m_baseIdx)
        (g.behind (g.m_ieds.getD idx.toNat default)).spduNumber
        (g.patches (idx + g.m_baseIdx) (g.m_ieds.getD idx.toNat default))).2 := rfl

lemma covers_patches (stream : UInt32) (ied : GooseSourceIED) (r i : ℕ) :
    Mem.Covers (gen.patches stream ied r) i ↔ gen.places r i := by
  have hshape : (gen.patches stream ied r).map (fun p => (p.1, p.2.length)) =
      (gen.patches 0 default r).map fun p => (p.1, p.2.length) := by
    simp [patches, GooseSourceIED.shape_fields _ (gen.behind default)]
  exact ⟨fun h => h.congr hshape, fun h => h.congr hshape.symm⟩

lemma le_of_places (r i : ℕ) (h : gen.places r i) : r ≤ i :=
  le_of_covers (by simp [patches, GooseSourceIED.fields, Nat.add_assoc]) h

variable (mode gen) in
/-- The frame of a stream whose IED is in state `ied`. -/
def frame (stream : UInt32) (ied : GooseSourceIED) : List UInt8 :=
  (gen.amendFrame mode gen.m_skeleton stream (gen.behind ied).spduNumber
    (gen.patches stream ied)).2.slice 0 gen.m_skeletonSize

variable (gen) in
/-- A generator of the run of `gen`, with `n` streams from `base` on. -/
def Of (n : ℕ) (base : UInt32) (g : RGooseTrafficGen) : Prop :=
  ∃ ieds plain, g = { gen with m_ieds := ieds, m_plain := plain, m_baseIdx := base } ∧
    ieds.length = n ∧ RoutableGen.PlainFits gen.places g.toRoutableGen

/-- The rules of `AmendPacket`, for the generators of a run. -/
theorem rules (hb : gen.Built mode) {ω : Type} (n : ω → ℕ) (base : ω → UInt32) :
    Pool.Rules (amendPacket mode) (fun w idx => idx.toNat < n w)
      (fun w g => gen.Of (n w) (base w) g)
      (RoutableGen.Fits mode gen.places gen.toRoutableGen)
      (fun g idx => g.m_ieds.getD idx.toNat default) gen.behind where
  good := by
    rintro w _ m idx ⟨ieds, plain, rfl, hlen, hplain⟩ _ _
    refine ⟨_, _, rfl, by rw [List.length_set, hlen], ?_⟩
    exact RoutableGen.plainFits_amendFrame (fun r i => (covers_patches _ _ r i).mp) hplain
  fits := by
    rintro w _ m idx ⟨ieds, plain, rfl, hlen, hplain⟩ hm _
    rw [amendPacket_snd]
    exact RoutableGen.fits_amendFrame hb ⟨_, _, rfl⟩
      (fun r i => (covers_patches _ _ r i).mp) le_of_places hm
  view_self := by
    rintro w _ m idx ⟨ieds, plain, rfl, hlen, hplain⟩ hkey
    exact (getD_set _ _ _ (by rw [hlen]; exact hkey)).trans (if_pos rfl)
  view_of_ne := by
    rintro w _ m idx idx' ⟨ieds, plain, rfl, hlen, hplain⟩ hkey hne
    exact (getD_set _ _ _ (by rw [hlen]; exact hkey)).trans (if_neg hne)

/-- What `AmendPacket` leaves in a buffer. -/
theorem shown (hdet : gen.m_crypto.Deterministic) (hb : gen.Built mode) (hp : gen.PlainFresh)
    {ω : Type} (n : ω → ℕ) (base : ω → UInt32) :
    Pool.Shown (amendPacket mode) (fun w idx => idx.toNat < n w)
      (fun w g => gen.Of (n w) (base w) g)
      (RoutableGen.Fits mode gen.places gen.toRoutableGen)
      (fun g idx => g.m_ieds.getD idx.toNat default)
      (·.slice 0 gen.m_skeletonSize) fun w idx ied => gen.frame mode (idx + base w) ied := by
  rintro w _ m idx ⟨ieds, plain, rfl, hlen, hplain⟩ hm _
  refine Mem.slice_congr fun i _ hi => Eq.symm ?_
  exact RoutableGen.amendFrame_eq hdet hb ⟨_, _, rfl⟩ (covers_patches _ _) le_of_places
    (fun _ _ _ => rfl) hm (fun i hi _ => hp i hi) hplain (by omega)

end RGooseTrafficGen

end RGoose

/-! ### R-SV -/

section RSampledValues

namespace RSVTrafficGen

/-- The IED behind a call for `num` ASDUs. -/
def behind (num : ℕ) (gen : RSVTrafficGen) (ied : SVSourceIED) : SVSourceIED :=
  { ied with spduNumber := ied.spduNumber + 1 }.behind gen.m_freq num

/-- What is stored in a region that starts at `region`. -/
def patches (num : ℕ) (gen : RSVTrafficGen) (stream : UInt32) (ied : SVSourceIED) (region : ℕ) :
    List Mem.Patch :=
  (region + gen.m_appidOffset.toNat, beBytes 2 (stream + 1).toUInt16.toNat) ::
    (SVSourceIED.fields gen.m_freq (fun i => region + (gen.m_asduOffs i).svid.toNat)
      (fun i => region + (gen.m_asduOffs i).smpCnt.toNat) num 0
      { ied with spduNumber := ied.spduNumber + 1 }).1

/-- The places of the APDU fields. -/
def places (num : ℕ) (gen : RSVTrafficGen) (region : ℕ) : ℕ → Prop :=
  Mem.Covers (gen.patches num 0 default region)

variable {num : ℕ} {gen : RSVTrafficGen} {mode : SecurityMode}

lemma amendAsdus_snd (g : RSVTrafficGen) (m : Mem) (idx : UInt32) :
    (g.amendAsdus num mode m idx).2 =
      (g.amendFrame mode m (idx + g.m_baseIdx)
        ((g.m_ieds.getD idx.toNat default).spduNumber + 1)
        (g.patches num (idx + g.m_baseIdx) (g.m_ieds.getD idx.toNat default))).2 := rfl

lemma covers_patches (stream : UInt32) (ied : SVSourceIED) (r i : ℕ) :
    Mem.Covers (gen.patches num stream ied r) i ↔ gen.places num r i := by
  have hshape : (gen.patches num stream ied r).map (fun p => (p.1, p.2.length)) =
      (gen.patches num 0 default r).map fun p => (p.1, p.2.length) := by
    simp [patches, SVSourceIED.shape_fields num 0 { ied with spduNumber := ied.spduNumber + 1 }
      { (default : SVSourceIED) with spduNumber := (default : SVSourceIED).spduNumber + 1 }]
  exact ⟨fun h => h.congr hshape, fun h => h.congr hshape.symm⟩

lemma le_fields {freq r : ℕ} {svidAt smpCntAt : ℕ → ℕ} (num : ℕ) :
    ∀ (i : ℕ) (ied : SVSourceIED), ∀ p ∈ (SVSourceIED.fields freq (fun i => r + svidAt i)
      (fun i => r + smpCntAt i) num i ied).1, r ≤ p.1 := by
  induction num with
  | zero => exact fun _ _ p hp => absurd hp List.not_mem_nil
  | succ num ih =>
    intro i ied p hp
    rw [SVSourceIED.fields, List.mem_cons, List.mem_cons] at hp
    rcases hp with rfl | rfl | hp
    · exact (Nat.le_add_right ..).trans (Nat.le_add_right ..)
    · exact Nat.le_add_right ..
    · exact ih _ _ p hp

lemma le_of_places (r i : ℕ) (h : gen.places num r i) : r ≤ i := by
  refine le_of_covers (fun p hp => ?_) h
  rcases List.mem_cons.mp hp with rfl | hp
  · exact Nat.le_add_right ..
  · exact le_fields num 0 _ p hp

variable (num mode gen) in
/-- The frame of a stream whose IED is in state `ied`. -/
def frame (stream : UInt32) (ied : SVSourceIED) : List UInt8 :=
  (gen.amendFrame mode gen.m_skeleton stream (ied.spduNumber + 1)
    (gen.patches num stream ied)).2.slice 0 gen.m_skeletonSize

variable (num gen) in
/-- A generator of the run of `gen`, with `n` streams from `base` on. -/
def Of (n : ℕ) (base : UInt32) (g : RSVTrafficGen) : Prop :=
  ∃ ieds plain, g = { gen with m_ieds := ieds, m_plain := plain, m_baseIdx := base } ∧
    ieds.length = n ∧ RoutableGen.PlainFits (gen.places num) g.toRoutableGen

/-- The rules of the `Amend` functions, for the generators of a run. -/
theorem rules (hb : gen.Built mode) {ω : Type} (n : ω → ℕ) (base : ω → UInt32) :
    Pool.Rules (amendAsdus num mode) (fun w idx => idx.toNat < n w)
      (fun w g => gen.Of num (n w) (base w) g)
      (RoutableGen.Fits mode (gen.places num) gen.toRoutableGen)
      (fun g idx => g.m_ieds.getD idx.toNat default) (gen.behind num) where
  good := by
    rintro w _ m idx ⟨ieds, plain, rfl, hlen, hplain⟩ _ _
    refine ⟨_, _, rfl, by rw [List.length_set, hlen], ?_⟩
    exact RoutableGen.plainFits_amendFrame (fun r i => (covers_patches _ _ r i).mp) hplain
  fits := by
    rintro w _ m idx ⟨ieds, plain, rfl, hlen, hplain⟩ hm _
    rw [amendAsdus_snd]
    exact RoutableGen.fits_amendFrame hb ⟨_, _, rfl⟩
      (fun r i => (covers_patches _ _ r i).mp) le_of_places hm
  view_self := by
    rintro w _ m idx ⟨ieds, plain, rfl, hlen, hplain⟩ hkey
    exact ((getD_set _ _ _ (by rw [hlen]; exact hkey)).trans (if_pos rfl)).trans
      (SVSourceIED.fields_snd _ _ _)
  view_of_ne := by
    rintro w _ m idx idx' ⟨ieds, plain, rfl, hlen, hplain⟩ hkey hne
    exact (getD_set _ _ _ (by rw [hlen]; exact hkey)).trans (if_neg hne)

/-- What the `Amend` functions leave in a buffer. -/
theorem shown (hdet : gen.m_crypto.Deterministic) (hb : gen.Built mode) (hp : gen.PlainFresh)
    {ω : Type} (n : ω → ℕ) (base : ω → UInt32) :
    Pool.Shown (amendAsdus num mode) (fun w idx => idx.toNat < n w)
      (fun w g => gen.Of num (n w) (base w) g)
      (RoutableGen.Fits mode (gen.places num) gen.toRoutableGen)
      (fun g idx => g.m_ieds.getD idx.toNat default)
      (·.slice 0 gen.m_skeletonSize) fun w idx ied => gen.frame num mode (idx + base w) ied := by
  rintro w _ m idx ⟨ieds, plain, rfl, hlen, hplain⟩ hm _
  refine Mem.slice_congr fun i _ hi => Eq.symm ?_
  exact RoutableGen.amendFrame_eq hdet hb ⟨_, _, rfl⟩ (covers_patches _ _) le_of_places
    (fun _ _ _ => rfl) hm (fun i hi _ => hp i hi) hplain (by omega)

end RSVTrafficGen

end RSampledValues

end ProcessBus
