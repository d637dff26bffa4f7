import ProcessBus.Common.Session.Reseal
import ProcessBus.Common.Session.RoundTrip
import ProcessBus.Generator.Routable
import ProcessBus.Lib.Pool

/-!
# Recycled buffers

A buffer starts as a copy of the skeleton and is amended again and again, for any streams and by any
generator of the run. Outside of the places that every call stores to it stays the skeleton, and
inside of them the next call stores. The same holds of the plaintext master of a generator. So what
a call leaves in a buffer is a function of the stream and of the state of its IED.
-/

namespace ProcessBus

open RSess RFrame Relation

/-! ### One frame -/

namespace RoutableGen

/-- The generators of a run differ in their streams and in the state of the plaintext master. -/
def SameRun (g g' : RoutableGen) : Prop :=
  ∃ baseIdx plain, g' = { g with m_baseIdx := baseIdx, m_plain := plain }

/-- What a constructor makes sure of. -/
structure Built (mode : SecurityMode) (g : RoutableGen) : Prop where
  region : g.m_regionOffset.toNat = OFF_UDP_PAYLOAD + (payloadHdrOffset (ivLength mode) + 4)
  spdu : g.m_spduOffset.toNat = OFF_UDP_PAYLOAD + OFF_SPDU_NUMBER
  layout : SealLayout mode OFF_UDP_PAYLOAD g.m_plainSize g.m_skeleton
  size : g.m_skeletonSize = elemsEnd mode OFF_UDP_PAYLOAD g.m_plainSize + trailerSize mode

/-- The places of the envelope fields. -/
def InEnvelope (i : ℕ) : Prop :=
  i < 6 ∨ (24 ≤ i ∧ i < 26) ∨ (30 ≤ i ∧ i < 36) ∨ (52 ≤ i ∧ i < 56)

variable {mode : SecurityMode} {g g' : RoutableGen} {m m' : Mem} {stream spduNumber : UInt32}
  {fields : ℕ → List Mem.Patch} {F : ℕ → ℕ → Prop} {i : ℕ}

lemma covers_envelope (hb : g.Built mode) :
    Mem.Covers (g.envelope stream spduNumber) i ↔ InEnvelope i := by
  have hmac := (g.m_dst (stream.toNat &&& (R_DST_SPREAD - 1))).dmac.size
  have hip := (g.m_dst (stream.toNat &&& (R_DST_SPREAD - 1))).size_dstIP
  have hcsum := (g.m_dst (stream.toNat &&& (R_DST_SPREAD - 1))).size_ipCsum
  have hnil : ¬ Mem.Covers [] i := fun ⟨_, h, _⟩ => absurd h List.not_mem_nil
  simp only [envelope, Mem.covers_cons, hb.spdu, hmac, hip, hcsum, length_beBytes, hnil, or_false,
    OFF_UDP_SRC_PORT, OFF_ETH_DMAC, OFF_IP_DST, OFF_IP_CSUM, OFF_UDP_PAYLOAD, OFF_SPDU_NUMBER,
    InEnvelope]
  omega

/-- The places that every call stores to. `F r` are those of the APDU fields, for a region that
starts at `r`. -/
def Rewritten (mode : SecurityMode) (F : ℕ → ℕ → Prop) (g : RoutableGen) (i : ℕ) : Prop :=
  InEnvelope i ∨ (mode ≠ .SEC_GCM ∧ F g.m_regionOffset.toNat i) ∨
    Resealed mode OFF_UDP_PAYLOAD g.m_plainSize i

/-- A buffer is the skeleton elsewhere. -/
def Fits (mode : SecurityMode) (F : ℕ → ℕ → Prop) (g : RoutableGen) (m : Mem) : Prop :=
  ∀ i < g.m_skeletonSize, ¬ Rewritten mode F g i → m i = g.m_skeleton i

/-- The plaintext master is the region of the skeleton outside of the fields. -/
def PlainFits (F : ℕ → ℕ → Prop) (g : RoutableGen) : Prop :=
  ∀ i < g.m_plainSize, ¬ F 0 i → g.m_plain i = g.m_skeleton (g.m_regionOffset.toNat + i)

/-- The packet in front of `seal`. -/
def amended (mode : SecurityMode) (g : RoutableGen) (packet : Mem) (stream spduNumber : UInt32)
    (fields : ℕ → List Mem.Patch) : Mem :=
  let packet := packet.patch (g.envelope stream spduNumber)
  if mode = .SEC_GCM then
    packet.write g.m_regionOffset.toNat ((g.m_plain.patch (fields 0)).slice 0 g.m_plainSize)
  else packet.patch (fields g.m_regionOffset.toNat)

lemma amendFrame_snd : (g.amendFrame mode m stream spduNumber fields).2 =
    (sealFrame (g.amended mode m stream spduNumber fields) OFF_UDP_PAYLOAD mode g.m_crypto).2 := by
  cases mode <;> rfl

/-- Where `amended` stores. -/
lemma amended_of_not_rewritten (hb : g.Built mode)
    (hfields : ∀ r i, Mem.Covers (fields r) i → F r i) (h : ¬ Rewritten mode F g i) :
    g.amended mode m stream spduNumber fields i = m i := by
  simp only [Rewritten, not_or] at h
  obtain ⟨henv, hregion, hsealed⟩ := h
  have hpatch : m.patch (g.envelope stream spduNumber) i = m i :=
    Mem.patch_of_not_covers (mt (covers_envelope hb).mp henv)
  unfold amended
  by_cases hmode : mode = .SEC_GCM
  · rw [if_pos hmode, Mem.write_of_not_mem, hpatch]
    rw [Mem.length_slice, hb.region]
    refine fun h => hsealed (.inr (.inr ⟨hmode, by omega, ?_⟩))
    rw [elemsEnd]
    omega
  · rw [if_neg hmode, Mem.patch_of_not_covers, hpatch]
    exact fun hc => hregion ⟨hmode, hfields _ _ hc⟩

/-- The layout for `seal` is in none of the places. -/
lemma sealLayout_of_fits (hb : g.Built mode) (hF : ∀ r i, F r i → r ≤ i)
    (hm : ∀ i < g.m_skeletonSize, ¬ Rewritten mode F g i → m i = g.m_skeleton i) :
    SealLayout mode OFF_UDP_PAYLOAD g.m_plainSize m := by
  have hhead : ∀ a, a = OFF_IV_LENGTH ∨
      payloadHdrOffset (ivLength mode) ≤ a ∧ a < payloadHdrOffset (ivLength mode) + 4 →
      m (OFF_UDP_PAYLOAD + a) = g.m_skeleton (OFF_UDP_PAYLOAD + a) := by
    intro a ha
    have hsize := hb.size
    have hregion := hb.region
    have hiv : mode = .SEC_GCM → (ivLength mode).toNat = 12 := fun h => by rw [h]; rfl
    simp only [elemsEnd, payloadHdrOffset, SESSION_FIXED_SIZE, OFF_IV_LENGTH, OFF_UDP_PAYLOAD]
      at hsize hregion ha ⊢
    refine hm _ (by omega) fun h => ?_
    simp only [Rewritten, InEnvelope, Resealed, InIV, elemsEnd, payloadHdrOffset,
      SESSION_FIXED_SIZE, OFF_IV, IV_LEN_GCM, OFF_UDP_PAYLOAD, UInt8.reduceToNat] at h
    rcases h with h | ⟨_, h⟩ | ⟨_, h, _⟩ | ⟨hmode, h, h'⟩ | ⟨_, h, _⟩
    · omega
    · have := hF _ _ h
      omega
    · omega
    · have := hiv hmode
      omega
    · omega
  refine ⟨(hhead _ (.inl rfl)).trans hb.layout.ivLen, ?_⟩
  rw [← hb.layout.length]
  congr 1
  refine Mem.slice_congr fun i hi hi' => ?_
  obtain ⟨a, rfl⟩ := Nat.exists_eq_add_of_le (show OFF_UDP_PAYLOAD ≤ i by omega)
  exact hhead a (.inr (by omega))

/-- In front of `seal`, two packets are alike but for what `seal` stores. -/
lemma amended_eq (hb : g.Built mode) (hs : g.SameRun g')
    (hfields : ∀ r i, F r i → Mem.Covers (fields r) i) (hm : Fits mode F g m)
    (hm' : Fits mode F g m') (hp : PlainFits F g) (hp' : PlainFits F g')
    (hi : i < g.m_skeletonSize) (hiv : ¬ InIV mode OFF_UDP_PAYLOAD i)
    (htrailer : mode ≠ .SEC_NONE → i < elemsEnd mode OFF_UDP_PAYLOAD g.m_plainSize) :
    g.amended mode m stream spduNumber fields i =
      g'.amended mode m' stream spduNumber fields i := by
  obtain ⟨baseIdx, plain, rfl⟩ := hs
  have hpatch : ¬(mode ≠ .SEC_GCM ∧ F g.m_regionOffset.toNat i) →
      ¬(mode = .SEC_GCM ∧ OFF_UDP_PAYLOAD + (payloadHdrOffset (ivLength mode) + 4) ≤ i) →
      m.patch (g.envelope stream spduNumber) i = m'.patch (g.envelope stream spduNumber) i := by
    intro hregion helems
    refine Mem.patch_eq fun henv => ?_
    have hnot : ¬ Rewritten mode F g i := by
      rintro (h | h | ⟨hmode, hle, _⟩ | h | ⟨hmode, hle, _⟩)
      · exact henv ((covers_envelope hb).mpr h)
      · exact hregion h
      · exact absurd (htrailer hmode) (Nat.not_lt.mpr hle)
      · exact hiv h
      · exact helems ⟨hmode, hle⟩
    rw [hm i hi hnot, hm' i hi hnot]
  unfold amended
  by_cases hmode : mode = .SEC_GCM
  · have hslice : (g.m_plain.patch (fields 0)).slice 0 g.m_plainSize =
        (plain.patch (fields 0)).slice 0 g.m_plainSize := by
      refine Mem.slice_congr fun j _ hj => Mem.patch_eq fun hc => ?_
      have hF := mt (hfields 0 j) hc
      have hlt : j < g.m_plainSize := by omega
      rw [hp j hlt hF]
      exact (hp' j hlt hF).symm
    rw [if_pos hmode, if_pos hmode, hslice]
    refine Mem.write_eq fun hout => hpatch (fun h => h.1 hmode) fun helems => hout ?_
    have hlt := htrailer (by rw [hmode]; decide)
    rw [Mem.length_slice, hb.region]
    rw [elemsEnd] at hlt
    exact ⟨helems.2, by omega⟩
  · rw [if_neg hmode, if_neg hmode]
    refine Mem.patch_eq fun hc => hpatch (fun h => hc (hfields _ _ h.2)) fun h => hmode h.1

/-- Generators of a run are built alike. -/
lemma SameRun.built (hs : g.SameRun g') (hb : g.Built mode) : g'.Built mode := by
  obtain ⟨_, _, rfl⟩ := hs
  exact ⟨hb.region, hb.spdu, hb.layout, hb.size⟩

/-- The fields of the envelope are at different places. -/
lemma holds_envelope (hb : g.Built mode) {p : Mem.Patch} (hp : p ∈ g.envelope stream spduNumber) :
    (m.patch (g.envelope stream spduNumber)).Holds p.1 p.2 := by
  refine Mem.holds_patch_of_mem ?_ hp
  have hspdu : g.m_spduOffset.toNat = 52 := hb.spdu
  simp only [envelope, List.pairwise_cons, List.forall_mem_cons, List.not_mem_nil, false_implies,
    implies_true, and_true, List.Pairwise.nil, length_beBytes, MAC.size, DstFields.size_dstIP,
    DstFields.size_ipCsum, hspdu, OFF_UDP_SRC_PORT, OFF_ETH_DMAC, OFF_IP_DST, OFF_IP_CSUM]
  omega

/-- In front of the region there is the amended envelope. -/
lemma amended_of_lt (hfields : ∀ r i, Mem.Covers (fields r) i → F r i) (hF : ∀ r i, F r i → r ≤ i)
    (hi : i < g.m_regionOffset.toNat) :
    g.amended mode m stream spduNumber fields i = m.patch (g.envelope stream spduNumber) i := by
  unfold amended
  split_ifs
  · exact Mem.write_of_lt hi
  · exact Mem.patch_of_not_covers fun hc => absurd (hF _ _ (hfields _ _ hc)) (Nat.not_le.mpr hi)

lemma holds_envelope_amended (hb : g.Built mode)
    (hfields : ∀ r i, Mem.Covers (fields r) i → F r i) (hF : ∀ r i, F r i → r ≤ i) {p : Mem.Patch}
    (hp : p ∈ g.envelope stream spduNumber) :
    (g.amended mode m stream spduNumber fields).Holds p.1 p.2 := by
  refine (holds_envelope hb hp).congr fun i hle hlt => amended_of_lt hfields hF ?_
  have henv := (covers_envelope hb).mp ⟨p, hp, hle, hlt⟩
  have hregion := hb.region
  simp only [InEnvelope, payloadHdrOffset, SESSION_FIXED_SIZE, OFF_UDP_PAYLOAD] at henv hregion
  omega

/-- Which is the skeleton between its fields. -/
lemma amended_eq_skeleton (hb : g.Built mode) (hs : g.SameRun g')
    (hfields : ∀ r i, Mem.Covers (fields r) i → F r i) (hm : Fits mode F g m)
    (hi : i < g.m_skeletonSize) (hnot : ¬ Rewritten mode F g i) :
    g'.amended mode m stream spduNumber fields i = g.m_skeleton i := by
  refine (amended_of_not_rewritten (hs.built hb) hfields ?_).trans (hm i hi hnot)
  obtain ⟨_, _, rfl⟩ := hs
  exact hnot

variable (stream spduNumber) in
/-- The session header in front of `seal` is that of the skeleton with the SPDU number of the
call. -/
lemma holds_head_amended {params : BuildParams} (hb : g.Built mode) (hs : g.SameRun g')
    (hfields : ∀ r i, Mem.Covers (fields r) i → F r i) (hF : ∀ r i, F r i → r ≤ i)
    (hm : Fits mode F g m)
    (hhead : g.m_skeleton.Holds OFF_UDP_PAYLOAD (headBytes params))
    (hlength : g.m_skeleton.Holds (OFF_UDP_PAYLOAD + payloadHdrOffset (ivLength mode))
      (lengthBytes params)) :
    (g'.amended mode m stream spduNumber fields).Holds OFF_UDP_PAYLOAD
        (headBytes { params with spduNumber := spduNumber }) ∧
      (g'.amended mode m stream spduNumber fields).Holds
        (OFF_UDP_PAYLOAD + payloadHdrOffset (ivLength mode)) (lengthBytes params) := by
  have hregion := (hs.built hb).region
  have hsize := hb.size
  have hplace : g'.m_spduOffset.toNat = 52 := (hs.built hb).spdu
  have hiv : mode = .SEC_GCM → (ivLength mode).toNat = 12 := fun h => by rw [h]; rfl
  simp only [elemsEnd, payloadHdrOffset, SESSION_FIXED_SIZE, OFF_UDP_PAYLOAD] at hsize hregion
  have hstay : ∀ i, (42 ≤ i ∧ i < 52) ∨ (56 ≤ i ∧ i < 69) ∨
      (42 + payloadHdrOffset (ivLength mode) ≤ i ∧
        i < 42 + payloadHdrOffset (ivLength mode) + 4) →
      g'.amended mode m stream spduNumber fields i = g.m_skeleton i := by
    intro i hi
    rw [payloadHdrOffset, SESSION_FIXED_SIZE] at hi
    refine amended_eq_skeleton hb hs hfields hm (by omega) fun hr => ?_
    have hregion := hb.region
    simp only [Rewritten, InEnvelope, Resealed, InIV, elemsEnd, payloadHdrOffset,
      SESSION_FIXED_SIZE, OFF_IV, IV_LEN_GCM, OFF_UDP_PAYLOAD, UInt8.reduceToNat] at hr hregion
    rcases hr with h | ⟨_, h⟩ | ⟨_, h, _⟩ | ⟨hgcm, h, h'⟩ | ⟨_, h, _⟩
    · omega
    · have := hF _ _ h
      omega
    · omega
    · have := hiv hgcm
      omega
    · omega
  have hspdu : (g'.amended mode m stream spduNumber fields).Holds 52
      (beBytes 4 spduNumber.toNat) := by
    have hmem : (g'.m_spduOffset.toNat, beBytes 4 spduNumber.toNat) ∈
        g'.envelope stream spduNumber := by simp [envelope]
    have hholds := holds_envelope_amended (m := m) (hs.built hb) hfields hF hmem
    rwa [hplace] at hholds
  have hkeep : ∀ {a : ℕ} {bs : List UInt8}, (42 ≤ a ∧ a + bs.length ≤ 52) ∨
      (56 ≤ a ∧ a + bs.length ≤ 69) → g.m_skeleton.Holds a bs →
      (g'.amended mode m stream spduNumber fields).Holds a bs := fun ha h =>
    h.congr fun i _ _ => hstay i (by omega)
  have hbyte : ∀ {a : ℕ}, (42 ≤ a ∧ a < 52) ∨ (56 ≤ a ∧ a < 69) →
      g'.amended mode m stream spduNumber fields a = g.m_skeleton a := fun ha =>
    hstay _ (by omega)
  obtain ⟨⟨hli, hud, hsi, hsli, hpi, hli2⟩, hspduLen, _, hversion, hcur, hnext, hkey, hivLen⟩ :=
    holds_headBytes.mp hhead
  refine ⟨holds_headBytes.mpr ⟨⟨?_, ?_, ?_, ?_, ?_, ?_⟩, ?_, hspdu, ?_, ?_, ?_, ?_, ?_⟩, ?_⟩
  · exact (hbyte (by decide)).trans hli
  · exact (hbyte (by decide)).trans hud
  · exact (hbyte (by decide)).trans hsi
  · exact (hbyte (by decide)).trans hsli
  · exact (hbyte (by decide)).trans hpi
  · exact (hbyte (by decide)).trans hli2
  · exact hkeep (by simp [OFF_UDP_PAYLOAD, OFF_SPDU_LENGTH]) hspduLen
  · exact hkeep (by simp [OFF_UDP_PAYLOAD, OFF_VERSION]) hversion
  · exact hkeep (by simp [OFF_UDP_PAYLOAD, OFF_TIME_CUR_KEY]) hcur
  · exact hkeep (by simp [OFF_UDP_PAYLOAD, OFF_TIME_NEXT_KEY]) hnext
  · exact hkeep (by simp [OFF_UDP_PAYLOAD, OFF_KEY_ID]) hkey
  · exact (hbyte (by decide)).trans hivLen
  · refine hlength.congr fun i hle hlt => hstay i (.inr (.inr ⟨hle, ?_⟩))
    rwa [length_lengthBytes] at hlt

/-- What a call leaves in a buffer does not depend on what was in it, nor on which generator of
the run it is a call of. -/
theorem amendFrame_eq (hdet : g.m_crypto.Deterministic) (hb : g.Built mode) (hs : g.SameRun g')
    (hfields : ∀ r i, Mem.Covers (fields r) i ↔ F r i) (hF : ∀ r i, F r i → r ≤ i)
    (hm : Fits mode F g m) (hm' : Fits mode F g m') (hp : PlainFits F g) (hp' : PlainFits F g')
    (hi : i < g.m_skeletonSize) :
    (g.amendFrame mode m stream spduNumber fields).2 i =
      (g'.amendFrame mode m' stream spduNumber fields).2 i := by
  have heq : ∀ i < g.m_skeletonSize, ¬ InIV mode OFF_UDP_PAYLOAD i →
      (mode ≠ .SEC_NONE → i < elemsEnd mode OFF_UDP_PAYLOAD g.m_plainSize) →
      g.amended mode m stream spduNumber fields i =
        g'.amended mode m' stream spduNumber fields i := fun i hi hiv htrailer =>
    amended_eq hb hs (fun r i => (hfields r i).mpr) hm hm' hp hp' hi hiv htrailer
  have hlayout : ∀ {g' : RoutableGen} {m : Mem}, g.SameRun g' → Fits mode F g m →
      SealLayout mode OFF_UDP_PAYLOAD g.m_plainSize
        (g'.amended mode m stream spduNumber fields) := by
    rintro g' m ⟨baseIdx, plain, rfl⟩ hm
    have hb' : Built mode { g with m_baseIdx := baseIdx, m_plain := plain } :=
      ⟨hb.region, hb.spdu, hb.layout, hb.size⟩
    refine sealLayout_of_fits hb hF fun i hi hnot => ?_
    exact (amended_of_not_rewritten hb' (fun r i => (hfields r i).mp) hnot).trans (hm i hi hnot)
  have hlay := hlayout ⟨g.m_baseIdx, g.m_plain, rfl⟩ hm
  have hlay' := hlayout hs hm'
  have hcrypto : g'.m_crypto = g.m_crypto := by
    obtain ⟨_, _, rfl⟩ := hs
    rfl
  have hend : elemsEnd mode OFF_UDP_PAYLOAD g.m_plainSize ≤ g.m_skeletonSize :=
    hb.size ▸ Nat.le_add_right ..
  rw [amendFrame_snd, amendFrame_snd, hcrypto]
  refine sealFrame_eq hdet hlay hlay' (fun j _ hlt hiv => heq j (by omega) hiv fun _ => hlt)
    fun hnot => heq i hi (fun h => hnot (.inr (.inl h))) fun hmode => ?_
  by_contra hge
  have hsize := hb.size
  rw [trailerSize, if_neg hmode] at hsize
  exact hnot (.inl ⟨hmode, by omega, by omega⟩)

/-- A call leaves a buffer for the next one. -/
theorem fits_amendFrame (hb : g.Built mode) (hs : g.SameRun g')
    (hfields : ∀ r i, Mem.Covers (fields r) i → F r i) (hF : ∀ r i, F r i → r ≤ i)
    (hm : Fits mode F g m) :
    Fits mode F g (g'.amendFrame mode m stream spduNumber fields).2 := by
  obtain ⟨baseIdx, plain, rfl⟩ := hs
  have hb' : Built mode { g with m_baseIdx := baseIdx, m_plain := plain } :=
    ⟨hb.region, hb.spdu, hb.layout, hb.size⟩
  have hstay : ∀ i < g.m_skeletonSize, ¬ Rewritten mode F g i →
      amended mode { g with m_baseIdx := baseIdx, m_plain := plain } m stream spduNumber fields i =
        g.m_skeleton i := fun i hi hnot =>
    (amended_of_not_rewritten hb' hfields hnot).trans (hm i hi hnot)
  intro i hi hnot
  rw [amendFrame_snd, sealFrame_of_not_resealed (sealLayout_of_fits hb hF hstay)
    fun h => hnot (.inr (.inr h))]
  exact hstay i hi hnot

/-- And so it does the plaintext master. -/
lemma plainFits_amendFrame (hfields : ∀ r i, Mem.Covers (fields r) i → F r i)
    (hp : PlainFits F g) :
    PlainFits F { g with m_plain := (g.amendFrame mode m stream spduNumber fields).1 } := by
  intro i hi hnot
  refine Eq.trans ?_ (hp i hi hnot)
  show (if mode = .SEC_GCM then g.m_plain.patch (fields 0) else g.m_plain) i = _
  split_ifs
  · exact Mem.patch_of_not_covers (mt (hfields 0 i) hnot)
  · rfl

/-! ### The constructor -/

/-- The plaintext master as the constructor leaves it. -/
def PlainFresh (g : RoutableGen) : Prop :=
  ∀ i < g.m_plainSize, g.m_plain i = g.m_skeleton (g.m_regionOffset.toNat + i)

variable {si payloadType : UInt8} {maxPacketSize l2SkeletonSize l2AppidOff : ℕ} {l2Buf : Mem}
  {cfg : RFrameConfig} {baseIdx baseIdx' : UInt32} {crypto : Crypto}

variable (baseIdx) in
/-- The number of the first stream goes nowhere else. -/
lemma makeSkeletonPacket_baseIdx :
    makeSkeletonPacket si payloadType maxPacketSize l2Buf l2SkeletonSize l2AppidOff cfg baseIdx'
        crypto =
      (makeSkeletonPacket si payloadType maxPacketSize l2Buf l2SkeletonSize l2AppidOff cfg baseIdx
        crypto).map ({ · with m_baseIdx := baseIdx' }) := by
  unfold makeSkeletonPacket
  dsimp only
  split_ifs <;> rfl

theorem built_makeSkeletonPacket (h : makeSkeletonPacket si payloadType maxPacketSize l2Buf
    l2SkeletonSize l2AppidOff cfg baseIdx crypto = some g) :
    g.Built cfg.mode ∧ g.PlainFresh ∧ g.m_crypto = crypto ∧ g.m_baseIdx = baseIdx := by
  unfold makeSkeletonPacket at h
  dsimp only at h
  split_ifs at h with hlength hsize
  obtain rfl := Option.some.inj h
  generalize UInt16.ofNat (beNat (l2Buf.slice (l2AppidOff + 2) 2) - 8) = apduLen at *
  generalize (buildPrefix (fun _ => 0) 0 cfg (udpPayloadSize cfg.mode apduLen.toNat)).1 = m at *
  have hiv : (ivLength cfg.mode).toNat ≤ 12 := by cases cfg.mode <;> decide
  have hregion : (UInt16.ofNat (OFF_UDP_PAYLOAD + payloadHdrOffset (ivLength cfg.mode) + 4)).toNat =
      OFF_UDP_PAYLOAD + payloadHdrOffset (ivLength cfg.mode) + 4 := by
    rw [UInt16.toNat_ofNat', payloadHdrOffset, OFF_UDP_PAYLOAD, SESSION_FIXED_SIZE]
    omega
  refine ⟨⟨hregion, rfl, ?_, ?_⟩, ?_, rfl, rfl⟩
  · have hbuild := holds_build m OFF_UDP_PAYLOAD {
      si := si
      payloadType := payloadType
      mode := cfg.mode
      apduLength := apduLen }
    have happend := hbuild.write_append (b := OFF_UDP_PAYLOAD + apduOffset (ivLength cfg.mode)) (by
      rw [List.length_append, length_aadBytes (by simp), length_elemBytes]
      rfl) (l2Buf.slice (l2AppidOff + 8) apduLen.toNat)
    rw [List.append_assoc] at happend
    obtain ⟨hhead, _, hlen, _⟩ := (holds_aadBytes (by simp)).mp happend
    refine ⟨ivLengthAt_of_holds hhead, ?_⟩
    exact (beNat_of_holds hlen (BuildParams.payloadLength _).toNat_lt).trans
      (BuildParams.toNat_payloadLength _)
  · show OFF_UDP_PAYLOAD + udpPayloadSize cfg.mode apduLen.toNat = _
    simp only [udpPayloadSize, apduOffset, elemsEnd, PAYLOAD_HDR_SIZE, PAYLOAD_ELEM_SIZE]
    omega
  · intro i hi
    dsimp only at hi ⊢
    rw [hregion, Mem.write_zero_slice hi]

variable (si payloadType) in
/-- The session header of a skeleton. -/
def skeletonParams (cfg : RFrameConfig) (apduLength : ℕ) : BuildParams where
  si := si
  payloadType := payloadType
  mode := cfg.mode
  apduLength := UInt16.ofNat apduLength

/-- What the constructor lays out: the session PDU with the APDU of the L2 frame. -/
theorem holds_makeSkeletonPacket (h : makeSkeletonPacket si payloadType maxPacketSize l2Buf
    l2SkeletonSize l2AppidOff cfg baseIdx crypto = some g) :
    ∃ n, beNat (l2Buf.slice (l2AppidOff + 2) 2) = 8 + n ∧ n < 2 ^ 16 ∧
      g.m_plainSize = PAYLOAD_ELEM_SIZE + n ∧
      g.m_skeletonSize = OFF_UDP_PAYLOAD + udpPayloadSize cfg.mode n ∧
      g.m_skeletonSize ≤ maxPacketSize ∧
      g.m_skeleton.Holds OFF_UDP_PAYLOAD (plainBytes (skeletonParams si payloadType cfg n)
        (List.replicate (ivLength cfg.mode).toNat 0) (l2Buf.slice (l2AppidOff + 8) n)) := by
  unfold makeSkeletonPacket at h
  dsimp only at h
  split_ifs at h with hlength hsize
  obtain rfl := Option.some.inj h
  have hlt := beNat_lt (l2Buf.slice (l2AppidOff + 2) 2)
  rw [Mem.length_slice] at hlt
  obtain ⟨n, hn⟩ := Nat.exists_eq_add_of_le (not_lt.mp (not_or.mp hlength).1)
  have hmod : (UInt16.ofNat n).toNat = n := by
    rw [UInt16.toNat_ofNat']
    exact Nat.mod_eq_of_lt (by omega)
  rw [hn, Nat.add_sub_cancel_left, hmod] at hsize
  refine ⟨n, hn, by omega, ?_, ?_, ?_, ?_⟩
  · dsimp only
    rw [hn, Nat.add_sub_cancel_left, hmod]
  · dsimp only
    rw [hn, Nat.add_sub_cancel_left, hmod]
  · dsimp only
    rw [hn, Nat.add_sub_cancel_left, hmod]
    exact not_lt.mp hsize
  · dsimp only
    rw [hn, Nat.add_sub_cancel_left, hmod, plainBytes, ← List.append_assoc]
    refine (holds_build _ OFF_UDP_PAYLOAD (skeletonParams si payloadType cfg n)).write_append ?_ _
    rw [List.length_append, length_aadBytes (by simp [skeletonParams]), length_elemBytes]
    rfl

end RoutableGen

end ProcessBus
