import ProcessBus.Common.Prefix
import ProcessBus.Generator.Counters
import ProcessBus.Generator.Runs

/-!
# What a routable generator emits

A frame of a stream is a prefix for the group of the stream and a sealed session PDU with the number
of the frame, around the APDU with the values of the stream. What was in the buffer does not matter,
nor does it matter which generator of the run wrote it.
-/

namespace ProcessBus

open RSess RFrame

/-! ### The skeletons of the library -/

section Skeletons

variable {m : Mem} {h : L2Head} {ty : UInt8} {pdu : List UInt8}

/-- The length field of an L2 frame and its PDU. -/
lemma L2Head.length_of_holds (hm : m.Holds 0 (h.bytes ty ++ pdu)) :
    m.slice (h.appidAt ty + 2) 2 = h.rest.take 2 ∧ m.slice (h.appidAt ty + 8) pdu.length = pdu := by
  obtain ⟨hhead, hpdu⟩ := Mem.holds_append.mp hm
  rw [Nat.zero_add, h.length_bytes] at hpdu
  obtain ⟨_, hhead⟩ := Mem.holds_append.mp hhead
  obtain ⟨_, hhead⟩ := Mem.holds_append.mp hhead
  obtain ⟨_, hrest⟩ := Mem.holds_append.mp hhead
  rw [h.addresses_length, h.appid_length, Nat.zero_add] at hrest
  have hslice := hrest.slice_eq
  rw [h.rest_length] at hslice
  refine ⟨?_, hpdu.slice_eq⟩
  rw [← hslice, ← List.drop_zero (l := m.slice _ 6), Mem.take_drop_slice (by decide)]
  rfl

/-- The head with another source address. -/
def L2Head.withSource (h : L2Head) (src : MAC) : L2Head where
  addresses := h.addresses.take 6 ++ src.m_mac
  vlan := h.vlan
  appid := h.appid
  rest := h.rest
  addresses_length := by simp [h.addresses_length, src.size]
  vlan_length := h.vlan_length
  appid_length := h.appid_length
  rest_length := h.rest_length

lemma L2Head.holds_withSource (src : MAC) (hm : m.Holds 0 (h.bytes ty ++ pdu)) :
    (m.write 6 src.m_mac).Holds 0 ((h.withSource src).bytes ty ++ pdu) := by
  have hsplit : h.bytes ty ++ pdu = h.addresses.take 6 ++ (h.addresses.drop 6 ++
      (h.types ty ++ (h.appid ++ h.rest) ++ pdu)) := by
    rw [← List.append_assoc, List.take_append_drop]
    simp [L2Head.bytes]
  have hwrite := (hsplit ▸ hm).write_mid (b := 6) (by simp [h.addresses_length])
    (show src.m_mac.length = _ by simp [h.addresses_length, src.size])
  refine Eq.mp (congrArg (Mem.Holds _ 0) ?_) hwrite
  simp [L2Head.bytes, L2Head.withSource, L2Head.types]

/-- The source address `GooseTrafficGen` stores. -/
def GooseTrafficGen.sourceMAC : MAC := ⟨[0xF0, 0xF1, 0xF2, 0xF3, 0xF4, 0xF5], length_srcMAC⟩

variable {k : GooseLayout} {v : GooseValues} {msg : GooseMessage}

lemma GooseLayout.Describes.holds_skeleton (hk : k.Describes v msg) (n : UInt32) :
    (GooseTrafficGen.make msg n).m_skeleton.Holds 0
      ((k.head.withSource GooseTrafficGen.sourceMAC).bytes 0xB8 ++ k.pdu v) :=
  L2Head.holds_withSource _ hk.frame

/-- The APDU of the skeleton. -/
lemma GooseLayout.Describes.apdu_skeleton (hk : k.Describes v msg) (n : UInt32) :
    let l2 := GooseTrafficGen.make msg n
    let appidAt := (l2.m_offsets .GOOSE_APPID_OFFSET).toNat
    beNat (l2.m_skeleton.slice (appidAt + 2) 2) = 8 + (k.pdu v).length ∧
      l2.m_skeleton.slice (appidAt + 8) (k.pdu v).length = k.pdu v := by
  intro l2 appidAt
  obtain ⟨hlength, hapdu⟩ := L2Head.length_of_holds (hk.holds_skeleton n)
  have happid : appidAt = (k.head.withSource GooseTrafficGen.sourceMAC).appidAt 0xB8 := hk.appid
  rw [happid, hlength]
  exact ⟨hk.length, hapdu⟩

variable {ks : SvLayout} {sID : List UInt8} {cnt : ℕ → List UInt8} {svMsg : SvMessage}

/-- Likewise for Sampled Values. -/
lemma SvLayout.Describes.apdu_skeleton (hk : ks.Describes sID cnt svMsg) :
    beNat (svMsg.buffer.slice (svMsg.appidOffset.toNat + 2) 2) = 8 + (ks.pdu sID cnt).length ∧
      svMsg.buffer.slice (svMsg.appidOffset.toNat + 8) (ks.pdu sID cnt).length =
        ks.pdu sID cnt := by
  obtain ⟨hlength, hapdu⟩ := L2Head.length_of_holds hk.frame
  rw [hk.appid, hlength]
  exact ⟨hk.length, hapdu⟩

variable (k) in
/-- All messages have the same size. -/
lemma GooseLayout.length_pdu (v v' : GooseValues) : (k.pdu v).length = (k.pdu v').length := by
  simp [pdu, body, fields, GooseFields.elems, v.size_sID, v'.size_sID, v.size_t, v'.size_t,
    v.size_stNum, v'.size_stNum, v.size_sqNum, v'.size_sqNum]

lemma SvLayout.length_pdu {sID' : List UInt8} {cnt' : ℕ → List UInt8}
    (hsID : sID'.length = sID.length) (hcnt : ∀ i, (cnt' i).length = (cnt i).length) :
    (ks.pdu sID' cnt').length = (ks.pdu sID cnt).length := by
  simp only [pdu, body, List.length_append, SvLayout.length_asdusBytes hsID hcnt]

end Skeletons

variable (si payloadType : UInt8) (cfg : RFrameConfig)

/-- The header of a frame with `n` octets of APDU. -/
def frameParams (stream spduNumber : UInt32) (n : ℕ) : BuildParams :=
  { RoutableGen.skeletonParams si payloadType cfg n with
    spduNumber := spduNumber
    appid := (stream + 1).toUInt16 }

/-- The frame of a stream that carries `apdu`. -/
def Emitted (crypto : Crypto) (stream spduNumber : UInt32) (apdu : List UInt8) (frame : Mem) :
    Prop :=
  Carries crypto { cfg with dstIP := streamDstIp cfg.dstIP stream.toNat }
    (frameParams si payloadType cfg stream spduNumber apdu.length) (stream + 1).toUInt16 apdu frame

namespace RoutableGen

variable {g g' : RoutableGen} {m : Mem} {stream spduNumber : UInt32}
  {fields : ℕ → List Mem.Patch} {F : ℕ → ℕ → Prop} {mode : SecurityMode}

/-! ### The region -/

variable (stream spduNumber) in
/-- The region holds what the fields make of it, wherever it is. -/
lemma holds_region_amended {old new : List UInt8} (hb : g.Built mode) (hs : g.SameRun g')
    (hfields : ∀ r i, Mem.Covers (fields r) i ↔ F r i) (hm : Fits mode F g m)
    (hp : PlainFits F g') (hold : g.m_skeleton.Holds g.m_regionOffset.toNat old)
    (hnew : new.length = g.m_plainSize)
    (hstore : ∀ (x : Mem) r, x.Holds r old → (x.patch (fields r)).Holds r new) :
    (g'.amended mode m stream spduNumber fields).Holds g.m_regionOffset.toNat new := by
  have hb' := hs.built hb
  obtain ⟨baseIdx, plain, rfl⟩ := hs
  have hregion := hb.region
  have hsize := hb.size
  simp only [elemsEnd, payloadHdrOffset, SESSION_FIXED_SIZE, OFF_UDP_PAYLOAD] at hregion hsize
  unfold amended
  by_cases hmode : mode = .SEC_GCM
  · rw [if_pos hmode]
    -- the master is a copy of the region
    have hcopy : Mem.Holds (fun i => g.m_skeleton (g.m_regionOffset.toNat + i)) 0 old := by
      intro i hi
      rw [Nat.zero_add]
      exact hold i hi
    have hmaster : (plain.patch (fields 0)).slice 0 g.m_plainSize = new := by
      have hslice := (hstore _ 0 hcopy).slice_eq
      rw [hnew] at hslice
      rw [← hslice]
      refine Mem.slice_congr fun i _ hi => Mem.patch_eq fun hc => ?_
      exact hp i (by show i < g.m_plainSize; omega) (mt (hfields 0 i).mpr hc)
    rw [hmaster]
    exact Mem.holds_write _ _ _
  · rw [if_neg hmode]
    refine (hstore _ _ hold).congr fun i hle hlt => Mem.patch_eq fun hc => ?_
    have henv : ¬ InEnvelope i := by
      simp only [InEnvelope]
      omega
    rw [Mem.patch_of_not_covers (mt (covers_envelope hb').mp henv)]
    refine hm i (by omega) fun h => ?_
    simp only [Rewritten, Resealed, InIV, hmode, false_and, or_false] at h
    rcases h with h | ⟨_, h⟩ | ⟨_, hge, _⟩
    · exact henv h
    · exact hc ((hfields _ _).mpr h)
    · simp only [elemsEnd, payloadHdrOffset, SESSION_FIXED_SIZE, OFF_UDP_PAYLOAD] at hge
      omega

/-! ### The prefix -/

/-- The prefix of the skeleton, and the fields precomputed for the groups of the run. -/
structure Prefixed (cfg : RFrameConfig) (n : ℕ) (g : RoutableGen) (skeleton : Mem) : Prop where
  holds : skeleton.Holds 0 (prefixBytes cfg (udpPayloadSize cfg.mode n) 0)
  eq : ∀ i < OFF_UDP_PAYLOAD, g.m_skeleton i = skeleton i
  dst : g.m_dst = fun i => makeDstFields skeleton (streamDstIp cfg.dstIP i)

variable {si payloadType : UInt8} {maxPacketSize l2SkeletonSize l2AppidOff n : ℕ} {l2Buf : Mem}
  {cfg : RFrameConfig} {baseIdx : UInt32} {crypto : Crypto} {skeleton : Mem}

lemma prefixed_makeSkeletonPacket (h : makeSkeletonPacket si payloadType maxPacketSize l2Buf
    l2SkeletonSize l2AppidOff cfg baseIdx crypto = some g)
    (hn : g.m_plainSize = PAYLOAD_ELEM_SIZE + n) : ∃ skeleton, Prefixed cfg n g skeleton := by
  unfold makeSkeletonPacket at h
  dsimp only at h
  split_ifs at h
  obtain rfl := Option.some.inj h
  obtain rfl := Nat.add_left_cancel hn
  refine ⟨_, holds_buildPrefix _ _, fun i hi => ?_, rfl⟩
  exact (Mem.write_of_lt (Nat.lt_add_right _ hi)).trans (build_of_lt hi)

/-- The groups repeat. -/
lemma streamDstIp_and (base : UInt32) (idx : ℕ) :
    streamDstIp base (idx &&& (R_DST_SPREAD - 1)) = streamDstIp base idx := by
  rw [streamDstIp, streamDstIp, Nat.and_assoc, Nat.and_self]

variable (stream spduNumber) in
/-- In front of the session PDU stands the prefix for the group of the stream. -/
lemma holds_prefix_amended (hb : g.Built mode) (hs : g.SameRun g')
    (hfront : Prefixed cfg n g skeleton) (hfields : ∀ r i, Mem.Covers (fields r) i → F r i)
    (hF : ∀ r i, F r i → r ≤ i) (hm : Fits mode F g m) :
    (g'.amended mode m stream spduNumber fields).Holds 0 (prefixBytes
      { cfg with dstIP := streamDstIp cfg.dstIP stream.toNat } (udpPayloadSize cfg.mode n)
      (stream + 1).toUInt16) := by
  have hb' := hs.built hb
  have hdst : g'.m_dst (stream.toNat &&& (R_DST_SPREAD - 1)) =
      makeDstFields skeleton (streamDstIp cfg.dstIP stream.toNat) := by
    obtain ⟨_, _, rfl⟩ := hs
    exact (congrFun hfront.dst _).trans (by rw [streamDstIp_and])
  have hspdu : g'.m_spduOffset.toNat = 52 := hb'.spdu
  have henv : g'.envelope stream spduNumber =
      [(OFF_UDP_SRC_PORT, beBytes 2 (stream + 1).toUInt16.toNat),
        (OFF_ETH_DMAC, (makeDstFields skeleton (streamDstIp cfg.dstIP stream.toNat)).dmac.m_mac),
        (OFF_IP_DST, (makeDstFields skeleton (streamDstIp cfg.dstIP stream.toNat)).dstIP_be),
        (OFF_IP_CSUM, (makeDstFields skeleton (streamDstIp cfg.dstIP stream.toNat)).ipCsum_be)] ++
      [(52, beBytes 4 spduNumber.toNat)] := by
    simp only [envelope, hdst, hspdu, List.cons_append, List.nil_append]
  have hpatched := holds_patch_dst (streamDstIp cfg.dstIP stream.toNat) (stream + 1).toUInt16
    hfront.holds
  have hall : (skeleton.patch (g'.envelope stream spduNumber)).Holds 0 (prefixBytes
      { cfg with dstIP := streamDstIp cfg.dstIP stream.toNat } (udpPayloadSize cfg.mode n)
      (stream + 1).toUInt16) := by
    rw [henv, Mem.patch_append]
    refine hpatched.patch fun p hp => .inl ?_
    rw [List.mem_singleton.mp hp, length_prefixBytes]
    show 0 + 42 ≤ 52
    decide
  refine hall.congr fun i _ hi => ?_
  rw [length_prefixBytes, Nat.zero_add] at hi
  have hregion := hb.region
  have hsize := hb.size
  simp only [elemsEnd, payloadHdrOffset, SESSION_FIXED_SIZE, OFF_UDP_PAYLOAD] at hregion hsize hi
  have hlt : i < g'.m_regionOffset.toNat := by
    rw [hb'.region]
    simp only [payloadHdrOffset, SESSION_FIXED_SIZE, OFF_UDP_PAYLOAD]
    omega
  rw [amended_of_lt hfields hF hlt]
  refine Mem.patch_eq fun hc => ?_
  have hnot : ¬ InEnvelope i := mt (covers_envelope hb').mpr hc
  refine (hm i (by omega) fun h => ?_).trans (hfront.eq i hi)
  simp only [Rewritten, Resealed, InIV, elemsEnd, payloadHdrOffset, SESSION_FIXED_SIZE, OFF_IV,
    OFF_UDP_PAYLOAD] at h
  rcases h with h | ⟨_, h⟩ | ⟨_, h, _⟩ | ⟨_, h, _⟩ | ⟨_, h, _⟩
  · exact hnot h
  · have := hF _ _ h
    omega
  · omega
  · omega
  · omega

/-! ### The frame -/

lemma size_makeSkeletonPacket (h : makeSkeletonPacket si payloadType maxPacketSize l2Buf
    l2SkeletonSize l2AppidOff cfg baseIdx crypto = some g)
    (hn : beNat (l2Buf.slice (l2AppidOff + 2) 2) = 8 + n) :
    g.m_skeletonSize = OFF_UDP_PAYLOAD + udpPayloadSize cfg.mode n ∧
      g.m_skeletonSize ≤ maxPacketSize := by
  obtain ⟨n', hn', _, _, hsize, hmax, _⟩ := holds_makeSkeletonPacket h
  obtain rfl := Nat.add_left_cancel (hn'.symm.trans hn)
  exact ⟨hsize, hmax⟩

/-- A frame of a stream, if the fields turn the APDU of the skeleton into `apdu`. -/
theorem emitted_amendFrame {apdu apdu' : List UInt8} (h : makeSkeletonPacket si payloadType
    maxPacketSize l2Buf l2SkeletonSize l2AppidOff cfg baseIdx crypto = some g)
    (hs : g.SameRun g') (hfields : ∀ r i, Mem.Covers (fields r) i ↔ F r i)
    (hF : ∀ r i, F r i → r ≤ i) (hm : Fits cfg.mode F g m) (hp : PlainFits F g')
    (hn : beNat (l2Buf.slice (l2AppidOff + 2) 2) = 8 + apdu.length)
    (hapdu' : l2Buf.slice (l2AppidOff + 8) apdu.length = apdu')
    (hstore : ∀ (x : Mem) r,
      x.Holds r (elemBytes (skeletonParams si payloadType cfg apdu.length) ++ apdu') →
      (x.patch (fields r)).Holds r
        (elemBytes (frameParams si payloadType cfg stream spduNumber apdu.length) ++ apdu)) :
    Emitted si payloadType cfg crypto stream spduNumber apdu
      (g'.amendFrame cfg.mode m stream spduNumber fields).2 := by
  obtain ⟨n, hn', hlt, hplainSize, _, _, hplain⟩ := holds_makeSkeletonPacket h
  obtain rfl := Nat.add_left_cancel (hn'.symm.trans hn)
  rw [hapdu'] at hplain
  obtain ⟨hb, _, hcrypto, _⟩ := built_makeSkeletonPacket h
  have hmode : (skeletonParams si payloadType cfg apdu.length).mode = cfg.mode := rfl
  have hcrypto' : g'.m_crypto = crypto := by
    obtain ⟨_, _, rfl⟩ := hs
    exact hcrypto
  obtain ⟨skeleton, hskeleton⟩ := prefixed_makeSkeletonPacket h hplainSize
  obtain ⟨hhead, _, hlength, hold⟩ := (holds_aadBytes List.length_replicate).mp hplain
  rw [hmode] at hlength hold
  -- what `seal` gets
  have hfront := holds_prefix_amended stream spduNumber hb hs hskeleton
    (fun r i => (hfields r i).mp) hF hm
  obtain ⟨hhead', hlength'⟩ := holds_head_amended stream spduNumber hb hs
    (fun r i => (hfields r i).mp) hF hm hhead hlength
  have hregion := holds_region_amended stream spduNumber hb hs hfields hm hp
    (by rw [hb.region]; exact hold)
    (by rw [List.length_append, length_elemBytes, hplainSize]) hstore
  rw [hb.region] at hregion
  rw [amendFrame_snd, hcrypto']
  generalize g'.amended cfg.mode m stream spduNumber fields = m' at *
  have hiv := Mem.length_slice m' (OFF_UDP_PAYLOAD + OFF_IV) (ivLength cfg.mode).toNat
  have hamended : m'.Holds OFF_UDP_PAYLOAD (plainBytes
      (frameParams si payloadType cfg stream spduNumber apdu.length)
      (m'.slice (OFF_UDP_PAYLOAD + OFF_IV) (ivLength cfg.mode).toNat) apdu) :=
    (holds_aadBytes hiv).mpr ⟨hhead', Mem.holds_slice _ _ _, hlength', hregion⟩
  have hlay : SealLayout cfg.mode OFF_UDP_PAYLOAD
      (skeletonParams si payloadType cfg apdu.length).payloadLength.toNat m' :=
    ⟨ivLengthAt_of_holds hhead', beNat_of_holds hlength' (BuildParams.payloadLength _).toNat_lt⟩
  have hapduLen : apdu.length = (UInt16.ofNat apdu.length).toNat := by
    rw [UInt16.toNat_ofNat', Nat.mod_eq_of_lt hlt]
  refine ⟨hfront.congr fun i _ hi => sealFrame_of_not_resealed hlay fun hr => ?_, hapduLen,
    _, _, hiv, Mem.length_slice _ _ TAG_SIZE, holds_sealFrame crypto hamended hiv hapduLen⟩
  rw [length_prefixBytes, Nat.zero_add] at hi
  simp only [Resealed, InIV, elemsEnd, OFF_UDP_PAYLOAD] at hr hi
  omega

end RoutableGen

variable {si payloadType cfg}

/-- The first field of the region is the APPID of the payload header. -/
lemma holds_appid {m : Mem} {r n : ℕ} (stream spduNumber : UInt32) {apdu : List UInt8}
    (h : m.Holds r (elemBytes (RoutableGen.skeletonParams si payloadType cfg n) ++ apdu)) :
    (m.write (r + 2) (beBytes 2 (stream + 1).toUInt16.toNat)).Holds r
      (elemBytes (frameParams si payloadType cfg stream spduNumber n) ++ apdu) := by
  have hsplit : ∀ params : BuildParams, elemBytes params ++ apdu =
      [params.payloadType, if params.simulation then 1 else 0] ++ (beBytes 2 params.appid.toNat ++
        (beBytes 2 params.apduLength.toNat ++ apdu)) := fun params => by
    simp [elemBytes]
  rw [hsplit] at h ⊢
  exact h.write_mid rfl (by simp)

/-- An offset into the APDU of an L2 frame, rebased to the payload header. -/
lemma toNat_rebased {off appid : UInt16} {d : ℕ} (h : off.toNat = appid.toNat + 8 + d) :
    (UInt16.ofNat PAYLOAD_ELEM_SIZE + (off - (appid + 8))).toNat = PAYLOAD_ELEM_SIZE + d := by
  have hoff := off.toNat_lt
  have happid : (appid + 8).toNat = appid.toNat + 8 := by
    rw [UInt16.toNat_add]
    exact Nat.mod_eq_of_lt (by show appid.toNat + 8 < _; omega)
  have hsub : (off - (appid + 8)).toNat = d := by
    rw [UInt16.toNat_sub_of_le _ _ (UInt16.le_iff_toNat_le.mpr (by omega)), happid, h]
    omega
  rw [UInt16.toNat_add, hsub]
  exact Nat.mod_eq_of_lt (by show 6 + d < _; omega)

/-! ### R-GOOSE -/

namespace RGooseTrafficGen

variable {gen : RGooseTrafficGen} {k : GooseLayout} {v : GooseValues} {stream : UInt32}
  {ied : GooseSourceIED}

/-- The offsets of a generator point at the fields of the APDU behind the payload header. -/
structure OffsetsOk (k : GooseLayout) (v : GooseValues) (gen : RGooseTrafficGen) : Prop where
  appid : gen.m_offsets .GOOSE_APPID_OFFSET = 2
  field : ∀ i, i ≠ .GOOSE_APPID_OFFSET → (gen.m_offsets i).toNat =
    PAYLOAD_ELEM_SIZE + Mem.segAt (k.segs v) (GooseLayout.segOf i)

lemma offsetsOk_of_make {msg : GooseMessage} {crypto : Crypto} {n b : UInt32}
    (hk : k.Describes v msg) (h : make msg cfg crypto n b = some gen) : gen.OffsetsOk k v := by
  obtain ⟨_, _, hoffsets⟩ := parts_of_make h
  refine ⟨by rw [hoffsets]; rfl, fun i hi => ?_⟩
  rw [hoffsets]
  dsimp only
  rw [if_neg hi]
  exact toNat_rebased (by rw [hk.appid]; exact hk.offsets i hi)

/-- A call stores the APPID and the values of the stream in the region. -/
lemma holds_patches (hoffsets : gen.OffsetsOk k v) {m : Mem} {r n : ℕ} (spduNumber : UInt32)
    (h : m.Holds r (elemBytes (RoutableGen.skeletonParams si payloadType cfg n) ++ k.pdu v)) :
    (m.patch (gen.patches stream ied r)).Holds r
      (elemBytes (frameParams si payloadType cfg stream spduNumber n) ++
        k.pdu (gen.behind ied).values) := by
  have happid := holds_appid stream spduNumber h
  have hplace : (gen.m_offsets .GOOSE_APPID_OFFSET).toNat = 2 := by rw [hoffsets.appid]; rfl
  obtain ⟨helem, hpdu⟩ := Mem.holds_append.mp happid
  rw [length_elemBytes] at hpdu
  have hat : ∀ i, i ≠ .GOOSE_APPID_OFFSET → r + (gen.m_offsets i).toNat =
      r + PAYLOAD_ELEM_SIZE + Mem.segAt (k.segs v) (GooseLayout.segOf i) := fun i hi => by
    rw [hoffsets.field i hi, Nat.add_assoc]
  rw [patches, Mem.patch_cons, hplace]
  refine Mem.holds_append.mpr ⟨helem.patch fun p hp => .inl ?_, ?_⟩
  · rw [length_elemBytes]
    refine GooseSourceIED.le_of_mem_fields (fun i hi => ?_) p hp
    rw [hat i hi]
    exact Nat.le_add_right _ _
  · rw [length_elemBytes]
    exact GooseLayout.holds_amended hpdu hat

/-- The state of stream `idx` behind its call number `j`. -/
def iedAfter (gen : RGooseTrafficGen) (idx : UInt32) (j : ℕ) : GooseSourceIED :=
  gen.behind^[j + 1] (gen.m_ieds.getD idx.toNat default)

lemma ied_of_make {msg : GooseMessage} {crypto : Crypto} {n b idx : UInt32}
    (h : make msg cfg crypto n b = some gen) (hidx : idx.toNat < n.toNat) :
    gen.m_ieds.getD idx.toNat default = .init (b.toNat + idx.toNat + 1) := by
  rw [(built_of_make h).2.2.2, List.getD_eq_getElem?_getD, List.getElem?_map,
    List.getElem?_range hidx]
  rfl

/-- The name and the numbers of a frame. -/
lemma iedAfter_of_make {msg : GooseMessage} {crypto : Crypto} {n b idx : UInt32}
    (h : make msg cfg crypto n b = some gen) (hidx : idx.toNat < n.toNat) (j : ℕ) :
    (gen.iedAfter idx j).sID = printDecimal 8 (b.toNat + idx.toNat + 1) ∧
      (gen.iedAfter idx j).stNum = UInt32.ofNat (j + 1) ∧
      (gen.iedAfter idx j).spduNumber = UInt32.ofNat (j + 1) := by
  rw [iedAfter, ied_of_make h hidx]
  refine ⟨kept_iterate sID_behind _ _, ?_, ?_⟩
  · rw [counter_iterate stNum_behind]
    exact UInt32.zero_add _
  · rw [counter_iterate spduNumber_behind]
    exact UInt32.zero_add _

/-- The size of all frames. -/
lemma size_of_make {msg : GooseMessage} {crypto : Crypto} {n b : UInt32} (hk : k.Describes v msg)
    (h : make msg cfg crypto n b = some gen) :
    gen.m_skeletonSize = OFF_UDP_PAYLOAD + udpPayloadSize cfg.mode (k.pdu v).length ∧
      gen.m_skeletonSize ≤ MAX_GOOSE_PACKET_SIZE :=
  RoutableGen.size_makeSkeletonPacket (parts_of_make h).1 (hk.apdu_skeleton n).1

/-- What a call emits. -/
lemma emitted_amendPacket {msg : GooseMessage} {crypto : Crypto} {n b base : UInt32} {c : ℕ}
    {g : RGooseTrafficGen} {m : Mem} (hk : k.Describes v msg)
    (h : make msg cfg crypto n b = some gen) (hg : gen.Of c base g)
    (hm : RoutableGen.Fits cfg.mode gen.places gen.toRoutableGen m) (stream : UInt32)
    (ied : GooseSourceIED) :
    Emitted SI_R_GOOSE PAYLOAD_TYPE_GOOSE cfg crypto stream (gen.behind ied).spduNumber
      (k.pdu (gen.behind ied).values)
      (g.amendFrame cfg.mode m stream (g.behind ied).spduNumber (g.patches stream ied)).2 := by
  obtain ⟨ieds, plain, rfl, _, hplain⟩ := hg
  obtain ⟨hskeleton, _⟩ := parts_of_make h
  obtain ⟨hlength, hapdu⟩ := hk.apdu_skeleton n
  refine RoutableGen.emitted_amendFrame hskeleton ⟨_, _, rfl⟩ (covers_patches _ _) le_of_places hm
    hplain ?_ ?_ fun x r hx => holds_patches (offsetsOk_of_make hk h) _ hx
  · rw [k.length_pdu _ v]
    exact hlength
  · rw [k.length_pdu _ v]
    exact hapdu

/-- Every frame of a run is one of its stream, with the values the stream has reached. -/
theorem emitted_of_run {msg : GooseMessage} {crypto : Crypto} {ω : Type} [DecidableEq ω]
    {num base : ω → UInt32} {gens : ω → RGooseTrafficGen}
    {s : Pool.State ω UInt32 RGooseTrafficGen} (hk : k.Describes v msg)
    (h : ∀ w, make msg cfg crypto (num w) (base w) = some (gens w))
    (hrun : (GenKind.rgoose cfg.mode).Run gens s) {w : ω} {idx : UInt32} {j : ℕ} {f : Mem}
    (hf : (s.frames w idx)[j]? = some f) :
    Emitted SI_R_GOOSE PAYLOAD_TYPE_GOOSE cfg crypto (idx + base w)
      ((gens w).iedAfter idx j).spduNumber (k.pdu ((gens w).iedAfter idx j).values) f := by
  have hsent : Pool.Sent (amendPacket cfg.mode) (fun u idx => idx.toNat < (num u).toNat)
      (fun u g => (gens w).Of (num u).toNat (base u) g)
      (RoutableGen.Fits cfg.mode (gens w).places (gens w).toRoutableGen)
      (fun g idx => g.m_ieds.getD idx.toNat default)
      fun u idx ied f => Emitted SI_R_GOOSE PAYLOAD_TYPE_GOOSE cfg crypto (idx + base u)
        ((gens w).behind ied).spduNumber (k.pdu ((gens w).behind ied).values) f := by
    intro u g m idx hg hm _
    have hbase : g.m_baseIdx = base u := by
      obtain ⟨_, _, rfl, _⟩ := hg
      rfl
    rw [amendPacket_snd, hbase]
    exact emitted_amendPacket hk (h w) hg hm _ _
  obtain ⟨buffers, hunused, hreach⟩ := hrun
  have hlen : ∀ u, ((GenKind.rgoose cfg.mode).ieds (gens u)).length = (num u).toNat :=
    fun u => length_ieds (h u)
  simp only [hlen] at hreach
  rw [iedAfter, Function.iterate_succ_apply']
  refine Pool.sent_of_reach (rules (built_of_make (h w)).1 (fun u => (num u).toNat) base) @hsent
    (fun u => of_make (h w) (h u)) (fun b => ?_) rfl hreach hf
  exact fits_of_fresh (h w) (h w) (hunused w b)

/-- The frame number `j` of a stream: the numbers in it, and its size, which fits a datagram. -/
lemma frame_of_run {msg : GooseMessage} {crypto : Crypto} {ω : Type} [DecidableEq ω]
    {num base : ω → UInt32} {gens : ω → RGooseTrafficGen}
    {s : Pool.State ω UInt32 RGooseTrafficGen} (hk : k.Describes v msg)
    (h : ∀ w, make msg cfg crypto (num w) (base w) = some (gens w))
    (hrun : (GenKind.rgoose cfg.mode).Run gens s) {w : ω} {idx : UInt32} (hidx : idx < num w)
    {j : ℕ} {f : Mem} (hf : (s.frames w idx)[j]? = some f) :
    ∃ ied : GooseSourceIED, ied.sID = printDecimal 8 ((base w).toNat + idx.toNat + 1) ∧
      ied.stNum = UInt32.ofNat (j + 1) ∧ k.Valid ied.values ∧
      (gens w).m_skeletonSize =
        OFF_UDP_PAYLOAD + udpPayloadSize cfg.mode (k.pdu ied.values).length ∧
      28 + udpPayloadSize cfg.mode (k.pdu ied.values).length < 2 ^ 16 ∧
      Emitted SI_R_GOOSE PAYLOAD_TYPE_GOOSE cfg crypto (idx + base w) (UInt32.ofNat (j + 1))
        (k.pdu ied.values) f := by
  obtain ⟨hsID, hst, hspdu⟩ := iedAfter_of_make (h w) hidx j
  have hemit := emitted_of_run hk h hrun hf
  obtain ⟨hsize, hmax⟩ := size_of_make hk (h w)
  rw [k.length_pdu v ((gens w).iedAfter idx j).values] at hsize
  rw [hspdu] at hemit
  refine ⟨_, hsID, hst, hk.valid.congr _, hsize, ?_, hemit⟩
  rw [hsize] at hmax
  simp only [OFF_UDP_PAYLOAD, MAX_GOOSE_PACKET_SIZE] at hmax
  omega

end RGooseTrafficGen

/-! ### R-SV -/

namespace RSVTrafficGen

variable {gen : RSVTrafficGen} {k : SvLayout} {sID : List UInt8} {cnt : ℕ → List UInt8}
  {stream : UInt32} {ied : SVSourceIED}

/-- The offsets of a generator point at the fields of the APDU behind the payload header. -/
structure OffsetsOk (k : SvLayout) (sID : List UInt8) (cnt : ℕ → List UInt8)
    (gen : RSVTrafficGen) : Prop where
  appid : gen.m_appidOffset = 2
  field : ∀ i (hi : i < k.asdus.length),
    (gen.m_asduOffs i).svid.toNat = PAYLOAD_ELEM_SIZE +
      (k.asduAt sID cnt i + Mem.segAt (k.asdus[i].segs sID (cnt i)) 2) ∧
    (gen.m_asduOffs i).smpCnt.toNat = PAYLOAD_ELEM_SIZE +
      (k.asduAt sID cnt i + Mem.segAt (k.asdus[i].segs sID (cnt i)) 6)

lemma toNat_rebase {appid off : UInt16} {d : ℕ} (h : off.toNat = appid.toNat + 8 + d) :
    (rebase appid off).toNat = PAYLOAD_ELEM_SIZE + d := by
  have hne : off ≠ 0 := by
    rintro rfl
    have hzero : (0 : UInt16).toNat = 0 := rfl
    omega
  rw [rebase, if_neg hne, toNat_rebased h]

lemma offsetsOk_of_make {msg : SvMessage} {crypto : Crypto} {type : SvType} {n b : UInt32}
    (hk : k.Describes sID cnt msg) (h : make msg cfg crypto type n b = some gen) :
    gen.OffsetsOk k sID cnt := by
  obtain ⟨_, _, happid, _, hoffsets⟩ := parts_of_make h
  refine ⟨happid, fun i hi => ?_⟩
  obtain ⟨hsvid, hsmpCnt⟩ := hk.offsets i hi
  rw [hoffsets]
  exact ⟨toNat_rebase (by rw [hk.appid]; exact hsvid),
    toNat_rebase (by rw [hk.appid]; exact hsmpCnt)⟩

/-- A call stores the APPID and the values of the stream in the region. -/
lemma holds_patches (hoffsets : gen.OffsetsOk k sID cnt) (hsID : sID.length = 4)
    (hcnt : ∀ i, (cnt i).length = 2) {m : Mem} {r n : ℕ} (spduNumber : UInt32)
    (h : m.Holds r (elemBytes (RoutableGen.skeletonParams si payloadType cfg n) ++
      k.pdu sID cnt)) :
    (m.patch (gen.patches k.asdus.length stream ied r)).Holds r
      (elemBytes (frameParams si payloadType cfg stream spduNumber n) ++
        k.pdu ied.sID ({ ied with spduNumber := ied.spduNumber + 1 }.counters gen.m_freq)) := by
  have happid := holds_appid stream spduNumber h
  have hplace : gen.m_appidOffset.toNat = 2 := by rw [hoffsets.appid]; rfl
  obtain ⟨helem, hpdu⟩ := Mem.holds_append.mp happid
  rw [length_elemBytes] at hpdu
  have hat : ∀ i (hi : i < k.asdus.length),
      r + (gen.m_asduOffs i).svid.toNat = r + PAYLOAD_ELEM_SIZE + (k.asduAt sID cnt i +
        Mem.segAt (k.asdus[i].segs sID (cnt i)) 2) ∧
      r + (gen.m_asduOffs i).smpCnt.toNat = r + PAYLOAD_ELEM_SIZE + (k.asduAt sID cnt i +
        Mem.segAt (k.asdus[i].segs sID (cnt i)) 6) := fun i hi => by
    obtain ⟨hsvid, hsmpCnt⟩ := hoffsets.field i hi
    rw [hsvid, hsmpCnt, Nat.add_assoc, Nat.add_assoc]
    exact ⟨rfl, rfl⟩
  rw [patches, Mem.patch_cons, hplace]
  refine Mem.holds_append.mpr ⟨helem.patch fun p hp => .inl ?_, ?_⟩
  · rw [length_elemBytes]
    refine SVSourceIED.le_of_mem_fields (fun j hj => ?_) p hp
    obtain ⟨hsvid, hsmpCnt⟩ := hat j hj
    rw [hsvid, hsmpCnt]
    exact ⟨Nat.le_add_right _ _, Nat.le_add_right _ _⟩
  · rw [length_elemBytes]
    exact SvLayout.holds_amended hsID hcnt hpdu hat

/-- The state of stream `idx` in its call number `j`. -/
def iedIn (num : ℕ) (gen : RSVTrafficGen) (idx : UInt32) (j : ℕ) : SVSourceIED :=
  let ied := (gen.behind num)^[j] (gen.m_ieds.getD idx.toNat default)
  { ied with spduNumber := ied.spduNumber + 1 }

lemma ied_of_make {msg : SvMessage} {type : SvType} {crypto : Crypto} {n b idx : UInt32}
    (h : make msg cfg crypto type n b = some gen) (hidx : idx.toNat < n.toNat) :
    gen.m_ieds.getD idx.toNat default =
      .init (UInt32.ofNat (b.toNat + idx.toNat + 1)).toNat := by
  rw [(built_of_make h).2.2.2.2, List.getD_eq_getElem?_getD, List.getElem?_map,
    List.getElem?_range hidx]
  rfl

/-- The name and the numbers of a frame. -/
lemma iedIn_of_make {msg : SvMessage} {type : SvType} {crypto : Crypto} {n b idx : UInt32} (num : ℕ)
    (h : make msg cfg crypto type n b = some gen) (hidx : idx.toNat < n.toNat) (j : ℕ) :
    (gen.iedIn num idx j).sID =
        printDecimal 4 (UInt32.ofNat (b.toNat + idx.toNat + 1)).toNat ∧
      (gen.iedIn num idx j).smpCnt.toNat = num * j % type.freq ∧
      (gen.iedIn num idx j).spduNumber = UInt32.ofNat (j + 1) := by
  have hfreq := (built_of_make h).2.2.2.1
  have hle : gen.m_freq ≤ 2 ^ 16 := by
    rw [hfreq]
    cases type <;> decide
  have hpos : 0 < gen.m_freq := by
    rw [hfreq]
    cases type <;> decide
  rw [iedIn, ied_of_make h hidx]
  refine ⟨kept_iterate sID_behind _ _, ?_, spduNumber_iterate gen rfl j⟩
  have hcnt := @smpCnt_iterate gen num (.init (UInt32.ofNat (b.toNat + idx.toNat + 1)).toNat) hle
    hpos j
  rw [hfreq] at hcnt
  exact hcnt.trans (congrArg (· % type.freq) (Nat.zero_add _))

/-- The size of all frames. -/
lemma size_of_make {msg : SvMessage} {type : SvType} {crypto : Crypto} {n b : UInt32}
    (hk : k.Describes sID cnt msg) (h : make msg cfg crypto type n b = some gen) :
    gen.m_skeletonSize = OFF_UDP_PAYLOAD + udpPayloadSize cfg.mode (k.pdu sID cnt).length ∧
      gen.m_skeletonSize ≤ MAX_SV_PACKET_SIZE :=
  RoutableGen.size_makeSkeletonPacket (parts_of_make h).1 hk.apdu_skeleton.1

/-- What a call emits. -/
lemma emitted_amendAsdus {msg : SvMessage} {type : SvType} {crypto : Crypto} {n b base : UInt32}
    {c : ℕ} {g : RSVTrafficGen} {m : Mem} (hk : k.Describes sID cnt msg) (hsID : sID.length = 4)
    (hcnt : ∀ i, (cnt i).length = 2) (hnum : k.asdus.length = type.asduNum)
    (h : make msg cfg crypto type n b = some gen) (hg : gen.Of type.asduNum c base g)
    (hm : RoutableGen.Fits cfg.mode (gen.places type.asduNum) gen.toRoutableGen m)
    (stream : UInt32) (ied : SVSourceIED) :
    Emitted SI_R_SV PAYLOAD_TYPE_SV cfg crypto stream (ied.spduNumber + 1)
      (k.pdu ied.sID ({ ied with spduNumber := ied.spduNumber + 1 }.counters type.freq))
      (g.amendFrame cfg.mode m stream (ied.spduNumber + 1)
        (g.patches type.asduNum stream ied)).2 := by
  obtain ⟨ieds, plain, rfl, _, hplain⟩ := hg
  obtain ⟨hskeleton, _⟩ := parts_of_make h
  obtain ⟨hlength, hapdu⟩ := hk.apdu_skeleton
  obtain ⟨_, _, _, hfreq, _⟩ := built_of_make h
  have hsize : (k.pdu ied.sID ({ ied with spduNumber := ied.spduNumber + 1 }.counters
      type.freq)).length = (k.pdu sID cnt).length :=
    SvLayout.length_pdu (ied.size.trans hsID.symm)
      fun i => (length_beBytes _ _).trans (hcnt i).symm
  refine RoutableGen.emitted_amendFrame hskeleton ⟨_, _, rfl⟩ (covers_patches _ _) le_of_places hm
    hplain ?_ (show _ = k.pdu sID cnt from ?_) fun x r hx => ?_
  · rw [hsize]
    exact hlength
  · rw [hsize]
    exact hapdu
  · rw [← hfreq] at hx ⊢
    rw [← hnum]
    exact holds_patches (offsetsOk_of_make hk h) hsID hcnt _ hx

/-- Every frame of a run is one of its stream, with the values the stream has reached. -/
theorem emitted_of_run {msg : SvMessage} {type : SvType} {crypto : Crypto} {ω : Type}
    [DecidableEq ω] {num base : ω → UInt32} {gens : ω → RSVTrafficGen}
    {s : Pool.State ω UInt32 RSVTrafficGen} (hk : k.Describes sID cnt msg) (hsID : sID.length = 4)
    (hcnt : ∀ i, (cnt i).length = 2) (hnum : k.asdus.length = type.asduNum)
    (h : ∀ w, make msg cfg crypto type (num w) (base w) = some (gens w))
    (hrun : (GenKind.rsv cfg.mode type).Run gens s) {w : ω} {idx : UInt32} {j : ℕ} {f : Mem}
    (hf : (s.frames w idx)[j]? = some f) :
    let ied := (gens w).iedIn type.asduNum idx j
    Emitted SI_R_SV PAYLOAD_TYPE_SV cfg crypto (idx + base w) ied.spduNumber
      (k.pdu ied.sID (ied.counters type.freq)) f := by
  have hsent : Pool.Sent (amendAsdus type.asduNum cfg.mode)
      (fun u idx => idx.toNat < (num u).toNat)
      (fun u g => (gens w).Of type.asduNum (num u).toNat (base u) g)
      (RoutableGen.Fits cfg.mode ((gens w).places type.asduNum) (gens w).toRoutableGen)
      (fun g idx => g.m_ieds.getD idx.toNat default)
      fun u idx ied f => Emitted SI_R_SV PAYLOAD_TYPE_SV cfg crypto (idx + base u)
        (ied.spduNumber + 1) (k.pdu ied.sID
          ({ ied with spduNumber := ied.spduNumber + 1 }.counters type.freq)) f := by
    intro u g m idx hg hm _
    have hbase : g.m_baseIdx = base u := by
      obtain ⟨_, _, rfl, _⟩ := hg
      rfl
    rw [amendAsdus_snd, hbase]
    exact emitted_amendAsdus hk hsID hcnt hnum (h w) hg hm _ _
  obtain ⟨buffers, hunused, hreach⟩ := hrun
  have hlen : ∀ u, ((GenKind.rsv cfg.mode type).ieds (gens u)).length = (num u).toNat :=
    fun u => length_ieds (h u)
  simp only [hlen, GenKind.rsv_amend] at hreach
  refine Pool.sent_of_reach (rules (built_of_make (h w)).1 (fun u => (num u).toNat) base) @hsent
    (fun u => of_make _ (h w) (h u)) (fun b => ?_) rfl hreach hf
  exact fits_of_fresh _ (h w) (h w) (hunused w b)

/-- The frame number `j` of a stream: the numbers in it, and its size, which fits a datagram. -/
lemma frame_of_run {msg : SvMessage} {type : SvType} {crypto : Crypto} {ω : Type}
    [DecidableEq ω] {num base : ω → UInt32} {gens : ω → RSVTrafficGen}
    {s : Pool.State ω UInt32 RSVTrafficGen} (hk : k.Describes sID cnt msg) (hsID : sID.length = 4)
    (hcnt : ∀ i, (cnt i).length = 2) (hnum : k.asdus.length = type.asduNum)
    (h : ∀ w, make msg cfg crypto type (num w) (base w) = some (gens w))
    (hrun : (GenKind.rsv cfg.mode type).Run gens s) {w : ω} {idx : UInt32} (hidx : idx < num w)
    {j : ℕ} {f : Mem} (hf : (s.frames w idx)[j]? = some f) :
    ∃ (sID' : List UInt8) (cnt' : ℕ → List UInt8),
      sID' = printDecimal 4 (UInt32.ofNat ((base w).toNat + idx.toNat + 1)).toNat ∧
      beNat (cnt' 0) = type.asduNum * j % type.freq ∧ k.Valid sID' cnt' ∧
      (gens w).m_skeletonSize =
        OFF_UDP_PAYLOAD + udpPayloadSize cfg.mode (k.pdu sID' cnt').length ∧
      28 + udpPayloadSize cfg.mode (k.pdu sID' cnt').length < 2 ^ 16 ∧
      Emitted SI_R_SV PAYLOAD_TYPE_SV cfg crypto (idx + base w) (UInt32.ofNat (j + 1))
        (k.pdu sID' cnt') f := by
  obtain ⟨hname, hsmp, hspdu⟩ := iedIn_of_make type.asduNum (h w) hidx j
  have hemit := emitted_of_run hk hsID hcnt hnum h hrun hf
  obtain ⟨hsize, hmax⟩ := size_of_make hk (h w)
  dsimp only at hemit
  rw [hspdu] at hemit
  generalize (gens w).iedIn type.asduNum idx j = ied at *
  have hcnt' : ∀ i, (ied.counters type.freq i).length = (cnt i).length := fun i =>
    (length_beBytes _ _).trans (hcnt i).symm
  have hsID' : ied.sID.length = sID.length := ied.size.trans hsID.symm
  rw [← SvLayout.length_pdu hsID' hcnt'] at hsize
  refine ⟨ied.sID, ied.counters type.freq, hname, ?_, hk.valid.congr hsID' hcnt', hsize, ?_,
    hemit⟩
  · rw [← hsmp]
    exact beNat_beBytes ied.smpCnt.toNat_lt
  · rw [hsize] at hmax
    simp only [OFF_UDP_PAYLOAD, MAX_SV_PACKET_SIZE] at hmax
    omega

end RSVTrafficGen

end ProcessBus
