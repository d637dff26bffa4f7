import ProcessBus.Generator.Emitted
import ProcessBus.Generator.Nonces
import ProcessBus.Parser.Routable.Received
import ProcessBus.Processor.Dispatch

/-!
# From generator to processor

What the generator emits for a stream is what the processor expects of it. The frame is recognised,
its envelope is in order, and it is parsed to the passport under which `Init` has registered the
source of the stream, with the number of the frame.

The two sides meet at the bytes of a frame: the generator writes them by amending a skeleton, and
the processor builds the strings and addresses it compares them with from the number of the stream.
-/

namespace ProcessBus

open RSess RFrame

/-! ### Arrival -/

/-- The frame of `size` octets in `f` arrives. Padding may follow it, and the NIC did not look at
the header checksum. -/
structure Arrives (f : Mem) (size : ℕ) (frame : RxFrame) : Prop where
  bytes : frame.mem.slice 0 size = f.slice 0 size
  size_le : size ≤ frame.pktLen.toNat
  pktLen : frame.pktLen.toNat < 2 ^ 31
  unchecked : frame.olFlags &&& RTE_MBUF_F_RX_IP_CKSUM_MASK = RTE_MBUF_F_RX_IP_CKSUM_UNKNOWN

/-- Likewise, but the NIC may have looked at the header checksum as long as it did not find it
wrong. -/
structure Reaches (f : Mem) (size : ℕ) (frame : RxFrame) : Prop where
  bytes : frame.mem.slice 0 size = f.slice 0 size
  size_le : size ≤ frame.pktLen.toNat
  pktLen : frame.pktLen.toNat < 2 ^ 31
  notBad : frame.olFlags &&& RTE_MBUF_F_RX_IP_CKSUM_MASK ≠ RTE_MBUF_F_RX_IP_CKSUM_BAD

lemma Arrives.reaches {f : Mem} {size : ℕ} {frame : RxFrame} (h : Arrives f size frame) :
    Reaches f size frame :=
  ⟨h.bytes, h.size_le, h.pktLen, by rw [h.unchecked]; decide⟩

lemma Reaches.toInt_size {f : Mem} {size : ℕ} {frame : RxFrame} (h : Reaches f size frame) :
    frame.size.toInt = frame.pktLen.toNat := by
  have hlt := h.pktLen
  exact BitVec.toInt_eq_toNat_of_lt (show 2 * frame.pktLen.toNat < 2 ^ 32 by omega)

lemma Reaches.size_toInt {f : Mem} {size : ℕ} {frame : RxFrame} (h : Reaches f size frame) :
    (size : ℤ) ≤ frame.size.toInt := by
  rw [h.toInt_size]
  exact_mod_cast h.size_le

namespace RFrame.Carries

variable {crypto : Crypto} {cfg : RFrameConfig} {params : BuildParams} {srcPort : UInt16}
  {apdu : List UInt8} {f : Mem} {frame : RxFrame} (hf : Carries crypto cfg params srcPort apdu f)
  (h : Reaches f (OFF_UDP_PAYLOAD + udpPayloadSize params.mode apdu.length) frame)

include hf h

/-- What arrives carries what was sent. -/
lemma arrived : Carries crypto cfg params srcPort apdu frame.mem :=
  hf.congr fun i hi => by
    rw [← Nat.zero_add i]
    exact Mem.eq_of_slice_eq h.bytes hi

variable (hlt : 28 + udpPayloadSize params.mode apdu.length < 2 ^ 16)

include hlt

/-- The frame is recognised under its source port, and its envelope is in order. -/
lemma recognised (hport : cfg.dstPort = UDP_DST_PORT)
    (hsi : params.si = SI_R_GOOSE ∨ params.si = SI_R_SV) :
    (getProtoType frame.packet 0 frame.pktLen.toNat).val =
      (if params.si = SI_R_GOOSE then .BUS_PROTO_R_GOOSE else .BUS_PROTO_R_SV, srcPort.toNat) ∧
    envelope frame = (R_ENV_OK, cfg.dstIP) := by
  have hcarries := hf.arrived h
  have hsize := h.size_le
  have hmin : R_MIN_FRAME_SIZE ≤ OFF_UDP_PAYLOAD + udpPayloadSize params.mode apdu.length := by
    simp only [R_MIN_FRAME_SIZE, ETH_IP_UDP_SIZE, OFF_UDP_PAYLOAD, udpPayloadSize, apduOffset,
      payloadHdrOffset, PAYLOAD_HDR_SIZE]
    omega
  exact ⟨hcarries.getProtoType_eq hport hsi (hmin.trans hsize) 0,
    hcarries.envelope_eq hport hlt hsize h.notBad 0⟩

variable (hlaw : crypto.Lawful)

include hlaw

/-- An R-GOOSE frame that arrives is parsed to what was put in it. -/
lemma parseRGoose {pdu : GoosePdu} (hsi : params.si = SI_R_GOOSE)
    (htype : params.payloadType = PAYLOAD_TYPE_GOOSE) (hpdu : pdu.Encodes apdu) :
    ∃ r, pdu.Reports { dmac := multicastMac cfg.dstIP, appid := params.appid } r ∧
      ∃ n, ∀ fuel, n ≤ fuel →
        (parseRGoosePacket fuel frame.packet frame.size params.mode crypto {} {} {}).val =
          some (r, sessionOf params OFF_UDP_PAYLOAD) :=
  parseRGoosePacket_reports (hf.arrived h) hlaw hlt h.size_toInt hsi htype hpdu {} {} {}

/-- And an R-SV frame. -/
lemma parseRSv {pdu : SvPdu} (hsi : params.si = SI_R_SV)
    (htype : params.payloadType = PAYLOAD_TYPE_SV) (hpdu : pdu.Encodes apdu) :
    ∃ r, r.code = 0 ∧
      Reports {
        dmac := multicastMac cfg.dstIP
        appid := params.appid
        num := UInt16.ofNat pdu.asdus.length } {} pdu.first r ∧
      ∃ n, ∀ fuel, n ≤ fuel →
        (parseRSvPacket fuel frame.packet frame.size params.mode crypto {} {} {}).val =
          some (r, sessionOf params OFF_UDP_PAYLOAD) :=
  parseRSvPacket_reports (hf.arrived h) hlaw hlt h.size_toInt hsi htype hpdu {} {} {}

end RFrame.Carries

/-- The number of a stream, however it is split between worker and index. -/
lemma toNat_stream (base idx : UInt32) (h : base.toNat + idx.toNat < 2 ^ 32) :
    (idx + base).toNat = base.toNat + idx.toNat := by
  rw [UInt32.toNat_add, Nat.mod_eq_of_lt (by omega), Nat.add_comm]

/-- The source port and the APPID of a stream. -/
lemma toUInt16_stream (stream : UInt32) (h : stream.toNat < 65535) :
    (stream + 1).toUInt16.toNat = stream.toNat + 1 ∧
      (stream + 1).toUInt16 = UInt16.ofNat (0x0001 + stream.toNat) := by
  have hkey : (stream + 1).toUInt16.toNat = stream.toNat + 1 := by
    rw [UInt32.toNat_toUInt16, UInt32.toNat_add]
    show (_ + 1) % 2 ^ 32 % 2 ^ 16 = _
    omega
  refine ⟨hkey, UInt16.toNat_inj.mp ?_⟩
  rw [hkey, UInt16.toNat_ofNat', Nat.mod_eq_of_lt (by omega), Nat.add_comm]

/-! ### R-GOOSE -/

section RGoose

/-- The receiver is set up for the R-GOOSE streams of the generator. -/
structure ExpectsRGoose (conf : RxConfig) (num entries : ℕ) (cfg : RFrameConfig) : Prop where
  num : conf.m_confRGooseNum.toNat = num
  -- L2 streams would share the container
  only : conf.m_confGooseNum = 0
  entries : conf.m_gooseEntries.toNat = entries
  mode : conf.m_rMode = cfg.mode
  dstIP : conf.m_rDstIP = cfg.dstIP

variable {conf : RxConfig} {num entries i : ℕ} {cfg : RFrameConfig}

lemma ExpectsRGoose.allGoose (h : ExpectsRGoose conf num entries cfg) :
    conf.allGoose = (List.range num).map conf.rGoose := by
  rw [RxConfig.allGoose, h.only, h.num]
  rfl

/-- Whatever equals the passport of a registered source leads to it. -/
lemma ExpectsRGoose.lookup (h : ExpectsRGoose conf num entries cfg) (hnum : num ≤ 65536)
    (hi : i < num) {pass : GoosePassport} (heq : ((conf.rGoose i).getPassport == pass) = true) :
    (init conf).m_gooseMap.lookup pass = some i ∧
      (init conf).gooseSources[i]? = some (conf.rGoose i) := by
  obtain ⟨hsources, _, hmap, _⟩ := registered_init conf
  rw [h.allGoose] at hsources
  rw [hsources, hmap]
  refine ⟨?_, by simp [hi]⟩
  have hkeys : conf.allGoose.map GooseSource.getPassport =
      (List.range num).map fun i => (conf.rGoose i).getPassport := by
    rw [h.allGoose, List.map_map]
    rfl
  have hnodup : ((conf.allGoose.map GooseSource.getPassport).map HasAppId.appid).Nodup := by
    rw [conf.appids_allGoose, nodup_flatMap_appidsOf, RxConfig.gooseCounts, h.only, h.num]
    exact ⟨by simp [hnum], by simp⟩
  rw [hkeys] at hnodup ⊢
  exact AppIdContainer.lookup_map_range hnodup (hnum.trans (by decide)) hi
    (GoosePassport.beq_iff.mp heq).2.1.symm heq

/-- The passport of a registered source, and that of a frame of the stream. -/
lemma ExpectsRGoose.beq_passport {k : GooseLayout} {v : GooseValues} {r : GooseParse}
    {passport : GoosePassport} (h : ExpectsRGoose conf num (k.entries.length + 1) cfg)
    (hvalid : k.Valid v) (hr : hvalid.toPdu.Reports passport r)
    (hsID : v.sID = decimal 8 (i + 1)) (happid : passport.appid = UInt16.ofNat (0x0001 + i))
    (hdmac : passport.dmac = multicastMac (streamDstIp cfg.dstIP i)) :
    ((conf.rGoose i).getPassport ==
      { r.passport with dstIP := streamDstIp cfg.dstIP i }) = true := by
  have hbase := h.dstIP
  refine GoosePassport.beq_iff.mpr ⟨?_, ?_, ?_, ?_, ?_, ?_, ?_, ?_⟩
  · show multicastMac (streamDstIp conf.m_rDstIP i) = r.passport.dmac
    rw [hbase, hr.dmac, hdmac]
  · exact (hr.appid.trans happid).symm
  · exact congrArg (streamDstIp · i) hbase
  · refine (StringView.bytes_ofBytes _).trans (Eq.trans ?_ hr.goid.symm)
    exact congrArg (ascii "GOID" ++ ·) hsID.symm
  · refine (StringView.bytes_ofBytes _).trans (Eq.trans ?_ hr.dataset.symm)
    exact congrArg (ascii "IED" ++ · ++ ascii "LDName/LLN0$DataSet") hsID.symm
  · refine (StringView.bytes_ofBytes _).trans (Eq.trans ?_ hr.gocbref.symm)
    exact congrArg (ascii "IED" ++ · ++ ascii "LDName/LLN0$GO$GOCB") hsID.symm
  · have hne : hvalid.toPdu.confRev ≠ [] :=
      hvalid.toPdu.nonempty (0x88, _) (hvalid.toPdu.mem_order.mpr (by simp [GooseFields.elems]))
    have hone : beNat hvalid.toPdu.confRev = (1 : UInt32).toNat := hvalid.confRev.1
    have hcrev := toNat_asn1Number hne hvalid.confRev.2
    rw [← hr.crev, hone] at hcrev
    exact (UInt32.toNat_inj.mp hcrev).symm
  · refine UInt16.toNat_inj.mp (Eq.trans ?_ hr.num.symm)
    show conf.m_gooseEntries.toUInt16.toNat = k.entries.length + 1
    have hle := hvalid.num_le
    rw [UInt32.toNat_toUInt16, h.entries, Nat.mod_eq_of_lt (by omega)]

/-- The processor takes the frame for the one with number `n` of stream `i`, and finds the source
that is registered for it. -/
structure RGooseFound (conf : RxConfig) (crypto : Crypto) (frame : RxFrame) (i n : ℕ) : Prop where
  proto : (getProtoType frame.packet 0 frame.pktLen.toNat).val = (.BUS_PROTO_R_GOOSE, i + 1)
  envelope : (envelope frame).1 = R_ENV_OK
  found : ∃ r session,
    (∃ f, ∀ fuel, f ≤ fuel → (parseRGoosePacket fuel frame.packet frame.size (init conf).m_rMode
      crypto {} {} {}).val = some (r, session)) ∧
    r.code = 0 ∧
    (init conf).m_gooseMap.lookup { r.passport with dstIP := (ProcessBus.envelope frame).2 } =
      some i ∧
    (init conf).gooseSources[i]? = some (conf.rGoose i) ∧
    session.spduNumber.toNat = n ∧ r.state.stNum.toNat = n

/-- A frame of stream `i` that arrives is found. -/
lemma rGooseFound_of_emitted {crypto : Crypto} {k : GooseLayout} {v : GooseValues}
    {stream spduNumber : UInt32} {f : Mem} {frame : RxFrame} (hlaw : crypto.Lawful)
    (hvalid : k.Valid v) (hport : cfg.dstPort = UDP_DST_PORT)
    (hconf : ExpectsRGoose conf num (k.entries.length + 1) cfg) (hnum : num ≤ 9999)
    (hi : stream.toNat < num) (hsID : v.sID = decimal 8 (stream.toNat + 1))
    (hst : beNat v.stNum = spduNumber.toNat)
    (hlt : 28 + udpPayloadSize cfg.mode (k.pdu v).length < 2 ^ 16)
    (hf : Emitted SI_R_GOOSE PAYLOAD_TYPE_GOOSE cfg crypto stream spduNumber (k.pdu v) f)
    (harr : Arrives f (OFF_UDP_PAYLOAD + udpPayloadSize cfg.mode (k.pdu v).length) frame) :
    RGooseFound conf crypto frame stream.toNat spduNumber.toNat := by
  obtain ⟨hkey, happid⟩ := toUInt16_stream stream (by omega)
  obtain ⟨hproto, henv⟩ := RFrame.Carries.recognised hf harr.reaches hlt hport (.inl rfl)
  obtain ⟨r, hr, hparse⟩ :=
    RFrame.Carries.parseRGoose hf harr.reaches hlt hlaw rfl rfl hvalid.encodes
  have hbeq := hconf.beq_passport hvalid hr hsID happid rfl
  obtain ⟨hlookup, hsource⟩ := hconf.lookup (by omega) hi hbeq
  have hmode : (frameParams SI_R_GOOSE PAYLOAD_TYPE_GOOSE cfg stream spduNumber
      (k.pdu v).length).mode = (init conf).m_rMode := (hconf.mode.symm.trans (mode_init conf).symm)
  rw [hmode] at hparse
  refine ⟨?_, by rw [henv], r, _, hparse, hr.code, ?_, hsource, rfl, ?_⟩
  · rw [hproto, hkey]
    rfl
  · rw [henv]
    exact hlookup
  · have hne : v.stNum ≠ [] := List.ne_nil_of_length_eq_add_one v.size_stNum
    rw [hr.stNum, ← hst]
    exact toNat_asn1Number hne v.size_stNum.le

theorem rGooseFound_of_run {ω : Type} [DecidableEq ω] {crypto : Crypto} {msg : GooseMessage}
    {k : GooseLayout} {v : GooseValues} {count base : ω → UInt32} {gens : ω → RGooseTrafficGen}
    {s : Pool.State ω UInt32 RGooseTrafficGen} (hlaw : crypto.Lawful) (hk : k.Describes v msg)
    (hport : cfg.dstPort = UDP_DST_PORT)
    (hconf : ExpectsRGoose conf num (k.entries.length + 1) cfg) (hnum : num ≤ 9999)
    (hmake : ∀ w, RGooseTrafficGen.make msg cfg crypto (count w) (base w) = some (gens w))
    (hrun : (GenKind.rgoose cfg.mode).Run gens s) {w : ω} {idx : UInt32} (hidx : idx < count w)
    (hi : (base w).toNat + idx.toNat < num) {j : ℕ} {f : Mem} {frame : RxFrame}
    (hf : (s.frames w idx)[j]? = some f) (harr : Arrives f (gens w).m_skeletonSize frame) :
    RGooseFound conf crypto frame ((base w).toNat + idx.toNat) ((j + 1) % 2 ^ 32) := by
  obtain ⟨ied, hsID, hst, hvalid, hsize, hlt, hemit⟩ :=
    RGooseTrafficGen.frame_of_run hk hmake hrun hidx hf
  rw [hsize] at harr
  have hstream := toNat_stream (base w) idx (by omega)
  have hname : ied.sID = decimal 8 ((idx + base w).toNat + 1) := by
    rw [hsID, hstream]
    exact printDecimal_eq (by decide) (by omega)
  have hst' : beNat ied.values.stNum = (UInt32.ofNat (j + 1)).toNat := by
    rw [← hst]
    exact beNat_beBytes ied.stNum.toNat_lt
  have hfound := rGooseFound_of_emitted hlaw hvalid hport hconf hnum (hstream ▸ hi) hname hst' hlt
    hemit harr
  rwa [hstream, UInt32.toNat_ofNat'] at hfound

end RGoose

/-! ### R-SV -/

section RSv

/-- The source of the R-SV stream with number `i`. -/
def RxConfig.rSv (conf : RxConfig) : SvType → ℕ → SVStreamSource
  | .SV80 => conf.rSv80
  | .SV256 => conf.rSv256

/-- The receiver is set up for the R-SV streams of the generator. -/
structure ExpectsRSv (conf : RxConfig) (type : SvType) (num : ℕ) (cfg : RFrameConfig) : Prop where
  -- the other kinds would share the container
  counts : conf.svCounts = match type with
    | .SV80 => [0, 0, num, 0]
    | .SV256 => [0, 0, 0, num]
  mode : conf.m_rMode = cfg.mode
  dstIP : conf.m_rDstIP = cfg.dstIP

variable {conf : RxConfig} {type : SvType} {num i : ℕ} {cfg : RFrameConfig}

lemma RxConfig.rSv_eq : conf.rSv type i =
    svSource (UInt32.ofNat type.asduNum) (conf.rMAC i) (streamDstIp conf.m_rDstIP i) i := by
  cases type <;> rfl

lemma ExpectsRSv.allSV (h : ExpectsRSv conf type num cfg) :
    conf.allSV = (List.range num).map (conf.rSv type) := by
  have hcounts := h.counts
  cases type <;>
  · simp only [RxConfig.svCounts, List.cons.injEq, and_true] at hcounts
    obtain ⟨h₁, h₂, h₃, h₄⟩ := hcounts
    simp [RxConfig.allSV, h₁, h₂, h₃, h₄, RxConfig.rSv]

/-- Whatever equals the passport of a registered source leads to it. -/
lemma ExpectsRSv.lookup (h : ExpectsRSv conf type num cfg) (hnum : num ≤ 65536)
    (hi : i < num) {pass : SVStreamPassport}
    (heq : ((conf.rSv type i).getPassport == pass) = true) :
    (init conf).m_svMap.lookup pass = some i ∧
      (init conf).svSources[i]? = some (conf.rSv type i) := by
  obtain ⟨_, hsources, _, hmap⟩ := registered_init conf
  rw [h.allSV] at hsources
  rw [hsources, hmap]
  refine ⟨?_, by simp [hi]⟩
  have hkeys : conf.allSV.map SVStreamSource.getPassport =
      (List.range num).map fun i => (conf.rSv type i).getPassport := by
    rw [h.allSV, List.map_map]
    rfl
  have hnodup : ((conf.allSV.map SVStreamSource.getPassport).map HasAppId.appid).Nodup := by
    rw [conf.appids_allSV, nodup_flatMap_appidsOf, h.counts]
    cases type <;> exact ⟨by simp [hnum], by simp⟩
  rw [hkeys] at hnodup ⊢
  exact AppIdContainer.lookup_map_range hnodup (hnum.trans (by decide)) hi
    (SVStreamPassport.beq_iff.mp heq).2.1.symm heq

/-- The passport of a registered source, and that of a frame of the stream. -/
lemma ExpectsRSv.beq_passport {k : SvLayout} {sID : List UInt8} {cnt : ℕ → List UInt8}
    {passport : SVStreamPassport} {state : SVStreamState} {r : SVParse}
    (h : ExpectsRSv conf type num cfg) (hvalid : k.Valid sID cnt)
    (hasdus : k.asdus.length = type.asduNum)
    (hr : Reports { passport with num := UInt16.ofNat hvalid.toPdu.asdus.length } state
      hvalid.toPdu.first r)
    (hsID : sID = decimal 4 (i + 1)) (happid : passport.appid = UInt16.ofNat (0x0001 + i))
    (hdmac : passport.dmac = multicastMac (streamDstIp cfg.dstIP i)) :
    ((conf.rSv type i).getPassport ==
      { r.passport with dstIP := streamDstIp cfg.dstIP i }) = true := by
  have hbase := h.dstIP
  obtain ⟨hnum, hsvid, hcrev, _⟩ := hr.values
  obtain ⟨hfirst, _, hrev⟩ := hvalid.first_toPdu
  rw [RxConfig.rSv_eq]
  refine SVStreamPassport.beq_iff.mpr ⟨?_, ?_, ?_, ?_, ?_, ?_⟩
  · rw [hr.passport_eq]
    show multicastMac (streamDstIp conf.m_rDstIP i) = passport.dmac
    rw [hbase, hdmac]
  · rw [hr.passport_eq]
    exact happid.symm
  · refine UInt16.toNat_inj.mp (Eq.trans ?_ hnum.symm)
    rw [show hvalid.toPdu.asdus.length = type.asduNum from
      (SvLayout.length_toAsdus _ _).trans hasdus]
    cases type <;> rfl
  · refine UInt32.toNat_inj.mp (Eq.trans ?_ hcrev.symm)
    rw [hrev]
    rfl
  · exact congrArg (streamDstIp · i) hbase
  · refine (StringView.bytes_ofBytes _).trans (Eq.trans ?_ (hsvid.trans hfirst).symm)
    exact congrArg (ascii "SVID" ++ ·) hsID.symm

/-- The processor takes the frame for the one with number `n` and sample counter `smpCnt` of stream
`i`, and finds the source that is registered for it. -/
structure RSvFound (conf : RxConfig) (type : SvType) (crypto : Crypto) (frame : RxFrame)
    (i n smpCnt : ℕ) : Prop where
  proto : (getProtoType frame.packet 0 frame.pktLen.toNat).val = (.BUS_PROTO_R_SV, i + 1)
  envelope : (envelope frame).1 = R_ENV_OK
  found : ∃ r session,
    (∃ f, ∀ fuel, f ≤ fuel → (parseRSvPacket fuel frame.packet frame.size (init conf).m_rMode
      crypto {} {} {}).val = some (r, session)) ∧
    r.code = 0 ∧
    (init conf).m_svMap.lookup { r.passport with dstIP := (ProcessBus.envelope frame).2 } =
      some i ∧
    (init conf).svSources[i]? = some (conf.rSv type i) ∧
    session.spduNumber.toNat = n ∧ r.state.smpCnt.toNat = smpCnt

/-- A frame of stream `i` that arrives is found. -/
lemma rSvFound_of_emitted {crypto : Crypto} {k : SvLayout} {sID : List UInt8}
    {cnt : ℕ → List UInt8} {stream spduNumber : UInt32} {f : Mem} {frame : RxFrame}
    (hlaw : crypto.Lawful) (hvalid : k.Valid sID cnt) (hport : cfg.dstPort = UDP_DST_PORT)
    (hasdus : k.asdus.length = type.asduNum) (hconf : ExpectsRSv conf type num cfg)
    (hnum : num ≤ 9999) (hi : stream.toNat < num) (hsID : sID = decimal 4 (stream.toNat + 1))
    (hlt : 28 + udpPayloadSize cfg.mode (k.pdu sID cnt).length < 2 ^ 16)
    (hf : Emitted SI_R_SV PAYLOAD_TYPE_SV cfg crypto stream spduNumber (k.pdu sID cnt) f)
    (harr : Arrives f (OFF_UDP_PAYLOAD + udpPayloadSize cfg.mode (k.pdu sID cnt).length) frame) :
    RSvFound conf type crypto frame stream.toNat spduNumber.toNat (beNat (cnt 0)) := by
  obtain ⟨hkey, happid⟩ := toUInt16_stream stream (by omega)
  obtain ⟨hproto, henv⟩ := RFrame.Carries.recognised hf harr.reaches hlt hport (.inr rfl)
  obtain ⟨r, hcode, hr, hparse⟩ :=
    RFrame.Carries.parseRSv hf harr.reaches hlt hlaw rfl rfl hvalid.encodes
  let passport : SVStreamPassport := {
    dmac := multicastMac (streamDstIp cfg.dstIP stream.toNat)
    appid := (stream + 1).toUInt16 }
  replace hr : Reports { passport with num := UInt16.ofNat hvalid.toPdu.asdus.length } {}
    hvalid.toPdu.first r := hr
  have hbeq := hconf.beq_passport hvalid hasdus hr hsID happid rfl
  obtain ⟨hlookup, hsource⟩ := hconf.lookup (by omega) hi hbeq
  have hmode : (frameParams SI_R_SV PAYLOAD_TYPE_SV cfg stream spduNumber
      (k.pdu sID cnt).length).mode = (init conf).m_rMode :=
    hconf.mode.symm.trans (mode_init conf).symm
  rw [hmode] at hparse
  refine ⟨?_, by rw [henv], r, _, hparse, hcode, ?_, hsource, rfl, ?_⟩
  · rw [hproto, hkey]
    rfl
  · rw [henv]
    exact hlookup
  · rw [hr.values.2.2.2, hvalid.first_toPdu.2.1]

theorem rSvFound_of_run {ω : Type} [DecidableEq ω] {crypto : Crypto} {msg : SvMessage}
    {k : SvLayout} {sID : List UInt8} {cnt : ℕ → List UInt8} {count base : ω → UInt32}
    {gens : ω → RSVTrafficGen} {s : Pool.State ω UInt32 RSVTrafficGen} (hlaw : crypto.Lawful)
    (hk : k.Describes sID cnt msg) (hsID : sID.length = 4) (hcnt : ∀ i, (cnt i).length = 2)
    (hasdus : k.asdus.length = type.asduNum) (hport : cfg.dstPort = UDP_DST_PORT)
    (hconf : ExpectsRSv conf type num cfg) (hnum : num ≤ 9999)
    (hmake : ∀ w, RSVTrafficGen.make msg cfg crypto type (count w) (base w) = some (gens w))
    (hrun : (GenKind.rsv cfg.mode type).Run gens s) {w : ω} {idx : UInt32} (hidx : idx < count w)
    (hi : (base w).toNat + idx.toNat < num) {j : ℕ} {f : Mem} {frame : RxFrame}
    (hf : (s.frames w idx)[j]? = some f) (harr : Arrives f (gens w).m_skeletonSize frame) :
    RSvFound conf type crypto frame ((base w).toNat + idx.toNat) ((j + 1) % 2 ^ 32)
      (type.asduNum * j % type.freq) := by
  obtain ⟨sID', cnt', hname, hfirst, hvalid, hsize, hlt, hemit⟩ :=
    RSVTrafficGen.frame_of_run hk hsID hcnt hasdus hmake hrun hidx hf
  rw [hsize] at harr
  have hstream := toNat_stream (base w) idx (by omega)
  have hname' : sID' = decimal 4 ((idx + base w).toNat + 1) := by
    rw [hname, hstream, UInt32.toNat_ofNat', Nat.mod_eq_of_lt (by omega)]
    exact printDecimal_eq (by decide) (by omega)
  have hfound := rSvFound_of_emitted hlaw hvalid hport hasdus hconf hnum (hstream ▸ hi) hname' hlt
    hemit harr
  rwa [hstream, hfirst, UInt32.toNat_ofNat'] at hfound

end RSv

/-! ### Both -/

/-- Whatever stream of a run of generators for at most 9999 streams is called, and how often it was
called before, the processor finds in the frame the number of the call, and the source that `Init`
has registered for the stream. -/
theorem generator_and_processor_agree {crypto : Crypto} (hlaw : crypto.Lawful) (dstIP : UInt32)
    (mode : SecurityMode) {num : ℕ} (hnum : num ≤ 9999) {ω : Type} [DecidableEq ω]
    (count base : ω → UInt32) {w : ω} {idx : UInt32} (hidx : idx < count w)
    (hi : (base w).toNat + idx.toNat < num) {j : ℕ} (hj : j + 1 < 2 ^ 32) {f : Mem} :
    let cfg : RFrameConfig := { dstIP := dstIP, mode := mode }
    (∀ (msg : GooseMessage) (k : GooseLayout) (v : GooseValues), k.Describes v msg →
      ∀ conf, ExpectsRGoose conf num (k.entries.length + 1) cfg →
      ∀ gens : ω → RGooseTrafficGen,
      (∀ w, RGooseTrafficGen.make msg cfg crypto (count w) (base w) = some (gens w)) →
      ∀ s, (GenKind.rgoose mode).Run gens s → (s.frames w idx)[j]? = some f →
      ∀ frame, Arrives f (gens w).m_skeletonSize frame →
      RGooseFound conf crypto frame ((base w).toNat + idx.toNat) (j + 1)) ∧
    ∀ (type : SvType) (msg : SvMessage) (k : SvLayout) (sID : List UInt8) (cnt : ℕ → List UInt8),
      k.Describes sID cnt msg → sID.length = 4 → (∀ i, (cnt i).length = 2) →
      k.asdus.length = type.asduNum →
      ∀ conf, ExpectsRSv conf type num cfg →
      ∀ gens : ω → RSVTrafficGen,
      (∀ w, RSVTrafficGen.make msg cfg crypto type (count w) (base w) = some (gens w)) →
      ∀ s, (GenKind.rsv mode type).Run gens s → (s.frames w idx)[j]? = some f →
      ∀ frame, Arrives f (gens w).m_skeletonSize frame →
      RSvFound conf type crypto frame ((base w).toNat + idx.toNat) (j + 1)
        (type.asduNum * j % type.freq) := by
  intro cfg
  constructor
  · intro msg k v hk conf hconf gens hmake s hrun hf frame harr
    have hfound := rGooseFound_of_run hlaw hk rfl hconf hnum hmake hrun hidx hi hf harr
    rwa [Nat.mod_eq_of_lt hj] at hfound
  · intro type msg k sID cnt hk hsID hcnt hasdus conf hconf gens hmake s hrun hf frame harr
    have hfound := rSvFound_of_run hlaw hk hsID hcnt hasdus rfl hconf hnum hmake hrun hidx hi hf
      harr
    rwa [Nat.mod_eq_of_lt hj] at hfound

/-! The second of two workers sends the first frame of its only stream. -/

def sampleSvSealed (type : SvType) : Mem :=
  ((sampleSvGen type true).amendAsdus type.asduNum .SEC_GCM (sampleSvGen type false).m_skeleton 0).2

/-- A call of the second worker. -/
def sampleSvState (type : SvType) : Pool.State Bool UInt32 RSVTrafficGen :=
  let r := (sampleSvGen type true).amendAsdus type.asduNum .SEC_GCM
    (sampleSvGen type false).m_skeleton 0
  { writers := Function.update (sampleSvGen type) true r.1
    buffers := Function.update (fun _ => (sampleSvGen type false).m_skeleton) 0 r.2
    sent := [((true, 0), sampleSvSealed type)] }

lemma run_sampleSvState (type : SvType) :
    (GenKind.rsv .SEC_GCM type).Run (sampleSvGen type) (sampleSvState type) := by
  refine ⟨fun _ => (sampleSvGen type false).m_skeleton, fun w b => ?_, .single ?_⟩
  · show Mem.slice _ _ _ = Mem.slice (sampleSvGen type w).m_skeleton _ _
    rw [skeleton_sampleSvGen type w]
  · have hlen : ((GenKind.rsv .SEC_GCM type).ieds (sampleSvGen type true)).length = 1 :=
      RSVTrafficGen.length_ieds (Option.some_get (isSome_sampleSv type true)).symm
    rw [GenKind.rsv_amend]
    exact .call _ true 0 0 (by rw [hlen]; decide)

/-- The frame alone. -/
def received (f : Mem) (size : ℕ) : RxFrame := { mem := f, pktLen := UInt32.ofNat size }

lemma pktLen_received (f : Mem) {size : ℕ} (h : size ≤ 1518) :
    (received f size).pktLen.toNat = size := by
  rw [received, UInt32.toNat_ofNat', Nat.mod_eq_of_lt (by omega)]

lemma arrives_received (f : Mem) {size : ℕ} (h : size ≤ 1518) :
    Arrives f size (received f size) := by
  have hsize := pktLen_received f h
  have hflags : (0 : UInt64) &&& RTE_MBUF_F_RX_IP_CKSUM_MASK = RTE_MBUF_F_RX_IP_CKSUM_UNKNOWN := by
    decide
  exact ⟨rfl, hsize.ge, by omega, hflags⟩

theorem generator_and_processor_agree_sample :
    RGooseFound { m_confRGooseNum := 2, m_gooseEntries := 2, m_rMode := .SEC_GCM } sampleRunCrypto
      (received (sampleSealed true) (sampleGooseGen true).m_skeletonSize) 1 1 ∧
    RSvFound { m_confRSV80Num := 2, m_rMode := .SEC_GCM } .SV80 sampleRunCrypto
      (received (sampleSvSealed .SV80) (sampleSvGen .SV80 true).m_skeletonSize) 1 1 0 ∧
    RSvFound { m_confRSV256Num := 2, m_rMode := .SEC_GCM } .SV256 sampleRunCrypto
      (received (sampleSvSealed .SV256) (sampleSvGen .SV256 true).m_skeletonSize) 1 1 0 := by
  have hagree := fun f => @generator_and_processor_agree sampleRunCrypto lawful_sampleRunCrypto
    R_DEFAULT_DST_IP .SEC_GCM 2 (by decide) Bool _ (fun _ => 1) (fun w => if w then 1 else 0)
    true 0 (by decide) (by decide) 0 (by decide) f
  have hgoose : ∀ w, RGooseTrafficGen.make sampleGooseMessage sampleRunConfig sampleRunCrypto 1
      (if w then 1 else 0) = some (sampleGooseGen w) := fun _ => (Option.some_get _).symm
  have hsv : ∀ type w, RSVTrafficGen.make (sampleSvMessage type) sampleRunConfig sampleRunCrypto
      type 1 (if w then 1 else 0) = some (sampleSvGen type w) := fun _ _ => (Option.some_get _).symm
  have hframes : ((sampleCall (sampleCall sampleGooseStart false 0) true 1).frames true 0)[0]? =
    some (sampleSealed true) := congrArg (·[0]?) (frames_sampleGcmRun true)
  have hfound := fun type conf hconf => (hagree (sampleSvSealed type)).2 type (sampleSvMessage type)
    (sampleSvLayout type) (ascii "1234") (fun _ => [0, 0]) (describes_sampleSvMessage type) rfl
    (fun _ => rfl) List.length_replicate conf hconf (sampleSvGen type) (hsv type)
    (sampleSvState type) (run_sampleSvState type) rfl _
    (arrives_received _ (RSVTrafficGen.size_of_make (describes_sampleSvMessage type)
      (hsv type true)).2)
  have hconf₈₀ : ExpectsRSv { m_confRSV80Num := 2, m_rMode := .SEC_GCM } .SV80 2 sampleRunConfig :=
    ⟨by decide, rfl, rfl⟩
  have hconf₂₅₆ : ExpectsRSv { m_confRSV256Num := 2, m_rMode := .SEC_GCM } .SV256 2
    sampleRunConfig := ⟨by decide, rfl, rfl⟩
  have hconf : ExpectsRGoose { m_confRGooseNum := 2, m_gooseEntries := 2, m_rMode := .SEC_GCM } 2
    (sampleGooseLayout.entries.length + 1) sampleRunConfig := ⟨rfl, rfl, rfl, rfl, rfl⟩
  refine ⟨?_, hfound .SV80 _ hconf₈₀, hfound .SV256 _ hconf₂₅₆⟩
  exact (hagree (sampleSealed true)).1 sampleGooseMessage sampleGooseLayout sampleGooseValues
    describes_sampleGooseMessage _ hconf sampleGooseGen hgoose
    _ run_sampleGoose hframes _
    (arrives_received _ (RGooseTrafficGen.size_of_make describes_sampleGooseMessage
      (hgoose true)).2)

end ProcessBus
