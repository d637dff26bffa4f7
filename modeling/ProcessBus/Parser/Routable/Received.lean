import ProcessBus.Common.Prefix
import ProcessBus.Parser.Goose.Correctness
import ProcessBus.Parser.Routable.Unwrap
import ProcessBus.Parser.Sv.Correctness

/-!
# Receiving a routable frame

A frame that consists of a prefix and of a sealed session PDU is recognised, its envelope is in
order, and it is unwrapped to what was sealed. Bytes behind the frame do not matter.
-/

namespace ProcessBus

open RSess RFrame

variable {m : Mem} {a n size : ℕ} {cfg : RFrameConfig} {srcPort : UInt16}

/-- The fields of the prefix a receiver looks at. -/
lemma holds_prefixBytes (hm : m.Holds a (prefixBytes cfg n srcPort)) :
    m.Holds a (multicastMac cfg.dstIP).m_mac ∧
      (m (a + 12) = 0x08 ∧ m (a + 13) = 0x00 ∧ m (a + 14) = 0x45 ∧ m (a + 23) = 17) ∧
      m.Holds (a + 16) (beBytes 2 (UInt16.ofNat (20 + 8 + n)).toNat) ∧
      m.Holds (a + 20) (beBytes 2 0x4000) ∧
      m.Holds (a + 30) (beBytes 4 cfg.dstIP.toNat) ∧
      m.Holds (a + 34) (beBytes 2 srcPort.toNat) ∧
      m.Holds (a + 36) (beBytes 2 cfg.dstPort.toNat) ∧
      m.Holds (a + 38) (beBytes 2 (UInt16.ofNat (8 + n)).toNat) := by
  have htype : beBytes 2 0x0800 = [0x08, 0x00] := rfl
  simp only [prefixBytes, prefixSegs, ipFixed, udpFixed, htype, List.flatten_cons, List.flatten_nil,
    Mem.holds_append, Mem.holds_cons, Mem.holds_nil, List.length_append, List.length_cons,
    List.length_nil, length_beBytes, MAC.size, Nat.add_assoc, and_true, and_assoc] at hm
  obtain ⟨hdmac, _, h12, h13, h14, _, hlen, _, hflags, _, h23, _, _, hdst, hsrc, hport, hudp, _⟩ :=
    hm
  refine ⟨hdmac, ⟨h12, h13, h14, h23⟩, ?_, hflags, hdst, hsrc, hport, hudp⟩
  rwa [Nat.add_assoc 20]

lemma toNat_ipTotalLen (hn : 28 + n < 2 ^ 16) : (UInt16.ofNat (20 + 8 + n)).toNat = 28 + n := by
  rw [UInt16.toNat_ofNat', Nat.mod_eq_of_lt (by omega)]

/-- The words the receiver sums up. -/
lemma val_ipv4Sum (p : Ptr) (l : List ℕ) :
    (ipv4Sum p l).val = (l.map fun i => beNat (p.mem.slice (p.off + i) 2)).sum := by
  induction l with
  | nil => rfl
  | cons i l ih => simp [ipv4Sum, ih]

/-- The receiver's sum over a header with its checksum is all ones. -/
lemma val_ipv4ChecksumOk (hm : m.Holds a (ipHeader cfg n (ipCsum cfg n))) :
    (ipv4ChecksumOk ⟨m, a⟩).val = true := by
  have hsum := headerSum_of_holds hm
  rw [headerSum] at hsum
  simp only [ipv4ChecksumOk, Traced.val_bind, val_ipv4Sum, hsum, foldCarry_ipHeader]
  rfl

/-- The envelope of a frame that starts with a prefix is in order, whatever follows, unless the NIC
takes its header checksum for wrong. -/
theorem envelope_of_prefixBytes (hm : m.Holds a (prefixBytes cfg n srcPort))
    (hport : cfg.dstPort = UDP_DST_PORT) (hn : 28 + n < 2 ^ 16) (hsize : 42 + n ≤ size)
    {olFlags : UInt64} (hck : olFlags &&& RTE_MBUF_F_RX_IP_CKSUM_MASK ≠
      RTE_MBUF_F_RX_IP_CKSUM_BAD) (dstIP : UInt32) :
    (validateREnvelope ⟨m, a⟩ size olFlags dstIP).val = (R_ENV_OK, cfg.dstIP) := by
  obtain ⟨_, ⟨h12, h13, h14, h23⟩, hlen, hflags, hdst, _, hdport, hudp⟩ := holds_prefixBytes hm
  have hip := ipHeader_of_prefixBytes hm
  have htype : ((⟨m, a⟩ : Ptr).expect [(12, 0x08), (13, 0x00)]).val = true := by
    rw [Ptr.val_expect]
    simp only [List.forall_mem_cons, List.not_mem_nil, false_implies, implies_true, and_true]
    exact ⟨h12, h13⟩
  have hlen' : beNat (m.slice (a + 16) 2) = 28 + n := by
    rw [beNat_of_holds hlen (UInt16.toNat_lt _), toNat_ipTotalLen hn]
  have hflags' : beNat (m.slice (a + 20) 2) = 0x4000 := beNat_of_holds hflags (by decide)
  have hport' : beNat (m.slice (a + 36) 2) = UDP_DST_PORT.toNat := by
    rw [beNat_of_holds hdport (UInt16.toNat_lt _), hport]
  have hudp' : beNat (m.slice (a + 38) 2) = 8 + n := by
    rw [beNat_of_holds hudp (UInt16.toNat_lt _), UInt16.toNat_ofNat', Nat.mod_eq_of_lt (by omega)]
  have hsub : (Cursor.sub 32 (28 + n) 20).val = 8 + n := by
    rw [Cursor.val_sub (by omega)]
    omega
  have hcsum : (ipv4ChecksumOk ((⟨m, a⟩ : Ptr).add 14)).val = true := val_ipv4ChecksumOk hip
  have hfits : 14 + (28 + n) ≤ size := by omega
  have hgroup : UInt32.ofNat (beNat (m.slice (a + 30) 4)) = cfg.dstIP := by
    rw [beNat_of_holds hdst (UInt32.toNat_lt _), UInt32.ofNat_toNat]
  unfold validateREnvelope
  rw [if_neg (by omega)]
  simp [Traced.val_bind, Ptr.mem_add, Ptr.off_add, Ptr.val_get, Ptr.val_load, Nat.add_assoc,
    htype, h14, hlen', hfits, hflags', h23, hport', hudp', hsub, hck, hcsum, hgroup]

variable {crypto : Crypto} {params : BuildParams} {apdu : List UInt8}

/-! ### The session PDU -/

namespace RFrame.Carries

variable (h : Carries crypto cfg params srcPort apdu m)

include h

/-- The session header in a frame, whether encrypted or not. -/
lemma holds_headBytes : m.Holds OFF_UDP_PAYLOAD (headBytes params) := by
  obtain ⟨iv, tag, hiv, _, hsealed⟩ := h.session
  exact (holds_sealedBytes hsealed hiv).1

/-- The frame is recognised, and its key is the source port. -/
theorem getProtoType_eq (hport : cfg.dstPort = UDP_DST_PORT)
    (hsi : params.si = SI_R_GOOSE ∨ params.si = SI_R_SV) (hsize : R_MIN_FRAME_SIZE ≤ size)
    (appid : ℕ) : (getProtoType ⟨m, 0⟩ appid size).val =
      (if params.si = SI_R_GOOSE then .BUS_PROTO_R_GOOSE else .BUS_PROTO_R_SV, srcPort.toNat) := by
  obtain ⟨_, ⟨h12, h13, h14, h23⟩, _, _, _, hsrc, hdport, _⟩ := holds_prefixBytes h.prefixed
  obtain ⟨⟨_, _, hsi', _⟩, _⟩ := RSess.holds_headBytes.mp h.holds_headBytes
  have hport' : beBytes 2 cfg.dstPort.toNat = [0x00, 0x66] := by rw [hport]; rfl
  rw [hport', Mem.holds_cons, Mem.holds_cons] at hdport
  obtain ⟨h36, h37, _⟩ := hdport
  have hkey : beNat (m.slice (0 + 34) 2) = srcPort.toNat := beNat_of_holds hsrc srcPort.toNat_lt
  have hsi'' : m R_SI_OFFSET = params.si := hsi'
  simp only [Nat.zero_add] at h12 h13 h14 h23 h36 h37
  simp only [getProtoType, getProtoTypeUntagged, Traced.val_bind, Traced.val_ite, Traced.val_pure,
    Ptr.val_expect, List.forall_mem_cons, List.not_mem_nil, false_implies, implies_true, and_true,
    Ptr.val_load, Ptr.val_get, hkey, Nat.zero_add, h12, h13, h14, h23, h36, h37, hsize, hsi'']
  simp [hsi]

/-- The envelope is in order. -/
lemma envelope_eq (hport : cfg.dstPort = UDP_DST_PORT)
    (hlt : 28 + udpPayloadSize params.mode apdu.length < 2 ^ 16)
    (hsize : OFF_UDP_PAYLOAD + udpPayloadSize params.mode apdu.length ≤ size) {olFlags : UInt64}
    (hck : olFlags &&& RTE_MBUF_F_RX_IP_CKSUM_MASK ≠ RTE_MBUF_F_RX_IP_CKSUM_BAD)
    (dstIP : UInt32) :
    (validateREnvelope ⟨m, 0⟩ size olFlags dstIP).val = (R_ENV_OK, cfg.dstIP) :=
  envelope_of_prefixBytes h.prefixed hport hlt hsize hck dstIP

end RFrame.Carries

/-! ### Unwrapping -/

lemma val_unsealUnlessNone {udp : Ptr} {mode : SecurityMode} {session : SessionHeader} :
    (unsealUnlessNone udp size mode session crypto).val =
      (unsealFrame udp size mode session crypto).val := by
  unfold unsealUnlessNone
  split_ifs with hmode
  · rfl
  · simp [unsealFrame, not_not.mp hmode]

/-- What `unwrap_r_frame` hands on of a frame: the headers and the place of the APDU. -/
structure Unwraps (m : Mem) (size : Int32) (crypto : Crypto) (params : BuildParams)
    (apdu : List UInt8) (u : Unwrapped) : Prop where
  val_eq : ∀ session,
    (unwrapRFrame ⟨m, 0⟩ size params.si params.payloadType params.mode crypto session).val = u
  code : u.code = apdu.length
  session : u.session = sessionOf params OFF_UDP_PAYLOAD
  phdr : u.phdr = payloadOf params
  apdu_holds : u.mem.Holds u.apduBase apdu
  /-- Only the session PDU is decrypted. -/
  keeps : ∀ i < OFF_UDP_PAYLOAD, u.mem i = m i

theorem RFrame.Carries.unwraps (h : Carries crypto cfg params srcPort apdu m)
    (hlaw : crypto.Lawful) (hlt : 28 + udpPayloadSize params.mode apdu.length < 2 ^ 16)
    {size : Int32}
    (hsize : (OFF_UDP_PAYLOAD + udpPayloadSize params.mode apdu.length : ℕ) ≤ size.toInt)
    (hsi : params.si = SI_R_GOOSE ∨ params.si = SI_R_SV)
    (htype : params.payloadType = PAYLOAD_TYPE_GOOSE ∨ params.payloadType = PAYLOAD_TYPE_SV) :
    ∃ u, Unwraps m size crypto params apdu u := by
  obtain ⟨_, _, hlen, _⟩ := holds_prefixBytes h.prefixed
  obtain ⟨iv, tag, hiv, htag, hsealed⟩ := h.session
  have hip : ipTotalLenAt ⟨m, 0⟩ = 28 + udpPayloadSize params.mode apdu.length := by
    rw [ipTotalLenAt, beNat_of_holds hlen (UInt16.toNat_lt _), toNat_ipTotalLen hlt]
  have hudp : udpSizeAt ⟨m, 0⟩ = udpPayloadSize params.mode apdu.length := by
    rw [udpSizeAt, hip, Nat.add_sub_cancel_left]
  obtain ⟨m', hrec⟩ := received_of_holds hlaw hsealed hiv h.apdu_length htag le_rfl hsi htype
  have hudpAt : udpAt ⟨m, 0⟩ = ⟨m, OFF_UDP_PAYLOAD⟩ := rfl
  have hunseal : unsealed ⟨m, 0⟩ params.mode crypto = (true, m') := by
    rw [unsealed, val_unsealUnlessNone, hudpAt, hudp, hrec.session_eq]
    exact hrec.unseal_eq
  have hphdr : phdrAt ⟨m, 0⟩ params.mode crypto = payloadOf params := by
    rw [phdrAt, hunseal, hudpAt, hrec.session_eq]
    exact hrec.payload_eq
  have happly : apduSizeAt ⟨m, 0⟩ = apdu.length := by
    rw [apduSizeAt, hudpAt, hrec.session_eq, h.apdu_length]
    show params.payloadLength.toNat - _ = _
    rw [params.toNat_payloadLength, Nat.add_sub_cancel_left]
  have hok : UnwrapOk ⟨m, 0⟩ size params.mode crypto params.si params.payloadType := by
    refine ⟨⟨?_, by omega, ?_, ?_⟩, ?_, by rw [hunseal], ?_, by rw [hphdr]; rfl⟩
    · have hle : apduOffset 0 ≤ udpPayloadSize params.mode apdu.length := by
        have hzero : (0 : UInt8).toNat = 0 := rfl
        simp only [udpPayloadSize, apduOffset, payloadHdrOffset, hzero]
        omega
      simp only [ETH_IP_UDP_SIZE, OFF_UDP_PAYLOAD] at hsize ⊢
      omega
    · rw [hip]
      rw [OFF_UDP_PAYLOAD] at hsize
      omega
    · rw [hudpAt, hudp]
      exact hrec.session_ok
    · rw [hudpAt, hrec.session_eq]
      rfl
    · rw [hunseal, hudpAt, hudp, hrec.session_eq]
      exact hrec.payload_ok
  refine ⟨unwrappedAt ⟨m, 0⟩ params.mode crypto, fun session =>
    (unwrapRFrame_spec _ _ _ _ _ _ session).ok hok, congrArg Nat.cast happly, hrec.session_eq,
    hphdr, ?_, fun i hi => ?_⟩
  · show (unsealed ⟨m, 0⟩ params.mode crypto).2.Holds (apduBaseAt ⟨m, 0⟩) apdu
    rw [hunseal, apduBaseAt, hudpAt, hrec.session_eq]
    exact hrec.apdu_holds
  · show (unsealed ⟨m, 0⟩ params.mode crypto).2 i = m i
    rw [hunseal]
    exact hrec.frame i hi

/-! ### Parsing -/

lemma MAC.eq_of_m_mac {x y : MAC} (h : x.m_mac = y.m_mac) : x = y := by
  cases x
  cases y
  cases h
  rfl

/-- The destination address is that of the group. -/
lemma Unwraps.dmac {size : Int32} {u : Unwrapped} (hu : Unwraps m size crypto params apdu u)
    (h : Carries crypto cfg params srcPort apdu m) :
    (MAC.read ⟨u.mem, 0⟩).val = multicastMac cfg.dstIP := by
  refine MAC.eq_of_m_mac ?_
  rw [MAC.val_read, ← (holds_prefixBytes h.prefixed).1.slice_eq, MAC.size]
  refine Mem.slice_congr fun i _ hi => hu.keeps i ?_
  dsimp only at hi
  rw [OFF_UDP_PAYLOAD]
  omega

section Parsing

variable (h : Carries crypto cfg params srcPort apdu m) (hlaw : crypto.Lawful)
  (hlt : 28 + udpPayloadSize params.mode apdu.length < 2 ^ 16) {size : Int32}
  (hsize : (OFF_UDP_PAYLOAD + udpPayloadSize params.mode apdu.length : ℕ) ≤ size.toInt)

include h hlaw hlt hsize

/-- An R-GOOSE frame is parsed to what the PDU in it holds. -/
theorem parseRGoosePacket_reports (hsi : params.si = SI_R_GOOSE)
    (htype : params.payloadType = PAYLOAD_TYPE_GOOSE) {pdu : GoosePdu} (hpdu : pdu.Encodes apdu)
    (session : SessionHeader) (passport : GoosePassport) (state : GooseState) :
    ∃ r, pdu.Reports { passport with dmac := multicastMac cfg.dstIP, appid := params.appid } r ∧
      ∃ f, ∀ fuel, f ≤ fuel →
        (parseRGoosePacket fuel ⟨m, 0⟩ size params.mode crypto session passport state).val =
          some (r, sessionOf params OFF_UDP_PAYLOAD) := by
  obtain ⟨u, hu⟩ := h.unwraps hlaw hlt hsize (.inl hsi) (.inl htype)
  have happlySize : (Int32.ofInt u.code).toInt = apdu.length := by
    rw [hu.code]
    exact Int32.toInt_ofInt_of_le (by omega) (by simp only [udpPayloadSize] at hlt; omega)
  have happly : (⟨u.mem, u.apduBase⟩ : Ptr).mem.Holds (⟨u.mem, u.apduBase⟩ : Ptr).off apdu :=
    hu.apdu_holds
  obtain ⟨r, hr, f, hf⟩ := parseGooseApdu_reports hpdu happlySize happly
    { passport with dmac := multicastMac cfg.dstIP, appid := params.appid } state
  refine ⟨r, hr, f, fun fuel hfuel => ?_⟩
  have hval := hu.val_eq session
  have happid : u.phdr.appid = params.appid := by rw [hu.phdr]; rfl
  rw [hsi, htype] at hval
  unfold parseRGoosePacket
  rw [Traced.val_bind, hval, if_neg (by rw [hu.code]; omega), Traced.val_bind, hu.dmac h,
    Traced.val_bind, happid, hf fuel hfuel, hu.session]
  rfl

/-- And an R-SV frame. -/
theorem parseRSvPacket_reports (hsi : params.si = SI_R_SV)
    (htype : params.payloadType = PAYLOAD_TYPE_SV) {pdu : SvPdu} (hpdu : pdu.Encodes apdu)
    (session : SessionHeader) (passport : SVStreamPassport) (state : SVStreamState) :
    ∃ r, r.code = 0 ∧
      Reports { passport with
        dmac := multicastMac cfg.dstIP
        appid := params.appid
        num := UInt16.ofNat pdu.asdus.length } state pdu.first r ∧
      ∃ f, ∀ fuel, f ≤ fuel →
        (parseRSvPacket fuel ⟨m, 0⟩ size params.mode crypto session passport state).val =
          some (r, sessionOf params OFF_UDP_PAYLOAD) := by
  obtain ⟨u, hu⟩ := h.unwraps hlaw hlt hsize (.inr hsi) (.inr htype)
  have hcode : u.code.toNat = apdu.length := by
    rw [hu.code]
    exact Int.toNat_natCast _
  have happly : apdu.length < 2 ^ 31 := by
    simp only [udpPayloadSize] at hlt
    omega
  obtain ⟨r, hrun, hzero, hreports⟩ := @parseSvApdu_spec ⟨u.mem, u.apduBase⟩ apdu.length
    { passport with dmac := multicastMac cfg.dstIP, appid := params.appid } state happly
  have hstarts : StartsWith ⟨u.mem, u.apduBase⟩ pdu apdu.length :=
    ⟨apdu, [], by rw [List.append_nil]; exact hu.apdu_holds.slice_eq, hpdu⟩
  refine ⟨r, hzero.mpr ⟨pdu, hstarts⟩, hreports pdu hstarts, apdu.length + 1, fun fuel hfuel => ?_⟩
  have hval := hu.val_eq session
  have happid : u.phdr.appid = params.appid := by rw [hu.phdr]; rfl
  rw [hsi, htype] at hval
  unfold parseRSvPacket
  rw [Traced.val_bind, hval, if_neg (by rw [hu.code]; omega), Traced.val_bind, hu.dmac h,
    Traced.val_bind, happid, hcode, hrun fuel hfuel, hu.session]
  rfl

end Parsing

end ProcessBus
