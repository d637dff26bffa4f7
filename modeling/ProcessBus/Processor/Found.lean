import ProcessBus.Processor.Delivery

/-!
# Frames that find their source

A frame of a stream is looked up under the passport `Init` has registered the source of the stream
under: the addresses in the headers, the strings and numbers of its APDU. The destination of an L2
frame is the one the generator asks the library for; that of a routable one depends on the stream.
-/

namespace ProcessBus

open RSess RFrame

/-- The frame is one of the protocol, and for all large values of the fuel of the parser it is
looked up under a passport that leads to source `i`. -/
structure Finds {K S : Type} [HasAppId K] [BEq K] (hit : ℕ → RxFrame → Option (K × (S → S)))
    (c : AppIdContainer K ℕ) (proto : BusProto) (i : ℕ) (frame : RxFrame) : Prop where
  proto : protoOf frame = proto
  found : ∃ f, ∀ fuel, f ≤ fuel →
    ∃ pass take, hit fuel frame = some (pass, take) ∧ c.lookup pass = some i

/-! ### Routable frames -/

section Routable

variable {conf : RxConfig} {cfg : RFrameConfig} {crypto : Crypto} {ω : Type} [DecidableEq ω]
  {count base : ω → UInt32} {w : ω} {idx : UInt32} {num j : ℕ} {f : Mem} {frame : RxFrame}

variable (base) in
/-- A frame of an R-GOOSE stream that arrives finds its source. -/
lemma finds_rgoose {msg : GooseMessage} {k : GooseLayout} {v : GooseValues}
    {gens : ω → RGooseTrafficGen} {s : Pool.State ω UInt32 RGooseTrafficGen}
    (hlaw : crypto.Lawful) (hk : k.Describes v msg) (hport : cfg.dstPort = UDP_DST_PORT)
    (hconf : ExpectsRGoose conf num (k.entries.length + 1) cfg) (hnum : num ≤ 65535)
    (hmake : ∀ w, RGooseTrafficGen.make msg cfg crypto (count w) (base w) = some (gens w))
    (hrun : (GenKind.rgoose cfg.mode).Run gens s) (hidx : idx < count w)
    (hi : (base w).toNat + idx.toNat < num) (hf : (s.frames w idx)[j]? = some f)
    (h : Reaches f (gens w).m_skeletonSize frame) :
    Finds (fun fuel => gooseHit fuel crypto (init conf).m_rMode) (init conf).m_gooseMap
      .BUS_PROTO_R_GOOSE ((base w).toNat + idx.toNat) frame := by
  obtain ⟨ied, hsID, -, hvalid, hsize, hlt, hemit⟩ :=
    RGooseTrafficGen.frame_of_run hk hmake hrun hidx hf
  rw [hsize] at h
  have hstream := toNat_stream (base w) idx (by omega)
  rw [printDecimal_eq (by decide) (by omega), ← hstream] at hsID
  rw [← hstream] at hi ⊢
  obtain ⟨-, happid⟩ := toUInt16_stream (idx + base w) (by omega)
  obtain ⟨hproto, henv⟩ := RFrame.Carries.recognised hemit h hlt hport (.inl rfl)
  obtain ⟨r, hr, f₀, hparse⟩ :=
    RFrame.Carries.parseRGoose hemit h hlt hlaw rfl rfl hvalid.encodes
  obtain ⟨hlookup, -⟩ := hconf.lookup (by omega) hi (hconf.beq_passport hvalid hr hsID happid rfl)
  have hproto : protoOf frame = .BUS_PROTO_R_GOOSE := congrArg Prod.fst hproto
  have hmode : (init conf).m_rMode = cfg.mode := (mode_init conf).trans hconf.mode
  have hip : streamDstIp cfg.dstIP (idx + base w).toNat = (envelope frame).2 := by rw [henv]
  rw [hip] at hlookup
  refine ⟨hproto, f₀, fun fuel hfuel => ⟨_, fun src =>
    (src.processSessionState (UInt32.ofNat (j + 1))).processState
      { r.passport with dstIP := (envelope frame).2 } r.state, ?_, hlookup⟩⟩
  have hval : (parseRGoosePacket fuel frame.packet frame.size cfg.mode crypto {} {} {}).val =
      some (r, _) := hparse fuel hfuel
  have hok : (envelope frame).1 = R_ENV_OK := congrArg Prod.fst henv
  simp only [gooseHit, hproto, hok, hmode, ne_eq, not_true, if_false, hval, if_pos hr.code]
  rfl

variable (base) in
/-- A frame of an R-SV stream that arrives finds its source. -/
lemma finds_rsv {type : SvType} {msg : SvMessage} {k : SvLayout} {sID : List UInt8}
    {cnt : ℕ → List UInt8} {gens : ω → RSVTrafficGen} {s : Pool.State ω UInt32 RSVTrafficGen}
    (hlaw : crypto.Lawful) (hk : k.Describes sID cnt msg) (hsID : sID.length = 4)
    (hcnt : ∀ i, (cnt i).length = 2) (hasdus : k.asdus.length = type.asduNum)
    (hport : cfg.dstPort = UDP_DST_PORT) (hconf : ExpectsRSv conf type num cfg)
    (hnum : num ≤ 9999)
    (hmake : ∀ w, RSVTrafficGen.make msg cfg crypto type (count w) (base w) = some (gens w))
    (hrun : (GenKind.rsv cfg.mode type).Run gens s) (hidx : idx < count w)
    (hi : (base w).toNat + idx.toNat < num) (hf : (s.frames w idx)[j]? = some f)
    (h : Reaches f (gens w).m_skeletonSize frame) :
    Finds (fun fuel => svHit fuel crypto (init conf).m_rMode) (init conf).m_svMap
      .BUS_PROTO_R_SV ((base w).toNat + idx.toNat) frame := by
  obtain ⟨sID', cnt', hname, -, hvalid, hsize, hlt, hemit⟩ :=
    RSVTrafficGen.frame_of_run hk hsID hcnt hasdus hmake hrun hidx hf
  rw [hsize] at h
  have hstream := toNat_stream (base w) idx (by omega)
  rw [UInt32.toNat_ofNat', Nat.mod_eq_of_lt (by omega), printDecimal_eq (by decide) (by omega),
    ← hstream] at hname
  rw [← hstream] at hi ⊢
  obtain ⟨-, happid⟩ := toUInt16_stream (idx + base w) (by omega)
  obtain ⟨hproto, henv⟩ := RFrame.Carries.recognised hemit h hlt hport (.inr rfl)
  obtain ⟨r, hcode, hr, f₀, hparse⟩ :=
    RFrame.Carries.parseRSv hemit h hlt hlaw rfl rfl hvalid.encodes
  let passport : SVStreamPassport := {
    dmac := multicastMac (streamDstIp cfg.dstIP (idx + base w).toNat)
    appid := (idx + base w + 1).toUInt16 }
  replace hr : Reports { passport with num := UInt16.ofNat hvalid.toPdu.asdus.length } {}
    hvalid.toPdu.first r := hr
  obtain ⟨hlookup, -⟩ :=
    hconf.lookup (by omega) hi (hconf.beq_passport hvalid hasdus hr hname happid rfl)
  have hproto : protoOf frame = .BUS_PROTO_R_SV := congrArg Prod.fst hproto
  have hmode : (init conf).m_rMode = cfg.mode := (mode_init conf).trans hconf.mode
  have hip : streamDstIp cfg.dstIP (idx + base w).toNat = (envelope frame).2 := by rw [henv]
  rw [hip] at hlookup
  refine ⟨hproto, f₀, fun fuel hfuel => ⟨_, fun src =>
    (src.processSessionState (UInt32.ofNat (j + 1))).processState
      { r.passport with dstIP := (envelope frame).2 } r.state, ?_, hlookup⟩⟩
  have hval : (parseRSvPacket fuel frame.packet frame.size cfg.mode crypto {} {} {}).val =
      some (r, _) := hparse fuel hfuel
  have hok : (envelope frame).1 = R_ENV_OK := congrArg Prod.fst henv
  simp only [svHit, hproto, hok, hmode, ne_eq, not_true, if_false, hval, if_pos hcode]
  rfl

end Routable

/-! ### L2 GOOSE -/

section Goose

/-- The receiver is set up for the L2 GOOSE streams of the generator. -/
structure ExpectsGoose (conf : RxConfig) (num entries : ℕ) : Prop where
  num : conf.m_confGooseNum.toNat = num
  -- routable streams would share the container
  only : conf.m_confRGooseNum = 0
  entries : conf.m_gooseEntries.toNat = entries

variable {conf : RxConfig} {num entries i : ℕ}

lemma ExpectsGoose.allGoose (h : ExpectsGoose conf num entries) :
    conf.allGoose = (List.range num).map conf.l2Goose := by
  rw [RxConfig.allGoose, h.only, h.num]
  exact List.append_nil _

/-- Whatever equals the passport of a registered source leads to it. -/
lemma ExpectsGoose.lookup (h : ExpectsGoose conf num entries) (hnum : num ≤ 65536) (hi : i < num)
    {pass : GoosePassport} (heq : ((conf.l2Goose i).getPassport == pass) = true) :
    (init conf).m_gooseMap.lookup pass = some i := by
  have hkeys : conf.allGoose.map GooseSource.getPassport =
      (List.range num).map fun i => (conf.l2Goose i).getPassport := by
    rw [h.allGoose, List.map_map]
    rfl
  have hnodup : ((conf.allGoose.map GooseSource.getPassport).map HasAppId.appid).Nodup := by
    rw [conf.appids_allGoose, nodup_flatMap_appidsOf, RxConfig.gooseCounts, h.only, h.num]
    exact ⟨by simp [hnum], by simp⟩
  rw [(registered_init conf).gooseMap]
  rw [hkeys] at hnodup ⊢
  apply AppIdContainer.lookup_map_range hnodup (hnum.trans (by decide)) hi _ heq
  exact (GoosePassport.beq_iff.mp heq).2.1.symm

/-- The passport of a registered source, and that of a frame of the stream. -/
lemma ExpectsGoose.beq_passport {k : GooseLayout} {v : GooseValues} {r : GooseParse}
    {passport : GoosePassport} (h : ExpectsGoose conf num (k.entries.length + 1))
    (hvalid : k.Valid v) (hr : hvalid.toPdu.Reports passport r)
    (hsID : v.sID = decimal 8 (i + 1)) (happid : passport.appid = UInt16.ofNat (0x0001 + i))
    (hdmac : passport.dmac = L2_GOOSE_MAC) (hip : passport.dstIP = 0) :
    ((conf.l2Goose i).getPassport == r.passport) = true := by
  apply GoosePassport.beq_iff.mpr
  refine ⟨?_, ?_, ?_, ?_, ?_, ?_, ?_, ?_⟩
  · exact (hr.dmac.trans hdmac).symm
  · exact (hr.appid.trans happid).symm
  · exact (hr.dstIP.trans hip).symm
  · refine (StringView.bytes_ofBytes _).trans (Eq.trans ?_ hr.goid.symm)
    exact congrArg (ascii "GOID" ++ ·) hsID.symm
  · refine (StringView.bytes_ofBytes _).trans (Eq.trans ?_ hr.dataset.symm)
    exact congrArg (ascii "IED" ++ · ++ ascii "LDName/LLN0$DataSet") hsID.symm
  · refine (StringView.bytes_ofBytes _).trans (Eq.trans ?_ hr.gocbref.symm)
    exact congrArg (ascii "IED" ++ · ++ ascii "LDName/LLN0$GO$GOCB") hsID.symm
  · have hne : hvalid.toPdu.confRev ≠ [] :=
      hvalid.toPdu.nonempty (0x88, _) (hvalid.toPdu.mem_order.mpr (by simp [GooseFields.elems]))
    have hone : beNat hvalid.toPdu.confRev = (1 : UInt32).toNat := hvalid.confRev.1
    have hcrev := toNat_asn1Number hne hvalid.confRev.2
    rw [← hr.crev, hone] at hcrev
    exact (UInt32.toNat_inj.mp hcrev).symm
  · apply UInt16.toNat_inj.mp
    refine Eq.trans ?_ hr.num.symm
    show conf.m_gooseEntries.toUInt16.toNat = k.entries.length + 1
    have hle := hvalid.num_le
    rw [UInt32.toNat_toUInt16, h.entries, Nat.mod_eq_of_lt (by omega)]

variable {msg : GooseMessage} {k : GooseLayout} {v : GooseValues} {s : Pool.State Unit UInt32
  GooseTrafficGen} {n idx : UInt32} {crypto : Crypto} {j : ℕ} {f : Mem} {frame : RxFrame}

variable (msg) in
/-- The name of a stream stays. -/
lemma GooseTrafficGen.sID_iedIn (hidx : idx.toNat < n.toNat) (j : ℕ) :
    ((make msg n).iedIn idx j).sID = printDecimal 8 (idx.toNat + 1) := by
  have hkept : ∀ ied : GooseSourceIED,
      (ied.amended (make msg n).m_tsDeltaChange).sID = ied.sID := fun _ => rfl
  have hlt := n.toNat_lt
  have hnat : (UInt32.ofNat (idx.toNat + 1)).toNat = idx.toNat + 1 :=
    UInt32.toNat_ofNat_of_lt' (show idx.toNat + 1 < 2 ^ 32 by omega)
  rw [iedIn, kept_iterate hkept, make, List.getD_eq_getElem?_getD, List.getElem?_map,
    List.getElem?_range hidx, ← hnat]
  rfl

/-- An L2 GOOSE frame that is received without padding is parsed to what it holds. -/
lemma goose_parses {head : L2Head} (hvalid : k.Valid v)
    (hf : f.Holds 0 (head.bytes 0xB8 ++ k.pdu v))
    (h : Delivered f (head.bytes 0xB8 ++ k.pdu v).length frame) :
    protoOf frame = .BUS_PROTO_GOOSE ∧ ∃ r : GooseParse, hvalid.toPdu.Reports {
        dmac := (MAC.read frame.packet).val
        appid := UInt16.ofNat (beNat head.appid) } r ∧
      (MAC.read frame.packet).val.m_mac = head.addresses.take 6 ∧
      ∃ f, ∀ fuel, f ≤ fuel →
        (parseGoosePacket fuel frame.packet frame.size {} {}).val = some r := by
  have hmem := h.toReaches.holds le_rfl hf
  have hhead := (Mem.holds_append.mp hmem).1
  have hsize : frame.size.toInt = (head.bytes 0xB8 ++ k.pdu v).length := by
    rw [h.toInt_size, h.exact]
  have hmin : 64 ≤ frame.size.toInt := by
    have hpdu := k.le_length_pdu v
    rw [hsize, List.length_append]
    omega
  obtain ⟨r, hr, f₀, hparse⟩ := parseGoosePacket_reports hvalid.encodes hmin hsize hmem {} {}
  have happid := L2Head.slice_appid hhead
  refine ⟨?_, r, ?_, L2Head.slice_dmac hhead, f₀, hparse⟩
  · exact congrArg Prod.fst (getProtoType_of_l2Header (.inl rfl) (L2Head.val_l2Header hhead))
  · rw [← happid]
    exact hr

variable (crypto) in
/-- A frame of stream `idx` that arrives finds its source. -/
lemma finds_goose (hk : k.Describes v msg)
    (hsize : msg.size = (k.head.bytes 0xB8 ++ k.pdu v).length)
    (hmac : k.head.addresses.take 6 = L2_GOOSE_MAC.m_mac)
    (hconf : ExpectsGoose conf n.toNat (k.entries.length + 1)) (hnum : n.toNat ≤ 65535)
    (hrun : GenKind.goose.Run (fun _ : Unit => .make msg n) s) (hidx : idx < n)
    (hf : (s.frames () idx)[j]? = some f) (h : Delivered f msg.size frame) :
    Finds (fun fuel => gooseHit fuel crypto (init conf).m_rMode) (init conf).m_gooseMap
      .BUS_PROTO_GOOSE idx.toNat frame := by
  have hidx : idx.toNat < n.toNat := hidx
  have hpub := GooseTrafficGen.published_of_run hk hrun hf
  have hsID := GooseTrafficGen.sID_iedIn msg hidx j
  rw [printDecimal_eq (by decide) (by omega)] at hsID
  generalize (GooseTrafficGen.make msg n).iedIn idx j = ied at *
  have hvalid := hk.valid.congr ied.values
  have hlen : ((GooseTrafficGen.headOf k idx).bytes 0xB8 ++ k.pdu ied.values).length =
      msg.size := by
    rw [hsize, List.length_append, List.length_append, L2Head.length_bytes, L2Head.length_bytes,
      k.length_pdu _ v]
    rfl
  rw [← hlen] at h
  obtain ⟨hproto, r, hr, haddr, f₀, hparse⟩ := goose_parses hvalid hpub h
  obtain ⟨-, happid⟩ := toUInt16_stream idx (by omega)
  have hdmac : (MAC.read frame.packet).val = L2_GOOSE_MAC := by
    rw [MAC.mk.injEq, haddr, ← hmac]
    exact List.take_left' (by simp [k.head.addresses_length])
  have hname : UInt16.ofNat (beNat (beBytes 2 (idx + 1).toUInt16.toNat)) =
      UInt16.ofNat (0x0001 + idx.toNat) := by
    rw [beNat_beBytes (idx + 1).toUInt16.toNat_lt, UInt16.ofNat_toNat, happid]
  have hbeq := hconf.beq_passport hvalid hr hsID hname hdmac rfl
  refine ⟨hproto, f₀, fun fuel hfuel => ?_⟩
  refine ⟨r.passport, (·.processState r.passport r.state), ?_,
    hconf.lookup (by omega) hidx hbeq⟩
  simp only [gooseHit, hproto, hparse fuel hfuel, if_pos hr.code]

end Goose

/-! ### L2 Sampled Values -/

section SampledValues

/-- The source of the L2 SV stream with number `i`. -/
def l2Sv : SvType → ℕ → SVStreamSource
  | .SV80 => RxConfig.sv80
  | .SV256 => RxConfig.sv256

/-- The receiver is set up for the L2 SV streams of the generator. -/
structure ExpectsSv (conf : RxConfig) (type : SvType) (num : ℕ) : Prop where
  -- the other kinds would share the container
  counts : conf.svCounts = match type with
    | .SV80 => [num, 0, 0, 0]
    | .SV256 => [0, num, 0, 0]

variable {conf : RxConfig} {type : SvType} {num i : ℕ}

lemma l2Sv_eq : l2Sv type i = svSource (UInt32.ofNat type.asduNum) L2_SV_MAC 0 i := by
  cases type <;> rfl

lemma ExpectsSv.allSV (h : ExpectsSv conf type num) :
    conf.allSV = (List.range num).map (l2Sv type) := by
  have hcounts := h.counts
  cases type <;>
  · simp only [RxConfig.svCounts, List.cons.injEq, and_true] at hcounts
    obtain ⟨h₁, h₂, h₃, h₄⟩ := hcounts
    simp [RxConfig.allSV, h₁, h₂, h₃, h₄, l2Sv]

/-- Whatever equals the passport of a registered source leads to it. -/
lemma ExpectsSv.lookup (h : ExpectsSv conf type num) (hnum : num ≤ 65536) (hi : i < num)
    {pass : SVStreamPassport} (heq : ((l2Sv type i).getPassport == pass) = true) :
    (init conf).m_svMap.lookup pass = some i := by
  have hkeys : conf.allSV.map SVStreamSource.getPassport =
      (List.range num).map fun i => (l2Sv type i).getPassport := by
    rw [h.allSV, List.map_map]
    rfl
  have hnodup : ((conf.allSV.map SVStreamSource.getPassport).map HasAppId.appid).Nodup := by
    rw [conf.appids_allSV, nodup_flatMap_appidsOf, h.counts]
    cases type <;> exact ⟨by simp [hnum], by simp⟩
  rw [(registered_init conf).svMap]
  rw [hkeys] at hnodup ⊢
  apply AppIdContainer.lookup_map_range hnodup (hnum.trans (by decide)) hi _ heq
  exact (SVStreamPassport.beq_iff.mp heq).2.1.symm

/-- The passport of a registered source, and that of a frame of the stream. -/
lemma beq_l2Sv {k : SvLayout} {sID : List UInt8} {cnt : ℕ → List UInt8}
    {passport : SVStreamPassport} {state : SVStreamState} {r : SVParse} (hvalid : k.Valid sID cnt)
    (hasdus : k.asdus.length = type.asduNum)
    (hr : Reports { passport with num := UInt16.ofNat hvalid.toPdu.asdus.length } state
      hvalid.toPdu.first r)
    (hsID : sID = decimal 4 (i + 1))
    (haddr : r.passport.addresses = (L2_SV_MAC, UInt16.ofNat (0x0001 + i), 0)) :
    ((l2Sv type i).getPassport == r.passport) = true := by
  obtain ⟨hnum, hsvid, hcrev, _⟩ := hr.values
  obtain ⟨hfirst, _, hrev⟩ := hvalid.first_toPdu
  obtain ⟨hdmac, hrest⟩ := Prod.ext_iff.mp haddr
  obtain ⟨happid, hip⟩ := Prod.ext_iff.mp hrest
  rw [l2Sv_eq]
  apply SVStreamPassport.beq_iff.mpr
  refine ⟨hdmac.symm, happid.symm, ?_, ?_, hip.symm, ?_⟩
  · apply UInt16.toNat_inj.mp
    refine Eq.trans ?_ hnum.symm
    rw [show hvalid.toPdu.asdus.length = type.asduNum from
      (SvLayout.length_toAsdus _ _).trans hasdus]
    cases type <;> rfl
  · apply UInt32.toNat_inj.mp
    refine Eq.trans ?_ hcrev.symm
    rw [hrev]
    rfl
  · refine (StringView.bytes_ofBytes _).trans (Eq.trans ?_ (hsvid.trans hfirst).symm)
    exact congrArg (ascii "SVID" ++ ·) hsID.symm

variable {msg : SvMessage} {k : SvLayout} {sID : List UInt8} {cnt : ℕ → List UInt8}
  {s : Pool.State Unit UInt32 SVTrafficGen} {n idx : UInt32} {crypto : Crypto} {j : ℕ} {f : Mem}
  {frame : RxFrame}

variable (msg type) in
/-- The name of a stream stays. -/
lemma SVTrafficGen.sID_iedIn (hidx : idx.toNat < n.toNat) (j : ℕ) :
    ((make msg n type).iedIn type idx j).sID = printDecimal 4 (idx.toNat + 1) := by
  have hlt := n.toNat_lt
  have hnat : (UInt32.ofNat (idx.toNat + 1)).toNat = idx.toNat + 1 :=
    UInt32.toNat_ofNat_of_lt' (show idx.toNat + 1 < 2 ^ 32 by omega)
  rw [iedIn, kept_iterate SVSourceIED.sID_behind, make, List.getD_eq_getElem?_getD,
    List.getElem?_map, List.getElem?_range hidx, ← hnat]
  rfl

/-- An L2 SV frame that is received, padded or not, is parsed to what it holds. -/
lemma sv_parses {head : L2Head} {size : ℕ} (hvalid : k.Valid sID cnt)
    (hf : f.Holds 0 (head.bytes 0xBA ++ k.pdu sID cnt))
    (hle : (head.bytes 0xBA ++ k.pdu sID cnt).length ≤ size) (h : Reaches f size frame) :
    protoOf frame = .BUS_PROTO_SV ∧ ∃ (r : SVParse) (passport : SVStreamPassport), r.code = 0 ∧
      Reports { passport with num := UInt16.ofNat hvalid.toPdu.asdus.length } {}
        hvalid.toPdu.first r ∧
      r.passport.addresses =
        ((MAC.read frame.packet).val, UInt16.ofNat (beNat head.appid), 0) ∧
      (MAC.read frame.packet).val.m_mac = head.addresses.take 6 ∧
      ∃ f, ∀ fuel, f ≤ fuel →
        (parseSvPacket fuel frame.packet frame.size {} {}).val = some r := by
  have hmem := h.holds hle hf
  have hhead := (Mem.holds_append.mp hmem).1
  have hsize : ((head.bytes 0xBA ++ k.pdu sID cnt).length : ℤ) ≤ frame.size.toInt :=
    le_trans (by exact_mod_cast hle) h.size_toInt
  have hmin : 64 ≤ frame.size.toInt := by
    have hpdu := hvalid.le_length_pdu
    rw [List.length_append] at hsize
    omega
  obtain ⟨r, passport, hcode, hr, f₀, hparse⟩ :=
    parseSvPacket_reports hvalid.encodes hmin hsize hmem {} {}
  obtain ⟨pos, hpos, haddr⟩ := addresses_parseSvPacket (hparse f₀ le_rfl) hcode
  obtain rfl := Option.some.inj ((L2Head.val_l2Header hhead).symm.trans hpos)
  rw [L2Head.slice_appid hhead] at haddr
  refine ⟨?_, r, passport, hcode, hr, haddr, L2Head.slice_dmac hhead, f₀, hparse⟩
  exact congrArg Prod.fst (getProtoType_of_l2Header (.inr rfl) hpos)

variable (crypto) in
/-- A frame of stream `idx` that arrives finds its source. -/
lemma finds_sv (hk : k.Describes sID cnt msg) (hsID : sID.length = 4)
    (hcnt : ∀ i, (cnt i).length = 2) (hasdus : k.asdus.length = type.asduNum)
    (hmac : k.head.addresses.take 6 = L2_SV_MAC.m_mac)
    (hconf : ExpectsSv conf type n.toNat) (hnum : n.toNat ≤ 9999)
    (hrun : (GenKind.sv type).Run (fun _ : Unit => .make msg n type) s) (hidx : idx < n)
    (hf : (s.frames () idx)[j]? = some f) (h : Delivered f msg.size frame) :
    Finds (fun fuel => svHit fuel crypto (init conf).m_rMode) (init conf).m_svMap
      .BUS_PROTO_SV idx.toNat frame := by
  have hidx : idx.toNat < n.toNat := hidx
  have hpub := SVTrafficGen.published_of_run hk hsID hcnt hasdus hrun hf
  have hname := SVTrafficGen.sID_iedIn type msg hidx j
  rw [printDecimal_eq (by decide) (by omega)] at hname
  dsimp only at hpub
  generalize (SVTrafficGen.make msg n type).iedIn type idx j = ied at *
  have hcnt' : ∀ i, (ied.counters type.freq i).length = (cnt i).length := fun i =>
    (length_beBytes _ _).trans (hcnt i).symm
  have hsID' : ied.sID.length = sID.length := ied.size.trans hsID.symm
  have hlen : ((SVTrafficGen.headOf k idx).bytes 0xBA ++
      k.pdu ied.sID (ied.counters type.freq)).length ≤ msg.size := by
    refine le_trans (Nat.le_of_eq ?_) hk.size_le
    rw [List.length_append, List.length_append, L2Head.length_bytes, L2Head.length_bytes,
      SvLayout.length_pdu hsID' hcnt']
    rfl
  have hvalid := hk.valid.congr hsID' hcnt'
  obtain ⟨hproto, r, passport, hcode, hr, haddr, hread, f₀, hparse⟩ :=
    sv_parses hvalid hpub hlen h.toReaches
  obtain ⟨-, happid⟩ := toUInt16_stream idx (by omega)
  have hdmac : (MAC.read frame.packet).val = L2_SV_MAC := by
    rw [MAC.mk.injEq, hread, ← hmac]
    rfl
  have hkey : UInt16.ofNat (beNat (SVTrafficGen.headOf k idx).appid) =
      UInt16.ofNat (0x0001 + idx.toNat) := by
    show UInt16.ofNat (beNat (beBytes 2 (idx + 1).toUInt16.toNat)) = _
    rw [beNat_beBytes (idx + 1).toUInt16.toNat_lt, UInt16.ofNat_toNat, happid]
  rw [hdmac, hkey] at haddr
  have hbeq := beq_l2Sv hvalid hasdus hr hname haddr
  refine ⟨hproto, f₀, fun fuel hfuel => ?_⟩
  refine ⟨r.passport, (·.processState r.passport r.state), ?_,
    hconf.lookup (by omega) hidx hbeq⟩
  simp only [svHit, hproto, hparse fuel hfuel, if_pos hcode]

end SampledValues

end ProcessBus
