import ProcessBus.Common.Sequence
import ProcessBus.Generator.Published
import ProcessBus.Lib.Losses
import ProcessBus.Processor.EndToEnd

/-!
# Frames that reach their source

What a source counts when the frames of its stream reach it. A frame of a run tells the source the
number of its call, in the state number or the sample counter and, if it is a routable one, in the
SPDU number. A source sees nothing of the frames of other streams in between.

If nothing is lost nothing is counted, however long the run and however often the numbers start
over.
-/

namespace ProcessBus

open RSess RFrame

/-! ### What a source counts -/

/-- A state number that is neither repeated nor the next one. -/
def StGap (last n : UInt32) : Prop := last ≠ n ∧ n ≠ last + 1

/-- A sample counter that is neither the next one, of a frame with `num` samples, nor zero. -/
def SmpGap (num last n : UInt32) : Prop := n ≠ last + num ∧ n ≠ 0

instance : DecidableRel StGap := fun a b => inferInstanceAs (Decidable (a ≠ b ∧ b ≠ a + 1))

instance {num : UInt32} : DecidableRel (SmpGap num) := fun a b =>
  inferInstanceAs (Decidable (b ≠ a + num ∧ b ≠ 0))

/-- The last number and the errors of the sequence, and those of the session. -/
abbrev GapCounts : Type := (UInt32 × UInt32) × (UInt32 × UInt32)

def GooseSource.counts (src : GooseSource) : GapCounts :=
  ((src.m_stNum, src.m_errSeqCnt), (src.m_spduNumber, src.m_errSpduCnt))

def SVStreamSource.counts (src : SVStreamSource) : GapCounts :=
  ((src.m_smpCnt, src.m_errSmpCnt), (src.m_spduNumber, src.m_errSpduCnt))

/-- What a frame makes of them. L2 frames have no SPDU number. -/
def GapCounts.next (gap : UInt32 → UInt32 → Prop) [DecidableRel gap] (spduNumber : Option UInt32)
    (n : UInt32) (c : GapCounts) : GapCounts :=
  (Losses.track gap c.1 n, spduNumber.elim c.2 (trackSpdu c.2))

lemma GooseSource.counts_processState (src : GooseSource) (pass : GoosePassport)
    (state : GooseState) : (src.processState pass state).counts =
      src.counts.next StGap none state.stNum := by
  have hstep : (if src.m_stNum ≠ state.stNum then
      if state.stNum ≠ src.m_stNum + 1 then src.m_errSeqCnt + 1 else src.m_errSeqCnt
      else src.m_errSeqCnt) =
      if StGap src.m_stNum state.stNum then src.m_errSeqCnt + 1 else src.m_errSeqCnt := by
    by_cases h : src.m_stNum = state.stNum <;> simp [StGap, h]
  exact congrArg (fun err => ((state.stNum, err), (src.m_spduNumber, src.m_errSpduCnt))) hstep

lemma GooseSource.counts_session (src : GooseSource) (spduNumber : UInt32) (pass : GoosePassport)
    (state : GooseState) : ((src.processSessionState spduNumber).processState pass state).counts =
      src.counts.next StGap (some spduNumber) state.stNum :=
  (counts_processState _ pass state).trans rfl

lemma SVStreamSource.counts_processState (src : SVStreamSource) (pass : SVStreamPassport)
    (state : SVStreamState) : (src.processState pass state).counts =
      src.counts.next (SmpGap pass.num.toUInt32) none state.smpCnt.toUInt32 := by
  have hzero : state.smpCnt = 0 ↔ state.smpCnt.toUInt32 = 0 := by
    rw [← UInt16.toNat_inj, ← UInt32.toNat_inj, UInt16.toNat_toUInt32]
    rfl
  have hstep : (if state.smpCnt.toUInt32 ≠ src.m_smpCnt + pass.num.toUInt32 ∧ state.smpCnt ≠ 0 then
      src.m_errSmpCnt + 1 else src.m_errSmpCnt) =
      if SmpGap pass.num.toUInt32 src.m_smpCnt state.smpCnt.toUInt32 then src.m_errSmpCnt + 1
      else src.m_errSmpCnt := if_congr (and_congr_right' (not_congr hzero)) rfl rfl
  exact congrArg (fun err => ((state.smpCnt.toUInt32, err), (src.m_spduNumber, src.m_errSpduCnt)))
    hstep

lemma SVStreamSource.counts_session (src : SVStreamSource) (spduNumber : UInt32)
    (pass : SVStreamPassport) (state : SVStreamState) :
    ((src.processSessionState spduNumber).processState pass state).counts =
      src.counts.next (SmpGap pass.num.toUInt32) (some spduNumber) state.smpCnt.toUInt32 :=
  (counts_processState _ pass state).trans rfl

/-! ### What reaches a source -/

section Deliver

variable {K S κ : Type} [DecidableEq κ]

/-- A source after a frame: what the frame makes of it, if the frame is taken at all. -/
def deliver (hit : RxFrame → Option (K × (S → S))) (src : S) (frame : RxFrame) : S :=
  match hit frame with
  | some (_, take) => take src
  | none => src

/-- The sources of many streams after the frames of all of them, in the order of arrival. -/
def deliverAll (hit : RxFrame → Option (K × (S → S))) (sources : κ → S)
    (arrivals : List (κ × RxFrame)) : κ → S :=
  arrivals.foldl (fun sources a =>
    Function.update sources a.1 (deliver hit (sources a.1) a.2)) sources

/-- What arrives of one stream. -/
def arrivalsOf (key : κ) (arrivals : List (κ × RxFrame)) : List RxFrame :=
  (arrivals.filter (·.1 = key)).map Prod.snd

/-- A source sees the frames of its own stream only. -/
lemma deliverAll_apply (hit : RxFrame → Option (K × (S → S))) (arrivals : List (κ × RxFrame))
    (sources : κ → S) (key : κ) : deliverAll hit sources arrivals key =
      (arrivalsOf key arrivals).foldl (deliver hit) (sources key) := by
  induction arrivals generalizing sources with
  | nil => rfl
  | cons a arrivals ih =>
    rw [deliverAll, List.foldl_cons]
    refine (ih _).trans ?_
    by_cases h : a.1 = key
    · subst h
      simp [arrivalsOf]
    · simp [arrivalsOf, h, Function.update_of_ne (Ne.symm h)]

variable (hit : ℕ → RxFrame → Option (K × (S → S))) (counts : S → GapCounts)
  (gap : UInt32 → UInt32 → Prop) [DecidableRel gap]

/-- A frame tells a source the number `n`, and its session number if it has one. This is so for all
large values of the fuel of the parser. -/
def Tells (frame : RxFrame) (spduNumber : Option UInt32) (n : UInt32) : Prop :=
  ∃ pass take, (∀ src, counts (take src) = (counts src).next gap spduNumber n) ∧
    ∃ f, ∀ fuel, f ≤ fuel → hit fuel frame = some (pass, take)

variable {hit counts gap} {spduNumber : ℕ → Option UInt32} {value : ℕ → UInt32}

/-- What a source has counted after the frames with the given numbers. -/
lemma counts_foldl_deliver (value : ℕ → UInt32) {numbers : List ℕ} {got : List RxFrame}
    (h : List.Forall₂ (fun j frame => Tells hit counts gap frame (spduNumber j) (value j))
      numbers got) :
    ∃ f, ∀ fuel, f ≤ fuel → ∀ src, counts (got.foldl (deliver (hit fuel)) src) =
      numbers.foldl (fun c j => c.next gap (spduNumber j) (value j)) (counts src) := by
  induction h with
  | nil => exact ⟨0, fun _ _ _ => rfl⟩
  | cons htells _ ih =>
    obtain ⟨pass, take, htake, f₁, hf₁⟩ := htells
    obtain ⟨f₂, hf₂⟩ := ih
    refine ⟨max f₁ f₂, fun fuel hfuel src => ?_⟩
    rw [List.foldl_cons, List.foldl_cons, hf₂ fuel (le_of_max_le_right hfuel), deliver,
      hf₁ fuel (le_of_max_le_left hfuel), ← htake]

lemma fst_foldl_next (numbers : List ℕ) (c : GapCounts) :
    (numbers.foldl (fun c j => c.next gap (spduNumber j) (value j)) c).1 =
      (numbers.map value).foldl (Losses.track gap) c.1 := by
  induction numbers generalizing c with
  | nil => rfl
  | cons j numbers ih => exact ih _

/-- The session of a stream, if it has one. -/
lemma snd_foldl_next (numbers : List ℕ) (c : GapCounts) :
    (numbers.foldl (fun c j => c.next gap (spduNumber j) (value j)) c).2 =
      (numbers.filterMap spduNumber).foldl trackSpdu c.2 := by
  induction numbers generalizing c with
  | nil => rfl
  | cons j numbers ih =>
    rw [List.foldl_cons, ih]
    cases h : spduNumber j with
    | none => rw [List.filterMap_cons_none h]; rfl
    | some n => rw [List.filterMap_cons_some h]; rfl

/-- A session number that does not follow on the last one. -/
def SpduGaps (last n : UInt32) : Prop := SpduGap (last, n)

instance : DecidableRel SpduGaps := fun a b => inferInstanceAs (Decidable (SpduGap (a, b)))

lemma trackSpdu_eq : trackSpdu = Losses.track SpduGaps := rfl

/-- What a fresh source has counted after those of its frames that were not lost. -/
lemma counts_of_arriving {mask : List Bool} {got : List RxFrame}
    (h : List.Forall₂ (fun j frame => Tells hit counts gap frame (spduNumber j) (value (j + 1)))
      (Losses.arriving 0 mask) got) {src : S} (hsrc : counts src = ((value 0, 0), (0, 0))) :
    ∃ f, ∀ fuel, f ≤ fuel →
      (counts (got.foldl (deliver (hit fuel)) src)).1.2 = UInt32.ofNat (Losses.errors gap (value 0)
        ((Losses.arriving 0 mask).map fun j => value (j + 1))) ∧
      (counts (got.foldl (deliver (hit fuel)) src)).2.2 = UInt32.ofNat (Losses.errors SpduGaps 0
        ((Losses.arriving 0 mask).filterMap spduNumber)) := by
  obtain ⟨f, hf⟩ := counts_foldl_deliver (fun j => value (j + 1)) h
  refine ⟨f, fun fuel hfuel => ⟨?_, ?_⟩⟩
  · rw [hf fuel hfuel, fst_foldl_next, hsrc, Losses.foldl_track, UInt32.zero_add]
  · rw [hf fuel hfuel, snd_foldl_next, hsrc, trackSpdu_eq, Losses.foldl_track, UInt32.zero_add]

end Deliver

/-! ### L2 frames -/

section LayerTwo

variable {frame : RxFrame}

/-- The names alone are longer than the frames that are too short. -/
lemma GooseLayout.le_length_pdu (k : GooseLayout) (v : GooseValues) : 64 ≤ (k.pdu v).length := by
  have hgocb : (ascii "LDName/LLN0$GO$GOCB").length = 19 := rfl
  have hdata : (ascii "LDName/LLN0$DataSet").length = 19 := rfl
  have hied : (ascii "IED").length = 3 := rfl
  rw [← k.flatten_segs]
  simp only [segs, List.flatten_cons, List.flatten_nil, List.length_append, List.length_nil,
    v.size_sID, v.size_t, v.size_stNum, v.size_sqNum, hgocb, hdata, hied]
  omega

/-- So are the data of the first ASDU. -/
lemma SvLayout.Valid.le_length_pdu {k : SvLayout} {sID : List UInt8} {cnt : ℕ → List UInt8}
    (h : k.Valid sID cnt) : 64 ≤ (k.pdu sID cnt).length := by
  obtain ⟨a, as, hasdus⟩ := List.exists_cons_of_ne_nil h.nonempty
  have ha := h.asdus_ok a (hasdus ▸ List.mem_cons_self) 0
  obtain ⟨⟨tag, value⟩, hmem, rfl⟩ := List.mem_map.mp ha.data
  have hdata : value.length = 64 ∧ GoodQuality value := by
    simpa [FieldOk] using (ha.fields_ok _ hmem).2
  have hbody : value.length ≤ (a.body sID (cnt 0)).length := by
    obtain ⟨before, behind, hsplit⟩ := List.append_of_mem hmem
    simp only [SvAsduLayout.body, hsplit, List.flatMap_append, List.flatMap_cons,
      List.length_append]
    omega
  rw [hdata.1] at hbody
  simp only [pdu, body, hasdus, asdusBytes, SvAsduLayout.bytes, List.length_append]
  omega

variable {crypto : Crypto} {mode : SecurityMode} {f : Mem} {n : UInt32}

lemma Reaches.holds {size : ℕ} {bs : List UInt8} (h : Reaches f size frame)
    (hsize : bs.length ≤ size) (hf : f.Holds 0 bs) : frame.packet.mem.Holds frame.packet.off bs :=
  Mem.holds_of_slice_eq h.bytes hsize hf

/-- The state number in a report. -/
lemma GooseLayout.Valid.stNum_of_reports {k : GooseLayout} {v : GooseValues} (h : k.Valid v)
    {passport : GoosePassport} {r : GooseParse} (hr : h.toPdu.Reports passport r)
    (hst : v.stNum = beBytes 4 n.toNat) : r.state.stNum = n := by
  have hne : v.stNum ≠ [] := List.ne_nil_of_length_eq_add_one v.size_stNum
  refine UInt32.toNat_inj.mp ?_
  have hnum : r.state.stNum.toNat = beNat v.stNum := by
    rw [hr.stNum]
    exact toNat_asn1Number hne v.size_stNum.le
  rw [hnum, hst]
  exact beNat_beBytes n.toNat_lt

/-- An L2 GOOSE frame that is received without padding. -/
lemma tells_goose {head : L2Head} {k : GooseLayout} {v : GooseValues} (hvalid : k.Valid v)
    (hst : v.stNum = beBytes 4 n.toNat) (hf : f.Holds 0 (head.bytes 0xB8 ++ k.pdu v))
    (h : Reaches f (head.bytes 0xB8 ++ k.pdu v).length frame)
    (hexact : frame.pktLen.toNat = (head.bytes 0xB8 ++ k.pdu v).length) :
    Tells (fun fuel => gooseHit fuel crypto mode) GooseSource.counts StGap frame none n := by
  have hmem := h.holds le_rfl hf
  have hsize : frame.size.toInt = (head.bytes 0xB8 ++ k.pdu v).length := by
    rw [h.toInt_size, hexact]
  have hmin : 64 ≤ frame.size.toInt := by
    have hpdu := k.le_length_pdu v
    rw [hsize, List.length_append]
    omega
  have hproto : protoOf frame = .BUS_PROTO_GOOSE :=
    congrArg Prod.fst (getProtoType_of_l2Header (.inl rfl)
      (L2Head.val_l2Header (Mem.holds_append.mp hmem).1))
  obtain ⟨r, hr, fuel₀, hparse⟩ :=
    parseGoosePacket_reports hvalid.encodes hmin hsize hmem {} {}
  refine ⟨r.passport, (·.processState r.passport r.state), fun src => ?_, fuel₀,
    fun fuel hfuel => ?_⟩
  · rw [GooseSource.counts_processState, hvalid.stNum_of_reports hr hst]
  · simp only [gooseHit, hproto, hparse fuel hfuel, if_pos hr.code]

/-- The L2 parser returns 0 on an SV frame with a PDU, whatever follows, and reports it. -/
theorem parseSvPacket_reports {buffer : Ptr} {head : L2Head} {u : SvPdu} {pdu : List UInt8}
    (hpdu : u.Encodes pdu) {size : Int32} (hmin : 64 ≤ size.toInt)
    (hsize : ((head.bytes 0xBA ++ pdu).length : ℤ) ≤ size.toInt)
    (hmem : buffer.mem.Holds buffer.off (head.bytes 0xBA ++ pdu)) (passport : SVStreamPassport)
    (state : SVStreamState) :
    ∃ (r : SVParse) (passport' : SVStreamPassport), r.code = 0 ∧
      Reports { passport' with num := UInt16.ofNat u.asdus.length } state u.first r ∧
      ∃ f, ∀ fuel, f ≤ fuel → (parseSvPacket fuel buffer size passport state).val = some r := by
  obtain ⟨hhead, hrest⟩ := Mem.holds_append.mp hmem
  have hlt := Int32.toInt_lt size
  have hlen : (head.appidAt 0xBA + 8 + pdu.length : ℤ) ≤ size.toInt := by
    rw [List.length_append, L2Head.length_bytes] at hsize
    exact_mod_cast hsize
  rw [L2Head.length_bytes] at hrest
  have hsub : (Cursor.sub 32 size.toInt.toNat (head.appidAt 0xBA + 8)).val =
      size.toInt.toNat - (head.appidAt 0xBA + 8) := Cursor.val_sub (by omega)
  let start : SVStreamPassport := { passport with
    dmac := (MAC.read buffer).val
    appid := UInt16.ofNat (buffer.load (head.appidAt 0xBA) 2).val }
  obtain ⟨r, hrun, hzero, hreports⟩ := @parseSvApdu_spec (buffer.add (head.appidAt 0xBA + 8))
    (size.toInt.toNat - (head.appidAt 0xBA + 8)) start state (by omega)
  -- the frame may be padded
  have hstarts : StartsWith (buffer.add (head.appidAt 0xBA + 8)) u
      (size.toInt.toNat - (head.appidAt 0xBA + 8)) := by
    refine ⟨pdu, _, Mem.slice_eq_append_iff.mpr ⟨pdu.length, by omega, ?_, rfl⟩, hpdu⟩
    exact hrest.slice_eq
  refine ⟨r, start, hzero.mpr ⟨u, hstarts⟩, hreports u hstarts,
    size.toInt.toNat - (head.appidAt 0xBA + 8) + 1, fun fuel hfuel => ?_⟩
  unfold parseSvPacket
  rw [if_neg (Int.not_lt.mpr hmin)]
  simp only [Traced.val_bind, L2Head.val_l2Header hhead, hsub]
  exact hrun fuel hfuel

/-- The numbers in a report. -/
lemma SvLayout.Valid.numbers_of_reports {k : SvLayout} {sID : List UInt8} {cnt : ℕ → List UInt8}
    {type : SvType} (h : k.Valid sID cnt) (hasdus : k.asdus.length = type.asduNum)
    {passport : SVStreamPassport} {state : SVStreamState} {r : SVParse}
    (hr : Reports { passport with num := UInt16.ofNat h.toPdu.asdus.length } state h.toPdu.first r)
    (hcnt : beNat (cnt 0) = n.toNat) :
    r.passport.num.toUInt32 = UInt32.ofNat type.asduNum ∧ r.state.smpCnt.toUInt32 = n := by
  obtain ⟨hnum, _, _, hsmp⟩ := hr.values
  have hlen : h.toPdu.asdus.length = type.asduNum := (SvLayout.length_toAsdus _ _).trans hasdus
  constructor
  · refine UInt32.toNat_inj.mp ?_
    rw [UInt16.toNat_toUInt32, hnum, hlen]
    cases type <;> rfl
  · refine UInt32.toNat_inj.mp ?_
    rw [UInt16.toNat_toUInt32, hsmp, h.first_toPdu.2.1, hcnt]

/-- An L2 SV frame that is received, padded or not. -/
lemma tells_sv {head : L2Head} {k : SvLayout} {sID : List UInt8} {cnt : ℕ → List UInt8}
    {type : SvType} {size : ℕ} (hvalid : k.Valid sID cnt) (hasdus : k.asdus.length = type.asduNum)
    (hcnt : beNat (cnt 0) = n.toNat) (hf : f.Holds 0 (head.bytes 0xBA ++ k.pdu sID cnt))
    (hle : (head.bytes 0xBA ++ k.pdu sID cnt).length ≤ size) (h : Reaches f size frame) :
    Tells (fun fuel => svHit fuel crypto mode) SVStreamSource.counts
      (SmpGap (UInt32.ofNat type.asduNum)) frame none n := by
  have hmem := h.holds hle hf
  have hsize : ((head.bytes 0xBA ++ k.pdu sID cnt).length : ℤ) ≤ frame.size.toInt :=
    le_trans (by exact_mod_cast hle) h.size_toInt
  have hmin : 64 ≤ frame.size.toInt := by
    have hpdu := hvalid.le_length_pdu
    rw [List.length_append] at hsize
    omega
  have hproto : protoOf frame = .BUS_PROTO_SV :=
    congrArg Prod.fst (getProtoType_of_l2Header (.inr rfl)
      (L2Head.val_l2Header (Mem.holds_append.mp hmem).1))
  obtain ⟨r, passport, hcode, hr, fuel₀, hparse⟩ :=
    parseSvPacket_reports hvalid.encodes hmin hsize hmem {} {}
  obtain ⟨hnum, hsmp⟩ := hvalid.numbers_of_reports hasdus hr hcnt
  refine ⟨r.passport, (·.processState r.passport r.state), fun src => ?_, fuel₀,
    fun fuel hfuel => ?_⟩
  · rw [SVStreamSource.counts_processState, hnum, hsmp]
  · simp only [svHit, hproto, hparse fuel hfuel, if_pos hcode]

end LayerTwo

/-! ### Routable frames -/

section Routable

variable {frame : RxFrame} {crypto : Crypto} {cfg : RFrameConfig} {stream spduNumber n : UInt32}
  {f : Mem}

/-- An R-GOOSE frame that is received. -/
lemma tells_rgoose {k : GooseLayout} {v : GooseValues} (hlaw : crypto.Lawful)
    (hvalid : k.Valid v) (hst : v.stNum = beBytes 4 n.toNat) (hport : cfg.dstPort = UDP_DST_PORT)
    (hlt : 28 + udpPayloadSize cfg.mode (k.pdu v).length < 2 ^ 16)
    (hf : Emitted SI_R_GOOSE PAYLOAD_TYPE_GOOSE cfg crypto stream spduNumber (k.pdu v) f)
    (h : Reaches f (OFF_UDP_PAYLOAD + udpPayloadSize cfg.mode (k.pdu v).length) frame) :
    Tells (fun fuel => gooseHit fuel crypto cfg.mode) GooseSource.counts StGap frame
      (some spduNumber) n := by
  obtain ⟨hproto, henv⟩ := RFrame.Carries.recognised hf h hlt hport (.inl rfl)
  obtain ⟨r, hr, fuel₀, hparse⟩ := RFrame.Carries.parseRGoose hf h hlt hlaw rfl rfl hvalid.encodes
  have hproto : protoOf frame = .BUS_PROTO_R_GOOSE := congrArg Prod.fst hproto
  have henv : (envelope frame).1 = R_ENV_OK := congrArg Prod.fst henv
  let pass : GoosePassport := { r.passport with dstIP := (envelope frame).2 }
  refine ⟨pass, fun src => (src.processSessionState spduNumber).processState pass r.state,
    fun src => ?_, fuel₀, fun fuel hfuel => ?_⟩
  · rw [GooseSource.counts_session, hvalid.stNum_of_reports hr hst]
  · have hval : (parseRGoosePacket fuel frame.packet frame.size cfg.mode crypto {} {} {}).val =
        some (r, _) := hparse fuel hfuel
    simp only [gooseHit, hproto, henv, ne_eq, not_true, if_false, hval, if_pos hr.code]
    rfl

/-- An R-SV frame that is received. -/
lemma tells_rsv {k : SvLayout} {sID : List UInt8} {cnt : ℕ → List UInt8} {type : SvType}
    (hlaw : crypto.Lawful) (hvalid : k.Valid sID cnt) (hasdus : k.asdus.length = type.asduNum)
    (hcnt : beNat (cnt 0) = n.toNat) (hport : cfg.dstPort = UDP_DST_PORT)
    (hlt : 28 + udpPayloadSize cfg.mode (k.pdu sID cnt).length < 2 ^ 16)
    (hf : Emitted SI_R_SV PAYLOAD_TYPE_SV cfg crypto stream spduNumber (k.pdu sID cnt) f)
    (h : Reaches f (OFF_UDP_PAYLOAD + udpPayloadSize cfg.mode (k.pdu sID cnt).length) frame) :
    Tells (fun fuel => svHit fuel crypto cfg.mode) SVStreamSource.counts
      (SmpGap (UInt32.ofNat type.asduNum)) frame (some spduNumber) n := by
  obtain ⟨hproto, henv⟩ := RFrame.Carries.recognised hf h hlt hport (.inr rfl)
  obtain ⟨r, hcode, hr, fuel₀, hparse⟩ :=
    RFrame.Carries.parseRSv hf h hlt hlaw rfl rfl hvalid.encodes
  have hproto : protoOf frame = .BUS_PROTO_R_SV := congrArg Prod.fst hproto
  have henv : (envelope frame).1 = R_ENV_OK := congrArg Prod.fst henv
  let pass : SVStreamPassport := { r.passport with dstIP := (envelope frame).2 }
  let start : SVStreamPassport := {
    dmac := multicastMac (streamDstIp cfg.dstIP stream.toNat)
    appid := (stream + 1).toUInt16 }
  replace hr : Reports { start with num := UInt16.ofNat hvalid.toPdu.asdus.length } {}
    hvalid.toPdu.first r := hr
  obtain ⟨hnum, hsmp⟩ := hvalid.numbers_of_reports hasdus hr hcnt
  refine ⟨pass, fun src => (src.processSessionState spduNumber).processState pass r.state,
    fun src => ?_, fuel₀, fun fuel hfuel => ?_⟩
  · rw [SVStreamSource.counts_session, hsmp, show pass.num.toUInt32 = _ from hnum]
  · have hval : (parseRSvPacket fuel frame.packet frame.size cfg.mode crypto {} {} {}).val =
        some (r, _) := hparse fuel hfuel
    simp only [svHit, hproto, henv, ne_eq, not_true, if_false, hval, if_pos hcode]
    rfl

end Routable

/-! ### Runs -/

/-- The frame of `size` octets in `f` is received, without padding. -/
structure Delivered (f : Mem) (size : ℕ) (frame : RxFrame) : Prop
    extends Reaches f size frame where
  exact : frame.pktLen.toNat = size

/-- The SPDU number of the frame number `j` of a routable stream. -/
def spduOf (j : ℕ) : Option UInt32 := some (UInt32.ofNat (j + 1))

/-- The first sample counter in the frame number `n`, from 1 on, and what a fresh source starts out
with. -/
def smpValue (type : SvType) : ℕ → UInt32
  | 0 => 0
  | n + 1 => UInt32.ofNat (type.asduNum * n % type.freq)

/-- The frames of a second. -/
def SvType.framesPerSecond (type : SvType) : ℕ := type.freq / type.asduNum

lemma ofNat_inj_of_lt {a b : ℕ} (ha : a < 2 ^ 32) (hb : b < 2 ^ 32) :
    UInt32.ofNat a = UInt32.ofNat b ↔ a = b := by
  rw [← UInt32.toNat_inj, UInt32.toNat_ofNat', UInt32.toNat_ofNat', Nat.mod_eq_of_lt ha,
    Nat.mod_eq_of_lt hb]

/-- The next sample counter is no larger than a counter may be. -/
lemma smpCnt_add_lt (type : SvType) (n : ℕ) :
    type.asduNum * n % type.freq + type.asduNum < 2 ^ 32 := by
  have hmod : type.asduNum * n % type.freq < type.freq :=
    Nat.mod_lt _ (by cases type <;> decide)
  have hsum : type.freq + type.asduNum < 2 ^ 32 := by cases type <;> decide
  omega

/-- Less than a second of lost frames is noticed behind them, unless the next frame is the first one
of a second. The loss of the very first frame alone is not noticed either. -/
lemma smpGap_iff {type : SvType} {i lost : ℕ} (hle : lost ≤ i) (hlt : lost < type.framesPerSecond) :
    SmpGap (UInt32.ofNat type.asduNum) (smpValue type (i - lost)) (smpValue type (i + 1)) ↔
      (type.asduNum * i % type.freq ≠ 0 ∧ (i, lost) ≠ (1, 1)) ∧ lost ≠ 0 := by
  have hi := smpCnt_add_lt type i
  have hzero : smpValue type (i + 1) = 0 ↔ type.asduNum * i % type.freq = 0 :=
    ofNat_inj_of_lt (by omega) (by decide)
  rw [SmpGap, ne_eq, ne_eq, hzero, ne_eq (i, lost), Prod.mk.injEq]
  rcases hle.eq_or_lt with rfl | hlt'
  · -- nothing has arrived before
    have hnext : smpValue type (lost + 1) =
        smpValue type (lost - lost) + UInt32.ofNat type.asduNum ↔
        type.asduNum * lost % type.freq = type.asduNum := by
      rw [Nat.sub_self, smpValue, smpValue, UInt32.zero_add]
      exact ofNat_inj_of_lt (by omega) (by cases type <;> decide)
    rw [hnext]
    cases type <;>
      simp only [SvType.framesPerSecond, SvType.asduNum, SvType.freq, MAX_SV_ASDU_NUM] at * <;>
      omega
  · -- the last frame that has arrived is number `m`
    obtain ⟨m, rfl⟩ := Nat.exists_eq_add_of_lt hlt'
    have hm := smpCnt_add_lt type m
    have hnext : smpValue type (lost + m + 1 + 1) =
        smpValue type (lost + m + 1 - lost) + UInt32.ofNat type.asduNum ↔
        type.asduNum * (lost + m + 1) % type.freq =
          type.asduNum * m % type.freq + type.asduNum := by
      rw [show lost + m + 1 - lost = m + 1 by omega, smpValue, smpValue, ← UInt32.ofNat_add]
      exact ofNat_inj_of_lt (by omega) hm
    rw [hnext]
    cases type <;>
      simp only [SvType.framesPerSecond, SvType.asduNum, SvType.freq, MAX_SV_ASDU_NUM] at * <;>
      omega

section Runs

variable {σ ι K S ω : Type} [DecidableEq ω]

/-- In every run, a frame that is delivered tells its source the number of its call. -/
def Numbered (kind : GenKind σ ι) (gens : ω → σ) (num : ω → UInt32)
    (hit : ℕ → RxFrame → Option (K × (S → S))) (counts : S → GapCounts)
    (gap : UInt32 → UInt32 → Prop) [DecidableRel gap] (spduNumber : ℕ → Option UInt32)
    (value : ℕ → UInt32) : Prop :=
  ∀ s, kind.Run gens s → ∀ (w : ω) (idx : UInt32), idx < num w → ∀ (j : ℕ) (f : Mem)
    (frame : RxFrame), (s.frames w idx)[j]? = some f → Delivered f (kind.size (gens w)) frame →
    Tells hit counts gap frame (spduNumber j) (value (j + 1))

variable {num base : ω → UInt32} {crypto : Crypto} {mode : SecurityMode} {cfg : RFrameConfig}

lemma numbered_goose {msg : GooseMessage} {k : GooseLayout} {v : GooseValues}
    (hk : k.Describes v msg) (hsize : msg.size = (k.head.bytes 0xB8 ++ k.pdu v).length) :
    Numbered GenKind.goose (fun w => .make msg (num w)) num (fun fuel => gooseHit fuel crypto mode)
      GooseSource.counts StGap (fun _ => none) UInt32.ofNat := by
  intro s hrun w idx hidx j f frame hf h
  have hpub := GooseTrafficGen.published_of_run hk hrun hf
  have hst := @GooseTrafficGen.iedIn_of_make msg (num w) idx hidx j
  generalize (GooseTrafficGen.make msg (num w)).iedIn idx j = ied at *
  have hlen : ((GooseTrafficGen.headOf k idx).bytes 0xB8 ++ k.pdu ied.values).length =
      msg.size := by
    rw [hsize, List.length_append, List.length_append, L2Head.length_bytes, L2Head.length_bytes,
      k.length_pdu _ v]
    rfl
  refine tells_goose (hk.valid.congr _) (congrArg (fun n => beBytes 4 (UInt32.toNat n)) hst) hpub
    ?_ ?_
  · rw [hlen]
    exact h.toReaches
  · rw [hlen]
    exact h.exact

lemma numbered_sv {type : SvType} {msg : SvMessage} {k : SvLayout} {sID : List UInt8}
    {cnt : ℕ → List UInt8} (hk : k.Describes sID cnt msg) (hsID : sID.length = 4)
    (hcnt : ∀ i, (cnt i).length = 2) (hasdus : k.asdus.length = type.asduNum) :
    Numbered (GenKind.sv type) (fun w => .make msg (num w) type) num
      (fun fuel => svHit fuel crypto mode) SVStreamSource.counts
      (SmpGap (UInt32.ofNat type.asduNum)) (fun _ => none) (smpValue type) := by
  intro s hrun w idx hidx j f frame hf h
  have hpub := SVTrafficGen.published_of_run hk hsID hcnt hasdus hrun hf
  have hsmp := @SVTrafficGen.iedIn_of_make msg type (num w) idx hidx j
  generalize (SVTrafficGen.make msg (num w) type).iedIn type idx j = ied at *
  have hcnt' : ∀ i, (ied.counters type.freq i).length = (cnt i).length := fun i =>
    (length_beBytes _ _).trans (hcnt i).symm
  have hsID' : ied.sID.length = sID.length := ied.size.trans hsID.symm
  have hlen : ((SVTrafficGen.headOf k idx).bytes 0xBA ++
      k.pdu ied.sID (ied.counters type.freq)).length ≤ msg.size := by
    refine le_trans (Nat.le_of_eq ?_) hk.size_le
    rw [List.length_append, List.length_append, L2Head.length_bytes, L2Head.length_bytes,
      SvLayout.length_pdu hsID' hcnt']
    rfl
  refine tells_sv (hk.valid.congr hsID' hcnt') hasdus ?_ hpub hlen h.toReaches
  have hlt := ied.smpCnt.toNat_lt
  rw [smpValue, UInt32.toNat_ofNat', ← hsmp, Nat.mod_eq_of_lt (by omega)]
  exact beNat_beBytes hlt

variable (cfg) in
lemma numbered_rgoose {msg : GooseMessage} {k : GooseLayout} {v : GooseValues}
    {gens : ω → RGooseTrafficGen} (hlaw : crypto.Lawful) (hk : k.Describes v msg)
    (hport : cfg.dstPort = UDP_DST_PORT)
    (hmake : ∀ w, RGooseTrafficGen.make msg cfg crypto (num w) (base w) = some (gens w)) :
    Numbered (GenKind.rgoose cfg.mode) gens num (fun fuel => gooseHit fuel crypto cfg.mode)
      GooseSource.counts StGap spduOf UInt32.ofNat := by
  intro s hrun w idx hidx j f frame hf h
  obtain ⟨ied, _, hst, hvalid, hsize, hlt, hemit⟩ :=
    RGooseTrafficGen.frame_of_run hk hmake hrun hidx hf
  have h : Reaches f (gens w).m_skeletonSize frame := h.toReaches
  rw [hsize] at h
  exact tells_rgoose hlaw hvalid (congrArg (fun n => beBytes 4 (UInt32.toNat n)) hst)
    hport hlt hemit h

variable (cfg) in
lemma numbered_rsv {type : SvType} {msg : SvMessage} {k : SvLayout} {sID : List UInt8}
    {cnt : ℕ → List UInt8} {gens : ω → RSVTrafficGen} (hlaw : crypto.Lawful)
    (hk : k.Describes sID cnt msg) (hsID : sID.length = 4) (hcnt : ∀ i, (cnt i).length = 2)
    (hasdus : k.asdus.length = type.asduNum) (hport : cfg.dstPort = UDP_DST_PORT)
    (hmake : ∀ w, RSVTrafficGen.make msg cfg crypto type (num w) (base w) = some (gens w)) :
    Numbered (GenKind.rsv cfg.mode type) gens num (fun fuel => svHit fuel crypto cfg.mode)
      SVStreamSource.counts (SmpGap (UInt32.ofNat type.asduNum)) spduOf (smpValue type) := by
  intro s hrun w idx hidx j f frame hf h
  obtain ⟨sID', cnt', _, hfirst, hvalid, hsize, hlt, hemit⟩ :=
    RSVTrafficGen.frame_of_run hk hsID hcnt hasdus hmake hrun hidx hf
  have h : Reaches f (gens w).m_skeletonSize frame := h.toReaches
  rw [hsize] at h
  refine tells_rsv hlaw hvalid hasdus ?_ hport hlt hemit h
  have hlt := smpCnt_add_lt type j
  rw [smpValue, UInt32.toNat_ofNat', hfirst]
  exact (Nat.mod_eq_of_lt (by omega)).symm

/-! ### Nothing lost -/

/-- The frames of a stream that arrive: those of the first `mask.length` ones that `mask` says,
in order. -/
def Survive (frames : List Mem) (size : ℕ) (mask : List Bool) (got : List RxFrame) : Prop :=
  List.Forall₂ (fun j frame => ∃ f, frames[j]? = some f ∧ Delivered f size frame)
    (Losses.arriving 0 mask) got

/-- All of them. -/
lemma survive_of_delivered {frames : List Mem} {size n : ℕ} {got : List RxFrame}
    (h : List.Forall₂ (fun f frame => Delivered f size frame) (frames.take n) got) :
    Survive frames size (List.replicate got.length true) got := by
  rw [Survive, Losses.arriving_replicate, ← List.range_eq_range']
  refine List.forall₂_iff_get.mpr ⟨List.length_range, fun j hj hj' => ?_⟩
  have hlen := h.length_eq
  have hget := h.get (hlen ▸ hj') hj'
  rw [List.length_take] at hlen
  simp only [List.get_eq_getElem, List.getElem_range, List.getElem_take] at hget ⊢
  exact ⟨_, List.getElem?_eq_getElem (by omega), hget⟩

variable {kind : GenKind σ ι} {gens : ω → σ} {hit : ℕ → RxFrame → Option (K × (S → S))}
  {counts : S → GapCounts} {gap : UInt32 → UInt32 → Prop} [DecidableRel gap]
  {spduNumber : ℕ → Option UInt32} {value : ℕ → UInt32}

/-- What a fresh source has counted after those of its frames that were not lost. -/
lemma Numbered.counts_of_survive (hnum : Numbered kind gens num hit counts gap spduNumber value)
    {s : Pool.State ω UInt32 σ} (hrun : kind.Run gens s) {w : ω} {idx : UInt32}
    (hidx : idx < num w) {mask : List Bool} {got : List RxFrame}
    (h : Survive (s.frames w idx) (kind.size (gens w)) mask got) (src : S)
    (hsrc : counts src = ((value 0, 0), (0, 0))) :
    ∃ f, ∀ fuel, f ≤ fuel →
      (counts (got.foldl (deliver (hit fuel)) src)).1.2 = UInt32.ofNat (Losses.errors gap (value 0)
        ((Losses.arriving 0 mask).map fun j => value (j + 1))) ∧
      (counts (got.foldl (deliver (hit fuel)) src)).2.2 = UInt32.ofNat (Losses.errors SpduGaps 0
        ((Losses.arriving 0 mask).filterMap spduNumber)) :=
  counts_of_arriving (h.imp fun j frame ⟨f, hf, hdel⟩ => hnum s hrun w idx hidx j f frame hf hdel)
    hsrc

/-- As long as the frames of a stream arrive one after the other, its fresh source counts no error,
whatever arrives of other streams in between. -/
def NoFalseGaps (kind : GenKind σ ι) (gens : ω → σ) (num : ω → UInt32)
    (hit : ℕ → RxFrame → Option (K × (S → S))) (fresh : S → S)
    (getErrSeqNum getErrSpduNum : S → UInt32) : Prop :=
  ∀ s, kind.Run gens s → ∀ (w : ω) (idx : UInt32), idx < num w →
    ∀ {κ : Type} [DecidableEq κ] (key : κ) (arrivals : List (κ × RxFrame)) (n : ℕ),
      List.Forall₂ (fun f frame => Delivered f (kind.size (gens w)) frame)
        ((s.frames w idx).take n) (arrivalsOf key arrivals) →
      ∀ sources : κ → S, ∃ f, ∀ fuel, f ≤ fuel →
        let src := deliverAll (hit fuel) (fun key => fresh (sources key)) arrivals key
        getErrSeqNum src = 0 ∧ getErrSpduNum src = 0

lemma not_spduGaps (i : ℕ) : ¬ SpduGaps (UInt32.ofNat i) (UInt32.ofNat (i + 1)) := fun h =>
  h.2 (UInt32.ofNat_add i 1)

lemma Numbered.noFalseGaps (hnum : Numbered kind gens num hit counts gap spduNumber value)
    (hvalue : ∀ i, ¬ gap (value i) (value (i + 1)))
    (hspdu : spduNumber = (fun _ => none) ∨ spduNumber = spduOf) {fresh : S → S}
    (hfresh : ∀ src, counts (fresh src) = ((value 0, 0), (0, 0))) :
    NoFalseGaps kind gens num hit fresh (fun src => (counts src).1.2)
      fun src => (counts src).2.2 := by
  intro s hrun w idx hidx κ _ key arrivals n h sources
  obtain ⟨f, hf⟩ := hnum.counts_of_survive hrun hidx (survive_of_delivered h) _
    (hfresh (sources key))
  refine ⟨f, fun fuel hfuel => ?_⟩
  obtain ⟨hseq, hsession⟩ := hf fuel hfuel
  dsimp only
  rw [deliverAll_apply, hseq, hsession, Losses.errors_replicate value hvalue]
  refine ⟨rfl, ?_⟩
  rcases hspdu with rfl | rfl
  · rw [List.filterMap_none]
    rfl
  · have hzero := Losses.errors_replicate UInt32.ofNat not_spduGaps
      (arrivalsOf key arrivals).length
    rw [show spduOf = some ∘ fun j => UInt32.ofNat (j + 1) from rfl, List.filterMap_eq_map]
    exact congrArg UInt32.ofNat hzero

end Runs

/-! ### All kinds of streams -/

lemma not_stGap (i : ℕ) : ¬ StGap (UInt32.ofNat i) (UInt32.ofNat (i + 1)) := fun h =>
  h.2 (UInt32.ofNat_add i 1)

lemma not_smpGap {type : SvType} (i : ℕ) :
    ¬ SmpGap (UInt32.ofNat type.asduNum) (smpValue type i) (smpValue type (i + 1)) := fun h => by
  have hpos : 0 < type.framesPerSecond := by cases type <;> decide
  exact ((smpGap_iff (Nat.zero_le i) hpos).mp h).2 rfl

/-- Whatever the kind of the streams: where nothing is lost no gap is counted. State numbers, SPDU
numbers and sample counters may start over any number of times. -/
theorem no_false_gaps {crypto : Crypto} (hlaw : crypto.Lawful) (dstIP : UInt32)
    (mode : SecurityMode) {ω : Type} [DecidableEq ω] (num base : ω → UInt32) :
    let cfg : RFrameConfig := { dstIP := dstIP, mode := mode }
    (∀ (msg : GooseMessage) (k : GooseLayout) (v : GooseValues), k.Describes v msg →
      (msg.size = (k.head.bytes 0xB8 ++ k.pdu v).length →
        NoFalseGaps GenKind.goose (fun w => .make msg (num w)) num
          (fun fuel => gooseHit fuel crypto mode) GooseSource.fresh GooseSource.getErrSeqNum
          GooseSource.getErrSpduNum) ∧
      ∀ gens, (∀ w, RGooseTrafficGen.make msg cfg crypto (num w) (base w) = some (gens w)) →
        NoFalseGaps (GenKind.rgoose mode) gens num (fun fuel => gooseHit fuel crypto mode)
          GooseSource.fresh GooseSource.getErrSeqNum GooseSource.getErrSpduNum) ∧
    ∀ (type : SvType) (msg : SvMessage) (k : SvLayout) (sID : List UInt8) (cnt : ℕ → List UInt8),
      k.Describes sID cnt msg → sID.length = 4 → (∀ i, (cnt i).length = 2) →
      k.asdus.length = type.asduNum →
      NoFalseGaps (GenKind.sv type) (fun w => .make msg (num w) type) num
          (fun fuel => svHit fuel crypto mode) SVStreamSource.fresh SVStreamSource.getErrSeqNum
          SVStreamSource.getErrSpduNum ∧
      ∀ gens, (∀ w, RSVTrafficGen.make msg cfg crypto type (num w) (base w) = some (gens w)) →
        NoFalseGaps (GenKind.rsv mode type) gens num (fun fuel => svHit fuel crypto mode)
          SVStreamSource.fresh SVStreamSource.getErrSeqNum SVStreamSource.getErrSpduNum := by
  intro cfg
  constructor
  · intro msg k v hk
    refine ⟨fun hsize => ?_, fun gens hmake => ?_⟩
    · exact (numbered_goose hk hsize).noFalseGaps not_stGap (.inl rfl) fun _ => rfl
    · exact (numbered_rgoose cfg hlaw hk rfl hmake).noFalseGaps not_stGap (.inr rfl)
        fun _ => rfl
  · intro type msg k sID cnt hk hsID hcnt hasdus
    refine ⟨?_, fun gens hmake => ?_⟩
    · exact (numbered_sv hk hsID hcnt hasdus).noFalseGaps not_smpGap (.inl rfl) fun _ => rfl
    · exact (numbered_rsv cfg hlaw hk hsID hcnt hasdus rfl hmake).noFalseGaps not_smpGap
        (.inr rfl) fun _ => rfl

/-- Streams of two workers. For R-SV, a frame of the second worker arrives. -/
theorem no_false_gaps_sample :
    NoFalseGaps GenKind.goose (fun _ : Bool => .make sampleGooseMessage 1) (fun _ => 1)
      (fun fuel => gooseHit fuel sampleRunCrypto .SEC_GCM) GooseSource.fresh
      GooseSource.getErrSeqNum GooseSource.getErrSpduNum ∧
    NoFalseGaps (GenKind.rgoose .SEC_GCM) sampleGooseGen (fun _ => 1)
      (fun fuel => gooseHit fuel sampleRunCrypto .SEC_GCM) GooseSource.fresh
      GooseSource.getErrSeqNum GooseSource.getErrSpduNum ∧
    ∀ type, NoFalseGaps (GenKind.sv type) (fun _ : Bool => .make (sampleSvMessage type) 1 type)
        (fun _ => 1) (fun fuel => svHit fuel sampleRunCrypto .SEC_GCM) SVStreamSource.fresh
        SVStreamSource.getErrSeqNum SVStreamSource.getErrSpduNum ∧
      ∃ f, ∀ fuel, f ≤ fuel →
        let src := deliverAll (svHit fuel sampleRunCrypto .SEC_GCM)
          (fun _ => SVStreamSource.fresh {}) [(true, received (sampleSvSealed type)
            (sampleSvGen type true).m_skeletonSize)] true
        src.getErrSeqNum = 0 ∧ src.getErrSpduNum = 0 := by
  obtain ⟨hgoose, hsv⟩ := no_false_gaps lawful_sampleRunCrypto R_DEFAULT_DST_IP .SEC_GCM
    (fun _ : Bool => 1) fun w => if w then 1 else 0
  obtain ⟨hl2, hroutable⟩ := hgoose sampleGooseMessage sampleGooseLayout sampleGooseValues
    describes_sampleGooseMessage
  refine ⟨hl2 (by decide +kernel), hroutable _ fun _ => (Option.some_get _).symm, fun type => ?_⟩
  have hmake : ∀ w, RSVTrafficGen.make (sampleSvMessage type) sampleRunConfig sampleRunCrypto
      type 1 (if w then 1 else 0) = some (sampleSvGen type w) := fun _ => (Option.some_get _).symm
  obtain ⟨hl2, hroutable⟩ := hsv type (sampleSvMessage type) (sampleSvLayout type) (ascii "1234")
    (fun _ => [0, 0]) (describes_sampleSvMessage type) rfl (fun _ => rfl) List.length_replicate
  have hsize := (RSVTrafficGen.size_of_make (describes_sampleSvMessage type) (hmake true)).2
  refine ⟨hl2, hroutable (sampleSvGen type) hmake _ (run_sampleSvState type) true 0 (by decide)
    true _ 1 ?_ fun _ => {}⟩
  exact .cons ⟨(arrives_received _ hsize).reaches, pktLen_received _ hsize⟩ .nil

end ProcessBus
