import ProcessBus.Lib.Sharding
import ProcessBus.Processor.Authentication
import ProcessBus.Processor.Init

/-!
# Software RSS

`multi_core_rss`: a dispatcher reads the key of every frame and hands the frame to the worker the
key's low bits name, through a ring. The workers run the pipeline of `single_core` on batches of
their own.

A source is only ever updated by frames with one key and one protocol, so its worker sees them in
the order in which they came in. This holds whatever was configured, also where sources share an
APPID and hence an entry of the registry.
-/

namespace ProcessBus

open RSess

/-! ### The stages, frame by frame -/

/-- The stages in the order in which they work. -/
def stageOrder (burst : List RxFrame) : List RxFrame :=
  queue burst .BUS_PROTO_GOOSE ++ queue burst .BUS_PROTO_SV ++ queue burst .BUS_PROTO_R_GOOSE ++
    queue burst .BUS_PROTO_R_SV ++ queue burst .NON_BUS_PROTO

variable (fuel : ℕ) (crypto : Crypto) (app : RxApplication) (frame : RxFrame)

/-- One frame in the stage of its protocol. -/
def stageStep : RxApplication :=
  match protoOf frame with
  | .BUS_PROTO_GOOSE => gooseStage fuel app frame
  | .BUS_PROTO_SV => sampledValuesStage fuel app frame
  | .BUS_PROTO_R_GOOSE => rGooseStage fuel crypto app frame
  | .BUS_PROTO_R_SV => rSampledValuesStage fuel crypto app frame
  | .NON_BUS_PROTO => { app with m_pktToKernelCnt := app.m_pktToKernelCnt + 1 }

/-- The key of the dispatcher. -/
def rssKey : ℕ := (getProtoType frame.packet 0 frame.pktLen.toNat).val.2

/-- The worker a frame goes to, of `2 ^ k` workers. -/
def workerOf (k : ℕ) : Fin (2 ^ k) :=
  ⟨rssKey frame &&& (2 ^ k - 1), by
    rw [Nat.and_two_pow_sub_one_eq_mod]
    exact Nat.mod_lt _ (Nat.pow_pos (by decide))⟩

variable {fuel crypto app frame}

lemma filter_queue (burst : List RxFrame) (proto proto' : BusProto) :
    (queue burst proto').filter (protoOf · = proto) =
      if proto' = proto then queue burst proto else [] := by
  rw [queue, List.filter_filter]
  split_ifs with h
  · subst h
    simp [queue]
  · refine List.filter_eq_nil_iff.mpr fun frame _ => ?_
    rintro htrue
    simp only [Bool.and_eq_true, decide_eq_true_eq] at htrue
    exact h (htrue.2.symm.trans htrue.1)

/-- Only frames of different protocols move past each other. -/
lemma filter_stageOrder (burst : List RxFrame) (proto : BusProto) :
    (stageOrder burst).filter (protoOf · = proto) = burst.filter (protoOf · = proto) := by
  simp only [stageOrder, List.filter_append, filter_queue]
  cases proto <;> simp [queue]

variable (fuel crypto) in
lemma foldl_stageStep (burst : List RxFrame) (proto : BusProto) (app : RxApplication)
    {stage : RxApplication → RxFrame → RxApplication}
    (h : ∀ app frame, protoOf frame = proto → stageStep fuel crypto app frame = stage app frame) :
    (queue burst proto).foldl (stageStep fuel crypto) app = (queue burst proto).foldl stage app :=
  List.foldl_ext _ _ _ fun app frame hframe =>
    h app frame (of_decide_eq_true (List.mem_filter.mp hframe).2)

/-- The pipeline works a burst off frame by frame, in the order of its stages. -/
theorem runBurst_eq_foldl (burst : List RxFrame) :
    runBurst fuel crypto app burst = (stageOrder burst).foldl (stageStep fuel crypto) app := by
  have hkernel : ∀ (l : List RxFrame) (app : RxApplication),
      l.foldl (fun app _ => { app with m_pktToKernelCnt := app.m_pktToKernelCnt + 1 }) app =
        { app with m_pktToKernelCnt := app.m_pktToKernelCnt + UInt64.ofNat l.length } := by
    intro l
    induction l with
    | nil => simp
    | cons frame l ih =>
      intro app
      rw [List.foldl_cons, ih, List.length_cons, UInt64.ofNat_add, UInt64.add_assoc,
        UInt64.add_comm 1]
      rfl
  have hgoose := fun app => foldl_stageStep fuel crypto burst .BUS_PROTO_GOOSE app
    fun app frame h => by rw [stageStep, h]
  have hsv := fun app => foldl_stageStep fuel crypto burst .BUS_PROTO_SV app
    fun app frame h => by rw [stageStep, h]
  have hrGoose := fun app => foldl_stageStep fuel crypto burst .BUS_PROTO_R_GOOSE app
    fun app frame h => by rw [stageStep, h]
  have hrSv := fun app => foldl_stageStep fuel crypto burst .BUS_PROTO_R_SV app
    fun app frame h => by rw [stageStep, h]
  have hip := fun app => foldl_stageStep fuel crypto burst .NON_BUS_PROTO app
    fun app frame h => by rw [stageStep, h]
  rw [stageOrder, List.foldl_append, List.foldl_append, List.foldl_append, List.foldl_append,
    hgoose, hsv, hrGoose, hrSv, hip, hkernel]
  rfl

lemma config_stageStep : config (stageStep fuel crypto app frame) = config app := by
  unfold stageStep
  cases protoOf frame with
  | BUS_PROTO_GOOSE => exact config_gooseStage
  | BUS_PROTO_SV => exact config_sampledValuesStage
  | BUS_PROTO_R_GOOSE => exact config_rGooseStage
  | BUS_PROTO_R_SV => exact config_rSampledValuesStage
  | NON_BUS_PROTO => rfl

/-! ### The key of a frame and its passport -/

lemma val_expect_packet (l : List (ℕ × UInt8)) :
    (frame.packet.expect l).val = true ↔ ∀ x ∈ l, frame.mem x.1 = x.2 := by
  simpa [RxFrame.packet] using Ptr.val_expect frame.packet l

/-- The protocol and the key of an L2 frame, with and without VLAN tag. -/
lemma getProtoType_of_l2Header {ty : UInt8} (hty : ty = 0xB8 ∨ ty = 0xBA) {pos : ℕ}
    (hpos : (l2Header frame.packet ty).val = some pos) :
    (getProtoType frame.packet 0 frame.pktLen.toNat).val =
      (if ty = 0xB8 then .BUS_PROTO_GOOSE else .BUS_PROTO_SV, beNat (frame.mem.slice pos 2)) := by
  have hbase : frame.packet.off = 0 := rfl
  have hmem : frame.packet.mem = frame.mem := rfl
  simp only [getProtoType, getProtoTypeUntagged, l2Header, Traced.val_bind,
    Traced.val_ite, Traced.val_pure, val_expect_packet, List.forall_mem_cons, List.not_mem_nil,
    false_implies, implies_true, and_true, Ptr.val_load, hbase, hmem, Nat.zero_add] at hpos ⊢
  rcases hty with rfl | rfl
  · split_ifs at hpos with htag huntag
    · obtain ⟨h12, h13, h16, h17⟩ := htag
      obtain rfl := Option.some.inj hpos
      simp [h12, h13, h16, h17]
    · obtain rfl := Option.some.inj hpos
      simp [huntag.1, huntag.2]
  · split_ifs at hpos with htag huntag
    · obtain ⟨h12, h13, h16, h17⟩ := htag
      obtain rfl := Option.some.inj hpos
      simp [h12, h13, h16, h17]
    · obtain rfl := Option.some.inj hpos
      simp [huntag.1, huntag.2]

/-- The key of an L2 frame is the APPID its parser reads. -/
lemma rssKey_of_l2Header {ty : UInt8} (hty : ty = 0xB8 ∨ ty = 0xBA) {pos : ℕ}
    (hpos : (l2Header frame.packet ty).val = some pos) :
    rssKey frame = beNat (frame.mem.slice pos 2) :=
  congrArg Prod.snd (getProtoType_of_l2Header hty hpos)

/-- An envelope in order names the destination group of the IPv4 header. -/
lemma envelope_dstIP (h : (envelope frame).1 = R_ENV_OK) :
    (envelope frame).2 = UInt32.ofNat (beNat (frame.mem.slice 30 4)) := by
  rcases henv : envelope frame with ⟨code, ip⟩
  rw [henv] at h
  obtain rfl : code = R_ENV_OK := h
  unfold envelope validateREnvelope at henv
  -- the checks in front of the checksum
  iterate 8 refine Traced.of_val_ite henv nofun fun henv => ?_
  refine Traced.of_val_ite henv nofun fun henv => ?_
  refine Traced.of_val_ite henv (fun henv => ?_) fun henv => ?_
  · refine Traced.of_val_ite henv (fun henv => ?_) nofun
    simp only [Traced.val_bind, Traced.val_pure, Ptr.val_load] at henv
    exact (Prod.mk.inj henv).2.symm
  · simp only [Traced.val_bind, Traced.val_pure, Ptr.val_load] at henv
    exact (Prod.mk.inj henv).2.symm

/-! ### Which source a frame updates -/

section Takes

variable (fuel crypto) (mode : SecurityMode)

/-- The passport a frame is looked up with in the GOOSE container, and what the source found under
it makes of the frame. -/
def gooseHit (frame : RxFrame) : Option (GoosePassport × (GooseSource → GooseSource)) :=
  match protoOf frame with
  | .BUS_PROTO_GOOSE =>
    match (parseGoosePacket fuel frame.packet frame.size {} {}).val with
    | none => none
    | some r =>
      if r.code = 0 then some (r.passport, (·.processState r.passport r.state)) else none
  | .BUS_PROTO_R_GOOSE =>
    if (envelope frame).1 ≠ R_ENV_OK then none
    else
      match (parseRGoosePacket fuel frame.packet frame.size mode crypto {} {} {}).val with
      | none => none
      | some (r, session) =>
        if r.code = 0 then
          let pass := { r.passport with dstIP := (envelope frame).2 }
          some (pass, fun src => (src.processSessionState session.spduNumber).processState pass
            r.state)
        else none
  | _ => none

/-- The same for the SV container. -/
def svHit (frame : RxFrame) : Option (SVStreamPassport × (SVStreamSource → SVStreamSource)) :=
  match protoOf frame with
  | .BUS_PROTO_SV =>
    match (parseSvPacket fuel frame.packet frame.size {} {}).val with
    | none => none
    | some r =>
      if r.code = 0 then some (r.passport, (·.processState r.passport r.state)) else none
  | .BUS_PROTO_R_SV =>
    if (envelope frame).1 ≠ R_ENV_OK then none
    else
      match (parseRSvPacket fuel frame.packet frame.size mode crypto {} {} {}).val with
      | none => none
      | some (r, session) =>
        if r.code = 0 then
          let pass := { r.passport with dstIP := (envelope frame).2 }
          some (pass, fun src => (src.processSessionState session.spduNumber).processState pass
            r.state)
        else none
  | _ => none

/-- The source found under a passport, and what it makes of the frame. -/
def takeOf {K S : Type} [HasAppId K] [BEq K] (c : AppIdContainer K ℕ) (hit : Option (K × (S → S))) :
    Option (ℕ × (S → S)) :=
  hit.bind fun x => (c.lookup x.1).map (·, x.2)

/-- A table of sources after one of them has taken a frame. -/
def applyTake {S : Type} (sources : List S) : Option (ℕ × (S → S)) → List S
  | none => sources
  | some (i, f) => sources.modify i f

variable {fuel crypto}

lemma gooseSources_takeGoose {pass : GoosePassport} {take : GooseSource → GooseSource} :
    (app.takeGoose pass take).gooseSources =
      applyTake app.gooseSources (takeOf app.m_gooseMap (some (pass, take))) := by
  simp only [RxApplication.takeGoose, takeOf, Option.bind_some]
  cases app.m_gooseMap.lookup pass <;> rfl

lemma svSources_takeSV {pass : SVStreamPassport} {take : SVStreamSource → SVStreamSource} :
    (app.takeSV pass take).svSources =
      applyTake app.svSources (takeOf app.m_svMap (some (pass, take))) := by
  simp only [RxApplication.takeSV, takeOf, Option.bind_some]
  cases app.m_svMap.lookup pass <;> rfl

/-- A frame changes the GOOSE sources through what it hits and in no other way. -/
lemma gooseSources_stageStep : (stageStep fuel crypto app frame).gooseSources =
    applyTake app.gooseSources
      (takeOf app.m_gooseMap (gooseHit fuel crypto app.m_rMode frame)) := by
  unfold stageStep gooseHit
  cases protoOf frame with
  | NON_BUS_PROTO => rfl
  | BUS_PROTO_GOOSE =>
    simp only [gooseStage]
    cases (parseGoosePacket fuel frame.packet frame.size {} {}).val with
    | none => rfl
    | some r =>
      dsimp only
      split_ifs
      · exact gooseSources_takeGoose
      · rfl
  | BUS_PROTO_R_GOOSE =>
    simp only [rGooseStage]
    split_ifs
    · rfl
    · cases (parseRGoosePacket fuel frame.packet frame.size app.m_rMode crypto {} {} {}).val with
      | none => rfl
      | some r =>
        dsimp only
        split_ifs
        · exact gooseSources_takeGoose
        · rfl
        · rfl
  | BUS_PROTO_SV => exact congrArg (·.2.2) gooseView_sampledValuesStage
  | BUS_PROTO_R_SV => exact congrArg (·.2.2) gooseView_rSampledValuesStage

/-- And likewise the SV sources. -/
lemma svSources_stageStep : (stageStep fuel crypto app frame).svSources =
    applyTake app.svSources (takeOf app.m_svMap (svHit fuel crypto app.m_rMode frame)) := by
  unfold stageStep svHit
  cases protoOf frame with
  | NON_BUS_PROTO => rfl
  | BUS_PROTO_GOOSE => exact congrArg (·.2.2) svView_gooseStage
  | BUS_PROTO_R_GOOSE => exact congrArg (·.2.2) svView_rGooseStage
  | BUS_PROTO_SV =>
    simp only [sampledValuesStage]
    cases (parseSvPacket fuel frame.packet frame.size {} {}).val with
    | none => rfl
    | some r =>
      dsimp only
      split_ifs
      · exact svSources_takeSV
      · rfl
  | BUS_PROTO_R_SV =>
    simp only [rSampledValuesStage]
    split_ifs
    · rfl
    · cases (parseRSvPacket fuel frame.packet frame.size app.m_rMode crypto {} {} {}).val with
      | none => rfl
      | some r =>
        dsimp only
        split_ifs
        · exact svSources_takeSV
        · rfl
        · rfl

end Takes

/-! ### One source, one lane -/

variable (fuel crypto) in
/-- A routable frame carries its APPID as UDP source port too, and goes to a group. -/
structure RssReady (mode : SecurityMode) (frame : RxFrame) : Prop where
  rGoose : protoOf frame = .BUS_PROTO_R_GOOSE →
    0 ≤ (unwrapRFrame frame.packet frame.size SI_R_GOOSE PAYLOAD_TYPE_GOOSE mode crypto
      {}).val.code →
    (unwrapRFrame frame.packet frame.size SI_R_GOOSE PAYLOAD_TYPE_GOOSE mode crypto
      {}).val.phdr.appid.toNat = rssKey frame
  rSv : protoOf frame = .BUS_PROTO_R_SV →
    0 ≤ (unwrapRFrame frame.packet frame.size SI_R_SV PAYLOAD_TYPE_SV mode crypto {}).val.code →
    (unwrapRFrame frame.packet frame.size SI_R_SV PAYLOAD_TYPE_SV mode crypto
      {}).val.phdr.appid.toNat = rssKey frame
  dstIP : protoOf frame = .BUS_PROTO_R_GOOSE ∨ protoOf frame = .BUS_PROTO_R_SV →
    beNat (frame.mem.slice 30 4) ≠ 0

variable (crypto) in
instance (mode : SecurityMode) : DecidablePred (RssReady crypto mode) := fun _ =>
  decidable_of_iff (_ ∧ _ ∧ _) ⟨fun h => ⟨h.1, h.2.1, h.2.2⟩, fun h => ⟨h.rGoose, h.rSv, h.dstIP⟩⟩

section Lanes

variable {mode : SecurityMode}

lemma toNat_appidAt (m : Mem) (a : ℕ) : (UInt16.ofNat (beNat (m.slice a 2))).toNat =
    beNat (m.slice a 2) := by
  have hlt := beNat_lt (m.slice a 2)
  rw [Mem.length_slice] at hlt
  rw [UInt16.toNat_ofNat', Nat.mod_eq_of_lt (by omega)]

lemma envelope_dstIP_ne_zero (hip : beNat (frame.mem.slice 30 4) ≠ 0)
    (h : (envelope frame).1 = R_ENV_OK) : (envelope frame).2 ≠ 0 := by
  intro hzero
  have hlt := beNat_lt (frame.mem.slice 30 4)
  rw [Mem.length_slice] at hlt
  rw [envelope_dstIP h] at hzero
  have hnat := congrArg UInt32.toNat hzero
  rw [UInt32.toNat_ofNat', Nat.mod_eq_of_lt (by omega)] at hnat
  exact hip hnat

/-- A frame is looked up under its key, and without destination group exactly if it is an L2
frame. -/
lemma gooseHit_key (hready : RssReady crypto mode frame) {pass : GoosePassport}
    {take : GooseSource → GooseSource}
    (h : gooseHit fuel crypto mode frame = some (pass, take)) :
    pass.appid.toNat = rssKey frame ∧ (protoOf frame = .BUS_PROTO_GOOSE ∧ pass.dstIP = 0 ∨
      protoOf frame = .BUS_PROTO_R_GOOSE ∧ pass.dstIP ≠ 0) := by
  unfold gooseHit at h
  cases hproto : protoOf frame with
  | NON_BUS_PROTO | BUS_PROTO_SV | BUS_PROTO_R_SV => rw [hproto] at h; cases h
  | BUS_PROTO_GOOSE =>
    rw [hproto] at h
    dsimp only at h
    split at h
    · cases h
    · next r hr =>
      split_ifs at h with hcode
      cases h
      obtain ⟨pos, hpos, haddr⟩ := addresses_parseGoosePacket hr hcode
      refine ⟨?_, .inl ⟨rfl, congrArg (·.2.2) haddr⟩⟩
      have happid : r.passport.appid = _ := congrArg (·.2.1) haddr
      rw [happid, toNat_appidAt, rssKey_of_l2Header (.inl rfl) hpos, RxFrame.packet, Nat.zero_add]
  | BUS_PROTO_R_GOOSE =>
    rw [hproto] at h
    dsimp only at h
    split_ifs at h with henv
    split at h
    · cases h
    · next r session hr =>
      split_ifs at h with hcode
      cases h
      obtain ⟨hok, happid⟩ := addresses_parseRGoosePacket hr hcode
      have hip := hready.dstIP (.inl hproto)
      refine ⟨?_, .inr ⟨rfl, envelope_dstIP_ne_zero hip (not_not.mp henv)⟩⟩
      exact (congrArg UInt16.toNat happid).trans (hready.rGoose hproto hok)

/-- Likewise for SV. -/
lemma svHit_key (hready : RssReady crypto mode frame) {pass : SVStreamPassport}
    {take : SVStreamSource → SVStreamSource}
    (h : svHit fuel crypto mode frame = some (pass, take)) :
    pass.appid.toNat = rssKey frame ∧ (protoOf frame = .BUS_PROTO_SV ∧ pass.dstIP = 0 ∨
      protoOf frame = .BUS_PROTO_R_SV ∧ pass.dstIP ≠ 0) := by
  unfold svHit at h
  cases hproto : protoOf frame with
  | NON_BUS_PROTO | BUS_PROTO_GOOSE | BUS_PROTO_R_GOOSE => rw [hproto] at h; cases h
  | BUS_PROTO_SV =>
    rw [hproto] at h
    dsimp only at h
    split at h
    · cases h
    · next r hr =>
      split_ifs at h with hcode
      cases h
      obtain ⟨pos, hpos, haddr⟩ := addresses_parseSvPacket hr hcode
      refine ⟨?_, .inl ⟨rfl, congrArg (·.2.2) haddr⟩⟩
      have happid : r.passport.appid = _ := congrArg (·.2.1) haddr
      rw [happid, toNat_appidAt, rssKey_of_l2Header (.inr rfl) hpos, RxFrame.packet, Nat.zero_add]
  | BUS_PROTO_R_SV =>
    rw [hproto] at h
    dsimp only at h
    split_ifs at h with henv
    split at h
    · cases h
    · next r session hr =>
      split_ifs at h with hcode
      cases h
      obtain ⟨hok, happid⟩ := addresses_parseRSvPacket hr hcode
      have hip := hready.dstIP (.inr hproto)
      refine ⟨?_, .inr ⟨rfl, envelope_dstIP_ne_zero hip (not_not.mp henv)⟩⟩
      exact (congrArg UInt16.toNat happid).trans (hready.rSv hproto hok)

/-- In a container that `Init` has filled, a source is only found under one key. -/
lemma key_of_takeOf {K S : Type} [HasAppId K] [BEq K] {c : AppIdContainer K ℕ} {n : ℕ}
    (hc : c.Filled n) {hit hit' : Option (K × (S → S))} {i : ℕ} {f f' : S → S}
    (h : takeOf c hit = some (i, f)) (h' : takeOf c hit' = some (i, f')) :
    ∃ key pass take pass' take', hit = some (pass, take) ∧ hit' = some (pass', take') ∧
      (key == pass) = true ∧ (key == pass') = true := by
  obtain ⟨⟨pass, take⟩, hhit, h⟩ := Option.bind_eq_some_iff.mp h
  obtain ⟨⟨pass', take'⟩, hhit', h'⟩ := Option.bind_eq_some_iff.mp h'
  obtain ⟨_, hlookup, heq⟩ := Option.map_eq_some_iff.mp h
  obtain ⟨_, hlookup', heq'⟩ := Option.map_eq_some_iff.mp h'
  obtain ⟨rfl, _⟩ := Prod.mk.inj heq
  obtain ⟨rfl, _⟩ := Prod.mk.inj heq'
  obtain ⟨entry, hmem, hkey, hvalue⟩ := AppIdContainer.mem_of_lookup hlookup
  obtain ⟨entry', hmem', hkey', hvalue'⟩ := AppIdContainer.mem_of_lookup hlookup'
  obtain ⟨j, hj⟩ := List.mem_iff_getElem?.mp hmem
  obtain ⟨j', hj'⟩ := List.mem_iff_getElem?.mp hmem'
  obtain rfl := hc.unique hj hj' (hvalue.trans hvalue'.symm)
  obtain rfl := Option.some.inj (hj.symm.trans hj')
  exact ⟨entry.1, pass, take, pass', take', hhit, hhit', hkey, hkey'⟩

lemma GoosePassport.appid_eq_of_beq {l r : GoosePassport} (h : (l == r) = true) :
    l.appid = r.appid := by
  simp only [BEq.beq, Bool.and_eq_true, decide_eq_true_eq] at h
  exact h.1.1.1.1.1.1.2

lemma SVStreamPassport.appid_eq_of_beq {l r : SVStreamPassport} (h : (l == r) = true) :
    l.appid = r.appid := by
  simp only [BEq.beq, Bool.and_eq_true, decide_eq_true_eq] at h
  exact h.1.1.1.1.2

variable {c : GooseContainer} {cs : SVContainer} {frame' : RxFrame} {n i : ℕ}

/-- Two frames that reach the same GOOSE source have the same key and the same protocol. -/
lemma goose_same_lane (hc : c.Filled n) (hready : RssReady crypto mode frame)
    (hready' : RssReady crypto mode frame') {f f' : GooseSource → GooseSource}
    (h : takeOf c (gooseHit fuel crypto mode frame) = some (i, f))
    (h' : takeOf c (gooseHit fuel crypto mode frame') = some (i, f')) :
    rssKey frame = rssKey frame' ∧ protoOf frame = protoOf frame' := by
  obtain ⟨key, pass, take, pass', take', hhit, hhit', hkey, hkey'⟩ := key_of_takeOf hc h h'
  obtain ⟨happid, hproto⟩ := gooseHit_key hready hhit
  obtain ⟨happid', hproto'⟩ := gooseHit_key hready' hhit'
  have hip := (GoosePassport.dstIP_eq_of_beq hkey).symm.trans (GoosePassport.dstIP_eq_of_beq hkey')
  constructor
  · rw [← happid, ← happid', ← GoosePassport.appid_eq_of_beq hkey,
      ← GoosePassport.appid_eq_of_beq hkey']
  · rcases hproto with ⟨hp, h0⟩ | ⟨hp, h0⟩ <;> rcases hproto' with ⟨hp', h0'⟩ | ⟨hp', h0'⟩
    · rw [hp, hp']
    · exact absurd (hip.symm.trans h0) h0'
    · exact absurd (hip.trans h0') h0
    · rw [hp, hp']

/-- Two frames that reach the same SV source have the same key and the same protocol. -/
lemma sv_same_lane (hc : cs.Filled n) (hready : RssReady crypto mode frame)
    (hready' : RssReady crypto mode frame') {f f' : SVStreamSource → SVStreamSource}
    (h : takeOf cs (svHit fuel crypto mode frame) = some (i, f))
    (h' : takeOf cs (svHit fuel crypto mode frame') = some (i, f')) :
    rssKey frame = rssKey frame' ∧ protoOf frame = protoOf frame' := by
  obtain ⟨key, pass, take, pass', take', hhit, hhit', hkey, hkey'⟩ := key_of_takeOf hc h h'
  obtain ⟨happid, hproto⟩ := svHit_key hready hhit
  obtain ⟨happid', hproto'⟩ := svHit_key hready' hhit'
  have hip := (SVStreamPassport.dstIP_eq_of_beq hkey).symm.trans
    (SVStreamPassport.dstIP_eq_of_beq hkey')
  constructor
  · rw [← happid, ← happid', ← SVStreamPassport.appid_eq_of_beq hkey,
      ← SVStreamPassport.appid_eq_of_beq hkey']
  · rcases hproto with ⟨hp, h0⟩ | ⟨hp, h0⟩ <;> rcases hproto' with ⟨hp', h0'⟩ | ⟨hp', h0'⟩
    · rw [hp, hp']
    · exact absurd (hip.symm.trans h0) h0'
    · exact absurd (hip.trans h0') h0
    · rw [hp, hp']

end Lanes

/-! ### Whole runs -/

section Runs

open Relation Sharding

variable {S : Type} {sources : RxApplication → List S} {take : RxFrame → Option (ℕ × (S → S))}
  {app₀ : RxApplication} {k capacity burstSize i : ℕ} {bursts bursts' : List (List RxFrame)}
  {l : List RxFrame}

/-- What a frame makes of one source. -/
def effect (i : ℕ) (src : Option S) : Option (ℕ × (S → S)) → Option S
  | none => src
  | some (j, f) => if j = i then src.map f else src

lemma getElem?_applyTake (l : List S) (x : Option (ℕ × (S → S))) :
    (applyTake l x)[i]? = effect i l[i]? x := by
  cases x with
  | none => rfl
  | some x => simp only [applyTake, effect, List.getElem?_modify]; split_ifs <;> simp

lemma config_foldl_stageStep :
    config (l.foldl (stageStep fuel crypto) app₀) = config app₀ :=
  Fold.view_foldl_of_fixed _ (fun _ h _ => config_stageStep.trans h) rfl

/-- A run acts on a source through the frames that reach it. -/
lemma getElem?_foldl_stageStep
    (hsources : ∀ app frame, config app = config app₀ →
      sources (stageStep fuel crypto app frame) = applyTake (sources app) (take frame)) :
    (sources (l.foldl (stageStep fuel crypto) app₀))[i]? =
      l.foldl (fun src frame => effect i src (take frame)) (sources app₀)[i]? := by
  induction l using List.reverseRecOn with
  | nil => rfl
  | append_singleton l frame ih =>
    rw [List.foldl_append, List.foldl_append, ← ih]
    exact (congrArg (·[i]?) (hsources _ frame config_foldl_stageStep)).trans
      (getElem?_applyTake _ _)

/-- If the frames that reach it are all in one lane, the others do not matter. -/
lemma foldl_effect_lane {w : Fin (2 ^ k)} {proto : BusProto}
    (hlane : ∀ frame ∈ l, ∀ f, take frame = some (i, f) →
      workerOf frame k = w ∧ protoOf frame = proto) (src : Option S) :
    (lane (workerOf · k) protoOf w proto l).foldl
      (fun src frame => effect i src (take frame)) src =
      l.foldl (fun src frame => effect i src (take frame)) src := by
  refine Fold.foldl_filter_of_fixed (fun _ => True) (fun _ _ _ => trivial)
    (fun src _ frame hframe hout => ?_) trivial
  cases htake : take frame with
  | none => rfl
  | some x =>
    by_cases hi : x.1 = i
    · exact absurd (hlane frame hframe x.2 (by rw [htake, ← hi])) (of_decide_eq_false hout)
    · exact if_neg hi

lemma runBursts_eq_foldl : runBursts fuel crypto app₀ bursts =
    (bursts.flatMap stageOrder).foldl (stageStep fuel crypto) app₀ := by
  unfold runBursts
  induction bursts generalizing app₀ with
  | nil => rfl
  | cons burst bursts ih =>
    rw [List.foldl_cons, ih, List.flatMap_cons, List.foldl_append, runBurst_eq_foldl]

lemma mem_stageOrder {burst : List RxFrame} (h : frame ∈ stageOrder burst) : frame ∈ burst :=
  mem_order filter_stageOrder h

variable (sources take) in
/-- If the frames that reach a source always have one key and one protocol, the source ends up the
same on one core and on many. -/
theorem sources_agree
    (hsources : ∀ app frame, config app = config app₀ →
      sources (stageStep fuel crypto app frame) = applyTake (sources app) (take frame))
    (hsame : ∀ frame ∈ bursts.flatten, ∀ frame' ∈ bursts.flatten, ∀ i f f',
      take frame = some (i, f) → take frame' = some (i, f') →
      rssKey frame = rssKey frame' ∧ protoOf frame = protoOf frame')
    {s : System RxFrame (Fin (2 ^ k)) RxApplication}
    (hreach : ReflTransGen (Step (workerOf · k) (stageStep fuel crypto) stageOrder capacity
      burstSize) (.start app₀ bursts) s) (hdrained : s.Drained) (hlost : s.lost = 0)
    (hflatten : bursts'.flatten = bursts.flatten) :
    sources s.shared = sources (runBursts fuel crypto app₀ bursts') := by
  refine List.ext_getElem? fun i => ?_
  obtain ⟨w, proto, hlane⟩ : ∃ (w : Fin (2 ^ k)) (proto : BusProto), ∀ frame ∈ bursts.flatten,
      ∀ f, take frame = some (i, f) → workerOf frame k = w ∧ protoOf frame = proto := by
    by_cases hex : ∃ frame ∈ bursts.flatten, ∃ f, take frame = some (i, f)
    · obtain ⟨frame, hframe, f, htake⟩ := hex
      refine ⟨workerOf frame k, protoOf frame, fun frame' hframe' f' htake' => ?_⟩
      obtain ⟨hkey, hproto⟩ := hsame frame' hframe' frame hframe i f' f htake' htake
      exact ⟨by simp only [workerOf, hkey], hproto⟩
    · exact ⟨⟨0, Nat.pow_pos (by decide)⟩, .NON_BUS_PROTO,
        fun frame hframe f htake => absurd ⟨frame, hframe, f, htake⟩ hex⟩
  have hview : ∀ l : List RxFrame, (∀ frame ∈ l, frame ∈ bursts.flatten) →
      (sources (l.foldl (stageStep fuel crypto) app₀))[i]? =
        (lane (workerOf · k) protoOf w proto l).foldl
          (fun src frame => effect i src (take frame)) (sources app₀)[i]? := fun l hl => by
    rw [getElem?_foldl_stageStep hsources,
      foldl_effect_lane fun frame hframe => hlane frame (hl frame hframe)]
  have hmany := view_of_drained filter_stageOrder hreach hdrained hlost
    (fun app => (sources app)[i]?) _ hview
  have hmem : ∀ frame ∈ bursts'.flatMap stageOrder, frame ∈ bursts.flatten := by
    intro frame hframe
    obtain ⟨burst, hburst, hframe⟩ := List.mem_flatMap.mp hframe
    rw [← hflatten]
    exact List.mem_flatten.mpr ⟨burst, hburst, mem_stageOrder hframe⟩
  rw [hmany, hview _ fun _ h => h, runBursts_eq_foldl, hview _ hmem,
    lane_flatMap_order filter_stageOrder, hflatten]

variable (fuel crypto) in
/-- The frame updates the GOOSE source with number `i`. -/
def UpdatesGoose (app : RxApplication) (frame : RxFrame) (i : ℕ) : Prop :=
  ∃ f, takeOf app.m_gooseMap (gooseHit fuel crypto app.m_rMode frame) = some (i, f)

variable (fuel crypto) in
/-- The frame updates the SV source with number `i`. -/
def UpdatesSV (app : RxApplication) (frame : RxFrame) (i : ℕ) : Prop :=
  ∃ f, takeOf app.m_svMap (svHit fuel crypto app.m_rMode frame) = some (i, f)

/-- Software RSS does not change what becomes of the streams: on `2 ^ k` workers, in any
interleaving in which no ring overflows, every source ends up as on a single core, and no source is
ever updated by two workers. -/
theorem rss_keeps_streams (fuel : ℕ) (crypto : Crypto) (conf : RxConfig)
    (k capacity burstSize : ℕ) (bursts bursts' : List (List RxFrame))
    (hflatten : bursts'.flatten = bursts.flatten)
    (hready : ∀ frame ∈ bursts.flatten, RssReady crypto conf.m_rMode frame)
    (s : System RxFrame (Fin (2 ^ k)) RxApplication)
    (hreach : ReflTransGen (Step (workerOf · k) (stageStep fuel crypto) stageOrder capacity
      burstSize) (.start (init conf) bursts) s) :
    (s.Drained → s.lost = 0 →
      s.shared.gooseSources = (runBursts fuel crypto (init conf) bursts').gooseSources ∧
      s.shared.svSources = (runBursts fuel crypto (init conf) bursts').svSources) ∧
    ∀ x ∈ s.log, ∀ y ∈ s.log, ∀ i,
      (UpdatesGoose fuel crypto (init conf) x.2 i → UpdatesGoose fuel crypto (init conf) y.2 i →
        x.1 = y.1) ∧
      (UpdatesSV fuel crypto (init conf) x.2 i → UpdatesSV fuel crypto (init conf) y.2 i →
        x.1 = y.1) := by
  obtain ⟨⟨_, hgoose⟩, _, hsv⟩ := filled_init conf
  rw [← mode_init conf] at hready
  have hsound := sound_of_reach filter_stageOrder hreach
  have hworker : ∀ x ∈ s.log, ∀ y ∈ s.log, rssKey x.2 = rssKey y.2 → x.1 = y.1 := by
    intro x hx y hy hkey
    rw [← (hsound.logOwn x hx).1, ← (hsound.logOwn y hy).1]
    simp only [workerOf, hkey]
  refine ⟨fun hdrained hlost => ⟨?_, ?_⟩, fun x hx y hy i => ⟨?_, ?_⟩⟩
  · refine sources_agree RxApplication.gooseSources
      (fun frame => takeOf (init conf).m_gooseMap
        (gooseHit fuel crypto (init conf).m_rMode frame)) ?_ ?_ hreach hdrained hlost hflatten
    · intro app frame hconf
      obtain ⟨hmode, hmaps⟩ := Prod.ext_iff.mp hconf
      rw [gooseSources_stageStep, show app.m_rMode = _ from hmode,
        show app.m_gooseMap = _ from congrArg Prod.fst hmaps]
      rfl
    · exact fun frame hframe frame' hframe' i f f' h h' =>
        goose_same_lane hgoose (hready frame hframe) (hready frame' hframe') h h'
  · refine sources_agree RxApplication.svSources
      (fun frame => takeOf (init conf).m_svMap
        (svHit fuel crypto (init conf).m_rMode frame)) ?_ ?_ hreach hdrained hlost hflatten
    · intro app frame hconf
      obtain ⟨hmode, hmaps⟩ := Prod.ext_iff.mp hconf
      rw [svSources_stageStep, show app.m_rMode = _ from hmode,
        show app.m_svMap = _ from congrArg Prod.snd hmaps]
      rfl
    · exact fun frame hframe frame' hframe' i f f' h h' =>
        sv_same_lane hsv (hready frame hframe) (hready frame' hframe') h h'
  · rintro ⟨f, hf⟩ ⟨f', hf'⟩
    exact hworker x hx y hy (goose_same_lane hgoose (hready _ (hsound.logOwn x hx).2)
      (hready _ (hsound.logOwn y hy).2) hf hf').1
  · rintro ⟨f, hf⟩ ⟨f', hf'⟩
    exact hworker x hx y hy (sv_same_lane hsv (hready _ (hsound.logOwn x hx).2)
      (hready _ (hsound.logOwn y hy).2) hf hf').1

/-- An R-GOOSE stream and an SV stream, each with a worker of its own. -/
theorem rss_keeps_streams_sample :
    let conf : RxConfig := { m_confRGooseNum := 1, m_confSV80Num := 2, m_gooseEntries := 1 }
    let bursts := [[sampleRGooseRx 0 1 3, sampleSvRx 1 1], [sampleSvRx 1 2]]
    ∃ s : System RxFrame (Fin (2 ^ 1)) RxApplication,
      ReflTransGen (Step (workerOf · 1) (stageStep 100 sampleCrypto) stageOrder 16383 32)
        (.start (init conf) bursts) s ∧ s.Drained ∧ s.lost = 0 ∧
      s.shared.gooseSources.map (fun src => (src.m_stNum, src.m_errSeqCnt, src.m_spduNumber)) =
        [(3, 1, 1)] ∧
      s.shared.svSources.map (fun src => (src.m_smpCnt, src.m_errSmpCnt)) = [(0, 0), (2, 0)] := by
  intro conf bursts
  have hfits : ∀ b ∈ bursts, b.length ≤ 16383 := by simp [bursts]
  obtain ⟨s, hreach, hdrained, hlost⟩ := exists_drained (workerOf · 1)
    (stageStep 100 sampleCrypto) stageOrder 16383 32 (by decide) hfits (init conf)
  have hready : ∀ frame ∈ bursts.flatten, RssReady sampleCrypto .SEC_NONE frame := by
    dsimp only [bursts]
    decide +kernel
  obtain ⟨hgoose, hsv⟩ := (rss_keeps_streams 100 sampleCrypto conf 1 16383 32 bursts
    [bursts.flatten] rfl hready s hreach).1 hdrained hlost
  refine ⟨s, hreach, hdrained, hlost, ?_, ?_⟩
  · rw [hgoose]
    decide +kernel
  · rw [hsv]
    decide +kernel

end Runs

end ProcessBus
