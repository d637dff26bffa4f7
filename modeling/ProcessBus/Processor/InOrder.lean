import ProcessBus.Processor.Accounting
import ProcessBus.Processor.Dispatch

/-!
# The pipeline and a plain receiver

The pipeline sorts a burst by protocol and works the protocols off one after the other. Frames of
different protocols commute: an L2 frame is never looked up where a routable one is, and all they
have in common is that they raise counters. So the pipeline leaves behind what a receiver would that
takes one frame after the other, however the frames are split into bursts.

This needs that no routable frame goes to the address zero, under which L2 streams are registered.
-/

namespace ProcessBus

open RSess

variable {fuel : ℕ} {crypto : Crypto} {app app' : RxApplication} {frame frame' : RxFrame}

/-! ### What a frame adds to the counters -/

namespace RxApplication

/-- The application with the same configuration, no sources and all counters at zero. -/
def blank (app : RxApplication) : RxApplication where
  m_rMode := app.m_rMode
  m_gooseMap := app.m_gooseMap
  m_svMap := app.m_svMap

/-- An application is its configuration, its sources and its counters. -/
lemma eq_of_views (hconfig : config app = config app')
    (hgoose : app.gooseSources = app'.gooseSources) (hsv : app.svSources = app'.svSources)
    (hcounter : ∀ c, app.counter c = app'.counter c) : app = app' := by
  obtain ⟨hmode, hmaps⟩ := Prod.ext_iff.mp hconfig
  obtain ⟨hgooseMap, hsvMap⟩ := Prod.ext_iff.mp hmaps
  have h₁ := hcounter .m_rxGoosePktCnt
  have h₂ := hcounter .m_rxSVPktCnt
  have h₃ := hcounter .m_errGooseParserCnt
  have h₄ := hcounter .m_errSVParserCnt
  have h₅ := hcounter .m_rxUnknownGooseCnt
  have h₆ := hcounter .m_rxUnknownSVCnt
  have h₇ := hcounter .m_errAuthCnt
  have h₈ := hcounter .m_pktToKernelCnt
  cases app
  cases app'
  simp_all [config, counter]

lemma blank_eq_of_config (h : config app = config app') : app.blank = app'.blank := by
  obtain ⟨hmode, hmaps⟩ := Prod.ext_iff.mp h
  obtain ⟨hgooseMap, hsvMap⟩ := Prod.ext_iff.mp hmaps
  simp only [config] at hmode hgooseMap hsvMap
  simp [blank, hmode, hgooseMap, hsvMap]

lemma counter_takeGoose {pass : GoosePassport} {take : GooseSource → GooseSource} (c : Counter) :
    (app.takeGoose pass take).counter c =
      app.counter c + (app.blank.takeGoose pass take).counter c := by
  simp only [takeGoose, blank]
  cases app.m_gooseMap.lookup pass <;> cases c <;> simp [counter]

lemma counter_takeSV {pass : SVStreamPassport} {take : SVStreamSource → SVStreamSource}
    (c : Counter) :
    (app.takeSV pass take).counter c = app.counter c + (app.blank.takeSV pass take).counter c := by
  simp only [takeSV, blank]
  cases app.m_svMap.lookup pass <;> cases c <;> simp [counter]

end RxApplication

open RxApplication

lemma counter_gooseStage (c : Counter) : (gooseStage fuel app frame).counter c =
    app.counter c + (gooseStage fuel app.blank frame).counter c := by
  unfold gooseStage
  cases (parseGoosePacket fuel frame.packet frame.size {} {}).val with
  | none => cases c <;> simp [counter, blank]
  | some r =>
    dsimp only
    split_ifs
    · exact counter_takeGoose c
    · cases c <;> simp [counter, blank]

lemma counter_sampledValuesStage (c : Counter) : (sampledValuesStage fuel app frame).counter c =
    app.counter c + (sampledValuesStage fuel app.blank frame).counter c := by
  unfold sampledValuesStage
  cases (parseSvPacket fuel frame.packet frame.size {} {}).val with
  | none => cases c <;> simp [counter, blank]
  | some r =>
    dsimp only
    split_ifs
    · exact counter_takeSV c
    · cases c <;> simp [counter, blank]

lemma counter_rGooseStage (c : Counter) : (rGooseStage fuel crypto app frame).counter c =
    app.counter c + (rGooseStage fuel crypto app.blank frame).counter c := by
  have hmode : app.blank.m_rMode = app.m_rMode := rfl
  unfold rGooseStage
  rw [hmode]
  split_ifs
  · cases c <;> simp [counter, blank]
  · cases (parseRGoosePacket fuel frame.packet frame.size app.m_rMode crypto {} {} {}).val with
    | none => cases c <;> simp [counter, blank]
    | some r =>
      dsimp only
      split_ifs
      · exact counter_takeGoose c
      · cases c <;> simp [counter, blank]
      · cases c <;> simp [counter, blank]

lemma counter_rSampledValuesStage (c : Counter) :
    (rSampledValuesStage fuel crypto app frame).counter c =
      app.counter c + (rSampledValuesStage fuel crypto app.blank frame).counter c := by
  have hmode : app.blank.m_rMode = app.m_rMode := rfl
  unfold rSampledValuesStage
  rw [hmode]
  split_ifs
  · cases c <;> simp [counter, blank]
  · cases (parseRSvPacket fuel frame.packet frame.size app.m_rMode crypto {} {} {}).val with
    | none => cases c <;> simp [counter, blank]
    | some r =>
      dsimp only
      split_ifs
      · exact counter_takeSV c
      · cases c <;> simp [counter, blank]
      · cases c <;> simp [counter, blank]

/-- What a frame adds to a counter is settled by the configuration. -/
lemma counter_stageStep (c : Counter) : (stageStep fuel crypto app frame).counter c =
    app.counter c + (stageStep fuel crypto app.blank frame).counter c := by
  unfold stageStep
  cases protoOf frame with
  | BUS_PROTO_GOOSE => exact counter_gooseStage c
  | BUS_PROTO_SV => exact counter_sampledValuesStage c
  | BUS_PROTO_R_GOOSE => exact counter_rGooseStage c
  | BUS_PROTO_R_SV => exact counter_rSampledValuesStage c
  | NON_BUS_PROTO => cases c <;> simp [counter, blank]

/-! ### Frames that commute -/

/-- Two takes are of different sources. -/
def Apart {S : Type} (x y : Option (ℕ × (S → S))) : Prop :=
  ∀ i f g, x = some (i, f) → y ≠ some (i, g)

lemma applyTake_comm {S : Type} {x y : Option (ℕ × (S → S))} (h : Apart x y) (sources : List S) :
    applyTake (applyTake sources x) y = applyTake (applyTake sources y) x := by
  cases x with
  | none => rfl
  | some x =>
    cases y with
    | none => rfl
    | some y =>
      apply List.modify_modify_ne
      intro heq
      exact h x.1 x.2 y.2 rfl (by rw [heq])

/-- Frames that update different sources can change places. -/
lemma stageStep_comm
    (hgoose : Apart (takeOf app.m_gooseMap (gooseHit fuel crypto app.m_rMode frame))
      (takeOf app.m_gooseMap (gooseHit fuel crypto app.m_rMode frame')))
    (hsv : Apart (takeOf app.m_svMap (svHit fuel crypto app.m_rMode frame))
      (takeOf app.m_svMap (svHit fuel crypto app.m_rMode frame'))) :
    stageStep fuel crypto (stageStep fuel crypto app frame) frame' =
      stageStep fuel crypto (stageStep fuel crypto app frame') frame := by
  have hconfig : ∀ frame, config (stageStep fuel crypto app frame) = config app :=
    fun frame => config_stageStep
  have hmode : ∀ frame, (stageStep fuel crypto app frame).m_rMode = app.m_rMode :=
    fun frame => congrArg (·.1) (hconfig frame)
  have hgooseMap : ∀ frame, (stageStep fuel crypto app frame).m_gooseMap = app.m_gooseMap :=
    fun frame => congrArg (·.2.1) (hconfig frame)
  have hsvMap : ∀ frame, (stageStep fuel crypto app frame).m_svMap = app.m_svMap :=
    fun frame => congrArg (·.2.2) (hconfig frame)
  apply eq_of_views
  · exact config_stageStep.trans ((hconfig frame).trans
      (config_stageStep.trans (hconfig frame')).symm)
  · simp only [gooseSources_stageStep, hmode, hgooseMap]
    exact applyTake_comm hgoose _
  · simp only [svSources_stageStep, hmode, hsvMap]
    exact applyTake_comm hsv _
  · intro c
    have hcount : ∀ other, config other = config app → ∀ frame,
        (stageStep fuel crypto other frame).counter c =
          other.counter c + (stageStep fuel crypto app.blank frame).counter c := by
      intro other hother frame
      rw [counter_stageStep, blank_eq_of_config hother]
    rw [hcount _ (hconfig frame), hcount app rfl, hcount _ (hconfig frame'), hcount app rfl]
    ac_rfl

/-! ### Protocols commute -/

/-- A routable frame goes to a group. -/
def GoesToGroup (frame : RxFrame) : Prop :=
  protoOf frame = .BUS_PROTO_R_GOOSE ∨ protoOf frame = .BUS_PROTO_R_SV →
    beNat (frame.mem.slice 30 4) ≠ 0

instance : DecidablePred GoesToGroup := fun _ => inferInstanceAs (Decidable (_ ∨ _ → _))

section Protocols

variable {mode : SecurityMode} {c : GooseContainer} {cs : SVContainer} {n : ℕ}

/-- A GOOSE frame is looked up without destination group exactly if it is an L2 frame. -/
lemma gooseHit_dstIP (hgroup : GoesToGroup frame) {pass : GoosePassport}
    {take : GooseSource → GooseSource} (h : gooseHit fuel crypto mode frame = some (pass, take)) :
    protoOf frame = .BUS_PROTO_GOOSE ∧ pass.dstIP = 0 ∨
      protoOf frame = .BUS_PROTO_R_GOOSE ∧ pass.dstIP ≠ 0 := by
  cases hproto : protoOf frame with
  | NON_BUS_PROTO | BUS_PROTO_SV | BUS_PROTO_R_SV => simp [gooseHit, hproto] at h
  | BUS_PROTO_GOOSE =>
    have hready : RssReady crypto mode frame := by constructor <;> simp [hproto]
    rcases (gooseHit_key hready h).2 with ⟨-, hzero⟩ | ⟨hother, -⟩
    · exact .inl ⟨rfl, hzero⟩
    · rw [hproto] at hother
      cases hother
  | BUS_PROTO_R_GOOSE =>
    simp only [gooseHit, hproto] at h
    split_ifs at h with henv
    split at h
    · cases h
    · next r session hr =>
      split_ifs at h with hcode
      cases h
      exact .inr ⟨rfl, envelope_dstIP_ne_zero (hgroup (.inl hproto)) (not_not.mp henv)⟩

/-- Likewise for SV. -/
lemma svHit_dstIP (hgroup : GoesToGroup frame) {pass : SVStreamPassport}
    {take : SVStreamSource → SVStreamSource}
    (h : svHit fuel crypto mode frame = some (pass, take)) :
    protoOf frame = .BUS_PROTO_SV ∧ pass.dstIP = 0 ∨
      protoOf frame = .BUS_PROTO_R_SV ∧ pass.dstIP ≠ 0 := by
  cases hproto : protoOf frame with
  | NON_BUS_PROTO | BUS_PROTO_GOOSE | BUS_PROTO_R_GOOSE => simp [svHit, hproto] at h
  | BUS_PROTO_SV =>
    have hready : RssReady crypto mode frame := by constructor <;> simp [hproto]
    rcases (svHit_key hready h).2 with ⟨-, hzero⟩ | ⟨hother, -⟩
    · exact .inl ⟨rfl, hzero⟩
    · rw [hproto] at hother
      cases hother
  | BUS_PROTO_R_SV =>
    simp only [svHit, hproto] at h
    split_ifs at h with henv
    split at h
    · cases h
    · next r session hr =>
      split_ifs at h with hcode
      cases h
      exact .inr ⟨rfl, envelope_dstIP_ne_zero (hgroup (.inr hproto)) (not_not.mp henv)⟩

/-- GOOSE frames of different protocols never reach the same source. -/
lemma goose_apart (hc : c.Filled n) (hgroup : GoesToGroup frame) (hgroup' : GoesToGroup frame')
    (hne : protoOf frame ≠ protoOf frame') :
    Apart (takeOf c (gooseHit fuel crypto mode frame))
      (takeOf c (gooseHit fuel crypto mode frame')) := by
  intro i f g h h'
  obtain ⟨key, pass, take, pass', take', hhit, hhit', hkey, hkey'⟩ := key_of_takeOf hc h h'
  have hip := (GoosePassport.dstIP_eq_of_beq hkey).symm.trans
    (GoosePassport.dstIP_eq_of_beq hkey')
  rcases gooseHit_dstIP hgroup hhit with ⟨hp, h0⟩ | ⟨hp, h0⟩ <;>
    rcases gooseHit_dstIP hgroup' hhit' with ⟨hp', h0'⟩ | ⟨hp', h0'⟩
  · exact hne (hp.trans hp'.symm)
  · exact h0' (hip.symm.trans h0)
  · exact h0 (hip.trans h0')
  · exact hne (hp.trans hp'.symm)

/-- SV frames of different protocols never reach the same source. -/
lemma sv_apart (hc : cs.Filled n) (hgroup : GoesToGroup frame) (hgroup' : GoesToGroup frame')
    (hne : protoOf frame ≠ protoOf frame') :
    Apart (takeOf cs (svHit fuel crypto mode frame))
      (takeOf cs (svHit fuel crypto mode frame')) := by
  intro i f g h h'
  obtain ⟨key, pass, take, pass', take', hhit, hhit', hkey, hkey'⟩ := key_of_takeOf hc h h'
  have hip := (SVStreamPassport.dstIP_eq_of_beq hkey).symm.trans
    (SVStreamPassport.dstIP_eq_of_beq hkey')
  rcases svHit_dstIP hgroup hhit with ⟨hp, h0⟩ | ⟨hp, h0⟩ <;>
    rcases svHit_dstIP hgroup' hhit' with ⟨hp', h0'⟩ | ⟨hp', h0'⟩
  · exact hne (hp.trans hp'.symm)
  · exact h0' (hip.symm.trans h0)
  · exact h0 (hip.trans h0')
  · exact hne (hp.trans hp'.symm)

end Protocols

/-! ### Whole runs -/

section Runs

variable {conf : RxConfig} {bursts : List (List RxFrame)} {l l' : List RxFrame}

/-- Frames of different protocols commute in every application `Init` has configured. -/
lemma stageStep_comm_of_proto (hconfig : config app = config (init conf))
    (hgroup : GoesToGroup frame) (hgroup' : GoesToGroup frame')
    (hne : protoOf frame ≠ protoOf frame') :
    stageStep fuel crypto (stageStep fuel crypto app frame) frame' =
      stageStep fuel crypto (stageStep fuel crypto app frame') frame := by
  obtain ⟨⟨_, hgoose⟩, _, hsv⟩ := filled_init conf
  obtain ⟨hgooseMap, hsvMap⟩ := Prod.ext_iff.mp (Prod.ext_iff.mp hconfig).2
  apply stageStep_comm
  · rw [show app.m_gooseMap = (init conf).m_gooseMap from hgooseMap]
    exact goose_apart hgoose hgroup hgroup' hne
  · rw [show app.m_svMap = (init conf).m_svMap from hsvMap]
    exact sv_apart hsv hgroup hgroup' hne

/-- Only the order within each protocol matters. -/
lemma foldl_stageStep_of_protos (hconfig : config app = config (init conf))
    (hgroup : ∀ frame ∈ l, GoesToGroup frame)
    (hsame : ∀ proto, l.filter (protoOf · = proto) = l'.filter (protoOf · = proto)) :
    l.foldl (stageStep fuel crypto) app = l'.foldl (stageStep fuel crypto) app := by
  apply Fold.foldl_eq_of_classes protoOf (config · = config (init conf)) _ _ hsame hconfig
  · intro app hconfig frame
    exact config_stageStep.trans hconfig
  · intro app hconfig frame hframe frame' hframe' hne
    exact stageStep_comm_of_proto hconfig (hgroup frame hframe) (hgroup frame' hframe') hne

lemma filter_flatMap_stageOrder (bursts : List (List RxFrame)) (proto : BusProto) :
    (bursts.flatMap stageOrder).filter (protoOf · = proto) =
      bursts.flatten.filter (protoOf · = proto) := by
  induction bursts with
  | nil => rfl
  | cons burst bursts ih =>
    rw [List.flatMap_cons, List.flatten_cons, List.filter_append, List.filter_append,
      filter_stageOrder, ih]

lemma runBursts_in_order (hgroup : ∀ frame ∈ bursts.flatten, GoesToGroup frame) :
    runBursts fuel crypto (init conf) bursts =
      bursts.flatten.foldl (stageStep fuel crypto) (init conf) := by
  rw [runBursts_eq_foldl]
  symm
  apply foldl_stageStep_of_protos (show config (init conf) = config (init conf) from rfl) hgroup
  intro proto
  exact (filter_flatMap_stageOrder bursts proto).symm

/-- The pipeline leaves the same behind as a receiver that takes one frame after the other: the
state of every source and every counter, however the frames are split into bursts. -/
theorem pipeline_in_order (fuel : ℕ) (crypto : Crypto) (conf : RxConfig)
    (bursts : List (List RxFrame)) (hgroup : ∀ frame ∈ bursts.flatten, GoesToGroup frame) :
    runBursts fuel crypto (init conf) bursts =
      bursts.flatten.foldl (stageStep fuel crypto) (init conf) :=
  runBursts_in_order hgroup

/-- A routable frame and an L2 frame in one burst, and another L2 frame in the next. -/
theorem pipeline_in_order_sample :
    let app := init { m_confRGooseNum := 1, m_confSV80Num := 1, m_gooseEntries := 1 }
    let bursts := [[sampleRGooseRx 0 1 3, sampleSvRx 0 1], [sampleSvRx 0 2]]
    runBursts 100 sampleCrypto app bursts =
        bursts.flatten.foldl (stageStep 100 sampleCrypto) app ∧
      (runBursts 100 sampleCrypto app bursts).gooseSources.map (·.m_stNum) = [3] ∧
      (runBursts 100 sampleCrypto app bursts).svSources.map (·.m_smpCnt) = [2] := by
  refine ⟨pipeline_in_order 100 sampleCrypto _ _ ?_, ?_, ?_⟩
  · decide +kernel
  · decide +kernel
  · decide +kernel

end Runs

end ProcessBus
