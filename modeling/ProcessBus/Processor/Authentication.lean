import ProcessBus.Common.Session.RoundTrip
import ProcessBus.Parser.Identity
import ProcessBus.Parser.Routable.Unwrap
import ProcessBus.Parser.Sv.Correctness
import ProcessBus.Processor.Pipeline

/-!
# Only authenticated frames reach a stream

With a security mode set, a routable frame gets to its source only behind `unseal`. The L2 stages
feed the same containers without any authentication, but the passport of an L2 frame has no
destination group, so it never equals that of a routable stream. What a run of the pipeline makes
of the sources is therefore a fold over the frames that `unseal` let through, however they were
split into bursts.
-/

namespace ProcessBus

open RSess

/-! ### The sources as the stages see them -/

/-- All a GOOSE stage reads and writes, the statistics apart. -/
def gooseView (app : RxApplication) : SecurityMode × GooseContainer × List GooseSource :=
  (app.m_rMode, app.m_gooseMap, app.gooseSources)

/-- All an SV stage reads and writes, the statistics apart. -/
def svView (app : RxApplication) : SecurityMode × SVContainer × List SVStreamSource :=
  (app.m_rMode, app.m_svMap, app.svSources)

/-- No stream is registered with the destination 0.0.0.0. -/
def RxApplication.OnlyRoutable (app : RxApplication) : Prop :=
  (∀ entry ∈ app.m_gooseMap.m_values, entry.1.dstIP ≠ 0) ∧
    ∀ entry ∈ app.m_svMap.m_values, entry.1.dstIP ≠ 0

lemma RxApplication.OnlyRoutable.of_config {app app' : RxApplication} (h : app.OnlyRoutable)
    (hconf : config app' = config app) : app'.OnlyRoutable := by
  obtain ⟨_, hmaps⟩ := Prod.ext_iff.mp hconf
  obtain ⟨hgoose, hsv⟩ := Prod.ext_iff.mp hmaps
  have hgoose : app'.m_gooseMap = app.m_gooseMap := hgoose
  have hsv : app'.m_svMap = app.m_svMap := hsv
  unfold RxApplication.OnlyRoutable
  rw [hgoose, hsv]
  exact h

section Lookup

variable {K V : Type} [HasAppId K] [BEq K] {c : AppIdContainer K V} {key : K} {v : V}

/-- What is found stands under an equal key. -/
lemma AppIdContainer.mem_of_lookup (h : c.lookup key = some v) :
    ∃ entry ∈ c.m_values, (entry.1 == key) = true ∧ entry.2 = v := by
  unfold AppIdContainer.lookup AppIdContainer.find at h
  cases hget : c.m_values[c.m_register (HasAppId.appid key)]? with
  | none => simp [hget] at h
  | some entry =>
    by_cases hkey : (entry.1 == key) = true
    · refine ⟨entry, List.mem_of_getElem? hget, hkey, ?_⟩
      simpa [hget, hkey] using h
    · simp [hget, hkey] at h

end Lookup

lemma GoosePassport.dstIP_eq_of_beq {l r : GoosePassport} (h : (l == r) = true) :
    l.dstIP = r.dstIP := by
  obtain ⟨_, _, hdstIP, _⟩ := GoosePassport.beq_iff.mp h
  exact hdstIP

lemma SVStreamPassport.dstIP_eq_of_beq {l r : SVStreamPassport} (h : (l == r) = true) :
    l.dstIP = r.dstIP := by
  obtain ⟨_, _, _, _, hdstIP, _⟩ := SVStreamPassport.beq_iff.mp h
  exact hdstIP

section Views

variable {fuel : ℕ} {crypto : Crypto} {app : RxApplication} {frame : RxFrame}

@[simp] lemma svView_takeGoose {pass : GoosePassport} {take : GooseSource → GooseSource} :
    svView (app.takeGoose pass take) = svView app := by
  unfold RxApplication.takeGoose
  split <;> rfl

@[simp] lemma gooseView_takeSV {pass : SVStreamPassport} {take : SVStreamSource → SVStreamSource} :
    gooseView (app.takeSV pass take) = gooseView app := by
  unfold RxApplication.takeSV
  split <;> rfl

/-- A passport without destination group is not found among routable streams. -/
lemma gooseView_takeGoose {pass : GoosePassport} {take : GooseSource → GooseSource}
    (h : ∀ entry ∈ app.m_gooseMap.m_values, entry.1.dstIP ≠ 0) (hpass : pass.dstIP = 0) :
    gooseView (app.takeGoose pass take) = gooseView app := by
  unfold RxApplication.takeGoose
  cases hsrc : app.m_gooseMap.lookup pass with
  | none => rfl
  | some src =>
    obtain ⟨entry, hmem, hkey, _⟩ := AppIdContainer.mem_of_lookup hsrc
    exact absurd ((GoosePassport.dstIP_eq_of_beq hkey).trans hpass) (h entry hmem)

lemma svView_takeSV {pass : SVStreamPassport} {take : SVStreamSource → SVStreamSource}
    (h : ∀ entry ∈ app.m_svMap.m_values, entry.1.dstIP ≠ 0) (hpass : pass.dstIP = 0) :
    svView (app.takeSV pass take) = svView app := by
  unfold RxApplication.takeSV
  cases hsrc : app.m_svMap.lookup pass with
  | none => rfl
  | some src =>
    obtain ⟨entry, hmem, hkey, _⟩ := AppIdContainer.mem_of_lookup hsrc
    exact absurd ((SVStreamPassport.dstIP_eq_of_beq hkey).trans hpass) (h entry hmem)

/-! ### One frame -/

lemma svView_gooseStage : svView (gooseStage fuel app frame) = svView app := by
  unfold gooseStage
  split
  · rfl
  · split_ifs
    · exact svView_takeGoose
    · rfl

lemma gooseView_sampledValuesStage :
    gooseView (sampledValuesStage fuel app frame) = gooseView app := by
  unfold sampledValuesStage
  split
  · rfl
  · split_ifs
    · exact gooseView_takeSV
    · rfl

/-- An L2 frame does not get to the source of a routable stream. -/
lemma gooseView_gooseStage (h : ∀ entry ∈ app.m_gooseMap.m_values, entry.1.dstIP ≠ 0) :
    gooseView (gooseStage fuel app frame) = gooseView app := by
  unfold gooseStage
  split
  · rfl
  · next r hr =>
    split_ifs with hcode
    · obtain ⟨_, _, haddr⟩ := addresses_parseGoosePacket hr hcode
      exact gooseView_takeGoose h (congrArg (·.2.2) haddr)
    · rfl

lemma svView_sampledValuesStage (h : ∀ entry ∈ app.m_svMap.m_values, entry.1.dstIP ≠ 0) :
    svView (sampledValuesStage fuel app frame) = svView app := by
  unfold sampledValuesStage
  split
  · rfl
  · next r hr =>
    split_ifs with hcode
    · obtain ⟨_, _, haddr⟩ := addresses_parseSvPacket hr hcode
      exact svView_takeSV h (congrArg (·.2.2) haddr)
    · rfl

lemma svView_rGooseStage : svView (rGooseStage fuel crypto app frame) = svView app := by
  unfold rGooseStage
  split_ifs
  · rfl
  · split
    · rfl
    · split_ifs
      · exact svView_takeGoose
      · rfl
      · rfl

lemma gooseView_rSampledValuesStage :
    gooseView (rSampledValuesStage fuel crypto app frame) = gooseView app := by
  unfold rSampledValuesStage
  split_ifs
  · rfl
  · split
    · rfl
    · split_ifs
      · exact gooseView_takeSV
      · rfl
      · rfl

variable (fuel crypto) in
/-- What `RGooseStage` makes of the GOOSE sources. -/
def rGooseUpdate (v : SecurityMode × GooseContainer × List GooseSource) (frame : RxFrame) :
    SecurityMode × GooseContainer × List GooseSource :=
  gooseView (rGooseStage fuel crypto
    { m_rMode := v.1, m_gooseMap := v.2.1, gooseSources := v.2.2 } frame)

variable (fuel crypto) in
/-- What `RSampledValuesStage` makes of the SV sources. -/
def rSvUpdate (v : SecurityMode × SVContainer × List SVStreamSource) (frame : RxFrame) :
    SecurityMode × SVContainer × List SVStreamSource :=
  svView (rSampledValuesStage fuel crypto
    { m_rMode := v.1, m_svMap := v.2.1, svSources := v.2.2 } frame)

lemma gooseView_rGooseStage : gooseView (rGooseStage fuel crypto app frame) =
    rGooseUpdate fuel crypto (gooseView app) frame := by
  unfold rGooseUpdate rGooseStage gooseView
  dsimp only
  split_ifs
  · rfl
  · cases (parseRGoosePacket fuel frame.packet frame.size app.m_rMode crypto {} {} {}).val with
    | none => rfl
    | some r =>
      dsimp only
      split_ifs
      · unfold RxApplication.takeGoose
        dsimp only
        split <;> rfl
      · rfl
      · rfl

lemma svView_rSampledValuesStage : svView (rSampledValuesStage fuel crypto app frame) =
    rSvUpdate fuel crypto (svView app) frame := by
  unfold rSvUpdate rSampledValuesStage svView
  dsimp only
  split_ifs
  · rfl
  · cases (parseRSvPacket fuel frame.packet frame.size app.m_rMode crypto {} {} {}).val with
    | none => rfl
    | some r =>
      dsimp only
      split_ifs
      · unfold RxApplication.takeSV
        dsimp only
        split <;> rfl
      · rfl
      · rfl

lemma mode_rGooseUpdate (v : SecurityMode × GooseContainer × List GooseSource) :
    (rGooseUpdate fuel crypto v frame).1 = v.1 :=
  (Prod.ext_iff.mp config_rGooseStage).1

lemma mode_rSvUpdate (v : SecurityMode × SVContainer × List SVStreamSource) :
    (rSvUpdate fuel crypto v frame).1 = v.1 :=
  (Prod.ext_iff.mp config_rSampledValuesStage).1

end Views

/-! ### Authenticated frames -/

section Authentic

variable (mode : SecurityMode) (crypto : Crypto) (frame : RxFrame)

/-- A frame with session identifier `si` gets as far as `unseal`, and `unseal` returns true. -/
@[mk_iff]
structure Unseals (si : UInt8) : Prop where
  envelope : (envelope frame).1 = R_ENV_OK
  fits : SessionFits frame.packet frame.size
  si : (sessionAt (udpAt frame.packet)).si = si
  auth : (unsealFrame (udpAt frame.packet) (udpSizeAt frame.packet) mode
    (sessionAt (udpAt frame.packet)) crypto).val.1 = true

/-- A routable frame for which `unseal` returns true. -/
def Authentic : Prop :=
  (protoOf frame = .BUS_PROTO_R_GOOSE ∧ Unseals mode crypto frame SI_R_GOOSE) ∨
    (protoOf frame = .BUS_PROTO_R_SV ∧ Unseals mode crypto frame SI_R_SV)

instance (si : UInt8) : Decidable (Unseals mode crypto frame si) :=
  decidable_of_iff' _ (unseals_iff mode crypto frame si)

instance : Decidable (Authentic mode crypto frame) :=
  inferInstanceAs (Decidable (_ ∨ _))

variable {mode crypto frame}

/-- What does not unseal is not unwrapped. -/
lemma unwrapRFrame_of_not_unseals {si : UInt8} (type : UInt8) (session : SessionHeader)
    (hmode : mode ≠ .SEC_NONE) (henv : (envelope frame).1 = R_ENV_OK)
    (h : ¬ Unseals mode crypto frame si) :
    (unwrapRFrame frame.packet frame.size si type mode crypto session).val.code < 0 := by
  refine (unwrapRFrame_spec frame.packet frame.size mode crypto si type session).bad fun ok => ?_
  have hauth := ok.auth
  rw [unsealed, unsealUnlessNone, if_pos hmode] at hauth
  exact h ⟨henv, ok.fits, ok.si, hauth⟩

variable {fuel : ℕ}

/-- A frame that does not unseal has no effect in `RGooseStage`. -/
lemma rGooseUpdate_of_not_unseals {v : SecurityMode × GooseContainer × List GooseSource}
    (hmode : v.1 ≠ .SEC_NONE) (h : ¬ Unseals v.1 crypto frame SI_R_GOOSE) :
    rGooseUpdate fuel crypto v frame = v := by
  unfold rGooseUpdate rGooseStage
  split_ifs with henv
  · rfl
  have hcode := unwrapRFrame_of_not_unseals PAYLOAD_TYPE_GOOSE {} hmode (not_not.mp henv) h
  simp only [parseRGoosePacket, Traced.val_bind]
  rw [if_pos hcode]
  simp only [Traced.val_pure]
  rw [if_neg hcode.ne]
  split_ifs <;> rfl

lemma rSvUpdate_of_not_unseals {v : SecurityMode × SVContainer × List SVStreamSource}
    (hmode : v.1 ≠ .SEC_NONE) (h : ¬ Unseals v.1 crypto frame SI_R_SV) :
    rSvUpdate fuel crypto v frame = v := by
  unfold rSvUpdate rSampledValuesStage
  split_ifs with henv
  · rfl
  have hcode := unwrapRFrame_of_not_unseals PAYLOAD_TYPE_SV {} hmode (not_not.mp henv) h
  simp only [parseRSvPacket, Traced.val_bind]
  rw [if_pos hcode]
  simp only [Traced.val_pure]
  rw [if_neg hcode.ne]
  split_ifs <;> rfl

end Authentic

/-! ### Bursts -/

section Bursts

variable {fuel : ℕ} {crypto : Crypto} {app : RxApplication}

lemma queue_append (l l' : List RxFrame) (proto : BusProto) :
    queue (l ++ l') proto = queue l proto ++ queue l' proto :=
  List.filter_append ..

/-- Of a burst the GOOSE sources only see the routable GOOSE frames. -/
lemma gooseView_runBurst (h : ∀ entry ∈ app.m_gooseMap.m_values, entry.1.dstIP ≠ 0)
    (burst : List RxFrame) :
    gooseView (runBurst fuel crypto app burst) =
      (queue burst .BUS_PROTO_R_GOOSE).foldl (rGooseUpdate fuel crypto) (gooseView app) := by
  let goose := (queue burst .BUS_PROTO_GOOSE).foldl (gooseStage fuel) app
  let sv := (queue burst .BUS_PROTO_SV).foldl (sampledValuesStage fuel) goose
  let rGoose := (queue burst .BUS_PROTO_R_GOOSE).foldl (rGooseStage fuel crypto) sv
  have hgoose : gooseView goose = gooseView app := by
    refine Fold.view_foldl_of_fixed _ (fun s hs frame => ?_) rfl
    have hmap : s.m_gooseMap = app.m_gooseMap := congrArg (·.2.1) hs
    rw [gooseView_gooseStage (hmap ▸ h), hs]
  have hsv : gooseView sv = gooseView goose :=
    Fold.view_foldl_of_fixed _ (fun s hs _ => gooseView_sampledValuesStage.trans hs) rfl
  have hrGoose : gooseView rGoose =
      (queue burst .BUS_PROTO_R_GOOSE).foldl (rGooseUpdate fuel crypto) (gooseView sv) :=
    (List.foldl_hom gooseView fun _ _ => gooseView_rGooseStage.symm).symm
  calc gooseView (runBurst fuel crypto app burst)
      = gooseView rGoose :=
        (Fold.view_foldl_of_fixed _ (fun s hs _ => gooseView_rSampledValuesStage.trans hs) rfl :
          gooseView (List.foldl (rSampledValuesStage fuel crypto) rGoose _) = _)
    _ = _ := by rw [hrGoose, hsv, hgoose]

/-- Of a burst the SV sources only see the routable SV frames. -/
lemma svView_runBurst (h : ∀ entry ∈ app.m_svMap.m_values, entry.1.dstIP ≠ 0)
    (burst : List RxFrame) :
    svView (runBurst fuel crypto app burst) =
      (queue burst .BUS_PROTO_R_SV).foldl (rSvUpdate fuel crypto) (svView app) := by
  let goose := (queue burst .BUS_PROTO_GOOSE).foldl (gooseStage fuel) app
  let sv := (queue burst .BUS_PROTO_SV).foldl (sampledValuesStage fuel) goose
  let rGoose := (queue burst .BUS_PROTO_R_GOOSE).foldl (rGooseStage fuel crypto) sv
  have hgoose : svView goose = svView app :=
    Fold.view_foldl_of_fixed _ (fun s hs _ => svView_gooseStage.trans hs) rfl
  have hsv : svView sv = svView goose := by
    refine Fold.view_foldl_of_fixed _ (fun s hs frame => ?_) rfl
    have hmap : s.m_svMap = app.m_svMap := congrArg (·.2.1) (hs.trans hgoose)
    rw [svView_sampledValuesStage (hmap ▸ h), hs]
  have hrGoose : svView rGoose = svView sv :=
    Fold.view_foldl_of_fixed _ (fun s hs _ => svView_rGooseStage.trans hs) rfl
  calc svView (runBurst fuel crypto app burst)
      = (queue burst .BUS_PROTO_R_SV).foldl (rSvUpdate fuel crypto) (svView rGoose) :=
        (List.foldl_hom svView fun _ _ => svView_rSampledValuesStage.symm).symm
    _ = _ := by rw [hrGoose, hsv, hgoose]

lemma gooseView_runBursts (h : app.OnlyRoutable) (bursts : List (List RxFrame)) :
    gooseView (runBursts fuel crypto app bursts) =
      (queue bursts.flatten .BUS_PROTO_R_GOOSE).foldl (rGooseUpdate fuel crypto)
        (gooseView app) := by
  induction bursts generalizing app with
  | nil => rfl
  | cons burst bursts ih =>
    rw [List.flatten_cons, queue_append, List.foldl_append, ← gooseView_runBurst h.1 burst]
    exact ih (h.of_config config_runBurst)

lemma svView_runBursts (h : app.OnlyRoutable) (bursts : List (List RxFrame)) :
    svView (runBursts fuel crypto app bursts) =
      (queue bursts.flatten .BUS_PROTO_R_SV).foldl (rSvUpdate fuel crypto) (svView app) := by
  induction bursts generalizing app with
  | nil => rfl
  | cons burst bursts ih =>
    rw [List.flatten_cons, queue_append, List.foldl_append, ← svView_runBurst h.2 burst]
    exact ih (h.of_config config_runBurst)

/-- Leaving the frames out that are not authentic leaves fewer frames in every queue. -/
lemma queue_filter (p : RxFrame → Bool) (l : List RxFrame) (proto : BusProto) :
    queue (l.filter p) proto = (queue l proto).filter p :=
  List.filter_comm ..

/-- The GOOSE sources only see authenticated frames. -/
lemma gooseView_authentic (hmode : app.m_rMode ≠ .SEC_NONE) (h : app.OnlyRoutable)
    {bursts bursts' : List (List RxFrame)}
    (hauth : bursts'.flatten =
      bursts.flatten.filter fun frame => Authentic app.m_rMode crypto frame) :
    gooseView (runBursts fuel crypto app bursts') =
      gooseView (runBursts fuel crypto app bursts) := by
  rw [gooseView_runBursts h, gooseView_runBursts h, hauth, queue_filter]
  refine Fold.foldl_filter_of_fixed (fun v => v.1 = app.m_rMode)
    (fun v hv _ => (mode_rGooseUpdate v).trans hv) (fun v hv frame hmem hno => ?_) rfl
  have hproto := of_decide_eq_true (List.mem_filter.mp hmem).2
  exact rGooseUpdate_of_not_unseals (hv ▸ hmode) fun hun =>
    of_decide_eq_false hno (.inl ⟨hproto, hv ▸ hun⟩)

/-- The SV sources only see authenticated frames. -/
lemma svView_authentic (hmode : app.m_rMode ≠ .SEC_NONE) (h : app.OnlyRoutable)
    {bursts bursts' : List (List RxFrame)}
    (hauth : bursts'.flatten =
      bursts.flatten.filter fun frame => Authentic app.m_rMode crypto frame) :
    svView (runBursts fuel crypto app bursts') = svView (runBursts fuel crypto app bursts) := by
  rw [svView_runBursts h, svView_runBursts h, hauth, queue_filter]
  refine Fold.foldl_filter_of_fixed (fun v => v.1 = app.m_rMode)
    (fun v hv _ => (mode_rSvUpdate v).trans hv) (fun v hv frame hmem hno => ?_) rfl
  have hproto := of_decide_eq_true (List.mem_filter.mp hmem).2
  exact rSvUpdate_of_not_unseals (hv ▸ hmode) fun hun =>
    of_decide_eq_false hno (.inr ⟨hproto, hv ▸ hun⟩)

/-- Unauthenticated frames have no influence on a stream: in a secure mode and with routable
streams only, the sources end up as if only those frames had come in that `unseal` let through. -/
theorem unauthenticated_frames_have_no_influence (fuel : ℕ) (crypto : Crypto) (app : RxApplication)
    (hmode : app.m_rMode ≠ .SEC_NONE) (hroutable : app.OnlyRoutable)
    (bursts bursts' : List (List RxFrame))
    (hauth : bursts'.flatten =
      bursts.flatten.filter fun frame => Authentic app.m_rMode crypto frame) :
    (runBursts fuel crypto app bursts).gooseSources =
        (runBursts fuel crypto app bursts').gooseSources ∧
      (runBursts fuel crypto app bursts).svSources =
        (runBursts fuel crypto app bursts').svSources :=
  ⟨(congrArg (·.2.2) (gooseView_authentic hmode hroutable hauth)).symm,
    (congrArg (·.2.2) (svView_authentic hmode hroutable hauth)).symm⟩

/-- One R-GOOSE stream, in mode `SEC_GCM`. -/
def sampleApplication : RxApplication where
  m_rMode := .SEC_GCM
  m_gooseMap := ({} : GooseContainer).assign { appid := 1, dstIP := 0xE0000101 } 0
  gooseSources := [{ m_appid := 1, m_dstIP := 0xE0000101 }]

/-- The sample session PDU of `RSess` in an R-GOOSE frame. -/
def sampleRFrame : RxFrame where
  mem := (Ptr.ofBytes ([0x01, 0, 0x5E, 0, 0x01, 0x01, 2, 0, 0, 0, 0, 1, 0x08, 0,
    0x45, 0, 0, 98, 0, 0, 0x40, 0, 64, 17, 0, 0, 10, 0, 0, 1, 224, 0, 1, 1,
    0, 1, 0, 102, 0, 78, 0, 0] ++ sampleFrame.mem.slice 0 70)).mem
  pktLen := 112
  olFlags := 0x80

/-- The same frame with one bit of its tag flipped. -/
def forgedRFrame : RxFrame :=
  { sampleRFrame with mem := fun i => if i = 111 then 0x2E else sampleRFrame.mem i }

theorem forgedRFrame_has_no_influence :
    sampleApplication.m_rMode ≠ .SEC_NONE ∧ sampleApplication.OnlyRoutable ∧
      (runBursts 100 sampleCrypto sampleApplication
        [[forgedRFrame, sampleRFrame], [forgedRFrame]]).gooseSources =
      (runBursts 100 sampleCrypto sampleApplication [[sampleRFrame]]).gooseSources := by
  have hmode : sampleApplication.m_rMode ≠ .SEC_NONE := by decide
  have hroutable : sampleApplication.OnlyRoutable := by
    refine ⟨fun entry h => ?_, fun _ h => absurd h List.not_mem_nil⟩
    obtain rfl := List.mem_singleton.mp h
    exact show (0xE0000101 : UInt32) ≠ 0 by decide
  have hsample : Authentic .SEC_GCM sampleCrypto sampleRFrame := by decide +kernel
  have hforged : ¬ Authentic .SEC_GCM sampleCrypto forgedRFrame := by decide +kernel
  refine ⟨hmode, hroutable, ?_⟩
  refine (unauthenticated_frames_have_no_influence 100 sampleCrypto sampleApplication hmode
    hroutable [[forgedRFrame, sampleRFrame], [forgedRFrame]] [[sampleRFrame]] ?_).1
  have hgcm : sampleApplication.m_rMode = .SEC_GCM := rfl
  simp [hgcm, hsample, hforged]

end Bursts

end ProcessBus
