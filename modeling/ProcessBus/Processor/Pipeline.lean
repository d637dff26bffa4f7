import ProcessBus.Lib.Fold
import ProcessBus.Parser.Routable.Basic

/-!
# The frame pipeline

`pipeline_pbus.hpp`: a burst of frames goes through six stages. The router sorts the frames into
one queue for each protocol; every other stage works off its queue in order. The L2 and the
routable stages of a protocol share one APPID container and hence the sources in it.

A parser call that does not return has no effect on the application here; `fuel` bounds all of
them.
-/

namespace ProcessBus

open RSess

/-- A received `rte_mbuf`: its bytes, its length and the offload flags. -/
structure RxFrame where
  mem : Mem
  pktLen : UInt32
  olFlags : UInt64 := 0

namespace RxFrame

/-- `rte_pktmbuf_mtod`. -/
def packet (frame : RxFrame) : Ptr := ⟨frame.mem, 0⟩

/-- `rte_pktmbuf_pkt_len` as the parsers take it. -/
def size (frame : RxFrame) : Int32 := frame.pktLen.toInt32

end RxFrame

/-- `RX_Application`: the containers, the sources they point to, and the statistics. -/
structure RxApplication where
  m_rMode : SecurityMode := .SEC_NONE
  m_gooseMap : GooseContainer := {}
  m_svMap : SVContainer := {}
  gooseSources : List GooseSource := []
  svSources : List SVStreamSource := []
  m_rxGoosePktCnt : UInt64 := 0
  m_rxSVPktCnt : UInt64 := 0
  m_errGooseParserCnt : UInt64 := 0
  m_errSVParserCnt : UInt64 := 0
  m_rxUnknownGooseCnt : UInt64 := 0
  m_rxUnknownSVCnt : UInt64 := 0
  m_errAuthCnt : UInt64 := 0
  m_pktToKernelCnt : UInt64 := 0

namespace RxApplication

variable (app : RxApplication)

/-- Look a GOOSE stream up and let its source take the frame. -/
def takeGoose (pass : GoosePassport) (take : GooseSource → GooseSource) : RxApplication :=
  match app.m_gooseMap.lookup pass with
  | some src => { app with
      gooseSources := app.gooseSources.modify src take
      m_rxGoosePktCnt := app.m_rxGoosePktCnt + 1 }
  | none => { app with m_rxUnknownGooseCnt := app.m_rxUnknownGooseCnt + 1 }

/-- Look an SV stream up and let its source take the frame. -/
def takeSV (pass : SVStreamPassport) (take : SVStreamSource → SVStreamSource) : RxApplication :=
  match app.m_svMap.lookup pass with
  | some src => { app with
      svSources := app.svSources.modify src take
      m_rxSVPktCnt := app.m_rxSVPktCnt + 1 }
  | none => { app with m_rxUnknownSVCnt := app.m_rxUnknownSVCnt + 1 }

end RxApplication

variable (fuel : ℕ) (crypto : Crypto) (app : RxApplication) (frame : RxFrame)

/-- One frame in `GooseStage`. -/
def gooseStage : RxApplication :=
  match (parseGoosePacket fuel frame.packet frame.size {} {}).val with
  | none => app
  | some r =>
    if r.code = 0 then app.takeGoose r.passport (·.processState r.passport r.state)
    else { app with m_errGooseParserCnt := app.m_errGooseParserCnt + 1 }

/-- One frame in `SampledValuesStage`. -/
def sampledValuesStage : RxApplication :=
  match (parseSvPacket fuel frame.packet frame.size {} {}).val with
  | none => app
  | some r =>
    if r.code = 0 then app.takeSV r.passport (·.processState r.passport r.state)
    else { app with m_errSVParserCnt := app.m_errSVParserCnt + 1 }

/-- The envelope check of the routable stages. -/
def envelope : ℤ × UInt32 :=
  (validateREnvelope frame.packet frame.pktLen.toNat frame.olFlags 0).val

/-- One frame in `RGooseStage`. -/
def rGooseStage : RxApplication :=
  -- reject a broken IPv4/UDP envelope before any crypto or APDU work
  if (envelope frame).1 ≠ R_ENV_OK then
    { app with m_errGooseParserCnt := app.m_errGooseParserCnt + 1 }
  else
    match (parseRGoosePacket fuel frame.packet frame.size app.m_rMode crypto {} {} {}).val with
    | none => app
    | some (r, session) =>
      if r.code = 0 then
        let pass := { r.passport with dstIP := (envelope frame).2 }
        app.takeGoose pass fun src =>
          (src.processSessionState session.spduNumber).processState pass r.state
      else if r.code = R_PARSE_ERR_AUTH then
        { app with m_errAuthCnt := app.m_errAuthCnt + 1 }
      else
        { app with m_errGooseParserCnt := app.m_errGooseParserCnt + 1 }

/-- One frame in `RSampledValuesStage`. -/
def rSampledValuesStage : RxApplication :=
  if (envelope frame).1 ≠ R_ENV_OK then
    { app with m_errSVParserCnt := app.m_errSVParserCnt + 1 }
  else
    match (parseRSvPacket fuel frame.packet frame.size app.m_rMode crypto {} {} {}).val with
    | none => app
    | some (r, session) =>
      if r.code = 0 then
        let pass := { r.passport with dstIP := (envelope frame).2 }
        app.takeSV pass fun src =>
          (src.processSessionState session.spduNumber).processState pass r.state
      else if r.code = R_PARSE_ERR_AUTH then
        { app with m_errAuthCnt := app.m_errAuthCnt + 1 }
      else
        { app with m_errSVParserCnt := app.m_errSVParserCnt + 1 }

/-- Where `RouterStage` puts a frame. -/
def protoOf : BusProto := (getProtoType frame.packet 0 frame.pktLen.toNat).val.1

/-- The queue of one stage. -/
def queue (burst : List RxFrame) (proto : BusProto) : List RxFrame :=
  burst.filter fun frame => protoOf frame = proto

/-- `FramePipeline::run` on one burst. -/
def runBurst (burst : List RxFrame) : RxApplication :=
  let app := (queue burst .BUS_PROTO_GOOSE).foldl (gooseStage fuel) app
  let app := (queue burst .BUS_PROTO_SV).foldl (sampledValuesStage fuel) app
  let app := (queue burst .BUS_PROTO_R_GOOSE).foldl (rGooseStage fuel crypto) app
  let app := (queue burst .BUS_PROTO_R_SV).foldl (rSampledValuesStage fuel crypto) app
  { app with m_pktToKernelCnt :=
      app.m_pktToKernelCnt + UInt64.ofNat (queue burst .NON_BUS_PROTO).length }

/-- The main loop: one burst after the other. -/
def runBursts (bursts : List (List RxFrame)) : RxApplication :=
  bursts.foldl (runBurst fuel crypto) app

/-! ### The configuration stays as it is -/

/-- What is set up once: the security mode and the two containers. -/
def config : SecurityMode × GooseContainer × SVContainer :=
  (app.m_rMode, app.m_gooseMap, app.m_svMap)

variable {fuel crypto app frame}

@[simp] lemma config_takeGoose {pass : GoosePassport} {take : GooseSource → GooseSource} :
    config (app.takeGoose pass take) = config app := by
  unfold RxApplication.takeGoose
  split <;> rfl

@[simp] lemma config_takeSV {pass : SVStreamPassport} {take : SVStreamSource → SVStreamSource} :
    config (app.takeSV pass take) = config app := by
  unfold RxApplication.takeSV
  split <;> rfl

lemma config_gooseStage : config (gooseStage fuel app frame) = config app := by
  unfold gooseStage
  split
  · rfl
  · split_ifs
    · exact config_takeGoose
    · rfl

lemma config_sampledValuesStage : config (sampledValuesStage fuel app frame) = config app := by
  unfold sampledValuesStage
  split
  · rfl
  · split_ifs
    · exact config_takeSV
    · rfl

lemma config_rGooseStage : config (rGooseStage fuel crypto app frame) = config app := by
  unfold rGooseStage
  split_ifs
  · rfl
  · split
    · rfl
    · split_ifs
      · exact config_takeGoose
      · rfl
      · rfl

lemma config_rSampledValuesStage :
    config (rSampledValuesStage fuel crypto app frame) = config app := by
  unfold rSampledValuesStage
  split_ifs
  · rfl
  · split
    · rfl
    · split_ifs
      · exact config_takeSV
      · rfl
      · rfl

lemma config_runBurst {burst : List RxFrame} :
    config (runBurst fuel crypto app burst) = config app := by
  have hgoose : ∀ {l app}, config (List.foldl (gooseStage fuel) app l) = config app :=
    Fold.view_foldl_of_fixed _ (fun _ hs _ => config_gooseStage.trans hs) rfl
  have hsv : ∀ {l app}, config (List.foldl (sampledValuesStage fuel) app l) = config app :=
    Fold.view_foldl_of_fixed _ (fun _ hs _ => config_sampledValuesStage.trans hs) rfl
  have hrGoose : ∀ {l app}, config (List.foldl (rGooseStage fuel crypto) app l) = config app :=
    Fold.view_foldl_of_fixed _ (fun _ hs _ => config_rGooseStage.trans hs) rfl
  have hrSv : ∀ {l app},
      config (List.foldl (rSampledValuesStage fuel crypto) app l) = config app :=
    Fold.view_foldl_of_fixed _ (fun _ hs _ => config_rSampledValuesStage.trans hs) rfl
  exact hrSv.trans (hrGoose.trans (hsv.trans hgoose))

end ProcessBus
