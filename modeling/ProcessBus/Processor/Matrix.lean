import ProcessBus.Processor.Pipeline

/-!
# The matrix of stage buffers

`pipeline.hpp` and `single_core`: a received burst is an array of mbuf pointers. `RouterStage`
copies every pointer to the array of one of five stages, and each of these works its array off
and declares it empty. The arrays hold `RX_BURST_SIZE` pointers and are shared by all bursts.

What the parsers answer does not matter for the bookkeeping, so they are a parameter here, and so
is the state `χ` of the cryptographic backend they work with. The routable parsers may change the
frame: a payload is decrypted in place.
-/

namespace ProcessBus

open RSess

/-! ### Stages and their buffers -/

inductive EnumStages where
  | ROUTER | GOOSE | SV | R_GOOSE | R_SV | IP
  deriving DecidableEq

/-- The router is where a burst starts. -/
abbrev START_STAGE : EnumStages := .ROUTER

/-- `Pipeline::Frame`: an array of mbuf pointers and how many of them are in use. -/
structure StageFrame where
  buf : ℕ → ℕ := fun _ => 0
  num : ℕ := 0

namespace StageFrame

/-- The pointers in use. -/
def pointers (f : StageFrame) : List ℕ := (List.range f.num).map f.buf

/-- The frame after `PutBuffer(ptr)`. -/
def put (f : StageFrame) (ptr : ℕ) : StageFrame where
  buf := Function.update f.buf f.num ptr
  num := f.num + 1

@[simp] lemma length_pointers (f : StageFrame) : f.pointers.length = f.num := by
  simp [pointers]

@[simp] lemma pointers_put (f : StageFrame) (ptr : ℕ) :
    (f.put ptr).pointers = f.pointers ++ [ptr] := by
  have hold : (List.range f.num).map (Function.update f.buf f.num ptr) =
      (List.range f.num).map f.buf := by
    refine List.map_congr_left fun i hi => Function.update_of_ne ?_ _ _
    have := List.mem_range.mp hi
    omega
  simp only [pointers, put, List.range_succ, List.map_append, hold, List.map_singleton,
    Function.update_self]

end StageFrame

/-- What is observed of a run: a store to the array of a stage, or an mbuf given back. -/
inductive PoolEvent where
  | store (stage : EnumStages) (i : ℕ)
  | free (ptr : ℕ)

namespace PoolEvent

/-- If it is a store, it hits an array of `n` pointers. -/
def InBounds (n : ℕ) : PoolEvent → Prop
  | .store _ i => i < n
  | .free _ => True

/-- It is a store that hits an array of `n` pointers. -/
def StoresIn (n : ℕ) : PoolEvent → Prop
  | .store _ i => i < n
  | .free _ => False

/-- The mbufs that were given back, in order. -/
def freed (log : List PoolEvent) : List ℕ :=
  log.filterMap fun
    | .store _ _ => none
    | .free ptr => some ptr

end PoolEvent

/-- `DataMatrix`, with the mbufs its pointers refer to. -/
structure DataMatrix (χ : Type) where
  stages : EnumStages → StageFrame := fun _ => {}
  app : RxApplication
  crypto : χ
  mbufs : ℕ → RxFrame

namespace DataMatrix

variable {χ : Type} (m : DataMatrix χ) (stage : EnumStages)

/-- `matrix.stages[stage].PutBuffer(ptr)`. -/
def putBuffer (ptr : ℕ) : Traced PoolEvent (DataMatrix χ) := do
  Traced.emit (.store stage (m.stages stage).num)
  pure { m with stages := Function.update m.stages stage ((m.stages stage).put ptr) }

/-- Clean the frame for the next cycle. -/
def clean : DataMatrix χ :=
  { m with stages := Function.update m.stages stage { m.stages stage with num := 0 } }

/-- No stage has frames waiting. -/
def Empty : Prop := ∀ stage, (m.stages stage).num = 0

/-- Work the frames of a stage off, one after the other. -/
def eachFrame (work : DataMatrix χ → ℕ → DataMatrix χ) : Traced PoolEvent (DataMatrix χ) := do
  let m ← Loop.times (fun i m => pure (work m ((m.stages stage).buf i))) (m.stages stage).num m
  pure (m.clean stage)

end DataMatrix

/-! ### The stages -/

/-- What the parsers answer: the code they return and what they write to their output
arguments. The routable ones also leave the frame and the cryptographic state behind. -/
structure Parsers (χ : Type) where
  getProtoType : RxFrame → BusProto
  parseGoosePacket : RxFrame → ℤ × GoosePassport × GooseState
  parseSvPacket : RxFrame → ℤ × SVStreamPassport × SVStreamState
  validateREnvelope : RxFrame → ℤ × UInt32
  parseRGoosePacket : SecurityMode → χ → RxFrame →
    (ℤ × SessionHeader × GoosePassport × GooseState) × RxFrame × χ
  parseRSvPacket : SecurityMode → χ → RxFrame →
    (ℤ × SessionHeader × SVStreamPassport × SVStreamState) × RxFrame × χ

/-- The `switch` of the router. -/
def stageOf : BusProto → EnumStages
  | .BUS_PROTO_SV => .SV
  | .BUS_PROTO_GOOSE => .GOOSE
  | .BUS_PROTO_R_GOOSE => .R_GOOSE
  | .BUS_PROTO_R_SV => .R_SV
  | .NON_BUS_PROTO => .IP

namespace Parsers

variable {χ : Type} (parsers : Parsers χ) (m : DataMatrix χ) (ptr : ℕ)

/-- `RouterStage::ApplyTo`. -/
def routerStage : Traced PoolEvent (DataMatrix χ) := do
  let m ← Loop.times (fun i m =>
    let ptr := (m.stages .ROUTER).buf i
    m.putBuffer (stageOf (parsers.getProtoType (m.mbufs ptr))) ptr) (m.stages .ROUTER).num m
  pure (m.clean .ROUTER)

/-- One frame in `GooseStage`. -/
def onGoose : DataMatrix χ :=
  let (retval, pass, state) := parsers.parseGoosePacket (m.mbufs ptr)
  { m with app :=
      if retval = 0 then m.app.takeGoose pass (·.processState pass state)
      else { m.app with m_errGooseParserCnt := m.app.m_errGooseParserCnt + 1 } }

/-- One frame in `SampledValuesStage`. -/
def onSv : DataMatrix χ :=
  let (retval, pass, state) := parsers.parseSvPacket (m.mbufs ptr)
  { m with app :=
      if retval = 0 then m.app.takeSV pass (·.processState pass state)
      else { m.app with m_errSVParserCnt := m.app.m_errSVParserCnt + 1 } }

/-- One frame in `RGooseStage`. -/
def onRGoose : DataMatrix χ :=
  let (code, dstIP) := parsers.validateREnvelope (m.mbufs ptr)
  if code ≠ R_ENV_OK then
    { m with app := { m.app with m_errGooseParserCnt := m.app.m_errGooseParserCnt + 1 } }
  else
    let ((retval, session, pass, state), frame, crypto) :=
      parsers.parseRGoosePacket m.app.m_rMode m.crypto (m.mbufs ptr)
    { m with
      crypto := crypto
      mbufs := Function.update m.mbufs ptr frame
      app :=
        if retval = 0 then
          let pass := { pass with dstIP := dstIP }
          m.app.takeGoose pass fun src =>
            (src.processSessionState session.spduNumber).processState pass state
        else if retval = R_PARSE_ERR_AUTH then
          { m.app with m_errAuthCnt := m.app.m_errAuthCnt + 1 }
        else
          { m.app with m_errGooseParserCnt := m.app.m_errGooseParserCnt + 1 } }

/-- One frame in `RSampledValuesStage`. -/
def onRSv : DataMatrix χ :=
  let (code, dstIP) := parsers.validateREnvelope (m.mbufs ptr)
  if code ≠ R_ENV_OK then
    { m with app := { m.app with m_errSVParserCnt := m.app.m_errSVParserCnt + 1 } }
  else
    let ((retval, session, pass, state), frame, crypto) :=
      parsers.parseRSvPacket m.app.m_rMode m.crypto (m.mbufs ptr)
    { m with
      crypto := crypto
      mbufs := Function.update m.mbufs ptr frame
      app :=
        if retval = 0 then
          let pass := { pass with dstIP := dstIP }
          m.app.takeSV pass fun src =>
            (src.processSessionState session.spduNumber).processState pass state
        else if retval = R_PARSE_ERR_AUTH then
          { m.app with m_errAuthCnt := m.app.m_errAuthCnt + 1 }
        else
          { m.app with m_errSVParserCnt := m.app.m_errSVParserCnt + 1 } }

/-- `IPStage::ApplyTo`. -/
def ipStage : DataMatrix χ :=
  { m with app := { m.app with m_pktToKernelCnt :=
      m.app.m_pktToKernelCnt + UInt64.ofNat (m.stages .IP).num } }.clean .IP

/-- `FramePipeline::run`. -/
def run : Traced PoolEvent (DataMatrix χ) := do
  let m ← parsers.routerStage m
  let m ← m.eachFrame .GOOSE parsers.onGoose
  let m ← m.eachFrame .SV parsers.onSv
  let m ← m.eachFrame .R_GOOSE parsers.onRGoose
  let m ← m.eachFrame .R_SV parsers.onRSv
  pure (ipStage m)

end Parsers

/-! ### The main loop -/

namespace DataMatrix

variable {χ : Type} (m : DataMatrix χ)

/-- `rte_eth_rx_burst`: the received mbufs and their pointers, from the start of the array on. -/
def rxBurst (burst : List (ℕ × RxFrame)) : Traced PoolEvent (DataMatrix χ) :=
  Loop.times (fun i m => do
    Traced.emit (.store START_STAGE i)
    match burst[i]? with
    | none => pure m
    | some (ptr, frame) => pure { m with
        mbufs := Function.update m.mbufs ptr frame
        stages := Function.update m.stages START_STAGE { m.stages START_STAGE with
          buf := Function.update (m.stages START_STAGE).buf i ptr } }) burst.length m

/-- `matrix.stages[START_STAGE].num = rxNum`. -/
def startWith (rxNum : ℕ) : DataMatrix χ :=
  { m with
    stages := Function.update m.stages START_STAGE { m.stages START_STAGE with num := rxNum } }

/-- `rte_pktmbuf_free_bulk` of the first `n` pointers of the array the burst came in. -/
def freeBulk (n : ℕ) : Traced PoolEvent (DataMatrix χ) :=
  Loop.times (fun i m => do
    Traced.emit (.free ((m.stages START_STAGE).buf i))
    pure m) n m

/-- One pass of `single_core`: what was received goes through the pipeline and is freed. -/
def singleCoreRound (parsers : Parsers χ) (burst : List (ℕ × RxFrame)) :
    Traced PoolEvent (DataMatrix χ) := do
  let m ← m.rxBurst burst
  let rxNum := burst.length
  if rxNum > 0 then
    let m ← parsers.run (m.startWith rxNum)
    m.freeBulk rxNum
  else
    pure m

/-- `single_core`, as long as it receives these bursts. -/
def singleCore (parsers : Parsers χ) (m : DataMatrix χ) :
    List (List (ℕ × RxFrame)) → Traced PoolEvent (DataMatrix χ)
  | [] => pure m
  | burst :: bursts => do
    let m ← m.singleCoreRound parsers burst
    singleCore parsers m bursts

end DataMatrix

/-! ### What the loops do -/

variable {χ : Type} {parsers : Parsers χ} {m : DataMatrix χ} {n k : ℕ}

namespace Parsers

variable (parsers m) (ptr : ℕ)

@[simp] lemma stages_onGoose : (parsers.onGoose m ptr).stages = m.stages := rfl

@[simp] lemma stages_onSv : (parsers.onSv m ptr).stages = m.stages := rfl

@[simp] lemma stages_onRGoose : (parsers.onRGoose m ptr).stages = m.stages := by
  simp only [onRGoose]
  split_ifs <;> rfl

@[simp] lemma stages_onRSv : (parsers.onRSv m ptr).stages = m.stages := by
  simp only [onRSv]
  split_ifs <;> rfl

end Parsers

@[simp] lemma stages_clean_self {stage : EnumStages} :
    (m.clean stage).stages stage = { m.stages stage with num := 0 } := by
  simp [DataMatrix.clean]

@[simp] lemma stages_clean_of_ne {stage stage' : EnumStages} (h : stage' ≠ stage) :
    (m.clean stage).stages stage' = m.stages stage' := by
  simp [DataMatrix.clean, h]

lemma stageOf_ne_router (proto : BusProto) : stageOf proto ≠ .ROUTER := by
  cases proto <;> decide

/-- A loop over the frames of a stage is a fold over the pointers in its array. -/
lemma eachFrame_eq (stage : EnumStages) {work : DataMatrix χ → ℕ → DataMatrix χ}
    (hstages : ∀ m ptr, (work m ptr).stages = m.stages) {P : PoolEvent → Prop} :
    (m.eachFrame stage work).All P ∧
      (m.eachFrame stage work).val = ((m.stages stage).pointers.foldl work m).clean stage ∧
      ((m.stages stage).pointers.foldl work m).stages = m.stages := by
  have hloop := Loop.times_inv (P := P) (n := (m.stages stage).num) (s := m)
    (fun i m => pure (work m ((m.stages stage).buf i)))
    (fun i m' => m' = ((List.range i).map (m.stages stage).buf).foldl work m ∧
      m'.stages = m.stages) ⟨rfl, rfl⟩ ?_
  · obtain ⟨hall, heq, hst⟩ := hloop
    refine ⟨Traced.all_bind_of hall (Traced.all_pure _), ?_, ?_⟩
    · rw [DataMatrix.eachFrame, Traced.val_bind, Traced.val_pure, heq]
      rfl
    · rw [heq] at hst
      exact hst
  · rintro i _ m' ⟨heq, hst⟩
    refine ⟨Traced.all_pure _, ?_, ?_⟩
    · rw [List.range_succ, List.map_append, List.foldl_append, ← heq, Traced.val_pure, hst]
      rfl
    · rw [Traced.val_pure, hstages, hst]

/-- What the router puts in the array of a stage. -/
def routed (parsers : Parsers χ) (m : DataMatrix χ) (ptrs : List ℕ) (stage : EnumStages) :
    List ℕ :=
  ptrs.filter fun ptr => stageOf (parsers.getProtoType (m.mbufs ptr)) = stage

variable (parsers) in
/-- The router sorts the burst into the arrays of the stages and stores inside them. -/
lemma routerStage_spec (hempty : ∀ stage, stage ≠ .ROUTER → (m.stages stage).num = 0) :
    (parsers.routerStage m).All (PoolEvent.StoresIn (m.stages .ROUTER).num) ∧
      (parsers.routerStage m).val.app = m.app ∧
      (parsers.routerStage m).val.mbufs = m.mbufs ∧
      (parsers.routerStage m).val.crypto = m.crypto ∧
      (parsers.routerStage m).val.stages .ROUTER = { m.stages .ROUTER with num := 0 } ∧
      ∀ stage, stage ≠ .ROUTER → ((parsers.routerStage m).val.stages stage).pointers =
        routed parsers m (m.stages .ROUTER).pointers stage := by
  have hloop := Loop.times_inv (P := PoolEvent.StoresIn (m.stages .ROUTER).num)
    (n := (m.stages .ROUTER).num) (s := m)
    (fun i m => m.putBuffer
      (stageOf (parsers.getProtoType (m.mbufs ((m.stages .ROUTER).buf i))))
      ((m.stages .ROUTER).buf i))
    (fun i m' => (m'.app = m.app ∧ m'.mbufs = m.mbufs ∧ m'.crypto = m.crypto) ∧
      m'.stages .ROUTER = m.stages .ROUTER ∧ ∀ stage, stage ≠ .ROUTER →
        (m'.stages stage).pointers =
          routed parsers m ((List.range i).map (m.stages .ROUTER).buf) stage) ?_ ?_
  · obtain ⟨hall, ⟨happ, hmbufs, hcrypto⟩, hrouter, hrouted⟩ := hloop
    refine ⟨Traced.all_bind_of hall (Traced.all_pure _), happ, hmbufs, hcrypto, ?_, ?_⟩
    · exact stages_clean_self.trans (by rw [hrouter])
    · intro stage hne
      rw [← StageFrame.pointers] at hrouted
      rw [← hrouted stage hne]
      exact congrArg StageFrame.pointers (stages_clean_of_ne hne)
  · refine ⟨⟨rfl, rfl, rfl⟩, rfl, fun stage hne => ?_⟩
    rw [StageFrame.pointers, hempty stage hne]
    rfl
  · -- the array of the stage holds what was routed there, at most `i` pointers so far
    rintro i hi m' ⟨⟨happ, hmbufs, hcrypto⟩, hrouter, hrouted⟩
    rw [hmbufs, hrouter]
    have hne := stageOf_ne_router (parsers.getProtoType (m.mbufs ((m.stages .ROUTER).buf i)))
    generalize htarget : stageOf (parsers.getProtoType (m.mbufs ((m.stages .ROUTER).buf i))) =
      target at hne ⊢
    have hnum : (m'.stages target).num ≤ i := by
      have hle : (routed parsers m ((List.range i).map (m.stages .ROUTER).buf) target).length ≤
          ((List.range i).map (m.stages .ROUTER).buf).length := List.length_filter_le _ _
      rw [← hrouted target hne, StageFrame.length_pointers] at hle
      simpa using hle
    refine ⟨Traced.all_bind_of ((Traced.all_emit _).mpr ?_) (Traced.all_pure _),
      ⟨happ, hmbufs, hcrypto⟩, ?_, fun stage hstage => ?_⟩
    · exact lt_of_le_of_lt hnum hi
    · exact (Function.update_of_ne (Ne.symm hne) _ _).trans hrouter
    · simp only [DataMatrix.putBuffer, Traced.val_bind, Traced.val_pure]
      rw [List.range_succ, List.map_append, routed, List.filter_append, ← routed,
        ← hrouted stage hstage]
      by_cases heq : stage = target
      · subst heq
        simp [htarget]
      · have htarget' : ¬ target = stage := fun h => heq h.symm
        simp [heq, htarget, htarget']

namespace PoolEvent

lemma StoresIn.mono {e : PoolEvent} (h : e.StoresIn k) (hkn : k ≤ n) : e.InBounds n := by
  cases e with
  | store stage i => exact lt_of_lt_of_le h hkn
  | free ptr => trivial

/-- Where nothing but stores happens, nothing is freed. -/
lemma freed_of_stores {α : Type} {x : Traced PoolEvent α} (h : x.All (StoresIn n)) :
    freed x.log = [] := by
  refine List.filterMap_eq_nil_iff.mpr fun e he => ?_
  cases e with
  | store stage i => rfl
  | free ptr => exact absurd (h _ he) id

lemma freed_bind {α β : Type} (x : Traced PoolEvent α) (f : α → Traced PoolEvent β) :
    freed (x >>= f).log = freed x.log ++ freed (f x.val).log :=
  List.filterMap_append

end PoolEvent

@[simp] lemma stages_startWith_router :
    (m.startWith n).stages .ROUTER = { m.stages .ROUTER with num := n } := by
  simp [DataMatrix.startWith]

@[simp] lemma stages_startWith_of_ne {stage : EnumStages} (h : stage ≠ .ROUTER) :
    (m.startWith n).stages stage = m.stages stage := by
  simp [DataMatrix.startWith, h]

/-- The burst arrives in the array of the first stage; the counters and the other arrays stay. -/
lemma rxBurst_spec (burst : List (ℕ × RxFrame)) :
    (m.rxBurst burst).All (PoolEvent.StoresIn burst.length) ∧
      (m.rxBurst burst).val.app = m.app ∧
      (∀ stage, ((m.rxBurst burst).val.stages stage).num = (m.stages stage).num) ∧
      ∀ i (hi : i < burst.length),
        ((m.rxBurst burst).val.stages .ROUTER).buf i = (burst[i]).1 := by
  have hloop := Loop.times_inv (P := PoolEvent.StoresIn burst.length) (n := burst.length) (s := m)
    (fun i m => do
      Traced.emit (.store START_STAGE i)
      match burst[i]? with
      | none => pure m
      | some (ptr, frame) => pure { m with
          mbufs := Function.update m.mbufs ptr frame
          stages := Function.update m.stages START_STAGE { m.stages START_STAGE with
            buf := Function.update (m.stages START_STAGE).buf i ptr } })
    (fun k m' => m'.app = m.app ∧ (∀ stage, (m'.stages stage).num = (m.stages stage).num) ∧
      ∀ i (hi : i < burst.length), i < k → (m'.stages .ROUTER).buf i = (burst[i]).1)
    ⟨rfl, fun _ => rfl, fun i _ hi => absurd hi (Nat.not_lt_zero i)⟩ ?_
  · obtain ⟨hall, happ, hnum, hbuf⟩ := hloop
    exact ⟨hall, happ, hnum, fun i hi => hbuf i hi hi⟩
  · rintro k hk m' ⟨happ, hnum, hbuf⟩
    rw [List.getElem?_eq_getElem hk]
    refine ⟨Traced.all_bind_of ((Traced.all_emit _).mpr hk) (Traced.all_pure _), happ, ?_, ?_⟩
    · intro stage
      by_cases hstage : stage = .ROUTER
      · subst hstage
        simpa using hnum .ROUTER
      · simpa [hstage] using hnum stage
    · intro i hi hik
      simp only [Traced.val_bind, Traced.val_pure, Function.update_self]
      rcases Nat.lt_succ_iff_lt_or_eq.mp hik with hlt | rfl
      · rw [Function.update_of_ne (by omega), hbuf i hi hlt]
      · rw [Function.update_self]

/-- The first `n` pointers of the array are given back, each once. -/
lemma freeBulk_spec : (m.freeBulk n).All (PoolEvent.InBounds k) ∧ (m.freeBulk n).val = m ∧
    PoolEvent.freed (m.freeBulk n).log = (List.range n).map (m.stages .ROUTER).buf := by
  unfold DataMatrix.freeBulk
  induction n with
  | zero => exact ⟨Traced.all_pure _, rfl, rfl⟩
  | succ n ih =>
    obtain ⟨hall, hval, hfreed⟩ := ih
    simp only [Loop.times]
    refine ⟨Traced.all_bind_of hall ?_, ?_, ?_⟩
    · exact Traced.all_bind_of ((Traced.all_emit _).mpr trivial) (Traced.all_pure _)
    · exact hval
    · rw [PoolEvent.freed_bind, hfreed, hval, List.range_succ, List.map_append]
      rfl

/-! ### The matrix runs the pipeline

With the parsers of this development, what a run of the matrix does to the application is what
`runBurst` says, provided that the parsers return and that no two pointers of a burst are the
same. -/

/-- The parsers, where they return. -/
def modelParsers (fuel : ℕ) : Parsers Crypto where
  getProtoType := protoOf
  parseGoosePacket frame :=
    match (parseGoosePacket fuel frame.packet frame.size {} {}).val with
    | none => (-1, {}, {})
    | some r => (r.code, r.passport, r.state)
  parseSvPacket frame :=
    match (parseSvPacket fuel frame.packet frame.size {} {}).val with
    | none => (-1, {}, {})
    | some r => (r.code, r.passport, r.state)
  validateREnvelope := envelope
  parseRGoosePacket mode crypto frame :=
    let mem := (unwrapRFrame frame.packet frame.size SI_R_GOOSE PAYLOAD_TYPE_GOOSE mode crypto
      {}).val.mem
    (match (parseRGoosePacket fuel frame.packet frame.size mode crypto {} {} {}).val with
      | none => (-1, {}, {}, {})
      | some (r, session) => (r.code, session, r.passport, r.state),
      { frame with mem := mem }, crypto)
  parseRSvPacket mode crypto frame :=
    let mem := (unwrapRFrame frame.packet frame.size SI_R_SV PAYLOAD_TYPE_SV mode crypto
      {}).val.mem
    (match (parseRSvPacket fuel frame.packet frame.size mode crypto {} {} {}).val with
      | none => (-1, {}, {}, {})
      | some (r, session) => (r.code, session, r.passport, r.state),
      { frame with mem := mem }, crypto)

/-- The four parsers return on the frame. -/
structure ParsersReturn (fuel : ℕ) (mode : SecurityMode) (crypto : Crypto) (frame : RxFrame) :
    Prop where
  goose : (parseGoosePacket fuel frame.packet frame.size {} {}).val.isSome
  sv : (parseSvPacket fuel frame.packet frame.size {} {}).val.isSome
  rGoose : (parseRGoosePacket fuel frame.packet frame.size mode crypto {} {} {}).val.isSome
  rSv : (parseRSvPacket fuel frame.packet frame.size mode crypto {} {} {}).val.isSome

/-- A stage takes a frame to `stage` of the application, and may change the frame. -/
structure Works (crypto : Crypto) (Ok : SecurityMode → RxFrame → Prop)
    (stage : RxApplication → RxFrame → RxApplication)
    (work : DataMatrix Crypto → ℕ → DataMatrix Crypto) : Prop where
  app : ∀ m ptr, m.crypto = crypto → Ok m.app.m_rMode (m.mbufs ptr) →
    (work m ptr).app = stage m.app (m.mbufs ptr)
  mode : ∀ m ptr, (work m ptr).app.m_rMode = m.app.m_rMode
  crypto : ∀ m ptr, m.crypto = crypto → (work m ptr).crypto = crypto
  mbufs : ∀ m ptr ptr', ptr' ≠ ptr → (work m ptr).mbufs ptr' = m.mbufs ptr'

section Works

variable {fuel : ℕ} {crypto : Crypto} {Ok : SecurityMode → RxFrame → Prop}
  {stage : RxApplication → RxFrame → RxApplication}
  {work : DataMatrix Crypto → ℕ → DataMatrix Crypto} {m : DataMatrix Crypto}

/-- Over different pointers, a stage is a fold over the frames. -/
lemma Works.foldl (h : Works crypto Ok stage work) (ptrs : List ℕ) (hnodup : ptrs.Nodup)
    (hcrypto : m.crypto = crypto) (hok : ∀ ptr ∈ ptrs, Ok m.app.m_rMode (m.mbufs ptr)) :
    (ptrs.foldl work m).app = (ptrs.map m.mbufs).foldl stage m.app ∧
      (ptrs.foldl work m).app.m_rMode = m.app.m_rMode ∧
      (ptrs.foldl work m).crypto = crypto ∧
      ∀ ptr ∉ ptrs, (ptrs.foldl work m).mbufs ptr = m.mbufs ptr := by
  induction ptrs generalizing m with
  | nil => exact ⟨rfl, rfl, hcrypto, fun _ _ => rfl⟩
  | cons ptr ptrs ih =>
    rw [List.nodup_cons] at hnodup
    rw [List.forall_mem_cons] at hok
    have hmbufs : ∀ ptr' ∈ ptrs, (work m ptr).mbufs ptr' = m.mbufs ptr' := fun ptr' hptr' =>
      h.mbufs m ptr ptr' fun heq => hnodup.1 (heq ▸ hptr')
    obtain ⟨happ, hmode, hcrypto', hrest⟩ := ih (m := work m ptr) hnodup.2 (h.crypto m ptr hcrypto)
      fun ptr' hptr' => by
        rw [h.mode, hmbufs ptr' hptr']
        exact hok.2 ptr' hptr'
    refine ⟨?_, hmode.trans (h.mode m ptr), hcrypto', fun ptr' hptr' => ?_⟩
    · rw [List.foldl_cons, happ, List.map_cons, List.foldl_cons, h.app m ptr hcrypto hok.1,
        List.map_congr_left hmbufs]
    · rw [List.mem_cons, not_or] at hptr'
      rw [List.foldl_cons, hrest ptr' hptr'.2, h.mbufs m ptr ptr' hptr'.1]

lemma mode_eq_of_config {app app' : RxApplication} (h : config app' = config app) :
    app'.m_rMode = app.m_rMode := congrArg Prod.fst h

/-- A frame that the parser answers with `none` is left out by both. -/
lemma works_onGoose : Works crypto (fun mode frame => ParsersReturn fuel mode crypto frame)
    (gooseStage fuel) (modelParsers fuel).onGoose where
  app m ptr _ hok := by
    obtain ⟨r, hr⟩ := Option.isSome_iff_exists.mp hok.goose
    simp [Parsers.onGoose, modelParsers, gooseStage, hr]
  mode m ptr := by
    simp only [Parsers.onGoose]
    split_ifs
    · exact mode_eq_of_config config_takeGoose
    · rfl
  crypto m ptr h := h
  mbufs m ptr ptr' _ := rfl

lemma works_onSv : Works crypto (fun mode frame => ParsersReturn fuel mode crypto frame)
    (sampledValuesStage fuel) (modelParsers fuel).onSv where
  app m ptr _ hok := by
    obtain ⟨r, hr⟩ := Option.isSome_iff_exists.mp hok.sv
    simp [Parsers.onSv, modelParsers, sampledValuesStage, hr]
  mode m ptr := by
    simp only [Parsers.onSv]
    split_ifs
    · exact mode_eq_of_config config_takeSV
    · rfl
  crypto m ptr h := h
  mbufs m ptr ptr' _ := rfl

lemma works_onRGoose : Works crypto (fun mode frame => ParsersReturn fuel mode crypto frame)
    (rGooseStage fuel crypto) (modelParsers fuel).onRGoose where
  app m ptr hcrypto hok := by
    obtain ⟨⟨r, session⟩, hr⟩ := Option.isSome_iff_exists.mp hok.rGoose
    simp only [Parsers.onRGoose, modelParsers, rGooseStage, hcrypto, hr]
    split_ifs <;> rfl
  mode m ptr := by
    simp only [Parsers.onRGoose]
    split_ifs
    · rfl
    · exact mode_eq_of_config config_takeGoose
    · rfl
    · rfl
  crypto m ptr h := by
    simp only [Parsers.onRGoose]
    split_ifs <;> exact h
  mbufs m ptr ptr' hne := by
    simp only [Parsers.onRGoose]
    split_ifs
    · rfl
    all_goals exact Function.update_of_ne hne _ _

lemma works_onRSv : Works crypto (fun mode frame => ParsersReturn fuel mode crypto frame)
    (rSampledValuesStage fuel crypto) (modelParsers fuel).onRSv where
  app m ptr hcrypto hok := by
    obtain ⟨⟨r, session⟩, hr⟩ := Option.isSome_iff_exists.mp hok.rSv
    simp only [Parsers.onRSv, modelParsers, rSampledValuesStage, hcrypto, hr]
    split_ifs <;> rfl
  mode m ptr := by
    simp only [Parsers.onRSv]
    split_ifs
    · rfl
    · exact mode_eq_of_config config_takeSV
    · rfl
    · rfl
  crypto m ptr h := by
    simp only [Parsers.onRSv]
    split_ifs <;> exact h
  mbufs m ptr ptr' hne := by
    simp only [Parsers.onRSv]
    split_ifs
    · rfl
    all_goals exact Function.update_of_ne hne _ _

/-- The queue of a stage holds the frames of its protocol. -/
lemma map_routed (ptrs : List ℕ) (proto : BusProto) :
    (routed (modelParsers fuel) m ptrs (stageOf proto)).map m.mbufs =
      queue (ptrs.map m.mbufs) proto := by
  have hinj : ∀ proto', stageOf proto' = stageOf proto ↔ proto' = proto := fun proto' => by
    cases proto' <;> cases proto <;> decide
  rw [queue, List.filter_map, routed]
  congr 1
  refine List.filter_congr fun ptr _ => decide_eq_decide.mpr (hinj _)

/-- Between the stages of a run that began in `m` with the pointers `ptrs`: the stages `todo`
still have their frames, as they came in. -/
structure Pending (fuel : ℕ) (m : DataMatrix Crypto) (ptrs : List ℕ) (todo : List BusProto)
    (m' : DataMatrix Crypto) : Prop where
  crypto : m'.crypto = m.crypto
  mode : m'.app.m_rMode = m.app.m_rMode
  queued : ∀ proto ∈ todo, (m'.stages (stageOf proto)).pointers =
    routed (modelParsers fuel) m ptrs (stageOf proto)
  mbufs : ∀ proto ∈ todo, ∀ ptr ∈ routed (modelParsers fuel) m ptrs (stageOf proto),
    m'.mbufs ptr = m.mbufs ptr

/-- The next stage works its queue off. -/
lemma Pending.eachFrame {m' : DataMatrix Crypto} {ptrs : List ℕ} {proto : BusProto}
    {todo : List BusProto} (h : Pending fuel m ptrs (proto :: todo) m')
    (hwork : Works m.crypto (fun mode frame => ParsersReturn fuel mode m.crypto frame) stage work)
    (hstages : ∀ m ptr, (work m ptr).stages = m.stages) (hnodup : ptrs.Nodup)
    (hok : ∀ ptr ∈ ptrs, ParsersReturn fuel m.app.m_rMode m.crypto (m.mbufs ptr))
    (hproto : ∀ proto' ∈ todo, stageOf proto' ≠ stageOf proto) :
    (m'.eachFrame (stageOf proto) work).val.app =
        (queue (ptrs.map m.mbufs) proto).foldl stage m'.app ∧
      Pending fuel m ptrs todo (m'.eachFrame (stageOf proto) work).val := by
  obtain ⟨_, heq, hst⟩ := eachFrame_eq (m := m') (stageOf proto) hstages
    (P := fun _ => True)
  have hmbufs := h.mbufs proto List.mem_cons_self
  rw [h.queued proto List.mem_cons_self] at heq hst
  obtain ⟨happ, hmode, hcrypto, hrest⟩ := hwork.foldl (m := m')
    (routed (modelParsers fuel) m ptrs (stageOf proto)) (hnodup.filter _) h.crypto
    fun ptr hptr => by
      rw [hmbufs ptr hptr, h.mode]
      exact hok ptr (List.mem_of_mem_filter hptr)
  rw [heq]
  refine ⟨?_, ⟨hcrypto, hmode.trans h.mode, fun proto' hproto' => ?_,
    fun proto' hproto' ptr hptr => ?_⟩⟩
  · rw [← map_routed, ← List.map_congr_left hmbufs]
    exact happ
  · rw [stages_clean_of_ne (hproto proto' hproto'), hst]
    exact h.queued proto' (List.mem_cons_of_mem _ hproto')
  · refine (hrest ptr fun hptr' => hproto proto' hproto' ?_).trans
      (h.mbufs proto' (List.mem_cons_of_mem _ hproto') ptr hptr)
    exact (of_decide_eq_true (List.mem_filter.mp hptr).2).symm.trans
      (of_decide_eq_true (List.mem_filter.mp hptr').2)

/-- A run of the matrix does to the application what `runBurst` does. -/
theorem run_eq_runBurst (hempty : ∀ s, s ≠ .ROUTER → (m.stages s).num = 0)
    (hnodup : (m.stages .ROUTER).pointers.Nodup)
    (hok : ∀ ptr ∈ (m.stages .ROUTER).pointers,
      ParsersReturn fuel m.app.m_rMode m.crypto (m.mbufs ptr)) :
    ((modelParsers fuel).run m).val.app =
      runBurst fuel m.crypto m.app ((m.stages .ROUTER).pointers.map m.mbufs) := by
  obtain ⟨_, happ₀, hmbufs₀, hcrypto₀, _, hrouted⟩ :=
    routerStage_spec (modelParsers fuel) hempty
  have h₀ : Pending fuel m (m.stages .ROUTER).pointers
      [.BUS_PROTO_GOOSE, .BUS_PROTO_SV, .BUS_PROTO_R_GOOSE, .BUS_PROTO_R_SV, .NON_BUS_PROTO]
      ((modelParsers fuel).routerStage m).val :=
    ⟨hcrypto₀, congrArg _ happ₀, fun proto _ => hrouted _ (stageOf_ne_router proto),
      fun _ _ ptr _ => congrFun hmbufs₀ ptr⟩
  obtain ⟨happ₁, h₁⟩ := h₀.eachFrame works_onGoose (modelParsers fuel).stages_onGoose hnodup hok
    (by decide)
  obtain ⟨happ₂, h₂⟩ := h₁.eachFrame works_onSv (modelParsers fuel).stages_onSv hnodup hok
    (by decide)
  obtain ⟨happ₃, h₃⟩ := h₂.eachFrame works_onRGoose (modelParsers fuel).stages_onRGoose hnodup hok
    (by decide)
  obtain ⟨happ₄, h₄⟩ := h₃.eachFrame works_onRSv (modelParsers fuel).stages_onRSv hnodup hok
    (by decide)
  have hip := congrArg List.length (h₄.queued .NON_BUS_PROTO (by simp))
  rw [StageFrame.length_pointers, ← List.length_map m.mbufs, map_routed] at hip
  simp only [Parsers.run, Traced.val_bind, Traced.val_pure]
  simp only [stageOf] at happ₁ happ₂ happ₃ happ₄ hip
  rw [Parsers.ipStage, hip, runBurst, ← happ₀, ← happ₁, ← happ₂, ← happ₃, ← happ₄]
  rfl

end Works

end ProcessBus
