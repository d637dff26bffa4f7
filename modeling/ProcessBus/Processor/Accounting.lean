import ProcessBus.Common.Session.RoundTrip
import ProcessBus.Processor.Matrix

/-!
# Every frame is counted once

Each of the five stages behind the router raises one of eight counters for every frame it takes,
whatever its parsers say, and the router hands every frame to one of them. So a burst of `n`
frames raises the counters by `n` in total. The stage buffers are empty again after the burst, so
this holds for one burst after the other.
-/

namespace ProcessBus

variable {χ : Type} {parsers : Parsers χ} {m : DataMatrix χ} {app app' app'' : RxApplication}
  {n k : ℕ}

/-! ### Counters -/

/-- The counters a received frame can end up in. -/
inductive Counter where
  | m_rxGoosePktCnt | m_rxSVPktCnt | m_errGooseParserCnt | m_errSVParserCnt
  | m_rxUnknownGooseCnt | m_rxUnknownSVCnt | m_errAuthCnt | m_pktToKernelCnt
  deriving DecidableEq

namespace RxApplication

def counter (app : RxApplication) : Counter → UInt64
  | .m_rxGoosePktCnt => app.m_rxGoosePktCnt
  | .m_rxSVPktCnt => app.m_rxSVPktCnt
  | .m_errGooseParserCnt => app.m_errGooseParserCnt
  | .m_errSVParserCnt => app.m_errSVParserCnt
  | .m_rxUnknownGooseCnt => app.m_rxUnknownGooseCnt
  | .m_rxUnknownSVCnt => app.m_rxUnknownSVCnt
  | .m_errAuthCnt => app.m_errAuthCnt
  | .m_pktToKernelCnt => app.m_pktToKernelCnt

/-- The sum of the counters, as the machine adds them. -/
def total (app : RxApplication) : UInt64 :=
  app.m_rxGoosePktCnt + app.m_rxSVPktCnt + app.m_errGooseParserCnt + app.m_errSVParserCnt +
    app.m_rxUnknownGooseCnt + app.m_rxUnknownSVCnt + app.m_errAuthCnt + app.m_pktToKernelCnt

/-- The sum of the counters as numbers. -/
def totalNat (app : RxApplication) : ℕ :=
  app.m_rxGoosePktCnt.toNat + app.m_rxSVPktCnt.toNat + app.m_errGooseParserCnt.toNat +
    app.m_errSVParserCnt.toNat + app.m_rxUnknownGooseCnt.toNat + app.m_rxUnknownSVCnt.toNat +
    app.m_errAuthCnt.toNat + app.m_pktToKernelCnt.toNat

end RxApplication

/-- `app'` is `app` with one counter raised for every element of a list of `n` counters. -/
def Counts (n : ℕ) (app app' : RxApplication) : Prop :=
  ∃ cs : List Counter, cs.length = n ∧
    ∀ c, app'.counter c = app.counter c + UInt64.ofNat (cs.count c)

namespace Counts

lemma refl (app : RxApplication) : Counts 0 app app := ⟨[], rfl, fun c => by simp⟩

lemma trans (h : Counts n app app') (h' : Counts k app' app'') : Counts (n + k) app app'' := by
  obtain ⟨cs, hcs, hc⟩ := h
  obtain ⟨ds, hds, hd⟩ := h'
  refine ⟨cs ++ ds, by rw [List.length_append, hcs, hds], fun c => ?_⟩
  rw [hd, hc, List.count_append, UInt64.ofNat_add, UInt64.add_assoc]

/-- One counter is raised by one. -/
lemma single (c : Counter)
    (h : ∀ d, app'.counter d = app.counter d + if d = c then 1 else 0) : Counts 1 app app' := by
  refine ⟨[c], rfl, fun d => ?_⟩
  rw [h d, List.count_singleton]
  congr 1
  by_cases hd : d = c
  · simp [hd]
  · simp [hd, Ne.symm hd]

lemma foldl {α : Type} {work : DataMatrix χ → α → DataMatrix χ}
    (h : ∀ m x, Counts 1 m.app (work m x).app) (l : List α) :
    Counts l.length m.app (l.foldl work m).app := by
  induction l generalizing m with
  | nil => exact refl _
  | cons x l ih =>
    rw [List.length_cons, Nat.add_comm, List.foldl_cons]
    exact (h m x).trans ih

/-- A list of counters is counted by the counters in it. -/
lemma length_eq (cs : List Counter) : cs.length =
    cs.count .m_rxGoosePktCnt + cs.count .m_rxSVPktCnt + cs.count .m_errGooseParserCnt +
      cs.count .m_errSVParserCnt + cs.count .m_rxUnknownGooseCnt + cs.count .m_rxUnknownSVCnt +
      cs.count .m_errAuthCnt + cs.count .m_pktToKernelCnt := by
  induction cs with
  | nil => rfl
  | cons c cs ih =>
    rw [List.length_cons, ih]
    cases c <;> simp <;> omega

/-- The machine's sum of the counters goes up by `n`. -/
theorem total_eq (h : Counts n app app') : app'.total = app.total + UInt64.ofNat n := by
  obtain ⟨cs, rfl, hc⟩ := h
  have h1 := hc .m_rxGoosePktCnt
  have h2 := hc .m_rxSVPktCnt
  have h3 := hc .m_errGooseParserCnt
  have h4 := hc .m_errSVParserCnt
  have h5 := hc .m_rxUnknownGooseCnt
  have h6 := hc .m_rxUnknownSVCnt
  have h7 := hc .m_errAuthCnt
  have h8 := hc .m_pktToKernelCnt
  simp only [RxApplication.counter] at h1 h2 h3 h4 h5 h6 h7 h8
  rw [length_eq]
  simp only [RxApplication.total, h1, h2, h3, h4, h5, h6, h7, h8, UInt64.ofNat_add]
  grind

/-- And so does the sum as a number, as long as it stays below `2 ^ 64`. -/
theorem totalNat_eq (h : Counts n app app') (hn : app.totalNat + n < 2 ^ 64) :
    app'.totalNat = app.totalNat + n := by
  obtain ⟨cs, rfl, hc⟩ := h
  have hlen := length_eq cs
  have hnat : ∀ c, (app.counter c).toNat + cs.count c < 2 ^ 64 →
      (app'.counter c).toNat = (app.counter c).toNat + cs.count c := by
    intro c hlt
    rw [hc, UInt64.toNat_add, UInt64.toNat_ofNat', Nat.mod_eq_of_lt (a := cs.count c) (by omega),
      Nat.mod_eq_of_lt hlt]
  simp only [RxApplication.totalNat] at hn ⊢
  have h1 := hnat .m_rxGoosePktCnt (by simp only [RxApplication.counter]; omega)
  have h2 := hnat .m_rxSVPktCnt (by simp only [RxApplication.counter]; omega)
  have h3 := hnat .m_errGooseParserCnt (by simp only [RxApplication.counter]; omega)
  have h4 := hnat .m_errSVParserCnt (by simp only [RxApplication.counter]; omega)
  have h5 := hnat .m_rxUnknownGooseCnt (by simp only [RxApplication.counter]; omega)
  have h6 := hnat .m_rxUnknownSVCnt (by simp only [RxApplication.counter]; omega)
  have h7 := hnat .m_errAuthCnt (by simp only [RxApplication.counter]; omega)
  have h8 := hnat .m_pktToKernelCnt (by simp only [RxApplication.counter]; omega)
  simp only [RxApplication.counter] at h1 h2 h3 h4 h5 h6 h7 h8
  omega

end Counts

/-! ### One frame -/

lemma counts_takeGoose {pass : GoosePassport} {take : GooseSource → GooseSource} :
    Counts 1 app (app.takeGoose pass take) := by
  unfold RxApplication.takeGoose
  split
  · exact .single .m_rxGoosePktCnt fun d => by cases d <;> simp [RxApplication.counter]
  · exact .single .m_rxUnknownGooseCnt fun d => by cases d <;> simp [RxApplication.counter]

lemma counts_takeSV {pass : SVStreamPassport} {take : SVStreamSource → SVStreamSource} :
    Counts 1 app (app.takeSV pass take) := by
  unfold RxApplication.takeSV
  split
  · exact .single .m_rxSVPktCnt fun d => by cases d <;> simp [RxApplication.counter]
  · exact .single .m_rxUnknownSVCnt fun d => by cases d <;> simp [RxApplication.counter]

lemma counts_errGooseParser :
    Counts 1 app { app with m_errGooseParserCnt := app.m_errGooseParserCnt + 1 } :=
  .single .m_errGooseParserCnt fun d => by cases d <;> simp [RxApplication.counter]

lemma counts_errSVParser :
    Counts 1 app { app with m_errSVParserCnt := app.m_errSVParserCnt + 1 } :=
  .single .m_errSVParserCnt fun d => by cases d <;> simp [RxApplication.counter]

lemma counts_errAuth : Counts 1 app { app with m_errAuthCnt := app.m_errAuthCnt + 1 } :=
  .single .m_errAuthCnt fun d => by cases d <;> simp [RxApplication.counter]

lemma counts_pktToKernel (n : ℕ) :
    Counts n app { app with m_pktToKernelCnt := app.m_pktToKernelCnt + UInt64.ofNat n } := by
  refine ⟨List.replicate n .m_pktToKernelCnt, List.length_replicate, fun d => ?_⟩
  cases d <;> simp [RxApplication.counter, List.count_replicate]

namespace Parsers

variable (parsers m) (ptr : ℕ)

lemma counts_onGoose : Counts 1 m.app (parsers.onGoose m ptr).app := by
  simp only [onGoose]
  split_ifs
  · exact counts_takeGoose
  · exact counts_errGooseParser

lemma counts_onSv : Counts 1 m.app (parsers.onSv m ptr).app := by
  simp only [onSv]
  split_ifs
  · exact counts_takeSV
  · exact counts_errSVParser

lemma counts_onRGoose : Counts 1 m.app (parsers.onRGoose m ptr).app := by
  simp only [onRGoose]
  split_ifs
  · exact counts_errGooseParser
  · exact counts_takeGoose
  · exact counts_errAuth
  · exact counts_errGooseParser

lemma counts_onRSv : Counts 1 m.app (parsers.onRSv m ptr).app := by
  simp only [onRSv]
  split_ifs
  · exact counts_errSVParser
  · exact counts_takeSV
  · exact counts_errAuth
  · exact counts_errSVParser

end Parsers

/-! ### One stage -/

/-- A stage counts each of its frames and leaves its array empty; the other arrays it does not
touch. -/
lemma eachFrame_spec (stage : EnumStages) {work : DataMatrix χ → ℕ → DataMatrix χ}
    (hstages : ∀ m ptr, (work m ptr).stages = m.stages)
    (hcounts : ∀ m ptr, Counts 1 m.app (work m ptr).app) {P : PoolEvent → Prop} :
    (m.eachFrame stage work).All P ∧
      (m.eachFrame stage work).val.stages = (m.clean stage).stages ∧
      Counts (m.stages stage).num m.app (m.eachFrame stage work).val.app := by
  obtain ⟨hall, heq, hst⟩ := eachFrame_eq (m := m) stage hstages (P := P)
  have hcount := Counts.foldl (m := m) hcounts (m.stages stage).pointers
  rw [StageFrame.length_pointers] at hcount
  refine ⟨hall, ?_, ?_⟩
  · rw [heq]
    simp only [DataMatrix.clean, hst]
  · rw [heq]
    exact hcount

variable (parsers)

/-- Every frame is routed to one stage. -/
lemma length_routed (ptrs : List ℕ) : ptrs.length =
    (routed parsers m ptrs .GOOSE).length + (routed parsers m ptrs .SV).length +
      (routed parsers m ptrs .R_GOOSE).length + (routed parsers m ptrs .R_SV).length +
      (routed parsers m ptrs .IP).length := by
  induction ptrs with
  | nil => rfl
  | cons ptr ptrs ih =>
    simp only [routed, List.filter_cons] at ih ⊢
    rw [List.length_cons, ih]
    cases h : parsers.getProtoType (m.mbufs ptr) <;> simp [stageOf] <;> omega

/-! ### One burst -/

/-- A burst of at most `n` frames goes through the stages, all of which are empty before and
after. -/
theorem run_spec (hempty : ∀ stage, stage ≠ .ROUTER → (m.stages stage).num = 0) :
    (parsers.run m).All (PoolEvent.StoresIn (m.stages .ROUTER).num) ∧
      (parsers.run m).val.Empty ∧
      ((parsers.run m).val.stages .ROUTER).buf = (m.stages .ROUTER).buf ∧
      Counts (m.stages .ROUTER).num m.app (parsers.run m).val.app := by
  obtain ⟨hall₀, happ, _, _, hrouter, hrouted⟩ := routerStage_spec parsers hempty
  have hlen := length_routed parsers (m := m) (m.stages .ROUTER).pointers
  rw [StageFrame.length_pointers, ← hrouted .GOOSE (by decide), ← hrouted .SV (by decide),
    ← hrouted .R_GOOSE (by decide), ← hrouted .R_SV (by decide), ← hrouted .IP (by decide)] at hlen
  simp only [StageFrame.length_pointers] at hlen
  simp only [Parsers.run, Traced.all_bind, Traced.val_bind, Traced.all_pure, Traced.val_pure,
    and_true]
  generalize (parsers.routerStage m).val = m₀ at *
  obtain ⟨hall₁, hst₁, hc₁⟩ := eachFrame_spec (m := m₀) .GOOSE
    parsers.stages_onGoose parsers.counts_onGoose (P := PoolEvent.StoresIn (m.stages .ROUTER).num)
  generalize (m₀.eachFrame .GOOSE parsers.onGoose).val = m₁ at *
  obtain ⟨hall₂, hst₂, hc₂⟩ := eachFrame_spec (m := m₁) .SV
    parsers.stages_onSv parsers.counts_onSv (P := PoolEvent.StoresIn (m.stages .ROUTER).num)
  generalize (m₁.eachFrame .SV parsers.onSv).val = m₂ at *
  obtain ⟨hall₃, hst₃, hc₃⟩ := eachFrame_spec (m := m₂) .R_GOOSE
    parsers.stages_onRGoose parsers.counts_onRGoose (P := PoolEvent.StoresIn (m.stages .ROUTER).num)
  generalize (m₂.eachFrame .R_GOOSE parsers.onRGoose).val = m₃ at *
  obtain ⟨hall₄, hst₄, hc₄⟩ := eachFrame_spec (m := m₃) .R_SV
    parsers.stages_onRSv parsers.counts_onRSv (P := PoolEvent.StoresIn (m.stages .ROUTER).num)
  generalize (m₃.eachFrame .R_SV parsers.onRSv).val = m₄ at *
  have hc₅ : Counts (m₄.stages .IP).num m₄.app (Parsers.ipStage m₄).app := counts_pktToKernel _
  have hst₅ : (Parsers.ipStage m₄).stages = (m₄.clean .IP).stages := rfl
  refine ⟨⟨hall₀, hall₁, hall₂, hall₃, hall₄⟩, ?_, ?_, ?_⟩
  · intro stage
    cases stage <;> simp [hst₅, hst₄, hst₃, hst₂, hst₁, hrouter]
  · simp [hst₅, hst₄, hst₃, hst₂, hst₁, hrouter]
  · have hcount := (((hc₁.trans hc₂).trans hc₃).trans hc₄).trans hc₅
    simp only [hst₄, hst₃, hst₂, hst₁, happ, ne_eq, reduceCtorEq, not_false_eq_true,
      stages_clean_of_ne] at hcount
    rw [hlen]
    exact hcount

/-! ### The main loop -/

/-- One pass of the main loop. -/
lemma singleCoreRound_spec (hempty : m.Empty) (burst : List (ℕ × RxFrame))
    (hburst : burst.length ≤ n) :
    (m.singleCoreRound parsers burst).All (PoolEvent.InBounds n) ∧
      (m.singleCoreRound parsers burst).val.Empty ∧
      PoolEvent.freed (m.singleCoreRound parsers burst).log = burst.map Prod.fst ∧
      Counts burst.length m.app (m.singleCoreRound parsers burst).val.app := by
  obtain ⟨hrx, happ, hnum, hbuf⟩ := rxBurst_spec (m := m) burst
  have hrx' := PoolEvent.freed_of_stores hrx
  unfold DataMatrix.singleCoreRound
  rw [PoolEvent.freed_bind, hrx', List.nil_append, Traced.all_bind, Traced.val_bind]
  generalize (m.rxBurst burst).val = m₀ at *
  by_cases hpos : burst.length > 0
  · simp only [if_pos hpos]
    have hrouter := stages_startWith_router (m := m₀) (n := burst.length)
    have hempty₁ : ∀ stage, stage ≠ .ROUTER →
        ((m₀.startWith burst.length).stages stage).num = 0 := fun stage hne => by
      rw [stages_startWith_of_ne hne, hnum, hempty]
    obtain ⟨hall, hdone, hptrs, hcounts⟩ := run_spec parsers hempty₁
    rw [hrouter] at hall hptrs hcounts
    obtain ⟨hfree, hval, hfreed⟩ := freeBulk_spec (n := burst.length) (k := n)
      (m := (parsers.run (m₀.startWith burst.length)).val)
    refine ⟨⟨hrx.mono fun e he => he.mono hburst, Traced.all_bind_of
      (hall.mono fun e he => he.mono hburst) hfree⟩, ?_, ?_, ?_⟩
    · rw [Traced.val_bind, hval]
      exact hdone
    · rw [PoolEvent.freed_bind, PoolEvent.freed_of_stores hall, hfreed, hptrs, List.nil_append]
      refine List.ext_getElem (by simp) fun i _ hi => ?_
      simpa using hbuf i (by simpa using hi)
    · rw [Traced.val_bind, hval, ← happ]
      exact hcounts
  · obtain rfl : burst = [] := List.length_eq_zero_iff.mp (by omega)
    simp only [if_neg hpos]
    refine ⟨⟨hrx.mono fun e he => he.mono hburst, Traced.all_pure _⟩, ?_, rfl, ?_⟩
    · exact fun stage => (hnum stage).trans (hempty stage)
    · rw [Traced.val_pure, happ]
      exact .refl _

/-- The main loop, one burst after the other. -/
theorem singleCore_spec (hempty : m.Empty) (bursts : List (List (ℕ × RxFrame)))
    (hbursts : ∀ burst ∈ bursts, burst.length ≤ n) :
    (m.singleCore parsers bursts).All (PoolEvent.InBounds n) ∧
      (m.singleCore parsers bursts).val.Empty ∧
      PoolEvent.freed (m.singleCore parsers bursts).log = bursts.flatten.map Prod.fst ∧
      Counts bursts.flatten.length m.app (m.singleCore parsers bursts).val.app := by
  induction bursts generalizing m with
  | nil => exact ⟨Traced.all_pure _, hempty, rfl, .refl _⟩
  | cons burst bursts ih =>
    rw [List.forall_mem_cons] at hbursts
    obtain ⟨hall, hdone, hfreed, hcounts⟩ :=
      singleCoreRound_spec parsers hempty burst hbursts.1
    obtain ⟨hall', hdone', hfreed', hcounts'⟩ := ih hdone hbursts.2
    unfold DataMatrix.singleCore
    refine ⟨Traced.all_bind_of hall hall', hdone', ?_, ?_⟩
    · rw [PoolEvent.freed_bind, hfreed, hfreed', List.flatten_cons, List.map_append]
    · rw [List.flatten_cons, List.length_append]
      exact hcounts.trans hcounts'

/-- Every received frame is accounted for exactly once, by one run of the pipeline and by any run
of the main loop, whatever the parsers do. -/
theorem frames_accounted_once (parsers : Parsers χ) (RX_BURST_SIZE : ℕ) (m : DataMatrix χ)
    (hempty : m.Empty) :
    (∀ n ≤ RX_BURST_SIZE,
      (parsers.run (m.startWith n)).All (PoolEvent.StoresIn RX_BURST_SIZE) ∧
      (parsers.run (m.startWith n)).val.Empty ∧
      (∀ i < n, ((parsers.run (m.startWith n)).val.stages START_STAGE).buf i =
        (m.stages START_STAGE).buf i) ∧
      (parsers.run (m.startWith n)).val.app.total = m.app.total + UInt64.ofNat n ∧
      (m.app.totalNat + n < 2 ^ 64 →
        (parsers.run (m.startWith n)).val.app.totalNat = m.app.totalNat + n)) ∧
    ∀ bursts : List (List (ℕ × RxFrame)), (∀ burst ∈ bursts, burst.length ≤ RX_BURST_SIZE) →
      (m.singleCore parsers bursts).All (PoolEvent.InBounds RX_BURST_SIZE) ∧
      (m.singleCore parsers bursts).val.Empty ∧
      PoolEvent.freed (m.singleCore parsers bursts).log = bursts.flatten.map Prod.fst ∧
      (m.singleCore parsers bursts).val.app.total =
        m.app.total + UInt64.ofNat bursts.flatten.length ∧
      (m.app.totalNat + bursts.flatten.length < 2 ^ 64 →
        (m.singleCore parsers bursts).val.app.totalNat =
          m.app.totalNat + bursts.flatten.length) := by
  refine ⟨fun n hn => ?_, fun bursts hbursts => ?_⟩
  · have hothers : ∀ stage, stage ≠ .ROUTER → ((m.startWith n).stages stage).num = 0 :=
      fun stage hne => by rw [stages_startWith_of_ne hne, hempty]
    obtain ⟨hall, hdone, hptrs, hcounts⟩ := run_spec parsers hothers
    rw [stages_startWith_router] at hall hptrs hcounts
    refine ⟨hall.mono fun e he => ?_, hdone, fun i _ => congrFun hptrs i, hcounts.total_eq,
      hcounts.totalNat_eq⟩
    cases e with
    | store stage i => exact lt_of_lt_of_le he hn
    | free ptr => exact he
  · obtain ⟨hall, hdone, hfreed, hcounts⟩ :=
      singleCore_spec parsers hempty bursts hbursts
    exact ⟨hall, hdone, hfreed, hcounts.total_eq, hcounts.totalNat_eq⟩

/-- A frame with EtherType `0x88B8` and nothing behind it but zeros. -/
def emptyGooseFrame : RxFrame where
  mem := (Ptr.ofBytes (List.replicate 12 0 ++ [0x88, 0xB8])).mem
  pktLen := 64

def idleMatrix : DataMatrix RSess.Crypto where
  app := {}
  crypto := RSess.sampleCrypto
  mbufs _ := emptyGooseFrame

/-- Two bursts of three frames in all. -/
theorem frames_accounted_once_idleMatrix : idleMatrix.Empty ∧
    ((idleMatrix.singleCore (modelParsers 100) [[(1, emptyGooseFrame), (2, emptyGooseFrame)],
      [(1, emptyGooseFrame)]]).val.app.totalNat = 3 ∧
    PoolEvent.freed (idleMatrix.singleCore (modelParsers 100)
      [[(1, emptyGooseFrame), (2, emptyGooseFrame)], [(1, emptyGooseFrame)]]).log = [1, 2, 1]) := by
  have hempty : idleMatrix.Empty := fun _ => rfl
  obtain ⟨_, hruns⟩ := frames_accounted_once (modelParsers 100) 32 idleMatrix hempty
  obtain ⟨_, _, hfreed, _, htotal⟩ :=
    hruns [[(1, emptyGooseFrame), (2, emptyGooseFrame)], [(1, emptyGooseFrame)]] (by simp)
  exact ⟨hempty, htotal (by decide), hfreed⟩

end ProcessBus
