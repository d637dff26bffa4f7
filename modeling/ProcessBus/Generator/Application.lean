import ProcessBus.Generator.Steady
import ProcessBus.Generator.Workers

/-!
# From the options to the TX loops

`GenApplication`: its constructor takes the options, and `Run` makes the generators that they ask
for and enters a TX loop for each worker. L2 streams go first and have one loop; routable streams
are split among the cores.

The parser of the command line, the platform, the NIC, the library that encodes the messages and the
contexts of the crypto library are parameters. `Run` is modelled without `--burst`.
-/

namespace ProcessBus

open RSess RFrame Relation

/-! ### The options -/

/-- `isspace` -/
def isSpace (c : Char) : Bool :=
  c = ' ' || c = '\t' || c = '\n' || c = '\r' || c.toNat = 11 || c.toNat = 12

/-- What `%u` of `sscanf` reads: white space, a sign and digits. The number is read in 64 bits,
where it saturates, and then cut. -/
def scanUnsigned (text : List Char) : Option (UInt32 × List Char) :=
  let text := text.dropWhile isSpace
  let (neg, text) := match text with
    | '-' :: rest => (true, rest)
    | '+' :: rest => (false, rest)
    | rest => (false, rest)
  let digits := text.takeWhile Char.isDigit
  let n := digits.foldl (fun n c => n * 10 + (c.toNat - 48)) 0
  if digits = [] then
    none
  else if 2 ^ 64 ≤ n then
    some (0xFFFFFFFF, text.dropWhile Char.isDigit)
  else
    some (if neg then -UInt32.ofNat n else UInt32.ofNat n, text.dropWhile Char.isDigit)

/-- A number and a dot. -/
def scanDotted (text : List Char) : Option (UInt32 × List Char) :=
  match scanUnsigned text with
  | some (n, '.' :: rest) => some (n, rest)
  | _ => none

namespace RFrame

/-- `parse_ipv4` -/
def parseIpv4 (text : String) : Option UInt32 := do
  let (b0, text) ← scanDotted text.toList
  let (b1, text) ← scanDotted text
  let (b2, text) ← scanDotted text
  let (b3, tail) ← scanUnsigned text
  if tail = [] ∧ b0 ≤ 255 ∧ b1 ≤ 255 ∧ b2 ≤ 255 ∧ b3 ≤ 255 then
    some (b0 <<< 24 ||| b1 <<< 16 ||| b2 <<< 8 ||| b3)
  else
    none

end RFrame

namespace RSess

/-- `parse_security_mode` -/
def parseSecurityMode (text : String) : Except String SecurityMode :=
  if text = "none" then .ok .SEC_NONE
  else if text = "hmac" then .ok .SEC_HMAC
  else if text = "gcm" then .ok .SEC_GCM
  else .error s!"Unknown R security mode '{text}', expected none|hmac|gcm"

end RSess

/-- What the command line holds. -/
structure GenOptions where
  goose : Option (List Int32) := none
  sv80 : Option Int32 := none
  sv256 : Option Int32 := none
  rgoose : Option (List Int32) := none
  rsv80 : Option Int32 := none
  rsv256 : Option Int32 := none
  rMode : Option String := none
  dstIp : Option String := none
  srcIp : Option String := none
  gooseEntries : Option UInt32 := none
  burst : Bool := false
  time : Option UInt32 := none

def DEF_GOOSE_ENTRIES : UInt32 := 16

/-- The configuration. -/
structure GenConfig where
  m_gooseNum : UInt32 := 0
  m_gooseSendFreq : UInt32 := 1
  m_sv80Num : UInt32 := 0
  m_sv256Num : UInt32 := 0
  m_rgooseNum : UInt32 := 0
  m_rgooseSendFreq : UInt32 := 1
  m_rsv80Num : UInt32 := 0
  m_rsv256Num : UInt32 := 0
  m_gooseEntries : UInt32 := DEF_GOOSE_ENTRIES
  m_burst : Bool := false
  m_rframe : RFrameConfig := {}
  m_runTimeSec : UInt32 := 0

namespace GenConfig

/-- A number of streams and a frequency. -/
def pair (name : String) : Option (List Int32) → Except String (UInt32 × UInt32)
  | none => .ok (0, 1)
  | some [n, m] => .ok (n.toUInt32, m.toUInt32)
  | some _ => .error s!"The {name} option is invalid, must be: N,M"

def count (opt : Option Int32) : UInt32 := (opt.map Int32.toUInt32).getD 0

def mode : Option String → Except String SecurityMode
  | none => .ok .SEC_NONE
  | some text => parseSecurityMode text

def address (name : String) (default : UInt32) : Option String → Except String UInt32
  | none => .ok default
  | some ip =>
    match parseIpv4 ip with
    | none => .error s!"Invalid --{name}: {ip}"
    | some address => .ok address

def entries : Option UInt32 → Except String UInt32
  | none => .ok DEF_GOOSE_ENTRIES
  | some entries => if entries = 0 then .error "--goose-entries must be >= 1" else .ok entries

/-- The options of the constructor; an `int` becomes an `unsigned`. -/
def ofOptions (opts : GenOptions) : Except String GenConfig := do
  let goose ← pair "goose" opts.goose
  let rgoose ← pair "rgoose" opts.rgoose
  let mode ← mode opts.rMode
  let dstIP ← address "dst-ip" R_DEFAULT_DST_IP opts.dstIp
  let entries ← entries opts.gooseEntries
  let srcIP ← address "src-ip" R_DEFAULT_SRC_IP opts.srcIp
  return {
    m_gooseNum := goose.1
    m_gooseSendFreq := goose.2
    m_sv80Num := count opts.sv80
    m_sv256Num := count opts.sv256
    m_rgooseNum := rgoose.1
    m_rgooseSendFreq := rgoose.2
    m_rsv80Num := count opts.rsv80
    m_rsv256Num := count opts.rsv256
    m_rframe := { mode := mode, dstIP := dstIP, srcIP := srcIP }
    m_burst := opts.burst
    m_runTimeSec := opts.time.getD 0
    m_gooseEntries := entries }

/-- L2 streams are asked for. -/
def l2 (cfg : GenConfig) : Bool :=
  cfg.m_gooseNum > 0 || cfg.m_sv80Num > 0 || cfg.m_sv256Num > 0

/-- Routable streams are asked for, and no L2 streams. -/
def isR (cfg : GenConfig) : Bool :=
  !cfg.l2 && (cfg.m_rgooseNum > 0 || cfg.m_rsv80Num > 0 || cfg.m_rsv256Num > 0)

/-- The routable streams that are going to be sent. -/
def rNum (cfg : GenConfig) : UInt32 :=
  if cfg.l2 then 0
  else if cfg.m_rgooseNum ≠ 0 then cfg.m_rgooseNum
  else if cfg.m_rsv80Num ≠ 0 then cfg.m_rsv80Num
  else cfg.m_rsv256Num

end GenConfig

/-! ### The application -/

/-- What the program finds when it runs: the platform, the pool and the NIC, and what the libraries
make for it, if anything. -/
structure GenEnv where
  lcoreCount : UInt32
  /-- The main lcore is always there. -/
  lcoreCount_pos : 0 < lcoreCount
  GENERATOR_MBUF_NUM : UInt32
  MEMPOOL_CACHE_SIZE : UInt32
  GENERATOR_TX_DESC : UInt32
  /-- The pool and the port can be made, and the link comes up. -/
  linkUp : Bool
  /-- The mbufs of the new pool. -/
  mbufs : ℕ → Mbuf
  /-- The message with so many dataset entries. -/
  gooseMessage : UInt32 → Option GooseMessage
  svMessage : SvType → Option SvMessage
  /-- The contexts of the generator whose first stream has this number. -/
  crypto : UInt32 → Option Crypto

structure GenApplication extends GenConfig where
  m_workerNum : UInt32
  workers_pos : 0 < m_workerNum

/-- Routable streams get one TX worker per lcore, at most one a stream. -/
def workerNum (env : GenEnv) (cfg : GenConfig) : UInt32 :=
  if cfg.rNum > 0 then min env.lcoreCount cfg.rNum else 1

lemma workerNum_pos (env : GenEnv) (cfg : GenConfig) : 0 < workerNum env cfg := by
  unfold workerNum
  split_ifs with h
  · rw [UInt32.min_def]
    split_ifs
    · exact env.lcoreCount_pos
    · exact h
  · decide

/-- A TX loop that is about to be entered. -/
structure TxLoop where
  Gen : Type
  amend : Amend Gen
  txUnits : List TxUnit
  start : SteadyState Gen

/-- `PoolSetter::FillPackets`: each mbuf of the pool holds the skeleton when a loop begins. -/
def GenEnv.filled {σ : Type} (env : GenEnv) (skeleton : Mem) (size : ℕ) (gen : σ) : TxState σ where
  gen := gen
  mbufs m := { env.mbufs m with data := (env.mbufs m).data.write 0 (skeleton.slice 0 size) }

/-- The loop of the one L2 GOOSE generator. -/
def gooseLoop (env : GenEnv) (cfg : GenConfig) : Option TxLoop :=
  (env.gooseMessage cfg.m_gooseEntries).map fun msg =>
    let gen := GooseTrafficGen.make msg cfg.m_gooseNum
    let m_units := GooseTrafficGen.generateTxUnits gen.m_ieds.length cfg.m_gooseSendFreq
    { Gen := GooseTrafficGen
      amend := fun gen packet desc => (gen.amendPacket packet desc.idx, gen.m_skeletonSize)
      txUnits := m_units
      start := txPacketsCycle m_units (env.filled gen.m_skeleton gen.m_skeletonSize gen) }

/-- The frames per second. -/
def SvType.pps : SvType → Int32
  | .SV80 => 4000
  | .SV256 => 12800 / 8

/-- `SVTrafficGen::SVTrafficGen` with the schedule; `none` when it throws. -/
def svGenerator (env : GenEnv) (type : SvType) (num : UInt32) :
    Option (SVTrafficGen × List TxUnit) := do
  let msg ← env.svMessage type
  let gen := SVTrafficGen.make msg num type
  let m_units ← SVTrafficGen.createTxUnits gen.m_ieds.length type.pps
  return (gen, m_units)

/-- The loop of the one L2 SV generator. -/
def svLoop (env : GenEnv) (type : SvType) (num : UInt32) : Option TxLoop :=
  (svGenerator env type num).map fun r =>
    { Gen := SVTrafficGen
      amend := fun gen packet desc =>
        (gen.amendAsdus type.asduNum packet desc.idx, gen.m_skeletonSize)
      txUnits := r.2
      start := txPacketsCycle r.2 (env.filled r.1.m_skeleton r.1.m_skeletonSize r.1) }

namespace GenApplication

/-- The constructor. -/
def make (env : GenEnv) (opts : GenOptions) : Except String GenApplication :=
  (GenConfig.ofOptions opts).map fun cfg =>
    { cfg with m_workerNum := workerNum env cfg, workers_pos := workerNum_pos env cfg }

/-- `RGooseTrafficGen::RGooseTrafficGen` with the schedule, which is that of the L2 generator. -/
def rgooseFactory (app : GenApplication) (env : GenEnv) (lo count : UInt32) :
    Option (RGooseTrafficGen × List TxUnit) := do
  let crypto ← env.crypto lo
  let msg ← env.gooseMessage app.m_gooseEntries
  let gen ← RGooseTrafficGen.make msg app.m_rframe crypto count lo
  return (gen, GooseTrafficGen.generateTxUnits gen.m_ieds.length app.m_rgooseSendFreq)

/-- `RSVTrafficGen::RSVTrafficGen` with the schedule. -/
def rsvFactory (app : GenApplication) (env : GenEnv) (type : SvType) (lo count : UInt32) :
    Option (RSVTrafficGen × List TxUnit) := do
  let crypto ← env.crypto lo
  let l2 ← svGenerator env type count
  let msg ← env.svMessage type
  let gen ← RSVTrafficGen.make msg app.m_rframe crypto type count lo
  return (gen, l2.2)

/-- The loops of all workers. The pool is filled with the skeleton of the first. -/
def rLoops {σ : Type} (app : GenApplication) (env : GenEnv) (amend : Amend σ)
    (skeleton : σ → Mem × ℕ) (gens : Fin app.m_workerNum.toNat → Option (σ × List TxUnit)) :
    Option (List TxLoop) :=
  if h : ∀ i, (gens i).isSome then
    let s := skeleton ((gens ⟨0, app.workers_pos⟩).get (h _)).1
    some (List.ofFn fun i =>
      let r := (gens i).get (h i)
      { Gen := σ
        amend := amend
        txUnits := r.2
        start := txRWorkerCycle (env.filled s.1 s.2 r.1) })
  else
    none

/-- The workers of R-GOOSE. -/
def rgooseLoops (app : GenApplication) (env : GenEnv) : Option (List TxLoop) :=
  app.rLoops env
    (fun gen packet desc =>
      (gen.amendPacket app.m_rframe.mode packet desc.idx, gen.m_skeletonSize))
    (fun gen => (gen.m_skeleton, gen.m_skeletonSize))
    (makeRWorkers app.m_workerNum app.m_rgooseNum (app.rgooseFactory env))

/-- The workers of R-SV. -/
def rsvLoops (app : GenApplication) (env : GenEnv) (type : SvType) (num : UInt32) :
    Option (List TxLoop) :=
  app.rLoops env
    (fun gen packet desc =>
      (gen.amendAsdus type.asduNum app.m_rframe.mode packet desc.idx, gen.m_skeletonSize))
    (fun gen => (gen.m_skeleton, gen.m_skeletonSize))
    (makeRWorkers app.m_workerNum num (app.rsvFactory env type))

/-- One TX ring plus a burst per worker must fit the pool. -/
def fitsPool (app : GenApplication) (env : GenEnv) : Bool :=
  let txQueues := app.m_workerNum.toUInt16
  let need := txQueues.toUInt64 * env.GENERATOR_TX_DESC.toUInt64 +
    txQueues.toUInt64 * env.MEMPOOL_CACHE_SIZE.toUInt64 + UInt64.ofNat BURST_SIZE
  !app.isR || need < env.GENERATOR_MBUF_NUM.toUInt64

/-- `Run` without `--burst`: the loops that it enters, `none` when it throws before. -/
def run (app : GenApplication) (env : GenEnv) : Option (List TxLoop) :=
  if ¬ app.fitsPool env ∨ ¬ env.linkUp then none
  else if app.m_gooseNum > 0 then (gooseLoop env app.toGenConfig).map ([·])
  else if app.m_sv80Num > 0 then (svLoop env .SV80 app.m_sv80Num).map ([·])
  else if app.m_sv256Num > 0 then (svLoop env .SV256 app.m_sv256Num).map ([·])
  else if app.m_rgooseNum > 0 then app.rgooseLoops env
  else if app.m_rsv80Num > 0 then app.rsvLoops env .SV80 app.m_rsv80Num
  else if app.m_rsv256Num > 0 then app.rsvLoops env .SV256 app.m_rsv256Num
  else some []  -- `You have to specify GOOSE, SV, R-GOOSE or R-SV to generate!`

end GenApplication

/-! ### Indices in range -/

namespace SteadyState

variable {σ : Type} {amend : Amend σ} {txUnits : List TxUnit} {inp : TxInput}
  {s s' : SteadyState σ}

/-- The index of the unit is in range, and nothing undefined has happened. -/
structure InRange (txUnits : List TxUnit) (s : SteadyState σ) : Prop where
  idx : s.txUnitIdx.toNat < txUnits.length
  pc : s.pc ≠ .undefined

lemma InRange.step (h : s.InRange txUnits) : (steadyStep amend txUnits inp s).InRange txUnits := by
  have hpos : 0 < txUnits.length := Nat.zero_lt_of_lt h.idx
  unfold steadyStep
  cases hpc : s.pc with
  | loop =>
    dsimp only
    rw [if_pos h.idx]
    split_ifs <;> exact ⟨h.idx, nofun⟩
  | blocks =>
    dsimp only
    cases s.block txUnits with
    | none => exact ⟨h.idx, nofun⟩
    | some blk =>
      dsimp only
      split_ifs
      · cases inp.alloc with
        | none => exact ⟨h.idx, nofun⟩
        | some ms => exact ⟨h.idx, nofun⟩
      · exact ⟨h.idx, nofun⟩
  | retry =>
    dsimp only
    split_ifs <;> exact ⟨h.idx, nofun⟩
  | unitEnd =>
    have hnext : (UInt32.ofNat ((s.txUnitIdx + 1).toNat % txUnits.length)).toNat <
        txUnits.length := by
      rw [UInt32.toNat_ofNat_of_lt' ((Nat.mod_le _ _).trans_lt (UInt32.toNat_lt _))]
      exact Nat.mod_lt _ hpos
    dsimp only
    rw [if_neg hpos.ne', if_pos (.inr hnext)]
    exact ⟨hnext, nofun⟩
  | finished | thrown => exact ⟨h.idx, h.pc⟩
  | undefined => exact absurd hpc h.pc

lemma InRange.of_step (h : s.InRange txUnits) (hstep : SteadyStep amend txUnits s s') :
    s'.InRange txUnits := by
  cases hstep with
  | run => exact h.step
  | stop | world => exact ⟨h.idx, h.pc⟩

/-- A loop that has thrown does nothing more. -/
lemma thrown_of_step (h : s.pc = .thrown) (hstep : SteadyStep amend txUnits s s') :
    s'.pc = .thrown := by
  cases hstep with
  | run =>
    unfold steadyStep
    rw [h]
    exact h
  | stop | world => exact h

end SteadyState

namespace TxLoop

variable {l : TxLoop}

/-- Whatever happens, no index is out of range and nothing is divided by zero. -/
def InRange (l : TxLoop) : Prop :=
  ∀ s, ReflTransGen (SteadyStep l.amend l.txUnits) l.start s → s.pc ≠ .undefined

lemma inRange_of_start (h : l.start.InRange l.txUnits) : l.InRange := by
  intro s hreach
  suffices s.InRange l.txUnits from this.pc
  induction hreach with
  | refl => exact h
  | tail _ hstep ih => exact ih.of_step hstep

lemma inRange_of_thrown (h : l.start.pc = .thrown) : l.InRange := by
  intro s hreach
  suffices s.pc = .thrown by rw [this]; nofun
  induction hreach with
  | refl => exact h
  | tail _ hstep ih => exact SteadyState.thrown_of_step ih hstep

/-- `tx_packets_cycle` looks first. -/
lemma inRange_txPacketsCycle {s : TxState l.Gen} (h : l.start = txPacketsCycle l.txUnits s) :
    l.InRange := by
  by_cases hempty : l.txUnits = []
  · apply inRange_of_thrown
    rw [h, txPacketsCycle, hempty]
    rfl
  · apply inRange_of_start
    rw [h, txPacketsCycle, if_neg (by rwa [List.isEmpty_iff])]
    exact ⟨List.length_pos_of_ne_nil hempty, nofun⟩

/-- `tx_r_worker_cycle` is as good as its schedule. -/
lemma inRange_txRWorkerCycle_iff {s : TxState l.Gen} (hwork : s.doWork = true)
    (h : l.start = txRWorkerCycle s) : l.InRange ↔ l.txUnits ≠ [] := by
  constructor
  · intro hrange hempty
    have hbad : (steadyStep l.amend l.txUnits {} l.start).pc = .undefined := by
      rw [h, hempty]
      simp [steadyStep, txRWorkerCycle, hwork]
    refine hrange _ (.single (.run l.start {} ?_)) hbad
    rw [h]
    nofun
  · intro hne
    apply inRange_of_start
    rw [h]
    exact ⟨List.length_pos_of_ne_nil hne, nofun⟩

end TxLoop

/-! ### From options to indices -/

namespace GenApplication

variable {app : GenApplication} {env : GenEnv}

/-- Nothing that `Run` does uses an index out of range or divides by zero. -/
def RunsInRange (app : GenApplication) (env : GenEnv) : Prop :=
  ∀ loops, app.run env = some loops → ∀ l ∈ loops, l.InRange

/-- `--rgoose N,0` for streams that are sent, but never, and nothing stops `Run` before its
loops. -/
structure EmptySchedule (opts : GenOptions) (app : GenApplication) (env : GenEnv) : Prop where
  goose : opts.goose = none ∨ ∃ freq, opts.goose = some [0, freq]
  sv80 : opts.sv80 = none ∨ opts.sv80 = some 0
  sv256 : opts.sv256 = none ∨ opts.sv256 = some 0
  rgoose : ∃ num, num ≠ 0 ∧ opts.rgoose = some [num, 0]
  fits : app.fitsPool env = true
  linkUp : env.linkUp = true
  gens : ∀ i, (makeRWorkers app.m_workerNum app.m_rgooseNum (app.rgooseFactory env) i).isSome

lemma mem_of_rLoops {σ : Type} {amend : Amend σ} {skeleton : σ → Mem × ℕ}
    {gens : Fin app.m_workerNum.toNat → Option (σ × List TxUnit)} {loops : List TxLoop}
    (h : app.rLoops env amend skeleton gens = some loops) {l : TxLoop} (hl : l ∈ loops) :
    ∃ i r s, gens i = some r ∧ s.doWork = true ∧
      l = ⟨σ, amend, r.2, txRWorkerCycle s⟩ := by
  unfold rLoops at h
  split_ifs at h with hall
  obtain rfl := Option.some.inj h
  obtain ⟨i, rfl⟩ := List.mem_ofFn.mp hl
  exact ⟨i, _, _, (Option.some_get (hall i)).symm, rfl, rfl⟩

lemma units_rgooseFactory {lo count : UInt32} {r : RGooseTrafficGen × List TxUnit}
    (h : app.rgooseFactory env lo count = some r) : r.2.length = app.m_rgooseSendFreq.toNat := by
  simp only [rgooseFactory, Option.bind_eq_bind, Option.bind_eq_some_iff] at h
  obtain ⟨_, _, _, _, gen, _, h⟩ := h
  obtain rfl := Option.some.inj h
  rw [GooseTrafficGen.generateTxUnits, List.length_map, List.length_range]

/-- The profile of SV has frames to send. -/
lemma units_svGenerator {type : SvType} {num : UInt32} {r : SVTrafficGen × List TxUnit}
    (h : svGenerator env type num = some r) : r.2 ≠ [] := by
  simp only [svGenerator, Option.bind_eq_bind, Option.bind_eq_some_iff] at h
  obtain ⟨msg, _, units, hunits, h⟩ := h
  obtain rfl := Option.some.inj h
  unfold SVTrafficGen.createTxUnits at hunits
  split_ifs at hunits
  obtain rfl := Option.some.inj hunits
  have hpos : 0 < type.pps.toInt.toNat := by cases type <;> decide
  simpa using hpos.ne'

lemma units_rsvFactory {type : SvType} {lo count : UInt32} {r : RSVTrafficGen × List TxUnit}
    (h : app.rsvFactory env type lo count = some r) : r.2 ≠ [] := by
  simp only [rsvFactory, Option.bind_eq_bind, Option.bind_eq_some_iff] at h
  obtain ⟨_, _, l2, hl2, _, _, gen, _, h⟩ := h
  obtain rfl := Option.some.inj h
  exact units_svGenerator hl2

lemma inRange_gooseLoop {cfg : GenConfig} {l : TxLoop} (h : gooseLoop env cfg = some l) :
    l.InRange := by
  obtain ⟨msg, _, rfl⟩ := Option.map_eq_some_iff.mp h
  exact TxLoop.inRange_txPacketsCycle rfl

lemma inRange_svLoop {type : SvType} {num : UInt32} {l : TxLoop}
    (h : svLoop env type num = some l) : l.InRange := by
  obtain ⟨r, _, rfl⟩ := Option.map_eq_some_iff.mp h
  exact TxLoop.inRange_txPacketsCycle rfl

lemma inRange_rsvLoops {type : SvType} {num : UInt32} {loops : List TxLoop}
    (h : app.rsvLoops env type num = some loops) {l : TxLoop} (hl : l ∈ loops) : l.InRange := by
  obtain ⟨i, r, s, hgen, hwork, rfl⟩ := mem_of_rLoops h hl
  exact (TxLoop.inRange_txRWorkerCycle_iff hwork rfl).mpr (units_rsvFactory hgen)

/-- Whether the R-GOOSE loops are in range is up to the frequency. -/
lemma inRange_rgooseLoops_iff {loops : List TxLoop} (h : app.rgooseLoops env = some loops)
    {l : TxLoop} (hl : l ∈ loops) : l.InRange ↔ app.m_rgooseSendFreq ≠ 0 := by
  obtain ⟨i, r, s, hgen, hwork, rfl⟩ := mem_of_rLoops h hl
  have hunits := units_rgooseFactory hgen
  rw [TxLoop.inRange_txRWorkerCycle_iff hwork rfl, ← List.length_pos_iff, hunits]
  exact UInt32.pos_iff_ne_zero

/-- What the options say about the streams. -/
lemma streams_of_ofOptions {opts : GenOptions} {cfg : GenConfig}
    (h : GenConfig.ofOptions opts = .ok cfg) :
    GenConfig.pair "goose" opts.goose = .ok (cfg.m_gooseNum, cfg.m_gooseSendFreq) ∧
      cfg.m_sv80Num = GenConfig.count opts.sv80 ∧ cfg.m_sv256Num = GenConfig.count opts.sv256 ∧
      GenConfig.pair "rgoose" opts.rgoose = .ok (cfg.m_rgooseNum, cfg.m_rgooseSendFreq) := by
  unfold GenConfig.ofOptions at h
  cases hgoose : GenConfig.pair "goose" opts.goose with
  | error => simp [hgoose, bind, Except.bind] at h
  | ok goose =>
    cases hrgoose : GenConfig.pair "rgoose" opts.rgoose with
    | error => simp [hgoose, hrgoose, bind, Except.bind] at h
    | ok rgoose =>
      simp only [hgoose, hrgoose, bind, Except.bind] at h
      split at h
      · cases h
      split at h
      · cases h
      split at h
      · cases h
      split at h
      · cases h
      obtain rfl := Except.ok.inj h
      exact ⟨rfl, rfl, rfl, rfl⟩

lemma toUInt32_eq_zero_iff {n : Int32} : n.toUInt32 = 0 ↔ n = 0 := by
  constructor
  · intro h
    rw [← Int32.toInt32_toUInt32 n, h]
    rfl
  · rintro rfl
    rfl

/-- An option that is absent asks for no stream, and so does the number zero. -/
lemma pair_eq_zero_iff {name : String} {opt : Option (List Int32)} {num freq : UInt32}
    (h : GenConfig.pair name opt = .ok (num, freq)) :
    num = 0 ↔ opt = none ∨ ∃ m, opt = some [0, m] := by
  unfold GenConfig.pair at h
  split at h
  · cases h
    simp
  · cases h
    simp [toUInt32_eq_zero_iff]
  · cases h

lemma pair_empty_iff {name : String} {opt : Option (List Int32)} {num freq : UInt32}
    (h : GenConfig.pair name opt = .ok (num, freq)) :
    num ≠ 0 ∧ freq = 0 ↔ ∃ n, n ≠ 0 ∧ opt = some [n, 0] := by
  unfold GenConfig.pair at h
  split at h
  · cases h
    simp
  · cases h
    simp only [ne_eq, toUInt32_eq_zero_iff, Option.some.injEq, List.cons.injEq, and_true]
    constructor
    · rintro ⟨hn, rfl⟩
      exact ⟨_, hn, rfl, rfl⟩
    · rintro ⟨_, hn, rfl, rfl⟩
      exact ⟨hn, rfl⟩
  · cases h

lemma count_eq_zero_iff {opt : Option Int32} :
    GenConfig.count opt = 0 ↔ opt = none ∨ opt = some 0 := by
  cases opt with
  | none => simp [GenConfig.count]
  | some n => simp [GenConfig.count, toUInt32_eq_zero_iff]

lemma l2_eq_false_iff {cfg : GenConfig} :
    cfg.l2 = false ↔ cfg.m_gooseNum = 0 ∧ cfg.m_sv80Num = 0 ∧ cfg.m_sv256Num = 0 := by
  simp [GenConfig.l2, UInt32.pos_iff_ne_zero, and_assoc]

/-- When nothing stops `Run`, each R-GOOSE worker enters its loop. -/
lemma run_of_gens (hl2 : app.l2 = false) (hnum : app.m_rgooseNum ≠ 0)
    (hfits : app.fitsPool env = true) (hlink : env.linkUp = true)
    (hgens : ∀ i, (makeRWorkers app.m_workerNum app.m_rgooseNum (app.rgooseFactory env) i).isSome) :
    ∃ l loops, app.run env = some loops ∧ app.rgooseLoops env = some loops ∧ l ∈ loops := by
  obtain ⟨hgoose, hsv80, hsv256⟩ := l2_eq_false_iff.mp hl2
  refine ⟨_, _, ?_, dif_pos hgens, List.mem_ofFn.mpr ⟨⟨0, app.workers_pos⟩, rfl⟩⟩
  unfold run
  rw [if_neg (by simp [hfits, hlink]), hgoose, hsv80, hsv256]
  rw [if_neg (by decide), if_neg (by decide), if_neg (by decide),
    if_pos (UInt32.pos_iff_ne_zero.mpr hnum)]
  exact dif_pos hgens

/-- The loops of `Run` are in range unless they are those of R-GOOSE at frequency zero. -/
lemma inRange_of_run {loops : List TxLoop} (h : app.run env = some loops) {l : TxLoop}
    (hl : l ∈ loops) : l.InRange ∨ (app.l2 = false ∧ app.m_rgooseNum ≠ 0 ∧
      app.rgooseLoops env = some loops ∧ app.fitsPool env = true ∧ env.linkUp = true) := by
  unfold run at h
  split_ifs at h with hstop hgoose hsv80 hsv256 hrgoose hrsv80 hrsv256
  · obtain ⟨l', hl', rfl⟩ := Option.map_eq_some_iff.mp h
    obtain rfl := List.mem_singleton.mp hl
    exact .inl (inRange_gooseLoop hl')
  · obtain ⟨l', hl', rfl⟩ := Option.map_eq_some_iff.mp h
    obtain rfl := List.mem_singleton.mp hl
    exact .inl (inRange_svLoop hl')
  · obtain ⟨l', hl', rfl⟩ := Option.map_eq_some_iff.mp h
    obtain rfl := List.mem_singleton.mp hl
    exact .inl (inRange_svLoop hl')
  · right
    simp only [not_or, not_not] at hstop
    rw [l2_eq_false_iff]
    simp only [gt_iff_lt, UInt32.pos_iff_ne_zero, not_not] at hgoose hsv80 hsv256 hrgoose
    exact ⟨⟨hgoose, hsv80, hsv256⟩, hrgoose, h, hstop⟩
  · exact .inl (inRange_rsvLoops h hl)
  · exact .inl (inRange_rsvLoops h hl)
  · obtain rfl := Option.some.inj h
    cases hl

lemma gens_of_rgooseLoops {loops : List TxLoop} (h : app.rgooseLoops env = some loops) :
    ∀ i, (makeRWorkers app.m_workerNum app.m_rgooseNum (app.rgooseFactory env) i).isSome := by
  unfold rgooseLoops rLoops at h
  split_ifs at h with hall
  exact hall

lemma ofOptions_of_make {opts : GenOptions} (h : GenApplication.make env opts = .ok app) :
    GenConfig.ofOptions opts = .ok app.toGenConfig := by
  unfold make at h
  cases hcfg : GenConfig.ofOptions opts with
  | error => simp [hcfg, Except.map] at h
  | ok cfg =>
    rw [hcfg] at h
    obtain rfl := Except.ok.inj h
    rfl

lemma l2_of_make {opts : GenOptions} (h : GenApplication.make env opts = .ok app) :
    app.l2 = false ↔ (opts.goose = none ∨ ∃ m, opts.goose = some [0, m]) ∧
      (opts.sv80 = none ∨ opts.sv80 = some 0) ∧ (opts.sv256 = none ∨ opts.sv256 = some 0) := by
  obtain ⟨hgoose, hsv80, hsv256, -⟩ := streams_of_ofOptions (ofOptions_of_make h)
  rw [l2_eq_false_iff, pair_eq_zero_iff hgoose, hsv80, hsv256, count_eq_zero_iff,
    count_eq_zero_iff]

lemma rgoose_of_make {opts : GenOptions} (h : GenApplication.make env opts = .ok app) :
    app.m_rgooseNum ≠ 0 ∧ app.m_rgooseSendFreq = 0 ↔
      ∃ num, num ≠ 0 ∧ opts.rgoose = some [num, 0] :=
  pair_empty_iff (streams_of_ofOptions (ofOptions_of_make h)).2.2.2

lemma EmptySchedule.not_runsInRange {opts : GenOptions} (h : EmptySchedule opts app env)
    (happ : GenApplication.make env opts = .ok app) : ¬ app.RunsInRange env := by
  intro hrange
  obtain ⟨hgoose, hsv80, hsv256, hempty, hfits, hlink, hgens⟩ := h
  have hl2 := (l2_of_make happ).mpr ⟨hgoose, hsv80, hsv256⟩
  obtain ⟨hnum, hfreq⟩ := (rgoose_of_make happ).mpr hempty
  obtain ⟨l, loops, hrun, hloops, hl⟩ := run_of_gens hl2 hnum hfits hlink hgens
  exact (inRange_rgooseLoops_iff hloops hl).mp (hrange loops hrun l hl) hfreq

/-- For all options that the constructor accepts: the TX loops that `Run` enters without `--burst`
use no index out of range and do not divide by zero, unless the schedule of R-GOOSE is empty. -/
theorem steady_loops_in_range (env : GenEnv) (opts : GenOptions) (app : GenApplication)
    (happ : GenApplication.make env opts = .ok app) :
    app.RunsInRange env ↔ ¬ EmptySchedule opts app env := by
  constructor
  · exact fun hrange hempty => hempty.not_runsInRange happ hrange
  · intro hnot loops hrun l hl
    rcases inRange_of_run hrun hl with hrange | ⟨hl2, hnum, hloops, hfits, hlink⟩
    · exact hrange
    · refine (inRange_rgooseLoops_iff hloops hl).mpr fun hfreq => hnot ?_
      obtain ⟨hgoose, hsv80, hsv256⟩ := (l2_of_make happ).mp hl2
      exact ⟨hgoose, hsv80, hsv256, (rgoose_of_make happ).mp ⟨hnum, hfreq⟩, hfits, hlink,
        gens_of_rgooseLoops hloops⟩

/-! ### Two samples -/

def sampleGenEnv : GenEnv where
  lcoreCount := 2
  lcoreCount_pos := by decide
  GENERATOR_MBUF_NUM := 128 * 1024
  MEMPOOL_CACHE_SIZE := 64
  GENERATOR_TX_DESC := 1024
  linkUp := true
  mbufs _ := ⟨fun _ => 0, 0, 0⟩
  gooseMessage _ := some sampleGooseMessage
  svMessage type := some (sampleSvMessage type)
  crypto _ := some sampleRunCrypto

/-- `--rgoose 1,50` -/
theorem steady_loops_in_range_fifty : ∃ app,
    GenApplication.make sampleGenEnv { rgoose := some [1, 50] } = .ok app ∧
      app.RunsInRange sampleGenEnv := by
  refine ⟨_, rfl, (steady_loops_in_range sampleGenEnv { rgoose := some [1, 50] } _ rfl).mpr ?_⟩
  rintro ⟨-, -, -, ⟨num, -, hfreq⟩, -, -, -⟩
  simp at hfreq

/-- `--rgoose 1,0` -/
theorem steady_loop_indexes_empty_schedule :
    ¬ ∀ (env : GenEnv) (opts : GenOptions) (app : GenApplication),
      GenApplication.make env opts = .ok app → app.m_burst = false → app.RunsInRange env := by
  intro h
  have happ : GenApplication.make sampleGenEnv { rgoose := some [1, 0] } = .ok _ := rfl
  refine EmptySchedule.not_runsInRange ?_ happ (h _ _ _ happ rfl)
  refine ⟨.inl rfl, .inl rfl, .inl rfl, ⟨1, by decide, rfl⟩, ?_, rfl, ?_⟩
  · decide +kernel
  · decide +kernel

end GenApplication

end ProcessBus
