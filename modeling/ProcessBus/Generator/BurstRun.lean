import ProcessBus.Generator.Application
import ProcessBus.Generator.Fleet
import Mathlib.Algebra.BigOperators.Fin
import Mathlib.Algebra.BigOperators.Ring.Finset

/-!
# `Run` with `--burst`

A burst is staged as a whole, so the workers hold as many mbufs as their plans have packets.
`CheckBurstFits` looks whether the pool has them, besides those that wait in TX rings and caches.
If it lets a run begin, no worker is ever stuck in staging: whatever the others hold, the pool has
what it needs. And a second of all workers is one second of a generator that had all streams.
-/

namespace ProcessBus

open Relation RSess

/-! ### The platforms -/

inductive Platform where
  | arm64
  | atom
  | orangepi3b
  | qemu

namespace Platform

def GENERATOR_MBUF_NUM : Platform → UInt32
  | arm64 => 512 * 1024
  | atom => 2 * 512 * 1024
  | orangepi3b | qemu => 128 * 1024

def GENERATOR_TX_DESC : Platform → UInt32
  | arm64 => 4096
  | atom => 64 * 1024 - 1
  | orangepi3b => 32 * 1024
  | qemu => 1024

def MEMPOOL_CACHE_SIZE : Platform → UInt32 := fun _ => 64

end Platform

/-- The program is built for a platform. Lcores and queues have numbers of 16 bits. -/
structure GenEnv.On (env : GenEnv) (platform : Platform) : Prop where
  mbufs : env.GENERATOR_MBUF_NUM = platform.GENERATOR_MBUF_NUM
  txDesc : env.GENERATOR_TX_DESC = platform.GENERATOR_TX_DESC
  cache : env.MEMPOOL_CACHE_SIZE = platform.MEMPOOL_CACHE_SIZE
  lcores : env.lcoreCount < 65536

/-! ### The loops of a burst run -/

/-- Burst loops that are about to be entered: the generator and the plan of each worker, and the
mbufs of the pool. -/
structure BurstLaunch where
  Gen : Type
  Ied : Type
  kind : GenKind Gen Ied
  workers : UInt32
  gens : Fin workers.toNat → Gen
  plans : Fin workers.toNat → List PacketDesc
  mbufs : ℕ → Mbuf

/-- The workers, before they begin their first second. -/
def BurstLaunch.start (l : BurstLaunch) (ticksPerSec secStartTick : UInt64)
    (w : Fin l.workers.toNat) : TxWorker l.Gen :=
  .burst (l.plans w) ticksPerSec
    (txBurstWorkerCycle (l.plans w) secStartTick { gen := l.gens w, mbufs := l.mbufs })

/-- `total_burst` -/
def totalBurst {workers : ℕ} (plans : Fin workers → List PacketDesc) : UInt64 :=
  (List.ofFn plans).foldl (fun n p => n + UInt64.ofNat p.length) 0

/-- `make_r_burst_plans`: one plan per worker over its own slice, repeated as often as its schedule
is long. -/
def makeRBurstPlans (workers num : UInt32) (units : Fin workers.toNat → List TxUnit) :
    Fin workers.toNat → List PacketDesc := fun i =>
  let s := iedSlice num workers (UInt32.ofNat i)
  makeBurstPlan (s.2 - s.1) (UInt32.ofNat (units i).length)

/-- `CheckBurstFits`. It throws unless what is staged fits the pool. -/
def checkBurstFits (env : GenEnv) (staged : UInt64) (workers : UInt32) : Bool :=
  let need := staged + workers.toUInt64 * env.GENERATOR_TX_DESC.toUInt64 +
    workers.toUInt64 * env.MEMPOOL_CACHE_SIZE.toUInt64
  need < env.GENERATOR_MBUF_NUM.toUInt64

namespace GenApplication

/-- The one loop of an L2 generator. -/
def l2Burst {σ ι : Type} (env : GenEnv) (kind : GenKind σ ι) (gen : σ) (plan : List PacketDesc) :
    Option BurstLaunch :=
  if checkBurstFits env (UInt64.ofNat plan.length) 1 then
    some {
      Gen := σ
      Ied := ι
      kind := kind
      workers := 1
      gens := fun _ => gen
      plans := fun _ => plan
      mbufs := (env.filled (kind.skeleton gen) (kind.size gen) gen).mbufs }
  else
    none

/-- The loops of the routable generators. The pool is filled with the skeleton of the first. -/
def rBurst {σ ι : Type} (app : GenApplication) (env : GenEnv) (kind : GenKind σ ι) (num : UInt32)
    (gens : Fin app.m_workerNum.toNat → Option (σ × List TxUnit)) : Option BurstLaunch :=
  if h : ∀ i, (gens i).isSome then
    let main : Fin app.m_workerNum.toNat := ⟨0, app.workers_pos⟩
    let first := ((gens main).get (h main)).1
    let plans := makeRBurstPlans app.m_workerNum num fun i => ((gens i).get (h i)).2
    if checkBurstFits env (totalBurst plans) app.m_workerNum then
      some {
        Gen := σ
        Ied := ι
        kind := kind
        workers := app.m_workerNum
        gens := fun i => ((gens i).get (h i)).1
        plans := plans
        mbufs := (env.filled (kind.skeleton first) (kind.size first) first).mbufs }
    else
      none
  else
    none

/-- `RunBurstCycles`: the loops that it enters. -/
def runBurstCycles (app : GenApplication) (env : GenEnv) : Option BurstLaunch :=
  if app.m_gooseNum > 0 then
    (env.gooseMessage app.m_gooseEntries).bind fun msg =>
      l2Burst env .goose (.make msg app.m_gooseNum)
        (makeBurstPlan app.m_gooseNum app.m_gooseSendFreq)
  else if app.m_sv80Num > 0 ∨ app.m_sv256Num > 0 then
    let type := if app.m_sv80Num > 0 then SvType.SV80 else .SV256
    let num := if app.m_sv80Num > 0 then app.m_sv80Num else app.m_sv256Num
    (svGenerator env type num).bind fun r =>
      l2Burst env (.sv type) r.1 (makeBurstPlan num (UInt32.ofNat r.2.length))
  else if app.m_rgooseNum > 0 then
    app.rBurst env (.rgoose app.m_rframe.mode) app.m_rgooseNum
      (makeRWorkers app.m_workerNum app.m_rgooseNum (app.rgooseFactory env))
  else if app.m_rsv80Num > 0 ∨ app.m_rsv256Num > 0 then
    let type := if app.m_rsv80Num > 0 then SvType.SV80 else .SV256
    let num := if app.m_rsv80Num > 0 then app.m_rsv80Num else app.m_rsv256Num
    app.rBurst env (.rsv app.m_rframe.mode type) num
      (makeRWorkers app.m_workerNum num (app.rsvFactory env type))
  else
    none  -- `You have to specify GOOSE, SV, R-GOOSE or R-SV to generate!`

/-- `Run` with `--burst`: the loops that it enters, `none` when it throws before. -/
def runBurst (app : GenApplication) (env : GenEnv) : Option BurstLaunch :=
  if ¬ app.fitsPool env ∨ ¬ env.linkUp then none else app.runBurstCycles env

end GenApplication

/-- How many streams are asked for. -/
def GenConfig.streams (cfg : GenConfig) : UInt32 :=
  if cfg.m_gooseNum > 0 then cfg.m_gooseNum
  else if cfg.m_sv80Num > 0 then cfg.m_sv80Num
  else if cfg.m_sv256Num > 0 then cfg.m_sv256Num
  else cfg.rNum

/-- How many frames of each of them in a second. -/
def GenConfig.rate (cfg : GenConfig) : UInt32 :=
  if cfg.m_gooseNum > 0 then cfg.m_gooseSendFreq
  else if cfg.m_sv80Num > 0 then 4000
  else if cfg.m_sv256Num > 0 then 1600
  else if cfg.m_rgooseNum > 0 then cfg.m_rgooseSendFreq
  else if cfg.m_rsv80Num > 0 then 4000
  else 1600

/-! ### What is launched -/

/-- Loops for `num` streams with `reps` frames of each in a second, split among the workers. The
pool is fit for them. -/
structure BurstLaunch.Serves (l : BurstLaunch) (env : GenEnv) (num reps : UInt32) : Prop where
  pos : 1 ≤ l.workers
  le : l.workers ≤ num
  lcores : l.workers ≤ env.lcoreCount
  plans : ∀ w, l.plans w = makeBurstPlan ((iedSlice num l.workers (UInt32.ofNat w)).2 -
    (iedSlice num l.workers (UInt32.ofNat w)).1) reps
  ieds : ∀ w, (l.kind.ieds (l.gens w)).length =
    ((iedSlice num l.workers (UInt32.ofNat w)).2 -
      (iedSlice num l.workers (UInt32.ofNat w)).1).toNat
  keepsSize : l.kind.KeepsSize
  unused : l.kind.Unused l.gens fun b => (l.mbufs b).data
  fits : checkBurstFits env (totalBurst l.plans) l.workers = true

section Launch

variable {env : GenEnv} {num reps : UInt32}

/-- One worker has all streams. -/
lemma iedSlice_one (num : UInt32) : iedSlice num 1 0 = (0, num) := by
  simp [iedSlice]

/-- A pool that was filled holds the skeleton. -/
lemma unused_filled {ω σ ι : Type} {kind : GenKind σ ι} {gens : ω → σ} {gen : σ}
    (h : ∀ w, kind.size (gens w) = kind.size gen ∧ kind.skeleton (gens w) = kind.skeleton gen) :
    kind.Unused gens fun b =>
      ((env.filled (kind.skeleton gen) (kind.size gen) gen).mbufs b).data := by
  intro w b
  rw [(h w).1, (h w).2]
  have hholds := (Mem.holds_write (env.mbufs b).data 0
    ((kind.skeleton gen).slice 0 (kind.size gen))).slice_eq
  rwa [Mem.length_slice] at hholds

lemma totalBurst_one (plan : List PacketDesc) :
    totalBurst (fun _ : Fin (1 : UInt32).toNat => plan) = UInt64.ofNat plan.length := by
  show 0 + UInt64.ofNat plan.length = _
  exact UInt64.zero_add _

/-- The skeleton of a routable generator is that of any other with the same message. -/
lemma RoutableGen.skeleton_eq {si payloadType : UInt8} {maxPacketSize l2SkeletonSize l2AppidOff : ℕ}
    {l2Buf : Mem} {cfg : RFrameConfig} {baseIdx baseIdx' : UInt32} {crypto crypto' : Crypto}
    {g g' : RoutableGen} (h : makeSkeletonPacket si payloadType maxPacketSize l2Buf l2SkeletonSize
      l2AppidOff cfg baseIdx crypto = some g)
    (h' : makeSkeletonPacket si payloadType maxPacketSize l2Buf l2SkeletonSize l2AppidOff cfg
      baseIdx' crypto' = some g') :
    g.m_skeletonSize = g'.m_skeletonSize ∧ g.m_skeleton = g'.m_skeleton := by
  unfold makeSkeletonPacket at h h'
  dsimp only at h h'
  split_ifs at h h'
  obtain rfl := Option.some.inj h
  obtain rfl := Option.some.inj h'
  exact ⟨rfl, rfl⟩

namespace GenApplication

variable {app : GenApplication} {l : BurstLaunch}

lemma serves_l2Burst {σ ι : Type} {kind : GenKind σ ι} {gen : σ} (hpos : 0 < num)
    (hieds : (kind.ieds gen).length = num.toNat) (hsize : kind.KeepsSize)
    (h : l2Burst env kind gen (makeBurstPlan num reps) = some l) : l.Serves env num reps := by
  unfold l2Burst at h
  split_ifs at h with hfits
  obtain rfl := Option.some.inj h
  have hslice : ∀ w : Fin (1 : UInt32).toNat, iedSlice num 1 (UInt32.ofNat w) = (0, num) := by
    intro w
    have hw : (w : ℕ) = 0 := Nat.lt_one_iff.mp w.isLt
    rw [hw]
    exact iedSlice_one num
  refine ⟨?_, ?_, ?_, fun w => ?_, fun w => ?_, hsize, ?_, ?_⟩
  · exact UInt32.le_refl 1
  · exact hpos
  · exact env.lcoreCount_pos
  · rw [hslice, UInt32.sub_zero]
  · rw [hslice, UInt32.sub_zero]
    exact hieds
  · exact unused_filled fun _ => ⟨rfl, rfl⟩
  · dsimp only
    rwa [totalBurst_one]

/-- What the factory of a worker makes: a generator of its slice, with a skeleton that is the same
for all of them, and a schedule of so many units. -/
structure Factory {σ ι : Type} (kind : GenKind σ ι) (reps : UInt32)
    (factory : UInt32 → UInt32 → Option (σ × List TxUnit)) : Prop where
  ieds : ∀ {lo count r}, factory lo count = some r → (kind.ieds r.1).length = count.toNat
  units : ∀ {lo count r}, factory lo count = some r → UInt32.ofNat r.2.length = reps
  same : ∀ {lo count r lo' count' r'}, factory lo count = some r → factory lo' count' = some r' →
    kind.size r.1 = kind.size r'.1 ∧ kind.skeleton r.1 = kind.skeleton r'.1

lemma serves_rBurst {σ ι : Type} {kind : GenKind σ ι}
    {factory : UInt32 → UInt32 → Option (σ × List TxUnit)} (hfactory : Factory kind reps factory)
    (hle : app.m_workerNum ≤ num) (hlcores : app.m_workerNum ≤ env.lcoreCount)
    (hsize : kind.KeepsSize)
    (h : app.rBurst env kind num (makeRWorkers app.m_workerNum num factory) = some l) :
    l.Serves env num reps := by
  unfold rBurst at h
  split_ifs at h with hall
  dsimp only at h
  split_ifs at h with hfits
  obtain rfl := Option.some.inj h
  have hget : ∀ i : Fin app.m_workerNum.toNat,
      factory (iedSlice num app.m_workerNum (UInt32.ofNat i)).1
        ((iedSlice num app.m_workerNum (UInt32.ofNat i)).2 -
          (iedSlice num app.m_workerNum (UInt32.ofNat i)).1) =
      some ((makeRWorkers app.m_workerNum num factory i).get (hall i)) :=
    fun i => (Option.some_get (hall i)).symm
  refine ⟨app.workers_pos, hle, hlcores, fun w => ?_, fun w => ?_, hsize, ?_, hfits⟩
  · show makeBurstPlan _ (UInt32.ofNat _) = _
    rw [hfactory.units (hget w)]
  · exact hfactory.ieds (hget w)
  · exact unused_filled fun w => hfactory.same (hget w) (hget ⟨0, app.workers_pos⟩)

lemma factory_rgoose : Factory (.rgoose app.m_rframe.mode) app.m_rgooseSendFreq
    (app.rgooseFactory env) where
  ieds h := by
    simp only [rgooseFactory, Option.bind_eq_bind, Option.bind_eq_some_iff] at h
    obtain ⟨_, _, _, _, gen, hgen, h⟩ := h
    obtain rfl := Option.some.inj h
    exact RGooseTrafficGen.length_ieds hgen
  units h := by
    rw [units_rgooseFactory h]
    exact UInt32.ofNat_toNat
  same h h' := by
    simp only [rgooseFactory, Option.bind_eq_bind, Option.bind_eq_some_iff] at h h'
    obtain ⟨_, _, msg, hmsg, gen, hgen, h⟩ := h
    obtain ⟨_, _, msg', hmsg', gen', hgen', h'⟩ := h'
    obtain rfl := Option.some.inj (hmsg.symm.trans hmsg')
    obtain rfl := Option.some.inj h
    obtain rfl := Option.some.inj h'
    exact RoutableGen.skeleton_eq (RGooseTrafficGen.parts_of_make hgen).1
      (RGooseTrafficGen.parts_of_make hgen').1

lemma length_svGenerator {type : SvType} {r : SVTrafficGen × List TxUnit}
    (h : svGenerator env type num = some r) :
    UInt32.ofNat r.2.length = UInt32.ofNat type.pps.toInt.toNat ∧
      r.1.m_ieds.length = num.toNat := by
  simp only [svGenerator, Option.bind_eq_bind, Option.bind_eq_some_iff] at h
  obtain ⟨msg, _, units, hunits, h⟩ := h
  obtain rfl := Option.some.inj h
  unfold SVTrafficGen.createTxUnits at hunits
  split_ifs at hunits
  obtain rfl := Option.some.inj hunits
  constructor
  · rw [List.length_map, List.length_range]
  · show (List.map _ _).length = _
    rw [List.length_map, List.length_range]

lemma factory_rsv (type : SvType) : Factory (.rsv app.m_rframe.mode type)
    (UInt32.ofNat type.pps.toInt.toNat) (app.rsvFactory env type) where
  ieds h := by
    simp only [rsvFactory, Option.bind_eq_bind, Option.bind_eq_some_iff] at h
    obtain ⟨_, _, _, _, _, _, gen, hgen, h⟩ := h
    obtain rfl := Option.some.inj h
    exact RSVTrafficGen.length_ieds hgen
  units h := by
    simp only [rsvFactory, Option.bind_eq_bind, Option.bind_eq_some_iff] at h
    obtain ⟨_, _, l2, hl2, _, _, gen, _, h⟩ := h
    obtain rfl := Option.some.inj h
    exact (length_svGenerator hl2).1
  same h h' := by
    simp only [rsvFactory, Option.bind_eq_bind, Option.bind_eq_some_iff] at h h'
    obtain ⟨_, _, _, _, msg, hmsg, gen, hgen, h⟩ := h
    obtain ⟨_, _, _, _, msg', hmsg', gen', hgen', h'⟩ := h'
    obtain rfl := Option.some.inj (hmsg.symm.trans hmsg')
    obtain rfl := Option.some.inj h
    obtain rfl := Option.some.inj h'
    exact RoutableGen.skeleton_eq (RSVTrafficGen.parts_of_make hgen).1
      (RSVTrafficGen.parts_of_make hgen').1

/-- The workers of routable streams are at most as many as the streams and as the lcores. -/
lemma workers_le {opts : GenOptions} (happ : GenApplication.make env opts = .ok app)
    (hpos : 0 < app.rNum) : app.m_workerNum ≤ app.rNum ∧ app.m_workerNum ≤ env.lcoreCount := by
  unfold make at happ
  cases hcfg : GenConfig.ofOptions opts with
  | error => simp [hcfg, Except.map] at happ
  | ok cfg =>
    rw [hcfg] at happ
    obtain rfl := Except.ok.inj happ
    show workerNum env cfg ≤ cfg.rNum ∧ workerNum env cfg ≤ env.lcoreCount
    rw [workerNum, if_pos hpos, UInt32.min_def]
    split_ifs with hle
    · exact ⟨hle, UInt32.le_refl _⟩
    · exact ⟨UInt32.le_refl _, (UInt32.le_total _ _).resolve_left hle⟩

/-- The loops that a burst run enters are for the streams that were asked for, at their rate. -/
theorem serves_of_runBurst {opts : GenOptions} (happ : GenApplication.make env opts = .ok app)
    (h : app.runBurst env = some l) : l.Serves env app.streams app.rate := by
  unfold runBurst at h
  split_ifs at h
  unfold runBurstCycles at h
  unfold GenConfig.streams GenConfig.rate
  by_cases hgoose : app.m_gooseNum > 0
  · rw [if_pos hgoose] at h
    rw [if_pos hgoose, if_pos hgoose]
    obtain ⟨msg, -, h⟩ := Option.bind_eq_some_iff.mp h
    refine serves_l2Burst hgoose ?_ keepsSize_goose h
    show (List.map _ _).length = _
    rw [List.length_map, List.length_range]
  rw [if_neg hgoose] at h
  rw [if_neg hgoose, if_neg hgoose]
  by_cases hsv : app.m_sv80Num > 0 ∨ app.m_sv256Num > 0
  · rw [if_pos hsv] at h
    obtain ⟨r, hr, h⟩ := Option.bind_eq_some_iff.mp h
    obtain ⟨hunits, hieds⟩ := length_svGenerator hr
    rw [hunits] at h
    by_cases hsv80 : app.m_sv80Num > 0
    · simp only [if_pos hsv80] at h hieds ⊢
      exact serves_l2Burst hsv80 hieds (keepsSize_sv _) h
    · have hsv256 := hsv.resolve_left hsv80
      simp only [if_neg hsv80, if_pos hsv256] at h hieds ⊢
      exact serves_l2Burst hsv256 hieds (keepsSize_sv _) h
  rw [if_neg hsv] at h
  rw [not_or] at hsv
  rw [if_neg hsv.1, if_neg hsv.1, if_neg hsv.2, if_neg hsv.2]
  have hl2 : app.l2 = false := by
    simp [GenConfig.l2, hgoose, hsv.1, hsv.2]
  have hworkers : 0 < app.rNum → _ := workers_le happ
  have hrNum : app.rNum = if app.m_rgooseNum ≠ 0 then app.m_rgooseNum
      else if app.m_rsv80Num ≠ 0 then app.m_rsv80Num else app.m_rsv256Num := by
    rw [GenConfig.rNum, hl2]
    rfl
  rw [hrNum] at hworkers ⊢
  simp only [gt_iff_lt, UInt32.pos_iff_ne_zero] at h hworkers ⊢
  by_cases hrgoose : app.m_rgooseNum ≠ 0
  · rw [if_pos hrgoose] at h hworkers ⊢
    rw [if_pos hrgoose]
    obtain ⟨hle, hlcores⟩ := hworkers hrgoose
    exact serves_rBurst factory_rgoose hle hlcores (keepsSize_rgoose _) h
  rw [if_neg hrgoose] at h hworkers ⊢
  rw [if_neg hrgoose]
  by_cases hrsv80 : app.m_rsv80Num ≠ 0
  · rw [if_pos (.inl hrsv80)] at h
    simp only [if_pos hrsv80] at h hworkers ⊢
    obtain ⟨hle, hlcores⟩ := hworkers hrsv80
    exact serves_rBurst (factory_rsv .SV80) hle hlcores (keepsSize_rsv _ _) h
  · by_cases hrsv256 : app.m_rsv256Num ≠ 0
    · rw [if_pos (.inr hrsv256)] at h
      simp only [if_neg hrsv80] at h hworkers ⊢
      obtain ⟨hle, hlcores⟩ := hworkers hrsv256
      exact serves_rBurst (factory_rsv .SV256) hle hlcores (keepsSize_rsv _ _) h
    · rw [if_neg (not_or.mpr ⟨hrsv80, hrsv256⟩)] at h
      cases h

end GenApplication

end Launch

/-! ### A second of all workers -/

lemma map_everyStream {n : ℕ} (h : n < 2 ^ 32) :
    (everyStream n).map (·.idx.toNat) = List.range n := by
  rw [everyStream, List.map_map]
  refine (List.map_congr_left fun s hs => ?_).trans (List.map_id _)
  exact UInt32.toNat_ofNat_of_lt' ((List.mem_range.mp hs).trans h)

/-- The streams of a plan. -/
lemma map_makeBurstPlan (streams reps : UInt32) : (makeBurstPlan streams reps).map (·.idx.toNat) =
    (List.replicate reps.toNat (List.range streams.toNat)).flatten := by
  rw [makeBurstPlan_eq, List.map_flatten, List.map_replicate, map_everyStream streams.toNat_lt]

/-- The plan of a worker is its part of the plan for all streams, in the same order. -/
lemma map_plan_slice {num reps workers : UInt32} (w : Fin workers.toNat) :
    (makeBurstPlan ((iedSlice num workers (UInt32.ofNat w)).2 -
        (iedSlice num workers (UInt32.ofNat w)).1) reps).map
      (fun d => (iedSlice num workers (UInt32.ofNat w)).1.toNat + d.idx.toNat) =
    ((makeBurstPlan num reps).map (·.idx.toNat)).filter
      (Slices.InSlice num.toNat workers.toNat w ·) := by
  obtain ⟨hnat, hlt⟩ := toNat_ofNat_of_lt w.isLt
  have hlo := (toNat_iedSlice num hlt).1
  have hlen := @toNat_sub_iedSlice num workers _ hlt
  rw [hnat] at hlo hlen
  have hsplit : ∀ plan : List PacketDesc,
      plan.map (fun d => (iedSlice num workers (UInt32.ofNat w)).1.toNat + d.idx.toNat) =
        (plan.map (·.idx.toNat)).map
          ((iedSlice num workers (UInt32.ofNat w)).1.toNat + ·) := by
    intro plan
    rw [List.map_map]
    rfl
  rw [hsplit, map_makeBurstPlan, map_makeBurstPlan, List.map_flatten, List.map_replicate,
    List.filter_flatten, List.map_replicate, Slices.filter_range w.isLt, hlen, hlo]

namespace BurstState

variable {σ : Type}

/-- What worker `w` of so many sends in a second of `num` streams: the NIC has taken all that was
amended, and that is the worker's part of the plan for all streams, in order. -/
structure SendsSlice (num reps workers : UInt32) (w : ℕ) (s : BurstState σ) : Prop where
  sent : s.secondAccepted.map Prod.snd = s.secondAmended.map Prod.snd
  streams : s.secondAmended.map
      (fun a => (iedSlice num workers (UInt32.ofNat w)).1.toNat + a.1.idx.toNat) =
    ((makeBurstPlan num reps).map (·.idx.toNat)).filter
      (Slices.InSlice num.toNat workers.toNat w ·)

/-- The frames of a stream in the second of a worker. -/
lemma SendsSlice.count_eq {num reps workers : UInt32} {w i : ℕ} {s : BurstState σ}
    (h : s.SendsSlice num reps workers w) (hi : i < num.toNat) :
    (s.secondAmended.map fun a =>
      (iedSlice num workers (UInt32.ofNat w)).1.toNat + a.1.idx.toNat).count i =
      if Slices.InSlice num.toNat workers.toNat w i then reps.toNat else 0 := by
  rw [h.streams, map_makeBurstPlan]
  split_ifs with hslice
  · rw [List.count_filter (p := fun x => decide (Slices.InSlice num.toNat workers.toNat w x))
      (decide_eq_true hslice), List.count_flatten, List.map_replicate, List.sum_replicate,
      List.count_range]
    simp [hi]
  · apply List.count_eq_zero_of_not_mem
    intro hmem
    exact hslice (of_decide_eq_true (List.mem_filter.mp hmem).2)

end BurstState

section Runs

variable {env : GenEnv} {opts : GenOptions} {app : GenApplication} {l : BurstLaunch}
  {num reps : UInt32} {ticksPerSec secStartTick : UInt64}
  {ws : Fin l.workers.toNat → TxWorker l.Gen}

lemma BurstLaunch.starts (l : BurstLaunch) (w : Fin l.workers.toNat) :
    (l.start ticksPerSec secStartTick w).Starts { gen := l.gens w, mbufs := l.mbufs } :=
  .burstWorker _ _ _

namespace BurstLaunch.Serves

/-- The plans stay within the streams of the workers. -/
lemma mem_plans (h : l.Serves env num reps) (w : Fin l.workers.toNat) :
    ∀ d ∈ l.plans w, d.idx.toNat < (l.kind.ieds (l.gens w)).length := by
  intro d hd
  rw [h.ieds]
  rw [h.plans] at hd
  have hmem := List.mem_map_of_mem (f := fun d : PacketDesc => d.idx.toNat) hd
  rw [map_makeBurstPlan] at hmem
  obtain ⟨streams, hstreams, hmem⟩ := List.mem_flatten.mp hmem
  rw [(List.mem_replicate.mp hstreams).2] at hmem
  exact List.mem_range.mp hmem

lemma fleetSound (h : l.Serves env num reps)
    (hreach : ReflTransGen (FleetStep l.kind.amendDesc) (l.start ticksPerSec secStartTick) ws) :
    FleetSound l.kind l.gens (l.start ticksPerSec secStartTick) ws :=
  fleetSound_of_reach h.keepsSize h.unused (l.starts ·) h.mem_plans hreach

/-- Each worker is in its burst loop. -/
lemma exists_sound (h : l.Serves env num reps)
    (hreach : ReflTransGen (FleetStep l.kind.amendDesc) (l.start ticksPerSec secStartTick) ws)
    (w : Fin l.workers.toNat) :
    ∃ s, ws w = .burst (l.plans w) ticksPerSec s ∧ s.Sound (l.plans w) := by
  have halone := (h.fleetSound hreach).alone w
  generalize hw : ws w = worker at halone
  cases halone with
  | burst hreach => exact ⟨_, rfl, BurstState.sound_of_reach ⟨rfl, rfl, rfl, rfl, rfl⟩ hreach⟩

/-- What a worker has sent when its second is over and the run is not. -/
lemma sendsSlice (h : l.Serves env num reps) {w : Fin l.workers.toNat} {s : BurstState l.Gen}
    (hsound : s.Sound (l.plans w)) (hfired : s.pc = .fired) (hwork : s.doWork = true) :
    s.SendsSlice num reps l.workers w := by
  unfold BurstState.Sound at hsound
  rw [hfired] at hsound
  obtain ⟨hsecond, hstaged, hsent⟩ := hsound
  have hdescs := hsecond.descs
  rw [hstaged, List.take_length] at hdescs
  constructor
  · rw [hsecond.sent, hsent hwork, hstaged]
    apply List.take_of_length_le
    rw [List.length_map, ← List.length_map (f := Prod.fst), hdescs]
  · rw [← map_plan_slice w, ← h.plans w, ← hdescs, List.map_map]
    rfl

end BurstLaunch.Serves

/-- Every burst run, whatever the pool, the NIC and the clock do and however the workers take
turns: a worker amends IEDs of its own generator only; what the NIC takes from it in a second is
its part of the plan for all streams, in order; and the seconds of all workers have every stream as
often as was asked for. -/
theorem burst_seconds_whole (happ : GenApplication.make env opts = .ok app)
    (hl : app.runBurst env = some l)
    (hreach : ReflTransGen (FleetStep l.kind.amendDesc) (l.start ticksPerSec secStartTick) ws) :
    (∀ w, ∀ a ∈ (ws w).tx.amended, a.1.idx.toNat < (l.kind.ieds (l.gens w)).length) ∧
    (∀ w plan tps s, ws w = .burst plan tps s → s.pc = .fired → s.doWork = true →
      s.SendsSlice app.streams app.rate l.workers w) ∧
    ∀ s : Fin l.workers.toNat → BurstState l.Gen,
      (∀ w, ∃ plan tps, ws w = .burst plan tps (s w) ∧ (s w).pc = .fired ∧ (s w).doWork = true) →
      ∀ i < app.streams.toNat, ∑ w, ((s w).secondAmended.map fun a =>
        (iedSlice app.streams l.workers (UInt32.ofNat w)).1.toNat + a.1.idx.toNat).count i =
        app.rate.toNat := by
  have hserves := GenApplication.serves_of_runBurst happ hl
  have hslice : ∀ w plan tps s, ws w = .burst plan tps s → s.pc = .fired → s.doWork = true →
      s.SendsSlice app.streams app.rate l.workers w := by
    intro w plan tps s hw hfired hwork
    obtain ⟨s', hs', hsound⟩ := hserves.exists_sound hreach w
    rw [hw] at hs'
    cases hs'
    exact hserves.sendsSlice hsound hfired hwork
  refine ⟨fun w a ha => ?_, hslice, fun s hs i hi => ?_⟩
  · obtain ⟨pool, ⟨buffers, -, hrun⟩, hshows⟩ := (hserves.fleetSound hreach).run
    have hlog : (a.1.idx, a.2.data) ∈ pool.log w := by
      rw [(hshows w).amended]
      exact List.mem_map_of_mem (f := fun a : PacketDesc × Mbuf => (a.1.idx, a.2.data)) ha
    obtain ⟨e, he, heq⟩ := List.mem_map.mp hlog
    obtain ⟨he, hw⟩ := List.mem_filter.mp he
    have hkey := Pool.key_of_mem_sent rfl hrun e he
    rwa [of_decide_eq_true hw, (Prod.mk.inj heq).1] at hkey
  · have hcount : ∀ w, ((s w).secondAmended.map fun a =>
        (iedSlice app.streams l.workers (UInt32.ofNat w)).1.toNat + a.1.idx.toNat).count i =
        if Slices.InSlice app.streams.toNat l.workers.toNat w i then app.rate.toNat else 0 := by
      intro w
      obtain ⟨plan, tps, hw, hfired, hwork⟩ := hs w
      exact (hslice w plan tps (s w) hw hfired hwork).count_eq hi
    simp only [hcount]
    obtain ⟨w, hw, hmem⟩ := Slices.exists_inSlice (k := l.workers.toNat) hserves.pos hi
    rw [Finset.sum_eq_single ⟨w, hw⟩]
    · exact if_pos hmem
    · intro w' _ hne
      apply if_neg
      intro hmem'
      exact hne (Fin.ext (hmem'.unique hmem))
    · exact fun hnot => absurd (Finset.mem_univ _) hnot

/-! ### The pool is large enough -/

lemma totalBurst_eq {workers : ℕ} (plans : Fin workers → List PacketDesc) :
    totalBurst plans = UInt64.ofNat (∑ w, (plans w).length) := by
  have hfold : ∀ (l : List (List PacketDesc)) (n : ℕ),
      l.foldl (fun n p => n + UInt64.ofNat p.length) (UInt64.ofNat n) =
        UInt64.ofNat (n + (l.map List.length).sum) := by
    intro l
    induction l with
    | nil => exact fun _ => rfl
    | cons p l ih =>
      intro n
      rw [List.foldl_cons, ← UInt64.ofNat_add, ih, List.map_cons, List.sum_cons, Nat.add_assoc]
  have hsum : (List.ofFn fun w => (plans w).length) = (List.ofFn plans).map List.length :=
    List.map_ofFn.symm
  rw [totalBurst, ← List.sum_ofFn, hsum]
  exact (hfold _ 0).trans (congrArg UInt64.ofNat (Nat.zero_add _))

namespace BurstLaunch.Serves

/-- The plans of all workers, put together. -/
lemma sum_plans (h : l.Serves env num reps) :
    ∑ w, (l.plans w).length = num.toNat * reps.toNat := by
  have hlen : ∀ w, (l.plans w).length =
      (Slices.bound num.toNat l.workers.toNat (w + 1) -
        Slices.bound num.toNat l.workers.toNat w) * reps.toNat := by
    intro w
    obtain ⟨hnat, hlt⟩ := toNat_ofNat_of_lt w.isLt
    have hslice := @toNat_sub_iedSlice num l.workers _ hlt
    rw [hnat] at hslice
    have hstreams := congrArg List.length (map_makeBurstPlan
      ((iedSlice num l.workers (UInt32.ofNat w)).2 - (iedSlice num l.workers (UInt32.ofNat w)).1)
      reps)
    rw [List.length_map, List.length_flatten, List.map_replicate, List.sum_replicate,
      List.length_range, hslice, smul_eq_mul, Nat.mul_comm] at hstreams
    rw [h.plans, hstreams]
  have hpos : 0 < l.workers.toNat := h.pos
  simp only [hlen]
  rw [← Finset.sum_mul, Fin.sum_univ_eq_sum_range (fun i =>
    Slices.bound num.toNat l.workers.toNat (i + 1) - Slices.bound num.toNat l.workers.toNat i),
    Slices.sum_size hpos]

/-- What is staged, what waits in the TX rings and what is in the caches fits the pool. -/
lemma fits_nat (h : l.Serves env num reps) {platform : Platform} (henv : env.On platform) :
    ∑ w, (l.plans w).length + l.workers.toNat *
      (env.GENERATOR_TX_DESC.toNat + env.MEMPOOL_CACHE_SIZE.toNat) <
        env.GENERATOR_MBUF_NUM.toNat := by
  have hfits := h.fits
  have hworkers : l.workers.toNat < 2 ^ 16 := lt_of_le_of_lt h.lcores henv.lcores
  have htx : env.GENERATOR_TX_DESC.toNat ≤ 65535 ∧ env.MEMPOOL_CACHE_SIZE.toNat = 64 := by
    rw [henv.txDesc, henv.cache]
    cases platform <;> decide
  have hstaged : num.toNat * reps.toNat ≤ (2 ^ 32 - 1) * (2 ^ 32 - 1) :=
    Nat.mul_le_mul (Nat.le_sub_one_of_lt num.toNat_lt) (Nat.le_sub_one_of_lt reps.toNat_lt)
  have hring : l.workers.toNat * env.GENERATOR_TX_DESC.toNat ≤ 2 ^ 16 * 65535 :=
    Nat.mul_le_mul hworkers.le htx.1
  have hcache : l.workers.toNat * env.MEMPOOL_CACHE_SIZE.toNat ≤ 2 ^ 16 * 64 :=
    Nat.mul_le_mul hworkers.le htx.2.le
  rw [checkBurstFits, totalBurst_eq, h.sum_plans, decide_eq_true_eq, UInt64.lt_iff_toNat_lt,
    UInt64.toNat_add, UInt64.toNat_add, UInt64.toNat_mul, UInt64.toNat_mul,
    UInt64.toNat_ofNat_of_lt' (hstaged.trans_lt (by decide)), UInt32.toNat_toUInt64,
    UInt32.toNat_toUInt64, UInt32.toNat_toUInt64, UInt32.toNat_toUInt64,
    Nat.mod_eq_of_lt (hring.trans_lt (by decide)), Nat.mod_eq_of_lt (hcache.trans_lt (by decide)),
    Nat.mod_add_mod, Nat.mod_eq_of_lt (by omega)] at hfits
  rw [h.sum_plans, Nat.mul_add, ← Nat.add_assoc]
  exact hfits

end BurstLaunch.Serves

/-- What a worker holds is at most a plan. -/
lemma BurstState.Sound.exists_held {σ : Type} {plan : List PacketDesc} {s : BurstState σ}
    (h : s.Sound plan) : ∃ held, s.Accounts held ∧ held.length ≤ plan.length ∧
      (s.pc = .staging → held.length = s.stagedNum) := by
  have hsecond : ∀ {n}, s.Second plan n → (s.pc = .staging → n = 0) →
      ∃ held, s.Accounts held ∧ held.length ≤ plan.length ∧
        (s.pc = .staging → held.length = s.stagedNum) := by
    intro n h hn
    refine ⟨_, h.accounts, ?_, fun hpc => ?_⟩
    · rw [Window.length_window]
      exact (Nat.sub_le _ _).trans h.staged_le
    · rw [Window.length_window, hn hpc, Nat.sub_zero]
  unfold Sound at h
  cases hpc : s.pc with
  | loop | finished | thrown =>
    rw [hpc] at h
    exact ⟨[], h.accounts, Nat.zero_le _, nofun⟩
  | staging =>
    rw [hpc] at h
    simpa only [hpc] using hsecond h fun _ => rfl
  | staged =>
    rw [hpc] at h
    simpa only [hpc] using hsecond h.1 fun _ => rfl
  | firing | fired =>
    rw [hpc] at h
    simpa only [hpc] using hsecond h.1 fun hstaging => absurd (hpc.symm.trans hstaging) nofun

/-- A worker that stages gets the mbufs of its next chunk, from those that are not idle. -/
lemma exists_chunk (hserves : l.Serves env num reps) {platform : Platform}
    (henv : env.On platform)
    (hreach : ReflTransGen (FleetStep l.kind.amendDesc) (l.start ticksPerSec secStartTick) ws)
    {w : Fin l.workers.toNat} {s : BurstState l.Gen}
    (hw : ws w = .burst (l.plans w) ticksPerSec s) (hpc : s.pc = .staging)
    (hmore : s.stagedNum < (l.plans w).length) {idle : Finset ℕ}
    (hidle : idle.card ≤ l.workers.toNat *
      (env.GENERATOR_TX_DESC.toNat + env.MEMPOOL_CACHE_SIZE.toNat)) :
    ∃ ms : List ℕ, s.Gives (min BURST_SIZE ((l.plans w).length - s.stagedNum)) ms ∧
      (∀ m ∈ ms, m < env.GENERATOR_MBUF_NUM.toNat ∧ m ∉ idle) ∧
      ∀ w', w' ≠ w → ∀ m ∈ ms, ¬ Ledger.InHand (ws w').tx.got (ws w').tx.back m := by
  have hheld : ∀ w', ∃ held, (ws w').tx.Accounts held ∧ held.length ≤ (l.plans w').length ∧
      (w' = w → held.length = s.stagedNum) := by
    intro w'
    obtain ⟨s', hw', hsound⟩ := hserves.exists_sound hreach w'
    obtain ⟨held, haccounts, hlen, hstaging⟩ := hsound.exists_held
    refine ⟨held, by rw [hw']; exact haccounts, hlen, ?_⟩
    rintro rfl
    rw [hw] at hw'
    cases hw'
    exact hstaging hpc
  choose held haccounts hlen hself using hheld
  -- the plan of `w` has room for what it has not staged
  have hsum : ∑ w', (held w').length + ((l.plans w).length - s.stagedNum) ≤
      ∑ w', (l.plans w').length := by
    have hrest := Finset.sum_le_sum fun w' (_ : w' ∈ Finset.univ.erase w) => hlen w'
    have hheld := Finset.add_sum_erase Finset.univ (fun w' => (held w').length)
      (Finset.mem_univ w)
    have hplans := Finset.add_sum_erase Finset.univ (fun w' => (l.plans w').length)
      (Finset.mem_univ w)
    rw [hself w rfl] at hheld
    omega
  have hfits := hserves.fits_nat henv
  have hmin : min BURST_SIZE ((l.plans w).length - s.stagedNum) ≤
      (l.plans w).length - s.stagedNum := Nat.min_le_right _ _
  obtain ⟨ms, hnum, hnodup, hms⟩ := @Ledger.exists_free ℕ _ _ _
    (Finset.range env.GENERATOR_MBUF_NUM.toNat) idle held
    (min BURST_SIZE ((l.plans w).length - s.stagedNum)) (by rw [Finset.card_range]; omega)
  have hfree : ∀ w', ∀ m ∈ ms, ¬ Ledger.InHand (ws w').tx.got (ws w').tx.back m := by
    intro w' m hm
    rw [(haccounts w').balanced.inHand_iff]
    exact (hms m hm).2.2 w'
  refine ⟨ms, ⟨hnum, hnodup, ?_⟩, fun m hm => ?_, fun w' _ => hfree w'⟩
  · have hown := hfree w
    rwa [hw] at hown
  · exact ⟨Finset.mem_range.mp (hms m hm).1, (hms m hm).2.1⟩

variable (l ws) in
/-- Worker `w` alone goes on, from `s` to `s'`. It gets mbufs of the pool that are not idle. -/
structure StagesAlone (ws' : Fin l.workers.toNat → TxWorker l.Gen) (ticksPerSec : UInt64)
    (w : Fin l.workers.toNat) (s s' : BurstState l.Gen) (mbufNum : ℕ) (idle : Finset ℕ) :
    Prop where
  reach : ReflTransGen (FleetStep l.kind.amendDesc) ws ws'
  self : ws' w = .burst (l.plans w) ticksPerSec s'
  others : ∀ w', w' ≠ w → ∃ mbufs, ws' w' = (ws w').setMbufs mbufs
  got : ∃ ms, s'.got = s.got ++ ms ∧ ∀ m ∈ ms, m < mbufNum ∧ m ∉ idle

lemma setMbufs_setMbufs {σ : Type} (worker : TxWorker σ) (mbufs mbufs' : ℕ → Mbuf) :
    (worker.setMbufs mbufs).setMbufs mbufs' = worker.setMbufs mbufs' := by
  cases worker <;> rfl

lemma StagesAlone.trans {ws' ws'' : Fin l.workers.toNat → TxWorker l.Gen}
    {w : Fin l.workers.toNat} {s s' s'' : BurstState l.Gen} {mbufNum : ℕ} {idle : Finset ℕ}
    (h : StagesAlone l ws ws' ticksPerSec w s s' mbufNum idle)
    (h' : StagesAlone l ws' ws'' ticksPerSec w s' s'' mbufNum idle) :
    StagesAlone l ws ws'' ticksPerSec w s s'' mbufNum idle where
  reach := h.reach.trans h'.reach
  self := h'.self
  others w' hne := by
    obtain ⟨mbufs, heq⟩ := h.others w' hne
    obtain ⟨mbufs', heq'⟩ := h'.others w' hne
    exact ⟨mbufs', by rw [heq', heq, setMbufs_setMbufs]⟩
  got := by
    obtain ⟨ms, hgot, hms⟩ := h.got
    obtain ⟨ms', hgot', hms'⟩ := h'.got
    refine ⟨ms ++ ms', by rw [hgot', hgot, List.append_assoc], fun m hm => ?_⟩
    exact (List.mem_append.mp hm).elim (hms m) (hms' m)

/-- A step of worker `w` while it stages. -/
lemma exists_stagesAlone {w : Fin l.workers.toNat} {s s' : BurstState l.Gen} {ms : List ℕ}
    {inp : BurstInput} {mbufNum : ℕ} {idle : Finset ℕ}
    (hw : ws w = .burst (l.plans w) ticksPerSec s) (hallows : s.Allows (l.plans w) inp)
    (hnext : burstStep l.kind.amendDesc (l.plans w) ticksPerSec inp s = s')
    (hgiven : inp.alloc.getD [] = ms) (hgot : s'.got = s.got ++ ms)
    (hms : ∀ m ∈ ms, m < mbufNum ∧ m ∉ idle)
    (hfree : ∀ w', w' ≠ w → ∀ m ∈ ms, ¬ Ledger.InHand (ws w').tx.got (ws w').tx.back m) :
    ∃ ws', StagesAlone l ws ws' ticksPerSec w s s' mbufNum idle := by
  have hstep : (ws w).Step l.kind.amendDesc ms (.burst (l.plans w) ticksPerSec s') := by
    rw [hw, ← hgiven, ← hnext]
    exact .burst _ _ s inp hallows
  refine ⟨_, .single (.work ws w ms _ hstep hfree), if_pos rfl, fun w' hne => ?_, ms, hgot, hms⟩
  exact ⟨_, if_neg hne⟩

/-- A worker gets its next chunk. -/
lemma exists_stagesAlone_chunk (hserves : l.Serves env num reps) {platform : Platform}
    (henv : env.On platform)
    (hreach : ReflTransGen (FleetStep l.kind.amendDesc) (l.start ticksPerSec secStartTick) ws)
    {w : Fin l.workers.toNat} {s : BurstState l.Gen}
    (hw : ws w = .burst (l.plans w) ticksPerSec s) (hpc : s.pc = .staging)
    (hwork : s.doWork = true) (hmore : s.stagedNum < (l.plans w).length) {idle : Finset ℕ}
    (hidle : idle.card ≤ l.workers.toNat *
      (env.GENERATOR_TX_DESC.toNat + env.MEMPOOL_CACHE_SIZE.toNat)) :
    ∃ ws' s', StagesAlone l ws ws' ticksPerSec w s s' env.GENERATOR_MBUF_NUM.toNat idle ∧
      s'.pc = .staging ∧ s'.doWork = true ∧
      s'.stagedNum = s.stagedNum + min BURST_SIZE ((l.plans w).length - s.stagedNum) := by
  obtain ⟨ms, hgives, hms, hfree⟩ := exists_chunk hserves henv hreach hw hpc hmore hidle
  let inp : BurstInput := { alloc := some ms }
  let tx := (s.toTxState.allocBulk ms).amendBulk l.kind.amendDesc
    (ms.zip (((l.plans w).drop s.stagedNum).take
      (min BURST_SIZE ((l.plans w).length - s.stagedNum))))
  have hbooks : TxState.AmendsOnly (s.toTxState.allocBulk ms) tx :=
    TxState.amendsOnly_amendBulk _ _ _
  have hallows : s.Allows (l.plans w) inp := by
    constructor
    · intro _ ms' hms'
      exact Option.some.inj hms' ▸ hgives
    · intro hfiring
      rw [hpc] at hfiring
      cases hfiring
  have hnext : burstStep l.kind.amendDesc (l.plans w) ticksPerSec inp s =
      { s with
        toTxState := tx
        staged := Window.store s.staged s.stagedNum ms
        stagedNum := s.stagedNum + min BURST_SIZE ((l.plans w).length - s.stagedNum) } := by
    unfold burstStep
    rw [hpc]
    exact if_pos ⟨hmore, hwork⟩
  obtain ⟨ws', hstages⟩ := exists_stagesAlone hw hallows hnext rfl hbooks.got hms hfree
  exact ⟨ws', _, hstages, hpc, hbooks.doWork.trans hwork, rfl⟩

/-- A worker that has staged its plan goes on. -/
lemma exists_stagesAlone_end {w : Fin l.workers.toNat} {s : BurstState l.Gen}
    (hw : ws w = .burst (l.plans w) ticksPerSec s) (hpc : s.pc = .staging)
    (hend : ¬ s.stagedNum < (l.plans w).length) (mbufNum : ℕ) (idle : Finset ℕ) :
    ∃ ws', StagesAlone l ws ws' ticksPerSec w s { s with pc := .staged } mbufNum idle := by
  have hallows : s.Allows (l.plans w) {} := by
    constructor
    · intro _ ms hms
      cases hms
    · intro hfiring
      rw [hpc] at hfiring
      cases hfiring
  have hnext : burstStep l.kind.amendDesc (l.plans w) ticksPerSec {} s =
      { s with pc := .staged } := by
    unfold burstStep
    rw [hpc]
    exact if_neg fun h => hend h.1
  apply exists_stagesAlone hw hallows hnext rfl (List.append_nil _).symm
  · intro m hm
    cases hm
  · intro w' _ m hm
    cases hm

/-- A worker that stages can go on until its plan is staged. -/
lemma exists_staged (hserves : l.Serves env num reps) {platform : Platform}
    (henv : env.On platform)
    (hreach : ReflTransGen (FleetStep l.kind.amendDesc) (l.start ticksPerSec secStartTick) ws)
    {w : Fin l.workers.toNat} {s : BurstState l.Gen}
    (hw : ws w = .burst (l.plans w) ticksPerSec s) (hpc : s.pc = .staging)
    (hwork : s.doWork = true) {idle : Finset ℕ}
    (hidle : idle.card ≤ l.workers.toNat *
      (env.GENERATOR_TX_DESC.toNat + env.MEMPOOL_CACHE_SIZE.toNat)) :
    ∃ ws' s', StagesAlone l ws ws' ticksPerSec w s s' env.GENERATOR_MBUF_NUM.toNat idle ∧
      s'.pc = .staged ∧ s'.doWork = true ∧ s'.stagedNum = (l.plans w).length := by
  -- by induction on what is left to stage
  induction hleft : (l.plans w).length - s.stagedNum using Nat.strong_induction_on
    generalizing ws s with
  | _ n ih =>
    by_cases hmore : s.stagedNum < (l.plans w).length
    · obtain ⟨ws', s', hstages, hpc', hwork', hnum⟩ :=
        exists_stagesAlone_chunk hserves henv hreach hw hpc hwork hmore hidle
      have hless : (l.plans w).length - s'.stagedNum < n := by
        have hburst : 0 < min BURST_SIZE ((l.plans w).length - s.stagedNum) :=
          Nat.lt_min.mpr ⟨by decide, Nat.sub_pos_of_lt hmore⟩
        omega
      obtain ⟨ws'', s'', hrest, hend⟩ :=
        ih _ hless (hreach.trans hstages.reach) hstages.self hpc' hwork' rfl
      exact ⟨ws'', s'', hstages.trans hrest, hend⟩
    · obtain ⟨ws', hstages⟩ := exists_stagesAlone_end hw hpc hmore
        env.GENERATOR_MBUF_NUM.toNat idle
      refine ⟨ws', _, hstages, rfl, hwork, le_antisymm ?_ (not_lt.mp hmore)⟩
      obtain ⟨s', hs', hsound⟩ := hserves.exists_sound hreach w
      rw [hw] at hs'
      cases hs'
      unfold BurstState.Sound at hsound
      rw [hpc] at hsound
      exact hsound.staged_le

/-- Whenever a worker of a burst run stages, it can go on until its whole second is staged, whatever
mbufs the others hold and whichever of the pool are idle in TX rings and caches, as long as these
are no more than the rings and caches have room for. -/
theorem burst_never_starves (happ : GenApplication.make env opts = .ok app)
    (hl : app.runBurst env = some l) {platform : Platform} (henv : env.On platform)
    (hreach : ReflTransGen (FleetStep l.kind.amendDesc) (l.start ticksPerSec secStartTick) ws)
    {w : Fin l.workers.toNat} {s : BurstState l.Gen}
    (hw : ws w = .burst (l.plans w) ticksPerSec s) (hpc : s.pc = .staging)
    (hwork : s.doWork = true) (idle : Finset ℕ)
    (hidle : idle.card ≤ l.workers.toNat *
      (env.GENERATOR_TX_DESC.toNat + env.MEMPOOL_CACHE_SIZE.toNat)) :
    ∃ ws' s', StagesAlone l ws ws' ticksPerSec w s s' env.GENERATOR_MBUF_NUM.toNat idle ∧
      s'.pc = .staged ∧ s'.doWork = true ∧ s'.stagedNum = (l.plans w).length :=
  exists_staged (GenApplication.serves_of_runBurst happ hl) henv hreach hw hpc hwork hidle

end Runs

/-! ### `--goose 2,3 --burst` -/

namespace GenApplication

def sampleBurstOptions : GenOptions := { goose := some [2, 3], burst := true }

def sampleLaunch : BurstLaunch where
  Gen := GooseTrafficGen
  Ied := GooseSourceIED
  kind := .goose
  workers := 1
  gens := fun _ => .make sampleGooseMessage 2
  plans := fun _ => makeBurstPlan 2 3
  mbufs := (sampleGenEnv.filled (GooseTrafficGen.make sampleGooseMessage 2).m_skeleton
    sampleGooseMessage.size (GooseTrafficGen.make sampleGooseMessage 2)).mbufs

lemma runBurst_sample : ∃ app, make sampleGenEnv sampleBurstOptions = .ok app ∧
    app.streams = 2 ∧ app.rate = 3 ∧ app.runBurst sampleGenEnv = some sampleLaunch :=
  ⟨_, rfl, rfl, rfl, rfl⟩

lemma on_sampleGenEnv : sampleGenEnv.On .qemu := ⟨rfl, rfl, rfl, by decide⟩

/-- The loop, as it begins and when it stages. -/
def sampleBurstStart : BurstState GooseTrafficGen :=
  txBurstWorkerCycle (makeBurstPlan 2 3) 0 {
    gen := .make sampleGooseMessage 2, mbufs := sampleLaunch.mbufs }

def sampleStaging : BurstState GooseTrafficGen :=
  burstStep GenKind.goose.amendDesc (makeBurstPlan 2 3) 10 {} sampleBurstStart

/-- A second in which the NIC takes all. -/
def sampleInputs : List BurstInput :=
  [{ alloc := some [0, 1, 2, 3, 4, 5] }, {}, {}, { nb := 6 }, {}]

lemma reach_sample {ws : Fin sampleLaunch.workers.toNat → TxWorker GooseTrafficGen}
    {s : BurstState GooseTrafficGen} (inp : BurstInput)
    (hreach : ReflTransGen (FleetStep GenKind.goose.amendDesc) (sampleLaunch.start 10 0) ws)
    (hw : ∀ w, ws w = .burst (makeBurstPlan 2 3) 10 s)
    (hallows : s.Allows (makeBurstPlan 2 3) inp) :
    ∃ ws', ReflTransGen (FleetStep GenKind.goose.amendDesc) (sampleLaunch.start 10 0) ws' ∧
      ∀ w, ws' w = .burst (makeBurstPlan 2 3) 10
        (burstStep GenKind.goose.amendDesc (makeBurstPlan 2 3) 10 inp s) := by
  have : Subsingleton (Fin sampleLaunch.workers.toNat) := inferInstanceAs (Subsingleton (Fin 1))
  have hstep : (ws ⟨0, Nat.one_pos⟩).Step GenKind.goose.amendDesc (inp.alloc.getD [])
      (.burst (makeBurstPlan 2 3) 10
        (burstStep GenKind.goose.amendDesc (makeBurstPlan 2 3) 10 inp s)) := by
    rw [hw]
    exact .burst _ _ s inp hallows
  refine ⟨_, hreach.tail (.work ws _ _ _ hstep fun w hne => ?_), fun w => ?_⟩
  · exact absurd (Subsingleton.elim w _) hne
  · exact if_pos (Subsingleton.elim w _)

lemma reach_sampleStaging : ∃ ws,
    ReflTransGen (FleetStep GenKind.goose.amendDesc) (sampleLaunch.start 10 0) ws ∧
    ∀ w, ws w = .burst (makeBurstPlan 2 3) 10 sampleStaging :=
  reach_sample (s := sampleBurstStart) {} .refl (fun _ => rfl) ⟨nofun, nofun⟩

/-- The mbufs of the TX ring and of the cache are idle. -/
theorem burst_never_starves_sample : ∃ ws ws' s',
    StagesAlone sampleLaunch ws ws' 10 ⟨0, Nat.one_pos⟩ sampleStaging s' (128 * 1024)
      (Finset.range 1088) ∧ s'.pc = .staged ∧ s'.stagedNum = 6 := by
  obtain ⟨app, happ, -, -, hl⟩ := runBurst_sample
  obtain ⟨ws, hreach, hws⟩ := reach_sampleStaging
  obtain ⟨ws', s', hstages, hpc, -, hnum⟩ := burst_never_starves happ hl on_sampleGenEnv hreach
    (hws ⟨0, Nat.one_pos⟩) rfl rfl (Finset.range 1088) (Finset.card_range 1088).le
  exact ⟨ws, ws', s', hstages, hpc, hnum⟩

/-- The loop when its second is over. -/
def sampleFired : BurstState GooseTrafficGen :=
  sampleInputs.foldl
    (fun s inp => burstStep GenKind.goose.amendDesc (makeBurstPlan 2 3) 10 inp s) sampleStaging

lemma reach_sampleFired : ∃ ws,
    ReflTransGen (FleetStep GenKind.goose.amendDesc) (sampleLaunch.start 10 0) ws ∧
    ∀ w, ws w = .burst (makeBurstPlan 2 3) 10 sampleFired := by
  obtain ⟨ws, hreach, hws⟩ := reach_sampleStaging
  have hgives : sampleStaging.Gives 6 [0, 1, 2, 3, 4, 5] :=
    ⟨rfl, by decide, fun m _ hm => Nat.not_lt_zero _ hm⟩
  obtain ⟨ws, hreach, hws⟩ := reach_sample { alloc := some [0, 1, 2, 3, 4, 5] } hreach hws
    ⟨fun _ ms hms => Option.some.inj hms ▸ hgives, nofun⟩
  obtain ⟨ws, hreach, hws⟩ := reach_sample {} hreach hws ⟨nofun, nofun⟩
  obtain ⟨ws, hreach, hws⟩ := reach_sample {} hreach hws ⟨nofun, nofun⟩
  obtain ⟨ws, hreach, hws⟩ := reach_sample { nb := 6 } hreach hws
    ⟨nofun, fun _ => le_refl 6⟩
  exact reach_sample {} hreach hws ⟨nofun, fun _ => Nat.zero_le _⟩

/-- Two streams, three times. -/
theorem burst_seconds_whole_sample : sampleFired.pc = .fired ∧ sampleFired.doWork = true ∧
    sampleFired.SendsSlice 2 3 1 0 ∧
    ((makeBurstPlan 2 3).map (·.idx.toNat)).filter (Slices.InSlice 2 1 0 ·) =
      [0, 1, 0, 1, 0, 1] := by
  obtain ⟨app, happ, hstreams, hrate, hl⟩ := runBurst_sample
  obtain ⟨ws, hreach, hws⟩ := reach_sampleFired
  have hslice := (burst_seconds_whole happ hl hreach).2.1 ⟨0, Nat.one_pos⟩ _ _ _
    (hws ⟨0, Nat.one_pos⟩) rfl rfl
  rw [hstreams, hrate] at hslice
  exact ⟨rfl, rfl, hslice, by decide⟩

end GenApplication

end ProcessBus
