import ProcessBus.Generator.Schedule
import Mathlib.Data.Fintype.Basic

/-!
# The seconds of the workers

`run_r_workers` starts the seconds of its workers together: they meet at a barrier, one of them
reads the clock, and behind a second barrier all take the same tick. From then on every worker keeps
its own `secStartTick`. It waits until the boundary of the next second has passed and goes on from
the tick that ended the wait. So the seconds stay together exactly as long as no worker reads the
clock behind the boundary it waits for.

What a worker sends between two waits is in `ProcessBus.Generator.Steady`.
-/

namespace ProcessBus

/-! ### The clock -/

/-- `Clocks::delay_us_to_ticks` -/
def delayUsToTicks (ticksPerSec delayUs : UInt64) : UInt64 := delayUs * ticksPerSec / 1000000

/-- One round of the loop in `Clocks::delay_until_ticks`: the tick it returns, if it does. -/
def delayUntilTicks (ticks target : UInt64) : Option UInt64 :=
  if ticks < target then none else some ticks

/-! ### A worker -/

/-- Where a worker is in `tx_r_worker_cycle`. -/
inductive PulsePc where
  /-- In front of the first barrier. -/
  | enter
  | barrier1
  /-- Behind it, as the thread that reads the clock. -/
  | serial
  /-- Between the barriers. -/
  | between
  | barrier2
  /-- Behind the second barrier. -/
  | copy
  /-- At the head of the loop. -/
  | send
  /-- Waiting for the next unit. -/
  | pause
  /-- Waiting for the next second. -/
  | pulse
  | done
  deriving DecidableEq

namespace PulsePc

/-- How many barriers the worker has passed. -/
def passed : PulsePc → ℕ
  | .enter | .barrier1 => 0
  | .serial | .between | .barrier2 => 1
  | _ => 2

/-- The worker has its start tick. -/
def Started (pc : PulsePc) : Prop := pc = .send ∨ pc = .pause ∨ pc = .pulse ∨ pc = .done

instance (pc : PulsePc) : Decidable pc.Started := inferInstanceAs (Decidable (_ ∨ _ ∨ _ ∨ _))

lemma Started.passed_eq {pc : PulsePc} (h : pc.Started) : pc.passed = 2 := by
  rcases h with rfl | rfl | rfl | rfl <;> rfl

end PulsePc

structure PulseWorker where
  pc : PulsePc := .enter
  secStartTick : UInt64 := 0
  txUnitIdx : ℕ := 0
  /-- The number of the second the worker is in. The source does not count them. -/
  second : ℕ := 0

/-- What the threads share, and their local variables. -/
structure PulseState (workers : ℕ) where
  doWork : Bool := true
  /-- What a reading of the clock gives. -/
  ticks : UInt64
  /-- `RTxControl::startTick` -/
  startTick : UInt64 := 0
  worker : Fin workers → PulseWorker := fun _ => {}

inductive PulseAct (workers : ℕ) where
  /-- The clock goes on. -/
  | tick (ticks : UInt64)
  /-- The stop flag is cleared. -/
  | stop
  /-- A worker comes to a barrier. -/
  | arrive (w : Fin workers)
  /-- All are at the first barrier, and one of them is to be the serial thread. -/
  | open1 (serial : Fin workers)
  /-- All are at the second barrier. -/
  | open2
  /-- A worker goes on; in a wait it reads the clock once. -/
  | run (w : Fin workers)
  deriving DecidableEq

variable {workers : ℕ} (ticksPerSec : UInt64) (txUnits : Fin workers → List TxUnit)

namespace PulseState

/-- Change the variables of one worker. -/
def set (s : PulseState workers) (w : Fin workers) (v : PulseWorker) : PulseState workers :=
  { s with worker := Function.update s.worker w v }

/-- What a worker does behind the barriers, the stores to its own variables. -/
def loop (s : PulseState workers) (units : List TxUnit) (v : PulseWorker) : Option PulseWorker :=
  match v.pc with
  | .copy => some { v with pc := .send, secStartTick := s.startTick }
  | .send =>
    if s.doWork then
      if v.txUnitIdx < units.length then
        let txUnitIdx := (v.txUnitIdx + 1) % units.length
        some { v with
          pc := if txUnitIdx = 0 then .pulse else .pause
          txUnitIdx := txUnitIdx }
      else
        none  -- there is no such unit
    else
      some { v with pc := .done }
  | .pause =>
    let unit := units.getD v.txUnitIdx { blocks := [] }
    match delayUntilTicks s.ticks (v.secStartTick + delayUsToTicks ticksPerSec unit.offsetUS) with
    | none => some v
    | some _ => some { v with pc := .send }
  | .pulse =>
    match delayUntilTicks s.ticks (v.secStartTick + ticksPerSec) with
    | none => some v
    | some ticks => some { v with pc := .send, secStartTick := ticks, second := v.second + 1 }
  | _ => none

/-- One step of a thread or of the world around. -/
def step (s : PulseState workers) : PulseAct workers → Option (PulseState workers)
  | .tick ticks => if s.ticks ≤ ticks then some { s with ticks := ticks } else none
  | .stop => some { s with doWork := false }
  | .arrive w =>
    match (s.worker w).pc with
    | .enter => some (s.set w { s.worker w with pc := .barrier1 })
    | .between => some (s.set w { s.worker w with pc := .barrier2 })
    | _ => none
  | .open1 serial =>
    if ∀ w, (s.worker w).pc = .barrier1 then
      some { s with
        worker := fun w => { s.worker w with pc := if w = serial then .serial else .between } }
    else none
  | .open2 =>
    if ∀ w, (s.worker w).pc = .barrier2 then
      some { s with worker := fun w => { s.worker w with pc := .copy } }
    else none
  | .run w =>
    if (s.worker w).pc = .serial then
      some ({ s with startTick := s.ticks }.set w { s.worker w with pc := .between })
    else
      (s.loop ticksPerSec (txUnits w) (s.worker w)).map (s.set w)

/-- The states a run goes through. -/
def visited (s : PulseState workers) : List (PulseAct workers) → List (PulseState workers)
  | [] => [s]
  | a :: acts =>
    s :: match s.step ticksPerSec txUnits a with
      | none => []
      | some s' => visited s' acts

/-- The steps it takes, each with the state in front of it. -/
def taken (s : PulseState workers) :
    List (PulseAct workers) → List (PulseState workers × PulseAct workers)
  | [] => []
  | a :: acts =>
    match s.step ticksPerSec txUnits a with
    | none => []
    | some s' => (s, a) :: taken s' acts

/-! ### Seconds that stay together -/

/-- Where second `k` begins. -/
def boundary (s : PulseState workers) (k : ℕ) : UInt64 :=
  s.startTick + UInt64.ofNat k * ticksPerSec

/-- All workers count their seconds from the same tick. -/
def Aligned (s : PulseState workers) : Prop :=
  ∀ w, (s.worker w).pc.Started →
    (s.worker w).secStartTick = s.boundary ticksPerSec (s.worker w).second

/-- If a worker that waits for its next second reads the clock, the boundary has not passed. -/
def OnTime (s : PulseState workers) : PulseAct workers → Prop
  | .run w => (s.worker w).pc = .pulse →
    s.ticks ≤ s.boundary ticksPerSec ((s.worker w).second + 1)
  | _ => True

/-- A worker that comes to the wait for its next second does so before the boundary. -/
def Reaches (s : PulseState workers) : PulseAct workers → Prop
  | .run w => (s.worker w).pc = .send → s.doWork = true →
    ((s.worker w).txUnitIdx + 1) % (txUnits w).length = 0 →
    s.ticks < s.boundary ticksPerSec ((s.worker w).second + 1)
  | _ => True

instance (s : PulseState workers) : Decidable (s.Aligned ticksPerSec) :=
  inferInstanceAs (Decidable (∀ _, _))

instance (s : PulseState workers) (a : PulseAct workers) :
    Decidable (s.Reaches ticksPerSec txUnits a) := by
  cases a <;> unfold Reaches <;> infer_instance

variable {ticksPerSec txUnits} {s s' : PulseState workers} {a : PulseAct workers}

@[simp] lemma worker_set_self (w : Fin workers) (v : PulseWorker) : (s.set w v).worker w = v := by
  simp [set]

lemma worker_set_ne {w w' : Fin workers} (h : w' ≠ w) (v : PulseWorker) :
    (s.set w v).worker w' = s.worker w' := by
  simp [set, h]

lemma boundary_zero : s.boundary ticksPerSec 0 = s.startTick := by
  rw [boundary, show UInt64.ofNat 0 = 0 from rfl, UInt64.zero_mul, UInt64.add_zero]

lemma boundary_succ (k : ℕ) :
    s.boundary ticksPerSec (k + 1) = s.boundary ticksPerSec k + ticksPerSec := by
  rw [boundary, boundary, UInt64.ofNat_add, UInt64.add_mul, UInt64.add_assoc,
    show UInt64.ofNat 1 = 1 from rfl, UInt64.one_mul]

/-! ### One step -/

/-- What a worker can do behind the barriers. -/
lemma loop_cases {units : List TxUnit} {v v' : PulseWorker}
    (h : s.loop ticksPerSec units v = some v') :
    (v.pc = .copy ∧ v' = { v with pc := .send, secStartTick := s.startTick }) ∨
    (v.pc.Started ∧ v'.pc.Started ∧ v'.secStartTick = v.secStartTick ∧ v'.second = v.second ∧
      (v.pc = .pulse → s.ticks < v.secStartTick + ticksPerSec)) ∨
    (v.pc = .pulse ∧ v.secStartTick + ticksPerSec ≤ s.ticks ∧
      v' = { v with pc := .send, secStartTick := s.ticks, second := v.second + 1 }) := by
  obtain ⟨pc, secStartTick, txUnitIdx, second⟩ := v
  cases pc with
  | copy => exact .inl ⟨rfl, (Option.some.inj h).symm⟩
  | send =>
    refine .inr (.inl ?_)
    simp only [loop] at h
    split_ifs at h with _ _ hlast <;> obtain rfl := Option.some.inj h <;>
      simp [PulsePc.Started]
  | pause =>
    refine .inr (.inl ?_)
    simp only [loop] at h
    split at h <;> obtain rfl := Option.some.inj h <;> simp [PulsePc.Started]
  | pulse =>
    simp only [loop, delayUntilTicks] at h
    by_cases hlt : s.ticks < secStartTick + ticksPerSec
    · rw [if_pos hlt] at h
      obtain rfl := Option.some.inj h
      exact .inr (.inl ⟨by simp [PulsePc.Started], by simp [PulsePc.Started], rfl, rfl,
        fun _ => hlt⟩)
    · rw [if_neg hlt] at h
      exact .inr (.inr ⟨rfl, UInt64.not_lt.mp hlt, (Option.some.inj h).symm⟩)
  | _ => cases h

/-- The barriers keep the workers together, and nobody counts seconds in front of them. -/
structure Together (s : PulseState workers) : Prop where
  passed : ∀ w w', (s.worker w).pc.passed = (s.worker w').pc.passed
  second : ∀ w, ¬ (s.worker w).pc.Started → (s.worker w).second = 0

/-- A worker that passes no barrier. -/
lemma Together.set (h : s.Together) {w : Fin workers} {v : PulseWorker}
    (hpassed : v.pc.passed = (s.worker w).pc.passed) (hsecond : ¬ v.pc.Started → v.second = 0) :
    (s.set w v).Together := by
  have hkeep : ∀ w', ((s.set w v).worker w').pc.passed = (s.worker w').pc.passed := fun w' => by
    by_cases heq : w' = w
    · rw [heq, worker_set_self, hpassed]
    · rw [worker_set_ne heq]
  refine ⟨fun w₁ w₂ => ?_, fun w' hw' => ?_⟩
  · rw [hkeep, hkeep, h.passed]
  · by_cases heq : w' = w
    · rw [heq, worker_set_self] at hw' ⊢
      exact hsecond hw'
    · rw [worker_set_ne heq] at hw' ⊢
      exact h.second w' hw'

/-- Where the others are aligned, a worker's own start of the second decides. -/
lemma aligned_set_iff (h : s.Aligned ticksPerSec) {w : Fin workers} {v : PulseWorker} :
    (s.set w v).Aligned ticksPerSec ↔
      (v.pc.Started → v.secStartTick = s.boundary ticksPerSec v.second) := by
  constructor
  · intro hset hv
    have hw := hset w
    rw [worker_set_self] at hw
    exact hw hv
  · intro hv w' hw'
    by_cases heq : w' = w
    · rw [heq, worker_set_self] at hw' ⊢
      exact hv hw'
    · rw [worker_set_ne heq] at hw' ⊢
      exact h w' hw'

/-- A worker that has no start tick, in front of the barriers or between them, breaks nothing. -/
lemma Aligned.set (h : s.Aligned ticksPerSec) {w : Fin workers} {v : PulseWorker}
    (hv : ¬ v.pc.Started) : (s.set w v).Aligned ticksPerSec :=
  (aligned_set_iff h).mpr fun hs => absurd hs hv

/-- A worker comes to a barrier. -/
lemma step_arrive {w : Fin workers} (ht : s.Together) (ha : s.Aligned ticksPerSec)
    (h : s.step ticksPerSec txUnits (.arrive w) = some s') :
    s'.Together ∧ s'.Aligned ticksPerSec := by
  simp only [step] at h
  split at h
  · rename_i hpc
    obtain rfl := Option.some.inj h
    have hsecond := ht.second w (by rw [hpc]; decide)
    refine ⟨ht.set (by rw [hpc]; rfl) fun _ => hsecond, ha.set ?_⟩
    show ¬ PulsePc.barrier1.Started
    decide
  · rename_i hpc
    obtain rfl := Option.some.inj h
    have hsecond := ht.second w (by rw [hpc]; decide)
    refine ⟨ht.set (by rw [hpc]; rfl) fun _ => hsecond, ha.set ?_⟩
    show ¬ PulsePc.barrier2.Started
    decide
  · cases h

/-- A barrier opens, and nobody has a start tick in front of it or behind it. -/
lemma together_open (ht : s.Together) (pc : Fin workers → PulsePc) {n : ℕ}
    (hfront : ∀ w, ¬ (s.worker w).pc.Started) (hpassed : ∀ w, (pc w).passed = n)
    (hbehind : ∀ w, ¬ (pc w).Started) :
    Together { s with worker := fun w => { s.worker w with pc := pc w } } ∧
      Aligned ticksPerSec { s with worker := fun w => { s.worker w with pc := pc w } } :=
  ⟨⟨fun w w' => (hpassed w).trans (hpassed w').symm, fun w _ => ht.second w (hfront w)⟩,
    fun w hw => absurd hw (hbehind w)⟩

/-- The serial thread reads the clock while nobody has a start tick. -/
lemma step_serial {w : Fin workers} (ht : s.Together) (hserial : (s.worker w).pc = .serial)
    (h : s.step ticksPerSec txUnits (.run w) = some s') :
    s'.Together ∧ s'.Aligned ticksPerSec := by
  simp only [step, if_pos hserial] at h
  obtain rfl := Option.some.inj h
  have hnone : ∀ w', ¬ (s.worker w').pc.Started := fun w' hs => by
    have hpassed := ht.passed w' w
    rw [hs.passed_eq, hserial] at hpassed
    cases hpassed
  have ht' : Together { s with startTick := s.ticks } := ⟨ht.passed, ht.second⟩
  have ha' : Aligned ticksPerSec { s with startTick := s.ticks } := fun w' hs =>
    absurd hs (hnone w')
  refine ⟨ht'.set (by rw [hserial]; rfl) fun _ => ht.second w (hnone w), ha'.set ?_⟩
  show ¬ PulsePc.between.Started
  decide

/-- A worker goes on behind the barriers. It stays with the others unless it ends its wait behind
the boundary. -/
lemma step_loop {w : Fin workers} (ht : s.Together) (ha : s.Aligned ticksPerSec)
    (hserial : (s.worker w).pc ≠ .serial)
    (h : s.step ticksPerSec txUnits (.run w) = some s') :
    s'.Together ∧ (s'.Aligned ticksPerSec ↔ s.OnTime ticksPerSec (.run w)) := by
  simp only [step, if_neg hserial] at h
  obtain ⟨v, hloop, rfl⟩ := Option.map_eq_some_iff.mp h
  rcases loop_cases hloop with ⟨hpc, rfl⟩ | ⟨hpc, hpc', htick, hsecond, hwait⟩ |
    ⟨hpc, hpassed, rfl⟩
  · -- it takes the start tick
    have hfirst := ht.second w (by rw [hpc]; decide)
    refine ⟨ht.set (by rw [hpc]; rfl) fun _ => hfirst, iff_of_true ?_ ?_⟩
    · refine (aligned_set_iff ha).mpr fun _ => ?_
      rw [hfirst, boundary_zero]
    · intro hpulse
      rw [hpc] at hpulse
      cases hpulse
  · -- it stays in its second
    refine ⟨ht.set (by rw [hpc.passed_eq, hpc'.passed_eq]) fun hs => absurd hpc' hs,
      iff_of_true ?_ ?_⟩
    · refine (aligned_set_iff ha).mpr fun _ => ?_
      rw [htick, hsecond, ha w hpc]
    · intro hpulse
      rw [boundary_succ, ← ha w hpc]
      exact UInt64.le_of_lt (hwait hpulse)
  · -- it goes on from the tick it has read
    have hsend : PulsePc.send.Started := by decide
    have hstarted : (s.worker w).pc.Started := by rw [hpc]; decide
    rw [ha w hstarted, ← boundary_succ] at hpassed
    refine ⟨ht.set (by rw [hpc]; rfl) fun hs => absurd hsend hs, ?_⟩
    rw [aligned_set_iff ha]
    constructor
    · intro haligned _
      exact UInt64.le_of_eq (haligned hsend)
    · intro htime _
      exact UInt64.le_antisymm (htime hpc) hpassed

/-- A step keeps the workers together, and it keeps their seconds together if and only if it is on
time. -/
lemma step_aligned (ht : s.Together) (ha : s.Aligned ticksPerSec)
    (h : s.step ticksPerSec txUnits a = some s') :
    s'.Together ∧ (s'.Aligned ticksPerSec ↔ s.OnTime ticksPerSec a) := by
  cases a with
  | tick ticks =>
    simp only [step] at h
    split_ifs at h
    obtain rfl := Option.some.inj h
    exact ⟨⟨ht.passed, ht.second⟩, iff_of_true ha trivial⟩
  | stop =>
    obtain rfl := Option.some.inj h
    exact ⟨⟨ht.passed, ht.second⟩, iff_of_true ha trivial⟩
  | arrive w =>
    obtain ⟨ht', ha'⟩ := step_arrive ht ha h
    exact ⟨ht', iff_of_true ha' trivial⟩
  | open1 serial =>
    simp only [step] at h
    split_ifs at h with hall
    obtain rfl := Option.some.inj h
    have hfront : ∀ w, ¬ (s.worker w).pc.Started := fun w => by
      rw [hall w]
      decide
    obtain ⟨ht', ha'⟩ := together_open ht
      (fun w => if w = serial then .serial else .between) (n := 1) hfront
      (fun w => by split_ifs <;> rfl) (fun w => by split_ifs <;> decide)
    exact ⟨ht', iff_of_true ha' trivial⟩
  | open2 =>
    simp only [step] at h
    split_ifs at h with hall
    obtain rfl := Option.some.inj h
    have hfront : ∀ w, ¬ (s.worker w).pc.Started := fun w => by
      rw [hall w]
      decide
    obtain ⟨ht', ha'⟩ := together_open ht (fun _ => .copy) (n := 2) hfront
      (fun _ => rfl) (fun _ => by decide)
    exact ⟨ht', iff_of_true ha' trivial⟩
  | run w =>
    by_cases hserial : (s.worker w).pc = .serial
    · obtain ⟨ht', ha'⟩ := step_serial ht hserial h
      refine ⟨ht', iff_of_true ha' fun hpulse => ?_⟩
      rw [hserial] at hpulse
      cases hpulse
    · exact step_loop ht ha hserial h

/-! ### Runs -/

/-- The start of a run: nobody has come to a barrier. -/
def init (ticks : UInt64) : PulseState workers := { ticks := ticks }

lemma together_init (ticks : UInt64) : (init ticks : PulseState workers).Together :=
  ⟨fun _ _ => rfl, fun _ _ => rfl⟩

lemma aligned_init (ticks : UInt64) : (init ticks : PulseState workers).Aligned ticksPerSec :=
  fun _ (hs : PulsePc.enter.Started) => absurd hs (by decide)

lemma visited_aligned_iff (acts : List (PulseAct workers)) (ht : s.Together)
    (ha : s.Aligned ticksPerSec) :
    (∀ x ∈ s.visited ticksPerSec txUnits acts, x.Aligned ticksPerSec) ↔
      ∀ x ∈ s.taken ticksPerSec txUnits acts, x.1.OnTime ticksPerSec x.2 := by
  induction acts generalizing s with
  | nil => simp [visited, taken, ha]
  | cons a acts ih =>
    cases h : s.step ticksPerSec txUnits a with
    | none => simp [visited, taken, h, ha]
    | some s' =>
      obtain ⟨ht', hstep⟩ := step_aligned ht ha h
      simp only [visited, taken, h, List.forall_mem_cons, ha, true_and]
      rw [← hstep]
      constructor
      · intro hall
        have ha' : s'.Aligned ticksPerSec := hall s' (by cases acts <;> simp [visited])
        exact ⟨ha', (ih ht' ha').mp hall⟩
      · rintro ⟨ha', hall⟩
        exact (ih ht' ha').mpr hall

end PulseState

/-- In a run, all workers start every second `k` at the tick `startTick + k * ticksPerSec`, if and
only if none of them, while it waits for its next second, reads the clock behind the boundary. -/
theorem pulses_aligned_iff (ticksPerSec : UInt64) (txUnits : Fin workers → List TxUnit)
    (ticks : UInt64) (acts : List (PulseAct workers)) :
    (∀ s ∈ (PulseState.init ticks).visited ticksPerSec txUnits acts, s.Aligned ticksPerSec) ↔
      ∀ x ∈ (PulseState.init ticks).taken ticksPerSec txUnits acts, x.1.OnTime ticksPerSec x.2 :=
  PulseState.visited_aligned_iff acts (PulseState.together_init ticks)
    (PulseState.aligned_init ticks)

/-- Two workers with one unit a second, and ten ticks a second. Both wait for the next second from
tick 0 on and look at tick 9. One looks again at tick 10, the other at tick 12. -/
def driftingRun : List (PulseAct 2) :=
  [.arrive 0, .arrive 1, .open1 0, .run 0, .arrive 0, .arrive 1, .open2, .run 0, .run 1, .run 0,
    .run 1, .tick 9, .run 0, .run 1, .tick 10, .run 1, .tick 12, .run 0]

/-- From then on their seconds are two ticks apart, although both came to the wait in time. -/
theorem pulses_drift :
    (∀ x ∈ (PulseState.init 0).taken 10 (fun _ => [{ blocks := [] }]) driftingRun,
      x.1.Reaches 10 (fun _ => [{ blocks := [] }]) x.2) ∧
    (((PulseState.init 0).visited 10 (fun _ => [{ blocks := [] }]) driftingRun).map fun s =>
      ((s.worker 0).secStartTick, (s.worker 1).secStartTick)).getLast? = some (12, 10) ∧
    ¬ ∀ s ∈ (PulseState.init 0).visited 10 (fun _ => [{ blocks := [] }]) driftingRun,
      s.Aligned 10 := by
  decide +kernel

end ProcessBus
