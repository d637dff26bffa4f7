import ProcessBus.Generator.Burst
import ProcessBus.Lib.Beats

/-!
# Bursts and the clock

The burst loop counts on from its second to the next one and waits for it. If it has staged for
longer than that, it goes on from the time at which it has noticed, and `tx_late` says so. What the
wait returns is not looked at, so a burst may begin late without moving the next one.

So no burst is due less than a second after the one before, each begins between the tick at which it
is due and that of the next one, and the loop never sends more than its plan for each second that
has gone by. The bursts are due on the seconds that the workers have in common as long as `tx_late`
is zero, and not any more once it is not.
-/

namespace ProcessBus

open Relation

variable {σ : Type} {amend : Amend σ} {plan : List PacketDesc} {ticksPerSec : UInt64}

/-- The burst loop and the clock. -/
structure ClockedBurst (σ : Type) where
  loop : BurstState σ
  /-- What the clock has shown last. -/
  clock : ℕ
  /-- The bursts so far: the tick at which each was due, and the tick at which it began. -/
  bursts : List (ℕ × ℕ) := []

/-- The loop goes on, time goes by, or the world around does something. -/
inductive ClockedStep (amend : Amend σ) (plan : List PacketDesc) (ticksPerSec : UInt64) :
    ClockedBurst σ → ClockedBurst σ → Prop
  | run (s : ClockedBurst σ) (inp : BurstInput) (h : s.loop.Allows plan inp)
      (hpc : ¬ (s.loop.pc = .staged ∧ s.loop.doWork = true)) :
      ClockedStep amend plan ticksPerSec s
        { s with loop := burstStep amend plan ticksPerSec inp s.loop }
  -- the loop reads the clock and waits for its second; the counter is not at its end
  | fire (s : ClockedBurst σ) (inp : BurstInput) (clock : ℕ) (h : s.loop.Allows plan inp)
      (hpc : s.loop.pc = .staged) (hwork : s.loop.doWork = true)
      (hnow : s.clock ≤ inp.now.toNat) (hrange : inp.now.toNat + ticksPerSec.toNat < 2 ^ 64)
      (hwait : (burstStep amend plan ticksPerSec inp s.loop).secStartTick.toNat ≤ clock)
      (hclock : inp.now.toNat ≤ clock) :
      ClockedStep amend plan ticksPerSec s {
        loop := burstStep amend plan ticksPerSec inp s.loop
        clock := clock
        bursts := s.bursts ++
          [((burstStep amend plan ticksPerSec inp s.loop).secStartTick.toNat, clock)] }
  | tick (s : ClockedBurst σ) (clock : ℕ) (h : s.clock ≤ clock) :
      ClockedStep amend plan ticksPerSec s { s with clock := clock }
  | stop (s : ClockedBurst σ) :
      ClockedStep amend plan ticksPerSec s { s with loop := { s.loop with doWork := false } }
  | world (s : ClockedBurst σ) (mbufs : ℕ → Mbuf) (h : s.loop.Keeps mbufs) :
      ClockedStep amend plan ticksPerSec s { s with loop := { s.loop with mbufs := mbufs } }

/-- The loop begins at the tick that was read behind the barrier. -/
def ClockedBurst.start (plan : List PacketDesc) (secStartTick : UInt64) (t : TxState σ) :
    ClockedBurst σ where
  loop := txBurstWorkerCycle plan secStartTick t
  clock := secStartTick.toNat

namespace ClockedBurst

/-- The ticks at which the bursts were due. -/
def seconds (s : ClockedBurst σ) : List ℕ := s.bursts.map Prod.fst

variable {s s' : ClockedBurst σ} {inp : BurstInput}

/-- Without the clock it is a run of the loop. -/
lemma loop_of_reach (h : ReflTransGen (ClockedStep amend plan ticksPerSec) s s') :
    ReflTransGen (BurstStep amend plan ticksPerSec) s.loop s'.loop := by
  induction h with
  | refl => exact .refl
  | tail _ hstep ih =>
    cases hstep with
    | run inp h _ => exact ih.tail (.run _ inp h)
    | fire inp _ h => exact ih.tail (.run _ inp h)
    | tick => exact ih
    | stop => exact ih.tail (.stop _)
    | world mbufs h => exact ih.tail (.world _ mbufs h)

end ClockedBurst

namespace BurstState

variable {s : BurstState σ} {inp : BurstInput}

/-- A step that does not read the clock. -/
structure Quiet (s s' : BurstState σ) : Prop where
  secStartTick : s'.secStartTick = s.secStartTick
  txLateCnt : s'.stat.txLateCnt = s.stat.txLateCnt

variable (amend plan ticksPerSec inp) in
lemma quiet_burstStep (h : ¬ (s.pc = .staged ∧ s.doWork = true)) :
    s.Quiet (burstStep amend plan ticksPerSec inp s) := by
  unfold burstStep
  cases hpc : s.pc with
  | loop =>
    dsimp only
    split_ifs <;> exact ⟨rfl, rfl⟩
  | staging =>
    dsimp only
    split_ifs with hmore
    · cases inp.alloc with
      | none => exact ⟨rfl, rfl⟩
      | some ms =>
        have hbooks := TxState.amendsOnly_amendBulk amend (s.allocBulk ms)
          (ms.zip ((plan.drop s.stagedNum).take (min BURST_SIZE (plan.length - s.stagedNum))))
        exact ⟨rfl, congrArg GenAppStat.txLateCnt hbooks.stat⟩
    · exact ⟨rfl, rfl⟩
  | staged =>
    dsimp only
    rw [if_neg fun hwork => h ⟨hpc, hwork⟩]
    exact ⟨rfl, rfl⟩
  | firing | fired =>
    dsimp only
    split_ifs <;> exact ⟨rfl, rfl⟩
  | finished | thrown => exact ⟨rfl, rfl⟩

variable (amend plan inp) in
/-- The step that reads the clock goes on to the next second, or to now if that is over. -/
lemma secStartTick_fire (hpc : s.pc = .staged) (hwork : s.doWork = true)
    (hrange : s.secStartTick.toNat + ticksPerSec.toNat < 2 ^ 64) :
    (burstStep amend plan ticksPerSec inp s).secStartTick.toNat =
        max (s.secStartTick.toNat + ticksPerSec.toNat) inp.now.toNat ∧
      (burstStep amend plan ticksPerSec inp s).stat.txLateCnt = s.stat.txLateCnt +
        if (burstStep amend plan ticksPerSec inp s).secStartTick.toNat =
          s.secStartTick.toNat + ticksPerSec.toNat then 0 else 1 := by
  have hadd : (s.secStartTick + ticksPerSec).toNat =
      s.secStartTick.toNat + ticksPerSec.toNat := by
    rw [UInt64.toNat_add]
    exact Nat.mod_eq_of_lt hrange
  unfold burstStep
  rw [hpc]
  dsimp only
  rw [if_pos hwork]
  by_cases hlate : inp.now > s.secStartTick + ticksPerSec
  · simp only [if_pos hlate]
    rw [gt_iff_lt, UInt64.lt_iff_toNat_lt, hadd] at hlate
    exact ⟨(max_eq_right hlate.le).symm, (congrArg _ (if_neg hlate.ne')).symm⟩
  · simp only [if_neg hlate]
    rw [gt_iff_lt, UInt64.lt_iff_toNat_lt, hadd, Nat.not_lt] at hlate
    rw [hadd, max_eq_left hlate, if_pos rfl]
    exact ⟨rfl, (UInt64.add_zero _).symm⟩

/-- In `k` seconds the NIC gets at most `k` plans. The last one may still be under way. -/
def Within (plan : List PacketDesc) (k : ℕ) (s : BurstState σ) : Prop :=
  match s.pc with
  | .firing | .fired => s.accepted.length + plan.length ≤ plan.length * k + s.sent
  | _ => s.accepted.length ≤ plan.length * k

variable {k : ℕ}

lemma Within.le (h : s.Within plan k) (hsound : s.Sound plan) :
    s.accepted.length ≤ plan.length * k := by
  unfold Within at h
  unfold Sound at hsound
  cases hpc : s.pc with
  | firing | fired =>
    rw [hpc] at h hsound
    have hsent := hsound.1.sent_le.trans hsound.1.staged_le
    dsimp only at h
    omega
  | loop | staging | staged | finished | thrown =>
    rw [hpc] at h
    exact h

/-- Where nothing is sent, nothing changes. -/
lemma within_of_le {s' : BurstState σ} (hle : s.accepted.length ≤ plan.length * k)
    (haccepted : s'.accepted = s.accepted) (hfiring : s'.pc ≠ .firing) (hfired : s'.pc ≠ .fired) :
    s'.Within plan k := by
  unfold Within
  rw [haccepted]
  cases hpc : s'.pc with
  | firing => exact absurd hpc hfiring
  | fired => exact absurd hpc hfired
  | loop | staging | staged | finished | thrown => exact hle

lemma Within.step (h : s.Within plan k) (hsound : s.Sound plan) (hallows : s.Allows plan inp)
    (hquiet : ¬ (s.pc = .staged ∧ s.doWork = true)) :
    (burstStep amend plan ticksPerSec inp s).Within plan k := by
  have hle := h.le hsound
  unfold burstStep
  cases hpc : s.pc with
  | loop =>
    dsimp only
    split_ifs
    · exact within_of_le hle rfl nofun nofun
    · exact within_of_le hle rfl nofun nofun
  | staging =>
    have hsame : ∀ s' : BurstState σ, s'.accepted = s.accepted →
        s'.pc = .staging ∨ s'.pc = .staged → s'.Within plan k := by
      intro s' haccepted hpc'
      rcases hpc' with hpc' | hpc'
      · exact within_of_le hle haccepted (by rw [hpc']; nofun) (by rw [hpc']; nofun)
      · exact within_of_le hle haccepted (by rw [hpc']; nofun) (by rw [hpc']; nofun)
    dsimp only
    split_ifs
    · cases inp.alloc with
      | none => exact hsame s rfl (.inl hpc)
      | some ms =>
        exact hsame _ (TxState.amendsOnly_amendBulk _ _ _).accepted (.inl rfl)
    · exact hsame _ rfl (.inr rfl)
  | staged =>
    dsimp only
    rw [if_neg fun hwork => hquiet ⟨hpc, hwork⟩]
    exact within_of_le hle rfl nofun nofun
  | firing =>
    have htakes := hallows.takes hpc
    unfold Within at h
    rw [hpc] at h
    dsimp only at h ⊢
    by_cases hmore : s.sent < s.stagedNum ∧ s.doWork = true
    · rw [if_pos hmore]
      show (s.accepted ++ _).length + plan.length ≤ plan.length * k + (s.sent + inp.nb)
      rw [List.length_append, List.length_map, List.length_take, Window.length_window]
      omega
    · rw [if_neg hmore]
      exact h
  | fired =>
    dsimp only
    apply within_of_le hle
    · dsimp only
      split_ifs <;> rfl
    · nofun
    · nofun
  | finished | thrown => exact within_of_le hle rfl (by rw [hpc]; nofun) (by rw [hpc]; nofun)

lemma Within.fire (h : s.Within plan k) (hpc : s.pc = .staged) (hwork : s.doWork = true) :
    (burstStep amend plan ticksPerSec inp s).Within plan (k + 1) := by
  unfold Within at h
  unfold burstStep
  rw [hpc] at h ⊢
  dsimp only at h ⊢
  rw [if_pos hwork]
  show s.accepted.length + plan.length ≤ plan.length * (k + 1) + 0
  rw [Nat.mul_succ]
  exact Nat.add_le_add_right h _

end BurstState

namespace ClockedBurst

variable {s s' : ClockedBurst σ} {start : UInt64} {t : TxState σ}

lemma seconds_append {loop : BurstState σ} {clock : ℕ} {x : ℕ × ℕ} :
    seconds ⟨loop, clock, s.bursts ++ [x]⟩ = s.seconds ++ [x.1] := List.map_append

/-- Where a loop that began at `start` has got to. -/
structure Cadence (plan : List PacketDesc) (ticksPerSec start : UInt64) (s : ClockedBurst σ) :
    Prop where
  due : s.loop.secStartTick.toNat = Beats.last start.toNat s.seconds
  past : s.loop.secStartTick.toNat ≤ s.clock
  spaced : Beats.Spaced ticksPerSec.toNat start.toNat s.seconds
  late : s.loop.stat.txLateCnt =
    UInt64.ofNat (Beats.late ticksPerSec.toNat start.toNat s.seconds)
  within : s.loop.Within plan s.seconds.length
  begun : ∀ x ∈ s.bursts, x.1 ≤ x.2 ∧ x.2 ≤ s.clock
  ordered : s.bursts.Pairwise fun x y => x.2 ≤ y.1

/-- The boundary that the loop waits for, and whether it is a late one. -/
lemma Cadence.fire (h : s.Cadence plan ticksPerSec start) {inp : BurstInput} {clock : ℕ}
    (hpc : s.loop.pc = .staged) (hwork : s.loop.doWork = true) (hnow : s.clock ≤ inp.now.toNat)
    (hrange : inp.now.toNat + ticksPerSec.toNat < 2 ^ 64)
    (hwait : (burstStep amend plan ticksPerSec inp s.loop).secStartTick.toNat ≤ clock)
    (hclock : inp.now.toNat ≤ clock) :
    Cadence plan ticksPerSec start {
      loop := burstStep amend plan ticksPerSec inp s.loop
      clock := clock
      bursts := s.bursts ++
        [((burstStep amend plan ticksPerSec inp s.loop).secStartTick.toNat, clock)] } := by
  have hpast := h.past.trans hnow
  obtain ⟨hsec, hcnt⟩ := BurstState.secStartTick_fire amend plan inp hpc hwork
    ((Nat.add_le_add_right hpast _).trans_lt hrange)
  refine ⟨?_, hwait, ?_, ?_, ?_, ?_, ?_⟩
  · rw [seconds_append]
    exact Beats.last_append.symm
  · rw [seconds_append, Beats.spaced_append]
    refine ⟨h.spaced, ?_⟩
    rw [← h.due, hsec]
    exact le_max_left _ _
  · rw [seconds_append, hcnt, h.late, Beats.late_append, ← h.due, UInt64.ofNat_add]
    split_ifs <;> rfl
  · rw [seconds_append, List.length_append]
    exact h.within.fire hpc hwork
  · refine List.forall_mem_append.mpr ⟨fun x hx => ?_, List.forall_mem_singleton.mpr ⟨hwait, ?_⟩⟩
    · exact ⟨(h.begun x hx).1, (h.begun x hx).2.trans (hnow.trans hclock)⟩
    · exact le_refl _
  · -- what has begun has done so before the loop has read the clock again
    refine List.pairwise_append.mpr ⟨h.ordered, List.pairwise_singleton _ _, fun x hx y hy => ?_⟩
    rw [List.mem_singleton.mp hy, hsec]
    exact (h.begun x hx).2.trans (hnow.trans (le_max_right _ _))

lemma Cadence.step (h : s.Cadence plan ticksPerSec start) (hsound : s.loop.Sound plan)
    (hstep : ClockedStep amend plan ticksPerSec s s') : s'.Cadence plan ticksPerSec start := by
  cases hstep with
  | run inp hallows hpc =>
    have hquiet := BurstState.quiet_burstStep amend plan ticksPerSec inp hpc
    refine ⟨?_, ?_, h.spaced, ?_, h.within.step hsound hallows hpc, h.begun, h.ordered⟩
    · rw [hquiet.secStartTick]
      exact h.due
    · rw [hquiet.secStartTick]
      exact h.past
    · rw [hquiet.txLateCnt]
      exact h.late
  | fire inp clock _ hpc hwork hnow hrange hwait hclock =>
    exact h.fire hpc hwork hnow hrange hwait hclock
  | tick clock hclock =>
    exact ⟨h.due, h.past.trans hclock, h.spaced, h.late, h.within,
      fun x hx => ⟨(h.begun x hx).1, (h.begun x hx).2.trans hclock⟩, h.ordered⟩
  | stop | world => exact ⟨h.due, h.past, h.spaced, h.late, h.within, h.begun, h.ordered⟩

lemma cadence_of_reach (hfresh : t.Fresh)
    (h : ReflTransGen (ClockedStep amend plan ticksPerSec) (.start plan start t) s) :
    s.Cadence plan ticksPerSec start := by
  induction h with
  | refl =>
    refine ⟨rfl, le_refl _, trivial, ?_, ?_, List.forall_mem_nil _, .nil⟩
    · exact congrArg GenAppStat.txLateCnt hfresh.stat
    · show (txBurstWorkerCycle plan start t).Within plan 0
      unfold BurstState.Within txBurstWorkerCycle
      dsimp only
      rw [hfresh.accepted]
      split_ifs <;> exact Nat.zero_le _
  | tail hreach hstep ih =>
    exact ih.step (BurstState.sound_of_reach hfresh (loop_of_reach hreach)) hstep

/-- Whatever the clock shows, however long staging takes and however late a wait comes back, the
bursts are due at least a second apart, and each begins when it is due or later, but not later than
the next one is due. The loop hands the NIC at most its plan for each second that has gone by; and
its bursts are due on the whole seconds from the common start, the same for all workers, exactly as
long as `txLateCnt` is zero. -/
theorem burst_cadence (hfresh : t.Fresh) (hpos : 0 < ticksPerSec)
    (hreach : ReflTransGen (ClockedStep amend plan ticksPerSec) (.start plan start t) s) :
    Beats.Spaced ticksPerSec.toNat start.toNat s.seconds ∧
    (∀ x ∈ s.bursts, x.1 ≤ x.2) ∧ (s.bursts.Pairwise fun x y => x.2 ≤ y.1) ∧
    s.seconds.length * ticksPerSec.toNat ≤ s.clock - start.toNat ∧
    s.loop.accepted.length * ticksPerSec.toNat ≤ plan.length * (s.clock - start.toNat) ∧
    (s.loop.stat.txLateCnt = 0 ↔ s.seconds =
      (List.range s.seconds.length).map fun j => start.toNat + (j + 1) * ticksPerSec.toNat) := by
  have hcadence := cadence_of_reach hfresh hreach
  have hsound := BurstState.sound_of_reach hfresh (loop_of_reach hreach)
  have hlast := hcadence.spaced.le_last
  have htime : s.seconds.length * ticksPerSec.toNat ≤ s.clock - start.toNat := by
    have hpast := hcadence.past
    rw [hcadence.due] at hpast
    omega
  refine ⟨hcadence.spaced, fun x hx => (hcadence.begun x hx).1, hcadence.ordered, htime, ?_, ?_⟩
  · calc s.loop.accepted.length * ticksPerSec.toNat
        ≤ plan.length * s.seconds.length * ticksPerSec.toNat :=
          Nat.mul_le_mul_right _ (hcadence.within.le hsound)
      _ = plan.length * (s.seconds.length * ticksPerSec.toNat) := Nat.mul_assoc _ _ _
      _ ≤ plan.length * (s.clock - start.toNat) := Nat.mul_le_mul_left _ htime
  · -- the counter does not wrap: there are fewer bursts than ticks
    have hcount : Beats.late ticksPerSec.toNat start.toNat s.seconds < 2 ^ 64 := by
      have hlen : s.seconds.length ≤ s.seconds.length * ticksPerSec.toNat :=
        Nat.le_mul_of_pos_right _ hpos
      have hdue := s.loop.secStartTick.toNat_lt
      rw [hcadence.due] at hdue
      exact Beats.late_le_length.trans_lt (by omega)
    rw [hcadence.late, ← Beats.late_eq_zero_iff, ← UInt64.toNat_inj,
      UInt64.toNat_ofNat_of_lt' hcount]
    rfl

end ClockedBurst

/-! Two seconds of ten ticks. The first wait comes back late, the second burst is staged late. -/

def sampleClocked : ClockedBurst Unit where
  loop := [({} : BurstInput), { alloc := some [0] }, {}, { now := 105 }, { nb := 1 }, {}, {},
    {}, { alloc := some [0] }, {}, { now := 130 }].foldl
    (fun s inp => burstStep sampleAmend [⟨0⟩] 10 inp s)
    (txBurstWorkerCycle [⟨0⟩] 100 sampleTxState)
  clock := 131
  bursts := [(110, 119), (130, 131)]

lemma reach_sampleClocked : ReflTransGen (ClockedStep sampleAmend [⟨0⟩] 10)
    (.start [⟨0⟩] 100 sampleTxState) sampleClocked := by
  refine .head (.run _ {} ⟨nofun, nofun⟩ nofun) ?_
  refine .head (.run _ { alloc := some [0] } ⟨fun _ ms hms => ?_, nofun⟩ nofun) ?_
  · obtain rfl := Option.some.inj hms
    exact ⟨rfl, List.pairwise_singleton _ 0, fun m _ hm => absurd hm (Nat.not_lt_zero _)⟩
  refine .head (.run _ {} ⟨nofun, nofun⟩ nofun) ?_
  refine .head (.fire _ { now := 105 } 119 ⟨nofun, nofun⟩ rfl rfl ?_ ?_ ?_ ?_) ?_
  any_goals decide
  refine .head (.run _ { nb := 1 } ⟨nofun, fun _ => le_refl 1⟩ nofun) ?_
  refine .head (.run _ {} ⟨nofun, fun _ => Nat.zero_le _⟩ nofun) ?_
  refine .head (.run _ {} ⟨nofun, nofun⟩ nofun) ?_
  refine .head (.run _ {} ⟨nofun, nofun⟩ nofun) ?_
  refine .head (.run _ { alloc := some [0] } ⟨fun _ ms hms => ?_, nofun⟩ nofun) ?_
  · obtain rfl := Option.some.inj hms
    exact ⟨rfl, List.pairwise_singleton _ 0, fun m _ hm => absurd hm (Nat.lt_irrefl _)⟩
  refine .head (.run _ {} ⟨nofun, nofun⟩ nofun) ?_
  refine .single (.fire _ { now := 130 } 131 ⟨nofun, nofun⟩ rfl rfl ?_ ?_ ?_ ?_)
  all_goals decide

theorem burst_cadence_sample : sampleClocked.loop.accepted.length * 10 ≤ 31 ∧
    Beats.Spaced 10 100 [110, 130] ∧ (∀ x ∈ [(110, 119), (130, 131)], x.1 ≤ x.2) ∧
    [(110, 119), (130, 131)].Pairwise (fun x y => x.2 ≤ y.1) ∧
    sampleClocked.loop.stat.txLateCnt = 1 := by
  obtain ⟨hspaced, hbegun, hordered, -, hrate, -⟩ :=
    ClockedBurst.burst_cadence fresh_sampleTxState (by decide) reach_sampleClocked
  exact ⟨hrate, hspaced, hbegun, hordered, rfl⟩

end ProcessBus
