import ProcessBus.Generator.Steady
import ProcessBus.Lib.Window

/-!
# The burst loop

`tx_burst_worker_cycle` stages a whole second first: it gets all the mbufs and amends them for the
plan. At the second boundary it offers them to the NIC, again and again until the NIC has taken all
of them. The stop flag is looked at before each of these calls; what is staged and has not been
taken then is freed.
-/

namespace ProcessBus

open Relation Window

variable {σ : Type} {amend : Amend σ} {plan : List PacketDesc}

/-! ### The loop -/

/-- Where the burst loop is. -/
inductive BurstPc where
  | loop  -- `while (doWork)`
  | staging  -- `while (stagedNum < total && doWork)`
  | staged  -- `if (!doWork)`
  | firing  -- `while (sent < stagedNum && doWork)`
  | fired
  | finished
  | thrown
  deriving DecidableEq

structure BurstState (σ : Type) extends TxState σ where
  pc : BurstPc := .loop
  /-- The elements of the vector `staged`. -/
  staged : ℕ → ℕ := fun _ => 0
  stagedNum : ℕ := 0
  sent : ℕ := 0
  secStartTick : UInt64 := 0
  /-- How many descriptors had been amended, and mbufs taken by the NIC, when the second began. -/
  secondStart : ℕ × ℕ := (0, 0)

/-- What the pool, the NIC and the clock answer. -/
structure BurstInput where
  alloc : Option (List ℕ) := none
  nb : ℕ := 0
  now : UInt64 := 0

/-- The loop up to the next point at which it looks at the flag. -/
def burstStep (amend : Amend σ) (plan : List PacketDesc) (ticksPerSec : UInt64) (inp : BurstInput)
    (s : BurstState σ) : BurstState σ :=
  let total := plan.length
  match s.pc with
  | .loop =>
    if s.doWork then
      { s with
        pc := .staging, stagedNum := 0, secondStart := (s.amended.length, s.accepted.length) }
    else
      { s with pc := .finished }
  | .staging =>
    if s.stagedNum < total ∧ s.doWork then
      match inp.alloc with
      | none => s  -- `rte_eth_tx_done_cleanup`
      | some ms =>
        { s with
          toTxState := (s.toTxState.allocBulk ms).amendBulk amend
            (ms.zip ((plan.drop s.stagedNum).take (min BURST_SIZE (total - s.stagedNum))))
          staged := store s.staged s.stagedNum ms
          stagedNum := s.stagedNum + min BURST_SIZE (total - s.stagedNum) }
    else
      { s with pc := .staged }
  | .staged =>
    if s.doWork then
      -- staging may have outrun its own second
      let late := inp.now > s.secStartTick + ticksPerSec
      { s with
        pc := .firing
        sent := 0
        secStartTick := if late then inp.now else s.secStartTick + ticksPerSec
        stat := { s.stat with
          txLateCnt := if late then s.stat.txLateCnt + 1 else s.stat.txLateCnt } }
    else
      { s with
        toTxState := s.toTxState.freeBulk (window s.staged 0 s.stagedNum)
        pc := .finished }
  | .firing =>
    if s.sent < s.stagedNum ∧ s.doWork then
      let num := min BURST_SIZE (s.stagedNum - s.sent)
      let tx := s.toTxState.txBurst ((window s.staged s.sent num).take inp.nb)
      { s with
        toTxState := { tx with
          stat := { tx.stat with
            txRetryCnt := if inp.nb = 0 then tx.stat.txRetryCnt + 1 else tx.stat.txRetryCnt } }
        sent := s.sent + inp.nb }
    else
      { s with pc := .fired }
  | .fired =>
    let tx := if s.sent < s.stagedNum then
        s.toTxState.freeBulk (window s.staged s.sent (s.stagedNum - s.sent))
      else s.toTxState
    { s with
      toTxState := { tx with
        stat := { tx.stat with txPktCnt := tx.stat.txPktCnt + UInt64.ofNat s.sent } }
      pc := .loop }
  | .finished | .thrown => s

/-- The pool gives as many mbufs as the chunk needs, or none, and the NIC takes a part of what it is
offered. -/
structure BurstState.Allows (plan : List PacketDesc) (s : BurstState σ) (inp : BurstInput) :
    Prop where
  gives : s.pc = .staging → ∀ ms, inp.alloc = some ms →
    s.Gives (min BURST_SIZE (plan.length - s.stagedNum)) ms
  takes : s.pc = .firing → inp.nb ≤ min BURST_SIZE (s.stagedNum - s.sent)

/-- The loop goes on, or the stop flag is cleared, or something happens to mbufs it does not
have. -/
inductive BurstStep (amend : Amend σ) (plan : List PacketDesc) (ticksPerSec : UInt64) :
    BurstState σ → BurstState σ → Prop
  | run (s : BurstState σ) (inp : BurstInput) (h : s.Allows plan inp) :
      BurstStep amend plan ticksPerSec s (burstStep amend plan ticksPerSec inp s)
  | stop (s : BurstState σ) : BurstStep amend plan ticksPerSec s { s with doWork := false }
  | world (s : BurstState σ) (mbufs : ℕ → Mbuf) (h : s.Keeps mbufs) :
      BurstStep amend plan ticksPerSec s { s with mbufs := mbufs }

/-- `tx_burst_worker_cycle` throws if there is nothing to send. -/
def txBurstWorkerCycle (plan : List PacketDesc) (secStartTick : UInt64) (s : TxState σ) :
    BurstState σ :=
  { toTxState := s
    pc := if plan.length = 0 then .thrown else .loop
    secStartTick := secStartTick }

/-! ### Every run -/

namespace BurstState

variable {s s' : BurstState σ} {ticksPerSec : UInt64} {inp : BurstInput} {n : ℕ} {ms : List ℕ}

/-- What was amended since the second began. -/
def secondAmended (s : BurstState σ) : List (PacketDesc × Mbuf) := s.amended.drop s.secondStart.1

/-- What the NIC took since the second began. -/
def secondAccepted (s : BurstState σ) : List (ℕ × Mbuf) := s.accepted.drop s.secondStart.2

/-- A second for which `stagedNum` packets are staged. The NIC has taken `n` of them, the others are
held. -/
structure Second (plan : List PacketDesc) (s : BurstState σ) (n : ℕ) : Prop where
  accounts : s.Accounts (window s.staged n (s.stagedNum - n))
  sent_le : n ≤ s.stagedNum
  staged_le : s.stagedNum ≤ plan.length
  start_le : s.secondStart.1 ≤ s.amended.length ∧ s.secondStart.2 ≤ s.accepted.length
  descs : s.secondAmended.map Prod.fst = plan.take s.stagedNum
  sent : s.secondAccepted.map Prod.snd = (s.secondAmended.map Prod.snd).take n
  unsent : (s.secondAmended.map Prod.snd).drop n =
    (window s.staged n (s.stagedNum - n)).map s.mbufs
  txPktCnt : s.stat.txPktCnt + UInt64.ofNat n = UInt64.ofNat s.accepted.length

/-- Outside of a second nothing is held, and everything that was sent is counted. -/
structure Outside (s : BurstState σ) : Prop where
  accounts : s.Accounts []
  txPktCnt : s.stat.txPktCnt = UInt64.ofNat s.accepted.length

/-- What holds at each place of the loop. -/
def Sound (plan : List PacketDesc) (s : BurstState σ) : Prop :=
  match s.pc with
  | .loop | .finished | .thrown => s.Outside
  | .staging => s.Second plan 0
  | .staged => s.Second plan 0 ∧ (s.doWork = true → s.stagedNum = plan.length)
  | .firing => s.Second plan s.sent ∧ s.stagedNum = plan.length
  | .fired => s.Second plan s.sent ∧ s.stagedNum = plan.length ∧
    (s.doWork = true → s.sent = s.stagedNum)

/-- A second begins. -/
lemma Outside.second (h : s.Outside) : Second plan { s with
    pc := .staging, stagedNum := 0, secondStart := (s.amended.length, s.accepted.length) } 0 where
  accounts := h.accounts
  sent_le := le_rfl
  staged_le := Nat.zero_le _
  start_le := ⟨le_rfl, le_rfl⟩
  descs := by simp [secondAmended]
  sent := by simp [secondAccepted]
  unsent := by simp [secondAmended]
  txPktCnt := (UInt64.add_zero _).trans h.txPktCnt

lemma window_stored (hms : ms.length = n) :
    window (store s.staged s.stagedNum ms) 0 (s.stagedNum + n) =
      window s.staged 0 s.stagedNum ++ ms := by
  have hnew : window (store s.staged s.stagedNum ms) s.stagedNum n = ms := by
    rw [← hms]
    exact window_store
  rw [window_add, Nat.zero_add, window_store_of_le (Nat.zero_add _).le, hnew]

variable (amend) in
/-- A chunk more is staged. -/
lemma Second.stage (h : s.Second plan 0)
    (hms : s.Gives (min BURST_SIZE (plan.length - s.stagedNum)) ms) : Second plan { s with
      toTxState := (s.toTxState.allocBulk ms).amendBulk amend
        (ms.zip ((plan.drop s.stagedNum).take (min BURST_SIZE (plan.length - s.stagedNum))))
      staged := store s.staged s.stagedNum ms
      stagedNum := s.stagedNum + min BURST_SIZE (plan.length - s.stagedNum) } 0 := by
  have hdescs : ((plan.drop s.stagedNum).take
      (min BURST_SIZE (plan.length - s.stagedNum))).length = ms.length := by
    rw [List.length_take, List.length_drop, hms.length]
    exact Nat.min_eq_left (Nat.min_le_right _ _)
  obtain ⟨-, hstat, hgot, hamended, haccepted, hfreed, hmbufs⟩ :=
    TxState.stages (s := s.toTxState) amend hms.nodup hdescs.symm
  have hheld := h.accounts.gives hms
  have hold : ∀ m ∈ window s.staged 0 s.stagedNum, m ∉ ms := fun m hm hm' =>
    (List.nodup_append.mp hheld.nodup).2.2 m hm m hm' rfl
  refine ⟨?_, Nat.zero_le _, ?_, ?_, ?_, ?_, ?_, ?_⟩
  · show TxState.Accounts _ (window (store s.staged s.stagedNum ms) 0 (s.stagedNum + _))
    rw [window_stored hms.length]
    refine hheld.congr hgot ?_
    rw [TxState.back, haccepted, hfreed]
    rfl
  · show s.stagedNum + min BURST_SIZE (plan.length - s.stagedNum) ≤ plan.length
    have := h.staged_le
    omega
  · refine ⟨?_, haccepted ▸ h.start_le.2⟩
    simp only [hamended, List.length_append]
    exact Nat.le_add_right_of_le h.start_le.1
  · simp only [secondAmended, hamended]
    rw [List.drop_append_of_le_length h.start_le.1, List.take_add, List.map_append,
      List.map_fst_zip (by rw [List.length_map, hdescs])]
    exact congrArg (· ++ _) h.descs
  · simp only [secondAccepted, haccepted, List.take_zero]
    exact h.sent
  · simp only [secondAmended, hamended, Nat.sub_zero, window_stored hms.length, List.drop_zero]
    rw [List.drop_append_of_le_length h.start_le.1, List.map_append, List.map_append,
      List.map_snd_zip (by rw [List.length_map, hdescs]),
      List.map_congr_left fun m hm => hmbufs m (hold m hm)]
    exact congrArg (· ++ _) h.unsent
  · simp only [hstat, haccepted]
    exact h.txPktCnt

/-- The NIC takes `nb` packets more. -/
lemma Second.fire {nb : ℕ} (h : s.Second plan n) (hnb : nb ≤ s.stagedNum - n) :
    Second plan { s with toTxState := s.toTxState.txBurst (window s.staged n nb) } (n + nb) := by
  have hsplit : window s.staged n (s.stagedNum - n) =
      window s.staged n nb ++ window s.staged (n + nb) (s.stagedNum - (n + nb)) := by
    rw [← window_add]
    congr 1
    omega
  refine ⟨?_, ?_, h.staged_le, ?_, h.descs, ?_, ?_, ?_⟩
  · exact (hsplit ▸ h.accounts).txBurst
  · have := h.sent_le
    show n + nb ≤ s.stagedNum
    omega
  · refine ⟨h.start_le.1, ?_⟩
    simp only [TxState.txBurst, List.length_append]
    exact Nat.le_add_right_of_le h.start_le.2
  · show ((s.txBurst (window s.staged n nb)).accepted.drop s.secondStart.2).map Prod.snd =
      (s.secondAmended.map Prod.snd).take (n + nb)
    rw [List.take_add, h.unsent, ← List.map_take (f := s.mbufs), take_window hnb, TxState.txBurst,
      List.drop_append_of_le_length h.start_le.2, List.map_append, List.map_map]
    exact congrArg (· ++ _) h.sent
  · show (s.secondAmended.map Prod.snd).drop (n + nb) =
      (window s.staged (n + nb) (s.stagedNum - (n + nb))).map s.mbufs
    rw [← List.drop_drop, h.unsent, ← List.map_drop, drop_window hnb, Nat.sub_sub]
  · simp only [TxState.txBurst, List.length_append, List.length_map, length_window]
    rw [UInt64.ofNat_add, UInt64.ofNat_add, ← UInt64.add_assoc, h.txPktCnt]

/-- What was not sent is freed. -/
lemma Second.accounts_free (h : s.Second plan n) :
    (s.freeBulk (window s.staged n (s.stagedNum - n))).Accounts [] :=
  TxState.Accounts.freeBulk (by rw [List.append_nil]; exact h.accounts)

/-- The rest of the state does not matter for a second. -/
lemma Second.move (h : s.Second plan n) (pc : BurstPc) (doWork : Bool) (sent : ℕ)
    (secStartTick : UInt64) {stat : GenAppStat} (hstat : stat.txPktCnt = s.stat.txPktCnt) :
    Second plan { s with
      toTxState := { s.toTxState with doWork := doWork, stat := stat }
      pc := pc, sent := sent, secStartTick := secStartTick } n where
  accounts := h.accounts.congr rfl rfl
  sent_le := h.sent_le
  staged_le := h.staged_le
  start_le := h.start_le
  descs := h.descs
  sent := h.sent
  unsent := h.unsent
  txPktCnt := (congrArg (· + UInt64.ofNat n) hstat).trans h.txPktCnt

/-- What is held stays as it is. -/
lemma Second.world {mbufs : ℕ → Mbuf} (h : s.Second plan n) (hkeeps : s.Keeps mbufs) :
    Second plan { s with mbufs := mbufs } n where
  accounts := h.accounts.congr rfl rfl
  sent_le := h.sent_le
  staged_le := h.staged_le
  start_le := h.start_le
  descs := h.descs
  sent := h.sent
  unsent := h.unsent.trans (List.map_congr_left fun m hm =>
    (hkeeps m (h.accounts.balanced.inHand_iff.mpr hm)).symm)
  txPktCnt := h.txPktCnt

lemma Outside.move (h : s.Outside) (pc : BurstPc) (doWork : Bool) :
    Outside { s with toTxState := { s.toTxState with doWork := doWork }, pc := pc } where
  accounts := h.accounts.congr rfl rfl
  txPktCnt := h.txPktCnt

lemma Sound.step (h : s.Sound plan) (hallows : s.Allows plan inp) :
    (burstStep amend plan ticksPerSec inp s).Sound plan := by
  unfold Sound at h
  unfold burstStep
  cases hpc : s.pc with
  | loop =>
    rw [hpc] at h
    dsimp only
    split_ifs with hwork
    · exact h.second
    · exact h.move .finished s.doWork
  | staging =>
    rw [hpc] at h
    dsimp only
    split_ifs with hmore
    · cases halloc : inp.alloc with
      | none => simpa [Sound, hpc] using h
      | some ms =>
        have hstaged := h.stage amend (hallows.gives hpc ms halloc)
        simpa [Sound, hpc] using hstaged
    · refine ⟨h.move .staged s.doWork s.sent s.secStartTick rfl, fun hwork => ?_⟩
      have hend : ¬ s.stagedNum < plan.length := fun hlt => hmore ⟨hlt, hwork⟩
      exact Nat.le_antisymm h.staged_le (Nat.not_lt.mp hend)
  | staged =>
    rw [hpc] at h
    obtain ⟨hsecond, htotal⟩ := h
    dsimp only
    by_cases hwork : s.doWork = true
    · rw [if_pos hwork]
      exact ⟨hsecond.move .firing s.doWork 0 _ rfl, htotal hwork⟩
    · rw [if_neg hwork]
      exact ⟨hsecond.accounts_free, (UInt64.add_zero _).symm.trans hsecond.txPktCnt⟩
  | firing =>
    rw [hpc] at h
    obtain ⟨hsecond, htotal⟩ := h
    dsimp only
    by_cases hmore : s.sent < s.stagedNum ∧ s.doWork = true
    · rw [if_pos hmore]
      have hnb := hallows.takes hpc
      have hfired := hsecond.fire (hnb.trans (Nat.min_le_right _ _))
      rw [take_window hnb]
      exact ⟨hfired.move .firing s.doWork (s.sent + inp.nb) s.secStartTick rfl, htotal⟩
    · rw [if_neg hmore]
      refine ⟨hsecond.move .fired s.doWork s.sent s.secStartTick rfl, htotal, fun hwork => ?_⟩
      have hend : ¬ s.sent < s.stagedNum := fun hlt => hmore ⟨hlt, hwork⟩
      exact Nat.le_antisymm hsecond.sent_le (Nat.not_lt.mp hend)
  | fired =>
    rw [hpc] at h
    obtain ⟨hsecond, -, -⟩ := h
    dsimp only
    split_ifs with hmore
    · exact ⟨hsecond.accounts_free.congr rfl rfl, hsecond.txPktCnt⟩
    · refine ⟨?_, hsecond.txPktCnt⟩
      have hnone := hsecond.accounts
      rw [Nat.sub_eq_zero_of_le (Nat.not_lt.mp hmore), window_zero] at hnone
      exact hnone.congr rfl rfl
  | finished | thrown =>
    simpa [Sound, hpc] using h

lemma Sound.world {mbufs : ℕ → Mbuf} (h : s.Sound plan) (hkeeps : s.Keeps mbufs) :
    Sound plan { s with mbufs := mbufs } := by
  obtain ⟨tx, pc, staged, stagedNum, sent, tick, start⟩ := s
  cases pc with
  | loop | finished | thrown => exact ⟨TxState.Accounts.congr h.accounts rfl rfl, h.txPktCnt⟩
  | staging => exact Second.world h hkeeps
  | staged | firing | fired => exact ⟨h.1.world hkeeps, h.2⟩

lemma Sound.stop (h : s.Sound plan) : Sound plan { s with doWork := false } := by
  obtain ⟨tx, pc, staged, stagedNum, sent, tick, start⟩ := s
  cases pc with
  | loop => exact Outside.move h .loop false
  | finished => exact Outside.move h .finished false
  | thrown => exact Outside.move h .thrown false
  | staging => exact Second.move h .staging false sent tick rfl
  | staged => exact ⟨h.1.move .staged false sent tick rfl, nofun⟩
  | firing => exact ⟨h.1.move .firing false sent tick rfl, h.2⟩
  | fired => exact ⟨h.1.move .fired false sent tick rfl, h.2.1, nofun⟩

lemma Sound.of_step (h : s.Sound plan) (hstep : BurstStep amend plan ticksPerSec s s') :
    s'.Sound plan := by
  cases hstep with
  | run inp hallows => exact h.step hallows
  | stop => exact h.stop
  | world mbufs hkeeps => exact h.world hkeeps

lemma sound_txBurstWorkerCycle {s : TxState σ} (hfresh : s.Fresh) (secStartTick : UInt64) :
    (txBurstWorkerCycle plan secStartTick s).Sound plan := by
  have hout : (txBurstWorkerCycle plan secStartTick s).Outside :=
    ⟨hfresh.accounts, by simp [txBurstWorkerCycle, hfresh.stat, hfresh.accepted]⟩
  unfold Sound
  cases hpc : (txBurstWorkerCycle plan secStartTick s).pc with
  | loop | thrown => exact hout
  | _ =>
    unfold txBurstWorkerCycle at hpc
    split_ifs at hpc

theorem sound_of_reach {s : TxState σ} {secStartTick : UInt64} (hfresh : s.Fresh)
    (h : ReflTransGen (BurstStep amend plan ticksPerSec)
      (txBurstWorkerCycle plan secStartTick s) s') : s'.Sound plan := by
  induction h with
  | refl => exact sound_txBurstWorkerCycle hfresh secStartTick
  | tail _ hstep ih => exact ih.of_step hstep

/-- A second that is over before the stop flag was seen has handed the NIC each packet of the
plan once, in order. -/
lemma Sound.second_done (h : s.Sound plan) (hpc : s.pc = .fired) (hwork : s.doWork = true) :
    s.secondAmended.map Prod.fst = plan ∧
      s.secondAccepted.map Prod.snd = s.secondAmended.map Prod.snd := by
  unfold Sound at h
  rw [hpc] at h
  obtain ⟨hsecond, htotal, hsent⟩ := h
  have hnum : s.sent = plan.length := (hsent hwork).trans htotal
  have hlen : s.secondAmended.length = s.sent := by
    rw [← List.length_map Prod.fst, hsecond.descs, htotal, List.take_length, hnum]
  refine ⟨by rw [hsecond.descs, htotal, List.take_length], ?_⟩
  rw [hsecond.sent, List.take_of_length_le (by rw [List.length_map, hlen])]

end BurstState

/-! ### Packets and mbufs -/

/-- What the burst loop has done with packets and mbufs. -/
structure BurstState.Delivers (plan : List PacketDesc) (s : BurstState σ) : Prop where
  /-- A second that is over before the stop flag was seen. -/
  second : s.pc = .fired → s.doWork = true →
    s.secondAmended.map Prod.fst = plan ∧
      s.secondAccepted.map Prod.snd = s.secondAmended.map Prod.snd
  mbufs : ∃ held, s.Accounts held
  outside : s.pc = .loop ∨ s.pc = .finished →
    s.Accounts [] ∧ s.stat.txPktCnt = UInt64.ofNat s.accepted.length

/-- What a steady loop has done with packets and mbufs. -/
structure SteadyState.Delivers (txUnits : List TxUnit) (s : SteadyState σ) : Prop where
  /-- A unit that is over before the stop flag was seen. -/
  unit : s.pc = .unitEnd → s.doWork = true →
    ∃ unit, txUnits[s.txUnitIdx.toNat]? = some unit ∧ s.unitAmended = unit.packets
  mbufs : s.Accounts []
  txPktCnt : s.stat.txPktCnt = UInt64.ofNat s.accepted.length
  errSendCnt : s.stat.errSendCnt = UInt32.ofNat s.freed.length
  amended : s.accepted.length + s.freed.length = s.amended.length
  total : s.accepted.length < 2 ^ 64 → s.freed.length < 2 ^ 32 →
    s.stat.txPktCnt.toNat + s.stat.errSendCnt.toNat = s.amended.length

lemma BurstState.Sound.delivers {s : BurstState σ} (h : s.Sound plan) : s.Delivers plan := by
  refine ⟨h.second_done, ?_, fun hpc => ?_⟩
  · obtain ⟨tx, pc, staged, stagedNum, sent, tick, start⟩ := s
    cases pc with
    | loop | finished | thrown => exact ⟨_, h.accounts⟩
    | staging => exact ⟨_, h.accounts⟩
    | staged | firing | fired => exact ⟨_, h.1.accounts⟩
  · unfold Sound at h
    rcases hpc with hpc | hpc <;> rw [hpc] at h <;> exact ⟨h.accounts, h.txPktCnt⟩

lemma SteadyState.Sound.delivers {txUnits : List TxUnit} {s : SteadyState σ}
    (h : s.Sound txUnits) : s.Delivers txUnits := by
  obtain ⟨hmbufs, -, hamended, htx, herr⟩ := h.booked
  refine ⟨h.unit_done, hmbufs, htx, herr, hamended.symm, fun h64 h32 => ?_⟩
  rw [htx, herr, hamended, UInt64.toNat_ofNat_of_lt' h64, UInt32.toNat_ofNat_of_lt' h32]

/-- In every run of a TX loop, whatever the pool and the NIC do, each packet of a second or unit
is sent or amended once and in order, and no mbuf is lost. The counters say how many, modulo
their widths. -/
theorem tx_loops_deliver (amend : Amend σ) {s₀ : TxState σ} (hfresh : s₀.Fresh) :
    (∀ (plan : List PacketDesc) (ticksPerSec secStartTick : UInt64) (s : BurstState σ),
      ReflTransGen (BurstStep amend plan ticksPerSec) (txBurstWorkerCycle plan secStartTick s₀) s →
      s.Delivers plan) ∧
    ∀ (txUnits : List TxUnit) (s : SteadyState σ),
      ReflTransGen (SteadyStep amend txUnits) (txPacketsCycle txUnits s₀) s ∨
        ReflTransGen (SteadyStep amend txUnits) (txRWorkerCycle s₀) s →
      s.Delivers txUnits := by
  refine ⟨fun plan ticksPerSec secStartTick s h => ?_, fun txUnits s h => ?_⟩
  · exact (BurstState.sound_of_reach hfresh h).delivers
  · rcases h with h | h
    · exact (SteadyState.sound_txPacketsCycle hfresh h).delivers
    · exact (SteadyState.sound_txRWorkerCycle hfresh h).delivers

/-! ### Samples: a counter that wraps, and bursts that the NIC takes in part -/

def sampleUnit : TxUnit := ⟨0, [⟨[⟨0⟩]⟩]⟩

def sampleAmend : Amend Unit := fun gen packet _ => ((gen, packet), 0)

def sampleTxState : TxState Unit := { gen := (), mbufs := fun _ => ⟨fun _ => 0, 0, 0⟩ }

lemma fresh_sampleTxState : sampleTxState.Fresh := ⟨rfl, rfl, rfl, rfl, rfl⟩

/-- The pool gives mbuf 0 and the NIC does not take it. -/
lemma refused_once (amend : Amend σ) {tx : TxState σ} (hwork : tx.doWork = true)
    (hmbufs : tx.Accounts []) (blkIdx sendNum unitStart : ℕ) :
    ReflTransGen (SteadyStep amend [sampleUnit]) ⟨tx, .loop, 0, blkIdx, sendNum, unitStart⟩
      ⟨tx.sendChunk amend [⟨0⟩] [0] 0, .loop, 0, 1, 0, tx.amended.length⟩ := by
  have hgives : tx.Gives 1 [0] := by
    refine ⟨rfl, List.pairwise_singleton _ 0, fun m _ hm => ?_⟩
    exact List.not_mem_nil (hmbufs.balanced.inHand_iff.mp hm)
  have hbegin : SteadyStep amend [sampleUnit] ⟨tx, .loop, 0, blkIdx, sendNum, unitStart⟩
      ⟨tx, .blocks, 0, 0, 0, tx.amended.length⟩ := by
    have hrun : SteadyStep amend [sampleUnit] _ _ :=
      .run ⟨tx, .loop, 0, blkIdx, sendNum, unitStart⟩ {} nofun
    simpa [steadyStep, hwork, sampleUnit] using hrun
  have hsend : SteadyStep amend [sampleUnit] ⟨tx, .blocks, 0, 0, 0, tx.amended.length⟩
      ⟨tx.sendChunk amend [⟨0⟩] [0] 0, .blocks, 0, 0, 1, tx.amended.length⟩ := by
    refine .run ⟨tx, .blocks, 0, 0, 0, tx.amended.length⟩ { alloc := some [0] } ?_
    intro _ blk hblk _
    obtain rfl : blk = ⟨[⟨0⟩]⟩ := Option.some.inj hblk.symm
    exact ⟨fun ms hms => Option.some.inj hms ▸ hgives, Nat.zero_le _⟩
  have hblock : SteadyStep amend [sampleUnit]
      ⟨tx.sendChunk amend [⟨0⟩] [0] 0, .blocks, 0, 0, 1, tx.amended.length⟩
      ⟨tx.sendChunk amend [⟨0⟩] [0] 0, .blocks, 0, 1, 0, tx.amended.length⟩ := by
    refine .run ⟨tx.sendChunk amend [⟨0⟩] [0] 0, .blocks, 0, 0, 1, tx.amended.length⟩ {} ?_
    intro _ blk hblk hlt
    obtain rfl : blk = ⟨[⟨0⟩]⟩ := Option.some.inj hblk.symm
    exact absurd hlt (lt_irrefl 1)
  have hend : SteadyStep amend [sampleUnit]
      ⟨tx.sendChunk amend [⟨0⟩] [0] 0, .blocks, 0, 1, 0, tx.amended.length⟩
      ⟨tx.sendChunk amend [⟨0⟩] [0] 0, .unitEnd, 0, 1, 0, tx.amended.length⟩ :=
    .run ⟨tx.sendChunk amend [⟨0⟩] [0] 0, .blocks, 0, 1, 0, tx.amended.length⟩ {}
      fun _ _ hblk => absurd hblk nofun
  have hloop : SteadyStep amend [sampleUnit]
      ⟨tx.sendChunk amend [⟨0⟩] [0] 0, .unitEnd, 0, 1, 0, tx.amended.length⟩
      ⟨tx.sendChunk amend [⟨0⟩] [0] 0, .loop, 0, 1, 0, tx.amended.length⟩ := by
    have hrun : SteadyStep amend [sampleUnit] _ _ :=
      .run ⟨tx.sendChunk amend [⟨0⟩] [0] 0, .unitEnd, 0, 1, 0, tx.amended.length⟩ {} nofun
    simpa [steadyStep, sampleUnit] using hrun
  exact .head hbegin (.head hsend (.head hblock (.head hend (.single hloop))))

/-- The NIC may refuse as many packets in a row as it likes. -/
lemma refused_often (amend : Amend σ) {s₀ : TxState σ} (hfresh : s₀.Fresh)
    (hwork : s₀.doWork = true) (k : ℕ) :
    ∃ (tx : TxState σ) (blkIdx sendNum unitStart : ℕ),
      ReflTransGen (SteadyStep amend [sampleUnit]) (txPacketsCycle [sampleUnit] s₀)
        ⟨tx, .loop, 0, blkIdx, sendNum, unitStart⟩ ∧
      tx.doWork = true ∧ tx.accepted = [] ∧ tx.freed.length = k := by
  induction k with
  | zero => exact ⟨s₀, 0, 0, 0, .refl, hwork, hfresh.accepted, by rw [hfresh.freed]; rfl⟩
  | succ k ih =>
    obtain ⟨tx, blkIdx, sendNum, unitStart, hreach, hwork, haccepted, hfreed⟩ := ih
    have hmbufs := (SteadyState.sound_txPacketsCycle hfresh hreach).booked.accounts
    refine ⟨_, 1, 0, tx.amended.length,
      hreach.trans (refused_once amend hwork hmbufs blkIdx sendNum unitStart), hwork, ?_, ?_⟩
    · exact (List.append_nil _).trans haccepted
    · exact List.length_append.trans (congrArg (· + 1) hfreed)

theorem tx_counters_wrap :
    ¬ ∀ s : SteadyState Unit,
      ReflTransGen (SteadyStep sampleAmend [sampleUnit])
        (txPacketsCycle [sampleUnit] sampleTxState) s →
      s.stat.txPktCnt.toNat + s.stat.errSendCnt.toNat = s.amended.length := by
  intro h
  obtain ⟨tx, blkIdx, sendNum, unitStart, hreach, -, haccepted, hfreed⟩ :=
    refused_often sampleAmend fresh_sampleTxState rfl (2 ^ 32)
  have htotal := h _ hreach
  obtain ⟨-, -, hamended, htx, herr⟩ :=
    (SteadyState.sound_txPacketsCycle fresh_sampleTxState hreach).booked
  rw [htx, herr, hamended, haccepted, hfreed] at htotal
  exact absurd htotal (by decide)

def samplePlan : List PacketDesc := [⟨0⟩, ⟨1⟩, ⟨2⟩]

/-- One second of a burst loop. The NIC takes two packets first and the third one then. -/
def sampleSecond : BurstState Unit :=
  [{}, { alloc := some [0, 1, 2] }, {}, {}, { nb := 2 }, { nb := 1 }, {}].foldl
    (fun s inp => burstStep sampleAmend samplePlan 10 inp s)
    (txBurstWorkerCycle samplePlan 0 sampleTxState)

lemma reach_sampleSecond : ReflTransGen (BurstStep sampleAmend samplePlan 10)
    (txBurstWorkerCycle samplePlan 0 sampleTxState) sampleSecond := by
  refine .head (.run _ {} ⟨nofun, nofun⟩) ?_
  refine .head (.run _ { alloc := some [0, 1, 2] } ⟨fun _ ms hms => ?_, nofun⟩) ?_
  · obtain rfl := Option.some.inj hms
    exact ⟨rfl, by decide, fun m _ hm => absurd hm (Nat.not_lt_zero _)⟩
  refine .head (.run _ {} ⟨nofun, nofun⟩) ?_
  refine .head (.run _ {} ⟨nofun, nofun⟩) ?_
  refine .head (.run _ { nb := 2 } ⟨nofun, fun _ => ?_⟩) ?_
  · exact show 2 ≤ min 32 3 by decide
  refine .head (.run _ { nb := 1 } ⟨nofun, fun _ => ?_⟩) ?_
  · exact show 1 ≤ min 32 1 by decide
  exact .single (.run _ {} ⟨nofun, fun _ => Nat.zero_le _⟩)

/-- One unit of a steady loop. The NIC takes two of its packets. -/
def samplePart : SteadyState Unit :=
  [{}, { alloc := some [0, 1, 2], nb_tx := 2 }, {}, {}].foldl
    (fun s inp => steadyStep sampleAmend [⟨0, [⟨samplePlan⟩]⟩] inp s)
    (txPacketsCycle [⟨0, [⟨samplePlan⟩]⟩] sampleTxState)

lemma reach_samplePart : ReflTransGen (SteadyStep sampleAmend [⟨0, [⟨samplePlan⟩]⟩])
    (txPacketsCycle [⟨0, [⟨samplePlan⟩]⟩] sampleTxState) samplePart := by
  refine .head (.run _ {} nofun) ?_
  refine .head (.run _ { alloc := some [0, 1, 2], nb_tx := 2 } ?_) ?_
  · intro _ blk hblk _
    obtain rfl : ⟨samplePlan⟩ = blk := Option.some.inj hblk
    refine ⟨fun ms hms => ?_, by decide⟩
    obtain rfl := Option.some.inj hms
    exact ⟨rfl, by decide, fun m _ hm => absurd hm (Nat.not_lt_zero _)⟩
  refine .head (.run _ {} ?_) (.single (.run _ {} ?_))
  · intro _ blk hblk hlt
    obtain rfl : ⟨samplePlan⟩ = blk := Option.some.inj hblk
    exact absurd hlt (lt_irrefl 3)
  · exact fun _ _ hblk => absurd hblk nofun

theorem tx_loops_deliver_sample :
    (sampleSecond.pc = .fired ∧ sampleSecond.accepted.map Prod.fst = [0, 1, 2] ∧
      sampleSecond.Delivers samplePlan) ∧
    samplePart.pc = .unitEnd ∧ samplePart.accepted.map Prod.fst = [0, 1] ∧
      samplePart.freed = [2] ∧ samplePart.Delivers [⟨0, [⟨samplePlan⟩]⟩] := by
  have hloops := tx_loops_deliver sampleAmend fresh_sampleTxState
  refine ⟨⟨rfl, rfl, hloops.1 _ _ _ _ reach_sampleSecond⟩, rfl, rfl, rfl, ?_⟩
  exact hloops.2 _ _ (.inl reach_samplePart)

end ProcessBus
