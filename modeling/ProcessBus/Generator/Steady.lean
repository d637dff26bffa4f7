import ProcessBus.Generator.Transmit
import Mathlib.Logic.Relation

/-!
# The steady TX loops

`tx_packets_cycle` and `tx_r_worker_cycle` walk the schedule unit by unit, for ever. A block is sent
in chunks: get so many mbufs, amend them, offer them to the NIC, free what it does not take. If the
pool is empty the chunk is tried again, unless the stop flag is seen then; in that case the rest of
the block is skipped. The two loops differ in what they do about an empty schedule.

The delays between the units are left out.
-/

namespace ProcessBus

open Relation

variable {σ : Type} {amend : Amend σ}

/-! ### A chunk -/

namespace TxState

/-- The part of the loop between an allocation that succeeds and the next chunk. -/
def sendChunk (amend : Amend σ) (descs : List PacketDesc) (ms : List ℕ) (nb_tx : ℕ)
    (s : TxState σ) : TxState σ :=
  let s := (s.allocBulk ms).amendBulk amend (ms.zip descs)
  let s := s.txBurst (ms.take nb_tx)
  let s := { s with
    stat := { s.stat with txPktCnt := s.stat.txPktCnt + UInt64.ofNat nb_tx } }
  if nb_tx < ms.length then
    let s := s.freeBulk (ms.drop nb_tx)
    { s with
      stat := { s.stat with
        errSendCnt := s.stat.errSendCnt + UInt32.ofNat (ms.length - nb_tx) } }
  else s

/-- The books of a steady loop: nothing is held, and the counters say what was done. -/
structure Booked (s : TxState σ) : Prop where
  accounts : s.Accounts []
  sent : (s.accepted.map Prod.snd).Sublist (s.amended.map Prod.snd)
  amended : s.amended.length = s.accepted.length + s.freed.length
  txPktCnt : s.stat.txPktCnt = UInt64.ofNat s.accepted.length
  errSendCnt : s.stat.errSendCnt = UInt32.ofNat s.freed.length

variable {s : TxState σ} {descs : List PacketDesc} {ms : List ℕ} {num nb_tx : ℕ}

lemma Fresh.accounts (h : s.Fresh) : s.Accounts [] := by
  refine ⟨?_, List.nodup_nil⟩
  rw [back, h.got, h.accepted, h.freed]
  exact Ledger.balanced_nil

lemma Fresh.booked (h : s.Fresh) : s.Booked := by
  refine ⟨h.accounts, ?_, ?_, ?_, ?_⟩
  · rw [h.accepted]
    exact List.nil_sublist _
  · rw [h.amended, h.accepted, h.freed]
    rfl
  · rw [h.stat, h.accepted]
    rfl
  · rw [h.stat, h.freed]
    rfl

/-- What a chunk leaves behind. `f` says what is then in the mbufs. -/
structure Chunk (s : TxState σ) (descs : List PacketDesc) (ms : List ℕ) (nb_tx : ℕ)
    (s' : TxState σ) (f : ℕ → Mbuf) : Prop where
  doWork : s'.doWork = s.doWork
  got : s'.got = s.got ++ ms
  amended : s'.amended = s.amended ++ descs.zip (ms.map f)
  accepted : s'.accepted = s.accepted ++ (ms.take nb_tx).map fun m => (m, f m)
  freed : s'.freed = s.freed ++ ms.drop nb_tx
  txPktCnt : s'.stat.txPktCnt = s.stat.txPktCnt + UInt64.ofNat nb_tx
  errSendCnt : s'.stat.errSendCnt = s.stat.errSendCnt + UInt32.ofNat (ms.length - nb_tx)

variable (amend s nb_tx) in
lemma chunk_sendChunk (hms : ms.Nodup) (hdescs : ms.length = descs.length) :
    ∃ f, s.Chunk descs ms nb_tx (s.sendChunk amend descs ms nb_tx) f := by
  obtain ⟨hwork, hstat, hgot, hamended, hacc, hfreed, _⟩ := stages (s := s) amend hms hdescs
  refine ⟨((s.allocBulk ms).amendBulk amend (ms.zip descs)).mbufs, ?_⟩
  have haccepted : ∀ f : ℕ → Mbuf, s.accepted ++ (ms.take nb_tx).map (fun m => (m, f m)) =
      ((s.allocBulk ms).amendBulk amend (ms.zip descs)).accepted ++
        (ms.take nb_tx).map fun m => (m, f m) := fun f => by rw [hacc]
  have herr := congrArg GenAppStat.errSendCnt hstat
  unfold sendChunk
  by_cases hall : nb_tx < ms.length
  · rw [if_pos hall]
    refine ⟨hwork, hgot, hamended, (haccepted _).symm, ?_, ?_, ?_⟩
    · exact congrArg (· ++ ms.drop nb_tx) hfreed
    · exact congrArg (fun stat : GenAppStat => stat.txPktCnt + UInt64.ofNat nb_tx) hstat
    · exact congrArg (· + UInt32.ofNat (ms.length - nb_tx)) herr
  · rw [if_neg hall]
    refine ⟨hwork, hgot, hamended, (haccepted _).symm, ?_, ?_, ?_⟩
    · rw [List.drop_eq_nil_of_le (Nat.not_lt.mp hall), List.append_nil]
      exact hfreed
    · exact congrArg (fun stat : GenAppStat => stat.txPktCnt + UInt64.ofNat nb_tx) hstat
    · rw [Nat.sub_eq_zero_of_le (Nat.not_lt.mp hall)]
      exact herr.trans (UInt32.add_zero _).symm

/-- A chunk keeps the books: what the NIC does not take is freed and counted. -/
lemma Booked.sendChunk (h : s.Booked) (hms : s.Gives num ms) (hdescs : ms.length = descs.length)
    (hnb : nb_tx ≤ ms.length) : (s.sendChunk amend descs ms nb_tx).Booked := by
  obtain ⟨f, hf⟩ := chunk_sendChunk amend s nb_tx hms.nodup hdescs
  have hzip : (descs.zip (ms.map f)).map Prod.snd = ms.map f :=
    List.map_snd_zip (by rw [List.length_map, hdescs])
  refine ⟨?_, ?_, ?_, ?_, ?_⟩
  · have hheld : (s.allocBulk ms).Accounts (ms.take nb_tx ++ (ms.drop nb_tx ++ [])) := by
      rw [List.append_nil, List.take_append_drop]
      exact h.accounts.gives hms
    refine hheld.txBurst.freeBulk.congr hf.got ?_
    simp [back, hf.accepted, hf.freed, freeBulk, txBurst, allocBulk, Function.comp_def]
  · rw [hf.accepted, hf.amended, List.map_append, List.map_append, hzip, List.map_map]
    exact h.sent.append ((List.take_sublist nb_tx ms).map f)
  · rw [hf.amended, hf.accepted, hf.freed]
    simp only [List.length_append, List.length_zip, List.length_map, List.length_take,
      List.length_drop, h.amended]
    omega
  · rw [hf.txPktCnt, hf.accepted, h.txPktCnt, List.length_append, List.length_map,
      List.length_take, Nat.min_eq_left hnb, UInt64.ofNat_add]
  · rw [hf.errSendCnt, hf.freed, h.errSendCnt, List.length_append, List.length_drop,
      UInt32.ofNat_add]

end TxState

/-! ### The loop -/

/-- Where a steady loop is. -/
inductive SteadyPc where
  | loop  -- `while (doWork)`
  | blocks  -- `for (const auto &blk : txUnits[txUnitIdx].blocks)`, `while (sendNum < count)`
  | retry  -- behind an allocation that failed
  | unitEnd
  | finished
  | thrown
  | undefined  -- an index out of range or a division by zero
  deriving DecidableEq

structure SteadyState (σ : Type) extends TxState σ where
  pc : SteadyPc := .loop
  txUnitIdx : UInt32 := 0
  /-- The block the range-based loop is at. -/
  blkIdx : ℕ := 0
  sendNum : ℕ := 0
  /-- How many descriptors had been amended when the unit began. -/
  unitStart : ℕ := 0

/-- What the pool and the NIC answer. -/
structure TxInput where
  alloc : Option (List ℕ) := none
  nb_tx : ℕ := 0

/-- The number of mbufs for the next chunk of a block. -/
def chunkSize (count sendNum : ℕ) : ℕ :=
  if count - sendNum ≥ BURST_SIZE then BURST_SIZE else count - sendNum

namespace SteadyState

/-- The block at which the loop is. -/
def block (txUnits : List TxUnit) (s : SteadyState σ) : Option TxBlock :=
  txUnits[s.txUnitIdx.toNat]?.bind fun unit => unit.blocks[s.blkIdx]?

/-- The descriptors amended in the current unit. -/
def unitAmended (s : SteadyState σ) : List PacketDesc :=
  (s.amended.drop s.unitStart).map Prod.fst

end SteadyState

/-- The loop up to the next point at which it looks at the flag, allocates or goes on to another
block. -/
def steadyStep (amend : Amend σ) (txUnits : List TxUnit) (inp : TxInput) (s : SteadyState σ) :
    SteadyState σ :=
  match s.pc with
  | .loop =>
    if s.doWork then
      if s.txUnitIdx.toNat < txUnits.length then
        { s with pc := .blocks, blkIdx := 0, sendNum := 0, unitStart := s.amended.length }
      else
        { s with pc := .undefined }
    else
      { s with pc := .finished }
  | .blocks =>
    match s.block txUnits with
    | none => { s with pc := .unitEnd }
    | some blk =>
      if s.sendNum < blk.packets.length then
        let num := chunkSize blk.packets.length s.sendNum
        match inp.alloc with
        | none => { s with pc := .retry }  -- `rte_eth_tx_done_cleanup`
        | some ms =>
          { s with
            toTxState := s.toTxState.sendChunk amend ((blk.packets.drop s.sendNum).take num) ms
              inp.nb_tx
            sendNum := s.sendNum + num }
      else
        { s with blkIdx := s.blkIdx + 1, sendNum := 0 }
  | .retry =>
    if s.doWork then
      { s with pc := .blocks }
    else
      { s with pc := .blocks, blkIdx := s.blkIdx + 1, sendNum := 0 }
  | .unitEnd =>
    if txUnits.length = 0 then
      { s with pc := .undefined }
    else
      let txUnitIdx := UInt32.ofNat ((s.txUnitIdx + 1).toNat % txUnits.length)
      -- behind the last unit the loop waits for the second, else for `txUnits[txUnitIdx].offsetUS`
      if txUnitIdx = 0 ∨ txUnitIdx.toNat < txUnits.length then
        { s with pc := .loop, txUnitIdx := txUnitIdx }
      else
        { s with pc := .undefined }
  | .finished | .thrown | .undefined => s

/-- The pool gives as many mbufs as the chunk needs, or none, and the NIC takes a part of them. -/
def SteadyState.Allows (txUnits : List TxUnit) (s : SteadyState σ) (inp : TxInput) : Prop :=
  s.pc = .blocks → ∀ blk, s.block txUnits = some blk → s.sendNum < blk.packets.length →
    (∀ ms, inp.alloc = some ms → s.Gives (chunkSize blk.packets.length s.sendNum) ms) ∧
      inp.nb_tx ≤ chunkSize blk.packets.length s.sendNum

/-- The loop goes on, or the stop flag is cleared, or something happens to mbufs it does not
have. -/
inductive SteadyStep (amend : Amend σ) (txUnits : List TxUnit) :
    SteadyState σ → SteadyState σ → Prop
  | run (s : SteadyState σ) (inp : TxInput) (h : s.Allows txUnits inp) :
      SteadyStep amend txUnits s (steadyStep amend txUnits inp s)
  | stop (s : SteadyState σ) : SteadyStep amend txUnits s { s with doWork := false }
  | world (s : SteadyState σ) (mbufs : ℕ → Mbuf) (h : s.Keeps mbufs) :
      SteadyStep amend txUnits s { s with mbufs := mbufs }

/-- `tx_packets_cycle` throws if there is nothing to send. -/
def txPacketsCycle (txUnits : List TxUnit) (s : TxState σ) : SteadyState σ :=
  { toTxState := s, pc := if txUnits.isEmpty then .thrown else .loop }

/-- `tx_r_worker_cycle` does not look. -/
def txRWorkerCycle (s : TxState σ) : SteadyState σ := { toTxState := s }

/-! ### Every run -/

/-- The descriptors of a unit in front of a place in it. -/
def TxUnit.before (unit : TxUnit) (blkIdx sendNum : ℕ) : List PacketDesc :=
  ((unit.blocks.take blkIdx).map TxBlock.packets).flatten ++
    ((unit.blocks[blkIdx]?.map TxBlock.packets).getD []).take sendNum

namespace TxUnit

variable {unit : TxUnit} {blk : TxBlock} {blkIdx sendNum : ℕ}

lemma before_zero : unit.before 0 0 = [] := by simp [before]

lemma before_add (h : unit.blocks[blkIdx]? = some blk) (num : ℕ) :
    unit.before blkIdx (sendNum + num) =
      unit.before blkIdx sendNum ++ (blk.packets.drop sendNum).take num := by
  simp [before, h, List.take_add]

/-- Behind the last packet of a block the next one begins. -/
lemma before_succ (h : unit.blocks[blkIdx]? = some blk) (hend : blk.packets.length ≤ sendNum) :
    unit.before (blkIdx + 1) 0 = unit.before blkIdx sendNum := by
  simp [before, h, List.take_add_one, List.take_of_length_le hend]

lemma before_end (h : unit.blocks[blkIdx]? = none) : unit.before blkIdx sendNum = unit.packets := by
  have hle := List.getElem?_eq_none_iff.mp h
  simp [before, packets, h, List.take_of_length_le hle]

end TxUnit

namespace SteadyState

variable {txUnits : List TxUnit} {inp : TxInput} {s s' : SteadyState σ}

/-- How far a loop has got in its unit, as long as the stop flag has not been seen. -/
def InUnit (txUnits : List TxUnit) (s : SteadyState σ) : Prop :=
  ∃ unit, txUnits[s.txUnitIdx.toNat]? = some unit ∧ s.unitStart ≤ s.amended.length ∧
    (s.doWork = true → s.unitAmended = unit.before s.blkIdx s.sendNum)

/-- The books are kept, and a unit is amended in order. -/
structure Sound (txUnits : List TxUnit) (s : SteadyState σ) : Prop where
  booked : s.toTxState.Booked
  inUnit : s.pc = .blocks ∨ s.pc = .retry ∨ s.pc = .unitEnd → s.InUnit txUnits
  atEnd : s.pc = .unitEnd → s.block txUnits = none

variable (s) in
lemma length_chunk (blk : TxBlock) :
    ((blk.packets.drop s.sendNum).take (chunkSize blk.packets.length s.sendNum)).length =
      chunkSize blk.packets.length s.sendNum := by
  rw [List.length_take, List.length_drop, chunkSize]
  split_ifs <;> omega

lemma InUnit.congr (h : s.InUnit txUnits) (hidx : s'.txUnitIdx = s.txUnitIdx)
    (hstart : s'.unitStart = s.unitStart) (hamended : s'.amended = s.amended)
    (hplace : s'.doWork = true → s.doWork = true ∧ ∀ unit, txUnits[s.txUnitIdx.toNat]? = some unit →
      unit.before s'.blkIdx s'.sendNum = unit.before s.blkIdx s.sendNum) : s'.InUnit txUnits := by
  obtain ⟨unit, hunit, hle, hunitAmended⟩ := h
  refine ⟨unit, by rw [hidx, hunit], by rwa [hstart, hamended], fun hwork => ?_⟩
  obtain ⟨hwork, hbefore⟩ := hplace hwork
  rw [unitAmended, hamended, hstart, hbefore unit hunit]
  exact hunitAmended hwork

variable (amend) in
/-- One chunk further in a block. -/
lemma InUnit.sendChunk {blk : TxBlock} {ms : List ℕ} (nb_tx : ℕ) (h : s.InUnit txUnits)
    (hblk : s.block txUnits = some blk)
    (hms : s.Gives (chunkSize blk.packets.length s.sendNum) ms) :
    InUnit txUnits { s with
      toTxState := s.toTxState.sendChunk amend ((blk.packets.drop s.sendNum).take
        (chunkSize blk.packets.length s.sendNum)) ms nb_tx
      sendNum := s.sendNum + chunkSize blk.packets.length s.sendNum } := by
  obtain ⟨unit, hunit, hstart, hamended⟩ := h
  have hdescs := length_chunk s blk
  obtain ⟨f, hf⟩ := TxState.chunk_sendChunk amend s.toTxState nb_tx hms.nodup
    (hms.length.trans hdescs.symm)
  have hat : unit.blocks[s.blkIdx]? = some blk := by simpa [block, hunit] using hblk
  refine ⟨unit, hunit, ?_, fun hwork => ?_⟩
  · show s.unitStart ≤ (s.toTxState.sendChunk amend _ ms nb_tx).amended.length
    rw [hf.amended, List.length_append]
    exact Nat.le_add_right_of_le hstart
  · have hbefore := hamended (hf.doWork ▸ hwork)
    show ((s.toTxState.sendChunk amend _ ms nb_tx).amended.drop s.unitStart).map Prod.fst =
      unit.before s.blkIdx (s.sendNum + chunkSize blk.packets.length s.sendNum)
    rw [TxUnit.before_add hat, ← hbefore, hf.amended, List.drop_append_of_le_length hstart,
      List.map_append, List.map_fst_zip (by rw [List.length_map, hms.length, hdescs]), unitAmended]

/-- Outside of a unit there are only the books. -/
lemma sound_outside (h : s.toTxState.Booked) (hblocks : s.pc ≠ .blocks) (hretry : s.pc ≠ .retry)
    (hend : s.pc ≠ .unitEnd) : s.Sound txUnits where
  booked := h
  inUnit hpc := by
    rcases hpc with hpc | hpc | hpc
    · exact absurd hpc hblocks
    · exact absurd hpc hretry
    · exact absurd hpc hend
  atEnd hpc := absurd hpc hend

lemma Sound.step (h : s.Sound txUnits) (hallows : s.Allows txUnits inp) :
    (steadyStep amend txUnits inp s).Sound txUnits := by
  obtain ⟨hbooked, hin, hend⟩ := h
  unfold steadyStep
  cases hpc : s.pc with
  | loop =>
    dsimp only
    split_ifs with hwork hidx
    · refine ⟨hbooked, fun _ => ?_, nofun⟩
      obtain ⟨unit, hunit⟩ : ∃ unit, txUnits[s.txUnitIdx.toNat]? = some unit :=
        ⟨_, List.getElem?_eq_getElem hidx⟩
      exact ⟨unit, hunit, le_rfl, fun _ => by simp [unitAmended, TxUnit.before_zero]⟩
    all_goals exact sound_outside hbooked nofun nofun nofun
  | blocks =>
    have hin := hin (.inl hpc)
    dsimp only
    cases hblk : s.block txUnits with
    | none =>
      dsimp only
      exact ⟨hbooked, fun _ => hin, fun _ => hblk⟩
    | some blk =>
      dsimp only
      obtain ⟨unit, hunit, _⟩ := id hin
      have hat : unit.blocks[s.blkIdx]? = some blk := by simpa [block, hunit] using hblk
      split_ifs with hlt
      · obtain ⟨hgives, hnb⟩ := hallows hpc blk hblk hlt
        cases halloc : inp.alloc with
        | none => exact ⟨hbooked, fun _ => hin, nofun⟩
        | some ms =>
          have hms := hgives ms halloc
          have hlen := hms.length.trans (length_chunk s blk).symm
          have hunit := hin.sendChunk amend inp.nb_tx hblk hms
          exact ⟨hbooked.sendChunk hms hlen (hms.length ▸ hnb), fun _ => hpc ▸ hunit, nofun⟩
      · refine ⟨hbooked, fun _ => hin.congr rfl rfl rfl fun hwork =>
          ⟨hwork, fun unit' hunit' => ?_⟩, nofun⟩
        obtain rfl := Option.some.inj (hunit.symm.trans hunit')
        exact TxUnit.before_succ hat (Nat.not_lt.mp hlt)
  | retry =>
    have hin := hin (.inr (.inl hpc))
    dsimp only
    split_ifs with hwork
    · exact ⟨hbooked, fun _ => hin, nofun⟩
    · exact ⟨hbooked, fun _ => hin.congr rfl rfl rfl fun h => absurd h hwork, nofun⟩
  | unitEnd =>
    dsimp only
    split_ifs <;> exact sound_outside hbooked nofun nofun nofun
  | finished | thrown | undefined =>
    dsimp only
    refine sound_outside hbooked ?_ ?_ ?_ <;> rw [hpc] <;> decide

lemma Sound.of_step (h : s.Sound txUnits) (hstep : SteadyStep amend txUnits s s') :
    s'.Sound txUnits := by
  cases hstep with
  | run inp hallows => exact h.step hallows
  | stop =>
    obtain ⟨⟨⟨h1, h2⟩, h3, h4, h5, h6⟩, hin, hend⟩ := h
    exact ⟨⟨⟨h1, h2⟩, h3, h4, h5, h6⟩, fun hpc => (hin hpc).congr rfl rfl rfl nofun, hend⟩
  | world =>
    obtain ⟨⟨⟨h1, h2⟩, h3, h4, h5, h6⟩, hin, hend⟩ := h
    exact ⟨⟨⟨h1, h2⟩, h3, h4, h5, h6⟩, hin, hend⟩

theorem sound_of_reach (hbooked : s.toTxState.Booked) (hpc : s.pc = .loop ∨ s.pc = .thrown)
    (h : ReflTransGen (SteadyStep amend txUnits) s s') : s'.Sound txUnits := by
  induction h with
  | refl =>
    refine sound_outside hbooked ?_ ?_ ?_ <;>
      rcases hpc with hpc | hpc <;> rw [hpc] <;> decide
  | tail _ hstep ih => exact ih.of_step hstep

/-- A unit that is over before the stop flag was seen has amended each of its descriptors. -/
lemma Sound.unit_done (h : s.Sound txUnits) (hpc : s.pc = .unitEnd) (hwork : s.doWork = true) :
    ∃ unit, txUnits[s.txUnitIdx.toNat]? = some unit ∧ s.unitAmended = unit.packets := by
  obtain ⟨unit, hunit, _, hamended⟩ := h.inUnit (.inr (.inr hpc))
  refine ⟨unit, hunit, (hamended hwork).trans (TxUnit.before_end ?_)⟩
  simpa [block, hunit] using h.atEnd hpc

theorem sound_txPacketsCycle {s : TxState σ} (hfresh : s.Fresh)
    (h : ReflTransGen (SteadyStep amend txUnits) (txPacketsCycle txUnits s) s') :
    s'.Sound txUnits := by
  have hpc : (txPacketsCycle txUnits s).pc = .loop ∨ (txPacketsCycle txUnits s).pc = .thrown := by
    unfold txPacketsCycle
    split_ifs
    · exact .inr rfl
    · exact .inl rfl
  exact sound_of_reach hfresh.booked hpc h

theorem sound_txRWorkerCycle {s : TxState σ} (hfresh : s.Fresh)
    (h : ReflTransGen (SteadyStep amend txUnits) (txRWorkerCycle s) s') : s'.Sound txUnits :=
  sound_of_reach hfresh.booked (.inl rfl) h

end SteadyState

end ProcessBus
