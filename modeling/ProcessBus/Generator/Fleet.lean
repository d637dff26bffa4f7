import ProcessBus.Generator.Burst
import ProcessBus.Generator.Nonces

/-!
# TX workers that share the mbufs

`run_r_workers` and `run_r_burst_workers` start one TX loop for each generator. The loops share the
pool: an mbuf that one worker has sent or freed is soon given to another one, with the packet of a
stream of the first still in it. The pool gives out no mbuf that somebody has.

A worker among others does what it may do alone, no mbuf is ever in the hands of two, and what is
written is a run of the generators.
-/

namespace ProcessBus

open Relation RSess

/-! ### Workers -/

/-- A worker: one of the loops, with its schedule or plan. -/
inductive TxWorker (σ : Type) where
  | steady (txUnits : List TxUnit) (s : SteadyState σ)
  | burst (plan : List PacketDesc) (ticksPerSec : UInt64) (s : BurstState σ)

namespace TxWorker

variable {σ : Type}

def tx : TxWorker σ → TxState σ
  | steady _ s => s.toTxState
  | burst _ _ s => s.toTxState

/-- What the worker may have to amend. -/
def descs : TxWorker σ → List PacketDesc
  | steady txUnits _ => txUnits.flatMap TxUnit.packets
  | burst plan _ _ => plan

/-- The worker, when others have written to mbufs. -/
def setMbufs (mbufs : ℕ → Mbuf) : TxWorker σ → TxWorker σ
  | steady txUnits s => steady txUnits { s with mbufs := mbufs }
  | burst plan ticksPerSec s => burst plan ticksPerSec { s with mbufs := mbufs }

/-- A worker that has not begun. -/
inductive Starts (t : TxState σ) : TxWorker σ → Prop
  | packets (txUnits : List TxUnit) : Starts t (.steady txUnits (txPacketsCycle txUnits t))
  | rWorker (txUnits : List TxUnit) : Starts t (.steady txUnits (txRWorkerCycle t))
  | burstWorker (plan : List PacketDesc) (ticksPerSec secStartTick : UInt64) :
      Starts t (.burst plan ticksPerSec (txBurstWorkerCycle plan secStartTick t))

/-- A worker goes on, with the mbufs that the pool gives it, or sees that it is to stop. -/
inductive Step (amend : Amend σ) : List ℕ → TxWorker σ → TxWorker σ → Prop
  | steady (txUnits : List TxUnit) (s : SteadyState σ) (inp : TxInput)
      (h : s.Allows txUnits inp) : Step amend (inp.alloc.getD []) (.steady txUnits s)
        (.steady txUnits (steadyStep amend txUnits inp s))
  | burst (plan : List PacketDesc) (ticksPerSec : UInt64) (s : BurstState σ) (inp : BurstInput)
      (h : s.Allows plan inp) : Step amend (inp.alloc.getD []) (.burst plan ticksPerSec s)
        (.burst plan ticksPerSec (burstStep amend plan ticksPerSec inp s))
  | stopSteady (txUnits : List TxUnit) (s : SteadyState σ) :
      Step amend [] (.steady txUnits s) (.steady txUnits { s with doWork := false })
  | stopBurst (plan : List PacketDesc) (ticksPerSec : UInt64) (s : BurstState σ) :
      Step amend [] (.burst plan ticksPerSec s) (.burst plan ticksPerSec { s with doWork := false })

/-- What a worker can get to when nobody but itself and the world around it does anything. -/
inductive Alone (amend : Amend σ) : TxWorker σ → TxWorker σ → Prop
  | steady {txUnits : List TxUnit} {s s' : SteadyState σ}
      (h : ReflTransGen (SteadyStep amend txUnits) s s') :
      Alone amend (.steady txUnits s) (.steady txUnits s')
  | burst {plan : List PacketDesc} {ticksPerSec : UInt64} {s s' : BurstState σ}
      (h : ReflTransGen (BurstStep amend plan ticksPerSec) s s') :
      Alone amend (.burst plan ticksPerSec s) (.burst plan ticksPerSec s')

end TxWorker

/-- The workers take turns. The pool gives a worker mbufs that no other one has. What happens to
mbufs that nobody has leaves the data in them alone. -/
inductive FleetStep {ω σ : Type} [DecidableEq ω] (amend : Amend σ) :
    (ω → TxWorker σ) → (ω → TxWorker σ) → Prop
  | work (ws : ω → TxWorker σ) (w : ω) (given : List ℕ) (worker : TxWorker σ)
      (h : (ws w).Step amend given worker)
      (hfree : ∀ w', w' ≠ w → ∀ m ∈ given, ¬ Ledger.InHand (ws w').tx.got (ws w').tx.back m) :
      FleetStep amend ws fun w' => if w' = w then worker else (ws w').setMbufs worker.tx.mbufs
  | world (ws : ω → TxWorker σ) (mbufs : ℕ → Mbuf) (hkeeps : ∀ w, (ws w).tx.Keeps mbufs)
      (hdata : ∀ w m, (mbufs m).data = ((ws w).tx.mbufs m).data) :
      FleetStep amend ws fun w => (ws w).setMbufs mbufs

/-! ### What a worker does -/

namespace TxState

variable {σ : Type} {amend : Amend σ} {s s' : TxState σ} {given : List ℕ}

/-- What a step of a loop does to the generator and the mbufs: it amends a chunk of `descs`, or
nothing. What it then has it had before, or the pool has given it. -/
structure Writes (amend : Amend σ) (given : List ℕ) (descs : List PacketDesc) (s s' : TxState σ)
    (ps : List (ℕ × PacketDesc)) : Prop where
  mem_given : ∀ p ∈ ps, p.1 ∈ given
  mem_descs : ∀ p ∈ ps, p.2 ∈ descs
  gen : s'.gen = (s.amendBulk amend ps).gen
  mbufs : s'.mbufs = (s.amendBulk amend ps).mbufs
  amended : s'.amended = (s.amendBulk amend ps).amended
  inHand : ∀ m, Ledger.InHand s'.got s'.back m → m ∈ given ∨ Ledger.InHand s.got s.back m

/-- The pool's books have no part in amending. -/
lemma amendBulk_allocBulk (ms : List ℕ) (ps : List (ℕ × PacketDesc)) :
    (s.allocBulk ms).amendBulk amend ps = (s.amendBulk amend ps).allocBulk ms := by
  induction ps generalizing s with
  | nil => rfl
  | cons p ps ih => exact ih (s := s.amendOne amend p)

lemma Writes.nothing {descs : List PacketDesc} (hgen : s'.gen = s.gen) (hmbufs : s'.mbufs = s.mbufs)
    (hamended : s'.amended = s.amended)
    (hinHand : ∀ m, Ledger.InHand s'.got s'.back m → m ∈ given ∨ Ledger.InHand s.got s.back m) :
    Writes amend given descs s s' [] where
  mem_given := by simp
  mem_descs := by simp
  gen := hgen
  mbufs := hmbufs
  amended := hamended
  inHand := hinHand

/-- Giving back more does not bring anything into a worker's hands. -/
lemma inHand_of_back_le {got ms back back' : List ℕ} {m : ℕ} (hback : back.Subperm back')
    (h : Ledger.InHand (got ++ ms) back' m) : m ∈ ms ∨ Ledger.InHand got back m := by
  unfold Ledger.InHand at h ⊢
  rw [List.count_append] at h
  by_cases hm : m ∈ ms
  · exact .inl hm
  · rw [List.count_eq_zero_of_not_mem hm] at h
    exact .inr ((hback.count_le m).trans_lt h)

variable {descs chunk : List PacketDesc} {ms : List ℕ} {num nb_tx : ℕ}

/-- The books of `back` only grow. -/
lemma subperm_back {accepted : List (ℕ × Mbuf)} {freed : List ℕ}
    (haccepted : s'.accepted = s.accepted ++ accepted) (hfreed : s'.freed = s.freed ++ freed) :
    s.back.Subperm s'.back := by
  rw [back, back, haccepted, hfreed, List.map_append]
  apply List.Sublist.subperm
  exact (List.sublist_append_left _ _).append (List.sublist_append_left _ _)

lemma writes_sendChunk (hms : s.Gives num ms) (hlen : ms.length = chunk.length)
    (hchunk : ∀ d ∈ chunk, d ∈ descs) :
    Writes amend ms descs s (s.sendChunk amend chunk ms nb_tx) (ms.zip chunk) := by
  obtain ⟨f, hf⟩ := chunk_sendChunk amend s nb_tx hms.nodup hlen
  have hsame : (s.sendChunk amend chunk ms nb_tx).gen = (s.amendBulk amend (ms.zip chunk)).gen ∧
      (s.sendChunk amend chunk ms nb_tx).mbufs = (s.amendBulk amend (ms.zip chunk)).mbufs ∧
      (s.sendChunk amend chunk ms nb_tx).amended =
        (s.amendBulk amend (ms.zip chunk)).amended := by
    unfold sendChunk
    rw [amendBulk_allocBulk]
    split_ifs <;> exact ⟨rfl, rfl, rfl⟩
  obtain ⟨hgen, hmbufs, hamended⟩ := hsame
  refine ⟨?_, ?_, hgen, hmbufs, hamended, ?_⟩
  · exact fun p hp => (List.of_mem_zip hp).1
  · exact fun p hp => hchunk _ (List.of_mem_zip hp).2
  · intro m hm
    rw [hf.got] at hm
    exact inHand_of_back_le (subperm_back hf.accepted hf.freed) hm

lemma writes_stage (hchunk : ∀ d ∈ chunk, d ∈ descs) :
    Writes amend ms descs s ((s.allocBulk ms).amendBulk amend (ms.zip chunk)) (ms.zip chunk) := by
  have hbooks := amendsOnly_amendBulk amend (s.allocBulk ms) (ms.zip chunk)
  refine ⟨?_, ?_, ?_, ?_, ?_, ?_⟩
  · exact fun p hp => (List.of_mem_zip hp).1
  · exact fun p hp => hchunk _ (List.of_mem_zip hp).2
  · rw [amendBulk_allocBulk]
    rfl
  · rw [amendBulk_allocBulk]
    rfl
  · rw [amendBulk_allocBulk]
    rfl
  · intro m hm
    rw [hbooks.got] at hm
    apply inHand_of_back_le _ hm
    rw [back, back, hbooks.accepted, hbooks.freed]
    exact List.Subperm.refl _

/-- A step that amends nothing. -/
lemma writes_books {accepted : List (ℕ × Mbuf)} {freed : List ℕ} (hgen : s'.gen = s.gen)
    (hmbufs : s'.mbufs = s.mbufs) (hamended : s'.amended = s.amended) (hgot : s'.got = s.got)
    (haccepted : s'.accepted = s.accepted ++ accepted) (hfreed : s'.freed = s.freed ++ freed) :
    Writes amend given descs s s' [] := by
  apply Writes.nothing hgen hmbufs hamended
  intro m hm
  rw [hgot, ← List.append_nil s.got] at hm
  exact (inHand_of_back_le (subperm_back haccepted hfreed) hm).imp_left (by simp)

end TxState

namespace TxWorker

variable {σ : Type} {amend : Amend σ} {given : List ℕ} {worker worker' : TxWorker σ}

/-- The chunk of a block is part of the schedule. -/
lemma mem_descs_of_block {txUnits : List TxUnit} {s : SteadyState σ} {blk : TxBlock}
    (h : s.block txUnits = some blk) {d : PacketDesc} (hd : d ∈ blk.packets) :
    d ∈ txUnits.flatMap TxUnit.packets := by
  obtain ⟨unit, hunit, hblk⟩ := Option.bind_eq_some_iff.mp h
  apply List.mem_flatMap.mpr
  refine ⟨unit, List.mem_of_getElem? hunit, ?_⟩
  exact List.mem_flatten.mpr ⟨_, List.mem_map_of_mem (List.mem_of_getElem? hblk), hd⟩

lemma Step.steady_writes {txUnits : List TxUnit} {s : SteadyState σ} {inp : TxInput}
    (h : s.Allows txUnits inp) : ∃ ps, TxState.Writes amend (inp.alloc.getD [])
      (txUnits.flatMap TxUnit.packets) s.toTxState
      (steadyStep amend txUnits inp s).toTxState ps := by
  have hsame : ∀ s' : TxState σ, s' = s.toTxState → ∃ ps, TxState.Writes amend (inp.alloc.getD [])
      (txUnits.flatMap TxUnit.packets) s.toTxState s' ps := by
    rintro s' rfl
    exact ⟨[], .nothing rfl rfl rfl fun m hm => .inr hm⟩
  unfold steadyStep
  cases hpc : s.pc with
  | blocks =>
    cases hblk : s.block txUnits with
    | none => exact hsame _ rfl
    | some blk =>
      dsimp only
      split_ifs with hlt
      · cases halloc : inp.alloc with
        | none => exact ⟨[], .nothing rfl rfl rfl fun m hm => .inr hm⟩
        | some ms =>
          have hms := (h hpc blk hblk hlt).1 ms halloc
          refine ⟨_, TxState.writes_sendChunk hms ?_ ?_⟩
          · exact hms.length.trans (SteadyState.length_chunk s blk).symm
          · intro d hd
            exact mem_descs_of_block hblk (List.mem_of_mem_drop (List.mem_of_mem_take hd))
      · exact hsame _ rfl
  | loop | retry | unitEnd =>
    dsimp only
    split_ifs <;> exact hsame _ rfl
  | finished | thrown | undefined => exact hsame _ rfl

lemma Step.burst_writes {plan : List PacketDesc} (ticksPerSec : UInt64) (s : BurstState σ)
    (inp : BurstInput) : ∃ ps, TxState.Writes amend (inp.alloc.getD []) plan s.toTxState
      (burstStep amend plan ticksPerSec inp s).toTxState ps := by
  have hsame : ∀ s' : TxState σ, s' = s.toTxState → ∃ ps, TxState.Writes amend (inp.alloc.getD [])
      plan s.toTxState s' ps := by
    rintro s' rfl
    exact ⟨[], .nothing rfl rfl rfl fun m hm => .inr hm⟩
  unfold burstStep
  cases hpc : s.pc with
  | loop =>
    dsimp only
    split_ifs <;> exact hsame _ rfl
  | staging =>
    dsimp only
    split_ifs with hmore
    · cases halloc : inp.alloc with
      | none => exact ⟨[], .nothing rfl rfl rfl fun m hm => .inr hm⟩
      | some ms =>
        refine ⟨_, TxState.writes_stage ?_⟩
        intro d hd
        exact List.mem_of_mem_drop (List.mem_of_mem_take hd)
    · exact hsame _ rfl
  | staged =>
    dsimp only
    by_cases hwork : s.doWork = true
    · rw [if_pos hwork]
      exact ⟨[], .nothing rfl rfl rfl fun m hm => .inr hm⟩
    · rw [if_neg hwork]
      exact ⟨[], TxState.writes_books rfl rfl rfl rfl (List.append_nil _).symm rfl⟩
  | firing =>
    dsimp only
    by_cases hmore : s.sent < s.stagedNum ∧ s.doWork = true
    · rw [if_pos hmore]
      exact ⟨[], TxState.writes_books rfl rfl rfl rfl rfl (List.append_nil _).symm⟩
    · rw [if_neg hmore]
      exact hsame _ rfl
  | fired =>
    dsimp only
    split_ifs
    · exact ⟨[], TxState.writes_books rfl rfl rfl rfl (List.append_nil _).symm rfl⟩
    · exact ⟨[], .nothing rfl rfl rfl fun m hm => .inr hm⟩
  | finished | thrown => exact hsame _ rfl

/-- What a worker does in a step. -/
lemma Step.writes (h : Step amend given worker worker') :
    worker'.descs = worker.descs ∧
      ∃ ps, TxState.Writes amend given worker.descs worker.tx worker'.tx ps := by
  cases h with
  | steady txUnits s inp h => exact ⟨rfl, steady_writes h⟩
  | burst plan ticksPerSec s inp h => exact ⟨rfl, burst_writes ticksPerSec s inp⟩
  | stopSteady | stopBurst =>
    exact ⟨rfl, [], .nothing rfl rfl rfl fun m hm => .inr hm⟩

end TxWorker

/-! ### A worker among others -/

namespace TxWorker

variable {σ : Type} {amend : Amend σ} {given : List ℕ} {worker worker' worker'' : TxWorker σ}
  {mbufs : ℕ → Mbuf}

@[simp] lemma tx_setMbufs (worker : TxWorker σ) (mbufs : ℕ → Mbuf) :
    (worker.setMbufs mbufs).tx = { worker.tx with mbufs := mbufs } := by
  cases worker <;> rfl

@[simp] lemma descs_setMbufs (worker : TxWorker σ) (mbufs : ℕ → Mbuf) :
    (worker.setMbufs mbufs).descs = worker.descs := by
  cases worker <;> rfl

lemma Starts.tx_eq {t : TxState σ} (h : worker.Starts t) : worker.tx = t := by
  cases h <;> rfl

variable (amend worker) in
lemma Alone.refl : Alone amend worker worker := by
  cases worker with
  | steady txUnits s => exact .steady .refl
  | burst plan ticksPerSec s => exact .burst .refl

lemma Alone.step (h : Alone amend worker worker') (hstep : Step amend given worker' worker'') :
    Alone amend worker worker'' := by
  cases h with
  | steady hreach =>
    cases hstep with
    | steady _ _ inp hallows => exact .steady (hreach.tail (.run _ inp hallows))
    | stopSteady => exact .steady (hreach.tail (.stop _))
  | burst hreach =>
    cases hstep with
    | burst _ _ _ inp hallows => exact .burst (hreach.tail (.run _ inp hallows))
    | stopBurst => exact .burst (hreach.tail (.stop _))

/-- For a worker the other ones are a part of the world. -/
lemma Alone.setMbufs (h : Alone amend worker worker') (hkeeps : worker'.tx.Keeps mbufs) :
    Alone amend worker (worker'.setMbufs mbufs) := by
  cases h with
  | steady hreach => exact .steady (hreach.tail (.world _ mbufs hkeeps))
  | burst hreach => exact .burst (hreach.tail (.world _ mbufs hkeeps))

end TxWorker

/-! ### The generators of the workers -/

section Fleet

variable {ω σ ι : Type} [DecidableEq ω]

/-- `Amend` of a kind of generator: the packet, and its size. -/
def GenKind.amendDesc (kind : GenKind σ ι) : Amend σ := fun gen packet desc =>
  (kind.amend gen packet desc.idx, kind.size gen)

/-- A worker's generator, the mbufs and what the worker has written, in a run of the generators. -/
structure Shows (s : Pool.State ω UInt32 σ) (w : ω) (t : TxState σ) : Prop where
  gen : s.writers w = t.gen
  mbufs : ∀ b, s.buffers b = (t.mbufs b).data
  amended : s.log w = t.amended.map fun a => (a.1.idx, a.2.data)

variable {kind : GenKind σ ι} {gens : ω → σ}

/-- Calls of one worker, for as many descriptors as it likes. -/
lemma exists_calls {w : ω} {ps : List (ℕ × PacketDesc)}
    (hkey : ∀ p ∈ ps, p.2.idx.toNat < (kind.ieds (gens w)).length)
    {s : Pool.State ω UInt32 σ} {t : TxState σ} (h : Shows s w t) :
    ∃ s', ReflTransGen (Pool.Step kind.amend fun w idx => idx.toNat < (kind.ieds (gens w)).length)
        s s' ∧
      Shows s' w (t.amendBulk kind.amendDesc ps) ∧
      ∀ w', w' ≠ w → s'.writers w' = s.writers w' ∧ s'.log w' = s.log w' := by
  induction ps generalizing s t with
  | nil => exact ⟨s, .refl, h, fun _ _ => ⟨rfl, rfl⟩⟩
  | cons p ps ih =>
    rw [List.forall_mem_cons] at hkey
    let r := kind.amend (s.writers w) (s.buffers p.1) p.2.idx
    let next : Pool.State ω UInt32 σ :=
      ⟨Function.update s.writers w r.1, Function.update s.buffers p.1 r.2,
        s.sent ++ [((w, p.2.idx), r.2)]⟩
    have hr : r = kind.amend t.gen (t.mbufs p.1).data p.2.idx := by
      show kind.amend (s.writers w) (s.buffers p.1) p.2.idx = _
      rw [h.gen, h.mbufs]
    have hnext : Shows next w (t.amendOne kind.amendDesc p) := by
      refine ⟨?_, fun b => ?_, ?_⟩
      · show Function.update s.writers w r.1 w = _
        rw [Function.update_self, hr]
        rfl
      · show Function.update s.buffers p.1 r.2 b = (Function.update t.mbufs p.1 _ b).data
        by_cases hb : b = p.1
        · rw [hb, Function.update_self, Function.update_self, hr]
          rfl
        · rw [Function.update_of_ne hb, Function.update_of_ne hb, h.mbufs]
      · rw [Pool.log_append_self, h.amended, hr]
        simp [TxState.amendOne, GenKind.amendDesc]
    obtain ⟨s', hreach, hshows, hothers⟩ := ih hkey.2 hnext
    refine ⟨s', .head (.call s w p.2.idx p.1 hkey.1) hreach, hshows, fun w' hne => ?_⟩
    obtain ⟨hwriters, hlog⟩ := hothers w' hne
    refine ⟨hwriters.trans (Function.update_of_ne hne _ _), hlog.trans ?_⟩
    exact Pool.log_append_of_ne s hne _ _ _ _

/-- Amending does not change the size of the packets. -/
def GenKind.KeepsSize (kind : GenKind σ ι) : Prop :=
  ∀ gen packet idx, kind.size (kind.amend gen packet idx).1 = kind.size gen

/-- The packets are of one size. -/
structure Sized (kind : GenKind σ ι) (size : ℕ) (t : TxState σ) : Prop where
  gen : kind.size t.gen = size
  amended : ∀ a ∈ t.amended, a.2.pkt_len = size ∧ a.2.data_len = size

lemma Sized.amendBulk (hsize : kind.KeepsSize) {size : ℕ} {ps : List (ℕ × PacketDesc)}
    {t : TxState σ} (h : Sized kind size t) :
    Sized kind size (t.amendBulk kind.amendDesc ps) := by
  induction ps generalizing t with
  | nil => exact h
  | cons p ps ih =>
    apply ih
    constructor
    · exact (hsize _ _ _).trans h.gen
    · intro a ha
      rcases List.mem_append.mp ha with ha | ha
      · exact h.amended a ha
      · rw [List.mem_singleton.mp ha]
        exact ⟨h.gen, h.gen⟩

/-- Where the workers have got to. -/
structure FleetSound (kind : GenKind σ ι) (gens : ω → σ) (ws₀ ws : ω → TxWorker σ) : Prop where
  alone : ∀ w, (ws₀ w).Alone kind.amendDesc (ws w)
  descs : ∀ w, (ws w).descs = (ws₀ w).descs
  /-- The mbufs are the same for all. -/
  shared : ∀ w w', (ws w).tx.mbufs = (ws w').tx.mbufs
  apart : ∀ w w', w ≠ w' → ∀ m, Ledger.InHand (ws w).tx.got (ws w).tx.back m →
    ¬ Ledger.InHand (ws w').tx.got (ws w').tx.back m
  run : ∃ s, kind.Run gens s ∧ ∀ w, Shows s w (ws w).tx
  sized : ∀ w, Sized kind (kind.size (gens w)) (ws w).tx

variable {ws₀ ws ws' : ω → TxWorker σ} {mbufs : ℕ → Mbuf}

lemma FleetSound.of_starts (hunused : kind.Unused gens fun b => (mbufs b).data)
    (hstart : ∀ w, (ws₀ w).Starts { gen := gens w, mbufs := mbufs }) :
    FleetSound kind gens ws₀ ws₀ where
  alone w := .refl _ _
  descs w := rfl
  shared w w' := by rw [(hstart w).tx_eq, (hstart w').tx_eq]
  apart w w' _ m hm := by
    rw [(hstart w).tx_eq] at hm
    exact absurd hm (Nat.not_lt_zero _)
  run := by
    refine ⟨⟨gens, fun b => (mbufs b).data, []⟩, ⟨_, hunused, .refl⟩, fun w => ?_⟩
    rw [(hstart w).tx_eq]
    exact ⟨rfl, fun _ => rfl, rfl⟩
  sized w := by
    rw [(hstart w).tx_eq]
    exact ⟨rfl, by simp⟩

/-- What a chunk does not have stays as it is. -/
lemma mbufs_of_writes {amend : Amend σ} {given : List ℕ} {descs : List PacketDesc}
    {t t' : TxState σ} {ps : List (ℕ × PacketDesc)} (h : TxState.Writes amend given descs t t' ps)
    {m : ℕ} (hm : m ∉ given) : t'.mbufs m = t.mbufs m := by
  rw [h.mbufs]
  apply TxState.mbufs_amendBulk_of_not_mem
  intro hmem
  obtain ⟨p, hp, rfl⟩ := List.mem_map.mp hmem
  exact hm (h.mem_given p hp)

/-- A step of one of the workers. -/
lemma FleetSound.work (hsize : kind.KeepsSize) (h : FleetSound kind gens ws₀ ws)
    (hdescs : ∀ w, ∀ d ∈ (ws₀ w).descs, d.idx.toNat < (kind.ieds (gens w)).length) {w : ω}
    {given : List ℕ} {worker : TxWorker σ} (hstep : (ws w).Step kind.amendDesc given worker)
    (hfree : ∀ w', w' ≠ w → ∀ m ∈ given, ¬ Ledger.InHand (ws w').tx.got (ws w').tx.back m) :
    FleetSound kind gens ws₀ fun w' =>
      if w' = w then worker else (ws w').setMbufs worker.tx.mbufs := by
  obtain ⟨hsame, ps, hwrites⟩ := hstep.writes
  refine ⟨fun w' => ?_, fun w' => ?_, ?_, ?_, ?_, fun w' => ?_⟩
  · by_cases hw : w' = w
    · rw [if_pos hw, hw]
      exact (h.alone w).step hstep
    · rw [if_neg hw]
      apply (h.alone w').setMbufs
      intro m hm
      rw [h.shared w' w]
      exact mbufs_of_writes hwrites fun hgiven => hfree w' hw m hgiven hm
  · by_cases hw : w' = w
    · rw [if_pos hw, hsame, hw, h.descs]
    · rw [if_neg hw, TxWorker.descs_setMbufs, h.descs]
  · have hall : ∀ w', (if w' = w then worker else (ws w').setMbufs worker.tx.mbufs).tx.mbufs =
        worker.tx.mbufs := by
      intro w'
      split_ifs
      · rfl
      · rw [TxWorker.tx_setMbufs]
    exact fun w' w'' => (hall w').trans (hall w'').symm
  · have hhands : ∀ w' m, Ledger.InHand
        (if w' = w then worker else (ws w').setMbufs worker.tx.mbufs).tx.got
        (if w' = w then worker else (ws w').setMbufs worker.tx.mbufs).tx.back m →
        (w' = w ∧ m ∈ given) ∨ Ledger.InHand (ws w').tx.got (ws w').tx.back m := by
      intro w' m hm
      by_cases hw : w' = w
      · rw [if_pos hw] at hm
        rw [hw]
        exact (hwrites.inHand m hm).imp_left fun hgiven => ⟨rfl, hgiven⟩
      · rw [if_neg hw, TxWorker.tx_setMbufs] at hm
        exact .inr hm
    intro w' w'' hne m hm hm'
    rcases hhands w' m hm with ⟨rfl, hgiven⟩ | hold
    · rcases hhands w'' m hm' with ⟨rfl, _⟩ | hold'
      · exact hne rfl
      · exact hfree w'' hne.symm m hgiven hold'
    · rcases hhands w'' m hm' with ⟨rfl, hgiven⟩ | hold'
      · exact hfree w' hne m hgiven hold
      · exact h.apart w' w'' hne m hold hold'
  · obtain ⟨s, ⟨buffers, hunused, hreach⟩, hshows⟩ := h.run
    have hkey : ∀ p ∈ ps, p.2.idx.toNat < (kind.ieds (gens w)).length := by
      intro p hp
      exact hdescs w _ (h.descs w ▸ hwrites.mem_descs p hp)
    obtain ⟨s', hcalls, hself, hothers⟩ := exists_calls hkey (hshows w)
    refine ⟨s', ⟨buffers, hunused, hreach.trans hcalls⟩, fun w' => ?_⟩
    have hbuffers : ∀ b, s'.buffers b = (worker.tx.mbufs b).data := by
      intro b
      rw [hself.mbufs, hwrites.mbufs]
    by_cases hw : w' = w
    · rw [if_pos hw, hw]
      refine ⟨?_, hbuffers, ?_⟩
      · rw [hself.gen, hwrites.gen]
      · rw [hself.amended, hwrites.amended]
    · rw [if_neg hw, TxWorker.tx_setMbufs]
      obtain ⟨hwriters, hlog⟩ := hothers w' hw
      exact ⟨hwriters.trans (hshows w').gen, hbuffers, hlog.trans (hshows w').amended⟩
  · by_cases hw : w' = w
    · rw [if_pos hw, hw]
      obtain ⟨hgen, hamended⟩ := @Sized.amendBulk σ ι kind hsize _ ps _ (h.sized w)
      rw [← hwrites.gen] at hgen
      rw [← hwrites.amended] at hamended
      exact ⟨hgen, hamended⟩
    · rw [if_neg hw, TxWorker.tx_setMbufs]
      exact ⟨(h.sized w').gen, (h.sized w').amended⟩

/-- What happens to mbufs that nobody has. -/
lemma FleetSound.world (h : FleetSound kind gens ws₀ ws) {mbufs : ℕ → Mbuf}
    (hkeeps : ∀ w, (ws w).tx.Keeps mbufs)
    (hdata : ∀ w m, (mbufs m).data = ((ws w).tx.mbufs m).data) :
    FleetSound kind gens ws₀ fun w => (ws w).setMbufs mbufs where
  alone w := (h.alone w).setMbufs (hkeeps w)
  descs w := by rw [TxWorker.descs_setMbufs, h.descs]
  shared w w' := by rw [TxWorker.tx_setMbufs, TxWorker.tx_setMbufs]
  apart w w' := by
    rw [TxWorker.tx_setMbufs, TxWorker.tx_setMbufs]
    exact h.apart w w'
  run := by
    obtain ⟨s, hrun, hshows⟩ := h.run
    refine ⟨s, hrun, fun w => ?_⟩
    rw [TxWorker.tx_setMbufs]
    refine ⟨(hshows w).gen, fun b => ?_, (hshows w).amended⟩
    rw [(hshows w).mbufs b]
    exact (hdata w b).symm
  sized w := by
    rw [TxWorker.tx_setMbufs]
    exact ⟨(h.sized w).gen, (h.sized w).amended⟩

/-- In every run of the workers, each does what it may do alone, no mbuf is in the hands of two, and
what they write is a run of the generators. -/
theorem fleetSound_of_reach (hsize : kind.KeepsSize)
    (hunused : kind.Unused gens fun b => (mbufs b).data)
    (hstart : ∀ w, (ws₀ w).Starts { gen := gens w, mbufs := mbufs })
    (hdescs : ∀ w, ∀ d ∈ (ws₀ w).descs, d.idx.toNat < (kind.ieds (gens w)).length)
    (h : ReflTransGen (FleetStep kind.amendDesc) ws₀ ws) : FleetSound kind gens ws₀ ws := by
  induction h with
  | refl => exact .of_starts hunused hstart
  | tail _ hstep ih =>
    cases hstep with
    | work w given worker hstep hfree => exact ih.work hsize hdescs hstep hfree
    | world mbufs hkeeps hdata => exact ih.world hkeeps hdata

end Fleet

/-! ### What the NIC takes -/

lemma TxState.exists_amended {σ : Type} (amend : Amend σ) (s : TxState σ)
    (ps : List (ℕ × PacketDesc)) :
    ∃ written, (s.amendBulk amend ps).amended = s.amended ++ written := by
  induction ps generalizing s with
  | nil => exact ⟨[], (List.append_nil _).symm⟩
  | cons p ps ih =>
    obtain ⟨written, hwritten⟩ := ih (s.amendOne amend p)
    exact ⟨_, hwritten.trans (List.append_assoc _ _ _)⟩

namespace BurstState

variable {σ : Type} {amend : Amend σ} {plan : List PacketDesc} {ticksPerSec : UInt64}
  {inp : BurstInput} {s s' : BurstState σ} {n : ℕ}

/-- What the NIC takes is what was amended, in order: in the seconds that are over, and in all. -/
structure InOrder (s : BurstState σ) : Prop where
  seconds : ((s.accepted.take s.secondStart.2).map Prod.snd).Sublist
    ((s.amended.take s.secondStart.1).map Prod.snd)
  sent : (s.accepted.map Prod.snd).Sublist (s.amended.map Prod.snd)

/-- In a second the NIC takes the first of those that are staged. -/
lemma Second.inOrder (h : s.Second plan n)
    (hseconds : ((s.accepted.take s.secondStart.2).map Prod.snd).Sublist
      ((s.amended.take s.secondStart.1).map Prod.snd)) : s.InOrder where
  seconds := hseconds
  sent := by
    have hsecond : (s.secondAccepted.map Prod.snd).Sublist (s.secondAmended.map Prod.snd) := by
      rw [h.sent]
      exact List.take_sublist _ _
    have hall := hseconds.append hsecond
    rwa [← List.map_append, ← List.map_append, secondAccepted, secondAmended,
      List.take_append_drop, List.take_append_drop] at hall

/-- Where nothing is amended or sent, nothing changes. -/
lemma InOrder.congr (h : s.InOrder) (hamended : s'.amended = s.amended)
    (haccepted : s'.accepted = s.accepted) (hstart : s'.secondStart = s.secondStart) :
    s'.InOrder := by
  obtain ⟨hseconds, hsent⟩ := h
  constructor
  · rwa [hamended, haccepted, hstart]
  · rwa [hamended, haccepted]

lemma InOrder.step (h : s.InOrder) (hsound : s.Sound plan)
    (hsound' : (burstStep amend plan ticksPerSec inp s).Sound plan) :
    (burstStep amend plan ticksPerSec inp s).InOrder := by
  unfold Sound at hsound
  unfold burstStep at hsound' ⊢
  cases hpc : s.pc with
  | loop =>
    dsimp only
    split_ifs
    · refine ⟨?_, h.sent⟩
      rw [List.take_length, List.take_length]
      exact h.sent
    · exact h.congr rfl rfl rfl
  | staging =>
    rw [hpc] at hsound
    dsimp only
    by_cases hmore : s.stagedNum < plan.length ∧ s.doWork = true
    · rw [if_pos hmore]
      cases halloc : inp.alloc with
      | none => exact h.congr rfl rfl rfl
      | some ms =>
        obtain ⟨written, hwritten⟩ := TxState.exists_amended amend (s.allocBulk ms)
          (ms.zip ((plan.drop s.stagedNum).take (min BURST_SIZE (plan.length - s.stagedNum))))
        have hbooks := TxState.amendsOnly_amendBulk amend (s.allocBulk ms)
          (ms.zip ((plan.drop s.stagedNum).take (min BURST_SIZE (plan.length - s.stagedNum))))
        constructor
        · dsimp only
          rw [hwritten, hbooks.accepted]
          simp only [TxState.allocBulk]
          rw [List.take_append_of_le_length hsound.start_le.1]
          exact h.seconds
        · dsimp only
          rw [hwritten, hbooks.accepted, List.map_append]
          exact h.sent.trans (List.sublist_append_left _ _)
    · rw [if_neg hmore]
      exact h.congr rfl rfl rfl
  | staged =>
    dsimp only
    by_cases hwork : s.doWork = true
    · rw [if_pos hwork]
      exact h.congr rfl rfl rfl
    · rw [if_neg hwork]
      exact h.congr rfl rfl rfl
  | firing =>
    rw [hpc] at hsound
    dsimp only
    by_cases hmore : s.sent < s.stagedNum ∧ s.doWork = true
    · simp only [hpc, if_pos hmore] at hsound' ⊢
      have hsecond : Second plan _ (s.sent + inp.nb) := hsound'.1
      apply hsecond.inOrder
      show (((s.accepted ++ _).take s.secondStart.2).map Prod.snd).Sublist _
      rw [List.take_append_of_le_length hsound.1.start_le.2]
      exact h.seconds
    · rw [if_neg hmore]
      exact h.congr rfl rfl rfl
  | fired =>
    dsimp only
    split_ifs <;> exact h.congr rfl rfl rfl
  | finished | thrown => exact h.congr rfl rfl rfl

lemma inOrder_of_reach {t : TxState σ} {secStartTick : UInt64} (hfresh : t.Fresh)
    (h : ReflTransGen (BurstStep amend plan ticksPerSec) (txBurstWorkerCycle plan secStartTick t)
      s) : s.InOrder := by
  induction h with
  | refl =>
    have hnil : (txBurstWorkerCycle plan secStartTick t).accepted = [] := hfresh.accepted
    constructor
    · rw [hnil, List.take_nil]
      exact List.nil_sublist _
    · rw [hnil]
      exact List.nil_sublist _
  | tail hreach hstep ih =>
    have hsound := sound_of_reach hfresh hreach
    have hsound' := hsound.of_step hstep
    cases hstep with
    | run inp hallows => exact ih.step hsound hsound'
    | stop | world => exact ih.congr rfl rfl rfl

end BurstState

namespace TxWorker

variable {σ : Type} {amend : Amend σ} {worker worker' : TxWorker σ} {t : TxState σ}

/-- A worker hands the NIC what it has amended, in order and each packet at most once. -/
lemma Alone.sublist (hstart : worker.Starts t) (hfresh : t.Fresh)
    (h : Alone amend worker worker') :
    (worker'.tx.accepted.map Prod.snd).Sublist (worker'.tx.amended.map Prod.snd) := by
  cases hstart with
  | packets =>
    cases h with
    | steady hreach => exact (SteadyState.sound_txPacketsCycle hfresh hreach).booked.sent
  | rWorker =>
    cases h with
    | steady hreach => exact (SteadyState.sound_txRWorkerCycle hfresh hreach).booked.sent
  | burstWorker =>
    cases h with
    | burst hreach => exact (BurstState.inOrder_of_reach hfresh hreach).sent

/-- What the worker's loop has done with packets and mbufs. -/
def Delivers : TxWorker σ → Prop
  | steady txUnits s => s.Delivers txUnits
  | burst plan _ s => s.Delivers plan

lemma Alone.delivers (hstart : worker.Starts t) (hfresh : t.Fresh)
    (h : Alone amend worker worker') : worker'.Delivers := by
  cases hstart with
  | packets =>
    cases h with
    | steady hreach => exact (SteadyState.sound_txPacketsCycle hfresh hreach).delivers
  | rWorker =>
    cases h with
    | steady hreach => exact (SteadyState.sound_txRWorkerCycle hfresh hreach).delivers
  | burstWorker =>
    cases h with
    | burst hreach => exact (BurstState.sound_of_reach hfresh hreach).delivers

end TxWorker

section Wire

variable {ω σ ι : Type} [DecidableEq ω] {kind : GenKind σ ι} {gens : ω → σ} {mbufs : ℕ → Mbuf}
  {ws₀ ws : ω → TxWorker σ}

/-- What the NIC has taken from a worker, with the descriptors it was amended for. -/
def OnWire (t : TxState σ) (wire : List (PacketDesc × Mbuf)) : Prop :=
  wire.Sublist t.amended ∧ wire.map Prod.snd = t.accepted.map Prod.snd

lemma FleetSound.exists_onWire (h : FleetSound kind gens ws₀ ws)
    (hstart : ∀ w, (ws₀ w).Starts { gen := gens w, mbufs := mbufs }) (w : ω) :
    ∃ wire, OnWire (ws w).tx wire := by
  have hsent := (h.alone w).sublist (hstart w) ⟨rfl, rfl, rfl, rfl, rfl⟩
  obtain ⟨wire, hwire, heq⟩ := List.sublist_map_iff.mp hsent
  exact ⟨wire, hwire, heq.symm⟩

/-- The kinds of the source. -/
lemma keepsSize_goose : GenKind.goose.KeepsSize := fun _ _ _ => rfl

lemma keepsSize_sv (type : SvType) : (GenKind.sv type).KeepsSize := by
  intro gen packet idx
  rw [GenKind.sv_amend]
  rfl

lemma keepsSize_rgoose (mode : SecurityMode) : (GenKind.rgoose mode).KeepsSize := fun _ _ _ => rfl

lemma keepsSize_rsv (mode : SecurityMode) (type : SvType) : (GenKind.rsv mode type).KeepsSize := by
  intro gen packet idx
  rw [GenKind.rsv_amend]
  rfl

/-- Whatever turns the workers take, and whatever the pool and the NIC do: what the NIC takes from
each of them are frames of a run of the generators, in order and each at most once and of their full
size, every worker delivers as it would alone, and no mbuf is in the hands of two workers. -/
theorem fleet_refines_generators (hsize : kind.KeepsSize)
    (hunused : kind.Unused gens fun b => (mbufs b).data)
    (hstart : ∀ w, (ws₀ w).Starts { gen := gens w, mbufs := mbufs })
    (hdescs : ∀ w, ∀ d ∈ (ws₀ w).descs, d.idx.toNat < (kind.ieds (gens w)).length)
    (hreach : ReflTransGen (FleetStep kind.amendDesc) ws₀ ws) :
    (∃ s, kind.Run gens s ∧ ∀ w, ∃ wire : List (UInt32 × Mem), wire.Sublist (s.log w) ∧
      wire.map Prod.snd = (ws w).tx.accepted.map (·.2.data)) ∧
    (∀ w, ∀ a ∈ (ws w).tx.accepted,
      a.2.pkt_len = kind.size (gens w) ∧ a.2.data_len = kind.size (gens w)) ∧
    (∀ w, (ws w).Delivers) ∧
    ∀ w w', w ≠ w' → ∀ m, Ledger.InHand (ws w).tx.got (ws w).tx.back m →
      ¬ Ledger.InHand (ws w').tx.got (ws w').tx.back m := by
  have hsound := fleetSound_of_reach hsize hunused hstart hdescs hreach
  obtain ⟨s, hrun, hshows⟩ := hsound.run
  choose wire hwire haccepted using hsound.exists_onWire hstart
  refine ⟨⟨s, hrun, fun w => ?_⟩, fun w a ha => ?_, fun w => ?_, hsound.apart⟩
  · refine ⟨(wire w).map fun a => (a.1.idx, a.2.data), ?_, ?_⟩
    · rw [(hshows w).amended]
      exact (hwire w).map _
    · have hdata := congrArg (List.map Mbuf.data) (haccepted w)
      simpa only [List.map_map, Function.comp_def] using hdata
  · have hmem : a.2 ∈ (wire w).map Prod.snd := by
      rw [haccepted w]
      exact List.mem_map_of_mem ha
    obtain ⟨b, hb, heq⟩ := List.mem_map.mp hmem
    rw [← heq]
    exact (hsound.sized w).amended b ((hwire w).subset hb)
  · exact (hsound.alone w).delivers (hstart w) ⟨rfl, rfl, rfl, rfl, rfl⟩

end Wire

/-! Two workers in burst mode. The first one has sent its packet, and the pool gives the mbuf to the
second one. -/

/-- The workers, before they begin. -/
def sampleFleet (w : Bool) : TxWorker RGooseTrafficGen :=
  .burst [⟨0⟩] 10 (txBurstWorkerCycle [⟨0⟩] 0
    { gen := sampleGooseGen w, mbufs := fun _ => ⟨(sampleGooseGen false).m_skeleton, 0, 0⟩ })

/-- A worker of the sample goes on. -/
def sampleWork (ws : Bool → TxWorker RGooseTrafficGen) (w : Bool) (inp : BurstInput) :
    Bool → TxWorker RGooseTrafficGen :=
  match ws w with
  | .steady _ _ => ws
  | .burst plan ticksPerSec s =>
    let s := burstStep (GenKind.rgoose .SEC_GCM).amendDesc plan ticksPerSec inp s
    fun w' => if w' = w then .burst plan ticksPerSec s else (ws w').setMbufs s.mbufs

/-- The first worker sends a second, the second one begins. -/
def sampleFleetRun : Bool → TxWorker RGooseTrafficGen :=
  [(true, {}), (true, { alloc := some [0] }), (true, {}), (true, {}), (true, { nb := 1 }),
    (false, {}), (false, { alloc := some [0] })].foldl
    (fun ws p => sampleWork ws p.1 p.2) sampleFleet

lemma step_sampleWork {ws : Bool → TxWorker RGooseTrafficGen} (w : Bool) (inp : BurstInput)
    {plan : List PacketDesc} {ticksPerSec : UInt64} {s : BurstState RGooseTrafficGen}
    (hw : ws w = .burst plan ticksPerSec s) (hallows : s.Allows plan inp)
    (hfree : ∀ w', w' ≠ w → ∀ m ∈ inp.alloc.getD [],
      ¬ Ledger.InHand (ws w').tx.got (ws w').tx.back m) :
    FleetStep (GenKind.rgoose .SEC_GCM).amendDesc ws (sampleWork ws w inp) := by
  have hstep : (ws w).Step (GenKind.rgoose .SEC_GCM).amendDesc (inp.alloc.getD [])
      (.burst plan ticksPerSec
        (burstStep (GenKind.rgoose .SEC_GCM).amendDesc plan ticksPerSec inp s)) := by
    rw [hw]
    exact .burst plan ticksPerSec s inp hallows
  have hwork := FleetStep.work ws w _ _ hstep hfree
  unfold sampleWork
  rw [hw]
  exact hwork

lemma reach_sampleFleetRun :
    ReflTransGen (FleetStep (GenKind.rgoose .SEC_GCM).amendDesc) sampleFleet sampleFleetRun := by
  have hgives : ∀ s : BurstState RGooseTrafficGen, s.got = [] → s.Gives 1 [0] := by
    intro s hgot
    refine ⟨rfl, List.pairwise_singleton _ 0, fun m _ hm => ?_⟩
    rw [hgot] at hm
    exact Nat.not_lt_zero _ hm
  have hnothing : ∀ (ws : Bool → TxWorker RGooseTrafficGen) (w : Bool), ∀ w', w' ≠ w →
      ∀ m ∈ ([] : List ℕ), ¬ Ledger.InHand (ws w').tx.got (ws w').tx.back m := by
    intro ws w w' _ m hm
    cases hm
  refine .head (step_sampleWork true {} rfl ⟨nofun, nofun⟩ (hnothing _ true)) ?_
  refine .head (step_sampleWork true { alloc := some [0] } rfl ⟨fun _ ms hms => ?_, nofun⟩ ?_) ?_
  · exact Option.some.inj hms ▸ hgives _ rfl
  · rintro (_ | _) hne m - hm
    · exact Nat.not_lt_zero _ hm
    · exact hne rfl
  refine .head (step_sampleWork true {} rfl ⟨nofun, nofun⟩ (hnothing _ true)) ?_
  refine .head (step_sampleWork true {} rfl ⟨nofun, nofun⟩ (hnothing _ true)) ?_
  refine .head (step_sampleWork true { nb := 1 } rfl ⟨nofun, fun _ => le_refl 1⟩
    (hnothing _ true)) ?_
  refine .head (step_sampleWork false {} rfl ⟨nofun, nofun⟩ (hnothing _ false)) ?_
  refine .single (step_sampleWork false { alloc := some [0] } rfl ⟨fun _ ms hms => ?_, nofun⟩ ?_)
  · exact Option.some.inj hms ▸ hgives _ rfl
  · rintro (_ | _) hne m hm hin
    · exact hne rfl
    · obtain rfl := List.mem_singleton.mp hm
      exact lt_irrefl 1 hin

/-- The mbuf of the packet that is on the wire is in the hands of the other worker. -/
theorem fleet_refines_generators_sample :
    (sampleFleetRun true).tx.accepted.map Prod.fst = [0] ∧ (sampleFleetRun false).tx.got = [0] ∧
    ∃ s, (GenKind.rgoose .SEC_GCM).Run sampleGooseGen s ∧ ∃ wire : List (UInt32 × Mem),
      wire.Sublist (s.log true) ∧
      wire.map Prod.snd = (sampleFleetRun true).tx.accepted.map (·.2.data) := by
  have hunused : (GenKind.rgoose .SEC_GCM).Unused sampleGooseGen
      fun _ => (sampleGooseGen false).m_skeleton := fun w b => by
    show Mem.slice _ _ _ = Mem.slice (sampleGooseGen w).m_skeleton _ _
    rw [skeleton_sampleGooseGen w]
  have hdescs : ∀ w, ∀ d ∈ (sampleFleet w).descs,
      d.idx.toNat < ((GenKind.rgoose .SEC_GCM).ieds (sampleGooseGen w)).length := by
    intro w d hd
    rw [length_sampleGooseGen, List.mem_singleton.mp hd]
    decide
  obtain ⟨⟨s, hrun, hwire⟩, _⟩ := @fleet_refines_generators Bool RGooseTrafficGen GooseSourceIED _
    (.rgoose .SEC_GCM) sampleGooseGen (fun _ => ⟨(sampleGooseGen false).m_skeleton, 0, 0⟩)
    sampleFleet sampleFleetRun (keepsSize_rgoose .SEC_GCM) hunused
    (fun w => .burstWorker [⟨0⟩] 10 0) hdescs reach_sampleFleetRun
  exact ⟨rfl, rfl, s, hrun, hwire true⟩

end ProcessBus
