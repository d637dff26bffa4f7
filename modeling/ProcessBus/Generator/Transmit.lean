import ProcessBus.Generator.Schedule
import ProcessBus.Lib.Ledger
import Mathlib.Logic.Function.Basic

/-!
# What a TX loop does with mbufs

The loops of `gen_application` get mbufs from the pool, amend the packets in them and offer them to
the NIC. What the NIC does not take is freed or offered again. This module has the calls the loops
are made of; each of them leaves in the state what it has done, so that the history of a run can be
read off.

The pool, the NIC and the rest of the program are not modelled. They decide which mbufs an
allocation gives, if any, how many packets a burst takes, and when the stop flag is cleared. It is
never set again.
-/

namespace ProcessBus

def BURST_SIZE : ℕ := 32

/-- A packet buffer: its data and the two lengths the loops store. -/
structure Mbuf where
  data : Mem
  pkt_len : ℕ
  data_len : ℕ

/-- The counters of one worker. -/
structure GenAppStat where
  errSendCnt : UInt32 := 0
  txPktCnt : UInt64 := 0
  txRetryCnt : UInt64 := 0
  txLateCnt : UInt64 := 0

/-- `Amend` of a generator class: the generator and the packet behind the call, and the size. -/
abbrev Amend (σ : Type) := σ → Mem → PacketDesc → (σ × Mem) × ℕ

/-- What the loops work on, and what they have done with it so far. -/
structure TxState (σ : Type) where
  doWork : Bool := true
  gen : σ
  /-- What is in the mbufs, by their number. -/
  mbufs : ℕ → Mbuf
  stat : GenAppStat := {}
  /-- The mbufs that the pool gave. -/
  got : List ℕ := []
  /-- The descriptors that were amended, and what was then in the mbuf. -/
  amended : List (PacketDesc × Mbuf) := []
  /-- The mbufs that the NIC took, and what was in them. -/
  accepted : List (ℕ × Mbuf) := []
  freed : List ℕ := []

/-- A state in which nothing has been done yet. -/
structure TxState.Fresh {σ : Type} (s : TxState σ) : Prop where
  stat : s.stat = {}
  got : s.got = []
  amended : s.amended = []
  accepted : s.accepted = []
  freed : s.freed = []

namespace TxState

variable {σ : Type}

/-- The mbufs that were given back: those that the NIC took and those that were freed. -/
def back (s : TxState σ) : List ℕ := s.accepted.map Prod.fst ++ s.freed

/-- `rte_pktmbuf_alloc_bulk` that succeeds. -/
def allocBulk (s : TxState σ) (ms : List ℕ) : TxState σ := { s with got := s.got ++ ms }

/-- `Amend` on one mbuf, which then holds a packet of the size returned. -/
def amendOne (amend : Amend σ) (s : TxState σ) (p : ℕ × PacketDesc) : TxState σ :=
  let r := amend s.gen (s.mbufs p.1).data p.2
  let m : Mbuf := ⟨r.1.2, r.2, r.2⟩
  { s with
    gen := r.1.1
    mbufs := Function.update s.mbufs p.1 m
    amended := s.amended ++ [(p.2, m)] }

/-- The loop over the mbufs of a chunk. -/
def amendBulk (amend : Amend σ) (s : TxState σ) (ps : List (ℕ × PacketDesc)) : TxState σ :=
  ps.foldl (amendOne amend) s

/-- `rte_eth_tx_burst` that takes `ms`. -/
def txBurst (s : TxState σ) (ms : List ℕ) : TxState σ :=
  { s with accepted := s.accepted ++ ms.map fun m => (m, s.mbufs m) }

/-- `rte_pktmbuf_free` of each, and `rte_pktmbuf_free_bulk`. -/
def freeBulk (s : TxState σ) (ms : List ℕ) : TxState σ := { s with freed := s.freed ++ ms }

/-- What the pool may give: so many different mbufs, none of which the loop still has. -/
structure Gives (s : TxState σ) (num : ℕ) (ms : List ℕ) : Prop where
  length : ms.length = num
  nodup : ms.Nodup
  free : ∀ m ∈ ms, ¬ Ledger.InHand s.got s.back m

/-- What may happen to the mbufs meanwhile: those that the loop has stay as they are. -/
def Keeps (s : TxState σ) (mbufs : ℕ → Mbuf) : Prop :=
  ∀ m, Ledger.InHand s.got s.back m → mbufs m = s.mbufs m

/-- Each mbuf that the pool gave has been taken by the NIC once or freed once for each time it was
given, except for those that are still held. -/
structure Accounts (s : TxState σ) (held : List ℕ) : Prop where
  balanced : Ledger.Balanced s.got s.back held
  nodup : held.Nodup

namespace Accounts

variable {σ : Type} {s s' : TxState σ} {ms held : List ℕ}

lemma congr (h : s.Accounts held) (hgot : s'.got = s.got) (hback : s'.back = s.back) :
    s'.Accounts held := by
  refine ⟨?_, h.nodup⟩
  rw [hgot, hback]
  exact h.balanced

lemma gives (h : s.Accounts held) {num : ℕ} (hms : s.Gives num ms) :
    (s.allocBulk ms).Accounts (held ++ ms) :=
  ⟨h.balanced.take ms, h.balanced.nodup_take h.nodup hms.nodup hms.free⟩

lemma back_txBurst : (s.txBurst ms).back = s.accepted.map Prod.fst ++ ms ++ s.freed := by
  simp [back, txBurst, Function.comp_def]

/-- What the NIC takes is no longer held. -/
lemma txBurst (h : s.Accounts (ms ++ held)) : (s.txBurst ms).Accounts held := by
  refine ⟨h.balanced.give.congr_back ?_, (List.nodup_append.mp h.nodup).2.1⟩
  rw [back_txBurst, back, List.append_assoc, List.append_assoc]
  exact List.perm_append_comm.append_left _

lemma freeBulk (h : s.Accounts (ms ++ held)) : (s.freeBulk ms).Accounts held := by
  refine ⟨h.balanced.give.congr_back ?_, (List.nodup_append.mp h.nodup).2.1⟩
  rw [back, List.append_assoc]
  exact .refl _

end Accounts

end TxState

/-! ### Amending a chunk -/

namespace TxState

variable {σ : Type} {amend : Amend σ} {s : TxState σ} {ps : List (ℕ × PacketDesc)} {ms : List ℕ}

/-- The calls of a chunk change nothing but the generator, the mbufs and the history of amending. -/
structure AmendsOnly (s s' : TxState σ) : Prop where
  doWork : s'.doWork = s.doWork
  stat : s'.stat = s.stat
  got : s'.got = s.got
  accepted : s'.accepted = s.accepted
  freed : s'.freed = s.freed

variable (amend s ps) in
lemma amendsOnly_amendBulk : s.AmendsOnly (s.amendBulk amend ps) := by
  induction ps generalizing s with
  | nil => exact ⟨rfl, rfl, rfl, rfl, rfl⟩
  | cons p ps ih =>
    obtain ⟨h1, h2, h3, h4, h5⟩ := ih (s.amendOne amend p)
    exact ⟨h1, h2, h3, h4, h5⟩

/-- Other mbufs stay as they are. -/
lemma mbufs_amendBulk_of_not_mem {m : ℕ} (h : m ∉ ps.map Prod.fst) :
    (s.amendBulk amend ps).mbufs m = s.mbufs m := by
  induction ps generalizing s with
  | nil => rfl
  | cons p ps ih =>
    rw [List.map_cons, List.mem_cons, not_or] at h
    exact (ih h.2).trans (Function.update_of_ne h.1 _ _)

/-- Every descriptor is amended once, in order, and what was written is still in the mbuf when all
of them are. -/
lemma amended_amendBulk (hnodup : (ps.map Prod.fst).Nodup) :
    (s.amendBulk amend ps).amended =
      s.amended ++ ps.map fun p => (p.2, (s.amendBulk amend ps).mbufs p.1) := by
  induction ps generalizing s with
  | nil => exact (List.append_nil _).symm
  | cons p ps ih =>
    obtain ⟨hp, hnodup⟩ := List.nodup_cons.mp hnodup
    have hbuf : (s.amendBulk amend (p :: ps)).mbufs p.1 = (s.amendOne amend p).mbufs p.1 :=
      mbufs_amendBulk_of_not_mem hp
    have hrest := ih (s := s.amendOne amend p) hnodup
    show ((s.amendOne amend p).amendBulk amend ps).amended = _
    rw [hrest, List.map_cons, hbuf]
    simp [amendOne, amendBulk]

/-- An allocation and the calls of `Amend` on the mbufs it gave. -/
structure Stages (s : TxState σ) (ms : List ℕ) (descs : List PacketDesc) (s' : TxState σ) :
    Prop where
  doWork : s'.doWork = s.doWork
  stat : s'.stat = s.stat
  got : s'.got = s.got ++ ms
  amended : s'.amended = s.amended ++ descs.zip (ms.map s'.mbufs)
  accepted : s'.accepted = s.accepted
  freed : s'.freed = s.freed
  mbufs : ∀ m, m ∉ ms → s'.mbufs m = s.mbufs m

lemma zip_map_eq {α β γ : Type} (f : α → γ) (xs : List α) (ys : List β) :
    ys.zip (xs.map f) = (xs.zip ys).map fun p => (p.2, f p.1) := by
  induction xs generalizing ys with
  | nil => simp
  | cons x xs ih => cases ys <;> simp [ih]

variable (amend) in
lemma stages {descs : List PacketDesc} (hms : ms.Nodup) (hdescs : ms.length = descs.length) :
    s.Stages ms descs ((s.allocBulk ms).amendBulk amend (ms.zip descs)) := by
  have hfst : (ms.zip descs).map Prod.fst = ms := List.map_fst_zip hdescs.le
  obtain ⟨h1, h2, h3, h4, h5⟩ := amendsOnly_amendBulk amend (s.allocBulk ms) (ms.zip descs)
  refine ⟨h1, h2, h3, ?_, h4, h5, fun m hm => mbufs_amendBulk_of_not_mem (by rwa [hfst])⟩
  rw [amended_amendBulk (by rwa [hfst]), zip_map_eq]
  rfl

end TxState

end ProcessBus
