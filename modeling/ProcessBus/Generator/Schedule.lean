import ProcessBus.Generator.LayerTwo

/-!
# The schedule of a second

A generator sends the publications of one second unit by unit. A unit holds one packet of every
stream, cut into blocks, and says when in the second it is due. In burst mode the same packets
leave at once, as a flat plan. Both walk the streams in the same order.
-/

namespace ProcessBus

/-! ### The schedule of the source -/

/-- `GoosePacketDesc`, `SVPacketDesc`: the number of the IED. -/
structure PacketDesc where
  idx : UInt32 := 0
  deriving DecidableEq

structure TxBlock where
  packets : List PacketDesc
  deriving DecidableEq

structure TxUnit where
  offsetUS : UInt64 := 0
  blocks : List TxBlock
  deriving DecidableEq

/-- `for (auto &desc : blk.packets) desc.idx = iedIndex++`, and the index behind it. -/
def fillPackets : ℕ → UInt32 → List PacketDesc × UInt32
  | 0, iedIndex => ([], iedIndex)
  | n + 1, iedIndex =>
    let r := fillPackets n (iedIndex + 1)
    (⟨iedIndex⟩ :: r.1, r.2)

/-- So many blocks of one size. -/
def fillBlocks (bunchSize : UInt32) : ℕ → UInt32 → List TxBlock × UInt32
  | 0, iedIndex => ([], iedIndex)
  | n + 1, iedIndex =>
    let blk := fillPackets bunchSize.toNat iedIndex
    let r := fillBlocks bunchSize n blk.2
    (⟨blk.1⟩ :: r.1, r.2)

/-- The blocks of a unit: full ones and, if the streams do not fill it, a smaller last one. -/
def unitBlocks (bunchSize : UInt32) (ieds : ℕ) : List TxBlock :=
  let BLK_PER_UNIT := UInt32.ofNat (ieds / bunchSize.toNat)
  let LAST_BLK_SIZE := UInt32.ofNat (ieds % bunchSize.toNat)
  let r := fillBlocks bunchSize BLK_PER_UNIT.toNat 0
  if LAST_BLK_SIZE > 0 then r.1 ++ [⟨(fillPackets LAST_BLK_SIZE.toNat r.2).1⟩] else r.1

/-- `GooseTrafficGen::GenerateTxUnits`, for so many IEDs. The offset is a product of an unsigned
quotient and a `size_t`. -/
def GooseTrafficGen.generateTxUnits (ieds : ℕ) (pps : UInt32) : List TxUnit :=
  (List.range pps.toNat).map fun i =>
    { offsetUS := (1000000 / pps).toUInt64 * UInt64.ofNat i
      blocks := unitBlocks 32 ieds }

/-- `SVTrafficGen::CreateTxUnits`. The rate is an `int`: `reserve` throws on a negative one. -/
def SVTrafficGen.createTxUnits (ieds : ℕ) (pps : Int32) : Option (List TxUnit) :=
  if pps < 0 then
    none
  else
    some ((List.range pps.toInt.toNat).map fun i =>
      { offsetUS := (1000000 / pps).toInt64.toUInt64 * UInt64.ofNat i
        blocks := unitBlocks 64 ieds })

/-- `make_burst_plan` -/
def makeBurstPlan (streams reps : UInt32) : List PacketDesc :=
  (List.range reps.toNat).foldl (fun plan _ =>
    (List.range streams.toNat).foldl (fun plan s => plan ++ [⟨UInt32.ofNat s⟩]) plan) []

namespace TxUnit

/-- The packets of a unit in the order in which they are sent. -/
def packets (unit : TxUnit) : List PacketDesc := (unit.blocks.map TxBlock.packets).flatten

end TxUnit

/-- Every stream once, in order. -/
def everyStream (streams : ℕ) : List PacketDesc :=
  (List.range streams).map fun s => ⟨UInt32.ofNat s⟩

/-! ### Blocks -/

variable {bunchSize i : UInt32} {n k ieds : ℕ}

lemma ofNat_succ (n : ℕ) : UInt32.ofNat (n + 1) = UInt32.ofNat n + 1 := by
  rw [UInt32.ofNat_add]
  rfl

lemma fillPackets_eq : fillPackets n i =
    ((List.range n).map fun k => ⟨i + UInt32.ofNat k⟩, i + UInt32.ofNat n) := by
  induction n generalizing i with
  | zero => simp [fillPackets]
  | succ n ih =>
    have hshift : ∀ k, i + 1 + UInt32.ofNat k = i + UInt32.ofNat (k + 1) := fun k => by
      rw [ofNat_succ, UInt32.add_assoc, UInt32.add_comm 1]
    rw [fillPackets, ih, hshift, List.range_succ_eq_map, List.map_cons, List.map_map]
    simp only [hshift, Function.comp_def, show UInt32.ofNat 0 = 0 from rfl, UInt32.add_zero]

/-- Two blocks number on as one would. -/
lemma fillPackets_add : fillPackets (n + k) i =
    ((fillPackets n i).1 ++ (fillPackets k (fillPackets n i).2).1,
      (fillPackets k (fillPackets n i).2).2) := by
  induction n generalizing i with
  | zero => simp [fillPackets]
  | succ n ih => simp [Nat.succ_add, fillPackets, ih]

/-- So the blocks of a unit number its packets one after the other. -/
lemma flatten_fillBlocks : (((fillBlocks bunchSize n i).1.map TxBlock.packets).flatten,
    (fillBlocks bunchSize n i).2) = fillPackets (n * bunchSize.toNat) i := by
  induction n generalizing i with
  | zero => simp [fillBlocks, fillPackets]
  | succ n ih =>
    rw [Nat.succ_mul, Nat.add_comm (n * _), fillPackets_add, ← ih]
    rfl

/-- A unit holds every stream once, in order. -/
lemma packets_unitBlocks (hieds : ieds < 2 ^ 32) {offset : UInt64} :
    TxUnit.packets ⟨offset, unitBlocks bunchSize ieds⟩ = everyStream ieds := by
  have hdiv : (UInt32.ofNat (ieds / bunchSize.toNat)).toNat = ieds / bunchSize.toNat :=
    UInt32.toNat_ofNat_of_lt' ((Nat.div_le_self _ _).trans_lt hieds)
  have hmod : (UInt32.ofNat (ieds % bunchSize.toNat)).toNat = ieds % bunchSize.toNat :=
    UInt32.toNat_ofNat_of_lt' ((Nat.mod_le _ _).trans_lt hieds)
  have hall : everyStream ieds = (fillPackets ieds 0).1 := by
    rw [fillPackets_eq]
    simp [everyStream]
  have hsplit : fillPackets ieds 0 =
      fillPackets (ieds / bunchSize.toNat * bunchSize.toNat + ieds % bunchSize.toNat) 0 := by
    rw [Nat.div_add_mod']
  rw [hall, hsplit, fillPackets_add, ← flatten_fillBlocks]
  simp only [TxUnit.packets, unitBlocks, hdiv]
  split_ifs with hlast
  · rw [hmod]
    simp
  · have hzero : ieds % bunchSize.toNat = 0 := by
      have hle := UInt32.not_lt.mp hlast
      rw [UInt32.le_iff_toNat_le, hmod] at hle
      exact Nat.le_zero.mp hle
    rw [hzero, fillPackets, List.append_nil]

lemma length_fillPackets : (fillPackets n i).1.length = n := by simp [fillPackets_eq]

lemma length_of_mem_fillBlocks {blk : TxBlock} (h : blk ∈ (fillBlocks bunchSize n i).1) :
    blk.packets.length = bunchSize.toNat := by
  induction n generalizing i with
  | zero => cases h
  | succ n ih =>
    rcases List.mem_cons.mp h with rfl | h
    · exact length_fillPackets
    · exact ih h

lemma nonempty_of_mem_unitBlocks (hpos : 0 < bunchSize.toNat) {blk : TxBlock}
    (h : blk ∈ unitBlocks bunchSize ieds) : blk.packets ≠ [] := by
  rw [← List.length_pos_iff]
  simp only [unitBlocks] at h
  split_ifs at h with hlast
  · rcases List.mem_append.mp h with h | h
    · rwa [length_of_mem_fillBlocks h]
    · rw [List.mem_singleton.mp h, length_fillPackets]
      exact UInt32.lt_iff_toNat_lt.mp hlast
  · rwa [length_of_mem_fillBlocks h]

/-! ### Offsets -/

/-- The offsets are multiples of a quotient that is rounded down. -/
lemma offset_lt {pps j : ℕ} (h : j < pps) : 1000000 / pps * j < 1000000 := by
  rcases Nat.eq_zero_or_pos (1000000 / pps) with hq | hq
  · rw [hq, Nat.zero_mul]
    decide
  · calc 1000000 / pps * j < 1000000 / pps * pps := Nat.mul_lt_mul_of_pos_left h hq
      _ ≤ 1000000 := Nat.div_mul_le_self _ _

/-- The product of a `size_t` does not wrap. -/
lemma toNat_offset {q : UInt64} {pps j : ℕ} (hq : q.toNat = 1000000 / pps) (hj : j < pps)
    (hpps : pps < 2 ^ 32) : (q * UInt64.ofNat j).toNat = 1000000 / pps * j := by
  have hlt := offset_lt hj
  rw [UInt64.toNat_mul, UInt64.toNat_ofNat_of_lt' (hj.trans (hpps.trans (by decide))), hq]
  exact Nat.mod_eq_of_lt (hlt.trans (by decide))

lemma toNat_quotient_goose {pps : ℕ} (hpps : pps < 2 ^ 32) :
    (1000000 / UInt32.ofNat pps).toUInt64.toNat = 1000000 / pps := by
  rw [UInt32.toNat_toUInt64, UInt32.toNat_div, UInt32.toNat_ofNat_of_lt' hpps]
  rfl

lemma toNat_quotient_sv {pps : ℕ} (hpps : pps < 2 ^ 31) :
    (1000000 / Int32.ofNat pps).toInt64.toUInt64.toNat = 1000000 / pps := by
  have hint : (1000000 / Int32.ofNat pps).toInt = ((1000000 / pps : ℕ) : ℤ) := by
    rw [Int32.toInt_div_of_ne_left _ _ (by decide), Int32.toInt_ofNat_of_lt hpps]
    exact Int.ofNat_tdiv 1000000 pps
  have hnat : (1000000 / Int32.ofNat pps).toInt64.toInt = ((1000000 / pps : ℕ) : ℤ) := by
    rw [Int32.toInt_toInt64, hint]
  rw [Int64.toNat_toUInt64_of_le, Int64.toNatClampNeg, hnat, Int.toNat_natCast]
  rw [Int64.le_iff_toInt_le, hnat]
  exact Int.natCast_nonneg _

/-! ### The plan -/

lemma foldl_push {α : Type} (f : ℕ → α) (plan : List α) (n : ℕ) :
    (List.range n).foldl (fun plan s => plan ++ [f s]) plan = plan ++ (List.range n).map f := by
  induction n with
  | zero => simp
  | succ n ih => simp [List.range_succ, ih]

/-- The plan is the streams in order, again and again. -/
lemma makeBurstPlan_eq (streams reps : UInt32) :
    makeBurstPlan streams reps =
      (List.replicate reps.toNat (everyStream streams.toNat)).flatten := by
  unfold makeBurstPlan
  simp only [foldl_push]
  induction reps.toNat with
  | zero => rfl
  | succ n ih =>
    rw [List.range_succ, List.foldl_append, ih, List.replicate_succ', List.flatten_append]
    simp [everyStream]

/-! ### Steady and burst mode -/

/-- The units send what the plan sends: one second of every stream. -/
structure SameSecond (streams pps : ℕ) (units : List TxUnit) : Prop where
  length : units.length = pps
  packets : ∀ unit ∈ units, unit.packets = everyStream streams
  nonempty : ∀ unit ∈ units, ∀ blk ∈ unit.blocks, blk.packets ≠ []
  ordered : (units.map TxUnit.offsetUS).Pairwise (· ≤ ·)
  inSecond : ∀ unit ∈ units, unit.offsetUS < 1000000
  plan : (units.map TxUnit.packets).flatten =
    makeBurstPlan (UInt32.ofNat streams) (UInt32.ofNat pps)

/-- Units with the blocks of the streams, at multiples of the quotient. -/
lemma sameSecond_of_offsets {streams pps : ℕ} {q : UInt64} (hstreams : streams < 2 ^ 32)
    (hpps : pps < 2 ^ 32) (hpos : 0 < bunchSize.toNat) (hq : q.toNat = 1000000 / pps) :
    SameSecond streams pps ((List.range pps).map fun j =>
      ⟨q * UInt64.ofNat j, unitBlocks bunchSize streams⟩) where
  length := by rw [List.length_map, List.length_range]
  packets := by
    intro unit hunit
    obtain ⟨j, _, rfl⟩ := List.mem_map.mp hunit
    exact packets_unitBlocks hstreams
  nonempty := by
    intro unit hunit blk hblk
    obtain ⟨j, _, rfl⟩ := List.mem_map.mp hunit
    exact nonempty_of_mem_unitBlocks hpos hblk
  ordered := by
    rw [List.map_map, List.pairwise_map]
    refine List.pairwise_lt_range.imp_of_mem fun {j k} hj hk hlt => ?_
    rw [Function.comp, Function.comp, UInt64.le_iff_toNat_le,
      toNat_offset hq (List.mem_range.mp hj) hpps, toNat_offset hq (List.mem_range.mp hk) hpps]
    exact Nat.mul_le_mul_left _ hlt.le
  inSecond := by
    intro unit hunit
    obtain ⟨j, hj, rfl⟩ := List.mem_map.mp hunit
    rw [UInt64.lt_iff_toNat_lt, toNat_offset hq (List.mem_range.mp hj) hpps]
    exact offset_lt (List.mem_range.mp hj)
  plan := by
    rw [makeBurstPlan_eq, UInt32.toNat_ofNat_of_lt' hstreams, UInt32.toNat_ofNat_of_lt' hpps,
      List.map_map]
    simp only [Function.comp_def, packets_unitBlocks hstreams, List.map_const',
      List.length_range]

/-- The steady schedules of both generators and the burst plan send the same second: unit by unit
every stream once in order, all of it before the second is over. -/
theorem schedules_send_plan (streams pps : ℕ) (hstreams : 1 ≤ streams ∧ streams < 2 ^ 31)
    (hpps : 1 ≤ pps ∧ pps < 2 ^ 31) :
    SameSecond streams pps (GooseTrafficGen.generateTxUnits streams (UInt32.ofNat pps)) ∧
    ∃ units, SVTrafficGen.createTxUnits streams (Int32.ofNat pps) = some units ∧
      SameSecond streams pps units := by
  have hstreams : streams < 2 ^ 32 := by omega
  have hpps' : pps < 2 ^ 32 := by omega
  constructor
  · rw [GooseTrafficGen.generateTxUnits, UInt32.toNat_ofNat_of_lt' hpps']
    exact sameSecond_of_offsets hstreams hpps' (by decide) (toNat_quotient_goose hpps')
  · have hint : (Int32.ofNat pps).toInt = pps := Int32.toInt_ofNat_of_lt hpps.2
    have hneg : ¬ Int32.ofNat pps < 0 := by
      rw [Int32.lt_iff_toInt_lt, hint]
      exact Int.not_lt.mpr (Int.natCast_nonneg pps)
    refine ⟨_, if_neg hneg, ?_⟩
    rw [hint, Int.toNat_natCast]
    exact sameSecond_of_offsets hstreams hpps' (by decide) (toNat_quotient_sv hpps.2)

theorem schedules_send_plan_64_streams :
    SameSecond 64 3 (GooseTrafficGen.generateTxUnits 64 (UInt32.ofNat 3)) ∧
    ∃ units, SVTrafficGen.createTxUnits 64 (Int32.ofNat 3) = some units ∧ SameSecond 64 3 units :=
  schedules_send_plan 64 3 (by decide) (by decide)

end ProcessBus
