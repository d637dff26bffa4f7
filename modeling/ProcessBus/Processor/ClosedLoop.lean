import ProcessBus.Generator.Fleet
import ProcessBus.Processor.Traffic
import Mathlib.Algebra.Order.BigOperators.Group.Finset
import Mathlib.Data.Fintype.Defs

/-!
# From the TX workers to the totals of the receiver

The workers of a generator share the mbufs and take turns, the NIC takes what it likes, the network
loses frames and mixes the streams, and the receiver gets the rest in bursts. Its counters add up
all the same: every frame that arrives is counted as one of the streams and as nothing else, and
`CountGaps` never reports more than was lost between `AmendPacket` and the receiver.
-/

namespace ProcessBus

open RSess RFrame Relation

/-! ### The streams of the workers -/

/-- Worker `w` has `n w` streams. `stream w idx` is the number of one of them among all of them. -/
structure Numbering {ω : Type} (n : ω → UInt32) (num : ℕ) (stream : ω → UInt32 → ℕ) : Prop where
  lt : ∀ w idx, idx < n w → stream w idx < num
  exists_eq : ∀ i < num, ∃ w idx, idx < n w ∧ stream w idx = i
  inj : ∀ w w' idx idx', idx < n w → idx' < n w' → stream w idx = stream w' idx' →
    w = w' ∧ idx = idx'

/-- One worker has all the streams. -/
lemma numbering_single (num : UInt32) :
    Numbering (fun _ : Unit => num) num.toNat fun _ idx => idx.toNat where
  lt _ _ hidx := hidx
  exists_eq i hi := ⟨(), UInt32.ofNat i, (toNat_ofNat_of_lt hi).2, (toNat_ofNat_of_lt hi).1⟩
  inj _ _ _ _ _ _ heq := ⟨rfl, UInt32.toNat_inj.mp heq⟩

/-- Each worker has its slice. -/
lemma numbering_slices {num workers : UInt32} (hpos : 1 ≤ workers) :
    Numbering (fun w : Fin workers.toNat => (iedSlice num workers (UInt32.ofNat w)).2 -
        (iedSlice num workers (UInt32.ofNat w)).1) num.toNat
      fun w idx => (iedSlice num workers (UInt32.ofNat w)).1.toNat + idx.toNat := by
  have hnat : ∀ w : Fin workers.toNat, (UInt32.ofNat w).toNat = w ∧ UInt32.ofNat w < workers :=
    fun w => toNat_ofNat_of_lt w.isLt
  have hslice : ∀ (w : Fin workers.toNat) (idx : UInt32),
      idx < (iedSlice num workers (UInt32.ofNat w)).2 -
        (iedSlice num workers (UInt32.ofNat w)).1 →
      Slices.InSlice num.toNat workers.toNat w
        ((iedSlice num workers (UInt32.ofNat w)).1.toNat + idx.toNat) := by
    intro w idx hidx
    rw [UInt32.lt_iff_toNat_lt, toNat_sub_iedSlice (hnat w).2, (hnat w).1] at hidx
    rw [(toNat_iedSlice num (hnat w).2).1, (hnat w).1]
    exact ⟨Nat.le_add_right _ _, by omega⟩
  refine ⟨fun w idx hidx => ?_, fun i hi => ?_, fun w w' idx idx' hidx hidx' heq => ?_⟩
  · have hle := Slices.bound_le (n := num.toNat) (k := workers.toNat) hpos w.isLt
    exact (hslice w idx hidx).2.trans_le hle
  · obtain ⟨w, idx, hidx, rfl⟩ := exists_iedSlice hpos hi
    exact ⟨w, idx, hidx, rfl⟩
  · have hw : w = w' := by
      apply Fin.ext
      exact (hslice w idx hidx).unique (heq ▸ hslice w' idx' hidx')
    subst hw
    exact ⟨rfl, UInt32.toNat_inj.mp (Nat.add_left_cancel heq)⟩

/-! ### Counting stream by stream -/

section Counting

variable {κ α : Type} [DecidableEq κ]

/-- What has a key in a set of keys, counted key by key. -/
lemma sum_length_filter {keys : Finset κ} {l : List (κ × α)} (h : ∀ a ∈ l, a.1 ∈ keys) :
    ∑ k ∈ keys, (l.filter (·.1 = k)).length = l.length := by
  have hcount : ∀ k, (l.filter (·.1 = k)).length = Multiset.count k (l.map Prod.fst : List κ) := by
    intro k
    rw [Multiset.coe_count, List.count, List.countP_map, List.countP_eq_length_filter]
    congr 1
  simp only [hcount]
  rw [Multiset.sum_count_eq_card, Multiset.coe_card, List.length_map]
  intro k hk
  obtain ⟨a, ha, rfl⟩ := List.mem_map.mp (Multiset.mem_coe.mp hk)
  exact h a ha

variable {ω : Type} [DecidableEq ω] {n : ω → UInt32} {num : ℕ} {stream : ω → UInt32 → ℕ}
  {keyOf : ℕ → ω × UInt32}

/-- The same, by the numbers of the streams. -/
lemma Numbering.sum_length_filter (h : Numbering n num stream)
    (hkeyOf : ∀ i < num, (keyOf i).2 < n (keyOf i).1 ∧ stream (keyOf i).1 (keyOf i).2 = i)
    {l : List ((ω × UInt32) × α)} (hl : ∀ a ∈ l, a.1.2 < n a.1.1) :
    ∑ i ∈ Finset.range num, (l.filter (·.1 = keyOf i)).length = l.length := by
  have hinj : Set.InjOn keyOf (Finset.range num : Set ℕ) := by
    intro i hi j hj heq
    have hi := Finset.mem_range.mp (Finset.mem_coe.mp hi)
    have hj := Finset.mem_range.mp (Finset.mem_coe.mp hj)
    rw [← (hkeyOf i hi).2, ← (hkeyOf j hj).2, heq]
  rw [← Finset.sum_image (f := fun k => (l.filter (·.1 = k)).length) hinj]
  apply ProcessBus.sum_length_filter
  intro a ha
  have hlt := h.lt a.1.1 a.1.2 (hl a ha)
  obtain ⟨hvalid, hstream⟩ := hkeyOf _ hlt
  apply Finset.mem_image.mpr
  refine ⟨_, Finset.mem_range.mpr hlt, ?_⟩
  obtain ⟨hw, hidx⟩ := h.inj _ _ _ _ hvalid (hl a ha) hstream
  exact Prod.ext hw hidx

end Counting

/-! ### What arrives of a stream -/

section Arriving

variable {ω σ ι : Type} [DecidableEq ω] {kind : GenKind σ ι} {gens : ω → σ} {n : ω → UInt32}
  {t : TxState σ} {wire : List (PacketDesc × Mbuf)} {w : ω} {idx : UInt32} {size : ℕ}
  {s : Pool.State ω UInt32 σ} {got : List RxFrame}

/-- A part of what is on the wire of stream `idx` gets through, in order. -/
def GetsThrough (wire : List (PacketDesc × Mbuf)) (idx : UInt32) (got : List RxFrame) : Prop :=
  ∃ left : List Mbuf, left.Sublist ((wire.filter (·.1.idx = idx)).map Prod.snd) ∧
    List.Forall₂ (fun m frame => Delivered m.data m.pkt_len frame) left got

lemma forall₂_of_map {α β γ δ : Type} {R : α → γ → Prop} {S : β → δ → Prop} {f : β → γ}
    {xs : List α} {ys : List β} {zs : List δ} (h : List.Forall₂ R xs (ys.map f))
    (h' : List.Forall₂ S ys zs) : List.Forall₂ (fun x z => ∃ y, R x (f y) ∧ S y z) xs zs := by
  induction h' generalizing xs with
  | nil =>
    cases h
    exact .nil
  | cons hS _ ih =>
    cases h with
    | cons hR h => exact .cons ⟨_, hR, hS⟩ (ih h)

/-- What gets through survives, in terms of the run of the generators. -/
lemma exists_survive (hshows : Shows s w t) (hsized : Sized kind size t) (hwire : OnWire t wire)
    (h : GetsThrough wire idx got) :
    ∃ mask, Survive (s.frames w idx) size mask got ∧
      (Losses.runs mask).length + got.length ≤ (s.frames w idx).length := by
  obtain ⟨left, hleft, hgot⟩ := h
  have hpart : left.Sublist ((t.amended.filter (·.1.idx = idx)).map Prod.snd) :=
    hleft.trans ((hwire.1.filter _).map _)
  have hframes : s.frames w idx =
      ((t.amended.filter (·.1.idx = idx)).map Prod.snd).map Mbuf.data := by
    rw [Pool.frames_eq_log, hshows.amended, List.filter_map, List.map_map, List.map_map]
    rfl
  obtain ⟨mask, hlen, hmask⟩ := Losses.exists_mask (hpart.map Mbuf.data)
  rw [← hframes] at hlen hmask
  have hpkt : ∀ m ∈ left, m.pkt_len = size := by
    intro m hm
    obtain ⟨a, ha, rfl⟩ := List.mem_map.mp (hpart.subset hm)
    exact (hsized.amended a (List.mem_of_mem_filter ha)).1
  have hdel : List.Forall₂ (fun m frame => Delivered m.data size frame) left got := by
    have hmem : ∀ (l : List Mbuf) (got : List RxFrame), (∀ m ∈ l, m.pkt_len = size) →
        List.Forall₂ (fun m frame => Delivered m.data m.pkt_len frame) l got →
        List.Forall₂ (fun m frame => Delivered m.data size frame) l got := by
      intro l got hl h
      induction h with
      | nil => exact .nil
      | cons hm _ ih =>
        rw [List.forall_mem_cons] at hl
        exact .cons (hl.1 ▸ hm) (ih hl.2)
    exact hmem left got hpkt hgot
  refine ⟨mask, (forall₂_of_map hmask hdel).imp ?_, ?_⟩
  · rintro j frame ⟨m, hm, hdel⟩
    exact ⟨m.data, hm, hdel⟩
  · have hgotlen : (Losses.arriving 0 mask).length = got.length := by
      rw [hmask.length_eq, List.length_map, hgot.length_eq]
    have hruns := @Losses.length_runs_add_le mask
    rwa [hgotlen, hlen] at hruns

end Arriving

/-! ### A generator and a receiver for its streams -/

/-- The generators of a program that sends streams of one kind, and a receiver that is set up for
them and for nothing else. Worker `w` has `n w` streams. -/
inductive Served (conf : RxConfig) (crypto : Crypto) : {ω σ ι : Type} → GenKind σ ι → (ω → σ) →
    (ω → UInt32) → Prop
  | goose {msg : GooseMessage} {k : GooseLayout} {v : GooseValues} {num : UInt32}
      (hk : k.Describes v msg) (hsize : msg.size = (k.head.bytes 0xB8 ++ k.pdu v).length)
      (hmac : k.head.addresses.take 6 = L2_GOOSE_MAC.m_mac)
      (hconf : ExpectsGoose conf num.toNat (k.entries.length + 1)) (hnum : num.toNat ≤ 65535)
      (hidle : conf.svCounts = [0, 0, 0, 0]) :
      Served conf crypto .goose (fun _ : Unit => .make msg num) (fun _ => num)
  | sv {type : SvType} {msg : SvMessage} {k : SvLayout} {sID : List UInt8}
      {cnt : ℕ → List UInt8} {num : UInt32} (hk : k.Describes sID cnt msg) (hsID : sID.length = 4)
      (hcnt : ∀ i, (cnt i).length = 2) (hasdus : k.asdus.length = type.asduNum)
      (hmac : k.head.addresses.take 6 = L2_SV_MAC.m_mac)
      (hconf : ExpectsSv conf type num.toNat) (hnum : num.toNat ≤ 9999)
      (hidle : conf.gooseCounts = [0, 0]) :
      Served conf crypto (.sv type) (fun _ : Unit => .make msg num type) (fun _ => num)
  | rgoose {msg : GooseMessage} {k : GooseLayout} {v : GooseValues} {cfg : RFrameConfig}
      {num workers : UInt32} {gens : Fin workers.toNat → RGooseTrafficGen}
      (hk : k.Describes v msg) (hport : cfg.dstPort = UDP_DST_PORT)
      (hconf : ExpectsRGoose conf num.toNat (k.entries.length + 1) cfg) (hnum : num.toNat ≤ 65535)
      (hworkers : 1 ≤ workers)
      (hmake : ∀ w, makeRWorkers workers num
        (fun lo count => RGooseTrafficGen.make msg cfg crypto count lo) w = some (gens w))
      (hidle : conf.svCounts = [0, 0, 0, 0]) :
      Served conf crypto (.rgoose cfg.mode) gens
        (fun w => (iedSlice num workers (UInt32.ofNat w)).2 -
          (iedSlice num workers (UInt32.ofNat w)).1)
  | rsv {type : SvType} {msg : SvMessage} {k : SvLayout} {sID : List UInt8}
      {cnt : ℕ → List UInt8} {cfg : RFrameConfig} {num workers : UInt32}
      {gens : Fin workers.toNat → RSVTrafficGen} (hk : k.Describes sID cnt msg)
      (hsID : sID.length = 4) (hcnt : ∀ i, (cnt i).length = 2)
      (hasdus : k.asdus.length = type.asduNum) (hport : cfg.dstPort = UDP_DST_PORT)
      (hconf : ExpectsRSv conf type num.toNat cfg) (hnum : num.toNat ≤ 9999)
      (hworkers : 1 ≤ workers)
      (hmake : ∀ w, makeRWorkers workers num
        (fun lo count => RSVTrafficGen.make msg cfg crypto type count lo) w = some (gens w))
      (hidle : conf.gooseCounts = [0, 0]) :
      Served conf crypto (.rsv cfg.mode type) gens
        (fun w => (iedSlice num workers (UInt32.ofNat w)).2 -
          (iedSlice num workers (UInt32.ofNat w)).1)

/-- What the streams of such generators are to the receiver. -/
structure Streams {ω σ ι : Type} [DecidableEq ω] (conf : RxConfig) (crypto : Crypto)
    (kind : GenKind σ ι) (gens : ω → σ) (n : ω → UInt32) (num : ℕ)
    (stream : ω → UInt32 → ℕ) : Prop where
  nonempty : Nonempty ω
  numbering : Numbering n num stream
  ieds : ∀ w, (kind.ieds (gens w)).length = (n w).toNat
  keepsSize : kind.KeepsSize
  traffic : ∀ s, kind.Run gens s → ∃ sent,
    (∀ w idx, idx < n w → sent (stream w idx) = (s.frames w idx, kind.size (gens w))) ∧
    ((GooseTraffic conf crypto num sent ∧ conf.svCounts = [0, 0, 0, 0]) ∨
      ∃ type routable, SvTraffic conf crypto type routable num sent ∧ conf.gooseCounts = [0, 0])

/-- What each worker sends, put together. -/
lemma Numbering.exists_sent {ω α : Type} [Nonempty ω] {n : ω → UInt32} {num : ℕ}
    {stream : ω → UInt32 → ℕ} (h : Numbering n num stream) (frames : ω → UInt32 → α) :
    ∃ sent : ℕ → α, ∀ w idx, idx < n w → sent (stream w idx) = frames w idx := by
  choose! w idx hidx hstream using h.exists_eq
  refine ⟨fun i => frames (w i) (idx i), fun w' idx' hidx' => ?_⟩
  have hlt := h.lt w' idx' hidx'
  obtain ⟨hw, heq⟩ := h.inj _ _ _ _ (hidx _ hlt) hidx' (hstream _ hlt)
  show frames (w (stream w' idx')) (idx (stream w' idx')) = _
  rw [hw, heq]

lemma Served.exists_streams {ω σ ι : Type} [DecidableEq ω] {conf : RxConfig} {crypto : Crypto}
    {kind : GenKind σ ι} {gens : ω → σ} {n : ω → UInt32} (h : Served conf crypto kind gens n) :
    ∃ num stream, Streams conf crypto kind gens n num stream := by
  rename_i inst
  cases h with
  | @goose msg k v num hk hsize hmac hconf hnum hidle =>
    obtain rfl : inst = instDecidableEqPUnit := Subsingleton.elim _ _
    refine ⟨_, _, ⟨()⟩, numbering_single num, fun _ => ?_, keepsSize_goose, fun s hrun => ?_⟩
    · show (List.map _ _).length = _
      rw [List.length_map, List.length_range]
    · refine ⟨_, fun w idx hidx => ?_, .inl ⟨.l2 hk hsize hmac hconf hnum hrun, hidle⟩⟩
      rw [UInt32.ofNat_toNat]
      rfl
  | @sv type msg k sID cnt num hk hsID hcnt hasdus hmac hconf hnum hidle =>
    obtain rfl : inst = instDecidableEqPUnit := Subsingleton.elim _ _
    refine ⟨_, _, ⟨()⟩, numbering_single num, fun _ => ?_, keepsSize_sv type, fun s hrun => ?_⟩
    · show (List.map _ _).length = _
      rw [List.length_map, List.length_range]
    · refine ⟨_, fun w idx hidx => ?_,
        .inr ⟨type, false, .l2 hk hsID hcnt hasdus hmac hconf hnum hrun, hidle⟩⟩
      rw [UInt32.ofNat_toNat]
      rfl
  | @rgoose msg k v cfg num workers gens hk hport hconf hnum hworkers hmake hidle =>
    obtain rfl : inst = instDecidableEqFin _ := Subsingleton.elim _ _
    have : Nonempty (Fin workers.toNat) := ⟨⟨0, hworkers⟩⟩
    refine ⟨_, _, this, numbering_slices hworkers, fun w => RGooseTrafficGen.length_ieds (hmake w),
      keepsSize_rgoose cfg.mode, fun s hrun => ?_⟩
    obtain ⟨sent, hsent⟩ := (numbering_slices hworkers).exists_sent fun w idx =>
      (s.frames w idx, (GenKind.rgoose cfg.mode).size (gens w))
    exact ⟨sent, hsent, .inl
      ⟨.routable hk hport hconf hnum hworkers hmake hrun hsent, hidle⟩⟩
  | @rsv type msg k sID cnt cfg num workers gens hk hsID hcnt hasdus hport hconf hnum hworkers hmake
      hidle =>
    obtain rfl : inst = instDecidableEqFin _ := Subsingleton.elim _ _
    have : Nonempty (Fin workers.toNat) := ⟨⟨0, hworkers⟩⟩
    refine ⟨_, _, this, numbering_slices hworkers, fun w => RSVTrafficGen.length_ieds (hmake w),
      keepsSize_rsv cfg.mode type, fun s hrun => ?_⟩
    obtain ⟨sent, hsent⟩ := (numbering_slices hworkers).exists_sent fun w idx =>
      (s.frames w idx, (GenKind.rsv cfg.mode type).size (gens w))
    exact ⟨sent, hsent, .inr ⟨type, true,
      .routable hk hsID hcnt hasdus hport hconf hnum hworkers hmake hrun hsent, hidle⟩⟩

/-! ### The whole loop -/

section Loop

variable {ω σ ι : Type} [DecidableEq ω] {conf : RxConfig} {crypto : Crypto} {kind : GenKind σ ι}
  {gens : ω → σ} {n : ω → UInt32} {s : Pool.State ω UInt32 σ}

/-- The frames of all workers. -/
lemma length_sent [Fintype ω] {t : ω → TxState σ} (h : ∀ w, Shows s w (t w)) :
    s.sent.length = ∑ w, (t w).amended.length := by
  have hsum := @sum_length_filter ω ((ω × UInt32) × Mem) _ Finset.univ
    (s.sent.map fun e => (e.1.1, e)) fun _ _ => Finset.mem_univ _
  rw [List.length_map] at hsum
  rw [← hsum]
  apply Finset.sum_congr rfl
  intro w _
  have hlog := congrArg List.length (h w).amended
  rw [Pool.State.log, List.length_map, List.length_map] at hlog
  rw [List.filter_map, List.length_map]
  exact hlog

/-- Giving the keys other names. -/
lemma arrivalsOf_map {κ κ' : Type} [DecidableEq κ] [DecidableEq κ'] {f : κ → κ'} {k : κ} {k' : κ'}
    {arrivals : List (κ × RxFrame)} (h : ∀ a ∈ arrivals, f a.1 = k' ↔ a.1 = k) :
    arrivalsOf k' (arrivals.map fun a => (f a.1, a.2)) = arrivalsOf k arrivals := by
  unfold arrivalsOf
  rw [List.filter_map, List.map_map]
  apply congrArg (List.map Prod.snd)
  apply List.filter_congr
  intro a ha
  exact decide_eq_decide.mpr (h a ha)

/-- What the receiver counts, in terms of the losses of each stream. -/
lemma Streams.totals (hlaw : crypto.Lawful) {num : ℕ} {stream : ω → UInt32 → ℕ}
    (hstreams : Streams conf crypto kind gens n num stream) (hrun : kind.Run gens s)
    {mask : ω → UInt32 → List Bool} {keyOf : ℕ → ω × UInt32}
    (hkeyOf : ∀ i < num, (keyOf i).2 < n (keyOf i).1 ∧ stream (keyOf i).1 (keyOf i).2 = i)
    {arrivals : List ((ω × UInt32) × RxFrame)} (hkeys : ∀ a ∈ arrivals, a.1.2 < n a.1.1)
    (hsurvive : ∀ w idx,
      Survive (s.frames w idx) (kind.size (gens w)) (mask w idx) (arrivalsOf (w, idx) arrivals)) :
    ∃ f, ∀ fuel, f ≤ fuel → ∀ bursts : List (List RxFrame),
      bursts.flatten = arrivals.map Prod.snd →
      let app := runBursts fuel crypto (init conf) bursts
      app.m_rxGoosePktCnt + app.m_rxSVPktCnt = UInt64.ofNat arrivals.length ∧
      (∀ c, c ≠ .m_rxGoosePktCnt → c ≠ .m_rxSVPktCnt → app.counter c = 0) ∧
      app.countGaps.1.toNat + app.countGaps.2.toNat ≤ ((List.range num).map fun i =>
        (Losses.runs (mask (keyOf i).1 (keyOf i).2)).length).sum := by
  obtain ⟨sent, hsent, htraffic⟩ := hstreams.traffic s hrun
  -- the keys of the streams of the receiver
  have harrivals : ∀ {key : ℕ → ℕ ⊕ ℕ}, Function.Injective key → ∀ i < num, arrivalsOf (key i)
      (arrivals.map fun a => (key (stream a.1.1 a.1.2), a.2)) = arrivalsOf (keyOf i) arrivals := by
    intro key hinj i hi
    refine @arrivalsOf_map (ω × UInt32) (ℕ ⊕ ℕ) _ _ (fun k => key (stream k.1 k.2)) (keyOf i)
      (key i) arrivals ?_
    intro a ha
    obtain ⟨hvalid, hstream⟩ := hkeyOf i hi
    rw [hinj.eq_iff]
    constructor
    · intro heq
      obtain ⟨hw, hidx⟩ := hstreams.numbering.inj _ _ _ _ (hkeys a ha) hvalid
        (heq.trans hstream.symm)
      exact Prod.ext hw hidx
    · intro heq
      rw [heq, hstream]
  have hsurvives : ∀ {key : ℕ → ℕ ⊕ ℕ}, Function.Injective key → ∀ i < num,
      Survive (sent i).1 (sent i).2 (mask (keyOf i).1 (keyOf i).2) (arrivalsOf (key i)
        (arrivals.map fun a => (key (stream a.1.1 a.1.2), a.2))) := by
    intro key hinj i hi
    obtain ⟨hvalid, hstream⟩ := hkeyOf i hi
    have hsentAt := hsent _ _ hvalid
    rw [hstream] at hsentAt
    rw [hsentAt, harrivals hinj i hi]
    exact hsurvive (keyOf i).1 (keyOf i).2
  have hflat : ∀ (key : ℕ → ℕ ⊕ ℕ), (arrivals.map fun a =>
      (key (stream a.1.1 a.1.2), a.2)).map Prod.snd = arrivals.map Prod.snd := by
    intro key
    rw [List.map_map]
    rfl
  have hlt : ∀ a ∈ arrivals, stream a.1.1 a.1.2 < num := fun a ha =>
    hstreams.numbering.lt _ _ (hkeys a ha)
  rcases htraffic with ⟨hgoose, hidle⟩ | ⟨type, routable, hsv, hidle⟩
  · have hsv : SvTraffic conf crypto .SV80 false 0 fun _ => ([], 0) := .idle hidle
    have hkeys' : ∀ a ∈ arrivals.map fun a => ((.inl (stream a.1.1 a.1.2) : ℕ ⊕ ℕ), a.2),
        a.1.elim (· < num) (· < 0) := by
      intro b hb
      obtain ⟨a, ha, rfl⟩ := List.mem_map.mp hb
      exact hlt a ha
    obtain ⟨spduNumber, hspdu, f, hf⟩ := totals_of_traffic hlaw hgoose hsv hkeys'
      (hsurvives Sum.inl_injective)
      (show ∀ i < 0, Survive [] 0 ((fun _ => []) i) _ from
        fun _ hi => absurd hi (Nat.not_lt_zero _))
    refine ⟨f, fun fuel hfuel bursts hbursts => ?_⟩
    obtain ⟨hrx, hrxSv, hothers, hgaps, hgapsSv⟩ :=
      hf fuel hfuel bursts (hbursts.trans (hflat _).symm)
    refine ⟨?_, hothers, ?_⟩
    · rw [hrx, hrxSv, List.countP_map, List.countP_map]
      simp [Function.comp_def]
    · rw [hgaps, hgapsSv]
      apply List.sum_le_sum
      intro i _
      exact gooseErrors_le hspdu
  · have hgoose : GooseTraffic conf crypto 0 fun _ => ([], 0) := .idle hidle
    have hkeys' : ∀ a ∈ arrivals.map fun a => ((.inr (stream a.1.1 a.1.2) : ℕ ⊕ ℕ), a.2),
        a.1.elim (· < 0) (· < num) := by
      intro b hb
      obtain ⟨a, ha, rfl⟩ := List.mem_map.mp hb
      exact hlt a ha
    obtain ⟨spduNumber, hspdu, f, hf⟩ := totals_of_traffic hlaw hgoose hsv hkeys'
      (show ∀ i < 0, Survive [] 0 ((fun _ => []) i) _ from
        fun _ hi => absurd hi (Nat.not_lt_zero _))
      (hsurvives Sum.inr_injective)
    refine ⟨f, fun fuel hfuel bursts hbursts => ?_⟩
    obtain ⟨hrx, hrxSv, hothers, hgaps, hgapsSv⟩ :=
      hf fuel hfuel bursts (hbursts.trans (hflat _).symm)
    refine ⟨?_, hothers, ?_⟩
    · rw [hrx, hrxSv, List.countP_map, List.countP_map]
      simp [Function.comp_def]
    · rw [hgaps, hgapsSv]
      refine (Nat.zero_add _).trans_le ?_
      apply List.sum_le_sum
      intro i _
      exact SvType.errors_le

/-- Streams whose frames get through are streams the workers have. -/
lemma keys_of_survive {mask : ω → UInt32 → List Bool} (hrun : kind.Run gens s)
    (hieds : ∀ w, (kind.ieds (gens w)).length = (n w).toNat)
    {arrivals : List ((ω × UInt32) × RxFrame)}
    (hsurvive : ∀ w idx,
      Survive (s.frames w idx) (kind.size (gens w)) (mask w idx) (arrivalsOf (w, idx) arrivals)) :
    (∀ e ∈ s.sent, e.1.2 < n e.1.1) ∧ ∀ a ∈ arrivals, a.1.2 < n a.1.1 := by
  obtain ⟨buffers, -, hreach⟩ := hrun
  have hsent : ∀ e ∈ s.sent, e.1.2 < n e.1.1 := by
    intro e he
    have hkey := Pool.key_of_mem_sent rfl hreach e he
    rwa [hieds] at hkey
  refine ⟨hsent, ?_⟩
  rintro ⟨⟨w, idx⟩, frame⟩ ha
  have hmem : frame ∈ arrivalsOf (w, idx) arrivals := mem_arrivalsOf ha
  obtain ⟨k, hk, -⟩ := List.getElem_of_mem hmem
  obtain ⟨f, hf, -⟩ := (hsurvive w idx).get (by rw [(hsurvive w idx).length_eq]; exact hk) hk
  obtain ⟨e, he, -⟩ := List.mem_map.mp (List.mem_of_getElem? hf)
  obtain ⟨he, heq⟩ := List.mem_filter.mp he
  have hlt := hsent e he
  rwa [of_decide_eq_true heq] at hlt

end Loop

section Main

variable {ω σ ι : Type} [DecidableEq ω] [Fintype ω] {conf : RxConfig} {crypto : Crypto}
  {kind : GenKind σ ι} {gens : ω → σ} {n : ω → UInt32} {mbufs : ℕ → Mbuf}
  {ws₀ ws : ω → TxWorker σ}

/-- Whatever turns the workers take, whatever the pool and the NIC do, whatever the network loses,
how it mixes the streams and how the frames are split into bursts: the receiver counts every frame
that arrives as one of the streams and as nothing else, and the gaps it reports are at most the
frames that were amended and have not arrived. -/
theorem gaps_are_losses (hlaw : crypto.Lawful) (hserved : Served conf crypto kind gens n)
    (hunused : kind.Unused gens fun b => (mbufs b).data)
    (hstart : ∀ w, (ws₀ w).Starts { gen := gens w, mbufs := mbufs })
    (hdescs : ∀ w, ∀ d ∈ (ws₀ w).descs, d.idx < n w)
    (hreach : ReflTransGen (FleetStep kind.amendDesc) ws₀ ws)
    (wire : ω → List (PacketDesc × Mbuf)) (hwire : ∀ w, OnWire (ws w).tx (wire w))
    (arrivals : List ((ω × UInt32) × RxFrame))
    (harrivals : ∀ w idx, GetsThrough (wire w) idx (arrivalsOf (w, idx) arrivals)) :
    ∃ f, ∀ fuel, f ≤ fuel → ∀ bursts : List (List RxFrame),
      bursts.flatten = arrivals.map Prod.snd →
      let app := runBursts fuel crypto (init conf) bursts
      app.m_rxGoosePktCnt + app.m_rxSVPktCnt = UInt64.ofNat arrivals.length ∧
      (∀ c, c ≠ .m_rxGoosePktCnt → c ≠ .m_rxSVPktCnt → app.counter c = 0) ∧
      app.countGaps.1.toNat + app.countGaps.2.toNat + arrivals.length ≤
        ∑ w, (ws w).tx.amended.length := by
  obtain ⟨num, stream, hstreams⟩ := hserved.exists_streams
  have hdescs' : ∀ w, ∀ d ∈ (ws₀ w).descs, d.idx.toNat < (kind.ieds (gens w)).length := by
    intro w d hd
    rw [hstreams.ieds]
    exact hdescs w d hd
  have hsound := fleetSound_of_reach hstreams.keepsSize hunused hstart hdescs' hreach
  obtain ⟨s, hrun, hshows⟩ := hsound.run
  -- what is lost of each stream
  have hpart : ∀ w idx, ∃ mask, Survive (s.frames w idx) (kind.size (gens w)) mask
      (arrivalsOf (w, idx) arrivals) ∧ (Losses.runs mask).length +
        (arrivalsOf (w, idx) arrivals).length ≤ (s.frames w idx).length :=
    fun w idx => exists_survive (hshows w) (hsound.sized w) (hwire w) (harrivals w idx)
  choose mask hsurvive hruns using hpart
  obtain ⟨hsent, hkeys⟩ := keys_of_survive hrun hstreams.ieds hsurvive
  -- and of all of them
  have := hstreams.nonempty
  choose! fst snd hvalid hstream using hstreams.numbering.exists_eq
  have hkeyOf : ∀ i < num, (fst i, snd i).2 < n (fst i, snd i).1 ∧
      stream (fst i, snd i).1 (fst i, snd i).2 = i := fun i hi => ⟨hvalid i hi, hstream i hi⟩
  have hsumSent := hstreams.numbering.sum_length_filter hkeyOf hsent
  have hsumGot := hstreams.numbering.sum_length_filter hkeyOf hkeys
  rw [length_sent hshows] at hsumSent
  have hsum : ((List.range num).map fun i => (Losses.runs (mask (fst i) (snd i))).length).sum +
      arrivals.length ≤ ∑ w, (ws w).tx.amended.length := by
    rw [← hsumSent, ← hsumGot]
    show ∑ i ∈ Finset.range num, (Losses.runs (mask (fst i) (snd i))).length + _ ≤ _
    rw [← Finset.sum_add_distrib]
    apply Finset.sum_le_sum
    intro i _
    have hi := hruns (fst i) (snd i)
    rwa [Pool.State.frames, arrivalsOf, List.length_map, List.length_map] at hi
  obtain ⟨f, hf⟩ := hstreams.totals hlaw hrun hkeyOf hkeys hsurvive
  refine ⟨f, fun fuel hfuel bursts hbursts => ?_⟩
  obtain ⟨hrx, hothers, hgaps⟩ := hf fuel hfuel bursts hbursts
  exact ⟨hrx, hothers, (Nat.add_le_add_right hgaps _).trans hsum⟩

end Main

/-! A GOOSE stream of three frames. The second one is lost. -/

def sampleLoopUnits : List TxUnit := [⟨0, [⟨[⟨0⟩, ⟨0⟩, ⟨0⟩]⟩]⟩]

/-- The loop, before it begins. -/
def sampleLoopStart : SteadyState GooseTrafficGen :=
  txPacketsCycle sampleLoopUnits
    { gen := .make sampleGooseMessage 1
      mbufs := fun _ => ⟨(GooseTrafficGen.make sampleGooseMessage 1).m_skeleton, 0, 0⟩ }

def sampleLoopAlloc : TxInput := { alloc := some [0, 1, 2], nb_tx := 3 }

/-- Behind its first chunk. -/
def sampleLoop : SteadyState GooseTrafficGen :=
  steadyStep GenKind.goose.amendDesc sampleLoopUnits sampleLoopAlloc
    (steadyStep GenKind.goose.amendDesc sampleLoopUnits {} sampleLoopStart)

lemma reach_sampleLoop : ReflTransGen (FleetStep GenKind.goose.amendDesc)
    (fun _ : Unit => .steady sampleLoopUnits sampleLoopStart)
    fun _ => .steady sampleLoopUnits sampleLoop := by
  have hwork : ∀ {s : SteadyState GooseTrafficGen} (inp : TxInput),
      s.Allows sampleLoopUnits inp → FleetStep GenKind.goose.amendDesc
        (fun _ : Unit => .steady sampleLoopUnits s)
        fun _ => .steady sampleLoopUnits
          (steadyStep GenKind.goose.amendDesc sampleLoopUnits inp s) := by
    intro s inp hallows
    exact .work (fun _ : Unit => .steady sampleLoopUnits s) () _ _ (.steady _ s inp hallows)
      fun w' hne => absurd (Subsingleton.elim w' ()) hne
  refine .head (hwork {} ?_) (.single (hwork sampleLoopAlloc ?_))
  · intro hpc
    cases hpc
  · intro _ blk hblk _
    obtain rfl : ⟨[⟨0⟩, ⟨0⟩, ⟨0⟩]⟩ = blk := Option.some.inj hblk
    refine ⟨fun ms hms => ?_, by decide⟩
    obtain rfl : [0, 1, 2] = ms := Option.some.inj hms
    exact ⟨rfl, by decide, fun m _ hm => Nat.not_lt_zero _ hm⟩

theorem gaps_are_losses_sample :
    let got := receivedOf (sampleLoop.accepted.map (·.2.data)) 152 [true, false, true]
    ∃ f, ∀ fuel, f ≤ fuel →
      let app := runBursts fuel sampleRunCrypto (init { m_confGooseNum := 1, m_gooseEntries := 2 })
        [got.take 1, got.drop 1]
      app.m_rxGoosePktCnt + app.m_rxSVPktCnt = 2 ∧
        app.countGaps.1.toNat + app.countGaps.2.toNat ≤ 1 := by
  intro got
  have hserved : Served { m_confGooseNum := 1, m_gooseEntries := 2 } sampleRunCrypto .goose
      (fun _ : Unit => .make sampleGooseMessage 1) (fun _ => 1) := by
    apply Served.goose describes_sampleGooseMessage (by decide +kernel) rfl ⟨rfl, rfl, rfl⟩
    · decide
    · rfl
  have hunused : GenKind.goose.Unused (fun _ : Unit => .make sampleGooseMessage 1)
      fun _ => (GooseTrafficGen.make sampleGooseMessage 1).m_skeleton := fun _ _ => rfl
  have harrivals : ∀ (_ : Unit) (idx : UInt32), GetsThrough sampleLoop.amended idx
      (arrivalsOf ((), idx) (got.map (Prod.mk ((), 0)))) := by
    have hsent : ∃ m₀ m₁ m₂ : Mbuf, sampleLoop.amended = [(⟨0⟩, m₀), (⟨0⟩, m₁), (⟨0⟩, m₂)] ∧
        got = [received m₀.data 152, received m₂.data 152] ∧ m₀.pkt_len = 152 ∧ m₂.pkt_len = 152 :=
      ⟨_, _, _, rfl, rfl, rfl, rfl⟩
    obtain ⟨m₀, m₁, m₂, hamended, hgot, hsize₀, hsize₂⟩ := hsent
    have hdel : ∀ m : Mbuf, m.pkt_len = 152 → Delivered m.data m.pkt_len (received m.data 152) := by
      intro m hm
      rw [hm]
      exact ⟨(arrives_received _ (by decide)).reaches, pktLen_received _ (by decide)⟩
    rw [hamended, hgot]
    intro _ idx
    by_cases hidx : idx = 0
    · subst hidx
      refine ⟨[m₀, m₂], ?_, .cons (hdel m₀ hsize₀) (.cons (hdel m₂ hsize₂) .nil)⟩
      exact .cons_cons m₀ (.cons m₁ (.refl _))
    · refine ⟨[], List.nil_sublist _, ?_⟩
      have hnone : arrivalsOf ((), idx) ([received m₀.data 152, received m₂.data 152].map
          (Prod.mk ((), 0))) = [] := by
        simp [arrivalsOf, Ne.symm hidx]
      rw [hnone]
      exact .nil
  obtain ⟨f, hf⟩ := @gaps_are_losses Unit _ _ _ _ { m_confGooseNum := 1, m_gooseEntries := 2 }
    sampleRunCrypto .goose (fun _ => .make sampleGooseMessage 1) (fun _ => 1)
    (fun _ => ⟨(GooseTrafficGen.make sampleGooseMessage 1).m_skeleton, 0, 0⟩)
    (fun _ => .steady sampleLoopUnits sampleLoopStart)
    (fun _ => .steady sampleLoopUnits sampleLoop) lawful_sampleRunCrypto hserved hunused
    (fun _ => .packets sampleLoopUnits) (by decide) reach_sampleLoop
    (fun _ => sampleLoop.amended) (fun _ => ⟨.refl _, rfl⟩) (got.map (Prod.mk ((), 0))) harrivals
  refine ⟨f, fun fuel hfuel => ?_⟩
  obtain ⟨hrx, -, hgaps⟩ := hf fuel hfuel [got.take 1, got.drop 1] rfl
  exact ⟨hrx, Nat.le_of_add_le_add_right hgaps⟩

end ProcessBus
