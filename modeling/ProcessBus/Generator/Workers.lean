import ProcessBus.Generator.Runs
import ProcessBus.Lib.Slices

/-!
# Workers

`gen_application` gives each worker a generator over its slice of the IEDs. The generator folds the
number of the first one back into every identity, so splitting the work changes no stream.
-/

namespace ProcessBus

open RSess RFrame

/-- IED half-open slice [lo, hi) owned by worker `i`; remainder to the first workers. -/
def iedSlice (num workers i : UInt32) : UInt32 × UInt32 :=
  let per := num / workers
  let rem := num % workers
  let lo := i * per + (if i < rem then i else rem)
  let hi := lo + per + (if i < rem then 1 else 0)
  (lo, hi)

/-- `make_r_workers`: the generator of each worker, `none` where the factory throws. The factory
takes the number of the first IED and the count. -/
def makeRWorkers {σ : Type} (workers num : UInt32) (factory : UInt32 → UInt32 → Option σ)
    (i : Fin workers.toNat) : Option σ :=
  let s := iedSlice num workers (UInt32.ofNat i)
  factory s.1 (s.2 - s.1)

lemma toNat_ofNat_of_lt {num : UInt32} {i : ℕ} (hi : i < num.toNat) :
    (UInt32.ofNat i).toNat = i ∧ UInt32.ofNat i < num := by
  have hnat : (UInt32.ofNat i).toNat = i := UInt32.toNat_ofNat_of_lt' (hi.trans num.toNat_lt)
  exact ⟨hnat, by rwa [UInt32.lt_iff_toNat_lt, hnat]⟩

section Slices

variable {num workers i : UInt32}

variable (num) in
lemma toNat_iedSlice (hi : i < workers) :
    (iedSlice num workers i).1.toNat = Slices.bound num.toNat workers.toNat i.toNat ∧
      (iedSlice num workers i).2.toNat = Slices.bound num.toNat workers.toNat (i.toNat + 1) := by
  have hi : i.toNat < workers.toNat := hi
  have hpos := Nat.zero_lt_of_lt hi
  have hnum := num.toNat_lt
  have hle := Slices.bound_le (n := num.toNat) hpos (show i.toNat + 1 ≤ workers.toNat from hi)
  have hsucc := Slices.bound_succ (n := num.toNat) (k := workers.toNat) (i := i.toNat)
  have hmin : (if i < num % workers then i else num % workers).toNat =
      min i.toNat (num.toNat % workers.toNat) := by
    split_ifs with h
    · rw [UInt32.lt_iff_toNat_lt, UInt32.toNat_mod] at h
      omega
    · rw [UInt32.lt_iff_toNat_lt, UInt32.toNat_mod] at h
      rw [UInt32.toNat_mod]
      omega
  have hone : (if i < num % workers then (1 : UInt32) else 0).toNat =
      if i.toNat < num.toNat % workers.toNat then 1 else 0 := by
    simp only [UInt32.lt_iff_toNat_lt, UInt32.toNat_mod]
    split_ifs <;> rfl
  have hlo : (iedSlice num workers i).1.toNat =
      Slices.bound num.toNat workers.toNat i.toNat := by
    show (i * (num / workers) + _).toNat = _
    rw [UInt32.toNat_add, UInt32.toNat_mul, hmin, UInt32.toNat_div, Nat.mod_add_mod]
    exact Nat.mod_eq_of_lt ((Slices.bound_le hpos hi.le).trans_lt hnum)
  refine ⟨hlo, ?_⟩
  show ((iedSlice num workers i).1 + num / workers + _).toNat = _
  rw [UInt32.toNat_add, UInt32.toNat_add, hlo, hone, UInt32.toNat_div, Nat.mod_add_mod, hsucc,
    ← Nat.add_assoc]
  exact Nat.mod_eq_of_lt (by omega)

lemma toNat_sub_iedSlice (hi : i < workers) :
    ((iedSlice num workers i).2 - (iedSlice num workers i).1).toNat =
      Slices.bound num.toNat workers.toNat (i.toNat + 1) -
        Slices.bound num.toNat workers.toNat i.toNat := by
  obtain ⟨hlo, hhi⟩ := toNat_iedSlice num hi
  rw [UInt32.toNat_sub_of_le, hlo, hhi]
  rw [UInt32.le_iff_toNat_le, hlo, hhi]
  exact Slices.monotone_bound (Nat.le_succ _)

/-- Every IED belongs to a worker, where it has a number of its own. -/
lemma exists_iedSlice (hpos : 1 ≤ workers) {x : ℕ} (hx : x < num.toNat) :
    ∃ (w : Fin workers.toNat) (idx : UInt32),
      idx < (iedSlice num workers (UInt32.ofNat w)).2 - (iedSlice num workers (UInt32.ofNat w)).1 ∧
      x = (iedSlice num workers (UInt32.ofNat w)).1.toNat + idx.toNat := by
  have hnum := num.toNat_lt
  obtain ⟨w, hw, hlo, hhi⟩ := Slices.exists_inSlice (k := workers.toNat) hpos hx
  have hnat : (UInt32.ofNat w).toNat = w := UInt32.toNat_ofNat_of_lt' (hw.trans workers.toNat_lt)
  have hlt : UInt32.ofNat w < workers := by rwa [UInt32.lt_iff_toNat_lt, hnat]
  have hidx : (UInt32.ofNat (x - Slices.bound num.toNat workers.toNat w)).toNat =
      x - Slices.bound num.toNat workers.toNat w :=
    UInt32.toNat_ofNat_of_lt' ((Nat.sub_le _ _).trans_lt (hx.trans hnum))
  refine ⟨⟨w, hw⟩, UInt32.ofNat (x - Slices.bound num.toNat workers.toNat w), ?_, ?_⟩
  · rw [UInt32.lt_iff_toNat_lt, hidx, toNat_sub_iedSlice hlt, hnat]
    omega
  · rw [hidx, (toNat_iedSlice num hlt).1, hnat]
    omega

/-- The slices cut the IEDs into contiguous, non-empty parts of almost the same size. -/
structure SlicesOk (num workers : UInt32) : Prop where
  first : (iedSlice num workers 0).1 = 0
  last : (iedSlice num workers (workers - 1)).2 = num
  contiguous : ∀ i, i + 1 < workers → i < workers →
    (iedSlice num workers (i + 1)).1 = (iedSlice num workers i).2
  nonempty : ∀ i < workers, (iedSlice num workers i).1 < (iedSlice num workers i).2
  cover : ∀ x < num, ∃ i < workers,
    (iedSlice num workers i).1 ≤ x ∧ x < (iedSlice num workers i).2
  disjoint : ∀ x i j, i < workers → j < workers →
    (iedSlice num workers i).1 ≤ x ∧ x < (iedSlice num workers i).2 →
    (iedSlice num workers j).1 ≤ x ∧ x < (iedSlice num workers j).2 → i = j
  balanced : ∀ i < workers, ∀ j < workers,
    ((iedSlice num workers i).2 - (iedSlice num workers i).1).toNat ≤
      ((iedSlice num workers j).2 - (iedSlice num workers j).1).toNat + 1

lemma inSlice_iff {x : UInt32} (hi : i < workers) :
    (iedSlice num workers i).1 ≤ x ∧ x < (iedSlice num workers i).2 ↔
      Slices.InSlice num.toNat workers.toNat i.toNat x.toNat := by
  obtain ⟨hlo, hhi⟩ := toNat_iedSlice num hi
  rw [UInt32.le_iff_toNat_le, UInt32.lt_iff_toNat_lt, hlo, hhi, Slices.InSlice]

theorem slicesOk (hpos : 1 ≤ workers) (hle : workers ≤ num) : SlicesOk num workers where
  first := by
    have hlt : 0 < workers := UInt32.lt_of_lt_of_le (by decide) hpos
    have h := (toNat_iedSlice num hlt).1
    exact UInt32.toNat_inj.mp (h.trans Slices.bound_zero)
  last := by
    have hpred : (workers - 1).toNat = workers.toNat - 1 := UInt32.toNat_sub_of_le _ _ hpos
    have hone : 1 ≤ workers.toNat := hpos
    have hlt : workers - 1 < workers := by
      rw [UInt32.lt_iff_toNat_lt, hpred]
      omega
    have h := (toNat_iedSlice num hlt).2
    rw [hpred, Nat.sub_add_cancel hone, Slices.bound_self hone] at h
    exact UInt32.toNat_inj.mp h
  contiguous i hsucc hi := by
    have hone : (i + 1).toNat = i.toNat + 1 := by
      have hlt := workers.toNat_lt
      have hi : i.toNat < workers.toNat := hi
      rw [UInt32.toNat_add]
      exact Nat.mod_eq_of_lt (by show i.toNat + 1 < _; omega)
    refine UInt32.toNat_inj.mp ?_
    rw [(toNat_iedSlice num hsucc).1, (toNat_iedSlice num hi).2, hone]
  nonempty i hi := by
    rw [UInt32.lt_iff_toNat_lt, (toNat_iedSlice num hi).1, (toNat_iedSlice num hi).2]
    exact Slices.bound_lt_succ hpos hle
  cover x hx := by
    obtain ⟨i, hi, hslice⟩ := Slices.exists_inSlice (k := workers.toNat) hpos hx
    have hnat : (UInt32.ofNat i).toNat = i :=
      UInt32.toNat_ofNat_of_lt' (hi.trans workers.toNat_lt)
    have hlt : UInt32.ofNat i < workers := by rwa [UInt32.lt_iff_toNat_lt, hnat]
    exact ⟨UInt32.ofNat i, hlt, (inSlice_iff hlt).mpr (hnat.symm ▸ hslice)⟩
  disjoint x i j hi hj hxi hxj := by
    have hxi := (inSlice_iff hi).mp hxi
    exact UInt32.toNat_inj.mp (hxi.unique ((inSlice_iff hj).mp hxj))
  balanced i hi j hj := by
    rw [toNat_sub_iedSlice hi, toNat_sub_iedSlice hj]
    exact Slices.size_le_succ

end Slices

/-- Every stream of the workers is that of a single generator: stream `i` belongs to the worker
whose slice it is in, and its frames are the same. -/
def GenKind.SameStreams {σ ι : Type} (kind : GenKind σ ι) {workers : UInt32} (num : UInt32)
    (gens : Fin workers.toNat → σ) (gen : σ) : Prop :=
  ∀ s single, kind.Run gens s → kind.Run (fun _ : Unit => gen) single →
  ∀ (w : Fin workers.toNat) (i : UInt32),
    let lo := (iedSlice num workers (UInt32.ofNat w)).1
    let hi := (iedSlice num workers (UInt32.ofNat w)).2
    lo ≤ i → i < hi →
    ∀ (k : ℕ) (f f' : Mem), (s.frames w (i - lo))[k]? = some f →
      (single.frames () i)[k]? = some f' →
      kind.size (gens w) = kind.size gen ∧
        f.slice 0 (kind.size gen) = f'.slice 0 (kind.size gen)

section SameStreams

variable {σ ι : Type} [Inhabited ι] {kind : GenKind σ ι} {num workers : UInt32}
  {gens : Fin workers.toNat → σ} {gen : σ} {Good : Fin workers.toNat → σ → Prop}
  {Good' : Unit → σ → Prop} {Fits Fits' : Mem → Prop} {next : ι → ι}
  {out : UInt32 → ι → List UInt8} {size : ℕ} {init : ℕ → ι}

variable (out init) in
/-- If the frames depend on the number of the stream and on the state of its IED, and IEDs of the
same number start in the same state, it does not matter which generator a stream belongs to. -/
lemma sameStreams_of_law
    (h : kind.Law gens Good Fits next
      (fun w idx => out (idx + (iedSlice num workers (UInt32.ofNat w)).1)) size)
    (h' : kind.Law (fun _ => gen) Good' Fits' next (fun _ idx => out (idx + 0)) size)
    (hieds : ∀ w, kind.ieds (gens w) =
      (List.range ((iedSlice num workers (UInt32.ofNat w)).2 -
        (iedSlice num workers (UInt32.ofNat w)).1).toNat).map
        fun i => init ((iedSlice num workers (UInt32.ofNat w)).1.toNat + i))
    (hieds' : kind.ieds gen = (List.range num.toNat).map fun i => init (0 + i)) :
    kind.SameStreams num gens gen := by
  intro s single hrun hrun' w i lo hi hlo hhi k f f' hf hf'
  have hw : (UInt32.ofNat w).toNat = w := UInt32.toNat_ofNat_of_lt' (w.2.trans workers.toNat_lt)
  have hlt : UInt32.ofNat w < workers := by
    rw [UInt32.lt_iff_toNat_lt, hw]
    exact w.2
  have hnum : i.toNat < num.toNat := by
    have hle : hi.toNat ≤ num.toNat := by
      rw [(toNat_iedSlice num hlt).2, hw]
      exact Slices.bound_le (Nat.zero_lt_of_lt w.2) w.2
    exact Nat.lt_of_lt_of_le hhi hle
  have hsub : (i - lo).toNat = i.toNat - lo.toNat := UInt32.toNat_sub_of_le _ _ hlo
  have hidx : (i - lo).toNat < (hi - lo).toNat := by
    have hlo : lo.toNat ≤ i.toNat := hlo
    have hhi : i.toNat < hi.toNat := hhi
    rw [hsub, UInt32.toNat_sub_of_le _ _ (UInt32.le_iff_toNat_le.mpr (by omega))]
    omega
  have hstart : (kind.ieds (gens w)).getD (i - lo).toNat default =
      (kind.ieds gen).getD i.toNat default := by
    rw [hieds w, hieds', List.getD_eq_getElem?_getD, List.getD_eq_getElem?_getD,
      List.getElem?_map, List.getElem?_map, List.getElem?_range hidx, List.getElem?_range hnum,
      hsub]
    show init (lo.toNat + (i.toNat - lo.toNat)) = init (0 + i.toNat)
    rw [Nat.zero_add, Nat.add_sub_cancel' (UInt32.le_iff_toNat_le.mp hlo)]
  have hsize' : kind.size gen = size := h'.size ()
  refine ⟨(h.size w).trans hsize'.symm, ?_⟩
  rw [hsize', h.frame_eq hrun hf, h'.frame_eq hrun' hf', hstart]
  show out (i - lo + lo) _ = out (i + 0) _
  rw [UInt32.sub_add_cancel, UInt32.add_zero]

end SameStreams

/-- Splitting the generator over workers changes no stream: the slices cut the IEDs into parts, and
each part publishes what a single generator publishes for it. -/
theorem splitting_keeps_streams (num workers : UInt32) (hpos : 1 ≤ workers) (hle : workers ≤ num)
    (goose : GooseMessage) (sv : SvType → SvMessage) (cfg : RFrameConfig) {crypto : Crypto}
    (hdet : crypto.Deterministic) :
    SlicesOk num workers ∧
    (∀ gens gen,
      (∀ w, makeRWorkers workers num (fun lo count =>
        RGooseTrafficGen.make goose cfg crypto count lo) w = some (gens w)) →
      RGooseTrafficGen.make goose cfg crypto num 0 = some gen →
      (GenKind.rgoose cfg.mode).SameStreams num gens gen) ∧
    ∀ type gens gen,
      (∀ w, makeRWorkers workers num (fun lo count =>
        RSVTrafficGen.make (sv type) cfg crypto type count lo) w = some (gens w)) →
      RSVTrafficGen.make (sv type) cfg crypto type num 0 = some gen →
      (GenKind.rsv cfg.mode type).SameStreams num gens gen := by
  refine ⟨slicesOk hpos hle, fun gens gen h hgen => ?_, fun type gens gen h hgen => ?_⟩
  · have hlaw := RGooseTrafficGen.law hdet hgen (ω := Unit) fun _ => hgen
    exact sameStreams_of_law (gen.frame cfg.mode) (fun i => .init (i + 1))
      (RGooseTrafficGen.law hdet hgen h) hlaw
      (fun w => (RGooseTrafficGen.built_of_make (h w)).2.2.2)
      (RGooseTrafficGen.built_of_make hgen).2.2.2
  · have hlaw := RSVTrafficGen.law hdet hgen (ω := Unit) fun _ => hgen
    exact sameStreams_of_law (gen.frame type.asduNum cfg.mode)
      (fun i => .init (UInt32.ofNat (i + 1)).toNat) (RSVTrafficGen.law hdet hgen h) hlaw
      (fun w => (RSVTrafficGen.built_of_make (h w)).2.2.2.2)
      (RSVTrafficGen.built_of_make hgen).2.2.2.2

/-- Two workers with one stream each. -/
theorem splitting_keeps_streams_two :
    ∃ (gens : Fin (2 : UInt32).toNat → RGooseTrafficGen) (gen : RGooseTrafficGen),
      (∀ w, makeRWorkers 2 2 (fun lo count => RGooseTrafficGen.make sampleGooseMessage
        { mode := .SEC_GCM } sampleRunCrypto count lo) w = some (gens w)) ∧
      RGooseTrafficGen.make sampleGooseMessage { mode := .SEC_GCM } sampleRunCrypto 2 0 =
        some gen ∧
      SlicesOk 2 2 ∧ (GenKind.rgoose .SEC_GCM).SameStreams 2 gens gen := by
  have hmake : ∀ w, (makeRWorkers 2 2 (fun lo count => RGooseTrafficGen.make sampleGooseMessage
      { mode := .SEC_GCM } sampleRunCrypto count lo) w).isSome := by decide +kernel
  have hsingle : (RGooseTrafficGen.make sampleGooseMessage { mode := .SEC_GCM } sampleRunCrypto 2
      0).isSome := by decide +kernel
  choose gens hgens using fun w => Option.isSome_iff_exists.mp (hmake w)
  obtain ⟨gen, hgen⟩ := Option.isSome_iff_exists.mp hsingle
  obtain ⟨hslices, hrgoose, _⟩ := splitting_keeps_streams 2 2 (by decide) (by decide)
    sampleGooseMessage sampleSvMessage { mode := .SEC_GCM } deterministic_sampleRunCrypto
  exact ⟨gens, gen, hgens, hgen, hslices, hrgoose gens gen hgens hgen⟩

end ProcessBus
