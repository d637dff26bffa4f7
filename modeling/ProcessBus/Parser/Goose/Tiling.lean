import ProcessBus.Parser.Goose.Grammar

/-!
# What `parse_alldata` counts

A range is tiled by entries that lie one behind the other from its start to its end, each with its
length octets, and the value of an array or a structure is tiled again. In buffers below `2 ^ 30`
bytes no cursor wraps, and the number of entries is what `parse_alldata` returns.
-/

namespace ProcessBus

open Relation

variable {buffer : Ptr} {depth room pos stop p q n : ℕ}

/-- `[pos, stop)` on level `depth` consists of `n` entries. -/
inductive TiledBy (buffer : Ptr) : ℕ → ℕ → ℕ → ℕ → Prop
  | nil (depth pos : ℕ) : TiledBy buffer depth pos pos 0
  | leaf {depth pos stop n : ℕ} :
      headLen buffer pos < 2 ^ 31 → valueEnd buffer pos ≤ stop → ¬ IsNested buffer pos →
      TiledBy buffer depth (valueEnd buffer pos) stop n →
      TiledBy buffer depth pos stop (n + 1)
  | nested {depth pos stop n k : ℕ} :
      headLen buffer pos < 2 ^ 31 → valueEnd buffer pos ≤ stop → IsNested buffer pos →
      depth + 1 ≤ MAX_DATA_DEPTH →
      TiledBy buffer (depth + 1) (headEnd buffer pos) (valueEnd buffer pos) k →
      TiledBy buffer depth (valueEnd buffer pos) stop n →
      TiledBy buffer depth pos stop (n + 1)

/-! ### Cursors that do not wrap -/

/-- An entry the parser accepts lies inside the range. -/
lemma entryAt_iff (hstop : stop < 2 ^ 30) :
    EntryAt buffer stop p ↔ headLen buffer p < 2 ^ 31 ∧ valueEnd buffer p ≤ stop := by
  have hlt := lt_headEnd buffer p
  have hle := headEnd_le buffer p
  have hsum : valueEnd buffer p = headEnd buffer p + headLen buffer p := rfl
  constructor
  · rintro ⟨hpos, hlen, hend⟩
    rw [elemEnd_eq (by omega)] at hend
    exact ⟨hlen, hend⟩
  · rintro ⟨hlen, hend⟩
    refine ⟨by omega, hlen, ?_⟩
    rw [elemEnd_eq (by omega)]
    exact hend

lemma EntryAt.elemEnd_eq (hstop : stop < 2 ^ 30) (h : EntryAt buffer stop p) :
    elemEnd buffer p = valueEnd buffer p := by
  have hend := ((entryAt_iff hstop).mp h).2
  exact ProcessBus.elemEnd_eq (by omega)

lemma DataStep.bounds {ok : ℕ → ℕ → Prop} (hstop : stop < 2 ^ 30)
    (h : DataStep buffer ok stop p q) : p < q ∧ q ≤ stop := by
  obtain ⟨hentry, _, rfl⟩ := h
  rw [hentry.elemEnd_eq hstop]
  exact ⟨lt_valueEnd buffer p, ((entryAt_iff hstop).mp hentry).2⟩

lemma le_of_dataReach {ok : ℕ → ℕ → Prop} (hstop : stop < 2 ^ 30) (hp : p ≤ stop)
    (h : ReflTransGen (DataStep buffer ok stop) p q) : q ≤ stop := by
  rcases h.cases_tail with rfl | ⟨c, _, hstep⟩
  · exact hp
  · exact (hstep.bounds hstop).2

/-- The cursor only goes up, so that the parser returns. -/
lemma dataEnds_of_lt (hstop : stop < 2 ^ 30) : DataEnds buffer room pos stop := by
  induction room generalizing pos stop with
  | zero => trivial
  | succ room ih =>
    refine ⟨Loop.not_recurs_of_lt fun _ _ _ hstep => (hstep.bounds hstop).1, fun p _ hentry _ => ?_⟩
    exact ih (hentry.2.2.trans_lt hstop)

/-! ### Tilings and chains -/

/-- A tiling is a chain to the end, with as many levels left as the depth allows. -/
lemma TiledBy.exists_path (h : TiledBy buffer depth pos stop n) (hstop : stop < 2 ^ 30)
    (hroom : depth + room = MAX_DATA_DEPTH) :
    ∃ l, Loop.Path (DataStep buffer (Tiled buffer room) stop) pos l stop ∧ l.length = n := by
  induction h generalizing room with
  | nil depth pos => exact ⟨[], .nil pos, rfl⟩
  | @leaf depth pos stop n hlen hend hleaf _ ih =>
    obtain ⟨l, hl, rfl⟩ := ih hstop hroom
    have hentry := (entryAt_iff hstop).mpr ⟨hlen, hend⟩
    refine ⟨pos :: l, .cons ⟨hentry, fun hn => absurd hn hleaf, ?_⟩ hl, rfl⟩
    exact (hentry.elemEnd_eq hstop).symm
  | @nested depth pos stop n k hlen hend _ hdepth _ _ ihValue ih =>
    obtain ⟨l, hl, rfl⟩ := ih hstop hroom
    have hentry := (entryAt_iff hstop).mpr ⟨hlen, hend⟩
    obtain ⟨room, rfl⟩ : ∃ room', room = room' + 1 := ⟨room - 1, by omega⟩
    obtain ⟨l', hl', _⟩ := @ihValue room (hend.trans_lt hstop) (by omega)
    rw [← hentry.elemEnd_eq hstop] at hl' hl
    refine ⟨pos :: l, .cons ⟨hentry, fun _ => ?_, rfl⟩ hl, rfl⟩
    exact ⟨_, hl'.reflTransGen, le_rfl⟩

/-- And the other way round; `hok` is what is known of a nested value. -/
lemma tiledBy_of_dataPath {ok : ℕ → ℕ → Prop} {l : List ℕ} (hstop : stop < 2 ^ 30)
    (hok : ∀ p, valueEnd buffer p ≤ stop → ok (headEnd buffer p) (valueEnd buffer p) →
      depth + 1 ≤ MAX_DATA_DEPTH ∧
        ∃ k, TiledBy buffer (depth + 1) (headEnd buffer p) (valueEnd buffer p) k)
    (h : Loop.Path (DataStep buffer ok stop) pos l stop) :
    TiledBy buffer depth pos stop l.length := by
  induction l generalizing pos with
  | nil =>
    cases h
    exact .nil depth stop
  | cons p l ih =>
    cases h with
    | cons hstep hrest =>
      obtain ⟨hentry, hnested, rfl⟩ := hstep
      obtain ⟨hlen, hend⟩ := (entryAt_iff hstop).mp hentry
      rw [hentry.elemEnd_eq hstop] at hrest hnested
      by_cases hn : IsNested buffer p
      · obtain ⟨hdepth, k, hvalue⟩ := hok p hend (hnested hn)
        exact .nested hlen hend hn hdepth hvalue (ih hrest)
      · exact .leaf hlen hend hn (ih hrest)

lemma tiledBy_of_path {l : List ℕ} (hstop : stop < 2 ^ 30)
    (hroom : depth + room = MAX_DATA_DEPTH)
    (h : Loop.Path (DataStep buffer (Tiled buffer room) stop) pos l stop) :
    TiledBy buffer depth pos stop l.length := by
  induction room generalizing depth pos stop l with
  | zero => exact tiledBy_of_dataPath hstop (fun _ _ hvalue => absurd hvalue id) h
  | succ room ih =>
    refine tiledBy_of_dataPath hstop (fun p hend hvalue => ⟨by omega, ?_⟩) h
    obtain ⟨q, hreach, hq⟩ := hvalue
    have hstop' := hend.trans_lt hstop
    have hle := le_of_dataReach hstop' (headEnd_le_valueEnd buffer p) hreach
    obtain rfl : q = valueEnd buffer p := le_antisymm hle hq
    obtain ⟨l', hl'⟩ := Loop.exists_path hreach
    exact ⟨l'.length, ih hstop' (by omega) hl'⟩

/-! ### The result -/

/-- The parser returns a count or -1. -/
lemma parseAlldataRoom_cases {fuel : ℕ} {r : ℤ} (hstop : stop ≤ 2 ^ 31)
    (h : (parseAlldataRoom buffer fuel room pos stop).val = some r) : r = -1 ∨ 0 ≤ r := by
  cases room with
  | zero => exact .inl (Option.some.inj h).symm
  | succ room =>
    refine Loop.run_post (fun s => 0 ≤ s.2) (fun r => r = -1 ∨ 0 ≤ r) ?_ fuel (pos, 0) le_rfl r h
    rintro ⟨p, num⟩ hnum
    cases hr : (alldataRound buffer (parseAlldataRoom buffer fuel room) stop (p, num)).val with
    | hang => trivial
    | done r' =>
      rcases alldataRound_done hstop hr with ⟨_, rfl⟩ | ⟨_, rfl⟩
      · exact .inr hnum
      · exact .inl rfl
    | next s' =>
      obtain rfl := alldataRound_next hstop hr
      exact Int.add_nonneg hnum (by decide)

/-- `parse_alldata` returns from every buffer: the number of entries that tile the range if there
are such, and else -1. -/
theorem parse_alldata_counts_tilings (buffer : Ptr) (pos stop depth : ℕ) (hpos : pos ≤ stop)
    (hstop : stop < 2 ^ 30) (hdepth : depth ≤ MAX_DATA_DEPTH) :
    ∃ r : ℤ, (∃ f, ∀ fuel, f ≤ fuel → (parseAlldata buffer fuel pos stop depth).val = some r) ∧
      (∀ n : ℕ, r = n ↔ TiledBy buffer depth pos stop n) ∧
      ((∀ n, ¬ TiledBy buffer depth pos stop n) → r = -1) := by
  obtain ⟨room, hroom⟩ : ∃ room, depth + room = MAX_DATA_DEPTH := ⟨_, Nat.add_sub_cancel' hdepth⟩
  have hle : stop ≤ 2 ^ 31 := by omega
  have hparse : ∀ fuel, parseAlldata buffer fuel pos stop depth =
      parseAlldataRoom buffer fuel (room + 1) pos stop := fun fuel => by
    rw [parseAlldata, show MAX_DATA_DEPTH + 1 - depth = room + 1 by omega]
  obtain ⟨f, hf⟩ := (parseAlldataRoom_halts hle).mpr (dataEnds_of_lt hstop)
  obtain ⟨r, hr⟩ := Option.isSome_iff_exists.mp hf
  have hcount : ∀ l, Loop.Path (DataStep buffer (Tiled buffer room) stop) pos l stop →
      r = l.length := fun l hl => by
    obtain ⟨f', hf'⟩ := parseAlldataRoom_of_path hle hl le_rfl
    have h1 := parseAlldataRoom_mono (le_max_left f f') hle hr
    have h2 := parseAlldataRoom_mono (le_max_right f f') hle hf'
    exact Option.some.inj (h1.symm.trans h2)
  have htiled : 0 ≤ r → ∃ n : ℕ, r = n ∧ TiledBy buffer depth pos stop n := fun hnonneg => by
    obtain ⟨q, hreach, hq⟩ := (parseAlldataRoom_nonneg hle hr).mp hnonneg
    obtain rfl : q = stop := le_antisymm (le_of_dataReach hstop hpos hreach) hq
    obtain ⟨l, hl⟩ := Loop.exists_path hreach
    exact ⟨l.length, hcount l hl, tiledBy_of_path hstop hroom hl⟩
  refine ⟨r, ⟨f, fun fuel hfuel => ?_⟩, fun n => ⟨?_, fun h => ?_⟩, fun hnone => ?_⟩
  · rw [hparse]
    exact parseAlldataRoom_mono hfuel hle hr
  · rintro rfl
    obtain ⟨k, hk, h⟩ := htiled (Int.natCast_nonneg n)
    rwa [Int.natCast_inj.mp hk]
  · obtain ⟨l, hl, rfl⟩ := h.exists_path hstop hroom
    exact hcount l hl
  · rcases parseAlldataRoom_cases hle hr with hneg | hnonneg
    · exact hneg
    · obtain ⟨n, _, h⟩ := htiled hnonneg
      exact absurd h (hnone n)

/-- An array of two Booleans, and an integer. -/
theorem parse_alldata_counts_tilings_sample :
    ∃ f, ∀ fuel, f ≤ fuel →
      (parseAlldata (.ofBytes [0xA1, 6, 0x83, 1, 0, 0x83, 1, 1, 0x85, 1, 5]) fuel 0 11 0).val =
        some 2 := by
  obtain ⟨r, hf, hr, _⟩ := parse_alldata_counts_tilings
    (.ofBytes [0xA1, 6, 0x83, 1, 0, 0x83, 1, 1, 0x85, 1, 5]) 0 11 0 (by decide) (by decide)
    (by decide)
  have hvalue : TiledBy (.ofBytes [0xA1, 6, 0x83, 1, 0, 0x83, 1, 1, 0x85, 1, 5]) 1 2 8 2 :=
    .leaf (by decide) (by decide) (by decide) (.leaf (by decide) (by decide) (by decide) (.nil 1 8))
  have htwo := (hr 2).mpr (.nested (by decide) (by decide) (by decide) (by decide) hvalue
    (.leaf (by decide) (by decide) (by decide) (.nil 0 11)))
  rwa [htwo] at hf

end ProcessBus
