import ProcessBus.Parser.Goose.Chain

/-!
# When the GOOSE walk returns

The only guard of the walk compares cursors modulo `2 ^ 32`, so a length with its top bit set moves
the cursor back, and a frame can be made on which the walk goes round for ever. It returns exactly
when none of the chains of `Chain` comes back to a position it went through.
-/

namespace ProcessBus

open Relation

variable {buffer : Ptr} {skipTag : ℕ → Traced Event Unit} {size fuel p q : ℕ} {s s' : ℕ × GooseWalk}

/-- No position recurs: not on the top level from `start` on, and not in the sequences, sets and
datasets met there. -/
def WalkEnds (buffer : Ptr) (size start : ℕ) : Prop :=
  ¬ Loop.Recurs (TopStep buffer size) start ∧
  ∀ p, ReflTransGen (TopStep buffer size) start p → ItemAt buffer size p →
    (tagAt buffer p = 0xAB →
      DataEnds buffer (MAX_DATA_DEPTH + 1) (headEnd buffer p) (elemEnd buffer p)) ∧
    (tagAt buffer p = 0x30 ∨ tagAt buffer p = 0x31 →
      ¬ Loop.Recurs (SkipStep buffer (elemEnd buffer p)) (headEnd buffer p))

/-! ### Chains that come to their end -/

lemma DataStep.rightUnique {ok : ℕ → ℕ → Prop} {stop : ℕ} :
    Relator.RightUnique (DataStep buffer ok stop) :=
  fun _ _ _ h h' => h.2.2.trans h'.2.2.symm

lemma SkipStep.rightUnique {stop : ℕ} : Relator.RightUnique (SkipStep buffer stop) :=
  fun _ _ _ h h' => h.2.trans h'.2.symm

/-- Entries that lead up to the end do not recur, nor do those inside them. -/
lemma Tiled.dataEnds {room pos stop : ℕ} (h : Tiled buffer room pos stop) :
    DataEnds buffer room pos stop := by
  induction room generalizing pos stop with
  | zero => trivial
  | succ room ih =>
    obtain ⟨q, hreach, hq⟩ := h
    have hend : ∀ c, ¬ DataStep buffer (Tiled buffer room) stop q c := fun c hc => by
      have := hc.1.1
      omega
    refine ⟨?_, fun p hp hentry hnested => ih ?_⟩
    · rintro ⟨b, hb, hloop⟩
      exact Loop.not_transGen_self (Loop.acc_of_terminal DataStep.rightUnique
        (Loop.reaches_terminal DataStep.rightUnique hreach hb hend) hend) hloop
    · -- `p` is not the last position, so the chain steps over it
      rcases (Loop.reaches_terminal DataStep.rightUnique hreach hp hend).cases_head with
        rfl | ⟨c, hc, _⟩
      · have := hentry.1
        omega
      · exact hc.2.1 hnested

lemma Tiled.exists_some {room pos stop : ℕ} (hstop : stop ≤ 2 ^ 31)
    (h : Tiled buffer room pos stop) :
    ∃ f r, (parseAlldataRoom buffer f room pos stop).val = some r ∧ 0 ≤ r := by
  obtain ⟨f, hf⟩ := (parseAlldataRoom_halts hstop).mpr h.dataEnds
  obtain ⟨r, hr⟩ := Option.isSome_iff_exists.mp hf
  exact ⟨f, r, hr, (parseAlldataRoom_nonneg hstop hr).mpr h⟩

/-- A step from entry to entry is made by a round with enough room for the value inside it. -/
lemma DataStep.exists_next {room stop : ℕ} (hstop : stop ≤ 2 ^ 31)
    (h : DataStep buffer (Tiled buffer room) stop p q) (num : ℤ) :
    ∃ f, (alldataRound buffer (parseAlldataRoom buffer f room) stop (p, num)).val =
      .next (q, num + 1) := by
  obtain ⟨hentry, hnested, rfl⟩ := h
  have hpos : p < stop := by have := hentry.1; omega
  by_cases hn : IsNested buffer p
  · obtain ⟨f, r, hr, hnonneg⟩ := (hnested hn).exists_some (hentry.2.2.trans hstop)
    refine ⟨f, ?_⟩
    rw [val_alldataRound hstop, if_pos hpos, if_pos hentry, if_pos hn, Loop.val_inner_some hr,
      if_neg (Int.not_lt.mpr hnonneg), Traced.val_pure]
  · exact ⟨0, by rw [val_alldataRound hstop, if_pos hpos, if_pos hentry, if_neg hn]⟩

lemma SkipTo.exists_some (tag : ℕ → Traced Event Unit) {pos stop : ℕ} (hstop : stop ≤ 2 ^ 31)
    (h : SkipTo buffer stop pos q) :
    ∃ f, (Loop.run (skipRound buffer tag stop) f pos).val = some q := by
  have hend : ∀ c, ¬ SkipStep buffer stop q c := fun c hc => absurd hc.1 (Nat.not_lt.mpr h.2)
  have hrec : ¬ Loop.Recurs (SkipStep buffer stop) pos := by
    rintro ⟨b, hb, hloop⟩
    exact Loop.not_transGen_self (Loop.acc_of_terminal SkipStep.rightUnique
      (Loop.reaches_terminal SkipStep.rightUnique h.1 hb hend) hend) hloop
  obtain ⟨f, hf⟩ := (skip_run_halts tag hstop).mpr hrec
  obtain ⟨p, hp⟩ := Option.isSome_iff_exists.mp hf
  exact ⟨f, (val_skip_run hstop hp).mp h ▸ hp⟩

/-! ### One round -/

/-- A round that is finished goes on exactly along `TopStep`. -/
lemma gooseRound_next_iff (hsize : size ≤ 2 ^ 31)
    (hhang : (gooseRound buffer skipTag size fuel s).val ≠ .hang) :
    (∃ s', (gooseRound buffer skipTag size fuel s).val = .next s' ∧ s'.1 = q) ↔
      TopStep buffer size s.1 q := by
  rw [val_gooseRound hsize] at hhang ⊢
  unfold TopStep
  by_cases hitem : ItemAt buffer size s.1
  · have hstop : elemEnd buffer s.1 ≤ 2 ^ 31 := hitem.2.1.trans hsize
    simp only [if_pos hitem.1, if_pos hitem] at hhang ⊢
    simp only [hitem, true_and]
    split_ifs at hhang ⊢ with hdata hseq hctx
    · cases hr : (parseAlldata buffer fuel (headEnd buffer s.1) (elemEnd buffer s.1) 0).val with
      | none => exact absurd (Loop.val_inner_none hr) hhang
      | some num =>
        rw [Loop.val_inner_some hr, Traced.val_ite]
        have hnonneg := parseAlldataRoom_nonneg hstop hr
        rw [Nat.sub_zero] at hnonneg
        split_ifs with hneg
        · simp [← hnonneg, hneg]
        · simp [← hnonneg, Int.not_lt.mp hneg, eq_comm]
    · cases hr : (Loop.run (skipRound buffer skipTag (elemEnd buffer s.1)) fuel
          (headEnd buffer s.1)).val with
      | none => exact absurd (Loop.val_inner_none hr) hhang
      | some pos =>
        rw [Loop.val_inner_some hr, val_skip_run hstop hr]
        simp [eq_comm]
    · simp [eq_comm]
    · simp [eq_comm]
  · simp only [hitem, false_and, iff_false, if_false]
    split_ifs <;> simp

/-- What keeps a round from being finished: one of the loops inside it. -/
lemma gooseRound_ne_hang_iff (hsize : size ≤ 2 ^ 31) :
    (gooseRound buffer skipTag size fuel s).val ≠ .hang ↔ (ItemAt buffer size s.1 →
      (tagAt buffer s.1 = 0xAB →
        (parseAlldata buffer fuel (headEnd buffer s.1) (elemEnd buffer s.1) 0).val.isSome) ∧
      (tagAt buffer s.1 = 0x30 ∨ tagAt buffer s.1 = 0x31 →
        (Loop.run (skipRound buffer skipTag (elemEnd buffer s.1)) fuel
          (headEnd buffer s.1)).val.isSome)) := by
  rw [val_gooseRound hsize]
  by_cases hitem : ItemAt buffer size s.1
  · simp only [if_pos hitem.1, hitem, if_true, forall_const]
    by_cases hdata : tagAt buffer s.1 = 0xAB
    · simp only [hdata, if_true, forall_const]
      cases hr : (parseAlldata buffer fuel (headEnd buffer s.1) (elemEnd buffer s.1) 0).val with
      | none => simp [Loop.val_inner_none hr]
      | some num =>
        rw [Loop.val_inner_some hr, Traced.val_ite]
        split_ifs <;> simp
    · by_cases hseq : tagAt buffer s.1 = 0x30 ∨ tagAt buffer s.1 = 0x31
      · simp only [hdata, hseq, if_true, if_false, forall_const, false_implies, true_and]
        cases hr : (Loop.run (skipRound buffer skipTag (elemEnd buffer s.1)) fuel
            (headEnd buffer s.1)).val with
        | none => simp [Loop.val_inner_none hr]
        | some pos => simp [Loop.val_inner_some hr]
      · simp only [hdata, hseq, if_false, false_implies, and_self, iff_true]
        split_ifs <;> simp
  · simp only [hitem, if_false, false_implies, iff_true]
    split_ifs <;> simp

/-- More rounds for the loops inside do not change a finished round. -/
lemma gooseRound_mono {f g : ℕ} (hsize : size ≤ 2 ^ 31) (hfg : f ≤ g)
    (h : (gooseRound buffer skipTag size f s).val ≠ .hang) :
    (gooseRound buffer skipTag size g s).val = (gooseRound buffer skipTag size f s).val := by
  have hloops := (gooseRound_ne_hang_iff hsize).mp h
  rw [val_gooseRound hsize, val_gooseRound hsize]
  by_cases hitem : ItemAt buffer size s.1
  · obtain ⟨hdataLoop, hseqLoop⟩ := hloops hitem
    rw [if_pos hitem.1, if_pos hitem.1, if_pos hitem, if_pos hitem]
    by_cases hdata : tagAt buffer s.1 = 0xAB
    · obtain ⟨num, hnum⟩ := Option.isSome_iff_exists.mp (hdataLoop hdata)
      have hnum' : (parseAlldata buffer g (headEnd buffer s.1) (elemEnd buffer s.1) 0).val =
          some num := parseAlldataRoom_mono hfg (hitem.2.1.trans hsize) hnum
      rw [if_pos hdata, if_pos hdata, Loop.val_inner_some hnum, Loop.val_inner_some hnum']
    · rw [if_neg hdata, if_neg hdata]
      by_cases hseq : tagAt buffer s.1 = 0x30 ∨ tagAt buffer s.1 = 0x31
      · obtain ⟨pos, hpos⟩ := Option.isSome_iff_exists.mp (hseqLoop hseq)
        rw [if_pos hseq, if_pos hseq, Loop.val_inner_some hpos,
          Loop.val_inner_some (Loop.run_mono (fun _ _ => rfl) hfg hpos)]
      · rw [if_neg hseq, if_neg hseq]
  · rw [if_neg hitem, if_neg hitem]

variable (skipTag) in
/-- A step of the chain is made by a round with enough room for the loops inside it. -/
lemma TopStep.exists_next (hsize : size ≤ 2 ^ 31) (h : TopStep buffer size s.1 q) :
    ∃ f s', (gooseRound buffer skipTag size f s).val = .next s' ∧ s'.1 = q := by
  suffices ∃ f, (gooseRound buffer skipTag size f s).val ≠ .hang by
    obtain ⟨f, hf⟩ := this
    exact ⟨f, (gooseRound_next_iff hsize hf).mpr h⟩
  obtain ⟨hitem, hq⟩ := h
  have hstop := hitem.2.1.trans hsize
  by_cases hdata : tagAt buffer s.1 = 0xAB
  · rw [if_pos hdata] at hq
    obtain ⟨f, r, hr, _⟩ := hq.1.exists_some hstop
    refine ⟨f, (gooseRound_ne_hang_iff hsize).mpr fun _ => ⟨fun _ => ?_, fun h => ?_⟩⟩
    · exact Option.isSome_iff_exists.mpr ⟨r, hr⟩
    · rw [hdata] at h
      exact absurd h (by decide)
  · rw [if_neg hdata] at hq
    by_cases hseq : tagAt buffer s.1 = 0x30 ∨ tagAt buffer s.1 = 0x31
    · rw [if_pos hseq] at hq
      obtain ⟨f, hf⟩ := hq.exists_some skipTag hstop
      exact ⟨f, (gooseRound_ne_hang_iff hsize).mpr fun _ =>
        ⟨fun h => absurd h hdata, fun _ => Option.isSome_iff_exists.mpr ⟨q, hf⟩⟩⟩
    · exact ⟨0, (gooseRound_ne_hang_iff hsize).mpr fun _ =>
        ⟨fun h => absurd h hdata, fun h => absurd h hseq⟩⟩

lemma TopStep.lt (hsize : size ≤ 2 ^ 31) (h : TopStep buffer size p q) : q < 2 ^ 32 := by
  obtain ⟨hitem, hq⟩ := h
  split_ifs at hq
  · exact hq.2 ▸ u32_lt _
  · -- the inner loop leaves at its last cursor, or at once behind the head
    rcases hq.1.cases_tail with rfl | ⟨c, _, hstep⟩
    · have := headEnd_le buffer p
      have := hitem.1
      omega
    · exact hstep.lt
  · exact hq ▸ u32_lt _
  · exact hq ▸ u32_lt _

/-! ### The walk -/

variable (skipTag) in
/-- The walk returns exactly where no position recurs. -/
theorem gooseWalk_halts (hsize : size ≤ 2 ^ 31) (s : ℕ × GooseWalk) :
    (∃ f, (gooseWalk buffer skipTag size f s).val.isSome) ↔ WalkEnds buffer size s.1 := by
  have hacc := Loop.acc_iff_not_recurs
    (finite_reach_of_lt (R := TopStep buffer size) (fun _ _ h => h.lt hsize) s.1)
  constructor
  · rintro ⟨f, hf⟩
    have hlift : ∀ t : ℕ × GooseWalk, (gooseRound buffer skipTag size f t).val ≠ .hang →
        ∀ k, TopStep buffer size t.1 k →
          ∃ t', (gooseRound buffer skipTag size f t).val = .next t' ∧ t'.1 = k :=
      fun t hhang k hk => (gooseRound_next_iff hsize hhang).mpr hk
    refine ⟨hacc.mp (Loop.acc_of_halts Prod.fst hlift hf), fun p hreach hitem => ?_⟩
    obtain ⟨t, rfl, hhang⟩ := Loop.exists_state_of_halts Prod.fst hlift hf hreach
    obtain ⟨hdata, hseq⟩ := (gooseRound_ne_hang_iff hsize).mp hhang hitem
    have hstop := hitem.2.1.trans hsize
    exact ⟨fun h => (parseAlldataRoom_halts hstop).mp ⟨f, hdata h⟩,
      fun h => (skip_run_halts skipTag hstop).mp ⟨f, hseq h⟩⟩
  · rintro ⟨hrec, hloops⟩
    refine Loop.halts_of_acc (R := TopStep buffer size) Prod.fst
      (fun f => gooseRound buffer skipTag size f)
      (fun t => ReflTransGen (TopStep buffer size) s.1 t.1)
      (fun hfg hhang => gooseRound_mono hsize hfg hhang) ?_ ?_ .refl (hacc.mpr hrec)
    · intro t hreach
      by_cases hitem : ItemAt buffer size t.1
      · obtain ⟨hdata, hseq⟩ := hloops t.1 hreach hitem
        have hstop := hitem.2.1.trans hsize
        by_cases htag : tagAt buffer t.1 = 0xAB
        · obtain ⟨f, hf⟩ := (parseAlldataRoom_halts hstop).mpr (hdata htag)
          refine ⟨f, (gooseRound_ne_hang_iff hsize).mpr fun _ => ⟨fun _ => hf, fun h => ?_⟩⟩
          rw [htag] at h
          exact absurd h (by decide)
        · by_cases htag' : tagAt buffer t.1 = 0x30 ∨ tagAt buffer t.1 = 0x31
          · obtain ⟨f, hf⟩ := (skip_run_halts skipTag hstop).mpr (hseq htag')
            exact ⟨f, (gooseRound_ne_hang_iff hsize).mpr fun _ =>
              ⟨fun h => absurd h htag, fun _ => hf⟩⟩
          · exact ⟨0, (gooseRound_ne_hang_iff hsize).mpr fun _ =>
              ⟨fun h => absurd h htag, fun h => absurd h htag'⟩⟩
      · exact ⟨0, (gooseRound_ne_hang_iff hsize).mpr fun h => absurd h hitem⟩
    · intro t hreach f t' hr
      have hstep := (gooseRound_next_iff hsize (by simp [hr])).mp ⟨t', hr, rfl⟩
      exact ⟨hreach.tail hstep, hstep⟩

/-! ### The two parsers -/

/-- No position recurs in the frame, should it be one whose PDU is walked. -/
def GooseFrameEnds (buffer : Ptr) (size : Int32) : Prop :=
  64 ≤ size.toInt → ∀ pos, (l2Header buffer 0xB8).val = some pos →
    tagAt buffer (pos + 8) = 0x61 → WalkEnds buffer size.toInt.toNat (headEnd buffer (pos + 8))

/-- No position recurs in the APDU of a routable frame. -/
def GooseApduEnds (apdu : Ptr) (apduSize : Int32) : Prop :=
  2 ≤ apduSize.toInt → tagAt apdu 0 = 0x61 →
    WalkEnds apdu apduSize.toInt.toNat (headEnd apdu 0)

lemma toInt_toNat_le (size : Int32) : size.toInt.toNat ≤ 2 ^ 31 := by
  have := size.toInt_lt
  omega

lemma l2Header_cases (buffer : Ptr) (ty : UInt8) : (l2Header buffer ty).val = none ∨
    (l2Header buffer ty).val = some 18 ∨ (l2Header buffer ty).val = some 14 := by
  simp only [l2Header, Traced.val_bind, Traced.val_ite, Traced.val_pure]
  split_ifs <;> simp

lemma l2Header_le {ty : UInt8} {pos : ℕ} (h : (l2Header buffer ty).val = some pos) : pos ≤ 18 := by
  rcases l2Header_cases buffer ty with h' | h' | h' <;> rw [h'] at h <;> cases h <;> decide

/-- What the walk of a frame starts with: its destination and APPID are known. -/
def gooseStart (buffer : Ptr) (passport : GoosePassport) (state : GooseState) (pos : ℕ) :
    GooseWalk where
  passport := { passport with
    dmac := (MAC.read buffer).val
    appid := UInt16.ofNat (beNat (buffer.mem.slice (buffer.off + pos) 2)) }
  state := state

/-- Up to the walk the L2 parser has no loop. -/
lemma val_parseGoosePacket {pos : ℕ} {size : Int32} {passport : GoosePassport} {state : GooseState}
    (hsize : 64 ≤ size.toInt) (hpos : (l2Header buffer 0xB8).val = some pos)
    (htag : tagAt buffer (pos + 8) = 0x61) :
    (parseGoosePacket fuel buffer size passport state).val =
      (gooseWalk buffer (readTag buffer) size.toInt.toNat fuel
        (headEnd buffer (pos + 8), gooseStart buffer passport state pos)).val := by
  have hle := l2Header_le hpos
  have hhead := val_decodeAsn1Len buffer (pos + 9) (by omega)
  unfold tagAt at htag
  simp only [parseGoosePacket, if_neg (Int.not_lt.mpr hsize), Traced.val_bind, hpos, Ptr.val_load,
    Ptr.val_get, htag, hhead, ne_eq, not_true, if_false]
  rfl

/-- Nor has the routable one. -/
lemma val_parseGooseApdu {apdu : Ptr} {apduSize : Int32} {passport : GoosePassport}
    {state : GooseState} (hsize : 2 ≤ apduSize.toInt) (htag : tagAt apdu 0 = 0x61) :
    (parseGooseApdu fuel apdu apduSize passport state).val =
      (gooseWalk apdu (fun _ => pure ()) apduSize.toInt.toNat fuel
        (headEnd apdu 0, { passport := passport, state := state })).val := by
  have hhead := val_decodeAsn1Len apdu 1 (by omega)
  unfold tagAt at htag
  simp only [parseGooseApdu, if_neg (Int.not_lt.mpr hsize), Traced.val_bind, Ptr.val_get,
    htag, hhead, ne_eq, not_true, if_false]
  rfl

/-- The L2 parser returns exactly on the frames in which no position recurs. -/
lemma parseGoosePacket_halts (buffer : Ptr) (size : Int32) (passport : GoosePassport)
    (state : GooseState) :
    (∃ fuel, (parseGoosePacket fuel buffer size passport state).val.isSome) ↔
      GooseFrameEnds buffer size := by
  by_cases hsize : 64 ≤ size.toInt
  · by_cases hwalk : ∃ pos, (l2Header buffer 0xB8).val = some pos ∧ tagAt buffer (pos + 8) = 0x61
    · obtain ⟨pos, hpos, htag⟩ := hwalk
      simp only [val_parseGoosePacket hsize hpos htag, gooseWalk_halts _ (toInt_toNat_le size)]
      constructor
      · intro hends _ pos' hpos' _
        obtain rfl : pos = pos' := Option.some.inj (hpos.symm.trans hpos')
        exact hends
      · exact fun h => h hsize pos hpos htag
    · refine iff_of_true ⟨0, ?_⟩ fun _ pos hpos htag => absurd ⟨pos, hpos, htag⟩ hwalk
      simp only [parseGoosePacket, if_neg (Int.not_lt.mpr hsize), Traced.val_bind]
      cases hpos : (l2Header buffer 0xB8).val with
      | none => rfl
      | some pos =>
        have htag : ¬ buffer.mem (buffer.off + (pos + 8)) = 0x61 :=
          fun htag => hwalk ⟨pos, hpos, htag⟩
        simp [htag]
  · refine iff_of_true ⟨0, ?_⟩ fun h => absurd h hsize
    simp [parseGoosePacket, Int.not_le.mp hsize]

/-- The routable parser returns exactly on the APDUs in which no position recurs. -/
lemma parseGooseApdu_halts (apdu : Ptr) (apduSize : Int32) (passport : GoosePassport)
    (state : GooseState) :
    (∃ fuel, (parseGooseApdu fuel apdu apduSize passport state).val.isSome) ↔
      GooseApduEnds apdu apduSize := by
  by_cases hsize : 2 ≤ apduSize.toInt
  · by_cases htag : tagAt apdu 0 = 0x61
    · simp only [val_parseGooseApdu hsize htag, gooseWalk_halts _ (toInt_toNat_le apduSize)]
      exact ⟨fun hends _ _ => hends, fun h => h hsize htag⟩
    · refine iff_of_true ⟨0, ?_⟩ fun _ h => absurd h htag
      have htag' : ¬ apdu.mem apdu.off = 0x61 := htag
      simp [parseGooseApdu, Int.not_lt.mpr hsize, htag']
  · refine iff_of_true ⟨0, ?_⟩ fun h => absurd h hsize
    simp [parseGooseApdu, Int.not_le.mp hsize]

/-- Both parsers return exactly where no position of their walk recurs. -/
theorem gooseParsers_return_iff (passport : GoosePassport) (state : GooseState) :
    (∀ buffer size, (∃ fuel, (parseGoosePacket fuel buffer size passport state).val.isSome) ↔
      GooseFrameEnds buffer size) ∧
    (∀ apdu apduSize, (∃ fuel, (parseGooseApdu fuel apdu apduSize passport state).val.isSome) ↔
      GooseApduEnds apdu apduSize) :=
  ⟨fun buffer size => parseGoosePacket_halts buffer size passport state,
    fun apdu apduSize => parseGooseApdu_halts apdu apduSize passport state⟩

/-- A frame of 64 bytes. The element at 24 declares the length -6, which leads back to 24. -/
def backwardFrame : Ptr := .ofBytes
  ([0x01, 0x0C, 0xCD, 0x01, 0, 0, 0, 0, 0, 0, 0, 0, 0x88, 0xB8, 0, 1, 0, 50, 0, 0, 0, 0] ++
    [0x61, 40, 0x81, 0x84, 0xFF, 0xFF, 0xFF, 0xFA] ++ List.replicate 34 0)

lemma topStep_backwardFrame : TopStep backwardFrame 64 24 24 := by
  refine ⟨by decide, ?_⟩
  rw [if_neg (by decide), if_neg (by decide), if_neg (by decide)]
  decide

/-- The parser does not return from `backwardFrame`, nor from its PDU as a routable APDU. -/
theorem gooseParsers_do_not_return :
    (64 ≤ (64 : Int32).toInt ∧
      ¬ ∃ fuel, (parseGoosePacket fuel backwardFrame 64 {} {}).val.isSome) ∧
    ¬ ∃ fuel, (parseGooseApdu fuel (backwardFrame.add 22) 42 {} {}).val.isSome := by
  refine ⟨⟨by decide, fun h => ?_⟩, fun h => ?_⟩
  · have hends := (parseGoosePacket_halts _ _ _ _).mp h (by decide) 14 (by decide) (by decide)
    exact hends.1 ⟨24, .refl, .single topStep_backwardFrame⟩
  · have hends := (parseGooseApdu_halts _ _ _ _).mp h (by decide) (by decide)
    refine hends.1 ⟨2, .refl, .single ⟨by decide, ?_⟩⟩
    rw [if_neg (by decide), if_neg (by decide), if_neg (by decide)]
    decide

end ProcessBus
