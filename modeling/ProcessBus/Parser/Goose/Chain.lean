import ProcessBus.Parser.Goose.Basic

/-!
# The chains of element positions behind the GOOSE walk

Where the walk goes next is decided by the bytes at its cursor alone, whatever it has found so
far. The relations below say so: `TopStep` leads from the position of one top-level tag to the
next, `SkipStep` does inside a sequence or set, `DataStep` inside allData. They are read off the
positions arithmetic of the walk, and the rounds of its loops are characterised by them.
-/

namespace ProcessBus

open Relation

variable (buffer : Ptr)

/-! ### Heads with wrapping cursors -/

/-- The cursor behind the element at `p`. -/
def elemEnd (p : ℕ) : ℕ := u32 (headEnd buffer p + headLen buffer p)

variable {buffer} {p q pos stop size n : ℕ}

variable (buffer) in
lemma val_head (h : p < 2 ^ 31) :
    (decodeAsn1Len buffer (u32 (p + 1))).val = (headLen buffer p, headEnd buffer p) := by
  rw [u32_of_lt (by omega), val_decodeAsn1Len _ _ (by omega)]
  rfl

/-! ### allData -/

/-- The head of the entry at `p` and its value end before `stop`. -/
def EntryAt (buffer : Ptr) (stop p : ℕ) : Prop :=
  p + 1 < stop ∧ headLen buffer p < 2 ^ 31 ∧ elemEnd buffer p ≤ stop

/-- The entry at `p` is an array or a structure. -/
def IsNested (buffer : Ptr) (p : ℕ) : Prop := tagAt buffer p = 0xA1 ∨ tagAt buffer p = 0xA2

instance : Decidable (EntryAt buffer stop p) := inferInstanceAs (Decidable (_ ∧ _ ∧ _))

instance : Decidable (IsNested buffer p) := inferInstanceAs (Decidable (_ ∨ _))

/-- From the entry at `p` on to the next; `ok` says of a nested value that it is well formed. -/
def DataStep (buffer : Ptr) (ok : ℕ → ℕ → Prop) (stop p q : ℕ) : Prop :=
  EntryAt buffer stop p ∧ (IsNested buffer p → ok (headEnd buffer p) (elemEnd buffer p)) ∧
    q = elemEnd buffer p

/-- The entries from `pos` on lead up to `stop`, with at most `room` levels of nesting. -/
def Tiled (buffer : Ptr) : ℕ → ℕ → ℕ → Prop
  | 0, _, _ => False
  | room + 1, pos, stop =>
    ∃ q, ReflTransGen (DataStep buffer (Tiled buffer room) stop) pos q ∧ stop ≤ q

/-- No entry position recurs, on this level or on those below. -/
def DataEnds (buffer : Ptr) : ℕ → ℕ → ℕ → Prop
  | 0, _, _ => True
  | room + 1, pos, stop =>
    ¬ Loop.Recurs (DataStep buffer (Tiled buffer room) stop) pos ∧
    ∀ p, ReflTransGen (DataStep buffer (Tiled buffer room) stop) pos p → EntryAt buffer stop p →
      IsNested buffer p → DataEnds buffer room (headEnd buffer p) (elemEnd buffer p)

section Alldata

variable {nested : ℕ → ℕ → Traced Event (Option ℤ)} {num : ℤ}

/-- One round, in terms of the element at the cursor. -/
lemma val_alldataRound (hstop : stop ≤ 2 ^ 31) :
    (alldataRound buffer nested stop (pos, num)).val =
      if pos < stop then
        if EntryAt buffer stop pos then
          if IsNested buffer pos then
            (Loop.inner (nested (headEnd buffer pos) (elemEnd buffer pos)) fun n =>
              if n < 0 then pure (.done (-1)) else pure (.next (elemEnd buffer pos, num + 1))).val
          else .next (elemEnd buffer pos, num + 1)
        else .done (-1)
      else .done num := by
  by_cases hpos : pos < stop
  · have hhead := val_head buffer (show pos < 2 ^ 31 by omega)
    have hpos1 : u32 (pos + 1) = pos + 1 := u32_of_lt (by omega)
    rw [hpos1] at hhead
    simp only [alldataRound, if_pos hpos, hpos1, Traced.val_bind, Ptr.val_get, Traced.val_ite,
      hhead, Traced.val_pure]
    by_cases hentry : EntryAt buffer stop pos
    · obtain ⟨h1, h2, h3⟩ := id hentry
      rw [if_pos hentry, if_neg (by omega), if_neg (by unfold elemEnd at h3; omega)]
      rfl
    · rw [if_neg hentry]
      split_ifs with h1 h2 <;> try rfl
      all_goals
        exact absurd ⟨by omega, by omega, by unfold elemEnd; omega⟩ hentry
  · simp [alldataRound, hpos]

/-- The entry at the cursor is left for the next one exactly along `DataStep`. -/
lemma alldataRound_next_iff {ok : ℕ → ℕ → Prop} (hstop : stop ≤ 2 ^ 31)
    (hhang : (alldataRound buffer nested stop (pos, num)).val ≠ .hang)
    (hok : EntryAt buffer stop pos → ∀ n,
      (nested (headEnd buffer pos) (elemEnd buffer pos)).val = some n →
      (0 ≤ n ↔ ok (headEnd buffer pos) (elemEnd buffer pos))) :
    (alldataRound buffer nested stop (pos, num)).val = .next (q, num + 1) ↔
      DataStep buffer ok stop pos q := by
  rw [val_alldataRound hstop] at hhang ⊢
  unfold DataStep
  by_cases hpos : pos < stop
  · rw [if_pos hpos] at hhang ⊢
    by_cases hentry : EntryAt buffer stop pos
    · rw [if_pos hentry] at hhang ⊢
      by_cases hn : IsNested buffer pos
      · rw [if_pos hn] at hhang ⊢
        cases hr : (nested (headEnd buffer pos) (elemEnd buffer pos)).val with
        | none => exact absurd (Loop.val_inner_none hr) hhang
        | some n =>
          have hok := hok hentry n hr
          rw [Loop.val_inner_some hr, Traced.val_ite]
          split_ifs with hneg
          · simp [hentry, hn, ← hok, hneg]
          · simp [hentry, ← hok, Int.not_lt.mp hneg, eq_comm]
      · simp [hentry, hn, eq_comm]
    · simp [hentry]
  · have : ¬ EntryAt buffer stop pos := fun h => by have := h.1; omega
    simp [hpos, this]

/-- A round that goes on has counted one entry. -/
lemma alldataRound_next {s' : ℕ × ℤ} (hstop : stop ≤ 2 ^ 31)
    (h : (alldataRound buffer nested stop (pos, num)).val = .next s') :
    s' = (elemEnd buffer pos, num + 1) := by
  rw [val_alldataRound hstop] at h
  split_ifs at h with hpos hentry hn
  · cases hr : (nested (headEnd buffer pos) (elemEnd buffer pos)).val with
    | none => simp [Loop.val_inner_none hr] at h
    | some n =>
      rw [Loop.val_inner_some hr, Traced.val_ite] at h
      split_ifs at h
      · cases h
      · exact (Round.next.inj h).symm
  · exact (Round.next.inj h).symm

/-- A round that does not go on has reached the end or found a malformed entry. -/
lemma alldataRound_done {r : ℤ} (hstop : stop ≤ 2 ^ 31)
    (h : (alldataRound buffer nested stop (pos, num)).val = .done r) :
    (stop ≤ pos ∧ r = num) ∨ (pos < stop ∧ r = -1) := by
  rw [val_alldataRound hstop] at h
  split_ifs at h with hpos hentry hn
  · cases hr : (nested (headEnd buffer pos) (elemEnd buffer pos)).val with
    | none => simp [Loop.val_inner_none hr] at h
    | some n =>
      rw [Loop.val_inner_some hr, Traced.val_ite] at h
      split_ifs at h
      · exact .inr ⟨hpos, (Round.done.inj h).symm⟩
      · cases h
  · exact .inr ⟨hpos, (Round.done.inj h).symm⟩
  · exact .inl ⟨Nat.not_lt.mp hpos, (Round.done.inj h).symm⟩

/-- A nested call that gives up less often does not change a round. -/
lemma alldataRound_mono {nested' : ℕ → ℕ → Traced Event (Option ℤ)} (hstop : stop ≤ 2 ^ 31)
    (hnested : ∀ a b r, b ≤ 2 ^ 31 → (nested a b).val = some r → (nested' a b).val = some r)
    {s : ℕ × ℤ} (h : (alldataRound buffer nested stop s).val ≠ .hang) :
    (alldataRound buffer nested' stop s).val = (alldataRound buffer nested stop s).val := by
  obtain ⟨pos, num⟩ := s
  rw [val_alldataRound hstop] at h ⊢
  rw [val_alldataRound hstop]
  split_ifs at h ⊢ with hpos hentry hn <;> try rfl
  cases hr : (nested (headEnd buffer pos) (elemEnd buffer pos)).val with
  | none => exact absurd (Loop.val_inner_none hr) h
  | some k =>
    rw [Loop.val_inner_some hr, Loop.val_inner_some (hnested _ _ _ (hentry.2.2.trans hstop) hr)]

end Alldata

/-- The positions a chain of entries goes through are cursors. -/
lemma finite_reach_of_lt {R : ℕ → ℕ → Prop} (h : ∀ a b, R a b → b < 2 ^ 32) (a : ℕ) :
    {b | ReflTransGen R a b}.Finite := by
  refine ((Set.finite_lt_nat (2 ^ 32)).insert a).subset fun b hb => ?_
  rcases hb.cases_tail with rfl | ⟨c, _, hstep⟩
  · exact Set.mem_insert _ _
  · exact Set.mem_insert_of_mem _ (h c b hstep)

lemma DataStep.lt {ok : ℕ → ℕ → Prop} (h : DataStep buffer ok stop p q) : q < 2 ^ 32 :=
  h.2.2 ▸ u32_lt _

/-- `parse_alldata` counts exactly where the entries lead up to the end. -/
theorem parseAlldataRoom_nonneg {fuel room : ℕ} {r : ℤ} (hstop : stop ≤ 2 ^ 31)
    (h : (parseAlldataRoom buffer fuel room pos stop).val = some r) :
    0 ≤ r ↔ Tiled buffer room pos stop := by
  induction room generalizing pos stop r with
  | zero =>
    obtain rfl : -1 = r := by simpa [parseAlldataRoom] using h
    simp [Tiled]
  | succ room ih =>
    suffices ∀ n pos (num : ℤ), 0 ≤ num → (Loop.run (alldataRound buffer
        (parseAlldataRoom buffer fuel room) stop) n (pos, num)).val = some r →
        (0 ≤ r ↔ ∃ q, ReflTransGen (DataStep buffer (Tiled buffer room) stop) pos q ∧ stop ≤ q) from
      this fuel pos 0 le_rfl h
    intro n
    induction n with
    | zero => intro pos num _ h; simp at h
    | succ n ihn =>
      intro pos num hnum h
      have hok : EntryAt buffer stop pos → ∀ k,
          (parseAlldataRoom buffer fuel room (headEnd buffer pos) (elemEnd buffer pos)).val =
            some k → (0 ≤ k ↔ Tiled buffer room (headEnd buffer pos) (elemEnd buffer pos)) :=
        fun hentry k hk => ih (hentry.2.2.trans hstop) hk
      cases hr : (alldataRound buffer (parseAlldataRoom buffer fuel room) stop (pos, num)).val with
      | hang => simp [Loop.val_run_hang hr] at h
      | done r' =>
        have hnone : ∀ q, ¬ DataStep buffer (Tiled buffer room) stop pos q := fun q hq => by
          have hhang : (alldataRound buffer (parseAlldataRoom buffer fuel room) stop
              (pos, num)).val ≠ .hang := by simp [hr]
          have hnext := (alldataRound_next_iff hstop hhang hok).mpr hq
          simp [hr] at hnext
        obtain rfl : r' = r := by simpa [Loop.val_run_done hr] using h
        rcases alldataRound_done hstop hr with ⟨hend, rfl⟩ | ⟨hpos, rfl⟩
        · exact iff_of_true hnum ⟨pos, .refl, hend⟩
        · refine iff_of_false (by decide) ?_
          rintro ⟨q, hreach, hq⟩
          rcases hreach.cases_head with rfl | ⟨c, hc, _⟩
          · omega
          · exact hnone c hc
      | next s' =>
        obtain rfl := alldataRound_next hstop hr
        have hstep := (alldataRound_next_iff hstop (by simp [hr]) hok).mp hr
        rw [ihn _ _ (by omega) (Loop.val_run_next hr ▸ h)]
        constructor
        · rintro ⟨q, hreach, hq⟩
          exact ⟨q, .head hstep hreach, hq⟩
        · rintro ⟨q, hreach, hq⟩
          rcases hreach.cases_head with rfl | ⟨c, hc, hrest⟩
          · have := hstep.1.1
            omega
          · exact ⟨q, hc.2.2 ▸ hrest, hq⟩

/-- More rounds do not change the count. -/
lemma parseAlldataRoom_mono {f g room : ℕ} {r : ℤ} (hfg : f ≤ g) (hstop : stop ≤ 2 ^ 31)
    (h : (parseAlldataRoom buffer f room pos stop).val = some r) :
    (parseAlldataRoom buffer g room pos stop).val = some r := by
  induction room generalizing pos stop r with
  | zero => exact h
  | succ room ih =>
    exact Loop.run_mono (fun s hhang => alldataRound_mono hstop (fun _ _ _ hb hr => ih hb hr) hhang)
      hfg h

/-- `parse_alldata` returns exactly where no entry position recurs. -/
theorem parseAlldataRoom_halts {room : ℕ} (hstop : stop ≤ 2 ^ 31) :
    (∃ f, (parseAlldataRoom buffer f room pos stop).val.isSome) ↔
      DataEnds buffer room pos stop := by
  induction room generalizing pos stop with
  | zero => exact iff_of_true ⟨0, rfl⟩ trivial
  | succ room ih =>
    have hok : ∀ f p, EntryAt buffer stop p → ∀ k,
        (parseAlldataRoom buffer f room (headEnd buffer p) (elemEnd buffer p)).val = some k →
        (0 ≤ k ↔ Tiled buffer room (headEnd buffer p) (elemEnd buffer p)) :=
      fun f p hentry k hk => parseAlldataRoom_nonneg (hentry.2.2.trans hstop) hk
    have hacc := Loop.acc_iff_not_recurs
      (finite_reach_of_lt (R := DataStep buffer (Tiled buffer room) stop) (fun _ _ h => h.lt) pos)
    constructor
    · rintro ⟨f, hf⟩
      have hlift : ∀ s : ℕ × ℤ,
          (alldataRound buffer (parseAlldataRoom buffer f room) stop s).val ≠ .hang →
          ∀ k, DataStep buffer (Tiled buffer room) stop s.1 k → ∃ s',
            (alldataRound buffer (parseAlldataRoom buffer f room) stop s).val = .next s' ∧
              s'.1 = k := by
        rintro ⟨p, num⟩ hhang k hk
        exact ⟨_, (alldataRound_next_iff hstop hhang (hok f p)).mpr hk, rfl⟩
      refine ⟨hacc.mp (Loop.acc_of_halts Prod.fst hlift hf), fun p hreach hentry hn => ?_⟩
      obtain ⟨⟨_, num⟩, rfl, hhang⟩ := Loop.exists_state_of_halts Prod.fst hlift hf hreach
      refine (ih (hentry.2.2.trans hstop)).mp ⟨f, ?_⟩
      rw [val_alldataRound hstop, if_pos (by have := hentry.1; omega), if_pos hentry,
        if_pos hn] at hhang
      rw [Option.isSome_iff_ne_none]
      exact fun hr => hhang (Loop.val_inner_none hr)
    · rintro ⟨hrec, hnested⟩
      refine Loop.halts_of_acc (R := DataStep buffer (Tiled buffer room) stop) Prod.fst
        (fun f => alldataRound buffer (parseAlldataRoom buffer f room) stop)
        (fun s => ReflTransGen (DataStep buffer (Tiled buffer room) stop) pos s.1)
        ?_ ?_ ?_ .refl (hacc.mpr hrec)
      · intro f g s hfg hhang
        exact alldataRound_mono hstop (fun _ _ _ hb hr => parseAlldataRoom_mono hfg hb hr) hhang
      · rintro ⟨p, num⟩ hreach
        by_cases hn : EntryAt buffer stop p ∧ IsNested buffer p
        · obtain ⟨f, hf⟩ := (ih (hn.1.2.2.trans hstop)).mpr (hnested p hreach hn.1 hn.2)
          obtain ⟨r, hr⟩ := Option.isSome_iff_exists.mp hf
          refine ⟨f, ?_⟩
          rw [val_alldataRound hstop, if_pos (by have := hn.1.1; omega), if_pos hn.1, if_pos hn.2,
            Loop.val_inner_some hr, Traced.val_ite]
          split_ifs <;> simp
        · refine ⟨0, ?_⟩
          rw [val_alldataRound hstop]
          split_ifs with hpos hentry hnest
          · exact absurd ⟨hentry, hnest⟩ hn
          all_goals simp
      · rintro ⟨p, num⟩ hreach f s' hr
        obtain rfl := alldataRound_next hstop hr
        have hstep := (alldataRound_next_iff hstop (by simp [hr]) (hok f p)).mp hr
        exact ⟨hreach.tail hstep, hstep⟩

/-! ### Sequences and sets -/

/-- From one element inside a sequence or set to the next. Nothing is checked. -/
def SkipStep (buffer : Ptr) (stop p q : ℕ) : Prop := p < stop ∧ q = elemEnd buffer p

lemma SkipStep.lt (h : SkipStep buffer stop p q) : q < 2 ^ 32 := h.2 ▸ u32_lt _

/-- Where the inner loop leaves a sequence or set. -/
def SkipTo (buffer : Ptr) (stop pos q : ℕ) : Prop :=
  ReflTransGen (SkipStep buffer stop) pos q ∧ stop ≤ q

section Skip

variable {tag : ℕ → Traced Event Unit}

lemma val_skipRound (hstop : stop ≤ 2 ^ 31) :
    (skipRound buffer tag stop pos).val =
      if pos < stop then .next (elemEnd buffer pos) else .done pos := by
  by_cases hpos : pos < stop
  · have hhead := val_head buffer (show pos < 2 ^ 31 by omega)
    simp only [skipRound, if_pos hpos, Traced.val_bind, hhead, Traced.val_pure]
    rfl
  · simp [skipRound, hpos]

lemma skipRound_ne_hang (hstop : stop ≤ 2 ^ 31) : (skipRound buffer tag stop pos).val ≠ .hang := by
  rw [val_skipRound hstop]
  split_ifs <;> simp

lemma skipRound_next_iff (hstop : stop ≤ 2 ^ 31) :
    (skipRound buffer tag stop pos).val = .next q ↔ SkipStep buffer stop pos q := by
  rw [val_skipRound hstop]
  unfold SkipStep
  split_ifs with hpos <;> simp [hpos, eq_comm]

/-- The inner loop leaves where the chain first reaches the end. -/
theorem val_skip_run (hstop : stop ≤ 2 ^ 31) {fuel : ℕ}
    (h : (Loop.run (skipRound buffer tag stop) fuel pos).val = some p) :
    SkipTo buffer stop pos q ↔ q = p := by
  induction fuel generalizing pos with
  | zero => simp at h
  | succ n ih =>
    by_cases hpos : pos < stop
    · have hr : (skipRound buffer tag stop pos).val = .next (elemEnd buffer pos) := by
        rw [val_skipRound hstop, if_pos hpos]
      rw [← ih (Loop.val_run_next hr ▸ h)]
      constructor
      · rintro ⟨hreach, hq⟩
        rcases hreach.cases_head with rfl | ⟨c, hc, hrest⟩
        · omega
        · exact ⟨hc.2 ▸ hrest, hq⟩
      · rintro ⟨hreach, hq⟩
        exact ⟨.head ⟨hpos, rfl⟩ hreach, hq⟩
    · have hr : (skipRound buffer tag stop pos).val = .done pos := by
        rw [val_skipRound hstop, if_neg hpos]
      rw [Loop.val_run_done hr, Option.some.injEq] at h
      subst h
      constructor
      · rintro ⟨hreach, _⟩
        rcases hreach.cases_head with rfl | ⟨c, hc, _⟩
        · rfl
        · exact absurd hc.1 hpos
      · rintro rfl
        exact ⟨.refl, Nat.not_lt.mp hpos⟩

variable (tag) in
theorem skip_run_halts (hstop : stop ≤ 2 ^ 31) :
    (∃ f, (Loop.run (skipRound buffer tag stop) f pos).val.isSome) ↔
      ¬ Loop.Recurs (SkipStep buffer stop) pos := by
  rw [← Loop.acc_iff_not_recurs (finite_reach_of_lt (fun _ _ h => SkipStep.lt h) pos)]
  constructor
  · rintro ⟨f, hf⟩
    exact Loop.acc_of_halts id
      (fun p _ k hk => ⟨k, (skipRound_next_iff hstop).mpr hk, rfl⟩) hf
  · intro hacc
    exact Loop.halts_of_acc id (fun _ => skipRound buffer tag stop)
      (fun _ => True) (fun _ _ => rfl) (fun _ _ => ⟨0, skipRound_ne_hang hstop⟩)
      (fun _ _ _ _ hr => ⟨trivial, (skipRound_next_iff hstop).mp hr⟩) trivial hacc

end Skip

/-! ### Top-level elements -/

/-- There is an element at `p` whose length the walk accepts. -/
def ItemAt (buffer : Ptr) (size p : ℕ) : Prop :=
  p < size ∧ elemEnd buffer p ≤ size ∧ headLen buffer p ≠ 0

/-- Where an `0xA0` or `0xA1` leads: behind the length its content is taken for. -/
def contextEnd (buffer : Ptr) (p : ℕ) : ℕ := elemEnd buffer (headEnd buffer p - 1)

/-- From the top-level element at `p` to the next. -/
def TopStep (buffer : Ptr) (size p q : ℕ) : Prop :=
  ItemAt buffer size p ∧
    if tagAt buffer p = 0xAB then
      Tiled buffer (MAX_DATA_DEPTH + 1) (headEnd buffer p) (elemEnd buffer p) ∧ q = elemEnd buffer p
    else if tagAt buffer p = 0x30 ∨ tagAt buffer p = 0x31 then
      SkipTo buffer (elemEnd buffer p) (headEnd buffer p) q
    else if tagAt buffer p = 0xA0 ∨ tagAt buffer p = 0xA1 then
      q = contextEnd buffer p
    else
      q = elemEnd buffer p

instance : Decidable (ItemAt buffer size p) := inferInstanceAs (Decidable (_ ∧ _ ∧ _))

section Walk

variable {skipTag : ℕ → Traced Event Unit} {fuel : ℕ} {s : ℕ × GooseWalk}

lemma val_context (h : p < 2 ^ 31) :
    u32 ((decodeAsn1Len buffer (headEnd buffer p)).val.2 +
      (decodeAsn1Len buffer (headEnd buffer p)).val.1) = contextEnd buffer p := by
  have hle := headEnd_le buffer p
  have hlt := lt_headEnd buffer p
  rw [val_decodeAsn1Len _ _ (by omega)]
  simp only [contextEnd, elemEnd]
  rw [show headEnd buffer (headEnd buffer p - 1) =
      headEnd buffer p + lenSize buffer.mem (buffer.off + headEnd buffer p) by
    simp only [headEnd] at hlt ⊢
    rw [Nat.sub_add_cancel (by omega)],
    show headLen buffer (headEnd buffer p - 1) =
      lenValue buffer.mem (buffer.off + headEnd buffer p) by
    unfold headLen
    rw [Nat.sub_add_cancel (by omega)]]

/-- One round of the walk, in terms of the element at the cursor. -/
lemma val_gooseRound (hsize : size ≤ 2 ^ 31) :
    (gooseRound buffer skipTag size fuel s).val =
      if s.1 < size then
        if ItemAt buffer size s.1 then
          if tagAt buffer s.1 = 0xAB then
            (Loop.inner (parseAlldata buffer fuel (headEnd buffer s.1) (elemEnd buffer s.1) 0)
              fun num =>
                if num < 0 then
                  pure (.done ⟨-101, s.2.passport, s.2.state⟩)
                else
                  pure (.next (elemEnd buffer s.1, { s.2 with
                    passport := { s.2.passport with
                      allDataOffset := UInt16.ofNat (headEnd buffer s.1)
                      foundEntries := UInt32.ofNat num.toNat } }))).val
          else if tagAt buffer s.1 = 0x30 ∨ tagAt buffer s.1 = 0x31 then
            (Loop.inner (Loop.run (skipRound buffer skipTag (elemEnd buffer s.1)) fuel
              (headEnd buffer s.1)) fun pos => pure (.next (pos, s.2))).val
          else if tagAt buffer s.1 = 0xA0 ∨ tagAt buffer s.1 = 0xA1 then
            .next (contextEnd buffer s.1, s.2)
          else
            .next (elemEnd buffer s.1, (gooseField buffer s.2 (tagAt buffer s.1)
              (headEnd buffer s.1) (headLen buffer s.1)).val)
        else .done ⟨-3, s.2.passport, s.2.state⟩
      else .done (gooseFinish s.2) := by
  obtain ⟨pos, s⟩ := s
  by_cases hpos : pos < size
  · have hhead := val_head buffer (show pos < 2 ^ 31 by omega)
    simp only [gooseRound, if_pos hpos, Traced.val_bind, Ptr.val_get, hhead, Traced.val_ite,
      Traced.val_pure]
    by_cases hitem : ItemAt buffer size pos
    · obtain ⟨_, h2, h3⟩ := id hitem
      rw [if_pos hitem, if_neg (by unfold elemEnd at h2; omega), ← val_context (by omega)]
      rfl
    · rw [if_neg hitem, if_pos]
      by_contra hc
      rw [not_or] at hc
      exact hitem ⟨hpos, by unfold elemEnd; omega, hc.2⟩
  · simp [gooseRound, hpos]

end Walk

end ProcessBus
