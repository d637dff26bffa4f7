import ProcessBus.Parser.Sv.Asdu

/-!
# `parse_sv_apdu` accepts its grammar

The three loops of the walk share one cursor. A round of the ASDU loop takes one ASDU of the
grammar, the loop takes a sequence of them, and the PDU around it is two elements. The first ASDU
names the stream; the others are compared with it.
-/

namespace ProcessBus

variable {apdu : Ptr} {stop p pos fuel : ℕ}

/-! ### The sequence of ASDUs -/

lemma val_svidDiffers {l r : StringView} :
    (svidDiffers l r).val = false ↔ l.bytes = r.bytes := by
  unfold svidDiffers
  by_cases hsize : l.size = r.size
  · rw [if_neg (not_not.mpr hsize)]
    show (!(l == r)) = false ↔ _
    rw [Bool.not_eq_false', StringView.beq_iff]
  · rw [if_pos hsize]
    refine iff_of_false nofun fun h => hsize ?_
    have := congrArg List.length h
    simpa [StringView.bytes] using this

variable {w w' : SVWalk} {declared : ℕ}

/-- The ASDU is of the stream the passport names. -/
def Matches (passport : SVStreamPassport) (asdu : SvAsdu) : Prop :=
  passport.svid.bytes = asdu.svID ∧ passport.crev = UInt32.ofNat (beNat asdu.confRev)

/-- What the ASDU makes of the variables of the outer loop: the first one names the stream, the
others have to agree. -/
structure Joined (w : SVWalk) (asdu : SvAsdu) (w' : SVWalk) : Prop where
  count : w'.actualAsdus = w.actualAsdus + 1
  matches' : Matches w'.passport asdu
  first : w.actualAsdus = 0 →
    w'.passport = { w.passport with svid := w'.passport.svid, crev := w'.passport.crev } ∧
    w'.state = { w.state with smpCnt := UInt16.ofNat (beNat asdu.smpCnt) }
  others : w.actualAsdus ≠ 0 → w'.passport = w.passport ∧ w'.state = w.state

/-- The checks behind the field loop. -/
lemma svAsduDone_iff {a : AsduWalk} : (svAsduDone w a).val = .ok w' ↔ a.Complete ∧
    if w.actualAsdus = 0 then
      w' = {
        actualAsdus := 1
        passport := { w.passport with svid := a.svid, crev := a.confRev }
        state := { w.state with smpCnt := a.smpCnt } }
    else
      a.svid.bytes = w.passport.svid.bytes ∧ a.confRev = w.passport.crev ∧
        w' = { w with actualAsdus := w.actualAsdus + 1 } := by
  unfold svAsduDone
  by_cases hall : a.Complete
  · obtain ⟨h1, h2, h3, h4, h5⟩ := id hall
    rw [if_neg (by simp [h1, h2, h3, h4, h5])]
    by_cases hfirst : w.actualAsdus = 0
    · rw [if_pos hfirst, if_pos hfirst]
      simp [hall, eq_comm]
    · rw [if_neg hfirst, if_neg hfirst]
      have hdiff := val_svidDiffers (l := a.svid) (r := w.passport.svid)
      simp only [Traced.val_bind, Traced.val_ite, Traced.val_pure, hall, true_and]
      by_cases hsvid : a.svid.bytes = w.passport.svid.bytes
      · rw [hdiff.mpr hsvid]
        by_cases hrev : a.confRev = w.passport.crev <;> simp [hsvid, hrev, eq_comm]
      · have : (svidDiffers a.svid w.passport.svid).val = true := by
          simpa using mt hdiff.mp hsvid
        simp [this, hsvid]
  · have : ¬ a.foundSvid ∨ ¬ a.foundSmpCnt ∨ ¬ a.foundConfRev ∨ ¬ a.foundSmpSynch ∨
        ¬ a.foundData := by
      by_contra h
      simp only [not_or, not_not] at h
      exact hall h
    rw [if_pos this]
    simp [hall]

lemma joined_of_svAsduDone {a : AsduWalk} {asdu : SvAsdu} (ha : a.Is asdu)
    (h : (svAsduDone w a).val = .ok w') : Joined w asdu w' := by
  obtain ⟨_, h⟩ := svAsduDone_iff.mp h
  split_ifs at h with hfirst
  · subst h
    exact ⟨by rw [hfirst], ⟨ha.svid, ha.confRev⟩, fun _ => ⟨rfl, by rw [ha.smpCnt]⟩,
      fun h => absurd hfirst h⟩
  · obtain ⟨hsvid, hrev, rfl⟩ := h
    exact ⟨rfl, ⟨hsvid ▸ ha.svid, hrev ▸ ha.confRev⟩, fun h => absurd h hfirst,
      fun _ => ⟨rfl, rfl⟩⟩

lemma svAsduDone_ok {a : AsduWalk} {asdu : SvAsdu} (hall : a.Complete) (ha : a.Is asdu)
    (h : w.actualAsdus = 0 ∨ Matches w.passport asdu) :
    ∃ w', (svAsduDone w a).val = .ok w' := by
  by_cases hfirst : w.actualAsdus = 0
  · exact ⟨_, svAsduDone_iff.mpr ⟨hall, by rw [if_pos hfirst]⟩⟩
  · have hm := h.resolve_left hfirst
    refine ⟨{ w with actualAsdus := w.actualAsdus + 1 }, svAsduDone_iff.mpr ⟨hall, ?_⟩⟩
    rw [if_neg hfirst]
    exact ⟨ha.svid.trans hm.1.symm, ha.confRev.trans hm.2.symm, rfl⟩

/-- One round of the ASDU loop, in terms of the element at the cursor. -/
lemma val_svAsduRound (hstop : stop < 2 ^ 32) :
    (svAsduRound apdu fuel stop declared (pos, w)).val =
      if pos < stop then
        if tagAt apdu pos = 0x30 ∧ Fits apdu stop pos then
          (Loop.inner (Loop.run (svFieldRound apdu (valueEnd apdu pos)) fuel
            (headEnd apdu pos, {})) fun r =>
              match r with
              | .error code => pure (.done ⟨code, w.passport, w.state⟩)
              | .ok (pos, a) => do
                match ← svAsduDone w a with
                | .error code => pure (.done ⟨code, w.passport, w.state⟩)
                | .ok w => pure (.next (pos, w))).val
        else .done ⟨-5, w.passport, w.state⟩
      else .done ⟨if w.actualAsdus = declared then 0 else -7, w.passport, w.state⟩ := by
  rw [svAsduRound]
  by_cases hpos : pos < stop
  · rw [if_pos hpos, if_pos hpos, Traced.val_bind, val_takeTlv apdu hstop]
    by_cases hcond : tagAt apdu pos = 0x30 ∧ Fits apdu stop pos
    · rw [if_pos hcond]
      exact (if_pos hcond).symm
    · rw [if_neg hcond]
      exact (if_neg hcond).symm
  · rw [if_neg hpos]
    exact (if_neg hpos).symm

/-- A round that goes on has walked the fields of one element and passed the checks behind. -/
lemma svAsduRound_next {s' : ℕ × SVWalk} (hstop : stop < 2 ^ 32)
    (h : (svAsduRound apdu fuel stop declared (pos, w)).val = .next s') :
    tagAt apdu pos = 0x30 ∧ Fits apdu stop pos ∧ s'.1 = valueEnd apdu pos ∧
      ∃ l, Loop.Path (ElemStep apdu (valueEnd apdu pos)) (headEnd apdu pos) l (valueEnd apdu pos) ∧
        FieldsOk apdu 0 l ∧ (svAsduDone w (l.foldl (asduSet apdu) {})).val = .ok s'.2 := by
  rw [val_svAsduRound hstop] at h
  split_ifs at h with hpos hcond
  have hend := hcond.2.2
  cases hr : (Loop.run (svFieldRound apdu (valueEnd apdu pos)) fuel (headEnd apdu pos, {})).val with
  | none => rw [Loop.val_inner_none hr] at h; cases h
  | some r =>
    rw [Loop.val_inner_some hr] at h
    cases r with
    | error code => cases h
    | ok r =>
      have hempty := AsduWalk.consistent_empty
      obtain ⟨l, hl, hfields, rfl⟩ :=
        path_of_svFields (by omega) (headEnd_le_valueEnd apdu pos) hempty hr
      simp only [Traced.val_bind] at h
      cases hdone : (svAsduDone w (l.foldl (asduSet apdu) {})).val with
      | error code => rw [hdone] at h; cases h
      | ok w' =>
        rw [hdone] at h
        cases h
        exact ⟨hcond.1, hcond.2, rfl, l, hl, hfields, hdone⟩

/-- What it has walked is an ASDU of the grammar. -/
lemma asdu_of_svAsduRound {s' : ℕ × SVWalk} (hstop : stop < 2 ^ 31)
    (h : (svAsduRound apdu fuel stop declared (pos, w)).val = .next s') :
    pos < s'.1 ∧ s'.1 ≤ stop ∧ ∃ asdu : SvAsdu,
      asdu.Encodes (apdu.mem.slice (apdu.off + pos) (s'.1 - pos)) ∧ Joined w asdu s'.2 := by
  obtain ⟨htag, ⟨hok, hend⟩, hs', l, hl, hfields, hdone⟩ := svAsduRound_next (by omega) h
  have hle := headEnd_le_valueEnd apdu pos
  have hlt := lt_valueEnd apdu pos
  obtain ⟨asdu, hasdu⟩ := exists_asdu hfields (svAsduDone_iff.mp hdone).1
  refine ⟨hs' ▸ hlt, hs' ▸ hend, asdu, ⟨valueAt apdu pos, ?_, ?_⟩, ?_⟩
  · have := (seq_iff_path hle).mpr ⟨l, hl, hasdu⟩
    rwa [show valueEnd apdu pos - headEnd apdu pos = headLen apdu pos by
      unfold valueEnd; omega] at this
  · exact elem_slice_iff.mpr ⟨htag, hok, by omega, rfl⟩
  · exact joined_of_svAsduDone
      (asdu_checked asdu hasdu (headLen_lt_of_path (by omega) hl)).2.2 hdone

lemma svAsduDone_error {a : AsduWalk} {code : ℤ} (h : (svAsduDone w a).val = .error code) :
    code = -6 := by
  have h6 : (pure (.error (-6)) : Traced Event (Except ℤ SVWalk)).val = .error code → code = -6 :=
    fun h => (Except.error.inj h).symm
  unfold svAsduDone at h
  refine Traced.of_val_ite h h6 fun h => Traced.of_val_ite h nofun fun h => ?_
  rw [Traced.val_bind] at h
  exact Traced.of_val_ite h h6 nofun

lemma svFields_error {a : AsduWalk} {code : ℤ} (hstop : stop < 2 ^ 32)
    (h : (Loop.run (svFieldRound apdu stop) fuel (pos, a)).val = some (.error code)) :
    code = -6 ∨ code = -11 := by
  obtain ⟨s', _, hdone⟩ := Loop.reach_of_run h
  rcases svFieldRound_done hstop hdone with ⟨_, hr⟩ | hr | hr
  · cases hr
  · exact .inl (Except.error.inj hr)
  · exact .inr (Except.error.inj hr)

/-- An ASDU of the grammar that agrees with the first one is taken. -/
lemma svAsduRound_of_asdu {asdu : SvAsdu} {q : ℕ} (hstop : stop < 2 ^ 31) (hfuel : stop < fuel)
    (hpos : pos ≤ q) (hq : q ≤ stop)
    (henc : asdu.Encodes (apdu.mem.slice (apdu.off + pos) (q - pos)))
    (hm : w.actualAsdus = 0 ∨ Matches w.passport asdu) :
    ∃ w', (svAsduRound apdu fuel stop declared (pos, w)).val = .next (q, w') ∧
      Joined w asdu w' := by
  obtain ⟨body, hseq, helem⟩ := henc
  obtain ⟨htag, hok, hend, rfl⟩ := elem_slice_iff.mp helem
  obtain rfl : q = valueEnd apdu pos := by omega
  have hlt := lt_valueEnd apdu pos
  have hle := headEnd_le_valueEnd apdu pos
  rw [valueAt, show headLen apdu pos = valueEnd apdu pos - headEnd apdu pos by
    unfold valueEnd; omega] at hseq
  obtain ⟨l, hl, hfields⟩ := (seq_iff_path hle).mp hseq
  obtain ⟨hfok, hall, his⟩ := asdu_checked asdu hfields (headLen_lt_of_path (by omega) hl)
  have hempty := AsduWalk.consistent_empty
  obtain ⟨n, hn⟩ := svFields_of_path (by omega) hempty hl hfok
  have hrun := Loop.run_unique hn
    (svFields_isSome apdu (by omega) (show valueEnd apdu pos < fuel by omega))
  obtain ⟨w', hw'⟩ := svAsduDone_ok hall his hm
  refine ⟨w', ?_, joined_of_svAsduDone his hw'⟩
  rw [val_svAsduRound (by omega), if_pos (by omega), if_pos ⟨htag, hok, hq⟩,
    Loop.val_inner_some hrun]
  simp only [Traced.val_bind, hw', Traced.val_pure]

/-- A round that returns in the middle returns an error. -/
lemma svAsduRound_done {r : SVParse} (hstop : stop < 2 ^ 32) (hpos : pos < stop)
    (h : (svAsduRound apdu fuel stop declared (pos, w)).val = .done r) : r.code ≠ 0 := by
  intro hcode
  rw [val_svAsduRound hstop, if_pos hpos] at h
  split_ifs at h with hcond
  · cases hr : (Loop.run (svFieldRound apdu (valueEnd apdu pos)) fuel
        (headEnd apdu pos, {})).val with
    | none => rw [Loop.val_inner_none hr] at h; cases h
    | some r' =>
      rw [Loop.val_inner_some hr] at h
      cases r' with
      | error code =>
        cases h
        rcases svFields_error (lt_of_le_of_lt hcond.2.2 hstop) hr with rfl | rfl <;> cases hcode
      | ok r' =>
        simp only [Traced.val_bind] at h
        cases hdone : (svAsduDone w r'.2).val with
        | error code =>
          rw [hdone] at h
          cases h
          obtain rfl := svAsduDone_error hdone
          cases hcode
        | ok w' => rw [hdone] at h; cases h
  · cases h
    cases hcode

lemma svAsduRound_ne_hang {s : ℕ × SVWalk} (hstop : stop < 2 ^ 32) (hfuel : stop < fuel) :
    (svAsduRound apdu fuel stop declared s).val ≠ .hang := by
  obtain ⟨pos, w⟩ := s
  rw [val_svAsduRound hstop]
  split_ifs with hpos hcond
  · have hend := hcond.2.2
    obtain ⟨r, hr⟩ := Option.isSome_iff_exists.mp (svFields_isSome apdu
      (s := (headEnd apdu pos, {})) (lt_of_le_of_lt hend hstop) (lt_of_le_of_lt hend hfuel))
    rw [Loop.val_inner_some hr]
    cases r with
    | error code => simp
    | ok r =>
      simp only [Traced.val_bind]
      cases (svAsduDone w r.2).val <;> simp
  all_goals simp

lemma SvAsdu.Encodes.length_pos {asdu : SvAsdu} {bs : List UInt8} (h : asdu.Encodes bs) :
    0 < bs.length := by
  obtain ⟨_, _, h⟩ := h
  exact h.length_pos

/-- The first ASDU of a sequence is taken if it agrees with those before it, and the others follow
it. -/
lemma svAsduRound_of_seq {asdu : SvAsdu} {asdus : List SvAsdu} (hstop : stop < 2 ^ 31)
    (hfuel : stop < fuel) (hpos : pos ≤ stop)
    (hseq : Tlv.Seq SvAsdu.Encodes (asdu :: asdus)
      (apdu.mem.slice (apdu.off + pos) (stop - pos)))
    (hm : w.actualAsdus = 0 ∨ Matches w.passport asdu) :
    ∃ q w', pos < q ∧ q ≤ stop ∧
      (svAsduRound apdu fuel stop declared (pos, w)).val = .next (q, w') ∧ Joined w asdu w' ∧
      Tlv.Seq SvAsdu.Encodes asdus (apdu.mem.slice (apdu.off + q) (stop - q)) := by
  obtain ⟨k, hk, henc, hrest⟩ := Tlv.seq_cons_slice.mp hseq
  have hlen := henc.length_pos
  rw [Mem.length_slice] at hlen
  obtain ⟨w', hw', hjoin⟩ := svAsduRound_of_asdu (q := pos + k) hstop hfuel
    (Nat.le_add_right pos k) (by omega) (by rwa [Nat.add_sub_cancel_left]) hm
  rw [Nat.add_assoc, Nat.sub_sub] at hrest
  exact ⟨pos + k, w', by omega, by omega, hw', hjoin, hrest⟩

/-- An ASDU in front of a sequence. -/
lemma seq_cons_of_encodes {asdu : SvAsdu} {asdus : List SvAsdu} {q : ℕ} (hlt : pos < q)
    (hle : q ≤ stop) (henc : asdu.Encodes (apdu.mem.slice (apdu.off + pos) (q - pos)))
    (hseq : Tlv.Seq SvAsdu.Encodes asdus (apdu.mem.slice (apdu.off + q) (stop - q))) :
    Tlv.Seq SvAsdu.Encodes (asdu :: asdus)
      (apdu.mem.slice (apdu.off + pos) (stop - pos)) := by
  refine Tlv.seq_cons_slice.mpr ⟨q - pos, by omega, henc, ?_⟩
  rwa [Nat.add_assoc, show pos + (q - pos) = q by omega,
    show stop - pos - (q - pos) = stop - q by omega]

variable (apdu w declared) in
/-- From the second ASDU on the loop returns 0 exactly on ASDUs of the same stream, as many as
are missing. -/
lemma svAsdus_run {n : ℕ} (hstop : stop < 2 ^ 31) (hfuel : stop < fuel) (hpos : pos ≤ stop)
    (hn : stop - pos < n) (hw : w.actualAsdus ≠ 0) :
    ∃ r, (Loop.run (svAsduRound apdu fuel stop declared) n (pos, w)).val = some r ∧
      (r.code = 0 ↔ ∃ asdus : List SvAsdu,
        Tlv.Seq SvAsdu.Encodes asdus (apdu.mem.slice (apdu.off + pos) (stop - pos)) ∧
        (∀ a ∈ asdus, Matches w.passport a) ∧ w.actualAsdus + asdus.length = declared) ∧
      (r.code = 0 → r.passport = w.passport ∧ r.state = w.state) := by
  induction n generalizing pos w with
  | zero => omega
  | succ n ih =>
    cases hr : (svAsduRound apdu fuel stop declared (pos, w)).val with
    | hang => exact absurd hr (svAsduRound_ne_hang (by omega) hfuel)
    | done r =>
      refine ⟨r, Loop.val_run_done hr, ?_⟩
      by_cases hlt : pos < stop
      · have hcode := svAsduRound_done (by omega) hlt hr
        refine ⟨iff_of_false hcode ?_, fun h => absurd h hcode⟩
        rintro ⟨asdus, hseq, hm, _⟩
        cases asdus with
        | nil => have := Tlv.seq_nil_slice.mp hseq; omega
        | cons a asdus =>
          obtain ⟨_, _, _, _, hr', _⟩ := svAsduRound_of_seq hstop hfuel hpos hseq
            (.inr (hm a List.mem_cons_self))
          rw [hr] at hr'
          cases hr'
      · rw [val_svAsduRound (by omega), if_neg hlt] at hr
        cases hr
        obtain rfl : pos = stop := by omega
        refine ⟨?_, fun _ => ⟨rfl, rfl⟩⟩
        have hcode : (if w.actualAsdus = declared then (0 : ℤ) else -7) = 0 ↔
            w.actualAsdus = declared := by split_ifs with h <;> simp [h]
        rw [hcode]
        constructor
        · intro h
          exact ⟨[], Tlv.seq_nil_slice.mpr (Nat.sub_self pos), by simp, h⟩
        · rintro ⟨asdus, hseq, _, hlen⟩
          cases asdus with
          | nil => exact hlen
          | cons a asdus =>
            obtain ⟨k, hk, ha, _⟩ := Tlv.seq_cons_slice.mp hseq
            have := ha.length_pos
            rw [Mem.length_slice] at this
            omega
    | next s' =>
      obtain ⟨hlt, hle, asdu, henc, hjoin⟩ := asdu_of_svAsduRound hstop hr
      obtain ⟨hpass, hstate⟩ := hjoin.others hw
      obtain ⟨r, hrun, hiff, hres⟩ := ih (w := s'.2) hle (by omega) (by rw [hjoin.count]; omega)
      refine ⟨r, by rw [Loop.val_run_next hr, hrun], ?_, ?_⟩
      · rw [hiff, hpass, hjoin.count]
        constructor
        · rintro ⟨asdus, hseq, hm, hlen⟩
          refine ⟨asdu :: asdus, seq_cons_of_encodes hlt hle henc hseq, ?_, ?_⟩
          · rintro a ha
            rcases List.mem_cons.mp ha with rfl | ha
            · exact hpass ▸ hjoin.matches'
            · exact hm a ha
          · rw [List.length_cons]
            omega
        · rintro ⟨asdus, hseq, hm, hlen⟩
          cases asdus with
          | nil => have := Tlv.seq_nil_slice.mp hseq; omega
          | cons a asdus =>
            -- the element at the cursor is the only one there
            obtain ⟨q, w', _, _, hr', _, hrest⟩ := svAsduRound_of_seq hstop hfuel hpos hseq
              (.inr (hm a List.mem_cons_self))
            obtain rfl : s' = (q, w') := Round.next.inj (hr.symm.trans hr')
            refine ⟨asdus, hrest, fun b hb => hm b (List.mem_cons_of_mem _ hb), ?_⟩
            rw [List.length_cons] at hlen
            omega
      · intro hcode
        obtain ⟨h1, h2⟩ := hres hcode
        exact ⟨h1.trans hpass, h2.trans hstate⟩

/-- What a walk that gets through reports: the first ASDU, in the passport and the state. -/
structure Reports (passport : SVStreamPassport) (state : SVStreamState) (first : SvAsdu)
    (r : SVParse) : Prop where
  matches' : Matches r.passport first
  passport_eq : r.passport = { passport with svid := r.passport.svid, crev := r.passport.crev }
  state_eq : r.state = { state with smpCnt := UInt16.ofNat (beNat first.smpCnt) }

lemma SvAsdu.length_confRev (a : SvAsdu) : a.confRev.length = 4 :=
  (a.ok _ a.confRev_mem).length_confRev

lemma SvAsdu.length_smpCnt (a : SvAsdu) : a.smpCnt.length = 2 :=
  (a.ok _ a.smpCnt_mem).length_smpCnt

/-- Two ASDUs the passport matches agree with each other. -/
lemma Matches.same {passport : SVStreamPassport} {a b : SvAsdu} (ha : Matches passport a) :
    Matches passport b ↔ b.svID = a.svID ∧ b.confRev = a.confRev := by
  have hnum : UInt32.ofNat (beNat a.confRev) = UInt32.ofNat (beNat b.confRev) ↔
      b.confRev = a.confRev := by
    have h1 := beNat_lt a.confRev
    have h2 := beNat_lt b.confRev
    rw [a.length_confRev] at h1
    rw [b.length_confRev] at h2
    refine ⟨fun h => ?_, fun h => by rw [h]⟩
    refine beNat_injective (b.length_confRev.trans a.length_confRev.symm) ?_
    have := congrArg UInt32.toNat h
    rw [UInt32.toNat_ofNat', UInt32.toNat_ofNat'] at this
    omega
  rw [Matches, ha.1, ha.2, hnum, eq_comm]

variable (apdu w) in
/-- The whole ASDU loop. -/
lemma svAsdus_first {n : ℕ} (hstop : stop < 2 ^ 31) (hfuel : stop < fuel) (hpos : pos ≤ stop)
    (hn : stop - pos < n) (hdecl : declared ≠ 0) (hw : w.actualAsdus = 0) :
    ∃ r, (Loop.run (svAsduRound apdu fuel stop declared) n (pos, w)).val = some r ∧
      (r.code = 0 ↔ ∃ a asdus,
        Tlv.Seq SvAsdu.Encodes (a :: asdus) (apdu.mem.slice (apdu.off + pos) (stop - pos)) ∧
        (∀ b ∈ asdus, b.svID = a.svID ∧ b.confRev = a.confRev) ∧
        (a :: asdus).length = declared) ∧
      ∀ a asdus, r.code = 0 →
        Tlv.Seq SvAsdu.Encodes (a :: asdus) (apdu.mem.slice (apdu.off + pos) (stop - pos)) →
        Reports w.passport w.state a r := by
  obtain ⟨n, rfl⟩ : ∃ k, n = k + 1 := ⟨n - 1, by omega⟩
  cases hr : (svAsduRound apdu fuel stop declared (pos, w)).val with
  | hang => exact absurd hr (svAsduRound_ne_hang (by omega) hfuel)
  | done r =>
    have hcode : r.code ≠ 0 := by
      by_cases hlt : pos < stop
      · exact svAsduRound_done (by omega) hlt hr
      · rw [val_svAsduRound (by omega), if_neg hlt] at hr
        cases hr
        rw [hw, if_neg (Ne.symm hdecl)]
        intro h
        cases h
    refine ⟨r, Loop.val_run_done hr, iff_of_false hcode ?_, fun _ _ h => absurd h hcode⟩
    rintro ⟨a, asdus, hseq, _⟩
    obtain ⟨_, _, _, _, hr', _⟩ := svAsduRound_of_seq hstop hfuel hpos hseq (.inl hw)
    rw [hr] at hr'
    cases hr'
  | next s' =>
    obtain ⟨hlt, hle, asdu, henc, hjoin⟩ := asdu_of_svAsduRound hstop hr
    obtain ⟨r, hrun, hiff, hres⟩ := svAsdus_run apdu s'.2 declared hstop hfuel hle
      (show stop - s'.1 < n by omega) (by rw [hjoin.count]; exact Nat.succ_ne_zero _)
    refine ⟨r, by rw [Loop.val_run_next hr, hrun], ?_, ?_⟩
    · rw [hiff, hjoin.count, hw]
      constructor
      · rintro ⟨asdus, hseq, hm, hlen⟩
        refine ⟨asdu, asdus, seq_cons_of_encodes hlt hle henc hseq, ?_, ?_⟩
        · exact fun b hb => hjoin.matches'.same.mp (hm b hb)
        · rw [List.length_cons]
          omega
      · rintro ⟨a, asdus, hseq, hsame, hlen⟩
        obtain ⟨q, w', _, _, hr', hjoin', hrest⟩ :=
          svAsduRound_of_seq hstop hfuel hpos hseq (.inl hw)
        obtain rfl : s' = (q, w') := Round.next.inj (hr.symm.trans hr')
        refine ⟨asdus, hrest, fun b hb => hjoin'.matches'.same.mpr (hsame b hb), ?_⟩
        rw [List.length_cons] at hlen
        omega
    · intro a asdus hcode hseq
      obtain ⟨hpass, hstate⟩ := hres hcode
      obtain ⟨q, w', _, _, hr', hjoin', _⟩ :=
        svAsduRound_of_seq hstop hfuel hpos hseq (.inl hw)
      obtain rfl : s' = (q, w') := Round.next.inj (hr.symm.trans hr')
      obtain ⟨hp, hs⟩ := hjoin'.first hw
      exact ⟨hpass ▸ hjoin'.matches', by rw [hpass]; exact hp, hstate.trans hs⟩

/-! ### The PDU around it -/

section Pdu

variable (apdu) {apduSize : ℕ} {passport : SVStreamPassport} {state : SVStreamState}

/-- `noASDU` stands at the start of the PDU. -/
def numAt : ℕ := headEnd apdu 0

/-- The sequence stands behind it. -/
def seqAt : ℕ := valueEnd apdu (numAt apdu)

/-- The number of ASDUs the PDU declares. -/
def declaredAsdus : ℕ := beNat (valueAt apdu (numAt apdu))

variable (apduSize) in
/-- The PDU with `noASDU` and the sequence, the ASDUs apart. -/
structure PduHead : Prop where
  pdu : tagAt apdu 0 = 0x60 ∧ Fits apdu apduSize 0
  num : tagAt apdu (numAt apdu) = 0x80 ∧ Fits apdu (valueEnd apdu 0) (numAt apdu)
  num_length : headLen apdu (numAt apdu) = 1 ∨ headLen apdu (numAt apdu) = 2
  num_ne_zero : declaredAsdus apdu ≠ 0
  seq : tagAt apdu (seqAt apdu) = 0xA2 ∧ HeadOk apdu (seqAt apdu)
  seq_end : valueEnd apdu (seqAt apdu) = valueEnd apdu 0

/-- The `noASDU` reader takes an element of one or two octets that are not all zero. -/
lemma val_svNoAsdu (hstop : stop < 2 ^ 32) :
    (svNoAsdu apdu stop p).val =
      if (tagAt apdu p = 0x80 ∧ Fits apdu stop p) ∧ (headLen apdu p = 1 ∨ headLen apdu p = 2) ∧
          beNat (valueAt apdu p) ≠ 0 then
        some (beNat (valueAt apdu p), valueEnd apdu p) else none := by
  have hlt := lt_valueEnd apdu p
  have hle := headEnd_le_valueEnd apdu p
  unfold svNoAsdu
  by_cases hpos : p ≥ stop
  · rw [if_pos hpos, if_neg fun h => by have := h.1.2.2; omega]
    rfl
  have hadd : (Cursor.add 32 p 1).val = p + 1 := Cursor.val_add (by omega)
  rw [if_neg hpos]
  simp only [Traced.val_bind, hadd, val_tag]
  by_cases htag : tagAt apdu p = 0x80
  swap
  · rw [if_pos htag, if_neg fun h => htag h.1.1]
    rfl
  rw [if_neg (not_not.mpr htag)]
  simp only [Traced.val_bind, val_decodeAsn1LenBounded apdu hstop]
  by_cases hhead : HeadOk apdu p ∧ headEnd apdu p ≤ stop
  swap
  · rw [if_neg hhead, if_neg fun h => hhead ⟨h.1.2.1, hle.trans h.1.2.2⟩]
    rfl
  rw [if_pos hhead]
  by_cases hlen : headLen apdu p = 0 ∨ headLen apdu p > 2
  · rw [if_neg fun h => by have := h.2.1; omega]
    simp only [if_pos hlen]
    rfl
  have hsub : (Cursor.sub 32 stop (headEnd apdu p)).val = stop - headEnd apdu p :=
    Cursor.val_sub hhead.2
  have hnum : (decodeAsn1Number (apdu.add (headEnd apdu p)) (headLen apdu p)).val =
      beNat (valueAt apdu p) := numberAt_eq (by omega) (by omega)
  have hbound : ¬ beNat (valueAt apdu p) > 2 ^ 16 - 1 := by
    have := beNat_lt (valueAt apdu p)
    have hpow : 256 ^ headLen apdu p ≤ 256 ^ 2 := Nat.pow_le_pow_right (by decide) (by omega)
    rw [length_valueAt] at this
    omega
  simp only [if_neg hlen, Traced.val_bind, hsub]
  by_cases hrest : headLen apdu p > stop - headEnd apdu p
  · rw [if_pos hrest, if_neg fun h => by have := h.1.2.2; unfold valueEnd at this; omega]
    rfl
  have hend : valueEnd apdu p ≤ stop := by unfold valueEnd; omega
  have hval : (Cursor.add 32 (headEnd apdu p) (headLen apdu p)).val = valueEnd apdu p :=
    Cursor.val_add (by unfold valueEnd at hend; omega)
  rw [if_neg hrest]
  simp only [Traced.val_bind, hnum]
  by_cases hzero : beNat (valueAt apdu p) = 0
  · rw [if_pos (.inl hzero), if_neg fun h => h.2.2 hzero]
    rfl
  · rw [if_neg (not_or.mpr ⟨hzero, hbound⟩),
      if_pos ⟨⟨htag, hhead.1, hend⟩, by omega, hzero⟩, Traced.val_bind, hval]
    rfl

/-- Behind the heads only the ASDU loop is left. -/
lemma val_parseSvApdu (hsize : apduSize < 2 ^ 32) (h : PduHead apdu apduSize) :
    (parseSvApdu fuel apdu apduSize passport state).val =
      (Loop.run (svAsduRound apdu fuel (valueEnd apdu 0) (declaredAsdus apdu)) fuel
        (headEnd apdu (seqAt apdu),
          { passport := { passport with num := UInt16.ofNat (declaredAsdus apdu) },
            state := state })).val := by
  have hend : valueEnd apdu 0 < 2 ^ 32 := lt_of_le_of_lt h.pdu.2.2 hsize
  have hpdu : (takeTlv apdu apduSize 0 0x60).val = some (numAt apdu, valueEnd apdu 0) :=
    (val_takeTlv apdu hsize 0x60).trans (if_pos h.pdu)
  have hnum : (svNoAsdu apdu (valueEnd apdu 0) (numAt apdu)).val =
      some (declaredAsdus apdu, seqAt apdu) :=
    (val_svNoAsdu apdu hend).trans (if_pos ⟨h.num, h.num_length, h.num_ne_zero⟩)
  have hseq : (takeTlv apdu (valueEnd apdu 0) (seqAt apdu) 0xA2).val =
      some (headEnd apdu (seqAt apdu), valueEnd apdu (seqAt apdu)) :=
    (val_takeTlv apdu hend 0xA2).trans (if_pos ⟨h.seq.1, h.seq.2, h.seq_end.le⟩)
  simp only [parseSvApdu, Traced.val_bind, hpdu, hnum, hseq, h.seq_end, ne_eq, not_true_eq_false,
    if_false]

/-- Without them the walk returns an error. -/
lemma parseSvApdu_of_not_head (hsize : apduSize < 2 ^ 32) (h : ¬ PduHead apdu apduSize) :
    ∃ r : SVParse, r.code ≠ 0 ∧
      ∀ fuel, (parseSvApdu fuel apdu apduSize passport state).val = some r := by
  have herr : ∀ {code : ℤ}, code = -3 ∨ code = -4 → ∀ pass st,
      (SVParse.mk code pass st).code ≠ 0 := by
    rintro _ (rfl | rfl) pass st h <;> cases h
  simp only [parseSvApdu, Traced.val_bind, val_takeTlv apdu hsize]
  by_cases hpdu : tagAt apdu 0 = 0x60 ∧ Fits apdu apduSize 0
  swap
  · simp only [if_neg hpdu]
    exact ⟨_, herr (.inl rfl) _ _, fun _ => rfl⟩
  have hend : valueEnd apdu 0 < 2 ^ 32 := lt_of_le_of_lt hpdu.2.2 hsize
  simp only [if_pos hpdu, Traced.val_bind, val_svNoAsdu apdu hend]
  split_ifs with hnum
  swap
  · exact ⟨_, herr (.inr rfl) _ _, fun _ => rfl⟩
  simp only [Traced.val_bind, val_takeTlv apdu hend]
  split_ifs with hseq
  swap
  · exact ⟨_, herr (.inr rfl) _ _, fun _ => rfl⟩
  by_cases hseqEnd : valueEnd apdu (valueEnd apdu (headEnd apdu 0)) = valueEnd apdu 0
  · exact absurd ⟨hpdu, hnum.1, hnum.2.1, hnum.2.2, ⟨hseq.1, hseq.2.1⟩, hseqEnd⟩ h
  · simp only [if_pos hseqEnd]
    exact ⟨_, herr (.inr rfl) _ _, fun _ => rfl⟩

/-- The bytes from `apdu` on start with an encoding of `u`. -/
def StartsWith (u : SvPdu) (apduSize : ℕ) : Prop :=
  ∃ pdu rest, apdu.mem.slice apdu.off apduSize = pdu ++ rest ∧ u.Encodes pdu

lemma startsWith_iff {u : SvPdu} : StartsWith apdu u apduSize ↔
    PduHead apdu apduSize ∧ u.num = valueAt apdu (numAt apdu) ∧
      Tlv.Seq SvAsdu.Encodes u.asdus (valueAt apdu (seqAt apdu)) := by
  constructor
  · rintro ⟨pdu, rest, hbytes, numElem, seq, seqElem, hnum, hasdus, hseq, hpdu⟩
    obtain ⟨k, hk, rfl, _⟩ := Mem.slice_eq_append_iff.mp hbytes
    obtain ⟨htag, hok, hend, hvalue⟩ := elem_slice_iff (p := 0).mp hpdu
    obtain ⟨j, hj, rfl, rfl⟩ := Mem.slice_eq_append_iff.mp hvalue.symm
    obtain ⟨hnumTag, hnumOk, hnumEnd, hnumValue⟩ := elem_slice_iff (p := numAt apdu).mp hnum
    have hsum : headEnd apdu 0 + j = seqAt apdu := hnumEnd
    rw [Nat.add_assoc, hsum] at hseq
    obtain ⟨hseqTag, hseqOk, hseqEnd, rfl⟩ := elem_slice_iff.mp hseq
    have hpduEnd : valueEnd apdu 0 = headEnd apdu 0 + headLen apdu 0 := rfl
    have hdecl : declaredAsdus apdu = u.asdus.length := by
      rw [declaredAsdus, ← hnumValue, u.num_eq]
    have hnumLength := u.num_length
    rw [hnumValue, length_valueAt] at hnumLength
    refine ⟨⟨⟨htag, hok, by omega⟩, ⟨hnumTag, hnumOk, ?_⟩, hnumLength, ?_, ⟨hseqTag, hseqOk⟩, ?_⟩,
      hnumValue, hasdus⟩
    · show seqAt apdu ≤ _
      omega
    · rw [hdecl]
      exact mt List.length_eq_zero_iff.mp u.nonempty
    · omega
  · rintro ⟨h, hnum, hasdus⟩
    have hpduEnd : valueEnd apdu 0 = numAt apdu + headLen apdu 0 := rfl
    have hnumEnd : seqAt apdu = valueEnd apdu (numAt apdu) := rfl
    have hnumLt := lt_valueEnd apdu (numAt apdu)
    have hseqLt := lt_valueEnd apdu (seqAt apdu)
    have hseqEnd := h.seq_end
    refine ⟨_, _, Mem.slice_eq_append_iff.mpr ⟨valueEnd apdu 0, h.pdu.2.2, rfl, rfl⟩, ?_⟩
    refine ⟨apdu.mem.slice (apdu.off + numAt apdu) (seqAt apdu - numAt apdu),
      valueAt apdu (seqAt apdu),
      apdu.mem.slice (apdu.off + seqAt apdu) (valueEnd apdu 0 - seqAt apdu), ?_, hasdus, ?_, ?_⟩
    · exact elem_slice_iff.mpr ⟨h.num.1, h.num.2.1, by omega, hnum⟩
    · exact elem_slice_iff.mpr ⟨h.seq.1, h.seq.2, by omega, rfl⟩
    · refine elem_slice_iff (p := 0).mpr ⟨h.pdu.1, h.pdu.2.1, Nat.zero_add _, Eq.symm ?_⟩
      refine Mem.slice_eq_append_iff.mpr ⟨seqAt apdu - numAt apdu, by omega, rfl, ?_⟩
      have hadd : headEnd apdu 0 + (seqAt apdu - numAt apdu) = seqAt apdu :=
        Nat.add_sub_cancel' hnumLt.le
      rw [Nat.add_assoc, hadd]
      congr 1
      omega

/-- With room for the field loop, more of it does not change a round. -/
lemma val_svAsduRound_fuel {fuel' : ℕ} {s : ℕ × SVWalk} (hstop : stop < 2 ^ 32)
    (hfuel : stop < fuel) (hfuel' : stop < fuel') :
    (svAsduRound apdu fuel' stop declared s).val = (svAsduRound apdu fuel stop declared s).val := by
  obtain ⟨pos, w⟩ := s
  rw [val_svAsduRound hstop, val_svAsduRound hstop]
  by_cases hcond : tagAt apdu pos = 0x30 ∧ Fits apdu stop pos
  · have hend := hcond.2.2
    have hsome := fun {f : ℕ} (hf : stop < f) => svFields_isSome apdu
      (s := (headEnd apdu pos, {})) (lt_of_le_of_lt hend hstop) (lt_of_le_of_lt hend hf)
    obtain ⟨r, hr⟩ := Option.isSome_iff_exists.mp (hsome hfuel)
    rw [Loop.val_inner_some hr, Loop.val_inner_some (Loop.run_unique hr (hsome hfuel'))]
  · rw [if_neg hcond, if_neg hcond]

/-- The walk returns, it returns 0 exactly if the bytes start with a PDU of the grammar, and then
it reports that PDU. -/
theorem parseSvApdu_spec (hsize : apduSize < 2 ^ 31) :
    ∃ r, (∀ fuel, apduSize < fuel →
        (parseSvApdu fuel apdu apduSize passport state).val = some r) ∧
      (r.code = 0 ↔ ∃ u, StartsWith apdu u apduSize) ∧
      ∀ u, StartsWith apdu u apduSize →
        Reports { passport with num := UInt16.ofNat u.asdus.length } state u.first r := by
  by_cases hhead : PduHead apdu apduSize
  swap
  · obtain ⟨r, hcode, hrun⟩ := parseSvApdu_of_not_head apdu (by omega) hhead
    have hno : ∀ u, ¬ StartsWith apdu u apduSize := fun u hu =>
      hhead ((startsWith_iff apdu).mp hu).1
    exact ⟨r, fun fuel _ => hrun fuel, iff_of_false hcode fun ⟨u, hu⟩ => hno u hu,
      fun u hu => absurd hu (hno u)⟩
  have hend : valueEnd apdu 0 ≤ apduSize := hhead.pdu.2.2
  have hle := headEnd_le_valueEnd apdu (seqAt apdu)
  have hseqEnd := hhead.seq_end
  have hvalue : apdu.mem.slice (apdu.off + headEnd apdu (seqAt apdu))
      (valueEnd apdu 0 - headEnd apdu (seqAt apdu)) = valueAt apdu (seqAt apdu) := by
    rw [valueAt, ← hseqEnd, valueEnd, Nat.add_sub_cancel_left]
  have hstop : valueEnd apdu 0 < 2 ^ 31 := by omega
  have hfuel : valueEnd apdu 0 < apduSize + 1 := by omega
  have hpos : headEnd apdu (seqAt apdu) ≤ valueEnd apdu 0 := by omega
  have hrounds : valueEnd apdu 0 - headEnd apdu (seqAt apdu) < apduSize + 1 := by omega
  obtain ⟨r, hrun, hiff, hres⟩ := svAsdus_first apdu
    { passport := { passport with num := UInt16.ofNat (declaredAsdus apdu) }, state := state }
    hstop hfuel hpos hrounds hhead.num_ne_zero rfl
  rw [hvalue] at hiff hres
  have hcode : r.code = 0 ↔ ∃ u, StartsWith apdu u apduSize := by
    rw [hiff]
    constructor
    · rintro ⟨a, asdus, hseq, hsame, hlen⟩
      have hall : ∀ b ∈ a :: asdus, b.svID = a.svID ∧ b.confRev = a.confRev := by
        intro b hb
        rcases List.mem_cons.mp hb with rfl | hb
        · exact ⟨rfl, rfl⟩
        · exact hsame b hb
      refine ⟨⟨valueAt apdu (numAt apdu), a :: asdus, ?_, hlen.symm, List.cons_ne_nil _ _,
        fun b hb c hc => ⟨(hall b hb).1.trans (hall c hc).1.symm,
          (hall b hb).2.trans (hall c hc).2.symm⟩⟩, (startsWith_iff apdu).mpr ⟨hhead, rfl, hseq⟩⟩
      rw [length_valueAt]
      exact hhead.num_length
    · rintro ⟨u, hu⟩
      obtain ⟨_, hnum, hseq⟩ := (startsWith_iff apdu).mp hu
      obtain ⟨a, asdus, hasdus⟩ := List.exists_cons_of_ne_nil u.nonempty
      rw [hasdus] at hseq
      refine ⟨a, asdus, hseq, fun b hb => ?_, ?_⟩
      · exact u.same b (hasdus ▸ List.mem_cons_of_mem _ hb) a (hasdus ▸ List.mem_cons_self)
      · rw [← hasdus, ← u.num_eq, hnum]
        rfl
  refine ⟨r, fun fuel hfuel => ?_, hcode, fun u hu => ?_⟩
  · rw [val_parseSvApdu apdu (by omega) hhead]
    exact Loop.run_mono (fun s _ => val_svAsduRound_fuel apdu (by omega) (by omega) (by omega))
      hfuel hrun
  · obtain ⟨_, hnum, hseq⟩ := (startsWith_iff apdu).mp hu
    have hdecl : declaredAsdus apdu = u.asdus.length := by rw [declaredAsdus, ← hnum, u.num_eq]
    have hzero := hcode.mpr ⟨u, hu⟩
    rw [← List.cons_head_tail u.nonempty] at hseq
    rw [← hdecl]
    exact hres _ _ hzero hseq

end Pdu

lemma SvPdu.length_asdus_lt (u : SvPdu) : u.asdus.length < 2 ^ 16 := by
  have hlt := beNat_lt u.num
  have hpow : 256 ^ u.num.length ≤ 256 ^ 2 := Nat.pow_le_pow_right (by decide) (by
    have := u.num_length
    omega)
  rw [u.num_eq] at hlt
  omega

/-- The numbers that are reported are those in the PDU. -/
lemma Reports.values {passport : SVStreamPassport} {state : SVStreamState} {u : SvPdu}
    {r : SVParse}
    (h : Reports { passport with num := UInt16.ofNat u.asdus.length } state u.first r) :
    r.passport.num.toNat = u.asdus.length ∧ r.passport.svid.bytes = u.first.svID ∧
      r.passport.crev.toNat = beNat u.first.confRev ∧
      r.state.smpCnt.toNat = beNat u.first.smpCnt := by
  have hnum : r.passport.num = UInt16.ofNat u.asdus.length := by rw [h.passport_eq]
  have hlen := u.length_asdus_lt
  have hrev := beNat_lt u.first.confRev
  have hcnt := beNat_lt u.first.smpCnt
  rw [u.first.length_confRev] at hrev
  rw [u.first.length_smpCnt] at hcnt
  refine ⟨?_, h.matches'.1, ?_, ?_⟩
  · rw [hnum, UInt16.toNat_ofNat', Nat.mod_eq_of_lt hlen]
  · rw [h.matches'.2, UInt32.toNat_ofNat', Nat.mod_eq_of_lt (by omega)]
  · rw [h.state_eq, UInt16.toNat_ofNat', Nat.mod_eq_of_lt (by omega)]

/-- `parse_sv_apdu` accepts exactly its grammar and reports the first ASDU. The bytes behind the
PDU do not matter: any other memory that starts with the same PDU gives the same result. The size
is that of a frame, an `int`. -/
theorem parseSvApdu_accepts_grammar (apdu : Ptr) (apduSize : ℕ) (hsize : apduSize < 2 ^ 31)
    (passport : SVStreamPassport) (state : SVStreamState) :
    ∃ r, (∀ fuel, apduSize < fuel →
        (parseSvApdu fuel apdu apduSize passport state).val = some r) ∧
      (r.code = 0 ↔ ∃ (u : SvPdu) (pdu rest : List UInt8),
        apdu.mem.slice apdu.off apduSize = pdu ++ rest ∧ u.Encodes pdu) ∧
      ∀ (u : SvPdu) (pdu rest : List UInt8),
        apdu.mem.slice apdu.off apduSize = pdu ++ rest → u.Encodes pdu →
        (r.passport.num.toNat = u.asdus.length ∧ r.passport.svid.bytes = u.first.svID ∧
          r.passport.crev.toNat = beNat u.first.confRev ∧
          r.state.smpCnt.toNat = beNat u.first.smpCnt ∧
          r.passport.dmac = passport.dmac ∧ r.passport.appid = passport.appid ∧
          r.passport.dstIP = passport.dstIP) ∧
        ∀ (apdu' : Ptr) (apduSize' : ℕ) (rest' : List UInt8), apduSize' < 2 ^ 31 →
          apdu'.mem.slice apdu'.off apduSize' = pdu ++ rest' →
          ∃ r', (∀ fuel, apduSize' < fuel →
              (parseSvApdu fuel apdu' apduSize' passport state).val = some r') ∧
            r'.code = r.code ∧ r'.state = r.state ∧
            r'.passport.svid.bytes = r.passport.svid.bytes ∧
            r'.passport = { r.passport with svid := r'.passport.svid } := by
  obtain ⟨r, hrun, hcode, hres⟩ := parseSvApdu_spec apdu hsize
  refine ⟨r, hrun, hcode, fun u pdu rest hbytes henc => ?_⟩
  have hrep := hres u ⟨pdu, rest, hbytes, henc⟩
  obtain ⟨hnum, hsvid, hrev, hcnt⟩ := hrep.values
  refine ⟨⟨hnum, hsvid, hrev, hcnt, ?_, ?_, ?_⟩, ?_⟩
  iterate 3 rw [hrep.passport_eq]
  intro apdu' apduSize' rest' hsize' hbytes'
  obtain ⟨r', hrun', hcode', hres'⟩ := parseSvApdu_spec apdu' hsize'
  have hrep' := hres' u ⟨pdu, rest', hbytes', henc⟩
  refine ⟨r', hrun', ?_, ?_, ?_, ?_⟩
  · rw [hcode.mpr ⟨u, pdu, rest, hbytes, henc⟩, hcode'.mpr ⟨u, pdu, rest', hbytes', henc⟩]
  · rw [hrep.state_eq, hrep'.state_eq]
  · rw [hrep.matches'.1, hrep'.matches'.1]
  · rw [hrep.passport_eq, hrep'.passport_eq, hrep.matches'.2, hrep'.matches'.2]

/-- One ASDU with svID `A`, smpCnt 5 and confRev 1, and two octets behind the PDU. -/
def sampleApdu : List UInt8 :=
  [0x60, 0x59, 0x80, 0x01, 0x01, 0xA2, 0x54, 0x30, 0x52, 0x80, 0x01, 0x41, 0x82, 0x02, 0x00, 0x05,
    0x83, 0x04, 0x00, 0x00, 0x00, 0x01, 0x85, 0x01, 0x02, 0x87, 0x40] ++
  List.replicate 64 0 ++ [0xFF, 0xFF]

theorem parseSvApdu_accepts_sampleApdu :
    sampleApdu.length < 2 ^ 31 ∧
    ∃ (u : SvPdu) (pdu rest : List UInt8), sampleApdu = pdu ++ rest ∧ u.Encodes pdu := by
  refine ⟨by decide, ?_⟩
  obtain ⟨r, hrun, hcode, _⟩ := parseSvApdu_accepts_grammar (.ofBytes sampleApdu)
    sampleApdu.length (by decide) {} {}
  have hzero : r.code = 0 := by
    have hval : ((parseSvApdu 94 (.ofBytes sampleApdu) sampleApdu.length {} {}).val.map
        SVParse.code) = some 0 := by decide +kernel
    rw [hrun 94 (by decide)] at hval
    exact Option.some.inj hval
  rw [show (Ptr.ofBytes sampleApdu).mem.slice (Ptr.ofBytes sampleApdu).off sampleApdu.length =
    sampleApdu from (Ptr.holds_ofBytes sampleApdu).slice_eq] at hcode
  exact hcode.mp hzero

end ProcessBus
