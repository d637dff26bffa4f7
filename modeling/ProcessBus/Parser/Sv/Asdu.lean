import ProcessBus.Parser.Sv.Grammar

/-!
# The field loop of one ASDU

The field loop gets through exactly on fields with increasing tags that fill the ASDU and have
values of the grammar. What it leaves behind is a fold over the elements it went through.
-/

namespace ProcessBus

variable {apdu : Ptr} {stop p pos fuel : ℕ}

/-! ### One field -/

/-- The variables of the field loop behind the field at `p`. -/
def asduSet (apdu : Ptr) (a : AsduWalk) (p : ℕ) : AsduWalk where
  foundSvid := a.foundSvid || tagAt apdu p = 0x80
  foundSmpCnt := a.foundSmpCnt || tagAt apdu p = 0x82
  foundConfRev := a.foundConfRev || tagAt apdu p = 0x83
  foundSmpSynch := a.foundSmpSynch || tagAt apdu p = 0x85
  foundData := a.foundData || tagAt apdu p = 0x87
  svid := if tagAt apdu p = 0x80 then viewAt apdu p else a.svid
  smpCnt := if tagAt apdu p = 0x82 then UInt16.ofNat (numberAt apdu p) else a.smpCnt
  confRev := if tagAt apdu p = 0x83 then UInt32.ofNat (numberAt apdu p) else a.confRev
  previousTag := tagAt apdu p

/-- A field that was found is not behind the last tag. -/
structure AsduWalk.Consistent (a : AsduWalk) : Prop where
  svid : a.foundSvid = true → 0x80 ≤ a.previousTag
  smpCnt : a.foundSmpCnt = true → 0x82 ≤ a.previousTag
  confRev : a.foundConfRev = true → 0x83 ≤ a.previousTag
  smpSynch : a.foundSmpSynch = true → 0x85 ≤ a.previousTag
  data : a.foundData = true → 0x87 ≤ a.previousTag

/-- Nothing has been found yet. -/
lemma AsduWalk.consistent_empty : AsduWalk.Consistent {} where
  svid h := absurd h Bool.false_ne_true
  smpCnt h := absurd h Bool.false_ne_true
  confRev h := absurd h Bool.false_ne_true
  smpSynch h := absurd h Bool.false_ne_true
  data h := absurd h Bool.false_ne_true

lemma val_qualityGood (l : List ℕ) : (qualityGood apdu pos l).val = true ↔
    ∀ off ∈ l, beNat (apdu.mem.slice (apdu.off + (pos + off)) 4) = 0 := by
  induction l with
  | nil => simp [qualityGood]
  | cons off l ih =>
    have hval : (decodeAsn1Number (apdu.add (pos + off)) SVProfile.QUALITY_SIZE).val =
        beNat (apdu.mem.slice (apdu.off + (pos + off)) 4) := by simp [SVProfile.QUALITY_SIZE]
    simp only [qualityGood, Traced.val_bind, hval, List.forall_mem_cons, SVProfile.QUALITY_GOOD]
    split_ifs with h
    · simp [h]
    · simp [ih, not_not.mp h]

variable (apdu p) in
/-- The Quality loop checks the words of the grammar. -/
lemma qualityGood_iff (h : headLen apdu p = 64) :
    (qualityGood apdu (headEnd apdu p) qualityOffsets).val = true ↔
      GoodQuality (valueAt apdu p) := by
  rw [val_qualityGood, GoodQuality, valueAt, h]
  simp only [qualityOffsets, List.forall_mem_map, List.mem_range, SVProfile.CHANNELS,
    SVProfile.VALUE_SIZE, SVProfile.CHANNEL_SIZE, SVProfile.QUALITY_SIZE]
  refine forall_congr' fun i => forall_congr' fun hi => ?_
  rw [Mem.take_drop_slice (by omega), Nat.add_assoc]

lemma ite_error_eq_ok {α : Type} {c : Prop} [Decidable c] {e : ℤ} {x y : α} :
    (if c then Except.error e else Except.ok x) = Except.ok y ↔ ¬ c ∧ y = x := by
  split_ifs with h <;> simp [h, eq_comm]

lemma ite_ok_eq_ok {α : Type} {c : Prop} [Decidable c] {e : ℤ} {x y : α} :
    (if c then Except.ok x else Except.error e) = Except.ok y ↔ c ∧ y = x := by
  split_ifs with h <;> simp [h, eq_comm]

/-- `switch (tag)` lets exactly the fields of the grammar through. -/
lemma svField_ok_iff {a : AsduWalk} (a' : AsduWalk) (ha : a.Consistent)
    (hlt : a.previousTag < tagAt apdu p) :
    (svField apdu { a with previousTag := tagAt apdu p } (tagAt apdu p) (headEnd apdu p)
        (headLen apdu p)).val = .ok a' ↔
      FieldOk (tagAt apdu p) (valueAt apdu p) ∧ a' = asduSet apdu a p := by
  have hfound : ∀ {b : Bool} {t : UInt8}, (b = true → t ≤ a.previousTag) →
      tagAt apdu p = t → b = false := by
    intro b t hb ht
    by_contra hne
    have := hb (by simpa using hne)
    exact absurd (UInt8.lt_of_le_of_lt this (ht ▸ hlt)) (UInt8.lt_irrefl _)
  have hq := qualityGood_iff apdu p
  simp only [FieldOk, length_valueAt, asduSet]
  have h80 := hfound ha.svid
  have h82 := hfound ha.smpCnt
  have h83 := hfound ha.confRev
  have h85 := hfound ha.smpSynch
  have h87 := hfound ha.data
  unfold numberAt viewAt
  generalize tagAt apdu p = tag at *
  by_cases ht : tag = 0x80
  · subst ht
    simp [svField, h80 rfl, ite_error_eq_ok, Nat.one_le_iff_ne_zero]
  by_cases ht : tag = 0x81
  · subst ht
    simp [svField, ite_error_eq_ok, Nat.one_le_iff_ne_zero]
  by_cases ht : tag = 0x82
  · subst ht
    simp [svField, h82 rfl, ite_ok_eq_ok]
  by_cases ht : tag = 0x83
  · subst ht
    simp [svField, h83 rfl, ite_ok_eq_ok]
  by_cases ht : tag = 0x84
  · subst ht
    simp [svField, ite_ok_eq_ok]
  by_cases ht : tag = 0x85
  · subst ht
    simp [svField, h85 rfl, ite_ok_eq_ok]
  by_cases ht : tag = 0x86
  · subst ht
    simp [svField, ite_ok_eq_ok]
  by_cases ht : tag = 0x87
  · subst ht
    by_cases hlen : headLen apdu p = 64
    · have hq := hq hlen
      simp [svField, h87 rfl, ite_ok_eq_ok, SVProfile.ASDU_DATA_SIZE, SVProfile.CHANNELS,
        SVProfile.CHANNEL_SIZE, SVProfile.VALUE_SIZE, SVProfile.QUALITY_SIZE, hlen, hq]
    · simp [svField, h87 rfl, SVProfile.ASDU_DATA_SIZE, SVProfile.CHANNELS,
        SVProfile.CHANNEL_SIZE, SVProfile.VALUE_SIZE, SVProfile.QUALITY_SIZE, hlen]
  by_cases ht : tag = 0x88
  · subst ht
    simp [svField, ite_ok_eq_ok]
  simp [svField, *]

/-- The codes of `switch (tag)`. -/
lemma svField_error {a : AsduWalk} {tag : UInt8} {length : ℕ} {code : ℤ}
    (h : (svField apdu a tag pos length).val = .error code) : code = -6 ∨ code = -11 := by
  have h6 : (pure (.error (-6)) : Traced Event (Except ℤ AsduWalk)).val = .error code →
      code = -6 ∨ code = -11 := fun h => .inl (Except.error.inj h).symm
  unfold svField at h
  iterate 7 refine Traced.of_val_ite h (fun h => Traced.of_val_ite h h6 nofun) fun h => ?_
  refine Traced.of_val_ite h (fun h => Traced.of_val_ite h h6 fun h => ?_) fun h => ?_
  · -- the Quality loop is the only place for the other code
    rw [Traced.val_bind] at h
    exact Traced.of_val_ite h nofun fun h => .inr (Except.error.inj h).symm
  · exact Traced.of_val_ite h (fun h => Traced.of_val_ite h h6 nofun) h6

/-! ### The fields of one ASDU -/

/-- From one element to the next, none of which leaves `stop`. -/
def ElemStep (buffer : Ptr) (stop p q : ℕ) : Prop := Fits buffer stop p ∧ q = valueEnd buffer p

/-- The fields from `prev` on have increasing tags and values of the grammar. -/
def FieldsOk (apdu : Ptr) : UInt8 → List ℕ → Prop
  | _, [] => True
  | prev, p :: l =>
    prev < tagAt apdu p ∧ FieldOk (tagAt apdu p) (valueAt apdu p) ∧ FieldsOk apdu (tagAt apdu p) l

lemma asduSet_consistent {a : AsduWalk} (ha : a.Consistent) (hlt : a.previousTag < tagAt apdu p) :
    (asduSet apdu a p).Consistent := by
  have hle : ∀ {b : Bool} {t : UInt8}, (b = true → t ≤ a.previousTag) →
      (b || decide (tagAt apdu p = t)) = true → t ≤ tagAt apdu p := by
    intro b t hb h
    rcases Bool.or_eq_true _ _ ▸ h with h | h
    · exact UInt8.le_trans (hb h) (UInt8.le_of_lt hlt)
    · exact of_decide_eq_true h ▸ UInt8.le_refl _
  exact ⟨hle ha.svid, hle ha.smpCnt, hle ha.confRev, hle ha.smpSynch, hle ha.data⟩

/-- One round of the field loop, in terms of the element at the cursor. -/
lemma val_svFieldRound {a : AsduWalk} (hstop : stop < 2 ^ 32) :
    (svFieldRound apdu stop (pos, a)).val =
      if pos < stop then
        if tagAt apdu pos ≤ a.previousTag ∨ ¬ Fits apdu stop pos then .done (.error (-6))
        else match (svField apdu { a with previousTag := tagAt apdu pos } (tagAt apdu pos)
            (headEnd apdu pos) (headLen apdu pos)).val with
          | .error code => .done (.error code)
          | .ok a' => .next (valueEnd apdu pos, a')
      else .done (.ok (pos, a)) := by
  rw [svFieldRound]
  by_cases hpos : pos < stop
  · have hadd : (Cursor.add 32 pos 1).val = pos + 1 := Cursor.val_add (by omega)
    rw [if_pos hpos, if_pos hpos]
    simp only [Traced.val_bind, val_tag, hadd]
    by_cases htag : tagAt apdu pos ≤ a.previousTag
    · rw [if_pos htag, if_pos (.inl htag)]
      rfl
    · rw [if_neg htag]
      simp only [Traced.val_bind, val_takeLength apdu hstop]
      by_cases hfits : Fits apdu stop pos
      · have hval : (Cursor.add 32 (headEnd apdu pos) (headLen apdu pos)).val =
            valueEnd apdu pos := Cursor.val_add (by have := hfits.2; unfold valueEnd at this; omega)
        rw [if_pos hfits, if_neg (by tauto)]
        simp only [Traced.val_bind]
        cases (svField apdu { a with previousTag := tagAt apdu pos } (tagAt apdu pos)
          (headEnd apdu pos) (headLen apdu pos)).val with
        | error code => rfl
        | ok a' => simp only [Traced.val_bind, hval, Traced.val_pure]
      · rw [if_neg hfits, if_pos (.inr hfits)]
        rfl
  · rw [if_neg hpos, if_neg hpos]
    rfl

/-- A round goes on exactly over a field of the grammar. -/
lemma svFieldRound_next_iff {a : AsduWalk} {s' : ℕ × AsduWalk} (hstop : stop < 2 ^ 32)
    (ha : a.Consistent) :
    (svFieldRound apdu stop (pos, a)).val = .next s' ↔
      Fits apdu stop pos ∧ a.previousTag < tagAt apdu pos ∧
        FieldOk (tagAt apdu pos) (valueAt apdu pos) ∧
        s' = (valueEnd apdu pos, asduSet apdu a pos) := by
  have hlt := lt_valueEnd apdu pos
  rw [val_svFieldRound hstop]
  by_cases hcond : Fits apdu stop pos ∧ a.previousTag < tagAt apdu pos
  · obtain ⟨hfits, htag⟩ := hcond
    have hpos : pos < stop := hlt.trans_le hfits.2
    have hok := fun a' => svField_ok_iff a' ha htag
    rw [if_pos hpos, if_neg (not_or.mpr ⟨UInt8.not_le.mpr htag, not_not.mpr hfits⟩)]
    cases hr : (svField apdu { a with previousTag := tagAt apdu pos } (tagAt apdu pos)
        (headEnd apdu pos) (headLen apdu pos)).val with
    | error code =>
      have : ¬ FieldOk (tagAt apdu pos) (valueAt apdu pos) := fun h => by
        have := (hok _).mpr ⟨h, rfl⟩
        rw [hr] at this
        cases this
      simp [this]
    | ok a' =>
      obtain ⟨hfield, rfl⟩ := (hok a').mp hr
      simp [hfits, htag, hfield, eq_comm]
  · have hleft : ∀ x : Round (Except ℤ (ℕ × AsduWalk)) (ℕ × AsduWalk), ¬ (if pos < stop then
        (if tagAt apdu pos ≤ a.previousTag ∨ ¬ Fits apdu stop pos then .done (.error (-6)) else x)
        else .done (.ok (pos, a))) = .next s' := by
      intro x
      have hor : tagAt apdu pos ≤ a.previousTag ∨ ¬ Fits apdu stop pos := by
        by_contra h
        rw [not_or, not_not, UInt8.not_le] at h
        exact hcond ⟨h.2, h.1⟩
      rw [if_pos hor]
      split_ifs <;> simp
    exact iff_of_false (hleft _) fun h => hcond ⟨h.1, h.2.1⟩

/-- Otherwise it has come to the end, or it returns one of the two codes. -/
lemma svFieldRound_done {a : AsduWalk} {r : Except ℤ (ℕ × AsduWalk)} (hstop : stop < 2 ^ 32)
    (h : (svFieldRound apdu stop (pos, a)).val = .done r) :
    (stop ≤ pos ∧ r = .ok (pos, a)) ∨ r = .error (-6) ∨ r = .error (-11) := by
  rw [val_svFieldRound hstop] at h
  split_ifs at h with hpos hcond
  · exact .inr (.inl (Round.done.inj h).symm)
  · split at h
    · next code hr =>
      rw [← Round.done.inj h]
      exact .inr ((svField_error hr).imp (congrArg _) (congrArg _))
    · cases h
  · exact .inl ⟨Nat.not_lt.mp hpos, (Round.done.inj h).symm⟩

lemma svFieldRound_next_pos {s s' : ℕ × AsduWalk} (hstop : stop < 2 ^ 32)
    (h : (svFieldRound apdu stop s).val = .next s') : s.1 < stop ∧ s'.1 = valueEnd apdu s.1 := by
  obtain ⟨pos, a⟩ := s
  rw [val_svFieldRound hstop] at h
  split_ifs at h with hpos
  split at h
  · cases h
  · cases h
    exact ⟨hpos, rfl⟩

lemma svFieldRound_ne_hang {s : ℕ × AsduWalk} (hstop : stop < 2 ^ 32) :
    (svFieldRound apdu stop s).val ≠ .hang := by
  obtain ⟨pos, a⟩ := s
  rw [val_svFieldRound hstop]
  split_ifs
  · simp
  · split <;> simp
  · simp

/-- The field at `p` as the grammar has it. -/
def fieldAt (apdu : Ptr) (p : ℕ) : UInt8 × List UInt8 := (tagAt apdu p, valueAt apdu p)

/-- The elements that fill a range are found one after the other. -/
lemma seq_iff_path {fs : List (UInt8 × List UInt8)} (hp : p ≤ stop) :
    Tlv.Seq (fun f => Tlv.Elem f.1 f.2) fs (apdu.mem.slice (apdu.off + p) (stop - p)) ↔
      ∃ l, Loop.Path (ElemStep apdu stop) p l stop ∧ fs = l.map (fieldAt apdu) := by
  constructor
  · intro h
    induction fs generalizing p with
    | nil =>
      obtain rfl : p = stop := by have := Tlv.seq_nil_slice.mp h; omega
      exact ⟨[], .nil _, rfl⟩
    | cons f fs ih =>
      obtain ⟨k, hk, hf, hfs⟩ := Tlv.seq_cons_slice.mp h
      obtain ⟨htag, hok, hend, hvalue⟩ := elem_slice_iff.mp hf
      rw [Nat.add_assoc, Nat.sub_sub, hend] at hfs
      obtain ⟨l, hl, rfl⟩ := ih (by omega) hfs
      refine ⟨p :: l, .cons ⟨⟨hok, by omega⟩, rfl⟩ hl, ?_⟩
      rw [List.map_cons, fieldAt, htag, ← hvalue]
  · rintro ⟨l, hl, rfl⟩
    induction l generalizing p with
    | nil =>
      cases hl
      exact Tlv.seq_nil_slice.mpr (Nat.sub_self _)
    | cons x l ih =>
      cases hl with
      | cons hstep hrest =>
        obtain ⟨⟨hok, hend⟩, rfl⟩ := hstep
        have hlt := lt_valueEnd apdu x
        refine Tlv.seq_cons_slice.mpr ⟨valueEnd apdu x - x, by omega, ?_, ?_⟩
        · exact elem_slice_iff.mpr ⟨rfl, hok, by omega, rfl⟩
        · have := ih hend hrest
          rwa [Nat.add_assoc, show x + (valueEnd apdu x - x) = valueEnd apdu x by omega,
            show stop - x - (valueEnd apdu x - x) = stop - valueEnd apdu x by omega]

lemma path_le {q : ℕ} {l : List ℕ} (h : Loop.Path (ElemStep apdu stop) p l q) (hp : p ≤ stop) :
    q ≤ stop := by
  induction h with
  | nil => exact hp
  | cons hstep _ ih => exact ih (hstep.2 ▸ hstep.1.2)

lemma headLen_lt_of_path {q : ℕ} {l : List ℕ} (hstop : stop < 2 ^ 31)
    (h : Loop.Path (ElemStep apdu stop) p l q) : ∀ p ∈ l, headLen apdu p < 2 ^ 31 := by
  intro p hp
  obtain ⟨_, _, hstep⟩ := h.of_mem hp
  have := hstep.1.2
  have := headLen_le_valueEnd apdu p
  omega

/-- A field loop that gets through has seen fields of the grammar up to `stop`. -/
lemma path_of_svFields {a : AsduWalk} {r : ℕ × AsduWalk} (hstop : stop < 2 ^ 32)
    (hpos : pos ≤ stop) (ha : a.Consistent)
    (h : (Loop.run (svFieldRound apdu stop) fuel (pos, a)).val = some (.ok r)) :
    ∃ l, Loop.Path (ElemStep apdu stop) pos l stop ∧ FieldsOk apdu a.previousTag l ∧
      r = (stop, l.foldl (asduSet apdu) a) := by
  obtain ⟨s', hreach, hdone⟩ := Loop.reach_of_run h
  obtain ⟨hend, rfl⟩ : stop ≤ s'.1 ∧ r = s' := by
    rcases svFieldRound_done hstop hdone with ⟨hend, hr⟩ | hr | hr
    · exact ⟨hend, Except.ok.inj hr⟩
    all_goals cases hr
  suffices ∃ l, Loop.Path (ElemStep apdu stop) pos l r.1 ∧ FieldsOk apdu a.previousTag l ∧
      r.2 = l.foldl (asduSet apdu) a by
    obtain ⟨l, hl, hok, hr⟩ := this
    obtain rfl : r.1 = stop := le_antisymm (path_le hl hpos) hend
    exact ⟨l, hl, hok, Prod.ext rfl hr⟩
  clear hdone h hend hpos
  generalize hs : (pos, a) = s at hreach
  induction hreach using Relation.ReflTransGen.head_induction_on generalizing pos a with
  | refl =>
    subst hs
    exact ⟨[], .nil _, trivial, rfl⟩
  | head hstep _ ih =>
    subst hs
    obtain ⟨hfits, hlt, hfield, rfl⟩ := (svFieldRound_next_iff hstop ha).mp hstep
    obtain ⟨l, hl, hok, hr⟩ := ih (asduSet_consistent ha hlt) rfl
    exact ⟨pos :: l, .cons ⟨hfits, rfl⟩ hl, ⟨hlt, hfield, hok⟩, hr⟩

/-- Along fields of the grammar the loop gets through. -/
lemma svFields_of_path {a : AsduWalk} {l : List ℕ} (hstop : stop < 2 ^ 32) (ha : a.Consistent)
    (hl : Loop.Path (ElemStep apdu stop) pos l stop) (hok : FieldsOk apdu a.previousTag l) :
    ∃ n, (Loop.run (svFieldRound apdu stop) n (pos, a)).val =
      some (.ok (stop, l.foldl (asduSet apdu) a)) := by
  induction l generalizing pos a with
  | nil =>
    cases hl
    exact ⟨1, Loop.val_run_done (by rw [val_svFieldRound hstop, if_neg (lt_irrefl stop)]; rfl)⟩
  | cons _ l ih =>
    cases hl with
    | cons hstep hrest =>
      obtain ⟨hlt, hfield, hok⟩ := hok
      obtain ⟨n, hn⟩ := ih (asduSet_consistent ha hlt) hrest hok
      have hr := (svFieldRound_next_iff hstop ha).mpr ⟨hstep.1, hlt, hfield, rfl⟩
      exact ⟨n + 1, by rw [Loop.val_run_next hr, ← hstep.2, hn]; rfl⟩

variable (apdu) in
lemma svFields_isSome {s : ℕ × AsduWalk} (hstop : stop < 2 ^ 32) (hfuel : stop < fuel) :
    (Loop.run (svFieldRound apdu stop) fuel s).val.isSome := by
  refine Loop.run_isSome (fun _ => True) (fun s => stop - s.1) (fun s _ s' hr => ⟨trivial, ?_⟩)
    (fun s _ => svFieldRound_ne_hang hstop) fuel s trivial (by omega)
  obtain ⟨hlt, hend⟩ := svFieldRound_next_pos hstop hr
  have := lt_valueEnd apdu s.1
  omega

/-! ### One ASDU -/

/-- The five fields that must be there. -/
def AsduWalk.Complete (a : AsduWalk) : Prop :=
  a.foundSvid ∧ a.foundSmpCnt ∧ a.foundConfRev ∧ a.foundSmpSynch ∧ a.foundData

/-- The variables hold what the ASDU says. -/
structure AsduWalk.Is (a : AsduWalk) (asdu : SvAsdu) : Prop where
  svid : a.svid.bytes = asdu.svID
  smpCnt : a.smpCnt = UInt16.ofNat (beNat asdu.smpCnt)
  confRev : a.confRev = UInt32.ofNat (beNat asdu.confRev)

section Asdu

variable {l : List ℕ}

lemma FieldOk.tag_pos {tag : UInt8} {value : List UInt8} (h : FieldOk tag value) : 0 < tag := by
  rcases h with ⟨rfl, _⟩ | ⟨rfl, _⟩ | ⟨rfl, _⟩ | ⟨rfl, _⟩ | ⟨rfl, _⟩ | ⟨rfl, _⟩ | ⟨rfl, _⟩ |
    ⟨rfl, _⟩ | ⟨rfl, _⟩ <;> decide

lemma FieldOk.length_smpCnt {value : List UInt8} (h : FieldOk 0x82 value) : value.length = 2 := by
  simpa [FieldOk] using h

lemma FieldOk.length_confRev {value : List UInt8} (h : FieldOk 0x83 value) : value.length = 4 := by
  simpa [FieldOk] using h

lemma fieldsOk_iff {prev : UInt8} : FieldsOk apdu prev l ↔
    (prev :: (l.map (fieldAt apdu)).map Prod.fst).Pairwise (· < ·) ∧
      ∀ f ∈ l.map (fieldAt apdu), FieldOk f.1 f.2 := by
  induction l generalizing prev with
  | nil => simp [FieldsOk]
  | cons p l ih =>
    simp only [FieldsOk, ih, List.map_cons, List.forall_mem_cons]
    constructor
    · rintro ⟨hlt, hfield, hpair, hall⟩
      refine ⟨List.pairwise_cons.mpr ⟨fun t ht => ?_, hpair⟩, hfield, hall⟩
      rcases List.mem_cons.mp ht with rfl | ht
      · exact hlt
      · exact UInt8.lt_trans hlt (List.rel_of_pairwise_cons hpair ht)
    · rintro ⟨hpair, hfield, hall⟩
      exact ⟨List.rel_of_pairwise_cons hpair List.mem_cons_self, hfield,
        (List.pairwise_cons.mp hpair).2, hall⟩

lemma complete_iff : (l.foldl (asduSet apdu) {}).Complete ↔
    ∀ t ∈ [(0x80 : UInt8), 0x82, 0x83, 0x85, 0x87], t ∈ (l.map (fieldAt apdu)).map Prod.fst := by
  have hmem : ∀ t : UInt8, t ∈ (l.map (fieldAt apdu)).map Prod.fst ↔ ∃ p ∈ l, tagAt apdu p = t := by
    simp [fieldAt]
  rw [AsduWalk.Complete,
    foldl_found (t := 0x80) (asduSet apdu) AsduWalk.foundSvid fun _ _ => rfl,
    foldl_found (t := 0x82) (asduSet apdu) AsduWalk.foundSmpCnt fun _ _ => rfl,
    foldl_found (t := 0x83) (asduSet apdu) AsduWalk.foundConfRev fun _ _ => rfl,
    foldl_found (t := 0x85) (asduSet apdu) AsduWalk.foundSmpSynch fun _ _ => rfl,
    foldl_found (t := 0x87) (asduSet apdu) AsduWalk.foundData fun _ _ => rfl]
  simp only [List.forall_mem_cons, hmem]
  simp

/-- Fields that pass every check make an ASDU. -/
lemma exists_asdu (hok : FieldsOk apdu 0 l) (hall : (l.foldl (asduSet apdu) {}).Complete) :
    ∃ asdu : SvAsdu, asdu.fields = l.map (fieldAt apdu) := by
  obtain ⟨hpair, hfields⟩ := fieldsOk_iff.mp hok
  have hall := complete_iff.mp hall
  have hex : ∀ t ∈ [(0x80 : UInt8), 0x82, 0x83, 0x85, 0x87], ∃ v, (t, v) ∈ l.map (fieldAt apdu) :=
    fun t ht => by
      obtain ⟨⟨t', v⟩, hv, rfl⟩ := List.mem_map.mp (hall t ht)
      exact ⟨v, hv⟩
  obtain ⟨svID, hsvID⟩ := hex 0x80 (by simp)
  obtain ⟨smpCnt, hsmpCnt⟩ := hex 0x82 (by simp)
  obtain ⟨confRev, hconfRev⟩ := hex 0x83 (by simp)
  exact ⟨⟨l.map (fieldAt apdu), svID, smpCnt, confRev, (List.pairwise_cons.mp hpair).2, hfields,
    hsvID, hsmpCnt, hconfRev, hall 0x85 (by simp), hall 0x87 (by simp)⟩, rfl⟩

/-- And the fields of an ASDU pass every check, and leave its values behind. -/
lemma asdu_checked (asdu : SvAsdu) (h : asdu.fields = l.map (fieldAt apdu))
    (hlen : ∀ p ∈ l, headLen apdu p < 2 ^ 31) :
    FieldsOk apdu 0 l ∧ (l.foldl (asduSet apdu) {}).Complete ∧
      (l.foldl (asduSet apdu) {}).Is asdu := by
  have hfields := h ▸ asdu.ok
  have hval : ∀ {t : UInt8} {v : List UInt8}, (t, v) ∈ asdu.fields → ∃ p ∈ l, valueAt apdu p = v ∧
      FieldOk t (valueAt apdu p) ∧
      ∀ {α : Type} (f : ℕ → α) d, lastAt apdu t f d l = f p := by
    intro t v hv
    have hmem : ∃ p ∈ l, tagAt apdu p = t := by
      rw [h] at hv
      obtain ⟨p, hp, heq⟩ := List.mem_map.mp hv
      exact ⟨p, hp, congrArg Prod.fst heq⟩
    obtain ⟨p, hp, rfl, hlast⟩ := lastAt_of_mem hmem
    have hp' : fieldAt apdu p ∈ asdu.fields := h ▸ List.mem_map_of_mem hp
    exact ⟨p, hp, asdu.value_unique hp' hv, asdu.ok _ hp', hlast⟩
  refine ⟨?_, ?_, ?_, ?_, ?_⟩
  · refine fieldsOk_iff.mpr ⟨List.pairwise_cons.mpr ⟨fun t ht => ?_, h ▸ asdu.increasing⟩, hfields⟩
    obtain ⟨f, hf, rfl⟩ := List.mem_map.mp ht
    exact FieldOk.tag_pos (hfields f hf)
  · have hfst : ∀ {t : UInt8} {v : List UInt8}, (t, v) ∈ asdu.fields →
        t ∈ (l.map (fieldAt apdu)).map Prod.fst := fun hv => h ▸ List.mem_map_of_mem hv
    refine complete_iff.mpr ?_
    simp only [List.forall_mem_cons]
    exact ⟨hfst asdu.svID_mem, hfst asdu.smpCnt_mem, hfst asdu.confRev_mem,
      h ▸ asdu.smpSynch_mem, h ▸ asdu.data_mem, by simp⟩
  · obtain ⟨p, hp, hv, _, hlast⟩ := hval asdu.svID_mem
    rw [foldl_lastAt (asduSet apdu) AsduWalk.svid fun _ _ => rfl, hlast, bytes_viewAt (hlen p hp),
      hv]
  · obtain ⟨p, _, hv, hfield, hlast⟩ := hval asdu.smpCnt_mem
    have hl := hfield.length_smpCnt
    rw [length_valueAt] at hl
    rw [foldl_lastAt (asduSet apdu) AsduWalk.smpCnt fun _ _ => rfl, hlast,
      numberAt_eq (by omega) (by omega), hv]
  · obtain ⟨p, _, hv, hfield, hlast⟩ := hval asdu.confRev_mem
    have hl := hfield.length_confRev
    rw [length_valueAt] at hl
    rw [foldl_lastAt (asduSet apdu) AsduWalk.confRev fun _ _ => rfl, hlast,
      numberAt_eq (by omega) (by omega), hv]

end Asdu

end ProcessBus
