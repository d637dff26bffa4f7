import ProcessBus.Parser.Goose.Correctness

/-!
# The copied walk

`parse_r_goose_packet` repeats the walk of `parse_goose_packet` on its APDU, which an L2 frame
has `d` bytes further on. The cursors of the two walks differ by `d` as long as no length is
negative: a cursor only wraps behind a negative length, and then it matters where it was.

Inside allData nothing has to be assumed, for there a negative length is refused.
-/

namespace ProcessBus

open Relation

/-- What stands behind `apdu` stands `d` bytes behind `frame`. -/
def Shifted (d : ℕ) (frame apdu : Ptr) : Prop :=
  ∀ i, frame.mem (frame.off + (d + i)) = apdu.mem (apdu.off + i)

variable {d : ℕ} {frame apdu : Ptr} {p pos stop size fuel start : ℕ}

/-! ### The same elements -/

namespace Shifted

lemma byte (h : Shifted d frame apdu) {a b : ℕ} (ha : a = frame.off + d + b) :
    frame.mem a = apdu.mem (apdu.off + b) := by
  rw [ha, Nat.add_assoc, h]

lemma slice (h : Shifted d frame apdu) {a b : ℕ} (ha : a = frame.off + d + b) (n : ℕ) :
    frame.mem.slice a n = apdu.mem.slice (apdu.off + b) n :=
  List.map_congr_left fun i _ => by
    rw [Nat.add_assoc, ← h.byte (a := a + i) (by omega)]

lemma tagAt_eq (h : Shifted d frame apdu) : tagAt frame (d + p) = tagAt apdu p := h p

lemma headEnd_eq (h : Shifted d frame apdu) : headEnd frame (d + p) = d + headEnd apdu p := by
  simp only [headEnd, lenSize]
  rw [h.byte (b := p + 1) (by omega)]
  omega

lemma headLen_eq (h : Shifted d frame apdu) : headLen frame (d + p) = headLen apdu p := by
  simp only [headLen, lenValue]
  rw [h.byte (b := p + 1) (by omega), h.slice (b := p + 1 + 1) (by omega),
    Nat.add_assoc apdu.off (p + 1) 1]

/-- The end of an element whose length is not negative. -/
lemma elemEnd_eq (h : Shifted d frame apdu) (hp : d + p < 2 ^ 30) (hlen : headLen apdu p < 2 ^ 31) :
    elemEnd frame (d + p) = d + elemEnd apdu p := by
  have hle := headEnd_le apdu p
  simp only [elemEnd, h.headEnd_eq, h.headLen_eq]
  rw [u32_of_lt (by omega), u32_of_lt (by omega), Nat.add_assoc]

lemma isNested_iff (h : Shifted d frame apdu) : IsNested frame (d + p) ↔ IsNested apdu p := by
  rw [IsNested, IsNested, h.tagAt_eq]

/-- A dataset entry; whether its length is negative is checked here. -/
lemma entryAt_iff (h : Shifted d frame apdu) (hp : d + p < 2 ^ 30) :
    EntryAt frame (d + stop) (d + p) ↔ EntryAt apdu stop p := by
  by_cases hlen : headLen apdu p < 2 ^ 31
  · simp only [EntryAt, h.headLen_eq, h.elemEnd_eq hp hlen]
    omega
  · simp only [EntryAt, h.headLen_eq, hlen, false_and, and_false]

lemma itemAt_iff (h : Shifted d frame apdu) (hp : d + p < 2 ^ 30)
    (hlen : headLen apdu p < 2 ^ 31) :
    ItemAt frame (d + size) (d + p) ↔ ItemAt apdu size p := by
  simp only [ItemAt, h.headLen_eq, h.elemEnd_eq hp hlen]
  omega

lemma contextEnd_eq (h : Shifted d frame apdu) (hp : d + p < 2 ^ 30 - 129)
    (hlen : headLen apdu (headEnd apdu p - 1) < 2 ^ 31) :
    contextEnd frame (d + p) = d + contextEnd apdu p := by
  have hle := headEnd_le apdu p
  have hlt := lt_headEnd apdu p
  simp only [contextEnd]
  rw [h.headEnd_eq, Nat.add_sub_assoc (by omega), h.elemEnd_eq (by omega) hlen]

end Shifted

/-! ### The same dataset -/

/-- A round on an entry, whatever it does, does the same on its copy. -/
lemma Shifted.rel_alldataRound (h : Shifted d frame apdu) (hstop : d + stop < 2 ^ 30)
    {nested nested' : ℕ → ℕ → Traced Event (Option ℤ)} {num : ℤ}
    (hnested : ∀ a b, b ≤ stop → (nested (d + a) (d + b)).val = (nested' a b).val) :
    Round.Rel Eq (fun s s' => s.1 = d + s'.1 ∧ s.2 = s'.2)
      (alldataRound frame nested (d + stop) (d + pos, num)).val
      (alldataRound apdu nested' stop (pos, num)).val := by
  rw [val_alldataRound (by omega), val_alldataRound (by omega)]
  by_cases hpos : pos < stop
  · rw [if_pos (by omega), if_pos hpos]
    by_cases hentry : EntryAt apdu stop pos
    · have hend := h.elemEnd_eq (p := pos) (by omega) hentry.2.1
      rw [if_pos ((h.entryAt_iff (by omega)).mpr hentry), if_pos hentry]
      by_cases hn : IsNested apdu pos
      · rw [if_pos (h.isNested_iff.mpr hn), if_pos hn]
        refine Loop.rel_inner (A := Eq) ?_ ?_
        · rw [hend, h.headEnd_eq, hnested _ _ hentry.2.2]
          exact Loop.optionRel_eq_iff.mpr rfl
        · rintro n _ rfl
          rw [Traced.val_ite, Traced.val_ite]
          split_ifs
          · exact .done rfl
          · exact .next ⟨hend, rfl⟩
      · rw [if_neg (mt h.isNested_iff.mp hn), if_neg hn]
        exact .next ⟨hend, rfl⟩
    · rw [if_neg (mt (h.entryAt_iff (by omega)).mp hentry), if_neg hentry]
      exact .done rfl
  · rw [if_neg (by omega), if_neg hpos]
    exact .done rfl

/-- `parse_alldata` counts the same entries. -/
lemma Shifted.parseAlldataRoom_eq (h : Shifted d frame apdu) {room : ℕ}
    (hstop : d + stop < 2 ^ 30) :
    (parseAlldataRoom frame fuel room (d + pos) (d + stop)).val =
      (parseAlldataRoom apdu fuel room pos stop).val := by
  induction room generalizing pos stop with
  | zero => rfl
  | succ room ih =>
    apply Loop.optionRel_eq_iff.mp
    refine Loop.run_rel (fun s s' => s.1 = d + s'.1 ∧ s.2 = s'.2) ?_ fuel _ _ ⟨rfl, rfl⟩
    rintro ⟨_, num⟩ ⟨q, num'⟩ ⟨hpos, hnum⟩
    dsimp only at hpos hnum
    subst hpos hnum
    exact h.rel_alldataRound hstop fun a b hb => ih (by omega)

/-! ### The same fields -/

/-- The two walks have found the same. The offset of allData counts from where each began. -/
structure GooseWalk.Agrees (d : ℕ) (w w' : GooseWalk) : Prop where
  gocbref : w.passport.gocbref.bytes = w'.passport.gocbref.bytes
  dataset : w.passport.dataset.bytes = w'.passport.dataset.bytes
  goid : w.passport.goid.bytes = w'.passport.goid.bytes
  crev : w.passport.crev = w'.passport.crev
  num : w.passport.num = w'.passport.num
  foundEntries : w.passport.foundEntries = w'.passport.foundEntries
  allDataOffset : (w.passport.allDataOffset = 0 ∧ w'.passport.allDataOffset = 0) ∨
    w.passport.allDataOffset = w'.passport.allDataOffset + UInt16.ofNat d
  state : w.state = w'.state
  foundGocbref : w.foundGocbref = w'.foundGocbref
  foundDataset : w.foundDataset = w'.foundDataset
  foundGoid : w.foundGoid = w'.foundGoid

/-- The two parsers report the same. -/
structure GooseParse.Agrees (d : ℕ) (r r' : GooseParse) : Prop where
  code : r.code = r'.code
  gocbref : r.passport.gocbref.bytes = r'.passport.gocbref.bytes
  dataset : r.passport.dataset.bytes = r'.passport.dataset.bytes
  goid : r.passport.goid.bytes = r'.passport.goid.bytes
  crev : r.passport.crev = r'.passport.crev
  num : r.passport.num = r'.passport.num
  foundEntries : r.passport.foundEntries = r'.passport.foundEntries
  timestamp : r.state.timestamp = r'.state.timestamp
  stNum : r.state.stNum = r'.state.stNum
  sqNum : r.state.sqNum = r'.state.sqNum
  allDataOffset : (r.passport.allDataOffset = 0 ∧ r'.passport.allDataOffset = 0) ∨
    r.passport.allDataOffset = r'.passport.allDataOffset + UInt16.ofNat d

variable {w w' : GooseWalk}

/-- A walk that stops here, with a code of its own. -/
lemma GooseWalk.Agrees.withCode (h : w.Agrees d w') (code : ℤ) :
    GooseParse.Agrees d ⟨code, w.passport, w.state⟩ ⟨code, w'.passport, w'.state⟩ where
  code := rfl
  gocbref := h.gocbref
  dataset := h.dataset
  goid := h.goid
  crev := h.crev
  num := h.num
  foundEntries := h.foundEntries
  timestamp := by rw [h.state]
  stNum := by rw [h.state]
  sqNum := by rw [h.state]
  allDataOffset := h.allDataOffset

lemma GooseWalk.Agrees.finish (h : w.Agrees d w') :
    GooseParse.Agrees d (gooseFinish w) (gooseFinish w') := by
  have hcode : (gooseFinish w).code = (gooseFinish w').code := by
    simp only [gooseFinish, h.foundEntries, h.num, h.foundGocbref, h.foundDataset, h.foundGoid]
  exact { h.withCode (gooseFinish w).code with code := hcode }

lemma Shifted.bytes_makeStringview (h : Shifted d frame apdu) (n : ℕ) :
    (makeStringview (frame.add (d + pos)) n).bytes = (makeStringview (apdu.add pos) n).bytes :=
  h.slice (by simp [makeStringview]; omega) _

lemma Shifted.decodeAsn1Number_eq (h : Shifted d frame apdu) (n : ℕ) :
    (decodeAsn1Number (frame.add (d + pos)) n).val = (decodeAsn1Number (apdu.add pos) n).val := by
  rw [val_decodeAsn1Number, val_decodeAsn1Number, Ptr.mem_add, Ptr.mem_add, Ptr.off_add,
    Ptr.off_add, h.slice (b := pos) (by omega)]

/-- An element that sets a field sets it alike. -/
lemma Shifted.agrees_gooseField (h : Shifted d frame apdu) (hw : w.Agrees d w') (tag : UInt8)
    (n : ℕ) :
    (gooseField frame w tag (d + pos) n).val.Agrees d (gooseField apdu w' tag pos n).val := by
  have hnum : (decodeAsn1Number (frame.add (d + pos)) n).val =
      (decodeAsn1Number (apdu.add pos) n).val := h.decodeAsn1Number_eq n
  refine Traced.rel_ite (fun _ => ?_) fun _ => ?_
  · exact { hw with gocbref := h.bytes_makeStringview n, foundGocbref := rfl }
  refine Traced.rel_ite (fun _ => ?_) fun _ => ?_
  · exact { hw with dataset := h.bytes_makeStringview n, foundDataset := rfl }
  refine Traced.rel_ite (fun _ => ?_) fun _ => ?_
  · exact { hw with goid := h.bytes_makeStringview n, foundGoid := rfl }
  refine Traced.rel_ite (fun _ => Traced.rel_ite (fun _ => ?_) fun _ => hw) fun _ => ?_
  · refine { hw with state := ?_ }
    simp only [Traced.val_bind, Traced.val_pure, Ptr.val_load, hw.state]
    rw [h.slice (b := pos) (by omega)]
  refine Traced.rel_ite (fun _ => ?_) fun _ => ?_
  · exact { hw with state := by simp only [Traced.val_bind, Traced.val_pure, hnum, hw.state] }
  refine Traced.rel_ite (fun _ => ?_) fun _ => ?_
  · exact { hw with state := by simp only [Traced.val_bind, Traced.val_pure, hnum, hw.state] }
  refine Traced.rel_ite (fun _ => ?_) fun _ => ?_
  · exact { hw with crev := by simp only [Traced.val_bind, Traced.val_pure, hnum] }
  refine Traced.rel_ite (fun _ => ?_) fun _ => hw
  · exact { hw with num := by simp only [Traced.val_bind, Traced.val_pure, hnum] }

/-! ### The same walk -/

/-- No length along the walk over `size` bytes is negative: none of a top-level element, none
inside a sequence or set, and none that the content of an `0xA0` or `0xA1` is taken for. -/
structure NoNegativeLength (buffer : Ptr) (size start : ℕ) : Prop where
  item : ∀ p, ReflTransGen (TopStep buffer size) start p → p < size →
    headLen buffer p < 2 ^ 31
  sequence : ∀ p, ReflTransGen (TopStep buffer size) start p → ItemAt buffer size p →
    tagAt buffer p = 0x30 ∨ tagAt buffer p = 0x31 →
    ∀ q, ReflTransGen (SkipStep buffer (elemEnd buffer p)) (headEnd buffer p) q →
      q < elemEnd buffer p → headLen buffer q < 2 ^ 31
  context : ∀ p, ReflTransGen (TopStep buffer size) start p → ItemAt buffer size p →
    tagAt buffer p = 0xA0 ∨ tagAt buffer p = 0xA1 →
    headLen buffer (headEnd buffer p - 1) < 2 ^ 31

/-- The inner loop of a sequence or set leaves at the same place, whether it reads the tags or
steps over them. -/
lemma Shifted.rel_skip (h : Shifted d frame apdu) (hstop : d + stop < 2 ^ 30)
    (hlen : ∀ q, ReflTransGen (SkipStep apdu stop) pos q → q < stop → headLen apdu q < 2 ^ 31)
    (tag tag' : ℕ → Traced Event Unit) :
    Option.Rel (fun q q' => q = d + q' ∧ SkipTo apdu stop pos q')
      (Loop.run (skipRound frame tag (d + stop)) fuel (d + pos)).val
      (Loop.run (skipRound apdu tag' stop) fuel pos).val := by
  refine Loop.run_rel
    (fun q q' => q = d + q' ∧ ReflTransGen (SkipStep apdu stop) pos q') ?_ fuel _ _
    ⟨rfl, .refl⟩
  rintro _ q ⟨rfl, hreach⟩
  rw [val_skipRound (by omega), val_skipRound (by omega)]
  by_cases hq : q < stop
  · rw [if_pos (by omega), if_pos hq]
    exact .next ⟨h.elemEnd_eq (by omega) (hlen q hreach hq), hreach.tail ⟨hq, rfl⟩⟩
  · rw [if_neg (by omega), if_neg hq]
    exact .done ⟨rfl, hreach, by omega⟩

/-- One element, visited by both walks. -/
lemma Shifted.rel_gooseRound (h : Shifted d frame apdu) (hsize : d + size < 2 ^ 30 - 129)
    (hlen : NoNegativeLength apdu size start)
    (hreach : ReflTransGen (TopStep apdu size) start p) (hw : w.Agrees d w')
    (fuel : ℕ) (tag tag' : ℕ → Traced Event Unit) :
    Round.Rel (GooseParse.Agrees d) (fun s s' => s.1 = d + s'.1 ∧ s.2.Agrees d s'.2)
      (gooseRound frame tag (d + size) fuel (d + p, w)).val
      (gooseRound apdu tag' size fuel (p, w')).val := by
  rw [val_gooseRound (by omega), val_gooseRound (by omega)]
  simp only [h.tagAt_eq]
  by_cases hp : p < size
  · have hneg := hlen.item p hreach hp
    have hend := h.elemEnd_eq (by omega) hneg
    rw [if_pos (by omega), if_pos hp]
    by_cases hitem : ItemAt apdu size p
    · have hstop := hitem.2.1
      rw [if_pos ((h.itemAt_iff (by omega) hneg).mpr hitem), if_pos hitem, h.headEnd_eq, hend]
      split_ifs with hdata hseq hctx
      · refine Loop.rel_inner (A := Eq)
          (Loop.optionRel_eq_iff.mpr (h.parseAlldataRoom_eq (by omega))) ?_
        rintro num _ rfl
        rw [Traced.val_ite, Traced.val_ite]
        split_ifs
        · exact .done (hw.withCode _)
        · refine .next ⟨rfl, { hw with foundEntries := rfl, allDataOffset := .inr ?_ }⟩
          simp only [UInt16.ofNat_add]
          exact UInt16.add_comm _ _
      · refine Loop.rel_inner (h.rel_skip (by omega) (hlen.sequence p hreach hitem hseq) _ _) ?_
        rintro q q' ⟨hq, _⟩
        exact .next ⟨hq, hw⟩
      · exact .next ⟨h.contextEnd_eq (by omega) (hlen.context p hreach hitem hctx), hw⟩
      · rw [h.headLen_eq]
        exact .next ⟨rfl, h.agrees_gooseField hw _ _⟩
    · rw [if_neg (mt (h.itemAt_iff (by omega) hneg).mp hitem), if_neg hitem]
      exact .done (hw.withCode _)
  · rw [if_neg (by omega), if_neg hp]
    exact .done hw.finish

/-- The two walks return the same, or neither has returned yet. -/
theorem Shifted.rel_gooseWalk (h : Shifted d frame apdu) (hsize : d + size < 2 ^ 30 - 129)
    (hlen : NoNegativeLength apdu size start) (hw : w.Agrees d w')
    (fuel : ℕ) (tag tag' : ℕ → Traced Event Unit) :
    Option.Rel (GooseParse.Agrees d) (gooseWalk frame tag (d + size) fuel (d + start, w)).val
      (gooseWalk apdu tag' size fuel (start, w')).val := by
  refine Loop.run_rel (fun s s' => (s.1 = d + s'.1 ∧ s.2.Agrees d s'.2) ∧
    ReflTransGen (TopStep apdu size) start s'.1) ?_ fuel _ _ ⟨⟨rfl, hw⟩, .refl⟩
  rintro ⟨_, v⟩ ⟨p, v'⟩ ⟨⟨hp, hv⟩, hreach⟩
  dsimp only at hp
  subst hp
  have hround := h.rel_gooseRound hsize hlen hreach hv fuel tag tag'
  generalize (gooseRound frame tag (d + size) fuel (d + p, v)).val = t at hround
  generalize ht' : (gooseRound apdu tag' size fuel (p, v')).val = t' at hround
  cases hround with
  | done hres => exact .done hres
  | next hnext => exact .next ⟨hnext, hreach.tail (gooseRound_next (by omega) ht').1⟩
  | hang => exact .hang

/-! ### Both return -/

lemma lt_elemEnd (hp : p < 2 ^ 30) (hlen : headLen apdu p < 2 ^ 31) : p < elemEnd apdu p := by
  have hlt := lt_headEnd apdu p
  have hle := headEnd_le apdu p
  rw [elemEnd, u32_of_lt (by omega)]
  omega

/-- Without negative lengths a dataset is walked in one direction. -/
lemma dataEnds_of_le {room : ℕ} (hstop : stop < 2 ^ 30) : DataEnds apdu room pos stop := by
  induction room generalizing pos stop with
  | zero => trivial
  | succ room ih =>
    refine ⟨Loop.not_recurs_of_lt fun b c _ hstep => ?_, fun p _ hentry _ => ?_⟩
    · rw [hstep.2.2]
      exact lt_elemEnd (by have := hstep.1.1; omega) hstep.1.2.1
    · exact ih (by have := hentry.2.2; omega)

lemma SkipTo.le {q : ℕ} (hstop : stop < 2 ^ 30)
    (hlen : ∀ q, ReflTransGen (SkipStep apdu stop) pos q → q < stop → headLen apdu q < 2 ^ 31)
    (h : SkipTo apdu stop pos q) : pos ≤ q := by
  have hreach := h.1
  clear h
  induction hreach with
  | refl => exact le_rfl
  | tail hrest hstep ih =>
    obtain ⟨hlt, rfl⟩ := hstep
    exact ih.trans (lt_elemEnd (by omega) (hlen _ hrest hlt)).le

lemma NoNegativeLength.walkEnds (h : NoNegativeLength apdu size start)
    (hsize : size < 2 ^ 30 - 129) : WalkEnds apdu size start := by
  refine ⟨Loop.not_recurs_of_lt fun p q hreach hstep => ?_, fun p hreach hitem => ⟨?_, ?_⟩⟩
  · obtain ⟨hitem, hq⟩ := hstep
    have hneg := h.item p hreach hitem.1
    have hp : p < 2 ^ 30 := by have := hitem.1; omega
    have hend := lt_elemEnd hp hneg
    have hhead := lt_headEnd apdu p
    split_ifs at hq with hdata hseq hctx
    · rw [hq.2]
      exact hend
    · have := SkipTo.le (by have := hitem.2.1; omega) (h.sequence p hreach hitem hseq) hq
      omega
    · have hle := headEnd_le apdu p
      have := lt_elemEnd (p := headEnd apdu p - 1) (by have := hitem.1; omega)
        (h.context p hreach hitem hctx)
      rw [hq, contextEnd]
      omega
    · rw [hq]
      exact hend
  · intro _
    exact dataEnds_of_le (by have := hitem.2.1; omega)
  · intro hseq
    refine Loop.not_recurs_of_lt fun q r hq hstep => ?_
    obtain ⟨hlt, rfl⟩ := hstep
    exact lt_elemEnd (by have := hitem.2.1; omega) (h.sequence p hreach hitem hseq q hq hlt)

/-! ### The parsers -/

lemma shifted_of_holdsThen {h a : List UInt8} {s : ℕ → UInt8}
    (hframe : frame.HoldsThen (h ++ a) s) (hapdu : apdu.HoldsThen a s) :
    Shifted h.length frame apdu := by
  intro i
  obtain ⟨_, hbody⟩ := Mem.holds_append.mp hframe.1
  by_cases hi : i < a.length
  · rw [← Nat.add_assoc, hbody i hi, hapdu.1 i hi]
  · obtain ⟨j, rfl⟩ : ∃ j, i = a.length + j := ⟨i - a.length, by omega⟩
    have htail := hframe.2 j
    rw [List.length_append, Nat.add_assoc] at htail
    rw [htail, hapdu.2 j]

/-- The copied walk agrees with the original on every APDU, well-formed or not: behind an
untagged header, both parsers return, with the same code and the same findings. -/
theorem goose_walks_agree (h : L2Head) (huntagged : h.vlan = none) (a : List UInt8)
    (hmin : 42 ≤ a.length) (hmax : a.length ≤ 65535) (s : ℕ → UInt8) (frame apdu : Ptr)
    (hframe : frame.HoldsThen (h.bytes 0xB8 ++ a) s) (hapdu : apdu.HoldsThen a s)
    (hlen : tagAt apdu 0 = 0x61 → NoNegativeLength apdu a.length (headEnd apdu 0))
    (size apduSize : Int32) (hsize : size.toInt = 22 + a.length)
    (hapduSize : apduSize.toInt = a.length) (dmac : MAC) (appid : UInt16) :
    ∃ r r' f, (∀ fuel, f ≤ fuel →
        (parseGoosePacket fuel frame size {} {}).val = some r ∧
        (parseGooseApdu fuel apdu apduSize { dmac := dmac, appid := appid } {}).val = some r') ∧
      r.Agrees 22 r' := by
  have happidAt : h.appidAt 0xB8 = 14 := by simp [L2Head.appidAt, L2Head.types, huntagged]
  have hlength : (h.bytes 0xB8).length = 22 := by rw [h.length_bytes, happidAt]
  have hshift := shifted_of_holdsThen hframe hapdu
  rw [hlength] at hshift
  have hheader := L2Head.val_l2Header (Mem.holds_append.mp hframe.1).1
  rw [happidAt] at hheader
  have htag : tagAt frame 22 = tagAt apdu 0 := hshift.tagAt_eq (p := 0)
  let w := gooseStart frame {} {} 14
  let w' : GooseWalk := { passport := { dmac := dmac, appid := appid }, state := {} }
  have hw : w.Agrees 22 w' := ⟨rfl, rfl, rfl, rfl, rfl, rfl, .inl ⟨rfl, rfl⟩, rfl, rfl, rfl, rfl⟩
  by_cases h61 : tagAt apdu 0 = 0x61
  · have hno := hlen h61
    obtain ⟨f, hf⟩ := (gooseWalk_halts (fun _ => pure ()) (by omega)
      (headEnd apdu 0, w')).mpr (hno.walkEnds (by omega))
    obtain ⟨r', hr'⟩ := Option.isSome_iff_exists.mp hf
    have hrel := hshift.rel_gooseWalk (by omega) hno hw f (readTag frame)
      (fun _ => pure ())
    rw [hr'] at hrel
    generalize hr : (gooseWalk frame (readTag frame) (22 + a.length) f
      (22 + headEnd apdu 0, w)).val = t at hrel
    cases hrel with
    | @some r _ hagrees =>
      refine ⟨r, r', f, fun fuel hfuel => ⟨?_, ?_⟩, hagrees⟩
      · rw [val_parseGoosePacket (by omega) hheader (htag.trans h61),
          show size.toInt.toNat = 22 + a.length by omega, ← hshift.headEnd_eq] at *
        exact gooseWalk_mono (by omega) hfuel hr
      · rw [val_parseGooseApdu (by omega) h61, show apduSize.toInt.toNat = a.length by omega]
        exact gooseWalk_mono (by omega) hfuel hr'
  · refine ⟨_, _, 0, fun fuel _ => ⟨?_, ?_⟩, hw.withCode (-3)⟩
    · have h61' : ¬ frame.mem (frame.off + 22) = 0x61 := fun hc => h61 (htag.symm.trans hc)
      simp only [parseGoosePacket, if_neg (show ¬ size.toInt < 64 by omega), Traced.val_bind,
        hheader, Ptr.val_get]
      rw [if_pos h61']
      simp [w, gooseStart]
    · have h61' : ¬ apdu.mem (apdu.off + 0) = 0x61 := h61
      simp only [parseGooseApdu, if_neg (show ¬ apduSize.toInt < 2 by omega), Traced.val_bind,
        Ptr.val_get]
      rw [if_pos h61']
      rfl

/-- A malformed APDU that goes through a sequence and a context-specific element. -/
def oddApdu : List UInt8 :=
  [0x61, 40, 0x30, 4, 0x04, 0x02, 1, 1, 0xA0, 1, 0, 0x80, 1, 0x41] ++ List.replicate 28 0

def oddL2Head : L2Head where
  addresses := [0x01, 0x0C, 0xCD, 0x01, 0, 0, 0, 0, 0, 0, 0, 0]
  vlan := none
  appid := [0, 1]
  rest := [0, 50, 0, 0, 0, 0]
  addresses_length := rfl
  vlan_length := L2Head.vlan_length_none
  appid_length := appid_length_one
  rest_length := rfl

lemma noNegativeLength_of_forall {buffer : Ptr}
    (h : ∀ p < size + 129, headLen buffer p < 2 ^ 31) : NoNegativeLength buffer size start where
  item p _ hp := h p (by omega)
  sequence p _ hitem _ q _ hq := h q (by have := hitem.2.1; omega)
  context p _ hitem _ := h _ (by have := headEnd_le buffer p; have := hitem.1; omega)

theorem goose_walks_agree_oddApdu :
    (tagAt (.ofBytes oddApdu) 0 = 0x61 → NoNegativeLength (.ofBytes oddApdu) 42 2) ∧
    ∃ r r' f, (∀ fuel, f ≤ fuel →
        (parseGoosePacket fuel (.ofBytes (oddL2Head.bytes 0xB8 ++ oddApdu)) 64 {} {}).val = some r ∧
        (parseGooseApdu fuel (.ofBytes oddApdu) 42 {} {}).val = some r') ∧
      r.Agrees 22 r' := by
  have hno : NoNegativeLength (.ofBytes oddApdu) 42 2 :=
    noNegativeLength_of_forall (by decide +kernel)
  refine ⟨fun _ => hno, goose_walks_agree oddL2Head rfl oddApdu (by decide) (by decide)
    (fun _ => 0) (.ofBytes (oddL2Head.bytes 0xB8 ++ oddApdu)) (.ofBytes oddApdu)
    (Ptr.holdsThen_ofBytes _) (Ptr.holdsThen_ofBytes _) (fun _ => hno) 64 42 (by decide)
    (by decide) default 0⟩

end ProcessBus
