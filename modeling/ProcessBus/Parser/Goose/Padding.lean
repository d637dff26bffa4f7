import ProcessBus.Parser.Copies
import ProcessBus.Parser.Goose.Recorded

/-!
# Bytes behind an L2 GOOSE frame

The L2 parser decodes the length of the PDU and then walks to the end of the frame, so whatever
stands behind the PDU is taken for elements of it. An accepted frame of well-formed fields that is
padded stays what it was exactly if the padding is a chain of elements, too, and repeats what it
sets.
-/

namespace ProcessBus

variable {b b' : Ptr} {size size' start p q : ℕ} {l l₂ : List ℕ}

/-- The parser accepts the frame and reports what `r` does. -/
def Unchanged (buffer : Ptr) (size : Int32) (passport : GoosePassport) (state : GooseState)
    (r : GooseParse) : Prop :=
  Accepts (fun fuel => parseGoosePacket fuel buffer size passport state) fun r' =>
    r.passport.Same r'.passport ∧ r'.state = r.state ∧
      r'.passport.allDataOffset = r.passport.allDataOffset

/-- Where the last dataset starts, `d` if there is none. -/
def lastDataset (b : Ptr) (d : UInt16) (l : List ℕ) : UInt16 :=
  lastAt b 0xAB (fun p => UInt16.ofNat (headEnd b p)) d l

/-- What the elements of `l` set is what `r` reports already. -/
structure Repeats (b : Ptr) (l : List ℕ) (r : GooseParse) : Prop where
  records : Records b l r.passport r.state r.passport r.state
  dataset : lastDataset b r.passport.allDataOffset l = r.passport.allDataOffset

lemma allDataOffset_foldl (w : GooseWalk) : (l.foldl (gooseVisit b) w).passport.allDataOffset =
    lastDataset b w.passport.allDataOffset l :=
  foldl_lastAt (gooseVisit b) (fun w => w.passport.allDataOffset) fun w p => by rw [gooseVisit_eq]

/-! ### The same bytes in a longer frame -/

lemma copied_of_holds {bs cs : List UInt8} (h : b.mem.Holds b.off bs)
    (h' : b'.mem.Holds b'.off (bs ++ cs)) : Copied 0 0 bs.length b' b := by
  intro i _ hi
  obtain ⟨h', _⟩ := Mem.holds_append.mp h'
  rw [Nat.zero_add, h i hi, h' i hi]

/-- The header of the frame is in the part that both have. -/
lemma l2Header_of_copied {ty : UInt8} (h : Copied 0 0 size b' b) (hsize : 18 ≤ size) :
    (l2Header b' ty).val = (l2Header b ty).val := by
  have hexpect : ∀ es : List (ℕ × UInt8), (∀ e ∈ es, e.1 < 18) →
      (b'.expect es).val = (b.expect es).val := by
    intro es hes
    rw [Bool.eq_iff_iff, Ptr.val_expect, Ptr.val_expect]
    refine forall₂_congr fun e he => ?_
    have hbyte := h e.1 (Nat.zero_le _) ((hes e he).trans_le hsize)
    rw [Nat.zero_add] at hbyte
    rw [hbyte]
  simp only [l2Header, Traced.val_bind, Traced.val_ite, Traced.val_pure]
  rw [hexpect _ (by simp), hexpect _ (by simp)]

/-- The walk starts with the same destination and APPID. -/
lemma gooseStart_of_copied {pos : ℕ} {passport : GoosePassport} {state : GooseState}
    (h : Copied 0 0 size b' b) (hpos : pos ≤ 18) (hsize : 20 ≤ size) :
    gooseStart b' passport state pos = gooseStart b passport state pos := by
  have hslice := fun a n (ha : a + n ≤ size) => h.slice_eq (p := a) (n := n) (Nat.zero_le _) ha
  simp only [Nat.zero_add] at hslice
  have hmac : (MAC.read b').val = (MAC.read b).val :=
    (MAC.mk.injEq _ _ _ _).mpr <| hslice 0 6 (by omega)
  rw [gooseStart, gooseStart, hmac, hslice pos 2 (by omega)]

section Elements

variable (h : Copied 0 0 size b' b)
include h

lemma sameHead_of_fits (hfits : Fits b size p) : SameHead b b' p :=
  sameHead_of_copied <| h.mono (Nat.zero_le _) ((headEnd_le_valueEnd b p).trans hfits.2)

lemma fieldAt_of_fits (hfits : Fits b size p) : fieldAt b p = fieldAt b' p := by
  rw [fieldAt, fieldAt, (sameHead_of_fits h hfits).tag,
    valueAt_of_copied (h.mono (Nat.zero_le _) hfits.2)]

/-- The elements of the frame are in the longer one. -/
lemma elemPath_of_copied (hl : Loop.Path (ElemStep b size) p l q) :
    Loop.Path (ElemStep b' size) p l q := by
  refine hl.mono fun a _ c hstep => ?_
  obtain ⟨hfits, rfl⟩ := hstep
  have hsame := sameHead_of_fits h hfits
  exact ⟨hsame.fits_iff.mpr hfits, hsame.valueEnd.symm⟩

lemma lastDataset_of_copied {d : UInt16} (hfits : ∀ a ∈ l, Fits b size a) :
    lastDataset b' d l = lastDataset b d l := by
  refine List.foldl_ext _ _ _ fun d a ha => ?_
  have hsame := sameHead_of_fits h (hfits a ha)
  simp only [hsame.tag, hsame.headEnd]

end Elements

/-! ### Further elements -/

/-- The walk that has recorded `w` and goes on along `l` accepts and has recorded `w` still exactly
if the elements repeat it. -/
lemma repeats_iff {w w' : GooseWalk} (hsame : w.Same w') (hcode : (gooseFinish w).code = 0)
    (hdataset : w'.passport.allDataOffset = w.passport.allDataOffset) :
    ((gooseFinish (l.foldl (gooseVisit b) w')).code = 0 ∧
      w.passport.Same (l.foldl (gooseVisit b) w').passport ∧
      (l.foldl (gooseVisit b) w').state = w.state ∧
      (l.foldl (gooseVisit b) w').passport.allDataOffset = w.passport.allDataOffset) ↔
      Repeats b l (gooseFinish w) := by
  constructor
  · rintro ⟨_, hpass, hstate, hoffset⟩
    obtain ⟨_, hrecords⟩ := same_foldl_iff.mp ⟨hpass, hstate⟩
    rw [← hsame.state] at hrecords
    rw [allDataOffset_foldl, hdataset] at hoffset
    exact ⟨hrecords.congr hsame.passport.symm, hoffset⟩
  · rintro ⟨hrecords, hoffset⟩
    have hrecords' : Records b l w'.passport w'.state w.passport w.state :=
      hsame.state ▸ hrecords.congr hsame.passport
    obtain ⟨hpass, hstate⟩ := same_foldl_iff.mpr
      ⟨⟨hsame.passport.dmac, hsame.passport.appid, hsame.passport.dstIP⟩, hrecords'⟩
    refine ⟨(gooseFinish_code_iff _).mpr ?_, hpass, hstate, ?_⟩
    · obtain ⟨hentries, h80, h82, h83⟩ := (gooseFinish_code_iff w).mp hcode
      rw [hsame.foundGocbref] at h80
      rw [hsame.foundDataset] at h82
      rw [hsame.foundGoid] at h83
      refine ⟨?_, ?_, ?_, ?_⟩
      · rw [← hpass.foundEntries, ← hpass.num, hentries]
      · exact (foldl_found (t := 0x80) (gooseVisit b) GooseWalk.foundGocbref
          fun w p => by rw [gooseVisit_eq]).mpr (.inl h80)
      · exact (foldl_found (t := 0x82) (gooseVisit b) GooseWalk.foundDataset
          fun w p => by rw [gooseVisit_eq]).mpr (.inl h82)
      · exact (foldl_found (t := 0x83) (gooseVisit b) GooseWalk.foundGoid
          fun w p => by rw [gooseVisit_eq]).mpr (.inl h83)
    · rw [allDataOffset_foldl, hdataset]
      exact hoffset

/-! ### A padded frame -/

section Padded

variable {pos fuel : ℕ} {isize isize' : Int32} {passport : GoosePassport} {state : GooseState}
  {r : GooseParse}

variable (passport state r) in
/-- Of two frames with one header, the longer is walked from the same place. -/
lemma unchanged_iff_walk (h : Copied 0 0 size b' b) (hmin : 64 ≤ size)
    (hsize' : isize'.toInt = size') (hle : size ≤ size') (hpos : (l2Header b 0xB8).val = some pos)
    (htag : tagAt b (pos + 8) = 0x61) (hend : headEnd b (pos + 8) ≤ size) :
    Unchanged b' isize' passport state r ↔
      Accepts (fun fuel => gooseWalk b' (readTag b') size' fuel
        (headEnd b (pos + 8), gooseStart b passport state pos)) fun r' =>
          r.passport.Same r'.passport ∧ r'.state = r.state ∧
            r'.passport.allDataOffset = r.passport.allDataOffset := by
  have hle18 := l2Header_le hpos
  have hpos' : (l2Header b' 0xB8).val = some pos := by rw [l2Header_of_copied h (by omega), hpos]
  have hhead : SameHead b b' (pos + 8) := sameHead_of_copied (h.mono (Nat.zero_le _) hend)
  have hstart : gooseStart b' passport state pos = gooseStart b passport state pos :=
    gooseStart_of_copied h hle18 (by omega)
  have hnat : isize'.toInt.toNat = size' := by omega
  refine accepts_congr fun fuel => ?_
  rw [val_parseGoosePacket (by omega) hpos' (hhead.tag.trans htag), hnat, hhead.headEnd, hstart]

/-- What the frame records is what the walk over the longer one has recorded at its end. -/
lemma unchanged_iff_repeats {w : GooseWalk} (h : Copied 0 0 size b' b) (hsize : size ≤ 2 ^ 31)
    (hsize' : size' ≤ 2 ^ 31) (hle : size ≤ size') {skipTag : ℕ → Traced Event Unit}
    (hl : Loop.Path (ElemStep b size) start l size) (hok : ∀ f ∈ l.map (fieldAt b), ItemOk f)
    (hr : r = gooseFinish (l.foldl (gooseVisit b) w)) (hcode : r.code = 0) :
    (Accepts (fun fuel => gooseWalk b' skipTag size' fuel (start, w)) fun r' =>
      r.passport.Same r'.passport ∧ r'.state = r.state ∧
        r'.passport.allDataOffset = r.passport.allDataOffset) ↔
      ∃ l₂ q, Loop.Path (TopStep b' size') size l₂ q ∧ size' ≤ q ∧ Repeats b' l₂ r := by
  have hfits := fits_of_path hl
  have hl' := elemPath_of_copied h hl
  have hfields : l.map (fieldAt b) = l.map (fieldAt b') :=
    List.map_congr_left fun a ha => fieldAt_of_fits h (hfits a ha)
  -- the elements of the frame are steps of the longer walk, and record the same there
  have hpath : Loop.Path (TopStep b' size') start l size := by
    refine hl'.mono fun a ha c hstep => (topStep_of_item hsize hstep ?_).mono hle
    exact hok _ (hfields ▸ List.mem_map_of_mem ha)
  have hsame : (l.foldl (gooseVisit b) w).Same (l.foldl (gooseVisit b') w) :=
    GooseWalk.Same.foldl ⟨.refl _, rfl, rfl, rfl, rfl⟩ hsize hsize hfits (fits_of_path hl') hfields
      fun f hf => (hok f hf).dataset
  have hdataset : (l.foldl (gooseVisit b') w).passport.allDataOffset =
      (l.foldl (gooseVisit b) w).passport.allDataOffset := by
    rw [allDataOffset_foldl, allDataOffset_foldl, lastDataset_of_copied h hfits]
  rw [accepts_gooseWalk_iff hsize', hr]
  rw [hr] at hcode
  constructor
  · rintro ⟨l', q, hpath', hq, haccept⟩
    obtain ⟨l₂, rfl, hpath₂⟩ := hpath.split TopStep.rightUnique hpath' fun _ => not_topStep_of_le hq
    rw [List.foldl_append] at haccept
    exact ⟨l₂, q, hpath₂, hq, (repeats_iff hsame hcode hdataset).mp haccept⟩
  · rintro ⟨l₂, q, hpath₂, hq, hrepeats⟩
    refine ⟨l ++ l₂, q, hpath.append hpath₂, hq, ?_⟩
    rw [List.foldl_append]
    exact (repeats_iff hsame hcode hdataset).mpr hrepeats

end Padded

/-- An empty element stops the walk. -/
lemma not_topStep_of_zero (h : b.mem (b.off + (p + 1)) = 0) : ¬ TopStep b size p q := by
  intro hstep
  have hlen : headLen b p = 0 := by
    have hb : (b.mem (b.off + (p + 1))).toNat < 128 := by rw [h]; decide
    rw [(headOk_short b hb).2.2, h]
    rfl
  exact hstep.1.2.2 hlen

/-- A frame of well-formed fields is accepted, and its PDU ends with it. With bytes behind it the
frame is accepted with the same passport and state exactly if these are a chain of elements that
leads to the end and repeats what it sets. So zeros never will do. -/
theorem padding_unchanged_iff (frame pad : List UInt8) (buffer buffer' : Ptr) (size size' : Int32)
    (hsize : size.toInt = frame.length) (hsize' : size'.toInt = (frame ++ pad).length)
    (hmem : buffer.mem.Holds buffer.off frame)
    (hmem' : buffer'.mem.Holds buffer'.off (frame ++ pad)) (passport : GoosePassport)
    (state : GooseState) (fuel : ℕ) (r : GooseParse)
    (hrun : (parseGoosePacket fuel buffer size passport state).val = some r) (hcode : r.code = 0)
    (pos : ℕ) (hpos : (l2Header buffer 0xB8).val = some pos)
    (hend : valueEnd buffer (pos + 8) = frame.length) (fs : List (UInt8 × List UInt8))
    (hfs : Tlv.Elems fs (valueAt buffer (pos + 8))) (hwf : ∀ f ∈ fs, WellFormed f) :
    (Unchanged buffer' size' passport state r ↔
      ∃ l q, Loop.Path (TopStep buffer' (frame ++ pad).length) frame.length l q ∧
        (frame ++ pad).length ≤ q ∧ Repeats buffer' l r) ∧
    ∀ tag rest, pad = tag :: 0 :: rest → ¬ Unchanged buffer' size' passport state r := by
  obtain ⟨hmin, pos', hpos', htag, hwalk⟩ := walk_of_parseGoosePacket hrun hcode
  obtain rfl : pos = pos' := Option.some.inj (hpos.symm.trans hpos')
  have hcopied := copied_of_holds hmem hmem'
  have hnat : size.toInt.toNat = frame.length := by omega
  have hsize31 := toInt_toNat_le size
  have hsize31' := toInt_toNat_le size'
  rw [hnat] at hwalk hsize31
  rw [show size'.toInt.toNat = (frame ++ pad).length by omega] at hsize31'
  have hle : frame.length ≤ (frame ++ pad).length := by
    rw [List.length_append]
    exact Nat.le_add_right _ _
  have hhead : headEnd buffer (pos + 8) ≤ frame.length := hend ▸ headEnd_le_valueEnd _ _
  have hiff := unchanged_iff_walk passport state r hcopied (by omega) hsize' hle hpos htag hhead
  rw [valueAt_eq, hend] at hfs
  obtain ⟨l, hl, rfl, hok, hr⟩ := items_of_gooseWalk hsize31 hhead hfs hwf hwalk hcode
  have hrepeats := hiff.trans <|
    unchanged_iff_repeats hcopied hsize31 hsize31' hle hl hok hr hcode
  refine ⟨hrepeats, ?_⟩
  rintro tag rest rfl hunchanged
  obtain ⟨l₂, q, hpath, hq, _⟩ := hrepeats.mp hunchanged
  rw [List.length_append, List.length_cons] at hq
  cases hpath with
  | nil => omega
  | cons hstep _ =>
    obtain ⟨_, hrest⟩ := Mem.holds_append.mp hmem'
    obtain ⟨_, hrest⟩ := Mem.holds_cons.mp hrest
    obtain ⟨hzero, _⟩ := Mem.holds_cons.mp hrest
    exact not_topStep_of_zero (by rwa [Nat.add_assoc] at hzero) hstep

/-- The sample frame. -/
def sampleGooseFrame : List UInt8 := sampleL2Head.bytes 0xB8 ++ samplePdu

lemma wellFormed_sampleGooseFrame : ∃ fs,
    Tlv.Elems fs (valueAt (.ofBytes sampleGooseFrame) 22) ∧ ∀ f ∈ fs, WellFormed f := by
  obtain ⟨_, hrest⟩ := Mem.holds_append.mp (Ptr.holds_ofBytes sampleGooseFrame)
  obtain ⟨_, _, helems⟩ := elems_of_holds encodes_samplePdu hrest
  refine ⟨sampleGoosePdu.order, ?_, fun f hf => ?_⟩
  · have hend : valueEnd (.ofBytes sampleGooseFrame) 22 = 22 + samplePdu.length := by decide +kernel
    rwa [valueAt_eq, hend]
  · have hok := sampleGoosePdu.itemOk hf
    exact ⟨fun h => ⟨_, hok.dataset h⟩, hok.seq, hok.context⟩

lemma runs_sampleGooseFrame (pad : List UInt8) (n : Int32) (code : ℤ) (st : UInt32)
    (h : (parseGoosePacket 20 (.ofBytes (sampleGooseFrame ++ pad)) n {} {}).val.map
      (fun r => (r.code, r.state.stNum)) = some (code, st)) :
    ∃ r, (parseGoosePacket 20 (.ofBytes (sampleGooseFrame ++ pad)) n {} {}).val = some r ∧
      r.code = code ∧ r.state.stNum = st := by
  obtain ⟨r, hr, heq⟩ := Option.map_eq_some_iff.mp h
  exact ⟨r, hr, congrArg Prod.fst heq, congrArg Prod.snd heq⟩

/-- Zeros behind the sample frame. -/
theorem padding_unchanged_iff_sampleFrame :
    ∃ r, (parseGoosePacket 20 (.ofBytes sampleGooseFrame) 69 {} {}).val = some r ∧ r.code = 0 ∧
      valueEnd (.ofBytes sampleGooseFrame) 22 = sampleGooseFrame.length ∧
      ¬ Unchanged (.ofBytes (sampleGooseFrame ++ [0, 0])) 71 {} {} r := by
  obtain ⟨r, hrun, hcode, _⟩ := runs_sampleGooseFrame [] 69 0 5 (by decide +kernel)
  rw [List.append_nil] at hrun
  obtain ⟨fs, hfs, hwf⟩ := wellFormed_sampleGooseFrame
  have hend : valueEnd (.ofBytes sampleGooseFrame) (14 + 8) = sampleGooseFrame.length := by
    decide +kernel
  obtain ⟨_, hzeros⟩ := padding_unchanged_iff sampleGooseFrame [0, 0] (.ofBytes sampleGooseFrame)
    (.ofBytes (sampleGooseFrame ++ [0, 0])) 69 71 (by decide +kernel) (by decide +kernel)
    (Ptr.holds_ofBytes _) (Ptr.holds_ofBytes _) {} {} 20 r hrun hcode 14 (by decide +kernel) hend
    fs hfs hwf
  exact ⟨r, hrun, hcode, hend, hzeros 0 [] rfl⟩

/-- Two zeros behind the sample frame and it is refused; three other bytes, and it is accepted
with the state number they hold. -/
theorem padding_changes_sampleFrame :
    ∃ r, (parseGoosePacket 20 (.ofBytes sampleGooseFrame) 69 {} {}).val = some r ∧ r.code = 0 ∧
      valueEnd (.ofBytes sampleGooseFrame) 22 = sampleGooseFrame.length ∧
      ¬ Unchanged (.ofBytes (sampleGooseFrame ++ [0, 0])) 71 {} {} r ∧
      ¬ Unchanged (.ofBytes (sampleGooseFrame ++ [0x85, 1, 9])) 72 {} {} r ∧
      Accepts
        (fun fuel => parseGoosePacket fuel (.ofBytes (sampleGooseFrame ++ [0x85, 1, 9])) 72 {} {})
        (fun r' => r.state.stNum = 5 ∧ r'.state.stNum = 9) := by
  obtain ⟨r, hrun, hcode, hst⟩ := runs_sampleGooseFrame [] 69 0 5 (by decide +kernel)
  obtain ⟨r₁, hrun₁, hcode₁, _⟩ := runs_sampleGooseFrame [0, 0] 71 (-3) 5 (by decide +kernel)
  obtain ⟨r₂, hrun₂, hcode₂, hst₂⟩ := runs_sampleGooseFrame [0x85, 1, 9] 72 0 9
    (by decide +kernel)
  rw [List.append_nil] at hrun
  refine ⟨r, hrun, hcode, by decide +kernel, fun h => ?_, fun h => ?_, ?_⟩
  · have hzero := (h.of_run parseGoosePacket_mono hrun₁).1
    rw [hcode₁] at hzero
    exact absurd hzero (by decide)
  · have hsame := (h.of_run parseGoosePacket_mono hrun₂).2.2.1
    rw [← hsame] at hst
    rw [hst₂] at hst
    exact absurd hst (by decide)
  · exact accepts_of_run parseGoosePacket_mono hrun₂ hcode₂ ⟨hst, hst₂⟩

end ProcessBus
