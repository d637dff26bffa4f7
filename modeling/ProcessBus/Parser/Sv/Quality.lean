import ProcessBus.Parser.Copies
import ProcessBus.Parser.Sv.Correctness

/-!
# The sample values of an APDU do not matter, their Quality does

The octets of the `0x87` fields of an accepted APDU are replaced and the walk is run again. Both
walks go from one element to the next in step, since no head of an element is touched. They part
at the first Quality word that is not good any more, and there the second walk returns.
-/

namespace ProcessBus

open Relation

variable {apdu apdu' : Ptr} {stop pos p q fuel : ℕ}

/-! ### Elements one after the other -/

/-- `p` is one of the elements that follow each other from `pos` on and end before `stop`. -/
def ElemAt (buffer : Ptr) (stop pos p : ℕ) : Prop :=
  ReflTransGen (ElemStep buffer stop) pos p ∧ Fits buffer stop p

lemma ElemAt.le (h : ElemAt apdu stop pos p) : pos ≤ p := by
  obtain ⟨hreach, _⟩ := h
  induction hreach with
  | refl => exact le_rfl
  | tail _ hstep ih =>
    obtain ⟨hfits, rfl⟩ := hstep
    exact (ih hfits).trans (lt_valueEnd apdu _).le

lemma not_elemAt_end : ¬ ElemAt apdu stop stop p := fun h => by
  have hle := h.le
  have hlt := lt_valueEnd apdu p
  have hend := h.2.2
  omega

lemma elemAt_iff (hfits : Fits apdu stop pos) :
    ElemAt apdu stop pos p ↔ p = pos ∨ ElemAt apdu stop (valueEnd apdu pos) p := by
  constructor
  · rintro ⟨hreach, hp⟩
    rcases hreach.cases_head with rfl | ⟨q, ⟨_, rfl⟩, hrest⟩
    · exact .inl rfl
    · exact .inr ⟨hrest, hp⟩
  · rintro (rfl | ⟨hreach, hp⟩)
    · exact ⟨.refl, hfits⟩
    · exact ⟨.head ⟨hfits, rfl⟩ hreach, hp⟩

/-- The elements on a path to the end are all there are. -/
lemma elemAt_iff_mem {l : List ℕ} (hl : Loop.Path (ElemStep apdu stop) pos l stop) :
    ElemAt apdu stop pos p ↔ p ∈ l := by
  induction l generalizing pos with
  | nil =>
    cases hl
    exact iff_of_false not_elemAt_end List.not_mem_nil
  | cons x l ih =>
    cases hl with
    | cons hstep hrest =>
      obtain ⟨hfits, rfl⟩ := hstep
      rw [elemAt_iff hfits, ih hrest, List.mem_cons]

/-! ### The data of an APDU -/

/-- `q` is the `0x87` field of one of the ASDUs that follow each other from `pos` on. -/
def DataFrom (apdu : Ptr) (stop pos q : ℕ) : Prop :=
  ∃ p, ElemAt apdu stop pos p ∧ ElemAt apdu (valueEnd apdu p) (headEnd apdu p) q ∧
    tagAt apdu q = 0x87

/-- `q` is the `0x87` field of an ASDU of the PDU. -/
def DataAt (apdu : Ptr) (q : ℕ) : Prop :=
  DataFrom apdu (valueEnd apdu 0) (headEnd apdu (seqAt apdu)) q

/-- The octet `i` belongs to the value of the `0x87` field at `q`. -/
def InData (apdu : Ptr) (q i : ℕ) : Prop :=
  headEnd apdu q ≤ i ∧ i < headEnd apdu q + SVProfile.ASDU_DATA_SIZE

/-- `apdu'` starts with the same octets as `apdu`, the values of the `0x87` fields apart. -/
def SameButData (apdu apdu' : Ptr) (apduSize : ℕ) : Prop :=
  ∀ i < apduSize, (∀ q, DataAt apdu q → ¬ InData apdu q i) →
    apdu'.mem (apdu'.off + i) = apdu.mem (apdu.off + i)

/-- What stands in `apdu'` in the place of the `0x87` field at `q`. -/
def dataIn (apdu apdu' : Ptr) (q : ℕ) : List UInt8 :=
  apdu'.mem.slice (apdu'.off + headEnd apdu q) SVProfile.ASDU_DATA_SIZE

lemma dataIn_eq (h : SameHead apdu apdu' q) (hlen : headLen apdu q = SVProfile.ASDU_DATA_SIZE) :
    dataIn apdu apdu' q = valueAt apdu' q := by
  rw [valueAt, h.headEnd, h.headLen, hlen, dataIn]

/-! ### One field -/

/-- The two field loops have found the same. The svID is a view of the one APDU or the other. -/
structure AsduWalk.Same (a a' : AsduWalk) : Prop where
  foundSvid : a'.foundSvid = a.foundSvid
  foundSmpCnt : a'.foundSmpCnt = a.foundSmpCnt
  foundConfRev : a'.foundConfRev = a.foundConfRev
  foundSmpSynch : a'.foundSmpSynch = a.foundSmpSynch
  foundData : a'.foundData = a.foundData
  svid : a'.svid.bytes = a.svid.bytes
  smpCnt : a'.smpCnt = a.smpCnt
  confRev : a'.confRev = a.confRev
  previousTag : a'.previousTag = a.previousTag

section Field

variable {a a' : AsduWalk}

lemma AsduWalk.Same.consistent (h : a.Same a') (ha : a.Consistent) : a'.Consistent := by
  obtain ⟨h1, h2, h3, h4, h5⟩ := ha
  rw [← h.previousTag] at h1 h2 h3 h4 h5
  exact ⟨h.foundSvid ▸ h1, h.foundSmpCnt ▸ h2, h.foundConfRev ▸ h3, h.foundSmpSynch ▸ h4,
    h.foundData ▸ h5⟩

lemma AsduWalk.Same.complete_iff (h : a.Same a') : a'.Complete ↔ a.Complete := by
  rw [AsduWalk.Complete, h.foundSvid, h.foundSmpCnt, h.foundConfRev, h.foundSmpSynch, h.foundData,
    AsduWalk.Complete]

lemma numberAt_congr (h : SameHead apdu apdu' p) (hval : valueAt apdu' p = valueAt apdu p) :
    numberAt apdu' p = numberAt apdu p := by
  have hnum : ∀ b : Ptr, numberAt b p =
      if 1 ≤ headLen b p ∧ headLen b p ≤ 4 then beNat (valueAt b p) else 0 := fun b =>
    val_decodeAsn1Number _ _
  rw [hnum, hnum, h.headLen, hval]

/-- A field with the same value leaves the same behind, and so does the data field with any. -/
lemma AsduWalk.Same.asduSet (ha : a.Same a') (h : SameHead apdu apdu' p)
    (hlen : headLen apdu p < 2 ^ 31)
    (hval : tagAt apdu p ≠ 0x87 → valueAt apdu' p = valueAt apdu p) :
    (asduSet apdu a p).Same (asduSet apdu' a' p) := by
  have hnum : ∀ t : UInt8, t ≠ 0x87 → tagAt apdu p = t → numberAt apdu' p = numberAt apdu p :=
    fun t ht htag => numberAt_congr h (hval (htag ▸ ht))
  constructor <;> simp only [ProcessBus.asduSet, h.tag]
  · rw [ha.foundSvid]
  · rw [ha.foundSmpCnt]
  · rw [ha.foundConfRev]
  · rw [ha.foundSmpSynch]
  · rw [ha.foundData]
  · split_ifs with htag
    · rw [bytes_viewAt (h.headLen ▸ hlen), bytes_viewAt hlen, hval (htag ▸ by decide)]
    · exact ha.svid
  · split_ifs with htag
    · rw [hnum 0x82 (by decide) htag]
    · exact ha.smpCnt
  · split_ifs with htag
    · rw [hnum 0x83 (by decide) htag]
    · exact ha.confRev

/-- A data field of the right size is looked through for its Quality. -/
lemma svFieldRound_bad (hstop : stop < 2 ^ 32) (ha : a.Consistent)
    (hfits : Fits apdu stop pos) (hlt : a.previousTag < tagAt apdu pos)
    (htag : tagAt apdu pos = 0x87) (hlen : headLen apdu pos = SVProfile.ASDU_DATA_SIZE)
    (hbad : ¬ GoodQuality (valueAt apdu pos)) :
    (svFieldRound apdu stop (pos, a)).val = .done (.error SV_PARSE_ERR_QUALITY) := by
  have hpos : pos < stop := (lt_valueEnd apdu pos).trans_le hfits.2
  have hfound : a.foundData = false := by
    by_contra hne
    have hle := ha.data (by simpa using hne)
    exact absurd (UInt8.lt_of_le_of_lt hle (htag ▸ hlt)) (UInt8.lt_irrefl _)
  have hquality : (qualityGood apdu (headEnd apdu pos) qualityOffsets).val = false := by
    simpa using mt (qualityGood_iff apdu pos hlen).mp hbad
  rw [val_svFieldRound hstop, if_pos hpos,
    if_neg (not_or.mpr ⟨UInt8.not_le.mpr hlt, not_not.mpr hfits⟩), htag]
  simp [svField, hfound, hlen, hquality]

/-! ### The fields of one ASDU -/

/-- The octets from `pos` on are the same, the values of the `0x87` fields in `l` apart. -/
def SameFields (apdu apdu' : Ptr) (stop pos : ℕ) (l : List ℕ) : Prop :=
  ∀ i, pos ≤ i → i < stop → (∀ q ∈ l, tagAt apdu q = 0x87 → ¬ InData apdu q i) →
    apdu'.mem (apdu'.off + i) = apdu.mem (apdu.off + i)

variable {l : List ℕ}

lemma le_of_mem_path (hl : Loop.Path (ElemStep apdu stop) pos l stop) (hq : q ∈ l) : pos ≤ q :=
  ((elemAt_iff_mem hl).mpr hq).le

/-- No head is touched, and no value but those of the data fields. -/
lemma SameFields.head (h : SameFields apdu apdu' stop p (p :: l)) (hfits : Fits apdu stop p)
    (hl : Loop.Path (ElemStep apdu stop) (valueEnd apdu p) l stop) :
    SameHead apdu apdu' p ∧ (tagAt apdu p ≠ 0x87 → valueAt apdu' p = valueAt apdu p) := by
  have hle := headEnd_le_valueEnd apdu p
  have hend := hfits.2
  -- what follows begins behind this field
  have hrest : ∀ q ∈ l, valueEnd apdu p < headEnd apdu q := fun q hq => by
    have hq := le_of_mem_path hl hq
    have hlt := lt_headEnd apdu q
    omega
  constructor
  · refine sameHead_of_copied fun i hi hi' => ?_
    rw [Nat.zero_add]
    refine h i hi (by omega) fun q hq _ hdata => ?_
    rcases List.mem_cons.mp hq with rfl | hq
    · exact absurd hdata.1 (by omega)
    · exact absurd (hdata.1.trans_lt hi') (by have := hrest q hq; omega)
  · intro htag
    refine valueAt_of_copied fun i hi hi' => ?_
    rw [Nat.zero_add]
    refine h i hi (by omega) fun q hq hq87 hdata => ?_
    rcases List.mem_cons.mp hq with rfl | hq
    · exact htag hq87
    · exact absurd (hdata.1.trans_lt hi') (by have := hrest q hq; omega)

lemma SameFields.tail (h : SameFields apdu apdu' stop p (p :: l))
    (hlen : tagAt apdu p = 0x87 → headLen apdu p = SVProfile.ASDU_DATA_SIZE) :
    SameFields apdu apdu' stop (valueEnd apdu p) l := by
  intro i hi hi' hno
  refine h i ((lt_valueEnd apdu p).le.trans hi) hi' fun q hq hq87 hdata => ?_
  rcases List.mem_cons.mp hq with rfl | hq
  · have hend := hdata.2
    rw [← hlen hq87] at hend
    exact absurd hi (Nat.not_le.mpr hend)
  · exact hno q hq hq87 hdata

lemma FieldOk.length_data {value : List UInt8} (h : FieldOk 0x87 value) :
    value.length = SVProfile.ASDU_DATA_SIZE := by
  have h : value.length = 64 ∧ GoodQuality value := by simpa [FieldOk] using h
  exact h.1

lemma FieldsOk.headLen_data {prev : UInt8} (h : FieldsOk apdu prev l) (hq : q ∈ l)
    (htag : tagAt apdu q = 0x87) : headLen apdu q = SVProfile.ASDU_DATA_SIZE := by
  have hfield := (fieldsOk_iff.mp h).2 _ (List.mem_map_of_mem hq)
  simp only [fieldAt, htag] at hfield
  rw [← length_valueAt, hfield.length_data]

/-- A field of the grammar with other data is one if the data are good. -/
lemma fieldOk_of_same (h : FieldOk (tagAt apdu p) (valueAt apdu p)) (hhead : SameHead apdu apdu' p)
    (hval : tagAt apdu p ≠ 0x87 → valueAt apdu' p = valueAt apdu p)
    (hgood : tagAt apdu p = 0x87 → GoodQuality (valueAt apdu' p)) :
    FieldOk (tagAt apdu' p) (valueAt apdu' p) := by
  rw [hhead.tag]
  by_cases htag : tagAt apdu p = 0x87
  · rw [htag] at h ⊢
    have hlen := h.length_data
    rw [length_valueAt] at hlen
    have hlen' : headLen apdu' p = 64 := hhead.headLen.trans hlen
    simpa [FieldOk] using ⟨hlen', hgood htag⟩
  · rwa [hval htag]

/-- The field loop gets through over good data and finds the same; over data that are not good
it returns the Quality code. -/
lemma svFields_replaced {a a' : AsduWalk} (hstop : stop < 2 ^ 31) (ha : a.Consistent)
    (hsame : a.Same a') (hl : Loop.Path (ElemStep apdu stop) pos l stop)
    (hok : FieldsOk apdu a.previousTag l) (hfields : SameFields apdu apdu' stop pos l) :
    ((∀ q ∈ l, tagAt apdu q = 0x87 → GoodQuality (dataIn apdu apdu' q)) →
      ∃ n b, (Loop.run (svFieldRound apdu' stop) n (pos, a')).val = some (.ok (stop, b)) ∧
        (l.foldl (asduSet apdu) a).Same b) ∧
    (¬ (∀ q ∈ l, tagAt apdu q = 0x87 → GoodQuality (dataIn apdu apdu' q)) →
      ∃ n, (Loop.run (svFieldRound apdu' stop) n (pos, a')).val =
        some (.error SV_PARSE_ERR_QUALITY)) := by
  induction l generalizing pos a a' with
  | nil =>
    cases hl
    refine ⟨fun _ => ⟨1, a', Loop.val_run_done ?_, hsame⟩, fun h => absurd (by simp) h⟩
    rw [val_svFieldRound (by omega), if_neg (lt_irrefl stop)]
  | cons x l ih =>
    cases hl with
    | cons hstep hrest =>
      obtain ⟨hfits, rfl⟩ := hstep
      have hdata := fun htag => hok.headLen_data List.mem_cons_self htag
      obtain ⟨hlt, hfield, hok⟩ := hok
      obtain ⟨hhead, hval⟩ := hfields.head hfits hrest
      have hlen : headLen apdu x < 2 ^ 31 := by
        have hle := headLen_le_valueEnd apdu x
        have hend := hfits.2
        omega
      have hfits' : Fits apdu' stop x := hhead.fits_iff.mpr hfits
      have hlt' : a'.previousTag < tagAt apdu' x := by rwa [hsame.previousTag, hhead.tag]
      have ha' := hsame.consistent ha
      have hdataIn : tagAt apdu x = 0x87 → dataIn apdu apdu' x = valueAt apdu' x :=
        fun htag => dataIn_eq hhead (hdata htag)
      by_cases hgood : tagAt apdu x = 0x87 → GoodQuality (dataIn apdu apdu' x)
      · have hgood' : tagAt apdu x = 0x87 → GoodQuality (valueAt apdu' x) := fun htag =>
          hdataIn htag ▸ hgood htag
        have hround := (svFieldRound_next_iff (by omega) ha').mpr
          ⟨hfits', hlt', fieldOk_of_same hfield hhead hval hgood', rfl⟩
        rw [hhead.valueEnd] at hround
        obtain ⟨hthrough, hreturn⟩ := ih (asduSet_consistent ha hlt) (hsame.asduSet hhead hlen hval)
          hrest hok (hfields.tail hdata)
        refine ⟨fun hall => ?_, fun hnot => ?_⟩
        · obtain ⟨n, b, hrun, hb⟩ := hthrough fun q hq => hall q (List.mem_cons_of_mem x hq)
          exact ⟨n + 1, b, by rw [Loop.val_run_next hround, hrun], hb⟩
        · obtain ⟨n, hrun⟩ := hreturn fun hall => hnot (List.forall_mem_cons.mpr ⟨hgood, hall⟩)
          exact ⟨n + 1, by rw [Loop.val_run_next hround, hrun]⟩
      · refine ⟨fun hall => absurd (hall x List.mem_cons_self) hgood, fun _ => ⟨1, ?_⟩⟩
        rw [Classical.not_imp] at hgood
        obtain ⟨htag, hbad⟩ := hgood
        rw [hdataIn htag] at hbad
        exact Loop.val_run_done (svFieldRound_bad (by omega) ha' hfits' hlt'
          (hhead.tag.trans htag) (hhead.headLen.trans (hdata htag)) hbad)

end Field

/-! ### The sequence of ASDUs -/

/-- The two ASDU loops have found the same. -/
structure SVWalk.Same (w w' : SVWalk) : Prop where
  actualAsdus : w'.actualAsdus = w.actualAsdus
  svid : w'.passport.svid.bytes = w.passport.svid.bytes
  passport : w'.passport = { w.passport with svid := w'.passport.svid }
  state : w'.state = w.state

/-- The two walks report the same. -/
structure SVParse.Same (r r' : SVParse) : Prop where
  code : r'.code = r.code
  svid : r'.passport.svid.bytes = r.passport.svid.bytes
  passport : r'.passport = { r.passport with svid := r'.passport.svid }
  state : r'.state = r.state

section Asdus

variable {w w₁ w' : SVWalk} {declared : ℕ} {l : List ℕ}

lemma SVWalk.Same.svAsduDone {a a' : AsduWalk} (hw : w.Same w') (ha : a.Same a')
    (h : (svAsduDone w a).val = .ok w₁) :
    ∃ w₁', (svAsduDone w' a').val = .ok w₁' ∧ w₁.Same w₁' := by
  obtain ⟨hall, h⟩ := svAsduDone_iff.mp h
  have hall' := ha.complete_iff.mpr hall
  by_cases hfirst : w.actualAsdus = 0
  · rw [if_pos hfirst] at h
    refine ⟨_, svAsduDone_iff.mpr ⟨hall', by rw [if_pos (hw.actualAsdus.trans hfirst)]⟩, ?_⟩
    subst h
    refine ⟨rfl, ha.svid, ?_, ?_⟩
    · rw [hw.passport, ha.confRev]
    · rw [hw.state, ha.smpCnt]
  · rw [if_neg hfirst] at h
    obtain ⟨hsvid, hrev, rfl⟩ := h
    refine ⟨{ w' with actualAsdus := w'.actualAsdus + 1 }, svAsduDone_iff.mpr ⟨hall', ?_⟩, ?_⟩
    · rw [if_neg (hw.actualAsdus ▸ hfirst)]
      refine ⟨by rw [ha.svid, hsvid, hw.svid], ?_, rfl⟩
      rw [ha.confRev, hrev, hw.passport]
    · exact ⟨by rw [hw.actualAsdus], hw.svid, hw.passport, hw.state⟩

/-- The octets from `pos` on are the same, the data from there on apart. -/
def SameFrom (apdu apdu' : Ptr) (stop pos : ℕ) : Prop :=
  ∀ i, pos ≤ i → i < stop → (∀ q, DataFrom apdu stop pos q → ¬ InData apdu q i) →
    apdu'.mem (apdu'.off + i) = apdu.mem (apdu.off + i)

lemma not_dataFrom_end : ¬ DataFrom apdu stop stop q := by
  rintro ⟨p, hp, _⟩
  exact not_elemAt_end hp

lemma DataFrom.le (h : DataFrom apdu stop pos q) : headEnd apdu pos ≤ q := by
  obtain ⟨p, hp, hq, _⟩ := h
  obtain ⟨hreach, hfits⟩ := hp
  rcases hreach.cases_head with rfl | ⟨c, ⟨_, rfl⟩, hrest⟩
  · exact hq.le
  · have hp : ElemAt apdu stop (valueEnd apdu pos) p := ⟨hrest, hfits⟩
    have h1 := hp.le
    have h2 := hq.le
    have h3 := lt_headEnd apdu p
    have h4 := headEnd_le_valueEnd apdu pos
    omega

/-- The data from an ASDU on are its own and those of the ASDUs behind it. -/
lemma dataFrom_iff (hfits : Fits apdu stop pos)
    (hl : Loop.Path (ElemStep apdu (valueEnd apdu pos)) (headEnd apdu pos) l (valueEnd apdu pos)) :
    DataFrom apdu stop pos q ↔
      (q ∈ l ∧ tagAt apdu q = 0x87) ∨ DataFrom apdu stop (valueEnd apdu pos) q := by
  unfold DataFrom
  constructor
  · rintro ⟨p, hp, hq, htag⟩
    rcases (elemAt_iff hfits).mp hp with rfl | hp
    · exact .inl ⟨(elemAt_iff_mem hl).mp hq, htag⟩
    · exact .inr ⟨p, hp, hq, htag⟩
  · rintro (⟨hq, htag⟩ | ⟨p, hp, hq, htag⟩)
    · exact ⟨pos, (elemAt_iff hfits).mpr (.inl rfl), (elemAt_iff_mem hl).mpr hq, htag⟩
    · exact ⟨p, (elemAt_iff hfits).mpr (.inr hp), hq, htag⟩

section Step

variable (h : SameFrom apdu apdu' stop pos) (hfits : Fits apdu stop pos)
  (hl : Loop.Path (ElemStep apdu (valueEnd apdu pos)) (headEnd apdu pos) l (valueEnd apdu pos))
include h hfits

lemma SameFrom.head : SameHead apdu apdu' pos := by
  refine sameHead_of_copied fun i hi hi' => ?_
  have hle := headEnd_le_valueEnd apdu pos
  have hend := hfits.2
  rw [Nat.zero_add]
  refine h i hi (by omega) fun q hq hdata => ?_
  have h1 := hq.le
  have h2 := lt_headEnd apdu q
  have h3 := hdata.1
  omega

include hl

lemma SameFrom.fields : SameFields apdu apdu' (valueEnd apdu pos) (headEnd apdu pos) l := by
  intro i hi hi' hno
  have hlt := lt_headEnd apdu pos
  refine h i (by omega) (hi'.trans_le hfits.2) fun q hq hdata => ?_
  rcases (dataFrom_iff hfits hl).mp hq with ⟨hq, htag⟩ | hq
  · exact hno q hq htag hdata
  · have h1 := hq.le
    have h2 := lt_headEnd apdu q
    have h3 := lt_headEnd apdu (valueEnd apdu pos)
    have h4 := hdata.1
    omega

lemma SameFrom.tail (hok : FieldsOk apdu 0 l) : SameFrom apdu apdu' stop (valueEnd apdu pos) := by
  intro i hi hi' hno
  refine h i ((lt_valueEnd apdu pos).le.trans hi) hi' fun q hq hdata => ?_
  rcases (dataFrom_iff hfits hl).mp hq with ⟨hq, htag⟩ | hq
  · have hend := ((elemAt_iff_mem hl).mpr hq).2.2
    have hlen := hok.headLen_data hq htag
    have hi₂ := hdata.2
    rw [valueEnd, hlen] at hend
    omega
  · exact hno q hq hdata

end Step

/-- A round takes the ASDU again if its data are good, and returns the Quality code if they are
not. -/
lemma svAsduRound_replaced (hstop : stop < 2 ^ 31) (hfuel : stop < fuel) (hw : w.Same w')
    (hsame : SameFrom apdu apdu' stop pos) (htag : tagAt apdu pos = 0x30)
    (hfits : Fits apdu stop pos)
    (hl : Loop.Path (ElemStep apdu (valueEnd apdu pos)) (headEnd apdu pos) l (valueEnd apdu pos))
    (hok : FieldsOk apdu 0 l)
    (hdone : (svAsduDone w (l.foldl (asduSet apdu) {})).val = .ok w₁) :
    ((∀ q ∈ l, tagAt apdu q = 0x87 → GoodQuality (dataIn apdu apdu' q)) →
      ∃ w₁', (svAsduRound apdu' fuel stop declared (pos, w')).val =
        .next (valueEnd apdu pos, w₁') ∧ w₁.Same w₁') ∧
    (¬ (∀ q ∈ l, tagAt apdu q = 0x87 → GoodQuality (dataIn apdu apdu' q)) →
      (svAsduRound apdu' fuel stop declared (pos, w')).val =
        .done ⟨SV_PARSE_ERR_QUALITY, w'.passport, w'.state⟩) := by
  have hend := hfits.2
  have hlt := lt_valueEnd apdu pos
  have hhead := hsame.head hfits
  have hempty := AsduWalk.consistent_empty
  have hemptySame : AsduWalk.Same {} {} := ⟨rfl, rfl, rfl, rfl, rfl, rfl, rfl, rfl, rfl⟩
  obtain ⟨hthrough, hreturn⟩ := svFields_replaced (by omega) hempty hemptySame hl hok
    (hsame.fields hfits hl)
  -- the round on the other octets, in terms of what its field loop returns
  have hround : ∀ {m : ℕ} {b : Except ℤ (ℕ × AsduWalk)},
      (Loop.run (svFieldRound apdu' (valueEnd apdu pos)) m (headEnd apdu pos, {})).val = some b →
      (Loop.run (svFieldRound apdu' (valueEnd apdu' pos)) fuel (headEnd apdu' pos, {})).val =
        some b := by
    intro m b hm
    rw [hhead.valueEnd, hhead.headEnd]
    exact Loop.run_unique hm (svFields_isSome apdu' (by omega) (by omega))
  have hcond : tagAt apdu' pos = 0x30 ∧ Fits apdu' stop pos :=
    ⟨hhead.tag.trans htag, hhead.fits_iff.mpr hfits⟩
  constructor
  · intro hgood
    obtain ⟨m, b, hm, hb⟩ := hthrough hgood
    obtain ⟨w₁', hdone', hw₁⟩ := hw.svAsduDone hb hdone
    refine ⟨w₁', ?_, hw₁⟩
    rw [val_svAsduRound (by omega), if_pos (by omega), if_pos hcond,
      Loop.val_inner_some (hround hm)]
    simp only [Traced.val_bind, hdone', Traced.val_pure]
  · intro hbad
    obtain ⟨m, hm⟩ := hreturn hbad
    rw [val_svAsduRound (by omega), if_pos (by omega), if_pos hcond,
      Loop.val_inner_some (hround hm)]
    rfl

/-- The ASDU loop gets through over good data and finds the same; over data that are not good it
returns the Quality code, however many ASDUs it has taken before. -/
lemma svAsdus_replaced {n : ℕ} {r : SVParse} (hstop : stop < 2 ^ 31) (hfuel : stop < fuel)
    (hpos : pos ≤ stop) (hw : w.Same w') (hsame : SameFrom apdu apdu' stop pos)
    (hrun : (Loop.run (svAsduRound apdu fuel stop declared) n (pos, w)).val = some r)
    (hcode : r.code = 0) :
    ∃ r', (Loop.run (svAsduRound apdu' fuel stop declared) n (pos, w')).val = some r' ∧
      ((∀ q, DataFrom apdu stop pos q → GoodQuality (dataIn apdu apdu' q)) → r.Same r') ∧
      (¬ (∀ q, DataFrom apdu stop pos q → GoodQuality (dataIn apdu apdu' q)) →
        r'.code = SV_PARSE_ERR_QUALITY) := by
  induction n generalizing pos w w' with
  | zero => simp at hrun
  | succ n ih =>
    cases hr : (svAsduRound apdu fuel stop declared (pos, w)).val with
    | hang => simp [Loop.val_run_hang hr] at hrun
    | done r₁ =>
      obtain rfl : r₁ = r := by simpa [Loop.val_run_done hr] using hrun
      have hend : ¬ pos < stop := fun hlt => svAsduRound_done (by omega) hlt hr hcode
      obtain rfl : pos = stop := by omega
      rw [val_svAsduRound (by omega), if_neg hend] at hr
      obtain rfl := Round.done.inj hr
      have hr' : (svAsduRound apdu' fuel pos declared (pos, w')).val =
          .done ⟨if w'.actualAsdus = declared then 0 else -7, w'.passport, w'.state⟩ := by
        rw [val_svAsduRound (by omega), if_neg hend]
      refine ⟨_, Loop.val_run_done hr', fun _ => ?_, fun h => ?_⟩
      · exact ⟨by rw [hw.actualAsdus], hw.svid, hw.passport, hw.state⟩
      · exact absurd (fun q hq => absurd hq not_dataFrom_end) h
    | next s₁ =>
      obtain ⟨htag, hfits, hs₁, l, hl, hok, hdone⟩ := svAsduRound_next (by omega) hr
      obtain ⟨_, w₁⟩ := s₁
      dsimp only at hs₁ hdone
      subst hs₁
      rw [Loop.val_run_next hr] at hrun
      have hdata := fun q => dataFrom_iff (q := q) hfits hl
      obtain ⟨htaken, hreturned⟩ :=
        svAsduRound_replaced hstop hfuel hw hsame htag hfits hl hok hdone
      by_cases hgood : ∀ q ∈ l, tagAt apdu q = 0x87 → GoodQuality (dataIn apdu apdu' q)
      · obtain ⟨w₁', hr', hw₁⟩ := htaken hgood
        obtain ⟨r', hrun', hsame', herror⟩ := ih hfits.2 hw₁ (hsame.tail hfits hl hok) hrun
        refine ⟨r', by rw [Loop.val_run_next hr', hrun'], fun hall => hsame' fun q hq => ?_,
          fun hnot => herror fun hall => hnot fun q hq => ?_⟩
        · exact hall q ((hdata q).mpr (.inr hq))
        · rcases (hdata q).mp hq with ⟨hq, hq87⟩ | hq
          · exact hgood q hq hq87
          · exact hall q hq
      · refine ⟨_, Loop.val_run_done (hreturned hgood),
          fun hall => absurd (fun q hq hq87 => ?_) hgood, fun _ => rfl⟩
        exact hall q ((hdata q).mpr (.inl ⟨hq, hq87⟩))

/-- A data field of an ASDU that was taken has the size that is replaced. -/
lemma headLen_of_dataFrom {n : ℕ} {r : SVParse} (hstop : stop < 2 ^ 31) (hpos : pos ≤ stop)
    (hrun : (Loop.run (svAsduRound apdu fuel stop declared) n (pos, w)).val = some r)
    (hcode : r.code = 0) (hq : DataFrom apdu stop pos q) :
    headLen apdu q = SVProfile.ASDU_DATA_SIZE := by
  induction n generalizing pos w with
  | zero => simp at hrun
  | succ n ih =>
    cases hr : (svAsduRound apdu fuel stop declared (pos, w)).val with
    | hang => simp [Loop.val_run_hang hr] at hrun
    | done r₁ =>
      obtain rfl : r₁ = r := by simpa [Loop.val_run_done hr] using hrun
      have hend : ¬ pos < stop := fun hlt => svAsduRound_done (by omega) hlt hr hcode
      obtain rfl : pos = stop := by omega
      exact absurd hq not_dataFrom_end
    | next s₁ =>
      obtain ⟨_, hfits, hs₁, l, hl, hok, _⟩ := svAsduRound_next (by omega) hr
      rw [Loop.val_run_next hr] at hrun
      rcases (dataFrom_iff hfits hl).mp hq with ⟨hq, htag⟩ | hq
      · exact hok.headLen_data hq htag
      · exact ih (hs₁ ▸ hfits.2) hrun (hs₁ ▸ hq)

end Asdus

/-! ### The APDU -/

section Apdu

variable {apduSize : ℕ} {passport : SVStreamPassport} {state : SVStreamState}

lemma pduHead_of_code {r : SVParse} (hsize : apduSize < 2 ^ 32)
    (hrun : (parseSvApdu fuel apdu apduSize passport state).val = some r) (hcode : r.code = 0) :
    PduHead apdu apduSize := by
  by_contra hno
  obtain ⟨r', hcode', hrun'⟩ : ∃ r : SVParse, r.code ≠ 0 ∧ ∀ fuel,
      (parseSvApdu fuel apdu apduSize passport state).val = some r :=
    parseSvApdu_of_not_head apdu hsize hno
  rw [hrun' fuel, Option.some.injEq] at hrun
  exact hcode' (hrun ▸ hcode)

/-- The heads of the PDU, `noASDU` and the head of the sequence stand before all data. -/
lemma SameButData.copied (h : SameButData apdu apdu' apduSize) (hhead : PduHead apdu apduSize) :
    Copied 0 0 (headEnd apdu (seqAt apdu)) apdu' apdu := by
  intro i _ hi
  rw [Nat.zero_add]
  have hle := headEnd_le_valueEnd apdu (seqAt apdu)
  have hseqEnd := hhead.seq_end
  have hend := hhead.pdu.2.2
  refine h i (by omega) fun q hq hdata => ?_
  have h1 := hq.le
  have h2 := lt_headEnd apdu q
  have h3 := lt_headEnd apdu (headEnd apdu (seqAt apdu))
  have h4 := hdata.1
  omega

lemma SameButData.sameFrom (h : SameButData apdu apdu' apduSize) (hhead : PduHead apdu apduSize) :
    SameFrom apdu apdu' (valueEnd apdu 0) (headEnd apdu (seqAt apdu)) :=
  fun i _ hi hno => h i (hi.trans_le hhead.pdu.2.2) hno

/-- What the two APDUs have in common before the first ASDU. -/
lemma SameButData.pduHead (h : SameButData apdu apdu' apduSize) (hhead : PduHead apdu apduSize) :
    PduHead apdu' apduSize ∧ valueEnd apdu' 0 = valueEnd apdu 0 ∧
      declaredAsdus apdu' = declaredAsdus apdu ∧
      headEnd apdu' (seqAt apdu') = headEnd apdu (seqAt apdu) := by
  have hcopied := h.copied hhead
  have hnum := headEnd_le_valueEnd apdu (numAt apdu)
  have hseq := lt_headEnd apdu (seqAt apdu)
  have hseqAt : seqAt apdu = valueEnd apdu (numAt apdu) := rfl
  have hnumAt : numAt apdu = headEnd apdu 0 := rfl
  have hnumLt := lt_headEnd apdu (numAt apdu)
  have hpdu : SameHead apdu apdu' 0 := sameHead_of_copied (hcopied.mono le_rfl (by omega))
  have hnumAt' : numAt apdu' = numAt apdu := hpdu.headEnd
  have hnumHead : SameHead apdu apdu' (numAt apdu) :=
    sameHead_of_copied (hcopied.mono (Nat.zero_le _) (by omega))
  have hseqAt' : seqAt apdu' = seqAt apdu := by rw [seqAt, hnumAt', hnumHead.valueEnd, seqAt]
  have hseqHead : SameHead apdu apdu' (seqAt apdu) :=
    sameHead_of_copied (hcopied.mono (Nat.zero_le _) le_rfl)
  have hvalue : valueAt apdu' (numAt apdu) = valueAt apdu (numAt apdu) :=
    valueAt_of_copied (hcopied.mono (Nat.zero_le _) (by omega))
  have hdecl : declaredAsdus apdu' = declaredAsdus apdu := by
    rw [declaredAsdus, hnumAt', hvalue, declaredAsdus]
  refine ⟨⟨?_, ?_, ?_, ?_, ?_, ?_⟩, hpdu.valueEnd, hdecl, ?_⟩
  · rw [hpdu.tag, hpdu.fits_iff]
    exact hhead.pdu
  · rw [hnumAt', hpdu.valueEnd, hnumHead.tag, hnumHead.fits_iff]
    exact hhead.num
  · rw [hnumAt', hnumHead.headLen]
    exact hhead.num_length
  · rw [hdecl]
    exact hhead.num_ne_zero
  · rw [hseqAt', hseqHead.tag, hseqHead.headOk]
    exact hhead.seq
  · rw [hseqAt', hseqHead.valueEnd, hpdu.valueEnd]
    exact hhead.seq_end
  · rw [hseqAt', hseqHead.headEnd]

end Apdu

/-- Quality is checked in every ASDU and sample values in none. Wherever an APDU is accepted, its
data fields are of the size that is replaced here; any other octets in the place of them, in any
of its ASDUs, give the same result as long as all their Quality words are zero, and the code for
bad Quality otherwise. -/
theorem parseSvApdu_checks_quality (apdu apdu' : Ptr) (apduSize : ℕ) (hsize : apduSize < 2 ^ 31)
    (passport : SVStreamPassport) (state : SVStreamState) (r : SVParse)
    (hrun : ∀ fuel, apduSize < fuel →
      (parseSvApdu fuel apdu apduSize passport state).val = some r)
    (hcode : r.code = 0) (hsame : SameButData apdu apdu' apduSize) :
    (∀ q, DataAt apdu q → headLen apdu q = SVProfile.ASDU_DATA_SIZE) ∧
    ∃ r', (∀ fuel, apduSize < fuel →
        (parseSvApdu fuel apdu' apduSize passport state).val = some r') ∧
      ((∀ q, DataAt apdu q → GoodQuality (dataIn apdu apdu' q)) →
        r'.code = 0 ∧ r'.state.smpCnt = r.state.smpCnt ∧
        r'.passport.svid.bytes = r.passport.svid.bytes ∧
        r'.passport = { r.passport with svid := r'.passport.svid }) ∧
      (¬ (∀ q, DataAt apdu q → GoodQuality (dataIn apdu apdu' q)) →
        r'.code = SV_PARSE_ERR_QUALITY) := by
  have hrun₁ := hrun (apduSize + 1) (Nat.lt_succ_self _)
  have hhead := pduHead_of_code (by omega) hrun₁ hcode
  obtain ⟨hhead', hend, hdecl, hseq⟩ := hsame.pduHead hhead
  have hpduEnd := hhead.pdu.2.2
  have hpos : headEnd apdu (seqAt apdu) ≤ valueEnd apdu 0 :=
    (headEnd_le_valueEnd apdu _).trans hhead.seq_end.le
  rw [val_parseSvApdu apdu (by omega) hhead] at hrun₁
  refine ⟨fun q hq => headLen_of_dataFrom (by omega) hpos hrun₁ hcode hq, ?_⟩
  obtain ⟨r', hrun', hgood, hbad⟩ := svAsdus_replaced (by omega) (by omega) hpos
    ⟨rfl, rfl, rfl, rfl⟩ (hsame.sameFrom hhead) hrun₁ hcode
  obtain ⟨r₁, hall⟩ : ∃ r, ∀ fuel, apduSize < fuel →
      (parseSvApdu fuel apdu' apduSize passport state).val = some r :=
    (parseSvApdu_spec apdu' hsize).imp fun _ h => h.1
  have hr₁ := hall (apduSize + 1) (Nat.lt_succ_self _)
  rw [val_parseSvApdu apdu' (by omega) hhead', hend, hdecl, hseq, hrun', Option.some.injEq] at hr₁
  subst hr₁
  refine ⟨r', hall, fun h => ?_, hbad⟩
  have hres := hgood h
  exact ⟨hres.code.trans hcode, by rw [hres.state], hres.svid, hres.passport⟩

/-- The sample APDU with another first value and another Quality word behind it. -/
def sampleQuality : List UInt8 := (sampleApdu.set 27 0x12).set 31 0x01

lemma dataAt_sampleApdu : DataAt (.ofBytes sampleApdu) 25 := by
  have hstep : ∀ {stop p q : ℕ}, Fits (.ofBytes sampleApdu) stop p →
      q = valueEnd (.ofBytes sampleApdu) p → ElemStep (.ofBytes sampleApdu) stop p q :=
    fun h hq => ⟨h, hq⟩
  refine ⟨7, ⟨.refl, by decide +kernel⟩, ⟨?_, by decide +kernel⟩, by decide⟩
  -- svID, smpCnt, confRev and smpSynch
  refine .head (b := 12) (hstep (by decide +kernel) (by decide +kernel)) ?_
  refine .head (b := 16) (hstep (by decide +kernel) (by decide +kernel)) ?_
  refine .head (b := 22) (hstep (by decide +kernel) (by decide +kernel)) ?_
  exact .single (hstep (by decide +kernel) (by decide +kernel))

theorem parseSvApdu_checks_quality_sampleApdu :
    ∃ r', (∀ fuel, 93 < fuel →
        (parseSvApdu fuel (.ofBytes sampleQuality) 93 {} {}).val = some r') ∧
      r'.code = SV_PARSE_ERR_QUALITY := by
  obtain ⟨r, hrun, _⟩ := parseSvApdu_spec (.ofBytes sampleApdu) (show 93 < 2 ^ 31 by decide)
  have hcode : r.code = 0 := by
    have hval : ((parseSvApdu 94 (.ofBytes sampleApdu) 93 {} {}).val.map SVParse.code) =
        some 0 := by decide +kernel
    rw [hrun 94 (by decide)] at hval
    exact Option.some.inj hval
  have hsame : SameButData (.ofBytes sampleApdu) (.ofBytes sampleQuality) 93 := by
    intro i hi hno
    have hout : ∀ i < 93, ¬ (27 ≤ i ∧ i < 91) → sampleQuality.getD i 0 = sampleApdu.getD i 0 := by
      decide +kernel
    have hdata : headEnd (.ofBytes sampleApdu) 25 = 27 := by decide +kernel
    have hno := hno 25 dataAt_sampleApdu
    rw [InData, hdata] at hno
    simpa [Ptr.ofBytes] using hout i hi hno
  obtain ⟨_, r', hrun', _, hbad⟩ := parseSvApdu_checks_quality (.ofBytes sampleApdu)
    (.ofBytes sampleQuality) 93 (by decide) {} {} r hrun hcode hsame
  refine ⟨r', hrun', hbad fun hall => ?_⟩
  have hzero := hall 25 dataAt_sampleApdu 0 (by decide)
  exact absurd hzero (by decide +kernel)

end ProcessBus
