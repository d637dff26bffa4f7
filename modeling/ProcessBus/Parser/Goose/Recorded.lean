import ProcessBus.Parser.Goose.Correctness

/-!
# What two GOOSE walks record alike

Of a frame the parsers keep a passport and a state, and every field of theirs is what the last
element with its tag gave. So two walks record the same if their elements have the same tags and
values, wherever these stand, and a walk over further elements leaves a record as it was exactly
if the last of them under every tag repeats it.
-/

namespace ProcessBus

open Relation

variable {buffer b b' : Ptr} {size size' stop stop' start p p' q : ℕ} {l l' : List ℕ}

/-! ### Records -/

/-- The same passport, be the strings views of one frame or of another. Where allData starts is
left open. -/
structure GoosePassport.Same (pass pass' : GoosePassport) : Prop where
  dmac : pass.dmac = pass'.dmac
  appid : pass.appid = pass'.appid
  num : pass.num = pass'.num
  foundEntries : pass.foundEntries = pass'.foundEntries
  crev : pass.crev = pass'.crev
  dstIP : pass.dstIP = pass'.dstIP
  goid : pass.goid.bytes = pass'.goid.bytes
  dataset : pass.dataset.bytes = pass'.dataset.bytes
  gocbref : pass.gocbref.bytes = pass'.gocbref.bytes

namespace GoosePassport.Same

variable {pass pass' : GoosePassport}

@[refl] lemma refl (pass : GoosePassport) : pass.Same pass :=
  ⟨rfl, rfl, rfl, rfl, rfl, rfl, rfl, rfl, rfl⟩

@[symm] lemma symm (h : pass.Same pass') : pass'.Same pass :=
  ⟨h.dmac.symm, h.appid.symm, h.num.symm, h.foundEntries.symm, h.crev.symm, h.dstIP.symm,
    h.goid.symm, h.dataset.symm, h.gocbref.symm⟩

end GoosePassport.Same

/-- Two walks have recorded the same. -/
structure GooseWalk.Same (w w' : GooseWalk) : Prop where
  passport : w.passport.Same w'.passport
  state : w.state = w'.state
  foundGocbref : w.foundGocbref = w'.foundGocbref
  foundDataset : w.foundDataset = w'.foundDataset
  foundGoid : w.foundGoid = w'.foundGoid

lemma GooseWalk.Same.code_eq {w w' : GooseWalk} (h : w.Same w') :
    (gooseFinish w).code = (gooseFinish w').code := by
  simp only [gooseFinish, h.passport.foundEntries, h.passport.num, h.foundGocbref, h.foundDataset,
    h.foundGoid]

/-! ### Elements with the same tag and value -/

lemma numberAt_eq_of_value (h : valueAt b p = valueAt b' p') : numberAt b p = numberAt b' p' := by
  rw [numberAt_eq_asn1Number, numberAt_eq_asn1Number, h]

/-- The entries of a dataset are counted alike. -/
lemma entryCount_eq_of_value (hb : valueEnd b p ≤ 2 ^ 31) (hb' : valueEnd b' p' ≤ 2 ^ 31)
    (h : valueAt b p = valueAt b' p')
    (hdata : ∃ es, Tlv.Seq (DataEntry MAX_DATA_DEPTH) es (valueAt b p)) :
    entryCount b p = entryCount b' p' := by
  obtain ⟨es, hes⟩ := hdata
  obtain ⟨l, hl, hlen⟩ := entries_of_seq hb hes
  obtain ⟨l', hl', hlen'⟩ := entries_of_seq hb' (h ▸ hes)
  rw [hl.entryCount_eq, hl'.entryCount_eq, hlen, hlen']

/-- The number a timestamp field stands for. -/
lemma timestamp_eq_of_value (h : valueAt b p = valueAt b' p') (hlen : headLen b p ≤ 8) :
    beNat (b.mem.slice (b.off + headEnd b p) 8) >>> ((8 - headLen b p) * 8) =
      beNat (b'.mem.slice (b'.off + headEnd b' p') 8) >>> ((8 - headLen b' p') * 8) := by
  have hlen' : headLen b p = headLen b' p' := by
    rw [← length_valueAt b p, ← length_valueAt b' p', h]
  rw [beNat_slice_shiftRight _ _ hlen, beNat_slice_shiftRight _ _ (hlen' ▸ hlen)]
  exact congrArg beNat h

/-- Elements with the same tag and value leave the same behind. -/
lemma GooseWalk.Same.visit {w w' : GooseWalk} (hw : w.Same w') (hstop : stop ≤ 2 ^ 31)
    (hstop' : stop' ≤ 2 ^ 31) (hb : Fits b stop p) (hb' : Fits b' stop' p')
    (hfield : fieldAt b p = fieldAt b' p')
    (hdata : tagAt b p = 0xAB → ∃ es, Tlv.Seq (DataEntry MAX_DATA_DEPTH) es (valueAt b p)) :
    (gooseVisit b w p).Same (gooseVisit b' w' p') := by
  have htag : tagAt b p = tagAt b' p' := congrArg Prod.fst hfield
  have hvalue : valueAt b p = valueAt b' p' := congrArg Prod.snd hfield
  have hlen : headLen b p = headLen b' p' := by
    rw [← length_valueAt b p, ← length_valueAt b' p', hvalue]
  have hview : (viewAt b p).bytes = (viewAt b' p').bytes := by
    rw [bytes_viewAt (hb.entryAt hstop).2.1, bytes_viewAt (hb'.entryAt hstop').2.1, hvalue]
  have hnum := numberAt_eq_of_value hvalue
  have hstamp (ts : UInt64) : (if tagAt b p = 0x84 ∧ 4 ≤ headLen b p ∧ headLen b p ≤ 8 then
        UInt64.ofNat (beNat (b.mem.slice (b.off + headEnd b p) 8) >>> ((8 - headLen b p) * 8))
      else ts) = if tagAt b p = 0x84 ∧ 4 ≤ headLen b p ∧ headLen b p ≤ 8 then
        UInt64.ofNat (beNat (b'.mem.slice (b'.off + headEnd b' p') 8) >>> ((8 - headLen b p) * 8))
      else ts := by
    split_ifs with h84
    · have hvalues := timestamp_eq_of_value hvalue h84.2.2
      rw [← hlen] at hvalues
      rw [hvalues]
    · rfl
  rw [gooseVisit_eq, gooseVisit_eq, ← htag, ← hlen, ← hnum, ← hw.state]
  refine ⟨⟨hw.passport.dmac, hw.passport.appid, ?_, ?_, ?_, hw.passport.dstIP, ?_, ?_, ?_⟩, ?_,
    ?_, ?_, ?_⟩
  · exact if_congr Iff.rfl rfl hw.passport.num
  · dsimp only
    split_ifs with hAB
    · rw [entryCount_eq_of_value (hb.2.trans hstop) (hb'.2.trans hstop') hvalue (hdata hAB)]
    · exact hw.passport.foundEntries
  · exact if_congr Iff.rfl rfl hw.passport.crev
  · dsimp only
    split_ifs
    · exact hview
    · exact hw.passport.goid
  · dsimp only
    split_ifs
    · exact hview
    · exact hw.passport.dataset
  · dsimp only
    split_ifs
    · exact hview
    · exact hw.passport.gocbref
  · dsimp only
    rw [hstamp]
  · rw [hw.foundGocbref]
  · rw [hw.foundDataset]
  · rw [hw.foundGoid]

/-- So do elements of the same tags and values one after the other. -/
lemma GooseWalk.Same.foldl {w w' : GooseWalk} (hw : w.Same w') (hstop : stop ≤ 2 ^ 31)
    (hstop' : stop' ≤ 2 ^ 31) (hb : ∀ p ∈ l, Fits b stop p) (hb' : ∀ p ∈ l', Fits b' stop' p)
    (hfield : l.map (fieldAt b) = l'.map (fieldAt b'))
    (hdata : ∀ f ∈ l.map (fieldAt b), f.1 = 0xAB →
      ∃ es, Tlv.Seq (DataEntry MAX_DATA_DEPTH) es f.2) :
    (l.foldl (gooseVisit b) w).Same (l'.foldl (gooseVisit b') w') := by
  induction l generalizing l' w w' with
  | nil =>
    obtain rfl : l' = [] := List.map_eq_nil_iff.mp hfield.symm
    exact hw
  | cons p l ih =>
    cases l' with
    | nil => simp at hfield
    | cons p' l' =>
      rw [List.map_cons, List.map_cons, List.cons.injEq] at hfield
      rw [List.forall_mem_cons] at hb hb'
      rw [List.map_cons, List.forall_mem_cons] at hdata
      rw [List.foldl_cons, List.foldl_cons]
      exact ih (hw.visit hstop hstop' hb.1 hb'.1 hfield.1 hdata.1) hb.2 hb'.2 hfield.2 hdata.2

/-! ### Records along a walk -/

/-- The timestamp the last `0x84` of four to eight octets gives, `d` if there is none. -/
def lastTimestamp (b : Ptr) (d : UInt64) (l : List ℕ) : UInt64 :=
  lastAt b 0x84 (fun p => UInt64.ofNat (beNat (valueAt b p))) d
    (l.filter fun p => 4 ≤ headLen b p ∧ headLen b p ≤ 8)

/-- Along `l`, what `pass` and `state` held becomes what `pass'` and `state'` hold: for every
field, the last element with its tag gives that value, or it was there before. -/
structure Records (b : Ptr) (l : List ℕ) (pass : GoosePassport) (state : GooseState)
    (pass' : GoosePassport) (state' : GooseState) : Prop where
  gocbref : lastAt b 0x80 (fun p => (viewAt b p).bytes) pass.gocbref.bytes l = pass'.gocbref.bytes
  dataset : lastAt b 0x82 (fun p => (viewAt b p).bytes) pass.dataset.bytes l = pass'.dataset.bytes
  goid : lastAt b 0x83 (fun p => (viewAt b p).bytes) pass.goid.bytes l = pass'.goid.bytes
  timestamp : lastTimestamp b state.timestamp l = state'.timestamp
  stNum : lastAt b 0x85 (fun p => UInt32.ofNat (numberAt b p)) state.stNum l = state'.stNum
  sqNum : lastAt b 0x86 (fun p => UInt32.ofNat (numberAt b p)) state.sqNum l = state'.sqNum
  crev : lastAt b 0x88 (fun p => UInt32.ofNat (numberAt b p)) pass.crev l = pass'.crev
  num : lastAt b 0x8A (fun p => UInt16.ofNat (numberAt b p)) pass.num l = pass'.num
  foundEntries :
    lastAt b 0xAB (fun p => UInt32.ofNat (entryCount b p)) pass.foundEntries l = pass'.foundEntries

lemma timestamp_foldl (w : GooseWalk) :
    (l.foldl (gooseVisit b) w).state.timestamp = lastTimestamp b w.state.timestamp l := by
  unfold lastTimestamp
  induction l generalizing w with
  | nil => rfl
  | cons p l ih =>
    rw [List.foldl_cons, ih, gooseVisit_eq]
    by_cases hlen : 4 ≤ headLen b p ∧ headLen b p ≤ 8
    · rw [List.filter_cons_of_pos (by simpa using hlen)]
      simp only [hlen, and_self, and_true, beNat_slice_shiftRight _ _ hlen.2]
      rfl
    · rw [List.filter_cons_of_neg (by simpa using hlen)]
      simp only [hlen, and_false, if_false]

/-- What a walk records is given by the last elements under the tags. -/
lemma same_foldl_iff {w : GooseWalk} {pass' : GoosePassport} {state' : GooseState} :
    (pass'.Same (l.foldl (gooseVisit b) w).passport ∧
        (l.foldl (gooseVisit b) w).state = state') ↔
      (pass'.dmac = w.passport.dmac ∧ pass'.appid = w.passport.appid ∧
        pass'.dstIP = w.passport.dstIP) ∧
      Records b l w.passport w.state pass' state' := by
  have hdmac : (l.foldl (gooseVisit b) w).passport.dmac = w.passport.dmac :=
    foldl_gooseVisit_keep (fun w => w.passport.dmac) fun w p => by rw [gooseVisit_eq]
  have happid : (l.foldl (gooseVisit b) w).passport.appid = w.passport.appid :=
    foldl_gooseVisit_keep (fun w => w.passport.appid) fun w p => by rw [gooseVisit_eq]
  have hdstIP : (l.foldl (gooseVisit b) w).passport.dstIP = w.passport.dstIP :=
    foldl_gooseVisit_keep (fun w => w.passport.dstIP) fun w p => by rw [gooseVisit_eq]
  have hgocbref := foldl_lastAt (t := 0x80) (l := l) (w := w) (gooseVisit b)
    (fun w => w.passport.gocbref.bytes) fun w p => by rw [gooseVisit_eq]; exact apply_ite _ _ _ _
  have hdataset := foldl_lastAt (t := 0x82) (l := l) (w := w) (gooseVisit b)
    (fun w => w.passport.dataset.bytes) fun w p => by rw [gooseVisit_eq]; exact apply_ite _ _ _ _
  have hgoid := foldl_lastAt (t := 0x83) (l := l) (w := w) (gooseVisit b)
    (fun w => w.passport.goid.bytes) fun w p => by rw [gooseVisit_eq]; exact apply_ite _ _ _ _
  have hstNum := foldl_lastAt (t := 0x85) (l := l) (w := w) (gooseVisit b)
    (fun w => w.state.stNum) fun w p => by rw [gooseVisit_eq]
  have hsqNum := foldl_lastAt (t := 0x86) (l := l) (w := w) (gooseVisit b)
    (fun w => w.state.sqNum) fun w p => by rw [gooseVisit_eq]
  have hcrev := foldl_lastAt (t := 0x88) (l := l) (w := w) (gooseVisit b)
    (fun w => w.passport.crev) fun w p => by rw [gooseVisit_eq]
  have hnum := foldl_lastAt (t := 0x8A) (l := l) (w := w) (gooseVisit b)
    (fun w => w.passport.num) fun w p => by rw [gooseVisit_eq]
  have hentries := foldl_lastAt (t := 0xAB) (l := l) (w := w) (gooseVisit b)
    (fun w => w.passport.foundEntries) fun w p => by rw [gooseVisit_eq]
  constructor
  · rintro ⟨hpass, rfl⟩
    exact ⟨⟨hpass.dmac.trans hdmac, hpass.appid.trans happid, hpass.dstIP.trans hdstIP⟩,
      ⟨hgocbref.symm.trans hpass.gocbref.symm, hdataset.symm.trans hpass.dataset.symm,
        hgoid.symm.trans hpass.goid.symm, (timestamp_foldl w).symm, hstNum.symm, hsqNum.symm,
        hcrev.symm.trans hpass.crev.symm, hnum.symm.trans hpass.num.symm,
        hentries.symm.trans hpass.foundEntries.symm⟩⟩
  · rintro ⟨⟨hdmac', happid', hdstIP'⟩, h⟩
    refine ⟨⟨hdmac'.trans hdmac.symm, happid'.trans happid.symm, ?_, ?_, ?_,
      hdstIP'.trans hdstIP.symm, ?_, ?_, ?_⟩, ?_⟩
    · exact h.num.symm.trans hnum.symm
    · exact h.foundEntries.symm.trans hentries.symm
    · exact h.crev.symm.trans hcrev.symm
    · exact h.goid.symm.trans hgoid.symm
    · exact h.dataset.symm.trans hdataset.symm
    · exact h.gocbref.symm.trans hgocbref.symm
    · obtain ⟨ts, st, sq⟩ := state'
      exact GooseState.mk.injEq .. |>.mpr
        ⟨(timestamp_foldl w).trans h.timestamp, hstNum.trans h.stNum, hsqNum.trans h.sqNum⟩

/-- Records start from what was recorded, not from where. -/
lemma Records.congr {pass pass₁ pass' : GoosePassport} {state state' : GooseState}
    (h : Records b l pass state pass' state') (hpass : pass.Same pass₁) :
    Records b l pass₁ state pass' state' where
  gocbref := hpass.gocbref ▸ h.gocbref
  dataset := hpass.dataset ▸ h.dataset
  goid := hpass.goid ▸ h.goid
  timestamp := h.timestamp
  stNum := h.stNum
  sqNum := h.sqNum
  crev := hpass.crev ▸ h.crev
  num := hpass.num ▸ h.num
  foundEntries := hpass.foundEntries ▸ h.foundEntries

/-- The addresses a walk starts with are not among them. -/
lemma records_gooseStart {pass pass' : GoosePassport} {state state' : GooseState} {pos : ℕ} :
    Records b l (gooseStart b' pass state pos).passport state pass' state' ↔
      Records b l pass state pass' state' :=
  ⟨fun h => ⟨h.1, h.2, h.3, h.4, h.5, h.6, h.7, h.8, h.9⟩,
    fun h => ⟨h.1, h.2, h.3, h.4, h.5, h.6, h.7, h.8, h.9⟩⟩

/-! ### Runs that accept -/

/-- With enough rounds the parser returns 0, and what it reports is as `Q` says. -/
def Accepts (run : ℕ → Traced Event (Option GooseParse)) (Q : GooseParse → Prop) : Prop :=
  ∃ r f, (∀ fuel, f ≤ fuel → (run fuel).val = some r) ∧ r.code = 0 ∧ Q r

variable {skipTag : ℕ → Traced Event Unit} {Q : GooseParse → Prop}

/-- From a position the walk goes to one other at most. -/
lemma TopStep.rightUnique : Relator.RightUnique (TopStep b size) := by
  intro p q q' h h'
  have hq := h.2
  have hq' := h'.2
  split_ifs at hq hq'
  · exact hq.2.trans hq'.2.symm
  · exact hq.unique hq'
  · exact hq.trans hq'.symm
  · exact hq.trans hq'.symm

lemma not_topStep_of_le (h : size ≤ p) : ¬ TopStep b size p q := fun hstep =>
  absurd hstep.1.1 (Nat.not_lt.mpr h)

/-- An element of a frame is one of every longer frame. -/
lemma TopStep.mono (h : TopStep b size p q) (hsize : size ≤ size') : TopStep b size' p q :=
  ⟨⟨h.1.1.trans_le hsize, h.1.2.1.trans hsize, h.1.2.2⟩, h.2⟩

/-- The walk accepts along the one path that leads to the end. -/
theorem accepts_gooseWalk_iff {w : GooseWalk} (hsize : size ≤ 2 ^ 31) :
    Accepts (fun fuel => gooseWalk b skipTag size fuel (start, w)) Q ↔
      ∃ l q, Loop.Path (TopStep b size) start l q ∧ size ≤ q ∧
        (gooseFinish (l.foldl (gooseVisit b) w)).code = 0 ∧
        Q (gooseFinish (l.foldl (gooseVisit b) w)) := by
  constructor
  · rintro ⟨r, f, hrun, hcode, hQ⟩
    obtain ⟨l, q, hpath, hq, rfl⟩ := path_of_gooseWalk hsize (hrun f le_rfl) hcode
    exact ⟨l, q, hpath, hq, hcode, hQ⟩
  · rintro ⟨l, q, hpath, hq, hcode, hQ⟩
    obtain ⟨f, hf⟩ := gooseWalk_of_path (s := (start, w)) skipTag hsize hpath hq
    exact ⟨_, f, fun fuel hfuel => gooseWalk_mono hsize hfuel hf, hcode, hQ⟩

lemma accepts_congr {run run' : ℕ → Traced Event (Option GooseParse)}
    (h : ∀ fuel, (run fuel).val = (run' fuel).val) : Accepts run Q ↔ Accepts run' Q := by
  simp only [Accepts, h]

/-- The walk accepts with given records exactly along a path of `Accepted` that gives them. -/
lemma accepts_same_iff {pass : GoosePassport} {state : GooseState} {r : GooseParse}
    (hsize : size ≤ 2 ^ 31) (hr : r.passport.dmac = pass.dmac ∧ r.passport.appid = pass.appid ∧
      r.passport.dstIP = pass.dstIP) :
    Accepts (fun fuel => gooseWalk b skipTag size fuel
        (start, { passport := pass, state := state }))
      (fun r' => r.passport.Same r'.passport ∧ r'.state = r.state ∧ Q r') ↔
      ∃ l, Accepted b size start pass.num pass.foundEntries l ∧
        Records b l pass state r.passport r.state ∧
        Q (gooseFinish (l.foldl (gooseVisit b) { passport := pass, state := state })) := by
  rw [accepts_gooseWalk_iff hsize]
  constructor
  · rintro ⟨l, q, hpath, hq, hcode, hsame, hstate, hQ⟩
    exact ⟨l, (gooseFinish_code hpath hq).mp hcode, (same_foldl_iff.mp ⟨hsame, hstate⟩).2, hQ⟩
  · rintro ⟨l, hacc, hrecords, hQ⟩
    obtain ⟨q, hpath, hq⟩ := hacc.path
    obtain ⟨hsame, hstate⟩ :=
      same_foldl_iff (w := { passport := pass, state := state }) |>.mpr ⟨hr, hrecords⟩
    exact ⟨l, q, hpath, hq, (gooseFinish_code hpath hq).mpr hacc, hsame, hstate, hQ⟩

/-! ### Runs over well-formed elements -/

/-- A dataset, a sequence or a set is made of elements again, with lengths of at most four octets as
always. The walk does not step over context-specific 0 and 1 as a whole. -/
structure WellFormed (f : UInt8 × List UInt8) : Prop where
  dataset : f.1 = 0xAB → ∃ depth es, Tlv.Seq (DataEntry depth) es f.2
  seq : f.1 = 0x30 ∨ f.1 = 0x31 → ∃ fs, Tlv.Elems fs f.2
  context : f.1 ≠ 0xA0 ∧ f.1 ≠ 0xA1

/-- A walk that accepts such elements has visited them one after the other; none is empty, and no
dataset nests too deep. -/
lemma items_of_gooseWalk {fs : List (UInt8 × List UInt8)} {fuel : ℕ} {w : GooseWalk}
    {r : GooseParse} (hstop : stop ≤ 2 ^ 31) (hp : p ≤ stop)
    (h : Tlv.Elems fs (b.mem.slice (b.off + p) (stop - p))) (hwf : ∀ f ∈ fs, WellFormed f)
    (hrun : (gooseWalk b skipTag stop fuel (p, w)).val = some r) (hcode : r.code = 0) :
    ∃ l, Loop.Path (ElemStep b stop) p l stop ∧ fs = l.map (fieldAt b) ∧ (∀ f ∈ fs, ItemOk f) ∧
      r = gooseFinish (l.foldl (gooseVisit b) w) := by
  obtain ⟨l, hl, rfl⟩ := (seq_iff_path hp).mp h
  rw [List.forall_mem_map] at hwf
  obtain ⟨l', q, hpath, hq, rfl⟩ := path_of_gooseWalk hstop hrun hcode
  obtain rfl : l' = l := topPath_unique (fun a ha _ _ hstep hstep' =>
    topStep_unique hstop (hwf a ha).seq (hwf a ha).context hstep hstep') hl hpath hq
  refine ⟨l', hl, rfl, ?_, rfl⟩
  rw [List.forall_mem_map]
  intro a ha
  have hend : valueEnd b a ≤ stop := (hl.of_mem ha).2.choose_spec.1.2
  obtain ⟨_, hitem, hstep⟩ := (hpath.of_mem ha).2
  refine ⟨?_, fun hdata => ?_, (hwf a ha).seq, (hwf a ha).context⟩
  · rw [← List.length_pos_iff, show (fieldAt b a).2 = valueAt b a from rfl, length_valueAt]
    exact Nat.pos_of_ne_zero hitem.2.2
  · obtain ⟨depth, es, hes⟩ := (hwf a ha).dataset hdata
    have hdata : tagAt b a = 0xAB := hdata
    have hes : Tlv.Seq (DataEntry depth) es (valueAt b a) := hes
    rw [if_pos hdata, elemEnd_eq (by omega)] at hstep
    refine ⟨es, ?_⟩
    show Tlv.Seq (DataEntry MAX_DATA_DEPTH) es (valueAt b a)
    rw [valueAt_eq] at hes ⊢
    exact entries_of_tiled (hend.trans hstop) (headEnd_le_valueEnd b a) hes hstep.1

lemma fits_of_path {l : List ℕ} (h : Loop.Path (ElemStep b stop) p l q) : ∀ a ∈ l, Fits b stop a :=
  fun _ ha => (h.of_mem ha).2.choose_spec.1

/-! ### The parsers up to the walk -/

variable {pos fuel : ℕ} {isize : Int32} {pass : GoosePassport} {state : GooseState}
  {r : GooseParse}

/-- An L2 frame is accepted by a walk over its PDU. -/
lemma walk_of_parseGoosePacket
    (h : (parseGoosePacket fuel b isize pass state).val = some r) (hcode : r.code = 0) :
    64 ≤ isize.toInt ∧ ∃ pos, (l2Header b 0xB8).val = some pos ∧ tagAt b (pos + 8) = 0x61 ∧
      (gooseWalk b (readTag b) isize.toInt.toNat fuel
        (headEnd b (pos + 8), gooseStart b pass state pos)).val = some r := by
  have hrun := h
  unfold parseGoosePacket at h
  by_cases hsize : isize.toInt < 64
  · rw [if_pos hsize] at h
    cases h
    cases hcode
  rw [if_neg hsize, Traced.val_bind, Traced.val_bind] at h
  cases hpos : (l2Header b 0xB8).val with
  | none =>
    rw [hpos] at h
    cases h
    cases hcode
  | some pos =>
    rw [hpos] at h
    simp only [Traced.val_bind] at h
    by_cases htag : tagAt b (pos + 8) = 0x61
    · refine ⟨Int.not_lt.mp hsize, pos, rfl, htag, ?_⟩
      rw [← val_parseGoosePacket (Int.not_lt.mp hsize) hpos htag]
      exact hrun
    · have htag' : (b.get (pos + 8)).val ≠ 0x61 := htag
      rw [if_pos htag'] at h
      cases h
      cases hcode

/-- An APDU is accepted by a walk over it. -/
lemma walk_of_parseGooseApdu (h : (parseGooseApdu fuel b isize pass state).val = some r)
    (hcode : r.code = 0) :
    2 ≤ isize.toInt ∧ tagAt b 0 = 0x61 ∧
      (gooseWalk b (fun _ => pure ()) isize.toInt.toNat fuel
        (headEnd b 0, { passport := pass, state := state })).val = some r := by
  have hrun := h
  unfold parseGooseApdu at h
  by_cases hsize : isize.toInt < 2
  · rw [if_pos hsize] at h
    cases h
    cases hcode
  rw [if_neg hsize, Traced.val_bind] at h
  by_cases htag : tagAt b 0 = 0x61
  · refine ⟨Int.not_lt.mp hsize, htag, ?_⟩
    rw [← val_parseGooseApdu (Int.not_lt.mp hsize) htag]
    exact hrun
  · have htag' : (b.get 0).val ≠ 0x61 := htag
    rw [if_pos htag'] at h
    cases h
    cases hcode

/-- More rounds do not change what the L2 parser returns. -/
lemma parseGoosePacket_mono {g : ℕ} (hle : fuel ≤ g)
    (h : (parseGoosePacket fuel b isize pass state).val = some r) :
    (parseGoosePacket g b isize pass state).val = some r := by
  by_cases hwalk : 64 ≤ isize.toInt ∧
      ∃ pos, (l2Header b 0xB8).val = some pos ∧ tagAt b (pos + 8) = 0x61
  · obtain ⟨hsize, pos, hpos, htag⟩ := hwalk
    rw [val_parseGoosePacket hsize hpos htag] at h ⊢
    exact gooseWalk_mono (toInt_toNat_le isize) hle h
  · rw [← h, parseGoosePacket, parseGoosePacket]
    by_cases hsize : isize.toInt < 64
    · rw [if_pos hsize, if_pos hsize]
    rw [if_neg hsize, if_neg hsize]
    simp only [Traced.val_bind]
    cases hpos : (l2Header b 0xB8).val with
    | none => rfl
    | some pos =>
      have htag : (b.get (pos + 8)).val ≠ 0x61 :=
        fun htag => hwalk ⟨Int.not_lt.mp hsize, pos, hpos, htag⟩
      simp only [Traced.val_bind, if_pos htag]

/-- More rounds do not change what the APDU walk returns. -/
lemma parseGooseApdu_mono {g : ℕ} (hle : fuel ≤ g)
    (h : (parseGooseApdu fuel b isize pass state).val = some r) :
    (parseGooseApdu g b isize pass state).val = some r := by
  by_cases hwalk : 2 ≤ isize.toInt ∧ tagAt b 0 = 0x61
  · obtain ⟨hsize, htag⟩ := hwalk
    rw [val_parseGooseApdu hsize htag] at h ⊢
    exact gooseWalk_mono (toInt_toNat_le isize) hle h
  · rw [← h, parseGooseApdu, parseGooseApdu]
    by_cases hsize : isize.toInt < 2
    · rw [if_pos hsize, if_pos hsize]
    have htag : (b.get 0).val ≠ 0x61 := fun htag => hwalk ⟨Int.not_lt.mp hsize, htag⟩
    rw [if_neg hsize, if_neg hsize]
    simp only [Traced.val_bind, if_pos htag]

/-- What a parser returns once, it accepts or not. -/
lemma Accepts.of_run {run : ℕ → Traced Event (Option GooseParse)}
    (hmono : ∀ {f g r}, f ≤ g → (run f).val = some r → (run g).val = some r)
    (hrun : (run fuel).val = some r) (h : Accepts run Q) : r.code = 0 ∧ Q r := by
  obtain ⟨r', f, hf, hcode, hQ⟩ := h
  have hr := hmono (le_max_left fuel f) hrun
  rw [hf _ (le_max_right fuel f), Option.some.injEq] at hr
  exact hr ▸ ⟨hcode, hQ⟩

lemma accepts_of_run {run : ℕ → Traced Event (Option GooseParse)}
    (hmono : ∀ {f g r}, f ≤ g → (run f).val = some r → (run g).val = some r)
    (hrun : (run fuel).val = some r) (hcode : r.code = 0) (hQ : Q r) : Accepts run Q :=
  ⟨r, fuel, fun _ hle => hmono hle hrun, hcode, hQ⟩

end ProcessBus
