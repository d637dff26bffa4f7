import ProcessBus.Parser.Goose.Recorded

/-!
# Elements the GOOSE walk does not know

An element under a tag that is no field's is inserted between two fields. The walk steps over it as
a whole, unless it is a context-specific 0 or 1: of these it takes the first octet of the content
for another length, goes on wherever that leads, and takes what it finds there for fields.
-/

namespace ProcessBus

variable {b b' : Ptr} {stop stop' start start' p q : ℕ} {l l₁ l₂ : List ℕ}
  {skipTag skipTag' : ℕ → Traced Event Unit} {fs₁ fs₂ : List (UInt8 × List UInt8)}
  {x : UInt8 × List UInt8} {pass : GoosePassport} {state : GooseState} {r : GooseParse}

/-- The tags of the fields. -/
def fieldTags : List UInt8 :=
  [0x80, 0x81, 0x82, 0x83, 0x84, 0x85, 0x86, 0x87, 0x88, 0x89, 0x8A, 0xAB]

/-- An element with a tag of its own and well-formed elements in it. -/
structure Unrecognised (x : UInt8 × List UInt8) : Prop where
  tag : x.1 ∉ fieldTags
  nonempty : x.2 ≠ []
  elems : ∃ es, Tlv.Elems es x.2

/-- `r'` reports what `r` does; allData may start elsewhere. -/
def SameReport (r r' : GooseParse) : Prop := r.passport.Same r'.passport ∧ r'.state = r.state

/-- The walk comes to a context-specific 0 or 1 behind `n` elements. From where its content is
taken to lead, the elements lead to the end, and on the way the fields of `r` are recorded. -/
def Resumes (b : Ptr) (stop start n : ℕ) (pass : GoosePassport) (state : GooseState)
    (r : GooseParse) : Prop :=
  ∃ l p l₂ q, Loop.Path (ElemStep b stop) start l p ∧ l.length = n ∧
    Loop.Path (TopStep b stop) (contextEnd b p) l₂ q ∧ stop ≤ q ∧
    (∀ t ∈ [0x80, 0x82, 0x83], ∃ a ∈ l ++ p :: l₂, tagAt b a = t) ∧
    Records b (l ++ p :: l₂) pass state r.passport r.state

/-! ### What an unknown element records -/

lemma gooseVisit_of_not_field (w : GooseWalk) (h : tagAt b p ∉ fieldTags) :
    gooseVisit b w p = w := by
  simp only [fieldTags, List.mem_cons, List.not_mem_nil, or_false, not_or] at h
  obtain ⟨h80, _, h82, h83, h84, h85, h86, _, h88, _, h8A, hAB⟩ := h
  rw [gooseVisit_eq]
  simp only [h80, h82, h83, h84, h85, h86, h88, h8A, hAB, false_and, if_false, decide_false,
    Bool.or_false]

lemma foldl_insert (w : GooseWalk) (h : tagAt b p ∉ fieldTags) :
    (l₁ ++ p :: l₂).foldl (gooseVisit b) w = (l₁ ++ l₂).foldl (gooseVisit b) w := by
  rw [List.foldl_append, List.foldl_cons, gooseVisit_of_not_field _ h, List.foldl_append]

/-- An unknown element is stepped over as a whole, unless it is context-specific 0 or 1. -/
lemma Unrecognised.itemOk (hx : Unrecognised x) (hcontext : x.1 ≠ 0xA0 ∧ x.1 ≠ 0xA1) :
    ItemOk x where
  nonempty := hx.nonempty
  dataset h := absurd (h ▸ hx.tag) (by decide)
  seq _ := hx.elems
  context := hcontext

/-! ### The walk -/

/-- A list of positions is cut where the list of its fields is. -/
lemma map_eq_insert (h : fs₁ ++ x :: fs₂ = l.map (fieldAt b)) :
    ∃ l₁ p l₂, l = l₁ ++ p :: l₂ ∧ fs₁ = l₁.map (fieldAt b) ∧ x = fieldAt b p ∧
      fs₂ = l₂.map (fieldAt b) := by
  obtain ⟨l₁, l', rfl, rfl, h'⟩ := List.map_eq_append_iff.mp h.symm
  obtain ⟨p, l₂, rfl, rfl, rfl⟩ := List.map_eq_cons_iff.mp h'
  exact ⟨l₁, p, l₂, rfl, rfl, rfl, rfl⟩

section Walk

variable {fuel : ℕ} (hstop : stop ≤ 2 ^ 31) (hstop' : stop' ≤ 2 ^ 31) (hstart : start ≤ stop)
  (hstart' : start' ≤ stop')
  (hfs : Tlv.Elems (fs₁ ++ fs₂) (b.mem.slice (b.off + start) (stop - start)))
  (hfs' : Tlv.Elems (fs₁ ++ x :: fs₂) (b'.mem.slice (b'.off + start') (stop' - start')))
  (hwf : ∀ f ∈ fs₁ ++ fs₂, WellFormed f) (hx : Unrecognised x)
include hstop hstop' hstart hstart' hfs hfs' hwf hx

/-- With the element, the walk visits the same fields as without. -/
lemma accepts_inserted {w : GooseWalk} (hcontext : x.1 ≠ 0xA0 ∧ x.1 ≠ 0xA1)
    (hrun : (gooseWalk b skipTag stop fuel (start, w)).val = some r) (hcode : r.code = 0) :
    Accepts (fun fuel => gooseWalk b' skipTag' stop' fuel (start', w)) (SameReport r) := by
  obtain ⟨l, hl, hfields, hok, rfl⟩ := items_of_gooseWalk hstop hstart hfs hwf hrun hcode
  have hok' : ∀ f ∈ fs₁ ++ x :: fs₂, ItemOk f := by
    intro f hf
    rcases List.mem_append.mp hf with hf | hf
    · exact hok f (List.mem_append_left _ hf)
    rcases List.mem_cons.mp hf with rfl | hf
    · exact hx.itemOk hcontext
    · exact hok f (List.mem_append_right _ hf)
  obtain ⟨l', hpath, hfields', hfits'⟩ := topPath_of_items hstop' hstart' hok' hfs'
  obtain ⟨l₁, p, l₂, rfl, rfl, rfl, rfl⟩ := map_eq_insert hfields'
  rw [← List.map_append] at hfields
  have hsame : (l.foldl (gooseVisit b) w).Same ((l₁ ++ p :: l₂).foldl (gooseVisit b') w) := by
    rw [foldl_insert w hx.tag]
    refine GooseWalk.Same.foldl ⟨.refl _, rfl, rfl, rfl, rfl⟩ hstop hstop' (fits_of_path hl)
      (fun a ha => hfits' a ?_) hfields.symm fun f hf => (hok f ?_).dataset
    · rw [List.mem_append, List.mem_cons]
      exact (List.mem_append.mp ha).imp_right .inr
    · rwa [← List.map_append, hfields]
  refine (accepts_gooseWalk_iff hstop').mpr ⟨_, _, hpath, le_rfl, ?_, hsame.passport, ?_⟩
  · rw [← hsame.code_eq, hcode]
  · exact hsame.state.symm

/-- With a context-specific 0 or 1, the walk goes on where its content leads. -/
lemma accepts_resumes_iff (hcontext : x.1 = 0xA0 ∨ x.1 = 0xA1)
    (hrun : (gooseWalk b skipTag stop fuel
      (start, { passport := pass, state := state })).val = some r) (hcode : r.code = 0) :
    (∃ l, Accepted b' stop' start' pass.num pass.foundEntries l ∧
        Records b' l pass state r.passport r.state) ↔
      Resumes b' stop' start' fs₁.length pass state r := by
  obtain ⟨_, _, _, hok, hr⟩ := items_of_gooseWalk hstop hstart hfs hwf hrun hcode
  have hentries : r.passport.foundEntries = r.passport.num.toUInt32 := by
    rw [hr] at hcode ⊢
    exact ((gooseFinish_code_iff _).mp hcode).1
  obtain ⟨l', hl', hfields'⟩ := (seq_iff_path hstart').mp hfs'
  obtain ⟨l₁, p, l₂', rfl, rfl, rfl, rfl⟩ := map_eq_insert hfields'
  obtain ⟨p', hl₁, hrest⟩ := hl'.of_append
  cases hrest with
  | cons hp _ =>
  -- up to the element, the walk goes from one field to the next
  have hprefix : Loop.Path (TopStep b' stop') start' (l₁ ++ [p]) (contextEnd b' p) := by
    refine Loop.Path.append_single (hl₁.mono fun a ha c hstep => ?_) ?_
    · refine topStep_of_item hstop' hstep (hok _ ?_)
      exact List.mem_append_left _ (List.mem_map_of_mem ha)
    · obtain ⟨hfits, _⟩ := hp
      have hlt := lt_valueEnd b' p
      have hend := hfits.2
      have hlen : headLen b' p ≠ 0 := by
        rw [← length_valueAt]
        exact fun h => hx.nonempty (List.eq_nil_of_length_eq_zero h)
      refine ⟨⟨by omega, ?_, hlen⟩, ?_⟩
      · rw [elemEnd_eq (by omega)]
        exact hend
      · have htag : tagAt b' p = 0xA0 ∨ tagAt b' p = 0xA1 := hcontext
        rcases htag with htag | htag <;> rw [htag] <;> rfl
  rw [List.length_map]
  constructor
  · rintro ⟨l, hacc, hrecords⟩
    obtain ⟨q, hpath, hq⟩ := hacc.path
    obtain ⟨l₂, rfl, hpath₂⟩ := hprefix.split TopStep.rightUnique hpath fun _ =>
      not_topStep_of_le hq
    rw [List.append_assoc, List.singleton_append] at hacc hrecords
    refine ⟨l₁, p, l₂, q, hl₁, rfl, hpath₂, hq, ?_, hrecords⟩
    simp only [List.forall_mem_cons, List.not_mem_nil, false_implies, implies_true, and_true]
    exact ⟨hacc.gocbref, hacc.dataset, hacc.goid⟩
  · rintro ⟨m, p', l₂, q, hm, hlen, hpath₂, hq, hnames, hrecords⟩
    have hdet : Relator.RightUnique (ElemStep b' stop') := fun _ _ _ h h' => h.2.trans h'.2.symm
    obtain ⟨rfl, rfl⟩ := hm.eq_of_length hdet hl₁ hlen
    have hpath := hprefix.append hpath₂
    rw [List.append_assoc, List.singleton_append] at hpath
    refine ⟨_, ⟨⟨q, hpath, hq⟩, hnames _ (by simp), hnames _ (by simp), hnames _ (by simp), ?_⟩,
      hrecords⟩
    rw [hrecords.foundEntries, hrecords.num, hentries]

end Walk

variable (skipTag') in
/-- The walks of both parsers. -/
lemma skipped_iff_gooseWalk {fuel : ℕ} (hstop : stop ≤ 2 ^ 31) (hstop' : stop' ≤ 2 ^ 31)
    (hstart : start ≤ stop) (hstart' : start' ≤ stop')
    (hfs : Tlv.Elems (fs₁ ++ fs₂) (b.mem.slice (b.off + start) (stop - start)))
    (hfs' : Tlv.Elems (fs₁ ++ x :: fs₂) (b'.mem.slice (b'.off + start') (stop' - start')))
    (hwf : ∀ f ∈ fs₁ ++ fs₂, WellFormed f) (hx : Unrecognised x)
    (hrun : (gooseWalk b skipTag stop fuel
      (start, { passport := pass, state := state })).val = some r) (hcode : r.code = 0) :
    Accepts (fun fuel => gooseWalk b' skipTag' stop' fuel
        (start', { passport := pass, state := state })) (SameReport r) ↔
      (x.1 ≠ 0xA0 ∧ x.1 ≠ 0xA1) ∨ Resumes b' stop' start' fs₁.length pass state r := by
  by_cases hcontext : x.1 = 0xA0 ∨ x.1 = 0xA1
  · have hkept : r.passport.dmac = pass.dmac ∧ r.passport.appid = pass.appid ∧
        r.passport.dstIP = pass.dstIP := by
      obtain ⟨l, q, _, _, rfl⟩ := path_of_gooseWalk hstop hrun hcode
      exact (same_foldl_iff.mp ⟨.refl _, rfl⟩).1
    have hiff : Accepts (fun fuel => gooseWalk b' skipTag' stop' fuel
          (start', { passport := pass, state := state }))
        (fun r' => r.passport.Same r'.passport ∧ r'.state = r.state ∧ True) ↔ _ :=
      accepts_same_iff hstop' hkept
    simp only [and_true] at hiff
    refine (show Accepts _ (SameReport r) ↔ _ from hiff).trans ?_
    rw [accepts_resumes_iff hstop hstop' hstart hstart' hfs hfs' hwf hx hcontext hrun hcode]
    exact (or_iff_right fun h => hcontext.elim h.1 h.2).symm
  · rw [not_or] at hcontext
    exact iff_of_true (accepts_inserted hstop hstop' hstart hstart' hfs hfs' hwf hx hcontext hrun
      hcode) (.inl hcontext)

lemma resumes_gooseStart {n pos : ℕ} :
    Resumes b stop start n (gooseStart b' pass state pos).passport state r ↔
      Resumes b stop start n pass state r := by
  constructor
  · rintro ⟨l, p, l₂, q, hl, hlen, hpath, hq, hnames, hrecords⟩
    exact ⟨l, p, l₂, q, hl, hlen, hpath, hq, hnames, records_gooseStart.mp hrecords⟩
  · rintro ⟨l, p, l₂, q, hl, hlen, hpath, hq, hnames, hrecords⟩
    exact ⟨l, p, l₂, q, hl, hlen, hpath, hq, hnames, records_gooseStart.mpr hrecords⟩

variable (pass state) in
/-- Headers with the same addresses, tag and APPID let both walks start alike. -/
lemma gooseStart_of_head {h h' : L2Head} {ty : UInt8} (hmem : b.mem.Holds b.off (h.bytes ty))
    (hmem' : b'.mem.Holds b'.off (h'.bytes ty)) (haddr : h'.addresses = h.addresses)
    (hvlan : h'.vlan = h.vlan) (happid : h'.appid = h.appid) :
    h'.appidAt ty = h.appidAt ty ∧
      gooseStart b' pass state (h'.appidAt ty) = gooseStart b pass state (h.appidAt ty) := by
  have hat : h'.appidAt ty = h.appidAt ty := by
    rw [L2Head.appidAt, L2Head.appidAt, L2Head.types, L2Head.types, hvlan]
  have hmac : (MAC.read b').val = (MAC.read b).val := (MAC.mk.injEq _ _ _ _).mpr <| by
    rw [L2Head.slice_dmac hmem, L2Head.slice_dmac hmem', haddr]
  refine ⟨hat, ?_⟩
  rw [gooseStart, gooseStart, hmac, L2Head.slice_appid hmem, L2Head.slice_appid hmem', happid]

/-- The element takes up what a shorter length of the PDU might save. -/
lemma Unrecognised.length_le (hx : Unrecognised x) {b₁ b₂ bx pdu pdu' : List UInt8}
    (hbx : Tlv.Elem x.1 x.2 bx) (hpdu : Tlv.Elem 0x61 (b₁ ++ b₂) pdu)
    (hpdu' : Tlv.Elem 0x61 (b₁ ++ (bx ++ b₂)) pdu') : pdu.length ≤ pdu'.length := by
  obtain ⟨es, hes⟩ := hx.elems
  have hvalue : 2 ≤ x.2.length := by
    have hne := hx.nonempty
    generalize x.2 = value at hes hne
    cases hes with
    | nil => exact absurd rfl hne
    | cons he _ =>
      have := he.length_bounds.1
      rw [List.length_append]
      omega
  have h1 := hpdu.length_bounds.2
  have h2 := hpdu'.length_bounds.1
  have h3 := hbx.length_bounds.1
  simp only [List.length_append] at h1 h2
  omega

section Parsers

variable {pdu pdu' : List UInt8} {fuel : ℕ}
  (hfields : ∃ body, Tlv.Elems (fs₁ ++ fs₂) body ∧ Tlv.Elem 0x61 body pdu)
  (hfields' : ∃ body, Tlv.Elems (fs₁ ++ x :: fs₂) body ∧ Tlv.Elem 0x61 body pdu')
  (hlonger : pdu.length ≤ pdu'.length) (hwf : ∀ f ∈ fs₁ ++ fs₂, WellFormed f)
  (hx : Unrecognised x)
include hfields hfields' hlonger hwf hx

lemma skipped_iff_parseGoosePacket {h h' : L2Head} {size size' : Int32}
    (haddr : h'.addresses = h.addresses) (hvlan : h'.vlan = h.vlan) (happid : h'.appid = h.appid)
    (hsize : size.toInt = (h.bytes 0xB8 ++ pdu).length)
    (hsize' : size'.toInt = (h'.bytes 0xB8 ++ pdu').length)
    (hmem : b.mem.Holds b.off (h.bytes 0xB8 ++ pdu))
    (hmem' : b'.mem.Holds b'.off (h'.bytes 0xB8 ++ pdu'))
    (hrun : (parseGoosePacket fuel b size pass state).val = some r) (hcode : r.code = 0) :
    Accepts (fun fuel => parseGoosePacket fuel b' size' pass state) (SameReport r) ↔
      (x.1 ≠ 0xA0 ∧ x.1 ≠ 0xA1) ∨ Resumes b' (h'.bytes 0xB8 ++ pdu').length
        (headEnd b' (h'.appidAt 0xB8 + 8)) fs₁.length pass state r := by
  obtain ⟨hmin, pos, hpos, _, hwalk⟩ := walk_of_parseGoosePacket hrun hcode
  obtain ⟨hhead, hrest⟩ := Mem.holds_append.mp hmem
  obtain ⟨hhead', hrest'⟩ := Mem.holds_append.mp hmem'
  obtain rfl : h.appidAt 0xB8 = pos :=
    Option.some.inj ((L2Head.val_l2Header hhead).symm.trans hpos)
  obtain ⟨hat, hgoose⟩ := gooseStart_of_head pass state hhead hhead' haddr hvlan happid
  rw [h.length_bytes] at hrest
  rw [h'.length_bytes] at hrest'
  obtain ⟨htag, hle, helems⟩ := elems_of_holds hfields hrest
  obtain ⟨htag', hle', helems'⟩ := elems_of_holds hfields' hrest'
  rw [List.length_append, L2Head.length_bytes] at hsize hsize'
  have hnat : size.toInt.toNat = h.appidAt 0xB8 + 8 + pdu.length := by omega
  have hnat' : size'.toInt.toNat = h'.appidAt 0xB8 + 8 + pdu'.length := by omega
  have hstop := toInt_toNat_le size
  have hstop' := toInt_toNat_le size'
  rw [hnat] at hstop hwalk
  rw [hnat'] at hstop'
  have hrun' (fuel : ℕ) : (parseGoosePacket fuel b' size' pass state).val = _ :=
    val_parseGoosePacket (by omega) (L2Head.val_l2Header hhead') htag'
  rw [List.length_append, L2Head.length_bytes]
  simp only [hnat', hgoose] at hrun'
  have hskip := skipped_iff_gooseWalk (readTag b') hstop hstop' hle hle' helems helems' hwf hx
    hwalk hcode
  exact (accepts_congr hrun').trans <| hskip.trans <| or_congr Iff.rfl resumes_gooseStart

omit hlonger in
lemma skipped_iff_parseGooseApdu {apduSize apduSize' : Int32}
    (hsize : apduSize.toInt = pdu.length) (hsize' : apduSize'.toInt = pdu'.length)
    (hmem : b.mem.Holds (b.off + 0) pdu) (hmem' : b'.mem.Holds (b'.off + 0) pdu')
    (hrun : (parseGooseApdu fuel b apduSize pass state).val = some r) (hcode : r.code = 0) :
    Accepts (fun fuel => parseGooseApdu fuel b' apduSize' pass state) (SameReport r) ↔
      (x.1 ≠ 0xA0 ∧ x.1 ≠ 0xA1) ∨
        Resumes b' pdu'.length (headEnd b' 0) fs₁.length pass state r := by
  obtain ⟨_, _, hwalk⟩ := walk_of_parseGooseApdu hrun hcode
  obtain ⟨htag, hle, helems⟩ := elems_of_holds hfields hmem
  obtain ⟨htag', hle', helems'⟩ := elems_of_holds hfields' hmem'
  rw [Nat.zero_add] at hle hle' helems helems'
  have hnat : apduSize.toInt.toNat = pdu.length := by omega
  have hnat' : apduSize'.toInt.toNat = pdu'.length := by omega
  have hstop := toInt_toNat_le apduSize
  have hstop' := toInt_toNat_le apduSize'
  rw [hnat] at hstop hwalk
  rw [hnat'] at hstop'
  have hlt := lt_headEnd b' 0
  have hrun' (fuel : ℕ) : (parseGooseApdu fuel b' apduSize' pass state).val = _ :=
    val_parseGooseApdu (by omega) htag'
  simp only [hnat'] at hrun'
  exact (accepts_congr hrun').trans <| skipped_iff_gooseWalk (fun _ => pure ()) hstop hstop' hle
    hle' helems helems' hwf hx hwalk hcode

end Parsers

/-- An element whose tag is no field's is inserted between the well-formed fields of an accepted
PDU. The result and the record stay what they were unless it is a context-specific 0 or 1, and for
such an element exactly if the walk resumes well. This is so of both parsers. -/
theorem unrecognised_skipped_iff (fs₁ fs₂ : List (UInt8 × List UInt8)) (x : UInt8 × List UInt8)
    (hwf : ∀ f ∈ fs₁ ++ fs₂, WellFormed f) (hx : Unrecognised x) (b₁ b₂ bx pdu pdu' : List UInt8)
    (hb₁ : Tlv.Elems fs₁ b₁) (hb₂ : Tlv.Elems fs₂ b₂) (hbx : Tlv.Elem x.1 x.2 bx)
    (hpdu : Tlv.Elem 0x61 (b₁ ++ b₂) pdu) (hpdu' : Tlv.Elem 0x61 (b₁ ++ (bx ++ b₂)) pdu')
    (passport : GoosePassport) (state : GooseState) :
    (∀ (h h' : L2Head) (buffer buffer' : Ptr) (size size' : Int32) (fuel : ℕ) (r : GooseParse),
      h'.addresses = h.addresses → h'.vlan = h.vlan → h'.appid = h.appid →
      size.toInt = (h.bytes 0xB8 ++ pdu).length → size'.toInt = (h'.bytes 0xB8 ++ pdu').length →
      buffer.mem.Holds buffer.off (h.bytes 0xB8 ++ pdu) →
      buffer'.mem.Holds buffer'.off (h'.bytes 0xB8 ++ pdu') →
      (parseGoosePacket fuel buffer size passport state).val = some r → r.code = 0 →
      (Accepts (fun fuel => parseGoosePacket fuel buffer' size' passport state) (SameReport r) ↔
        (x.1 ≠ 0xA0 ∧ x.1 ≠ 0xA1) ∨ Resumes buffer' (h'.bytes 0xB8 ++ pdu').length
          (headEnd buffer' (h'.appidAt 0xB8 + 8)) fs₁.length passport state r)) ∧
    (∀ (apdu apdu' : Ptr) (apduSize apduSize' : Int32) (fuel : ℕ) (r : GooseParse),
      apduSize.toInt = pdu.length → apduSize'.toInt = pdu'.length →
      apdu.mem.Holds apdu.off pdu → apdu'.mem.Holds apdu'.off pdu' →
      (parseGooseApdu fuel apdu apduSize passport state).val = some r → r.code = 0 →
      (Accepts (fun fuel => parseGooseApdu fuel apdu' apduSize' passport state) (SameReport r) ↔
        (x.1 ≠ 0xA0 ∧ x.1 ≠ 0xA1) ∨
          Resumes apdu' pdu'.length (headEnd apdu' 0) fs₁.length passport state r)) := by
  have hfields : ∃ body, Tlv.Elems (fs₁ ++ fs₂) body ∧ Tlv.Elem 0x61 body pdu :=
    ⟨_, hb₁.append hb₂, hpdu⟩
  have hfields' : ∃ body, Tlv.Elems (fs₁ ++ x :: fs₂) body ∧ Tlv.Elem 0x61 body pdu' :=
    ⟨_, hb₁.append (.cons hbx hb₂), hpdu'⟩
  have hlonger := hx.length_le hbx hpdu hpdu'
  constructor
  · intro h h' buffer buffer' size size' fuel r haddr hvlan happid hsize hsize' hmem hmem' hrun
      hcode
    exact skipped_iff_parseGoosePacket hfields hfields' hlonger hwf hx haddr hvlan happid hsize
      hsize' hmem hmem' hrun hcode
  · intro apdu apdu' apduSize apduSize' fuel r hsize hsize' hmem hmem' hrun hcode
    exact skipped_iff_parseGooseApdu hfields hfields' hwf hx hsize hsize' hmem hmem' hrun hcode

/-- The first two fields of the sample frame. -/
def sampleFirst : List (UInt8 × List UInt8) := sampleGooseFields.elems.take 2

/-- The fields behind them. -/
def sampleRest : List (UInt8 × List UInt8) := sampleGooseFields.elems.drop 2

/-- The PDU of the sample frame with `bs` between the two. -/
def sampleWith (bs : List UInt8) : List UInt8 :=
  Tlv.short (0x61, sampleFirst.flatMap Tlv.short ++ (bs ++ sampleRest.flatMap Tlv.short))

/-- An element of the given tag with one element in it. -/
def sampleElement (tag : UInt8) : UInt8 × List UInt8 := (tag, [4, 1, 7])

lemma unrecognised_sampleElement {tag : UInt8} (h : tag ∉ fieldTags) :
    Unrecognised (sampleElement tag) where
  tag := h
  nonempty := List.cons_ne_nil _ _
  elems := ⟨[(4, [7])], Tlv.elems_short [(4, [7])] (by decide)⟩

lemma runs_sampleWith (bs : List UInt8) (n n' : Int32) (code : ℤ)
    (h : (parseGoosePacket 20 (.ofBytes (sampleL2Head.bytes 0xB8 ++ sampleWith bs)) n {} {}).val.map
        GooseParse.code = some code ∧
      (parseGooseApdu 20 (.ofBytes (sampleWith bs)) n' {} {}).val.map GooseParse.code = some code) :
    (∃ r, (parseGoosePacket 20 (.ofBytes (sampleL2Head.bytes 0xB8 ++ sampleWith bs)) n {} {}).val =
      some r ∧ r.code = code) ∧
    ∃ r, (parseGooseApdu 20 (.ofBytes (sampleWith bs)) n' {} {}).val = some r ∧ r.code = code :=
  ⟨Option.map_eq_some_iff.mp h.1, Option.map_eq_some_iff.mp h.2⟩

/-- An element `0x8B` behind the first two fields of the sample frame. -/
theorem unrecognised_skipped_iff_sampleFrame :
    ∃ r, (parseGoosePacket 20 (.ofBytes (sampleL2Head.bytes 0xB8 ++ sampleWith [])) 69 {} {}).val =
        some r ∧ r.code = 0 ∧
      Accepts (fun fuel => parseGoosePacket fuel (.ofBytes (sampleL2Head.bytes 0xB8 ++
        sampleWith (Tlv.short (sampleElement 0x8B)))) 74 {} {}) (SameReport r) := by
  obtain ⟨⟨r, hrun, hcode⟩, _⟩ := runs_sampleWith [] 69 47 0 (by decide +kernel)
  have hshort : ∀ f ∈ sampleFirst ++ sampleRest, f.2.length < 128 := by decide
  have hwf : ∀ f ∈ sampleFirst ++ sampleRest, WellFormed f := by
    intro f hf
    have hmem : f ∈ sampleGoosePdu.order := by rwa [← List.take_append_drop 2 sampleGoosePdu.order]
    have hok := sampleGoosePdu.itemOk hmem
    exact ⟨fun h => ⟨_, hok.dataset h⟩, hok.seq, hok.context⟩
  obtain ⟨hskip, _⟩ := unrecognised_skipped_iff sampleFirst sampleRest (sampleElement 0x8B) hwf
    (unrecognised_sampleElement (by decide)) (sampleFirst.flatMap Tlv.short)
    (sampleRest.flatMap Tlv.short) (Tlv.short (sampleElement 0x8B)) (sampleWith [])
    (sampleWith (Tlv.short (sampleElement 0x8B)))
    (Tlv.elems_short _ fun f hf => hshort f (List.mem_append_left _ hf))
    (Tlv.elems_short _ fun f hf => hshort f (List.mem_append_right _ hf))
    (Tlv.elem_short (by decide)) (Tlv.elem_short (f := (0x61, _)) (by decide))
    (Tlv.elem_short (f := (0x61, _)) (by decide)) {} {}
  have hiff := hskip sampleL2Head sampleL2Head
    (.ofBytes (sampleL2Head.bytes 0xB8 ++ sampleWith []))
    (.ofBytes (sampleL2Head.bytes 0xB8 ++ sampleWith (Tlv.short (sampleElement 0x8B)))) 69 74 20 r
    rfl rfl rfl (by decide +kernel) (by decide +kernel) (Ptr.holds_ofBytes _) (Ptr.holds_ofBytes _)
    hrun hcode
  exact ⟨r, hrun, hcode, hiff.mpr (.inl (by decide))⟩

/-- An element `0xA0` there, and both parsers lose the frame. -/
theorem context_element_not_skipped :
    Unrecognised (sampleElement 0xA0) ∧
    (∃ r, (parseGoosePacket 20 (.ofBytes (sampleL2Head.bytes 0xB8 ++ sampleWith [])) 69 {} {}).val =
        some r ∧ r.code = 0 ∧
      ¬ Accepts (fun fuel => parseGoosePacket fuel (.ofBytes (sampleL2Head.bytes 0xB8 ++
        sampleWith (Tlv.short (sampleElement 0xA0)))) 74 {} {}) (SameReport r)) ∧
    ∃ r, (parseGooseApdu 20 (.ofBytes (sampleWith [])) 47 {} {}).val = some r ∧ r.code = 0 ∧
      ¬ Accepts (fun fuel => parseGooseApdu fuel (.ofBytes
        (sampleWith (Tlv.short (sampleElement 0xA0)))) 52 {} {}) (SameReport r) := by
  obtain ⟨⟨r, hrun, hcode⟩, r', hrun', hcode'⟩ := runs_sampleWith [] 69 47 0 (by decide +kernel)
  obtain ⟨⟨r₁, hrun₁, hcode₁⟩, r₂, hrun₂, hcode₂⟩ := runs_sampleWith
    (Tlv.short (sampleElement 0xA0)) 74 52 (-3) (by decide +kernel)
  refine ⟨unrecognised_sampleElement (by decide), ⟨r, hrun, hcode, fun h => ?_⟩, r', hrun', hcode',
    fun h => ?_⟩
  · have hzero := (h.of_run parseGoosePacket_mono hrun₁).1
    rw [hcode₁] at hzero
    exact absurd hzero (by decide)
  · have hzero := (h.of_run parseGooseApdu_mono hrun₂).1
    rw [hcode₂] at hzero
    exact absurd hzero (by decide)

end ProcessBus
