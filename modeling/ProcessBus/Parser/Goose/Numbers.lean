import ProcessBus.Parser.Goose.Correctness

/-!
# The numbers of a GOOSE frame

Numbers are decoded from one to four octets and read as unsigned. A BER integer is signed, so from
`2 ^ 31` on a sequence number takes a fifth octet, and what is reported is zero. The number of
dataset entries is cut to 16 bits before it is compared with the entries that were found.
-/

namespace ProcessBus

/-! ### Sequence numbers -/

/-- How many content octets a BER integer `v` below `2 ^ 32` takes. -/
def berOctets (v : ℕ) : ℕ :=
  if v < 2 ^ 7 then 1 else if v < 2 ^ 15 then 2 else if v < 2 ^ 23 then 3
  else if v < 2 ^ 31 then 4 else 5

/-- The content octets of the BER integer `v`. -/
def berInteger (v : ℕ) : List UInt8 := beBytes (berOctets v) v

@[simp] lemma length_berInteger (v : ℕ) : (berInteger v).length = berOctets v :=
  length_beBytes _ _

/-- The encoding is a positive number, and no shorter one is. -/
lemma berInteger_minimal {v : ℕ} (hv : v < 2 ^ 32) :
    beNat (berInteger v) = v ∧ v < 2 ^ (8 * berOctets v - 1) ∧
      (1 < berOctets v → 2 ^ (8 * (berOctets v - 1) - 1) ≤ v) := by
  have hlt : v < 256 ^ berOctets v ∧ v < 2 ^ (8 * berOctets v - 1) ∧
      (1 < berOctets v → 2 ^ (8 * (berOctets v - 1) - 1) ≤ v) := by
    unfold berOctets
    split_ifs <;> omega
  exact ⟨beNat_beBytes hlt.1, hlt.2⟩

/-- What is decoded of a BER integer. -/
lemma asn1Number_berInteger {v : ℕ} (hv : v < 2 ^ 32) :
    asn1Number (berInteger v) = if v < 2 ^ 31 then v else 0 := by
  have hoct : 1 ≤ berOctets v ∧ (berOctets v ≤ 4 ↔ v < 2 ^ 31) := by
    unfold berOctets
    split_ifs <;> omega
  rw [asn1Number, length_berInteger, (berInteger_minimal hv).1]
  exact if_congr ((and_iff_right hoct.1).trans hoct.2) rfl rfl

lemma toNat_reported_iff {v : ℕ} (hv : v < 2 ^ 32) :
    (UInt32.ofNat (asn1Number (berInteger v))).toNat = v ↔ v < 2 ^ 31 := by
  rw [asn1Number_berInteger hv, UInt32.toNat_ofNat']
  split_ifs <;> omega

/-- The field that carries `v` is reported as `v` exactly if `v` is below `2 ^ 31`. -/
structure GoosePdu.Survives (u : GoosePdu) (v : ℕ) (r : GooseParse) : Prop where
  stNum : u.stNum = berInteger v → (r.state.stNum.toNat = v ↔ v < 2 ^ 31)
  sqNum : u.sqNum = berInteger v → (r.state.sqNum.toNat = v ↔ v < 2 ^ 31)
  confRev : u.confRev = berInteger v → (r.passport.crev.toNat = v ↔ v < 2 ^ 31)

lemma GoosePdu.Reports.survives {u : GoosePdu} {passport : GoosePassport} {r : GooseParse} {v : ℕ}
    (hr : u.Reports passport r) (hv : v < 2 ^ 32) : u.Survives v r where
  stNum h := by rw [hr.stNum, h, toNat_reported_iff hv]
  sqNum h := by rw [hr.sqNum, h, toNat_reported_iff hv]
  confRev h := by rw [hr.crev, h, toNat_reported_iff hv]

/-- What a source makes of a publisher that steps its state number from 1 to `n`. -/
@[irreducible] def published (n : ℕ) : GooseSource :=
  (List.range n).foldl (fun src i =>
    src.processState {} { stNum := UInt32.ofNat (asn1Number (berInteger (i + 1))) }) {}

lemma published_succ (n : ℕ) : published (n + 1) = (published n).processState {}
    { stNum := UInt32.ofNat (asn1Number (berInteger (n + 1))) } := by
  rw [published, published, List.range_succ, List.foldl_append]
  rfl

/-- Below `2 ^ 31` the source keeps up; there it counts one gap, and from then on it sees zeros. -/
lemma published_spec {n : ℕ} (hn : n < 2 ^ 32) :
    (published n).m_stNum = UInt32.ofNat (if n < 2 ^ 31 then n else 0) ∧
      (published n).m_errSeqCnt = if n < 2 ^ 31 then 0 else 1 := by
  induction n with
  | zero =>
    rw [published]
    exact ⟨rfl, rfl⟩
  | succ n ih =>
    obtain ⟨hst, herr⟩ := ih (by omega)
    rw [published_succ, asn1Number_berInteger hn]
    refine ⟨rfl, ?_⟩
    simp only [GooseSource.processState, hst, herr]
    by_cases hlast : n + 1 < 2 ^ 31
    · have hnext : UInt32.ofNat (n + 1) = UInt32.ofNat n + 1 := UInt32.ofNat_add n 1
      have hn' : n < 2 ^ 31 := by omega
      simp only [if_pos hlast, if_pos hn', hnext, ne_eq, not_true, if_false, ite_self]
    by_cases hfirst : n < 2 ^ 31
    · have hne : UInt32.ofNat n ≠ UInt32.ofNat 0 := by
        rw [ne_eq, ← UInt32.toNat_inj, UInt32.toNat_ofNat', UInt32.toNat_ofNat']
        omega
      have hgap : UInt32.ofNat 0 ≠ UInt32.ofNat n + 1 := by
        rw [ne_eq, ← UInt32.toNat_inj, UInt32.toNat_add, UInt32.toNat_ofNat', UInt32.toNat_ofNat',
          UInt32.toNat_one]
        omega
      simp only [if_neg hlast, if_pos hfirst, if_pos hne, if_pos hgap]
      rfl
    · simp only [if_neg hlast, if_neg hfirst, ne_eq, not_true, if_false]

/-- Both parsers accept a frame with a minimal BER integer in one of the three fields, but they
report it only below `2 ^ 31`, and a source that follows the state numbers counts a gap there. -/
theorem sequence_numbers_survive_iff (u : GoosePdu) (pdu : List UInt8) (hpdu : u.Encodes pdu)
    (v : ℕ) (hv : v < 2 ^ 32) :
    (∀ (h : L2Head) (buffer : Ptr) (size : Int32), 64 ≤ size.toInt →
      size.toInt = (h.bytes 0xB8 ++ pdu).length →
      buffer.mem.Holds buffer.off (h.bytes 0xB8 ++ pdu) →
      ∃ r f, (∀ fuel, f ≤ fuel → (parseGoosePacket fuel buffer size {} {}).val = some r) ∧
        r.code = 0 ∧ u.Survives v r) ∧
    (∀ (apdu : Ptr) (apduSize : Int32) (passport : GoosePassport), apduSize.toInt = pdu.length →
      apdu.mem.Holds apdu.off pdu →
      ∃ r f, (∀ fuel, f ≤ fuel → (parseGooseApdu fuel apdu apduSize passport {}).val = some r) ∧
        r.code = 0 ∧ u.Survives v r) ∧
    ((published v).getErrSeqNum = 0 ↔ v < 2 ^ 31) := by
  refine ⟨fun h buffer size hmin hsize hmem => ?_, fun apdu apduSize passport hsize hmem => ?_, ?_⟩
  · obtain ⟨r, hr, f, hf⟩ := parseGoosePacket_reports hpdu hmin hsize hmem {} {}
    exact ⟨r, f, hf, hr.code, hr.survives hv⟩
  · obtain ⟨r, hr, f, hf⟩ := parseGooseApdu_reports hpdu hsize hmem passport {}
    exact ⟨r, f, hf, hr.code, hr.survives hv⟩
  · rw [GooseSource.getErrSeqNum, (published_spec hv).2]
    split_ifs with h
    · exact iff_of_true rfl h
    · exact iff_of_false (by decide) h

theorem sequence_numbers_survive_samplePdu :
    sampleGoosePdu.Encodes samplePdu ∧ sampleGoosePdu.stNum = berInteger 5 ∧
      ∃ r f, (∀ fuel, f ≤ fuel →
        (parseGooseApdu fuel (.ofBytes samplePdu) 47 {} {}).val = some r) ∧
        r.state.stNum.toNat = 5 := by
  have hber : sampleGoosePdu.stNum = berInteger 5 := by decide +kernel
  refine ⟨encodes_samplePdu, hber, ?_⟩
  obtain ⟨_, happly, _⟩ := sequence_numbers_survive_iff sampleGoosePdu samplePdu encodes_samplePdu 5
    (by decide)
  obtain ⟨r, f, hrun, _, hsurvives⟩ := happly (.ofBytes samplePdu) 47 {} (by decide +kernel)
    (Ptr.holds_ofBytes _)
  exact ⟨r, f, hrun, (hsurvives.stNum hber).mpr (by decide)⟩

/-- The sample frame with the state number `2 ^ 31`, which takes five octets. -/
def largeStNumFields : GooseFields := { sampleGooseFields with stNum := [0, 0x80, 0, 0, 0] }

def largeStNumPdu : GoosePdu where
  toGooseFields := largeStNumFields
  order := largeStNumFields.elems
  entries := sampleGoosePdu.entries
  order_perm := .rfl
  nonempty := by decide
  t_length := by decide
  allData_eq := sampleGoosePdu.allData_eq
  num_length := by decide
  num_eq := rfl
  num_le := by decide

/-- The state number `2 ^ 31` is reported as zero, and a source counts a gap that is none. -/
theorem stNum_lost_in_largeStNumPdu :
    (∃ pdu, largeStNumPdu.Encodes pdu ∧ largeStNumPdu.stNum = berInteger (2 ^ 31) ∧
      ∃ r fuel, (parseGooseApdu fuel (.ofBytes pdu) 51 {} {}).val = some r ∧ r.code = 0 ∧
        r.state.stNum.toNat = 0) ∧
    (published (2 ^ 31)).getErrSeqNum = 1 := by
  have hber : largeStNumPdu.stNum = berInteger (2 ^ 31) := by decide +kernel
  have hpdu : largeStNumPdu.Encodes (Tlv.short (0x61, largeStNumFields.elems.flatMap Tlv.short)) :=
    ⟨_, Tlv.elems_short largeStNumFields.elems (by decide),
      Tlv.elem_short (f := (0x61, largeStNumFields.elems.flatMap Tlv.short)) (by decide)⟩
  have hgap := (published_spec (n := 2 ^ 31) (by decide)).2
  rw [if_neg (Nat.lt_irrefl _)] at hgap
  refine ⟨⟨_, hpdu, hber, ?_⟩, by rw [GooseSource.getErrSeqNum, hgap]⟩
  obtain ⟨r, hr, f, hf⟩ := parseGooseApdu_reports hpdu
    (show (51 : Int32).toInt = _ by decide +kernel) (Ptr.holds_ofBytes _) {} {}
  refine ⟨r, f, hf f le_rfl, hr.code, ?_⟩
  rw [hr.stNum, hber, asn1Number_berInteger (by decide), if_neg (Nat.lt_irrefl _)]
  rfl

/-! ### The number of entries -/

/-- A PDU of well-formed elements with one declared number and one dataset. -/
structure GooseItems where
  items : List (UInt8 × List UInt8)
  num : List UInt8
  data : List UInt8
  entries : List (UInt8 × List UInt8)
  num_mem : (0x8A, num) ∈ items
  num_once : ∀ f ∈ items, f.1 = 0x8A → f = (0x8A, num)
  data_mem : (0xAB, data) ∈ items
  data_once : ∀ f ∈ items, f.1 = 0xAB → f = (0xAB, data)
  data_eq : ∃ depth, Tlv.Seq (DataEntry depth) entries data
  seqs : ∀ f ∈ items, f.1 = 0x30 ∨ f.1 = 0x31 → ∃ fs, Tlv.Elems fs f.2

namespace GooseItems

variable (g : GooseItems)

/-- `bs` is a `0x61` element made of the items. -/
def Encodes (bs : List UInt8) : Prop := ∃ body, Tlv.Elems g.items body ∧ Tlv.Elem 0x61 body bs

/-- What the parsers ask for besides the number: no element is empty, the three names are there,
and the dataset does not nest too deep. -/
structure Sound : Prop where
  nonempty : ∀ f ∈ g.items, f.2 ≠ []
  gocbref : ∃ f ∈ g.items, f.1 = 0x80
  dataset : ∃ f ∈ g.items, f.1 = 0x82
  goid : ∃ f ∈ g.items, f.1 = 0x83
  depth : Tlv.Seq (DataEntry MAX_DATA_DEPTH) g.entries g.data

/-- The declared number only agrees with the entries modulo `2 ^ 16`. -/
def Wraps : Prop :=
  g.num.length ≤ 4 ∧ 2 ^ 16 ≤ beNat g.num ∧ beNat g.num % 2 ^ 16 = g.entries.length

variable {buffer : Ptr} {skipTag : ℕ → Traced Event Unit} {stop p : ℕ}

lemma entries_length_le : g.entries.length ≤ g.data.length := by
  obtain ⟨_, hdata⟩ := g.data_eq
  exact hdata.length_le fun _ _ he => he.elem.length_pos

/-- Along the elements, the declared number and the dataset are those of the PDU. -/
lemma lastAt_num {l : List ℕ} {d : UInt16} (hl : g.items = l.map (fieldAt buffer)) :
    lastAt buffer 0x8A (fun p => UInt16.ofNat (numberAt buffer p)) d l =
      UInt16.ofNat (asn1Number g.num) := by
  have hmem : (0x8A, g.num) ∈ l.map (fieldAt buffer) := hl ▸ g.num_mem
  obtain ⟨p₀, hp₀, hfield⟩ := List.mem_map.mp hmem
  obtain ⟨p, hp, htag, hlast⟩ := lastAt_of_mem ⟨p₀, hp₀, congrArg Prod.fst hfield⟩
  have heq := g.num_once (fieldAt buffer p) (hl ▸ List.mem_map_of_mem hp) htag
  rw [hlast, numberAt_eq_asn1Number, show valueAt buffer p = g.num from congrArg Prod.snd heq]

lemma exists_dataset {l : List ℕ} (hl : g.items = l.map (fieldAt buffer)) :
    ∃ p ∈ l, tagAt buffer p = 0xAB ∧ valueAt buffer p = g.data ∧
      ∀ {α : Type} (f : ℕ → α) d, lastAt buffer 0xAB f d l = f p := by
  have hmem : (0xAB, g.data) ∈ l.map (fieldAt buffer) := hl ▸ g.data_mem
  obtain ⟨p₀, hp₀, hfield⟩ := List.mem_map.mp hmem
  obtain ⟨p, hp, htag, hlast⟩ := lastAt_of_mem ⟨p₀, hp₀, congrArg Prod.fst hfield⟩
  have heq := g.data_once (fieldAt buffer p) (hl ▸ List.mem_map_of_mem hp) htag
  exact ⟨p, hp, htag, congrArg Prod.snd heq, hlast⟩

lemma exists_tag_iff {l : List ℕ} (hl : g.items = l.map (fieldAt buffer)) {t : UInt8} :
    (∃ p ∈ l, tagAt buffer p = t) ↔ ∃ f ∈ g.items, f.1 = t := by
  simp only [hl, List.mem_map, exists_exists_and_eq_and]
  rfl

/-- The comparison behind the walk. -/
lemma entries_eq_iff (hdata : g.data.length < 2 ^ 31) :
    UInt32.ofNat g.entries.length = (UInt16.ofNat (asn1Number g.num)).toUInt32 ↔
      asn1Number g.num % 2 ^ 16 = g.entries.length := by
  have hle := g.entries_length_le
  rw [← UInt32.toNat_inj, UInt16.toNat_toUInt32, UInt16.toNat_ofNat', UInt32.toNat_ofNat',
    Nat.mod_eq_of_lt (by omega), eq_comm]

/-- The walk returns 0 exactly on a sound PDU with the number of its entries, cut to 16 bits. -/
lemma gooseWalk_accepts_iff (skipTag : ℕ → Traced Event Unit) (passport : GoosePassport)
    (state : GooseState) (hstop : stop ≤ 2 ^ 31) (hp : p ≤ stop)
    (hcontext : ∀ f ∈ g.items, f.1 ≠ 0xA0 ∧ f.1 ≠ 0xA1)
    (h : Tlv.Elems g.items (buffer.mem.slice (buffer.off + p) (stop - p))) :
    (∃ fuel r, (gooseWalk buffer skipTag stop fuel
        (p, { passport := passport, state := state })).val = some r ∧ r.code = 0) ↔
      g.Sound ∧ asn1Number g.num % 2 ^ 16 = g.entries.length := by
  obtain ⟨l, hl, hitems⟩ := (seq_iff_path hp).mp h
  have hmem : ∀ {q}, q ∈ l → fieldAt buffer q ∈ g.items := fun hq =>
    hitems ▸ List.mem_map_of_mem hq
  have hfits : ∀ q ∈ l, Fits buffer stop q := fun q hq => (hl.of_mem hq).2.choose_spec.1
  obtain ⟨pd, hpd, htag, hvalue, hlast⟩ := g.exists_dataset hitems
  have hpdEnd := (hfits pd hpd).2
  have hdataLen : g.data.length < 2 ^ 31 := by
    rw [← hvalue, length_valueAt]
    exact ((hfits pd hpd).entryAt hstop).2.1
  have hcount : Tlv.Seq (DataEntry MAX_DATA_DEPTH) g.entries g.data →
      UInt32.ofNat (entryCount buffer pd) = UInt32.ofNat g.entries.length := by
    intro hdepth
    obtain ⟨l', hentries, hlen⟩ := entries_of_seq (hpdEnd.trans hstop) (hvalue ▸ hdepth)
    rw [hentries.entryCount_eq, hlen]
  constructor
  · rintro ⟨fuel, r, hrun, hcode⟩
    obtain ⟨l', q, hpath, hq, rfl⟩ := path_of_gooseWalk hstop hrun hcode
    have hsame : l' = l := by
      refine topPath_unique (fun a ha b b' hstep hstep' => ?_) hl hpath hq
      exact topStep_unique hstop (g.seqs _ (hmem ha)) (hcontext _ (hmem ha)) hstep hstep'
    subst hsame
    have hacc := (gooseFinish_code hpath hq).mp hcode
    have hdepth : Tlv.Seq (DataEntry MAX_DATA_DEPTH) g.entries g.data := by
      obtain ⟨_, hstep⟩ := (hpath.of_mem hpd).2.choose_spec
      obtain ⟨depth, hdata⟩ := g.data_eq
      rw [if_pos htag, elemEnd_eq (by omega)] at hstep
      rw [← hvalue, valueAt_eq] at hdata ⊢
      exact entries_of_tiled (hpdEnd.trans hstop) (headEnd_le_valueEnd buffer pd) hdata hstep.1
    have hentries := hacc.entries
    rw [hlast, g.lastAt_num hitems, hcount hdepth, g.entries_eq_iff hdataLen] at hentries
    refine ⟨⟨fun f hf => ?_, (g.exists_tag_iff hitems).mp hacc.gocbref,
      (g.exists_tag_iff hitems).mp hacc.dataset, (g.exists_tag_iff hitems).mp hacc.goid, hdepth⟩,
      hentries⟩
    rw [hitems] at hf
    obtain ⟨q, hq, rfl⟩ := List.mem_map.mp hf
    have hne := (hpath.of_mem hq).2.choose_spec.1.2.2
    rw [← length_valueAt] at hne
    exact List.length_pos_iff.mp (Nat.pos_of_ne_zero hne)
  · rintro ⟨hsound, hnum⟩
    have hok : ∀ f ∈ g.items, ItemOk f := fun f hf =>
      ⟨hsound.nonempty f hf, fun ht => ⟨g.entries, g.data_once f hf ht ▸ hsound.depth⟩,
        g.seqs f hf, hcontext f hf⟩
    have hpath : Loop.Path (TopStep buffer stop) p l stop :=
      hl.mono fun q hq _ hstep => topStep_of_item hstop hstep (hok _ (hmem hq))
    obtain ⟨fuel, hrun⟩ : ∃ fuel, (gooseWalk buffer skipTag stop fuel
        (p, { passport := passport, state := state })).val = _ :=
      gooseWalk_of_path skipTag hstop hpath le_rfl
    refine ⟨fuel, _, hrun, (gooseFinish_code hpath le_rfl).mpr ?_⟩
    refine ⟨⟨_, hpath, le_rfl⟩, (g.exists_tag_iff hitems).mpr hsound.gocbref,
      (g.exists_tag_iff hitems).mpr hsound.dataset, (g.exists_tag_iff hitems).mpr hsound.goid, ?_⟩
    rw [hlast, g.lastAt_num hitems, hcount hsound.depth, g.entries_eq_iff hdataLen]
    exact hnum

/-- Of the sound PDUs, those are accepted with a wrong number that wrap. -/
lemma Sound.honest_iff {g : GooseItems} (h : g.Sound) :
    (asn1Number g.num % 2 ^ 16 = g.entries.length → beNat g.num = g.entries.length) ↔
      ¬ g.Wraps := by
  have hnum : 1 ≤ g.num.length := List.length_pos_iff.mpr (h.nonempty _ g.num_mem)
  unfold Wraps asn1Number
  by_cases h4 : g.num.length ≤ 4
  · rw [if_pos ⟨hnum, h4⟩]
    omega
  · have hne : g.entries.length ≠ 0 := by
      intro hzero
      have hdepth := h.depth
      rw [List.length_eq_zero_iff.mp hzero] at hdepth
      have hdata := h.nonempty _ g.data_mem
      cases hd : g.data with
      | nil => exact hdata hd
      | cons b bs =>
        rw [hd] at hdepth
        cases hdepth
    rw [if_neg fun hlen => h4 hlen.2]
    omega

/-- A walk that accepts only what it declares. -/
lemma gooseWalk_honest_iff {passport : GoosePassport} {state : GooseState} (hstop : stop ≤ 2 ^ 31)
    (hp : p ≤ stop) (hcontext : ∀ f ∈ g.items, f.1 ≠ 0xA0 ∧ f.1 ≠ 0xA1)
    (h : Tlv.Elems g.items (buffer.mem.slice (buffer.off + p) (stop - p))) :
    (∀ fuel r, (gooseWalk buffer skipTag stop fuel
        (p, { passport := passport, state := state })).val = some r → r.code = 0 →
        beNat g.num = g.entries.length) ↔ ¬ (g.Sound ∧ g.Wraps) := by
  have hiff := g.gooseWalk_accepts_iff skipTag passport state hstop hp hcontext h
  constructor
  · rintro hall ⟨hsound, hwraps⟩
    refine hsound.honest_iff.mp (fun hnum => ?_) hwraps
    obtain ⟨fuel, r, hrun, hcode⟩ := hiff.mpr ⟨hsound, hnum⟩
    exact hall fuel r hrun hcode
  · intro hno fuel r hrun hcode
    obtain ⟨hsound, hnum⟩ := hiff.mp ⟨fuel, r, hrun, hcode⟩
    exact hsound.honest_iff.mpr (fun hwraps => hno ⟨hsound, hwraps⟩) hnum

end GooseItems

/-- Both parsers accept only as many entries as are declared, unless the number wraps. -/
theorem declared_entries_iff (g : GooseItems) (pdu : List UInt8) (hpdu : g.Encodes pdu)
    (hcontext : ∀ f ∈ g.items, f.1 ≠ 0xA0 ∧ f.1 ≠ 0xA1) (passport : GoosePassport)
    (state : GooseState) :
    (∀ (h : L2Head) (buffer : Ptr) (size : Int32), size.toInt = (h.bytes 0xB8 ++ pdu).length →
      buffer.mem.Holds buffer.off (h.bytes 0xB8 ++ pdu) →
      ((∀ fuel r, (parseGoosePacket fuel buffer size passport state).val = some r → r.code = 0 →
        beNat g.num = g.entries.length) ↔ ¬ (64 ≤ size.toInt ∧ g.Sound ∧ g.Wraps))) ∧
    (∀ (apdu : Ptr) (apduSize : Int32), apduSize.toInt = pdu.length →
      apdu.mem.Holds apdu.off pdu →
      ((∀ fuel r, (parseGooseApdu fuel apdu apduSize passport state).val = some r → r.code = 0 →
        beNat g.num = g.entries.length) ↔ ¬ (g.Sound ∧ g.Wraps))) := by
  refine ⟨fun h buffer size hsize hmem => ?_, fun apdu apduSize hsize hmem => ?_⟩
  · by_cases hmin : 64 ≤ size.toInt
    swap
    · refine iff_of_true (fun fuel r hrun hcode => ?_) fun hno => hmin hno.1
      rw [parseGoosePacket, if_pos (Int.not_le.mp hmin)] at hrun
      cases hrun
      cases hcode
    obtain ⟨hhead, hrest⟩ := Mem.holds_append.mp hmem
    rw [h.length_bytes] at hrest
    obtain ⟨htag, hle, helems⟩ := elems_of_holds hpdu hrest
    have hnat : size.toInt.toNat = h.appidAt 0xB8 + 8 + pdu.length := by
      rw [List.length_append, h.length_bytes] at hsize
      omega
    have hstop := toInt_toNat_le size
    rw [hnat] at hstop
    simp only [val_parseGoosePacket hmin (L2Head.val_l2Header hhead) htag, hnat, hmin, true_and]
    exact g.gooseWalk_honest_iff hstop hle hcontext helems
  · have hmem : apdu.mem.Holds (apdu.off + 0) pdu := hmem
    obtain ⟨htag, hle, helems⟩ := elems_of_holds hpdu hmem
    have hlt := lt_headEnd apdu 0
    have hnat : apduSize.toInt.toNat = 0 + pdu.length := by omega
    have hstop := toInt_toNat_le apduSize
    rw [hnat] at hstop
    simp only [val_parseGooseApdu (show 2 ≤ apduSize.toInt by omega) htag, hnat]
    exact g.gooseWalk_honest_iff hstop hle hcontext helems

/-- The sample frame, with 65537 declared entries. -/
def wrappingFields : GooseFields :=
  { sampleGooseFields with numDatSetEntries := [0x01, 0x00, 0x01] }

def wrappingItems : GooseItems where
  items := wrappingFields.elems
  num := wrappingFields.numDatSetEntries
  data := wrappingFields.allData
  entries := sampleGoosePdu.entries
  num_mem := by decide
  num_once := by decide
  data_mem := by decide
  data_once := by decide
  data_eq := ⟨_, sampleGoosePdu.allData_eq⟩
  seqs := by
    intro f hf h
    have hno : ∀ f ∈ wrappingFields.elems, ¬ (f.1 = 0x30 ∨ f.1 = 0x31) := by decide
    exact absurd h (hno f hf)

def wrappingPdu : List UInt8 := Tlv.short (0x61, wrappingFields.elems.flatMap Tlv.short)

lemma encodes_wrappingPdu : wrappingItems.Encodes wrappingPdu :=
  ⟨_, Tlv.elems_short wrappingFields.elems (by decide),
    Tlv.elem_short (f := (0x61, wrappingFields.elems.flatMap Tlv.short)) (by decide)⟩

theorem declared_entries_iff_wrappingItems :
    wrappingItems.Encodes wrappingPdu ∧ (∀ f ∈ wrappingItems.items, f.1 ≠ 0xA0 ∧ f.1 ≠ 0xA1) ∧
      ((∀ fuel r, (parseGooseApdu fuel (.ofBytes wrappingPdu) 49 {} {}).val = some r → r.code = 0 →
        beNat wrappingItems.num = wrappingItems.entries.length) ↔
        ¬ (wrappingItems.Sound ∧ wrappingItems.Wraps)) := by
  have hcontext : ∀ f ∈ wrappingItems.items, f.1 ≠ 0xA0 ∧ f.1 ≠ 0xA1 := by decide +kernel
  exact ⟨encodes_wrappingPdu, hcontext,
    (declared_entries_iff wrappingItems wrappingPdu encodes_wrappingPdu hcontext {} {}).2
      (.ofBytes wrappingPdu) 49 (by decide +kernel) (Ptr.holds_ofBytes _)⟩

/-- 65537 entries are declared, one is there, and both parsers accept. -/
theorem wrappingPdu_is_accepted :
    wrappingItems.Encodes wrappingPdu ∧
      beNat wrappingItems.num ≠ wrappingItems.entries.length ∧
      (∃ r, (parseGoosePacket 20 (.ofBytes (sampleL2Head.bytes 0xB8 ++ wrappingPdu)) 71 {} {}).val =
        some r ∧ r.code = 0) ∧
      ∃ r, (parseGooseApdu 20 (.ofBytes wrappingPdu) 49 {} {}).val = some r ∧ r.code = 0 := by
  have hcode : ((parseGoosePacket 20 (.ofBytes (sampleL2Head.bytes 0xB8 ++ wrappingPdu)) 71
      {} {}).val.map GooseParse.code) = some 0 ∧
      ((parseGooseApdu 20 (.ofBytes wrappingPdu) 49 {} {}).val.map GooseParse.code) = some 0 := by
    decide +kernel
  exact ⟨encodes_wrappingPdu, by decide +kernel, Option.map_eq_some_iff.mp hcode.1,
    Option.map_eq_some_iff.mp hcode.2⟩

end ProcessBus
