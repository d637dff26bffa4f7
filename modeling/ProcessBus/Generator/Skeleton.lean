import ProcessBus.Generator.LayerTwo
import ProcessBus.Lib.Segments
import ProcessBus.Parser.Goose.Correctness
import ProcessBus.Parser.Sv.Correctness

/-!
# Well-formed skeletons

What the generators rely on: the library encodes a well-formed frame for the patterns it is given
and reports the places of its fields. The patterns contain a placeholder of eight or four
characters, which is where the generators store the number of a stream.

To amend the fields replaces the values in the encoding and moves nothing, so that the frame stays
well-formed.
-/

namespace ProcessBus

/-! ### GOOSE -/

/-- What the generator stores in a GOOSE message. -/
structure GooseValues where
  sID : List UInt8
  t : List UInt8
  stNum : List UInt8
  sqNum : List UInt8
  d1 : UInt8
  size_sID : sID.length = 8
  size_t : t.length = 8
  size_stNum : stNum.length = 4
  size_sqNum : sqNum.length = 4

/-- The rest of the message: the head of the frame, tag and length octets of the PDU and of its
fields, the other fields, and the entries behind the first one. -/
structure GooseLayout where
  head : L2Head
  pduHead : List UInt8
  hd : UInt8 → List UInt8
  timeAllowedToLive : List UInt8
  simulation : List UInt8
  confRev : List UInt8
  ndsCom : List UInt8
  numDatSetEntries : List UInt8
  d1Head : List UInt8
  entries : List (UInt8 × List UInt8)
  data : List UInt8

namespace GooseLayout

variable (k : GooseLayout) (v v' : GooseValues)

def fields : GooseFields where
  gocbRef := ascii "IED" ++ v.sID ++ ascii "LDName/LLN0$GO$GOCB"
  timeAllowedToLive := k.timeAllowedToLive
  datSet := ascii "IED" ++ v.sID ++ ascii "LDName/LLN0$DataSet"
  goID := ascii "GOID" ++ v.sID
  t := v.t
  stNum := v.stNum
  sqNum := v.sqNum
  simulation := k.simulation
  confRev := k.confRev
  ndsCom := k.ndsCom
  numDatSetEntries := k.numDatSetEntries
  allData := k.d1Head ++ [v.d1] ++ k.data

/-- The fields of the PDU, cut where the generator stores. -/
def segs : List (List UInt8) :=
  [k.pduHead, k.hd 0x80, ascii "IED", v.sID, ascii "LDName/LLN0$GO$GOCB",
    k.hd 0x81, k.timeAllowedToLive, k.hd 0x82, ascii "IED", v.sID, ascii "LDName/LLN0$DataSet",
    k.hd 0x83, ascii "GOID", v.sID, k.hd 0x84, v.t, k.hd 0x85, v.stNum, k.hd 0x86, v.sqNum,
    k.hd 0x87, k.simulation, k.hd 0x88, k.confRev, k.hd 0x89, k.ndsCom,
    k.hd 0x8A, k.numDatSetEntries, k.hd 0xAB, k.d1Head, [v.d1], k.data]

/-- The content of the PDU. -/
def body : List UInt8 := (k.fields v).elems.flatMap fun f => k.hd f.1 ++ f.2

def pdu : List UInt8 := k.pduHead ++ k.body v

/-- The segments with a value the generator stores, in the order in which it stores them. -/
def stored : List (ℕ × List UInt8) :=
  [(13, v.sID), (3, v.sID), (9, v.sID), (15, v.t), (17, v.stNum), (19, v.sqNum), (30, [v.d1])]

lemma flatten_segs : (k.segs v).flatten = k.pdu v := by
  simp [segs, pdu, body, fields, GooseFields.elems]

/-- Storing other values. -/
lemma foldl_stored :
    (stored v').foldl (fun segs p => segs.set p.1 p.2) (k.segs v) = k.segs v' := rfl

lemma size_stored : ∀ p ∈ stored v', p.1 < (k.segs v).length ∧
    ((k.segs v).getD p.1 []).length = p.2.length := by
  simp only [stored, List.forall_mem_cons, List.not_mem_nil, false_implies, implies_true, and_true]
  simp [segs, v.size_sID, v'.size_sID, v.size_t, v'.size_t, v.size_stNum, v'.size_stNum,
    v.size_sqNum, v'.size_sqNum]

/-- What makes the PDU well-formed. -/
structure Valid : Prop where
  pdu_ok : Tlv.Elem 0x61 (k.body v) (k.pdu v)
  fields_ok : ∀ f ∈ (k.fields v).elems, Tlv.Elem f.1 f.2 (k.hd f.1 ++ f.2) ∧ f.2 ≠ []
  confRev : beNat k.confRev = 1 ∧ k.confRev.length ≤ 4
  first : Tlv.Elem 0x83 [v.d1] (k.d1Head ++ [v.d1])
  data : Tlv.Seq (DataEntry MAX_DATA_DEPTH) k.entries k.data
  num : beNat k.numDatSetEntries = k.entries.length + 1
  num_length : k.numDatSetEntries.length ≤ 4
  num_le : k.entries.length + 1 ≤ 65535

variable {k v}

/-- The values do not matter. -/
lemma Valid.congr (h : k.Valid v) : k.Valid v' := by
  have hfields : ∀ f ∈ (k.fields v').elems,
      Tlv.Elem f.1 f.2 (k.hd f.1 ++ f.2) ∧ f.2 ≠ [] := by
    have hall := h.fields_ok
    simp only [GooseFields.elems, List.forall_mem_cons, List.not_mem_nil, false_implies,
      implies_true, and_true] at hall ⊢
    obtain ⟨h0, h1, h2, h3, h4, h5, h6, h7, h8, h9, hA, hB⟩ := hall
    have hlen : ∀ {t : UInt8} {x y : List UInt8}, Tlv.Elem t x (k.hd t ++ x) ∧ x ≠ [] →
        y.length = x.length → Tlv.Elem t y (k.hd t ++ y) ∧ y ≠ [] := fun hx hxy =>
      ⟨hx.1.of_length_eq hxy, fun hy =>
        hx.2 (List.eq_nil_of_length_eq_zero (by rw [← hxy, hy]; rfl))⟩
    refine ⟨hlen h0 ?_, h1, hlen h2 ?_, hlen h3 ?_, hlen h4 ?_, hlen h5 ?_, hlen h6 ?_, h7, h8, h9,
      hA, hlen hB ?_⟩ <;>
      simp [fields, v.size_sID, v'.size_sID, v.size_t, v'.size_t, v.size_stNum, v'.size_stNum,
        v.size_sqNum, v'.size_sqNum]
  have hbody : (k.body v').length = (k.body v).length := by
    simp [body, fields, GooseFields.elems, v.size_sID, v'.size_sID, v.size_t, v'.size_t,
      v.size_stNum, v'.size_stNum, v.size_sqNum, v'.size_sqNum]
  exact ⟨h.pdu_ok.of_length_eq hbody, hfields, h.confRev, h.first.of_length_eq rfl, h.data, h.num,
    h.num_length, h.num_le⟩

/-- The PDU a parser reads. -/
def Valid.toPdu (h : k.Valid v) : GoosePdu where
  toGooseFields := k.fields v
  order := (k.fields v).elems
  entries := (0x83, [v.d1]) :: k.entries
  order_perm := .rfl
  nonempty f hf := (h.fields_ok f hf).2
  t_length := by rw [fields, v.size_t]; decide
  allData_eq := .cons (.of_elem h.first (show ¬ NestedTag 0x83 by decide)) h.data
  num_length := h.num_length
  num_eq := h.num
  num_le := h.num_le

lemma Valid.encodes (h : k.Valid v) : h.toPdu.Encodes (k.pdu v) :=
  ⟨k.body v, Tlv.elems_flatMap fun f hf => (h.fields_ok f hf).1, h.pdu_ok⟩

/-- Which segment an offset points at. -/
def segOf : GooseParam → ℕ
  | .GOOSE_APPID_OFFSET => 0
  | .GOOSE_TIMESTAMP_OFFSET => 15
  | .GOOSE_GOID_OFFSET => 12
  | .GOOSE_GOCB_REF_OFFSET => 2
  | .GOOSE_DS_REF_OFFSET => 8
  | .GOOSE_SQ_NUM_OFFSET => 19
  | .GOOSE_ST_NUM_OFFSET => 17
  | .GOOSE_D1_OFFSET => 30

variable (k v) in
/-- The message is a well-formed frame, and its offsets point at its fields. -/
structure Describes (msg : GooseMessage) : Prop where
  valid : k.Valid v
  frame : msg.buffer.Holds 0 (k.head.bytes 0xB8 ++ k.pdu v)
  size_le : (k.head.bytes 0xB8 ++ k.pdu v).length ≤ msg.size
  -- the length field counts from the APPID on
  length : beNat (k.head.rest.take 2) = 8 + (k.pdu v).length
  appid : (msg.offsets .GOOSE_APPID_OFFSET).toNat = k.head.appidAt 0xB8
  offsets : ∀ i, i ≠ .GOOSE_APPID_OFFSET →
    (msg.offsets i).toNat = k.head.appidAt 0xB8 + 8 + Mem.segAt (k.segs v) (segOf i)

end GooseLayout

/-- What the fields of a frame are set to. -/
def GooseSourceIED.values (ied : GooseSourceIED) : GooseValues where
  sID := ied.sID
  t := hostBytes 8 ied.timestamp.toNat
  stNum := beBytes 4 ied.stNum.toNat
  sqNum := beBytes 4 ied.sqNum.toNat
  d1 := if ied.stNum % 2 = 0 then 1 else 0
  size_sID := ied.size
  size_t := length_hostBytes _ _
  size_stNum := length_beBytes _ _
  size_sqNum := length_beBytes _ _

/-- To amend the fields in place replaces the values. -/
lemma GooseLayout.holds_amended {k : GooseLayout} {v : GooseValues} {ied : GooseSourceIED} {m : Mem}
    {a : ℕ} {at' : GooseParam → ℕ} (h : m.Holds a (k.pdu v))
    (hat : ∀ i, i ≠ .GOOSE_APPID_OFFSET → at' i = a + Mem.segAt (k.segs v) (segOf i)) :
    (m.patch (ied.fields at')).Holds a (k.pdu ied.values) := by
  have hfields : ied.fields at' =
      (stored ied.values).map fun p => (a + Mem.segAt (k.segs v) p.1, p.2) := by
    have hnext : ∀ i n, i ≠ .GOOSE_APPID_OFFSET → segOf i < (k.segs v).length →
        ((k.segs v).getD (segOf i) []).length = n →
        at' i + n = a + Mem.segAt (k.segs v) (segOf i + 1) := fun i n hi hlt hn => by
      rw [hat i hi, Mem.segAt_succ hlt, ← hn]
      simp [hlt, Nat.add_assoc]
    simp only [GooseSourceIED.fields, stored, List.map_cons, List.map_nil]
    rw [hnext .GOOSE_GOID_OFFSET 4 (by decide) (by simp [segs, segOf]) (by simp [segs, segOf]; rfl),
      hnext .GOOSE_GOCB_REF_OFFSET 3 (by decide) (by simp [segs, segOf])
        (by simp [segs, segOf]; rfl),
      hnext .GOOSE_DS_REF_OFFSET 3 (by decide) (by simp [segs, segOf]) (by simp [segs, segOf]; rfl),
      hat .GOOSE_TIMESTAMP_OFFSET (by decide), hat .GOOSE_ST_NUM_OFFSET (by decide),
      hat .GOOSE_SQ_NUM_OFFSET (by decide), hat .GOOSE_D1_OFFSET (by decide)]
    rfl
  rw [← k.flatten_segs, hfields] at *
  have hpatch := h.patch_segs (stored ied.values) (k.size_stored v ied.values)
  rwa [k.foldl_stored] at hpatch

/-- All fields but the APPID are behind `a` if their offsets are. -/
lemma GooseSourceIED.le_of_mem_fields {ied : GooseSourceIED} {at' : GooseParam → ℕ} {a : ℕ}
    (h : ∀ i, i ≠ .GOOSE_APPID_OFFSET → a ≤ at' i) : ∀ p ∈ ied.fields at', a ≤ p.1 := by
  intro p hp
  simp only [fields, List.mem_cons, List.not_mem_nil, or_false] at hp
  rcases hp with rfl | rfl | rfl | rfl | rfl | rfl | rfl
  · exact (h _ (by decide)).trans (Nat.le_add_right _ _)
  · exact (h _ (by decide)).trans (Nat.le_add_right _ _)
  · exact (h _ (by decide)).trans (Nat.le_add_right _ _)
  · exact h _ (by decide)
  · exact h _ (by decide)
  · exact h _ (by decide)
  · exact h _ (by decide)

/-! A message with two Booleans. -/

def sampleGooseLayout : GooseLayout where
  head := {
    addresses := [0x01, 0x0C, 0xCD, 0x04, 0, 1, 0, 0, 0, 0, 0, 0]
    vlan := some [0x80, 0]
    appid := [0x12, 0x34]
    rest := [0, 134, 0, 0, 0, 0]
    addresses_length := rfl
    vlan_length := by simp
    appid_length := rfl
    rest_length := rfl }
  pduHead := [0x61, 124]
  hd t := [t, if t = 0x80 ∨ t = 0x82 then 30 else if t = 0x83 then 12 else if t = 0x84 then 8 else
    if t = 0x85 ∨ t = 0x86 then 4 else if t = 0x81 then 2 else if t = 0xAB then 6 else 1]
  timeAllowedToLive := [0x07, 0xD0]
  simulation := [0]
  confRev := [1]
  ndsCom := [0]
  numDatSetEntries := [2]
  d1Head := [0x83, 1]
  entries := [(0x83, [1])]
  data := [0x83, 1, 1]

def sampleGooseValues : GooseValues where
  sID := ascii "12345678"
  t := List.replicate 8 0
  stNum := [0x7F, 0xFF, 0xFF, 0xFF]
  sqNum := [0x7F, 0xFF, 0xFF, 0xFF]
  d1 := 0
  size_sID := rfl
  size_t := length_zeros
  size_stNum := rfl
  size_sqNum := rfl

def sampleGooseMessage : GooseMessage where
  buffer := (Ptr.ofBytes (sampleGooseLayout.head.bytes 0xB8 ++
    sampleGooseLayout.pdu sampleGooseValues)).mem
  size := 152
  offsets := fun i => UInt16.ofNat (if i = .GOOSE_APPID_OFFSET then 18 else
    26 + Mem.segAt (sampleGooseLayout.segs sampleGooseValues) (GooseLayout.segOf i))

lemma valid_sampleGooseLayout : sampleGooseLayout.Valid sampleGooseValues := by
  have hshort : ∀ f ∈ (sampleGooseLayout.fields sampleGooseValues).elems,
      sampleGooseLayout.hd f.1 ++ f.2 = Tlv.short f ∧ f.2.length < 128 ∧ f.2 ≠ [] := by
    decide +kernel
  refine ⟨?_, fun f hf => ?_, by decide, ?_, ?_, rfl, by decide, by decide⟩
  · exact Tlv.elem_short (f := (0x61, sampleGooseLayout.body sampleGooseValues))
      (by decide +kernel)
  · obtain ⟨heq, hlen, hne⟩ := hshort f hf
    exact ⟨heq ▸ Tlv.elem_short hlen, hne⟩
  · exact Tlv.elem_short (f := (0x83, [0])) (by decide)
  · exact show Tlv.Seq (DataEntry MAX_DATA_DEPTH) [(0x83, [1])] (Tlv.short (0x83, [1]) ++ []) from
      .cons (.of_elem (Tlv.elem_short (by decide)) (by decide)) .nil

lemma describes_sampleGooseMessage :
    sampleGooseLayout.Describes sampleGooseValues sampleGooseMessage where
  valid := valid_sampleGooseLayout
  frame := Ptr.holds_ofBytes _
  size_le := by decide +kernel
  length := by decide +kernel
  appid := rfl
  offsets i hi := by cases i <;> first | exact absurd rfl hi | decide +kernel

/-! ### Sampled Values -/

/-- An ASDU: its tag and length octets, those of its fields, the fields between svID and smpCnt and
those behind. -/
structure SvAsduLayout where
  head : List UInt8
  hd : UInt8 → List UInt8
  mid : List (UInt8 × List UInt8)
  post : List (UInt8 × List UInt8)

namespace SvAsduLayout

variable (a : SvAsduLayout) (sID cnt : List UInt8)

def fields : List (UInt8 × List UInt8) :=
  (0x80, ascii "SVID" ++ sID) :: (a.mid ++ (0x82, cnt) :: a.post)

def body : List UInt8 := (a.fields sID cnt).flatMap fun f => a.hd f.1 ++ f.2

def bytes : List UInt8 := a.head ++ a.body sID cnt

/-- The ASDU, cut where the generator stores. -/
def segs : List (List UInt8) :=
  [a.head, a.hd 0x80, ascii "SVID", sID, a.mid.flatMap fun f => a.hd f.1 ++ f.2, a.hd 0x82, cnt,
    a.post.flatMap fun f => a.hd f.1 ++ f.2]

lemma flatten_segs : (a.segs sID cnt).flatten = a.bytes sID cnt := by
  simp [segs, bytes, body, fields]

/-- The two values lie in the ASDU. -/
lemma segAt_segs {sID cnt : List UInt8} (hsID : sID.length = 4) (hcnt : cnt.length = 2) :
    Mem.segAt (a.segs sID cnt) 3 = Mem.segAt (a.segs sID cnt) 2 + 4 ∧
      Mem.segAt (a.segs sID cnt) 3 + 4 ≤ (a.bytes sID cnt).length ∧
      Mem.segAt (a.segs sID cnt) 6 + 2 ≤ (a.bytes sID cnt).length := by
  have hsvid : (ascii "SVID").length = 4 := rfl
  rw [← flatten_segs]
  simp only [Mem.segAt, segs, List.take_succ_cons, List.take_zero, List.flatten_cons,
    List.flatten_nil, List.length_append, List.length_nil, hsID, hcnt, hsvid]
  omega

lemma length_bytes {sID cnt sID' cnt' : List UInt8} (hsID : sID'.length = sID.length)
    (hcnt : cnt'.length = cnt.length) :
    (a.bytes sID' cnt').length = (a.bytes sID cnt).length := by
  simp [bytes, body, fields, hsID, hcnt]

/-- What makes the ASDU well-formed, with confRev 1. -/
structure Valid : Prop where
  head_ok : Tlv.Elem 0x30 (a.body sID cnt) (a.bytes sID cnt)
  fields_ok : ∀ f ∈ a.fields sID cnt, Tlv.Elem f.1 f.2 (a.hd f.1 ++ f.2) ∧ FieldOk f.1 f.2
  increasing : ((a.fields sID cnt).map Prod.fst).Pairwise (· < ·)
  confRev : (0x83, [0, 0, 0, 1]) ∈ a.fields sID cnt
  smpSynch : 0x85 ∈ (a.fields sID cnt).map Prod.fst
  data : 0x87 ∈ (a.fields sID cnt).map Prod.fst

variable {a sID cnt} {sID' cnt' : List UInt8}

/-- The values do not matter. -/
lemma Valid.congr (h : a.Valid sID cnt) (hsID : sID'.length = sID.length)
    (hcnt : cnt'.length = cnt.length) : a.Valid sID' cnt' := by
  have hbody : (a.body sID' cnt').length = (a.body sID cnt).length := by
    simp [body, SvAsduLayout.fields, hsID, hcnt]
  have htags : (a.fields sID' cnt').map Prod.fst = (a.fields sID cnt).map Prod.fst := by
    simp [SvAsduLayout.fields]
  have hsvID := h.fields_ok (0x80, ascii "SVID" ++ sID) List.mem_cons_self
  have hsmp := h.fields_ok (0x82, cnt) (by simp [SvAsduLayout.fields])
  refine ⟨h.head_ok.of_length_eq hbody, fun f hf => ?_, htags ▸ h.increasing, ?_,
    htags ▸ h.smpSynch, htags ▸ h.data⟩
  · simp only [SvAsduLayout.fields, List.mem_cons, List.mem_append] at hf
    rcases hf with rfl | hf | rfl | hf
    · refine ⟨hsvID.1.of_length_eq (by simp [hsID]), .inl ⟨rfl, ?_⟩⟩
      rw [List.length_append]
      exact Nat.le_add_right_of_le (by decide)
    · exact h.fields_ok f (by simp [SvAsduLayout.fields, hf])
    · exact ⟨hsmp.1.of_length_eq hcnt, .inr (.inr (.inl ⟨rfl, hcnt.trans hsmp.2.length_smpCnt⟩))⟩
    · exact h.fields_ok f (by simp [SvAsduLayout.fields, hf])
  · have hmem := h.confRev
    simp only [SvAsduLayout.fields, List.mem_cons, List.mem_append, Prod.mk.injEq] at hmem ⊢
    simpa using hmem

/-- The ASDU a parser reads. -/
def Valid.toAsdu (h : a.Valid sID cnt) : SvAsdu where
  fields := a.fields sID cnt
  svID := ascii "SVID" ++ sID
  smpCnt := cnt
  confRev := [0, 0, 0, 1]
  increasing := h.increasing
  ok f hf := (h.fields_ok f hf).2
  svID_mem := List.mem_cons_self
  smpCnt_mem := by simp [SvAsduLayout.fields]
  confRev_mem := h.confRev
  smpSynch_mem := h.smpSynch
  data_mem := h.data

lemma Valid.encodes (h : a.Valid sID cnt) : h.toAsdu.Encodes (a.bytes sID cnt) :=
  ⟨a.body sID cnt, Tlv.elems_flatMap fun f hf => (h.fields_ok f hf).1, h.head_ok⟩

end SvAsduLayout

/-- The ASDUs of a message, from number `i` on; `cnt` are the sample counters. -/
def asdusBytes (sID : List UInt8) (cnt : ℕ → List UInt8) : List SvAsduLayout → ℕ → List UInt8
  | [], _ => []
  | a :: as, i => a.bytes sID (cnt i) ++ asdusBytes sID cnt as (i + 1)

/-- The rest of the message. -/
structure SvLayout where
  head : L2Head
  pduHead : List UInt8
  numHead : List UInt8
  num : List UInt8
  seqHead : List UInt8
  asdus : List SvAsduLayout

namespace SvLayout

variable (k : SvLayout) (sID : List UInt8) (cnt : ℕ → List UInt8)

def body : List UInt8 := k.numHead ++ k.num ++ (k.seqHead ++ asdusBytes sID cnt k.asdus 0)

def pdu : List UInt8 := k.pduHead ++ k.body sID cnt

/-- What makes the PDU well-formed. -/
structure Valid : Prop where
  pdu_ok : Tlv.Elem 0x60 (k.body sID cnt) (k.pdu sID cnt)
  num_ok : Tlv.Elem 0x80 k.num (k.numHead ++ k.num)
  num_length : k.num.length = 1 ∨ k.num.length = 2
  num_eq : beNat k.num = k.asdus.length
  seq_ok : Tlv.Elem 0xA2 (asdusBytes sID cnt k.asdus 0) (k.seqHead ++ asdusBytes sID cnt k.asdus 0)
  asdus_ok : ∀ a ∈ k.asdus, ∀ i, a.Valid sID (cnt i)
  nonempty : k.asdus ≠ []

variable {k sID cnt} {sID' : List UInt8} {cnt' : ℕ → List UInt8}

lemma length_asdusBytes {as : List SvAsduLayout} (hsID : sID'.length = sID.length)
    (hcnt : ∀ i, (cnt' i).length = (cnt i).length) (i : ℕ) :
    (asdusBytes sID' cnt' as i).length = (asdusBytes sID cnt as i).length := by
  induction as generalizing i with
  | nil => rfl
  | cons a as ih =>
    simp [asdusBytes, SvAsduLayout.bytes, SvAsduLayout.body, SvAsduLayout.fields, hsID, hcnt, ih]

/-- The values do not matter. -/
lemma Valid.congr (h : k.Valid sID cnt) (hsID : sID'.length = sID.length)
    (hcnt : ∀ i, (cnt' i).length = (cnt i).length) : k.Valid sID' cnt' := by
  have hlen : (asdusBytes sID' cnt' k.asdus 0).length = (asdusBytes sID cnt k.asdus 0).length :=
    length_asdusBytes hsID hcnt 0
  have hbody : (k.body sID' cnt').length = (k.body sID cnt).length := by
    simp only [body, List.length_append, hlen]
  exact ⟨h.pdu_ok.of_length_eq hbody, h.num_ok, h.num_length, h.num_eq, h.seq_ok.of_length_eq hlen,
    fun a ha i => (h.asdus_ok a ha i).congr hsID (hcnt i), h.nonempty⟩

/-- The ASDUs a parser reads. -/
def toAsdus (sID : List UInt8) (cnt : ℕ → List UInt8) :
    (as : List SvAsduLayout) → (∀ a ∈ as, ∀ i, a.Valid sID (cnt i)) → ℕ → List SvAsdu
  | [], _, _ => []
  | a :: as, h, i => (h a List.mem_cons_self i).toAsdu ::
      toAsdus sID cnt as (fun b hb => h b (List.mem_cons_of_mem _ hb)) (i + 1)

lemma length_toAsdus {as : List SvAsduLayout} (h : ∀ a ∈ as, ∀ i, a.Valid sID (cnt i)) (i : ℕ) :
    (toAsdus sID cnt as h i).length = as.length := by
  induction as generalizing i with
  | nil => rfl
  | cons a as ih => rw [toAsdus, List.length_cons, List.length_cons, ih]

lemma encodes_toAsdus {as : List SvAsduLayout} (h : ∀ a ∈ as, ∀ i, a.Valid sID (cnt i)) (i : ℕ) :
    Tlv.Seq SvAsdu.Encodes (toAsdus sID cnt as h i) (asdusBytes sID cnt as i) := by
  induction as generalizing i with
  | nil => exact .nil
  | cons a as ih => exact .cons (h a List.mem_cons_self i).encodes (ih _ (i + 1))

/-- All of them are of one stream. -/
lemma of_mem_toAsdus {as : List SvAsduLayout} (h : ∀ a ∈ as, ∀ i, a.Valid sID (cnt i)) (i : ℕ) :
    ∀ u ∈ toAsdus sID cnt as h i, u.svID = ascii "SVID" ++ sID ∧ u.confRev = [0, 0, 0, 1] := by
  induction as generalizing i with
  | nil => exact fun u hu => absurd hu List.not_mem_nil
  | cons a as ih =>
    intro u hu
    rcases List.mem_cons.mp hu with rfl | hu
    · exact ⟨rfl, rfl⟩
    · exact ih _ (i + 1) u hu

/-- The PDU a parser reads. -/
def Valid.toPdu (h : k.Valid sID cnt) : SvPdu where
  num := k.num
  asdus := toAsdus sID cnt k.asdus h.asdus_ok 0
  num_length := h.num_length
  num_eq := by rw [length_toAsdus, h.num_eq]
  nonempty hnil := h.nonempty (List.length_eq_zero_iff.mp (by
    rw [← length_toAsdus h.asdus_ok 0, hnil, List.length_nil]))
  same a ha b hb := by
    obtain ⟨ha₁, ha₂⟩ := of_mem_toAsdus h.asdus_ok 0 a ha
    obtain ⟨hb₁, hb₂⟩ := of_mem_toAsdus h.asdus_ok 0 b hb
    exact ⟨ha₁.trans hb₁.symm, ha₂.trans hb₂.symm⟩

lemma Valid.encodes (h : k.Valid sID cnt) : h.toPdu.Encodes (k.pdu sID cnt) :=
  ⟨_, _, _, h.num_ok, encodes_toAsdus h.asdus_ok 0, h.seq_ok, h.pdu_ok⟩

/-- The counter that is reported is the first one. -/
lemma Valid.first_toPdu (h : k.Valid sID cnt) : h.toPdu.first.svID = ascii "SVID" ++ sID ∧
    h.toPdu.first.smpCnt = cnt 0 ∧ h.toPdu.first.confRev = [0, 0, 0, 1] := by
  have hhead : ∀ (as : List SvAsduLayout) (hall : ∀ a ∈ as, ∀ i, a.Valid sID (cnt i))
      (hne : toAsdus sID cnt as hall 0 ≠ []),
      ((toAsdus sID cnt as hall 0).head hne).svID = ascii "SVID" ++ sID ∧
      ((toAsdus sID cnt as hall 0).head hne).smpCnt = cnt 0 ∧
      ((toAsdus sID cnt as hall 0).head hne).confRev = [0, 0, 0, 1] := by
    intro as hall hne
    cases as with
    | nil => exact absurd rfl hne
    | cons a as => exact ⟨rfl, rfl, rfl⟩
  exact hhead k.asdus h.asdus_ok h.toPdu.nonempty

variable (k sID cnt) in
/-- Where an ASDU starts, relative to the PDU. -/
def asduAt (i : ℕ) : ℕ :=
  (k.pduHead ++ k.numHead ++ k.num ++ k.seqHead).length +
    (asdusBytes sID cnt (k.asdus.take i) 0).length

variable (k sID cnt) in
/-- The message is a well-formed frame, and its offsets point at its fields. -/
structure Describes (msg : SvMessage) : Prop where
  valid : k.Valid sID cnt
  frame : msg.buffer.Holds 0 (k.head.bytes 0xBA ++ k.pdu sID cnt)
  size_le : (k.head.bytes 0xBA ++ k.pdu sID cnt).length ≤ msg.size
  length : beNat (k.head.rest.take 2) = 8 + (k.pdu sID cnt).length
  appid : msg.appidOffset.toNat = k.head.appidAt 0xBA
  offsets : ∀ i (hi : i < k.asdus.length),
    (msg.asduOffs i).svid.toNat = k.head.appidAt 0xBA + 8 + (k.asduAt sID cnt i +
      Mem.segAt (k.asdus[i].segs sID (cnt i)) 2) ∧
    (msg.asduOffs i).smpCnt.toNat = k.head.appidAt 0xBA + 8 + (k.asduAt sID cnt i +
      Mem.segAt (k.asdus[i].segs sID (cnt i)) 6)

end SvLayout

namespace SVSourceIED

variable {freq : ℕ} {svidAt smpCntAt : ℕ → ℕ}

/-- The sample counters of the next frame. -/
def counters (freq : ℕ) (ied : SVSourceIED) (i : ℕ) : List UInt8 :=
  beBytes 2 ((advance freq)^[i] ied).smpCnt.toNat

lemma sID_iterate (ied : SVSourceIED) (i : ℕ) : ((advance freq)^[i] ied).sID = ied.sID := by
  induction i with
  | zero => rfl
  | succ i ih =>
    rw [Function.iterate_succ_apply']
    exact ih

/-- What is stored, and where. -/
lemma mem_fields {num i : ℕ} {ied : SVSourceIED} {p : Mem.Patch}
    (hp : p ∈ (fields freq svidAt smpCntAt num i ied).1) :
    ∃ j, i ≤ j ∧ j < i + num ∧ ((p.1 = svidAt j + 4 ∧ p.2.length = 4) ∨
      (p.1 = smpCntAt j ∧ p.2.length = 2)) := by
  induction num generalizing i ied with
  | zero => exact absurd hp List.not_mem_nil
  | succ num ih =>
    rw [fields, List.mem_cons, List.mem_cons] at hp
    rcases hp with rfl | rfl | hp
    · exact ⟨i, le_rfl, by omega, .inl ⟨rfl, ied.size⟩⟩
    · exact ⟨i, le_rfl, by omega, .inr ⟨rfl, length_beBytes _ _⟩⟩
    · obtain ⟨j, hle, hlt, hj⟩ := ih hp
      exact ⟨j, by omega, by omega, hj⟩

/-- To amend the fields in place replaces the values. -/
lemma holds_asdus {sID : List UInt8} {cnt : ℕ → List UInt8} (hsID : sID.length = 4)
    (hcnt : ∀ i, (cnt i).length = 2) {as : List SvAsduLayout} (ied : SVSourceIED) {i : ℕ} {m : Mem}
    {a : ℕ} (h : m.Holds a (asdusBytes sID cnt as i))
    (hat : ∀ j (hj : j < as.length),
      svidAt (i + j) = a + ((asdusBytes sID cnt (as.take j) i).length +
        Mem.segAt (as[j].segs sID (cnt (i + j))) 2) ∧
      smpCntAt (i + j) = a + ((asdusBytes sID cnt (as.take j) i).length +
        Mem.segAt (as[j].segs sID (cnt (i + j))) 6)) :
    (m.patch (fields freq svidAt smpCntAt as.length i ((advance freq)^[i] ied)).1).Holds a
      (asdusBytes ied.sID (ied.counters freq) as i) := by
  induction as generalizing i m a with
  | nil => exact Mem.holds_nil
  | cons x as ih =>
    obtain ⟨hx, has⟩ := Mem.holds_append.mp h
    have hsize : (ied.counters freq i).length = 2 := length_beBytes _ _
    have hlen := x.length_bytes (ied.size.trans hsID.symm) (hsize.trans (hcnt i).symm)
    obtain ⟨hsegs, hsID_le, hcnt_le⟩ := x.segAt_segs hsID (hcnt i)
    obtain ⟨hsvid, hsmp⟩ : svidAt i = a + Mem.segAt (x.segs sID (cnt i)) 2 ∧
        smpCntAt i = a + Mem.segAt (x.segs sID (cnt i)) 6 := by
      simpa [asdusBytes] using hat 0 (Nat.succ_pos _)
    -- the ASDU itself
    have hfirst : ((m.write (svidAt i + 4) ied.sID).write (smpCntAt i)
        (ied.counters freq i)).Holds a (x.bytes ied.sID (ied.counters freq i)) := by
      rw [← x.flatten_segs] at hx
      have hpatch := hx.patch_segs [(3, ied.sID), (6, ied.counters freq i)] (by
        simp [SvAsduLayout.segs, ied.size, hsID, hsize, hcnt])
      rw [hsvid, hsmp, Nat.add_assoc, ← hsegs, ← x.flatten_segs]
      exact hpatch
    -- the others are behind it
    have hrest : ((m.write (svidAt i + 4) ied.sID).write (smpCntAt i)
        (ied.counters freq i)).Holds (a + (x.bytes sID (cnt i)).length)
        (asdusBytes sID cnt as (i + 1)) := by
      refine (has.write (.inr ?_)).write (.inr ?_)
      · rw [ied.size]
        omega
      · rw [hsize]
        omega
    have hat' : ∀ j (hj : j < as.length),
        svidAt (i + 1 + j) = a + (x.bytes sID (cnt i)).length +
          ((asdusBytes sID cnt (as.take j) (i + 1)).length +
            Mem.segAt (as[j].segs sID (cnt (i + 1 + j))) 2) ∧
        smpCntAt (i + 1 + j) = a + (x.bytes sID (cnt i)).length +
          ((asdusBytes sID cnt (as.take j) (i + 1)).length +
            Mem.segAt (as[j].segs sID (cnt (i + 1 + j))) 6) := fun j hj => by
      have hj' := hat (j + 1) (Nat.succ_lt_succ hj)
      rw [show i + (j + 1) = i + 1 + j by omega] at hj'
      simp only [List.take_succ_cons, asdusBytes, List.length_append,
        List.getElem_cons_succ] at hj'
      omega
    have hbehind := ih hrest hat'
    rw [Function.iterate_succ_apply'] at hbehind
    rw [List.length_cons, fields, Mem.patch_cons, Mem.patch_cons, sID_iterate]
    refine Mem.holds_append.mpr ⟨hfirst.patch fun p hp => .inl ?_, ?_⟩
    · obtain ⟨j, hle, hlt, hj⟩ := mem_fields hp
      obtain ⟨d, rfl⟩ := Nat.exists_eq_add_of_le hle
      have hd := hat' d (by omega)
      rw [hlen]
      omega
    · rw [hlen]
      exact hbehind

/-- All fields are behind `a` if their offsets are. -/
lemma le_of_mem_fields {num a : ℕ} {ied : SVSourceIED}
    (h : ∀ j < num, a ≤ svidAt j ∧ a ≤ smpCntAt j) :
    ∀ p ∈ (fields freq svidAt smpCntAt num 0 ied).1, a ≤ p.1 := by
  intro p hp
  obtain ⟨j, _, hj, hp⟩ := mem_fields hp
  obtain ⟨hsvid, hsmp⟩ := h j (by omega)
  rcases hp with ⟨hp, _⟩ | ⟨hp, _⟩ <;> omega

end SVSourceIED

/-- To amend the fields of all ASDUs replaces the values of the message. -/
lemma SvLayout.holds_amended {k : SvLayout} {sID : List UInt8} {cnt : ℕ → List UInt8}
    {ied : SVSourceIED} {freq a : ℕ} {svidAt smpCntAt : ℕ → ℕ} {m : Mem} (hsID : sID.length = 4)
    (hcnt : ∀ i, (cnt i).length = 2) (h : m.Holds a (k.pdu sID cnt))
    (hat : ∀ i (hi : i < k.asdus.length),
      svidAt i = a + (k.asduAt sID cnt i + Mem.segAt (k.asdus[i].segs sID (cnt i)) 2) ∧
      smpCntAt i = a + (k.asduAt sID cnt i + Mem.segAt (k.asdus[i].segs sID (cnt i)) 6)) :
    (m.patch (SVSourceIED.fields freq svidAt smpCntAt k.asdus.length 0 ied).1).Holds a
      (k.pdu ied.sID (ied.counters freq)) := by
  have hsplit : ∀ sID cnt, k.pdu sID cnt =
      (k.pduHead ++ k.numHead ++ k.num ++ k.seqHead) ++ asdusBytes sID cnt k.asdus 0 :=
    fun sID cnt => by simp [SvLayout.pdu, SvLayout.body]
  have hasduAt : ∀ i, k.asduAt sID cnt i =
      (k.pduHead ++ k.numHead ++ k.num ++ k.seqHead).length +
        (asdusBytes sID cnt (k.asdus.take i) 0).length := fun i => rfl
  rw [hsplit] at h ⊢
  generalize k.pduHead ++ k.numHead ++ k.num ++ k.seqHead = front at *
  obtain ⟨hkeep, hasdus⟩ := Mem.holds_append.mp h
  refine Mem.holds_append.mpr ⟨hkeep.patch fun p hp => .inl ?_, ?_⟩
  · refine SVSourceIED.le_of_mem_fields (fun j hj => ?_) p hp
    obtain ⟨hsvid, hsmp⟩ := hat j hj
    rw [hasduAt] at hsvid hsmp
    omega
  · refine SVSourceIED.holds_asdus hsID hcnt ied hasdus fun j hj => ?_
    obtain ⟨hsvid, hsmp⟩ := hat j hj
    rw [hasduAt] at hsvid hsmp
    rw [Nat.zero_add, hsvid, hsmp]
    omega

/-! The messages of the two profiles, with eight values in an ASDU. -/

def sampleAsduLayout : SvAsduLayout where
  head := [0x30, 89]
  hd t := [t, if t = 0x80 then 8 else if t = 0x82 then 2 else if t = 0x83 then 4 else
    if t = 0x87 then 64 else 1]
  mid := []
  post := [(0x83, [0, 0, 0, 1]), (0x85, [0]),
    (0x87, (List.range 8).flatMap fun i => beBytes 4 (100 + i) ++ [0, 0, 0, 0])]

def sampleSvLayout (type : SvType) : SvLayout where
  head := {
    addresses := [0x01, 0x0C, 0xCD, 0x01, 0, 1, 0, 0, 0, 0, 0, 0]
    vlan := some [0x80, 101]
    appid := [0x40, 0]
    rest := (match type with | .SV80 => [0, 106] | .SV256 => [0x02, 0xEB]) ++ [0, 0, 0, 0]
    addresses_length := rfl
    vlan_length := by simp
    appid_length := rfl
    rest_length := by cases type <;> rfl }
  pduHead := match type with | .SV80 => [0x60, 96] | .SV256 => [0x60, 0x82, 0x02, 0xDF]
  numHead := [0x80, 1]
  num := [UInt8.ofNat type.asduNum]
  seqHead := match type with | .SV80 => [0xA2, 91] | .SV256 => [0xA2, 0x82, 0x02, 0xD8]
  asdus := List.replicate type.asduNum sampleAsduLayout

def sampleSvMessage (type : SvType) : SvMessage where
  buffer := (Ptr.ofBytes ((sampleSvLayout type).head.bytes 0xBA ++
    (sampleSvLayout type).pdu (ascii "1234") fun _ => [0, 0])).mem
  size := match type with | .SV80 => 124 | .SV256 => 765
  appidOffset := 18
  asduOffs := fun i =>
    let asdu := 26 + (sampleSvLayout type).asduAt (ascii "1234") (fun _ => [0, 0]) i
    let segs := sampleAsduLayout.segs (ascii "1234") [0, 0]
    ⟨UInt16.ofNat (asdu + Mem.segAt segs 2), UInt16.ofNat (asdu + Mem.segAt segs 6)⟩

lemma valid_sampleAsduLayout : sampleAsduLayout.Valid (ascii "1234") [0, 0] := by
  have hshort : ∀ f ∈ sampleAsduLayout.fields (ascii "1234") [0, 0],
      sampleAsduLayout.hd f.1 ++ f.2 = Tlv.short f ∧ f.2.length < 128 := by
    decide +kernel
  have hgood : ∀ i < 8, beNat ((((List.range 8).flatMap fun i =>
      beBytes 4 (100 + i) ++ [0, 0, 0, 0]).drop (4 + i * 8)).take 4) = 0 := by decide +kernel
  refine ⟨?_, fun f hf => ⟨?_, ?_⟩, by decide +kernel, by decide +kernel, by decide +kernel,
    by decide +kernel⟩
  · exact Tlv.elem_short (f := (0x30, sampleAsduLayout.body (ascii "1234") [0, 0]))
      (by decide +kernel)
  · obtain ⟨heq, hlen⟩ := hshort f hf
    exact heq ▸ Tlv.elem_short hlen
  · simp only [SvAsduLayout.fields, sampleAsduLayout, List.nil_append, List.mem_cons,
      List.not_mem_nil, or_false] at hf
    rcases hf with rfl | rfl | rfl | rfl | rfl
    · exact .inl ⟨rfl, by decide +kernel⟩
    · exact .inr (.inr (.inl ⟨rfl, rfl⟩))
    · exact .inr (.inr (.inr (.inl ⟨rfl, rfl⟩)))
    · exact .inr (.inr (.inr (.inr (.inr (.inl ⟨rfl, rfl⟩)))))
    · exact .inr (.inr (.inr (.inr (.inr (.inr (.inr (.inl ⟨rfl, by decide +kernel, hgood⟩)))))))

lemma valid_sampleSvLayout (type : SvType) :
    (sampleSvLayout type).Valid (ascii "1234") fun _ => [0, 0] := by
  have hasdus : ∀ type, (asdusBytes (ascii "1234") (fun _ => [0, 0])
      (sampleSvLayout type).asdus 0).length = if type = .SV80 then 91 else 728 := by
    rintro (_ | _) <;> decide +kernel
  have hbody : ∀ type, ((sampleSvLayout type).body (ascii "1234") fun _ => [0, 0]).length =
      if type = .SV80 then 96 else 735 := by rintro (_ | _) <;> decide +kernel
  refine ⟨?_, ?_, .inl rfl, ?_, ?_, fun a ha _ => ?_, ?_⟩
  · cases type with
    | SV80 => exact ⟨[96], hbody .SV80 ▸ .short 96 (by decide), rfl⟩
    | SV256 =>
      exact ⟨[0x82, 0x02, 0xDF], hbody .SV256 ▸ .long [0x02, 0xDF] (by decide) (by decide), rfl⟩
  · exact ⟨[1], .short 1 (by decide), rfl⟩
  · cases type <;> rfl
  · cases type with
    | SV80 => exact ⟨[91], hasdus .SV80 ▸ .short 91 (by decide), rfl⟩
    | SV256 =>
      exact ⟨[0x82, 0x02, 0xD8], hasdus .SV256 ▸ .long [0x02, 0xD8] (by decide) (by decide), rfl⟩
  · rw [List.eq_of_mem_replicate ha]
    exact valid_sampleAsduLayout
  · cases type <;> exact List.cons_ne_nil _ _

lemma describes_sampleSvMessage (type : SvType) :
    (sampleSvLayout type).Describes (ascii "1234") (fun _ => [0, 0]) (sampleSvMessage type) where
  valid := valid_sampleSvLayout type
  frame := Ptr.holds_ofBytes _
  size_le := by cases type <;> decide +kernel
  length := by cases type <;> decide +kernel
  appid := rfl
  offsets i hi := by
    have hlt : ∀ i < type.asduNum, 26 + ((sampleSvLayout type).asduAt (ascii "1234")
        (fun _ => [0, 0]) i + 91) < 2 ^ 16 := by cases type <;> decide +kernel
    have hnum : (sampleSvLayout type).asdus.length = type.asduNum := List.length_replicate
    have hi' : i < type.asduNum := hnum ▸ hi
    have hget : (sampleSvLayout type).asdus[i] = sampleAsduLayout := List.getElem_replicate _
    have hsvid : Mem.segAt (sampleAsduLayout.segs (ascii "1234") [0, 0]) 2 = 4 := by decide +kernel
    have hcnt : Mem.segAt (sampleAsduLayout.segs (ascii "1234") [0, 0]) 6 = 14 := by decide +kernel
    have hbound := hlt i hi'
    have hhead : (sampleSvLayout type).head.appidAt 0xBA + 8 = 26 := rfl
    rw [hget, hsvid, hcnt, hhead]
    simp only [sampleSvMessage, hsvid, hcnt, UInt16.toNat_ofNat']
    exact ⟨Nat.mod_eq_of_lt (by omega), Nat.mod_eq_of_lt (by omega)⟩

end ProcessBus
