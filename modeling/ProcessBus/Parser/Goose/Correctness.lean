import ProcessBus.Lib.Fold
import ProcessBus.Parser.Goose.Grammar

/-!
# What the GOOSE parsers report about a well-formed frame

`GoosePdu` is the PDU a publisher encodes: twelve fields in any order. Both parsers accept it and
report its fields, whatever stands behind it in memory. A number is reported if it has one to
four octets, otherwise zero is.
-/

namespace ProcessBus

/-! ### The PDU -/

/-- The twelve fields of a GOOSE PDU. -/
structure GooseFields where
  gocbRef : List UInt8
  timeAllowedToLive : List UInt8
  datSet : List UInt8
  goID : List UInt8
  t : List UInt8
  stNum : List UInt8
  sqNum : List UInt8
  simulation : List UInt8
  confRev : List UInt8
  ndsCom : List UInt8
  numDatSetEntries : List UInt8
  allData : List UInt8

/-- The fields under their tags. -/
def GooseFields.elems (f : GooseFields) : List (UInt8 × List UInt8) :=
  [(0x80, f.gocbRef), (0x81, f.timeAllowedToLive), (0x82, f.datSet), (0x83, f.goID), (0x84, f.t),
    (0x85, f.stNum), (0x86, f.sqNum), (0x87, f.simulation), (0x88, f.confRev), (0x89, f.ndsCom),
    (0x8A, f.numDatSetEntries), (0xAB, f.allData)]

/-- A well-formed PDU. How long the numbers are is left open, that of the entries apart. -/
structure GoosePdu extends GooseFields where
  order : List (UInt8 × List UInt8)
  entries : List (UInt8 × List UInt8)
  order_perm : order.Perm toGooseFields.elems
  nonempty : ∀ f ∈ order, f.2 ≠ []
  t_length : 4 ≤ t.length ∧ t.length ≤ 8
  allData_eq : Tlv.Seq (DataEntry MAX_DATA_DEPTH) entries allData
  num_length : numDatSetEntries.length ≤ 4
  num_eq : beNat numDatSetEntries = entries.length
  num_le : entries.length ≤ 65535

/-- `bs` is a `0x61` element made of the fields. -/
def GoosePdu.Encodes (u : GoosePdu) (bs : List UInt8) : Prop :=
  ∃ body, Tlv.Elems u.order body ∧ Tlv.Elem 0x61 body bs

/-- What `decode_asn1_number` makes of content octets. -/
def asn1Number (bs : List UInt8) : ℕ := if 1 ≤ bs.length ∧ bs.length ≤ 4 then beNat bs else 0

lemma numberAt_eq_asn1Number (buffer : Ptr) (p : ℕ) :
    numberAt buffer p = asn1Number (valueAt buffer p) := by
  rw [numberAt, val_decodeAsn1Number, asn1Number, length_valueAt]
  rfl

namespace GoosePdu

variable (u : GoosePdu)

lemma mem_order {f : UInt8 × List UInt8} : f ∈ u.order ↔ f ∈ u.elems := u.order_perm.mem_iff

/-- A tag stands for one field. -/
lemma value_unique {t : UInt8} {v w : List UInt8} (hv : (t, v) ∈ u.elems) (hw : (t, w) ∈ u.elems) :
    v = w := by
  have hnodup : (u.elems.map Prod.fst).Nodup := by
    show [0x80, 0x81, 0x82, 0x83, 0x84, 0x85, 0x86, 0x87, 0x88, 0x89, 0x8A, (0xAB : UInt8)].Nodup
    decide
  exact congrArg Prod.snd (List.inj_on_of_nodup_map hnodup hv hw rfl)

lemma allData_mem : (0xAB, u.allData) ∈ u.elems := by simp [GooseFields.elems]

/-- Every field of the PDU is one the walk steps over. -/
lemma itemOk {f : UInt8 × List UInt8} (hf : f ∈ u.order) : ItemOk f := by
  have hmem := u.mem_order.mp hf
  have htag : f.1 ∈ [0x80, 0x81, 0x82, 0x83, 0x84, 0x85, 0x86, 0x87, 0x88, 0x89, 0x8A,
      (0xAB : UInt8)] := List.mem_map_of_mem hmem
  obtain ⟨t, v⟩ := f
  refine ⟨u.nonempty _ hf, fun h => ⟨u.entries, ?_⟩, fun h => ?_, ?_, ?_⟩
  · obtain rfl : t = 0xAB := h
    rw [u.value_unique hmem u.allData_mem]
    exact u.allData_eq
  · rcases h with h | h <;> (rw [h] at htag; exact absurd htag (by decide))
  · exact fun h => absurd (h ▸ htag) (by decide)
  · exact fun h => absurd (h ▸ htag) (by decide)

/-- What a parser reports about the PDU, besides what it was given. -/
structure Reports (passport : GoosePassport) (r : GooseParse) : Prop where
  code : r.code = 0
  dmac : r.passport.dmac = passport.dmac
  appid : r.passport.appid = passport.appid
  dstIP : r.passport.dstIP = passport.dstIP
  gocbref : r.passport.gocbref.bytes = u.gocbRef
  dataset : r.passport.dataset.bytes = u.datSet
  goid : r.passport.goid.bytes = u.goID
  crev : r.passport.crev = UInt32.ofNat (asn1Number u.confRev)
  num : r.passport.num.toNat = u.entries.length
  foundEntries : r.passport.foundEntries.toNat = u.entries.length
  timestamp : r.state.timestamp.toNat = beNat u.t
  stNum : r.state.stNum = UInt32.ofNat (asn1Number u.stNum)
  sqNum : r.state.sqNum = UInt32.ofNat (asn1Number u.sqNum)

end GoosePdu

/-! ### The walk -/

variable {buffer : Ptr} {skipTag : ℕ → Traced Event Unit} {stop size p : ℕ}

/-- More rounds do not change a result. -/
lemma gooseWalk_mono {f g : ℕ} {s : ℕ × GooseWalk} {r : GooseParse} (hsize : size ≤ 2 ^ 31)
    (hfg : f ≤ g) (h : (gooseWalk buffer skipTag size f s).val = some r) :
    (gooseWalk buffer skipTag size g s).val = some r :=
  Loop.run_mono (fun _ hhang => gooseRound_mono hsize hfg hhang) hfg h

/-- The first octets of eight, shifted down. -/
lemma beNat_slice_shiftRight (m : Mem) (a : ℕ) {n : ℕ} (hn : n ≤ 8) :
    beNat (m.slice a 8) >>> ((8 - n) * 8) = beNat (m.slice a n) := by
  have hsplit : m.slice a 8 = m.slice a n ++ m.slice (a + n) (8 - n) := by
    rw [← Mem.slice_add, Nat.add_sub_cancel' hn]
  have hlt := beNat_lt (m.slice (a + n) (8 - n))
  rw [Mem.length_slice] at hlt
  have hpow : 2 ^ ((8 - n) * 8) = 256 ^ (8 - n) := by rw [Nat.mul_comm, Nat.pow_mul]
  rw [hsplit, beNat_append, Mem.length_slice, Nat.shiftRight_eq_div_pow, hpow, Nat.mul_comm,
    Nat.mul_add_div (Nat.pow_pos (by decide)), Nat.div_eq_of_lt hlt, Nat.add_zero]

/-- What no element changes stays as it was. -/
lemma foldl_gooseVisit_keep {α : Type} {l : List ℕ} {w : GooseWalk} (π : GooseWalk → α)
    (h : ∀ w p, π (gooseVisit buffer w p) = π w) : π (l.foldl (gooseVisit buffer) w) = π w :=
  Fold.view_foldl_of_fixed _ (fun s hs p => (h s p).trans hs) rfl

namespace GoosePdu

variable (u : GoosePdu) {l : List ℕ}

lemma exists_tag (hl : u.order = l.map (fieldAt buffer)) {t : UInt8}
    (ht : t ∈ u.elems.map Prod.fst) : ∃ p ∈ l, tagAt buffer p = t := by
  obtain ⟨f, hf, rfl⟩ := List.mem_map.mp ht
  have hmem : f ∈ l.map (fieldAt buffer) := hl ▸ u.mem_order.mpr hf
  obtain ⟨p, hp, rfl⟩ := List.mem_map.mp hmem
  exact ⟨p, hp, rfl⟩

/-- A variable that the elements of one tag set holds what the field under that tag sets. -/
lemma foldl_field {α : Type} {w : GooseWalk} {g : ℕ → α} {t : UInt8} {v : List UInt8}
    (hl : u.order = l.map (fieldAt buffer)) (hv : (t, v) ∈ u.elems) (π : GooseWalk → α)
    (hπ : ∀ p ∈ l, ∀ w, π (gooseVisit buffer w p) = if tagAt buffer p = t then g p else π w) :
    ∃ p ∈ l, valueAt buffer p = v ∧ π (l.foldl (gooseVisit buffer) w) = g p := by
  obtain ⟨p, hp, htag, hlast⟩ := lastAt_of_mem (u.exists_tag hl (List.mem_map_of_mem hv))
  refine ⟨p, hp, ?_, (foldl_lastAt_of_mem _ π hπ).trans (hlast g _)⟩
  have hfield : (tagAt buffer p, valueAt buffer p) ∈ u.elems :=
    u.mem_order.mp (hl ▸ List.mem_map_of_mem hp)
  rw [htag] at hfield
  exact u.value_unique hfield hv

lemma foldl_number {w : GooseWalk} {t : UInt8} {v : List UInt8}
    (hl : u.order = l.map (fieldAt buffer)) (hv : (t, v) ∈ u.elems) (π : GooseWalk → UInt32)
    (hπ : ∀ p w, π (gooseVisit buffer w p) =
      if tagAt buffer p = t then UInt32.ofNat (numberAt buffer p) else π w) :
    π (l.foldl (gooseVisit buffer) w) = UInt32.ofNat (asn1Number v) := by
  obtain ⟨p, _, rfl, h⟩ := u.foldl_field hl hv π fun p _ w => hπ p w
  rw [h, numberAt_eq_asn1Number]

lemma foldl_name {w : GooseWalk} {t : UInt8} {v : List UInt8} (hstop : stop ≤ 2 ^ 31)
    (hl : u.order = l.map (fieldAt buffer)) (hfits : ∀ q ∈ l, Fits buffer stop q)
    (hv : (t, v) ∈ u.elems) (π : GooseWalk → StringView)
    (hπ : ∀ p w, π (gooseVisit buffer w p) =
      if tagAt buffer p = t then viewAt buffer p else π w) :
    (π (l.foldl (gooseVisit buffer) w)).bytes = v := by
  obtain ⟨p, hp, rfl, h⟩ := u.foldl_field hl hv π fun p _ w => hπ p w
  rw [h, bytes_viewAt ((hfits p hp).entryAt hstop).2.1]

lemma asn1Number_num : asn1Number u.numDatSetEntries = u.entries.length := by
  have hne : u.numDatSetEntries ≠ [] :=
    u.nonempty (0x8A, u.numDatSetEntries) (u.mem_order.mpr (by simp [GooseFields.elems]))
  rw [asn1Number, if_pos ⟨List.length_pos_iff.mpr hne, u.num_length⟩, u.num_eq]

/-- The declared number fits its 16 bits. -/
lemma num_foldl {w : GooseWalk} (hl : u.order = l.map (fieldAt buffer)) :
    (l.foldl (gooseVisit buffer) w).passport.num.toNat = u.entries.length := by
  obtain ⟨p, _, hv, h⟩ := u.foldl_field (w := w) (g := fun p => UInt16.ofNat (numberAt buffer p)) hl
    (show (0x8A, u.numDatSetEntries) ∈ u.elems by simp [GooseFields.elems])
    (fun w => w.passport.num) fun p _ w => by rw [gooseVisit_eq]
  have hle := u.num_le
  rw [h, numberAt_eq_asn1Number, hv, u.asn1Number_num, UInt16.toNat_ofNat',
    Nat.mod_eq_of_lt (by omega)]

/-- The entries of the dataset are counted. -/
lemma foundEntries_foldl {w : GooseWalk} (hstop : stop ≤ 2 ^ 31)
    (hl : u.order = l.map (fieldAt buffer)) (hfits : ∀ q ∈ l, Fits buffer stop q) :
    (l.foldl (gooseVisit buffer) w).passport.foundEntries.toNat = u.entries.length := by
  obtain ⟨p, hp, hv, h⟩ := u.foldl_field (w := w)
    (g := fun p => UInt32.ofNat (entryCount buffer p)) hl u.allData_mem
    (fun w => w.passport.foundEntries) fun p _ w => by rw [gooseVisit_eq]
  have hseq := u.allData_eq
  rw [← hv] at hseq
  obtain ⟨l', hentries, hlen⟩ := entries_of_seq ((hfits p hp).2.trans hstop) hseq
  have hle := u.num_le
  rw [h, hentries.entryCount_eq, hlen, UInt32.toNat_ofNat', Nat.mod_eq_of_lt (by omega)]

/-- A timestamp of four to eight octets is taken as a number. -/
lemma timestamp_foldl {w : GooseWalk} (hl : u.order = l.map (fieldAt buffer)) :
    (l.foldl (gooseVisit buffer) w).state.timestamp.toNat = beNat u.t := by
  have ht : (0x84, u.t) ∈ u.elems := by simp [GooseFields.elems]
  have hlen : ∀ q ∈ l, tagAt buffer q = 0x84 → 4 ≤ headLen buffer q ∧ headLen buffer q ≤ 8 := by
    intro q hq htag
    have hfield : (tagAt buffer q, valueAt buffer q) ∈ u.elems :=
      u.mem_order.mp (hl ▸ List.mem_map_of_mem hq)
    rw [htag] at hfield
    rw [← length_valueAt, u.value_unique hfield ht]
    exact u.t_length
  obtain ⟨p, hp, hv, h⟩ := u.foldl_field (w := w)
    (g := fun p => UInt64.ofNat (beNat (buffer.mem.slice (buffer.off + headEnd buffer p) 8) >>>
      ((8 - headLen buffer p) * 8))) hl ht (fun w => w.state.timestamp) fun q hq w => by
        rw [gooseVisit_eq]
        exact if_congr (and_iff_left_of_imp (hlen q hq)) rfl rfl
  have hle : headLen buffer p ≤ 8 := by
    rw [← length_valueAt, hv]
    exact u.t_length.2
  have hlt := beNat_lt (valueAt buffer p)
  have hpow : 256 ^ (valueAt buffer p).length ≤ 256 ^ 8 :=
    Nat.pow_le_pow_right (by decide) (by rw [length_valueAt]; exact hle)
  rw [h, beNat_slice_shiftRight _ _ hle, UInt64.toNat_ofNat', ← hv, Nat.mod_eq_of_lt]
  · rfl
  · exact lt_of_lt_of_le hlt hpow

/-- The walk over the elements of the PDU reports it. -/
lemma reports_of_path {passport : GoosePassport} {state : GooseState} (hstop : stop ≤ 2 ^ 31)
    (hl : u.order = l.map (fieldAt buffer)) (hfits : ∀ q ∈ l, Fits buffer stop q) :
    u.Reports passport
      (gooseFinish (l.foldl (gooseVisit buffer) { passport := passport, state := state })) := by
  have hnum := u.num_foldl (w := { passport := passport, state := state }) hl
  have hfound := u.foundEntries_foldl (w := { passport := passport, state := state }) hstop hl hfits
  refine ⟨?_, ?_, ?_, ?_, ?_, ?_, ?_, ?_, hnum, hfound, u.timestamp_foldl hl, ?_, ?_⟩
  · refine (gooseFinish_code_iff _).mpr ⟨?_, ?_, ?_, ?_⟩
    · rw [← UInt32.toNat_inj, UInt16.toNat_toUInt32, hfound, hnum]
    · exact (foldl_found (t := 0x80) (gooseVisit buffer) GooseWalk.foundGocbref
        (fun w p => by rw [gooseVisit_eq])).mpr
          (.inr (u.exists_tag hl (by simp [GooseFields.elems])))
    · exact (foldl_found (t := 0x82) (gooseVisit buffer) GooseWalk.foundDataset
        (fun w p => by rw [gooseVisit_eq])).mpr
          (.inr (u.exists_tag hl (by simp [GooseFields.elems])))
    · exact (foldl_found (t := 0x83) (gooseVisit buffer) GooseWalk.foundGoid
        (fun w p => by rw [gooseVisit_eq])).mpr
          (.inr (u.exists_tag hl (by simp [GooseFields.elems])))
  · exact foldl_gooseVisit_keep (fun w => w.passport.dmac) fun w p => by rw [gooseVisit_eq]
  · exact foldl_gooseVisit_keep (fun w => w.passport.appid) fun w p => by rw [gooseVisit_eq]
  · exact foldl_gooseVisit_keep (fun w => w.passport.dstIP) fun w p => by rw [gooseVisit_eq]
  · refine u.foldl_name (t := 0x80) hstop hl hfits (by simp [GooseFields.elems])
      (fun w => w.passport.gocbref) fun p w => by rw [gooseVisit_eq]
  · refine u.foldl_name (t := 0x82) hstop hl hfits (by simp [GooseFields.elems])
      (fun w => w.passport.dataset) fun p w => by rw [gooseVisit_eq]
  · refine u.foldl_name (t := 0x83) hstop hl hfits (by simp [GooseFields.elems])
      (fun w => w.passport.goid) fun p w => by rw [gooseVisit_eq]
  · refine u.foldl_number (t := 0x88) hl (by simp [GooseFields.elems])
      (fun w => w.passport.crev) fun p w => by rw [gooseVisit_eq]
  · refine u.foldl_number (t := 0x85) hl (by simp [GooseFields.elems])
      (fun w => w.state.stNum) fun p w => by rw [gooseVisit_eq]
  · refine u.foldl_number (t := 0x86) hl (by simp [GooseFields.elems])
      (fun w => w.state.sqNum) fun p w => by rw [gooseVisit_eq]

/-- The walk over a PDU returns and reports it. -/
lemma gooseWalk_of_elems {passport : GoosePassport} {state : GooseState} (hstop : stop ≤ 2 ^ 31)
    (hp : p ≤ stop)
    (h : Tlv.Elems u.order (buffer.mem.slice (buffer.off + p) (stop - p))) :
    ∃ r, u.Reports passport r ∧ ∃ f, ∀ fuel, f ≤ fuel →
      (gooseWalk buffer skipTag stop fuel
        (p, { passport := passport, state := state })).val = some r := by
  obtain ⟨l, hpath, hl, hfits⟩ := topPath_of_items hstop hp (fun _ => u.itemOk) h
  obtain ⟨f, hf⟩ : ∃ f, (gooseWalk buffer skipTag stop f
      (p, { passport := passport, state := state })).val = _ :=
    gooseWalk_of_path skipTag hstop hpath le_rfl
  exact ⟨_, u.reports_of_path hstop hl hfits, f, fun fuel hfuel => gooseWalk_mono hstop hfuel hf⟩

end GoosePdu

/-! ### The parsers -/

/-- What stands in front of the PDU of an L2 frame. -/
structure L2Head where
  addresses : List UInt8
  /-- The tag control information, if there is a VLAN tag. -/
  vlan : Option (List UInt8)
  appid : List UInt8
  /-- Length and the two reserved words. -/
  rest : List UInt8
  addresses_length : addresses.length = 12
  vlan_length : ∀ tci, vlan = some tci → tci.length = 2
  appid_length : appid.length = 2
  rest_length : rest.length = 6

namespace L2Head

/-- A head without VLAN tag. -/
lemma vlan_length_none (tci : List UInt8) (h : none = some tci) : tci.length = 2 :=
  absurd h (Option.some_ne_none tci).symm

variable (h : L2Head) (ty : UInt8)

/-- The VLAN tag and the EtherType. -/
def types : List UInt8 :=
  match h.vlan with
  | none => [0x88, ty]
  | some tci => 0x81 :: 0x00 :: (tci ++ [0x88, ty])

def bytes : List UInt8 := h.addresses ++ (h.types ty ++ (h.appid ++ h.rest))

/-- Where the APPID stands. -/
def appidAt : ℕ := 12 + (h.types ty).length

lemma length_bytes : (h.bytes ty).length = h.appidAt ty + 8 := by
  simp only [bytes, appidAt, List.length_append, h.addresses_length, h.appid_length, h.rest_length]
  omega

variable {h ty}

/-- The header is recognised with and without tag. -/
lemma val_l2Header (hmem : buffer.mem.Holds buffer.off (h.bytes ty)) :
    (l2Header buffer ty).val = some (h.appidAt ty) := by
  obtain ⟨_, hrest⟩ := Mem.holds_append.mp hmem
  obtain ⟨htypes, _⟩ := Mem.holds_append.mp hrest
  rw [h.addresses_length] at htypes
  simp only [l2Header, Traced.val_bind, Traced.val_ite, Traced.val_pure]
  unfold types at htypes
  cases hvlan : h.vlan with
  | none =>
    rw [hvlan] at htypes
    obtain ⟨h12, hrest⟩ := Mem.holds_cons.mp htypes
    obtain ⟨h13, _⟩ := Mem.holds_cons.mp hrest
    have hno : ¬ (buffer.expect [(12, 0x81), (13, 0x00), (16, 0x88), (17, ty)]).val = true := by
      rw [Ptr.val_expect]
      intro hall
      have := (hall (12, 0x81) (by simp)).symm.trans h12
      exact absurd this (by decide)
    have hyes : (buffer.expect [(12, 0x88), (13, ty)]).val = true := by
      rw [Ptr.val_expect]
      simp only [List.forall_mem_cons, List.not_mem_nil, false_implies, implies_true, and_true]
      exact ⟨h12, h13⟩
    rw [if_neg hno, if_pos hyes, appidAt, types, hvlan]
    rfl
  | some tci =>
    rw [hvlan] at htypes
    obtain ⟨h12, hrest⟩ := Mem.holds_cons.mp htypes
    obtain ⟨h13, hrest⟩ := Mem.holds_cons.mp hrest
    obtain ⟨_, hrest⟩ := Mem.holds_append.mp hrest
    rw [h.vlan_length tci hvlan] at hrest
    obtain ⟨h16, hrest⟩ := Mem.holds_cons.mp hrest
    obtain ⟨h17, _⟩ := Mem.holds_cons.mp hrest
    have hyes : (buffer.expect [(12, 0x81), (13, 0x00), (16, 0x88), (17, ty)]).val = true := by
      rw [Ptr.val_expect]
      simp only [List.forall_mem_cons, List.not_mem_nil, false_implies, implies_true, and_true]
      exact ⟨h12, h13, h16, h17⟩
    rw [if_pos hyes, appidAt, types, hvlan]
    simp [h.vlan_length tci hvlan]

lemma slice_dmac (hmem : buffer.mem.Holds buffer.off (h.bytes ty)) :
    buffer.mem.slice buffer.off 6 = h.addresses.take 6 := by
  obtain ⟨haddr, _⟩ := Mem.holds_append.mp hmem
  rw [← haddr.slice_eq, h.addresses_length, ← List.drop_zero (l := buffer.mem.slice buffer.off 12),
    Mem.take_drop_slice (by decide)]
  rfl

lemma slice_appid (hmem : buffer.mem.Holds buffer.off (h.bytes ty)) :
    buffer.mem.slice (buffer.off + h.appidAt ty) 2 = h.appid := by
  obtain ⟨_, hrest⟩ := Mem.holds_append.mp hmem
  obtain ⟨_, hrest⟩ := Mem.holds_append.mp hrest
  obtain ⟨happid, _⟩ := Mem.holds_append.mp hrest
  rw [h.addresses_length, Nat.add_assoc] at happid
  rw [← h.appid_length]
  exact happid.slice_eq

end L2Head

/-- In a memory, a PDU is its head and the sequence of its fields. -/
lemma elems_of_holds {fs : List (UInt8 × List UInt8)} {pdu : List UInt8}
    (hpdu : ∃ body, Tlv.Elems fs body ∧ Tlv.Elem 0x61 body pdu)
    (hmem : buffer.mem.Holds (buffer.off + p) pdu) :
    tagAt buffer p = 0x61 ∧ headEnd buffer p ≤ p + pdu.length ∧
      Tlv.Elems fs (buffer.mem.slice (buffer.off + headEnd buffer p)
        (p + pdu.length - headEnd buffer p)) := by
  obtain ⟨body, hbody, helem⟩ := hpdu
  rw [← hmem.slice_eq] at helem
  obtain ⟨htag, _, hend, rfl⟩ := elem_slice_iff.mp helem
  rw [valueAt_eq, ← hend] at hbody
  exact ⟨htag, hend ▸ headEnd_le_valueEnd buffer p, hbody⟩

/-- The APDU walk of the routable parser returns 0 on a PDU and reports it. -/
theorem parseGooseApdu_reports {u : GoosePdu} {pdu : List UInt8} (hpdu : u.Encodes pdu)
    {apdu : Ptr} {apduSize : Int32} (hsize : apduSize.toInt = pdu.length)
    (hmem : apdu.mem.Holds apdu.off pdu) (passport : GoosePassport) (state : GooseState) :
    ∃ r, u.Reports passport r ∧ ∃ f, ∀ fuel, f ≤ fuel →
      (parseGooseApdu fuel apdu apduSize passport state).val = some r := by
  have hmem : apdu.mem.Holds (apdu.off + 0) pdu := hmem
  obtain ⟨htag, hle, helems⟩ := elems_of_holds hpdu hmem
  have hlt := lt_headEnd apdu 0
  have hnat : apduSize.toInt.toNat = 0 + pdu.length := by omega
  have hstop := toInt_toNat_le apduSize
  rw [hnat] at hstop
  obtain ⟨r, hr, f, hf⟩ := u.gooseWalk_of_elems hstop hle helems
  refine ⟨r, hr, f, fun fuel hfuel => ?_⟩
  rw [val_parseGooseApdu (by omega) htag, hnat]
  exact hf fuel hfuel

/-- The L2 parser returns 0 on a frame with a PDU and reports both. -/
theorem parseGoosePacket_reports {h : L2Head} {u : GoosePdu} {pdu : List UInt8}
    (hpdu : u.Encodes pdu) {size : Int32} (hmin : 64 ≤ size.toInt)
    (hsize : size.toInt = (h.bytes 0xB8 ++ pdu).length)
    (hmem : buffer.mem.Holds buffer.off (h.bytes 0xB8 ++ pdu)) (passport : GoosePassport)
    (state : GooseState) :
    ∃ r, u.Reports (gooseStart buffer passport state (h.appidAt 0xB8)).passport r ∧
      ∃ f, ∀ fuel, f ≤ fuel →
        (parseGoosePacket fuel buffer size passport state).val = some r := by
  obtain ⟨hhead, hrest⟩ := Mem.holds_append.mp hmem
  rw [h.length_bytes] at hrest
  obtain ⟨htag, hle, helems⟩ := elems_of_holds hpdu hrest
  have hnat : size.toInt.toNat = h.appidAt 0xB8 + 8 + pdu.length := by
    rw [List.length_append, h.length_bytes] at hsize
    omega
  have hstop := toInt_toNat_le size
  rw [hnat] at hstop
  obtain ⟨r, hr, f, hf⟩ := u.gooseWalk_of_elems hstop hle helems
  refine ⟨r, hr, f, fun fuel hfuel => ?_⟩
  rw [val_parseGoosePacket hmin (L2Head.val_l2Header hhead) htag, hnat]
  exact hf fuel hfuel

lemma toNat_asn1Number {bs : List UInt8} (hne : bs ≠ []) (h4 : bs.length ≤ 4) :
    (UInt32.ofNat (asn1Number bs)).toNat = beNat bs := by
  have hlt := beNat_lt bs
  have hpow : 256 ^ bs.length ≤ 256 ^ 4 := Nat.pow_le_pow_right (by decide) h4
  rw [asn1Number, if_pos ⟨List.length_pos_iff.mpr hne, h4⟩, UInt32.toNat_ofNat',
    Nat.mod_eq_of_lt (by omega)]

/-- Decode undoes encode: every well-formed frame with numbers of up to four octets is accepted,
and what is reported is what it holds. -/
theorem parseGoosePacket_decodes (h : L2Head) (u : GoosePdu) (pdu : List UInt8)
    (hpdu : u.Encodes pdu)
    (hnumbers : u.stNum.length ≤ 4 ∧ u.sqNum.length ≤ 4 ∧ u.confRev.length ≤ 4) (buffer : Ptr)
    (size : Int32) (hmin : 64 ≤ size.toInt) (hsize : size.toInt = (h.bytes 0xB8 ++ pdu).length)
    (hmem : buffer.mem.Holds buffer.off (h.bytes 0xB8 ++ pdu)) (passport : GoosePassport)
    (state : GooseState) :
    ∃ r f, (∀ fuel, f ≤ fuel →
        (parseGoosePacket fuel buffer size passport state).val = some r) ∧
      r.code = 0 ∧
      (r.passport.dmac.m_mac = h.addresses.take 6 ∧ r.passport.appid.toNat = beNat h.appid ∧
        r.passport.gocbref.bytes = u.gocbRef ∧ r.passport.dataset.bytes = u.datSet ∧
        r.passport.goid.bytes = u.goID ∧ r.passport.crev.toNat = beNat u.confRev ∧
        r.passport.num.toNat = u.entries.length ∧
        r.passport.foundEntries.toNat = u.entries.length) ∧
      r.state.timestamp.toNat = beNat u.t ∧ r.state.stNum.toNat = beNat u.stNum ∧
      r.state.sqNum.toNat = beNat u.sqNum := by
  obtain ⟨hhead, _⟩ := Mem.holds_append.mp hmem
  obtain ⟨r, hr, f, hf⟩ := parseGoosePacket_reports hpdu hmin hsize hmem passport state
  obtain ⟨hst, hsq, hrev⟩ := hnumbers
  have hne : ∀ t v, (t, v) ∈ u.elems → v ≠ [] := fun t v hv => u.nonempty _ (u.mem_order.mpr hv)
  refine ⟨r, f, hf, hr.code, ⟨?_, ?_, hr.gocbref, hr.dataset, hr.goid, ?_, hr.num,
    hr.foundEntries⟩, hr.timestamp, ?_, ?_⟩
  · rw [hr.dmac]
    exact L2Head.slice_dmac hhead
  · have happid := L2Head.slice_appid hhead
    have hlt : beNat h.appid < 2 ^ 16 := by
      have := beNat_lt h.appid
      rwa [h.appid_length] at this
    rw [hr.appid]
    show (UInt16.ofNat (beNat (buffer.mem.slice (buffer.off + h.appidAt 0xB8) 2))).toNat = _
    rw [happid, UInt16.toNat_ofNat', Nat.mod_eq_of_lt hlt]
  · rw [hr.crev, toNat_asn1Number (hne 0x88 _ (by simp [GooseFields.elems])) hrev]
  · rw [hr.stNum, toNat_asn1Number (hne 0x85 _ (by simp [GooseFields.elems])) hst]
  · rw [hr.sqNum, toNat_asn1Number (hne 0x86 _ (by simp [GooseFields.elems])) hsq]

lemma appid_length_one : ([0, 1] : List UInt8).length = 2 := rfl

/-- A frame with one entry in its dataset. -/
def sampleL2Head : L2Head where
  addresses := [0x01, 0x0C, 0xCD, 0x04, 0, 1, 0xF0, 0xF1, 0xF2, 0xF3, 0xF4, 0xF5]
  vlan := none
  appid := [0, 1]
  rest := [0, 55, 0, 0, 0, 0]
  addresses_length := rfl
  vlan_length := L2Head.vlan_length_none
  appid_length := appid_length_one
  rest_length := rfl

def sampleGooseFields : GooseFields where
  gocbRef := [0x41]
  timeAllowedToLive := [0x07]
  datSet := [0x42]
  goID := [0x43]
  t := [0, 0, 0, 0, 0, 0, 0, 9]
  stNum := [0x05]
  sqNum := [0x00]
  simulation := [0x00]
  confRev := [0x01]
  ndsCom := [0x00]
  numDatSetEntries := [0x01]
  allData := [0x83, 0x01, 0x01]

def sampleGoosePdu : GoosePdu where
  toGooseFields := sampleGooseFields
  order := sampleGooseFields.elems
  entries := [(0x83, [0x01])]
  order_perm := .rfl
  nonempty := by decide
  t_length := by decide
  allData_eq :=
    show Tlv.Seq (DataEntry MAX_DATA_DEPTH) [(0x83, [0x01])] (Tlv.short (0x83, [0x01]) ++ []) from
      .cons (.of_elem (Tlv.elem_short (by decide)) (by decide)) .nil
  num_length := by decide
  num_eq := rfl
  num_le := by decide

def samplePdu : List UInt8 := Tlv.short (0x61, sampleGooseFields.elems.flatMap Tlv.short)

lemma encodes_samplePdu : sampleGoosePdu.Encodes samplePdu :=
  ⟨sampleGooseFields.elems.flatMap Tlv.short, Tlv.elems_short _ (by decide),
    Tlv.elem_short (f := (0x61, sampleGooseFields.elems.flatMap Tlv.short)) (by decide)⟩

theorem parseGoosePacket_decodes_samplePdu :
    64 ≤ (69 : Int32).toInt ∧ sampleGoosePdu.Encodes samplePdu ∧ ∃ r f, (∀ fuel, f ≤ fuel →
      (parseGoosePacket fuel (.ofBytes (sampleL2Head.bytes 0xB8 ++ samplePdu)) 69 {} {}).val =
        some r) ∧ r.code = 0 ∧ r.passport.goid.bytes = [0x43] ∧ r.state.stNum.toNat = 5 := by
  refine ⟨by decide, encodes_samplePdu, ?_⟩
  have hnumbers : sampleGooseFields.stNum.length ≤ 4 ∧ sampleGooseFields.sqNum.length ≤ 4 ∧
    sampleGooseFields.confRev.length ≤ 4 := by decide
  obtain ⟨r, f, hrun, hcode, hpass, _, hst, _⟩ := parseGoosePacket_decodes sampleL2Head
    sampleGoosePdu samplePdu encodes_samplePdu hnumbers
    (.ofBytes (sampleL2Head.bytes 0xB8 ++ samplePdu)) 69 (by decide) (by decide +kernel)
    (Ptr.holds_ofBytes _) {} {}
  exact ⟨r, f, hrun, hcode, hpass.2.2.2.2.1, hst⟩

end ProcessBus
