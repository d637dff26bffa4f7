import ProcessBus.Generator.Emitted

/-!
# What an L2 generator publishes

A frame of a stream is the frame of the library with the APPID of the stream and with the values its
IED has reached. What was in the buffer does not matter.
-/

namespace ProcessBus

/-! ### The APPID -/

/-- The head with another APPID. -/
def L2Head.withAppid (h : L2Head) (appid : List UInt8) (hsize : appid.length = 2) : L2Head where
  addresses := h.addresses
  vlan := h.vlan
  appid := appid
  rest := h.rest
  addresses_length := h.addresses_length
  vlan_length := h.vlan_length
  appid_length := hsize
  rest_length := h.rest_length

lemma L2Head.holds_withAppid {h : L2Head} {ty : UInt8} {m : Mem} {pdu appid : List UInt8}
    (hsize : appid.length = 2) (hm : m.Holds 0 (h.bytes ty ++ pdu)) :
    (m.write (h.appidAt ty) appid).Holds 0 ((h.withAppid appid hsize).bytes ty ++ pdu) := by
  have hsplit : ∀ h : L2Head, h.bytes ty ++ pdu =
      (h.addresses ++ h.types ty) ++ (h.appid ++ (h.rest ++ pdu)) := fun h => by
    simp [L2Head.bytes]
  rw [hsplit] at hm ⊢
  refine hm.write_mid (b := h.appidAt ty) ?_ (hsize.trans h.appid_length.symm)
  rw [Nat.zero_add, List.length_append, h.addresses_length]
  rfl

/-- Whatever the fields of the PDU are, the head of the frame gets the APPID and keeps the rest. -/
lemma L2Head.holds_published {h : L2Head} {ty : UInt8} {m : Mem} {pdu pdu' appid : List UInt8}
    {fields : List Mem.Patch} (hsize : appid.length = 2) (hm : m.Holds 0 (h.bytes ty ++ pdu))
    (hplace : ∀ p ∈ fields, h.appidAt ty + 8 ≤ p.1)
    (hpdu : ∀ m : Mem, m.Holds (h.appidAt ty + 8) pdu →
      (m.patch fields).Holds (h.appidAt ty + 8) pdu') :
    (m.patch ((h.appidAt ty, appid) :: fields)).Holds 0
      ((h.withAppid appid hsize).bytes ty ++ pdu') := by
  have happid := L2Head.holds_withAppid hsize hm
  have hlen : ((h.withAppid appid hsize).bytes ty).length = h.appidAt ty + 8 :=
    L2Head.length_bytes _ _
  obtain ⟨hhead, hrest⟩ := Mem.holds_append.mp happid
  rw [hlen, Nat.zero_add] at hrest
  rw [Mem.patch_cons]
  refine Mem.holds_append.mpr ⟨hhead.patch fun p hp => .inl ?_, ?_⟩
  · rw [hlen, Nat.zero_add]
    exact hplace p hp
  · rw [hlen, Nat.zero_add]
    exact hpdu _ hrest

/-- What the frame of a run holds if the frame of the stream holds it. -/
lemma Mem.holds_of_slice_eq {m m' : Mem} {bs : List UInt8} {size : ℕ}
    (h : m.slice 0 size = m'.slice 0 size) (hsize : bs.length ≤ size) (hm : m'.Holds 0 bs) :
    m.Holds 0 bs :=
  hm.congr fun i _ hi => by
    rw [Nat.zero_add] at hi
    rw [← Nat.zero_add i]
    exact Mem.eq_of_slice_eq h (hi.trans_le hsize)

/-! ### GOOSE -/

namespace GooseTrafficGen

variable {k : GooseLayout} {v : GooseValues} {msg : GooseMessage} {ω : Type} [DecidableEq ω]
  {num : ω → UInt32} {s : Pool.State ω UInt32 GooseTrafficGen}

/-- The head of the frames of a stream. -/
def headOf (k : GooseLayout) (idx : UInt32) : L2Head :=
  (k.head.withSource sourceMAC).withAppid (beBytes 2 (idx + 1).toUInt16.toNat) (length_beBytes _ _)

/-- The skeleton with the fields of a stream. -/
lemma holds_patches (hk : k.Describes v msg) (n idx : UInt32) (ied : GooseSourceIED) :
    let gen := make msg n
    (gen.m_skeleton.patch (gen.patches idx ied)).Holds 0
      ((headOf k idx).bytes 0xB8 ++ k.pdu (ied.amended gen.m_tsDeltaChange).values) := by
  intro gen
  have happid : (gen.m_offsets .GOOSE_APPID_OFFSET).toNat =
      (k.head.withSource sourceMAC).appidAt 0xB8 := hk.appid
  have hat : ∀ i, i ≠ .GOOSE_APPID_OFFSET → (gen.m_offsets i).toNat =
      (k.head.withSource sourceMAC).appidAt 0xB8 + 8 +
        Mem.segAt (k.segs v) (GooseLayout.segOf i) := hk.offsets
  rw [patches, happid]
  refine L2Head.holds_published (length_beBytes _ _) (hk.holds_skeleton n)
    (GooseSourceIED.le_of_mem_fields fun i hi => ?_) fun m hm => GooseLayout.holds_amended hm hat
  rw [hat i hi]
  exact Nat.le_add_right _ _

/-- The state of a stream in its call number `j`. -/
def iedIn (gen : GooseTrafficGen) (idx : UInt32) (j : ℕ) : GooseSourceIED :=
  (·.amended gen.m_tsDeltaChange)^[j + 1] (gen.m_ieds.getD idx.toNat default)

/-- The state numbers count the calls. -/
lemma iedIn_of_make {n idx : UInt32} (hidx : idx.toNat < n.toNat) (j : ℕ) :
    ((make msg n).iedIn idx j).stNum = UInt32.ofNat (j + 1) := by
  have hied : (make msg n).m_ieds.getD idx.toNat default =
      .init (UInt32.ofNat (idx.toNat + 1)).toNat := by
    rw [make, List.getD_eq_getElem?_getD, List.getElem?_map, List.getElem?_range hidx]
    rfl
  have hstep : ∀ ied : GooseSourceIED,
      (ied.amended (make msg n).m_tsDeltaChange).stNum = ied.stNum + 1 := fun _ => rfl
  rw [iedIn, hied]
  exact (counter_iterate hstep _ _).trans (UInt32.zero_add _)

/-- Every frame of a run is one of its stream, with the values the stream has reached. -/
theorem published_of_run (hk : k.Describes v msg)
    (hrun : GenKind.goose.Run (fun w => make msg (num w)) s) {w : ω} {idx : UInt32} {j : ℕ}
    {f : Mem} (hf : (s.frames w idx)[j]? = some f) :
    f.Holds 0 ((headOf k idx).bytes 0xB8 ++ k.pdu ((make msg (num w)).iedIn idx j).values) := by
  have hframe := law_goose.frame_eq hrun hf
  rw [iedIn, Function.iterate_succ_apply']
  refine Mem.holds_of_slice_eq hframe ?_ (holds_patches hk 0 idx _)
  refine le_trans (Nat.le_of_eq ?_) hk.size_le
  rw [List.length_append, List.length_append, L2Head.length_bytes, L2Head.length_bytes,
    k.length_pdu _ v]
  rfl

end GooseTrafficGen

/-! ### Sampled Values -/

namespace SVTrafficGen

variable {k : SvLayout} {sID : List UInt8} {cnt : ℕ → List UInt8} {msg : SvMessage} {type : SvType}
  {ω : Type} [DecidableEq ω] {num : ω → UInt32} {s : Pool.State ω UInt32 SVTrafficGen}

@[inherit_doc GooseTrafficGen.headOf]
def headOf (k : SvLayout) (idx : UInt32) : L2Head :=
  k.head.withAppid (beBytes 2 (idx + 1).toUInt16.toNat) (length_beBytes _ _)

/-- The skeleton with the fields of a stream. -/
lemma holds_patches (hk : k.Describes sID cnt msg) (hsID : sID.length = 4)
    (hcnt : ∀ i, (cnt i).length = 2) (hnum : k.asdus.length = type.asduNum) (n idx : UInt32)
    (ied : SVSourceIED) :
    let gen := make msg n type
    (gen.m_skeleton.patch (gen.patches type.asduNum idx ied)).Holds 0
      ((headOf k idx).bytes 0xBA ++ k.pdu ied.sID (ied.counters type.freq)) := by
  intro gen
  have happid : gen.m_appidOffset.toNat = k.head.appidAt 0xBA := hk.appid
  have hat : ∀ i (hi : i < k.asdus.length),
      (gen.m_asduOffs i).svid.toNat = k.head.appidAt 0xBA + 8 + (k.asduAt sID cnt i +
        Mem.segAt (k.asdus[i].segs sID (cnt i)) 2) ∧
      (gen.m_asduOffs i).smpCnt.toNat = k.head.appidAt 0xBA + 8 + (k.asduAt sID cnt i +
        Mem.segAt (k.asdus[i].segs sID (cnt i)) 6) := hk.offsets
  rw [patches, happid, ← hnum]
  refine L2Head.holds_published (length_beBytes _ _) hk.frame
    (SVSourceIED.le_of_mem_fields fun i hi => ?_)
    fun m hm => SvLayout.holds_amended hsID hcnt hm hat
  obtain ⟨hsvid, hsmpCnt⟩ := hat i hi
  rw [hsvid, hsmpCnt]
  exact ⟨Nat.le_add_right _ _, Nat.le_add_right _ _⟩

/-- The state of a stream in its call number `j`. -/
def iedIn (type : SvType) (gen : SVTrafficGen) (idx : UInt32) (j : ℕ) : SVSourceIED :=
  (·.behind type.freq type.asduNum)^[j] (gen.m_ieds.getD idx.toNat default)

/-- The first sample counter of a frame counts the samples before it, modulo a second. -/
lemma iedIn_of_make {n idx : UInt32} (hidx : idx.toNat < n.toNat) (j : ℕ) :
    ((make msg n type).iedIn type idx j).smpCnt.toNat = type.asduNum * j % type.freq := by
  have hied : (make msg n type).m_ieds.getD idx.toNat default =
      .init (UInt32.ofNat (idx.toNat + 1)).toNat := by
    rw [make, List.getD_eq_getElem?_getD, List.getElem?_map, List.getElem?_range hidx]
    rfl
  have hle : type.freq ≤ 2 ^ 16 := by cases type <;> decide
  have hpos : 0 < type.freq := by cases type <;> decide
  have hzero : (SVSourceIED.init (UInt32.ofNat (idx.toNat + 1)).toNat).smpCnt.toNat = 0 := rfl
  rw [iedIn, hied, SVSourceIED.smpCnt_behind_iterate hle (by rw [hzero]; exact hpos), hzero,
    Nat.zero_add]

/-- Every frame of a run is one of its stream, with the values the stream has reached. -/
theorem published_of_run (hk : k.Describes sID cnt msg) (hsID : sID.length = 4)
    (hcnt : ∀ i, (cnt i).length = 2) (hnum : k.asdus.length = type.asduNum)
    (hrun : (GenKind.sv type).Run (fun w => make msg (num w) type) s) {w : ω} {idx : UInt32}
    {j : ℕ} {f : Mem} (hf : (s.frames w idx)[j]? = some f) :
    let ied := (make msg (num w) type).iedIn type idx j
    f.Holds 0 ((headOf k idx).bytes 0xBA ++ k.pdu ied.sID (ied.counters type.freq)) := by
  intro ied
  have hframe := law_sv.frame_eq hrun hf
  refine Mem.holds_of_slice_eq hframe ?_ (holds_patches hk hsID hcnt hnum 0 idx ied)
  refine le_trans (Nat.le_of_eq ?_) hk.size_le
  have hpdu : (k.pdu ied.sID (ied.counters type.freq)).length = (k.pdu sID cnt).length :=
    SvLayout.length_pdu (ied.size.trans hsID.symm) fun i =>
      (length_beBytes _ _).trans (hcnt i).symm
  rw [List.length_append, List.length_append, L2Head.length_bytes, L2Head.length_bytes, hpdu]
  rfl

end SVTrafficGen

end ProcessBus
