import ProcessBus.Parser.Goose.Bounds
import ProcessBus.Parser.Routable.Unwrap
import ProcessBus.Parser.Sv.Correctness

/-!
# The Sampled Values parsers stay inside the frame

The bound shrinks on the way in: frame, datagram, session PDU, payload, PDU, sequence, ASDU,
field. At each level the end of the inner element has been compared with that of the outer one,
so every cursor stays below the bound it is compared with. The views of the svID that are compared
across ASDUs are the only thing that outlives its level, hence the invariants on them.
-/

namespace ProcessBus

/-- The view lies in the first `n` bytes. -/
def StringView.Below (n : ℕ) (v : StringView) : Prop := v.data.off + v.size ≤ n

section Walk

variable {apdu : Ptr} {stop pos n : ℕ}

lemma all_qualityGood {l : List ℕ} (h : ∀ off ∈ l, apdu.off + (pos + off) + 4 ≤ n) :
    (qualityGood apdu pos l).All (Event.Safe n) := by
  induction l with
  | nil => exact Traced.all_pure _
  | cons off l ih =>
    rw [List.forall_mem_cons] at h
    refine Traced.all_bind_of ?_ (Traced.all_ite_of (fun _ => Traced.all_pure _) fun _ => ih h.2)
    rw [all_decodeAsn1Number]
    intro _ j hj
    rw [Event.safe_read, Ptr.off_add]
    simp only [SVProfile.QUALITY_SIZE] at hj
    omega

/-- What `switch (tag)` reads lies in the value, and a view it stores is the value. -/
lemma all_svField {a : AsduWalk} {tag : UInt8} {length : ℕ}
    (hn : apdu.off + (pos + length) ≤ n) :
    (svField apdu a tag pos length).All (Event.Safe n) := by
  have hnum : (decodeAsn1Number (apdu.add pos) length).All (Event.Safe n) := by
    rw [all_decodeAsn1Number]
    intro _ j hj
    rw [Event.safe_read, Ptr.off_add]
    omega
  have hq : length = SVProfile.ASDU_DATA_SIZE →
      (qualityGood apdu pos qualityOffsets).All (Event.Safe n) := by
    rintro rfl
    refine all_qualityGood fun off hoff => ?_
    obtain ⟨i, hi, rfl⟩ := List.mem_map.mp hoff
    rw [List.mem_range] at hi
    simp only [SVProfile.ASDU_DATA_SIZE, SVProfile.CHANNELS, SVProfile.CHANNEL_SIZE,
      SVProfile.VALUE_SIZE, SVProfile.QUALITY_SIZE] at hn hi ⊢
    omega
  unfold svField
  refine Traced.all_ite_of (fun _ => Traced.all_ite_of (fun _ => Traced.all_pure _) fun _ =>
    Traced.all_pure _) fun _ => ?_
  refine Traced.all_ite_of (fun _ => Traced.all_ite_of (fun _ => Traced.all_pure _) fun _ =>
    Traced.all_pure _) fun _ => ?_
  refine Traced.all_ite_of (fun _ => Traced.all_ite_of (fun _ => Traced.all_pure _) fun _ =>
    Traced.all_bind_of hnum (Traced.all_pure _)) fun _ => ?_
  refine Traced.all_ite_of (fun _ => Traced.all_ite_of (fun _ => Traced.all_pure _) fun _ =>
    Traced.all_bind_of hnum (Traced.all_pure _)) fun _ => ?_
  iterate 3 refine Traced.all_ite_of (fun _ => Traced.all_ite_of (fun _ => Traced.all_pure _)
    fun _ => Traced.all_pure _) fun _ => ?_
  refine Traced.all_ite_of (fun _ => Traced.all_ite_of (fun _ => Traced.all_pure _) fun h => ?_)
    fun _ => ?_
  · refine Traced.all_bind_of (hq ?_) (Traced.all_ite_of (fun _ => Traced.all_pure _) fun _ =>
      Traced.all_pure _)
    exact not_not.mp (not_or.mp h).2
  · exact Traced.all_ite_of (fun _ => Traced.all_ite_of (fun _ => Traced.all_pure _) fun _ =>
      Traced.all_pure _) fun _ => Traced.all_pure _

/-- One field. -/
lemma all_svFieldRound {a : AsduWalk} (hn : apdu.off + stop ≤ n) (hstop : stop < 2 ^ 32) :
    (svFieldRound apdu stop (pos, a)).All (Event.Safe n) := by
  rw [svFieldRound]
  refine Traced.all_ite_of (fun hpos => ?_) fun _ => Traced.all_pure _
  have hadd : (Cursor.add 32 pos 1).val = pos + 1 := Cursor.val_add (by omega)
  refine Traced.all_bind_of ?_ (Traced.all_bind_of ?_ ?_)
  · rw [Ptr.all_get, Event.safe_read]
    omega
  · rw [Cursor.all_add, Event.safe_add]
    omega
  rw [hadd]
  refine Traced.all_ite_of (fun _ => Traced.all_pure _) fun _ => ?_
  refine Traced.all_bind_of (all_takeLength apdu hn hstop) ?_
  rw [val_takeLength apdu hstop]
  split_ifs with hfits
  · have hend := hfits.2
    rw [valueEnd] at hend
    refine Traced.all_bind_of (all_svField (by omega)) ?_
    split
    · exact Traced.all_pure _
    · refine Traced.all_bind_of ?_ (Traced.all_pure _)
      rw [Cursor.all_add, Event.safe_add]
      omega
  · exact Traced.all_pure _

lemma svid_below_asduSet {a : AsduWalk} {p : ℕ} (ha : a.svid.Below n)
    (hn : apdu.off + valueEnd apdu p ≤ n) (hlen : headLen apdu p < 2 ^ 31) :
    (asduSet apdu a p).svid.Below n := by
  simp only [asduSet]
  split_ifs
  · have hsize : (viewAt apdu p).size = headLen apdu p := if_pos hlen
    have hoff : (viewAt apdu p).data.off = apdu.off + headEnd apdu p := rfl
    rw [StringView.Below, hsize, hoff]
    unfold valueEnd at hn
    omega
  · exact ha

lemma svid_below_foldl {l : List ℕ} {a : AsduWalk} (ha : a.svid.Below n)
    (hl : ∀ p ∈ l, apdu.off + valueEnd apdu p ≤ n ∧ headLen apdu p < 2 ^ 31) :
    (l.foldl (asduSet apdu) a).svid.Below n := by
  induction l generalizing a with
  | nil => exact ha
  | cons p l ih =>
    rw [List.forall_mem_cons] at hl
    exact ih (svid_below_asduSet ha hl.1.1 hl.1.2) hl.2

/-- `noASDU`. -/
lemma all_svNoAsdu (hn : apdu.off + stop ≤ n) (hstop : stop < 2 ^ 32) :
    (svNoAsdu apdu stop pos).All (Event.Safe n) := by
  unfold svNoAsdu
  refine Traced.all_ite_of (fun _ => Traced.all_pure _) fun hpos => ?_
  have hadd : (Cursor.add 32 pos 1).val = pos + 1 := Cursor.val_add (by omega)
  refine Traced.all_bind_of ?_ (Traced.all_bind_of ?_ ?_)
  · rw [Ptr.all_get, Event.safe_read]
    omega
  · rw [Cursor.all_add, Event.safe_add]
    omega
  rw [hadd]
  refine Traced.all_ite_of (fun _ => Traced.all_pure _) fun _ => ?_
  refine Traced.all_bind_of (all_decodeAsn1LenBounded apdu hn hstop) ?_
  rw [val_decodeAsn1LenBounded apdu hstop]
  split_ifs with hhead
  swap
  · exact Traced.all_pure _
  refine Traced.all_ite_of (fun _ => Traced.all_pure _) fun hlen => ?_
  have hsub : (Cursor.sub 32 stop (headEnd apdu pos)).val = stop - headEnd apdu pos :=
    Cursor.val_sub hhead.2
  refine Traced.all_bind_of ?_ ?_
  · rw [Cursor.all_sub, Event.safe_sub]
    exact hhead.2
  rw [hsub]
  refine Traced.all_ite_of (fun _ => Traced.all_pure _) fun hrest => ?_
  refine Traced.all_bind_of ?_ (Traced.all_ite_of (fun _ => Traced.all_pure _) fun _ => ?_)
  · rw [all_decodeAsn1Number]
    intro _ j hj
    rw [Event.safe_read, Ptr.off_add]
    omega
  · refine Traced.all_bind_of ?_ (Traced.all_pure _)
    rw [Cursor.all_add, Event.safe_add]
    omega

/-- The svID in the passport is one of this frame as soon as there was an ASDU. -/
def SVWalk.Below (n : ℕ) (w : SVWalk) : Prop := w.actualAsdus ≠ 0 → w.passport.svid.Below n

lemma all_svAsduDone {w : SVWalk} {a : AsduWalk} (hw : w.Below n) (ha : a.svid.Below n) :
    (svAsduDone w a).All (Event.Safe n) := by
  unfold svAsduDone
  refine Traced.all_ite_of (fun _ => Traced.all_pure _) fun _ => ?_
  refine Traced.all_ite_of (fun _ => Traced.all_pure _) fun hfirst => ?_
  refine Traced.all_bind_of ?_ (Traced.all_ite_of (fun _ => Traced.all_pure _) fun _ =>
    Traced.all_pure _)
  unfold svidDiffers
  refine Traced.all_ite_of (fun _ => Traced.all_pure _) fun _ => ?_
  exact Traced.all_bind_of ((Traced.all_emit _).mpr ha)
    (Traced.all_bind_of ((Traced.all_emit _).mpr (hw hfirst)) (Traced.all_pure _))

variable {fuel declared : ℕ} {w : SVWalk}

/-- The values on the way of a field loop lie in the frame. -/
lemma below_of_path {p : ℕ} {l : List ℕ} (hn : apdu.off + stop ≤ n) (hstop : stop < 2 ^ 31)
    (hl : Loop.Path (ElemStep apdu stop) p l stop) :
    ∀ p ∈ l, apdu.off + valueEnd apdu p ≤ n ∧ headLen apdu p < 2 ^ 31 := by
  intro p hp
  obtain ⟨_, _, hstep⟩ := hl.of_mem hp
  have := hstep.1.2
  exact ⟨by omega, headLen_lt_of_path hstop hl p hp⟩

/-- One ASDU. -/
lemma all_svAsduRound (hn : apdu.off + stop ≤ n) (hstop : stop < 2 ^ 31) (hw : w.Below n) :
    (svAsduRound apdu fuel stop declared (pos, w)).All (Event.Safe n) := by
  rw [svAsduRound]
  refine Traced.all_ite_of (fun hpos => ?_) fun _ => Traced.all_pure _
  refine Traced.all_bind_of (all_takeTlv apdu hn (by omega) 0x30) ?_
  rw [val_takeTlv apdu (by omega)]
  split_ifs with hcond
  swap
  · exact Traced.all_pure _
  have hend := hcond.2.2
  have hn' : apdu.off + valueEnd apdu pos ≤ n := by omega
  refine Loop.all_inner.mpr ⟨?_, fun r hr => ?_⟩
  · refine Loop.all_run (fun _ => True) (fun s _ => ⟨?_, fun _ _ => trivial⟩) fuel _ trivial
    exact all_svFieldRound hn' (by omega)
  · cases r with
    | error code => exact Traced.all_pure _
    | ok r =>
      have hempty := AsduWalk.consistent_empty
      obtain ⟨l, hl, _, rfl⟩ :=
        path_of_svFields (by omega) (headEnd_le_valueEnd apdu pos) hempty hr
      have ha := svid_below_foldl (a := {}) (Nat.zero_le n)
        (below_of_path hn' (by omega) hl)
      refine Traced.all_bind_of (all_svAsduDone hw ha) ?_
      split <;> exact Traced.all_pure _

/-- And the svID it leaves in the passport is one of the frame. -/
lemma below_of_svAsduRound {s' : ℕ × SVWalk} (hn : apdu.off + stop ≤ n) (hstop : stop < 2 ^ 31)
    (hw : w.Below n) (h : (svAsduRound apdu fuel stop declared (pos, w)).val = .next s') :
    s'.2.Below n := by
  obtain ⟨_, ⟨_, hend⟩, _, l, hl, _, hdone⟩ := svAsduRound_next (by omega) h
  have ha := svid_below_foldl (a := {}) (Nat.zero_le n)
    (below_of_path (by omega) (by omega) hl)
  obtain ⟨_, hw'⟩ := svAsduDone_iff.mp hdone
  split_ifs at hw' with hfirst
  · rw [hw']
    exact fun _ => ha
  · rw [hw'.2.2]
    exact fun _ => hw hfirst

/-- The whole walk stays inside the APDU. -/
theorem all_parseSvApdu {apduSize : ℕ} {passport : SVStreamPassport} {state : SVStreamState}
    (hn : apdu.off + apduSize ≤ n) (hsize : apduSize < 2 ^ 31) :
    (parseSvApdu fuel apdu apduSize passport state).All (Event.Safe n) := by
  unfold parseSvApdu
  refine Traced.all_bind_of (all_takeTlv apdu hn (by omega) 0x60) ?_
  rw [val_takeTlv apdu (by omega)]
  split_ifs with hpdu
  swap
  · exact Traced.all_pure _
  have hpduEnd := hpdu.2.2
  have hn' : apdu.off + valueEnd apdu 0 ≤ n := by omega
  refine Traced.all_bind_of (all_svNoAsdu hn' (by omega)) ?_
  rw [val_svNoAsdu apdu (by omega)]
  split_ifs with hnum
  swap
  · exact Traced.all_pure _
  refine Traced.all_bind_of (all_takeTlv apdu hn' (by omega) 0xA2) ?_
  rw [val_takeTlv apdu (by omega)]
  split_ifs with hseq
  swap
  · exact Traced.all_pure _
  refine Traced.all_ite_of (fun _ => Traced.all_pure _) fun hseqEnd => ?_
  rw [not_not.mp hseqEnd]
  refine Loop.all_run (fun s => s.2.Below n) (fun s hs => ⟨?_, fun s' h => ?_⟩) fuel _
    fun h => absurd rfl h
  · exact all_svAsduRound hn' (by omega) hs
  · exact below_of_svAsduRound hn' (by omega) hs h

end Walk

/-! ### The two receive paths -/

section Packet

open RSess

variable {buffer : Ptr} {size : Int32} {fuel n : ℕ} {passport : SVStreamPassport}
  {state : SVStreamState}

lemma toNat_lt (size : Int32) : size.toInt.toNat < 2 ^ 31 := by
  have := size.toInt_lt
  omega

lemma all_macRead (hn : buffer.off + 6 ≤ n) : (MAC.read buffer).All (Event.Safe n) := by
  rw [MAC.all_read]
  intro i hi
  rw [Event.safe_read]
  omega

/-- Behind the L2 header the walk has the rest of the frame. -/
lemma all_parseSvPacket (hn : buffer.off + size.toInt.toNat ≤ n) :
    (parseSvPacket fuel buffer size passport state).All (Event.Safe n) := by
  unfold parseSvPacket
  refine Traced.all_ite_of (fun _ => Traced.all_pure _) fun hsize => ?_
  have hsize : 64 ≤ size.toInt.toNat := by omega
  have hlt := toNat_lt size
  refine Traced.all_bind_of (all_macRead (by omega)) (Traced.all_bind_of ?_ ?_)
  · refine all_l2Header buffer 0xBA fun i hi => ?_
    rw [Event.safe_read]
    omega
  cases hpos : (l2Header buffer 0xBA).val with
  | none => exact Traced.all_pure _
  | some pos =>
    have hle := l2Header_le hpos
    refine Traced.all_bind_of ?_ (Traced.all_bind_of ?_ ?_)
    · rw [Ptr.all_load]
      intro j hj
      rw [Event.safe_read]
      omega
    · rw [Cursor.all_sub, Event.safe_sub]
      omega
    · rw [Cursor.val_sub (show pos + 8 ≤ size.toInt.toNat by omega)]
      refine all_parseSvApdu ?_ (by omega)
      rw [Ptr.off_add]
      omega

/-- Behind the envelope it has what the payload length leaves. -/
lemma all_parseRSvPacket {mode : SecurityMode} {crypto : Crypto} {session : SessionHeader}
    (hn : buffer.off + size.toInt.toNat ≤ n) :
    (parseRSvPacket fuel buffer size mode crypto session passport state).All
      (Event.Safe n) := by
  have hspec := unwrapRFrame_spec buffer size mode crypto SI_R_SV PAYLOAD_TYPE_SV session
  unfold parseRSvPacket
  refine Traced.all_bind_of (all_unwrapRFrame hn) ?_
  refine Traced.all_ite_of (fun _ => Traced.all_pure _) fun hcode => ?_
  have hok : UnwrapOk buffer size mode crypto SI_R_SV PAYLOAD_TYPE_SV := by
    by_contra hno
    exact hcode (hspec.bad hno)
  rw [hspec.ok hok]
  obtain ⟨hbase, hapdu⟩ := hok.fits.apdu_le
  have hip := hok.fits.ip
  have hle := hok.fits.ip_le
  refine Traced.all_bind_of (all_macRead (by show buffer.off + 6 ≤ n; omega))
    (Traced.all_bind_of (all_parseSvApdu ?_ ?_) (Traced.all_pure _))
  · show apduBaseAt buffer + (apduSizeAt buffer : ℤ).toNat ≤ n
    omega
  · show (apduSizeAt buffer : ℤ).toNat < 2 ^ 31
    omega

end Packet

/-- Both receive paths stay inside the frame: whatever the content, the size and the mode, every
byte index and every range handed to the backend is in `[0, size)`, no subtraction underflows and
no addition wraps. -/
theorem sv_receive_inside (mem : Mem) (size : Int32) (mode : RSess.SecurityMode)
    (crypto : RSess.Crypto) (session : RSess.SessionHeader) (passport : SVStreamPassport)
    (state : SVStreamState) (fuel : ℕ) :
    (parseSvPacket fuel ⟨mem, 0⟩ size passport state).All (Event.Safe size.toInt.toNat) ∧
      (parseRSvPacket fuel ⟨mem, 0⟩ size mode crypto session passport state).All
        (Event.Safe size.toInt.toNat) :=
  ⟨all_parseSvPacket (Nat.zero_add _).le, all_parseRSvPacket (Nat.zero_add _).le⟩

end ProcessBus
