import ProcessBus.Common.Session.Basic

/-!
# The readers of the session layer

What `parse_session`, `unseal` and `parse_payload` return, and that they stay inside the session
PDU. The lengths they use come from the frame: the IV length is one octet and the payload length
four, so the sums at 64 bits cannot wrap whatever the frame says.
-/

namespace ProcessBus.RSess

variable {buf : Ptr} {size : ℕ} {session : SessionHeader} {mode : SecurityMode} {crypto : Crypto}

lemma payloadHdrOffset_lt (ivLen : UInt8) : payloadHdrOffset ivLen < 283 := by
  have := ivLen.toNat_lt
  simp only [payloadHdrOffset, SESSION_FIXED_SIZE]
  omega

/-! ### parse_session -/

variable (buf) in
/-- The IV length in the header. -/
def ivLengthAt : UInt8 := buf.mem (buf.off + OFF_IV_LENGTH)

variable (buf) in
/-- The payload length behind the IV. -/
def payloadLengthAt : ℕ :=
  beNat (buf.mem.slice (buf.off + payloadHdrOffset (ivLengthAt buf)) 4)

variable (buf) in
/-- The header that stands at `buf`. -/
def sessionAt : SessionHeader where
  si := buf.mem (buf.off + OFF_SI)
  spduLength := UInt32.ofNat (beNat (buf.mem.slice (buf.off + OFF_SPDU_LENGTH) 4))
  spduNumber := UInt32.ofNat (beNat (buf.mem.slice (buf.off + OFF_SPDU_NUMBER) 4))
  version := UInt16.ofNat (beNat (buf.mem.slice (buf.off + OFF_VERSION) 2))
  timeOfCurrentKey := UInt32.ofNat (beNat (buf.mem.slice (buf.off + OFF_TIME_CUR_KEY) 4))
  timeToNextKey := Int16.ofNat (beNat (buf.mem.slice (buf.off + OFF_TIME_NEXT_KEY) 2))
  keyId := UInt32.ofNat (beNat (buf.mem.slice (buf.off + OFF_KEY_ID) 4))
  ivLength := ivLengthAt buf
  iv := if ivLengthAt buf > 0 then some (buf.off + OFF_IV) else none
  payloadLength := UInt32.ofNat (payloadLengthAt buf)

variable (buf size) in
/-- What `parse_session` asks of the header. -/
@[mk_iff]
structure SessionOk : Prop where
  fixed : SESSION_FIXED_SIZE + 4 ≤ size
  cltp : buf.mem (buf.off + OFF_CLTP_LI) = CLTP_LI ∧ buf.mem (buf.off + OFF_CLTP_UD) = CLTP_UD
  si : (sessionAt buf).si = SI_R_GOOSE ∨ (sessionAt buf).si = SI_R_SV
  pi : buf.mem (buf.off + OFF_PI) = PI_COMMON_HDR
  version : (sessionAt buf).version = SESSION_VERSION
  header : payloadHdrOffset (ivLengthAt buf) + PAYLOAD_HDR_SIZE ≤ size
  payload : PAYLOAD_ELEM_SIZE ≤ payloadLengthAt buf
  payload_le : payloadHdrOffset (ivLengthAt buf) + 4 + payloadLengthAt buf ≤ size

instance : Decidable (SessionOk buf size) := decidable_of_iff' _ (sessionOk_iff buf size)

variable (buf) in
lemma payloadLengthAt_lt : payloadLengthAt buf < 2 ^ 32 := by
  have := beNat_lt (buf.mem.slice (buf.off + payloadHdrOffset (ivLengthAt buf)) 4)
  rw [Mem.length_slice] at this
  exact this

variable (buf) in
lemma toNat_payloadLength : (sessionAt buf).payloadLength.toNat = payloadLengthAt buf := by
  show (UInt32.ofNat _).toNat = _
  rw [UInt32.toNat_ofNat', Nat.mod_eq_of_lt (payloadLengthAt_lt buf)]

variable (buf size session) in
/-- `parse_session` returns the header if it is as asked, and an error otherwise. -/
theorem parseSession_spec :
    (parseSession buf size session).Decides (SessionOk buf size)
      ((payloadHdrOffset (ivLengthAt buf) : ℤ), sessionAt buf) (fun r => r.1 < 0) := by
  have hcltp : (buf.expect [(OFF_CLTP_LI, CLTP_LI), (OFF_CLTP_UD, CLTP_UD)]).val = true ↔
      buf.mem (buf.off + OFF_CLTP_LI) = CLTP_LI ∧ buf.mem (buf.off + OFF_CLTP_UD) = CLTP_UD := by
    rw [Ptr.val_expect]
    simp
  have hlt := payloadHdrOffset_lt (ivLengthAt buf)
  have hlen := payloadLengthAt_lt buf
  have hend : (Cursor.add 64 (payloadHdrOffset (ivLengthAt buf)) PAYLOAD_HDR_SIZE).val =
      payloadHdrOffset (ivLengthAt buf) + PAYLOAD_HDR_SIZE :=
    Cursor.val_add (by unfold PAYLOAD_HDR_SIZE; omega)
  have hpay : (Cursor.add 64 (payloadHdrOffset (ivLengthAt buf) + 4) (payloadLengthAt buf)).val =
      payloadHdrOffset (ivLengthAt buf) + 4 + payloadLengthAt buf := Cursor.val_add (by omega)
  have hneg : ∀ {code : ℤ} {s : SessionHeader}, code < 0 → (code, s).1 < 0 := id
  unfold parseSession
  refine Traced.decides_ite (fun h => ?_) fun hfixed => Traced.decides_bind.mpr ?_
  · exact Traced.decides_bad (fun ok => absurd ok.fixed (Nat.not_le.mpr h)) (hneg (by decide))
  refine Traced.decides_ite (fun h => ?_) fun hexpect => Traced.decides_bind.mpr ?_
  · exact Traced.decides_bad (fun ok => h (hcltp.mpr ok.cltp)) (hneg (by decide))
  refine Traced.decides_ite (fun h => ?_) fun hsi => Traced.decides_bind.mpr ?_
  · exact Traced.decides_bad (fun ok => ok.si.elim h.1 h.2) (hneg (by decide))
  refine Traced.decides_ite (fun h => ?_) fun hpi => Traced.decides_bind.mpr ?_
  · exact Traced.decides_bad (fun ok => h ok.pi) (hneg (by decide))
  rw [Ptr.val_load]
  refine Traced.decides_ite (fun h => ?_) fun hversion => ?_
  · exact Traced.decides_bad (fun ok => h ok.version) (hneg (by decide))
  simp only [Traced.decides_bind, Ptr.val_load, Ptr.val_get]
  refine Traced.decides_ite (fun h => ?_) fun hheader => Traced.decides_bind.mpr ?_
  · rw [← ivLengthAt, hend] at h
    exact Traced.decides_bad (fun ok => absurd ok.header (Nat.not_le.mpr h)) (hneg (by decide))
  rw [Ptr.val_load]
  refine Traced.decides_ite (fun h => ?_) fun hpayload => Traced.decides_bind.mpr ?_
  · exact Traced.decides_bad (fun ok => absurd ok.payload (Nat.not_le.mpr h)) (hneg (by decide))
  refine Traced.decides_ite (fun h => ?_) fun hpayloadEnd => ?_
  · rw [← ivLengthAt, ← payloadLengthAt, hpay] at h
    exact Traced.decides_bad (fun ok => absurd ok.payload_le (Nat.not_le.mpr h)) (hneg (by decide))
  rw [← ivLengthAt, hend] at hheader
  rw [← ivLengthAt, ← payloadLengthAt, hpay] at hpayloadEnd
  refine Traced.decides_pure ⟨Nat.not_lt.mp hfixed, hcltp.mp (not_not.mp hexpect), ?_,
    not_not.mp hpi, not_not.mp hversion, Nat.not_lt.mp hheader, Nat.not_lt.mp hpayload,
    Nat.not_lt.mp hpayloadEnd⟩
  by_contra h
  exact hsi (not_or.mp h)

/-! ### unseal -/

variable (session) in
/-- Where the payload elements end. -/
def payloadEndOf : ℕ := payloadHdrOffset session.ivLength + 4 + session.payloadLength.toNat

variable (session) in
lemma payloadEndOf_lt : payloadEndOf session < 2 ^ 33 := by
  have := payloadHdrOffset_lt session.ivLength
  have := session.payloadLength.toNat_lt
  unfold payloadEndOf
  omega

variable (session) in
lemma val_payloadStart : (Cursor.add 64 (payloadHdrOffset session.ivLength) 4).val =
    payloadHdrOffset session.ivLength + 4 := by
  have := payloadHdrOffset_lt session.ivLength
  exact Cursor.val_add (by omega)

variable (session) in
lemma val_payloadEnd : (Cursor.add 64 (payloadHdrOffset session.ivLength + 4)
    session.payloadLength.toNat).val = payloadEndOf session :=
  Cursor.val_add (lt_trans (payloadEndOf_lt session) (by decide))

variable (session) in
lemma val_trailerEnd :
    (Cursor.add 64 (payloadEndOf session) TRAILER_SIZE).val = payloadEndOf session + 18 := by
  have := payloadEndOf_lt session
  exact Cursor.val_add (by simp only [TRAILER_SIZE, TAG_SIZE]; omega)

/-- In front of a trailer that fits and is marked as one, only the backend is left to ask. -/
lemma val_unsealFrame (hmode : mode ≠ .SEC_NONE) (hfits : payloadEndOf session + 18 ≤ size)
    (hsig : buf.mem (buf.off + payloadEndOf session) = SIGNATURE_TAG) :
    (unsealFrame buf size mode session crypto).val =
      if mode = .SEC_HMAC then
        ((crypto.verifyHMAC buf (payloadEndOf session)
          (buf.add (payloadEndOf session + 2))).val, buf.mem)
      else match session.iv with
        | none => (false, buf.mem)
        | some iv =>
          if session.ivLength ≠ IV_LEN_GCM then (false, buf.mem)
          else if (buf.mem (buf.off + (payloadEndOf session + 1))).toNat ≠ TAG_SIZE then
            (false, buf.mem)
          else
            let r := crypto.Decrypt (buf.mem.slice iv session.ivLength.toNat)
              (buf.mem.slice buf.off (payloadHdrOffset session.ivLength + 4))
              (buf.mem.slice (buf.off + (payloadHdrOffset session.ivLength + 4))
                session.payloadLength.toNat)
              (buf.mem.slice (buf.off + payloadEndOf session + 2)
                (buf.mem (buf.off + (payloadEndOf session + 1))).toNat)
            (r.1, buf.mem.write (buf.off + (payloadHdrOffset session.ivLength + 4)) r.2) := by
  unfold unsealFrame
  rw [if_neg hmode]
  simp only [Traced.val_bind, val_payloadStart, val_payloadEnd, val_trailerEnd]
  rw [if_neg (by omega)]
  simp only [Traced.val_bind, Ptr.val_get, hsig]
  rw [if_neg (by simp), Traced.val_ite]
  refine if_congr Iff.rfl rfl ?_
  cases session.iv with
  | none => rfl
  | some iv =>
    simp only [Traced.val_bind, Traced.val_ite, Ptr.val_get, Traced.val_pure]

/-! ### parse_payload -/

variable (buf session) in
/-- The payload header behind the session header. -/
def payloadAt : PayloadHeader where
  payloadType := buf.mem (buf.off + (payloadHdrOffset session.ivLength + 4))
  simulation := buf.mem (buf.off + (payloadHdrOffset session.ivLength + 5))
  appid := UInt16.ofNat
    (beNat (buf.mem.slice (buf.off + (payloadHdrOffset session.ivLength + 6)) 2))
  apduLength := UInt16.ofNat
    (beNat (buf.mem.slice (buf.off + (payloadHdrOffset session.ivLength + 8)) 2))
  apduSize := UInt32.ofNat (session.payloadLength.toNat - PAYLOAD_ELEM_SIZE)

variable (buf size session) in
/-- What `parse_payload` asks of it. -/
structure PayloadOk : Prop where
  header : payloadHdrOffset session.ivLength + PAYLOAD_HDR_SIZE ≤ size
  type : (payloadAt buf session).payloadType = PAYLOAD_TYPE_GOOSE ∨
    (payloadAt buf session).payloadType = PAYLOAD_TYPE_SV

variable (buf size session) in
/-- `parse_payload` returns the payload header if it is as asked, and an error otherwise. -/
theorem parsePayload_spec (payload : PayloadHeader)
    (hlen : PAYLOAD_ELEM_SIZE ≤ session.payloadLength.toNat) :
    (parsePayload buf size session payload).Decides (PayloadOk buf size session)
      (((payloadHdrOffset session.ivLength + PAYLOAD_HDR_SIZE : ℕ) : ℤ), payloadAt buf session)
      (fun r => r.1 < 0) := by
  have hlt := payloadHdrOffset_lt session.ivLength
  have hend : (Cursor.add 64 (payloadHdrOffset session.ivLength) PAYLOAD_HDR_SIZE).val =
      payloadHdrOffset session.ivLength + PAYLOAD_HDR_SIZE :=
    Cursor.val_add (by unfold PAYLOAD_HDR_SIZE; omega)
  have hsub : (Cursor.sub 32 session.payloadLength.toNat PAYLOAD_ELEM_SIZE).val =
      session.payloadLength.toNat - PAYLOAD_ELEM_SIZE := Cursor.val_sub hlen
  have hneg : ∀ {code : ℤ} {p : PayloadHeader}, code < 0 → (code, p).1 < 0 := id
  refine Traced.decides_bind.mpr ?_
  rw [hend]
  refine Traced.decides_ite (fun h => ?_) fun hheader => Traced.decides_bind.mpr ?_
  · exact Traced.decides_bad (fun ok => absurd ok.header (Nat.not_le.mpr h)) (hneg (by decide))
  refine Traced.decides_ite (fun h => ?_) fun htype => ?_
  · exact Traced.decides_bad (fun ok => ok.type.elim h.1 h.2) (hneg (by decide))
  simp only [Traced.decides_bind, Ptr.val_load, Ptr.val_get, hsub]
  refine Traced.decides_pure ⟨Nat.not_lt.mp hheader, ?_⟩
  by_contra h
  exact htype (not_or.mp h)

/-! ### Safety -/

section Safe

variable {n : ℕ}

/-- `parse_session` reads the fixed header and, once it is known to fit, the payload length. -/
theorem all_parseSession (hn : buf.off + size ≤ n) :
    (parseSession buf size session).All (Event.Safe n) := by
  have hphOff := payloadHdrOffset_lt (ivLengthAt buf)
  have hend : (Cursor.add 64 (payloadHdrOffset (ivLengthAt buf)) PAYLOAD_HDR_SIZE).val =
      payloadHdrOffset (ivLengthAt buf) + PAYLOAD_HDR_SIZE :=
    Cursor.val_add (by unfold PAYLOAD_HDR_SIZE; omega)
  unfold parseSession
  refine Traced.all_ite_of (fun _ => Traced.all_pure _) fun hfixed => ?_
  have hget : ∀ {i : ℕ}, i < 31 → (buf.get i).All (Event.Safe n) := fun hi => by
    rw [Ptr.all_get, Event.safe_read]
    simp only [SESSION_FIXED_SIZE] at hfixed
    omega
  have hload : ∀ {i w : ℕ}, i + w ≤ 31 → (buf.load i w).All (Event.Safe n) := fun hi => by
    rw [Ptr.all_load]
    intro j hj
    rw [Event.safe_read]
    simp only [SESSION_FIXED_SIZE] at hfixed
    omega
  have hexpect : (buf.expect [(OFF_CLTP_LI, CLTP_LI), (OFF_CLTP_UD, CLTP_UD)]).All
      (Event.Safe n) := by
    refine Ptr.all_expect _ _ fun x hx => (Ptr.all_get buf x.1).mp (hget ?_)
    simp only [List.mem_cons, List.not_mem_nil, or_false] at hx
    rcases hx with rfl | rfl <;> decide
  refine Traced.all_bind_of hexpect (Traced.all_ite_of (fun _ => Traced.all_pure _) fun _ => ?_)
  refine Traced.all_bind_of (hget (by decide))
    (Traced.all_ite_of (fun _ => Traced.all_pure _) fun _ => ?_)
  refine Traced.all_bind_of (hget (by decide))
    (Traced.all_ite_of (fun _ => Traced.all_pure _) fun _ => ?_)
  refine Traced.all_bind_of (hload (by decide))
    (Traced.all_ite_of (fun _ => Traced.all_pure _) fun _ => ?_)
  refine Traced.all_bind_of (hload (by decide)) (Traced.all_bind_of (hload (by decide)) ?_)
  refine Traced.all_bind_of (hload (by decide)) (Traced.all_bind_of (hload (by decide)) ?_)
  refine Traced.all_bind_of (hload (by decide)) (Traced.all_bind_of (hget (by decide)) ?_)
  simp only [Ptr.val_get, Ptr.val_load]
  rw [← ivLengthAt]
  refine Traced.all_bind_of ?_ (Traced.all_ite_of (fun _ => Traced.all_pure _) fun hheader => ?_)
  · rw [Cursor.all_add, Event.safe_add]
    simp only [PAYLOAD_HDR_SIZE]
    omega
  rw [hend] at hheader
  simp only [PAYLOAD_HDR_SIZE] at hheader
  refine Traced.all_bind_of ?_ (Traced.all_ite_of (fun _ => Traced.all_pure _) fun _ => ?_)
  · rw [Ptr.all_load]
    intro j hj
    rw [Event.safe_read]
    omega
  refine Traced.all_bind_of ?_ (Traced.all_ite_of (fun _ => Traced.all_pure _) fun _ =>
    Traced.all_pure _)
  have hlen := payloadLengthAt_lt buf
  rw [Cursor.all_add, Event.safe_add, Ptr.val_load, ← payloadLengthAt]
  omega

/-- `unseal` checks that the trailer fits before it reads it. What it hands to the backend are
the header, the payload, the tag and the IV, and the IV stands in the header. -/
theorem all_unsealFrame (hn : buf.off + size ≤ n)
    (hiv : ∀ iv, session.iv = some iv → iv = buf.off + OFF_IV) :
    (unsealFrame buf size mode session crypto).All (Event.Safe n) := by
  have hphOff := payloadHdrOffset_lt session.ivLength
  have hlt := payloadEndOf_lt session
  have hpe : payloadEndOf session =
    payloadHdrOffset session.ivLength + 4 + session.payloadLength.toNat := rfl
  unfold unsealFrame
  refine Traced.all_ite_of (fun _ => Traced.all_pure _) fun _ => ?_
  refine Traced.all_bind_of ?_ ?_
  · rw [Cursor.all_add, Event.safe_add]
    omega
  rw [val_payloadStart]
  refine Traced.all_bind_of ?_ ?_
  · rw [Cursor.all_add, Event.safe_add]
    omega
  rw [val_payloadEnd]
  refine Traced.all_bind_of ?_ ?_
  · rw [Cursor.all_add, Event.safe_add]
    simp only [TRAILER_SIZE, TAG_SIZE]
    omega
  rw [val_trailerEnd]
  refine Traced.all_ite_of (fun _ => Traced.all_pure _) fun hfits => ?_
  refine Traced.all_bind_of ?_ ?_
  · rw [Ptr.all_get, Event.safe_read]
    omega
  refine Traced.all_ite_of (fun _ => Traced.all_pure _) fun _ => ?_
  refine Traced.all_ite_of (fun _ => ?_) fun _ => ?_
  · refine Traced.all_bind_of (Traced.all_bind_of ?_ ?_) (Traced.all_pure _)
    · rw [Traced.all_emit, Event.safe_range]
      omega
    · cases crypto.HMAC (buf.mem.slice buf.off (payloadEndOf session)) with
      | none => exact Traced.all_pure _
      | some expected =>
        refine Traced.all_bind_of ?_ (Traced.all_pure _)
        rw [Traced.all_emit, Event.safe_range, Ptr.off_add, TAG_SIZE]
        omega
  · cases hsome : session.iv with
    | none => exact Traced.all_pure _
    | some iv =>
      have hoff : OFF_IV + session.ivLength.toNat = payloadHdrOffset session.ivLength := rfl
      obtain rfl := hiv iv hsome
      refine Traced.all_ite_of (fun _ => Traced.all_pure _) fun _ => ?_
      refine Traced.all_bind_of ?_ (Traced.all_ite_of (fun _ => Traced.all_pure _) fun htag => ?_)
      · rw [Ptr.all_get, Event.safe_read]
        omega
      rw [Ptr.val_get, not_not, TAG_SIZE] at htag
      simp only [Traced.all_bind, Traced.all_emit, Event.safe_range, Traced.all_pure, and_true,
        Ptr.val_get, htag]
      omega

/-- `parse_payload` reads the ten octets of the payload header. -/
theorem all_parsePayload {payload : PayloadHeader} (hn : buf.off + size ≤ n)
    (hlen : PAYLOAD_ELEM_SIZE ≤ session.payloadLength.toNat) :
    (parsePayload buf size session payload).All (Event.Safe n) := by
  have hphOff := payloadHdrOffset_lt session.ivLength
  have hend : (Cursor.add 64 (payloadHdrOffset session.ivLength) PAYLOAD_HDR_SIZE).val =
      payloadHdrOffset session.ivLength + PAYLOAD_HDR_SIZE :=
    Cursor.val_add (by unfold PAYLOAD_HDR_SIZE; omega)
  unfold parsePayload
  refine Traced.all_bind_of ?_ ?_
  · rw [Cursor.all_add, Event.safe_add, PAYLOAD_HDR_SIZE]
    omega
  rw [hend, PAYLOAD_HDR_SIZE]
  refine Traced.all_ite_of (fun _ => Traced.all_pure _) fun hfits => ?_
  refine Traced.all_bind_of ?_ (Traced.all_ite_of (fun _ => Traced.all_pure _) fun _ => ?_)
  · rw [Ptr.all_get, Event.safe_read]
    omega
  simp only [Traced.all_bind, Ptr.all_get, Ptr.all_load, Cursor.all_sub, Event.safe_read,
    Event.safe_sub, Traced.all_pure, and_true]
  refine ⟨by omega, fun j hj => by omega, fun j hj => by omega, hlen⟩

end Safe

end ProcessBus.RSess
