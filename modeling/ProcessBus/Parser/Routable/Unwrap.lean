import ProcessBus.Common.Session.Readers
import ProcessBus.Parser.Routable.Basic

/-!
# What `unwrap_r_frame` returns

The chain of checks in front of a routable APDU, as one condition on the frame, and what is
returned when it holds. The session header is read before the payload is decrypted, the payload
header behind it from the decrypted memory.
-/

namespace ProcessBus

open RSess

variable (buffer : Ptr) (size : Int32) (mode : SecurityMode) (crypto : Crypto)

/-- The total length in the IPv4 header. -/
def ipTotalLenAt : ℕ := beNat (buffer.mem.slice (buffer.off + 16) 2)

/-- The UDP payload of a routable frame. -/
def udpAt : Ptr := buffer.add ETH_IP_UDP_SIZE

/-- Its size, as the IPv4 header has it. -/
def udpSizeAt : ℕ := ipTotalLenAt buffer - 28

/-- What `unseal` returns on the frame, the memory behind it included. -/
def unsealed : Bool × Mem :=
  (unsealUnlessNone (udpAt buffer) (udpSizeAt buffer) mode (sessionAt (udpAt buffer)) crypto).val

/-- The datagram fits the frame and starts with a session header. -/
@[mk_iff]
structure SessionFits : Prop where
  size_ge : ((ETH_IP_UDP_SIZE + apduOffset 0 : ℕ) : ℤ) ≤ size.toInt
  ip : 28 ≤ ipTotalLenAt buffer
  ip_le : 14 + ipTotalLenAt buffer ≤ size.toInt.toNat
  session : SessionOk (udpAt buffer) (udpSizeAt buffer)

instance : Decidable (SessionFits buffer size) := decidable_of_iff' _ (sessionFits_iff buffer size)

/-- The payload header of the frame once it is plaintext. -/
def phdrAt : PayloadHeader :=
  payloadAt ⟨(unsealed buffer mode crypto).2, (udpAt buffer).off⟩ (sessionAt (udpAt buffer))

/-- All checks in front of the APDU. -/
structure UnwrapOk (expectedSI expectedType : UInt8) : Prop where
  fits : SessionFits buffer size
  si : (sessionAt (udpAt buffer)).si = expectedSI
  auth : (unsealed buffer mode crypto).1 = true
  payload : PayloadOk ⟨(unsealed buffer mode crypto).2, (udpAt buffer).off⟩ (udpSizeAt buffer)
    (sessionAt (udpAt buffer))
  type : (phdrAt buffer mode crypto).payloadType = expectedType

/-- Where the APDU of the frame starts. -/
def apduBaseAt : ℕ := (udpAt buffer).off + apduOffset (sessionAt (udpAt buffer)).ivLength

/-- The size of the APDU, from the payload length. -/
def apduSizeAt : ℕ := (sessionAt (udpAt buffer)).payloadLength.toNat - PAYLOAD_ELEM_SIZE

/-- What is returned behind them. -/
def unwrappedAt : Unwrapped where
  code := apduSizeAt buffer
  mem := (unsealed buffer mode crypto).2
  session := sessionAt (udpAt buffer)
  phdr := phdrAt buffer mode crypto
  apduBase := apduBaseAt buffer

variable {buffer size mode crypto}

variable (buffer) in
lemma ipTotalLenAt_lt : ipTotalLenAt buffer < 2 ^ 16 := by
  have := beNat_lt (buffer.mem.slice (buffer.off + 16) 2)
  rw [Mem.length_slice] at this
  exact this

/-- The APDU lies in the datagram. -/
lemma SessionFits.apdu_le (h : SessionFits buffer size) :
    apduBaseAt buffer + apduSizeAt buffer ≤ buffer.off + 14 + ipTotalLenAt buffer ∧
      apduSizeAt buffer < 2 ^ 16 := by
  have hlen := toNat_payloadLength (udpAt buffer)
  have hpay := h.session.payload
  have hle := h.session.payload_le
  have hip := h.ip
  have hlt := ipTotalLenAt_lt buffer
  have hoff : (udpAt buffer).off = buffer.off + 42 := rfl
  have hiv : (sessionAt (udpAt buffer)).ivLength = ivLengthAt (udpAt buffer) := rfl
  simp only [apduBaseAt, apduSizeAt, apduOffset, hlen, hoff, hiv]
  simp only [udpSizeAt, PAYLOAD_ELEM_SIZE, PAYLOAD_HDR_SIZE] at *
  omega

lemma SessionFits.elem_le (h : SessionFits buffer size) :
    PAYLOAD_ELEM_SIZE ≤ (sessionAt (udpAt buffer)).payloadLength.toNat := by
  rw [toNat_payloadLength]
  exact h.session.payload

variable (buffer size mode crypto) in
/-- `unwrap_r_frame` gets through exactly if all checks hold. -/
theorem unwrapRFrame_spec (expectedSI expectedType : UInt8) (session : SessionHeader) :
    (unwrapRFrame buffer size expectedSI expectedType mode crypto session).Decides
      (UnwrapOk buffer size mode crypto expectedSI expectedType)
      (unwrappedAt buffer mode crypto) (fun u => u.code < 0) := by
  unfold unwrapRFrame
  refine Traced.decides_ite (fun h => ?_) fun hsize => Traced.decides_bind.mpr ?_
  · exact Traced.decides_bad (fun ok => absurd ok.fits.size_ge (Int.not_le.mpr h))
      (show ERR_TOO_SHORT < 0 by decide)
  rw [Ptr.val_load, ← ipTotalLenAt]
  refine Traced.decides_ite (fun h => ?_) fun hip => Traced.decides_bind.mpr ?_
  · refine Traced.decides_bad (fun ok => ?_) (show ERR_TOO_SHORT < 0 by decide)
    have := ok.fits.ip
    have := ok.fits.ip_le
    omega
  rw [Cursor.val_sub (show 28 ≤ ipTotalLenAt buffer by omega), ← udpSizeAt, ← udpAt]
  rw [Traced.decides_bind]
  have hspec := parseSession_spec (udpAt buffer) (udpSizeAt buffer) session
  by_cases hok : SessionOk (udpAt buffer) (udpSizeAt buffer)
  swap
  · have hneg := hspec.bad hok
    refine Traced.decides_ite (fun h => ?_) fun h => absurd hneg h
    exact Traced.decides_bad (fun ok => hok ok.fits.session) h
  have hfits : SessionFits buffer size := ⟨Int.not_lt.mp hsize, by omega, by omega, hok⟩
  rw [hspec.ok hok]
  refine Traced.decides_ite (fun h => absurd h (Int.not_lt.mpr (Int.natCast_nonneg _))) fun _ => ?_
  refine Traced.decides_ite (fun h => ?_) fun hsi => ?_
  · exact Traced.decides_bad (fun ok => h ok.si) (show ERR_BAD_SI < 0 by decide)
  rw [Traced.decides_bind, ← unsealed]
  rcases hu : unsealed buffer mode crypto with ⟨ok, mem⟩
  have hmem : (unsealed buffer mode crypto).2 = mem := congrArg Prod.snd hu
  refine Traced.decides_ite (fun h => ?_) fun hauth => ?_
  · refine Traced.decides_bad (fun ok => h ?_) (show R_PARSE_ERR_AUTH < 0 by decide)
    rw [← ok.auth, hu]
  rw [Traced.decides_bind]
  have hpayload := parsePayload_spec ⟨mem, (udpAt buffer).off⟩ (udpSizeAt buffer)
    (sessionAt (udpAt buffer)) {} hfits.elem_le
  by_cases hpok : PayloadOk ⟨mem, (udpAt buffer).off⟩ (udpSizeAt buffer) (sessionAt (udpAt buffer))
  swap
  · have hneg := hpayload.bad hpok
    refine Traced.decides_ite (fun h => ?_) fun h => absurd hneg h
    exact Traced.decides_bad (fun ok => hpok (hmem ▸ ok.payload)) h
  have hphdr : payloadAt ⟨mem, (udpAt buffer).off⟩ (sessionAt (udpAt buffer)) =
      phdrAt buffer mode crypto := by rw [phdrAt, hmem]
  rw [hpayload.ok hpok, hphdr]
  refine Traced.decides_ite (fun h => absurd h (Int.not_lt.mpr (Int.natCast_nonneg _))) fun _ => ?_
  refine Traced.decides_ite (fun h => ?_) fun htype => ?_
  · exact Traced.decides_bad (fun ok => h ok.type) (show ERR_BAD_PAYLOAD_TYPE < 0 by decide)
  have hsize : (phdrAt buffer mode crypto).apduSize.toNat = apduSizeAt buffer := by
    have : apduSizeAt buffer < 2 ^ 32 := by have := hfits.apdu_le.2; omega
    exact (UInt32.toNat_ofNat' ..).trans (Nat.mod_eq_of_lt this)
  have hcode : (Int32.ofNat (phdrAt buffer mode crypto).apduSize.toNat).toInt =
      apduSizeAt buffer := by
    have := hfits.apdu_le.2
    rw [hsize, Int32.toInt_ofNat_of_lt (by omega)]
  rw [hcode, ← hmem]
  exact Traced.decides_pure ⟨hfits, not_not.mp hsi, by rw [hu]; exact not_not.mp hauth,
    hmem ▸ hpok, not_not.mp htype⟩

lemma all_unsealUnlessNone {udp : Ptr} {udpSize n : ℕ} {session : SessionHeader}
    (hn : udp.off + udpSize ≤ n) (hiv : ∀ iv, session.iv = some iv → iv = udp.off + OFF_IV) :
    (unsealUnlessNone udp udpSize mode session crypto).All (Event.Safe n) :=
  Traced.all_ite_of (fun _ => all_unsealFrame hn hiv) fun _ => Traced.all_pure _

/-- Whatever the frame holds, unwrapping it stays inside. -/
theorem all_unwrapRFrame {n : ℕ} {expectedSI expectedType : UInt8} {session : SessionHeader}
    (hn : buffer.off + size.toInt.toNat ≤ n) :
    (unwrapRFrame buffer size expectedSI expectedType mode crypto session).All
      (Event.Safe n) := by
  unfold unwrapRFrame
  refine Traced.all_ite_of (fun _ => Traced.all_pure _) fun hsize => ?_
  have hsize : 79 ≤ size.toInt.toNat := by
    have : ((ETH_IP_UDP_SIZE + apduOffset 0 : ℕ) : ℤ) = 79 := rfl
    omega
  refine Traced.all_bind_of ?_ ?_
  · rw [Ptr.all_load]
    intro j hj
    rw [Event.safe_read]
    omega
  rw [Ptr.val_load, ← ipTotalLenAt]
  refine Traced.all_ite_of (fun _ => Traced.all_pure _) fun hip => ?_
  refine Traced.all_bind_of ?_ ?_
  · rw [Cursor.all_sub, Event.safe_sub]
    omega
  rw [Cursor.val_sub (show 28 ≤ ipTotalLenAt buffer by omega), ← udpSizeAt, ← udpAt]
  have hudp : (udpAt buffer).off + udpSizeAt buffer ≤ n := by
    have : (udpAt buffer).off = buffer.off + 42 := rfl
    unfold udpSizeAt
    omega
  refine Traced.all_bind_of (all_parseSession hudp) ?_
  have hspec := parseSession_spec (udpAt buffer) (udpSizeAt buffer) session
  by_cases hok : SessionOk (udpAt buffer) (udpSizeAt buffer)
  swap
  · exact Traced.all_ite_of (fun _ => Traced.all_pure _) fun h => absurd (hspec.bad hok) h
  rw [hspec.ok hok]
  refine Traced.all_ite_of (fun _ => Traced.all_pure _) fun _ => ?_
  refine Traced.all_ite_of (fun _ => Traced.all_pure _) fun _ => ?_
  refine Traced.all_bind_of (all_unsealUnlessNone hudp fun iv hiv => ?_) ?_
  · have hiv : (if ivLengthAt (udpAt buffer) > 0 then some ((udpAt buffer).off + OFF_IV)
      else none) = some iv := hiv
    split_ifs at hiv
    exact (Option.some.inj hiv).symm
  refine Traced.all_ite_of (fun _ => Traced.all_pure _) fun _ => ?_
  have hlen : PAYLOAD_ELEM_SIZE ≤ (sessionAt (udpAt buffer)).payloadLength.toNat := by
    rw [toNat_payloadLength]
    exact hok.payload
  refine Traced.all_bind_of (all_parsePayload hudp hlen) ?_
  refine Traced.all_ite_of (fun _ => Traced.all_pure _) fun _ => ?_
  exact Traced.all_ite_of (fun _ => Traced.all_pure _) fun _ => Traced.all_pure _

end ProcessBus
