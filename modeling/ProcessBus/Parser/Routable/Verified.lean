import ProcessBus.Common.Session.Acceptance
import ProcessBus.Common.Session.RoundTrip
import ProcessBus.Parser.Routable.Unwrap

/-!
# What `unwrap_r_frame` hands on

The ranges that were verified are the ranges that are used: the session header is read from bytes
that the backend was given as authenticated data, and the APDU lies in what it was given as
payload.
-/

namespace ProcessBus

open RSess

namespace RSess

variable {m m' : Mem} {off : ℕ}

/-- The session header is made of the bytes in front of the payload elements. -/
lemma sessionAt_congr
    (h : ∀ i < payloadHdrOffset (ivLengthAt ⟨m, off⟩) + 4, m' (off + i) = m (off + i)) :
    sessionAt ⟨m', off⟩ = sessionAt ⟨m, off⟩ := by
  have hget : ∀ i < SESSION_FIXED_SIZE, m' (off + i) = m (off + i) := fun i hi =>
    h i (by simp only [payloadHdrOffset]; omega)
  have hslice : ∀ a w, a + w ≤ SESSION_FIXED_SIZE →
      m'.slice (off + a) w = m.slice (off + a) w := fun a w ha =>
    Mem.slice_congr fun i hi hlt => by
      obtain ⟨j, rfl⟩ := Nat.exists_eq_add_of_le (show off ≤ i by omega)
      exact hget j (by omega)
  have hiv : ivLengthAt ⟨m', off⟩ = ivLengthAt ⟨m, off⟩ := hget OFF_IV_LENGTH (by decide)
  have hlen : payloadLengthAt ⟨m', off⟩ = payloadLengthAt ⟨m, off⟩ := by
    unfold payloadLengthAt
    rw [hiv]
    refine congrArg beNat (Mem.slice_congr fun i hi hlt => ?_)
    obtain ⟨j, rfl⟩ := Nat.exists_eq_add_of_le (show off ≤ i by dsimp only at hi; omega)
    exact h j (by dsimp only at hlt; omega)
  unfold sessionAt
  rw [hiv, hlen, hslice OFF_SPDU_LENGTH 4 (by decide), hslice OFF_SPDU_NUMBER 4 (by decide),
    hslice OFF_VERSION 2 (by decide), hslice OFF_TIME_CUR_KEY 4 (by decide),
    hslice OFF_TIME_NEXT_KEY 2 (by decide), hslice OFF_KEY_ID 4 (by decide)]
  dsimp only
  rw [hget OFF_SI (by decide)]

end RSess

section Verified

variable (mem : Mem) (size : Int32) (mode : SecurityMode) (crypto : Crypto)
  (expectedSI expectedType : UInt8)

/-- What `unwrap_r_frame` hands on, for a frame that starts at address 0. `udpAt` is the UDP
payload, which ends with the datagram. -/
structure HandsOn (u : Unwrapped) : Prop where
  datagram : 28 ≤ ipTotalLenAt ⟨mem, 0⟩ ∧ 14 + ipTotalLenAt ⟨mem, 0⟩ ≤ size.toInt.toNat
  /-- Where the APDU is, from the sixth octet of the payload elements to their end. -/
  apduBase : u.apduBase =
    ETH_IP_UDP_SIZE + (payloadHdrOffset u.session.ivLength + 4 + PAYLOAD_ELEM_SIZE)
  apduEnd : u.apduBase + u.code.toNat = ETH_IP_UDP_SIZE + payloadEndOf u.session
  inside : ETH_IP_UDP_SIZE + payloadEndOf u.session ≤ 14 + ipTotalLenAt ⟨mem, 0⟩
  si : u.session.si = expectedSI
  type : u.phdr.payloadType = expectedType
  /-- The headers are what stands in the frame: the session header in the received one, in front of
  the payload elements, the payload header in the decrypted one. -/
  session : ∀ mem' : Mem, mem'.slice ETH_IP_UDP_SIZE (payloadHdrOffset u.session.ivLength + 4) =
      mem.slice ETH_IP_UDP_SIZE (payloadHdrOffset u.session.ivLength + 4) →
    u.session = sessionAt ⟨mem', ETH_IP_UDP_SIZE⟩
  phdr : u.phdr = payloadAt ⟨u.mem, ETH_IP_UDP_SIZE⟩ u.session
  plain : mode ≠ .SEC_GCM → u.mem = mem
  trailer : mode ≠ .SEC_NONE →
    ETH_IP_UDP_SIZE + payloadEndOf u.session + TRAILER_SIZE ≤ 14 + ipTotalLenAt ⟨mem, 0⟩
  hmac : mode = .SEC_HMAC →
    (crypto.verifyHMAC ⟨mem, ETH_IP_UDP_SIZE⟩ (payloadEndOf u.session)
      ⟨mem, ETH_IP_UDP_SIZE + (payloadEndOf u.session + 2)⟩).val = true
  gcm : mode = .SEC_GCM → u.session.ivLength = 12 ∧ ∃ decrypted,
    crypto.Decrypt (mem.slice (ETH_IP_UDP_SIZE + OFF_IV) 12)
      (mem.slice ETH_IP_UDP_SIZE (payloadHdrOffset u.session.ivLength + 4))
      (mem.slice (ETH_IP_UDP_SIZE + (payloadHdrOffset u.session.ivLength + 4))
        u.session.payloadLength.toNat)
      (mem.slice (ETH_IP_UDP_SIZE + payloadEndOf u.session + 2) 16) = (true, decrypted) ∧
    u.mem = mem.write (ETH_IP_UDP_SIZE + (payloadHdrOffset u.session.ivLength + 4)) decrypted

variable {mem size mode crypto expectedSI expectedType}

lemma UnwrapOk.handsOn (h : UnwrapOk ⟨mem, 0⟩ size mode crypto expectedSI expectedType) :
    HandsOn mem size mode crypto expectedSI expectedType (unwrappedAt ⟨mem, 0⟩ mode crypto) := by
  have hend : payloadEndOf (sessionAt (udpAt ⟨mem, 0⟩)) + 28 ≤ ipTotalLenAt ⟨mem, 0⟩ := by
    have hle := h.fits.session.payload_le
    rw [← toNat_payloadLength] at hle
    have hip := h.fits.ip
    have hsize : udpSizeAt ⟨mem, 0⟩ = ipTotalLenAt ⟨mem, 0⟩ - 28 := rfl
    have hdef : payloadEndOf (sessionAt (udpAt ⟨mem, 0⟩)) = payloadHdrOffset (ivLengthAt
      (udpAt ⟨mem, 0⟩)) + 4 + (sessionAt (udpAt ⟨mem, 0⟩)).payloadLength.toNat := rfl
    omega
  have hacc : mode ≠ .SEC_NONE → RSess.Accepted (udpAt ⟨mem, 0⟩) (udpSizeAt ⟨mem, 0⟩) mode
      (sessionAt (udpAt ⟨mem, 0⟩)) crypto (unsealed ⟨mem, 0⟩ mode crypto).2 := fun hmode => by
    refine accepted_of_unsealFrame hmode ?_
    have hauth := h.auth
    unfold unsealed unsealUnlessNone at hauth ⊢
    rw [if_pos hmode] at hauth ⊢
    exact Prod.ext hauth rfl
  refine ⟨⟨h.fits.ip, h.fits.ip_le⟩, ?_, ?_, ?_, h.si, h.type, fun mem' hslice => ?_, rfl,
    fun hne => ?_, fun hmode => ?_, fun hhmac => ?_, fun hgcm => ?_⟩
  · rfl
  · have hlen := h.fits.elem_le
    show apduBaseAt ⟨mem, 0⟩ + apduSizeAt ⟨mem, 0⟩ =
      ETH_IP_UDP_SIZE + payloadEndOf (sessionAt (udpAt ⟨mem, 0⟩))
    have hoff : (udpAt ⟨mem, 0⟩).off = ETH_IP_UDP_SIZE := rfl
    simp only [apduBaseAt, apduSizeAt, apduOffset, payloadEndOf, hoff, PAYLOAD_HDR_SIZE,
      PAYLOAD_ELEM_SIZE] at hlen ⊢
    omega
  · show ETH_IP_UDP_SIZE + payloadEndOf (sessionAt (udpAt ⟨mem, 0⟩)) ≤ _
    unfold ETH_IP_UDP_SIZE
    omega
  · exact (sessionAt_congr fun i hi => Mem.eq_of_slice_eq hslice hi).symm
  · by_cases hmode : mode = .SEC_NONE
    · show (unsealUnlessNone _ _ _ _ _).val.2 = _
      rw [unsealUnlessNone, if_neg (not_not.mpr hmode)]
      rfl
    · have hhmac : mode = .SEC_HMAC := by cases mode <;> simp_all
      exact ((hacc hmode).hmac hhmac).1
  · have hfits := (hacc hmode).fits
    have hip := h.fits.ip
    have hsize : udpSizeAt ⟨mem, 0⟩ = ipTotalLenAt ⟨mem, 0⟩ - 28 := rfl
    show ETH_IP_UDP_SIZE + payloadEndOf (sessionAt (udpAt ⟨mem, 0⟩)) + TRAILER_SIZE ≤ _
    unfold ETH_IP_UDP_SIZE
    omega
  · exact ((hacc (by rw [hhmac]; decide)).hmac hhmac).2
  · obtain ⟨hlen, _, iv, plain, hiv, hdecrypt, hmem⟩ := (hacc (by rw [hgcm]; decide)).gcm hgcm
    have hpos : ivLengthAt (udpAt ⟨mem, 0⟩) > 0 := by
      rw [show ivLengthAt (udpAt ⟨mem, 0⟩) = IV_LEN_GCM from hlen]
      decide
    have hiv' : some (ETH_IP_UDP_SIZE + OFF_IV) = some iv := (if_pos hpos).symm.trans hiv
    obtain rfl := Option.some.inj hiv'
    exact ⟨hlen, plain, hdecrypt, hmem⟩

/-- For every frame, size and mode: all accesses stay inside the frame, and what is handed on has
been verified. -/
theorem unwrapRFrame_verified (mem : Mem) (size : Int32) (mode : SecurityMode) (crypto : Crypto)
    (expectedSI expectedType : UInt8) (session₀ : SessionHeader) :
    (unwrapRFrame ⟨mem, 0⟩ size expectedSI expectedType mode crypto session₀).All
      (Event.Safe size.toInt.toNat) ∧
    (0 ≤ (unwrapRFrame ⟨mem, 0⟩ size expectedSI expectedType mode crypto session₀).val.code →
      HandsOn mem size mode crypto expectedSI expectedType
        (unwrapRFrame ⟨mem, 0⟩ size expectedSI expectedType mode crypto session₀).val) := by
  have hspec := unwrapRFrame_spec ⟨mem, 0⟩ size mode crypto expectedSI expectedType session₀
  refine ⟨all_unwrapRFrame (Nat.zero_add _).le, fun hcode => ?_⟩
  by_cases hok : UnwrapOk ⟨mem, 0⟩ size mode crypto expectedSI expectedType
  · rw [hspec.ok hok]
    exact hok.handsOn
  · exact absurd (hspec.bad hok) (Int.not_lt.mpr hcode)

/-- The recorded session PDU in a datagram of 98 octets. -/
def sampleDatagram : Mem :=
  (Ptr.ofBytes (List.replicate 16 0 ++ [0, 98] ++ List.replicate 24 0 ++
    (aadBytes sampleParams (deriveIV 1 1) ++ (sampleCipher ++ (trailerHead ++ sampleTag))))).mem

theorem unwrapRFrame_verified_sample :
    (unwrapRFrame ⟨sampleDatagram, 0⟩ 112 SI_R_GOOSE PAYLOAD_TYPE_GOOSE .SEC_GCM sampleCrypto
      {}).val.code = 3 ∧
    HandsOn sampleDatagram 112 .SEC_GCM sampleCrypto SI_R_GOOSE PAYLOAD_TYPE_GOOSE
      (unwrapRFrame ⟨sampleDatagram, 0⟩ 112 SI_R_GOOSE PAYLOAD_TYPE_GOOSE .SEC_GCM sampleCrypto
        {}).val := by
  have hcode : (unwrapRFrame ⟨sampleDatagram, 0⟩ 112 SI_R_GOOSE PAYLOAD_TYPE_GOOSE .SEC_GCM
      sampleCrypto {}).val.code = 3 := by decide +kernel
  refine ⟨hcode, ?_⟩
  exact (unwrapRFrame_verified sampleDatagram 112 .SEC_GCM sampleCrypto SI_R_GOOSE
    PAYLOAD_TYPE_GOOSE {}).2 (by rw [hcode]; decide)

end Verified

end ProcessBus
