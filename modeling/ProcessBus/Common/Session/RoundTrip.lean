import ProcessBus.Common.Session.Layout

/-!
# Session decode undoes encode

`seal` replaces the IV and the payload elements or only appends a tag; what it leaves is again a
layout. `unseal` finds the bytes the backend was given, so that the laws of the backend apply,
and behind it the payload header and the APDU stand where `build` put them.
-/

namespace ProcessBus.RSess

variable {m : Mem} {buf : ℕ} {params : BuildParams} {crypto : Crypto} {iv apdu : List UInt8}

/-! ### Sealing -/

variable {tag : List UInt8}

/-- The first two octets of the trailer. -/
def trailerHead : List UInt8 := [SIGNATURE_TAG, UInt8.ofNat TAG_SIZE]

/-- A sealed frame. `tag` is what stood where the tag goes. -/
def sealedBytes (crypto : Crypto) (params : BuildParams) (iv apdu tag : List UInt8) :
    List UInt8 :=
  match params.mode with
  | .SEC_NONE => plainBytes params iv apdu
  | .SEC_HMAC =>
    plainBytes params iv apdu ++
      (trailerHead ++ (crypto.HMAC (plainBytes params iv apdu)).getD tag)
  | .SEC_GCM =>
    let iv := deriveIV params.keyId params.spduNumber
    let r := crypto.Encrypt iv (aadBytes params iv) (elemBytes params ++ apdu) tag
    aadBytes params iv ++ (r.2.1 ++ (trailerHead ++ r.2.2))

/-- Whether the backend seals it. -/
def sealOk (crypto : Crypto) (params : BuildParams) (iv apdu tag : List UInt8) : Bool :=
  match params.mode with
  | .SEC_NONE => true
  | .SEC_HMAC => (crypto.HMAC (plainBytes params iv apdu)).isSome
  | .SEC_GCM =>
    let iv := deriveIV params.keyId params.spduNumber
    (crypto.Encrypt iv (aadBytes params iv) (elemBytes params ++ apdu) tag).1

/-- The parts of a layout. -/
lemma holds_aadBytes {rest : List UInt8} (hiv : iv.length = (ivLength params.mode).toNat) :
    m.Holds buf (aadBytes params iv ++ rest) ↔
      m.Holds buf (headBytes params) ∧ m.Holds (buf + OFF_IV) iv ∧
      m.Holds (buf + payloadHdrOffset (ivLength params.mode)) (lengthBytes params) ∧
      m.Holds (buf + payloadHdrOffset (ivLength params.mode) + 4) rest := by
  simp only [aadBytes, Mem.holds_append, List.length_append, length_headBytes, hiv,
    length_lengthBytes, and_assoc]
  simp only [payloadHdrOffset, OFF_IV, SESSION_FIXED_SIZE, Nat.add_assoc]

section Seal

lemma length_plainBytes (hiv : iv.length = (ivLength params.mode).toNat)
    (hapdu : apdu.length = params.apduLength.toNat) : (plainBytes params iv apdu).length =
      payloadHdrOffset (ivLength params.mode) + 4 + params.payloadLength.toNat := by
  rw [plainBytes, List.length_append, length_aadBytes hiv, List.length_append, length_elemBytes,
    hapdu, params.toNat_payloadLength]

/-- With the head of the trailer the frame is ready for the backend. -/
lemma holds_trailerHead {bs : List UInt8} {a b : ℕ} (h : m.Holds a bs) (hb : b = a + bs.length) :
    (putU8 (putU8 m b SIGNATURE_TAG) (b + 1) (UInt8.ofNat TAG_SIZE)).Holds a
      (bs ++ trailerHead) := by
  have h2 := holds_putU8 (b := b + 1) (v := UInt8.ofNat TAG_SIZE)
    (holds_putU8 (v := SIGNATURE_TAG) h hb) (by simp [hb, Nat.add_assoc])
  rw [List.append_assoc] at h2
  exact h2

/-- And what stands behind it is still there. -/
lemma slice_trailerHead {a b n : ℕ} (h : b + 2 ≤ a) :
    (putU8 (putU8 m b SIGNATURE_TAG) (b + 1) (UInt8.ofNat TAG_SIZE)).slice a n = m.slice a n := by
  refine Mem.slice_congr fun i hi _ => ?_
  rw [putU8, putU8, Mem.write_of_ge (by simp; omega), Mem.write_of_ge (by simp; omega)]

lemma holds_seal_hmac (h : m.Holds buf (plainBytes params iv apdu)) {n : ℕ}
    (hn : n = (plainBytes params iv apdu).length) {r : Bool × Mem}
    (hr : r = match crypto.HMAC ((putU8 (putU8 m (buf + n) SIGNATURE_TAG) (buf + n + 1)
        (UInt8.ofNat TAG_SIZE)).slice buf n) with
      | none => (false, putU8 (putU8 m (buf + n) SIGNATURE_TAG) (buf + n + 1)
          (UInt8.ofNat TAG_SIZE))
      | some bytes => (true, (putU8 (putU8 m (buf + n) SIGNATURE_TAG) (buf + n + 1)
          (UInt8.ofNat TAG_SIZE)).write (buf + n + 2) bytes)) :
    r.1 = (crypto.HMAC (plainBytes params iv apdu)).isSome ∧
      r.2.Holds buf (plainBytes params iv apdu ++ (trailerHead ++
        (crypto.HMAC (plainBytes params iv apdu)).getD (m.slice (buf + n + 2) TAG_SIZE))) := by
  have hm := holds_trailerHead h (b := buf + n) (by rw [hn])
  have htag := slice_trailerHead (m := m) (n := TAG_SIZE)
    (show buf + n + 2 ≤ buf + n + 2 from le_rfl)
  generalize putU8 (putU8 m (buf + n) SIGNATURE_TAG) (buf + n + 1) (UInt8.ofNat TAG_SIZE) = m' at *
  have hplain : m'.slice buf n = plainBytes params iv apdu := by
    rw [hn]
    exact (Mem.holds_append.mp hm).1.slice_eq
  have hend : buf + n + 2 = buf + (plainBytes params iv apdu ++ trailerHead).length := by
    rw [List.length_append, hn]
    rfl
  rw [hplain] at hr
  rw [hr, ← List.append_assoc]
  cases crypto.HMAC (plainBytes params iv apdu) with
  | none =>
    refine ⟨rfl, Mem.holds_append.mpr ⟨hm, ?_⟩⟩
    rw [← hend, Option.getD_none, ← htag]
    exact Mem.holds_slice _ _ _
  | some bytes => exact ⟨rfl, hm.write_append hend _⟩

lemma holds_seal_gcm (h : m.Holds buf (plainBytes params iv apdu)) {n : ℕ}
    (hn : n = (plainBytes params iv apdu).length) (hmode : params.mode = .SEC_GCM)
    (hiv : iv.length = (ivLength params.mode).toNat)
    (hapdu : apdu.length = params.apduLength.toNat) {keyId spduNumber : UInt32}
    (hkey : keyId = params.keyId) (hspdu : spduNumber = params.spduNumber) :
    let m' := (putU8 (putU8 m (buf + n) SIGNATURE_TAG) (buf + n + 1)
      (UInt8.ofNat TAG_SIZE)).write (buf + OFF_IV) (deriveIV keyId spduNumber)
    let start := payloadHdrOffset (ivLength params.mode) + 4
    let r := crypto.Encrypt (m'.slice (buf + OFF_IV) (ivLength params.mode).toNat)
      (m'.slice buf start) (m'.slice (buf + start) params.payloadLength.toNat)
      (m'.slice (buf + n + 2) TAG_SIZE)
    r.1 = sealOk crypto params iv apdu (m.slice (buf + n + 2) TAG_SIZE) ∧
      ((m'.write (buf + start) r.2.1).write (buf + n + 2) r.2.2).Holds buf
        (sealedBytes crypto params iv apdu (m.slice (buf + n + 2) TAG_SIZE)) := by
  intro m' start r
  subst hkey hspdu
  have hivLen : (ivLength params.mode).toNat = 12 := by rw [hmode]; rfl
  have hiv' : (deriveIV params.keyId params.spduNumber).length = (ivLength params.mode).toNat := by
    rw [length_deriveIV, hmode]
    rfl
  -- the IV replaces the zeros in the header
  have hm' : m'.Holds buf (aadBytes params (deriveIV params.keyId params.spduNumber) ++
      ((elemBytes params ++ apdu) ++ trailerHead)) := by
    have hm := holds_trailerHead h (b := buf + n) (by rw [hn])
    simp only [plainBytes, aadBytes, List.append_assoc] at hm ⊢
    exact hm.write_mid (by rw [length_headBytes]; rfl) (hiv'.trans hiv.symm)
  obtain ⟨haad, hrest⟩ := Mem.holds_append.mp hm'
  obtain ⟨_, hivHolds, _⟩ := (holds_aadBytes hiv').mp hm'
  have haadLen := length_aadBytes hiv'
  have hdataLen : (elemBytes params ++ apdu).length = params.payloadLength.toNat := by
    rw [List.length_append, length_elemBytes, hapdu, params.toNat_payloadLength]
  have h1 : m'.slice (buf + OFF_IV) (ivLength params.mode).toNat =
      deriveIV params.keyId params.spduNumber := by
    rw [← hiv']
    exact hivHolds.slice_eq
  have h2 : m'.slice buf start = aadBytes params (deriveIV params.keyId params.spduNumber) := by
    show m'.slice buf (payloadHdrOffset (ivLength params.mode) + 4) = _
    rw [← haadLen]
    exact haad.slice_eq
  have h3 : m'.slice (buf + start) params.payloadLength.toNat = elemBytes params ++ apdu := by
    show m'.slice (buf + (payloadHdrOffset (ivLength params.mode) + 4)) _ = _
    rw [← haadLen, ← hdataLen]
    exact (Mem.holds_append.mp hrest).1.slice_eq
  have hplain := length_plainBytes hiv hapdu
  have h4 : m'.slice (buf + n + 2) TAG_SIZE = m.slice (buf + n + 2) TAG_SIZE := by
    rw [← slice_trailerHead (m := m) (b := buf + n) le_rfl]
    refine Mem.slice_congr fun i hi _ => Mem.write_of_ge ?_
    rw [length_deriveIV, OFF_IV, IV_LEN_GCM]
    simp only [payloadHdrOffset, SESSION_FIXED_SIZE, hivLen] at hplain
    show buf + 27 + 12 ≤ i
    omega
  have hr : r = crypto.Encrypt (deriveIV params.keyId params.spduNumber)
      (aadBytes params (deriveIV params.keyId params.spduNumber)) (elemBytes params ++ apdu)
      (m.slice (buf + n + 2) TAG_SIZE) := by
    show crypto.Encrypt _ _ _ _ = _
    rw [h1, h2, h3, h4]
  have hrlen : r.2.1.length = (elemBytes params ++ apdu).length := by
    rw [hr]
    exact (crypto.length_Encrypt _ _ _ _).1
  have hdata := hm'.write_mid (b := buf + start) (by rw [haadLen]) hrlen
  have hbase : buf + n + 2 = buf + (aadBytes params (deriveIV params.keyId params.spduNumber) ++
      (r.2.1 ++ trailerHead)).length := by
    rw [List.length_append, List.length_append, haadLen, hrlen, hdataLen, hn, hplain]
    show _ = _ + (_ + (_ + 2))
    omega
  have hseal : sealedBytes crypto params iv apdu (m.slice (buf + n + 2) TAG_SIZE) =
      aadBytes params (deriveIV params.keyId params.spduNumber) ++
        (r.2.1 ++ trailerHead) ++ r.2.2 := by
    rw [hr]
    simp only [sealedBytes, hmode, List.append_assoc]
  rw [hseal]
  refine ⟨?_, hdata.write_append hbase _⟩
  rw [hr]
  simp only [sealOk, hmode]

variable (crypto) in
/-- `seal` leaves a sealed frame, and returns what the backend returned. -/
lemma sealFrame_spec (h : m.Holds buf (plainBytes params iv apdu))
    (hiv : iv.length = (ivLength params.mode).toNat)
    (hapdu : apdu.length = params.apduLength.toNat) :
    (sealFrame m buf params.mode crypto).1 = sealOk crypto params iv apdu
        (m.slice (buf + (plainBytes params iv apdu).length + 2) TAG_SIZE) ∧
      (sealFrame m buf params.mode crypto).2.Holds buf (sealedBytes crypto params iv apdu
        (m.slice (buf + (plainBytes params iv apdu).length + 2) TAG_SIZE)) := by
  have hlen := length_plainBytes hiv hapdu
  obtain ⟨hhead, _, hlength, _⟩ := (holds_aadBytes hiv).mp h
  have hivLen : m (buf + OFF_IV_LENGTH) = ivLength params.mode := ivLengthAt_of_holds hhead
  have hpayload : beNat (m.slice (buf + payloadHdrOffset (ivLength params.mode)) 4) =
      params.payloadLength.toNat := beNat_of_holds hlength params.payloadLength.toNat_lt
  unfold sealFrame
  by_cases hnone : params.mode = .SEC_NONE
  · rw [if_pos hnone, sealedBytes, sealOk, hnone]
    exact ⟨rfl, h⟩
  rw [if_neg hnone]
  simp only [hivLen, hpayload, ← hlen]
  by_cases hhmac : params.mode = .SEC_HMAC
  · rw [if_pos hhmac, sealedBytes, sealOk, hhmac]
    exact holds_seal_hmac h rfl rfl
  · have hgcm : params.mode = .SEC_GCM := by
      cases hmode : params.mode <;> simp_all
    rw [if_neg hhmac]
    have hm := holds_trailerHead h rfl
    rw [plainBytes, List.append_assoc] at hm
    obtain ⟨_, _, hspdu, _, _, _, hkey, _⟩ :=
      holds_headBytes.mp ((holds_aadBytes hiv).mp hm).1
    exact holds_seal_gcm h rfl hgcm hiv hapdu (ofNat_of_holds hkey) (ofNat_of_holds hspdu)

variable (crypto) in
lemma holds_sealFrame (h : m.Holds buf (plainBytes params iv apdu))
    (hiv : iv.length = (ivLength params.mode).toNat)
    (hapdu : apdu.length = params.apduLength.toNat) :
    (sealFrame m buf params.mode crypto).2.Holds buf (sealedBytes crypto params iv apdu
      (m.slice (buf + (plainBytes params iv apdu).length + 2) TAG_SIZE)) :=
  (sealFrame_spec crypto h hiv hapdu).2

variable (crypto iv apdu tag) in
/-- Without encryption the frame is in front of the trailer as it was. -/
lemma sealedBytes_of_ne_gcm (h : params.mode ≠ .SEC_GCM) :
    ∃ rest, sealedBytes crypto params iv apdu tag = plainBytes params iv apdu ++ rest := by
  unfold sealedBytes
  cases hmode : params.mode with
  | SEC_NONE => exact ⟨[], (List.append_nil _).symm⟩
  | SEC_HMAC => exact ⟨_, rfl⟩
  | SEC_GCM => exact absurd hmode h

/-- A sealed frame still starts with the header and the payload length. -/
lemma holds_sealedBytes (h : m.Holds buf (sealedBytes crypto params iv apdu tag))
    (hiv : iv.length = (ivLength params.mode).toNat) :
    m.Holds buf (headBytes params) ∧
      m.Holds (buf + payloadHdrOffset (ivLength params.mode)) (lengthBytes params) := by
  by_cases hgcm : params.mode = .SEC_GCM
  · have hiv' : (deriveIV params.keyId params.spduNumber).length =
        (ivLength params.mode).toNat := by
      rw [length_deriveIV, hgcm]
      rfl
    simp only [sealedBytes, hgcm] at h
    obtain ⟨hhead, _, hlength, _⟩ := (holds_aadBytes hiv').mp h
    exact ⟨hhead, hlength⟩
  · obtain ⟨rest, hrest⟩ := sealedBytes_of_ne_gcm crypto iv apdu tag hgcm
    rw [hrest] at h
    obtain ⟨hhead, _, hlength, _⟩ := (holds_aadBytes hiv).mp (Mem.holds_append.mp h).1
    exact ⟨hhead, hlength⟩

variable (crypto) in
lemma length_sealedBytes (hiv : iv.length = (ivLength params.mode).toNat)
    (hapdu : apdu.length = params.apduLength.toNat) (htag : tag.length = TAG_SIZE) :
    (sealedBytes crypto params iv apdu tag).length = udpPayloadSize params.mode apdu.length := by
  have hplain := length_plainBytes hiv hapdu
  have hlen := params.toNat_payloadLength
  have hhead : trailerHead.length = 2 := rfl
  unfold sealedBytes
  simp only [PAYLOAD_ELEM_SIZE] at hlen
  simp only [udpPayloadSize, apduOffset, trailerSize, TRAILER_SIZE, PAYLOAD_HDR_SIZE]
  cases hmode : params.mode with
  | SEC_NONE =>
    rw [hmode] at hplain
    rw [if_pos rfl]
    show (plainBytes params iv apdu).length = _
    omega
  | SEC_HMAC =>
    have hget : ((crypto.HMAC (plainBytes params iv apdu)).getD tag).length = TAG_SIZE := by
      cases ht : crypto.HMAC (plainBytes params iv apdu) with
      | none => exact htag
      | some t => exact crypto.length_HMAC ht
    rw [hmode] at hplain
    rw [if_neg (by simp), List.length_append, List.length_append, hget]
    omega
  | SEC_GCM =>
    have hiv' : (deriveIV params.keyId params.spduNumber).length =
        (ivLength params.mode).toNat := by
      rw [length_deriveIV, hmode]
      rfl
    have haad := length_aadBytes hiv'
    obtain ⟨hc, ht⟩ := crypto.length_Encrypt (deriveIV params.keyId params.spduNumber)
      (aadBytes params (deriveIV params.keyId params.spduNumber)) (elemBytes params ++ apdu) tag
    rw [List.length_append, length_elemBytes, PAYLOAD_ELEM_SIZE] at hc
    rw [hmode] at haad
    rw [if_neg (by simp)]
    simp only [List.length_append, haad, hc, ht, htag]
    omega

end Seal

/-! ### Unsealing -/

/-- What is assumed of a backend: HMAC succeeds, and decryption undoes encryption. -/
structure Crypto.Lawful (crypto : Crypto) : Prop where
  hmac_succeeds : ∀ data, (crypto.HMAC data).isSome
  decrypt_encrypt : ∀ iv aad data tag, iv.length = IV_LEN_GCM.toNat → tag.length = TAG_SIZE →
    crypto.Decrypt iv aad (crypto.Encrypt iv aad data tag).2.1
      (crypto.Encrypt iv aad data tag).2.2 = (true, data)

lemma tagDiff_self (tag : List UInt8) : tagDiff tag tag = 0 := by
  unfold tagDiff
  induction tag with
  | nil => rfl
  | cons x tag ih =>
    rw [List.zip_cons_cons, List.foldl_cons, UInt8.xor_self, UInt8.or_self]
    exact ih

section Unseal

variable {size : ℕ}

/-- The trailer of a frame and the tag in it. -/
lemma holds_trailer {bs t : List UInt8} (h : m.Holds buf (bs ++ (trailerHead ++ t))) :
    m (buf + bs.length) = SIGNATURE_TAG ∧ m (buf + (bs.length + 1)) = UInt8.ofNat TAG_SIZE ∧
      m.Holds (buf + bs.length + 2) t := by
  obtain ⟨_, htrailer⟩ := Mem.holds_append.mp h
  obtain ⟨hhead, ht⟩ := Mem.holds_append.mp htrailer
  obtain ⟨hsig, hrest⟩ := Mem.holds_cons.mp hhead
  obtain ⟨hsize, _⟩ := Mem.holds_cons.mp hrest
  exact ⟨hsig, hsize, ht⟩

variable (hapdu : apdu.length = params.apduLength.toNat)
  (hsize : udpPayloadSize params.mode apdu.length ≤ size)

include hapdu hsize in
/-- The trailer fits. -/
lemma payloadEnd_le (hmode : params.mode ≠ .SEC_NONE) :
    payloadEndOf (sessionOf params buf) + 18 ≤ size := by
  have hlen := params.toNat_payloadLength
  have hend : payloadEndOf (sessionOf params buf) =
    payloadHdrOffset (ivLength params.mode) + 4 + params.payloadLength.toNat := rfl
  simp only [udpPayloadSize, apduOffset, trailerSize, if_neg hmode, TRAILER_SIZE, TAG_SIZE,
    PAYLOAD_HDR_SIZE] at hsize
  simp only [PAYLOAD_ELEM_SIZE] at hlen
  omega

include hapdu hsize in
/-- HMAC: the receiver computes the tag over the same bytes. -/
lemma unsealFrame_hmac (hlaw : crypto.Lawful) (hmode : params.mode = .SEC_HMAC)
    (h : m.Holds buf (sealedBytes crypto params iv apdu tag))
    (hiv : iv.length = (ivLength params.mode).toNat) :
    (unsealFrame ⟨m, buf⟩ size params.mode (sessionOf params buf) crypto).val = (true, m) := by
  obtain ⟨t, ht⟩ := Option.isSome_iff_exists.mp (hlaw.hmac_succeeds (plainBytes params iv apdu))
  have hend : payloadEndOf (sessionOf params buf) = (plainBytes params iv apdu).length :=
    (length_plainBytes hiv hapdu).symm
  simp only [sealedBytes, hmode, ht, Option.getD_some] at h
  obtain ⟨hsig, _, htag⟩ := holds_trailer h
  have hplain : m.slice buf (plainBytes params iv apdu).length = plainBytes params iv apdu :=
    (Mem.holds_append.mp h).1.slice_eq
  have hslice : m.slice (buf + (plainBytes params iv apdu).length + 2) TAG_SIZE = t := by
    rw [← crypto.length_HMAC ht]
    exact htag.slice_eq
  have hne : params.mode ≠ .SEC_NONE := by simp [hmode]
  rw [val_unsealFrame hne (payloadEnd_le hapdu hsize hne) (by rw [hend]; exact hsig),
    if_pos hmode, hend]
  simp only [Crypto.verifyHMAC, Traced.val_bind, hplain, ht, Ptr.off_add, Ptr.mem_add,
    ← Nat.add_assoc, hslice, tagDiff_self, decide_true, Traced.val_pure]

include hapdu hsize in
/-- GCM: the receiver decrypts what was encrypted. -/
lemma unsealFrame_gcm (hlaw : crypto.Lawful) (hmode : params.mode = .SEC_GCM)
    (h : m.Holds buf (sealedBytes crypto params iv apdu tag)) (htag : tag.length = TAG_SIZE) :
    (unsealFrame ⟨m, buf⟩ size params.mode (sessionOf params buf) crypto).val =
      (true, m.write (buf + (payloadHdrOffset (ivLength params.mode) + 4))
        (elemBytes params ++ apdu)) := by
  have hne : params.mode ≠ .SEC_NONE := by simp [hmode]
  have hnh : params.mode ≠ .SEC_HMAC := by simp [hmode]
  have hivLen : ivLength params.mode = IV_LEN_GCM := by rw [hmode]; rfl
  have hiv' : (deriveIV params.keyId params.spduNumber).length = (ivLength params.mode).toNat := by
    rw [length_deriveIV, hivLen]
  have haadLen := length_aadBytes hiv'
  have hdataLen : (elemBytes params ++ apdu).length = params.payloadLength.toNat := by
    rw [List.length_append, length_elemBytes, hapdu, params.toNat_payloadLength]
  simp only [sealedBytes, hmode] at h
  have hlaw' := hlaw.decrypt_encrypt (deriveIV params.keyId params.spduNumber)
    (aadBytes params (deriveIV params.keyId params.spduNumber)) (elemBytes params ++ apdu) tag
    (length_deriveIV _ _) htag
  obtain ⟨hclen, htlen⟩ := crypto.length_Encrypt (deriveIV params.keyId params.spduNumber)
    (aadBytes params (deriveIV params.keyId params.spduNumber)) (elemBytes params ++ apdu) tag
  generalize crypto.Encrypt (deriveIV params.keyId params.spduNumber)
    (aadBytes params (deriveIV params.keyId params.spduNumber)) (elemBytes params ++ apdu) tag = r
    at h hlaw' hclen htlen
  obtain ⟨haad, hrest⟩ := Mem.holds_append.mp h
  obtain ⟨hdata, _⟩ := Mem.holds_append.mp hrest
  obtain ⟨_, hivHolds, _⟩ := (holds_aadBytes hiv').mp h
  rw [← List.append_assoc] at h
  obtain ⟨hsig, hsz, htg⟩ := holds_trailer h
  have hend : (aadBytes params (deriveIV params.keyId params.spduNumber) ++ r.2.1).length =
      payloadEndOf (sessionOf params buf) := by
    rw [List.length_append, haadLen, hclen, hdataLen]
    rfl
  rw [hend] at hsig hsz htg
  have h1 : m.slice (buf + OFF_IV) (ivLength params.mode).toNat =
      deriveIV params.keyId params.spduNumber := by
    rw [← hiv']
    exact hivHolds.slice_eq
  have h2 : m.slice buf (payloadHdrOffset (ivLength params.mode) + 4) =
      aadBytes params (deriveIV params.keyId params.spduNumber) := by
    rw [← haadLen]
    exact haad.slice_eq
  have h3 : m.slice (buf + (payloadHdrOffset (ivLength params.mode) + 4))
      params.payloadLength.toNat = r.2.1 := by
    rw [← haadLen, ← hdataLen, ← hclen]
    exact hdata.slice_eq
  have h4 : m.slice (buf + payloadEndOf (sessionOf params buf) + 2)
      (m (buf + (payloadEndOf (sessionOf params buf) + 1))).toNat = r.2.2 := by
    rw [hsz, show (UInt8.ofNat TAG_SIZE).toNat = TAG_SIZE from rfl, ← htag, ← htlen]
    exact htg.slice_eq
  have hsome : (sessionOf params buf).iv = some (buf + OFF_IV) := if_pos (by rw [hivLen]; decide)
  have hivOf : (sessionOf params buf).ivLength = ivLength params.mode := rfl
  have hlenOf : (sessionOf params buf).payloadLength = params.payloadLength := rfl
  rw [val_unsealFrame hne (payloadEnd_le hapdu hsize hne) hsig, if_neg hnh, hsome]
  simp only [hivOf, hlenOf]
  rw [if_neg (not_not.mpr hivLen), if_neg (by rw [hsz]; decide), h1, h2, h3, h4, hlaw']

/-- The receiver verifies what `seal` wrote, and behind it the payload is plaintext. -/
theorem unsealFrame_sealed (hlaw : crypto.Lawful)
    (h : m.Holds buf (sealedBytes crypto params iv apdu tag))
    (hiv : iv.length = (ivLength params.mode).toNat)
    (hapdu : apdu.length = params.apduLength.toNat) (htag : tag.length = TAG_SIZE)
    (hsize : udpPayloadSize params.mode apdu.length ≤ size) :
    ∃ m', (unsealFrame ⟨m, buf⟩ size params.mode (sessionOf params buf) crypto).val = (true, m') ∧
      m'.Holds (buf + payloadHdrOffset (ivLength params.mode) + 4) (elemBytes params ++ apdu) ∧
      ∀ i < buf + payloadHdrOffset (ivLength params.mode) + 4, m' i = m i := by
  by_cases hgcm : params.mode = .SEC_GCM
  · refine ⟨_, unsealFrame_gcm hapdu hsize hlaw hgcm h htag, ?_, fun i hi => ?_⟩
    · rw [← Nat.add_assoc]
      exact Mem.holds_write _ _ _
    · exact Mem.write_of_lt (by omega)
  · refine ⟨m, ?_, ?_, fun _ _ => rfl⟩
    · by_cases hnone : params.mode = .SEC_NONE
      · simp [unsealFrame, hnone]
      · have hhmac : params.mode = .SEC_HMAC := by cases hmode : params.mode <;> simp_all
        exact unsealFrame_hmac hapdu hsize hlaw hhmac h hiv
    · obtain ⟨rest, hrest⟩ := sealedBytes_of_ne_gcm crypto iv apdu tag hgcm
      rw [hrest] at h
      exact ((holds_aadBytes hiv).mp (Mem.holds_append.mp h).1).2.2.2

/-- What the receiver finds in memory that holds a sealed frame. -/
structure Received (m : Mem) (buf size : ℕ) (params : BuildParams) (apdu : List UInt8)
    (crypto : Crypto) (m' : Mem) : Prop where
  session_ok : SessionOk ⟨m, buf⟩ size
  session_eq : sessionAt ⟨m, buf⟩ = sessionOf params buf
  unseal_eq :
    (unsealFrame ⟨m, buf⟩ size params.mode (sessionOf params buf) crypto).val = (true, m')
  payload_ok : PayloadOk ⟨m', buf⟩ size (sessionOf params buf)
  payload_eq : payloadAt ⟨m', buf⟩ (sessionOf params buf) = payloadOf params
  apdu_holds : m'.Holds (buf + apduOffset (ivLength params.mode)) apdu
  frame : ∀ i < buf, m' i = m i

theorem received_of_holds (hlaw : crypto.Lawful)
    (h : m.Holds buf (sealedBytes crypto params iv apdu tag))
    (hiv : iv.length = (ivLength params.mode).toNat)
    (hapdu : apdu.length = params.apduLength.toNat) (htag : tag.length = TAG_SIZE)
    (hsize : udpPayloadSize params.mode apdu.length ≤ size)
    (hsi : params.si = SI_R_GOOSE ∨ params.si = SI_R_SV)
    (htype : params.payloadType = PAYLOAD_TYPE_GOOSE ∨ params.payloadType = PAYLOAD_TYPE_SV) :
    ∃ m', Received m buf size params apdu crypto m' := by
  obtain ⟨hhead, hlength⟩ := holds_sealedBytes h hiv
  obtain ⟨m', hunseal, hpayload, hframe⟩ := unsealFrame_sealed hlaw h hiv hapdu htag hsize
  obtain ⟨helem, hdata⟩ := Mem.holds_append.mp hpayload
  have hpeq := payloadAt_of_holds helem
  have hfits : apduOffset (ivLength params.mode) + params.apduLength.toNat ≤ size := by
    unfold udpPayloadSize at hsize
    omega
  refine ⟨m', sessionOk_of_holds hhead hlength hsi hfits, sessionAt_of_holds hhead hlength,
    hunseal, ⟨(Nat.le_add_right _ _).trans hfits, ?_⟩, hpeq, ?_, fun i hi => hframe i (by omega)⟩
  · rw [hpeq]
    exact htype
  · rw [length_elemBytes] at hdata
    exact hdata

end Unseal

/-- The APDU behind the envelope. -/
lemma holds_built (m : Mem) (buf : ℕ) (params : BuildParams) (apdu : List UInt8) :
    ((build m buf params).1.write (buf + (build m buf params).2) apdu).Holds buf
      (plainBytes params (List.replicate (ivLength params.mode).toNat 0) apdu) := by
  rw [plainBytes, ← List.append_assoc]
  refine (holds_build m buf params).write_append ?_ _
  rw [List.length_append, length_aadBytes List.length_replicate, length_elemBytes]
  rfl

/-- Decode undoes encode: whatever the mode, the fields, the APDU and the bytes behind the frame,
a frame that was built and sealed is parsed, verified and decrypted to what went in. -/
theorem session_roundtrip (crypto : Crypto) (hlaw : crypto.Lawful) (m : Mem) (buf : ℕ)
    (params : BuildParams) (hsi : params.si = 0xA1 ∨ params.si = 0xA2)
    (htype : params.payloadType = 0x81 ∨ params.payloadType = 0x82) (apdu : List UInt8)
    (hapdu : apdu.length = params.apduLength.toNat) (trailing : List UInt8)
    (session₀ : SessionHeader) (payload₀ : PayloadHeader) :
    let built := build m buf params
    let sealed := (sealFrame (built.1.write (buf + built.2) apdu) buf params.mode crypto).2
    let udpSize := udpPayloadSize params.mode apdu.length
    let frame : Ptr := ⟨sealed.write (buf + udpSize) trailing, buf⟩
    let size := udpSize + trailing.length
    ∃ (phOff : ℕ) (session : SessionHeader) (decrypted : Mem) (payload : PayloadHeader),
      ((parseSession frame size session₀).val = (↑phOff, session) ∧
        session.si = params.si ∧ session.version = 2 ∧ session.spduNumber = params.spduNumber ∧
        session.keyId = params.keyId ∧ session.ivLength = ivLength params.mode ∧
        session.payloadLength.toNat = 6 + apdu.length) ∧
      (unsealFrame frame size params.mode session crypto).val = (true, decrypted) ∧
      ((parsePayload ⟨decrypted, buf⟩ size session payload₀).val = (↑built.2, payload) ∧
        payload.payloadType = params.payloadType ∧
        payload.simulation = (if params.simulation then 1 else 0) ∧
        payload.appid = params.appid ∧ payload.apduSize.toNat = apdu.length) ∧
      decrypted.slice (buf + built.2) apdu.length = apdu := by
  intro built sealed udpSize frame size
  have hiv : (List.replicate (ivLength params.mode).toNat (0 : UInt8)).length =
      (ivLength params.mode).toNat := List.length_replicate
  have hplain := holds_built m buf params apdu
  have hsealed := holds_sealFrame crypto hplain hiv hapdu
  have htag := Mem.length_slice (built.1.write (buf + built.2) apdu) (buf + (plainBytes params
    (List.replicate (ivLength params.mode).toNat 0) apdu).length + 2) TAG_SIZE
  have hlen := length_sealedBytes crypto hiv hapdu htag
  have hframe : frame.mem.Holds buf (sealedBytes crypto params _ apdu _) :=
    hsealed.write (.inl (by rw [hlen]))
  obtain ⟨m', hrec⟩ := received_of_holds hlaw hframe hiv hapdu htag (Nat.le_add_right _ _) hsi htype
  have hsession := (parseSession_spec frame size session₀).ok hrec.session_ok
  have hpayloadLen : (sessionOf params buf).payloadLength.toNat =
      PAYLOAD_ELEM_SIZE + params.apduLength.toNat := params.toNat_payloadLength
  have hpayload := (parsePayload_spec ⟨m', buf⟩ size (sessionOf params buf) payload₀
    (by rw [hpayloadLen]; exact Nat.le_add_right _ _)).ok hrec.payload_ok
  have hsession_eq : sessionAt frame = sessionOf params buf := hrec.session_eq
  rw [hsession_eq] at hsession
  rw [hrec.payload_eq] at hpayload
  refine ⟨_, _, m', _, ⟨hsession, rfl, rfl, rfl, rfl, rfl, ?_⟩, hrec.unseal_eq,
    ⟨hpayload, rfl, rfl, rfl, ?_⟩, ?_⟩
  · rw [hpayloadLen, hapdu]
    rfl
  · rw [hapdu]
    exact UInt16.toNat_toUInt32 _
  · exact hrec.apdu_holds.slice_eq

/-! One exchange with a real backend, for the lab key: the first frame of a stream that carries
three octets. -/

def sampleParams : BuildParams where
  mode := .SEC_GCM
  spduNumber := 1
  appid := 1
  apduLength := 3

def sampleApdu : List UInt8 := [0x61, 0x01, 0x00]

def sampleCipher : List UInt8 := [0xB5, 0x60, 0xBD, 0xF6, 0x03, 0xE1, 0x0C, 0x4E, 0x89]

def sampleTag : List UInt8 :=
  [0x89, 0x14, 0x20, 0x51, 0x8E, 0xCA, 0x2A, 0x2F, 0xFC, 0xEA, 0xC0, 0x7A, 0x56, 0xA3, 0x17, 0x2F]

/-- The tag of the same frame in mode `SEC_HMAC`. -/
def sampleHMAC : List UInt8 :=
  [0x8E, 0x3B, 0x30, 0xE5, 0x5D, 0xFF, 0x84, 0xDA, 0x40, 0xA8, 0x5F, 0x33, 0x17, 0x70, 0xEE, 0x35]

/-- The arguments of the recorded call. -/
def IsSample (iv aad : List UInt8) : Prop :=
  iv = deriveIV 1 1 ∧ aad = aadBytes sampleParams (deriveIV 1 1)

instance (iv aad : List UInt8) : Decidable (IsSample iv aad) := inferInstanceAs (Decidable (_ ∧ _))

/-- A backend that answers the recorded call as AES-128-GCM does. Any other frame is left in
plaintext with a zero tag. -/
def sampleCrypto : Crypto where
  HMAC _ := some sampleHMAC
  Encrypt iv aad data tag :=
    if IsSample iv aad ∧ data = elemBytes sampleParams ++ sampleApdu ∧ tag.length = TAG_SIZE then
      (true, sampleCipher, sampleTag)
    else (true, data, List.replicate tag.length 0)
  Decrypt iv aad data tag :=
    if IsSample iv aad ∧ data = sampleCipher ∧ tag = sampleTag then
      (true, elemBytes sampleParams ++ sampleApdu)
    else (tag = List.replicate tag.length 0, data)
  length_HMAC h := by cases h; rfl
  length_Encrypt iv aad data tag := by
    split_ifs with h
    · exact ⟨by rw [h.2.1]; decide, by rw [h.2.2]; decide⟩
    · simp
  length_Decrypt iv aad data tag := by
    split_ifs with h
    · rw [h.2.1]
      decide
    · rfl

lemma lawful_sampleCrypto : sampleCrypto.Lawful where
  hmac_succeeds _ := rfl
  decrypt_encrypt iv aad data tag _ htag := by
    have hne : List.replicate TAG_SIZE 0 ≠ sampleTag := by decide
    by_cases h : IsSample iv aad ∧ data = elemBytes sampleParams ++ sampleApdu
    · obtain ⟨hs, rfl⟩ := h
      simp [sampleCrypto, hs, htag]
    · have h' : ¬ (IsSample iv aad ∧ data = elemBytes sampleParams ++ sampleApdu ∧
          tag.length = TAG_SIZE) := fun hx => h ⟨hx.1, hx.2.1⟩
      have henc : sampleCrypto.Encrypt iv aad data tag =
          (true, data, List.replicate tag.length 0) := if_neg h'
      rw [henc, htag]
      refine (if_neg fun hx => hne hx.2.2).trans ?_
      simp

/-- The recorded frame, with two octets of padding. -/
def sampleFrame : Ptr :=
  ⟨(sealFrame ((build (fun _ => 0) 0 sampleParams).1.write 49 sampleApdu) 0 .SEC_GCM
    sampleCrypto).2.write 70 [0, 0], 0⟩

theorem session_roundtrip_sampleFrame :
    sampleCrypto.Lawful ∧ ∃ (phOff : ℕ) (session : SessionHeader) (decrypted : Mem),
      (parseSession sampleFrame 72 {}).val = (↑phOff, session) ∧
      (unsealFrame sampleFrame 72 .SEC_GCM session sampleCrypto).val = (true, decrypted) ∧
      decrypted.slice 49 3 = sampleApdu := by
  refine ⟨lawful_sampleCrypto, ?_⟩
  obtain ⟨phOff, session, decrypted, payload, ⟨hparse, _⟩, hunseal, _, hslice⟩ :=
    session_roundtrip sampleCrypto lawful_sampleCrypto (fun _ => 0) 0 sampleParams (.inl rfl)
      (.inl rfl) sampleApdu rfl [0, 0] {} {}
  exact ⟨phOff, session, decrypted, hparse, hunseal, hslice⟩

end ProcessBus.RSess
