import ProcessBus.Common.Session.Readers

/-!
# The layout of a session PDU

A frame is described by the bytes that stand in it: the fixed header, the IV, the payload length,
and the payload elements. `build` lays them out, and the readers are computed on the layout. All
offsets shift with the length of the IV, which the layout carries along.
-/

namespace ProcessBus.RSess

variable {m : Mem} {buf : ℕ} {params : BuildParams} {crypto : Crypto} {iv apdu : List UInt8}

/-! ### The layout of a frame -/

/-- `PayloadLength`: the elements without the trailer. -/
def BuildParams.payloadLength (params : BuildParams) : UInt32 :=
  UInt32.ofNat PAYLOAD_ELEM_SIZE + params.apduLength.toUInt32

/-- The fixed header, from the CLTP byte through the IV length. -/
def headBytes (params : BuildParams) : List UInt8 :=
  [CLTP_LI, CLTP_UD, params.si, SESSION_HDR_LI, PI_COMMON_HDR, COMMON_HDR_LI2] ++
    beBytes 4 (20 + params.payloadLength).toNat ++ beBytes 4 params.spduNumber.toNat ++
    beBytes 2 SESSION_VERSION.toNat ++ beBytes 4 0 ++ beBytes 2 0 ++
    beBytes 4 params.keyId.toNat ++ [ivLength params.mode]

/-- The payload length. -/
def lengthBytes (params : BuildParams) : List UInt8 := beBytes 4 params.payloadLength.toNat

/-- The payload header behind it. -/
def elemBytes (params : BuildParams) : List UInt8 :=
  [params.payloadType, if params.simulation then 1 else 0] ++ beBytes 2 params.appid.toNat ++
    beBytes 2 params.apduLength.toNat

/-- What is authenticated but not encrypted. -/
def aadBytes (params : BuildParams) (iv : List UInt8) : List UInt8 :=
  headBytes params ++ iv ++ lengthBytes params

/-- A frame before it is sealed. -/
def plainBytes (params : BuildParams) (iv apdu : List UInt8) : List UInt8 :=
  aadBytes params iv ++ (elemBytes params ++ apdu)

lemma BuildParams.toNat_payloadLength (params : BuildParams) :
    params.payloadLength.toNat = PAYLOAD_ELEM_SIZE + params.apduLength.toNat := by
  have := params.apduLength.toNat_lt
  rw [payloadLength, UInt32.toNat_add, UInt16.toNat_toUInt32, PAYLOAD_ELEM_SIZE,
    UInt32.toNat_ofNat']
  omega

@[simp] lemma length_headBytes (params : BuildParams) :
    (headBytes params).length = SESSION_FIXED_SIZE := by
  simp [headBytes, SESSION_FIXED_SIZE]

@[simp] lemma length_lengthBytes (params : BuildParams) : (lengthBytes params).length = 4 := by
  simp [lengthBytes]

@[simp] lemma length_elemBytes (params : BuildParams) :
    (elemBytes params).length = PAYLOAD_ELEM_SIZE := by
  simp [elemBytes, PAYLOAD_ELEM_SIZE]

lemma length_aadBytes (hiv : iv.length = (ivLength params.mode).toNat) :
    (aadBytes params iv).length = payloadHdrOffset (ivLength params.mode) + 4 := by
  simp [aadBytes, payloadHdrOffset, hiv, Nat.add_assoc]

/-! ### What `build` writes -/

lemma holds_putU8 {bs : List UInt8} {a b : ℕ} {v : UInt8} (h : m.Holds a bs)
    (hb : b = a + bs.length) : (putU8 m b v).Holds a (bs ++ [v]) :=
  h.write_append hb _

lemma holds_putU16 {bs : List UInt8} {a b : ℕ} {v : UInt16} (h : m.Holds a bs)
    (hb : b = a + bs.length) : (putU16 m b v).Holds a (bs ++ beBytes 2 v.toNat) :=
  h.write_append hb _

lemma holds_putU32 {bs : List UInt8} {a b : ℕ} {v : UInt32} (h : m.Holds a bs)
    (hb : b = a + bs.length) : (putU32 m b v).Holds a (bs ++ beBytes 4 v.toNat) :=
  h.write_append hb _

/-- The first part of `build`: the fixed header. -/
lemma holds_buildHead (m : Mem) (buf : ℕ) (params : BuildParams) :
    (putU8 (putU32 (putU16 (putU32 (putU16 (putU32 (putU32 (putU8 (putU8 (putU8 (putU8 (putU8
      (putU8 m (buf + OFF_CLTP_LI) CLTP_LI) (buf + OFF_CLTP_UD) CLTP_UD)
      (buf + OFF_SI) params.si) (buf + OFF_SESSION_LI) SESSION_HDR_LI)
      (buf + OFF_PI) PI_COMMON_HDR) (buf + OFF_LI2) COMMON_HDR_LI2)
      (buf + OFF_SPDU_LENGTH) (20 + params.payloadLength))
      (buf + OFF_SPDU_NUMBER) params.spduNumber) (buf + OFF_VERSION) SESSION_VERSION)
      (buf + OFF_TIME_CUR_KEY) 0) (buf + OFF_TIME_NEXT_KEY) 0) (buf + OFF_KEY_ID) params.keyId)
      (buf + OFF_IV_LENGTH) (ivLength params.mode)).Holds buf (headBytes params) := by
  have h1 := holds_putU8 (v := CLTP_LI) (Mem.holds_nil (m := m) (a := buf)) rfl
  have h2 := holds_putU8 (v := CLTP_UD) h1 rfl
  have h3 := holds_putU8 (v := params.si) h2 rfl
  have h4 := holds_putU8 (v := SESSION_HDR_LI) h3 rfl
  have h5 := holds_putU8 (v := PI_COMMON_HDR) h4 rfl
  have h6 := holds_putU8 (v := COMMON_HDR_LI2) h5 rfl
  have h7 := holds_putU32 (v := 20 + params.payloadLength) h6 rfl
  have h8 := holds_putU32 (v := params.spduNumber) h7 rfl
  have h9 := holds_putU16 (v := SESSION_VERSION) h8 rfl
  have h10 := holds_putU32 (v := 0) h9 rfl
  have h11 := holds_putU16 (v := 0) h10 rfl
  have h12 := holds_putU32 (v := params.keyId) h11 rfl
  have h13 := holds_putU8 (v := ivLength params.mode) h12 rfl
  exact h13

/-- The IV is zero until the frame is sealed. -/
lemma holds_zeroIV {bs : List UInt8} (ivLen : UInt8) (h : m.Holds buf bs)
    (hlen : bs.length = SESSION_FIXED_SIZE) :
    (if ivLen > 0 then m.write (buf + OFF_IV) (List.replicate ivLen.toNat 0) else m).Holds buf
      (bs ++ List.replicate ivLen.toNat 0) := by
  split_ifs with hiv
  · exact h.write_append (by rw [hlen]; rfl) _
  · have hzero : ivLen.toNat = 0 := by
      have : ¬ 0 < ivLen.toNat := hiv
      omega
    rw [hzero, List.replicate_zero, List.append_nil]
    exact h

/-- `build` lays out the header with a zero IV. -/
lemma holds_build (m : Mem) (buf : ℕ) (params : BuildParams) :
    (build m buf params).1.Holds buf
      (aadBytes params (List.replicate (ivLength params.mode).toNat 0) ++ elemBytes params) := by
  have hiv := holds_zeroIV (ivLength params.mode) (holds_buildHead m buf params)
    (length_headBytes params)
  have hlen : (headBytes params ++ List.replicate (ivLength params.mode).toNat 0).length =
      payloadHdrOffset (ivLength params.mode) := by simp [payloadHdrOffset]
  generalize hphdr : buf + payloadHdrOffset (ivLength params.mode) = phdr
  have h1 := holds_putU32 (b := phdr) (v := params.payloadLength) hiv (by rw [hlen, hphdr])
  rw [← hlen] at hphdr
  have h2 := holds_putU8 (b := phdr + 4) (v := params.payloadType) h1
    (by simp only [List.length_append, length_beBytes] at hphdr ⊢; omega)
  have h3 := holds_putU8 (b := phdr + 5) (v := if params.simulation then 1 else 0) h2
    (by simp only [List.length_append, length_beBytes, List.length_singleton] at hphdr ⊢; omega)
  have h4 := holds_putU16 (b := phdr + 6) (v := params.appid) h3
    (by simp only [List.length_append, length_beBytes, List.length_singleton] at hphdr ⊢; omega)
  have h5 := holds_putU16 (b := phdr + 8) (v := params.apduLength) h4
    (by simp only [List.length_append, length_beBytes, List.length_singleton] at hphdr ⊢; omega)
  rw [hlen] at hphdr
  simp only [aadBytes, lengthBytes, elemBytes, List.append_assoc] at h5 ⊢
  subst hphdr
  exact h5

/-- In front of the buffer nothing is written. -/
lemma build_of_lt {i : ℕ} (h : i < buf) : (build m buf params).1 i = m i := by
  have hle : ∀ k, i < buf + k := fun k => by omega
  have hle' : ∀ k l, i < buf + k + l := fun k l => by omega
  have hiv : ∀ {m : Mem} {ivLen : UInt8}, (if ivLen > 0 then
      m.write (buf + OFF_IV) (List.replicate ivLen.toNat 0) else m) i = m i := by
    intro m ivLen
    split_ifs
    · exact Mem.write_of_lt (hle _)
    · rfl
  simp only [build, putU8, putU16, putU32, Mem.write_of_lt, hle, hle', hiv]

/-! ### Reading a layout -/

/-- The header that `build` describes. -/
def sessionOf (params : BuildParams) (buf : ℕ) : SessionHeader where
  si := params.si
  spduLength := 20 + params.payloadLength
  spduNumber := params.spduNumber
  version := SESSION_VERSION
  keyId := params.keyId
  ivLength := ivLength params.mode
  iv := if ivLength params.mode > 0 then some (buf + OFF_IV) else none
  payloadLength := params.payloadLength

/-- The fields of the fixed header, one after the other. -/
lemma holds_headBytes : m.Holds buf (headBytes params) ↔
    (m (buf + OFF_CLTP_LI) = CLTP_LI ∧ m (buf + OFF_CLTP_UD) = CLTP_UD ∧
      m (buf + OFF_SI) = params.si ∧ m (buf + OFF_SESSION_LI) = SESSION_HDR_LI ∧
      m (buf + OFF_PI) = PI_COMMON_HDR ∧ m (buf + OFF_LI2) = COMMON_HDR_LI2) ∧
    m.Holds (buf + OFF_SPDU_LENGTH) (beBytes 4 (20 + params.payloadLength).toNat) ∧
    m.Holds (buf + OFF_SPDU_NUMBER) (beBytes 4 params.spduNumber.toNat) ∧
    m.Holds (buf + OFF_VERSION) (beBytes 2 SESSION_VERSION.toNat) ∧
    m.Holds (buf + OFF_TIME_CUR_KEY) (beBytes 4 0) ∧
    m.Holds (buf + OFF_TIME_NEXT_KEY) (beBytes 2 0) ∧
    m.Holds (buf + OFF_KEY_ID) (beBytes 4 params.keyId.toNat) ∧
    m (buf + OFF_IV_LENGTH) = ivLength params.mode := by
  simp only [headBytes, Mem.holds_append, Mem.holds_cons, Mem.holds_nil, List.length_append,
    List.length_cons, List.length_nil, length_beBytes, Nat.add_assoc, and_true, and_assoc]
  rfl

lemma beNat_of_holds {a w n : ℕ} (h : m.Holds a (beBytes w n)) (hn : n < 256 ^ w) :
    beNat (m.slice a w) = n := by
  have := h.slice_eq
  rw [length_beBytes] at this
  rw [this, beNat_beBytes hn]

lemma ofNat_of_holds {a : ℕ} {v : UInt32} (h : m.Holds a (beBytes 4 v.toNat)) :
    UInt32.ofNat (beNat (m.slice a 4)) = v := by
  rw [beNat_of_holds h v.toNat_lt, UInt32.ofNat_toNat]

lemma ofNat_of_holds16 {a : ℕ} {v : UInt16} (h : m.Holds a (beBytes 2 v.toNat)) :
    UInt16.ofNat (beNat (m.slice a 2)) = v := by
  rw [beNat_of_holds h v.toNat_lt, UInt16.ofNat_toNat]

section Layout

variable (hhead : m.Holds buf (headBytes params))
  (hlength : m.Holds (buf + payloadHdrOffset (ivLength params.mode)) (lengthBytes params))

include hhead in
lemma ivLengthAt_of_holds : ivLengthAt ⟨m, buf⟩ = ivLength params.mode :=
  (holds_headBytes.mp hhead).2.2.2.2.2.2.2

include hhead hlength

lemma payloadLengthAt_of_holds : payloadLengthAt ⟨m, buf⟩ = params.payloadLength.toNat := by
  rw [payloadLengthAt, ivLengthAt_of_holds hhead]
  exact beNat_of_holds hlength params.payloadLength.toNat_lt

/-- The header is read back. -/
lemma sessionAt_of_holds : sessionAt ⟨m, buf⟩ = sessionOf params buf := by
  obtain ⟨⟨_, _, hsi, _⟩, hspdu, hnumber, hversion, hcur, hnext, hkey, _⟩ :=
    holds_headBytes.mp hhead
  rw [sessionAt, payloadLengthAt_of_holds hhead hlength, ivLengthAt_of_holds hhead]
  simp only [hsi, ofNat_of_holds hspdu, ofNat_of_holds hnumber, ofNat_of_holds16 hversion,
    ofNat_of_holds hkey, beNat_of_holds hcur (by decide), beNat_of_holds hnext (by decide),
    UInt32.ofNat_toNat]
  rfl

/-- It passes every check if the payload it announces is there. -/
lemma sessionOk_of_holds {size : ℕ} (hsi : params.si = SI_R_GOOSE ∨ params.si = SI_R_SV)
    (hsize : apduOffset (ivLength params.mode) + params.apduLength.toNat ≤ size) :
    SessionOk ⟨m, buf⟩ size := by
  obtain ⟨⟨hli, hud, hsi', _, hpi, _⟩, _, _, hversion, _⟩ := holds_headBytes.mp hhead
  have hlen := params.toNat_payloadLength
  simp only [apduOffset] at hsize
  refine ⟨?_, ⟨hli, hud⟩, ?_, hpi, ofNat_of_holds16 hversion, ?_, ?_, ?_⟩
  · simp only [payloadHdrOffset, PAYLOAD_HDR_SIZE] at hsize
    omega
  · rw [sessionAt_of_holds hhead hlength]
    exact hsi
  · rw [ivLengthAt_of_holds hhead]
    omega
  · rw [payloadLengthAt_of_holds hhead hlength, hlen]
    omega
  · rw [payloadLengthAt_of_holds hhead hlength, ivLengthAt_of_holds hhead, hlen]
    simp only [PAYLOAD_HDR_SIZE, PAYLOAD_ELEM_SIZE] at hsize ⊢
    omega

end Layout

/-- The payload header that `build` describes. -/
def payloadOf (params : BuildParams) : PayloadHeader where
  payloadType := params.payloadType
  simulation := if params.simulation then 1 else 0
  appid := params.appid
  apduLength := params.apduLength
  apduSize := params.apduLength.toUInt32

/-- It is read back from the elements. -/
lemma payloadAt_of_holds
    (h : m.Holds (buf + payloadHdrOffset (ivLength params.mode) + 4) (elemBytes params)) :
    payloadAt ⟨m, buf⟩ (sessionOf params buf) = payloadOf params := by
  simp only [elemBytes, Mem.holds_append, Mem.holds_cons, Mem.holds_nil, List.length_append,
    List.length_cons, List.length_nil, length_beBytes, Nat.add_assoc, and_true, and_assoc] at h
  obtain ⟨htype, hsim, happid, hlen⟩ := h
  have hsize : (sessionOf params buf).payloadLength.toNat - PAYLOAD_ELEM_SIZE =
      params.apduLength.toUInt32.toNat := by
    rw [UInt16.toNat_toUInt32]
    show params.payloadLength.toNat - _ = _
    rw [params.toNat_payloadLength, Nat.add_sub_cancel_left]
  rw [payloadAt, hsize, UInt32.ofNat_toNat]
  simp only [sessionOf, htype, hsim, ofNat_of_holds16 happid, ofNat_of_holds16 hlen]
  rfl

end ProcessBus.RSess
