import ProcessBus.Common.Containers

/-!
# The session layer of routable frames

`r_session.cpp` and the backend-neutral half of `RSess::Crypto`. The sender writes a version-2
envelope with `build`, copies the APDU behind it and closes it with `sealFrame`. The receiver reads
the session header, verifies or decrypts with `unsealFrame`, and only then reads the payload header.

Writers return the memory they leave behind. Readers are observed; what they hand to the crypto
backend is recorded as a range. The backend itself is a parameter: it sees the bytes of the ranges
it is given and may replace those it is given to write.
-/

namespace ProcessBus.RSess

/-- Security modes implemented here (a subset of what 90-5 defines). -/
inductive SecurityMode where
  | SEC_NONE
  | SEC_HMAC
  | SEC_GCM
  deriving DecidableEq

/-! ### Protocol constants (version 2) -/

def CLTP_LI : UInt8 := 0x01
def CLTP_UD : UInt8 := 0x40
def SI_R_GOOSE : UInt8 := 0xA1
def SI_R_SV : UInt8 := 0xA2
def SESSION_HDR_LI : UInt8 := 24
def PI_COMMON_HDR : UInt8 := 0x80
def COMMON_HDR_LI2 : UInt8 := 18
def SESSION_VERSION : UInt16 := 2
def PAYLOAD_TYPE_GOOSE : UInt8 := 0x81
def PAYLOAD_TYPE_SV : UInt8 := 0x82
def SIGNATURE_TAG : UInt8 := 0x85
def UDP_DST_PORT : UInt16 := 102

/-- The version-2 receiver of the library rejects KeyID 0 outright. -/
def KEY_ID : UInt32 := 1

def IV_LEN_NONE : UInt8 := 0
def IV_LEN_GCM : UInt8 := 12
def TAG_SIZE : ℕ := 16
def TRAILER_SIZE : ℕ := 2 + TAG_SIZE

/-! Offsets from the UDP payload, the CLTP byte. -/

def OFF_CLTP_LI : ℕ := 0
def OFF_CLTP_UD : ℕ := 1
def OFF_SI : ℕ := 2
def OFF_SESSION_LI : ℕ := 3
def OFF_PI : ℕ := 4
def OFF_LI2 : ℕ := 5
def OFF_SPDU_LENGTH : ℕ := 6
def OFF_SPDU_NUMBER : ℕ := 10
def OFF_VERSION : ℕ := 14
def OFF_TIME_CUR_KEY : ℕ := 16
def OFF_TIME_NEXT_KEY : ℕ := 20
def OFF_KEY_ID : ℕ := 22
def OFF_IV_LENGTH : ℕ := 26
def OFF_IV : ℕ := 27

def SESSION_FIXED_SIZE : ℕ := 27
def PAYLOAD_HDR_SIZE : ℕ := 10
def PAYLOAD_ELEM_SIZE : ℕ := 6

/-- Ethernet, IPv4 and UDP bytes in front of the UDP payload (no VLAN, IHL 5). -/
def ETH_IP_UDP_SIZE : ℕ := 14 + 20 + 8

def ivLength (mode : SecurityMode) : UInt8 := if mode = .SEC_GCM then IV_LEN_GCM else IV_LEN_NONE

/-- Offset of the payload header, its PayloadLength field, from the CLTP byte. -/
def payloadHdrOffset (ivLen : UInt8) : ℕ := SESSION_FIXED_SIZE + ivLen.toNat

/-- Offset of the APDU from the CLTP byte: 37 without an IV, 49 with the GCM IV. -/
def apduOffset (ivLen : UInt8) : ℕ := payloadHdrOffset ivLen + PAYLOAD_HDR_SIZE

def trailerSize (mode : SecurityMode) : ℕ := if mode = .SEC_NONE then 0 else TRAILER_SIZE

def udpPayloadSize (mode : SecurityMode) (apduLength : ℕ) : ℕ :=
  apduOffset (ivLength mode) + apduLength + trailerSize mode

/-- Offset of the APPID field of the payload header from the CLTP byte. -/
def appidOffset (ivLen : UInt8) : ℕ := payloadHdrOffset ivLen + 4 + 1 + 1

def ERR_TOO_SHORT : ℤ := -1
def ERR_BAD_CLTP : ℤ := -2
def ERR_BAD_SI : ℤ := -3
def ERR_BAD_PI : ℤ := -4
def ERR_BAD_VERSION : ℤ := -5
def ERR_BAD_PAYLOAD_LEN : ℤ := -6
def ERR_BAD_PAYLOAD_TYPE : ℤ := -7

/-! ### Crypto -/

/-- A crypto backend. `Encrypt` and `Decrypt` work in place: they return what they leave in the
ranges they may write, also when they fail. -/
structure Crypto where
  HMAC : (data : List UInt8) → Option (List UInt8)
  Encrypt : (iv aad data tag : List UInt8) → Bool × List UInt8 × List UInt8
  Decrypt : (iv aad data tag : List UInt8) → Bool × List UInt8
  length_HMAC : ∀ {data tag}, HMAC data = some tag → tag.length = TAG_SIZE
  length_Encrypt : ∀ iv aad data tag, (Encrypt iv aad data tag).2.1.length = data.length ∧
    (Encrypt iv aad data tag).2.2.length = tag.length
  length_Decrypt : ∀ iv aad data tag, (Decrypt iv aad data tag).2.length = data.length

/-- 12-byte deterministic IV: KeyID(4) || 0x00000000 || SPDUNumber(4). -/
def deriveIV (keyId spduNumber : UInt32) : List UInt8 :=
  beBytes 4 keyId.toNat ++ [0, 0, 0, 0] ++ beBytes 4 spduNumber.toNat

lemma length_deriveIV (keyId spduNumber : UInt32) :
    (deriveIV keyId spduNumber).length = IV_LEN_GCM.toNat := by
  simp [deriveIV, IV_LEN_GCM]

/-- Constant-time compare: no early exit on the first differing byte. -/
def tagDiff (expected tag : List UInt8) : UInt8 :=
  (expected.zip tag).foldl (fun diff x => diff ||| (x.1 ^^^ x.2)) 0

/-- `VerifyHMAC`: the `size` bytes at `data` against the tag at `tag`. -/
def Crypto.verifyHMAC (crypto : Crypto) (data : Ptr) (size : ℕ) (tag : Ptr) :
    Traced Event Bool := do
  Traced.emit (.range data.off size)
  match crypto.HMAC (data.mem.slice data.off size) with
  | none => pure false
  | some expected => do
    Traced.emit (.range tag.off TAG_SIZE)
    pure (tagDiff expected (tag.mem.slice tag.off TAG_SIZE) = 0)

/-! ### The sender -/

structure BuildParams where
  si : UInt8 := SI_R_GOOSE
  payloadType : UInt8 := PAYLOAD_TYPE_GOOSE
  mode : SecurityMode := .SEC_NONE
  spduNumber : UInt32 := 0
  keyId : UInt32 := KEY_ID
  appid : UInt16 := 0
  apduLength : UInt16 := 0
  simulation : Bool := false

def putU16 (m : Mem) (p : ℕ) (v : UInt16) : Mem := m.write p (beBytes 2 v.toNat)

def putU32 (m : Mem) (p : ℕ) (v : UInt32) : Mem := m.write p (beBytes 4 v.toNat)

/-- `buf[i] = v`. -/
def putU8 (m : Mem) (p : ℕ) (v : UInt8) : Mem := m.write p [v]

/-- Write the envelope at `buf`, the CLTP byte; the offset of the APDU is returned. -/
def build (m : Mem) (buf : ℕ) (params : BuildParams) : Mem × ℕ :=
  let ivLen := ivLength params.mode
  let payloadLength := UInt32.ofNat PAYLOAD_ELEM_SIZE + params.apduLength.toUInt32
  let m := putU8 m (buf + OFF_CLTP_LI) CLTP_LI
  let m := putU8 m (buf + OFF_CLTP_UD) CLTP_UD
  let m := putU8 m (buf + OFF_SI) params.si
  let m := putU8 m (buf + OFF_SESSION_LI) SESSION_HDR_LI
  let m := putU8 m (buf + OFF_PI) PI_COMMON_HDR
  let m := putU8 m (buf + OFF_LI2) COMMON_HDR_LI2
  let m := putU32 m (buf + OFF_SPDU_LENGTH) (20 + payloadLength)
  let m := putU32 m (buf + OFF_SPDU_NUMBER) params.spduNumber
  let m := putU16 m (buf + OFF_VERSION) SESSION_VERSION
  let m := putU32 m (buf + OFF_TIME_CUR_KEY) 0
  let m := putU16 m (buf + OFF_TIME_NEXT_KEY) 0
  let m := putU32 m (buf + OFF_KEY_ID) params.keyId
  let m := putU8 m (buf + OFF_IV_LENGTH) ivLen
  -- the real contents are written per packet by `sealFrame`, from the SPDU number
  let m := if ivLen > 0 then m.write (buf + OFF_IV) (List.replicate ivLen.toNat 0) else m
  let phdr := buf + payloadHdrOffset ivLen
  let m := putU32 m phdr payloadLength
  let m := putU8 m (phdr + 4) params.payloadType
  let m := putU8 m (phdr + 5) (if params.simulation then 1 else 0)
  let m := putU16 m (phdr + 6) params.appid
  let m := putU16 m (phdr + 8) params.apduLength
  (m, apduOffset ivLen)

/-- `seal`: apply the security trailer to a finished frame. The layout is read back from the
buffer. -/
def sealFrame (m : Mem) (buf : ℕ) (mode : SecurityMode) (crypto : Crypto) : Bool × Mem :=
  if mode = .SEC_NONE then
    (true, m)
  else
    let ivLen := m (buf + OFF_IV_LENGTH)
    let phOff := payloadHdrOffset ivLen
    let payloadLength := beNat (m.slice (buf + phOff) 4)
    let payloadStart := phOff + 4
    let payloadEnd := payloadStart + payloadLength
    let m := putU8 m (buf + payloadEnd) SIGNATURE_TAG
    let m := putU8 m (buf + payloadEnd + 1) (UInt8.ofNat TAG_SIZE)
    let tag := buf + payloadEnd + 2
    if mode = .SEC_HMAC then
      match crypto.HMAC (m.slice buf payloadEnd) with
      | none => (false, m)
      | some bytes => (true, m.write tag bytes)
    else
      let iv := buf + OFF_IV
      let m := m.write iv (deriveIV (UInt32.ofNat (beNat (m.slice (buf + OFF_KEY_ID) 4)))
        (UInt32.ofNat (beNat (m.slice (buf + OFF_SPDU_NUMBER) 4))))
      -- the AAD covers everything up to the payload elements
      let r := crypto.Encrypt (m.slice iv ivLen.toNat) (m.slice buf payloadStart)
        (m.slice (buf + payloadStart) payloadLength) (m.slice tag TAG_SIZE)
      (r.1, (m.write (buf + payloadStart) r.2.1).write tag r.2.2)

/-! ### The receiver -/

structure SessionHeader where
  si : UInt8 := 0
  spduLength : UInt32 := 0
  spduNumber : UInt32 := 0
  version : UInt16 := 0
  timeOfCurrentKey : UInt32 := 0
  timeToNextKey : Int16 := 0
  keyId : UInt32 := 0
  ivLength : UInt8 := 0
  /-- The address of the IV in the frame, `none` when there is none. -/
  iv : Option ℕ := none
  /-- Bytes of payload elements, the trailer excluded. -/
  payloadLength : UInt32 := 0
  deriving DecidableEq

structure PayloadHeader where
  payloadType : UInt8 := 0
  simulation : UInt8 := 0
  appid : UInt16 := 0
  /-- The raw wire value. -/
  apduLength : UInt16 := 0
  /-- The trustworthy size, derived from the payload length. -/
  apduSize : UInt32 := 0
  deriving DecidableEq

/-- Parse the session header only, stopping at the payload length: the offset of the payload
header or an error. -/
def parseSession (buf : Ptr) (size : ℕ) (session : SessionHeader) :
    Traced Event (ℤ × SessionHeader) :=
  if size < SESSION_FIXED_SIZE + 4 then
    pure (ERR_TOO_SHORT, session)
  else do
    if ¬ (← buf.expect [(OFF_CLTP_LI, CLTP_LI), (OFF_CLTP_UD, CLTP_UD)]) then
      pure (ERR_BAD_CLTP, session)
    else do
      let si ← buf.get OFF_SI
      let session := { session with si := si }
      if si ≠ SI_R_GOOSE ∧ si ≠ SI_R_SV then
        pure (ERR_BAD_SI, session)
      else do
        let pi ← buf.get OFF_PI
        if pi ≠ PI_COMMON_HDR then
          pure (ERR_BAD_PI, session)
        else do
          let version ← buf.load OFF_VERSION 2
          let session := { session with version := UInt16.ofNat version }
          if session.version ≠ SESSION_VERSION then
            pure (ERR_BAD_VERSION, session)
          else do
            let spduLength ← buf.load OFF_SPDU_LENGTH 4
            let spduNumber ← buf.load OFF_SPDU_NUMBER 4
            let timeOfCurrentKey ← buf.load OFF_TIME_CUR_KEY 4
            let timeToNextKey ← buf.load OFF_TIME_NEXT_KEY 2
            let keyId ← buf.load OFF_KEY_ID 4
            let ivLen ← buf.get OFF_IV_LENGTH
            let session := { session with
              spduLength := UInt32.ofNat spduLength
              spduNumber := UInt32.ofNat spduNumber
              timeOfCurrentKey := UInt32.ofNat timeOfCurrentKey
              timeToNextKey := Int16.ofNat timeToNextKey
              keyId := UInt32.ofNat keyId
              ivLength := ivLen
              iv := if ivLen > 0 then some (buf.off + OFF_IV) else none }
            let phOff := payloadHdrOffset ivLen
            let phEnd ← Cursor.add 64 phOff PAYLOAD_HDR_SIZE
            if phEnd > size then
              pure (ERR_TOO_SHORT, session)
            else do
              let payloadLength ← buf.load phOff 4
              let session := { session with payloadLength := UInt32.ofNat payloadLength }
              if payloadLength < PAYLOAD_ELEM_SIZE then
                pure (ERR_BAD_PAYLOAD_LEN, session)
              else do
                let payloadEnd ← Cursor.add 64 (phOff + 4) payloadLength
                if payloadEnd > size then
                  pure (ERR_BAD_PAYLOAD_LEN, session)
                else
                  pure (phOff, session)

/-- `unseal`: verify, and for `SEC_GCM` decrypt in place, a received frame. The memory behind the
call is returned as well. -/
def unsealFrame (buf : Ptr) (size : ℕ) (mode : SecurityMode) (session : SessionHeader)
    (crypto : Crypto) : Traced Event (Bool × Mem) :=
  if mode = .SEC_NONE then
    pure (true, buf.mem)
  else do
    let payloadStart ← Cursor.add 64 (payloadHdrOffset session.ivLength) 4
    let payloadEnd ← Cursor.add 64 payloadStart session.payloadLength.toNat
    let trailerEnd ← Cursor.add 64 payloadEnd TRAILER_SIZE
    if trailerEnd > size then
      pure (false, buf.mem)
    else do
      let first ← buf.get payloadEnd
      if first ≠ SIGNATURE_TAG then
        pure (false, buf.mem)
      else if mode = .SEC_HMAC then do
        let ok ← crypto.verifyHMAC buf payloadEnd (buf.add (payloadEnd + 2))
        pure (ok, buf.mem)
      else
        -- the IV travels in the header, so a random-IV sender interoperates
        match session.iv with
        | none => pure (false, buf.mem)
        | some iv =>
          if session.ivLength ≠ IV_LEN_GCM then
            pure (false, buf.mem)
          else do
            let tagSize ← buf.get (payloadEnd + 1)
            if tagSize.toNat ≠ TAG_SIZE then
              pure (false, buf.mem)
            else do
              let data := buf.off + payloadStart
              let tag := buf.off + payloadEnd + 2
              Traced.emit (.range iv session.ivLength.toNat)
              Traced.emit (.range buf.off payloadStart)
              Traced.emit (.range data session.payloadLength.toNat)
              Traced.emit (.range tag tagSize.toNat)
              let r := crypto.Decrypt (buf.mem.slice iv session.ivLength.toNat)
                (buf.mem.slice buf.off payloadStart)
                (buf.mem.slice data session.payloadLength.toNat)
                (buf.mem.slice tag tagSize.toNat)
              pure (r.1, buf.mem.write data r.2)

/-- Read the payload header once it is known to be plaintext: the offset of the APDU or an
error. -/
def parsePayload (buf : Ptr) (size : ℕ) (session : SessionHeader) (payload : PayloadHeader) :
    Traced Event (ℤ × PayloadHeader) := do
  let phOff := payloadHdrOffset session.ivLength
  let phEnd ← Cursor.add 64 phOff PAYLOAD_HDR_SIZE
  if phEnd > size then
    pure (ERR_TOO_SHORT, payload)
  else do
    let payloadType ← buf.get (phOff + 4)
    let payload := { payload with payloadType := payloadType }
    if payloadType ≠ PAYLOAD_TYPE_GOOSE ∧ payloadType ≠ PAYLOAD_TYPE_SV then
      pure (ERR_BAD_PAYLOAD_TYPE, payload)
    else do
      let simulation ← buf.get (phOff + 5)
      let appid ← buf.load (phOff + 6) 2
      let apduLength ← buf.load (phOff + 8) 2
      let apduSize ← Cursor.sub 32 session.payloadLength.toNat PAYLOAD_ELEM_SIZE
      pure (phEnd, { payload with
        simulation := simulation
        appid := UInt16.ofNat appid
        apduLength := UInt16.ofNat apduLength
        apduSize := UInt32.ofNat apduSize })

end ProcessBus.RSess
