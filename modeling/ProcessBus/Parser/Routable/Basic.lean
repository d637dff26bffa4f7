import ProcessBus.Common.Session.Basic
import ProcessBus.Lib.Checksum
import ProcessBus.Parser.Sv.Basic

/-!
# The routable parsers

`get_proto_type`, `validate_r_envelope`, and the two parsers of routable frames, which unwrap the
session PDU and then walk its APDU like the L2 ones. GCM decrypts in place, so behind the envelope
the frame is read from the memory that `unseal` leaves behind.
-/

namespace ProcessBus

open RSess

inductive BusProto where
  | NON_BUS_PROTO
  | BUS_PROTO_SV
  | BUS_PROTO_GOOSE
  | BUS_PROTO_R_GOOSE
  | BUS_PROTO_R_SV
  deriving DecidableEq

/-- Returned when the signature or GCM tag does not verify. -/
def R_PARSE_ERR_AUTH : ℤ := -10

def R_ENV_OK : ℤ := 0
def R_ENV_ERR_NOT_IPV4 : ℤ := -20
def R_ENV_ERR_IHL : ℤ := -21
def R_ENV_ERR_IP_LEN : ℤ := -22
def R_ENV_ERR_FRAGMENT : ℤ := -23
def R_ENV_ERR_PROTO : ℤ := -24
def R_ENV_ERR_UDP_PORT : ℤ := -25
def R_ENV_ERR_UDP_LEN : ℤ := -26
def R_ENV_ERR_IP_CKSUM : ℤ := -27

def R_SI_OFFSET : ℕ := ETH_IP_UDP_SIZE + OFF_SI
def R_MIN_FRAME_SIZE : ℕ := ETH_IP_UDP_SIZE + SESSION_FIXED_SIZE + 4

/-! ### Classification -/

/-- The checks behind the VLAN ones. -/
def getProtoTypeUntagged (buffer : Ptr) (appid size : ℕ) : Traced Event (BusProto × ℕ) := do
  if ← buffer.expect [(12, 0x88), (13, 0xBA)] then
    pure (.BUS_PROTO_SV, ← buffer.load 14 2)
  else if ← buffer.expect [(12, 0x88), (13, 0xB8)] then
    pure (.BUS_PROTO_GOOSE, ← buffer.load 14 2)
  else if (← buffer.expect [(12, 0x08), (13, 0x00)]) ∧ size ≥ R_MIN_FRAME_SIZE then do
    if ← buffer.expect [(14, 0x45), (23, 0x11), (36, 0x00), (37, 0x66)] then do
      let si ← buffer.get R_SI_OFFSET
      if si = SI_R_GOOSE ∨ si = SI_R_SV then do
        -- RSS key is the UDP source port
        let port ← buffer.load 34 2
        pure (if si = SI_R_GOOSE then .BUS_PROTO_R_GOOSE else .BUS_PROTO_R_SV, port)
      else
        pure (.NON_BUS_PROTO, appid)
    else
      pure (.NON_BUS_PROTO, appid)
  else
    pure (.NON_BUS_PROTO, appid)

/-- `get_proto_type`: the protocol of a frame and its RSS key. -/
def getProtoType (buffer : Ptr) (appid size : ℕ) : Traced Event (BusProto × ℕ) := do
  if ← buffer.expect [(12, 0x81), (13, 0x00)] then
    if ← buffer.expect [(16, 0x88), (17, 0xBA)] then
      pure (.BUS_PROTO_SV, ← buffer.load 18 2)
    else if ← buffer.expect [(16, 0x88), (17, 0xB8)] then
      pure (.BUS_PROTO_GOOSE, ← buffer.load 18 2)
    else
      getProtoTypeUntagged buffer appid size
  else
    getProtoTypeUntagged buffer appid size

/-! ### The IPv4/UDP envelope -/

/-- The flags of an mbuf that carry the RX IPv4 checksum result, bits 4 and 7. -/
def RTE_MBUF_F_RX_IP_CKSUM_MASK : UInt64 := 0x90
def RTE_MBUF_F_RX_IP_CKSUM_UNKNOWN : UInt64 := 0
def RTE_MBUF_F_RX_IP_CKSUM_BAD : UInt64 := 0x10

/-- The sum of the 16-bit words at the given offsets. -/
def ipv4Sum (ipHeader : Ptr) : List ℕ → Traced Event ℕ
  | [] => pure 0
  | i :: rest => do
    let word ← ipHeader.load i 2
    let sum ← ipv4Sum ipHeader rest
    pure (word + sum)

def ipv4ChecksumOk (ipHeader : Ptr) : Traced Event Bool := do
  let sum ← ipv4Sum ipHeader [0, 2, 4, 6, 8, 10, 12, 14, 16, 18]
  pure (foldCarry sum = 0xFFFF)

/-- `validate_r_envelope`: a code and, on success, the destination group. -/
def validateREnvelope (buffer : Ptr) (size : ℕ) (olFlags : UInt64) (dstIP : UInt32) :
    Traced Event (ℤ × UInt32) :=
  if size < 14 + 20 then
    pure (R_ENV_ERR_NOT_IPV4, dstIP)
  else do
    if ¬ (← buffer.expect [(12, 0x08), (13, 0x00)]) then
      pure (R_ENV_ERR_NOT_IPV4, dstIP)
    else do
      let ip := buffer.add 14
      let versionIhl ← ip.get 0
      if versionIhl ≠ 0x45 then
        pure (R_ENV_ERR_IHL, dstIP)
      else do
        -- the declared datagram bounds everything below and must fit the frame
        let ipTotalLen ← ip.load 2 2
        if ipTotalLen < 28 ∨ 14 + ipTotalLen > size then
          pure (R_ENV_ERR_IP_LEN, dstIP)
        else do
          let flagsFrag ← ip.load 6 2
          if flagsFrag &&& 0x2000 ≠ 0 ∨ flagsFrag &&& 0x1FFF ≠ 0 then
            pure (R_ENV_ERR_FRAGMENT, dstIP)
          else do
            let proto ← ip.get 9
            if proto ≠ 17 then
              pure (R_ENV_ERR_PROTO, dstIP)
            else do
              let udp := ip.add 20
              let port ← udp.load 2 2
              if port ≠ UDP_DST_PORT.toNat then
                pure (R_ENV_ERR_UDP_PORT, dstIP)
              else do
                let udpLen ← udp.load 4 2
                let expected ← Cursor.sub 32 ipTotalLen 20
                if udpLen < 8 ∨ udpLen ≠ expected then
                  pure (R_ENV_ERR_UDP_LEN, dstIP)
                else
                  -- the header checksum, from the NIC when it verified it, else in software
                  let ck := olFlags &&& RTE_MBUF_F_RX_IP_CKSUM_MASK
                  if ck = RTE_MBUF_F_RX_IP_CKSUM_BAD then
                    pure (R_ENV_ERR_IP_CKSUM, dstIP)
                  else if ck = RTE_MBUF_F_RX_IP_CKSUM_UNKNOWN then do
                    if ← ipv4ChecksumOk ip then
                      pure (R_ENV_OK, UInt32.ofNat (← ip.load 16 4))
                    else
                      pure (R_ENV_ERR_IP_CKSUM, dstIP)
                  else
                    pure (R_ENV_OK, UInt32.ofNat (← ip.load 16 4))

/-! ### Unwrapping -/

/-- What `unwrap_r_frame` leaves behind: its return value, which is the size of the APDU or an
error, the memory, and its output arguments. -/
structure Unwrapped where
  code : ℤ
  mem : Mem
  session : SessionHeader
  phdr : PayloadHeader := {}
  /-- Where the APDU starts, if there is one. -/
  apduBase : ℕ := 0

/-- The condition on `unseal`: `SEC_NONE` would pay a call per packet for nothing. -/
def unsealUnlessNone (udp : Ptr) (udpSize : ℕ) (mode : SecurityMode) (session : SessionHeader)
    (crypto : Crypto) : Traced Event (Bool × Mem) :=
  if mode ≠ .SEC_NONE then unsealFrame udp udpSize mode session crypto else pure (true, udp.mem)

/-- Bound the session PDU, parse the session header, verify or decrypt, then read the payload
header. -/
def unwrapRFrame (buffer : Ptr) (size : Int32) (expectedSI expectedType : UInt8)
    (mode : SecurityMode) (crypto : Crypto) (session : SessionHeader) :
    Traced Event Unwrapped :=
  if size.toInt < (ETH_IP_UDP_SIZE + apduOffset 0 : ℕ) then
    pure { code := ERR_TOO_SHORT, mem := buffer.mem, session := session }
  else do
    let ipTotalLen ← buffer.load 16 2
    if ipTotalLen < 28 ∨ 14 + ipTotalLen > size.toInt.toNat then
      pure { code := ERR_TOO_SHORT, mem := buffer.mem, session := session }
    else do
      let udp := buffer.add ETH_IP_UDP_SIZE
      let udpSize ← Cursor.sub 32 ipTotalLen 28  -- minus IPv4 (20) and UDP (8)
      let (phOff, session) ← parseSession udp udpSize session
      if phOff < 0 then
        pure { code := phOff, mem := buffer.mem, session := session }
      else if session.si ≠ expectedSI then
        pure { code := ERR_BAD_SI, mem := buffer.mem, session := session }
      else do
        let (ok, mem) ← unsealUnlessNone udp udpSize mode session crypto
        if ¬ ok then
          pure { code := R_PARSE_ERR_AUTH, mem := mem, session := session }
        else do
          let (apduOff, phdr) ← parsePayload { udp with mem := mem } udpSize session {}
          if apduOff < 0 then
            pure { code := apduOff, mem := mem, session := session, phdr := phdr }
          else if phdr.payloadType ≠ expectedType then
            pure { code := ERR_BAD_PAYLOAD_TYPE, mem := mem, session := session, phdr := phdr }
          else
            pure {
              code := (Int32.ofNat phdr.apduSize.toNat).toInt
              mem := mem
              session := session
              phdr := phdr
              apduBase := udp.off + apduOff.toNat }

/-! ### The parsers -/

/-- `ProcessBusParser::parse_r_goose_packet`. -/
def parseRGoosePacket (fuel : ℕ) (buffer : Ptr) (size : Int32) (mode : SecurityMode)
    (crypto : Crypto) (session : SessionHeader) (passport : GoosePassport) (state : GooseState) :
    Traced Event (Option (GooseParse × SessionHeader)) := do
  let u ← unwrapRFrame buffer size SI_R_GOOSE PAYLOAD_TYPE_GOOSE mode crypto session
  if u.code < 0 then
    pure (some (⟨u.code, passport, state⟩, u.session))
  else do
    let dmac ← MAC.read ⟨u.mem, buffer.off⟩
    let r ← parseGooseApdu fuel ⟨u.mem, u.apduBase⟩ (Int32.ofInt u.code)
      { passport with dmac := dmac, appid := u.phdr.appid } state
    pure (r.map (·, u.session))

/-- `ProcessBusParser::parse_r_sv_packet`. -/
def parseRSvPacket (fuel : ℕ) (buffer : Ptr) (size : Int32) (mode : SecurityMode)
    (crypto : Crypto) (session : SessionHeader) (passport : SVStreamPassport)
    (state : SVStreamState) : Traced Event (Option (SVParse × SessionHeader)) := do
  let u ← unwrapRFrame buffer size SI_R_SV PAYLOAD_TYPE_SV mode crypto session
  if u.code < 0 then
    pure (some (⟨u.code, passport, state⟩, u.session))
  else do
    let dmac ← MAC.read ⟨u.mem, buffer.off⟩
    let r ← parseSvApdu fuel ⟨u.mem, u.apduBase⟩ u.code.toNat
      { passport with dmac := dmac, appid := u.phdr.appid } state
    pure (r.map (·, u.session))

end ProcessBus
