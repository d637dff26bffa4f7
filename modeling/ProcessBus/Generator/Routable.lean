import ProcessBus.Common.Frame
import ProcessBus.Generator.LayerTwo

/-!
# The routable traffic generators

`r_goose_traffic_gen` and `r_sv_traffic_gen`. The L2 skeleton is wrapped once in a session PDU
behind an Ethernet/IPv4/UDP prefix, and the offsets of its fields are rebased onto the payload
header. For each frame the envelope fields and the fields of the APDU are amended and the frame is
sealed. Under AES-GCM the APDU is amended in a plaintext master, because a recycled buffer holds
ciphertext.

Both generators prepare and finish a frame alike and differ in the APDU fields only. A generator
owns the streams from `m_baseIdx` on.
-/

namespace ProcessBus

open RSess RFrame

/-- What the two generators have in common. -/
structure RoutableGen where
  m_crypto : Crypto
  m_baseIdx : UInt32
  /-- Ethernet-relative start of the region that AES-GCM encrypts. -/
  m_regionOffset : UInt16
  /-- Ethernet-relative SPDU number field. -/
  m_spduOffset : UInt16
  /-- The plaintext master of the region. -/
  m_plain : Mem
  m_plainSize : ℕ
  m_dst : ℕ → DstFields
  m_skeleton : Mem
  m_skeletonSize : ℕ

namespace RoutableGen

/-- `MakeSkeletonPacket`, with what differs between the two as arguments; `none` when it throws. -/
def makeSkeletonPacket (si payloadType : UInt8) (maxPacketSize : ℕ) (l2Buf : Mem)
    (l2SkeletonSize l2AppidOff : ℕ) (cfg : RFrameConfig) (baseIdx : UInt32) (crypto : Crypto) :
    Option RoutableGen :=
  let l2ApduOff := l2AppidOff + 8
  -- length = 8 + APDU; the frame may be padded to 64 bytes
  let lengthField := beNat (l2Buf.slice (l2AppidOff + 2) 2)
  if lengthField < 8 ∨ l2ApduOff + (lengthField - 8) > l2SkeletonSize then
    none
  else
    let apduLen := UInt16.ofNat (lengthField - 8)
    let ivLen := ivLength cfg.mode
    let udpPayloadSize := udpPayloadSize cfg.mode apduLen.toNat
    let skeletonSize := OFF_UDP_PAYLOAD + udpPayloadSize
    if skeletonSize > maxPacketSize then
      none
    else
      let skeleton := (buildPrefix (fun _ => 0) 0 cfg udpPayloadSize).1
      let dst := fun i => makeDstFields skeleton (streamDstIp cfg.dstIP i)
      let params : BuildParams := {
        si := si
        payloadType := payloadType
        mode := cfg.mode
        apduLength := apduLen }
      let r := build skeleton OFF_UDP_PAYLOAD params
      let skeleton := r.1.write (OFF_UDP_PAYLOAD + r.2) (l2Buf.slice l2ApduOff apduLen.toNat)
      -- the payload header element plus the APDU
      let regionOff := OFF_UDP_PAYLOAD + payloadHdrOffset ivLen + 4
      let regionSize := PAYLOAD_ELEM_SIZE + apduLen.toNat
      some {
        m_crypto := crypto
        m_baseIdx := baseIdx
        m_regionOffset := UInt16.ofNat regionOff
        m_spduOffset := UInt16.ofNat (OFF_UDP_PAYLOAD + OFF_SPDU_NUMBER)
        m_plain := Mem.write (fun _ => 0) 0 (skeleton.slice regionOff regionSize)
        m_plainSize := regionSize
        m_dst := dst
        m_skeleton := skeleton
        m_skeletonSize := skeletonSize }

/-- The envelope fields, in the order in which they are written. The APPID in the UDP source port
is the only one visible under AES-GCM; the destination group lets a hashing NIC split the
streams. -/
def envelope (gen : RoutableGen) (stream spduNumber : UInt32) : List Mem.Patch :=
  let dst := gen.m_dst (stream.toNat &&& (R_DST_SPREAD - 1))
  [(OFF_UDP_SRC_PORT, beBytes 2 (stream + 1).toUInt16.toNat),
    (OFF_ETH_DMAC, dst.dmac.m_mac),
    (OFF_IP_DST, dst.dstIP_be),
    (OFF_IP_CSUM, dst.ipCsum_be),
    (gen.m_spduOffset.toNat, beBytes 4 spduNumber.toNat)]

/-- Amend the envelope and the region, which holds the fields `fields` relative to its start, and
finish the frame: the plaintext master and the packet behind the call. -/
def amendFrame (mode : SecurityMode) (gen : RoutableGen) (packet : Mem)
    (stream spduNumber : UInt32) (fields : ℕ → List Mem.Patch) : Mem × Mem :=
  let packet := packet.patch (gen.envelope stream spduNumber)
  let region := gen.m_regionOffset.toNat
  let plain := if mode = .SEC_GCM then gen.m_plain.patch (fields 0) else gen.m_plain
  let packet := if mode = .SEC_GCM then packet.write region (plain.slice 0 gen.m_plainSize)
    else packet.patch (fields region)
  -- the verdict of `seal` is not looked at
  let packet := if mode ≠ .SEC_NONE then (sealFrame packet OFF_UDP_PAYLOAD mode gen.m_crypto).2
    else packet
  (plain, packet)

end RoutableGen

/-! ### R-GOOSE -/

structure RGooseTrafficGen extends RoutableGen where
  m_ieds : List GooseSourceIED
  m_tsDeltaChange : UInt32 := 0
  /-- Relative to the payload header. -/
  m_offsets : GooseParam → UInt16

namespace RGooseTrafficGen

/-- The constructor, `none` when it throws. -/
def make (msg : GooseMessage) (cfg : RFrameConfig) (crypto : Crypto) (maxGooseNum : UInt32)
    (baseIdx : UInt32) : Option RGooseTrafficGen :=
  let l2 := GooseTrafficGen.make msg maxGooseNum
  let l2AppidOff := l2.m_offsets .GOOSE_APPID_OFFSET
  match RoutableGen.makeSkeletonPacket SI_R_GOOSE PAYLOAD_TYPE_GOOSE MAX_GOOSE_PACKET_SIZE
    l2.m_skeleton l2.m_skeletonSize l2AppidOff.toNat cfg baseIdx crypto with
  | none => none
  | some gen => some { gen with
      m_ieds := (List.range maxGooseNum.toNat).map fun i => .init (baseIdx.toNat + i + 1)
      m_offsets := fun i =>
        if i = .GOOSE_APPID_OFFSET then 2  -- type(1) + simulation(1)
        else UInt16.ofNat PAYLOAD_ELEM_SIZE + (l2.m_offsets i - (l2AppidOff + 8)) }

/-- The IED behind the next call. -/
def nextIED (gen : RGooseTrafficGen) (idx : UInt32) : GooseSourceIED :=
  let ied := gen.m_ieds.getD idx.toNat default
  { ied with spduNumber := ied.spduNumber + 1 }.amended gen.m_tsDeltaChange

/-- `AmendPacket<MODE>`: the generator and the packet behind the call. -/
def amendPacket (mode : SecurityMode) (gen : RGooseTrafficGen) (packet : Mem) (idx : UInt32) :
    RGooseTrafficGen × Mem :=
  let ied := gen.nextIED idx
  let stream := idx + gen.m_baseIdx
  let r := gen.amendFrame mode packet stream ied.spduNumber fun region =>
    (region + (gen.m_offsets .GOOSE_APPID_OFFSET).toNat,
      beBytes 2 (stream + 1).toUInt16.toNat) ::
    ied.fields fun i => region + (gen.m_offsets i).toNat
  ({ gen with m_ieds := gen.m_ieds.set idx.toNat ied, m_plain := r.1 }, r.2)

end RGooseTrafficGen

/-! ### R-SV -/

structure RSVTrafficGen extends RoutableGen where
  m_ieds : List SVSourceIED
  /-- Relative to the payload header, like the other offsets. -/
  m_appidOffset : UInt16
  m_asduOffs : ℕ → SvAsduOffsets
  m_freq : ℕ

namespace RSVTrafficGen

/-- Rebase an Ethernet-relative offset onto the payload header; zero means that there is none. -/
def rebase (l2AppidOff off : UInt16) : UInt16 :=
  if off = 0 then 0 else UInt16.ofNat PAYLOAD_ELEM_SIZE + (off - (l2AppidOff + 8))

/-- The constructor, `none` when it throws. -/
def make (msg : SvMessage) (cfg : RFrameConfig) (crypto : Crypto) (type : SvType) (num : UInt32)
    (baseIdx : UInt32) : Option RSVTrafficGen :=
  let l2 := SVTrafficGen.make msg num type
  match RoutableGen.makeSkeletonPacket SI_R_SV PAYLOAD_TYPE_SV MAX_SV_PACKET_SIZE
    l2.m_skeleton l2.m_skeletonSize l2.m_appidOffset.toNat cfg baseIdx crypto with
  | none => none
  | some gen => some { gen with
      m_ieds := (List.range num.toNat).map fun i =>
        .init (UInt32.ofNat (baseIdx.toNat + i + 1)).toNat
      m_appidOffset := 2  -- type(1) + simulation(1)
      m_asduOffs := fun i =>
        ⟨rebase l2.m_appidOffset (l2.m_asduOffs i).svid,
          rebase l2.m_appidOffset (l2.m_asduOffs i).smpCnt⟩
      m_freq := l2.m_freq }

/-- What the two `Amend` functions do, for `num` ASDUs. -/
def amendAsdus (num : ℕ) (mode : SecurityMode) (gen : RSVTrafficGen) (packet : Mem)
    (idx : UInt32) : RSVTrafficGen × Mem :=
  let ied := gen.m_ieds.getD idx.toNat default
  let ied := { ied with spduNumber := ied.spduNumber + 1 }
  let stream := idx + gen.m_baseIdx
  let asdus := fun region => SVSourceIED.fields gen.m_freq
    (fun i => region + (gen.m_asduOffs i).svid.toNat)
    (fun i => region + (gen.m_asduOffs i).smpCnt.toNat) num 0 ied
  let r := gen.amendFrame mode packet stream ied.spduNumber fun region =>
    (region + gen.m_appidOffset.toNat, beBytes 2 (stream + 1).toUInt16.toNat) :: (asdus region).1
  ({ gen with m_ieds := gen.m_ieds.set idx.toNat (asdus 0).2, m_plain := r.1 }, r.2)

/-- `AmendPacketSV80<MODE>` -/
def amendPacketSV80 : SecurityMode → RSVTrafficGen → Mem → UInt32 → RSVTrafficGen × Mem :=
  amendAsdus 1

/-- `AmendPacketSV256<MODE>` -/
def amendPacketSV256 : SecurityMode → RSVTrafficGen → Mem → UInt32 → RSVTrafficGen × Mem :=
  amendAsdus MAX_SV_ASDU_NUM

end RSVTrafficGen

end ProcessBus
