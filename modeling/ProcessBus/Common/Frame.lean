import ProcessBus.Common.Naming
import ProcessBus.Common.Session.Basic
import ProcessBus.Lib.Checksum

/-!
# The Ethernet/IPv4/UDP prefix of a routable frame

`r_frame_builder.cpp`. The prefix is built once; what differs between the destination groups of a
run is precomputed for the send path, header checksum included.
-/

namespace ProcessBus

open RSess

/-- 192.168.10.1 -/
def R_DEFAULT_SRC_IP : UInt32 := 0xC0A80A01

lemma length_srcMAC : ([0xF0, 0xF1, 0xF2, 0xF3, 0xF4, 0xF5] : List UInt8).length = 6 := rfl

structure RFrameConfig where
  srcIP : UInt32 := R_DEFAULT_SRC_IP
  dstIP : UInt32 := R_DEFAULT_DST_IP
  dstPort : UInt16 := UDP_DST_PORT
  /-- Routable: must survive a hop. -/
  ttl : UInt8 := 64
  srcMAC : MAC := ⟨[0xF0, 0xF1, 0xF2, 0xF3, 0xF4, 0xF5], length_srcMAC⟩
  mode : SecurityMode := .SEC_NONE

namespace RFrame

/-! Offsets from the start of the Ethernet frame. -/

def OFF_ETH_DMAC : ℕ := 0
def OFF_ETH_SMAC : ℕ := 6
def OFF_ETH_TYPE : ℕ := 12
def OFF_IP : ℕ := 14
def OFF_IP_CSUM : ℕ := 24
def OFF_IP_DST : ℕ := 30
def OFF_UDP_SRC_PORT : ℕ := 34
def OFF_UDP_DST_PORT : ℕ := 36
def OFF_UDP_LENGTH : ℕ := 38
def OFF_UDP_CSUM : ℕ := 40
def OFF_UDP_PAYLOAD : ℕ := 42

/-- The sum of the ten words of an IPv4 header. -/
def headerSum (m : Mem) (header : ℕ) : ℕ :=
  ([0, 2, 4, 6, 8, 10, 12, 14, 16, 18].map fun i => beNat (m.slice (header + i) 2)).sum

/-- Standard one's-complement checksum over the 20-byte IPv4 header. -/
def ipv4Checksum (m : Mem) (header : ℕ) : UInt16 :=
  ~~~ UInt16.ofNat (foldCarry (headerSum m header))

/-- Write the 42-byte prefix; the offset of the UDP payload is returned. -/
def buildPrefix (m : Mem) (buf : ℕ) (cfg : RFrameConfig) (udpPayloadSize : ℕ) : Mem × ℕ :=
  -- Ethernet: RFC 1112 mapping of the IPv4 multicast group onto a MAC address
  let m := m.write (buf + OFF_ETH_DMAC) (multicastMac cfg.dstIP).m_mac
  let m := m.write (buf + OFF_ETH_SMAC) cfg.srcMAC.m_mac
  let m := putU16 m (buf + OFF_ETH_TYPE) 0x0800
  let ip := buf + OFF_IP
  let m := putU8 m ip 0x45
  let m := putU8 m (ip + 1) 0x00
  let m := putU16 m (ip + 2) (UInt16.ofNat (20 + 8 + udpPayloadSize))
  let m := putU16 m (ip + 4) 0
  let m := putU16 m (ip + 6) 0x4000
  let m := putU8 m (ip + 8) cfg.ttl
  let m := putU8 m (ip + 9) 17
  let m := putU16 m (ip + 10) 0  -- checksum placeholder
  let m := putU32 m (ip + 12) cfg.srcIP
  let m := putU32 m (ip + 16) cfg.dstIP
  let m := putU16 m (ip + 10) (ipv4Checksum m ip)
  -- the source port is written per packet; the UDP checksum stays zero
  let m := putU16 m (buf + OFF_UDP_SRC_PORT) 0
  let m := putU16 m (buf + OFF_UDP_DST_PORT) cfg.dstPort
  let m := putU16 m (buf + OFF_UDP_LENGTH) (UInt16.ofNat (8 + udpPayloadSize))
  let m := putU16 m (buf + OFF_UDP_CSUM) 0
  (m, OFF_UDP_PAYLOAD)

/-- Per-group destination fields, precomputed for the send path. The numbers are kept as the
octets that go on the wire. -/
structure DstFields where
  dmac : MAC
  dstIP_be : List UInt8
  ipCsum_be : List UInt8
  size_dstIP : dstIP_be.length = 4
  size_ipCsum : ipCsum_be.length = 2

/-- The fields for `dstIP`, the rest of the header taken from the skeleton. -/
def makeDstFields (skeleton : Mem) (dstIP : UInt32) : DstFields :=
  let ip := Mem.write (fun _ => 0) 0 (skeleton.slice OFF_IP 20)
  let ip := putU32 ip 16 dstIP
  let ip := putU16 ip 10 0
  { dmac := multicastMac dstIP
    dstIP_be := beBytes 4 dstIP.toNat
    ipCsum_be := beBytes 2 (ipv4Checksum ip 0).toNat
    size_dstIP := length_beBytes _ _
    size_ipCsum := length_beBytes _ _ }

end RFrame

end ProcessBus
