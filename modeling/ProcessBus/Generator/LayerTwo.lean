import ProcessBus.Common.Naming
import ProcessBus.Lib.Patch

/-!
# The L2 traffic generators

`goose_traffic_gen` and `sv_traffic_gen`. The library encodes one frame, the skeleton, and reports
where its fields are; a generator then amends these fields in a copy of the skeleton for each frame
it sends. A stream is one IED of the generator; it owns its identifier and its counters.

The library is a parameter: what it encodes and what it reports. Stores of whole integers are those
of a little-endian host, so that a byte-swapped one is big-endian. The schedule of the frames is
in `ProcessBus.Generator.Schedule`.
-/

namespace ProcessBus

/-- The octets of an integer as a little-endian host stores it. -/
def hostBytes (w n : ℕ) : List UInt8 := (beBytes w n).reverse

@[simp] lemma length_hostBytes (w n : ℕ) : (hostBytes w n).length = w := by simp [hostBytes]

/-- `snprintf` into an array of `w` characters and the terminating zero. -/
def printDecimal (w n : ℕ) : List UInt8 := (decimal w n).take w

lemma length_printDecimal (w n : ℕ) : (printDecimal w n).length = w := by
  rw [printDecimal, List.length_take, decimal, List.leftpad, List.length_append,
    List.length_replicate]
  omega

/-- Where the number fits, the array holds all of its digits. -/
lemma printDecimal_eq_iff {w n : ℕ} (hw : 0 < w) : printDecimal w n = decimal w n ↔ n < 10 ^ w := by
  rw [← length_decimal_le_iff hw le_rfl]
  constructor
  · intro h
    rw [← h, length_printDecimal]
  · exact List.take_of_length_le

lemma printDecimal_eq {w n : ℕ} (hw : 0 < w) (h : n < 10 ^ w) : printDecimal w n = decimal w n :=
  (printDecimal_eq_iff hw).mpr h

/-! ### GOOSE -/

inductive GooseParam where
  | GOOSE_APPID_OFFSET
  | GOOSE_TIMESTAMP_OFFSET
  | GOOSE_GOID_OFFSET
  | GOOSE_GOCB_REF_OFFSET
  | GOOSE_DS_REF_OFFSET
  | GOOSE_SQ_NUM_OFFSET
  | GOOSE_ST_NUM_OFFSET
  | GOOSE_D1_OFFSET
  deriving DecidableEq

def MAX_GOOSE_PACKET_SIZE : ℕ := 1518

/-- The state of one publisher. The SPDU number is that of its R-GOOSE session. -/
structure GooseSourceIED where
  sID : List UInt8
  stNum : UInt32 := 0
  sqNum : UInt32 := 0
  timestamp : UInt64 := 0
  spduNumber : UInt32 := 0
  size : sID.length = 8

lemma length_zeros : (List.replicate 8 (0 : UInt8)).length = 8 := rfl

instance : Inhabited GooseSourceIED := ⟨{ sID := List.replicate 8 0, size := length_zeros }⟩

namespace GooseSourceIED

/-- `InitIED`, and the constructor of the R-GOOSE generator. -/
def init (idx : ℕ) : GooseSourceIED where
  sID := printDecimal 8 idx
  size := length_printDecimal 8 idx

/-- What the fields of the next frame hold. -/
def amended (ied : GooseSourceIED) (tsDeltaChange : UInt32) : GooseSourceIED :=
  { ied with
    timestamp := ied.timestamp + tsDeltaChange.toUInt64
    stNum := ied.stNum + 1 }

/-- The fields of the APDU, in the order in which they are written. `at'` is where they are. -/
def fields (ied : GooseSourceIED) (at' : GooseParam → ℕ) : List Mem.Patch :=
  [(at' .GOOSE_GOID_OFFSET + 4, ied.sID),
    (at' .GOOSE_GOCB_REF_OFFSET + 3, ied.sID),
    (at' .GOOSE_DS_REF_OFFSET + 3, ied.sID),
    (at' .GOOSE_TIMESTAMP_OFFSET, hostBytes 8 ied.timestamp.toNat),
    (at' .GOOSE_ST_NUM_OFFSET, beBytes 4 ied.stNum.toNat),
    (at' .GOOSE_SQ_NUM_OFFSET, beBytes 4 ied.sqNum.toNat),
    (at' .GOOSE_D1_OFFSET, [if ied.stNum % 2 = 0 then 1 else 0])]

end GooseSourceIED

/-- What the library makes of the GOOSE patterns: the message and where its fields are. -/
structure GooseMessage where
  buffer : Mem
  size : ℕ
  offsets : GooseParam → UInt16

/-- The L2 generator. -/
structure GooseTrafficGen where
  m_ieds : List GooseSourceIED
  m_tsDeltaChange : UInt32 := 0
  m_offsets : GooseParam → UInt16
  m_skeleton : Mem
  m_skeletonSize : ℕ

namespace GooseTrafficGen

/-- The constructor. The library does not know the source MAC. -/
def make (msg : GooseMessage) (maxGooseNum : UInt32) : GooseTrafficGen where
  m_ieds := (List.range maxGooseNum.toNat).map fun i =>
    .init (UInt32.ofNat (i + 1)).toNat
  m_offsets := msg.offsets
  m_skeleton := msg.buffer.write 6 [0xF0, 0xF1, 0xF2, 0xF3, 0xF4, 0xF5]
  m_skeletonSize := msg.size

/-- `AmendPacket`: the generator and the packet behind the call. -/
def amendPacket (gen : GooseTrafficGen) (packet : Mem) (idx : UInt32) : GooseTrafficGen × Mem :=
  let ied := (gen.m_ieds.getD idx.toNat default).amended gen.m_tsDeltaChange
  let packet := packet.patch (((gen.m_offsets .GOOSE_APPID_OFFSET).toNat,
    beBytes 2 (idx + 1).toUInt16.toNat) :: ied.fields fun i => (gen.m_offsets i).toNat)
  ({ gen with m_ieds := gen.m_ieds.set idx.toNat ied }, packet)

end GooseTrafficGen

/-! ### Sampled Values -/

inductive SvType where
  | SV80
  | SV256
  deriving DecidableEq

def MAX_SV_PACKET_SIZE : ℕ := 1518
def MAX_SV_ASDU_NUM : ℕ := 8

/-- The state of one publisher. -/
structure SVSourceIED where
  sID : List UInt8
  smpCnt : UInt16 := 0
  spduNumber : UInt32 := 0
  size : sID.length = 4

instance : Inhabited SVSourceIED := ⟨{ sID := List.replicate 4 0, size := rfl }⟩

/-- Where the fields of an ASDU are. -/
structure SvAsduOffsets where
  svid : UInt16
  smpCnt : UInt16

/-- What the library makes of the SV pattern. -/
structure SvMessage where
  buffer : Mem
  size : ℕ
  appidOffset : UInt16
  asduOffs : ℕ → SvAsduOffsets

namespace SVSourceIED

def init (idx : ℕ) : SVSourceIED where
  sID := printDecimal 4 idx
  size := length_printDecimal 4 idx

/-- One sample further; the counter starts over each second. -/
def advance (freq : ℕ) (ied : SVSourceIED) : SVSourceIED :=
  { ied with smpCnt := if ied.smpCnt.toNat + 1 < freq then ied.smpCnt + 1 else 0 }

/-- The fields of the next `num` ASDUs from number `i` on, and the IED behind them. -/
def fields (freq : ℕ) (svidAt smpCntAt : ℕ → ℕ) :
    ℕ → ℕ → SVSourceIED → List Mem.Patch × SVSourceIED
  | 0, _, ied => ([], ied)
  | num + 1, i, ied =>
    let r := fields freq svidAt smpCntAt num (i + 1) (ied.advance freq)
    ((svidAt i + 4, ied.sID) :: (smpCntAt i, beBytes 2 ied.smpCnt.toNat) :: r.1, r.2)

end SVSourceIED

/-- The ASDUs in a frame. -/
def SvType.asduNum : SvType → ℕ
  | .SV80 => 1
  | .SV256 => MAX_SV_ASDU_NUM

/-- The samples per second. -/
def SvType.freq : SvType → ℕ
  | .SV80 => 4000
  | .SV256 => 12800

/-- The L2 generator. -/
structure SVTrafficGen where
  m_ieds : List SVSourceIED
  m_appidOffset : UInt16
  m_asduOffs : ℕ → SvAsduOffsets
  m_skeleton : Mem
  m_skeletonSize : ℕ
  m_freq : ℕ

namespace SVTrafficGen

/-- The constructor. -/
def make (msg : SvMessage) (num : UInt32) (type : SvType) : SVTrafficGen where
  m_ieds := (List.range num.toNat).map fun i => .init (UInt32.ofNat (i + 1)).toNat
  m_appidOffset := msg.appidOffset
  m_asduOffs := msg.asduOffs
  m_skeleton := msg.buffer
  m_skeletonSize := msg.size
  m_freq := type.freq

/-- What the two `Amend` functions do, for `num` ASDUs. -/
def amendAsdus (num : ℕ) (gen : SVTrafficGen) (packet : Mem) (idx : UInt32) : SVTrafficGen × Mem :=
  let r := SVSourceIED.fields gen.m_freq (fun i => (gen.m_asduOffs i).svid.toNat)
    (fun i => (gen.m_asduOffs i).smpCnt.toNat) num 0 (gen.m_ieds.getD idx.toNat default)
  let packet := packet.patch
    ((gen.m_appidOffset.toNat, beBytes 2 (idx + 1).toUInt16.toNat) :: r.1)
  ({ gen with m_ieds := gen.m_ieds.set idx.toNat r.2 }, packet)

/-- `AmendPacketSV80` -/
def amendPacketSV80 : SVTrafficGen → Mem → UInt32 → SVTrafficGen × Mem := amendAsdus 1

/-- `AmendPacketSV256` -/
def amendPacketSV256 : SVTrafficGen → Mem → UInt32 → SVTrafficGen × Mem :=
  amendAsdus MAX_SV_ASDU_NUM

end SVTrafficGen

end ProcessBus
