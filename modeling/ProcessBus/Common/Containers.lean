import ProcessBus.Lib.Access

/-!
# Stream descriptions, stream sources and the APPID container

`goose_container.hpp`, `sv_container.hpp`, `mac_addr.hpp` and `appid_container.hpp`. A passport
identifies a stream. A source is what the receiver remembers of one: its settings, the last
sequence numbers it saw and the two error counters. The container finds the source of a passport
through a register indexed by APPID.

The strings of a parsed passport are views into the received frame, those of a registered one
are views of strings the source owns.
-/

namespace ProcessBus

/-! ### Strings and addresses -/

/-- `std::string_view`: the `size` bytes `data` points at. -/
structure StringView where
  data : Ptr
  size : ℕ

namespace StringView

/-- The characters of a view. -/
def bytes (v : StringView) : List UInt8 := v.data.mem.slice v.data.off v.size

/-- A view of a string somebody owns. -/
def ofBytes (bs : List UInt8) : StringView := ⟨.ofBytes bs, bs.length⟩

/-- The empty view. -/
def empty : StringView := ofBytes []

instance : Inhabited StringView := ⟨empty⟩

/-- Views are compared by their characters. -/
instance : BEq StringView := ⟨fun a b => a.bytes == b.bytes⟩

@[simp] lemma bytes_ofBytes (bs : List UInt8) : (ofBytes bs).bytes = bs :=
  (Ptr.holds_ofBytes bs).slice_eq

lemma beq_iff {a b : StringView} : (a == b) = true ↔ a.bytes = b.bytes := by
  show (a.bytes == b.bytes) = true ↔ _
  exact beq_iff_eq

end StringView

/-- The six octets of an Ethernet address. -/
structure MAC where
  m_mac : List UInt8
  size : m_mac.length = 6
  deriving DecidableEq

instance : Inhabited MAC := ⟨⟨[0, 0, 0, 0, 0, 0], rfl⟩⟩

/-- `MAC(bytes)`: copy the six octets `bytes` points at. -/
def MAC.read (bytes : Ptr) : Traced Event MAC :=
  ⟨⟨bytes.mem.slice bytes.off 6, Mem.length_slice _ _ _⟩,
    (List.range 6).map fun i => .read (bytes.off + i)⟩

@[simp] lemma MAC.val_read (bytes : Ptr) :
    (MAC.read bytes).val.m_mac = bytes.mem.slice bytes.off 6 := rfl

@[simp] lemma MAC.all_read {P : Event → Prop} (bytes : Ptr) :
    (MAC.read bytes).All P ↔ ∀ i < 6, P (.read (bytes.off + i)) := by
  simp [MAC.read, Traced.All]

/-! ### GOOSE -/

/-- Unique description of a GOOSE stream. `foundEntries` and `allDataOffset` are what a parser
reports about one frame; they are not part of the identity. -/
structure GoosePassport where
  dmac : MAC := default
  appid : UInt16 := 0
  num : UInt16 := 0
  foundEntries : UInt32 := 0
  crev : UInt32 := 0
  dstIP : UInt32 := 0
  goid : StringView := default
  dataset : StringView := default
  gocbref : StringView := default
  allDataOffset : UInt16 := 0

instance : BEq GoosePassport where
  beq l r := l.dmac == r.dmac && l.appid == r.appid && l.dstIP == r.dstIP && l.goid == r.goid
    && l.dataset == r.dataset && l.gocbref == r.gocbref && l.crev == r.crev && l.num == r.num

/-- What makes two passports the same. -/
lemma GoosePassport.beq_iff {l r : GoosePassport} : (l == r) = true ↔
    l.dmac = r.dmac ∧ l.appid = r.appid ∧ l.dstIP = r.dstIP ∧ l.goid.bytes = r.goid.bytes ∧
      l.dataset.bytes = r.dataset.bytes ∧ l.gocbref.bytes = r.gocbref.bytes ∧ l.crev = r.crev ∧
      l.num = r.num := by
  show (l.dmac == r.dmac && l.appid == r.appid && l.dstIP == r.dstIP && l.goid == r.goid &&
    l.dataset == r.dataset && l.gocbref == r.gocbref && l.crev == r.crev && l.num == r.num) =
      true ↔ _
  simp only [Bool.and_eq_true, beq_iff_eq, StringView.beq_iff, and_assoc]

/-- The sequence numbers of one GOOSE frame. -/
structure GooseState where
  timestamp : UInt64 := 0
  stNum : UInt32 := 0
  sqNum : UInt32 := 0
  deriving DecidableEq

/-- What the receiver keeps of one GOOSE stream. -/
structure GooseSource where
  m_dmac : MAC := default
  m_appid : UInt16 := 0
  m_goid : List UInt8 := []
  m_dataSetRef : List UInt8 := []
  m_gocbRef : List UInt8 := []
  m_crev : UInt32 := 0
  m_numEntries : UInt32 := 0
  m_dstIP : UInt32 := 0
  m_stNum : UInt32 := 0
  m_sqNum : UInt32 := 0
  m_errSeqCnt : UInt32 := 0
  m_spduNumber : UInt32 := 0
  m_errSpduCnt : UInt32 := 0
  deriving DecidableEq

namespace GooseSource

/-- The key a source is registered under. The declared number of entries is cut to 16 bits. -/
def getPassport (src : GooseSource) : GoosePassport where
  dmac := src.m_dmac
  appid := src.m_appid
  dstIP := src.m_dstIP
  crev := src.m_crev
  num := src.m_numEntries.toUInt16
  goid := .ofBytes src.m_goid
  dataset := .ofBytes src.m_dataSetRef
  gocbref := .ofBytes src.m_gocbRef

def getErrSeqNum (src : GooseSource) : UInt32 := src.m_errSeqCnt

def getErrSpduNum (src : GooseSource) : UInt32 := src.m_errSpduCnt

/-- Track the SPDU numbers of a routable stream. Zero means "not seen yet". -/
def processSessionState (src : GooseSource) (spduNumber : UInt32) : GooseSource :=
  { src with
    m_errSpduCnt :=
      if src.m_spduNumber ≠ 0 ∧ spduNumber ≠ src.m_spduNumber + 1 then src.m_errSpduCnt + 1
      else src.m_errSpduCnt
    m_spduNumber := spduNumber }

/-- Track the state numbers. A repeated one is a retransmission. -/
def processState (src : GooseSource) (_pass : GoosePassport) (state : GooseState) : GooseSource :=
  { src with
    m_errSeqCnt :=
      if src.m_stNum ≠ state.stNum then
        if state.stNum ≠ src.m_stNum + 1 then src.m_errSeqCnt + 1 else src.m_errSeqCnt
      else src.m_errSeqCnt
    m_stNum := state.stNum
    m_sqNum := state.sqNum }

end GooseSource

/-! ### Sampled Values -/

/-- Unique description of a Sampled Values stream. -/
structure SVStreamPassport where
  dmac : MAC := default
  appid : UInt16 := 0
  num : UInt16 := 0
  crev : UInt32 := 0
  svid : StringView := default
  dstIP : UInt32 := 0

instance : BEq SVStreamPassport where
  beq l r := l.dmac == r.dmac && l.appid == r.appid && l.num == r.num && l.crev == r.crev
    && l.dstIP == r.dstIP && l.svid == r.svid

lemma SVStreamPassport.beq_iff {l r : SVStreamPassport} : (l == r) = true ↔
    l.dmac = r.dmac ∧ l.appid = r.appid ∧ l.num = r.num ∧ l.crev = r.crev ∧ l.dstIP = r.dstIP ∧
      l.svid.bytes = r.svid.bytes := by
  show (l.dmac == r.dmac && l.appid == r.appid && l.num == r.num && l.crev == r.crev &&
    l.dstIP == r.dstIP && l.svid == r.svid) = true ↔ _
  simp only [Bool.and_eq_true, beq_iff_eq, StringView.beq_iff, and_assoc]

/-- The sample counter of one SV frame. -/
structure SVStreamState where
  smpCnt : UInt16 := 0
  deriving DecidableEq

/-- What the receiver keeps of one SV stream. -/
structure SVStreamSource where
  m_dmac : MAC := default
  m_appid : UInt16 := 0
  m_svid : List UInt8 := []
  m_crev : UInt32 := 0
  m_numASDU : UInt32 := 0
  m_dstIP : UInt32 := 0
  m_smpCnt : UInt32 := 0
  m_errSmpCnt : UInt32 := 0
  m_spduNumber : UInt32 := 0
  m_errSpduCnt : UInt32 := 0
  deriving DecidableEq

namespace SVStreamSource

def getPassport (src : SVStreamSource) : SVStreamPassport where
  dmac := src.m_dmac
  appid := src.m_appid
  crev := src.m_crev
  svid := .ofBytes src.m_svid
  num := src.m_numASDU.toUInt16
  dstIP := src.m_dstIP

def getErrSeqNum (src : SVStreamSource) : UInt32 := src.m_errSmpCnt

def getErrSpduNum (src : SVStreamSource) : UInt32 := src.m_errSpduCnt

/-- As for GOOSE, `GooseSource.processSessionState`. -/
def processSessionState (src : SVStreamSource) (spduNumber : UInt32) : SVStreamSource :=
  { src with
    m_errSpduCnt :=
      if src.m_spduNumber ≠ 0 ∧ spduNumber ≠ src.m_spduNumber + 1 then src.m_errSpduCnt + 1
      else src.m_errSpduCnt
    m_spduNumber := spduNumber }

/-- The sample counter advances by the number of ASDUs in a frame; zero is always taken for the
roll-over. The sum is one of 32 bits. -/
def processState (src : SVStreamSource) (pass : SVStreamPassport) (state : SVStreamState) :
    SVStreamSource :=
  { src with
    m_errSmpCnt :=
      if state.smpCnt.toUInt32 ≠ src.m_smpCnt + pass.num.toUInt32 ∧ state.smpCnt ≠ 0 then
        src.m_errSmpCnt + 1
      else src.m_errSmpCnt
    m_smpCnt := state.smpCnt.toUInt32 }

end SVStreamSource

/-! ### The container -/

/-- Keys that carry an APPID. -/
class HasAppId (K : Type) where
  appid : K → UInt16

instance : HasAppId GoosePassport := ⟨GoosePassport.appid⟩

instance : HasAppId SVStreamPassport := ⟨SVStreamPassport.appid⟩

/-- The value the register holds for an APPID nothing was inserted for. -/
def SIZE_MAX : ℕ := 2 ^ 64 - 1

/-- Entries in insertion order, and for each APPID the index of its latest entry. -/
structure AppIdContainer (K V : Type) where
  m_register : UInt16 → ℕ := fun _ => SIZE_MAX
  m_values : List (K × V) := []

namespace AppIdContainer

variable {K V : Type} [HasAppId K]

/-- The entry of a key, `none` for `end()`. -/
def find [BEq K] (c : AppIdContainer K V) (key : K) : Option ℕ :=
  let idx := c.m_register (HasAppId.appid key)
  match c.m_values[idx]? with
  | some entry => if entry.1 == key then some idx else none
  | none => none

/-- `find(key)->second`, `none` when nothing is found. -/
def lookup [BEq K] (c : AppIdContainer K V) (key : K) : Option V :=
  match c.find key with
  | some idx => c.m_values[idx]?.map Prod.snd
  | none => none

def insert (c : AppIdContainer K V) (key : K) (value : V) : AppIdContainer K V where
  m_register := fun a => if a = HasAppId.appid key then c.m_values.length else c.m_register a
  m_values := c.m_values ++ [(key, value)]

/-- `c[key] = value`. The entry of the APPID is overwritten if there is one, whatever its key. -/
def assign [Inhabited V] (c : AppIdContainer K V) (key : K) (value : V) : AppIdContainer K V :=
  let c' := if c.m_register (HasAppId.appid key) < c.m_values.length then c
    else c.insert key default
  { c' with m_values :=
      c'.m_values.modify (c'.m_register (HasAppId.appid key)) fun entry => (entry.1, value) }

end AppIdContainer

/-- Sources are shared by pointer: the container holds indices into the table of sources. -/
abbrev GooseContainer := AppIdContainer GoosePassport ℕ

abbrev SVContainer := AppIdContainer SVStreamPassport ℕ

end ProcessBus
