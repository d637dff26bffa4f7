import ProcessBus.Lib.Loop
import ProcessBus.Parser.Asn1

/-!
# The GOOSE walk

`parse_goose_packet` and the walk that `parse_r_goose_packet` repeats on its APDU. The walk reads
one tag and length after the other and moves its cursor by the length; three kinds of elements are
walked differently: allData (`0xAB`), sequences and sets (`0x30`, `0x31`), and `0xA0`, `0xA1`,
whose content is taken for another length field.

None of the loops has a bound of its own in the source. Here they are all given the same number
of rounds, `fuel`, and the result is `none` when that does not suffice.
-/

namespace ProcessBus

/-! ### allData -/

/-- Nesting is bounded so a crafted frame can't run the stack out. -/
def MAX_DATA_DEPTH : ℕ := 8

/-- One entry of a dataset. `nested` is the call for the value of an array or a structure. -/
def alldataRound (buffer : Ptr) (nested : ℕ → ℕ → Traced Event (Option ℤ)) (stop : ℕ) :
    ℕ × ℤ → Traced Event (Round ℤ (ℕ × ℤ))
  | (pos, num) =>
    if pos < stop then do
      let tag ← buffer.get pos
      if u32 (pos + 1) ≥ stop then
        pure (.done (-1))
      else do
        let (itemSize, pos) ← decodeAsn1Len buffer (u32 (pos + 1))
        if itemSize ≥ 2 ^ 31 ∨ u32 (pos + itemSize) > stop then
          pure (.done (-1))
        -- 0xA1 array, 0xA2 structure
        else if tag = 0xA1 ∨ tag = 0xA2 then
          Loop.inner (nested pos (u32 (pos + itemSize))) fun n =>
            if n < 0 then pure (.done (-1)) else pure (.next (u32 (pos + itemSize), num + 1))
        else
          pure (.next (u32 (pos + itemSize), num + 1))
    else
      pure (.done num)

/-- `parse_alldata` with `room` levels left. -/
def parseAlldataRoom (buffer : Ptr) (fuel : ℕ) : ℕ → ℕ → ℕ → Traced Event (Option ℤ)
  | 0, _, _ => pure (some (-1))
  | room + 1, pos, stop =>
    Loop.run (alldataRound buffer (parseAlldataRoom buffer fuel room) stop) fuel (pos, 0)

/-- The number of entries on this level, -1 if malformed. -/
def parseAlldata (buffer : Ptr) (fuel pos stop depth : ℕ) : Traced Event (Option ℤ) :=
  parseAlldataRoom buffer fuel (MAX_DATA_DEPTH + 1 - depth) pos stop

/-! ### The walk -/

/-- What a GOOSE parser returns, its two output arguments included. -/
structure GooseParse where
  code : ℤ
  passport : GoosePassport
  state : GooseState

/-- The local variables of the walk, its cursor apart. -/
structure GooseWalk where
  passport : GoosePassport
  state : GooseState
  foundGocbref : Bool := false
  foundDataset : Bool := false
  foundGoid : Bool := false

/-- One element inside a sequence or set. The L2 parser reads its tag, the routable one steps
over it; `tag` is that difference. -/
def skipRound (buffer : Ptr) (tag : ℕ → Traced Event Unit) (stop pos : ℕ) :
    Traced Event (Round ℕ ℕ) :=
  if pos < stop then do
    tag pos
    let (length, pos) ← decodeAsn1Len buffer (u32 (pos + 1))
    pure (.next (u32 (pos + length)))
  else
    pure (.done pos)

/-- The elements that only set a field: what `switch (tag)` stores. -/
def gooseField (buffer : Ptr) (s : GooseWalk) (tag : UInt8) (pos itemSize : ℕ) :
    Traced Event GooseWalk :=
  if tag = 0x80 then  -- gocbRef
    pure { s with
      passport := { s.passport with gocbref := makeStringview (buffer.add pos) itemSize }
      foundGocbref := true }
  else if tag = 0x82 then  -- DatSet
    pure { s with
      passport := { s.passport with dataset := makeStringview (buffer.add pos) itemSize }
      foundDataset := true }
  else if tag = 0x83 then  -- GoID
    pure { s with
      passport := { s.passport with goid := makeStringview (buffer.add pos) itemSize }
      foundGoid := true }
  else if tag = 0x84 then
    if 4 ≤ itemSize ∧ itemSize ≤ 8 then do
      let ts ← buffer.load pos 8
      pure { s with
        state := { s.state with timestamp := UInt64.ofNat (ts >>> ((8 - itemSize) * 8)) } }
    else
      pure s
  else if tag = 0x85 then do
    let n ← decodeAsn1Number (buffer.add pos) itemSize
    pure { s with state := { s.state with stNum := UInt32.ofNat n } }
  else if tag = 0x86 then do
    let n ← decodeAsn1Number (buffer.add pos) itemSize
    pure { s with state := { s.state with sqNum := UInt32.ofNat n } }
  else if tag = 0x88 then do  -- CRev
    let n ← decodeAsn1Number (buffer.add pos) itemSize
    pure { s with passport := { s.passport with crev := UInt32.ofNat n } }
  else if tag = 0x8A then do  -- Num DataSet entries
    let n ← decodeAsn1Number (buffer.add pos) itemSize
    pure { s with passport := { s.passport with num := UInt16.ofNat n } }
  else  -- timeAllowedToLive, Simulation, NdsCom and whatever is not known
    pure s

/-- The checks behind the loop. -/
def gooseFinish (s : GooseWalk) : GooseParse where
  code :=
    if s.passport.foundEntries ≠ s.passport.num.toUInt32 then -102
    else if s.foundGocbref ∧ s.foundDataset ∧ s.foundGoid then 0 else -100
  passport := s.passport
  state := s.state

variable (buffer : Ptr) (skipTag : ℕ → Traced Event Unit) (size fuel : ℕ)

/-- One top-level element. -/
def gooseRound : ℕ × GooseWalk → Traced Event (Round GooseParse (ℕ × GooseWalk))
  | (pos, s) =>
    if pos < size then do
      let tag ← buffer.get pos
      let (itemSize, pos) ← decodeAsn1Len buffer (u32 (pos + 1))
      if u32 (pos + itemSize) > size ∨ itemSize = 0 then
        pure (.done ⟨-3, s.passport, s.state⟩)
      else if tag = 0xAB then  -- allData
        Loop.inner (parseAlldata buffer fuel pos (u32 (pos + itemSize)) 0) fun num =>
          if num < 0 then
            pure (.done ⟨-101, s.passport, s.state⟩)
          else
            pure (.next (u32 (pos + itemSize), { s with
              passport := { s.passport with
                allDataOffset := UInt16.ofNat pos
                foundEntries := UInt32.ofNat num.toNat } }))
      else if tag = 0x30 ∨ tag = 0x31 then  -- SEQUENCE, SET
        Loop.inner (Loop.run (skipRound buffer skipTag (u32 (pos + itemSize))) fuel pos) fun pos =>
          pure (.next (pos, s))
      else if tag = 0xA0 ∨ tag = 0xA1 then do  -- Context-specific 0 and 1
        let (length, pos) ← decodeAsn1Len buffer pos
        pure (.next (u32 (pos + length), s))
      else do
        let s' ← gooseField buffer s tag pos itemSize
        pure (.next (u32 (pos + itemSize), s'))
    else
      pure (.done (gooseFinish s))

/-- The walk from a cursor to the end of the frame or APDU. -/
def gooseWalk (s : ℕ × GooseWalk) : Traced Event (Option GooseParse) :=
  Loop.run (gooseRound buffer skipTag size fuel) fuel s

/-! ### The L2 parser -/

/-- Where the APPID of an L2 frame with EtherType `0x88` `ty` stands, with or without VLAN tag. -/
def l2Header (buffer : Ptr) (ty : UInt8) : Traced Event (Option ℕ) := do
  if ← buffer.expect [(12, 0x81), (13, 0x00), (16, 0x88), (17, ty)] then
    pure (some 18)
  else if ← buffer.expect [(12, 0x88), (13, ty)] then
    pure (some 14)
  else
    pure none

/-- The L2 walk reads the tags inside a sequence or set. -/
def readTag (buffer : Ptr) (pos : ℕ) : Traced Event Unit := do
  let _ ← buffer.get pos

/-- `ProcessBusParser::parse_goose_packet`. -/
def parseGoosePacket (fuel : ℕ) (buffer : Ptr) (size : Int32) (passport : GoosePassport)
    (state : GooseState) : Traced Event (Option GooseParse) :=
  if size.toInt < 64 then
    pure (some ⟨-1, passport, state⟩)
  else do
    let dmac ← MAC.read buffer
    let passport := { passport with dmac := dmac }
    match ← l2Header buffer 0xB8 with
    | none => pure (some ⟨-1, passport, state⟩)
    | some pos => do
      let appid ← buffer.load pos 2
      let passport := { passport with appid := UInt16.ofNat appid }
      let tag ← buffer.get (pos + 8)  -- behind APPID, Length, Reserv1, Reserv2
      if tag ≠ 0x61 then
        pure (some ⟨-3, passport, state⟩)
      else do
        let (_pduSize, pos) ← decodeAsn1Len buffer (pos + 9)
        gooseWalk buffer (readTag buffer) size.toInt.toNat fuel
          (pos, { passport := passport, state := state })

/-! ### The APDU walk of the routable parser -/

/-- The part of `parse_r_goose_packet` behind the envelope: the same walk on the APDU. -/
def parseGooseApdu (fuel : ℕ) (apdu : Ptr) (apduSize : Int32) (passport : GoosePassport)
    (state : GooseState) : Traced Event (Option GooseParse) :=
  if apduSize.toInt < 2 then
    pure (some ⟨-3, passport, state⟩)
  else do
    let tag ← apdu.get 0
    if tag ≠ 0x61 then
      pure (some ⟨-3, passport, state⟩)
    else do
      let (_, pos) ← decodeAsn1Len apdu 1
      gooseWalk apdu (fun _ => pure ()) apduSize.toInt.toNat fuel
        (pos, { passport := passport, state := state })

end ProcessBus
