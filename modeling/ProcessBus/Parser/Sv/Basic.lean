import ProcessBus.Parser.Goose.Basic

/-!
# The Sampled Values walk

`parse_sv_apdu` with its bounded readers, and `parse_sv_packet`. Unlike the GOOSE walk, this one
compares every length with what is left of the enclosing element before it uses it. The
subtractions `end - pos` and the additions to the cursor are recorded, so that it can be said
that none of them wraps.

As in the GOOSE walk the loops are given a number of rounds, `fuel`.
-/

namespace ProcessBus

/-! ### Bounded readers -/

/-- The loop of the long form: shift in `n` octets. -/
def boundedOctets (buffer : Ptr) : ℕ → ℕ → ℕ → Traced Event (ℕ × ℕ)
  | 0, length, pos => pure (length, pos)
  | n + 1, length, pos => do
    let b ← buffer.get pos
    let pos ← Cursor.add 32 pos 1
    boundedOctets buffer n (u32 (length <<< 8) ||| b.toNat) pos

/-- `decode_asn1_len_bounded`: the length and the cursor behind the length octets. -/
def decodeAsn1LenBounded (buffer : Ptr) (stop pos : ℕ) : Traced Event (Option (ℕ × ℕ)) :=
  if pos ≥ stop then
    pure none
  else do
    let first ← buffer.get pos
    let pos ← Cursor.add 32 pos 1
    if first &&& 0x80 = 0 then
      pure (some (first.toNat, pos))
    else
      let octets := (first &&& 0x7F).toNat
      if octets = 0 ∨ octets > 4 then
        pure none  -- indefinite or too long
      else do
        let rest ← Cursor.sub 32 stop pos
        if octets > rest then
          pure none
        else do
          let r ← boundedOctets buffer octets 0 pos
          pure (some r)

/-- The length of an element and the check that its value fits. -/
def takeLength (buffer : Ptr) (stop pos : ℕ) : Traced Event (Option (ℕ × ℕ)) := do
  match ← decodeAsn1LenBounded buffer stop pos with
  | none => pure none
  | some (length, pos) => do
    let rest ← Cursor.sub 32 stop pos
    if length > rest then pure none else pure (some (length, pos))

/-- `take_tlv`: the cursor at the value and the end of the value. -/
def takeTlv (buffer : Ptr) (stop pos : ℕ) (expectedTag : UInt8) :
    Traced Event (Option (ℕ × ℕ)) :=
  if pos ≥ stop then
    pure none
  else do
    let tag ← buffer.get pos
    let pos ← Cursor.add 32 pos 1
    if tag ≠ expectedTag then
      pure none
    else do
      match ← takeLength buffer stop pos with
      | none => pure none
      | some (length, pos) => do
        let valueEnd ← Cursor.add 32 pos length
        pure (some (pos, valueEnd))

/-! ### One ASDU -/

namespace SVProfile

def CHANNELS : ℕ := 8
def VALUE_SIZE : ℕ := 4
def QUALITY_SIZE : ℕ := 4
def CHANNEL_SIZE : ℕ := VALUE_SIZE + QUALITY_SIZE
def ASDU_DATA_SIZE : ℕ := CHANNELS * CHANNEL_SIZE
def QUALITY_GOOD : ℕ := 0

end SVProfile

def SV_PARSE_ERR_QUALITY : ℤ := -11

/-- The variables of the field loop, its cursor apart. -/
structure AsduWalk where
  foundSvid : Bool := false
  foundSmpCnt : Bool := false
  foundConfRev : Bool := false
  foundSmpSynch : Bool := false
  foundData : Bool := false
  svid : StringView := default
  smpCnt : UInt16 := 0
  confRev : UInt32 := 0
  previousTag : UInt8 := 0

/-- The offsets of the Quality words: one behind each value. -/
def qualityOffsets : List ℕ :=
  (List.range SVProfile.CHANNELS).map fun i => SVProfile.VALUE_SIZE + i * SVProfile.CHANNEL_SIZE

/-- The loop over the Quality words; it stops at the first that is not good. -/
def qualityGood (apdu : Ptr) (pos : ℕ) : List ℕ → Traced Event Bool
  | [] => pure true
  | off :: rest => do
    let quality ← decodeAsn1Number (apdu.add (pos + off)) SVProfile.QUALITY_SIZE
    if quality ≠ SVProfile.QUALITY_GOOD then pure false else qualityGood apdu pos rest

/-- `switch (tag)`: the new variables or the code to return. -/
def svField (apdu : Ptr) (a : AsduWalk) (tag : UInt8) (pos length : ℕ) :
    Traced Event (Except ℤ AsduWalk) :=
  if tag = 0x80 then  -- svID
    if a.foundSvid ∨ length = 0 then pure (.error (-6))
    else pure (.ok { a with svid := makeStringview (apdu.add pos) length, foundSvid := true })
  else if tag = 0x81 then  -- datset (optional)
    if length = 0 then pure (.error (-6)) else pure (.ok a)
  else if tag = 0x82 then  -- smpCnt
    if a.foundSmpCnt ∨ length ≠ 2 then pure (.error (-6))
    else do
      let n ← decodeAsn1Number (apdu.add pos) length
      pure (.ok { a with smpCnt := UInt16.ofNat n, foundSmpCnt := true })
  else if tag = 0x83 then  -- confRev
    if a.foundConfRev ∨ length ≠ 4 then pure (.error (-6))
    else do
      let n ← decodeAsn1Number (apdu.add pos) length
      pure (.ok { a with confRev := UInt32.ofNat n, foundConfRev := true })
  else if tag = 0x84 then  -- refrTm
    if length ≠ 8 then pure (.error (-6)) else pure (.ok a)
  else if tag = 0x85 then  -- smpSynch
    if a.foundSmpSynch ∨ length ≠ 1 then pure (.error (-6))
    else pure (.ok { a with foundSmpSynch := true })
  else if tag = 0x86 then  -- smpRate
    if length ≠ 2 then pure (.error (-6)) else pure (.ok a)
  else if tag = 0x87 then  -- sequence of INT32 value / 32-bit Quality pairs
    if a.foundData ∨ length ≠ SVProfile.ASDU_DATA_SIZE then pure (.error (-6))
    else do
      if ← qualityGood apdu pos qualityOffsets then
        pure (.ok { a with foundData := true })
      else
        pure (.error SV_PARSE_ERR_QUALITY)
  else if tag = 0x88 then  -- smpMod
    if length ≠ 2 then pure (.error (-6)) else pure (.ok a)
  else
    pure (.error (-6))

/-- One field of an ASDU that ends at `asduEnd`. -/
def svFieldRound (apdu : Ptr) (asduEnd : ℕ) :
    ℕ × AsduWalk → Traced Event (Round (Except ℤ (ℕ × AsduWalk)) (ℕ × AsduWalk))
  | (pos, a) =>
    if pos < asduEnd then do
      let tag ← apdu.get pos
      let pos ← Cursor.add 32 pos 1
      if tag ≤ a.previousTag then
        pure (.done (.error (-6)))  -- duplicate or out-of-order field
      else do
        match ← takeLength apdu asduEnd pos with
        | none => pure (.done (.error (-6)))
        | some (length, pos) => do
          match ← svField apdu { a with previousTag := tag } tag pos length with
          | .error code => pure (.done (.error code))
          | .ok a => do
            let pos ← Cursor.add 32 pos length
            pure (.next (pos, a))
    else
      pure (.done (.ok (pos, a)))

/-! ### The APDU -/

/-- What an SV parser returns, its two output arguments included. -/
structure SVParse where
  code : ℤ
  passport : SVStreamPassport
  state : SVStreamState

/-- The variables of the ASDU loop, its cursor apart. -/
structure SVWalk where
  actualAsdus : ℕ := 0
  passport : SVStreamPassport
  state : SVStreamState

/-- `svid != passport.svid`: views of one size are compared byte by byte. -/
def svidDiffers (l r : StringView) : Traced Event Bool :=
  if l.size ≠ r.size then
    pure true
  else do
    Traced.emit (.range l.data.off l.size)
    Traced.emit (.range r.data.off r.size)
    pure (l != r)

/-- The checks behind the field loop, and what they do to the outer variables. -/
def svAsduDone (w : SVWalk) (a : AsduWalk) : Traced Event (Except ℤ SVWalk) :=
  if ¬ a.foundSvid ∨ ¬ a.foundSmpCnt ∨ ¬ a.foundConfRev ∨ ¬ a.foundSmpSynch ∨ ¬ a.foundData then
    pure (.error (-6))
  else if w.actualAsdus = 0 then
    pure (.ok {
      actualAsdus := 1
      passport := { w.passport with svid := a.svid, crev := a.confRev }
      state := { w.state with smpCnt := a.smpCnt } })
  else do
    -- One frame is dispatched as one stream, so all ASDUs must describe that same stream.
    let differs ← svidDiffers a.svid w.passport.svid
    if differs ∨ a.confRev ≠ w.passport.crev then
      pure (.error (-6))
    else
      pure (.ok { w with actualAsdus := w.actualAsdus + 1 })

/-- One ASDU of a sequence that ends at `sequenceEnd`. -/
def svAsduRound (apdu : Ptr) (fuel sequenceEnd declaredAsdus : ℕ) :
    ℕ × SVWalk → Traced Event (Round SVParse (ℕ × SVWalk))
  | (pos, w) =>
    if pos < sequenceEnd then do
      match ← takeTlv apdu sequenceEnd pos 0x30 with
      | none => pure (.done ⟨-5, w.passport, w.state⟩)
      | some (pos, asduEnd) =>
        Loop.inner (Loop.run (svFieldRound apdu asduEnd) fuel (pos, {})) fun r =>
          match r with
          | .error code => pure (.done ⟨code, w.passport, w.state⟩)
          | .ok (pos, a) => do
            match ← svAsduDone w a with
            | .error code => pure (.done ⟨code, w.passport, w.state⟩)
            | .ok w => pure (.next (pos, w))
    else
      pure (.done ⟨if w.actualAsdus = declaredAsdus then 0 else -7, w.passport, w.state⟩)

/-- `noASDU`: the number it declares and the cursor behind it. -/
def svNoAsdu (apdu : Ptr) (pduEnd pos : ℕ) : Traced Event (Option (ℕ × ℕ)) :=
  if pos ≥ pduEnd then
    pure none
  else do
    let tag ← apdu.get pos
    let pos ← Cursor.add 32 pos 1
    if tag ≠ 0x80 then
      pure none
    else do
      match ← decodeAsn1LenBounded apdu pduEnd pos with
      | none => pure none
      | some (noAsduLength, pos) =>
        if noAsduLength = 0 ∨ noAsduLength > 2 then
          pure none
        else do
          let rest ← Cursor.sub 32 pduEnd pos
          if noAsduLength > rest then
            pure none
          else do
            let declaredAsdus ← decodeAsn1Number (apdu.add pos) noAsduLength
            if declaredAsdus = 0 ∨ declaredAsdus > 2 ^ 16 - 1 then
              pure none
            else do
              let pos ← Cursor.add 32 pos noAsduLength
              pure (some (declaredAsdus, pos))

/-- `parse_sv_apdu`. -/
def parseSvApdu (fuel : ℕ) (apdu : Ptr) (apduSize : ℕ) (passport : SVStreamPassport)
    (state : SVStreamState) : Traced Event (Option SVParse) := do
  match ← takeTlv apdu apduSize 0 0x60 with
  | none => pure (some ⟨-3, passport, state⟩)
  | some (pos, pduEnd) => do
    match ← svNoAsdu apdu pduEnd pos with
    | none => pure (some ⟨-4, passport, state⟩)
    | some (declaredAsdus, pos) => do
      let passport := { passport with num := UInt16.ofNat declaredAsdus }
      match ← takeTlv apdu pduEnd pos 0xA2 with
      | none => pure (some ⟨-4, passport, state⟩)
      | some (pos, sequenceEnd) =>
        if sequenceEnd ≠ pduEnd then
          pure (some ⟨-4, passport, state⟩)
        else
          Loop.run (svAsduRound apdu fuel sequenceEnd declaredAsdus) fuel
            (pos, { passport := passport, state := state })

/-- `ProcessBusParser::parse_sv_packet`. -/
def parseSvPacket (fuel : ℕ) (buffer : Ptr) (size : Int32) (passport : SVStreamPassport)
    (state : SVStreamState) : Traced Event (Option SVParse) :=
  if size.toInt < 64 then
    pure (some ⟨-1, passport, state⟩)
  else do
    let dmac ← MAC.read buffer
    let passport := { passport with dmac := dmac }
    match ← l2Header buffer 0xBA with
    | none => pure (some ⟨-2, passport, state⟩)
    | some pos => do
      let appid ← buffer.load pos 2
      let passport := { passport with appid := UInt16.ofNat appid }
      -- behind APPID, Length, Reserv1, Reserv2
      let apduSize ← Cursor.sub 32 size.toInt.toNat (pos + 8)
      parseSvApdu fuel (buffer.add (pos + 8)) apduSize passport state

end ProcessBus
