import ProcessBus.Parser.Routable.Basic
import ProcessBus.Parser.Sv.Correctness

/-!
# Where the addresses in a passport come from

The APDU names a stream by its strings and numbers. The addresses in a passport come from outside
of it: destination and APPID from the frame or its envelope, the destination group from whoever
called the parser. No element of an APDU changes them.
-/

namespace ProcessBus

open RSess

/-- Destination, APPID and destination group. -/
def GoosePassport.addresses (pass : GoosePassport) : MAC × UInt16 × UInt32 :=
  (pass.dmac, pass.appid, pass.dstIP)

/-- Destination, APPID and destination group. -/
def SVStreamPassport.addresses (pass : SVStreamPassport) : MAC × UInt16 × UInt32 :=
  (pass.dmac, pass.appid, pass.dstIP)

variable {buffer : Ptr} {fuel : ℕ} {a : MAC × UInt16 × UInt32}

/-! ### GOOSE -/

lemma addresses_gooseField {s : GooseWalk} {tag : UInt8} {pos itemSize : ℕ} :
    (gooseField buffer s tag pos itemSize).val.passport.addresses = s.passport.addresses := by
  unfold gooseField
  split_ifs <;> rfl

lemma addresses_gooseRound {skipTag : ℕ → Traced Event Unit} {size : ℕ} {s : ℕ × GooseWalk}
    (hs : s.2.passport.addresses = a) :
    (gooseRound buffer skipTag size fuel s).val.Sat (fun s => s.2.passport.addresses = a)
      fun r => r.passport.addresses = a := by
  unfold gooseRound
  simp only [Traced.val_ite, Traced.val_bind]
  split_ifs
  · exact hs
  · refine Loop.sat_inner fun num => ?_
    rw [Traced.val_ite]
    split_ifs <;> exact hs
  · exact Loop.sat_inner fun _ => hs
  · exact hs
  · exact addresses_gooseField.trans hs
  · exact hs

lemma addresses_gooseWalk {skipTag : ℕ → Traced Event Unit} {size : ℕ} {s : ℕ × GooseWalk}
    {r : GooseParse} (h : (gooseWalk buffer skipTag size fuel s).val = some r) :
    r.passport.addresses = s.2.passport.addresses :=
  Loop.run_post _ _ (fun _ hs => addresses_gooseRound hs) fuel s rfl r h

/-- The APDU leaves the addresses alone. -/
lemma addresses_parseGooseApdu {apduSize : Int32} {passport : GoosePassport} {state : GooseState}
    {r : GooseParse} (h : (parseGooseApdu fuel buffer apduSize passport state).val = some r) :
    r.passport.addresses = passport.addresses := by
  unfold parseGooseApdu at h
  refine Traced.of_val_ite h (fun h => ?_) fun h => ?_
  · cases h
    rfl
  rw [Traced.val_bind] at h
  refine Traced.of_val_ite h (fun h => ?_) fun h => ?_
  · cases h
    rfl
  · exact addresses_gooseWalk h

/-- An accepted L2 frame has both addresses in its header. -/
lemma addresses_parseGoosePacket {size : Int32} {passport : GoosePassport} {state : GooseState}
    {r : GooseParse} (h : (parseGoosePacket fuel buffer size passport state).val = some r)
    (hcode : r.code = 0) :
    ∃ pos, (l2Header buffer 0xB8).val = some pos ∧ r.passport.addresses =
      ((MAC.read buffer).val, UInt16.ofNat (beNat (buffer.mem.slice (buffer.off + pos) 2)),
        passport.dstIP) := by
  unfold parseGoosePacket at h
  refine Traced.of_val_ite h (fun h => ?_) fun h => ?_
  · cases h
    cases hcode
  rw [Traced.val_bind, Traced.val_bind] at h
  cases hpos : (l2Header buffer 0xB8).val with
  | none =>
    rw [hpos] at h
    cases h
    cases hcode
  | some pos =>
    rw [hpos] at h
    simp only [Traced.val_bind] at h
    refine Traced.of_val_ite h (fun h => ?_) fun h => ?_
    · cases h
      cases hcode
    · refine ⟨pos, rfl, (addresses_gooseWalk h).trans ?_⟩
      simp only [GoosePassport.addresses, Ptr.val_load]

/-! ### Sampled Values -/

lemma addresses_svAsduRound {stop declared : ℕ} {s : ℕ × SVWalk}
    (hs : s.2.passport.addresses = a) :
    (svAsduRound buffer fuel stop declared s).val.Sat (fun s => s.2.passport.addresses = a)
      fun r => r.passport.addresses = a := by
  obtain ⟨pos, w⟩ := s
  unfold svAsduRound
  simp only [Traced.val_ite, Traced.val_bind]
  split_ifs
  · cases (takeTlv buffer stop pos 0x30).val with
    | none => exact hs
    | some at' =>
      refine Loop.sat_inner fun r => ?_
      cases r with
      | error code => exact hs
      | ok r =>
        simp only [Traced.val_bind]
        cases hdone : (svAsduDone w r.2).val with
        | error code => exact hs
        | ok w' =>
          obtain ⟨_, hw'⟩ := svAsduDone_iff.mp hdone
          split_ifs at hw'
          · exact hw' ▸ hs
          · exact hw'.2.2 ▸ hs
  · exact hs
  · exact hs

/-- The APDU leaves the addresses alone. -/
lemma addresses_parseSvApdu {apduSize : ℕ} {passport : SVStreamPassport} {state : SVStreamState}
    {r : SVParse} (h : (parseSvApdu fuel buffer apduSize passport state).val = some r) :
    r.passport.addresses = passport.addresses := by
  unfold parseSvApdu at h
  rw [Traced.val_bind] at h
  cases hpdu : (takeTlv buffer apduSize 0 0x60).val with
  | none => rw [hpdu] at h; cases h; rfl
  | some pdu =>
    rw [hpdu] at h
    simp only [Traced.val_bind] at h
    cases hnum : (svNoAsdu buffer pdu.2 pdu.1).val with
    | none => rw [hnum] at h; cases h; rfl
    | some num =>
      rw [hnum] at h
      simp only [Traced.val_bind] at h
      cases hseq : (takeTlv buffer pdu.2 num.2 0xA2).val with
      | none => rw [hseq] at h; cases h; rfl
      | some seq =>
        rw [hseq] at h
        refine Traced.of_val_ite h (fun h => ?_) fun h => ?_
        · cases h
          rfl
        · exact Loop.run_post _ _ (fun _ hs => addresses_svAsduRound hs) fuel _ rfl r h

/-- An accepted L2 frame has both addresses in its header. -/
lemma addresses_parseSvPacket {size : Int32} {passport : SVStreamPassport} {state : SVStreamState}
    {r : SVParse} (h : (parseSvPacket fuel buffer size passport state).val = some r)
    (hcode : r.code = 0) :
    ∃ pos, (l2Header buffer 0xBA).val = some pos ∧ r.passport.addresses =
      ((MAC.read buffer).val, UInt16.ofNat (beNat (buffer.mem.slice (buffer.off + pos) 2)),
        passport.dstIP) := by
  unfold parseSvPacket at h
  refine Traced.of_val_ite h (fun h => ?_) fun h => ?_
  · cases h
    cases hcode
  rw [Traced.val_bind, Traced.val_bind] at h
  cases hpos : (l2Header buffer 0xBA).val with
  | none =>
    rw [hpos] at h
    cases h
    cases hcode
  | some pos =>
    rw [hpos] at h
    simp only [Traced.val_bind] at h
    refine ⟨pos, rfl, (addresses_parseSvApdu h).trans ?_⟩
    simp only [SVStreamPassport.addresses, Ptr.val_load]

/-! ### Routable frames -/

section Routable

variable {size : Int32} {mode : SecurityMode} {crypto : Crypto} {session session' : SessionHeader}

/-- An accepted R-GOOSE frame has its APPID in the payload header. -/
lemma addresses_parseRGoosePacket {passport : GoosePassport} {state : GooseState} {r : GooseParse}
    (h : (parseRGoosePacket fuel buffer size mode crypto session passport state).val =
      some (r, session')) (hcode : r.code = 0) :
    0 ≤ (unwrapRFrame buffer size SI_R_GOOSE PAYLOAD_TYPE_GOOSE mode crypto session).val.code ∧
      r.passport.appid = (unwrapRFrame buffer size SI_R_GOOSE PAYLOAD_TYPE_GOOSE mode crypto
        session).val.phdr.appid := by
  unfold parseRGoosePacket at h
  rw [Traced.val_bind] at h
  generalize (unwrapRFrame buffer size SI_R_GOOSE PAYLOAD_TYPE_GOOSE mode crypto session).val = u
    at h ⊢
  by_cases hu : u.code < 0
  · rw [if_pos hu] at h
    cases h
    dsimp only at hcode
    omega
  · rw [if_neg hu] at h
    obtain ⟨r', hr', heq⟩ := Option.map_eq_some_iff.mp h
    obtain ⟨rfl, _⟩ := Prod.mk.inj heq
    exact ⟨Int.not_lt.mp hu, congrArg (·.2.1) (addresses_parseGooseApdu hr')⟩

/-- An accepted R-SV frame has its APPID in the payload header. -/
lemma addresses_parseRSvPacket {passport : SVStreamPassport} {state : SVStreamState} {r : SVParse}
    (h : (parseRSvPacket fuel buffer size mode crypto session passport state).val =
      some (r, session')) (hcode : r.code = 0) :
    0 ≤ (unwrapRFrame buffer size SI_R_SV PAYLOAD_TYPE_SV mode crypto session).val.code ∧
      r.passport.appid = (unwrapRFrame buffer size SI_R_SV PAYLOAD_TYPE_SV mode crypto
        session).val.phdr.appid := by
  unfold parseRSvPacket at h
  rw [Traced.val_bind] at h
  generalize (unwrapRFrame buffer size SI_R_SV PAYLOAD_TYPE_SV mode crypto session).val = u
    at h ⊢
  by_cases hu : u.code < 0
  · rw [if_pos hu] at h
    cases h
    dsimp only at hcode
    omega
  · rw [if_neg hu] at h
    obtain ⟨r', hr', heq⟩ := Option.map_eq_some_iff.mp h
    obtain ⟨rfl, _⟩ := Prod.mk.inj heq
    exact ⟨Int.not_lt.mp hu, congrArg (·.2.1) (addresses_parseSvApdu hr')⟩

end Routable

end ProcessBus
