import ProcessBus.Common.Session.Acceptance
import ProcessBus.Common.Session.RoundTrip

/-!
# Changed datagrams

A sealed datagram of which one octet is changed is no longer accepted, for a backend that is ideal:
a tag that stands in such a datagram verifies only what has been sealed. The receiver finds the
verified range and the tag through the IV length and the payload length. If one of them is changed
another range is verified, with sixteen other octets as its tag, but what has been sealed states its
own length twice, so the range was never sealed.

In mode HMAC one octet is neither checked nor covered: the tag length in the trailer.
-/

namespace ProcessBus.RSess

/-- What a sender seals. -/
structure Pdu where
  params : BuildParams
  apdu : List UInt8
  length_apdu : apdu.length = params.apduLength.toNat

namespace Pdu

variable (p : Pdu)

/-- The octets under the HMAC. -/
def plain : List UInt8 := plainBytes p.params [] p.apdu

def iv : List UInt8 := deriveIV p.params.keyId p.params.spduNumber

/-- What is authenticated but not encrypted. -/
def aad : List UInt8 := aadBytes p.params p.iv

/-- `Encrypt` has produced this ciphertext and tag. -/
def Encrypted (crypto : Crypto) (cipher tag : List UInt8) : Prop :=
  ∃ old, old.length = TAG_SIZE ∧
    crypto.Encrypt p.iv p.aad (elemBytes p.params ++ p.apdu) old = (true, cipher, tag)

/-- The datagram of `p` is `auth`, the head of the trailer and `tag`. -/
inductive Authenticated (crypto : Crypto) : (auth tag : List UInt8) → Prop
  | hmac {tag : List UInt8} (hmode : p.params.mode = .SEC_HMAC)
      (htag : crypto.HMAC p.plain = some tag) : Authenticated crypto p.plain tag
  | gcm {cipher tag : List UInt8} (hmode : p.params.mode = .SEC_GCM)
      (henc : p.Encrypted crypto cipher tag) : Authenticated crypto (p.aad ++ cipher) tag

/-- The size of the datagram, the tag included. -/
def size : ℕ := udpPayloadSize p.params.mode p.apdu.length

/-- Where the tag length stands. -/
def tagLengthAt : ℕ := apduOffset (ivLength p.params.mode) + p.apdu.length + 1

/-- The frame in a buffer: built, filled and sealed. -/
def sealed (crypto : Crypto) (m : Mem) (buf : ℕ) : Bool × Mem :=
  let built := build m buf p.params
  sealFrame (built.1.write (buf + built.2) p.apdu) buf p.params.mode crypto

end Pdu

/-- `VerifyHMAC` succeeds. -/
def Crypto.Verifies (crypto : Crypto) (data tag : List UInt8) : Prop :=
  ∃ expected, crypto.HMAC data = some expected ∧ tagDiff expected tag = 0

/-- What a receiver can find as a tag: octets of a sealed datagram, one of which may be changed. -/
def Crypto.Seen (crypto : Crypto) (Sent : Pdu → Prop) (mode : SecurityMode) (tag : List UInt8) :
    Prop :=
  tag.length = TAG_SIZE ∧ ∃ p auth tag₀, Sent p ∧ p.params.mode = mode ∧
    p.Authenticated crypto auth tag₀ ∧
      ∃ i v, tag <:+: (auth ++ (trailerHead ++ tag₀)).set i v

/-- An ideal backend, when `Sent` has been sealed: with a tag that is seen, `VerifyHMAC` and
`Decrypt` succeed only on what has been sealed, and tags are produced for one input each. -/
structure Crypto.Ideal (crypto : Crypto) (Sent : Pdu → Prop) : Prop where
  verifies : ∀ data tag, crypto.Seen Sent .SEC_HMAC tag → crypto.Verifies data tag →
    ∃ p, Sent p ∧ p.params.mode = .SEC_HMAC ∧ data = p.plain
  hmac_inj : ∀ p p', Sent p → Sent p' → p.params.mode = .SEC_HMAC → p'.params.mode = .SEC_HMAC →
    ∀ tag, crypto.HMAC p.plain = some tag → crypto.HMAC p'.plain = some tag → p.plain = p'.plain
  decrypts : ∀ iv aad cipher tag, crypto.Seen Sent .SEC_GCM tag →
    (crypto.Decrypt iv aad cipher tag).1 = true →
      ∃ p, Sent p ∧ p.params.mode = .SEC_GCM ∧ iv = p.iv ∧ aad = p.aad ∧
        p.Encrypted crypto cipher tag
  encrypt_inj : ∀ p p', Sent p → Sent p' → p.params.mode = .SEC_GCM → p'.params.mode = .SEC_GCM →
    ∀ cipher cipher' tag, p.Encrypted crypto cipher tag → p'.Encrypted crypto cipher' tag →
      p.aad = p'.aad ∧ cipher = cipher'
  encrypt_tag : ∀ p p', Sent p → Sent p' → p.params.mode = .SEC_GCM → p'.params.mode = .SEC_GCM →
    p.aad = p'.aad → ∀ cipher tag tag', p.Encrypted crypto cipher tag →
      p'.Encrypted crypto cipher tag' → tag = tag'

/-- The receive path: `parse_session`, then `unseal`. -/
def Accepts (buf : Ptr) (size : ℕ) (mode : SecurityMode) (crypto : Crypto)
    (session : SessionHeader) : Prop :=
  let r := (parseSession buf size session).val
  0 ≤ r.1 ∧ (unsealFrame buf size mode r.2 crypto).val.1 = true

section Accepts

variable {buf : Ptr} {size : ℕ} {mode : SecurityMode} {crypto : Crypto} {session : SessionHeader}

lemma accepts_iff : Accepts buf size mode crypto session ↔ SessionOk buf size ∧
    (unsealFrame buf size mode (sessionAt buf) crypto).val.1 = true := by
  have hspec := parseSession_spec buf size session
  unfold Accepts
  by_cases hok : SessionOk buf size
  · rw [hspec.ok hok]
    exact ⟨fun h => ⟨hok, h.2⟩, fun h => ⟨Int.natCast_nonneg _, h.2⟩⟩
  · exact ⟨fun h => absurd h.1 (Int.not_le.mpr (hspec.bad hok)), fun h => absurd h.1 hok⟩

lemma val_verifyHMAC {data tag : Ptr} {n : ℕ} : (crypto.verifyHMAC data n tag).val = true ↔
    crypto.Verifies (data.mem.slice data.off n) (tag.mem.slice tag.off TAG_SIZE) := by
  unfold Crypto.verifyHMAC Crypto.Verifies
  rw [Traced.val_bind]
  cases crypto.HMAC (data.mem.slice data.off n) with
  | none => simp
  | some expected => simp

/-- The comparison looks at all octets of a tag. -/
lemma foldl_tagDiff (l : List (UInt8 × UInt8)) (diff : UInt8) :
    l.foldl (fun diff x => diff ||| (x.1 ^^^ x.2)) diff = 0 →
      diff = 0 ∧ ∀ x ∈ l, x.1 = x.2 := by
  induction l generalizing diff with
  | nil => exact fun h => ⟨h, by simp⟩
  | cons x l ih =>
    intro h
    obtain ⟨hor, hl⟩ := ih _ h
    obtain ⟨hdiff, hx⟩ := UInt8.or_eq_zero_iff.mp hor
    exact ⟨hdiff, List.forall_mem_cons.mpr ⟨UInt8.xor_eq_zero_iff.mp hx, hl⟩⟩

lemma Crypto.Verifies.hmac_eq {data tag : List UInt8} (h : crypto.Verifies data tag)
    (htag : tag.length = TAG_SIZE) : crypto.HMAC data = some tag := by
  obtain ⟨expected, hdata, hdiff⟩ := h
  obtain ⟨_, hall⟩ := foldl_tagDiff _ _ hdiff
  have hlen := (crypto.length_HMAC hdata).trans htag.symm
  rw [hdata, Option.some.injEq]
  refine List.ext_getElem hlen fun i hi hi' => ?_
  have hmem : (expected[i], tag[i]) ∈ expected.zip tag := by
    rw [← List.getElem_zip (h := by rw [List.length_zip]; omega)]
    exact List.getElem_mem _
  exact hall _ hmem

end Accepts

/-! ### What is authenticated -/

namespace Pdu

variable {p p' : Pdu} {crypto : Crypto} {auth auth' tag tag' : List UInt8} {m : Mem} {buf : ℕ}

variable (p) in
/-- Where the payload elements end. -/
def elemsEnd : ℕ := payloadHdrOffset (ivLength p.params.mode) + 4 + p.params.payloadLength.toNat

lemma tagLengthAt_eq : p.tagLengthAt = p.elemsEnd + 1 := by
  have := p.params.toNat_payloadLength
  have := p.length_apdu
  simp only [tagLengthAt, elemsEnd, apduOffset, PAYLOAD_HDR_SIZE, PAYLOAD_ELEM_SIZE] at *
  omega

lemma size_eq (hmode : p.params.mode ≠ .SEC_NONE) : p.size = p.elemsEnd + TRAILER_SIZE := by
  have := p.params.toNat_payloadLength
  have := p.length_apdu
  simp only [size, udpPayloadSize, trailerSize, if_neg hmode, elemsEnd, apduOffset,
    PAYLOAD_HDR_SIZE, PAYLOAD_ELEM_SIZE] at *
  omega

lemma length_iv (hmode : p.params.mode = .SEC_GCM) :
    p.iv.length = (ivLength p.params.mode).toNat := by
  rw [iv, length_deriveIV, hmode]
  rfl

lemma Encrypted.length {cipher : List UInt8} (h : p.Encrypted crypto cipher tag) :
    cipher.length = p.params.payloadLength.toNat ∧ tag.length = TAG_SIZE := by
  obtain ⟨old, hold, henc⟩ := h
  obtain ⟨hc, ht⟩ := crypto.length_Encrypt p.iv p.aad (elemBytes p.params ++ p.apdu) old
  rw [henc] at hc ht
  rw [List.length_append, length_elemBytes, p.length_apdu, ← p.params.toNat_payloadLength] at hc
  exact ⟨hc, ht.trans hold⟩

lemma Authenticated.length (h : p.Authenticated crypto auth tag) :
    auth.length = p.elemsEnd ∧ tag.length = TAG_SIZE := by
  cases h with
  | hmac hmode htag =>
    refine ⟨length_plainBytes ?_ p.length_apdu, crypto.length_HMAC htag⟩
    rw [hmode]
    rfl
  | gcm hmode henc =>
    refine ⟨?_, henc.length.2⟩
    rw [List.length_append, aad, length_aadBytes (length_iv hmode), henc.length.1]
    rfl

lemma Authenticated.holds (h : p.Authenticated crypto auth tag) (hm : m.Holds buf auth) :
    m.Holds buf (headBytes p.params) ∧
      m.Holds (buf + payloadHdrOffset (ivLength p.params.mode)) (lengthBytes p.params) := by
  cases h with
  | hmac hmode htag =>
    have hiv : ([] : List UInt8).length = (ivLength p.params.mode).toNat := by rw [hmode]; rfl
    obtain ⟨hhead, _, hlength, _⟩ := (holds_aadBytes hiv).mp hm
    exact ⟨hhead, hlength⟩
  | gcm hmode henc =>
    obtain ⟨hhead, _, hlength, _⟩ := (holds_aadBytes (length_iv hmode)).mp hm
    exact ⟨hhead, hlength⟩

/-- Sealing leaves an authenticated datagram. -/
lemma holds_sealed (hmode : p.params.mode ≠ .SEC_NONE) (hok : (p.sealed crypto m buf).1 = true) :
    ∃ auth tag, p.Authenticated crypto auth tag ∧
      (p.sealed crypto m buf).2.Holds buf (auth ++ (trailerHead ++ tag)) := by
  obtain ⟨hspec, hholds⟩ := sealFrame_spec crypto (holds_built m buf p.params p.apdu)
    List.length_replicate p.length_apdu
  rw [sealed] at hok ⊢
  rw [hspec] at hok
  unfold sealOk at hok
  unfold sealedBytes at hholds
  cases hm : p.params.mode with
  | SEC_NONE => exact absurd hm hmode
  | SEC_HMAC =>
    simp only [hm] at hok hholds ⊢
    obtain ⟨tag, htag⟩ := Option.isSome_iff_exists.mp hok
    rw [htag] at hholds
    exact ⟨_, _, .hmac hm htag, hholds⟩
  | SEC_GCM =>
    simp only [hm] at hok hholds ⊢
    rw [← List.append_assoc] at hholds
    exact ⟨_, _, .gcm hm ⟨_, Mem.length_slice _ _ _, Prod.ext hok rfl⟩, hholds⟩

end Pdu

/-! ### What an ideal backend accepts -/

namespace Crypto.Ideal

variable {crypto : Crypto} {Sent : Pdu → Prop} {p p' : Pdu} {auth auth' tag tag' : List UInt8}
  {m mem : Mem} {buf size : ℕ} {mode : SecurityMode}

/-- What is accepted has been sealed, as far as it is authenticated. -/
lemma authenticated (h : crypto.Ideal Sent) (hmode : mode ≠ .SEC_NONE)
    (hacc : Accepted ⟨m, buf⟩ size mode (sessionAt ⟨m, buf⟩) crypto mem)
    (hseen : crypto.Seen Sent mode
      (m.slice (buf + payloadEndOf (sessionAt ⟨m, buf⟩) + 2) TAG_SIZE)) :
    ∃ p, Sent p ∧ p.params.mode = mode ∧
      p.Authenticated crypto (m.slice buf (payloadEndOf (sessionAt ⟨m, buf⟩)))
        (m.slice (buf + payloadEndOf (sessionAt ⟨m, buf⟩) + 2) TAG_SIZE) := by
  cases mode with
  | SEC_NONE => exact absurd rfl hmode
  | SEC_HMAC =>
    have hverifies := val_verifyHMAC.mp (hacc.hmac rfl).2
    obtain ⟨p, hs, hm, hdata⟩ := h.verifies _ _ hseen hverifies
    have htag := hverifies.hmac_eq (Mem.length_slice _ _ _)
    rw [hdata] at htag
    have hauth := Pdu.Authenticated.hmac hm htag
    rw [← hdata] at hauth
    exact ⟨p, hs, hm, hauth⟩
  | SEC_GCM =>
    obtain ⟨_, _, iv, plain, _, hdecrypt, _⟩ := hacc.gcm rfl
    obtain ⟨p, hs, hm, _, haad, henc⟩ := h.decrypts _ _ _ _ hseen (congrArg Prod.fst hdecrypt)
    have hauth := Pdu.Authenticated.gcm hm henc
    rw [← haad] at hauth
    refine ⟨p, hs, hm, ?_⟩
    rw [payloadEndOf, Mem.slice_add]
    exact hauth

/-- One tag is that of one datagram. -/
lemma auth_unique (h : crypto.Ideal Sent) (hs : Sent p) (hs' : Sent p')
    (hmode : p'.params.mode = p.params.mode) (ha : p.Authenticated crypto auth tag)
    (ha' : p'.Authenticated crypto auth' tag) : auth' = auth := by
  cases ha with
  | hmac hm htag =>
    cases ha' with
    | hmac hm' htag' => exact (h.hmac_inj p p' hs hs' hm hm' tag htag htag').symm
    | gcm hm' _ => exact absurd (hm'.symm.trans (hmode.trans hm)) (by decide)
  | gcm hm henc =>
    cases ha' with
    | hmac hm' _ => exact absurd (hm'.symm.trans (hmode.trans hm)) (by decide)
    | gcm hm' henc' =>
      obtain ⟨haad, hc⟩ := h.encrypt_inj p p' hs hs' hm hm' _ _ tag henc henc'
      rw [haad, hc]

/-- And one datagram has one tag. -/
lemma tag_unique (h : crypto.Ideal Sent) (hs : Sent p) (hs' : Sent p')
    (hmode : p'.params.mode = p.params.mode) (ha : p.Authenticated crypto auth tag)
    (ha' : p'.Authenticated crypto auth tag') : tag' = tag := by
  generalize heq : auth = auth' at ha'
  cases ha with
  | hmac hm htag =>
    cases ha' with
    | hmac hm' htag' =>
      rw [heq] at htag
      exact Option.some.inj (htag'.symm.trans htag)
    | gcm hm' _ => exact absurd (hm'.symm.trans (hmode.trans hm)) (by decide)
  | gcm hm henc =>
    cases ha' with
    | hmac hm' _ => exact absurd (hm'.symm.trans (hmode.trans hm)) (by decide)
    | gcm hm' henc' =>
      have hlen : p.aad.length = p'.aad.length := by
        rw [Pdu.aad, Pdu.aad, length_aadBytes (Pdu.length_iv hm),
          length_aadBytes (Pdu.length_iv hm'), hmode]
      obtain ⟨haad, rfl⟩ := List.append_inj heq hlen
      exact (h.encrypt_tag p p' hs hs' hm hm' haad _ tag tag' henc henc').symm

end Crypto.Ideal

/-! ### One octet is changed -/

section Changed

variable {p p' : Pdu} {m m' : Mem} {buf i : ℕ}

lemma beBytes_of_holds {w a n n' : ℕ} (h : m.Holds a (beBytes w n)) (h' : m'.Holds a (beBytes w n'))
    (hn : n < 256 ^ w) (hn' : n' < 256 ^ w) (heq : ∀ j, a ≤ j → j < a + w → m' j = m j) :
    n' = n := by
  rw [← beNat_of_holds h' hn', ← beNat_of_holds h hn, Mem.slice_congr heq]

/-- The payload length stands in the header twice, so one octet does not change it. -/
lemma payloadLength_eq (hmode : p'.params.mode = p.params.mode)
    (hhead : m.Holds buf (headBytes p.params))
    (hlength : m.Holds (buf + payloadHdrOffset (ivLength p.params.mode)) (lengthBytes p.params))
    (hhead' : m'.Holds buf (headBytes p'.params))
    (hlength' : m'.Holds (buf + payloadHdrOffset (ivLength p'.params.mode))
      (lengthBytes p'.params))
    (honly : ∀ j ≠ i, m' (buf + j) = m (buf + j)) :
    p'.params.payloadLength = p.params.payloadLength := by
  have hagree : ∀ j, buf ≤ j → j ≠ buf + i → m' j = m j := fun j hj hne => by
    obtain ⟨k, rfl⟩ := Nat.exists_eq_add_of_le hj
    exact honly k (by omega)
  by_cases hi : i < 10
  · rw [hmode] at hlength'
    refine UInt32.toNat_inj.mp (beBytes_of_holds hlength hlength'
      p.params.payloadLength.toNat_lt p'.params.payloadLength.toNat_lt fun j hj _ => ?_)
    simp only [payloadHdrOffset, SESSION_FIXED_SIZE] at hj
    exact hagree j (by omega) (by omega)
  · obtain ⟨_, hspdu, _⟩ := holds_headBytes.mp hhead
    obtain ⟨_, hspdu', _⟩ := holds_headBytes.mp hhead'
    have hsum := UInt32.toNat_inj.mp (beBytes_of_holds hspdu hspdu'
      (20 + p.params.payloadLength).toNat_lt (20 + p'.params.payloadLength).toNat_lt
      fun j hj hlt => by
        simp only [OFF_SPDU_LENGTH] at hj hlt
        exact hagree j (by omega) (by omega))
    exact (UInt32.add_right_inj 20).mp hsum

variable {crypto : Crypto} {Sent : Pdu → Prop} {auth tag : List UInt8} {session₀ : SessionHeader}

/-- Wherever the receiver looks for the tag, it finds octets that are seen. -/
lemma seen_of_changed (hs : Sent p) (hauth : p.Authenticated crypto auth tag)
    (hm : m.Holds buf (auth ++ (trailerHead ++ tag)))
    (honly : ∀ j ≠ i, m' (buf + j) = m (buf + j)) {k : ℕ}
    (hk : k + TAG_SIZE ≤ (auth ++ (trailerHead ++ tag)).length) :
    crypto.Seen Sent p.params.mode (m'.slice (buf + k) TAG_SIZE) := by
  refine ⟨Mem.length_slice _ _ _, p, auth, tag, hs, rfl, hauth, i, m' (buf + i), ?_⟩
  have hset : m'.slice buf (auth ++ (trailerHead ++ tag)).length =
      (auth ++ (trailerHead ++ tag)).set i (m' (buf + i)) := by
    refine List.ext_getElem (by rw [Mem.length_slice, List.length_set]) fun j hj _ => ?_
    rw [Mem.length_slice] at hj
    rw [Mem.getElem_slice, List.getElem_set]
    split_ifs with hij
    · rw [hij]
    · exact (honly j (Ne.symm hij)).trans (hm j hj)
  obtain ⟨rest, hrest⟩ := Nat.exists_eq_add_of_le hk
  rw [← hset, hrest, Mem.slice_add, Mem.slice_add]
  exact List.infix_append _ _ _

/-- A change is noticed, unless it is one of the tag length in mode HMAC. -/
theorem not_accepts_of_changed (hideal : crypto.Ideal Sent) (hs : Sent p)
    (hmode : p.params.mode ≠ .SEC_NONE) (hauth : p.Authenticated crypto auth tag)
    (hm : m.Holds buf (auth ++ (trailerHead ++ tag)))
    (honly : ∀ j ≠ i, m' (buf + j) = m (buf + j)) (hne : m' (buf + i) ≠ m (buf + i))
    (hi : i < p.size) (hcovered : ¬(p.params.mode = .SEC_HMAC ∧ i = p.tagLengthAt)) :
    ¬ Accepts ⟨m', buf⟩ p.size p.params.mode crypto session₀ := by
  intro haccepts
  obtain ⟨_, htrue⟩ := accepts_iff.mp haccepts
  have hacc := accepted_of_unsealFrame hmode (Prod.ext htrue rfl)
  obtain ⟨hlen, htagLen⟩ := hauth.length
  have hseen : crypto.Seen Sent p.params.mode
      (m'.slice (buf + payloadEndOf (sessionAt ⟨m', buf⟩) + 2) TAG_SIZE) := by
    refine seen_of_changed hs hauth hm honly (k := payloadEndOf (sessionAt ⟨m', buf⟩) + 2) ?_
    have hfits := hacc.fits
    rw [Pdu.size_eq hmode] at hfits
    rw [List.length_append, List.length_append, hlen, htagLen]
    simpa [TRAILER_SIZE, trailerHead, Nat.add_assoc] using hfits
  obtain ⟨p', hs', hmode', hauth'⟩ := hideal.authenticated hmode hacc hseen
  obtain ⟨hhead, hlength⟩ := hauth.holds (Mem.holds_append.mp hm).1
  obtain ⟨hhead', hlength'⟩ := hauth'.holds (Mem.holds_slice m' buf _)
  have hpay := payloadLength_eq hmode' hhead hlength hhead' hlength' honly
  -- so the receiver looks at the range that was sealed
  have hend : payloadEndOf (sessionAt ⟨m', buf⟩) = p.elemsEnd := by
    have hlen := hauth'.length.1
    rw [Mem.length_slice] at hlen
    rw [hlen, Pdu.elemsEnd, Pdu.elemsEnd, hpay, hmode']
  rw [hend] at hauth'
  obtain ⟨hsig, hsize, htag⟩ := holds_trailer hm
  have hholds := (Mem.holds_append.mp hm).1
  rw [hlen] at hsig hsize htag
  rw [Pdu.size_eq hmode, TRAILER_SIZE] at hi
  rw [Pdu.tagLengthAt_eq] at hcovered
  have hagree : ∀ j, buf ≤ j → j ≠ buf + i → m' j = m j := fun j hj hj' => by
    obtain ⟨k, rfl⟩ := Nat.exists_eq_add_of_le hj
    exact honly k (by omega)
  rcases Nat.lt_trichotomy i p.elemsEnd with hlt | heq | hgt
  · have htag' : m'.slice (buf + p.elemsEnd + 2) TAG_SIZE = tag := by
      refine Eq.trans (Mem.slice_congr fun j hj _ => hagree j (by omega) (by omega)) ?_
      exact htagLen ▸ htag.slice_eq
    rw [htag'] at hauth'
    have hsame := hideal.auth_unique hs hs' hmode' hauth hauth'
    rw [← hholds.slice_eq, hlen] at hsame
    exact hne (Mem.eq_of_slice_eq hsame hlt)
  · have hsig' : m' (buf + p.elemsEnd) = SIGNATURE_TAG := by
      have := hacc.signature
      rwa [hend] at this
    rw [heq] at hne
    exact hne (hsig'.trans hsig.symm)
  · have hsame : m'.slice buf p.elemsEnd = auth := by
      refine Eq.trans (Mem.slice_congr fun j hj _ => hagree j hj (by omega)) ?_
      exact hlen ▸ hholds.slice_eq
    rw [hsame] at hauth'
    have htag' := hideal.tag_unique hs hs' hmode' hauth hauth'
    by_cases hi' : i = p.elemsEnd + 1
    · have hgcm : p.params.mode = .SEC_GCM := by
        cases hm' : p.params.mode with
        | SEC_NONE => exact absurd hm' hmode
        | SEC_HMAC => exact absurd ⟨hm', hi'⟩ hcovered
        | SEC_GCM => rfl
      have hsize' := (hacc.gcm hgcm).2.1
      rw [hend] at hsize'
      rw [hi'] at hne
      exact hne (hsize'.trans hsize.symm)
    · rw [← htag.slice_eq, htagLen] at htag'
      have := Mem.eq_of_slice_eq (i := i - (p.elemsEnd + 2)) htag' (by omega)
      rw [show buf + p.elemsEnd + 2 + (i - (p.elemsEnd + 2)) = buf + i by omega] at this
      exact hne this

/-- The tag length is not looked at in mode HMAC. -/
lemma accepts_of_tagLength (hmode : p.params.mode = .SEC_HMAC)
    (hsi : p.params.si = SI_R_GOOSE ∨ p.params.si = SI_R_SV)
    (hauth : p.Authenticated crypto auth tag) (hm : m.Holds buf (auth ++ (trailerHead ++ tag)))
    (honly : ∀ j ≠ p.tagLengthAt, m' (buf + j) = m (buf + j)) :
    Accepts ⟨m', buf⟩ p.size p.params.mode crypto session₀ := by
  have hne : p.params.mode ≠ .SEC_NONE := by rw [hmode]; decide
  obtain ⟨hlen, htagLen⟩ := hauth.length
  obtain ⟨hsig, _, htag⟩ := holds_trailer hm
  rw [hlen] at hsig htag
  have hagree : ∀ j, buf ≤ j → j ≠ buf + (p.elemsEnd + 1) → m' j = m j := fun j hj hj' => by
    obtain ⟨k, rfl⟩ := Nat.exists_eq_add_of_le hj
    exact honly k (by rw [Pdu.tagLengthAt_eq]; omega)
  have hholds : m'.Holds buf auth :=
    (Mem.holds_append.mp hm).1.congr fun j hj hlt => hagree j hj (by omega)
  have htag' : m'.slice (buf + (p.elemsEnd + 2)) TAG_SIZE = tag := by
    refine Eq.trans (Mem.slice_congr fun j hj _ => hagree j (by omega) (by omega)) ?_
    exact htagLen ▸ htag.slice_eq
  obtain ⟨hhead, hlength⟩ := hauth.holds hholds
  have hsize := Pdu.size_eq hne
  have hend : payloadEndOf (sessionOf p.params buf) = p.elemsEnd := rfl
  refine accepts_iff.mpr ⟨sessionOk_of_holds hhead hlength hsi ?_, ?_⟩
  · rw [Pdu.size, udpPayloadSize, p.length_apdu]
    exact Nat.le_add_right _ _
  · rw [sessionAt_of_holds hhead hlength, val_unsealFrame hne (by rw [hend, hsize]; rfl)
      ((hagree _ (Nat.le_add_right _ _) (by omega)).trans hsig),
      if_pos hmode, hend]
    refine val_verifyHMAC.mpr ⟨tag, ?_, ?_⟩
    · cases hauth with
      | hmac _ h =>
        rw [← hlen, hholds.slice_eq]
        exact h
      | gcm hgcm _ => exact absurd (hgcm.symm.trans hmode) (by decide)
    · exact (congrArg (tagDiff tag) htag').trans (tagDiff_self tag)

/-- Sealed datagrams are tamper-evident: a changed octet leads to rejection, unless it is the tag
length of an HMAC datagram, whose change is always accepted. -/
theorem rejects_changed_iff (hideal : crypto.Ideal Sent) (p : Pdu) (hs : Sent p)
    (hmode : p.params.mode ≠ .SEC_NONE) (m : Mem) (buf : ℕ)
    (hok : (p.sealed crypto m buf).1 = true) (i : ℕ) (hi : i < p.size) (v : UInt8)
    (hv : v ≠ (p.sealed crypto m buf).2 (buf + i)) (session₀ : SessionHeader) :
    ¬ Accepts ⟨(p.sealed crypto m buf).2.write (buf + i) [v], buf⟩ p.size p.params.mode crypto
        session₀ ↔
      ¬(p.params.mode = .SEC_HMAC ∧ i = p.tagLengthAt ∧
        (p.params.si = SI_R_GOOSE ∨ p.params.si = SI_R_SV)) := by
  obtain ⟨auth, tag, hauth, hm⟩ := Pdu.holds_sealed hmode hok
  generalize (p.sealed crypto m buf).2 = m at hm hv
  have honly : ∀ j ≠ i, m.write (buf + i) [v] (buf + j) = m (buf + j) := fun j hj => by
    rcases Nat.lt_or_gt_of_ne hj with hlt | hgt
    · exact Mem.write_of_lt (by omega)
    · exact Mem.write_of_ge (by rw [List.length_singleton]; omega)
  have hchanged : m.write (buf + i) [v] (buf + i) = v :=
    (Mem.holds_cons.mp (Mem.holds_write _ _ _)).1
  constructor
  · rintro hrejects ⟨hhmac, rfl, hsi⟩
    exact hrejects (accepts_of_tagLength hhmac hsi hauth hm honly)
  · intro hnot haccepts
    by_cases hcovered : p.params.mode = .SEC_HMAC ∧ i = p.tagLengthAt
    · -- a PDU of neither kind is never accepted
      obtain ⟨hhmac, rfl⟩ := hcovered
      have hsi := (accepts_iff.mp haccepts).1.si
      obtain ⟨hhead, _⟩ := hauth.holds (Mem.holds_append.mp hm).1
      have hlt : OFF_SI < p.tagLengthAt := by
        simp only [Pdu.tagLengthAt, OFF_SI, apduOffset, PAYLOAD_HDR_SIZE]
        omega
      have hsi' := (honly OFF_SI hlt.ne).trans (holds_headBytes.mp hhead).1.2.2.1
      exact hnot ⟨hhmac, rfl, hsi' ▸ hsi⟩
    · exact not_accepts_of_changed hideal hs hmode hauth hm honly (hchanged.symm ▸ hv) hi hcovered
        haccepts

/-! ### The recorded datagram -/

/-- The recorded frame in mode HMAC. -/
def samplePdu : Pdu := ⟨{ sampleParams with mode := .SEC_HMAC }, sampleApdu, rfl⟩

/-- A backend that has sealed nothing else: every other text gets the same tag. -/
def sampleIdeal : Crypto where
  HMAC data := some (if data = samplePdu.plain then sampleHMAC else List.replicate TAG_SIZE 0xCC)
  Encrypt _ _ data tag := (true, data, List.replicate tag.length 0xCC)
  Decrypt _ _ data tag := (tag = List.replicate tag.length 0xCC, data)
  length_HMAC h := by
    cases h
    split_ifs <;> rfl
  length_Encrypt _ _ _ tag := ⟨rfl, List.length_replicate⟩
  length_Decrypt _ _ _ _ := rfl

lemma lawful_sampleIdeal : sampleIdeal.Lawful where
  hmac_succeeds _ := rfl
  decrypt_encrypt iv aad data tag _ _ := by simp [sampleIdeal]

lemma count_set_le (bs : List UInt8) (i : ℕ) (v x : UInt8) :
    (bs.set i v).count x ≤ bs.count x + 1 := by
  by_cases hi : i < bs.length
  · rw [List.count_set hi]
    split_ifs <;> omega
  · rw [List.set_eq_of_length_le (Nat.le_of_not_lt hi)]
    exact Nat.le_succ _

/-- The tag of the other texts is not seen: one octet of it could be. -/
lemma not_seen_replicate :
    ¬ sampleIdeal.Seen (· = samplePdu) .SEC_HMAC (List.replicate TAG_SIZE 0xCC) := by
  rintro ⟨_, p, auth, tag, rfl, _, hauth, i, v, hinfix⟩
  have hdatagram : auth ++ (trailerHead ++ tag) =
      samplePdu.plain ++ (trailerHead ++ sampleHMAC) := by
    cases hauth with
    | hmac _ htag => cases htag; rfl
    | gcm hmode _ => cases hmode
  rw [hdatagram] at hinfix
  have hcount := hinfix.sublist.count_le 0xCC
  rw [List.count_replicate_self] at hcount
  have hzero : (samplePdu.plain ++ (trailerHead ++ sampleHMAC)).count 0xCC = 0 := by decide +kernel
  have hle := count_set_le (samplePdu.plain ++ (trailerHead ++ sampleHMAC)) i v 0xCC
  rw [hzero] at hle
  exact absurd (hcount.trans hle) (by decide)

lemma ideal_sampleIdeal : sampleIdeal.Ideal (· = samplePdu) where
  verifies data tag hseen h := by
    have htag := Option.some.inj (h.hmac_eq hseen.1)
    refine ⟨samplePdu, rfl, rfl, ?_⟩
    by_contra hne
    rw [if_neg hne] at htag
    rw [← htag] at hseen
    exact not_seen_replicate hseen
  hmac_inj := by
    rintro p p' rfl rfl _ _ _ _ _
    rfl
  decrypts := by
    rintro _ _ _ _ ⟨_, p, _, _, rfl, hmode, _⟩
    cases hmode
  encrypt_inj := by
    rintro p p' rfl rfl h _
    cases h
  encrypt_tag := by
    rintro p p' rfl rfl h _
    cases h

instance {buf : Ptr} {size : ℕ} {mode : SecurityMode} {session : SessionHeader} :
    Decidable (Accepts buf size mode crypto session) :=
  inferInstanceAs (Decidable (_ ∧ _))

/-- Its tag length is changed from 16 to 0. -/
theorem accepts_changed_samplePdu :
    sampleIdeal.Lawful ∧ sampleIdeal.Ideal (· = samplePdu) ∧
      (samplePdu.sealed sampleIdeal (fun _ => 0) 0).1 = true ∧
      41 < samplePdu.size ∧ (samplePdu.sealed sampleIdeal (fun _ => 0) 0).2 41 = 16 ∧
      Accepts ⟨(samplePdu.sealed sampleIdeal (fun _ => 0) 0).2.write 41 [0], 0⟩ samplePdu.size
        .SEC_HMAC sampleIdeal {} :=
  ⟨lawful_sampleIdeal, ideal_sampleIdeal, by decide +kernel, by decide, by decide +kernel,
    by decide +kernel⟩

/-- Its IV length is changed to that of GCM. -/
theorem rejects_changed_samplePdu :
    ¬ Accepts ⟨(samplePdu.sealed sampleIdeal (fun _ => 0) 0).2.write (0 + 26) [12], 0⟩
      samplePdu.size .SEC_HMAC sampleIdeal {} :=
  (rejects_changed_iff ideal_sampleIdeal samplePdu rfl (by decide) (fun _ => 0) 0
    (by decide +kernel) 26 (by decide) 12 (by decide +kernel) {}).mpr (by decide)

end Changed

end ProcessBus.RSess
