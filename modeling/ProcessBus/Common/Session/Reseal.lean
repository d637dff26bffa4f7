import ProcessBus.Common.Session.Layout
import ProcessBus.Lib.Patch

/-!
# Sealing a reused buffer

`seal` stores the trailer and, under AES-GCM, the IV and the payload elements. What it stores is a
function of the rest of the frame, so two buffers that agree on the rest are sealed to the same
frame.
-/

namespace ProcessBus.RSess

/-- What is assumed of a backend when buffers are reused: it writes its whole output, and the
output does not depend on what was there. -/
structure Crypto.Deterministic (crypto : Crypto) : Prop where
  hmac_succeeds : ∀ data, (crypto.HMAC data).isSome
  encrypt_tag : ∀ iv aad data tag tag', tag.length = tag'.length →
    crypto.Encrypt iv aad data tag = crypto.Encrypt iv aad data tag'

/-- Where the payload elements of a frame at `buf` end. -/
def elemsEnd (mode : SecurityMode) (buf n : ℕ) : ℕ :=
  buf + (payloadHdrOffset (ivLength mode) + 4 + n)

/-- Where the IV of a frame at `buf` is. -/
def InIV (mode : SecurityMode) (buf i : ℕ) : Prop :=
  mode = .SEC_GCM ∧ buf + OFF_IV ≤ i ∧ i < buf + OFF_IV + IV_LEN_GCM.toNat

/-- Where `seal` stores in a frame at `buf` with `n` octets of payload elements. -/
def Resealed (mode : SecurityMode) (buf n i : ℕ) : Prop :=
  (mode ≠ .SEC_NONE ∧ elemsEnd mode buf n ≤ i ∧ i < elemsEnd mode buf n + TRAILER_SIZE) ∨
  InIV mode buf i ∨
  (mode = .SEC_GCM ∧ buf + (payloadHdrOffset (ivLength mode) + 4) ≤ i ∧ i < elemsEnd mode buf n)

/-- The layout that `seal` reads back from a frame at `buf`. -/
structure SealLayout (mode : SecurityMode) (buf n : ℕ) (m : Mem) : Prop where
  ivLen : m (buf + OFF_IV_LENGTH) = ivLength mode
  length : beNat (m.slice (buf + payloadHdrOffset (ivLength mode)) 4) = n

variable {mode : SecurityMode} {crypto : Crypto} {buf n i : ℕ} {m m' : Mem}

/-- The two octets in front of a tag. -/
def withTrailerHead (m : Mem) (a : ℕ) : Mem :=
  putU8 (putU8 m a SIGNATURE_TAG) (a + 1) (UInt8.ofNat TAG_SIZE)

lemma withTrailerHead_of_lt {a : ℕ} (h : i < a) : withTrailerHead m a i = m i := by
  rw [withTrailerHead, putU8, putU8, Mem.write_of_lt (by omega), Mem.write_of_lt h]

lemma withTrailerHead_of_ge {a : ℕ} (h : a + 2 ≤ i) : withTrailerHead m a i = m i := by
  rw [withTrailerHead, putU8, putU8, Mem.write_of_ge, Mem.write_of_ge]
  · rw [List.length_singleton]
    omega
  · rw [List.length_singleton]
    omega

lemma withTrailerHead_eq {a : ℕ} (h : ¬(a ≤ i ∧ i < a + 2) → m i = m' i) :
    withTrailerHead m a i = withTrailerHead m' a i := by
  refine Mem.write_eq fun h₁ => Mem.write_eq fun h₂ => h ?_
  rw [List.length_singleton] at h₁ h₂
  omega

/-- The frame sealed with HMAC. -/
lemma sealFrame_hmac (h : SealLayout .SEC_HMAC buf n m) :
    (sealFrame m buf .SEC_HMAC crypto).2 =
      match crypto.HMAC (m.slice buf (elemsEnd .SEC_HMAC 0 n)) with
      | none => withTrailerHead m (elemsEnd .SEC_HMAC buf n)
      | some tag => (withTrailerHead m (elemsEnd .SEC_HMAC buf n)).write
          (elemsEnd .SEC_HMAC buf n + 2) tag := by
  have hslice : (withTrailerHead m (elemsEnd .SEC_HMAC buf n)).slice buf
      (elemsEnd .SEC_HMAC 0 n) = m.slice buf (elemsEnd .SEC_HMAC 0 n) :=
    Mem.slice_congr fun i _ hi => withTrailerHead_of_lt (by simp only [elemsEnd] at hi ⊢; omega)
  simp only [elemsEnd, Nat.zero_add] at hslice ⊢
  simp only [sealFrame, h.ivLen, h.length, reduceCtorEq, if_false, if_true]
  rw [← withTrailerHead, hslice]
  cases crypto.HMAC (m.slice buf (payloadHdrOffset (ivLength .SEC_HMAC) + 4 + n)) <;> rfl

/-- The IV goes into the header in front of encryption. -/
def withIV (m : Mem) (buf n : ℕ) : Mem :=
  let m := withTrailerHead m (elemsEnd .SEC_GCM buf n)
  m.write (buf + OFF_IV) (deriveIV (UInt32.ofNat (beNat (m.slice (buf + OFF_KEY_ID) 4)))
    (UInt32.ofNat (beNat (m.slice (buf + OFF_SPDU_NUMBER) 4))))

/-- The frame sealed with AES-GCM. -/
lemma sealFrame_gcm (h : SealLayout .SEC_GCM buf n m) :
    (sealFrame m buf .SEC_GCM crypto).2 =
      let m' := withIV m buf n
      let r := crypto.Encrypt (m'.slice (buf + OFF_IV) IV_LEN_GCM.toNat)
        (m'.slice buf (payloadHdrOffset IV_LEN_GCM + 4))
        (m'.slice (buf + (payloadHdrOffset IV_LEN_GCM + 4)) n)
        (m'.slice (elemsEnd .SEC_GCM buf n + 2) TAG_SIZE)
      (m'.write (buf + (payloadHdrOffset IV_LEN_GCM + 4)) r.2.1).write
        (elemsEnd .SEC_GCM buf n + 2) r.2.2 := by
  simp only [sealFrame, h.ivLen, h.length, reduceCtorEq, if_false]
  rfl

/-- Two buffers that agree in front of the trailer, the IV apart, agree there behind the IV. -/
lemma withIV_eq (hsame : ∀ j, buf ≤ j → j < elemsEnd .SEC_GCM buf n → ¬ InIV .SEC_GCM buf j →
    m j = m' j)
    (hi : ¬(InIV .SEC_GCM buf i ∨ elemsEnd .SEC_GCM buf n ≤ i ∧ i < elemsEnd .SEC_GCM buf n + 2) →
      m i = m' i) :
    withIV m buf n i = withIV m' buf n i := by
  have hhead : ∀ a, a + 4 ≤ OFF_IV →
      (withTrailerHead m (elemsEnd .SEC_GCM buf n)).slice (buf + a) 4 =
        (withTrailerHead m' (elemsEnd .SEC_GCM buf n)).slice (buf + a) 4 := fun a ha => by
    refine Mem.slice_congr fun j hj hj' => ?_
    have hlt : j < elemsEnd .SEC_GCM buf n := by
      simp only [elemsEnd, payloadHdrOffset, SESSION_FIXED_SIZE, OFF_IV] at ha ⊢
      omega
    rw [withTrailerHead_of_lt hlt, withTrailerHead_of_lt hlt]
    refine hsame j (by omega) hlt fun h => ?_
    have := h.2.1
    omega
  rw [withIV, withIV, hhead OFF_KEY_ID (by decide), hhead OFF_SPDU_NUMBER (by decide)]
  refine Mem.write_eq fun hiv => withTrailerHead_eq fun htrailer => hi ?_
  rw [length_deriveIV] at hiv
  rintro (h | h)
  · exact hiv h.2
  · exact htrailer h

/-- Two buffers that agree in front of the trailer, the IV apart, are sealed alike. -/
theorem sealFrame_eq (hdet : crypto.Deterministic) (hm : SealLayout mode buf n m)
    (hm' : SealLayout mode buf n m')
    (hsame : ∀ j, buf ≤ j → j < elemsEnd mode buf n → ¬ InIV mode buf j → m j = m' j)
    (hi : ¬ Resealed mode buf n i → m i = m' i) :
    (sealFrame m buf mode crypto).2 i = (sealFrame m' buf mode crypto).2 i := by
  cases mode with
  | SEC_NONE => exact hi (by simp [Resealed, InIV])
  | SEC_HMAC =>
    have hslice : m.slice buf (elemsEnd .SEC_HMAC 0 n) = m'.slice buf (elemsEnd .SEC_HMAC 0 n) :=
      Mem.slice_congr fun j hj hj' => hsame j hj (by simp only [elemsEnd] at hj' ⊢; omega)
        fun h => absurd h.1 (by decide)
    obtain ⟨tag, htag⟩ := Option.isSome_iff_exists.mp
      (hdet.hmac_succeeds (m.slice buf (elemsEnd .SEC_HMAC 0 n)))
    rw [sealFrame_hmac hm, sealFrame_hmac hm', ← hslice, htag]
    dsimp only
    refine Mem.write_eq fun htagRange => withTrailerHead_eq fun hhead => hi ?_
    rw [crypto.length_HMAC htag] at htagRange
    rintro (⟨_, hle, hlt⟩ | h | h)
    · rw [TRAILER_SIZE] at hlt
      omega
    · exact absurd h.1 (by decide)
    · exact absurd h.1 (by decide)
  | SEC_GCM =>
    have hfront : ∀ a k, elemsEnd .SEC_GCM 0 n ≥ a + k →
        (withIV m buf n).slice (buf + a) k = (withIV m' buf n).slice (buf + a) k := by
      intro a k hk
      refine Mem.slice_congr fun j hj hj' => withIV_eq hsame fun hout => ?_
      simp only [elemsEnd] at hk
      refine hsame j (by omega) (by simp only [elemsEnd]; omega) fun h => hout (.inl h)
    have hend : elemsEnd .SEC_GCM 0 n = payloadHdrOffset IV_LEN_GCM + 4 + n := Nat.zero_add _
    have hle : payloadHdrOffset IV_LEN_GCM + 4 ≤ elemsEnd .SEC_GCM 0 n := by omega
    rw [sealFrame_gcm hm, sealFrame_gcm hm']
    dsimp only
    have haad := hfront 0 (payloadHdrOffset IV_LEN_GCM + 4) (by rw [Nat.zero_add]; exact hle)
    have hdata := hfront (payloadHdrOffset IV_LEN_GCM + 4) n hend.ge
    rw [Nat.add_zero] at haad
    rw [hfront OFF_IV _ (le_trans (by decide) hle), haad, hdata, hdet.encrypt_tag _ _ _
      ((withIV m buf n).slice (elemsEnd .SEC_GCM buf n + 2) TAG_SIZE)
      ((withIV m' buf n).slice (elemsEnd .SEC_GCM buf n + 2) TAG_SIZE) (by simp)]
    obtain ⟨hdataLen, htagLen⟩ := crypto.length_Encrypt
      ((withIV m' buf n).slice (buf + OFF_IV) IV_LEN_GCM.toNat)
      ((withIV m' buf n).slice buf (payloadHdrOffset IV_LEN_GCM + 4))
      ((withIV m' buf n).slice (buf + (payloadHdrOffset IV_LEN_GCM + 4)) n)
      ((withIV m' buf n).slice (elemsEnd .SEC_GCM buf n + 2) TAG_SIZE)
    rw [Mem.length_slice] at hdataLen htagLen
    refine Mem.write_eq fun htagRange => Mem.write_eq fun hdataRange =>
      withIV_eq hsame fun hout => hi ?_
    rw [hdataLen] at hdataRange
    rw [htagLen] at htagRange
    rintro (⟨_, hge, hlt⟩ | h | ⟨_, hge, hlt⟩)
    · rw [TRAILER_SIZE] at hlt
      exact htagRange ⟨by omega, by omega⟩
    · exact hout (.inl h)
    · refine hdataRange ⟨hge, ?_⟩
      rw [elemsEnd, show ivLength .SEC_GCM = IV_LEN_GCM from rfl] at hlt
      omega

/-- Everything else stays. -/
theorem sealFrame_of_not_resealed (hm : SealLayout mode buf n m)
    (hi : ¬ Resealed mode buf n i) : (sealFrame m buf mode crypto).2 i = m i := by
  simp only [Resealed, not_or] at hi
  obtain ⟨htrailer, hiv, helems⟩ := hi
  have hout : mode ≠ .SEC_NONE → ∀ bs : List UInt8, bs.length ≤ TAG_SIZE →
      ¬(elemsEnd mode buf n + 2 ≤ i ∧ i < elemsEnd mode buf n + 2 + bs.length) := by
    intro hmode bs hbs h
    refine htrailer ⟨hmode, by omega, ?_⟩
    rw [TRAILER_SIZE]
    omega
  have hhead : mode ≠ .SEC_NONE → withTrailerHead m (elemsEnd mode buf n) i = m i := fun hmode => by
    by_cases hlt : i < elemsEnd mode buf n
    · exact withTrailerHead_of_lt hlt
    · refine withTrailerHead_of_ge ?_
      by_contra hge
      exact htrailer ⟨hmode, by omega, by rw [TRAILER_SIZE]; omega⟩
  cases mode with
  | SEC_NONE => rfl
  | SEC_HMAC =>
    rw [sealFrame_hmac hm]
    cases htag : crypto.HMAC (m.slice buf (elemsEnd .SEC_HMAC 0 n)) with
    | none => exact hhead (by decide)
    | some tag =>
      dsimp only
      rw [Mem.write_of_not_mem (hout (by decide) _ (crypto.length_HMAC htag).le)]
      exact hhead (by decide)
  | SEC_GCM =>
    rw [sealFrame_gcm hm]
    dsimp only
    rw [Mem.write_of_not_mem (hout (by decide) _ ?_), Mem.write_of_not_mem, withIV,
      Mem.write_of_not_mem]
    · exact hhead (by decide)
    · rw [length_deriveIV]
      exact fun h => hiv ⟨rfl, h⟩
    · rw [(crypto.length_Encrypt _ _ _ _).1, Mem.length_slice]
      refine fun h => helems ⟨rfl, h.1, ?_⟩
      rw [elemsEnd, show ivLength .SEC_GCM = IV_LEN_GCM from rfl]
      omega
    · rw [(crypto.length_Encrypt _ _ _ _).2, Mem.length_slice]

end ProcessBus.RSess
