import ProcessBus.Common.Session.Readers

/-!
# What `unseal` has checked

When `unseal` returns true, the backend has been asked about ranges that `parse_session` read from
the header, and they lie in the datagram.
-/

namespace ProcessBus.RSess

variable {buf : Ptr} {size : ℕ} {mode : SecurityMode} {session : SessionHeader} {crypto : Crypto}
  {mem : Mem}

variable (buf size mode session crypto mem) in
/-- What has been checked when `unseal` returns true and leaves `mem` behind. -/
structure Accepted : Prop where
  fits : payloadEndOf session + TRAILER_SIZE ≤ size
  signature : buf.mem (buf.off + payloadEndOf session) = SIGNATURE_TAG
  hmac : mode = .SEC_HMAC → mem = buf.mem ∧
    (crypto.verifyHMAC buf (payloadEndOf session) (buf.add (payloadEndOf session + 2))).val = true
  gcm : mode = .SEC_GCM → session.ivLength = IV_LEN_GCM ∧
    buf.mem (buf.off + (payloadEndOf session + 1)) = UInt8.ofNat TAG_SIZE ∧
    ∃ iv plain, session.iv = some iv ∧
      crypto.Decrypt (buf.mem.slice iv IV_LEN_GCM.toNat)
        (buf.mem.slice buf.off (payloadHdrOffset session.ivLength + 4))
        (buf.mem.slice (buf.off + (payloadHdrOffset session.ivLength + 4))
          session.payloadLength.toNat)
        (buf.mem.slice (buf.off + payloadEndOf session + 2) TAG_SIZE) = (true, plain) ∧
      mem = buf.mem.write (buf.off + (payloadHdrOffset session.ivLength + 4)) plain

theorem accepted_of_unsealFrame (hmode : mode ≠ .SEC_NONE)
    (h : (unsealFrame buf size mode session crypto).val = (true, mem)) :
    Accepted buf size mode session crypto mem := by
  have hfits : payloadEndOf session + TRAILER_SIZE ≤ size := by
    by_contra hnot
    unfold unsealFrame at h
    rw [if_neg hmode] at h
    simp only [Traced.val_bind, val_payloadStart, val_payloadEnd, val_trailerEnd] at h
    rw [if_pos (by simp only [TRAILER_SIZE, TAG_SIZE] at hnot; omega)] at h
    cases h
  have hsig : buf.mem (buf.off + payloadEndOf session) = SIGNATURE_TAG := by
    by_contra hnot
    unfold unsealFrame at h
    rw [if_neg hmode] at h
    simp only [Traced.val_bind, val_payloadStart, val_payloadEnd, val_trailerEnd] at h
    rw [if_neg (by simp only [TRAILER_SIZE, TAG_SIZE] at hfits; omega), Traced.val_bind,
      Ptr.val_get, if_pos hnot] at h
    cases h
  rw [val_unsealFrame hmode hfits hsig] at h
  refine ⟨hfits, hsig, fun hhmac => ?_, fun hgcm => ?_⟩
  · rw [if_pos hhmac] at h
    obtain ⟨hok, rfl⟩ := Prod.mk.inj h
    exact ⟨rfl, hok⟩
  · rw [if_neg (by rw [hgcm]; decide)] at h
    cases hiv : session.iv with
    | none =>
      rw [hiv] at h
      cases h
    | some iv =>
      rw [hiv] at h
      dsimp only at h
      by_cases hlen : session.ivLength ≠ IV_LEN_GCM
      · rw [if_pos hlen] at h
        cases h
      rw [if_neg hlen] at h
      rw [not_not] at hlen
      by_cases htag : (buf.mem (buf.off + (payloadEndOf session + 1))).toNat ≠ TAG_SIZE
      · rw [if_pos htag] at h
        cases h
      rw [if_neg htag] at h
      rw [not_not] at htag
      obtain ⟨hok, rfl⟩ := Prod.mk.inj h
      rw [htag] at hok ⊢
      rw [← hlen]
      exact ⟨rfl, UInt8.toNat_inj.mp (htag.trans rfl), iv, _, rfl, Prod.ext hok rfl, rfl⟩

end ProcessBus.RSess
