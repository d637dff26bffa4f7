import ProcessBus.Parser.Goose.Fields

/-!
# What the GOOSE walk reads

The walk decodes tag and length of an element before it compares anything with the end of the
frame, and it loads a timestamp as eight bytes however long it is. So it stays inside the frame
exactly on the frames in which every element head it comes to does, and every timestamp is
followed by enough bytes.
-/

namespace ProcessBus

open Relation

variable {buffer : Ptr} {size fuel p q pos stop room : ℕ}

variable (buffer size) in
/-- The tag and length octets at `p` are inside the frame if the cursor behind them is. -/
lemma all_head (h : p < 2 ^ 31) :
    (decodeAsn1Len buffer (u32 (p + 1))).All (Event.ReadsIn buffer.off size) ↔
      headEnd buffer p ≤ size := by
  have hpos := lenSize_pos buffer.mem (buffer.off + (p + 1))
  rw [u32_of_lt (by omega), all_decodeAsn1Len _ _ (by omega)]
  simp only [Nat.add_assoc, Event.readsIn_read, headEnd]
  constructor
  · intro h
    have := h _ (Nat.sub_lt hpos Nat.one_pos)
    omega
  · intro h j hj
    omega

/-! ### allData -/

/-- Every entry head met in the dataset is inside the frame. -/
def DataFits (buffer : Ptr) (size : ℕ) : ℕ → ℕ → ℕ → Prop
  | 0, _, _ => True
  | room + 1, pos, stop =>
    ∀ p, ReflTransGen (DataStep buffer (Tiled buffer room) stop) pos p → p + 1 < stop →
      headEnd buffer p ≤ size ∧ (EntryAt buffer stop p → IsNested buffer p →
        DataFits buffer size room (headEnd buffer p) (elemEnd buffer p))

lemma all_alldataRound {nested : ℕ → ℕ → Traced Event (Option ℤ)} {s : ℕ × ℤ}
    (hstop : stop ≤ size) (hsize : size ≤ 2 ^ 31) :
    (alldataRound buffer nested stop s).All (Event.ReadsIn buffer.off size) ↔
      (s.1 + 1 < stop → headEnd buffer s.1 ≤ size ∧
        (EntryAt buffer stop s.1 → IsNested buffer s.1 →
          (nested (headEnd buffer s.1) (elemEnd buffer s.1)).All
            (Event.ReadsIn buffer.off size))) := by
  obtain ⟨pos, num⟩ := s
  by_cases hpos : pos < stop
  · have hhead := val_head buffer (show pos < 2 ^ 31 by omega)
    have hall := all_head buffer size (show pos < 2 ^ 31 by omega)
    have hpos1 : u32 (pos + 1) = pos + 1 := u32_of_lt (by omega)
    rw [hpos1] at hhead hall
    simp only [alldataRound, if_pos hpos, hpos1, Traced.all_bind, Ptr.all_get, Ptr.val_get,
      Event.readsIn_read, Traced.all_ite, Traced.all_pure, implies_true, true_and, hall, hhead,
      Loop.all_inner, and_true]
    simp only [show pos < size by omega, true_and, ge_iff_le, Nat.not_le, not_or, gt_iff_lt,
      Nat.not_lt]
    refine forall_congr' fun hlt => and_congr_right fun _ => ?_
    constructor
    · intro h hentry hn
      exact h ⟨hentry.2.1, hentry.2.2⟩ hn
    · intro h hle hn
      exact h ⟨hlt, hle.1, hle.2⟩ hn
  · simp [alldataRound, hpos, show ¬ pos + 1 < stop by omega]

/-- With fewer rounds `parse_alldata` reads less. -/
lemma parseAlldataRoom_anti {f g : ℕ} (hfg : f ≤ g) (hstop : stop ≤ size) (hsize : size ≤ 2 ^ 31)
    (h : (parseAlldataRoom buffer g room pos stop).All (Event.ReadsIn buffer.off size)) :
    (parseAlldataRoom buffer f room pos stop).All (Event.ReadsIn buffer.off size) := by
  induction room generalizing pos stop with
  | zero => exact h
  | succ room ih =>
    refine Loop.all_run_anti (fun s hhang => ?_) (fun s hs => ?_) hfg h
    · exact alldataRound_mono (hstop.trans hsize)
        (fun _ _ _ hb hr => parseAlldataRoom_mono hfg hb hr) hhang
    · rw [all_alldataRound hstop hsize] at hs ⊢
      intro hlt
      obtain ⟨hhead, hnested⟩ := hs hlt
      exact ⟨hhead, fun hentry hn => ih (hentry.2.2.trans hstop) (hnested hentry hn)⟩

/-- `parse_alldata` stays inside the frame exactly if the entry heads are there. -/
theorem all_parseAlldataRoom (hstop : stop ≤ size) (hsize : size ≤ 2 ^ 31) :
    (∀ f, (parseAlldataRoom buffer f room pos stop).All (Event.ReadsIn buffer.off size)) ↔
      DataFits buffer size room pos stop := by
  induction room generalizing pos stop with
  | zero => exact iff_of_true (fun _ => Traced.all_pure _) trivial
  | succ room ih =>
    have hle := hstop.trans hsize
    have hok : ∀ f p, EntryAt buffer stop p → ∀ k,
        (parseAlldataRoom buffer f room (headEnd buffer p) (elemEnd buffer p)).val = some k →
        (0 ≤ k ↔ Tiled buffer room (headEnd buffer p) (elemEnd buffer p)) :=
      fun f p hentry k hk => parseAlldataRoom_nonneg (hentry.2.2.trans hle) hk
    refine Loop.all_run_iff (R := DataStep buffer (Tiled buffer room) stop) Prod.fst
      (fun f => alldataRound buffer (parseAlldataRoom buffer f room) stop)
      (fun p => p + 1 < stop → headEnd buffer p ≤ size ∧ (EntryAt buffer stop p →
        IsNested buffer p → DataFits buffer size room (headEnd buffer p) (elemEnd buffer p)))
      ?_ ?_ ?_ ?_ ?_
    · intro f g s hfg hhang
      exact alldataRound_mono hle (fun _ _ _ hb hr => parseAlldataRoom_mono hfg hb hr) hhang
    · intro f g s hfg hs
      rw [all_alldataRound hstop hsize] at hs ⊢
      intro hlt
      obtain ⟨hhead, hnested⟩ := hs hlt
      exact ⟨hhead, fun hentry hn =>
        parseAlldataRoom_anti hfg (hentry.2.2.trans hstop) hsize (hnested hentry hn)⟩
    · intro s
      simp only [all_alldataRound hstop hsize]
      constructor
      · intro h hlt
        exact ⟨(h 0 hlt).1, fun hentry hn =>
          (ih (hentry.2.2.trans hstop)).mp fun f => (h f hlt).2 hentry hn⟩
      · intro h f hlt
        obtain ⟨hhead, hnested⟩ := h hlt
        exact ⟨hhead, fun hentry hn =>
          (ih (hentry.2.2.trans hstop)).mpr (hnested hentry hn) f⟩
    · rintro ⟨p, num⟩ f s' hr
      obtain rfl := alldataRound_next hle hr
      exact (alldataRound_next_iff hle (by simp [hr]) (hok f p)).mp hr
    · rintro ⟨p, num⟩ k hstep
      obtain ⟨f, hf⟩ := hstep.exists_next hle num
      exact ⟨f, _, hf, rfl⟩

/-! ### Sequences and sets -/

/-- Every element head met in the sequence or set is inside the frame. -/
def SkipFits (buffer : Ptr) (size stop pos : ℕ) : Prop :=
  ∀ p, ReflTransGen (SkipStep buffer stop) pos p → p < stop → headEnd buffer p ≤ size

section Skip

variable {tag : ℕ → Traced Event Unit}

lemma all_skipRound (htag : ∀ p < size, (tag p).All (Event.ReadsIn buffer.off size))
    (hstop : stop ≤ size) (hsize : size ≤ 2 ^ 31) :
    (skipRound buffer tag stop pos).All (Event.ReadsIn buffer.off size) ↔
      (pos < stop → headEnd buffer pos ≤ size) := by
  by_cases hpos : pos < stop
  · simp [skipRound, hpos, htag pos (by omega), all_head buffer size (show pos < 2 ^ 31 by omega)]
  · simp [skipRound, hpos]

theorem all_skip_run (htag : ∀ p < size, (tag p).All (Event.ReadsIn buffer.off size))
    (hstop : stop ≤ size) (hsize : size ≤ 2 ^ 31) :
    (∀ f, (Loop.run (skipRound buffer tag stop) f pos).All (Event.ReadsIn buffer.off size)) ↔
      SkipFits buffer size stop pos := by
  have hle := hstop.trans hsize
  refine Loop.all_run_iff (R := SkipStep buffer stop) id
    (fun _ => skipRound buffer tag stop)
    (fun p => p < stop → headEnd buffer p ≤ size)
    (fun _ _ => rfl) (fun _ h => h) (fun p => ?_) (fun p _ q hr => ?_) (fun p k hstep => ?_)
  · rw [forall_const, all_skipRound htag hstop hsize, id]
  · exact (skipRound_next_iff hle).mp hr
  · exact ⟨0, k, (skipRound_next_iff hle).mpr hstep, rfl⟩

end Skip

/-! ### The walk -/

/-- What is read of an element behind its head is inside the frame. -/
structure ItemFits (buffer : Ptr) (size p : ℕ) : Prop where
  data : tagAt buffer p = 0xAB →
    DataFits buffer size (MAX_DATA_DEPTH + 1) (headEnd buffer p) (elemEnd buffer p)
  sequence : tagAt buffer p = 0x30 ∨ tagAt buffer p = 0x31 →
    SkipFits buffer size (elemEnd buffer p) (headEnd buffer p)
  context : tagAt buffer p = 0xA0 ∨ tagAt buffer p = 0xA1 →
    headEnd buffer (headEnd buffer p - 1) ≤ size
  timestamp : tagAt buffer p = 0x84 → 4 ≤ headLen buffer p → headLen buffer p ≤ 8 →
    headEnd buffer p + 8 ≤ size

/-- Everything that is read of the elements from `start` on is inside the frame. -/
def WalkFits (buffer : Ptr) (size start : ℕ) : Prop :=
  ∀ p, ReflTransGen (TopStep buffer size) start p → p < size →
    headEnd buffer p ≤ size ∧ (ItemAt buffer size p → ItemFits buffer size p)

/-- Of the plain elements only a timestamp is read further than it declares. -/
lemma all_gooseField {s : GooseWalk} {tag : UInt8} {itemSize : ℕ}
    (hsmall : itemSize ≤ 4 → pos + itemSize ≤ size) :
    (gooseField buffer s tag pos itemSize).All (Event.ReadsIn buffer.off size) ↔
      (tag = 0x84 → 4 ≤ itemSize → itemSize ≤ 8 → pos + 8 ≤ size) := by
  have hnum : (decodeAsn1Number (buffer.add pos) itemSize).All
      (Event.ReadsIn buffer.off size) := by
    simp only [all_decodeAsn1Number, Ptr.off_add, Nat.add_assoc, Event.readsIn_read]
    intro h j hj
    have := hsmall h.2
    omega
  by_cases hts : tag = 0x84
  · subst hts
    simp only [gooseField, show (0x84 : UInt8) ≠ 0x80 by decide,
      show (0x84 : UInt8) ≠ 0x82 by decide, show (0x84 : UInt8) ≠ 0x83 by decide, if_false,
      if_true, Traced.all_ite, Traced.all_bind, Ptr.all_load, Nat.add_assoc, Event.readsIn_read,
      Traced.all_pure, and_true, implies_true, forall_const, and_imp]
    refine forall_congr' fun _ => forall_congr' fun _ => ⟨fun h => ?_, fun h j hj => by omega⟩
    have := h 7 (by decide)
    omega
  · simp only [gooseField, hts, false_implies, iff_true, if_false]
    split_ifs <;> simp [hnum]

section Walk

variable {skipTag : ℕ → Traced Event Unit} {s : ℕ × GooseWalk}

lemma all_context (h : headEnd buffer p ≤ size) (hsize : size ≤ 2 ^ 31) :
    (decodeAsn1Len buffer (headEnd buffer p)).All (Event.ReadsIn buffer.off size) ↔
      headEnd buffer (headEnd buffer p - 1) ≤ size := by
  have hlt := lt_headEnd buffer p
  rw [← all_head buffer size (show headEnd buffer p - 1 < 2 ^ 31 by omega),
    Nat.sub_add_cancel (by omega), u32_of_lt (by omega)]

/-- The reads of one round: the head, and what the kind of the element adds. -/
lemma all_gooseRound (hsize : size ≤ 2 ^ 31) :
    (gooseRound buffer skipTag size fuel s).All (Event.ReadsIn buffer.off size) ↔
      (s.1 < size → headEnd buffer s.1 ≤ size ∧ (ItemAt buffer size s.1 →
        (tagAt buffer s.1 = 0xAB →
          (parseAlldata buffer fuel (headEnd buffer s.1) (elemEnd buffer s.1) 0).All
            (Event.ReadsIn buffer.off size)) ∧
        (tagAt buffer s.1 = 0x30 ∨ tagAt buffer s.1 = 0x31 →
          (Loop.run (skipRound buffer skipTag (elemEnd buffer s.1)) fuel
            (headEnd buffer s.1)).All (Event.ReadsIn buffer.off size)) ∧
        (tagAt buffer s.1 = 0xA0 ∨ tagAt buffer s.1 = 0xA1 →
          headEnd buffer (headEnd buffer s.1 - 1) ≤ size) ∧
        (tagAt buffer s.1 = 0x84 → 4 ≤ headLen buffer s.1 → headLen buffer s.1 ≤ 8 →
          headEnd buffer s.1 + 8 ≤ size))) := by
  obtain ⟨pos, s⟩ := s
  by_cases hpos : pos < size
  · have hlt : pos < 2 ^ 31 := by omega
    simp only [gooseRound, hpos, if_true, Traced.all_bind, Ptr.all_get, Event.readsIn_read,
      all_head buffer size hlt, val_head buffer hlt, Ptr.val_get, true_and, forall_const]
    refine and_congr_right fun hhead => ?_
    by_cases hitem : ItemAt buffer size pos
    · have hcond : ¬ (u32 (headEnd buffer pos + headLen buffer pos) > size ∨
          headLen buffer pos = 0) :=
        not_or.mpr ⟨Nat.not_lt.mpr hitem.2.1, hitem.2.2⟩
      have hsmall : headLen buffer pos ≤ 4 →
          headEnd buffer pos + headLen buffer pos ≤ size := fun h => by
        have := hitem.2.1
        rwa [elemEnd, u32_of_lt (by omega)] at this
      simp only [if_neg hcond, hitem, forall_const, Traced.all_ite, Loop.all_inner,
        Traced.all_bind, Traced.all_pure, and_true, implies_true, all_context hhead hsize,
        all_gooseField hsmall]
      rw [show buffer.mem (buffer.off + pos) = tagAt buffer pos from rfl]
      refine and_congr_right fun _ => ?_
      generalize tagAt buffer pos = tag
      -- the kinds exclude each other
      constructor
      · intro h
        refine ⟨fun hseq => (h ?_).1 hseq, fun hctx => ((h ?_).2 ?_).1 hctx,
          fun hts => ((h ?_).2 ?_).2 ?_ hts⟩
        · rintro rfl
          exact absurd hseq (by decide)
        all_goals first | subst hts | rcases hctx with rfl | rfl
        all_goals decide
      · rintro ⟨hseq, hctx, hts⟩ _
        exact ⟨hseq, fun _ => ⟨hctx, fun _ => hts⟩⟩
    · have hcond : u32 (headEnd buffer pos + headLen buffer pos) > size ∨
          headLen buffer pos = 0 := by
        by_contra h
        rw [not_or, gt_iff_lt, Nat.not_lt] at h
        exact hitem ⟨hpos, h⟩
      simp [if_pos hcond, hitem]
  · simp [gooseRound, hpos]

/-- The walk stays inside the frame exactly if everything met on the way does. -/
theorem all_gooseWalk (hskip : ∀ p < size, (skipTag p).All (Event.ReadsIn buffer.off size))
    (hsize : size ≤ 2 ^ 31) :
    (∀ f, (gooseWalk buffer skipTag size f s).All (Event.ReadsIn buffer.off size)) ↔
      WalkFits buffer size s.1 := by
  refine Loop.all_run_iff (R := TopStep buffer size) Prod.fst
    (fun f => gooseRound buffer skipTag size f)
    (fun p => p < size →
      headEnd buffer p ≤ size ∧ (ItemAt buffer size p → ItemFits buffer size p))
    (fun hfg hhang => gooseRound_mono hsize hfg hhang) ?_ ?_
    (fun s f s' hr => (gooseRound_next_iff hsize (by simp [hr])).mp ⟨s', hr, rfl⟩)
    (fun s k hstep => TopStep.exists_next skipTag hsize hstep)
  · intro f g s hfg h
    rw [all_gooseRound hsize] at h ⊢
    intro hpos
    obtain ⟨hhead, hitems⟩ := h hpos
    refine ⟨hhead, fun hitem => ?_⟩
    obtain ⟨hdata, hseq, hrest⟩ := hitems hitem
    exact ⟨fun ht => parseAlldataRoom_anti hfg hitem.2.1 hsize (hdata ht),
      fun ht => Loop.all_run_anti (fun _ _ => rfl) (fun _ h => h) hfg (hseq ht), hrest⟩
  · intro s
    simp only [all_gooseRound hsize]
    constructor
    · intro h hpos
      refine ⟨(h 0 hpos).1, fun hitem => ⟨fun ht => ?_, fun ht => ?_, ?_, ?_⟩⟩
      · exact (all_parseAlldataRoom hitem.2.1 hsize).mp fun f => ((h f hpos).2 hitem).1 ht
      · exact (all_skip_run hskip hitem.2.1 hsize).mp fun f => ((h f hpos).2 hitem).2.1 ht
      · exact ((h 0 hpos).2 hitem).2.2.1
      · exact ((h 0 hpos).2 hitem).2.2.2
    · intro h f hpos
      obtain ⟨hhead, hfits⟩ := h hpos
      refine ⟨hhead, fun hitem => ?_⟩
      obtain ⟨hdata, hseq, hctx, hts⟩ := hfits hitem
      exact ⟨fun ht => (all_parseAlldataRoom hitem.2.1 hsize).mpr (hdata ht) f,
        fun ht => (all_skip_run hskip hitem.2.1 hsize).mpr (hseq ht) f, hctx, hts⟩

end Walk

/-! ### The L2 parser -/

section L2

variable {passport : GoosePassport} {state : GooseState}

variable (buffer) in
lemma all_l2Header {P : Event → Prop} (ty : UInt8) (hP : ∀ i < 18, P (.read (buffer.off + i))) :
    (l2Header buffer ty).All P := by
  have h : ∀ l : List (ℕ × UInt8), (∀ x ∈ l, x.1 < 18) → (buffer.expect l).All P :=
    fun l hl => Ptr.all_expect _ _ fun x hx => hP x.1 (hl x hx)
  simp only [l2Header, Traced.all_bind, Traced.all_ite, Traced.all_pure, implies_true, and_true]
  exact ⟨h _ (by simp), trivial, fun _ => h _ (by simp)⟩

/-- What the parser reads in front of the walk, and the walk. -/
lemma all_parseGoosePacket {size : Int32} (hsize : 64 ≤ size.toInt)
    (hpos : (l2Header buffer 0xB8).val = some pos) (htag : tagAt buffer (pos + 8) = 0x61) :
    (parseGoosePacket fuel buffer size passport state).All
        (Event.ReadsIn buffer.off size.toInt.toNat) ↔
      headEnd buffer (pos + 8) ≤ size.toInt.toNat ∧
      (gooseWalk buffer (readTag buffer) size.toInt.toNat fuel
        (headEnd buffer (pos + 8), gooseStart buffer passport state pos)).All
          (Event.ReadsIn buffer.off size.toInt.toNat) := by
  have hle := l2Header_le hpos
  have hn : 64 ≤ size.toInt.toNat := by omega
  have hmac : ∀ i < 6, i < size.toInt.toNat := fun i hi => by omega
  have happ : ∀ j < 2, pos + j < size.toInt.toNat := fun j hj => by omega
  have hheader : (l2Header buffer 0xB8).All (Event.ReadsIn buffer.off size.toInt.toNat) :=
    all_l2Header buffer 0xB8 fun i hi => Event.readsIn_read.mpr (by omega)
  have hall := all_head buffer size.toInt.toNat (show pos + 8 < 2 ^ 31 by omega)
  have hhead := val_head buffer (show pos + 8 < 2 ^ 31 by omega)
  rw [u32_of_lt (by omega)] at hall hhead
  unfold tagAt at htag
  simp only [parseGoosePacket, if_neg (Int.not_lt.mpr hsize), Traced.all_bind, hpos, Ptr.val_load,
    Ptr.all_load, Ptr.val_get, Ptr.all_get, htag, ne_eq, not_true, if_false, MAC.all_read,
    Event.readsIn_read, Nat.add_assoc, hheader, hall, hhead,
    show pos + 8 < size.toInt.toNat by omega, true_and]
  exact ⟨fun h => h.2.2, fun h => ⟨hmac, happ, h⟩⟩

/-- A frame that is not walked is read in its first 64 bytes only. -/
lemma all_parseGoosePacket_of_not_walked {size : Int32} (h : 64 ≤ size.toInt → ∀ pos,
      (l2Header buffer 0xB8).val = some pos → tagAt buffer (pos + 8) ≠ 0x61) :
    (parseGoosePacket fuel buffer size passport state).All
        (Event.ReadsIn buffer.off size.toInt.toNat) ∧
      ∀ r, (parseGoosePacket fuel buffer size passport state).val = some r → r.code ≠ 0 := by
  by_cases hsize : 64 ≤ size.toInt
  · have hn : 64 ≤ size.toInt.toNat := by omega
    have hheader : (l2Header buffer 0xB8).All (Event.ReadsIn buffer.off size.toInt.toNat) :=
      all_l2Header buffer 0xB8 fun i hi => Event.readsIn_read.mpr (by omega)
    have hmac : ∀ i < 6, i < size.toInt.toNat := fun i hi => by omega
    simp only [parseGoosePacket, if_neg (Int.not_lt.mpr hsize), Traced.all_bind, Traced.val_bind,
      MAC.all_read, Event.readsIn_read, hheader, true_and]
    cases hpos : (l2Header buffer 0xB8).val with
    | none =>
      refine ⟨⟨hmac, Traced.all_pure _⟩, fun r hr hcode => ?_⟩
      cases hr
      cases hcode
    | some pos =>
      have hle := l2Header_le hpos
      have happ : ∀ j < 2, pos + j < size.toInt.toNat := fun j hj => by omega
      have htag : buffer.mem (buffer.off + (pos + 8)) ≠ 0x61 := h hsize pos hpos
      simp only [Traced.all_bind, Traced.val_bind, Ptr.all_load, Ptr.all_get, Ptr.val_get,
        Nat.add_assoc, Event.readsIn_read, htag, if_true, ne_eq, not_false_iff]
      refine ⟨⟨hmac, happ, by omega, Traced.all_pure _⟩, fun r hr hcode => ?_⟩
      cases hr
      cases hcode
  · simp only [parseGoosePacket, if_pos (Int.not_le.mp hsize)]
    refine ⟨Traced.all_pure _, fun r hr hcode => ?_⟩
    cases hr
    cases hcode

end L2

/-- The view is a non-empty slice of the frame. -/
structure StringView.Inside (v : StringView) (buffer : Ptr) (size : ℕ) : Prop where
  mem : v.data.mem = buffer.mem
  nonempty : 0 < v.size
  lower : buffer.off ≤ v.data.off
  upper : v.data.off + v.size ≤ buffer.off + size

/-- The parser reads nothing outside the frame, and the names of a frame it accepts are inside. -/
structure GooseStaysInside (buffer : Ptr) (size : Int32) (passport : GoosePassport)
    (state : GooseState) : Prop where
  reads : ∀ fuel, (parseGoosePacket fuel buffer size passport state).All
    (Event.ReadsIn buffer.off size.toInt.toNat)
  names : ∀ fuel r, (parseGoosePacket fuel buffer size passport state).val = some r → r.code = 0 →
    r.passport.gocbref.Inside buffer size.toInt.toNat ∧
    r.passport.dataset.Inside buffer size.toInt.toNat ∧
    r.passport.goid.Inside buffer size.toInt.toNat

/-- In the frame, should it be one whose PDU is walked, everything met is inside; and if it is
accepted, none of its names has a length with the sign bit set. -/
def GooseFrameFits (buffer : Ptr) (size : Int32) (passport : GoosePassport) : Prop :=
  64 ≤ size.toInt → ∀ pos, (l2Header buffer 0xB8).val = some pos →
    tagAt buffer (pos + 8) = 0x61 →
    headEnd buffer (pos + 8) ≤ size.toInt.toNat ∧
    WalkFits buffer size.toInt.toNat (headEnd buffer (pos + 8)) ∧
    ∀ l, Accepted buffer size.toInt.toNat (headEnd buffer (pos + 8)) passport.num
        passport.foundEntries l →
      ∀ t ∈ [0x80, 0x82, 0x83], lastAt buffer t (headLen buffer) 0 l < 2 ^ 31

/-- A name is inside the frame exactly if its length is not negative. -/
lemma viewAt_inside (hsize : size ≤ 2 ^ 31) (hhead : headEnd buffer p ≤ size)
    (hitem : ItemAt buffer size p) :
    (viewAt buffer p).Inside buffer size ↔ headLen buffer p < 2 ^ 31 := by
  obtain ⟨_, hend, hlen⟩ := hitem
  constructor
  · intro h
    have := h.upper
    simp only [viewAt, makeStringview, sizeOfInt, Ptr.off_add] at this
    split_ifs at this <;> omega
  · intro h
    have hview : (viewAt buffer p).size = headLen buffer p := if_pos h
    rw [elemEnd, u32_of_lt (by omega)] at hend
    refine ⟨rfl, by omega, Nat.le_add_right _ _, ?_⟩
    rw [hview]
    show buffer.off + headEnd buffer p + headLen buffer p ≤ _
    omega

lemma name_inside_iff {start : ℕ} {num : UInt16} {foundEntries : UInt32} {l : List ℕ}
    {t : UInt8} (w : GooseWalk) (hsize : size ≤ 2 ^ 31) (hfits : WalkFits buffer size start)
    (hl : Accepted buffer size start num foundEntries l) (ht : t = 0x80 ∨ t = 0x82 ∨ t = 0x83) :
    (nameOf (l.foldl (gooseVisit buffer) w).passport t).Inside buffer size ↔
      lastAt buffer t (headLen buffer) 0 l < 2 ^ 31 := by
  have hmem : ∃ p ∈ l, tagAt buffer p = t := by
    rcases ht with rfl | rfl | rfl
    exacts [hl.gocbref, hl.dataset, hl.goid]
  obtain ⟨p, hp, _, hlast⟩ := lastAt_of_mem hmem
  obtain ⟨q, hpath, _⟩ := hl.path
  obtain ⟨hreach, _, hstep⟩ := hpath.of_mem hp
  rw [nameOf_foldl ht, hlast, hlast]
  exact viewAt_inside hsize (hfits p hreach hstep.1.1).1 hstep.1

/-- The parser stays inside the frame exactly on the frames that fit. -/
theorem gooseStaysInside_iff (buffer : Ptr) (size : Int32) (passport : GoosePassport)
    (state : GooseState) :
    GooseStaysInside buffer size passport state ↔ GooseFrameFits buffer size passport := by
  by_cases hwalk : 64 ≤ size.toInt ∧ ∃ pos, (l2Header buffer 0xB8).val = some pos ∧
      tagAt buffer (pos + 8) = 0x61
  · obtain ⟨hsize, pos, hpos, htag⟩ := hwalk
    have hle := toInt_toNat_le size
    have hskip : ∀ p < size.toInt.toNat,
        (readTag buffer p).All (Event.ReadsIn buffer.off size.toInt.toNat) :=
      fun p hp => by simpa [readTag] using hp
    have hreads : (∀ fuel, (parseGoosePacket fuel buffer size passport state).All
          (Event.ReadsIn buffer.off size.toInt.toNat)) ↔
        headEnd buffer (pos + 8) ≤ size.toInt.toNat ∧
          WalkFits buffer size.toInt.toNat (headEnd buffer (pos + 8)) := by
      simp only [all_parseGoosePacket hsize hpos htag, forall_and, all_gooseWalk hskip hle,
        forall_const]
    have htags : ∀ t ∈ [(0x80 : UInt8), 0x82, 0x83], t = 0x80 ∨ t = 0x82 ∨ t = 0x83 := by simp
    constructor
    · intro hinside _ pos' hpos' _
      obtain rfl : pos = pos' := Option.some.inj (hpos.symm.trans hpos')
      obtain ⟨hhead, hfits⟩ := hreads.mp hinside.reads
      refine ⟨hhead, hfits, fun l hl t ht => ?_⟩
      -- the walk returns 0 along `l`, with the names of its last elements
      obtain ⟨q, hpath, hq⟩ := hl.path
      obtain ⟨f, hf⟩ := gooseWalk_of_path (readTag buffer)
        (s := (headEnd buffer (pos + 8), gooseStart buffer passport state pos)) hle hpath hq
      rw [← val_parseGoosePacket hsize hpos htag] at hf
      have hnames := hinside.names f _ hf ((gooseFinish_code hpath hq).mpr hl)
      refine (name_inside_iff (gooseStart buffer passport state pos) hle hfits hl
        (htags t ht)).mp ?_
      rcases htags t ht with rfl | rfl | rfl
      exacts [hnames.1, hnames.2.1, hnames.2.2]
    · intro hfit
      obtain ⟨hhead, hfits, hlens⟩ := hfit hsize pos hpos htag
      refine ⟨hreads.mpr ⟨hhead, hfits⟩, fun fuel r hr hcode => ?_⟩
      rw [val_parseGoosePacket hsize hpos htag] at hr
      obtain ⟨l, q, hpath, hq, rfl⟩ := path_of_gooseWalk hle hr hcode
      have hl := (gooseFinish_code hpath hq).mp hcode
      have hname : ∀ t ∈ [(0x80 : UInt8), 0x82, 0x83], _ := fun t ht =>
        (name_inside_iff (gooseStart buffer passport state pos) hle hfits hl (htags t ht)).mpr
          (hlens l hl t ht)
      exact ⟨hname 0x80 (by simp), hname 0x82 (by simp), hname 0x83 (by simp)⟩
  · have hnot : 64 ≤ size.toInt → ∀ pos, (l2Header buffer 0xB8).val = some pos →
        tagAt buffer (pos + 8) ≠ 0x61 := fun hsize pos hpos htag => hwalk ⟨hsize, pos, hpos, htag⟩
    refine iff_of_true ⟨fun fuel => (all_parseGoosePacket_of_not_walked hnot).1,
      fun fuel r hr hcode => ?_⟩ fun hsize pos hpos htag => absurd htag (hnot hsize pos hpos)
    exact absurd hcode ((all_parseGoosePacket_of_not_walked hnot).2 r hr)

/-- A frame of 64 bytes that ends with a tag, so that its length octet is missing. -/
def truncatedFrame : Ptr := .ofBytes
  ([0x01, 0x0C, 0xCD, 0x01, 0, 0, 0, 0, 0, 0, 0, 0, 0x88, 0xB8, 0, 1, 0, 50, 0, 0, 0, 0] ++
    [0x61, 40, 0x81, 37] ++ List.replicate 37 0 ++ [0x80])

/-- On `truncatedFrame` the parser reads the byte behind the frame. -/
theorem not_gooseStaysInside_truncatedFrame :
    64 ≤ (64 : Int32).toInt ∧ ¬ GooseStaysInside truncatedFrame 64 {} {} := by
  refine ⟨by decide, fun h => ?_⟩
  have hread : Event.read 64 ∈ (parseGoosePacket 2 truncatedFrame 64 {} {}).log := by
    decide +kernel
  exact absurd (h.reads 2 _ hread) (by decide)

end ProcessBus
