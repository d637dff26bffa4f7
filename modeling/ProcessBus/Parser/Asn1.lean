import ProcessBus.Common.Containers

/-!
# The ASN.1 readers of the GOOSE parser

The unbounded half of `process_bus_parser.cpp`: `decode_asn1_len` reads however many length
octets the first of them announces, without a look at where the frame ends. Cursors are
`uint32_t` and wrap; a decoded length is an `int`, kept here as its 32-bit pattern, so that a
negative length is one of `2 ^ 31` or more.
-/

namespace ProcessBus

/-- Conversion to `uint32_t`. -/
def u32 (n : ℕ) : ℕ := n % 2 ^ 32

/-- Conversion of an `int`, given as its 32-bit pattern, to `size_t`: the sign is extended. -/
def sizeOfInt (n : ℕ) : ℕ := if n < 2 ^ 31 then n else n + (2 ^ 64 - 2 ^ 32)

lemma u32_of_lt {n : ℕ} (h : n < 2 ^ 32) : u32 n = n := Nat.mod_eq_of_lt h

lemma u32_lt (n : ℕ) : u32 n < 2 ^ 32 := Nat.mod_lt _ (by decide)

/-- The long form, from the third octet count on: shift in `n` octets. -/
def decodeAsn1Octets (buffer : Ptr) : ℕ → ℕ → ℕ → Traced Event (ℕ × ℕ)
  | 0, length, p => pure (length, p)
  | n + 1, length, p => do
    let b ← buffer.get p
    decodeAsn1Octets buffer n (u32 (length <<< 8) ||| b.toNat) (u32 (p + 1))

/-- `decode_asn1_len`: the length and the cursor behind the length octets. -/
def decodeAsn1Len (buffer : Ptr) (pos : ℕ) : Traced Event (ℕ × ℕ) := do
  let lenByte ← buffer.get pos
  let p := u32 (pos + 1)
  if lenByte &&& 0x80 = 0 then
    pure (lenByte.toNat, p)
  else
    let n := (lenByte &&& 0x7F).toNat
    if n = 1 then do
      let b ← buffer.get p
      pure (b.toNat, u32 (p + 1))
    else if n = 2 then do
      let hi ← buffer.get p
      let lo ← buffer.get (u32 (p + 1))
      pure (hi.toNat <<< 8 ||| lo.toNat, u32 (p + 2))
    else
      decodeAsn1Octets buffer n 0 p

/-- `decode_asn1_number`: one to four octets, anything else is zero. -/
def decodeAsn1Number (buffer : Ptr) (size : ℕ) : Traced Event ℕ :=
  if 1 ≤ size ∧ size ≤ 4 then buffer.load 0 size else pure 0

/-- `make_stringview`. -/
def makeStringview (data : Ptr) (length : ℕ) : StringView := ⟨data, sizeOfInt length⟩

/-! ### What `decode_asn1_len` decodes -/

/-- How many octets follow the first length octet. -/
def lenOctets (b : UInt8) : ℕ := if b.toNat < 128 then 0 else b.toNat - 128

/-- The size of the length field at address `a`. -/
def lenSize (m : Mem) (a : ℕ) : ℕ := 1 + lenOctets (m a)

/-- The length the field at address `a` stands for, modulo `2 ^ 32`. -/
def lenValue (m : Mem) (a : ℕ) : ℕ :=
  if (m a).toNat < 128 then (m a).toNat else beNat (m.slice (a + 1) (lenOctets (m a))) % 2 ^ 32

lemma lenOctets_lt (b : UInt8) : lenOctets b < 128 := by
  have := b.toNat_lt
  unfold lenOctets
  split <;> omega

lemma lenSize_le (m : Mem) (a : ℕ) : lenSize m a ≤ 128 := by
  have := lenOctets_lt (m a)
  unfold lenSize
  omega

lemma lenSize_pos (m : Mem) (a : ℕ) : 0 < lenSize m a := by
  unfold lenSize
  omega

/-- The long-form bit. -/
lemma and_0x80_eq_zero (b : UInt8) : b &&& 0x80 = 0 ↔ b.toNat < 128 := by
  have h : ∀ n : Fin 256, UInt8.ofNat n &&& 0x80 = 0 ↔ n.val < 128 := by
    decide +kernel
  simpa using h ⟨b.toNat, b.toNat_lt⟩

lemma toNat_and_0x7F (b : UInt8) : (b &&& 0x7F).toNat = b.toNat % 128 := by
  rw [UInt8.toNat_and]
  exact Nat.and_two_pow_sub_one_eq_mod _ 7

lemma shiftLeft_or_byte (n : ℕ) (b : UInt8) : n <<< 8 ||| b.toNat = n * 256 + b.toNat := by
  rw [← Nat.shiftLeft_add_eq_or_of_lt b.toNat_lt, Nat.shiftLeft_eq]

/-- Shifting an octet into a 32-bit number. -/
lemma u32_shiftLeft_or_byte (n : ℕ) (b : UInt8) :
    u32 (n <<< 8) ||| b.toNat = (n * 256 + b.toNat) % 2 ^ 32 := by
  have hb := b.toNat_lt
  have hshift : u32 (n <<< 8) = (n % 2 ^ 24) <<< 8 := by
    simp only [u32, Nat.shiftLeft_eq]
    omega
  rw [hshift, shiftLeft_or_byte]
  omega

lemma val_decodeAsn1Octets (buffer : Ptr) (n length p : ℕ) (hp : p + n < 2 ^ 32)
    (hl : length < 2 ^ 32) :
    (decodeAsn1Octets buffer n length p).val =
      ((length * 256 ^ n + beNat (buffer.mem.slice (buffer.off + p) n)) % 2 ^ 32, p + n) := by
  induction n generalizing length p with
  | zero =>
    rw [Mem.slice_zero, beNat_nil, Nat.pow_zero, Nat.mul_one, Nat.add_zero, Nat.mod_eq_of_lt hl]
    rfl
  | succ n ih =>
    have hmod : (length * 256 + (buffer.mem (buffer.off + p)).toNat) % 2 ^ 32 < 2 ^ 32 :=
      Nat.mod_lt _ (by decide)
    simp only [decodeAsn1Octets, Traced.val_bind, Ptr.val_get, u32_shiftLeft_or_byte,
      u32_of_lt (show p + 1 < 2 ^ 32 by omega)]
    rw [ih _ _ (by omega) hmod, Mem.slice_succ, beNat_cons, Mem.length_slice]
    congr 1
    · rw [Nat.add_mod, Nat.mul_mod, Nat.mod_mod, ← Nat.mul_mod, ← Nat.add_mod, Nat.pow_succ]
      congr 1
      rw [Nat.add_assoc]
      ring
    · omega

lemma all_decodeAsn1Octets {P : Event → Prop} (buffer : Ptr) (n length p : ℕ)
    (hp : p + n < 2 ^ 32) :
    (decodeAsn1Octets buffer n length p).All P ↔ ∀ j < n, P (.read (buffer.off + p + j)) := by
  induction n generalizing length p with
  | zero => simp [decodeAsn1Octets]
  | succ n ih =>
    simp only [decodeAsn1Octets, Traced.all_bind, Ptr.all_get,
      u32_of_lt (show p + 1 < 2 ^ 32 by omega), ih _ _ (show p + 1 + n < 2 ^ 32 by omega)]
    rw [Nat.forall_lt_succ_left]
    simp only [Nat.add_zero, Nat.add_assoc, Nat.add_comm 1]

variable (buffer : Ptr) (pos : ℕ)

/-- Past the short form, the seven low bits count the octets that follow. -/
lemma and_0x7F_eq_lenOctets {b : UInt8} (hb : ¬ b.toNat < 128) :
    (b &&& 0x7F).toNat = lenOctets b := by
  have := b.toNat_lt
  rw [toNat_and_0x7F, lenOctets, if_neg hb]
  omega

/-- The three ways the source writes the long form all decode the announced octets. -/
theorem val_decodeAsn1Len (h : pos + 128 < 2 ^ 32) :
    (decodeAsn1Len buffer pos).val =
      (lenValue buffer.mem (buffer.off + pos),
        pos + lenSize buffer.mem (buffer.off + pos)) := by
  simp only [decodeAsn1Len, Traced.val_bind, Ptr.val_get, and_0x80_eq_zero, lenValue, lenSize]
  have hoct := lenOctets_lt (buffer.mem (buffer.off + pos))
  by_cases hb : (buffer.mem (buffer.off + pos)).toNat < 128
  · rw [if_pos hb, if_pos hb, u32_of_lt (by omega)]
    simp [lenOctets, hb]
  · rw [if_neg hb, if_neg hb, and_0x7F_eq_lenOctets hb]
    generalize lenOctets (buffer.mem (buffer.off + pos)) = n at hoct
    rw [u32_of_lt (by omega)]
    split_ifs with h1 h2
    · subst h1
      have hlt := (buffer.mem (buffer.off + (pos + 1))).toNat_lt
      simp only [Traced.val_bind, Ptr.val_get, Traced.val_pure, Mem.beNat_slice_one,
        Nat.add_assoc buffer.off, u32_of_lt (show pos + 1 + 1 < 2 ^ 32 by omega)]
      rw [Nat.mod_eq_of_lt (by omega), Nat.add_assoc]
    · subst h2
      have hhi := (buffer.mem (buffer.off + (pos + 1))).toNat_lt
      have hlo := (buffer.mem (buffer.off + (pos + 1 + 1))).toNat_lt
      simp only [Traced.val_bind, Ptr.val_get, Traced.val_pure, Mem.beNat_slice_two,
        Nat.add_assoc buffer.off, shiftLeft_or_byte, u32_of_lt (show pos + 1 + 1 < 2 ^ 32 by omega),
        u32_of_lt (show pos + 1 + 2 < 2 ^ 32 by omega)]
      rw [Nat.mod_eq_of_lt (by omega), Nat.add_assoc pos]
    · rw [val_decodeAsn1Octets _ _ _ _ (by omega) (by decide)]
      simp [Nat.add_assoc]

theorem all_decodeAsn1Len {P : Event → Prop} (h : pos + 128 < 2 ^ 32) :
    (decodeAsn1Len buffer pos).All P ↔
      ∀ j < lenSize buffer.mem (buffer.off + pos), P (.read (buffer.off + pos + j)) := by
  simp only [decodeAsn1Len, Traced.all_bind, Ptr.all_get, Ptr.val_get, and_0x80_eq_zero, lenSize]
  have hoct := lenOctets_lt (buffer.mem (buffer.off + pos))
  rw [Nat.add_comm 1, Nat.forall_lt_succ_left, Nat.add_zero]
  refine and_congr_right fun _ => ?_
  by_cases hb : (buffer.mem (buffer.off + pos)).toNat < 128
  · simp [lenOctets, hb]
  · rw [if_neg hb, and_0x7F_eq_lenOctets hb]
    generalize lenOctets (buffer.mem (buffer.off + pos)) = n at hoct
    rw [u32_of_lt (by omega)]
    split_ifs with h1 h2
    · subst h1
      simp [Nat.add_assoc]
    · subst h2
      rw [u32_of_lt (by omega), Nat.forall_lt_succ_left, Nat.forall_lt_succ_left]
      simp [Nat.add_assoc]
    · rw [all_decodeAsn1Octets _ _ _ _ (by omega)]
      simp only [Nat.add_assoc, Nat.add_comm 1]

@[simp] lemma val_decodeAsn1Number (size : ℕ) : (decodeAsn1Number buffer size).val =
    if 1 ≤ size ∧ size ≤ 4 then beNat (buffer.mem.slice buffer.off size) else 0 := by
  unfold decodeAsn1Number
  split_ifs <;> simp

@[simp] lemma all_decodeAsn1Number {P : Event → Prop} (size : ℕ) :
    (decodeAsn1Number buffer size).All P ↔
      (1 ≤ size ∧ size ≤ 4 → ∀ j < size, P (.read (buffer.off + j))) := by
  unfold decodeAsn1Number
  split_ifs with h <;> simp [h]

/-! ### Element heads -/

variable (p : ℕ)

/-- The tag at `p`. -/
def tagAt : UInt8 := buffer.mem (buffer.off + p)

lemma val_tag : (buffer.get p).val = tagAt buffer p := rfl

/-- The cursor behind the tag and length of the element at `p`. -/
def headEnd : ℕ := p + 1 + lenSize buffer.mem (buffer.off + (p + 1))

/-- The length the element at `p` declares. -/
def headLen : ℕ := lenValue buffer.mem (buffer.off + (p + 1))

/-- The content of the element at `p`. -/
def valueAt : List UInt8 := buffer.mem.slice (buffer.off + headEnd buffer p) (headLen buffer p)

/-- The content of the element at `p` as a string. -/
def viewAt : StringView := makeStringview (buffer.add (headEnd buffer p)) (headLen buffer p)

/-- The content of the element at `p` as a number. -/
def numberAt : ℕ :=
  (decodeAsn1Number (buffer.add (headEnd buffer p)) (headLen buffer p)).val

lemma lt_headEnd : p + 1 < headEnd buffer p := by
  have := lenSize_pos buffer.mem (buffer.off + (p + 1))
  unfold headEnd
  omega

lemma headEnd_le : headEnd buffer p ≤ p + 129 := by
  have := lenSize_le buffer.mem (buffer.off + (p + 1))
  unfold headEnd
  omega

@[simp] lemma length_valueAt : (valueAt buffer p).length = headLen buffer p :=
  Mem.length_slice _ _ _

variable {buffer p}

/-- A length that is not negative is that of the view. -/
lemma bytes_viewAt (h : headLen buffer p < 2 ^ 31) :
    (viewAt buffer p).bytes = valueAt buffer p := by
  have hsize : (viewAt buffer p).size = headLen buffer p := if_pos h
  rw [StringView.bytes, hsize]
  rfl

lemma numberAt_eq (h1 : 1 ≤ headLen buffer p) (h4 : headLen buffer p ≤ 4) :
    numberAt buffer p = beNat (valueAt buffer p) := by
  rw [numberAt, val_decodeAsn1Number, if_pos ⟨h1, h4⟩]
  rfl

variable (buffer p)

/-! ### Walks as folds

A walk that keeps what the elements on its way give is a fold over their positions. -/

/-- What the last element of `l` with tag `t` gives, `d` if there is none. -/
def lastAt {α : Type} (t : UInt8) (f : ℕ → α) (d : α) (l : List ℕ) : α :=
  l.foldl (fun d p => if tagAt buffer p = t then f p else d) d

section LastAt

variable {buffer} {α σ : Type} {t : UInt8} {f : ℕ → α} {l : List ℕ} {w : σ}

lemma lastAt_of_mem (h : ∃ p ∈ l, tagAt buffer p = t) : ∃ p ∈ l, tagAt buffer p = t ∧
    ∀ {α : Type} (f : ℕ → α) d, lastAt buffer t f d l = f p := by
  induction l using List.reverseRecOn with
  | nil => simp at h
  | append_singleton l p ih =>
    by_cases hp : tagAt buffer p = t
    · exact ⟨p, by simp, hp, fun f d => by simp [lastAt, hp]⟩
    · obtain ⟨p', hp', ht⟩ : ∃ p ∈ l, tagAt buffer p = t := by
        obtain ⟨p', hp', ht⟩ := h
        rcases List.mem_append.mp hp' with h | h
        · exact ⟨p', h, ht⟩
        · exact absurd (List.mem_singleton.mp h ▸ ht) hp
      obtain ⟨r, hr, hrt, hlast⟩ := ih ⟨p', hp', ht⟩
      refine ⟨r, List.mem_append_left _ hr, hrt, fun f d => ?_⟩
      have := hlast f d
      simpa [lastAt, hp] using this

/-- A variable that only the elements of one tag change holds what the last of them gave. -/
lemma foldl_lastAt_of_mem (visit : σ → ℕ → σ) (π : σ → α)
    (h : ∀ p ∈ l, ∀ w, π (visit w p) = if tagAt buffer p = t then f p else π w) :
    π (l.foldl visit w) = lastAt buffer t f (π w) l := by
  induction l generalizing w with
  | nil => rfl
  | cons p l ih =>
    rw [List.foldl_cons, ih fun q hq => h q (List.mem_cons_of_mem p hq),
      h p List.mem_cons_self]
    rfl

lemma foldl_lastAt (visit : σ → ℕ → σ) (π : σ → α)
    (h : ∀ w p, π (visit w p) = if tagAt buffer p = t then f p else π w) :
    π (l.foldl visit w) = lastAt buffer t f (π w) l :=
  foldl_lastAt_of_mem visit π fun p _ w => h w p

/-- A flag that the elements of one tag set says whether there was one. -/
lemma foldl_found (visit : σ → ℕ → σ) (π : σ → Bool)
    (h : ∀ w p, π (visit w p) = (π w || tagAt buffer p = t)) :
    π (l.foldl visit w) = true ↔ π w = true ∨ ∃ p ∈ l, tagAt buffer p = t := by
  induction l generalizing w with
  | nil => simp
  | cons p l ih => simp [ih, h, or_assoc]

end LastAt

end ProcessBus
