import Mathlib.Algebra.Group.Nat.Defs
import Mathlib.Tactic.Common

/-!
# The one's complement sum of RFC 1071

A sum of 16-bit words is folded until it has no carry. The complement of a folded sum is the word
that makes the sum all ones: the writer stores it, the reader checks for it.
-/

/-- `while (sum >> 16)`: the end-around carry. -/
def foldCarry (sum : ℕ) : ℕ :=
  if sum / 2 ^ 16 = 0 then sum else foldCarry (sum % 2 ^ 16 + sum / 2 ^ 16)
termination_by sum
decreasing_by omega

variable (sum : ℕ)

lemma foldCarry_lt : foldCarry sum < 2 ^ 16 := by
  induction sum using foldCarry.induct with
  | case1 sum h =>
    rw [foldCarry, if_pos h]
    exact Nat.lt_of_div_eq_zero (by decide) h
  | case2 sum h ih =>
    rw [foldCarry, if_neg h]
    exact ih

/-- The carry is worth what it was carried out of, modulo `2 ^ 16 - 1`. -/
lemma foldCarry_mod : foldCarry sum % (2 ^ 16 - 1) = sum % (2 ^ 16 - 1) := by
  induction sum using foldCarry.induct with
  | case1 sum h => rw [foldCarry, if_pos h]
  | case2 sum h ih =>
    rw [foldCarry, if_neg h, ih]
    omega

lemma foldCarry_pos (h : 0 < sum) : 0 < foldCarry sum := by
  induction sum using foldCarry.induct with
  | case1 sum hfit =>
    rw [foldCarry, if_pos hfit]
    exact h
  | case2 sum hcarry ih =>
    rw [foldCarry, if_neg hcarry]
    exact ih (by omega)

@[simp] lemma foldCarry_zero : foldCarry 0 = 0 := by rw [foldCarry, if_pos (Nat.zero_div _)]

/-- All ones is one of two representations of zero, and the one a sum folds to unless nothing was
added at all. -/
theorem foldCarry_eq_ones :
    foldCarry sum = 2 ^ 16 - 1 ↔ 0 < sum ∧ sum % (2 ^ 16 - 1) = 0 := by
  have hmod := foldCarry_mod sum
  constructor
  · intro hones
    rw [hones, Nat.mod_self] at hmod
    refine ⟨Nat.pos_of_ne_zero ?_, hmod.symm⟩
    rintro rfl
    exact absurd hones (by rw [foldCarry_zero]; decide)
  · rintro ⟨hpos, hzero⟩
    have hlt := foldCarry_lt sum
    have hpos' := foldCarry_pos sum hpos
    rw [hzero] at hmod
    omega

/-- The complement of its fold is what a sum lacks to fold to all ones. The other representation of
zero is the second solution where that is zero. -/
theorem foldCarry_add_eq_ones {csum : ℕ} (hcsum : csum < 2 ^ 16) :
    foldCarry (sum + csum) = 2 ^ 16 - 1 ↔
      csum = 2 ^ 16 - 1 - foldCarry sum ∨
        2 ^ 16 - 1 - foldCarry sum = 0 ∧ csum = 2 ^ 16 - 1 := by
  have hlt := foldCarry_lt sum
  have hmod := foldCarry_mod sum
  rw [foldCarry_eq_ones]
  rcases Nat.eq_zero_or_pos sum with rfl | hpos
  · rw [foldCarry_zero]
    omega
  · have hpos' := foldCarry_pos sum hpos
    omega

/-- With the complement of its fold a sum folds to all ones. -/
theorem foldCarry_add_complement :
    foldCarry (sum + (2 ^ 16 - 1 - foldCarry sum)) = 2 ^ 16 - 1 :=
  (foldCarry_add_eq_ones sum (by omega)).mpr (.inl rfl)

/-- The sum of the words of a byte string. -/
def wordSum : List UInt8 → ℕ
  | hi :: lo :: l => hi.toNat * 256 + lo.toNat + wordSum l
  | _ => 0

/-- Words in a row are summed part by part. -/
lemma wordSum_append : ∀ l l' : List UInt8, l.length % 2 = 0 →
    wordSum (l ++ l') = wordSum l + wordSum l'
  | [], l', _ => (Nat.zero_add (wordSum l')).symm
  | [_], _, h => absurd h (by simp)
  | hi :: lo :: l, l', h => by
    have hl : l.length % 2 = 0 := by
      simp only [List.length_cons] at h
      omega
    rw [List.cons_append, List.cons_append, wordSum, wordSum, wordSum_append l l' hl]
    exact (Nat.add_assoc _ _ _).symm

/-- What an octet is worth in its word. -/
def octetWeight (i : ℕ) : ℕ := if i % 2 = 0 then 256 else 1

@[simp] lemma octetWeight_zero : octetWeight 0 = 256 := rfl

@[simp] lemma octetWeight_one : octetWeight 1 = 1 := rfl

@[simp] lemma octetWeight_add_two (i : ℕ) : octetWeight (i + 2) = octetWeight i := by
  rw [octetWeight, octetWeight, Nat.add_mod_right]

/-- Another octet changes the sum by the difference at its place. -/
lemma wordSum_set (l : List UInt8) (i : ℕ) (b : UInt8) (heven : l.length % 2 = 0)
    (hi : i < l.length) :
    wordSum (l.set i b) + l[i].toNat * octetWeight i =
      wordSum l + b.toNat * octetWeight i := by
  induction l using wordSum.induct generalizing i with
  | case1 hi' lo l ih =>
    simp only [List.length_cons] at heven hi
    match i with
    | 0 =>
      simp only [List.set_cons_zero, List.getElem_cons_zero, wordSum, octetWeight_zero]
      omega
    | 1 =>
      simp only [List.set_cons_succ, List.set_cons_zero, List.getElem_cons_succ,
        List.getElem_cons_zero, wordSum, octetWeight_one]
      omega
    | i + 2 =>
      have hrest := ih i (by omega) (by omega)
      simp only [List.set_cons_succ, List.getElem_cons_succ, wordSum, octetWeight_add_two]
      omega
  | case2 l hl =>
    match l with
    | [] => exact absurd hi (Nat.not_lt_zero i)
    | [_] => exact absurd heven (by simp)
    | hi' :: lo :: l => exact absurd rfl (hl hi' lo l)

/-- An octet with one bit flipped differs by a power of two. -/
lemma toNat_flip (b : UInt8) {k : ℕ} (hk : k < 8) :
    (b ^^^ UInt8.ofNat (2 ^ k)).toNat = b.toNat + 2 ^ k ∨
      b.toNat = (b ^^^ UInt8.ofNat (2 ^ k)).toNat + 2 ^ k := by
  have hall : ∀ b : Fin (2 ^ 8), ∀ k : Fin 8,
      (UInt8.ofFin b ^^^ UInt8.ofNat (2 ^ k.val)).toNat = b.val + 2 ^ k.val ∨
        b.val = (UInt8.ofFin b ^^^ UInt8.ofNat (2 ^ k.val)).toNat + 2 ^ k.val := by
    decide +kernel
  exact hall b.toFin ⟨k, hk⟩

/-- One bit is never worth a multiple of `2 ^ 16 - 1`: with it flipped, no sum that folded to all
ones does so again. -/
theorem foldCarry_flip_ne_ones {l : List UInt8} {i k : ℕ} (heven : l.length % 2 = 0)
    (hi : i < l.length) (hk : k < 8) (hones : foldCarry (wordSum l) = 2 ^ 16 - 1) :
    foldCarry (wordSum (l.set i (l[i] ^^^ UInt8.ofNat (2 ^ k)))) ≠ 2 ^ 16 - 1 := by
  have hset := wordSum_set l i (l[i] ^^^ UInt8.ofNat (2 ^ k)) heven hi
  have hbit : 0 < 2 ^ k * octetWeight i ∧ 2 ^ k * octetWeight i < 2 ^ 16 - 1 := by
    have hpow : 2 ^ k ≤ 2 ^ 7 := Nat.pow_le_pow_right (by decide) (by omega)
    have hpos : 0 < 2 ^ k := Nat.two_pow_pos k
    unfold octetWeight
    split_ifs <;> omega
  rw [Ne, foldCarry_eq_ones]
  rw [foldCarry_eq_ones] at hones
  rcases toNat_flip l[i] hk with hflip | hflip
  · rw [hflip, Nat.add_mul] at hset
    omega
  · rw [hflip, Nat.add_mul] at hset
    omega
