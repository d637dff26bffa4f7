import ProcessBus.Lib.Trace
import Mathlib.Tactic.Ring
import Mathlib.Data.List.Induction

/-!
# Byte memory

A memory gives a byte to every address. What a program lays out in it is described by
`Mem.Holds m a bs`: the bytes `bs` stand at address `a`. The description is compositional in
`bs`, and a write either establishes it, extends it at its end, or leaves it alone.

Numbers are read and written big-endian, `beNat` and `beBytes`.
-/

/-- The content of memory. -/
abbrev Mem := ℕ → UInt8

/-! ### Big-endian numbers -/

/-- The number a list of octets stands for, most significant octet first. -/
def beNat (bs : List UInt8) : ℕ := bs.foldl (fun acc b => acc * 256 + b.toNat) 0

/-- The `w` octets of `n`, most significant first; higher ones are dropped. -/
def beBytes : ℕ → ℕ → List UInt8
  | 0, _ => []
  | w + 1, n => beBytes w (n / 256) ++ [UInt8.ofNat n]

@[simp] lemma beNat_nil : beNat [] = 0 := rfl

@[simp] lemma beNat_concat (bs : List UInt8) (b : UInt8) :
    beNat (bs ++ [b]) = beNat bs * 256 + b.toNat := by
  simp [beNat]

lemma beNat_append (bs cs : List UInt8) :
    beNat (bs ++ cs) = beNat bs * 256 ^ cs.length + beNat cs := by
  induction cs using List.reverseRecOn with
  | nil => simp
  | append_singleton cs c ih =>
    rw [← List.append_assoc, beNat_concat, ih, beNat_concat, List.length_append,
      List.length_singleton]
    ring

lemma beNat_cons (b : UInt8) (bs : List UInt8) :
    beNat (b :: bs) = b.toNat * 256 ^ bs.length + beNat bs := by
  rw [← List.singleton_append, beNat_append]
  simp [beNat]

lemma beNat_lt (bs : List UInt8) : beNat bs < 256 ^ bs.length := by
  induction bs using List.reverseRecOn with
  | nil => simp
  | append_singleton bs b ih =>
    have hb := b.toNat_lt
    rw [beNat_concat, List.length_append, List.length_singleton, Nat.pow_succ]
    omega

@[simp] lemma length_beBytes (w n : ℕ) : (beBytes w n).length = w := by
  induction w generalizing n with
  | zero => rfl
  | succ w ih => simp [beBytes, ih]

lemma beNat_beBytes_mod (w n : ℕ) : beNat (beBytes w n) = n % 256 ^ w := by
  induction w generalizing n with
  | zero => simp [beBytes, Nat.mod_one]
  | succ w ih =>
    have hmod : n % 256 ^ (w + 1) = n % 256 + 256 * (n / 256 % 256 ^ w) := by
      rw [Nat.pow_succ', Nat.mod_mul]
    rw [beBytes, beNat_concat, ih, UInt8.toNat_ofNat', hmod]
    omega

/-- Reading back a number that fits. -/
lemma beNat_beBytes {w n : ℕ} (h : n < 256 ^ w) : beNat (beBytes w n) = n := by
  rw [beNat_beBytes_mod, Nat.mod_eq_of_lt h]

/-- Octets are determined by their number and their value. -/
lemma beBytes_beNat (bs : List UInt8) : beBytes bs.length (beNat bs) = bs := by
  induction bs using List.reverseRecOn with
  | nil => rfl
  | append_singleton bs b ih =>
    have hb := b.toNat_lt
    rw [List.length_append, List.length_singleton, beBytes, beNat_concat,
      show (beNat bs * 256 + b.toNat) / 256 = beNat bs by omega, ih]
    congr 2
    apply UInt8.toNat_inj.mp
    rw [UInt8.toNat_ofNat']
    omega

lemma beNat_injective {bs cs : List UInt8} (hlen : bs.length = cs.length)
    (h : beNat bs = beNat cs) : bs = cs := by
  rw [← beBytes_beNat bs, ← beBytes_beNat cs, hlen, h]

namespace Mem

variable {m : Mem} {a b : ℕ} {bs cs : List UInt8}

/-! ### Layout -/

/-- The bytes `bs` stand at address `a`. -/
def Holds (m : Mem) (a : ℕ) (bs : List UInt8) : Prop :=
  ∀ i (h : i < bs.length), m (a + i) = bs[i]

/-- The `len` bytes at address `a`. -/
def slice (m : Mem) (a len : ℕ) : List UInt8 := (List.range len).map fun i => m (a + i)

/-- Store `bs` at address `a`. -/
def write (m : Mem) (a : ℕ) (bs : List UInt8) : Mem :=
  fun i => if a ≤ i ∧ i < a + bs.length then bs.getD (i - a) 0 else m i

@[simp] lemma length_slice (m : Mem) (a len : ℕ) : (m.slice a len).length = len := by
  simp [slice]

@[simp] lemma getElem_slice (m : Mem) (a len i : ℕ) (h : i < (m.slice a len).length) :
    (m.slice a len)[i] = m (a + i) := by
  simp [slice]

lemma holds_slice (m : Mem) (a len : ℕ) : m.Holds a (m.slice a len) :=
  fun i h => (getElem_slice m a len i h).symm

@[simp] lemma slice_zero (m : Mem) (a : ℕ) : m.slice a 0 = [] := rfl

lemma slice_add (m : Mem) (a n k : ℕ) : m.slice a (n + k) = m.slice a n ++ m.slice (a + n) k := by
  simp [slice, List.range_add, Nat.add_assoc]

lemma slice_succ (m : Mem) (a n : ℕ) : m.slice a (n + 1) = m a :: m.slice (a + 1) n := by
  rw [Nat.add_comm, slice_add]
  rfl

lemma slice_concat (m : Mem) (a n : ℕ) : m.slice a (n + 1) = m.slice a n ++ [m (a + n)] := by
  rw [slice_add]
  rfl

lemma beNat_slice_one (m : Mem) (a : ℕ) : beNat (m.slice a 1) = (m a).toNat := by
  simp [slice, beNat]

lemma beNat_slice_two (m : Mem) (a : ℕ) :
    beNat (m.slice a 2) = (m a).toNat * 256 + (m (a + 1)).toNat := by
  rw [slice_concat, beNat_concat, beNat_slice_one]

lemma Holds.slice_eq (h : m.Holds a bs) : m.slice a bs.length = bs := by
  apply List.ext_getElem (length_slice _ _ _)
  intro i _ hi
  rw [getElem_slice, h i hi]

lemma slice_eq_iff {len : ℕ} : m.slice a len = bs ↔ bs.length = len ∧ m.Holds a bs := by
  constructor
  · rintro rfl
    exact ⟨length_slice _ _ _, holds_slice _ _ _⟩
  · rintro ⟨rfl, h⟩
    exact h.slice_eq

@[simp] lemma holds_nil : m.Holds a [] := fun i h => absurd h (Nat.not_lt_zero i)

lemma holds_append : m.Holds a (bs ++ cs) ↔ m.Holds a bs ∧ m.Holds (a + bs.length) cs := by
  constructor
  · intro h
    refine ⟨fun i hi => ?_, fun i hi => ?_⟩
    · rw [h i (by rw [List.length_append]; omega), List.getElem_append_left hi]
    · rw [Nat.add_assoc, h (bs.length + i) (by rw [List.length_append]; omega),
        List.getElem_append_right (by omega)]
      simp
  · rintro ⟨hb, hc⟩ i hi
    rw [List.length_append] at hi
    by_cases hlt : i < bs.length
    · rw [hb i hlt, List.getElem_append_left hlt]
    · rw [List.getElem_append_right (by omega), ← hc (i - bs.length) (by omega)]
      congr 1
      omega

/-- A range is cut where the first part ends. -/
lemma slice_eq_append_iff {len : ℕ} : m.slice a len = bs ++ cs ↔
    ∃ k ≤ len, m.slice a k = bs ∧ m.slice (a + k) (len - k) = cs := by
  constructor
  · intro h
    obtain ⟨hlen, hholds⟩ := slice_eq_iff.mp h
    obtain ⟨hb, hc⟩ := holds_append.mp hholds
    rw [List.length_append] at hlen
    refine ⟨bs.length, by omega, hb.slice_eq, ?_⟩
    rw [← hlen, Nat.add_sub_cancel_left]
    exact hc.slice_eq
  · rintro ⟨k, hk, rfl, rfl⟩
    rw [← slice_add, Nat.add_sub_cancel' hk]

lemma holds_cons {x : UInt8} : m.Holds a (x :: bs) ↔ m a = x ∧ m.Holds (a + 1) bs := by
  rw [← List.singleton_append, holds_append, List.length_singleton]
  refine and_congr_left fun _ => ⟨fun h => h 0 (by simp), fun h i hi => ?_⟩
  obtain rfl : i = 0 := by simpa using hi
  exact h

/-- Two memories that agree on a range hold the same bytes there. -/
lemma Holds.congr {m' : Mem} (h : m.Holds a bs)
    (heq : ∀ i, a ≤ i → i < a + bs.length → m' i = m i) : m'.Holds a bs :=
  fun i hi => by rw [heq _ (by omega) (by omega), h i hi]

lemma slice_congr {m' : Mem} {len : ℕ} (heq : ∀ i, a ≤ i → i < a + len → m' i = m i) :
    m'.slice a len = m.slice a len :=
  List.map_congr_left fun i hi => heq _ (by omega) (by have := List.mem_range.mp hi; omega)

lemma eq_of_slice_eq {m' : Mem} {len i : ℕ} (h : m'.slice a len = m.slice a len) (hi : i < len) :
    m' (a + i) = m (a + i) := by
  have hget := congrArg (·[i]?) h
  simp only [slice, List.getElem?_map, List.getElem?_range hi, Option.map_some,
    Option.some.injEq] at hget
  exact hget

lemma take_drop_slice {n k len : ℕ} (h : k + len ≤ n) :
    ((m.slice a n).drop k).take len = m.slice (a + k) len := by
  apply List.ext_getElem
  · simp only [List.length_take, List.length_drop, length_slice]
    omega
  · intro i _ hi
    simp [Nat.add_assoc]

/-! ### Writing -/

lemma write_of_lt {i : ℕ} (h : i < a) : m.write a bs i = m i := by
  simp [write, Nat.not_le.mpr h]

lemma write_of_ge {i : ℕ} (h : a + bs.length ≤ i) : m.write a bs i = m i := by
  simp [write, Nat.not_lt.mpr h]

lemma holds_write (m : Mem) (a : ℕ) (bs : List UInt8) : (m.write a bs).Holds a bs := by
  intro i hi
  simp [write, hi]

/-- To store what is there changes nothing. -/
lemma Holds.write_self (h : m.Holds a bs) : m.write a bs = m := by
  funext i
  by_cases hi : a ≤ i ∧ i < a + bs.length
  · have hw := holds_write m a bs (i - a) (by omega)
    have hm := h (i - a) (by omega)
    rw [Nat.add_sub_cancel' hi.1] at hw hm
    rw [hw, hm]
  · rw [write, if_neg hi]

/-- A write elsewhere leaves a layout alone. -/
lemma Holds.write (h : m.Holds a bs) (hdisj : a + bs.length ≤ b ∨ b + cs.length ≤ a) :
    (m.write b cs).Holds a bs :=
  h.congr fun i hai hib => by
    rcases hdisj with hd | hd
    · exact write_of_lt (by omega)
    · exact write_of_ge (by omega)

/-- A write right behind a layout extends it. -/
lemma Holds.write_append (h : m.Holds a bs) (hb : b = a + bs.length) (cs : List UInt8) :
    (m.write b cs).Holds a (bs ++ cs) := by
  subst hb
  exact holds_append.mpr ⟨h.write (.inl le_rfl), holds_write _ _ _⟩

/-- A write of the same length in the middle replaces what stood there. -/
lemma Holds.write_mid {xs ys zs : List UInt8} (h : m.Holds a (xs ++ (ys ++ zs)))
    (hb : b = a + xs.length) (hlen : cs.length = ys.length) :
    (m.write b cs).Holds a (xs ++ (cs ++ zs)) := by
  subst hb
  obtain ⟨hx, hyz⟩ := holds_append.mp h
  obtain ⟨_, hz⟩ := holds_append.mp hyz
  refine holds_append.mpr ⟨hx.write (.inl le_rfl), holds_append.mpr ⟨holds_write _ _ _, ?_⟩⟩
  rw [hlen]
  exact hz.write (.inr (by rw [hlen]))

end Mem
