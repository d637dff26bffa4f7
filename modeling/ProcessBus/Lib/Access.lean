import ProcessBus.Lib.Memory

/-!
# Observed accesses and cursor arithmetic

What matters about a parser besides its result: which addresses it reads, which ranges it hands
to a callee, and whether the unsigned arithmetic on its cursors stays clear of wrapping. Each of
these leaves an event in the log of the run.
-/

/-- An observable access. Subtractions and additions are unsigned, additions at `w` bits. -/
inductive Event where
  | read (addr : ℕ)
  | range (addr len : ℕ)
  | sub (a b : ℕ)
  | add (w a b : ℕ)
  deriving DecidableEq

/-- The access stays inside the first `n` bytes and does not wrap. -/
def Event.Safe (n : ℕ) : Event → Prop
  | .read addr => addr < n
  | .range addr len => addr + len ≤ n
  | .sub a b => b ≤ a
  | .add w a b => a + b < 2 ^ w

section Safe

variable {n a b w : ℕ}

lemma Event.safe_read : Event.Safe n (.read a) ↔ a < n := Iff.rfl

lemma Event.safe_range : Event.Safe n (.range a b) ↔ a + b ≤ n := Iff.rfl

lemma Event.safe_sub : Event.Safe n (.sub a b) ↔ b ≤ a := Iff.rfl

lemma Event.safe_add : Event.Safe n (.add w a b) ↔ a + b < 2 ^ w := Iff.rfl

end Safe

instance (n : ℕ) : DecidablePred (Event.Safe n)
  | .read _ => inferInstanceAs (Decidable (_ < _))
  | .range _ _ => inferInstanceAs (Decidable (_ ≤ _))
  | .sub _ _ => inferInstanceAs (Decidable (_ ≤ _))
  | .add _ _ _ => inferInstanceAs (Decidable (_ < _))

/-- The access, if it is a read, stays inside the `n` bytes from `lo` on. -/
def Event.ReadsIn (lo n : ℕ) : Event → Prop
  | .read addr => lo ≤ addr ∧ addr < lo + n
  | _ => True

instance (lo n : ℕ) : DecidablePred (Event.ReadsIn lo n)
  | .read _ => inferInstanceAs (Decidable (_ ∧ _))
  | .range _ _ | .sub _ _ | .add _ _ _ => inferInstanceAs (Decidable True)

@[simp] lemma Event.readsIn_read {lo n i : ℕ} : Event.ReadsIn lo n (.read (lo + i)) ↔ i < n := by
  simp [Event.ReadsIn]

/-- A pointer: an address in a memory. -/
structure Ptr where
  mem : Mem
  off : ℕ

namespace Ptr

variable {P : Event → Prop}

/-- A pointer to the first of the bytes `bs`, with zeros behind them. -/
def ofBytes (bs : List UInt8) : Ptr := ⟨fun i => bs.getD i 0, 0⟩

lemma holds_ofBytes (bs : List UInt8) : (ofBytes bs).mem.Holds 0 bs := by
  intro i hi
  simp [ofBytes, hi]

/-- The bytes `bs` stand at `p`, and `s` is what follows them. -/
def HoldsThen (p : Ptr) (bs : List UInt8) (s : ℕ → UInt8) : Prop :=
  p.mem.Holds p.off bs ∧ ∀ i, p.mem (p.off + (bs.length + i)) = s i

lemma holdsThen_ofBytes (bs : List UInt8) : (ofBytes bs).HoldsThen bs fun _ => 0 := by
  refine ⟨holds_ofBytes bs, fun i => ?_⟩
  simp [ofBytes, List.getD]

/-- Pointer arithmetic. -/
def add (p : Ptr) (k : ℕ) : Ptr := { p with off := p.off + k }

@[simp] lemma mem_add (p : Ptr) (k : ℕ) : (p.add k).mem = p.mem := rfl

@[simp] lemma off_add (p : Ptr) (k : ℕ) : (p.add k).off = p.off + k := rfl

/-- `p[i]`. -/
def get (p : Ptr) (i : ℕ) : Traced Event UInt8 := ⟨p.mem (p.off + i), [.read (p.off + i)]⟩

@[simp] lemma val_get (p : Ptr) (i : ℕ) : (p.get i).val = p.mem (p.off + i) := (rfl)

@[simp] lemma all_get (p : Ptr) (i : ℕ) : (p.get i).All P ↔ P (.read (p.off + i)) :=
  List.forall_mem_singleton

/-- The big-endian number in the `w` bytes from `p[i]` on. -/
def load (p : Ptr) (i : ℕ) : ℕ → Traced Event ℕ
  | 0 => pure 0
  | w + 1 => do
    let hi ← p.load i w
    let lo ← p.get (i + w)
    pure (hi * 256 + lo.toNat)

@[simp] lemma val_load (p : Ptr) (i w : ℕ) :
    (p.load i w).val = beNat (p.mem.slice (p.off + i) w) := by
  induction w with
  | zero => rfl
  | succ w ih =>
    rw [Mem.slice_concat, beNat_concat, ← ih]
    simp [load, Nat.add_assoc]

@[simp] lemma all_load (p : Ptr) (i w : ℕ) :
    (p.load i w).All P ↔ ∀ j < w, P (.read (p.off + i + j)) := by
  induction w with
  | zero => simp [load]
  | succ w ih =>
    simp only [load, Traced.all_bind, ih, all_get, Traced.all_pure, and_true, Nat.add_assoc,
      Nat.forall_lt_succ_right]

/-- Compare bytes from left to right, stopping at the first that differs. -/
def expect (p : Ptr) : List (ℕ × UInt8) → Traced Event Bool
  | [] => pure true
  | (i, b) :: rest => do
    let x ← p.get i
    if x = b then p.expect rest else pure false

lemma val_expect (p : Ptr) (l : List (ℕ × UInt8)) :
    (p.expect l).val = true ↔ ∀ x ∈ l, p.mem (p.off + x.1) = x.2 := by
  induction l with
  | nil => simp [expect]
  | cons x l ih =>
    simp only [expect, Traced.val_bind, val_get, List.forall_mem_cons]
    split_ifs with h <;> simp [h, ih]

lemma all_expect (p : Ptr) (l : List (ℕ × UInt8)) (h : ∀ x ∈ l, P (.read (p.off + x.1))) :
    (p.expect l).All P := by
  induction l with
  | nil => simp [expect]
  | cons x l ih =>
    rw [List.forall_mem_cons] at h
    simp only [expect, Traced.all_bind, all_get, val_get]
    refine ⟨h.1, ?_⟩
    split_ifs
    · exact ih h.2
    · exact Traced.all_pure _

end Ptr

namespace Cursor

variable {P : Event → Prop} {w a b : ℕ}

/-- Unsigned addition at `w` bits. -/
def add (w a b : ℕ) : Traced Event ℕ := ⟨(a + b) % 2 ^ w, [.add w a b]⟩

/-- Unsigned subtraction of numbers of `w` bits. -/
def sub (w a b : ℕ) : Traced Event ℕ := ⟨if b ≤ a then a - b else 2 ^ w - (b - a), [.sub a b]⟩

lemma val_add (h : a + b < 2 ^ w) : (add w a b).val = a + b := Nat.mod_eq_of_lt h

lemma val_sub (h : b ≤ a) : (sub w a b).val = a - b := if_pos h

@[simp] lemma all_add : (add w a b).All P ↔ P (.add w a b) := List.forall_mem_singleton

@[simp] lemma all_sub : (sub w a b).All P ↔ P (.sub a b) := List.forall_mem_singleton

end Cursor
