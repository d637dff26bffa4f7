import Mathlib.Logic.Relation
import Mathlib.Tactic.SplitIfs

/-!
# Runs that record what they do

`Traced ε α` is a computation of an `α` that leaves a list of events behind. The value and the
log are two projections of one run, so a fact about what a function returns and a fact about
what it touches on the way are facts about the same definition.

`Traced.All P x` says that every event of the run satisfies `P`. It distributes over `>>=`,
which is the only rule the clients need.
-/

/-- A value together with the events recorded while it was computed. -/
structure Traced (ε α : Type) where
  val : α
  log : List ε

namespace Traced

variable {ε α β : Type}

/-- The run that returns `a` and does nothing. -/
protected def pure (a : α) : Traced ε α := ⟨a, []⟩

/-- Run `x`, then `f` on its value; the events follow each other. -/
protected def bind (x : Traced ε α) (f : α → Traced ε β) : Traced ε β :=
  ⟨(f x.val).val, x.log ++ (f x.val).log⟩

instance : Monad (Traced ε) where
  pure := Traced.pure
  bind := Traced.bind

/-- Record one event. -/
def emit (e : ε) : Traced ε Unit := ⟨(), [e]⟩

@[simp] lemma val_pure (a : α) : (pure a : Traced ε α).val = a := (rfl)

@[simp] lemma val_bind (x : Traced ε α) (f : α → Traced ε β) :
    (x >>= f).val = (f x.val).val := (rfl)

@[simp] lemma val_emit (e : ε) : (emit e).val = () := (rfl)

@[simp] lemma val_map (f : α → β) (x : Traced ε α) : (f <$> x).val = f x.val := (rfl)

@[simp] lemma val_ite (c : Prop) [Decidable c] (x y : Traced ε α) :
    (if c then x else y).val = if c then x.val else y.val := apply_ite Traced.val c x y

/-- What a branch returned, whichever it was. -/
lemma of_val_ite {Q c : Prop} [Decidable c] {x y : Traced ε α} {v : α}
    (h : (if c then x else y).val = v) (hx : x.val = v → Q) (hy : y.val = v → Q) : Q := by
  by_cases hc : c
  · exact hx (by rwa [if_pos hc] at h)
  · exact hy (by rwa [if_neg hc] at h)

/-- Two runs that branch alike. -/
lemma rel_ite {R : α → β → Prop} {c : Prop} [Decidable c] {x y : Traced ε α} {x' y' : Traced ε β}
    (hx : c → R x.val x'.val) (hy : ¬ c → R y.val y'.val) :
    R (if c then x else y).val (if c then x' else y').val := by
  by_cases hc : c
  · rw [if_pos hc, if_pos hc]
    exact hx hc
  · rw [if_neg hc, if_neg hc]
    exact hy hc

/-- Every event of the run satisfies `P`. -/
def All (P : ε → Prop) (x : Traced ε α) : Prop := ∀ e ∈ x.log, P e

variable {P : ε → Prop}

@[simp] lemma all_pure (a : α) : (pure a : Traced ε α).All P :=
  fun _ he => absurd he List.not_mem_nil

@[simp] lemma all_bind (x : Traced ε α) (f : α → Traced ε β) :
    (x >>= f).All P ↔ x.All P ∧ (f x.val).All P :=
  List.forall_mem_append

@[simp] lemma all_emit (e : ε) : (emit e).All P ↔ P e :=
  List.forall_mem_singleton

@[simp] lemma all_map (f : α → β) (x : Traced ε α) : (f <$> x).All P ↔ x.All P := by
  show (∀ e ∈ x.log ++ [], P e) ↔ ∀ e ∈ x.log, P e
  rw [List.append_nil]

@[simp] lemma all_ite (c : Prop) [Decidable c] (x y : Traced ε α) :
    (if c then x else y).All P ↔ (c → x.All P) ∧ (¬ c → y.All P) := by
  split_ifs with h <;> simp [h]

/-- Both branches may use the condition. -/
lemma all_ite_of {c : Prop} [Decidable c] {x y : Traced ε α} (hx : c → x.All P)
    (hy : ¬ c → y.All P) : (if c then x else y).All P :=
  (all_ite c x y).mpr ⟨hx, hy⟩

lemma all_bind_of {x : Traced ε α} {f : α → Traced ε β} (hx : x.All P) (hf : (f x.val).All P) :
    (x >>= f).All P :=
  (all_bind x f).mpr ⟨hx, hf⟩

lemma All.mono {Q : ε → Prop} {x : Traced ε α} (h : x.All P) (hPQ : ∀ e, P e → Q e) : x.All Q :=
  fun e he => hPQ e (h e he)

/-! ### Chains of checks

A reader that looks at one thing after the other and gives up at the first that is wrong. -/

/-- The run returns `r` if `Ok` holds and something bad if it does not. -/
def Decides (x : Traced ε α) (Ok : Prop) (r : α) (Bad : α → Prop) : Prop :=
  (Ok ∧ x.val = r) ∨ (¬ Ok ∧ Bad x.val)

section Decides

variable {Ok c : Prop} {a r : α} {Bad : α → Prop}

lemma Decides.ok {x : Traced ε α} (h : x.Decides Ok r Bad) (hok : Ok) : x.val = r := by
  rcases h with ⟨_, h⟩ | ⟨hno, _⟩
  · exact h
  · exact absurd hok hno

lemma Decides.bad {x : Traced ε α} (h : x.Decides Ok r Bad) (hno : ¬ Ok) : Bad x.val := by
  rcases h with ⟨hok, _⟩ | ⟨_, h⟩
  · exact absurd hok hno
  · exact h

lemma decides_pure (hok : Ok) : (pure r : Traced ε α).Decides Ok r Bad := .inl ⟨hok, rfl⟩

lemma decides_bad (hno : ¬ Ok) (hbad : Bad a) : (pure a : Traced ε α).Decides Ok r Bad :=
  .inr ⟨hno, hbad⟩

lemma decides_bind {x : Traced ε β} {f : β → Traced ε α} :
    (x >>= f).Decides Ok r Bad ↔ (f x.val).Decides Ok r Bad := Iff.rfl

/-- One check. -/
lemma decides_ite [Decidable c] {x y : Traced ε α} (hc : c → x.Decides Ok r Bad)
    (hnc : ¬ c → y.Decides Ok r Bad) : (if c then x else y).Decides Ok r Bad := by
  split_ifs with h
  · exact hc h
  · exact hnc h

end Decides

end Traced
