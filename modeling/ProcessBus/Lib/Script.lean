import ProcessBus.Lib.Loop
import Mathlib.Logic.Relation

/-!
# Programs that ask their surroundings

A script makes one request after another and goes on with the replies. Any request can be
interrupted, and the script passes the interruption on unless it handles it.

The surroundings are a relation. They change on their own between two requests (`drift`), and a
request changes them as it is served (`serve`). A triple says what holds of every run from every
state with the precondition; the rules below are those of the constructs of a script. A condition
survives until the next request if no drift breaks it (`Stable`).
-/

/-- A program that makes requests `c : C`, with a reply in `R c` unless it is interrupted. -/
inductive Script {C : Type} (R : C → Type) (α : Type) : Type where
  | done (a : α)
  | interrupted
  | ask (c : C) (k : Option (R c) → Script R α)

namespace Script

variable {C : Type} {R : C → Type} {α β ρ σ : Type}

/-- First `s`, and then `f` with its result. -/
def bind : Script R α → (α → Script R β) → Script R β
  | done a, f => f a
  | interrupted, _ => interrupted
  | ask c k, f => ask c fun r => (k r).bind f

instance : Monad (Script R) where
  pure := done
  bind := bind

/-- One request. -/
def call (c : C) : Script R (R c) :=
  ask c fun
    | some r => done r
    | none => interrupted

/-- `s`, and `h` if `s` is interrupted. -/
def onInterrupt : Script R α → Script R α → Script R α
  | done a, _ => done a
  | interrupted, h => h
  | ask c k, h => ask c fun r => (k r).onInterrupt h

/-- A request for each element. -/
def forEach (f : β → Script R Unit) : List β → Script R Unit
  | [] => done ()
  | b :: bs => (f b).bind fun _ => forEach f bs

/-- At most `n` rounds of `step` from `s`; `none` when that is not enough. -/
def loop (step : σ → Script R (Round ρ σ)) : ℕ → σ → Script R (Option ρ)
  | 0, _ => done none
  | n + 1, s => (step s).bind fun
    | .done r => done (some r)
    | .next s' => loop step n s'
    | .hang => done none

/-! ### Footprints -/

/-- All requests of the script are of a certain kind. -/
def Asks (allowed : C → Prop) : Script R α → Prop
  | done _ => True
  | interrupted => True
  | ask c k => allowed c ∧ ∀ r, (k r).Asks allowed

variable {allowed : C → Prop}

lemma asks_call {c : C} : (call c : Script R (R c)).Asks allowed ↔ allowed c := by
  rw [call, Asks, and_iff_left_iff_imp]
  rintro _ (_ | r) <;> trivial

lemma Asks.mono {allowed' : C → Prop} {s : Script R α} (hs : s.Asks allowed)
    (h : ∀ c, allowed c → allowed' c) : s.Asks allowed' := by
  induction s with
  | done a => trivial
  | interrupted => trivial
  | ask c k ih => exact ⟨h c hs.1, fun r => ih r (hs.2 r)⟩

lemma Asks.bind {s : Script R α} {f : α → Script R β} (hs : s.Asks allowed)
    (hf : ∀ a, (f a).Asks allowed) : (s.bind f).Asks allowed := by
  induction s with
  | done a => exact hf a
  | interrupted => trivial
  | ask c k ih => exact ⟨hs.1, fun r => ih r (hs.2 r)⟩

lemma asks_forEach {f : β → Script R Unit} {bs : List β} (h : ∀ b ∈ bs, (f b).Asks allowed) :
    (forEach f bs).Asks allowed := by
  induction bs with
  | nil => trivial
  | cons b bs ih =>
    rw [List.forall_mem_cons] at h
    exact h.1.bind fun _ => ih h.2

lemma asks_loop {step : σ → Script R (Round ρ σ)} (h : ∀ s, (step s).Asks allowed) (n : ℕ)
    (s : σ) : (loop step n s).Asks allowed := by
  induction n generalizing s with
  | zero => trivial
  | succ n ih =>
    refine (h s).bind fun round => ?_
    cases round with
    | done r => trivial
    | next s' => exact ih s'
    | hang => trivial

end Script

/-! ### Runs -/

/-- What a script runs in. -/
structure Surroundings {C : Type} (R : C → Type) (W : Type) where
  /-- What happens on its own. -/
  drift : W → W → Prop
  /-- A request, its reply and the state after it. The request is interrupted if there is no
  reply. -/
  serve : (c : C) → W → Option (R c) → W → Prop

namespace Surroundings

open Script

variable {C : Type} {R : C → Type} {W : Type} {α β ρ σ : Type} (S : Surroundings R W)

/-- A run of a script to its end: the result, unless it was interrupted, and the last state. -/
inductive Runs : Script R α → W → Option α → W → Prop where
  | done (a : α) (w : W) : Runs (.done a) w (some a) w
  | interrupted (w : W) : Runs .interrupted w none w
  | ask {c : C} {k : Option (R c) → Script R α} {r : Option (R c)} {o : Option α} {w w₁ w₂ w₃ : W}
      (hdrift : Relation.ReflTransGen S.drift w w₁) (hserve : S.serve c w₁ r w₂)
      (hrest : Runs (k r) w₂ o w₃) : Runs (.ask c k) w o w₃

variable {S} {w w' : W} {o : Option β}

lemma runs_bind {s : Script R α} {f : α → Script R β} (h : S.Runs (s.bind f) w o w') :
    (∃ a w₁, S.Runs s w (some a) w₁ ∧ S.Runs (f a) w₁ o w') ∨ S.Runs s w none w' ∧ o = none := by
  induction s generalizing w with
  | done a => exact .inl ⟨a, _, .done a _, h⟩
  | interrupted =>
    cases h
    exact .inr ⟨.interrupted _, rfl⟩
  | ask c k ih =>
    cases h with
    | ask hdrift hserve hrest =>
      rcases ih _ hrest with ⟨a, w₁, hs, hf⟩ | ⟨hs, ho⟩
      · exact .inl ⟨a, w₁, .ask hdrift hserve hs, hf⟩
      · exact .inr ⟨.ask hdrift hserve hs, ho⟩

lemma runs_onInterrupt {s h : Script R β} (hruns : S.Runs (s.onInterrupt h) w o w') :
    (∃ b, o = some b ∧ S.Runs s w (some b) w') ∨ ∃ w₁, S.Runs s w none w₁ ∧ S.Runs h w₁ o w' := by
  induction s generalizing w with
  | done b =>
    cases hruns
    exact .inl ⟨b, rfl, .done b _⟩
  | interrupted => exact .inr ⟨_, .interrupted _, hruns⟩
  | ask c k ih =>
    cases hruns with
    | ask hdrift hserve hrest =>
      rcases ih _ hrest with ⟨b, ho, hs⟩ | ⟨w₁, hs, hh⟩
      · exact .inl ⟨b, ho, .ask hdrift hserve hs⟩
      · exact .inr ⟨w₁, .ask hdrift hserve hs, hh⟩

namespace Runs

lemma call {c : C} {r : R c} {w₁ w₂ : W} (hdrift : Relation.ReflTransGen S.drift w w₁)
    (hserve : S.serve c w₁ (some r) w₂) : S.Runs (Script.call c) w (some r) w₂ :=
  ask hdrift hserve (done r w₂)

lemma bind {s : Script R α} {f : α → Script R β} {a : α} {w₁ : W} (hs : S.Runs s w (some a) w₁)
    (hf : S.Runs (f a) w₁ o w') : S.Runs (s.bind f) w o w' := by
  induction s generalizing w with
  | done a =>
    cases hs
    exact hf
  | interrupted => cases hs
  | ask c k ih =>
    cases hs with
    | ask hdrift hserve hrest => exact ask hdrift hserve (ih _ hrest)

lemma onInterrupt {s : Script R β} (h : Script R β) {b : β} (hs : S.Runs s w (some b) w') :
    S.Runs (s.onInterrupt h) w (some b) w' := by
  induction s generalizing w with
  | done a =>
    cases hs
    exact done b _
  | interrupted => cases hs
  | ask c k ih =>
    cases hs with
    | ask hdrift hserve hrest => exact ask hdrift hserve (ih _ hrest)

end Runs

/-! ### Triples -/

variable (S)

/-- From a state with `P`, a run ends with `Q`. -/
def Triple (P : W → Prop) (s : Script R α) (Q : Option α → W → Prop) : Prop :=
  ∀ w o w', P w → S.Runs s w o w' → Q o w'

/-- Nothing that happens on its own breaks `P`. -/
def Stable (P : W → Prop) : Prop := ∀ w w', P w → S.drift w w' → P w'

variable {S} {P P' : W → Prop}

lemma Stable.reach (h : S.Stable P) (hP : P w) (hdrift : Relation.ReflTransGen S.drift w w') :
    P w' := by
  induction hdrift with
  | refl => exact hP
  | tail _ hstep ih => exact h _ _ ih hstep

namespace Triple

lemma mono {s : Script R α} {Q Q' : Option α → W → Prop} (h : S.Triple P s Q)
    (hP : ∀ w, P' w → P w) (hQ : ∀ o w, Q o w → Q' o w) : S.Triple P' s Q' :=
  fun w o w' hw hruns => hQ o w' (h w o w' (hP w hw) hruns)

/-- Nothing is said about the runs. -/
lemma any (P : W → Prop) (s : Script R α) : S.Triple P s fun _ _ => True := fun _ _ _ _ _ => trivial

lemma and {s : Script R α} {Q Q' : Option α → W → Prop} (h : S.Triple P s Q)
    (h' : S.Triple P' s Q') : S.Triple (fun w => P w ∧ P' w) s fun o w => Q o w ∧ Q' o w :=
  fun w o w' hw hruns => ⟨h w o w' hw.1 hruns, h' w o w' hw.2 hruns⟩

lemma done {a : α} {Q : Option α → W → Prop} (h : ∀ w, P w → Q (some a) w) :
    S.Triple P (.done a) Q := by
  intro w o w' hw hruns
  cases hruns
  exact h w hw

/-- The condition holds until the request is served, and `Q` after it. -/
theorem call {c : C} {Q : Option (R c) → W → Prop} (hstable : S.Stable P)
    (h : ∀ w r w', P w → S.serve c w r w' → Q r w') : S.Triple P (call c) Q := by
  intro w o w' hw hruns
  cases hruns with
  | @ask _ _ r _ _ w₁ w₂ _ hdrift hserve hrest =>
    have hQ : Q r w₂ := h w₁ r w₂ (hstable.reach hw hdrift) hserve
    cases r with
    | some r => cases hrest; exact hQ
    | none => cases hrest; exact hQ

theorem bind {s : Script R α} {f : α → Script R β} {M : Option α → W → Prop}
    {Q : Option β → W → Prop} (hs : S.Triple P s M) (hf : ∀ a, S.Triple (M (some a)) (f a) Q)
    (hnone : ∀ w, M none w → Q none w) : S.Triple P (s.bind f) Q := by
  intro w o w' hw hruns
  rcases runs_bind hruns with ⟨a, w₁, hfirst, hthen⟩ | ⟨hfirst, rfl⟩
  · exact hf a w₁ o w' (hs w _ w₁ hw hfirst) hthen
  · exact hnone w' (hs w _ w' hw hfirst)

/-- What the requests of a script keep, the script keeps. -/
theorem of_asks {allowed : C → Prop} {s : Script R α} (hstable : S.Stable P)
    (hserve : ∀ c, allowed c → ∀ w r w', P w → S.serve c w r w' → P w') (hs : s.Asks allowed) :
    S.Triple P s fun _ => P := by
  induction s with
  | done a => exact done fun _ => id
  | interrupted =>
    intro w o w' hw hruns
    cases hruns
    exact hw
  | ask c k ih =>
    intro w o w' hw hruns
    cases hruns with
    | @ask _ _ r _ _ w₁ w₂ _ hdrift hstep hrest =>
      exact ih r (hs.2 r) w₂ o w' (hserve c hs.1 w₁ r w₂ (hstable.reach hw hdrift) hstep) hrest

/-- The invariant counts the rounds that are left. With none left it has to give the result. -/
theorem loop {step : σ → Script R (Round ρ σ)} {Q : Option (Option ρ) → W → Prop}
    (I : ℕ → σ → W → Prop) (hzero : ∀ s w, I 0 s w → Q (some none) w)
    (hstep : ∀ n s, S.Triple (I (n + 1) s) (step s) fun o w => match o with
      | some (.done r) => Q (some (some r)) w
      | some (.next s') => I n s' w
      | some .hang => Q (some none) w
      | none => Q none w) (n : ℕ) (s : σ) : S.Triple (I n s) (loop step n s) Q := by
  induction n generalizing s with
  | zero => exact done fun w hw => hzero s w hw
  | succ n ih =>
    refine bind (hstep n s) (fun round => ?_) fun w hw => hw
    cases round with
    | done r => exact done fun w hw => hw
    | next s' => exact ih s'
    | hang => exact done fun w hw => hw

end Triple

end Surroundings
