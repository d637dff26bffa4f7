import ProcessBus.Lib.Trace
import Mathlib.Order.WellFounded
import Mathlib.Data.Fintype.Card
import Mathlib.Data.Set.Finite.Basic
import Mathlib.Order.Preorder.Finite

/-!
# Loops with a bounded number of rounds

`Loop.run step n s` is a `while` loop: `step` is one round, and at most `n` rounds are made.
A round may itself contain a bounded loop that runs out, hence the third outcome of a round.

The rules are the usual ones. An invariant bounds the events of a run (`all_run`) and its result
(`run_post`), a measure gives a result (`run_isSome`). The last section says when a loop halts at
all: when the control points it goes through cannot recur.
-/

/-- The outcome of one round of a loop. -/
inductive Round (ρ σ : Type) where
  | done (r : ρ)
  | next (s : σ)
  | hang

/-- What holds of the result if the round is the last one, and of the next state if it is not. -/
def Round.Sat {ρ σ : Type} (Inv : σ → Prop) (Q : ρ → Prop) : Round ρ σ → Prop
  | .done r => Q r
  | .next s => Inv s
  | .hang => True

/-- Two rounds end the same way, with related results or in related states. -/
inductive Round.Rel {ρ ρ' σ σ' : Type} (Res : ρ → ρ' → Prop) (Sim : σ → σ' → Prop) :
    Round ρ σ → Round ρ' σ' → Prop
  | done {r : ρ} {r' : ρ'} : Res r r' → Rel Res Sim (.done r) (.done r')
  | next {s : σ} {s' : σ'} : Sim s s' → Rel Res Sim (.next s) (.next s')
  | hang : Rel Res Sim .hang .hang

namespace Loop

variable {ε α ρ σ : Type}

/-- A bounded loop inside a round: if it runs out, so does the round. -/
def inner (x : Traced ε (Option α)) (f : α → Traced ε (Round ρ σ)) : Traced ε (Round ρ σ) := do
  match ← x with
  | none => pure .hang
  | some a => f a

/-- At most `n` rounds of `step` from `s`; `none` when that is not enough. -/
def run (step : σ → Traced ε (Round ρ σ)) : ℕ → σ → Traced ε (Option ρ)
  | 0, _ => pure none
  | n + 1, s => do
    match ← step s with
    | .done r => pure (some r)
    | .next s' => run step n s'
    | .hang => pure none

variable {step : σ → Traced ε (Round ρ σ)} {P : ε → Prop} {s s' : σ} {r : ρ} {n : ℕ}

lemma val_inner_none {x : Traced ε (Option α)} {f : α → Traced ε (Round ρ σ)}
    (h : x.val = none) : (inner x f).val = .hang := by
  simp [inner, h]

lemma val_inner_some {x : Traced ε (Option α)} {f : α → Traced ε (Round ρ σ)} {a : α}
    (h : x.val = some a) : (inner x f).val = (f a).val := by
  simp [inner, h]

/-- Whatever the inner loop returns, the round goes on as it should. -/
lemma sat_inner {x : Traced ε (Option α)} {f : α → Traced ε (Round ρ σ)} {Inv : σ → Prop}
    {Q : ρ → Prop} (h : ∀ a, (f a).val.Sat Inv Q) : (inner x f).val.Sat Inv Q := by
  cases hx : x.val with
  | none =>
    rw [val_inner_none hx]
    exact trivial
  | some a =>
    rw [val_inner_some hx]
    exact h a

lemma all_inner {x : Traced ε (Option α)} {f : α → Traced ε (Round ρ σ)} :
    (inner x f).All P ↔ x.All P ∧ ∀ a, x.val = some a → (f a).All P := by
  simp only [inner, Traced.all_bind, and_congr_right_iff]
  intro _
  cases x.val <;> simp

@[simp] lemma val_run_zero : (run step 0 s).val = none := rfl

lemma val_run_done (h : (step s).val = .done r) : (run step (n + 1) s).val = some r := by
  simp [run, h]

lemma val_run_next (h : (step s).val = .next s') :
    (run step (n + 1) s).val = (run step n s').val := by
  simp [run, h]

lemma val_run_hang (h : (step s).val = .hang) : (run step (n + 1) s).val = none := by
  simp [run, h]

/-- The events of a run are those of its first round and those of the rounds that follow. -/
lemma all_run_succ : (run step (n + 1) s).All P ↔
    (step s).All P ∧ ∀ s', (step s).val = .next s' → (run step n s').All P := by
  simp only [run, Traced.all_bind, and_congr_right_iff]
  intro _
  cases (step s).val <;> simp

/-! ### Rules -/

/-- An invariant under which every round is harmless makes the whole run harmless. -/
theorem all_run (Inv : σ → Prop)
    (hstep : ∀ s, Inv s → (step s).All P ∧ ∀ s', (step s).val = .next s' → Inv s') :
    ∀ n s, Inv s → (run step n s).All P := by
  intro n
  induction n with
  | zero => intro s _; exact Traced.all_pure _
  | succ n ih =>
    intro s hs
    obtain ⟨hall, hnext⟩ := hstep s hs
    exact all_run_succ.mpr ⟨hall, fun s' h => ih s' (hnext s' h)⟩

/-- An invariant and what its last round makes of it. -/
theorem run_post (Inv : σ → Prop) (Q : ρ → Prop)
    (hstep : ∀ s, Inv s → (step s).val.Sat Inv Q) :
    ∀ n s, Inv s → ∀ r, (run step n s).val = some r → Q r := by
  intro n
  induction n with
  | zero => intro s _ r h; simp at h
  | succ n ih =>
    intro s hs r h
    have hround := hstep s hs
    cases hr : (step s).val with
    | done r' =>
      rw [val_run_done hr, Option.some.injEq] at h
      rw [hr] at hround
      exact h ▸ hround
    | next s' =>
      rw [hr] at hround
      exact ih s' hround r (val_run_next hr ▸ h)
    | hang => rw [val_run_hang hr] at h; cases h

/-- A measure that every round decreases bounds the number of rounds. -/
theorem run_isSome (Inv : σ → Prop) (μ : σ → ℕ)
    (hstep : ∀ s, Inv s → ∀ s', (step s).val = .next s' → Inv s' ∧ μ s' < μ s)
    (hhang : ∀ s, Inv s → (step s).val ≠ .hang) :
    ∀ n s, Inv s → μ s < n → (run step n s).val.isSome := by
  intro n
  induction n with
  | zero => intro s _ h; omega
  | succ n ih =>
    intro s hs hμ
    cases hr : (step s).val with
    | done r' => rw [val_run_done hr]; rfl
    | next s' =>
      obtain ⟨hs', hlt⟩ := hstep s hs s' hr
      rw [val_run_next hr]
      exact ih s' hs' (by omega)
    | hang => exact absurd hr (hhang s hs)

/-- More rounds, and rounds that give up less often, do not change a result. -/
theorem run_mono {step' : σ → Traced ε (Round ρ σ)}
    (hstep : ∀ s, (step s).val ≠ .hang → (step' s).val = (step s).val) :
    ∀ {n m s r}, n ≤ m → (run step n s).val = some r → (run step' m s).val = some r := by
  intro n
  induction n with
  | zero => intro m s r _ h; simp at h
  | succ n ih =>
    intro m s r hnm h
    obtain ⟨m, rfl⟩ : ∃ m', m = m' + 1 := ⟨m - 1, by omega⟩
    cases hr : (step s).val with
    | done r' =>
      rw [val_run_done hr] at h
      rw [val_run_done (by rw [hstep s (by simp [hr]), hr]), h]
    | next s' =>
      rw [val_run_next hr] at h
      rw [val_run_next (by rw [hstep s (by simp [hr]), hr])]
      exact ih (by omega) h
    | hang => rw [val_run_hang hr] at h; cases h

/-- All runs that return return the same. -/
lemma run_unique {m : ℕ} (h : (run step n s).val = some r) (hm : (run step m s).val.isSome) :
    (run step m s).val = some r := by
  obtain ⟨r', hr'⟩ := Option.isSome_iff_exists.mp hm
  have h1 := run_mono (fun _ _ => rfl) (le_max_left n m) h
  have h2 := run_mono (fun _ _ => rfl) (le_max_right n m) hr'
  rw [hr', ← h1, h2]

/-! ### Counted loops -/

/-- `for (i = 0; i < n; ++i)`. -/
def times (body : ℕ → σ → Traced ε σ) : ℕ → σ → Traced ε σ
  | 0, s => pure s
  | n + 1, s => do
    let s ← times body n s
    body n s

/-- An invariant of the first `i` rounds, and what every round does under it. -/
theorem times_inv (body : ℕ → σ → Traced ε σ) (Inv : ℕ → σ → Prop) (h0 : Inv 0 s)
    (hbody : ∀ i < n, ∀ s, Inv i s → (body i s).All P ∧ Inv (i + 1) (body i s).val) :
    (times body n s).All P ∧ Inv n (times body n s).val := by
  induction n with
  | zero => exact ⟨Traced.all_pure _, h0⟩
  | succ n ih =>
    obtain ⟨hall, hinv⟩ := ih fun i hi => hbody i (by omega)
    obtain ⟨hlast, hinv'⟩ := hbody n (Nat.lt_succ_self n) _ hinv
    exact ⟨Traced.all_bind_of hall hlast, hinv'⟩

/-! ### Two loops in step -/

section Rel

variable {ρ' σ' α' : Type} {Res : ρ → ρ' → Prop} {Sim : σ → σ' → Prop}

lemma optionRel_eq_iff {x y : Option α} : Option.Rel Eq x y ↔ x = y := by
  constructor
  · rintro (⟨rfl⟩ | _) <;> rfl
  · rintro rfl
    cases x with
    | none => exact .none
    | some a => exact .some rfl

/-- Bounded loops inside two rounds that return related values. -/
lemma rel_inner {A : α → α' → Prop} {x : Traced ε (Option α)} {x' : Traced ε (Option α')}
    {f : α → Traced ε (Round ρ σ)} {f' : α' → Traced ε (Round ρ' σ')}
    (hx : Option.Rel A x.val x'.val)
    (hf : ∀ a a', A a a' → Round.Rel Res Sim (f a).val (f' a').val) :
    Round.Rel Res Sim (inner x f).val (inner x' f').val := by
  generalize hy : x.val = y at hx
  generalize hy' : x'.val = y' at hx
  cases hx with
  | none =>
    rw [val_inner_none hy, val_inner_none hy']
    exact .hang
  | some ha =>
    rw [val_inner_some hy, val_inner_some hy']
    exact hf _ _ ha

/-- Rounds that keep two states related make runs of the same length return related results. -/
theorem run_rel (Sim : σ → σ' → Prop) {step' : σ' → Traced ε (Round ρ' σ')}
    (hstep : ∀ s s', Sim s s' → Round.Rel Res Sim (step s).val (step' s').val) :
    ∀ n s s', Sim s s' → Option.Rel Res (run step n s).val (run step' n s').val := by
  intro n
  induction n with
  | zero => intro s s' _; exact .none
  | succ n ih =>
    intro s s' hs
    have hround := hstep s s' hs
    generalize hr : (step s).val = t at hround
    generalize hr' : (step' s').val = t' at hround
    cases hround with
    | done hres =>
      rw [val_run_done hr, val_run_done hr']
      exact .some hres
    | next hnext =>
      rw [val_run_next hr, val_run_next hr']
      exact ih _ _ hnext
    | hang =>
      rw [val_run_hang hr, val_run_hang hr']
      exact .none

end Rel

/-! ### When a loop halts

The state of a loop often carries more than what decides how it goes on. `ctl` projects it to
the part that does, and `R` is the step relation between these control points. -/

open Relation

variable {κ : Type} {R : κ → κ → Prop}

/-- A control point that leads back to itself can be reached from `a`. -/
def Recurs (R : κ → κ → Prop) (a : κ) : Prop :=
  ∃ b, ReflTransGen R a b ∧ TransGen R b b

/-- A point all of whose paths end does not lead back to itself. -/
lemma not_transGen_self {a : κ} (h : Acc (fun x y => R y x) a) : ¬ TransGen R a a := by
  induction h with
  | intro a _ ih =>
    intro haa
    obtain ⟨c, hac, hca⟩ := TransGen.head'_iff.mp haa
    exact ih c hac (TransGen.tail' hca hac)

lemma acc_of_reflTransGen {a b : κ} (h : Acc (fun x y => R y x) a) (hab : ReflTransGen R a b) :
    Acc (fun x y => R y x) b := by
  induction hab with
  | refl => exact h
  | tail _ hstep ih => exact ih.inv hstep

/-- Among finitely many control points, every path ends exactly when none recurs. -/
theorem acc_iff_not_recurs {a : κ} (hfin : {b | ReflTransGen R a b}.Finite) :
    Acc (fun x y => R y x) a ↔ ¬ Recurs R a := by
  constructor
  · rintro hacc ⟨b, hab, hbb⟩
    exact not_transGen_self (acc_of_reflTransGen hacc hab) hbb
  · intro hno
    let S := {b | ReflTransGen R a b}
    have : Finite S := hfin
    -- on the reachable points, "later than" is a strict order because none recurs
    let later : S → S → Prop := fun x y => TransGen R y.1 x.1
    have htrans : IsTrans S later := ⟨fun _ _ _ hxy hyz => hyz.trans hxy⟩
    have hirrefl : Std.Irrefl later := ⟨fun x hx => hno ⟨x.1, x.2, hx⟩⟩
    have hwf : WellFounded later := Finite.wellFounded_of_trans_of_irrefl later
    suffices ∀ x : S, Acc (fun x y => R y x) x.1 from this ⟨a, .refl⟩
    intro x
    induction hwf.apply x with
    | intro x _ ih =>
      exact ⟨_, fun y hxy => ih ⟨y, x.2.tail hxy⟩ (.single hxy)⟩

variable (ctl : σ → κ)

/-- If the control points cannot go on for ever and no round does, then the loop halts. The round
is given the same bound as the loop, for the loops inside it. -/
theorem halts_of_acc (step : ℕ → σ → Traced ε (Round ρ σ)) (Good : σ → Prop)
    (hmono : ∀ {f g s}, f ≤ g → (step f s).val ≠ .hang → (step g s).val = (step f s).val)
    (hround : ∀ s, Good s → ∃ f, (step f s).val ≠ .hang)
    (hnext : ∀ s, Good s → ∀ f s', (step f s).val = .next s' → Good s' ∧ R (ctl s) (ctl s'))
    {s : σ} (hs : Good s) (hacc : Acc (fun x y => R y x) (ctl s)) :
    ∃ n, (run (step n) n s).val.isSome := by
  generalize hk : ctl s = k at hacc
  induction hacc generalizing s with
  | intro k _ ih =>
    subst hk
    obtain ⟨f, hf⟩ := hround s hs
    cases hr : (step f s).val with
    | done r =>
      refine ⟨f + 1, ?_⟩
      rw [val_run_done (by rw [hmono (Nat.le_succ f) hf, hr])]
      rfl
    | next s' =>
      obtain ⟨hs', hR⟩ := hnext s hs f s' hr
      obtain ⟨n, hn⟩ := ih (ctl s') hR hs' rfl
      obtain ⟨r, hn⟩ := Option.isSome_iff_exists.mp hn
      refine ⟨f + n + 1, ?_⟩
      rw [val_run_next (by rw [hmono (by omega) hf, hr]),
        run_mono (fun s h => hmono (by omega) h) (by omega) hn]
      rfl
    | hang => exact absurd hr hf

/-- Conversely, the control points of a loop that halts cannot go on for ever. -/
theorem acc_of_halts (hstep : ∀ s, (step s).val ≠ .hang → ∀ k, R (ctl s) k →
      ∃ s', (step s).val = .next s' ∧ ctl s' = k) :
    ∀ {n s}, (run step n s).val.isSome → Acc (fun x y => R y x) (ctl s) := by
  intro n
  induction n with
  | zero => intro s h; simp at h
  | succ n ih =>
    intro s h
    have hhang : (step s).val ≠ .hang := fun hr => by simp [val_run_hang hr] at h
    refine ⟨_, fun k hk => ?_⟩
    obtain ⟨s', hr, rfl⟩ := hstep s hhang k hk
    exact ih (val_run_next hr ▸ h)

/-- A loop that halts goes through every control point on its path, and finishes its rounds. -/
theorem exists_state_of_halts (hstep : ∀ s, (step s).val ≠ .hang → ∀ k, R (ctl s) k →
      ∃ s', (step s).val = .next s' ∧ ctl s' = k) :
    ∀ {n s k}, (run step n s).val.isSome → ReflTransGen R (ctl s) k →
      ∃ s', ctl s' = k ∧ (step s').val ≠ .hang := by
  intro n
  induction n with
  | zero => intro s k h; simp at h
  | succ n ih =>
    intro s k h hreach
    have hhang : (step s).val ≠ .hang := fun hr => by simp [val_run_hang hr] at h
    rcases hreach.cases_head with rfl | ⟨c, hc, hrest⟩
    · exact ⟨s, rfl, hhang⟩
    · obtain ⟨s', hr, rfl⟩ := hstep s hhang c hc
      exact ih (val_run_next hr ▸ h) hrest

/-- Every step is the only one: a path that ends somewhere is the only path. -/
lemma acc_of_terminal (hdet : Relator.RightUnique R) {a b : κ} (hab : ReflTransGen R a b)
    (hend : ∀ c, ¬ R b c) : Acc (fun x y => R y x) a := by
  induction hab using ReflTransGen.head_induction_on with
  | refl => exact ⟨_, fun c hc => absurd hc (hend c)⟩
  | head hstep _ ih => exact ⟨_, fun c hc => hdet hstep hc ▸ ih⟩

/-- A point without a step is where every path through a deterministic relation leads. -/
lemma reaches_terminal (hdet : Relator.RightUnique R) {a b c : κ} (hab : ReflTransGen R a b)
    (hac : ReflTransGen R a c) (hend : ∀ d, ¬ R b d) : ReflTransGen R c b := by
  rcases hac.total_of_right_unique hdet hab with h | h
  · exact h
  · rcases h.cases_head with rfl | ⟨d, hd, _⟩
    · exact .refl
    · exact absurd hd (hend d)

/-- A relation that only goes up never comes back. -/
lemma not_recurs_of_lt {R : ℕ → ℕ → Prop} {a : ℕ} (h : ∀ b c, ReflTransGen R a b → R b c → b < c) :
    ¬ Recurs R a := by
  rintro ⟨b, hab, hbb⟩
  suffices ∀ c, TransGen R b c → b < c from absurd (this b hbb) (lt_irrefl b)
  intro c hbc
  induction hbc with
  | single hstep => exact h _ _ hab hstep
  | tail hrest hstep ih => exact ih.trans (h _ _ (hab.trans hrest.to_reflTransGen) hstep)

/-! ### Paths

What a loop computes is often a fold over the control points it goes through. -/

/-- A path from one point to another, with the list of points it leaves behind. -/
inductive Path (R : κ → κ → Prop) : κ → List κ → κ → Prop
  | nil (a : κ) : Path R a [] a
  | cons {a b c : κ} {l : List κ} : R a b → Path R b l c → Path R a (a :: l) c

namespace Path

variable {a b c : κ} {l : List κ}

lemma reflTransGen (h : Path R a l b) : ReflTransGen R a b := by
  induction h with
  | nil => exact .refl
  | cons hstep _ ih => exact .head hstep ih

lemma append_single (h : Path R a l b) (hstep : R b c) : Path R a (l ++ [b]) c := by
  induction h with
  | nil a => exact .cons hstep (.nil c)
  | cons hfirst _ ih => exact .cons hfirst (ih hstep)

lemma append {l' : List κ} (h : Path R a l b) (h' : Path R b l' c) : Path R a (l ++ l') c := by
  induction h with
  | nil _ => exact h'
  | cons hfirst _ ih => exact .cons hfirst (ih h')

/-- A path can be cut at each of its points. -/
lemma of_append {l₁ l₂ : List κ} (h : Path R a (l₁ ++ l₂) c) :
    ∃ b, Path R a l₁ b ∧ Path R b l₂ c := by
  induction l₁ generalizing a with
  | nil => exact ⟨a, .nil a, h⟩
  | cons x l₁ ih =>
    cases h with
    | cons hfirst hrest =>
      obtain ⟨b, h₁, h₂⟩ := ih hrest
      exact ⟨b, .cons hfirst h₁, h₂⟩

/-- As many steps lead to the same point. -/
lemma eq_of_length (hdet : Relator.RightUnique R) {l' : List κ} {b' : κ} (h : Path R a l b)
    (h' : Path R a l' b') (hlen : l.length = l'.length) : l = l' ∧ b = b' := by
  induction h generalizing l' with
  | nil a =>
    cases h' with
    | nil => exact ⟨rfl, rfl⟩
    | cons _ _ => simp at hlen
  | cons hfirst _ ih =>
    cases h' with
    | nil => simp at hlen
    | cons hfirst' hrest' =>
      obtain rfl := hdet hfirst hfirst'
      obtain ⟨rfl, rfl⟩ := ih hrest' (by simpa using hlen)
      exact ⟨rfl, rfl⟩

/-- A path to a point without a step goes through every point on the way there. -/
lemma split (hdet : Relator.RightUnique R) {l' : List κ} (h : Path R a l b) (h' : Path R a l' c)
    (hend : ∀ d, ¬ R c d) : ∃ l₂, l' = l ++ l₂ ∧ Path R b l₂ c := by
  induction h generalizing l' with
  | nil _ => exact ⟨l', rfl, h'⟩
  | cons hfirst _ ih =>
    cases h' with
    | nil => exact absurd hfirst (hend _)
    | cons hfirst' hrest' =>
      obtain rfl := hdet hfirst hfirst'
      obtain ⟨l₂, rfl, h₂⟩ := ih hrest'
      exact ⟨l₂, rfl, h₂⟩

/-- The points of a path are reachable, and each of them has a step. -/
lemma of_mem {d : κ} (h : Path R a l b) (hd : d ∈ l) : ReflTransGen R a d ∧ ∃ e, R d e := by
  induction h with
  | nil => cases hd
  | cons hstep _ ih =>
    rcases List.mem_cons.mp hd with rfl | hd
    · exact ⟨.refl, _, hstep⟩
    · exact ⟨.head hstep (ih hd).1, (ih hd).2⟩

/-- A path is one of any relation that has its steps. -/
lemma mono {R' : κ → κ → Prop} (h : Path R a l b) (hR : ∀ d ∈ l, ∀ e, R d e → R' d e) :
    Path R' a l b := by
  induction h with
  | nil a => exact .nil a
  | cons hstep _ ih =>
    exact .cons (hR _ List.mem_cons_self _ hstep)
      (ih fun d hd => hR d (List.mem_cons_of_mem _ hd))

/-- Between two points without a step, a deterministic relation has one path. -/
lemma unique (hdet : Relator.RightUnique R) {l' : List κ} {b' : κ} (h : Path R a l b)
    (hend : ∀ c, ¬ R b c) (h' : Path R a l' b') (hend' : ∀ c, ¬ R b' c) : l = l' := by
  induction h generalizing l' with
  | nil a =>
    cases h' with
    | nil => rfl
    | cons hstep _ => exact absurd hstep (hend _)
  | cons hstep _ ih =>
    cases h' with
    | nil => exact absurd hstep (hend' _)
    | cons hstep' hrest' =>
      obtain rfl := hdet hstep hstep'
      rw [ih hend hrest']

end Path

lemma exists_path {a b : κ} (h : ReflTransGen R a b) : ∃ l, Path R a l b := by
  induction h using ReflTransGen.head_induction_on with
  | refl => exact ⟨[], .nil _⟩
  | head hstep _ ih =>
    obtain ⟨l, hl⟩ := ih
    exact ⟨_, .cons hstep hl⟩

/-- From rounds that each go on with enough room to a run that returns. -/
theorem run_of_reach (step : ℕ → σ → Traced ε (Round ρ σ))
    (hmono : ∀ {f g s}, f ≤ g → (step f s).val ≠ .hang → (step g s).val = (step f s).val)
    (h : ReflTransGen (fun s s' => ∃ f, (step f s).val = .next s') s s')
    (hdone : ∃ f, (step f s').val = .done r) : ∃ n, (run (step n) n s).val = some r := by
  induction h using ReflTransGen.head_induction_on with
  | refl =>
    obtain ⟨f, hf⟩ := hdone
    refine ⟨f + 1, val_run_done ?_⟩
    rw [hmono (Nat.le_succ f) (by simp [hf]), hf]
  | head hstep _ ih =>
    obtain ⟨f, hf⟩ := hstep
    obtain ⟨n, hn⟩ := ih
    refine ⟨f + n + 1, ?_⟩
    rw [val_run_next (by rw [hmono (show f ≤ f + n + 1 by omega) (by simp [hf]), hf])]
    exact run_mono (fun s h => hmono (by omega) h) (by omega) hn

/-- Conversely, a run that returns has gone through such rounds. -/
theorem reach_of_run : ∀ {n s r}, (run step n s).val = some r →
    ∃ s', ReflTransGen (fun s s' => (step s).val = .next s') s s' ∧ (step s').val = .done r := by
  intro n
  induction n with
  | zero => intro s r h; simp at h
  | succ n ih =>
    intro s r h
    cases hr : (step s).val with
    | done r' =>
      rw [val_run_done hr, Option.some.injEq] at h
      exact ⟨s, .refl, h ▸ hr⟩
    | next s' =>
      obtain ⟨t, hreach, ht⟩ := ih (val_run_next hr ▸ h)
      exact ⟨t, .head hr hreach, ht⟩
    | hang => rw [val_run_hang hr] at h; cases h

/-! ### The events of all runs -/

/-- Fewer rounds make fewer events. -/
lemma all_run_anti {step' : σ → Traced ε (Round ρ σ)}
    (hstep : ∀ s, (step s).val ≠ .hang → (step' s).val = (step s).val)
    (hall : ∀ s, (step' s).All P → (step s).All P) :
    ∀ {n m s}, n ≤ m → (run step' m s).All P → (run step n s).All P := by
  intro n
  induction n with
  | zero => intro m s _ _; exact Traced.all_pure _
  | succ n ih =>
    intro m s hnm h
    obtain ⟨m, rfl⟩ : ∃ m', m = m' + 1 := ⟨m - 1, by omega⟩
    obtain ⟨hfirst, hrest⟩ := all_run_succ.mp h
    refine all_run_succ.mpr ⟨hall s hfirst, fun s' hr => ih (by omega) (hrest s' ?_)⟩
    rw [hstep s (by simp [hr]), hr]

/-- The events of all runs are harmless exactly if every control point that can be reached is. -/
theorem all_run_iff (step : ℕ → σ → Traced ε (Round ρ σ)) (Ok : κ → Prop)
    (hmono : ∀ {f g s}, f ≤ g → (step f s).val ≠ .hang → (step g s).val = (step f s).val)
    (hanti : ∀ {f g s}, f ≤ g → (step g s).All P → (step f s).All P)
    (hall : ∀ s, (∀ f, (step f s).All P) ↔ Ok (ctl s))
    (hnext : ∀ s f s', (step f s).val = .next s' → R (ctl s) (ctl s'))
    (hprev : ∀ s k, R (ctl s) k → ∃ f s', (step f s).val = .next s' ∧ ctl s' = k) {s : σ} :
    (∀ n, (run (step n) n s).All P) ↔ ∀ k, ReflTransGen R (ctl s) k → Ok k := by
  constructor
  · intro hruns k hreach
    generalize ha : ctl s = a at hreach
    induction hreach using ReflTransGen.head_induction_on generalizing s with
    | refl =>
      subst ha
      refine (hall s).mp fun f => hanti (Nat.le_succ f) ?_
      exact (all_run_succ.mp (hruns (f + 1))).1
    | head hstep _ ih =>
      subst ha
      obtain ⟨f, s', hr, rfl⟩ := hprev s _ hstep
      refine ih (fun n => ?_) rfl
      -- enough rounds to finish the first one and to make `n` more
      have hr' : (step (max f n + 1) s).val = .next s' := by
        rw [hmono (show f ≤ max f n + 1 by omega) (by simp [hr]), hr]
      exact all_run_anti (fun s h => hmono (by omega) h) (fun s h => hanti (by omega) h)
        (by omega) ((all_run_succ.mp (hruns (max f n + 1))).2 s' hr')
  · intro hok n
    refine all_run (fun s => ∀ k, ReflTransGen R (ctl s) k → Ok k) (fun s hs => ?_) n s hok
    exact ⟨(hall s).mpr (hs _ .refl) n, fun s' hr k hk => hs k (.head (hnext s n s' hr) hk)⟩

end Loop
