import ProcessBus.Lib.Memory
import Mathlib.Logic.Function.Iterate
import Mathlib.Logic.Relation

/-!
# Frames written through a pool of buffers

Several writers share a pool of buffers. A call takes one writer, one of its streams and any buffer;
the writer amends the buffer for the stream and what is then in it is sent. Buffers are taken again
and again, in any order.

If what a call shows depends on the state of its own stream only, then so does every frame of a
run: the frames of a stream are those of its calls in a row, whatever was called in between and
whichever buffers were used.
-/

namespace Pool

variable {ω κ σ ν β : Type} [DecidableEq ω] [DecidableEq κ]

structure State (ω κ σ : Type) where
  writers : ω → σ
  buffers : ℕ → Mem
  /-- Writer, stream and content of the frames sent so far. -/
  sent : List ((ω × κ) × Mem) := []

/-- The frames of one stream. -/
def State.frames (s : State ω κ σ) (w : ω) (k : κ) : List Mem :=
  (s.sent.filter (·.1 = (w, k))).map Prod.snd

variable (amend : σ → Mem → κ → σ × Mem) (key : ω → κ → Prop)

/-- One call. -/
inductive Step : State ω κ σ → State ω κ σ → Prop
  | call (s : State ω κ σ) (w : ω) (k : κ) (b : ℕ) (hkey : key w k) :
      Step s {
        writers := Function.update s.writers w (amend (s.writers w) (s.buffers b) k).1
        buffers := Function.update s.buffers b (amend (s.writers w) (s.buffers b) k).2
        sent := s.sent ++ [((w, k), (amend (s.writers w) (s.buffers b) k).2)] }

/-- The rules a call obeys. `view` is the state of a stream and `next` what a call makes of it. -/
structure Rules (Good : ω → σ → Prop) (Fits : Mem → Prop) (view : σ → κ → ν) (next : ν → ν) :
    Prop where
  good : ∀ {w g m k}, Good w g → Fits m → key w k → Good w (amend g m k).1
  fits : ∀ {w g m k}, Good w g → Fits m → key w k → Fits (amend g m k).2
  view_self : ∀ {w g m k}, Good w g → key w k → view (amend g m k).1 k = next (view g k)
  view_of_ne : ∀ {w g m k k'}, Good w g → key w k → k' ≠ k →
    view (amend g m k).1 k' = view g k'

/-- `shows` is what is looked at in a frame: it is `out` of the state of the stream. -/
def Shown (Good : ω → σ → Prop) (Fits : Mem → Prop) (view : σ → κ → ν) (shows : Mem → β)
    (out : ω → κ → ν → β) : Prop :=
  ∀ {w g m k}, Good w g → Fits m → key w k → shows (amend g m k).2 = out w k (view g k)

/-- What a call leaves behind satisfies `P`, a predicate on the state of the stream and the
frame. -/
def Sent (Good : ω → σ → Prop) (Fits : Mem → Prop) (view : σ → κ → ν)
    (P : ω → κ → ν → Mem → Prop) : Prop :=
  ∀ {w g m k}, Good w g → Fits m → key w k → P w k (view g k) (amend g m k).2

variable {amend key} {Good : ω → σ → Prop} {Fits : Mem → Prop} {view : σ → κ → ν} {next : ν → ν}
  {shows : Mem → β} {out : ω → κ → ν → β} {P : ω → κ → ν → Mem → Prop} {s₀ s s' : State ω κ σ}

/-- Where a run from `s₀` has got to: how many calls each stream has seen, and what was sent. -/
structure Sound (Good : ω → σ → Prop) (Fits : Mem → Prop) (view : σ → κ → ν) (next : ν → ν)
    (shows : Mem → β) (out : ω → κ → ν → β) (s₀ s : State ω κ σ) : Prop where
  good : ∀ w, Good w (s.writers w)
  fits : ∀ b, Fits (s.buffers b)
  state : ∀ w k, view (s.writers w) k = next^[(s.frames w k).length] (view (s₀.writers w) k)
  shown : ∀ w k, (s.frames w k).map shows =
    (List.range (s.frames w k).length).map fun j => out w k (next^[j] (view (s₀.writers w) k))

lemma frames_append_self {w : ω} {k : κ} {m : Mem} {writers : ω → σ} {buffers : ℕ → Mem} :
    State.frames ⟨writers, buffers, s.sent ++ [((w, k), m)]⟩ w k = s.frames w k ++ [m] := by
  simp [State.frames]

lemma frames_append_of_ne {w w' : ω} {k k' : κ} {m : Mem} {writers : ω → σ} {buffers : ℕ → Mem}
    (h : (w, k) ≠ (w', k')) :
    State.frames ⟨writers, buffers, s.sent ++ [((w, k), m)]⟩ w' k' = s.frames w' k' := by
  simp [State.frames, List.filter_append, h]

/-- A call is sound. -/
theorem Sound.step (h : Sound Good Fits view next shows out s₀ s)
    (hrules : Rules amend key Good Fits view next)
    (hshown : Shown amend key Good Fits view shows out) (hstep : Step amend key s s') :
    Sound Good Fits view next shows out s₀ s' := by
  cases hstep with
  | call w k b hkey =>
    have hgood := h.good w
    have hfits := h.fits b
    refine ⟨fun w' => ?_, fun b' => ?_, fun w' k' => ?_, fun w' k' => ?_⟩
    · dsimp only
      rw [Function.update_apply]
      split_ifs with hw
      · subst hw
        exact hrules.good hgood hfits hkey
      · exact h.good w'
    · dsimp only
      rw [Function.update_apply]
      split_ifs
      · exact hrules.fits hgood hfits hkey
      · exact h.fits b'
    · by_cases hwk : (w, k) = (w', k')
      · obtain ⟨rfl, rfl⟩ := Prod.mk.inj hwk
        rw [frames_append_self, List.length_append, List.length_singleton,
          Function.iterate_succ_apply', ← h.state]
        dsimp only
        rw [Function.update_self]
        exact hrules.view_self hgood hkey
      · rw [frames_append_of_ne hwk, ← h.state]
        dsimp only
        rw [Function.update_apply]
        split_ifs with hw
        · subst hw
          exact hrules.view_of_ne hgood hkey fun hk => hwk (by rw [hk])
        · rfl
    · by_cases hwk : (w, k) = (w', k')
      · obtain ⟨rfl, rfl⟩ := Prod.mk.inj hwk
        rw [frames_append_self, List.length_append, List.length_singleton, List.range_succ,
          List.map_append, List.map_append, h.shown, List.map_singleton, List.map_singleton,
          hshown hgood hfits hkey, ← h.state]
      · rw [frames_append_of_ne hwk]
        exact h.shown w' k'

/-- In every run the frames of a stream are those of its calls in a row. -/
theorem sound_of_reach (hrules : Rules amend key Good Fits view next)
    (hshown : Shown amend key Good Fits view shows out) (hgood : ∀ w, Good w (s₀.writers w))
    (hfits : ∀ b, Fits (s₀.buffers b)) (hsent : s₀.sent = [])
    (h : Relation.ReflTransGen (Step amend key) s₀ s) :
    Sound Good Fits view next shows out s₀ s := by
  induction h with
  | refl =>
    have hnil : ∀ w k, s₀.frames w k = [] := fun w k => by rw [State.frames, hsent]; rfl
    exact ⟨hgood, hfits, fun w k => by rw [hnil]; rfl, fun w k => by rw [hnil]; rfl⟩
  | tail _ hstep ih => exact ih.step hrules hshown hstep

/-- The `j`-th frame of a stream. -/
lemma Sound.shows_eq (h : Sound Good Fits view next shows out s₀ s) {w : ω} {k : κ} {j : ℕ}
    {f : Mem} (hf : (s.frames w k)[j]? = some f) :
    shows f = out w k (next^[j] (view (s₀.writers w) k)) := by
  have hmap := congrArg (·[j]?) (h.shown w k)
  obtain ⟨hj, _⟩ := List.getElem?_eq_some_iff.mp hf
  simp only [List.getElem?_map, hf, List.getElem?_range hj, Option.map_some] at hmap
  exact Option.some.inj hmap

/-- So every frame of a run satisfies what every call makes sure of. -/
theorem sent_of_reach (hrules : Rules amend key Good Fits view next)
    (hP : Sent amend key Good Fits view P) (hgood : ∀ w, Good w (s₀.writers w))
    (hfits : ∀ b, Fits (s₀.buffers b)) (hsent : s₀.sent = [])
    (h : Relation.ReflTransGen (Step amend key) s₀ s) {w : ω} {k : κ} {j : ℕ} {f : Mem}
    (hf : (s.frames w k)[j]? = some f) : P w k (next^[j] (view (s₀.writers w) k)) f := by
  induction h with
  | refl =>
    rw [State.frames, hsent] at hf
    exact absurd hf (by simp)
  | @tail s s' hreach hstep ih =>
    -- nothing is looked at, so that only the states of the streams are left
    have hshown : Shown amend key Good Fits view (fun _ => ()) fun _ _ _ => () :=
      fun _ _ _ => rfl
    have hsound := sound_of_reach hrules @hshown hgood hfits hsent hreach
    cases hstep with
    | call w' k' b hkey =>
      by_cases hwk : (w', k') = (w, k)
      · obtain ⟨rfl, rfl⟩ := Prod.mk.inj hwk
        rw [frames_append_self] at hf
        rcases Nat.lt_trichotomy j (s.frames w' k').length with hlt | rfl | hgt
        · exact ih (by rwa [List.getElem?_append_left hlt] at hf)
        · rw [List.getElem?_concat_length] at hf
          obtain rfl := Option.some.inj hf
          rw [← hsound.state]
          exact hP (hsound.good w') (hsound.fits b) hkey
        · rw [List.getElem?_eq_none (by simp; omega)] at hf
          cases hf
      · rw [frames_append_of_ne hwk] at hf
        exact ih hf

omit [DecidableEq κ] in
/-- Only streams that may be called have sent anything. -/
lemma key_of_mem_sent (hsent : s₀.sent = []) (h : Relation.ReflTransGen (Step amend key) s₀ s) :
    ∀ e ∈ s.sent, key e.1.1 e.1.2 := by
  induction h with
  | refl =>
    rw [hsent]
    exact fun e he => absurd he List.not_mem_nil
  | tail _ hstep ih =>
    cases hstep with
    | call w k b hkey =>
      intro e he
      rcases List.mem_append.mp he with he | he
      · exact ih e he
      · rw [List.mem_singleton.mp he]
        exact hkey

/-! ### What one writer has sent -/

/-- The streams and frames of one writer, in order. -/
def State.log (s : State ω κ σ) (w : ω) : List (κ × Mem) :=
  (s.sent.filter (·.1.1 = w)).map fun e => (e.1.2, e.2)

lemma frames_eq_log (s : State ω κ σ) (w : ω) (k : κ) :
    s.frames w k = ((s.log w).filter (·.1 = k)).map Prod.snd := by
  simp only [State.frames, State.log, List.filter_map, List.filter_filter, List.map_map]
  congr 1
  apply List.filter_congr
  rintro ⟨⟨w', k'⟩, m⟩ -
  simp [Prod.ext_iff, Bool.and_comm]

variable (s) in
omit [DecidableEq κ] in
lemma log_append_self (w : ω) (k : κ) (m : Mem) (writers : ω → σ) (buffers : ℕ → Mem) :
    State.log ⟨writers, buffers, s.sent ++ [((w, k), m)]⟩ w = s.log w ++ [(k, m)] := by
  simp [State.log]

variable (s) in
omit [DecidableEq κ] in
lemma log_append_of_ne {w w' : ω} (h : w' ≠ w) (k : κ) (m : Mem) (writers : ω → σ)
    (buffers : ℕ → Mem) :
    State.log ⟨writers, buffers, s.sent ++ [((w, k), m)]⟩ w' = s.log w' := by
  simp [State.log, List.filter_append, Ne.symm h]

end Pool
