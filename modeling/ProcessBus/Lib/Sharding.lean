import ProcessBus.Lib.Fold
import Mathlib.Logic.Relation
import Mathlib.Logic.Function.Basic
import Mathlib.Data.Fintype.Basic
import Mathlib.Data.Finset.Dedup

/-!
# Work distributed by key

A dispatcher receives items in bursts and hands each to the worker its key names, through one
bounded FIFO ring per worker. A worker takes a batch from its ring, brings it in an order of its
own and works it off item by item on a state shared by all workers.

Every item also has a class, and the order of a worker only ever moves items of different classes
past each other. Then a part of the state that only the items of one worker and one class touch
ends up as if the items had been worked off in the order in which they were received, whatever the
interleaving. This needs that no ring ever overflows.
-/

namespace Sharding

variable {ι ω γ σ τ : Type} [DecidableEq ω] [DecidableEq γ]

/-- The state of the dispatcher, of the rings and of the workers. -/
structure System (ι ω σ : Type) where
  shared : σ
  /-- The bursts that are still to be received. -/
  input : List (List ι)
  /-- What the dispatcher has sorted but not yet enqueued. -/
  out : ω → List ι
  ring : ω → List ι
  /-- What a worker has dequeued but not yet worked off. -/
  batch : ω → List ι
  /-- Who worked what off, in order. -/
  log : List (ω × ι)
  /-- How many items did not fit in a ring. -/
  lost : ℕ

/-- Nothing has happened yet. -/
def System.start (s : σ) (input : List (List ι)) : System ι ω σ where
  shared := s
  input := input
  out _ := []
  ring _ := []
  batch _ := []
  log := []
  lost := 0

/-- Everything has been received and worked off. -/
structure System.Drained (s : System ι ω σ) : Prop where
  input : s.input = []
  out : ∀ w, s.out w = []
  ring : ∀ w, s.ring w = []
  batch : ∀ w, s.batch w = []

variable (worker : ι → ω) (act : σ → ι → σ) (order : List ι → List ι) (capacity burst : ℕ)

/-- One step of the dispatcher or of a worker. -/
inductive Step : System ι ω σ → System ι ω σ → Prop
  | receive (s : System ι ω σ) (b : List ι) (rest : List (List ι)) (hinput : s.input = b :: rest)
      (hout : ∀ w, s.out w = []) :
      Step s { s with input := rest, out := fun w => b.filter (worker · = w) }
  | enqueue (s : System ι ω σ) (w : ω) :
      Step s { s with
        ring := Function.update s.ring w
          (s.ring w ++ (s.out w).take (capacity - (s.ring w).length))
        out := Function.update s.out w []
        lost := s.lost + ((s.out w).length - (capacity - (s.ring w).length)) }
  | dequeue (s : System ι ω σ) (w : ω) (front rest : List ι) (hbatch : s.batch w = [])
      (hring : s.ring w = front ++ rest) (hfront : front ≠ []) (hburst : front.length ≤ burst) :
      Step s { s with
        ring := Function.update s.ring w rest
        batch := Function.update s.batch w (order front) }
  | work (s : System ι ω σ) (w : ω) (x : ι) (rest : List ι) (hbatch : s.batch w = x :: rest) :
      Step s { s with
        shared := act s.shared x
        batch := Function.update s.batch w rest
        log := s.log ++ [(w, x)] }

variable (cls : ι → γ)

/-- The items of one worker and one class. -/
def lane (w : ω) (c : γ) (l : List ι) : List ι := l.filter fun x => worker x = w ∧ cls x = c

variable {worker act order capacity burst cls} {s s' : System ι ω σ} {w : ω} {c : γ}
  {all l : List ι}

lemma lane_append (l l' : List ι) :
    lane worker cls w c (l ++ l') = lane worker cls w c l ++ lane worker cls w c l' :=
  List.filter_append ..

@[simp] lemma lane_nil : lane worker cls w c [] = [] := rfl

/-- An item of another worker is in none of the lanes of this one. -/
lemma lane_singleton_of_ne {x : ι} (h : worker x ≠ w) : lane worker cls w c [x] = [] := by
  simp [lane, h]

lemma lane_filter_worker : lane worker cls w c (l.filter (worker · = w)) =
    lane worker cls w c l := by
  rw [lane, lane, List.filter_filter]
  congr 1
  funext x
  by_cases h : worker x = w <;> simp [h]

/-- The order of a worker keeps every lane. -/
lemma lane_order (horder : ∀ l c, (order l).filter (cls · = c) = l.filter (cls · = c)) :
    lane worker cls w c (order l) = lane worker cls w c l := by
  have hsplit : ∀ l, lane worker cls w c l =
      (l.filter (cls · = c)).filter (worker · = w) := fun l => by
    rw [lane, List.filter_filter]
    congr 1
    funext x
    simp
  rw [hsplit, hsplit, horder]

/-- Working off whole bursts, each in the order of a worker, keeps every lane. -/
lemma lane_flatMap_order (horder : ∀ l c, (order l).filter (cls · = c) = l.filter (cls · = c))
    (bs : List (List ι)) : lane worker cls w c (bs.flatMap order) =
      lane worker cls w c bs.flatten := by
  induction bs with
  | nil => rfl
  | cons b bs ih =>
    rw [List.flatMap_cons, List.flatten_cons, lane_append, lane_append, lane_order horder, ih]

/-! ### The invariant -/

variable (worker act cls all) in
/-- Every item is with its own worker, and unless one was lost every lane is all there. -/
structure Sound (s₀ : σ) (s : System ι ω σ) : Prop where
  inputOwn : ∀ x ∈ s.input.flatten, x ∈ all
  outOwn : ∀ w, ∀ x ∈ s.out w, worker x = w ∧ x ∈ all
  ringOwn : ∀ w, ∀ x ∈ s.ring w, worker x = w ∧ x ∈ all
  batchOwn : ∀ w, ∀ x ∈ s.batch w, worker x = w ∧ x ∈ all
  logOwn : ∀ x ∈ s.log, worker x.2 = x.1 ∧ x.2 ∈ all
  shared : s.shared = (s.log.map Prod.snd).foldl act s₀
  flow : s.lost = 0 → ∀ w c, lane worker cls w c (s.log.map Prod.snd) ++
    (lane worker cls w c (s.batch w) ++ (lane worker cls w c (s.ring w) ++
      (lane worker cls w c (s.out w) ++ lane worker cls w c s.input.flatten))) =
    lane worker cls w c all

lemma sound_start (s₀ : σ) (input : List (List ι)) :
    Sound worker act cls input.flatten s₀ (System.start (ω := ω) s₀ input) where
  inputOwn _ h := h
  outOwn _ _ h := absurd h List.not_mem_nil
  ringOwn _ _ h := absurd h List.not_mem_nil
  batchOwn _ _ h := absurd h List.not_mem_nil
  logOwn _ h := absurd h List.not_mem_nil
  shared := rfl
  flow _ _ _ := rfl

/-- A property of one worker's queue is one of all queues after the update. -/
lemma forall_update {f : ω → List ι} {l : List ι} {P : ω → ι → Prop}
    (hf : ∀ w, ∀ x ∈ f w, P w x) (hl : ∀ x ∈ l, P w x) :
    ∀ w', ∀ x ∈ Function.update f w l w', P w' x := by
  intro w' x hx
  by_cases hw : w' = w
  · subst hw
    rw [Function.update_self] at hx
    exact hl x hx
  · rw [Function.update_of_ne hw] at hx
    exact hf w' x hx

variable (horder : ∀ l c, (order l).filter (cls · = c) = l.filter (cls · = c))

include horder

lemma mem_order {x : ι} (hx : x ∈ order l) : x ∈ l := by
  have : x ∈ (order l).filter (cls · = cls x) := List.mem_filter.mpr ⟨hx, by simp⟩
  rw [horder] at this
  exact List.mem_of_mem_filter this

/-- Every step keeps the invariant. -/
theorem Sound.step {s₀ : σ} (h : Sound worker act cls all s₀ s)
    (hstep : Step worker act order capacity burst s s') : Sound worker act cls all s₀ s' := by
  cases hstep with
  | receive b rest hinput hout =>
    have hmem : ∀ x ∈ b ++ rest.flatten, x ∈ all := fun x hx =>
      h.inputOwn x (by rw [hinput, List.flatten_cons]; exact hx)
    refine { h with inputOwn := ?_, outOwn := ?_, flow := ?_ }
    · exact fun x hx => hmem x (List.mem_append_right b hx)
    · intro w x hx
      obtain ⟨hxb, hxw⟩ := List.mem_filter.mp hx
      exact ⟨of_decide_eq_true hxw, hmem x (List.mem_append_left _ hxb)⟩
    · intro hlost w c
      have hflow := h.flow hlost w c
      rw [hinput, hout, List.flatten_cons, lane_nil, lane_append] at hflow
      rw [lane_filter_worker]
      exact hflow
  | enqueue w =>
    refine { h with outOwn := ?_, ringOwn := ?_, flow := ?_ }
    · exact forall_update h.outOwn fun x hx => absurd hx List.not_mem_nil
    · refine forall_update h.ringOwn fun x hx => ?_
      rcases List.mem_append.mp hx with hx | hx
      · exact h.ringOwn w x hx
      · exact h.outOwn w x (List.mem_of_mem_take hx)
    · intro hlost w' c
      dsimp only at hlost ⊢
      have hflow := h.flow (by omega) w' c
      by_cases hw : w' = w
      · subst hw
        rw [Function.update_self, Function.update_self, List.take_of_length_le (by omega),
          lane_append, lane_nil, List.nil_append, List.append_assoc]
        exact hflow
      · rw [Function.update_of_ne hw, Function.update_of_ne hw]
        exact hflow
  | dequeue w front rest hbatch hring hfront hburst =>
    refine { h with ringOwn := ?_, batchOwn := ?_, flow := ?_ }
    · exact forall_update h.ringOwn fun x hx =>
        h.ringOwn w x (hring ▸ List.mem_append_right front hx)
    · exact forall_update h.batchOwn fun x hx =>
        h.ringOwn w x (hring ▸ List.mem_append_left rest (mem_order horder hx))
    · intro hlost w' c
      have hflow := h.flow hlost w' c
      dsimp only
      by_cases hw : w' = w
      · subst hw
        rw [hbatch, hring, lane_nil, List.nil_append, lane_append, List.append_assoc] at hflow
        rw [Function.update_self, Function.update_self, lane_order horder]
        exact hflow
      · rw [Function.update_of_ne hw, Function.update_of_ne hw]
        exact hflow
  | work w x rest hbatch =>
    obtain ⟨hx, hall⟩ := h.batchOwn w x (hbatch ▸ List.mem_cons_self)
    refine { h with batchOwn := ?_, logOwn := ?_, shared := ?_, flow := ?_ }
    · exact forall_update h.batchOwn fun y hy =>
        h.batchOwn w y (hbatch ▸ List.mem_cons_of_mem x hy)
    · intro y hy
      rcases List.mem_append.mp hy with hy | hy
      · exact h.logOwn y hy
      · rw [List.mem_singleton.mp hy]
        exact ⟨hx, hall⟩
    · dsimp only
      rw [List.map_append, List.foldl_append, ← h.shared]
      rfl
    · intro hlost w' c
      have hflow := h.flow hlost w' c
      dsimp only
      rw [List.map_append, List.map_singleton, lane_append, List.append_assoc]
      by_cases hw : w' = w
      · subst hw
        rw [hbatch, ← List.singleton_append, lane_append, List.append_assoc] at hflow
        rw [Function.update_self]
        exact hflow
      · have hne : worker x ≠ w' := fun heq => hw (heq.symm.trans hx)
        rw [Function.update_of_ne hw, lane_singleton_of_ne hne, List.nil_append]
        exact hflow

theorem sound_of_reach {s₀ : σ} {input : List (List ι)}
    (h : Relation.ReflTransGen (Step worker act order capacity burst) (.start s₀ input) s) :
    Sound worker act cls input.flatten s₀ s := by
  induction h with
  | refl => exact sound_start s₀ input
  | tail _ hstep ih => exact ih.step horder hstep

/-- A part of the state that only one lane touches sees the items of the lane as they came in. -/
theorem view_of_drained {s₀ : σ} {input : List (List ι)}
    (h : Relation.ReflTransGen (Step worker act order capacity burst) (.start s₀ input) s)
    (hdrained : s.Drained) (hlost : s.lost = 0) (view : σ → τ) (eff : τ → ι → τ)
    (hview : ∀ l : List ι, (∀ x ∈ l, x ∈ input.flatten) →
      view (l.foldl act s₀) = (lane worker cls w c l).foldl eff (view s₀)) :
    view s.shared = view (input.flatten.foldl act s₀) := by
  have hsound := sound_of_reach horder h
  have hflow := hsound.flow hlost w c
  rw [hdrained.batch, hdrained.ring, hdrained.out, hdrained.input] at hflow
  simp only [List.flatten_nil, lane_nil, List.append_nil] at hflow
  have hlog : ∀ x ∈ s.log.map Prod.snd, x ∈ input.flatten := fun x hx => by
    obtain ⟨y, hy, rfl⟩ := List.mem_map.mp hx
    exact (hsound.logOwn y hy).2
  rw [hsound.shared, hview _ hlog, hview _ fun _ hx => hx, hflow]

omit horder

/-! ### A schedule without loss

Whatever is received, there is an interleaving in which nothing is lost: work every burst off
before the next one is received. -/

section Schedule

variable (worker act order capacity burst)

/-- Some steps lead from `s` to `s'`. -/
abbrev Steps (s s' : System ι ω σ) : Prop :=
  Relation.ReflTransGen (Step worker act order capacity burst) s s'

/-- A worker works its batch off. -/
lemma exists_worked {l : List ι} (hl : s.batch w = l) :
    ∃ s', Steps worker act order capacity burst s s' ∧ s'.input = s.input ∧
      s'.out = s.out ∧ s'.ring = s.ring ∧ s'.batch = Function.update s.batch w [] ∧
      s'.lost = s.lost := by
  induction l generalizing s with
  | nil => exact ⟨s, .refl, rfl, rfl, rfl, by rw [← hl, Function.update_eq_self], rfl⟩
  | cons x l ih =>
    obtain ⟨s', hsteps, hinput, hout, hring, hbatch, hlost⟩ :=
      ih (s := { s with
        shared := act s.shared x
        batch := Function.update s.batch w l
        log := s.log ++ [(w, x)] }) (Function.update_self ..)
    refine ⟨s', .head (.work s w x l hl) hsteps, hinput, hout, hring, ?_, hlost⟩
    rw [hbatch, Function.update_idem]

/-- A worker without a batch empties its ring. -/
lemma exists_emptied (hburst : 0 < burst) (hbatch : s.batch w = []) :
    ∃ s', Steps worker act order capacity burst s s' ∧ s'.input = s.input ∧
      s'.out = s.out ∧ s'.ring = Function.update s.ring w [] ∧ s'.batch = s.batch ∧
      s'.lost = s.lost := by
  induction hn : (s.ring w).length using Nat.strong_induction_on generalizing s with
  | _ n ih =>
    by_cases hempty : s.ring w = []
    · exact ⟨s, .refl, rfl, rfl, by rw [← hempty, Function.update_eq_self], rfl, rfl⟩
    · have hpos := List.length_pos_iff.mpr hempty
      have hfront : (s.ring w).take burst ≠ [] := by
        rw [ne_eq, List.take_eq_nil_iff, not_or]
        exact ⟨by omega, hempty⟩
      have hdequeue : Step worker act order capacity burst s _ :=
        .dequeue s w ((s.ring w).take burst) ((s.ring w).drop burst) hbatch
          (List.take_append_drop ..).symm hfront (List.length_take_le ..)
      obtain ⟨s₁, hsteps₁, hinput₁, hout₁, hring₁, hbatch₁, hlost₁⟩ :=
        exists_worked worker act order capacity burst (s := { s with
          ring := Function.update s.ring w ((s.ring w).drop burst)
          batch := Function.update s.batch w (order ((s.ring w).take burst)) })
          (Function.update_self ..)
      dsimp only at hring₁ hbatch₁
      rw [Function.update_idem, ← hbatch, Function.update_eq_self] at hbatch₁
      obtain ⟨s₂, hsteps₂, hinput₂, hout₂, hring₂, hbatch₂, hlost₂⟩ := ih _
        (by rw [hring₁, Function.update_self, List.length_drop]; omega)
        (s := s₁) (by rw [hbatch₁, hbatch]) rfl
      refine ⟨s₂, .head hdequeue (hsteps₁.trans hsteps₂), hinput₂.trans hinput₁,
        hout₂.trans hout₁, ?_, hbatch₂.trans hbatch₁, hlost₂.trans hlost₁⟩
      rw [hring₂, hring₁, Function.update_idem]

/-- All rings and batches are empty, and what is sorted fits the rings. -/
structure System.Calm (capacity : ℕ) (s : System ι ω σ) : Prop where
  ring : ∀ w, s.ring w = []
  batch : ∀ w, s.batch w = []
  out : ∀ w, (s.out w).length ≤ capacity

/-- What was sorted for some workers is worked off. -/
lemma exists_flushed (hburst : 0 < burst) (hcalm : s.Calm capacity) (ws : List ω) :
    ∃ s', Steps worker act order capacity burst s s' ∧ s'.Calm capacity ∧
      (∀ w ∈ ws, s'.out w = []) ∧ s'.input = s.input ∧ s'.lost = s.lost := by
  induction ws with
  | nil => exact ⟨s, .refl, hcalm, fun _ h => absurd h List.not_mem_nil, rfl, rfl⟩
  | cons w ws ih =>
    obtain ⟨s₁, hsteps₁, hcalm₁, hout₁, hinput₁, hlost₁⟩ := ih
    have hfits := hcalm₁.out w
    have hring := hcalm₁.ring w
    obtain ⟨s₂, hsteps₂, hinput₂, hout₂, hring₂, hbatch₂, hlost₂⟩ :=
      exists_emptied worker act order capacity burst (s := { s₁ with
        ring := Function.update s₁.ring w
          (s₁.ring w ++ (s₁.out w).take (capacity - (s₁.ring w).length))
        out := Function.update s₁.out w []
        lost := s₁.lost + ((s₁.out w).length - (capacity - (s₁.ring w).length)) })
        hburst (hcalm₁.batch w)
    have hout : ∀ w', s₂.out w' = if w' = w then [] else s₁.out w' := fun w' => by
      rw [hout₂]
      exact Function.update_apply ..
    refine ⟨s₂, hsteps₁.trans (.head (.enqueue s₁ w) hsteps₂), ⟨fun w' => ?_, fun w' => ?_,
      fun w' => ?_⟩, fun w' hw' => ?_, hinput₂.trans hinput₁, ?_⟩
    · rw [hring₂, Function.update_idem, Function.update_apply]
      split_ifs
      · rfl
      · exact hcalm₁.ring w'
    · rw [hbatch₂]
      exact hcalm₁.batch w'
    · rw [hout]
      split_ifs
      · exact Nat.zero_le _
      · exact hcalm₁.out w'
    · rw [hout]
      split_ifs with h
      · rfl
      · exact hout₁ w' ((List.mem_cons.mp hw').resolve_left h)
    · rw [hlost₂, ← hlost₁, hring, List.length_nil]
      dsimp only
      omega

/-- Every input can be worked off without loss, if no burst is larger than a ring. -/
theorem exists_drained [Fintype ω] (hburst : 0 < burst) {input : List (List ι)}
    (hinput : ∀ b ∈ input, b.length ≤ capacity) (s₀ : σ) :
    ∃ s, Steps worker act order capacity burst (.start s₀ input) s ∧ s.Drained ∧
      s.lost = 0 := by
  suffices hall : ∀ s : System ι ω σ, s.input = input → s.Calm capacity →
      (∀ w, s.out w = []) → s.lost = 0 →
      ∃ s', Steps worker act order capacity burst s s' ∧ s'.Drained ∧ s'.lost = 0 from
    hall _ rfl ⟨fun _ => rfl, fun _ => rfl, fun _ => Nat.zero_le _⟩ (fun _ => rfl) rfl
  induction input with
  | nil =>
    intro s hs hcalm hout hlost
    exact ⟨s, .refl, ⟨hs, hout, hcalm.ring, hcalm.batch⟩, hlost⟩
  | cons b rest ih =>
    intro s hs hcalm hout hlost
    rw [List.forall_mem_cons] at hinput
    have hreceived : System.Calm capacity
        { s with input := rest, out := fun w => b.filter (worker · = w) } :=
      ⟨hcalm.ring, hcalm.batch, fun w => (List.length_filter_le ..).trans hinput.1⟩
    obtain ⟨s₁, hsteps₁, hcalm₁, hout₁, hinput₁, hlost₁⟩ :=
      exists_flushed worker act order capacity burst hburst hreceived Finset.univ.toList
    obtain ⟨s₂, hsteps₂, hdrained, hlost₂⟩ := ih hinput.2 s₁ hinput₁ hcalm₁
      (fun w => hout₁ w (Finset.mem_toList.mpr (Finset.mem_univ w))) (hlost₁.trans hlost)
    exact ⟨s₂, .head (.receive s b rest hs hout) (hsteps₁.trans hsteps₂), hdrained, hlost₂⟩

end Schedule

end Sharding
