import ProcessBus.Lib.Sharding
import Mathlib.Algebra.BigOperators.Group.Finset.Piecewise
import Mathlib.Data.Multiset.AddSub

/-!
# Rings that overflow

What does not fit in a ring is dropped and counted. At any time every item is in exactly one place,
the dropped ones included. When all is worked off, a subsequence of what was received has got
through, and every worker has worked it off class by class in the order in which it came in.
-/

namespace Sharding

variable {ι ω γ σ : Type} [DecidableEq ω] [DecidableEq γ] {worker : ι → ω}
  {act : σ → ι → σ} {order : List ι → List ι} {capacity burst : ℕ} {cls : ι → γ}
  {s s' : System ι ω σ} {all l l' : List ι} {s₀ : σ} {input : List (List ι)}

/-! ### Lists and their lanes -/

/-- Lists with the same items in every lane have the same items. -/
lemma perm_of_lanes (h : ∀ w c, lane worker cls w c l = lane worker cls w c l') : l.Perm l' := by
  classical
  apply List.perm_iff_count.mpr
  intro x
  have hcount : ∀ l : List ι, (lane worker cls (worker x) (cls x) l).count x = l.count x := by
    intro l
    apply List.count_filter
    simp
  rw [← hcount l, ← hcount l', h]

/-- The order of a worker loses nothing. -/
lemma perm_order (horder : ∀ l c, (order l).filter (cls · = c) = l.filter (cls · = c)) :
    (order l).Perm l := by
  have hlanes : ∀ (w : Unit) c,
      lane (fun _ => ()) cls w c (order l) = lane (fun _ => ()) cls w c l :=
    fun _ _ => lane_order horder
  exact perm_of_lanes hlanes

/-- What is taken from the items of each worker can be taken from all items at once. -/
lemma exists_merged {kept : ω → List ι} (h : ∀ w, (kept w).Sublist (all.filter (worker · = w))) :
    ∃ l : List ι, l.Sublist all ∧ ∀ w, l.filter (worker · = w) = kept w := by
  induction all generalizing kept with
  | nil =>
    refine ⟨[], .slnil, ?_⟩
    intro w
    exact (List.sublist_nil.mp (h w)).symm
  | cons x all ih =>
    have hx := h (worker x)
    rw [List.filter_cons_of_pos (by simp)] at hx
    have hothers : ∀ w, w ≠ worker x → (kept w).Sublist (all.filter (worker · = w)) := by
      intro w hw
      have hsub := h w
      rwa [List.filter_cons_of_neg (by simpa using hw.symm)] at hsub
    rcases List.sublist_cons_iff.mp hx with hskip | ⟨rest, hrest, hsub⟩
    · have hsub : ∀ w, (kept w).Sublist (all.filter (worker · = w)) := by
        intro w
        by_cases hw : w = worker x
        · rw [hw]
          exact hskip
        · exact hothers w hw
      obtain ⟨l, hl, hkept⟩ := ih hsub
      exact ⟨l, hl.cons x, hkept⟩
    · have hsub : ∀ w, (Function.update kept (worker x) rest w).Sublist
          (all.filter (worker · = w)) := by
        intro w
        by_cases hw : w = worker x
        · subst hw
          rwa [Function.update_self]
        · rw [Function.update_of_ne hw]
          exact hothers w hw
      obtain ⟨l, hl, hkept⟩ := ih hsub
      refine ⟨x :: l, hl.cons_cons x, ?_⟩
      intro w
      by_cases hw : w = worker x
      · subst hw
        rw [List.filter_cons_of_pos (by simp), hkept, Function.update_self, hrest]
      · rw [List.filter_cons_of_neg (by simpa using Ne.symm hw), hkept, Function.update_of_ne hw]

/-! ### Every item is in one place -/

/-- Rings never hold more than they have room for. -/
lemma length_ring_step (h : ∀ w, (s.ring w).length ≤ capacity)
    (hstep : Step worker act order capacity burst s s') (w : ω) :
    (s'.ring w).length ≤ capacity := by
  cases hstep with
  | receive b rest hinput hout => exact h w
  | enqueue v =>
    dsimp only
    by_cases hw : w = v
    · subst hw
      have hroom := h w
      have htake := List.length_take_le (capacity - (s.ring w).length) (s.out w)
      rw [Function.update_self, List.length_append]
      omega
    · rw [Function.update_of_ne hw]
      exact h w
  | dequeue v front rest hbatch hring hfront hburst =>
    dsimp only
    by_cases hw : w = v
    · subst hw
      have hroom := h w
      rw [hring, List.length_append] at hroom
      rw [Function.update_self]
      omega
    · rw [Function.update_of_ne hw]
      exact h w
  | work v x rest hbatch => exact h w

section Places

variable [Fintype ω]

/-- What lies in the queues of all workers. -/
def pile (queues : ω → List ι) : Multiset ι := ∑ w, (queues w : Multiset ι)

/-- Items sorted by worker are the same items. -/
lemma pile_filter (l : List ι) : pile (fun w => l.filter (worker · = w)) = (l : Multiset ι) := by
  induction l with
  | nil => simp [pile]
  | cons x l ih =>
    have hcons : ∀ w, (((x :: l).filter (worker · = w) : List ι) : Multiset ι) =
        (if worker x = w then {x} else 0) + ((l.filter (worker · = w) : List ι) : Multiset ι) := by
      intro w
      by_cases hw : worker x = w <;> simp [hw]
    rw [pile] at ih ⊢
    simp only [hcons, Finset.sum_add_distrib, ih, Finset.sum_ite_eq, Finset.mem_univ, if_true]
    rfl

/-- A queue is exchanged for another one. -/
lemma pile_update (queues : ω → List ι) (w : ω) (l : List ι) :
    pile (Function.update queues w l) + (queues w : Multiset ι) = pile queues + l := by
  have hcoe : (fun v => (Function.update queues w l v : Multiset ι)) =
      Function.update (fun v => (queues v : Multiset ι)) w l := by
    funext v
    exact Function.apply_update (fun _ (l : List ι) => (l : Multiset ι)) queues w l v
  rw [pile, hcoe, Finset.sum_update_of_mem (Finset.mem_univ w), pile,
    ← Finset.add_sum_erase _ _ (Finset.mem_univ w), Finset.sdiff_singleton_eq_erase]
  ac_rfl

lemma pile_append (queues : ω → List ι) (w : ω) (l : List ι) :
    pile (Function.update queues w (queues w ++ l)) = pile queues + l := by
  have h := pile_update queues w (queues w ++ l)
  rw [← Multiset.coe_add, add_comm (queues w : Multiset ι), ← add_assoc] at h
  exact add_right_cancel h

lemma pile_rest {queues : ω → List ι} {w : ω} {front rest : List ι}
    (h : queues w = front ++ rest) :
    pile queues = pile (Function.update queues w rest) + front := by
  have hpile := pile_update queues w rest
  rw [h, ← Multiset.coe_add, ← add_assoc] at hpile
  exact (add_right_cancel hpile).symm

/-- Every item is worked off, with a worker, still to come or dropped. -/
def System.Places (all : List ι) (s : System ι ω σ) (dropped : List ι) : Prop :=
  (s.log.map Prod.snd : Multiset ι) + (pile s.batch + pile s.ring + pile s.out) +
    (s.input.flatten + dropped : Multiset ι) = (all : Multiset ι)

/-- A step moves items from one place to another, and counts those it drops. -/
lemma System.Places.step {dropped : List ι} (h : s.Places all dropped)
    (horder : ∀ l c, (order l).filter (cls · = c) = l.filter (cls · = c))
    (hstep : Step worker act order capacity burst s s') :
    ∃ more : List ι, s'.Places all (dropped ++ more) ∧ s'.lost = s.lost + more.length := by
  unfold Places at h
  cases hstep with
  | receive b rest hinput hout =>
    refine ⟨[], ?_, rfl⟩
    have hnone : pile s.out = 0 := by simp [pile, hout]
    rw [Places, pile_filter, ← h, hnone, hinput, List.flatten_cons, List.append_nil,
      ← Multiset.coe_add]
    ac_rfl
  | enqueue w =>
    let room := capacity - (s.ring w).length
    refine ⟨(s.out w).drop room, ?_, by rw [List.length_drop]⟩
    have hring := pile_append s.ring w ((s.out w).take room)
    have hout := pile_rest (List.append_nil (s.out w)).symm
    have hsplit : (s.out w : Multiset ι) =
        ((s.out w).take room : Multiset ι) + ((s.out w).drop room : Multiset ι) := by
      rw [Multiset.coe_add, List.take_append_drop]
    dsimp only [Places]
    rw [hring, ← h, hout, hsplit, ← Multiset.coe_add]
    ac_rfl
  | dequeue w front rest hbatch hring hfront hburst =>
    refine ⟨[], ?_, rfl⟩
    have horder : (order front : Multiset ι) = front := Multiset.coe_eq_coe.mpr (perm_order horder)
    have htake := pile_append s.batch w (order front)
    rw [hbatch, List.nil_append, horder] at htake
    dsimp only [Places]
    rw [htake, ← h, pile_rest hring, List.append_nil]
    ac_rfl
  | work w x rest hbatch =>
    refine ⟨[], ?_, rfl⟩
    have hdone := pile_rest (show s.batch w = [x] ++ rest from hbatch)
    dsimp only [Places]
    rw [← h, hdone, List.map_append, List.append_nil, ← Multiset.coe_add]
    exact add_right_cancel_iff.mpr (by ac_rfl)

/-- At any time every item is in one place, and as many as were counted were dropped. -/
theorem places_of_reach (horder : ∀ l c, (order l).filter (cls · = c) = l.filter (cls · = c))
    (h : Relation.ReflTransGen (Step worker act order capacity burst) (.start s₀ input) s) :
    (∃ dropped : List ι, s.Places input.flatten dropped ∧ dropped.length = s.lost) ∧
      ∀ w, (s.ring w).length ≤ capacity := by
  induction h with
  | refl =>
    refine ⟨⟨[], ?_, rfl⟩, fun _ => Nat.zero_le _⟩
    simp [System.Places, System.start, pile]
  | tail _ hstep ih =>
    obtain ⟨⟨dropped, hplaces, hlost⟩, hring⟩ := ih
    obtain ⟨more, hplaces', hlost'⟩ := hplaces.step horder hstep
    refine ⟨⟨dropped ++ more, hplaces', ?_⟩, length_ring_step hring hstep⟩
    rw [List.length_append, hlost, hlost']

end Places

/-! ### What gets through -/

variable (worker cls all) in
/-- Each worker has been handed these items, in the order in which they came in. -/
structure Handed (s : System ι ω σ) (kept : ω → List ι) : Prop where
  lanes : ∀ w c, lane worker cls w c (s.log.map Prod.snd) ++
    (lane worker cls w c (s.batch w) ++ lane worker cls w c (s.ring w)) =
    lane worker cls w c (kept w)
  inOrder : ∀ w, (kept w ++ (s.out w ++ s.input.flatten.filter (worker · = w))).Sublist
    (all.filter (worker · = w))

lemma Handed.step {kept : ω → List ι} (h : Handed worker cls all s kept)
    (hsound : Sound worker act cls all s₀ s)
    (horder : ∀ l c, (order l).filter (cls · = c) = l.filter (cls · = c))
    (hstep : Step worker act order capacity burst s s') :
    ∃ kept, Handed worker cls all s' kept := by
  cases hstep with
  | receive b rest hinput hout =>
    refine ⟨kept, h.lanes, ?_⟩
    intro w
    have hsub := h.inOrder w
    rwa [hinput, hout, List.nil_append, List.flatten_cons, List.filter_append] at hsub
  | enqueue w =>
    let front := (s.out w).take (capacity - (s.ring w).length)
    refine ⟨Function.update kept w (kept w ++ front), ?_, ?_⟩
    · intro v c
      have hlanes := h.lanes v c
      dsimp only
      by_cases hv : v = w
      · subst hv
        rw [Function.update_self, Function.update_self, lane_append, lane_append, ← hlanes]
        simp only [List.append_assoc]
        rfl
      · rw [Function.update_of_ne hv, Function.update_of_ne hv]
        exact hlanes
    · intro v
      have hsub := h.inOrder v
      dsimp only
      by_cases hv : v = w
      · subst hv
        rw [Function.update_self, Function.update_self, List.append_assoc, List.nil_append]
        refine List.Sublist.trans ?_ hsub
        exact (List.Sublist.refl _).append ((List.take_sublist _ _).append (.refl _))
      · rw [Function.update_of_ne hv, Function.update_of_ne hv]
        exact hsub
  | dequeue w front rest hbatch hring hfront hburst =>
    refine ⟨kept, ?_, h.inOrder⟩
    intro v c
    have hlanes := h.lanes v c
    dsimp only
    by_cases hv : v = w
    · subst hv
      rw [hbatch, hring, lane_nil, List.nil_append, lane_append] at hlanes
      rw [Function.update_self, Function.update_self, lane_order horder]
      exact hlanes
    · rw [Function.update_of_ne hv, Function.update_of_ne hv]
      exact hlanes
  | work w x rest hbatch =>
    refine ⟨kept, ?_, h.inOrder⟩
    intro v c
    have hlanes := h.lanes v c
    dsimp only
    rw [List.map_append, List.map_singleton, lane_append, List.append_assoc]
    by_cases hv : v = w
    · subst hv
      rw [hbatch, ← List.singleton_append, lane_append, List.append_assoc] at hlanes
      rw [Function.update_self]
      exact hlanes
    · have hx := (hsound.batchOwn w x (hbatch ▸ List.mem_cons_self)).1
      have hne : worker x ≠ v := fun heq => hv (heq.symm.trans hx)
      rw [Function.update_of_ne hv, lane_singleton_of_ne hne, List.nil_append]
      exact hlanes

variable (cls) in
lemma handed_of_reach (horder : ∀ l c, (order l).filter (cls · = c) = l.filter (cls · = c))
    (h : Relation.ReflTransGen (Step worker act order capacity burst) (.start s₀ input) s) :
    ∃ kept, Handed worker cls input.flatten s kept := by
  induction h with
  | refl =>
    refine ⟨fun _ => [], fun _ _ => rfl, ?_⟩
    intro w
    exact .refl _
  | tail hreach hstep ih =>
    obtain ⟨kept, hkept⟩ := ih
    exact hkept.step (sound_of_reach horder hreach) horder hstep

/-- When all is worked off, what was not dropped got through, lane by lane in the order in which it
was received. -/
theorem survivors_of_drained [Fintype ω]
    (horder : ∀ l c, (order l).filter (cls · = c) = l.filter (cls · = c))
    (h : Relation.ReflTransGen (Step worker act order capacity burst) (.start s₀ input) s)
    (hdrained : s.Drained) :
    ∃ kept : List ι, kept.Sublist input.flatten ∧
      kept.length + s.lost = input.flatten.length ∧
      (∀ w c, lane worker cls w c (s.log.map Prod.snd) = lane worker cls w c kept) ∧
      s.shared = (s.log.map Prod.snd).foldl act s₀ := by
  obtain ⟨queues, hlanes, hsub⟩ := handed_of_reach cls horder h
  simp only [hdrained.batch, hdrained.ring, hdrained.out, hdrained.input, lane_nil,
    List.append_nil, List.flatten_nil, List.filter_nil] at hlanes hsub
  obtain ⟨kept, hkept, hqueues⟩ := exists_merged hsub
  have hsame : ∀ w c, lane worker cls w c (s.log.map Prod.snd) = lane worker cls w c kept := by
    intro w c
    rw [hlanes, ← hqueues, lane_filter_worker]
  refine ⟨kept, hkept, ?_, hsame, (sound_of_reach horder h).shared⟩
  obtain ⟨⟨dropped, hplaces, hlost⟩, -⟩ := places_of_reach horder h
  have hcard := congrArg Multiset.card hplaces
  simp only [hdrained.input, pile, hdrained.batch, hdrained.ring, hdrained.out,
    Multiset.coe_nil, Finset.sum_const_zero, List.flatten_nil, Multiset.card_add, Multiset.coe_card,
    List.length_map, add_zero, zero_add] at hcard
  rw [← hlost, ← hcard, ← (perm_of_lanes hsame).length_eq, List.length_map]

end Sharding
