import Mathlib.Data.List.Basic

/-!
# Folds with an observer

A state that is folded over a list and observed through a view of it. Elements the view does not
notice can be left out of the list, and elements that commute can change places.
-/

namespace Fold

variable {σ ν α κ : Type} {l : List α}

/-- Elements none of which changes the view leave it as it was. -/
lemma view_foldl_of_fixed {f : σ → α → σ} (view : σ → ν) {s : σ} {v : ν}
    (hfix : ∀ s, view s = v → ∀ a, view (f s a) = v) (hs : view s = v) :
    view (l.foldl f s) = v := by
  induction l generalizing s with
  | nil => exact hs
  | cons a l ih => exact ih (hfix s hs a)

/-- Under an invariant of the run, elements without effect can be left out of it. -/
lemma foldl_filter_of_fixed {f : ν → α → ν} {p : α → Bool} (Good : ν → Prop)
    (hgood : ∀ v, Good v → ∀ a, Good (f v a))
    (hfix : ∀ v, Good v → ∀ a ∈ l, p a = false → f v a = v) {v : ν} (hv : Good v) :
    (l.filter p).foldl f v = l.foldl f v := by
  induction l generalizing v with
  | nil => rfl
  | cons a l ih =>
    have ih := fun {v} hv =>
      ih (fun v hv a ha => hfix v hv a (List.mem_cons_of_mem _ ha)) (v := v) hv
    by_cases ha : p a = true
    · rw [List.filter_cons_of_pos ha]
      exact ih (hgood v hv a)
    · rw [List.filter_cons_of_neg ha, List.foldl_cons,
        hfix v hv a List.mem_cons_self (Bool.not_eq_true _ ▸ ha)]
      exact ih hv

/-! ### Elements that commute -/

/-- An element can be moved to the front, past elements it commutes with. -/
lemma foldl_move_front {f : σ → α → σ} (Good : σ → Prop) (hgood : ∀ s, Good s → ∀ a, Good (f s a))
    {a : α} {front : List α} (hcomm : ∀ s, Good s → ∀ b ∈ front, f (f s b) a = f (f s a) b)
    {s : σ} (hs : Good s) (rest : List α) :
    (front ++ a :: rest).foldl f s = (a :: (front ++ rest)).foldl f s := by
  induction front generalizing s with
  | nil => rfl
  | cons b front ih =>
    rw [List.cons_append, List.foldl_cons,
      ih (fun s hs c hc => hcomm s hs c (List.mem_cons_of_mem b hc)) (hgood s hs b),
      List.foldl_cons, hcomm s hs b List.mem_cons_self]
    rfl

variable [DecidableEq κ]

/-- Two lists with the same elements in each class have the same elements. -/
lemma mem_of_classes {cls : α → κ} {l' : List α}
    (hsame : ∀ c, l.filter (cls · = c) = l'.filter (cls · = c)) {x : α} (hx : x ∈ l') : x ∈ l := by
  have : x ∈ l.filter (cls · = cls x) := hsame (cls x) ▸ List.mem_filter.mpr ⟨hx, by simp⟩
  exact List.mem_of_mem_filter this

/-- If elements of different classes commute, only the order within each class matters. -/
theorem foldl_eq_of_classes {f : σ → α → σ} (cls : α → κ) (Good : σ → Prop)
    (hgood : ∀ s, Good s → ∀ a, Good (f s a)) {l' : List α}
    (hcomm : ∀ s, Good s → ∀ a ∈ l, ∀ b ∈ l, cls a ≠ cls b → f (f s a) b = f (f s b) a)
    (hsame : ∀ c, l.filter (cls · = c) = l'.filter (cls · = c)) {s : σ} (hs : Good s) :
    l.foldl f s = l'.foldl f s := by
  induction l generalizing l' s with
  | nil =>
    rw [List.eq_nil_iff_forall_not_mem.mpr fun x hx => List.not_mem_nil (mem_of_classes hsame hx)]
  | cons a l ih =>
    -- the first element of the class of `a` in `l'` is `a`
    have ha := hsame (cls a)
    rw [List.filter_cons_of_pos (by simp)] at ha
    obtain ⟨front, rest, rfl, hfront, -, hrest⟩ := List.filter_eq_cons_iff.mp ha.symm
    have hcomm' : ∀ s, Good s → ∀ b ∈ front, f (f s b) a = f (f s a) b := by
      intro s hs b hb
      have hne : cls b ≠ cls a := by simpa using hfront b hb
      exact hcomm s hs b (mem_of_classes hsame (by simp [hb])) a List.mem_cons_self hne
    rw [foldl_move_front Good hgood hcomm' hs, List.foldl_cons, List.foldl_cons]
    apply ih
    · exact fun s hs x hx y hy =>
        hcomm s hs x (List.mem_cons_of_mem a hx) y (List.mem_cons_of_mem a hy)
    · intro c
      by_cases hc : cls a = c
      · subst hc
        have hnone : front.filter (cls · = cls a) = [] :=
          List.filter_eq_nil_iff.mpr hfront
        rw [List.filter_append, hnone, List.nil_append, hrest]
      · have hother := hsame c
        rw [List.filter_append, List.filter_cons_of_neg (by simpa using hc),
          List.filter_cons_of_neg (by simpa using hc), ← List.filter_append] at hother
        exact hother
    · exact hgood s hs a

end Fold
