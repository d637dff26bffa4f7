import Mathlib.Algebra.Order.BigOperators.Group.List
import Mathlib.Algebra.Order.Ring.Int

/-!
# The latest value of each key

A table keeps one value for each key: a new one takes the place of the old one. When the values are
summed up in the end, those that were replaced are missing.
-/

namespace Latest

variable {κ : Type} {rows : List (κ × ℤ)}

/-! ### Sums -/

/-- The sum of the values. -/
def total (table : List (κ × ℤ)) : ℤ := (table.map Prod.snd).sum

@[simp] lemma total_nil : total ([] : List (κ × ℤ)) = 0 := rfl

@[simp] lemma total_cons (row : κ × ℤ) : total (row :: rows) = row.2 + total rows :=
  List.sum_cons

lemma total_nonneg (h : ∀ row ∈ rows, 0 ≤ row.2) : 0 ≤ total rows :=
  List.sum_nonneg fun _ hv => by
    obtain ⟨row, hrow, rfl⟩ := List.mem_map.mp hv
    exact h row hrow

lemma total_eq_zero_iff (h : ∀ row ∈ rows, 0 ≤ row.2) :
    total rows = 0 ↔ ∀ row ∈ rows, row.2 = 0 := by
  induction rows with
  | nil => simp
  | cons row rows ih =>
    rw [List.forall_mem_cons] at h
    have htail := total_nonneg h.2
    have hhead := h.1
    rw [total_cons, List.forall_mem_cons, ← ih h.2]
    omega

lemma total_filter_add (p : κ × ℤ → Bool) :
    total (rows.filter fun row => !p row) + total (rows.filter p) = total rows := by
  induction rows with
  | nil => rfl
  | cons row rows ih =>
    cases hp : p row
    · rw [List.filter_cons_of_pos (by simp [hp]), List.filter_cons_of_neg (by simp [hp]),
        total_cons, total_cons, ← ih, add_assoc]
    · rw [List.filter_cons_of_neg (by simp [hp]), List.filter_cons_of_pos hp, total_cons,
        total_cons, ← ih, add_left_comm]

/-! ### Storing -/

variable [DecidableEq κ] {table : List (κ × ℤ)} {key : κ} {value : ℤ}

/-- Store a value under a key. -/
def set (table : List (κ × ℤ)) (key : κ) (value : ℤ) : List (κ × ℤ) :=
  (key, value) :: table.filter fun row => !decide (row.1 = key)

/-- Store the rows one after the other. -/
def setAll (table rows : List (κ × ℤ)) : List (κ × ℤ) :=
  rows.foldl (fun table row => set table row.1 row.2) table

@[simp] lemma setAll_nil : setAll table [] = table := rfl

@[simp] lemma setAll_cons (row : κ × ℤ) :
    setAll table (row :: rows) = setAll (set table row.1 row.2) rows := rfl

lemma setAll_append (rows' : List (κ × ℤ)) :
    setAll table (rows ++ rows') = setAll (setAll table rows) rows' := List.foldl_append

lemma forall_mem_set {P : κ × ℤ → Prop} :
    (∀ row ∈ set table key value, P row) ↔
      P (key, value) ∧ ∀ row ∈ table, row.1 ≠ key → P row := by
  simp [set]

/-- What was stored under the key before is missing. -/
lemma total_set : total (set table key value) + total (table.filter fun row => row.1 = key) =
    value + total table := by
  rw [set, total_cons, add_assoc, @total_filter_add _ table fun row => decide (row.1 = key)]

/-- What is missing in the end is what was replaced. -/
lemma total_setAll (htable : ∀ row ∈ table, 0 ≤ row.2) (hrows : ∀ row ∈ rows, 0 ≤ row.2) :
    total (setAll table rows) ≤ total table + total rows ∧
      (total (setAll table rows) = total table + total rows ↔
        (∀ row ∈ table, row.1 ∈ rows.map Prod.fst → row.2 = 0) ∧
          rows.Pairwise fun row row' => row.1 = row'.1 → row.2 = 0) := by
  induction rows generalizing table with
  | nil => simp
  | cons row rows ih =>
    rw [List.forall_mem_cons] at hrows
    obtain ⟨hle, hiff⟩ :=
      ih (forall_mem_set.mpr ⟨hrows.1, fun row' hrow' _ => htable row' hrow'⟩) hrows.2
    have hreplaced : ∀ row' ∈ table.filter fun row' => row'.1 = row.1, 0 ≤ row'.2 :=
      fun row' hrow' => htable row' (List.mem_of_mem_filter hrow')
    have hset := @total_set _ _ table row.1 row.2
    have hnonneg := total_nonneg hreplaced
    rw [setAll_cons, total_cons]
    refine ⟨by omega, ?_⟩
    have hequal : total (setAll (set table row.1 row.2) rows) =
        total table + (row.2 + total rows) ↔
          total (table.filter fun row' => row'.1 = row.1) = 0 ∧
            total (setAll (set table row.1 row.2) rows) =
              total (set table row.1 row.2) + total rows := by omega
    rw [hequal, total_eq_zero_iff hreplaced, hiff, List.pairwise_cons, forall_mem_set]
    simp only [List.mem_filter, decide_eq_true_eq, List.map_cons, List.mem_cons, List.mem_map]
    constructor
    · rintro ⟨hold, ⟨hrow, hkept⟩, hpair⟩
      refine ⟨fun row' hmem hkey => ?_, fun row' hmem hkey => hrow ⟨row', hmem, hkey.symm⟩, hpair⟩
      by_cases heq : row'.1 = row.1
      · exact hold row' ⟨hmem, heq⟩
      · exact hkept row' hmem heq (hkey.resolve_left heq)
    · rintro ⟨hall, hlater, hpair⟩
      refine ⟨fun row' hrow' => hall row' hrow'.1 (.inl hrow'.2), ⟨?_, ?_⟩, hpair⟩
      · rintro ⟨row', hmem, hkey⟩
        exact hlater row' hmem hkey.symm
      · exact fun row' hrow' _ hkey => hall row' hrow' (.inr hkey)

/-- The total is that of all rows if and only if every row whose key comes again is zero. -/
theorem total_setAll_nil_eq_iff (hrows : ∀ row ∈ rows, 0 ≤ row.2) :
    total (setAll [] rows) = total rows ↔
      rows.Pairwise fun row row' => row.1 = row'.1 → row.2 = 0 := by
  have h := (@total_setAll _ rows _ [] (by simp) hrows).2
  rw [total_nil, zero_add] at h
  rw [h]
  simp

end Latest
