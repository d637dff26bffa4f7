import Mathlib.Data.List.Induction
import Mathlib.Data.List.Nodup
import Mathlib.Data.List.TakeWhile

/-!
# Keyed fields in text

A text consists of words with separators between them. Some of the words are items: a key, an
assignment sign and a value. A reader looks a key up and takes the last item with this key. It finds
what was printed as long as the keys differ and the rest of the text has no assignment sign.
-/

namespace Fields

variable {α : Type}

section

variable (sep : α → Bool) (blank tab assign : α)

/-- A key and its value. -/
def item (i : List α × List α) : List α := i.1 ++ assign :: i.2

/-- A label, and the items behind it. -/
def row (r : List α × List (List α × List α)) : List α :=
  r.1 ++ r.2.flatMap fun i => tab :: item assign i

/-- The rows, indented, one after the other. -/
def block (rows : List (List α × List (List α × List α))) : List α :=
  rows.flatMap fun r => blank :: tab :: row tab assign r

/-- The values of the items with a key. -/
def values [DecidableEq α] (key text : List α) : List (List α) :=
  (text.splitOnP sep).filterMap (·.dropPrefix? (key ++ [assign]))

/-- The value of the last one. -/
def lookup [DecidableEq α] (key text : List α) : Option (List α) :=
  (values sep assign key text).getLast?

/-- An item that comes out of its text as one word. -/
structure Wordly (i : List α × List α) : Prop where
  key : ∀ a ∈ i.1, sep a = false ∧ a ≠ assign
  value : ∀ a ∈ i.2, sep a = false

end

variable {sep : α → Bool} {blank tab assign : α}

lemma subset_of_mem_splitOnP {text w : List α} (h : w ∈ text.splitOnP sep) : w ⊆ text := by
  induction text generalizing w with
  | nil =>
    rw [List.splitOnP_nil, List.mem_singleton] at h
    exact h ▸ List.Subset.refl []
  | cons a text ih =>
    rw [List.splitOnP_cons_eq_if_modifyHead] at h
    split_ifs at h
    · rcases List.mem_cons.mp h with rfl | h
      · exact List.nil_subset _
      · exact List.subset_cons_of_subset a (ih h)
    · cases hwords : text.splitOnP sep with
      | nil => exact absurd hwords (List.splitOnP_ne_nil sep text)
      | cons first words =>
        rw [hwords] at ih
        rw [hwords, List.modifyHead_cons] at h
        rcases List.mem_cons.mp h with rfl | h
        · exact List.cons_subset_cons a (ih List.mem_cons_self)
        · exact List.subset_cons_of_subset a (ih (List.mem_cons_of_mem first h))

variable [DecidableEq α] {key text text' : List α}

lemma values_append_sep {s : α} (hs : sep s = true) :
    values sep assign key (text ++ s :: text') =
      values sep assign key text ++ values sep assign key text' := by
  rw [values, List.splitOnP_append_cons _ _ hs, List.filterMap_append]
  rfl

/-- A text without assignment signs has no items. -/
lemma values_of_not_mem (h : assign ∉ text) : values sep assign key text = [] := by
  apply List.filterMap_eq_nil_iff.mpr
  intro w hw
  apply Option.eq_none_iff_forall_ne_some.mpr
  intro v hv
  obtain ⟨p, rfl, hp⟩ := List.dropPrefix?_eq_some_iff.mp hv
  apply h
  apply subset_of_mem_splitOnP hw
  rw [eq_of_beq hp]
  simp

/-- The text up to the first assignment sign is unique. -/
lemma eq_of_append_cons {l l' r r' : List α} (h : assign ∉ l) (h' : assign ∉ l')
    (heq : l ++ assign :: r = l' ++ assign :: r') : l = l' := by
  have htake : ∀ {l r : List α}, assign ∉ l → (l ++ assign :: r).takeWhile (· ≠ assign) = l := by
    intro l r hl
    have hall : ∀ a ∈ l, decide (a ≠ assign) = true := by
      intro a ha
      apply decide_eq_true
      rintro rfl
      exact hl ha
    rw [List.takeWhile_append_of_pos hall, List.takeWhile_cons_of_neg (by simp), List.append_nil]
  rw [← htake h, heq, htake h']

lemma values_item {i : List α × List α} (hi : Wordly sep assign i) (hsep : sep assign = false)
    (hkey : assign ∉ key) :
    values sep assign key (item assign i) = if i.1 = key then [i.2] else [] := by
  have hword : ∀ a ∈ item assign i, sep a = false := by
    simp only [item, List.forall_mem_append, List.forall_mem_cons]
    exact ⟨fun a ha => (hi.key a ha).1, hsep, hi.value⟩
  have hassign : assign ∉ i.1 := fun hmem => (hi.key _ hmem).2 rfl
  rw [values, List.splitOnP_eq_singleton hword]
  split_ifs with heq
  · have hdrop : (item assign i).dropPrefix? (key ++ [assign]) = some i.2 := by
      apply List.dropPrefix?_eq_some_iff.mpr
      exact ⟨key ++ [assign], by simp [item, heq], beq_self_eq_true _⟩
    simp [hdrop]
  · have hdrop : (item assign i).dropPrefix? (key ++ [assign]) = none := by
      apply Option.eq_none_iff_forall_ne_some.mpr
      intro v hv
      obtain ⟨p, hsplit, hp⟩ := List.dropPrefix?_eq_some_iff.mp hv
      rw [eq_of_beq hp, item, List.append_assoc, List.singleton_append] at hsplit
      exact heq (eq_of_append_cons hassign hkey hsplit)
    simp [hdrop]

lemma values_row {r : List α × List (List α × List α)} (htab : sep tab = true)
    (hsep : sep assign = false) (hlabel : assign ∉ r.1) (hitems : ∀ i ∈ r.2, Wordly sep assign i)
    (hkey : assign ∉ key) :
    values sep assign key (row tab assign r) = (r.2.filter (·.1 = key)).map Prod.snd := by
  obtain ⟨label, items⟩ := r
  induction items using List.reverseRecOn with
  | nil =>
    rw [row, List.flatMap_nil, List.append_nil]
    exact values_of_not_mem hlabel
  | append_singleton items i ih =>
    rw [List.forall_mem_append, List.forall_mem_singleton] at hitems
    have hsplit : row tab assign (label, items ++ [i]) =
        row tab assign (label, items) ++ tab :: item assign i := by simp [row]
    rw [hsplit, values_append_sep htab, ih hlabel hitems.1, values_item hitems.2 hsep hkey,
      List.filter_append, List.map_append]
    split_ifs with heq
    · simp [heq]
    · simp [heq]

lemma values_block {rows : List (List α × List (List α × List α))} (hblank : sep blank = true)
    (htab : sep tab = true) (hsep : sep assign = false) (hlabels : ∀ r ∈ rows, assign ∉ r.1)
    (hitems : ∀ r ∈ rows, ∀ i ∈ r.2, Wordly sep assign i) (hkey : assign ∉ key) :
    values sep assign key (block blank tab assign rows) =
      ((rows.flatMap Prod.snd).filter (·.1 = key)).map Prod.snd := by
  induction rows using List.reverseRecOn with
  | nil => exact values_of_not_mem List.not_mem_nil
  | append_singleton rows r ih =>
    rw [List.forall_mem_append, List.forall_mem_singleton] at hlabels hitems
    have hsplit : block blank tab assign (rows ++ [r]) =
        block blank tab assign rows ++ blank :: ([] ++ tab :: row tab assign r) := by simp [block]
    rw [hsplit, values_append_sep hblank, values_append_sep htab, ih hlabels.1 hitems.1,
      values_row htab hsep hlabels.2 hitems.2 hkey, values_of_not_mem List.not_mem_nil,
      List.flatMap_append, List.filter_append, List.map_append]
    simp

lemma filter_key_eq_singleton {β : Type} {l : List (List α × β)} (h : (l.map Prod.fst).Nodup)
    {i : List α × β} (hi : i ∈ l) : l.filter (·.1 = i.1) = [i] := by
  obtain ⟨before, after, rfl⟩ := List.append_of_mem hi
  rw [List.map_append, List.map_cons, List.nodup_middle, List.nodup_cons, List.mem_append] at h
  have hother : ∀ j, j ∈ before ∨ j ∈ after → ¬ decide (j.1 = i.1) = true := by
    intro j hj hkey
    apply h.1
    rw [← of_decide_eq_true hkey]
    exact hj.imp List.mem_map_of_mem List.mem_map_of_mem
  have hbefore : before.filter (·.1 = i.1) = [] :=
    List.filter_eq_nil_iff.mpr fun j hj => hother j (.inl hj)
  have hafter : after.filter (·.1 = i.1) = [] :=
    List.filter_eq_nil_iff.mpr fun j hj => hother j (.inr hj)
  simp [hbefore, hafter]

/-- An item is found by its key if no other has this key. -/
theorem lookup_block {rows : List (List α × List (List α × List α))} (hblank : sep blank = true)
    (htab : sep tab = true) (hsep : sep assign = false) (hlabels : ∀ r ∈ rows, assign ∉ r.1)
    (hitems : ∀ r ∈ rows, ∀ i ∈ r.2, Wordly sep assign i)
    (hkeys : ((rows.flatMap Prod.snd).map Prod.fst).Nodup) {i : List α × List α}
    (hi : i ∈ rows.flatMap Prod.snd) :
    lookup sep assign i.1 (block blank tab assign rows) = some i.2 := by
  have hkey : assign ∉ i.1 := by
    obtain ⟨r, hr, hmem⟩ := List.mem_flatMap.mp hi
    intro hassign
    exact ((hitems r hr i hmem).key _ hassign).2 rfl
  rw [lookup, values_block hblank htab hsep hlabels hitems hkey, filter_key_eq_singleton hkeys hi]
  rfl

end Fields
