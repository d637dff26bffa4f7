import Mathlib.Data.Fintype.Card
import ProcessBus.Common.Containers

/-!
# Filling a container

`Init` fills its containers with `c[key] = value`, one source after the other. `operator[]` looks
at the APPID only: if there is an entry for it, the entry keeps its key and its old value is lost.
So every value is found under its own key exactly if no two keys have the same APPID.
-/

namespace ProcessBus

namespace AppIdContainer

variable {K : Type} [HasAppId K]

/-- `c[key] = i` for the keys of a list, where `i` counts them. -/
def assignAll (keys : List K) : AppIdContainer K ℕ :=
  keys.zipIdx.foldl (fun c x => c.assign x.1 x.2) {}

@[simp] lemma assignAll_nil : assignAll ([] : List K) = {} := rfl

lemma assignAll_concat (keys : List K) (key : K) :
    assignAll (keys ++ [key]) = (assignAll keys).assign key keys.length := by
  simp [assignAll, List.zipIdx_append]

variable {c : AppIdContainer K ℕ} {key : K} {value : ℕ}

variable (value) in
/-- Where the APPID is new, an entry is appended. -/
lemma assign_of_le (h : c.m_values.length ≤ c.m_register (HasAppId.appid key)) :
    (c.assign key value).m_values = c.m_values ++ [(key, value)] ∧
      ∀ a, (c.assign key value).m_register a =
        if a = HasAppId.appid key then c.m_values.length else c.m_register a := by
  simp only [assign, if_neg (Nat.not_lt.mpr h), insert, if_true, implies_true, and_true]
  rw [List.modify_eq_take_drop, List.take_left, List.drop_left]
  rfl

/-- Where it is not, the value of its entry is overwritten. -/
lemma assign_of_lt (h : c.m_register (HasAppId.appid key) < c.m_values.length) :
    (c.assign key value).m_values = c.m_values.modify (c.m_register (HasAppId.appid key))
        (fun entry => (entry.1, value)) ∧
      (c.assign key value).m_register = c.m_register := by
  simp [assign, h]

/-! ### Every value has one entry -/

/-- The values are below `n`, and no two entries share one. -/
structure Filled (c : AppIdContainer K ℕ) (n : ℕ) : Prop where
  lt : ∀ {i : ℕ} {entry : K × ℕ}, c.m_values[i]? = some entry → entry.2 < n
  unique : ∀ {i j : ℕ} {entry entry' : K × ℕ}, c.m_values[i]? = some entry →
    c.m_values[j]? = some entry' → entry.2 = entry'.2 → i = j

lemma Filled.assign {n : ℕ} (h : Filled c n) : Filled (c.assign key n) (n + 1) := by
  -- an entry is either an old one or the one that now holds `n`
  suffices hcases : ∃ k, ∀ (i : ℕ) (entry : K × ℕ),
      (c.assign key n).m_values[i]? = some entry →
        (i = k ∧ entry.2 = n) ∨ (i ≠ k ∧ c.m_values[i]? = some entry) by
    obtain ⟨k, hcases⟩ := hcases
    refine ⟨fun {i entry} hi => ?_, fun {i j entry entry'} hi hj heq => ?_⟩
    · rcases hcases i entry hi with ⟨_, hn⟩ | ⟨_, hold⟩
      · omega
      · have := h.lt hold
        omega
    · rcases hcases i entry hi with ⟨hik, hin⟩ | ⟨_, hiold⟩ <;>
        rcases hcases j entry' hj with ⟨hjk, hjn⟩ | ⟨_, hjold⟩
      · rw [hik, hjk]
      · have := h.lt hjold
        omega
      · have := h.lt hiold
        omega
      · exact h.unique hiold hjold heq
  by_cases hnew : c.m_values.length ≤ c.m_register (HasAppId.appid key)
  · refine ⟨c.m_values.length, fun i entry hi => ?_⟩
    rw [(assign_of_le _ hnew).1] at hi
    rcases Nat.lt_trichotomy i c.m_values.length with hlt | rfl | hgt
    · rw [List.getElem?_append_left hlt] at hi
      exact .inr ⟨hlt.ne, hi⟩
    · simp only [List.getElem?_concat_length, Option.some.injEq] at hi
      exact .inl ⟨rfl, hi ▸ rfl⟩
    · rw [List.getElem?_eq_none (by simp; omega)] at hi
      cases hi
  · refine ⟨c.m_register (HasAppId.appid key), fun i entry hi => ?_⟩
    rw [(assign_of_lt (Nat.not_le.mp hnew)).1] at hi
    by_cases hik : i = c.m_register (HasAppId.appid key)
    · subst hik
      rw [List.getElem?_modify_eq] at hi
      obtain ⟨old, _, rfl⟩ := Option.map_eq_some_iff.mp hi
      exact .inl ⟨rfl, rfl⟩
    · rw [List.getElem?_modify_ne _ _ (Ne.symm hik)] at hi
      exact .inr ⟨hik, hi⟩

theorem filled_assignAll (keys : List K) : Filled (assignAll keys) keys.length := by
  induction keys using List.reverseRecOn with
  | nil => exact ⟨fun h => by simp at h, fun h => by simp at h⟩
  | append_singleton keys key ih =>
    rw [assignAll_concat, List.length_append, List.length_singleton]
    exact ih.assign

/-! ### One entry for each APPID -/

/-- Every entry is registered under the APPID of its key. -/
def Indexed (c : AppIdContainer K ℕ) : Prop :=
  ∀ (i : ℕ) (entry : K × ℕ), c.m_values[i]? = some entry →
    c.m_register (HasAppId.appid entry.1) = i

lemma Indexed.assign (h : Indexed c) : Indexed (c.assign key value) := by
  intro i entry hi
  by_cases hnew : c.m_values.length ≤ c.m_register (HasAppId.appid key)
  · obtain ⟨hvalues, hregister⟩ := assign_of_le value hnew
    rw [hvalues] at hi
    rw [hregister]
    by_cases hlt : i < c.m_values.length
    · rw [List.getElem?_append_left hlt] at hi
      have hold := h i entry hi
      rw [if_neg fun heq => by rw [heq] at hold; omega, hold]
    · obtain ⟨hlen, hentry⟩ := List.getElem?_eq_some_iff.mp hi
      rw [List.length_append, List.length_singleton] at hlen
      obtain rfl : i = c.m_values.length := by omega
      rw [List.getElem_concat_length rfl] at hentry
      rw [← hentry, if_pos rfl]
  · obtain ⟨hvalues, hregister⟩ := assign_of_lt (Nat.not_le.mp hnew)
    rw [hvalues, List.getElem?_modify] at hi
    rw [hregister]
    obtain ⟨old, hold, rfl⟩ := Option.map_eq_some_iff.mp hi
    have hkey := h i old hold
    split_ifs <;> exact hkey

lemma indexed_assignAll (keys : List K) : Indexed (assignAll keys) := by
  induction keys using List.reverseRecOn with
  | nil => exact fun i entry h => by simp at h
  | append_singleton keys key ih =>
    rw [assignAll_concat]
    exact ih.assign

/-- There are no more entries than APPIDs. -/
theorem Indexed.length_le (h : Indexed c) : c.m_values.length ≤ 65536 := by
  have hinj : Function.Injective fun i : Fin c.m_values.length =>
      (⟨(HasAppId.appid c.m_values[i].1).toNat, UInt16.toNat_lt _⟩ : Fin 65536) := by
    intro i j hij
    have happid : HasAppId.appid c.m_values[i].1 = HasAppId.appid c.m_values[j].1 :=
      UInt16.toNat_inj.mp (Fin.mk.inj hij)
    have hi := h i _ (List.getElem?_eq_getElem i.2)
    have hj := h j _ (List.getElem?_eq_getElem j.2)
    exact Fin.ext (hi.symm.trans ((congrArg c.m_register happid).trans hj))
  simpa using Fintype.card_le_of_injective _ hinj

/-! ### Every value is found -/

/-- With different APPIDs, the entries are the keys with their numbers. -/
theorem assignAll_of_nodup {keys : List K} (h : (keys.map HasAppId.appid).Nodup)
    (hlen : keys.length ≤ SIZE_MAX) :
    (assignAll keys).m_values = keys.zipIdx ∧
      (∀ i (hi : i < keys.length), (assignAll keys).m_register (HasAppId.appid keys[i]) = i) ∧
      ∀ a ∉ keys.map HasAppId.appid, (assignAll keys).m_register a = SIZE_MAX := by
  induction keys using List.reverseRecOn with
  | nil => exact ⟨rfl, fun i hi => absurd hi (Nat.not_lt_zero i), fun _ _ => rfl⟩
  | append_singleton keys key ih =>
    rw [List.map_append, List.map_singleton, List.nodup_append] at h
    obtain ⟨hnodup, _, hdisj⟩ := h
    have hkey : HasAppId.appid key ∉ keys.map HasAppId.appid := fun hmem =>
      hdisj _ hmem _ (List.mem_singleton.mpr rfl) rfl
    rw [List.length_append, List.length_singleton] at hlen
    obtain ⟨hvalues, hregister, hfree⟩ := ih hnodup (by omega)
    have hlength : (assignAll keys).m_values.length = keys.length := by
      rw [hvalues, List.length_zipIdx]
    obtain ⟨hvalues', hregister'⟩ := assign_of_le keys.length
      (by rw [hlength, hfree _ hkey]; omega : _ ≤ (assignAll keys).m_register (HasAppId.appid key))
    rw [assignAll_concat, hvalues', hvalues]
    refine ⟨?_, fun i hi => ?_, fun a ha => ?_⟩
    · simp [List.zipIdx_append]
    · rw [List.length_append, List.length_singleton] at hi
      by_cases hlt : i < keys.length
      · rw [List.getElem_append_left hlt]
        have hne : HasAppId.appid keys[i] ≠ HasAppId.appid key := fun heq =>
          hkey (heq ▸ List.mem_map_of_mem (List.getElem_mem hlt))
        rw [hregister', if_neg hne, hregister i hlt]
      · obtain rfl : i = keys.length := by omega
        rw [hregister', List.getElem_concat_length rfl, if_pos rfl, hlength]
    · rw [List.map_append, List.map_singleton, List.mem_append, List.mem_singleton, not_or] at ha
      rw [hregister', if_neg ha.2, hfree a ha.1]

variable [BEq K]

lemma lookup_eq {entry : K × ℕ} (h : c.m_values[c.m_register (HasAppId.appid key)]? = some entry) :
    c.lookup key = if entry.1 == key then some entry.2 else none := by
  unfold lookup find
  simp only [h]
  split_ifs <;> simp [h]

/-- With different APPIDs, whatever equals a key is found under its number. -/
lemma lookup_of_beq {keys : List K} (h : (keys.map HasAppId.appid).Nodup)
    (hlen : keys.length ≤ SIZE_MAX) {i : ℕ} (hi : i < keys.length)
    (happid : HasAppId.appid key = HasAppId.appid keys[i]) (heq : (keys[i] == key) = true) :
    (assignAll keys).lookup key = some i := by
  obtain ⟨hvalues, hregister, _⟩ := assignAll_of_nodup h hlen
  have hget : (assignAll keys).m_values[(assignAll keys).m_register (HasAppId.appid key)]? =
      some (keys[i], i) := by
    rw [happid, hregister i hi, hvalues]
    simp [hi]
  rw [lookup_eq hget, if_pos heq]

/-- Numbered keys. -/
lemma lookup_map_range {f : ℕ → K} {n i : ℕ}
    (h : (((List.range n).map f).map HasAppId.appid).Nodup) (hn : n ≤ SIZE_MAX) (hi : i < n)
    (happid : HasAppId.appid key = HasAppId.appid (f i)) (heq : (f i == key) = true) :
    (assignAll ((List.range n).map f)).lookup key = some i := by
  refine lookup_of_beq h (by simpa using hn) (by simpa using hi) ?_ ?_
  · rw [List.getElem_map, List.getElem_range]
    exact happid
  · rw [List.getElem_map, List.getElem_range]
    exact heq

/-- Two keys with the same APPID are never both found with different values. -/
lemma lookup_inj {key' : K} {v v' : ℕ} (happid : HasAppId.appid key = HasAppId.appid key')
    (h : c.lookup key = some v) (h' : c.lookup key' = some v') : v = v' := by
  cases hget : c.m_values[c.m_register (HasAppId.appid key)]? with
  | none => simp [lookup, find, hget] at h
  | some entry =>
    rw [lookup_eq hget] at h
    rw [lookup_eq (happid ▸ hget)] at h'
    split_ifs at h with hk
    split_ifs at h' with hk'
    rw [← Option.some.inj h, ← Option.some.inj h']

/-- Every value is found under its own key, and under no other, exactly if no APPID is used
twice. -/
theorem found_iff_nodup (keys : List K) (hlen : keys.length ≤ SIZE_MAX)
    (hrefl : ∀ key : K, (key == key) = true) :
    ((∀ i (hi : i < keys.length), (assignAll keys).lookup keys[i] = some i) ∧
      ∀ entry ∈ (assignAll keys).m_values, keys[entry.2]? = some entry.1) ↔
    (keys.map HasAppId.appid).Nodup := by
  constructor
  · rintro ⟨hfound, _⟩
    refine List.pairwise_iff_getElem.mpr fun i j hi hj hij heq => ?_
    rw [List.length_map] at hi hj
    rw [List.getElem_map, List.getElem_map] at heq
    have := lookup_inj heq (hfound i hi) (hfound j hj)
    omega
  · intro hnodup
    obtain ⟨hvalues, _⟩ := assignAll_of_nodup hnodup hlen
    refine ⟨fun i hi => lookup_of_beq hnodup hlen hi rfl (hrefl _), fun entry hentry => ?_⟩
    · rw [hvalues, List.mem_zipIdx_iff_getElem?] at hentry
      exact hentry

end AppIdContainer

end ProcessBus
