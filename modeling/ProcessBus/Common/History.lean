import ProcessBus.Common.Containers
import Mathlib.Tactic.IntervalCases

/-!
# The container under any use

`insert` shadows an entry of the same APPID, `operator[]` takes it and leaves its key. What the
container holds after a sequence of calls is told by the log of the calls: which keys were inserted,
and which values were stored into which entry.
-/

namespace ProcessBus

namespace AppIdContainer

variable {K V : Type} [HasAppId K]

/-! ### The calls -/

/-- The number of entries beyond which `emplace_back` throws: `PTRDIFF_MAX`, for entries of a
single octet. -/
def MAX_SIZE : ℕ := 2 ^ 63 - 1

/-- `operator[]`: the container, and the entry whose value it refers to. -/
def index [Inhabited V] (c : AppIdContainer K V) (key : K) : AppIdContainer K V × ℕ :=
  let c' := if c.m_register (HasAppId.appid key) < c.m_values.length then c
    else c.insert key default
  (c', c'.m_register (HasAppId.appid key))

inductive Call (K V : Type) where
  | insert (key : K) (value : V)
  /-- `c[key]`, where nothing is stored. -/
  | index (key : K)
  /-- `c[key] = value` -/
  | assign (key : K) (value : V)

/-- The calls in a row, `none` when one of them throws. -/
def exec [Inhabited V] : List (Call K V) → AppIdContainer K V → Option (AppIdContainer K V)
  | [], c => some c
  | call :: calls, c =>
    let c' := match call with
      | .insert key value => c.insert key value
      | .index key => (c.index key).1
      | .assign key value => c.assign key value
    if c'.m_values.length ≤ MAX_SIZE then exec calls c' else none

lemma assign_eq [Inhabited V] (c : AppIdContainer K V) (key : K) (value : V) :
    c.assign key value = { (c.index key).1 with
      m_values := (c.index key).1.m_values.modify (c.index key).2 (·.1, value) } := rfl

/-! ### The log -/

/-- The inserted keys, and the values stored with the number of the entry they went to. -/
structure Log (K V : Type) where
  keys : List K := []
  stores : List (ℕ × V) := []

/-- The latest key of an APPID. -/
def latest (a : UInt16) : List K → Option ℕ
  | [] => none
  | key :: keys =>
    match latest a keys with
    | some i => some (i + 1)
    | none => if HasAppId.appid key = a then some 0 else none

namespace Log

def insert (l : Log K V) (key : K) (value : V) : Log K V :=
  ⟨l.keys ++ [key], l.stores ++ [(l.keys.length, value)]⟩

/-- `c[key]` inserts a key only if there is none of its APPID. -/
def call [Inhabited V] (l : Log K V) : Call K V → Log K V
  | .insert key value => l.insert key value
  | .index key =>
    match latest (HasAppId.appid key) l.keys with
    | some _ => l
    | none => l.insert key default
  | .assign key value =>
    match latest (HasAppId.appid key) l.keys with
    | some i => { l with stores := l.stores ++ [(i, value)] }
    | none => l.insert key value

def ofCalls [Inhabited V] (calls : List (Call K V)) : Log K V := calls.foldl call {}

/-- The value last stored into an entry. -/
def valueAt (l : Log K V) (i : ℕ) : Option V :=
  ((l.stores.filter (·.1 = i)).getLast?).map Prod.snd

end Log

/-! ### The latest key of an APPID -/

lemma latest_concat (a : UInt16) (keys : List K) (key : K) :
    latest a (keys ++ [key]) =
      if HasAppId.appid key = a then some keys.length else latest a keys := by
  induction keys with
  | nil => simp [latest]
  | cons key' keys ih =>
    simp only [List.cons_append, latest, ih, List.length_cons]
    split_ifs <;> rfl

lemma latest_eq_some {a : UInt16} {keys : List K} {i : ℕ} :
    latest a keys = some i ↔
      (∃ key, keys[i]? = some key ∧ HasAppId.appid key = a) ∧
        ∀ (j : ℕ) (key : K), keys[j]? = some key → HasAppId.appid key = a → j ≤ i := by
  induction keys using List.reverseRecOn with
  | nil => simp [latest]
  | append_singleton keys key ih =>
    have hlast : (keys ++ [key])[keys.length]? = some key := List.getElem?_concat_length
    have hbelow : ∀ {j : ℕ} {key' : K}, (keys ++ [key])[j]? = some key' →
        j = keys.length ∧ key' = key ∨ keys[j]? = some key' := fun {j key'} hj => by
      rcases Nat.lt_trichotomy j keys.length with hlt | rfl | hgt
      · rw [List.getElem?_append_left hlt] at hj
        exact .inr hj
      · exact .inl ⟨rfl, Option.some.inj (hj.symm.trans hlast)⟩
      · rw [List.getElem?_eq_none (by simp; omega)] at hj
        cases hj
    have habove : ∀ {j : ℕ} {key' : K}, keys[j]? = some key' →
        (keys ++ [key])[j]? = some key' := fun {j key'} hj => by
      obtain ⟨hlt, _⟩ := List.getElem?_eq_some_iff.mp hj
      rwa [List.getElem?_append_left hlt]
    rw [latest_concat]
    split_ifs with ha
    · rw [Option.some.injEq]
      constructor
      · rintro rfl
        refine ⟨⟨key, hlast, ha⟩, fun j key' hj _ => ?_⟩
        have := (List.getElem?_eq_some_iff.mp hj).1
        simp only [List.length_append, List.length_singleton] at this
        omega
      · rintro ⟨⟨key', hkey', _⟩, hmax⟩
        have hle := hmax _ key hlast ha
        have := (List.getElem?_eq_some_iff.mp hkey').1
        simp only [List.length_append, List.length_singleton] at this
        omega
    · rw [ih]
      constructor
      · rintro ⟨⟨key', hkey', ha'⟩, hmax⟩
        refine ⟨⟨key', habove hkey', ha'⟩, fun j key'' hj ha'' => ?_⟩
        rcases hbelow hj with ⟨_, rfl⟩ | hj
        · exact absurd ha'' ha
        · exact hmax j key'' hj ha''
      · rintro ⟨⟨key', hkey', ha'⟩, hmax⟩
        rcases hbelow hkey' with ⟨_, rfl⟩ | hkey'
        · exact absurd ha' ha
        · exact ⟨⟨key', hkey', ha'⟩, fun j key'' hj => hmax j key'' (habove hj)⟩

lemma latest_lt {a : UInt16} {keys : List K} {i : ℕ} (h : latest a keys = some i) :
    i < keys.length := by
  obtain ⟨⟨key, hkey, _⟩, _⟩ := latest_eq_some.mp h
  exact (List.getElem?_eq_some_iff.mp hkey).1

/-! ### The container is what the log says -/

namespace Log

variable {l : Log K V} {key : K} {value : V} {i : ℕ}

omit [HasAppId K] in
lemma valueAt_store : Log.valueAt ⟨l.keys, l.stores ++ [(i, value)]⟩ = fun j =>
    if j = i then some value else l.valueAt j := by
  funext j
  by_cases h : i = j
  · simp [valueAt, List.filter_append, h]
  · simp [valueAt, List.filter_append, h, Ne.symm h]

omit [HasAppId K] in
lemma valueAt_insert : (l.insert key value).valueAt = fun j =>
    if j = l.keys.length then some value else l.valueAt j :=
  valueAt_store (l := ⟨l.keys ++ [key], l.stores⟩)

/-- The container after the calls of a log. -/
structure Describes (l : Log K V) (c : AppIdContainer K V) : Prop where
  keys : c.m_values.map Prod.fst = l.keys
  values : ∀ i < c.m_values.length, c.m_values[i]?.map Prod.snd = l.valueAt i
  register : ∀ a, c.m_register a = (latest a l.keys).getD SIZE_MAX

variable {c : AppIdContainer K V}

lemma Describes.length (h : l.Describes c) : c.m_values.length = l.keys.length := by
  rw [← h.keys, List.length_map]

lemma describes_empty : Log.Describes (K := K) (V := V) {} {} :=
  ⟨rfl, fun _ hi => absurd hi (Nat.not_lt_zero _), fun _ => rfl⟩

lemma Describes.insert (h : l.Describes c) :
    (l.insert key value).Describes (c.insert key value) where
  keys := by simp [AppIdContainer.insert, Log.insert, h.keys]
  values i hi := by
    simp only [AppIdContainer.insert, List.length_append, List.length_singleton] at hi
    rw [valueAt_insert, ← h.length]
    dsimp only [AppIdContainer.insert]
    split_ifs with heq
    · rw [heq, List.getElem?_concat_length]
      rfl
    · rw [List.getElem?_append_left (by omega)]
      exact h.values i (by omega)
  register a := by
    simp only [AppIdContainer.insert, Log.insert, latest_concat, h.length, h.register, eq_comm]
    split_ifs <;> rfl

variable (i value) in
/-- Where an APPID has an entry, a store goes to it. -/
lemma Describes.modify (h : l.Describes c) :
    Log.Describes ⟨l.keys, l.stores ++ [(i, value)]⟩
      { c with m_values := c.m_values.modify i (·.1, value) } where
  keys := by
    rw [← h.keys]
    refine List.ext_getElem? fun j => ?_
    rw [List.getElem?_map, List.getElem?_map, List.getElem?_modify]
    split_ifs <;> cases c.m_values[j]? <;> rfl
  values j hj := by
    rw [List.length_modify] at hj
    rw [valueAt_store, List.getElem?_modify]
    dsimp only
    split_ifs with heq heq' heq'
    · rw [List.getElem?_eq_getElem hj]
      rfl
    · exact absurd heq.symm heq'
    · exact absurd heq'.symm heq
    · rw [id_map']
      exact h.values j hj
  register := h.register

variable [Inhabited V]

variable (key) in
lemma Describes.index (h : l.Describes c) (hsize : c.m_values.length ≤ MAX_SIZE) :
    (l.call (.index key)).Describes (c.index key).1 ∧
      latest (HasAppId.appid key) (l.call (.index key)).keys = some (c.index key).2 := by
  have hreg := h.register (HasAppId.appid key)
  unfold AppIdContainer.index
  simp only [call]
  cases hl : latest (HasAppId.appid key) l.keys with
  | some i =>
    rw [hl, Option.getD_some] at hreg
    rw [hreg, if_pos (h.length ▸ latest_lt hl)]
    exact ⟨h, hl.trans (congrArg some hreg.symm)⟩
  | none =>
    rw [hl, Option.getD_none] at hreg
    rw [hreg, if_neg (Nat.not_lt.mpr (hsize.trans (by decide)))]
    refine ⟨h.insert, ?_⟩
    simp [Log.insert, latest_concat, AppIdContainer.insert, h.length]

lemma call_assign (l : Log K V) (key : K) (value : V) {i : ℕ}
    (hi : latest (HasAppId.appid key) (l.call (.index key)).keys = some i) :
    (l.call (.assign key value)).keys = (l.call (.index key)).keys ∧
      (l.call (.assign key value)).valueAt =
        Log.valueAt ⟨(l.call (.index key)).keys, (l.call (.index key)).stores ++ [(i, value)]⟩ := by
  simp only [call] at hi ⊢
  cases hl : latest (HasAppId.appid key) l.keys with
  | some j =>
    rw [hl] at hi
    obtain rfl : j = i := Option.some.inj (hl.symm.trans hi)
    exact ⟨rfl, rfl⟩
  | none =>
    rw [hl] at hi
    simp only [Log.insert, latest_concat, if_true, Option.some.injEq] at hi
    refine ⟨rfl, ?_⟩
    rw [valueAt_insert, valueAt_store, valueAt_insert, hi]
    funext j
    by_cases hj : j = i
    · simp only [if_pos hj]
    · simp only [if_neg hj]

lemma Describes.assign (h : l.Describes c) (hsize : c.m_values.length ≤ MAX_SIZE) :
    (l.call (.assign key value)).Describes (c.assign key value) := by
  obtain ⟨hindex, hlatest⟩ := h.index key hsize
  obtain ⟨hkeys, hvalues⟩ := call_assign l key value hlatest
  have hstored := hindex.modify value (c.index key).2
  rw [assign_eq]
  exact ⟨hstored.keys.trans hkeys.symm, fun i hi => by rw [hvalues]; exact hstored.values i hi,
    fun a => by rw [hkeys]; exact hstored.register a⟩

/-- Whatever is called, the log tells what the container holds. -/
lemma Describes.exec {calls : List (Call K V)} {c' : AppIdContainer K V} (h : l.Describes c)
    (hsize : c.m_values.length ≤ MAX_SIZE) (hexec : exec calls c = some c') :
    (calls.foldl call l).Describes c' ∧ c'.m_values.length ≤ MAX_SIZE := by
  induction calls generalizing l c with
  | nil =>
    obtain rfl := Option.some.inj hexec
    exact ⟨h, hsize⟩
  | cons call calls ih =>
    unfold AppIdContainer.exec at hexec
    dsimp only at hexec
    split_ifs at hexec with hsize'
    refine ih (l := l.call call) ?_ hsize' hexec
    cases call with
    | insert key value => exact h.insert
    | index key => exact (h.index key hsize).1
    | assign key value => exact h.assign hsize

end Log

variable [BEq K] {c : AppIdContainer K V}

lemma find_eq_some {l : Log K V} (h : l.Describes c) (hsize : c.m_values.length ≤ MAX_SIZE)
    {key : K} {i : ℕ} :
    c.find key = some i ↔
      latest (HasAppId.appid key) l.keys = some i ∧
        ∃ key', l.keys[i]? = some key' ∧ (key' == key) = true := by
  have hreg := h.register (HasAppId.appid key)
  unfold find
  dsimp only
  rw [hreg]
  cases hl : latest (HasAppId.appid key) l.keys with
  | none =>
    have hnone : c.m_values[SIZE_MAX]? = none :=
      List.getElem?_eq_none (hsize.trans (by decide))
    simp [hnone]
  | some j =>
    have hj : j < c.m_values.length := h.length ▸ latest_lt hl
    have hkey : l.keys[j]? = some c.m_values[j].1 := by
      rw [← h.keys, List.getElem?_map, List.getElem?_eq_getElem hj]
      rfl
    rw [Option.getD_some, List.getElem?_eq_getElem hj]
    dsimp only
    constructor
    · intro hfound
      split_ifs at hfound with heq
      obtain rfl := Option.some.inj hfound
      exact ⟨rfl, _, hkey, heq⟩
    · rintro ⟨hji, key', hkey', heq⟩
      obtain rfl := Option.some.inj hji
      obtain rfl := Option.some.inj (hkey.symm.trans hkey')
      rw [if_pos heq]

/-- The register stays consistent. In every sequence of calls that does not throw: an index in the
register is that of an entry of its APPID, `find` returns the entry of the latest key of the APPID
if that is the key asked for, and the entries are the inserted keys in their order, each with the
value last stored into it. -/
theorem register_consistent [Inhabited V] (calls : List (Call K V)) (c : AppIdContainer K V)
    (h : exec calls {} = some c) :
    (∀ a, c.m_register a = SIZE_MAX ∨
      ∃ entry, c.m_values[c.m_register a]? = some entry ∧ HasAppId.appid entry.1 = a) ∧
    (∀ key i, c.find key = some i ↔
      latest (HasAppId.appid key) (Log.ofCalls calls).keys = some i ∧
        ∃ key', (Log.ofCalls calls).keys[i]? = some key' ∧ (key' == key) = true) ∧
    c.m_values.map Prod.fst = (Log.ofCalls calls).keys ∧
    ∀ i < c.m_values.length, c.m_values[i]?.map Prod.snd = (Log.ofCalls calls).valueAt i := by
  obtain ⟨hlog, hsize⟩ := Log.describes_empty.exec (Nat.zero_le _) h
  refine ⟨fun a => ?_, fun key i => find_eq_some hlog hsize, hlog.keys, hlog.values⟩
  rw [hlog.register]
  cases hl : latest a (calls.foldl Log.call {}).keys with
  | none => exact .inl rfl
  | some i =>
    obtain ⟨⟨key, hkey, ha⟩, _⟩ := latest_eq_some.mp hl
    rw [← hlog.keys, List.getElem?_map] at hkey
    obtain ⟨entry, hentry, rfl⟩ := Option.map_eq_some_iff.mp hkey
    exact .inr ⟨entry, hentry, ha⟩

/-- Two keys of the last APPID, the second of which shadows the first. -/
def sampleCalls : List (Call SVStreamPassport ℕ) :=
  [.insert { appid := 65535 } 1, .insert { appid := 65535, num := 8 } 2,
    .assign { appid := 65535 } 3, .index { appid := 0 }]

theorem register_consistent_sample : ∃ c, exec sampleCalls {} = some c ∧
    c.find { appid := 65535, num := 8 } = some 1 ∧ c.find { appid := 65535 } ≠ some 0 ∧
    c.m_values.map Prod.snd = [1, 3, 0] := by
  have hexec : (exec sampleCalls {}).isSome := by decide
  obtain ⟨c, hc⟩ := Option.isSome_iff_exists.mp hexec
  obtain ⟨_, hfind, hkeys, hvalues⟩ := register_consistent sampleCalls c hc
  have hlen : c.m_values.length = 3 := by
    rw [← List.length_map (f := Prod.fst), hkeys]
    decide
  refine ⟨c, hc, (hfind _ _).mpr ⟨by decide, ⟨_, rfl, by decide⟩⟩, fun h => ?_, ?_⟩
  · exact absurd ((hfind _ _).mp h).1 (by decide)
  · refine List.ext_getElem? fun i => ?_
    rw [List.getElem?_map]
    by_cases hi : i < c.m_values.length
    · rw [hvalues i hi]
      rw [hlen] at hi
      interval_cases i <;> decide
    · rw [List.getElem?_eq_none (by omega), List.getElem?_eq_none (by simp; omega)]
      rfl

end AppIdContainer

end ProcessBus
