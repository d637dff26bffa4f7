import ProcessBus.Parser.Goose.Termination

/-!
# What the GOOSE walk returns

The walk goes along a path of top-level elements and keeps, for every field, what the last element
with the field's tag gave. So its result is a fold over the path, `gooseVisit`, and a frame is
accepted exactly if its path comes to the end, carries the three names and declares as many
entries as its dataset has.
-/

namespace ProcessBus

open Relation

variable {buffer : Ptr} {skipTag : ℕ → Traced Event Unit} {size fuel p q pos stop room : ℕ}
  {s s' : ℕ × GooseWalk}

/-! ### Counting the entries -/

/-- `l` are the positions of the entries of the dataset at `p`. -/
def Entries (buffer : Ptr) (p : ℕ) (l : List ℕ) : Prop :=
  ∃ q, Loop.Path (DataStep buffer (Tiled buffer MAX_DATA_DEPTH) (elemEnd buffer p))
    (headEnd buffer p) l q ∧ elemEnd buffer p ≤ q

open Classical in
/-- How many entries the dataset at `p` has. -/
noncomputable def entryCount (buffer : Ptr) (p : ℕ) : ℕ :=
  if h : ∃ l, Entries buffer p l then h.choose.length else 0

lemma Entries.unique {l l' : List ℕ} (h : Entries buffer p l) (h' : Entries buffer p l') :
    l = l' := by
  obtain ⟨q, hl, hq⟩ := h
  obtain ⟨q', hl', hq'⟩ := h'
  have hend : ∀ q, elemEnd buffer p ≤ q → ∀ c,
      ¬ DataStep buffer (Tiled buffer MAX_DATA_DEPTH) (elemEnd buffer p) q c :=
    fun q hq c hc => by have := hc.1.1; omega
  exact hl.unique DataStep.rightUnique (hend q hq) hl' (hend q' hq')

lemma Entries.entryCount_eq {l : List ℕ} (h : Entries buffer p l) :
    entryCount buffer p = l.length := by
  have hex : ∃ l, Entries buffer p l := ⟨l, h⟩
  rw [entryCount, dif_pos hex, hex.choose_spec.unique h]

lemma alldata_reach {a b : ℕ} {l : List ℕ} (hstop : stop ≤ 2 ^ 31)
    (h : Loop.Path (DataStep buffer (Tiled buffer room) stop) a l b) (num : ℤ) :
    ReflTransGen (fun s s' => ∃ f, (alldataRound buffer (parseAlldataRoom buffer f room)
      stop s).val = .next s') (a, num) (b, num + l.length) := by
  induction h generalizing num with
  | nil a => simpa using ReflTransGen.refl
  | @cons a b c l hstep _ ih =>
    refine .head (hstep.exists_next hstop num) ?_
    have := ih (num + 1)
    rwa [Int.add_assoc, Int.add_comm 1, ← Nat.cast_succ] at this

/-- Along a path to the end, `parse_alldata` counts the entries. -/
lemma parseAlldataRoom_of_path {l : List ℕ} (hstop : stop ≤ 2 ^ 31)
    (h : Loop.Path (DataStep buffer (Tiled buffer room) stop) pos l q) (hq : stop ≤ q) :
    ∃ f, (parseAlldataRoom buffer f (room + 1) pos stop).val = some (l.length : ℤ) := by
  have hreach := alldata_reach hstop h 0
  rw [Int.zero_add] at hreach
  refine Loop.run_of_reach (fun f => alldataRound buffer (parseAlldataRoom buffer f room) stop) ?_
    hreach ⟨0, by rw [val_alldataRound hstop, if_neg (by omega)]⟩
  intro f g s hfg hhang
  exact alldataRound_mono hstop (fun _ _ _ hb hr => parseAlldataRoom_mono hfg hb hr) hhang

lemma parseAlldata_of_entries {l : List ℕ} (hstop : elemEnd buffer p ≤ 2 ^ 31)
    (h : Entries buffer p l) :
    ∃ f, (parseAlldata buffer f (headEnd buffer p) (elemEnd buffer p) 0).val =
      some (l.length : ℤ) := by
  obtain ⟨q, hl, hq⟩ := h
  exact parseAlldataRoom_of_path hstop hl hq

/-- What `parse_alldata` returns, if not -1, is the number of entries. -/
lemma val_parseAlldata {num : ℤ} (hstop : elemEnd buffer p ≤ 2 ^ 31)
    (h : (parseAlldata buffer fuel (headEnd buffer p) (elemEnd buffer p) 0).val = some num)
    (hnonneg : 0 ≤ num) : num = entryCount buffer p := by
  obtain ⟨q, hreach, hq⟩ := (parseAlldataRoom_nonneg hstop h).mp hnonneg
  obtain ⟨l, hl⟩ := Loop.exists_path hreach
  have hentries : Entries buffer p l := ⟨q, hl, hq⟩
  obtain ⟨f, hf⟩ := parseAlldata_of_entries hstop hentries
  have h1 := parseAlldataRoom_mono (le_max_left fuel f) hstop h
  have h2 := parseAlldataRoom_mono (le_max_right fuel f) hstop hf
  rw [hentries.entryCount_eq, ← Option.some.injEq, ← h1, h2]

/-! ### One element -/

/-- What the element at `p` changes in the variables of the walk, its cursor apart. -/
noncomputable def gooseVisit (buffer : Ptr) (s : GooseWalk) (p : ℕ) : GooseWalk :=
  if tagAt buffer p = 0xAB then
    { s with passport := { s.passport with
        allDataOffset := UInt16.ofNat (headEnd buffer p)
        foundEntries := UInt32.ofNat (entryCount buffer p) } }
  else if tagAt buffer p = 0x30 ∨ tagAt buffer p = 0x31 ∨ tagAt buffer p = 0xA0 ∨
      tagAt buffer p = 0xA1 then s
  else (gooseField buffer s (tagAt buffer p) (headEnd buffer p) (headLen buffer p)).val

/-- A round that goes on has visited the element at its cursor. -/
lemma gooseRound_next (hsize : size ≤ 2 ^ 31)
    (h : (gooseRound buffer skipTag size fuel s).val = .next s') :
    TopStep buffer size s.1 s'.1 ∧ s'.2 = gooseVisit buffer s.2 s.1 := by
  refine ⟨(gooseRound_next_iff hsize (by simp [h])).mp ⟨s', h, rfl⟩, ?_⟩
  rw [val_gooseRound hsize] at h
  by_cases hitem : ItemAt buffer size s.1
  · rw [if_pos hitem.1, if_pos hitem] at h
    unfold gooseVisit
    by_cases hdata : tagAt buffer s.1 = 0xAB
    · rw [if_pos hdata] at h ⊢
      cases hr : (parseAlldata buffer fuel (headEnd buffer s.1) (elemEnd buffer s.1) 0).val with
      | none => rw [Loop.val_inner_none hr] at h; cases h
      | some num =>
        rw [Loop.val_inner_some hr, Traced.val_ite] at h
        split_ifs at h with hneg
        · cases h
        · obtain rfl := val_parseAlldata (hitem.2.1.trans hsize) hr (Int.not_lt.mp hneg)
          cases h
          rfl
    · rw [if_neg hdata] at h ⊢
      by_cases hseq : tagAt buffer s.1 = 0x30 ∨ tagAt buffer s.1 = 0x31
      · rw [if_pos hseq] at h
        rw [if_pos (by tauto)]
        cases hr : (Loop.run (skipRound buffer skipTag (elemEnd buffer s.1)) fuel
            (headEnd buffer s.1)).val with
        | none => rw [Loop.val_inner_none hr] at h; cases h
        | some pos =>
          rw [Loop.val_inner_some hr] at h
          cases h
          rfl
      · rw [if_neg hseq] at h
        split_ifs at h with hctx
        · cases h
          rw [if_pos (by tauto)]
        · cases h
          rw [if_neg (by tauto)]
  · rw [if_neg hitem] at h
    split_ifs at h

/-- A round that returns 0 is the last one. -/
lemma gooseRound_done {r : GooseParse} (hsize : size ≤ 2 ^ 31)
    (h : (gooseRound buffer skipTag size fuel s).val = .done r) (hcode : r.code = 0) :
    size ≤ s.1 ∧ r = gooseFinish s.2 := by
  rw [val_gooseRound hsize] at h
  by_cases hpos : s.1 < size
  · exfalso
    rw [if_pos hpos] at h
    split_ifs at h with hitem hdata hseq hctx
    · cases hr : (parseAlldata buffer fuel (headEnd buffer s.1) (elemEnd buffer s.1) 0).val with
      | none => rw [Loop.val_inner_none hr] at h; cases h
      | some num =>
        rw [Loop.val_inner_some hr, Traced.val_ite] at h
        split_ifs at h
        · cases h
          cases hcode
        · cases h
    · cases hr : (Loop.run (skipRound buffer skipTag (elemEnd buffer s.1)) fuel
          (headEnd buffer s.1)).val with
      | none => rw [Loop.val_inner_none hr] at h; cases h
      | some pos => rw [Loop.val_inner_some hr] at h; cases h
    · cases h
      cases hcode
  · rw [if_neg hpos] at h
    cases h
    exact ⟨Nat.not_lt.mp hpos, rfl⟩

/-! ### The walk -/

/-- Along a path the walk visits its elements. -/
lemma gooseWalk_reach {l : List ℕ} {w : GooseWalk} (hsize : size ≤ 2 ^ 31)
    (h : Loop.Path (TopStep buffer size) p l q) :
    ReflTransGen (fun s s' => ∃ f, (gooseRound buffer skipTag size f s).val = .next s') (p, w)
      (q, l.foldl (gooseVisit buffer) w) := by
  induction h generalizing w with
  | nil a => exact .refl
  | cons hstep _ ih =>
    obtain ⟨f, ⟨_, w'⟩, hr, rfl⟩ := TopStep.exists_next skipTag (s := (_, w)) hsize hstep
    obtain rfl : w' = _ := (gooseRound_next hsize hr).2
    exact .head ⟨f, hr⟩ ih

variable (skipTag) in
/-- The walk along a path that comes to the end. -/
theorem gooseWalk_of_path {l : List ℕ} (hsize : size ≤ 2 ^ 31)
    (h : Loop.Path (TopStep buffer size) s.1 l q) (hq : size ≤ q) :
    ∃ f, (gooseWalk buffer skipTag size f s).val =
      some (gooseFinish (l.foldl (gooseVisit buffer) s.2)) := by
  refine Loop.run_of_reach (fun f => gooseRound buffer skipTag size f)
    (fun hfg hhang => gooseRound_mono hsize hfg hhang) (gooseWalk_reach hsize h) ⟨0, ?_⟩
  rw [val_gooseRound hsize, if_neg (Nat.not_lt.mpr hq)]

/-- A walk that returns 0 went along such a path. -/
theorem path_of_gooseWalk {r : GooseParse} (hsize : size ≤ 2 ^ 31)
    (h : (gooseWalk buffer skipTag size fuel s).val = some r) (hcode : r.code = 0) :
    ∃ l q, Loop.Path (TopStep buffer size) s.1 l q ∧ size ≤ q ∧
      r = gooseFinish (l.foldl (gooseVisit buffer) s.2) := by
  obtain ⟨s', hreach, hdone⟩ := Loop.reach_of_run h
  obtain ⟨hend, rfl⟩ := gooseRound_done hsize hdone hcode
  suffices ∃ l, Loop.Path (TopStep buffer size) s.1 l s'.1 ∧
      s'.2 = l.foldl (gooseVisit buffer) s.2 by
    obtain ⟨l, hl, hs'⟩ := this
    exact ⟨l, s'.1, hl, hend, hs' ▸ rfl⟩
  clear hdone hend hcode h
  induction hreach with
  | refl => exact ⟨[], .nil _, rfl⟩
  | tail _ hr ih =>
    obtain ⟨l, hl, hs⟩ := ih
    obtain ⟨hstep, hs'⟩ := gooseRound_next hsize hr
    refine ⟨_, hl.append_single hstep, ?_⟩
    rw [hs', hs, List.foldl_append, List.foldl_cons, List.foldl_nil]

/-! ### The fields -/

/-- Every field depends on the elements of its own tag only. -/
lemma gooseVisit_eq (buffer : Ptr) (w : GooseWalk) (p : ℕ) :
    gooseVisit buffer w p =
      { passport := { w.passport with
          gocbref := if tagAt buffer p = 0x80 then viewAt buffer p else w.passport.gocbref
          dataset := if tagAt buffer p = 0x82 then viewAt buffer p else w.passport.dataset
          goid := if tagAt buffer p = 0x83 then viewAt buffer p else w.passport.goid
          crev := if tagAt buffer p = 0x88 then UInt32.ofNat (numberAt buffer p)
            else w.passport.crev
          num := if tagAt buffer p = 0x8A then UInt16.ofNat (numberAt buffer p)
            else w.passport.num
          allDataOffset := if tagAt buffer p = 0xAB then UInt16.ofNat (headEnd buffer p)
            else w.passport.allDataOffset
          foundEntries := if tagAt buffer p = 0xAB then UInt32.ofNat (entryCount buffer p)
            else w.passport.foundEntries }
        state := {
          timestamp := if tagAt buffer p = 0x84 ∧ 4 ≤ headLen buffer p ∧ headLen buffer p ≤ 8 then
              UInt64.ofNat (beNat (buffer.mem.slice (buffer.off + headEnd buffer p) 8) >>>
                ((8 - headLen buffer p) * 8))
            else w.state.timestamp
          stNum := if tagAt buffer p = 0x85 then UInt32.ofNat (numberAt buffer p)
            else w.state.stNum
          sqNum := if tagAt buffer p = 0x86 then UInt32.ofNat (numberAt buffer p)
            else w.state.sqNum }
        foundGocbref := w.foundGocbref || tagAt buffer p = 0x80
        foundDataset := w.foundDataset || tagAt buffer p = 0x82
        foundGoid := w.foundGoid || tagAt buffer p = 0x83 } := by
  unfold gooseVisit
  generalize tagAt buffer p = tag
  by_cases hdata : tag = 0xAB
  · subst hdata; simp
  by_cases hskip : tag = 0x30 ∨ tag = 0x31 ∨ tag = 0xA0 ∨ tag = 0xA1
  · rcases hskip with rfl | rfl | rfl | rfl <;> simp
  rw [if_neg hdata, if_neg hskip]
  by_cases h80 : tag = 0x80
  · subst h80; simp [gooseField, viewAt]
  by_cases h82 : tag = 0x82
  · subst h82; simp [gooseField, viewAt]
  by_cases h83 : tag = 0x83
  · subst h83; simp [gooseField, viewAt]
  by_cases h84 : tag = 0x84
  · subst h84
    by_cases hlen : 4 ≤ headLen buffer p ∧ headLen buffer p ≤ 8 <;> simp [gooseField, hlen]
  by_cases h85 : tag = 0x85
  · subst h85; simp [gooseField, numberAt]
  by_cases h86 : tag = 0x86
  · subst h86; simp [gooseField, numberAt]
  by_cases h88 : tag = 0x88
  · subst h88; simp [gooseField, numberAt]
  by_cases h8A : tag = 0x8A
  · subst h8A; simp [gooseField, numberAt]
  simp [gooseField, hdata, h80, h82, h83, h84, h85, h86, h88, h8A]

/-! ### Accepted frames -/

/-- The walk along `l` comes to the end, with the names and as many entries as are declared;
`num` and `foundEntries` stand for elements that are missing. -/
structure Accepted (buffer : Ptr) (size start : ℕ) (num : UInt16) (foundEntries : UInt32)
    (l : List ℕ) : Prop where
  path : ∃ q, Loop.Path (TopStep buffer size) start l q ∧ size ≤ q
  gocbref : ∃ p ∈ l, tagAt buffer p = 0x80
  dataset : ∃ p ∈ l, tagAt buffer p = 0x82
  goid : ∃ p ∈ l, tagAt buffer p = 0x83
  entries : lastAt buffer 0xAB (fun p => UInt32.ofNat (entryCount buffer p)) foundEntries l =
    (lastAt buffer 0x8A (fun p => UInt16.ofNat (numberAt buffer p)) num l).toUInt32

lemma gooseFinish_code_iff (w : GooseWalk) : (gooseFinish w).code = 0 ↔
    w.passport.foundEntries = w.passport.num.toUInt32 ∧
      w.foundGocbref = true ∧ w.foundDataset = true ∧ w.foundGoid = true := by
  unfold gooseFinish
  by_cases h : w.passport.foundEntries = w.passport.num.toUInt32
  · rw [if_neg (not_not.mpr h)]
    split_ifs with hfound <;> simp [h, hfound]
  · rw [if_pos h]
    simp [h]

/-- Along a path to the end, the checks behind the loop are those of `Accepted`. -/
lemma gooseFinish_code {l : List ℕ} {passport : GoosePassport} {state : GooseState}
    (hpath : Loop.Path (TopStep buffer size) p l q) (hq : size ≤ q) :
    (gooseFinish (l.foldl (gooseVisit buffer) { passport := passport, state := state })).code = 0 ↔
      Accepted buffer size p passport.num passport.foundEntries l := by
  rw [gooseFinish_code_iff,
    foldl_lastAt (t := 0xAB) (f := fun p => UInt32.ofNat (entryCount buffer p))
      (gooseVisit buffer) (fun w => w.passport.foundEntries) (fun w p => by rw [gooseVisit_eq]),
    foldl_lastAt (t := 0x8A) (f := fun p => UInt16.ofNat (numberAt buffer p))
      (gooseVisit buffer) (fun w => w.passport.num) (fun w p => by rw [gooseVisit_eq]),
    foldl_found (t := 0x80) (gooseVisit buffer) GooseWalk.foundGocbref
      (fun w p => by rw [gooseVisit_eq]),
    foldl_found (t := 0x82) (gooseVisit buffer) GooseWalk.foundDataset
      (fun w p => by rw [gooseVisit_eq]),
    foldl_found (t := 0x83) (gooseVisit buffer) GooseWalk.foundGoid
      (fun w p => by rw [gooseVisit_eq])]
  constructor
  · rintro ⟨hentries, h80, h82, h83⟩
    exact ⟨⟨q, hpath, hq⟩, by simpa using h80, by simpa using h82, by simpa using h83, hentries⟩
  · rintro ⟨-, h80, h82, h83, hentries⟩
    exact ⟨hentries, .inr h80, .inr h82, .inr h83⟩

/-- The three names of an accepted frame, by the tag of their element. -/
def nameOf (passport : GoosePassport) (t : UInt8) : StringView :=
  if t = 0x80 then passport.gocbref else if t = 0x82 then passport.dataset else passport.goid

lemma nameOf_foldl {l : List ℕ} {w : GooseWalk} {t : UInt8}
    (ht : t = 0x80 ∨ t = 0x82 ∨ t = 0x83) :
    nameOf (l.foldl (gooseVisit buffer) w).passport t =
      lastAt buffer t (viewAt buffer) (nameOf w.passport t) l := by
  rcases ht with rfl | rfl | rfl
  · exact foldl_lastAt (gooseVisit buffer) (fun w => w.passport.gocbref)
      fun w p => by rw [gooseVisit_eq]
  · exact foldl_lastAt (gooseVisit buffer) (fun w => w.passport.dataset)
      fun w p => by rw [gooseVisit_eq]
  · exact foldl_lastAt (gooseVisit buffer) (fun w => w.passport.goid)
      fun w p => by rw [gooseVisit_eq]

end ProcessBus
