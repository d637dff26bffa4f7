import ProcessBus.Processor.Gaps
import Mathlib.Data.List.Infix

/-!
# The logs of a run

`run_tests.py` follows a run through the logs of its two applications: the progress from the tables
they print every second, and how an application ended from the line `device_runner.sh` adds after
it. A log is the list of its lines. A copy of it may break off anywhere.
-/

namespace ProcessBus

/-! ### Patterns -/

/-- `\s*` -/
def skipBlanks (s : Text) : Text := s.dropWhile isBlank

/-- `\d` -/
def isDigit (b : UInt8) : Bool := 0x30 ≤ b && b ≤ 0x39

/-- `(\d+)`: the number, and what comes after it. -/
def takeNumber (s : Text) : Option (ℕ × Text) :=
  match s.takeWhile isDigit with
  | [] => none
  | d :: ds => some (decimalValue (d :: ds), s.dropWhile isDigit)

/-- `\s*PPS\s*\|\s*(\d+)\s*\|` -/
def ppsOf (line : Text) : Option ℕ := do
  let s ← (skipBlanks line).dropPrefix? (ascii "PPS")
  let s ← (skipBlanks s).dropPrefix? [BAR]
  let (n, s) ← takeNumber (skipBlanks s)
  let _ ← (skipBlanks s).dropPrefix? [BAR]
  pure n

/-- `\s*Gaps\s*\|\s*(\d+)\s*\|\s*(\d+)` -/
def gapsOf (line : Text) : Option (ℕ × ℕ) := do
  let s ← (skipBlanks line).dropPrefix? (ascii "Gaps")
  let s ← (skipBlanks s).dropPrefix? [BAR]
  let (goose, s) ← takeNumber (skipBlanks s)
  let s ← (skipBlanks s).dropPrefix? [BAR]
  let (sv, _) ← takeNumber (skipBlanks s)
  pure (goose, sv)

/-- What `device_runner.sh` puts in front of the status. -/
def statusMark : Text := ascii "device_runner: exit_status="

/-- `(-?\d+)` -/
def takeInt : Text → Option ℤ
  | [] => none
  | b :: s =>
    if b = 0x2D then (takeNumber s).map fun n => -(n.1 : ℤ)
    else (takeNumber (b :: s)).map fun n => (n.1 : ℤ)

/-- `device_runner: exit_status=(-?\d+)` at the beginning of a text. -/
def statusAt (s : Text) : Option ℤ := (s.dropPrefix? statusMark).bind takeInt

/-- The same anywhere in a line. -/
def statusOf : Text → Option ℤ
  | [] => none
  | b :: s => (statusAt (b :: s)).orElse fun _ => statusOf s

/-! ### Readers

A reader gets the lines of a local file, or `none` if there is no such file. -/

/-- A file in the results directory. -/
abbrev LogFile := Option (List Text)

/-- What the last line with a value says. -/
def lastOf {α : Type} (read : Text → Option α) (log : List Text) : Option α :=
  (log.filterMap read).getLast?

/-- `last_pps` -/
def lastPps (log : LogFile) : ℕ := (lastOf ppsOf (log.getD [])).getD 0

/-- `live_gaps` -/
def liveGaps (log : LogFile) : ℤ :=
  match lastOf gapsOf (log.getD []) with
  | some (goose, sv) => goose + sv
  | none => lastGaps (log.getD [])

/-- `round(statistics.median(core))`, half to even. -/
def roundedMedian (core : List ℕ) : ℕ :=
  let sorted := core.mergeSort
  let m := core.length / 2
  if core.length % 2 = 1 then sorted.getD m 0
  else
    let sum := sorted.getD (m - 1) 0 + sorted.getD m 0
    if sum % 2 = 0 then sum / 2 else sum / 2 + sum / 2 % 2

/-- `steady_pps`: without the first and the last sample if there are enough of them. -/
def steadyPps (log : LogFile) : ℕ :=
  let nz := ((log.getD []).filterMap ppsOf).filter (0 < ·)
  if nz = [] then 0
  else roundedMedian (if 3 < nz.length then nz.tail.dropLast else nz)

/-- `exit_status` -/
def exitStatus (log : LogFile) : Option ℤ := lastOf statusOf (log.getD [])

/-- `has_summary` -/
def hasSummary (log : LogFile) (tag : Text) : Bool := (log.getD []).any fun line => tag <:+: line

/-! ### Numbers -/

lemma isDigit_of_mem_decimal {w n : ℕ} {b : UInt8} (h : b ∈ decimal w n) : isDigit b = true := by
  obtain ⟨hge, hle⟩ := mem_decimal h
  simp only [isDigit, Bool.and_eq_true, decide_eq_true_eq, UInt8.le_iff_toNat_le]
  exact ⟨hge, hle⟩

lemma decimal_ne_nil (w n : ℕ) : decimal w n ≠ [] := by
  simp [decimal, List.leftpad, Nat.toDigits_ne_nil]

/-- A printed number is read up to the next character that is no digit. -/
lemma takeNumber_decimal {w n : ℕ} {s : Text} (hs : s.takeWhile isDigit = []) :
    takeNumber (decimal w n ++ s) = some (n, s) := by
  have hdigit : ∀ b ∈ decimal w n, isDigit b = true := fun b hb => isDigit_of_mem_decimal hb
  have htake : (decimal w n ++ s).takeWhile isDigit = decimal w n := by
    rw [List.takeWhile_append_of_pos hdigit, hs, List.append_nil]
  have hdrop : (decimal w n ++ s).dropWhile isDigit = s := by
    have hsplit := List.takeWhile_append_dropWhile (p := isDigit) (l := decimal w n ++ s)
    rw [htake] at hsplit
    exact List.append_cancel_left hsplit
  rw [takeNumber, htake, hdrop]
  cases hcase : decimal w n with
  | nil => exact absurd hcase (decimal_ne_nil w n)
  | cons d ds => simp only [← hcase, decimalValue_decimal]

lemma decimalValue_lt {q : Text} (h : ∀ b ∈ q, isDigit b = true) :
    decimalValue q < 10 ^ q.length := by
  induction q using List.reverseRecOn with
  | nil => simp [decimalValue]
  | append_singleton q b ih =>
    have hq := ih fun b' hb' => h b' (List.mem_append_left _ hb')
    have hb := h b (by simp)
    simp only [isDigit, Bool.and_eq_true, decide_eq_true_eq, UInt8.le_iff_toNat_le] at hb
    have hdigit : b.toNat - 0x30 < 10 := by
      have := hb.2
      simp at this
      omega
    rw [decimalValue, List.foldl_append, ← decimalValue, List.length_append, List.length_singleton,
      pow_succ]
    simp only [List.foldl_cons, List.foldl_nil]
    omega

/-- Only zero begins with a zero. -/
lemma eq_zero_of_prefix_decimal {p : Text} {n : ℕ} (hp : p <+: decimal 0 n) (hne : p ≠ [])
    (hvalue : decimalValue p = 0) : n = 0 := by
  obtain ⟨q, hq⟩ := hp
  have hdigits : ∀ b ∈ q, isDigit b = true := fun b hb =>
    isDigit_of_mem_decimal (hq ▸ List.mem_append_right p hb)
  have hn : n = decimalValue q := by
    rw [← decimalValue_decimal 0 n, ← hq, decimalValue, List.foldl_append, ← decimalValue, hvalue,
      ← decimalValue]
  have hlt : n < 10 ^ q.length := hn ▸ decimalValue_lt hdigits
  have hlength : (decimal 0 n).length = p.length + q.length := by rw [← hq, List.length_append]
  have hpos : 0 < p.length := List.length_pos_iff.mpr hne
  rcases Nat.eq_zero_or_pos q.length with hzero | hq'
  · rw [List.length_eq_zero_iff] at hzero
    rw [hn, hzero]
    rfl
  · have := (length_decimal_le_iff hq' (Nat.zero_le _)).mpr hlt
    omega

/-! ### The status of an application -/

/-- `echo "device_runner: exit_status=$RC"` -/
def statusLine (rc : ℕ) : Text := statusMark ++ decimal 0 rc

/-- What is left of a number is a number, or nothing is left of it. -/
lemma takeNumber_isSome_of_cut {s t : Text} (h : s <+: t) (hs : (takeNumber s).isSome) :
    (takeNumber t).isSome := by
  obtain ⟨rest, rfl⟩ := h
  cases s with
  | nil => cases hs
  | cons b s =>
    rw [takeNumber] at hs ⊢
    rw [List.cons_append, List.takeWhile_cons] at *
    by_cases hb : isDigit b = true
    · simp [hb]
    · simp [hb] at hs

lemma takeInt_isSome_of_cut {s t : Text} (h : s <+: t) (hs : (takeInt s).isSome) :
    (takeInt t).isSome := by
  cases s with
  | nil => cases hs
  | cons b s =>
    obtain ⟨rest, rfl⟩ := h
    rw [List.cons_append]
    rw [takeInt] at hs ⊢
    split_ifs at hs ⊢
    · rw [Option.isSome_map] at hs ⊢
      exact takeNumber_isSome_of_cut (List.prefix_append s rest) hs
    · rw [Option.isSome_map] at hs ⊢
      exact takeNumber_isSome_of_cut (List.prefix_append (b :: s) rest) hs

lemma statusAt_eq_some_iff {s : Text} {i : ℤ} :
    statusAt s = some i ↔ ∃ u, s = statusMark ++ u ∧ takeInt u = some i := by
  simp only [statusAt, Option.bind_eq_some_iff, List.dropPrefix?_eq_some_iff]
  constructor
  · rintro ⟨u, ⟨p, rfl, hp⟩, hint⟩
    exact ⟨u, by rw [eq_of_beq hp], hint⟩
  · rintro ⟨u, rfl, hint⟩
    exact ⟨u, ⟨statusMark, rfl, beq_self_eq_true _⟩, hint⟩

/-- A status is read from a mark with a number behind it. -/
lemma exists_mark_of_statusOf {s : Text} {i : ℤ} (h : statusOf s = some i) :
    ∃ t u, s = t ++ (statusMark ++ u) ∧ takeInt u = some i := by
  induction s with
  | nil => cases h
  | cons b s ih =>
    rw [statusOf] at h
    cases hat : statusAt (b :: s) with
    | some j =>
      rw [hat] at h
      obtain ⟨u, hu, hint⟩ := statusAt_eq_some_iff.mp hat
      cases h
      exact ⟨[], u, hu, hint⟩
    | none =>
      rw [hat] at h
      obtain ⟨t, u, rfl, hint⟩ := ih h
      exact ⟨b :: t, u, rfl, hint⟩

lemma statusOf_isSome_of_mark (t : Text) {u : Text} (h : (takeInt u).isSome) :
    (statusOf (t ++ (statusMark ++ u))).isSome := by
  obtain ⟨i, hi⟩ := Option.isSome_iff_exists.mp h
  have hat : statusAt (statusMark ++ u) = some i := statusAt_eq_some_iff.mpr ⟨u, rfl, hi⟩
  induction t with
  | nil =>
    rw [List.nil_append]
    cases hs : statusMark ++ u with
    | nil => rw [hs] at hat; cases hat
    | cons b s =>
      rw [statusOf, ← hs, hat]
      rfl
  | cons b t ih =>
    rw [List.cons_append, statusOf]
    cases statusAt (b :: (t ++ (statusMark ++ u))) with
    | some j => rfl
    | none => exact ih

/-- A line without a status has none when it is cut off. -/
lemma statusOf_eq_none_of_cut {l line : Text} (h : l <+: line) (hline : statusOf line = none) :
    statusOf l = none := by
  cases hl : statusOf l with
  | none => rfl
  | some i =>
    obtain ⟨t, u, rfl, hint⟩ := exists_mark_of_statusOf hl
    obtain ⟨rest, rfl⟩ := h
    have hsome : (takeInt (u ++ rest)).isSome :=
      takeInt_isSome_of_cut (List.prefix_append u rest) (by simp [hint])
    have hstatus := statusOf_isSome_of_mark t hsome
    rw [← List.append_assoc statusMark, ← List.append_assoc t, hline] at hstatus
    cases hstatus

/-- What is left of the line of a status does not say zero unless the status is. -/
lemma eq_zero_of_prefix_statusLine {l : Text} {rc : ℕ} (h : l <+: statusLine rc)
    (hl : statusOf l = some 0) : rc = 0 := by
  obtain ⟨t, u, rfl, hint⟩ := exists_mark_of_statusOf hl
  obtain ⟨rest, hrest⟩ := h
  rw [statusLine, List.append_assoc, List.append_assoc, ← List.append_assoc t] at hrest
  have hu : u <+: decimal 0 rc := by
    rcases List.append_eq_append_iff.mp hrest with ⟨c, hmark, hc⟩ | ⟨c, hmark, hc⟩
    · have hlength := congrArg List.length hmark
      simp only [List.length_append] at hlength
      have hnil : c = [] := List.length_eq_zero_iff.mp (by omega)
      rw [hnil, List.nil_append] at hc
      exact ⟨rest, hc⟩
    · -- the mark ends with `=`, which is no digit
      rcases List.eq_nil_or_concat c with rfl | ⟨c, b, rfl⟩
      · exact ⟨rest, by simpa using hc.symm⟩
      · rw [List.concat_eq_append] at hmark hc
        have hmarked : (t ++ ascii "device_runner: exit_status") ++ [0x3D] =
            (statusMark ++ c) ++ [b] := by
          rw [List.append_assoc, List.append_assoc, ← hmark]
          rfl
        have hb : [0x3D] = [b] := List.append_inj_right' hmarked rfl
        have hdigit := isDigit_of_mem_decimal (w := 0) (n := rc) (b := b) (by simp [hc])
        rw [← List.head_eq_of_cons_eq hb] at hdigit
        cases hdigit
  cases u with
  | nil => cases hint
  | cons b u =>
    have hdigits : ∀ d ∈ b :: u, isDigit d = true := fun d hd =>
      isDigit_of_mem_decimal (hu.subset hd)
    have hminus : b ≠ 0x2D := by
      rintro rfl
      exact absurd (hdigits _ List.mem_cons_self) (by decide)
    have htake : (b :: u).takeWhile isDigit = b :: u := List.takeWhile_eq_self_iff.mpr hdigits
    rw [takeInt, if_neg hminus, takeNumber, htake] at hint
    have hvalue : decimalValue (b :: u) = 0 := by simpa using hint
    exact eq_zero_of_prefix_decimal hu (List.cons_ne_nil b u) hvalue

/-! ### Copies -/

/-- What a transfer that may break off anywhere leaves of a log. -/
inductive CutOf : List Text → List Text → Prop where
  | nil (log : List Text) : CutOf [] log
  | part {l line : Text} (log : List Text) (h : l <+: line) : CutOf [l] (line :: log)
  | line {copy log : List Text} (line : Text) (h : CutOf copy log) :
      CutOf (line :: copy) (line :: log)

lemma CutOf.refl (log : List Text) : CutOf log log := by
  induction log with
  | nil => exact nil []
  | cons line log ih => exact ih.line line

lemma CutOf.exists_prefix {copy log : List Text} (h : CutOf copy log) :
    ∀ l ∈ copy, ∃ line ∈ log, l <+: line := by
  induction h with
  | nil log => simp
  | part log h =>
    intro l hl
    rw [List.mem_singleton] at hl
    exact ⟨_, List.mem_cons_self, hl ▸ h⟩
  | line line _ ih =>
    rw [List.forall_mem_cons]
    refine ⟨⟨line, List.mem_cons_self, List.prefix_rfl⟩, fun l hl => ?_⟩
    obtain ⟨line', hmem, hprefix⟩ := ih l hl
    exact ⟨line', List.mem_cons_of_mem _ hmem, hprefix⟩

/-- A copy that says an application ended with 0 was made from a log that says so. -/
theorem exists_status_of_cutOf {copy log : List Text} (h : CutOf copy log)
    (hlog : ∀ line ∈ log, statusOf line = none ∨ ∃ rc, line = statusLine rc)
    (hcopy : exitStatus (some copy) = some 0) : statusLine 0 ∈ log := by
  have hmem := List.mem_of_getLast? hcopy
  obtain ⟨l, hl, hstatus⟩ := List.mem_filterMap.mp hmem
  obtain ⟨line, hline, hprefix⟩ := h.exists_prefix l hl
  rcases hlog line hline with hnone | ⟨rc, rfl⟩
  · rw [statusOf_eq_none_of_cut hprefix hnone] at hstatus
    cases hstatus
  · rwa [← eq_zero_of_prefix_statusLine hprefix hstatus]

end ProcessBus
