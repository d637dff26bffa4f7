import ProcessBus.Deploy.Summary
import Mathlib.Algebra.Order.Ring.Rat

/-!
# The verdict

`verdict` in `run_tests.py` judges a run by the totals of the receiver, its tables and the rates on
both sides. Three readers look for gaps, in the totals, in the table of the streams and in the last
periodic table. A run is clean only if no stream of the receiver has counted one.
-/

namespace ProcessBus

/-! ### The periodic table -/

/-- `"{:<10}  | {:<10} | {:<10} |"` -/
def protoRow (category goose sv : Text) : Text :=
  category.rightpad 10 SPACE ++ [SPACE, SPACE, BAR] ++ formatCfgRow [(10, goose), (10, sv)]

/-- The last table of `DisplayStatistic`. -/
def RxApplication.protoTable (app : RxApplication) : List Text :=
  let row (category : String) (goose sv : UInt64) : Text :=
    protoRow (ascii category) (decimal 0 goose.toNat) (decimal 0 sv.toNat)
  [ascii " Category   | GOOSE      | SV         |", List.replicate 39 0x2D,
    row "Total" app.m_rxGoosePktCnt app.m_rxSVPktCnt,
    row "Error" app.m_errGooseParserCnt app.m_errSVParserCnt,
    row "Unknown" app.m_rxUnknownGooseCnt app.m_rxUnknownSVCnt,
    protoRow (ascii "AuthFail") (decimal 0 app.m_errAuthCnt.toNat) (ascii "-"),
    protoRow (ascii "Kernel") (ascii "-") (decimal 0 app.m_pktToKernelCnt.toNat),
    row "Gaps" app.countGaps.1 app.countGaps.2, []]

/-! ### The verdict -/

/-- `cls` -/
inductive RunClass where
  | VOID | LIMIT | CLEAN | LINK_NOISE
  deriving DecidableEq, Repr

/-- What is reported about a run, as far as it is counted in whole numbers. -/
structure Verdict where
  tx : ℕ
  rx : ℕ
  gaps : ℤ
  crc : ℕ
  missed : ℕ
  ring_full : ℕ
  cls : RunClass
  deriving DecidableEq

def GAP_OK : ℕ := 100
def CRC_OK : ℕ := 100
def KILO : ℕ := 1000
def TOL : ℚ := 1 / 100

/-- For each protocol the larger one of the two totals. -/
def summaryGaps (log : LogFile) : ℕ :=
  max (summaryCount log (ascii "goose_err_seq")) (summaryCount log (ascii "goose_err_spdu")) +
    max (summaryCount log (ascii "sv_err_smp")) (summaryCount log (ascii "sv_err_spdu"))

/-- `verdict` -/
def verdict (gen_log proc_log : LogFile) : Verdict :=
  let tx := steadyPps gen_log
  let rx := steadyPps proc_log
  let gaps := max (max (summaryGaps proc_log : ℤ) (lastGaps (proc_log.getD []))) (liveGaps proc_log)
  let crc := summaryCount proc_log (ascii "ierrors")
  let missed := summaryCount proc_log (ascii "imissed")
  { tx := tx, rx := rx, gaps := gaps, crc := crc, missed := missed
    ring_full := summaryCount proc_log (ascii "ring_full")
    cls :=
      if tx = 0 ∨ rx = 0 then .VOID
      else if GAP_OK < gaps ∨ CRC_OK < crc ∨ KILO ≤ missed then .LIMIT
      else if gaps = 0 ∧ |(rx : ℚ) - tx| / tx ≤ TOL then .CLEAN
      else .LINK_NOISE }

/-! ### How the gaps are read -/

lemma skipBlanks_append {pre s : Text} (h : ∀ b ∈ pre, isBlank b = true) :
    skipBlanks (pre ++ s) = skipBlanks s := List.dropWhile_append_of_pos h

lemma skipBlanks_cons {b : UInt8} {s : Text} (h : isBlank b = false) :
    skipBlanks (b :: s) = b :: s := List.dropWhile_cons_of_neg (by simp [h])

/-- A padded number in its column. -/
lemma takeNumber_column (w n : ℕ) (rest : Text) :
    ∃ pad, (∀ b ∈ pad, isBlank b = true) ∧
      takeNumber (skipBlanks (formatCfgRow [(w, decimal 0 n)] ++ rest)) =
        some (n, pad ++ BAR :: rest) := by
  have hcolumn : formatCfgRow [(w, decimal 0 n)] ++ rest = [SPACE] ++ (decimal 0 n ++
      (List.replicate (w - (decimal 0 n).length) SPACE ++ SPACE :: BAR :: rest)) := by
    simp [formatCfgRow, Columns.row, List.rightpad]
  refine ⟨List.replicate (w - (decimal 0 n).length) SPACE ++ [SPACE], ?_, ?_⟩
  · simp only [List.forall_mem_append, List.forall_mem_singleton]
    exact ⟨fun b hb => by rw [List.eq_of_mem_replicate hb]; rfl, rfl⟩
  · rw [hcolumn, skipBlanks_append (List.forall_mem_singleton.mpr rfl)]
    cases hdigits : decimal 0 n with
    | nil => exact absurd hdigits (decimal_ne_nil 0 n)
    | cons d ds =>
      have hd := (plain_decimal 0 n d (hdigits ▸ List.mem_cons_self)).2
      rw [List.cons_append, skipBlanks_cons hd, ← List.cons_append, ← hdigits,
        takeNumber_decimal]
      · simp
      · rcases hrep : w - (decimal 0 n).length with _ | k <;> rfl

/-- The row of the gaps is read back. -/
lemma gapsOf_protoRow (goose sv : ℕ) :
    gapsOf (protoRow (ascii "Gaps") (decimal 0 goose) (decimal 0 sv)) = some (goose, sv) := by
  have hline : protoRow (ascii "Gaps") (decimal 0 goose) (decimal 0 sv) = ascii "Gaps" ++
      (List.replicate 8 SPACE ++ BAR :: (formatCfgRow [(10, decimal 0 goose)] ++
        (formatCfgRow [(10, decimal 0 sv)] ++ []))) := by
    simp [protoRow, formatCfgRow, Columns.row, List.rightpad, ascii, List.replicate_succ]
  have hspaces : ∀ b ∈ List.replicate 8 SPACE, isBlank b = true := fun b hb => by
    rw [List.eq_of_mem_replicate hb]
    rfl
  obtain ⟨pad, hpad, hgoose⟩ :=
    takeNumber_column 10 goose (formatCfgRow [(10, decimal 0 sv)] ++ [])
  obtain ⟨pad', -, hsv⟩ := takeNumber_column 10 sv []
  have hname : ∀ s : Text,
      (skipBlanks (ascii "Gaps" ++ s)).dropPrefix? (ascii "Gaps") = some s := by
    intro s
    have hskip : skipBlanks (ascii "Gaps" ++ s) = ascii "Gaps" ++ s := skipBlanks_cons rfl
    rw [hskip]
    exact List.dropPrefix?_append_of_beq s (beq_self_eq_true _)
  have hbar : ∀ s : Text, (BAR :: s).dropPrefix? [BAR] = some s := by
    intro s
    exact @List.dropPrefix?_append_of_beq _ _ [BAR] [BAR] s (beq_self_eq_true _)
  rw [hline, gapsOf, hname]
  simp only [Option.bind_eq_bind, Option.bind_some, skipBlanks_append hspaces,
    skipBlanks_cons (rfl : isBlank BAR = false), hbar, hgoose, skipBlanks_append hpad, hsv,
    Option.pure_def]

/-- The first cell of such a row is its name. -/
lemma head_cellsOf_of_gapsOf {line : Text} {row : ℕ × ℕ} (h : gapsOf line = some row) :
    (cellsOf line).head? = some (ascii "Gaps") := by
  simp only [gapsOf, Option.bind_eq_bind, Option.bind_eq_some_iff] at h
  obtain ⟨s, hs, s', hs', -⟩ := h
  obtain ⟨name, hname, heq⟩ := List.dropPrefix?_eq_some_iff.mp hs
  obtain ⟨bar, hbar, heq'⟩ := List.dropPrefix?_eq_some_iff.mp hs'
  rw [eq_of_beq heq] at hname
  rw [eq_of_beq heq'] at hbar
  have hblank : ∀ t : Text, ∀ b ∈ t.takeWhile isBlank, isBlank b = true := fun t b hb =>
    List.mem_takeWhile_imp hb
  have hline : line = line.takeWhile isBlank ++ (ascii "Gaps" ++ s.takeWhile isBlank) ++
      BAR :: s' := by
    calc line = line.takeWhile isBlank ++ (ascii "Gaps" ++ s) := by
          rw [← hname, skipBlanks, List.takeWhile_append_dropWhile]
      _ = line.takeWhile isBlank ++ (ascii "Gaps" ++ (s.takeWhile isBlank ++ ([BAR] ++ s'))) := by
          rw [← hbar, skipBlanks, List.takeWhile_append_dropWhile]
      _ = _ := by simp only [List.append_assoc, List.singleton_append]
  have hplain : ∀ b ∈ ascii "Gaps", b ≠ BAR ∧ isBlank b = false := by decide +kernel
  have hnobar : ∀ t : Text, BAR ∉ t.takeWhile isBlank := fun t hmem =>
    absurd (hblank t _ hmem) (by decide)
  rw [hline, cellsOf, Columns.cells_append_sep, Columns.strip_append_left (hblank line),
    Columns.strip_append_right (fun b hb => (hplain b hb).2) (hblank s)]
  · rfl
  · simp only [List.mem_append, not_or]
    exact ⟨hnobar line, fun hmem => (hplain _ hmem).1 rfl, hnobar s⟩

/-- A line that is nothing to either of the two readers of tables. -/
structure Silent (line : Text) : Prop where
  foreign : Foreign line
  noGaps : gapsOf line = none

lemma gapsOf_eq_none {line : Text} (h : ∀ key ∈ (cellsOf line).head?, key ≠ ascii "Gaps") :
    gapsOf line = none := by
  cases hgaps : gapsOf line with
  | none => rfl
  | some row => exact absurd rfl (h _ (head_cellsOf_of_gapsOf hgaps))

lemma silent_of_cells {line key : Text} {cells : List Text} (hcells : cellsOf line = key :: cells)
    (hnames : ∀ cell ∈ key :: cells, cell ∉ errorNames) (hmac : macLike key = false)
    (hkey : key ≠ ascii "Gaps") : Silent line := by
  have hhead : ∀ k ∈ (cellsOf line).head?, k = key := by
    intro k hk
    rw [hcells] at hk
    exact (Option.mem_some_iff.mp hk).symm
  refine ⟨⟨quiet_of_cells hcells hnames, ?_⟩, gapsOf_eq_none ?_⟩
  · intro k hk
    rw [hhead k hk, hmac]
  · intro k hk
    rw [hhead k hk]
    exact hkey

/-- A line with an assignment sign and no bar. -/
lemma silent_of_assign {line : Text} (hbar : BAR ∉ line) (h : ASSIGN ∈ line) : Silent line := by
  have hmem : ASSIGN ∈ Columns.strip isBlank line := Columns.mem_strip h rfl
  refine silent_of_cells (Columns.cells_of_not_mem hbar) ?_ ?_ ?_
  · rw [List.forall_mem_singleton]
    intro hname
    have hall : ∀ name ∈ errorNames, ASSIGN ∉ name := by decide +kernel
    exact hall _ hname hmem
  · rw [macLike, Bool.and_eq_false_iff, List.all_eq_false]
    exact .inr ⟨ASSIGN, hmem, by decide⟩
  · intro heq
    rw [heq] at hmem
    exact absurd hmem (by decide +kernel)

/-! ### The lines the receiver prints -/

lemma cellsOf_protoRow {category goose sv : Text} (hcategory : Plain category)
    (hgoose : Plain goose) (hsv : Plain sv) :
    cellsOf (protoRow category goose sv) = [category, goose, sv, []] := by
  have hspace : ∀ b ∈ List.replicate (10 - category.length) SPACE ++ [SPACE, SPACE], b = SPACE := by
    intro b hb
    rw [List.mem_append] at hb
    rcases hb with hb | hb
    · exact List.eq_of_mem_replicate hb
    · simpa using hb
  have hline : protoRow category goose sv =
      category ++ (List.replicate (10 - category.length) SPACE ++ [SPACE, SPACE]) ++
        BAR :: formatCfgRow [(10, goose), (10, sv)] := by
    simp [protoRow, List.rightpad]
  rw [hline, cellsOf, Columns.cells_append_sep, ← cellsOf, cellsOf_formatCfgRow,
    Columns.strip_append_right (fun b hb => (hcategory b hb).2) fun b hb => hspace b hb ▸ rfl]
  · rfl
  · simp [hgoose, hsv]
  · rw [List.mem_append, not_or]
    exact ⟨fun hmem => (hcategory _ hmem).1 rfl, fun hmem => absurd (hspace _ hmem) (by decide)⟩

namespace RxApplication

variable (app : RxApplication)

lemma quiet_protoTable : ∀ line ∈ app.protoTable, Quiet line := by
  have hrow : ∀ {category : Text} (goose sv : Text), Plain category → category ∉ errorNames →
      Plain goose ∧ goose ∉ errorNames → Plain sv ∧ sv ∉ errorNames →
      Quiet (protoRow category goose sv) := by
    intro category goose sv hplain hname hgoose hsv
    refine quiet_of_cells (cellsOf_protoRow hplain hgoose.1 hsv.1) ?_
    simp [hname, hgoose.2, hsv.2]
  have hnumber : ∀ n : ℕ, Plain (decimal 0 n) ∧ decimal 0 n ∉ errorNames := fun n =>
    ⟨plain_decimal 0 n, decimal_not_mem_errorNames n⟩
  have hdash : Plain (ascii "-") ∧ ascii "-" ∉ errorNames := by decide +kernel
  have hhead : Quiet (ascii " Category   | GOOSE      | SV         |") ∧ Quiet [] := by
    constructor <;> rw [Quiet] <;> decide +kernel
  have hnames : ∀ category ∈ [ascii "Total", ascii "Error", ascii "Unknown", ascii "AuthFail",
      ascii "Kernel", ascii "Gaps"], Plain category ∧ category ∉ errorNames := by decide +kernel
  simp only [List.forall_mem_cons, List.not_mem_nil, IsEmpty.forall_iff, implies_true,
    and_true] at hnames
  obtain ⟨htotal, herror, hunknown, hauth, hkernel, hgaps⟩ := hnames
  simp only [protoTable, List.forall_mem_cons, List.not_mem_nil, IsEmpty.forall_iff, implies_true,
    and_true]
  exact ⟨hhead.1, quiet_dashes 39, hrow _ _ htotal.1 htotal.2 (hnumber _) (hnumber _),
    hrow _ _ herror.1 herror.2 (hnumber _) (hnumber _),
    hrow _ _ hunknown.1 hunknown.2 (hnumber _) (hnumber _),
    hrow _ _ hauth.1 hauth.2 (hnumber _) hdash, hrow _ _ hkernel.1 hkernel.2 hdash (hnumber _),
    hrow _ _ hgaps.1 hgaps.2 (hnumber _) (hnumber _), hhead.2⟩

end RxApplication

/-- No row of a table of the streams says `Gaps`. -/
lemma gapsOf_table {α : Type} {sources : List α} {columns : List (ℕ × Text)} {row : α → Text}
    {noEntry : Bool} (dashes : ℕ)
    (hhead : ∀ key ∈ (cellsOf (formatRow columns)).head?, key ≠ ascii "Gaps")
    (hrow : ∀ src ∈ sources, ∃ cols entry, RowOf cols (row src) entry) :
    ∀ line ∈ (if noEntry then []
      else [formatRow columns, List.replicate dashes 0x2D] ++ sources.map row),
      gapsOf line = none := by
  have hgaps : (0x47 : UInt8) ∈ ascii "Gaps" ∧ macLike (ascii "Gaps") = false := by decide +kernel
  intro line hline
  split_ifs at hline
  · cases hline
  · rw [List.mem_append, List.mem_cons, List.mem_singleton] at hline
    rcases hline with (rfl | rfl) | hline
    · exact gapsOf_eq_none hhead
    · apply gapsOf_eq_none
      rw [cellsOf_dashes]
      rintro key hkey rfl
      have hdash := (Option.mem_some_iff.mp hkey) ▸ hgaps.1
      exact absurd (List.eq_of_mem_replicate hdash) (by decide)
    · obtain ⟨src, hsrc, rfl⟩ := List.mem_map.mp hline
      obtain ⟨cols, entry, hentry⟩ := hrow src hsrc
      apply gapsOf_eq_none
      rw [hentry.key]
      rintro key hkey rfl
      have hmac := hentry.mac
      rw [Option.mem_some_iff.mp hkey, hgaps.2] at hmac
      cases hmac

lemma gapsOf_displayTables {app : RxApplication} (h : app.Configured) :
    ∀ line ∈ app.displayTables, gapsOf line = none := by
  rw [RxApplication.displayTables, List.forall_mem_append]
  constructor
  · rw [Console.GooseSource.printTableHeader]
    refine gapsOf_table 110 ?_ fun src hsrc => ?_
    · decide +kernel
    · obtain ⟨entry, _, hget⟩ := List.mem_filterMap.mp hsrc
      obtain ⟨n, hgoid⟩ := h.goid src (List.mem_of_getElem? hget)
      exact ⟨_, _, rowOf_goose hgoid⟩
  · rw [Console.SVStreamSource.printTableHeader]
    refine gapsOf_table 97 ?_ fun src hsrc => ?_
    · decide +kernel
    · obtain ⟨entry, _, hget⟩ := List.mem_filterMap.mp hsrc
      obtain ⟨n, hsvid⟩ := h.svid src (List.mem_of_getElem? hget)
      exact ⟨_, _, rowOf_sv hsvid⟩

lemma silent_summaryLine {row : SummaryRow} (hlabel : BAR ∉ row.1) (hne : row.2 ≠ [])
    (hitems : ∀ t ∈ row.2, BAR ∉ t.1 ∧ BAR ∉ t.2) : Silent (summaryLine row) := by
  obtain ⟨t, ht⟩ := List.exists_mem_of_ne_nil row.2 hne
  apply silent_of_assign
  · simp only [summaryLine, Fields.row, List.mem_cons, List.mem_append, List.mem_flatMap,
      Fields.item, not_or, not_exists, not_and]
    refine ⟨by decide, hlabel, fun i hi => ⟨by decide, (hitems i hi).1, by decide, (hitems i hi).2⟩⟩
  · rw [summaryLine, Fields.row]
    refine List.mem_cons_of_mem _ (List.mem_append_right _ (List.mem_flatMap.mpr ⟨t, ht, ?_⟩))
    simp [Fields.item]

lemma silent_summaryBlock (res : RxResults) :
    ∀ line ∈ summaryBlock (ascii "PROC") res.summaryRows, Silent line := by
  have hframe : frameOf res.summaryRows = frameOf ({ app := {} } : RxResults).summaryRows := rfl
  have hlegible : ∀ row ∈ frameOf res.summaryRows,
      BAR ∉ row.1 ∧ row.2 ≠ [] ∧ ∀ key ∈ row.2, BAR ∉ key := by
    rw [hframe]
    decide +kernel
  have hvalues : ∀ row ∈ res.summaryRows, ∀ t ∈ row.2, BAR ∉ t.2 := by
    have htotal : ∀ (key : Text) (n : ℕ), BAR ∉ (total key n).2 := fun key n hmem =>
      (plain_decimal 0 n _ hmem).1 rfl
    simp only [RxResults.summaryRows, List.forall_mem_cons, List.not_mem_nil, IsEmpty.forall_iff,
      implies_true, htotal, not_false_eq_true, and_self]
  have hmarks : ∀ line ∈ [[], ascii "SUMMARY_" ++ ascii "PROC",
      ascii "END_SUMMARY_" ++ ascii "PROC"], cellsOf line = [line] ∧
        (∀ cell ∈ [line], cell ∉ errorNames) ∧ macLike line = false ∧ line ≠ ascii "Gaps" := by
    decide +kernel
  have hmark := fun line hline =>
    silent_of_cells (hmarks line hline).1 (hmarks line hline).2.1 (hmarks line hline).2.2.1
      (hmarks line hline).2.2.2
  simp only [List.forall_mem_cons, List.not_mem_nil, IsEmpty.forall_iff, implies_true,
    and_true] at hmark
  rw [summaryBlock, List.forall_mem_append, List.forall_mem_append]
  refine ⟨⟨?_, ?_⟩, ?_⟩
  · simp [hmark.1, hmark.2.1]
  · intro line hline
    obtain ⟨row, hrow, rfl⟩ := List.mem_map.mp hline
    obtain ⟨hlabel, hne, hkeys⟩ := hlegible _ (List.mem_map_of_mem hrow)
    refine silent_summaryLine hlabel (fun hnil => hne (by rw [hnil]; rfl)) fun t ht => ?_
    exact ⟨hkeys _ (List.mem_map_of_mem ht), hvalues row hrow t ht⟩
  · simp [hmark.1, hmark.2.2]

/-! ### The gaps of a run -/

lemma lastOf_append {α : Type} (read : Text → Option α) (log log' : List Text) :
    lastOf read (log ++ log') = (lastOf read log').or (lastOf read log) := by
  rw [lastOf, List.filterMap_append, List.getLast?_append]
  rfl

lemma lastOf_eq_none {α : Type} {read : Text → Option α} {log : List Text}
    (h : ∀ line ∈ log, read line = none) : lastOf read log = none := by
  rw [lastOf, List.filterMap_eq_nil_iff.mpr h]
  rfl

/-- What is printed period by period: other lines, and the table of the totals behind them. -/
def periodLog (periods : List (List Text × RxApplication)) : List Text :=
  periods.flatMap fun period => period.1 ++ period.2.protoTable

lemma lastOf_protoTable (app : RxApplication) :
    lastOf gapsOf app.protoTable = some (app.countGaps.1.toNat, app.countGaps.2.toNat) := by
  have hsplit : app.protoTable = app.protoTable.take 7 ++
      ([protoRow (ascii "Gaps") (decimal 0 app.countGaps.1.toNat)
        (decimal 0 app.countGaps.2.toNat)] ++ [[]]) := rfl
  have hempty : ∀ line ∈ [([] : Text)], gapsOf line = none := by decide
  rw [hsplit, lastOf_append, lastOf_append, lastOf_eq_none hempty, lastOf]
  simp [gapsOf_protoRow]

/-- The last table counts. -/
lemma lastOf_periodLog (periods : List (List Text × RxApplication)) :
    lastOf gapsOf (periodLog periods) = periods.getLast?.map fun period =>
      (period.2.countGaps.1.toNat, period.2.countGaps.2.toNat) := by
  induction periods using List.reverseRecOn with
  | nil => rfl
  | append_singleton periods period =>
    have hsplit : periodLog (periods ++ [period]) =
        periodLog periods ++ (period.1 ++ period.2.protoTable) := by simp [periodLog]
    rw [hsplit, lastOf_append, lastOf_append, lastOf_protoTable, List.getLast?_concat]
    rfl

/-- No address stands for a gap that is not there. -/
lemma total_eq_zero_of_gapless {app : RxApplication} (h : app.Gapless) :
    Latest.total (Latest.setAll [] (app.streamGaps.map printedGap)) = 0 := by
  have hzero : ∀ row ∈ app.streamGaps, row.2 = 0 := by
    intro row hrow
    rw [RxApplication.streamGaps, List.mem_append] at hrow
    rcases hrow with hrow | hrow
    · obtain ⟨src, hsrc, rfl⟩ := List.mem_map.mp hrow
      simp [h.goose src hsrc]
    · obtain ⟨src, hsrc, rfl⟩ := List.mem_map.mp hrow
      simp [h.sv src hsrc]
  have hrows : ∀ row ∈ app.streamGaps.map printedGap, row.2 = 0 := by
    intro row hrow
    obtain ⟨gap, hgap, rfl⟩ := List.mem_map.mp hrow
    simp [printedGap, hzero gap hgap]
  rw [(Latest.total_setAll_nil_eq_iff printedGap_nonneg).mpr,
    Latest.total_eq_zero_iff printedGap_nonneg]
  · exact hrows
  · rw [List.pairwise_iff_forall_sublist]
    intro row row' hsub _
    exact hrows row (hsub.subset (.head _))

section Main

variable {before after : List Text} {res : RxResults}

lemma summaryCount_displayResults (hafter : ∀ line ∈ after, NoBlock line) {key : Text} {n : ℕ}
    (k : ℕ) (hk : (res.summaryRows.flatMap Prod.snd)[k]? = some (total key n)) :
    summaryCount (some (before ++ res.displayResults ++ after)) key = n := by
  rw [summaryCount, res.summaryField_total hafter k hk, decimalValue_decimal]

/-- Taking the larger one of the two totals loses no gap altogether. -/
lemma summaryGaps_eq_zero_iff (h : res.app.Configured) (hafter : ∀ line ∈ after, NoBlock line) :
    summaryGaps (some (before ++ res.displayResults ++ after)) = 0 ↔ res.app.Gapless := by
  rw [summaryGaps, summaryCount_displayResults hafter 7 rfl,
    summaryCount_displayResults hafter 8 rfl, summaryCount_displayResults hafter 9 rfl,
    summaryCount_displayResults hafter 10 rfl, RxApplication.gapless_iff,
    ← toNat_sumOf_eq_zero_iff h.length_le.1, ← toNat_sumOf_eq_zero_iff h.length_le.2,
    ← toNat_sumOf_eq_zero_iff h.length_le.1, ← toNat_sumOf_eq_zero_iff h.length_le.2]
  simp only [RxResults.gooseErrSeq, RxResults.svErrSeq, RxResults.gooseErrSpdu,
    RxResults.svErrSpdu]
  omega

/-- Every condition of the verdict. -/
lemma verdict_cls_eq_clean_iff (gen_log proc_log : LogFile) :
    (verdict gen_log proc_log).cls = .CLEAN ↔ (verdict gen_log proc_log).gaps = 0 ∧
      (verdict gen_log proc_log).crc ≤ CRC_OK ∧ (verdict gen_log proc_log).missed < KILO ∧
      0 < steadyPps gen_log ∧ 0 < steadyPps proc_log ∧
      |(steadyPps proc_log : ℚ) - steadyPps gen_log| / steadyPps gen_log ≤ TOL := by
  simp only [verdict]
  split_ifs with hvoid hlimit hclean
  · refine ⟨nofun, fun h => ?_⟩
    rcases hvoid with htx | hrx
    · exact absurd htx h.2.2.2.1.ne'
    · exact absurd hrx h.2.2.2.2.1.ne'
  · refine ⟨nofun, fun h => ?_⟩
    rcases hlimit with hgaps | hcrc | hmissed
    · rw [h.1] at hgaps
      exact absurd hgaps (by decide)
    · exact absurd hcrc h.2.1.not_gt
    · exact absurd hmissed h.2.2.1.not_ge
  · rw [not_or, not_or, not_lt, not_le] at hlimit
    rw [not_or] at hvoid
    exact iff_of_true rfl ⟨hclean.1, not_lt.mp hlimit.2.1, hlimit.2.2, Nat.pos_of_ne_zero hvoid.1,
      Nat.pos_of_ne_zero hvoid.2, hclean.2⟩
  · exact ⟨nofun, fun h => absurd ⟨h.1, h.2.2.2.2.2⟩ hclean⟩

variable {periods : List (List Text × RxApplication)} {rest : List Text}

/-- The last table of the totals is the last one in the log that has a row of gaps. -/
lemma lastOf_gapsOf (h : res.app.Configured) (hrest : ∀ line ∈ rest, gapsOf line = none)
    (hafter : ∀ line ∈ after, Silent line) :
    lastOf gapsOf (periodLog periods ++ rest ++ res.displayResults ++ after) =
      periods.getLast?.map fun period =>
        (period.2.countGaps.1.toNat, period.2.countGaps.2.toNat) := by
  have hresults : ∀ line ∈ res.displayResults, gapsOf line = none := by
    rw [RxResults.displayResults, List.forall_mem_append, List.forall_mem_append,
      List.forall_mem_singleton]
    exact ⟨⟨by decide, gapsOf_displayTables h⟩, fun line hline =>
      (silent_summaryBlock res line hline).noGaps⟩
  rw [lastOf_append, lastOf_append, lastOf_append, lastOf_eq_none hrest, lastOf_eq_none hresults,
    lastOf_eq_none fun line hline => (hafter line hline).noGaps, lastOf_periodLog]
  rfl

/-- The script finds no gap exactly if the receiver has counted none, now and in its last table. -/
lemma gaps_verdict_eq_zero_iff {conf : RxConfig} (h : res.app.Configured) (gen_log : LogFile)
    (hperiods : ∀ period ∈ periods, ∀ line ∈ period.1, line ∈ conf.cfgTables ∨ Quiet line)
    (hrest : ∀ line ∈ rest, (line ∈ conf.cfgTables ∨ Quiet line) ∧ gapsOf line = none)
    (hafter : ∀ line ∈ after, NoBlock line ∧ Silent line) :
    (verdict gen_log (some (periodLog periods ++ rest ++ res.displayResults ++ after))).gaps = 0 ↔
      res.app.Gapless ∧ ∀ period ∈ periods.getLast?, period.2.countGaps = (0, 0) := by
  have hbefore : ∀ line ∈ periodLog periods ++ rest ++ [[]],
      line ∈ conf.cfgTables ∨ Quiet line := by
    have hempty : Quiet [] := by
      rw [Quiet]
      decide +kernel
    rw [List.forall_mem_append, List.forall_mem_append, List.forall_mem_singleton]
    refine ⟨⟨fun line hline => ?_, fun line hline => (hrest line hline).1⟩, .inr hempty⟩
    obtain ⟨period, hperiod, hmem⟩ := List.mem_flatMap.mp hline
    rcases List.mem_append.mp hmem with hmem | hmem
    · exact hperiods period hperiod line hmem
    · exact .inr (period.2.quiet_protoTable line hmem)
  have hbehind : ∀ line ∈ summaryBlock (ascii "PROC") res.summaryRows ++ after, Foreign line := by
    rw [List.forall_mem_append]
    exact ⟨fun line hline => (silent_summaryBlock res line hline).foreign,
      fun line hline => (hafter line hline).2.foreign⟩
  have htables : lastGaps (periodLog periods ++ rest ++ res.displayResults ++ after) =
      Latest.total (Latest.setAll [] (res.app.streamGaps.map printedGap)) := by
    rw [← lastGaps_eq_total h hbefore hbehind, RxResults.displayResults]
    simp only [List.append_assoc]
  have hsummary := @summaryGaps_eq_zero_iff (periodLog periods ++ rest) _ _ h
    fun line hline => (hafter line hline).1
  have hlast := @lastOf_gapsOf after _ periods rest h (fun line hline => (hrest line hline).2)
    fun line hline => (hafter line hline).2
  simp only [verdict, Option.getD_some, htables, liveGaps, hlast]
  constructor
  · intro hgaps
    have hgapless : res.app.Gapless := hsummary.mp (by omega)
    refine ⟨hgapless, fun period hperiod => ?_⟩
    rw [Option.mem_def.mp hperiod] at hgaps
    simp only [Option.map_some] at hgaps
    have hcounts : period.2.countGaps.1.toNat = 0 ∧ period.2.countGaps.2.toNat = 0 := by omega
    exact Prod.ext (UInt64.toNat_inj.mp hcounts.1) (UInt64.toNat_inj.mp hcounts.2)
  · rintro ⟨hgapless, hperiods⟩
    rw [hsummary.mpr hgapless, total_eq_zero_of_gapless hgapless]
    cases hperiod : periods.getLast? with
    | none => rfl
    | some period => simp [hperiods period hperiod]

/-- A run is clean exactly if the receiver has counted no gap, neither in the end nor in the last
table before, hardly any frame was broken or missed by the device, and it got what was sent, up to
one hundredth. -/
theorem verdict_clean_iff (fuel : ℕ) (crypto : RSess.Crypto) (conf : RxConfig)
    (bursts : List (List RxFrame)) (ringFull : UInt64) (port : PortStat) (gen_log : LogFile)
    (hperiods : ∀ period ∈ periods, ∀ line ∈ period.1, line ∈ conf.cfgTables ∨ Quiet line)
    (hrest : ∀ line ∈ rest, (line ∈ conf.cfgTables ∨ Quiet line) ∧ gapsOf line = none)
    (hafter : ∀ line ∈ after, NoBlock line ∧ Silent line) :
    let res : RxResults := ⟨runBursts fuel crypto (init conf) bursts, ringFull, port⟩
    let proc_log : LogFile := some (periodLog periods ++ rest ++ res.displayResults ++ after)
    let tx := steadyPps gen_log
    let rx := steadyPps proc_log
    (verdict gen_log proc_log).cls = .CLEAN ↔
      (res.app.Gapless ∧ ∀ period ∈ periods.getLast?, period.2.countGaps = (0, 0)) ∧
        port.ierrors.toNat ≤ CRC_OK ∧ port.imissed.toNat < KILO ∧
        0 < tx ∧ 0 < rx ∧ |(rx : ℚ) - tx| / tx ≤ TOL := by
  intro res proc_log tx rx
  have hnoblock : ∀ line ∈ after, NoBlock line := fun line hline => (hafter line hline).1
  have hcrc : (verdict gen_log proc_log).crc = port.ierrors.toNat :=
    @summaryCount_displayResults (periodLog periods ++ rest) _ res hnoblock _ _ 14 rfl
  have hmissed : (verdict gen_log proc_log).missed = port.imissed.toNat :=
    @summaryCount_displayResults (periodLog periods ++ rest) _ res hnoblock _ _ 13 rfl
  rw [verdict_cls_eq_clean_iff, hcrc, hmissed, gaps_verdict_eq_zero_iff
    (configured_runBursts fuel crypto conf bursts) gen_log hperiods hrest hafter]

/-- A rate of 4000 frames on both sides, and a receiver with one stream, which gets its first frame
or only its second one. -/
theorem verdict_clean_iff_sample :
    let pps : List Text := [ascii "    PPS | 4000 |"]
    let app := fun stNum : UInt8 => runBursts 100 sampleRunCrypto
      (init { m_confGooseNum := 1, m_gooseEntries := 1 }) [[sampleGooseRx 0 stNum]]
    let log := fun app : RxApplication => periodLog [(pps, app)] ++ [] ++
      (RxResults.mk app 0 {}).displayResults ++ [statusLine 0]
    (verdict (some pps) (some (log (app 1)))).cls = .CLEAN ∧
      (verdict (some pps) (some (log (app 2)))).cls ≠ .CLEAN := by
  intro pps app log
  have hquiet : ∀ line ∈ pps, Quiet line := by
    simp only [Quiet]
    decide +kernel
  have hafter : ∀ line ∈ [statusLine 0], NoBlock line ∧ Silent line := by
    rw [List.forall_mem_singleton]
    refine ⟨noBlock_statusLine 0, silent_of_assign ?_ ?_⟩
    · decide +kernel
    · decide +kernel
  have hperiods : ∀ (app : RxApplication), ∀ period ∈ [(pps, app)], ∀ line ∈ period.1,
      line ∈ RxConfig.cfgTables { m_confGooseNum := 1, m_gooseEntries := 1 } ∨ Quiet line := by
    intro app
    rw [List.forall_mem_singleton]
    exact fun line hline => .inr (hquiet line hline)
  have h := fun stNum => @verdict_clean_iff _ [(pps, app stNum)] [] 100 sampleRunCrypto
    { m_confGooseNum := 1, m_gooseEntries := 1 } [[sampleGooseRx 0 stNum]] 0 {} (some pps)
    (hperiods _) (fun line hline => absurd hline List.not_mem_nil) hafter
  constructor
  · have hpps : ∀ log : List Text, log.filterMap ppsOf = [4000] →
        steadyPps (some log) = 4000 := by
      intro log hlog
      simp [steadyPps, hlog, roundedMedian]
    have htx := hpps pps (by decide +kernel)
    have hrx := hpps (log (app 1)) (by dsimp only [log, app, pps]; decide +kernel)
    refine (h 1).mpr ⟨⟨RxApplication.gapless_iff.mpr (by decide +kernel), ?_⟩, ?_, ?_, ?_, ?_, ?_⟩
    · rintro period ⟨⟩
      dsimp only [app]
      decide +kernel
    · decide
    · decide
    · rw [htx]
      decide
    · rw [hrx]
      decide
    · rw [htx, hrx, sub_self, abs_zero, zero_div, TOL]
      decide +kernel
  · intro hclean
    have hgap := (RxApplication.gapless_iff.mp ((h 2).mp hclean).1.1).1
    revert hgap
    decide +kernel

end Main

end ProcessBus
