import ProcessBus.Common.Console
import ProcessBus.Lib.Latest
import ProcessBus.Processor.Init

/-!
# The printed gap counters and their reader

In the end the receiver prints a row for every stream with its two error counters
(`RX_Application::DisplayResults`), and `CountGaps` sums up the larger one of each. The test script
reads the tables back: `last_gaps` in `run_tests.py` keeps a value for each address in the first
column, and the row of one stream takes the place of that of another with the same address.
-/

namespace ProcessBus

/-! ### What is printed -/

namespace RxApplication

variable (app : RxApplication)

/-- The sources the GOOSE container refers to, in the order of its entries. -/
def gooseStreams : List GooseSource :=
  app.m_gooseMap.m_values.filterMap fun entry => app.gooseSources[entry.2]?

/-- The sources the SV container refers to. -/
def svStreams : List SVStreamSource :=
  app.m_svMap.m_values.filterMap fun entry => app.svSources[entry.2]?

/-- `CountGaps`: the sums for GOOSE and for SV. -/
def countGaps : UInt64 × UInt64 :=
  (app.gooseStreams.foldl
      (fun goose src => goose + (max src.getErrSeqNum src.getErrSpduNum).toUInt64) 0,
    app.svStreams.foldl (fun sv src => sv + (max src.getErrSeqNum src.getErrSpduNum).toUInt64) 0)

/-- The tables of `DisplayResults`. -/
def displayTables : List Text :=
  (if app.m_gooseMap.m_values.isEmpty then []
    else Console.GooseSource.printTableHeader ++
      app.gooseStreams.map Console.GooseSource.printTableRow) ++
  (if app.m_svMap.m_values.isEmpty then []
    else Console.SVStreamSource.printTableHeader ++
      app.svStreams.map Console.SVStreamSource.printTableRow)

end RxApplication

/-- The tables of `Init` for the streams of one kind. -/
def gooseCfgTable (sources : List GooseSource) : List Text :=
  if sources.isEmpty then []
  else Console.GooseSource.printCfgTableHeader ++ sources.map Console.GooseSource.printCfgTableRow

def svCfgTable (sources : List SVStreamSource) : List Text :=
  if sources.isEmpty then []
  else Console.SVStreamSource.printCfgTableHeader ++
    sources.map Console.SVStreamSource.printCfgTableRow

/-- All configuration tables `Init` prints. -/
def RxConfig.cfgTables (conf : RxConfig) : List Text :=
  gooseCfgTable ((List.range conf.m_confGooseNum.toNat).map conf.l2Goose) ++
    svCfgTable ((List.range conf.m_confSV80Num.toNat).map RxConfig.sv80) ++
    svCfgTable ((List.range conf.m_confSV256Num.toNat).map RxConfig.sv256) ++
    gooseCfgTable ((List.range conf.m_confRGooseNum.toNat).map conf.rGoose) ++
    svCfgTable ((List.range conf.m_confRSV80Num.toNat).map conf.rSv80) ++
    svCfgTable ((List.range conf.m_confRSV256Num.toNat).map conf.rSv256)

/-! ### How it is read -/

/-- `[x.strip() for x in line.split("|")]` -/
def cellsOf (line : Text) : List Text := Columns.cells isBlank BAR line

/-- A character of `[0-9A-Fa-f:]`. -/
def isMacChar (b : UInt8) : Bool :=
  (0x30 ≤ b && b ≤ 0x3A) || (0x41 ≤ b && b ≤ 0x46) || (0x61 ≤ b && b ≤ 0x66)

/-- `^[0-9A-Fa-f:]{17}$` -/
def macLike (cell : Text) : Bool := cell.length = 17 && cell.all isMacChar

/-- The digits of a Python integer, with single underscores between them. -/
def digitsValue (s : Text) : Option ℕ :=
  let groups := s.splitOn 0x5F
  if groups.all fun g => !g.isEmpty && g.all fun b => 0x30 ≤ b && b ≤ 0x39 then
    some (decimalValue groups.flatten)
  else none

/-- `int(s)`, `none` for a `ValueError`. -/
def pyInt (s : Text) : Option ℤ :=
  match Columns.strip isBlank s with
  | [] => none
  | c :: s =>
    if c = 0x2B then (digitsValue s).map Int.ofNat
    else if c = 0x2D then (digitsValue s).map fun n => -Int.ofNat n
    else (digitsValue (c :: s)).map Int.ofNat

/-- The names of the error columns. -/
def errorNames : List Text := [ascii "ErrSeqCnt", ascii "ErrSpduCnt"]

/-- What `last_gaps` remembers between two lines. -/
structure GapReader where
  cols : Option (List ℕ) := none
  perStream : List (Text × ℤ) := []

/-- One line. -/
def GapReader.read (r : GapReader) (line : Text) : GapReader :=
  let cells := cellsOf line
  if ascii "ErrSeqCnt" ∈ cells ∨ ascii "ErrSpduCnt" ∈ cells then
    { r with cols := some ((cells.zipIdx.filter (·.1 ∈ errorNames)).map Prod.snd) }
  else
    match cells with
    | [] => r
    | key :: _ =>
      if key = ascii "MAC" ∨ key = ascii "DMAC" then
        -- a table without error columns
        { r with cols := none }
      else
        match r.cols with
        | none => r
        | some cols =>
          if cols = [] ∨ ¬ macLike key then r
          else
            match cols.mapM fun i => cells[i]?.bind pyInt with
            | none => r
            | some counts =>
              match counts.max? with
              | none => r
              | some value => { r with perStream := Latest.set r.perStream key value }

/-- `last_gaps` on the lines of a log. -/
def lastGaps (log : List Text) : ℤ := Latest.total (log.foldl GapReader.read {}).perStream

/-! ### Cells -/

lemma cellsOf_formatRow {columns : List (ℕ × Text)} (h : ∀ c ∈ columns, Plain c.2) :
    cellsOf (formatRow columns) = columns.map Prod.snd ++ [[]] :=
  Columns.cells_tail_row (by decide) (by decide) h

lemma cellsOf_formatCfgRow {columns : List (ℕ × Text)} (h : ∀ c ∈ columns, Plain c.2) :
    cellsOf (formatCfgRow columns) = columns.map Prod.snd ++ [[]] :=
  Columns.cells_row (by decide) (by decide) h

/-- A printed number is read back. -/
lemma pyInt_decimal (n : ℕ) : pyInt (decimal 0 n) = some (n : ℤ) := by
  have hstrip : Columns.strip isBlank (decimal 0 n ++ []) = decimal 0 n :=
    Columns.strip_append_right (fun a ha => (plain_decimal 0 n a ha).2) (by simp)
  rw [List.append_nil] at hstrip
  have hdigit := @mem_decimal 0 n
  have hvalue : digitsValue (decimal 0 n) = some n := by
    have hunderscore : (0x5F : UInt8) ∉ decimal 0 n := fun h => absurd (hdigit h) (by decide)
    have hne : decimal 0 n ≠ [] := fun h => by
      have hzero := decimalValue_decimal 0 n
      rw [h] at hzero
      subst hzero
      exact absurd h (by decide)
    rw [digitsValue, List.splitOn_eq_singleton hunderscore]
    simp only [List.all_cons, List.all_nil, Bool.and_true, List.flatten_cons, List.flatten_nil,
      List.append_nil, decimalValue_decimal]
    rw [if_pos]
    simp only [Bool.and_eq_true, Bool.not_eq_true', List.isEmpty_eq_false_iff, List.all_eq_true,
      decide_eq_true_eq, UInt8.le_iff_toNat_le]
    exact ⟨hne, fun b hb => hdigit hb⟩
  rw [pyInt, hstrip]
  cases hcase : decimal 0 n with
  | nil => rw [hcase] at hvalue; cases hvalue
  | cons c s =>
    rw [hcase] at hvalue hdigit
    obtain ⟨hge, _⟩ := hdigit List.mem_cons_self
    have hplus : c ≠ 0x2B := fun h => absurd (h ▸ hge) (by decide)
    have hminus : c ≠ 0x2D := fun h => absurd (h ▸ hge) (by decide)
    simp only [if_neg hplus, if_neg hminus, hvalue]
    rfl

lemma isMacChar_hexDigit {n : ℕ} (hn : n < 16) : isMacChar (hexDigit n) = true := by
  have hall : ∀ n < 16, isMacChar (hexDigit n) = true := by decide +kernel
  exact hall n hn

/-- A printed address is recognised. -/
lemma macLike_toString (mac : MAC) : macLike mac.toString = true := by
  obtain ⟨a, b, c, d, e, f, _, htext⟩ := mac.toString_eq
  have hoctet : ∀ o : UInt8, isMacChar (hexDigit (o.toNat / 16)) = true ∧
      isMacChar (hexDigit (o.toNat % 16)) = true := fun o =>
    ⟨isMacChar_hexDigit (by have := o.toNat_lt; omega), isMacChar_hexDigit (by omega)⟩
  have hcolon : isMacChar 0x3A = true := by decide
  rw [htext, macLike]
  simp [hexOctet, hoctet, hcolon]

@[simp] lemma plain_toString (mac : MAC) : Plain mac.toString := by
  have hmac := macLike_toString mac
  rw [macLike, Bool.and_eq_true, List.all_eq_true] at hmac
  intro b hb
  have hchar := hmac.2 b hb
  simp only [isMacChar, isBlank, BAR, ne_eq, ← UInt8.toNat_inj, UInt8.le_iff_toNat_le,
    Bool.or_eq_true, Bool.and_eq_true, decide_eq_true_eq, Bool.or_eq_false_iff,
    Bool.and_eq_false_iff, decide_eq_false_iff_not] at hchar ⊢
  simp at hchar ⊢
  omega

/-! ### Lines without counters -/

/-- A line that is not the header of a table with error columns. -/
def Quiet (line : Text) : Prop := ∀ cell ∈ cellsOf line, cell ∉ errorNames

/-- A line that is no row of such a table either. -/
structure Foreign (line : Text) : Prop where
  quiet : Quiet line
  noKey : ∀ key ∈ (cellsOf line).head?, macLike key = false

lemma Quiet.not_header {line : Text} (h : Quiet line) :
    ¬ (ascii "ErrSeqCnt" ∈ cellsOf line ∨ ascii "ErrSpduCnt" ∈ cellsOf line) := by
  rintro (hseq | hspdu)
  · exact h _ hseq (by simp [errorNames])
  · exact h _ hspdu (by simp [errorNames])

lemma quiet_of_cells {line : Text} {cells : List Text} (hcells : cellsOf line = cells)
    (h : ∀ cell ∈ cells, cell ∉ errorNames) : Quiet line := by
  rw [Quiet, hcells]
  exact h

/-- Both names begin with the same letter. -/
lemma not_mem_errorNames {cell : Text} (h : cell.head? ≠ some 0x45) : cell ∉ errorNames := by
  intro hmem
  rw [errorNames, List.mem_cons, List.mem_singleton] at hmem
  rcases hmem with rfl | rfl
  · exact h (by decide +kernel)
  · exact h (by decide +kernel)

@[simp] lemma decimal_not_mem_errorNames (n : ℕ) : decimal 0 n ∉ errorNames :=
  not_mem_errorNames fun h => absurd (mem_decimal (List.mem_of_head? h)) (by decide)

@[simp] lemma goIdName_not_mem_errorNames (n : ℕ) : goIdName n ∉ errorNames :=
  not_mem_errorNames (by simp [goIdName, show ascii "GOID" = [0x47, 0x4F, 0x49, 0x44] from rfl])

@[simp] lemma dataSetName_not_mem_errorNames (n : ℕ) : dataSetName n ∉ errorNames :=
  not_mem_errorNames (by simp [dataSetName, show ascii "IED" = [0x49, 0x45, 0x44] from rfl])

@[simp] lemma gocbName_not_mem_errorNames (n : ℕ) : gocbName n ∉ errorNames :=
  not_mem_errorNames (by simp [gocbName, show ascii "IED" = [0x49, 0x45, 0x44] from rfl])

@[simp] lemma nil_not_mem_errorNames : [] ∉ errorNames := not_mem_errorNames (by simp)

@[simp] lemma svIdName_not_mem_errorNames (n : ℕ) : svIdName n ∉ errorNames :=
  not_mem_errorNames (by simp [svIdName, show ascii "SVID" = [0x53, 0x56, 0x49, 0x44] from rfl])

@[simp] lemma toString_not_mem_errorNames (mac : MAC) : mac.toString ∉ errorNames := by
  have hall : ∀ name ∈ errorNames, macLike name = false := by decide +kernel
  intro hmem
  exact absurd (macLike_toString mac) (by simp [hall _ hmem])

/-- Without a header nothing is stored. -/
lemma foldl_read_quiet {lines : List Text} (h : ∀ line ∈ lines, Quiet line)
    (perStream : List (Text × ℤ)) :
    lines.foldl GapReader.read ⟨none, perStream⟩ = ⟨none, perStream⟩ := by
  induction lines with
  | nil => rfl
  | cons line lines ih =>
    rw [List.forall_mem_cons] at h
    have hread : GapReader.read ⟨none, perStream⟩ line = ⟨none, perStream⟩ := by
      rw [GapReader.read]
      simp only [if_neg h.1.not_header]
      split
      · rfl
      · split_ifs <;> rfl
    rw [List.foldl_cons, hread, ih h.2]

lemma cellsOf_dashes (n : ℕ) : cellsOf (List.replicate n 0x2D) = [List.replicate n 0x2D] := by
  have hbar : BAR ∉ List.replicate n 0x2D := fun h =>
    absurd (List.eq_of_mem_replicate h) (by decide)
  have hplain : ∀ a ∈ List.replicate n (0x2D : UInt8), isBlank a = false := fun a ha => by
    rw [List.eq_of_mem_replicate ha]
    rfl
  have hstrip := @Columns.strip_append_right _ isBlank [] _ hplain (by simp)
  rw [List.append_nil] at hstrip
  rw [cellsOf, Columns.cells_of_not_mem hbar, hstrip]

lemma quiet_dashes (n : ℕ) : Quiet (List.replicate n 0x2D) := by
  refine quiet_of_cells (cellsOf_dashes n) ?_
  rw [List.forall_mem_singleton]
  refine not_mem_errorNames fun h => ?_
  exact absurd (List.eq_of_mem_replicate (List.mem_of_head? h)) (by decide)

/-- Nor is anything under a line that has no address in front. -/
lemma perStream_read {line : Text} (h : Foreign line) (r : GapReader) :
    (r.read line).perStream = r.perStream := by
  rw [GapReader.read]
  simp only [if_neg h.quiet.not_header]
  split
  · rfl
  · rename_i key rest hcells
    have hkey : ¬ macLike key = true := by simp [h.noKey key (by simp [hcells])]
    split_ifs
    · rfl
    · split
      · rfl
      · rw [if_pos (.inr hkey)]

lemma perStream_foldl_read {lines : List Text} (h : ∀ line ∈ lines, Foreign line) (r : GapReader) :
    (lines.foldl GapReader.read r).perStream = r.perStream := by
  induction lines generalizing r with
  | nil => rfl
  | cons line lines ih =>
    rw [List.forall_mem_cons] at h
    rw [List.foldl_cons, ih h.2, perStream_read h.1]

/-! ### Rows -/

/-- With these error columns, the line stores a value for an address. -/
structure RowOf (cols : List ℕ) (line : Text) (row : Text × ℤ) : Prop where
  quiet : Quiet line
  key : (cellsOf line).head? = some row.1
  mac : macLike row.1 = true
  counts : ∃ counts, (cols.mapM fun i => (cellsOf line)[i]?.bind pyInt) = some counts ∧
    counts.max? = some row.2

lemma read_row {cols : List ℕ} {line : Text} {row : Text × ℤ} (h : RowOf cols line row)
    (perStream : List (Text × ℤ)) : GapReader.read ⟨some cols, perStream⟩ line =
      ⟨some cols, Latest.set perStream row.1 row.2⟩ := by
  obtain ⟨counts, hcounts, hmax⟩ := h.counts
  obtain ⟨rest, hcells⟩ := List.head?_eq_some_iff.mp h.key
  have hname : ¬ (row.1 = ascii "MAC" ∨ row.1 = ascii "DMAC") := by
    have hshort : macLike (ascii "MAC") = false ∧ macLike (ascii "DMAC") = false := by
      decide +kernel
    have hmac := h.mac
    rintro (heq | heq) <;> rw [heq] at hmac <;> simp [hshort] at hmac
  have hcols : cols ≠ [] := by
    rintro rfl
    cases hcounts
    cases hmax
  rw [GapReader.read]
  simp only [if_neg h.quiet.not_header]
  rw [hcells] at hcounts ⊢
  simp only [if_neg hname, if_neg (not_or.mpr ⟨hcols, not_not.mpr h.mac⟩), hcounts, hmax]

/-- The rows of one table. -/
lemma foldl_read_rows {cols : List ℕ} {lines : List Text} {rows : List (Text × ℤ)}
    (h : List.Forall₂ (RowOf cols) lines rows) (perStream : List (Text × ℤ)) :
    lines.foldl GapReader.read ⟨some cols, perStream⟩ =
      ⟨some cols, Latest.setAll perStream rows⟩ := by
  induction h generalizing perStream with
  | nil => rfl
  | cons hrow _ ih => rw [List.foldl_cons, read_row hrow, ih, Latest.setAll_cons]

/-! ### The configuration tables -/

lemma quiet_goose_cfgRow {src : GooseSource} {n : ℕ} (hgoid : src.m_goid = goIdName n)
    (hdataSet : src.m_dataSetRef = dataSetName n) (hgocb : src.m_gocbRef = gocbName n) :
    Quiet (Console.GooseSource.printCfgTableRow src) := by
  have hcells : cellsOf (Console.GooseSource.printCfgTableRow src) = [src.m_dmac.toString,
      decimal 0 src.m_appid.toNat, goIdName n, gocbName n, dataSetName n,
      decimal 0 src.m_crev.toNat, []] := by
    rw [Console.GooseSource.printCfgTableRow, cellsOf_formatCfgRow]
    · simp [hgoid, hdataSet, hgocb]
    · simp [hgoid, hdataSet, hgocb]
  exact quiet_of_cells hcells (by simp)

lemma quiet_sv_cfgRow {src : SVStreamSource} {n : ℕ} (hsvid : src.m_svid = svIdName n) :
    Quiet (Console.SVStreamSource.printCfgTableRow src) := by
  have hcells : cellsOf (Console.SVStreamSource.printCfgTableRow src) = [src.m_dmac.toString,
      decimal 0 src.m_appid.toNat, svIdName n, decimal 0 src.m_crev.toNat, []] := by
    rw [Console.SVStreamSource.printCfgTableRow, cellsOf_formatCfgRow]
    · simp [hsvid]
    · simp [hsvid]
  exact quiet_of_cells hcells (by simp)

/-- A table of quiet rows, which is left out if there are none. -/
lemma quiet_table {α : Type} {sources : List α} {columns : List (ℕ × Text)} {row : α → Text}
    (dashes : ℕ) (hplain : ∀ c ∈ columns, Plain c.2)
    (hnames : ∀ cell ∈ columns.map Prod.snd ++ [[]], cell ∉ errorNames)
    (hrow : ∀ src ∈ sources, Quiet (row src)) :
    ∀ line ∈ (if sources.isEmpty then []
      else [formatCfgRow columns, List.replicate dashes 0x2D] ++ sources.map row), Quiet line := by
  intro line hline
  split_ifs at hline
  · cases hline
  · rw [List.mem_append, List.mem_cons, List.mem_singleton] at hline
    rcases hline with (rfl | rfl) | hline
    · exact quiet_of_cells (cellsOf_formatCfgRow hplain) hnames
    · exact quiet_dashes dashes
    · obtain ⟨src, hsrc, rfl⟩ := List.mem_map.mp hline
      exact hrow src hsrc

lemma quiet_gooseCfgTable {sources : List GooseSource} (h : ∀ src ∈ sources, ∃ n,
    src.m_goid = goIdName n ∧ src.m_dataSetRef = dataSetName n ∧ src.m_gocbRef = gocbName n) :
    ∀ line ∈ gooseCfgTable sources, Quiet line := by
  refine quiet_table 142 ?_ ?_ fun src hsrc => ?_
  · decide +kernel
  · decide +kernel
  · obtain ⟨n, hgoid, hdataSet, hgocb⟩ := h src hsrc
    exact quiet_goose_cfgRow hgoid hdataSet hgocb

lemma quiet_svCfgTable {sources : List SVStreamSource}
    (h : ∀ src ∈ sources, ∃ n, src.m_svid = svIdName n) :
    ∀ line ∈ svCfgTable sources, Quiet line := by
  refine quiet_table 72 ?_ ?_ fun src hsrc => ?_
  · decide +kernel
  · decide +kernel
  · obtain ⟨n, hsvid⟩ := h src hsrc
    exact quiet_sv_cfgRow hsvid

/-- No configuration table has error columns. -/
theorem quiet_cfgTables (conf : RxConfig) : ∀ line ∈ conf.cfgTables, Quiet line := by
  have hgoose : ∀ {N : ℕ} {mac : ℕ → MAC} {dstIP : ℕ → UInt32},
      ∀ line ∈ gooseCfgTable ((List.range N).map fun i =>
        gooseSource conf.m_gooseEntries (mac i) (dstIP i) i), Quiet line := by
    intro N mac dstIP
    refine quiet_gooseCfgTable fun src hsrc => ?_
    obtain ⟨i, _, rfl⟩ := List.mem_map.mp hsrc
    exact ⟨i + 1, rfl, rfl, rfl⟩
  have hsv : ∀ {N : ℕ} {numASDU : UInt32} {mac : ℕ → MAC} {dstIP : ℕ → UInt32},
      ∀ line ∈ svCfgTable ((List.range N).map fun i => svSource numASDU (mac i) (dstIP i) i),
        Quiet line := by
    intro N numASDU mac dstIP
    refine quiet_svCfgTable fun src hsrc => ?_
    obtain ⟨i, _, rfl⟩ := List.mem_map.mp hsrc
    exact ⟨i + 1, rfl⟩
  intro line hline
  simp only [RxConfig.cfgTables, List.mem_append] at hline
  rcases hline with ((((hline | hline) | hline) | hline) | hline) | hline
  · exact hgoose line hline
  · exact hsv line hline
  · exact hsv line hline
  · exact hgoose line hline
  · exact hsv line hline
  · exact hsv line hline

/-! ### The tables of the counters -/

/-- The address and the larger error counter of every stream, in the order they are printed. -/
def RxApplication.streamGaps (app : RxApplication) : List (MAC × ℕ) :=
  app.gooseStreams.map (fun src =>
      (src.m_dmac, max src.getErrSeqNum.toNat src.getErrSpduNum.toNat)) ++
    app.svStreams.map fun src =>
      (src.m_dmac, max src.getErrSeqNum.toNat src.getErrSpduNum.toNat)

/-- How the reader keeps such an entry. -/
def printedGap (row : MAC × ℕ) : Text × ℤ := (row.1.toString, row.2)

lemma max?_counts (a b : ℕ) : [(a : ℤ), (b : ℤ)].max? = some ((max a b : ℕ) : ℤ) := by
  have hmax : max (a : ℤ) (b : ℤ) = ((max a b : ℕ) : ℤ) := by omega
  rw [← hmax]
  rfl

lemma rowOf_goose {src : GooseSource} {n : ℕ} (hgoid : src.m_goid = goIdName n) :
    RowOf [5, 6] (Console.GooseSource.printTableRow src)
      (printedGap (src.m_dmac, max src.getErrSeqNum.toNat src.getErrSpduNum.toNat)) := by
  have hcells : cellsOf (Console.GooseSource.printTableRow src) = [src.m_dmac.toString,
      decimal 0 src.m_appid.toNat, goIdName n, decimal 0 src.m_stNum.toNat,
      decimal 0 src.m_sqNum.toNat, decimal 0 src.getErrSeqNum.toNat,
      decimal 0 src.getErrSpduNum.toNat, []] := by
    rw [Console.GooseSource.printTableRow, cellsOf_formatRow]
    · simp [hgoid]
    · simp [hgoid]
  refine ⟨quiet_of_cells hcells (by simp), by rw [hcells]; rfl, macLike_toString _,
    [(src.getErrSeqNum.toNat : ℤ), (src.getErrSpduNum.toNat : ℤ)], ?_, ?_⟩
  · simp [hcells, pyInt_decimal]
  · exact max?_counts _ _

lemma rowOf_sv {src : SVStreamSource} {n : ℕ} (hsvid : src.m_svid = svIdName n) :
    RowOf [4, 5] (Console.SVStreamSource.printTableRow src)
      (printedGap (src.m_dmac, max src.getErrSeqNum.toNat src.getErrSpduNum.toNat)) := by
  have hcells : cellsOf (Console.SVStreamSource.printTableRow src) = [src.m_dmac.toString,
      decimal 0 src.m_appid.toNat, svIdName n, decimal 0 src.m_smpCnt.toNat,
      decimal 0 src.getErrSeqNum.toNat, decimal 0 src.getErrSpduNum.toNat, []] := by
    rw [Console.SVStreamSource.printTableRow, cellsOf_formatRow]
    · simp [hsvid]
    · simp [hsvid]
  refine ⟨quiet_of_cells hcells (by simp), by rw [hcells]; rfl, macLike_toString _,
    [(src.getErrSeqNum.toNat : ℤ), (src.getErrSpduNum.toNat : ℤ)], ?_, ?_⟩
  · simp [hcells, pyInt_decimal]
  · exact max?_counts _ _

lemma read_dashes (n : ℕ) (r : GapReader) : r.read (List.replicate n 0x2D) = r := by
  have hdash : ∀ {b : UInt8}, b ∈ List.replicate n 0x2D → b = 0x2D := List.eq_of_mem_replicate
  have hname : ¬ (List.replicate n 0x2D = ascii "MAC" ∨ List.replicate n 0x2D = ascii "DMAC") := by
    rintro (heq | heq)
    · exact absurd (hdash (heq ▸ List.mem_cons_self : (0x4D : UInt8) ∈ _)) (by decide)
    · exact absurd (hdash (heq ▸ List.mem_cons_self : (0x44 : UInt8) ∈ _)) (by decide)
  have hmac : ¬ macLike (List.replicate n 0x2D) = true := by
    rw [macLike, Bool.and_eq_true, decide_eq_true_eq, List.length_replicate]
    rintro ⟨rfl, hall⟩
    exact absurd hall (by decide)
  have hquiet := (quiet_dashes n).not_header
  rw [cellsOf_dashes] at hquiet
  rw [GapReader.read]
  simp only [cellsOf_dashes, if_neg hquiet, if_neg hname]
  split
  · rfl
  · rw [if_pos (.inr hmac)]

/-- The table of some sources, which is left out if there are none: the header, the dashes, and a
row for each. -/
lemma foldl_read_table {α : Type} {sources : List α} {columns : List (ℕ × Text)} {row : α → Text}
    {gap : α → MAC × ℕ} {noEntry : Bool} (dashes : ℕ) (cols : List ℕ)
    (hnone : noEntry = true → sources = []) (hplain : ∀ c ∈ columns, Plain c.2)
    (hname : ascii "ErrSeqCnt" ∈ columns.map Prod.snd ++ [[]])
    (hcols : ((columns.map Prod.snd ++ [([] : Text)]).zipIdx.filter (·.1 ∈ errorNames)).map
      Prod.snd = cols)
    (hrow : ∀ src ∈ sources, RowOf cols (row src) (printedGap (gap src))) (r : GapReader) :
    ((if noEntry then []
      else [formatRow columns, List.replicate dashes 0x2D] ++ sources.map row).foldl
        GapReader.read r).perStream =
      Latest.setAll r.perStream ((sources.map gap).map printedGap) := by
  split_ifs with hempty
  · rw [hnone hempty]
    rfl
  · have hrows : List.Forall₂ (RowOf cols) (sources.map row)
        ((sources.map gap).map printedGap) := by
      rw [List.map_map, List.forall₂_map_left_iff, List.forall₂_map_right_iff, List.forall₂_same]
      exact hrow
    have hhead : r.read (formatRow columns) = ⟨some cols, r.perStream⟩ := by
      rw [GapReader.read]
      simp only [cellsOf_formatRow hplain,
        if_pos (Or.inl hname : _ ∨ ascii "ErrSpduCnt" ∈ columns.map Prod.snd ++ [[]]), hcols]
    rw [List.foldl_append, List.foldl_cons, List.foldl_cons, List.foldl_nil, hhead, read_dashes,
      foldl_read_rows hrows]

/-! ### What the configuration guarantees -/

/-- The sources have the names `Init` gives them, and there is one entry at most for an APPID. -/
structure RxApplication.Configured (app : RxApplication) : Prop where
  goid : ∀ src ∈ app.gooseSources, ∃ n, src.m_goid = goIdName n
  svid : ∀ src ∈ app.svSources, ∃ n, src.m_svid = svIdName n
  gooseMap : app.m_gooseMap.Indexed
  svMap : app.m_svMap.Indexed

lemma configured_init (conf : RxConfig) : (init conf).Configured := by
  obtain ⟨hgoose, hsv, hgooseMap, hsvMap⟩ := registered_init conf
  refine ⟨fun src hsrc => ?_, fun src hsrc => ?_, ?_, ?_⟩
  · rw [hgoose, RxConfig.allGoose, List.mem_append] at hsrc
    rcases hsrc with hsrc | hsrc <;> obtain ⟨i, _, rfl⟩ := List.mem_map.mp hsrc <;>
      exact ⟨i + 1, rfl⟩
  · rw [hsv, RxConfig.allSV] at hsrc
    simp only [List.mem_append] at hsrc
    rcases hsrc with ((hsrc | hsrc) | hsrc) | hsrc <;>
      obtain ⟨i, _, rfl⟩ := List.mem_map.mp hsrc <;> exact ⟨i + 1, rfl⟩
  · rw [hgooseMap]
    exact AppIdContainer.indexed_assignAll _
  · rw [hsvMap]
    exact AppIdContainer.indexed_assignAll _

/-- What all elements have and an update keeps. -/
lemma forall_mem_modify {α : Type} {P : α → Prop} {l : List α} {f : α → α} {i : ℕ}
    (h : ∀ x ∈ l, P x) (hf : ∀ x, P x → P (f x)) : ∀ x ∈ l.modify i f, P x := by
  intro x hx
  obtain ⟨j, hj⟩ := List.mem_iff_getElem?.mp hx
  rw [List.getElem?_modify] at hj
  obtain ⟨old, hold, rfl⟩ := Option.map_eq_some_iff.mp hj
  have hkept := h old (List.mem_of_getElem? hold)
  split_ifs
  · exact hf old hkept
  · exact hkept

namespace RxApplication.Configured

variable {app : RxApplication}

/-- Only what a source counts changes when it takes a frame. -/
lemma takeGoose (h : app.Configured) {pass : GoosePassport} {take : GooseSource → GooseSource}
    (htake : ∀ src, (take src).m_goid = src.m_goid) : (app.takeGoose pass take).Configured := by
  unfold RxApplication.takeGoose
  split
  · refine ⟨forall_mem_modify h.goid fun src hsrc => ?_, h.svid, h.gooseMap, h.svMap⟩
    rw [htake src]
    exact hsrc
  · exact ⟨h.goid, h.svid, h.gooseMap, h.svMap⟩

lemma takeSV (h : app.Configured) {pass : SVStreamPassport}
    {take : SVStreamSource → SVStreamSource} (htake : ∀ src, (take src).m_svid = src.m_svid) :
    (app.takeSV pass take).Configured := by
  unfold RxApplication.takeSV
  split
  · refine ⟨h.goid, forall_mem_modify h.svid fun src hsrc => ?_, h.gooseMap, h.svMap⟩
    rw [htake src]
    exact hsrc
  · exact ⟨h.goid, h.svid, h.gooseMap, h.svMap⟩

variable {fuel : ℕ} {crypto : RSess.Crypto} {frame : RxFrame}

lemma gooseStage (h : app.Configured) : (gooseStage fuel app frame).Configured := by
  unfold ProcessBus.gooseStage
  split
  · exact h
  · split_ifs
    · exact h.takeGoose fun _ => rfl
    · exact ⟨h.goid, h.svid, h.gooseMap, h.svMap⟩

lemma sampledValuesStage (h : app.Configured) :
    (sampledValuesStage fuel app frame).Configured := by
  unfold ProcessBus.sampledValuesStage
  split
  · exact h
  · split_ifs
    · exact h.takeSV fun _ => rfl
    · exact ⟨h.goid, h.svid, h.gooseMap, h.svMap⟩

lemma rGooseStage (h : app.Configured) : (rGooseStage fuel crypto app frame).Configured := by
  unfold ProcessBus.rGooseStage
  split_ifs
  · exact ⟨h.goid, h.svid, h.gooseMap, h.svMap⟩
  · split
    · exact h
    · split_ifs
      · exact h.takeGoose fun _ => rfl
      · exact ⟨h.goid, h.svid, h.gooseMap, h.svMap⟩
      · exact ⟨h.goid, h.svid, h.gooseMap, h.svMap⟩

lemma rSampledValuesStage (h : app.Configured) :
    (rSampledValuesStage fuel crypto app frame).Configured := by
  unfold ProcessBus.rSampledValuesStage
  split_ifs
  · exact ⟨h.goid, h.svid, h.gooseMap, h.svMap⟩
  · split
    · exact h
    · split_ifs
      · exact h.takeSV fun _ => rfl
      · exact ⟨h.goid, h.svid, h.gooseMap, h.svMap⟩
      · exact ⟨h.goid, h.svid, h.gooseMap, h.svMap⟩

lemma runBurst (h : app.Configured) {burst : List RxFrame} :
    (runBurst fuel crypto app burst).Configured := by
  have hgoose := List.foldlRecOn (queue burst .BUS_PROTO_GOOSE) (ProcessBus.gooseStage fuel) h
    fun _ hs _ _ => hs.gooseStage
  have hsv := List.foldlRecOn (queue burst .BUS_PROTO_SV) (ProcessBus.sampledValuesStage fuel)
    hgoose fun _ hs _ _ => hs.sampledValuesStage
  have hrGoose := List.foldlRecOn (queue burst .BUS_PROTO_R_GOOSE)
    (ProcessBus.rGooseStage fuel crypto) hsv fun _ hs _ _ => hs.rGooseStage
  have hrSv := List.foldlRecOn (queue burst .BUS_PROTO_R_SV)
    (ProcessBus.rSampledValuesStage fuel crypto) hrGoose fun _ hs _ _ => hs.rSampledValuesStage
  exact ⟨hrSv.goid, hrSv.svid, hrSv.gooseMap, hrSv.svMap⟩

end RxApplication.Configured

/-- So it is at the end of every run of the receiver. -/
theorem configured_runBursts (fuel : ℕ) (crypto : RSess.Crypto) (conf : RxConfig)
    (bursts : List (List RxFrame)) :
    (runBursts fuel crypto (init conf) bursts).Configured :=
  List.foldlRecOn bursts (runBurst fuel crypto) (configured_init conf) fun _ hs _ _ => hs.runBurst

/-! ### The totals -/

/-- 64 bits are enough for the counters of all streams. -/
lemma toNat_foldl_counts {α : Type} (seq spdu : α → UInt32) (l : List α) (acc : UInt64)
    (hacc : acc.toNat + l.length * 2 ^ 32 < 2 ^ 64) :
    (l.foldl (fun sum src => sum + (max (seq src) (spdu src)).toUInt64) acc).toNat =
      acc.toNat + (l.map fun src => max (seq src).toNat (spdu src).toNat).sum := by
  induction l generalizing acc with
  | nil => rfl
  | cons src l ih =>
    rw [List.length_cons, add_mul] at hacc
    have hseq := (seq src).toNat_lt
    have hspdu := (spdu src).toNat_lt
    have hmax : (max (seq src) (spdu src)).toNat = max (seq src).toNat (spdu src).toNat := by
      have hdef : max (seq src) (spdu src) =
          if seq src ≤ spdu src then spdu src else seq src := rfl
      rw [hdef, max_def]
      simp only [UInt32.le_iff_toNat_le]
      split_ifs <;> rfl
    have hstep : (acc + (max (seq src) (spdu src)).toUInt64).toNat =
        acc.toNat + max (seq src).toNat (spdu src).toNat := by
      rw [UInt64.toNat_add, UInt32.toNat_toUInt64, hmax]
      omega
    rw [List.foldl_cons, ih _ (by omega), hstep, List.map_cons, List.sum_cons, add_assoc]

lemma total_printedGap (rows : List (MAC × ℕ)) :
    Latest.total (rows.map printedGap) = ((rows.map Prod.snd).sum : ℕ) := by
  induction rows with
  | nil => rfl
  | cons row rows ih =>
    rw [List.map_cons, Latest.total_cons, ih, List.map_cons, List.sum_cons, Nat.cast_add]
    rfl

section

variable {app : RxApplication} (h : app.Configured)
include h

lemma foldl_read_gooseTable (r : GapReader) :
    ((if app.m_gooseMap.m_values.isEmpty then []
      else Console.GooseSource.printTableHeader ++
        app.gooseStreams.map Console.GooseSource.printTableRow).foldl GapReader.read r).perStream =
      Latest.setAll r.perStream ((app.gooseStreams.map fun src =>
        (src.m_dmac, max src.getErrSeqNum.toNat src.getErrSpduNum.toNat)).map printedGap) := by
  rw [Console.GooseSource.printTableHeader]
  refine foldl_read_table 110 [5, 6] (fun hempty => ?_) ?_ ?_ ?_ (fun src hsrc => ?_) r
  · rw [RxApplication.gooseStreams, List.isEmpty_iff.mp hempty, List.filterMap_nil]
  · decide +kernel
  · decide +kernel
  · decide +kernel
  · obtain ⟨entry, _, hget⟩ := List.mem_filterMap.mp hsrc
    obtain ⟨n, hgoid⟩ := h.goid src (List.mem_of_getElem? hget)
    exact rowOf_goose hgoid

lemma foldl_read_svTable (r : GapReader) :
    ((if app.m_svMap.m_values.isEmpty then []
      else Console.SVStreamSource.printTableHeader ++
        app.svStreams.map Console.SVStreamSource.printTableRow).foldl GapReader.read r).perStream =
      Latest.setAll r.perStream ((app.svStreams.map fun src =>
        (src.m_dmac, max src.getErrSeqNum.toNat src.getErrSpduNum.toNat)).map printedGap) := by
  rw [Console.SVStreamSource.printTableHeader]
  refine foldl_read_table 97 [4, 5] (fun hempty => ?_) ?_ ?_ ?_ (fun src hsrc => ?_) r
  · rw [RxApplication.svStreams, List.isEmpty_iff.mp hempty, List.filterMap_nil]
  · decide +kernel
  · decide +kernel
  · decide +kernel
  · obtain ⟨entry, _, hget⟩ := List.mem_filterMap.mp hsrc
    obtain ⟨n, hsvid⟩ := h.svid src (List.mem_of_getElem? hget)
    exact rowOf_sv hsvid

/-- The reader stores the rows one after the other. -/
lemma foldl_read_displayTables (r : GapReader) :
    (app.displayTables.foldl GapReader.read r).perStream =
      Latest.setAll r.perStream (app.streamGaps.map printedGap) := by
  rw [RxApplication.displayTables, List.foldl_append, foldl_read_svTable h,
    foldl_read_gooseTable h, ← Latest.setAll_append, ← List.map_append, RxApplication.streamGaps]

/-- What `CountGaps` sums up does not overflow. -/
lemma countGaps_eq : app.countGaps.1.toNat + app.countGaps.2.toNat =
    (app.streamGaps.map Prod.snd).sum := by
  have hgoose := h.gooseMap.length_le
  have hsv := h.svMap.length_le
  have hgooseLe : app.gooseStreams.length ≤ _ := List.length_filterMap_le _ _
  have hsvLe : app.svStreams.length ≤ _ := List.length_filterMap_le _ _
  rw [RxApplication.countGaps, RxApplication.streamGaps, List.map_append, List.sum_append,
    toNat_foldl_counts _ _ _ _ (by simp; omega), toNat_foldl_counts _ _ _ _ (by simp; omega)]
  simp [Function.comp_def]

end

/-- What the reader has stored in the end are the rows of the last tables. -/
lemma lastGaps_eq_total {conf : RxConfig} {app : RxApplication} (h : app.Configured)
    {before after : List Text} (hbefore : ∀ line ∈ before, line ∈ conf.cfgTables ∨ Quiet line)
    (hafter : ∀ line ∈ after, Foreign line) :
    lastGaps (before ++ app.displayTables ++ after) =
      Latest.total (Latest.setAll [] (app.streamGaps.map printedGap)) := by
  have hquiet : ∀ line ∈ before, Quiet line := fun line hline =>
    (hbefore line hline).elim (quiet_cfgTables conf line) id
  rw [lastGaps, List.foldl_append, List.foldl_append, perStream_foldl_read hafter,
    foldl_read_displayTables h, foldl_read_quiet hquiet]

lemma printedGap_nonneg {rows : List (MAC × ℕ)} : ∀ row ∈ rows.map printedGap, 0 ≤ row.2 := by
  intro row hrow
  obtain ⟨gap, _, rfl⟩ := List.mem_map.mp hrow
  exact Int.natCast_nonneg _

/-- The test script finds the gaps that `CountGaps` counts exactly if no stream with errors shares
its address with one printed after it. -/
theorem lastGaps_eq_countGaps_iff {conf : RxConfig} {app : RxApplication} (h : app.Configured)
    {before after : List Text} (hbefore : ∀ line ∈ before, line ∈ conf.cfgTables ∨ Quiet line)
    (hafter : ∀ line ∈ after, Foreign line) :
    app.countGaps.1.toNat + app.countGaps.2.toNat = (app.streamGaps.map Prod.snd).sum ∧
      (lastGaps (before ++ app.displayTables ++ after) = (app.streamGaps.map Prod.snd).sum ↔
        app.streamGaps.Pairwise fun row row' => row.1 = row'.1 → row.2 = 0) := by
  refine ⟨countGaps_eq h, ?_⟩
  rw [lastGaps_eq_total h hbefore hafter, ← total_printedGap,
    Latest.total_setAll_nil_eq_iff printedGap_nonneg, List.pairwise_map]
  simp only [printedGap, MAC.toString_injective.eq_iff, Nat.cast_eq_zero]

/-- Two R-GOOSE streams, each of which has lost its first frame. -/
def routableGaps : RxApplication :=
  let conf : RxConfig := { m_confRGooseNum := 2 }
  ((init conf).takeGoose (conf.rGoose 0).getPassport (·.processState {} { stNum := 2 })).takeGoose
    (conf.rGoose 1).getPassport (·.processState {} { stNum := 2 })

/-- Their groups differ, so both gaps are found. -/
theorem lastGaps_eq_countGaps_iff_routable :
    lastGaps (({ m_confRGooseNum := 2 } : RxConfig).cfgTables ++ routableGaps.displayTables ++
        [ascii "END_SUMMARY_PROC"]) = (routableGaps.streamGaps.map Prod.snd).sum ∧
      (routableGaps.streamGaps.map Prod.snd).sum = 2 := by
  have hconfigured : routableGaps.Configured := by
    rw [routableGaps]
    refine RxApplication.Configured.takeGoose (.takeGoose (configured_init _) ?_) ?_
    · exact fun _ => rfl
    · exact fun _ => rfl
  have hcells : cellsOf (ascii "END_SUMMARY_PROC") = [ascii "END_SUMMARY_PROC"] := by
    decide +kernel
  have hforeign : Foreign (ascii "END_SUMMARY_PROC") := by
    refine ⟨quiet_of_cells hcells (by decide +kernel), ?_⟩
    rw [hcells]
    decide +kernel
  refine ⟨(lastGaps_eq_countGaps_iff hconfigured (fun line hline => .inl hline)
    (List.forall_mem_singleton.mpr hforeign)).2.mpr ?_, ?_⟩
  · decide +kernel
  · decide +kernel

/-- Two L2 GOOSE streams, the first of which has lost its first frame. -/
def l2Gaps : RxApplication :=
  let conf : RxConfig := { m_confGooseNum := 2 }
  (init conf).takeGoose (conf.l2Goose 0).getPassport (·.processState {} { stNum := 2 })

/-- All L2 streams have one address, so the second takes the place of the first: `CountGaps` counts
one gap, and the script finds none. -/
theorem lastGaps_misses_l2 : l2Gaps.countGaps = (1, 0) ∧ lastGaps l2Gaps.displayTables = 0 ∧
    ¬ ∀ app : RxApplication, app.Configured →
      lastGaps app.displayTables = (app.streamGaps.map Prod.snd).sum := by
  have hread : lastGaps l2Gaps.displayTables = 0 := by decide +kernel
  have hconfigured : l2Gaps.Configured := by
    rw [l2Gaps]
    refine .takeGoose (configured_init _) ?_
    exact fun _ => rfl
  refine ⟨by decide +kernel, hread, fun hall => ?_⟩
  have hsum := hall l2Gaps hconfigured
  rw [hread] at hsum
  exact absurd hsum (by decide +kernel)

end ProcessBus
