import ProcessBus.Deploy.Logs
import ProcessBus.Generator.Runs
import ProcessBus.Generator.Transmit
import ProcessBus.Lib.Fields

/-!
# The summaries

At the end of a run both applications print a block of totals. `result_parser.sh` looks every field
up in the last block of a log. What it finds is what was printed.
-/

namespace ProcessBus

/-! ### What is printed -/

/-- A tab. -/
def TAB : UInt8 := 0x09

/-- The `=` between a key and its value. -/
def ASSIGN : UInt8 := 0x3D

/-- The label of a line, and the keys and values behind it. -/
abbrev SummaryRow := Text × List (Text × Text)

/-- `"\t{label}\t{key}={}…"` -/
def summaryLine (row : SummaryRow) : Text := TAB :: Fields.row TAB ASSIGN row

/-- A block of totals between its markers. -/
def summaryBlock (role : Text) (rows : List SummaryRow) : List Text :=
  [[], ascii "SUMMARY_" ++ role] ++ rows.map summaryLine ++ [ascii "END_SUMMARY_" ++ role, []]

/-- A total and its key. -/
def total (key : Text) (value : ℕ) : Text × Text := (key, decimal 0 value)

/-- What `rte_eth_stats` counts, as far as it is reported. -/
structure PortStat where
  ipackets : UInt64 := 0
  imissed : UInt64 := 0
  ierrors : UInt64 := 0
  rx_nombuf : UInt64 := 0
  q_errors : UInt64 := 0

/-- The sum of a counter over the streams. -/
def sumOf {α : Type} (count : α → UInt32) (l : List α) : UInt64 :=
  l.foldl (fun sum src => sum + (count src).toUInt64) 0

/-- What the receiver has counted. -/
structure RxResults where
  app : RxApplication
  m_errRingFullCnt : UInt64 := 0
  m_lastPortStat : PortStat := {}

namespace RxResults

variable (res : RxResults)

def gooseErrSeq : UInt64 := sumOf GooseSource.getErrSeqNum res.app.gooseStreams
def gooseErrSpdu : UInt64 := sumOf GooseSource.getErrSpduNum res.app.gooseStreams
def svErrSeq : UInt64 := sumOf SVStreamSource.getErrSeqNum res.app.svStreams
def svErrSpdu : UInt64 := sumOf SVStreamSource.getErrSpduNum res.app.svStreams

/-- The lines between the markers. -/
def summaryRows : List SummaryRow :=
  [(ascii "Received      ", [total (ascii "goose_total") res.app.m_rxGoosePktCnt.toNat,
      total (ascii "sv_total") res.app.m_rxSVPktCnt.toNat]),
    (ascii "Parse errors  ", [total (ascii "goose_parse_err") res.app.m_errGooseParserCnt.toNat,
      total (ascii "sv_parse_err") res.app.m_errSVParserCnt.toNat]),
    (ascii "Unknown APPID ", [total (ascii "goose_unknown") res.app.m_rxUnknownGooseCnt.toNat,
      total (ascii "sv_unknown") res.app.m_rxUnknownSVCnt.toNat]),
    (ascii "Security      ", [total (ascii "auth_fail") res.app.m_errAuthCnt.toNat]),
    (ascii "Stream gaps   ", [total (ascii "goose_err_seq") res.gooseErrSeq.toNat,
      total (ascii "sv_err_smp") res.svErrSeq.toNat]),
    (ascii "SPDU gaps     ", [total (ascii "goose_err_spdu") res.gooseErrSpdu.toNat,
      total (ascii "sv_err_spdu") res.svErrSpdu.toNat]),
    (ascii "Worker ring   ", [total (ascii "ring_full") res.m_errRingFullCnt.toNat]),
    (ascii "NIC counters  ", [total (ascii "rx_packets") res.m_lastPortStat.ipackets.toNat,
      total (ascii "imissed") res.m_lastPortStat.imissed.toNat,
      total (ascii "ierrors") res.m_lastPortStat.ierrors.toNat]),
    (ascii "              ", [total (ascii "rx_nombuf") res.m_lastPortStat.rx_nombuf.toNat,
      total (ascii "q_errors") res.m_lastPortStat.q_errors.toNat])]

/-- `RX_Application::DisplayResults` -/
def displayResults : List Text :=
  [[]] ++ res.app.displayTables ++ summaryBlock (ascii "PROC") res.summaryRows

end RxResults

/-- What the workers of the generator have counted. What comes from the clock is given as text. -/
structure GenResults where
  m_stats : List GenAppStat
  m_burst : Bool := false
  /-- The table of the loops. -/
  table : List Text := []
  loadPerc : Text
  minProcUS : Text
  maxProcUS : Text

namespace GenResults

variable (res : GenResults)

def errSend : UInt32 := res.m_stats.foldl (fun sum s => sum + s.errSendCnt) 0
def txPkt : UInt64 := res.m_stats.foldl (fun sum s => sum + s.txPktCnt) 0
def retries : UInt64 := res.m_stats.foldl (fun sum s => sum + s.txRetryCnt) 0
def late : UInt64 := res.m_stats.foldl (fun sum s => sum + s.txLateCnt) 0

/-- The lines between the markers. The last one is there in burst mode only. -/
def summaryRows : List SummaryRow :=
  [(ascii "Sent          ", [total (ascii "tx_packets") res.txPkt.toNat]),
    (ascii "TX ring full  ", [total (ascii "err_send") res.errSend.toNat]),
    (ascii "Busiest loop  ", [(ascii "load_pct", res.loadPerc), (ascii "min_us", res.minProcUS),
      (ascii "max_us", res.maxProcUS)])] ++
  if res.m_burst then
    [(ascii "Burst pacing  ", [total (ascii "tx_retry") res.retries.toNat,
      total (ascii "tx_late") res.late.toNat])]
  else []

/-- `GenApplication::DisplayResults` -/
def displayResults : List Text := res.table ++ summaryBlock (ascii "GEN") res.summaryRows

end GenResults

/-! ### How it is read -/

/-- `SUMMARY_(GEN|PROC)` -/
def summaryMarks : List Text := [ascii "SUMMARY_GEN", ascii "SUMMARY_PROC"]

/-- `END_SUMMARY_(GEN|PROC)` -/
def endMarks : List Text := [ascii "END_SUMMARY_GEN", ascii "END_SUMMARY_PROC"]

/-- `[ \t]` -/
def isSeparator (b : UInt8) : Bool := b = SPACE || b = TAB

/-- `^SUMMARY_(GEN|PROC)[ \t]` -/
def isInlineSummary (line : Text) : Bool :=
  summaryMarks.any fun mark => [SPACE, TAB].any fun b => (mark ++ [b]).isPrefixOf line

/-- What the script in `summary_field` remembers between two lines. -/
structure SummaryReader where
  last : Text := []
  inblk : Bool := false
  blk : Text := []

/-- One line. -/
def SummaryReader.read (r : SummaryReader) (line : Text) : SummaryReader :=
  if isInlineSummary line then { r with last := line, inblk := false }
  else if summaryMarks.contains line then { r with inblk := true, blk := [] }
  else if endMarks.contains line then
    if r.inblk then { r with last := r.blk, inblk := false } else r
  else if r.inblk then { r with blk := r.blk ++ SPACE :: line }
  else r

/-- The block that counts: an unfinished one at the end of the log, too. -/
def SummaryReader.result (r : SummaryReader) : Text :=
  if r.inblk && r.blk ≠ [] then r.blk else r.last

/-- `summary_field` with the default `0`. -/
def summaryField (log : LogFile) (key : Text) : Text :=
  match log with
  | none => ascii "0"
  | some log =>
    match Fields.lookup isSeparator ASSIGN key (log.foldl SummaryReader.read {}).result with
    | none | some [] => ascii "0"
    | some value => value

/-- The number in the summary that is made of it. -/
def summaryCount (log : LogFile) (key : Text) : ℕ := decimalValue (summaryField log key)

/-! ### Reading a block -/

/-- A line that begins no block. -/
structure NoBlock (line : Text) : Prop where
  inline : isInlineSummary line = false
  mark : ¬ summaryMarks.contains line = true

namespace SummaryReader

variable {r : SummaryReader} {line : Text} {lines : List Text} {rows : List SummaryRow}

/-- Outside of a block nothing is read. -/
lemma foldl_read_noBlock (h : ∀ line ∈ lines, NoBlock line) (hinblk : r.inblk = false) :
    lines.foldl read r = r := by
  induction lines with
  | nil => rfl
  | cons line lines ih =>
    rw [List.forall_mem_cons] at h
    have hread : r.read line = r := by
      rw [read, h.1.inline, if_neg Bool.false_ne_true, if_neg h.1.mark, hinblk]
      simp
    rw [List.foldl_cons, hread, ih h.2]

/-- A line that begins with a tab is no marker. -/
lemma read_summaryLine (last blk : Text) (row : SummaryRow) :
    (⟨last, true, blk⟩ : SummaryReader).read (summaryLine row) =
      ⟨last, true, blk ++ SPACE :: summaryLine row⟩ := by
  have hinline : isInlineSummary (summaryLine row) = false := rfl
  have hmark : ¬ summaryMarks.contains (summaryLine row) = true := by
    simp [summaryLine, summaryMarks, TAB, ascii]
  have hend : ¬ endMarks.contains (summaryLine row) = true := by
    simp [summaryLine, endMarks, TAB, ascii]
  rw [read, hinline, if_neg Bool.false_ne_true, if_neg hmark, if_neg hend]
  rfl

lemma foldl_read_summaryLines (last blk : Text) :
    (rows.map summaryLine).foldl read ⟨last, true, blk⟩ =
      ⟨last, true, blk ++ Fields.block SPACE TAB ASSIGN rows⟩ := by
  induction rows generalizing blk with
  | nil => simp [Fields.block]
  | cons row rows ih =>
    rw [List.map_cons, List.foldl_cons, read_summaryLine, ih]
    simp [Fields.block, summaryLine]

/-- After its last line, a block is what counts. -/
lemma foldl_read_summaryBlock {role : Text} (hrole : role = ascii "GEN" ∨ role = ascii "PROC") :
    (summaryBlock role rows).foldl read r =
      { last := Fields.block SPACE TAB ASSIGN rows, inblk := false,
        blk := Fields.block SPACE TAB ASSIGN rows } := by
  have hmark : isInlineSummary (ascii "SUMMARY_" ++ role) = false ∧
      summaryMarks.contains (ascii "SUMMARY_" ++ role) = true := by
    rcases hrole with rfl | rfl <;> decide +kernel
  have hend : NoBlock (ascii "END_SUMMARY_" ++ role) ∧
      endMarks.contains (ascii "END_SUMMARY_" ++ role) = true := by
    rcases hrole with rfl | rfl <;>
      exact ⟨⟨by decide +kernel, by decide +kernel⟩, by decide +kernel⟩
  have hempty : NoBlock [] := ⟨by decide +kernel, by decide +kernel⟩
  have hopen : (r.read []).read (ascii "SUMMARY_" ++ role) =
      { last := r.last, inblk := true, blk := [] } := by
    have hlast : (r.read []).last = r.last := by
      rw [read, hempty.inline, if_neg Bool.false_ne_true, if_neg hempty.mark,
        if_neg (by decide +kernel : ¬ endMarks.contains [] = true)]
      split_ifs <;> rfl
    rw [read, hmark.1, if_neg Bool.false_ne_true, if_pos hmark.2, hlast]
  have hclose : ∀ blk : Text, (⟨r.last, true, blk⟩ : SummaryReader).read
      (ascii "END_SUMMARY_" ++ role) = ⟨blk, false, blk⟩ := by
    intro blk
    rw [read, hend.1.inline, if_neg Bool.false_ne_true, if_neg hend.1.mark, if_pos hend.2]
    rfl
  have hopened : [[], ascii "SUMMARY_" ++ role].foldl read r = ⟨r.last, true, []⟩ := hopen
  rw [summaryBlock, List.foldl_append, List.foldl_append, hopened, foldl_read_summaryLines,
    List.foldl_cons, List.nil_append, hclose]
  exact foldl_read_noBlock (List.forall_mem_singleton.mpr hempty) rfl

end SummaryReader

/-- Rows that can be read back. -/
structure Readable (rows : List SummaryRow) : Prop where
  labels : ∀ row ∈ rows, ASSIGN ∉ row.1
  items : ∀ row ∈ rows, ∀ t ∈ row.2, Fields.Wordly isSeparator ASSIGN t
  values : ∀ row ∈ rows, ∀ t ∈ row.2, t.2 ≠ []
  keys : ((rows.flatMap Prod.snd).map Prod.fst).Nodup

/-- A field in the last block of a log is found. -/
lemma summaryField_block {role : Text} (hrole : role = ascii "GEN" ∨ role = ascii "PROC")
    {rows : List SummaryRow} (hrows : Readable rows) {before after : List Text}
    (hafter : ∀ line ∈ after, NoBlock line) {row : SummaryRow} (hrow : row ∈ rows)
    {t : Text × Text} (ht : t ∈ row.2) :
    summaryField (some (before ++ summaryBlock role rows ++ after)) t.1 = t.2 := by
  have hresult : ((before ++ summaryBlock role rows ++ after).foldl SummaryReader.read {}).result =
      Fields.block SPACE TAB ASSIGN rows := by
    rw [List.foldl_append, List.foldl_append, SummaryReader.foldl_read_summaryBlock hrole,
      SummaryReader.foldl_read_noBlock hafter rfl]
    rfl
  have hlookup : Fields.lookup isSeparator ASSIGN t.1 (Fields.block SPACE TAB ASSIGN rows) =
      some t.2 := Fields.lookup_block rfl rfl rfl hrows.labels hrows.items hrows.keys
    (List.mem_flatMap.mpr ⟨row, hrow, ht⟩)
  have hvalue := hrows.values row hrow t ht
  rw [summaryField]
  simp only [hresult, hlookup]

/-! ### What the applications print is readable -/

lemma isSeparator_decimal (w n : ℕ) : ∀ b ∈ decimal w n, isSeparator b = false := by
  intro b hb
  obtain ⟨hge, hle⟩ := mem_decimal hb
  rw [isSeparator, Bool.or_eq_false_iff, decide_eq_false_iff_not, decide_eq_false_iff_not]
  constructor
  · rintro rfl
    exact absurd hge (by decide)
  · rintro rfl
    exact absurd hge (by decide)

/-- Keys as they are chosen: with no separator and no `=`. -/
def IsKey (key : Text) : Prop := ∀ b ∈ key, isSeparator b = false ∧ b ≠ ASSIGN

instance (key : Text) : Decidable (IsKey key) := List.decidableBAll _ key

/-- The labels and the keys of some rows. -/
def frameOf (rows : List SummaryRow) : List (Text × List Text) :=
  rows.map fun row => (row.1, row.2.map Prod.fst)

/-- Labels and keys that can be read back. -/
def Legible (frame : List (Text × List Text)) : Prop :=
  (∀ row ∈ frame, ASSIGN ∉ row.1 ∧ ∀ key ∈ row.2, IsKey key) ∧ (frame.flatMap Prod.snd).Nodup

instance (frame : List (Text × List Text)) : Decidable (Legible frame) :=
  inferInstanceAs (Decidable (_ ∧ _))

/-- A value that can be read back. -/
def IsValue (value : Text) : Prop := value ≠ [] ∧ ∀ b ∈ value, isSeparator b = false

lemma isValue_total (key : Text) (n : ℕ) : IsValue (total key n).2 :=
  ⟨decimal_ne_nil 0 n, isSeparator_decimal 0 n⟩

lemma readable_of_legible {rows : List SummaryRow} (h : Legible (frameOf rows))
    (hvalues : ∀ row ∈ rows, ∀ t ∈ row.2, IsValue t.2) : Readable rows := by
  have hrow : ∀ row ∈ rows, ASSIGN ∉ row.1 ∧ ∀ t ∈ row.2, IsKey t.1 := by
    intro row hrow
    have hframe := h.1 _ (List.mem_map_of_mem hrow)
    exact ⟨hframe.1, fun t ht => hframe.2 _ (List.mem_map_of_mem ht)⟩
  have hkeys : (rows.flatMap Prod.snd).map Prod.fst = (frameOf rows).flatMap Prod.snd := by
    rw [frameOf, List.flatMap_map, List.map_flatMap]
  refine ⟨fun row hmem => (hrow row hmem).1,
    fun row hmem t ht => ⟨(hrow row hmem).2 t ht, (hvalues row hmem t ht).2⟩,
    fun row hmem t ht => (hvalues row hmem t ht).1, ?_⟩
  rw [hkeys]
  exact h.2

lemma RxResults.readable (res : RxResults) : Readable res.summaryRows := by
  have hframe : frameOf res.summaryRows = frameOf ({ app := {} } : RxResults).summaryRows := rfl
  apply readable_of_legible
  · rw [hframe]
    decide +kernel
  · simp only [summaryRows, List.forall_mem_cons, List.not_mem_nil, IsEmpty.forall_iff,
      implies_true, isValue_total, and_self]

/-- The texts from the clock are numbers. -/
structure GenResults.Printed (res : GenResults) : Prop where
  loadPerc : IsValue res.loadPerc
  minProcUS : IsValue res.minProcUS
  maxProcUS : IsValue res.maxProcUS

lemma GenResults.readable {res : GenResults} (h : res.Printed) : Readable res.summaryRows := by
  have hframe : frameOf res.summaryRows =
      frameOf (GenResults.mk [] res.m_burst [] [] [] []).summaryRows := by
    cases hburst : res.m_burst <;> simp only [summaryRows, hburst] <;> rfl
  apply readable_of_legible
  · rw [hframe]
    cases res.m_burst <;> decide +kernel
  · have hburst : ∀ row ∈ (if res.m_burst then [(ascii "Burst pacing  ",
        [total (ascii "tx_retry") res.retries.toNat, total (ascii "tx_late") res.late.toNat])]
        else []), ∀ t ∈ row.2, IsValue t.2 := by
      split_ifs
      · simp only [List.forall_mem_cons, List.not_mem_nil, IsEmpty.forall_iff, implies_true,
          isValue_total, and_self]
      · exact nofun
    simp only [summaryRows, List.forall_mem_append, List.forall_mem_cons, List.not_mem_nil,
      IsEmpty.forall_iff, implies_true, isValue_total, h.loadPerc, h.minProcUS, h.maxProcUS,
      and_self, true_and]
    exact hburst

/-- The line of the runner begins no block. -/
lemma noBlock_statusLine (rc : ℕ) : NoBlock (statusLine rc) := by
  refine ⟨rfl, ?_⟩
  simp [statusLine, statusMark, summaryMarks, ascii]

section Found

variable {before after : List Text} {row : SummaryRow} {t : Text × Text}

lemma RxResults.summaryField_eq (res : RxResults) (hafter : ∀ line ∈ after, NoBlock line)
    (hrow : row ∈ res.summaryRows) (ht : t ∈ row.2) :
    summaryField (some (before ++ res.displayResults ++ after)) t.1 = t.2 := by
  rw [displayResults, ← List.append_assoc]
  exact summaryField_block (.inr rfl) res.readable hafter hrow ht

/-- The total at some place of the block. -/
lemma RxResults.summaryField_total (res : RxResults) (hafter : ∀ line ∈ after, NoBlock line)
    {key : Text} {n : ℕ} (k : ℕ)
    (hk : (res.summaryRows.flatMap Prod.snd)[k]? = some (total key n)) :
    summaryField (some (before ++ res.displayResults ++ after)) key = decimal 0 n := by
  obtain ⟨row, hrow, ht⟩ := List.mem_flatMap.mp (List.mem_of_getElem? hk)
  exact res.summaryField_eq hafter hrow ht

lemma GenResults.summaryField_eq {res : GenResults} (hres : res.Printed)
    (hafter : ∀ line ∈ after, NoBlock line) (hrow : row ∈ res.summaryRows) (ht : t ∈ row.2) :
    summaryField (some (before ++ res.displayResults ++ after)) t.1 = t.2 := by
  rw [displayResults, ← List.append_assoc]
  exact summaryField_block (.inl rfl) (readable hres) hafter hrow ht

end Found

/-- What the applications print in the end is what `result_parser.sh` finds, wherever the log begins
and whatever comes behind, as long as no other block begins there. -/
theorem summaryField_displayResults (before : List Text) {after : List Text}
    (hafter : ∀ line ∈ after, NoBlock line) :
    (∀ (res : RxResults), ∀ row ∈ res.summaryRows, ∀ t ∈ row.2,
      summaryField (some (before ++ res.displayResults ++ after)) t.1 = t.2) ∧
    ∀ res : GenResults, res.Printed → ∀ row ∈ res.summaryRows, ∀ t ∈ row.2,
      summaryField (some (before ++ res.displayResults ++ after)) t.1 = t.2 := by
  constructor
  · intro res row hrow t ht
    exact res.summaryField_eq hafter hrow ht
  · intro res hres row hrow t ht
    exact GenResults.summaryField_eq hres hafter hrow ht

/-- A generator with one worker that had nothing to do. -/
def sampleGenResults : GenResults where
  m_stats := [{}]
  loadPerc := ascii "0.000"
  minProcUS := ascii "0"
  maxProcUS := ascii "0"

lemma printed_sampleGenResults : sampleGenResults.Printed :=
  ⟨⟨by decide +kernel, by decide +kernel⟩, ⟨by decide +kernel, by decide +kernel⟩,
    ⟨by decide +kernel, by decide +kernel⟩⟩

theorem summaryField_displayResults_sample :
    let res : RxResults := { app := {}, m_errRingFullCnt := 31 }
    summaryField (some (res.displayResults ++ [statusLine 0])) (ascii "ring_full") = decimal 0 31 ∧
      summaryField (some (sampleGenResults.displayResults ++ [statusLine 0])) (ascii "load_pct") =
        ascii "0.000" := by
  intro res
  have hafter : ∀ line ∈ [statusLine 0], NoBlock line :=
    List.forall_mem_singleton.mpr (noBlock_statusLine 0)
  have hrow : (ascii "Worker ring   ", [total (ascii "ring_full") 31]) ∈ res.summaryRows :=
    List.mem_of_getElem? (i := 6) rfl
  have hgenRow : (ascii "Busiest loop  ", [(ascii "load_pct", ascii "0.000"),
      (ascii "min_us", ascii "0"), (ascii "max_us", ascii "0")]) ∈ sampleGenResults.summaryRows :=
    List.mem_of_getElem? (i := 2) rfl
  have h := summaryField_displayResults [] hafter
  have hproc := h.1 res _ hrow _ (.head _)
  have hgen := h.2 sampleGenResults printed_sampleGenResults _ hgenRow _ (.head _)
  rw [List.nil_append] at hproc hgen
  exact ⟨hproc, hgen⟩

/-! ### Passed or failed -/

/-- `[ "$value" -gt 0 ]`: false for what is no number, or none of 64 bits. -/
def gtZero (value : Text) : Bool :=
  value.all isDigit && 0 < decimalValue value && decimalValue value < 2 ^ 63

/-- `grep -q "^$mark$"` -/
def hasMark (log : LogFile) (mark : Text) : Bool := (log.getD []).contains mark

/-- The totals of the receiver that must be zero, and what they are called in the reason. -/
def procGates : List (Text × Text) :=
  [(ascii "goose_err_seq", ascii "goose_seq_err"), (ascii "sv_err_smp", ascii "sv_smp_err"),
    (ascii "goose_err_spdu", ascii "goose_spdu_err"), (ascii "sv_err_spdu", ascii "sv_spdu_err"),
    (ascii "auth_fail", ascii "auth_fail"), (ascii "goose_parse_err", ascii "goose_parse_err"),
    (ascii "sv_parse_err", ascii "sv_parse_err"), (ascii "ring_full", ascii "ring_full"),
    (ascii "imissed", ascii "imissed"), (ascii "ierrors", ascii "ierrors"),
    (ascii "rx_nombuf", ascii "rx_nombuf"), (ascii "q_errors", ascii "q_errors")]

def genGates : List (Text × Text) := [(ascii "err_send", ascii "gen_send_err")]

/-- What one `add_fail` adds. -/
def failOf (log : LogFile) (gate : Text × Text) : Option Text :=
  let value := summaryField log gate.1
  if gtZero value then some (gate.2 ++ ASSIGN :: value) else none

/-- `fail_reason`, without the latencies: the run has passed if there is none. -/
def failReasons (gen_log proc_log : LogFile) : List Text :=
  (if hasMark gen_log (ascii "END_SUMMARY_GEN") then []
    else [ascii "generator summary missing"]) ++
  (if hasMark proc_log (ascii "END_SUMMARY_PROC") then []
    else [ascii "processor summary missing"]) ++
  procGates.filterMap (failOf proc_log) ++ genGates.filterMap (failOf gen_log)

/-- A counter that is zero, or beyond what the shell can compare. -/
def Passes (n : ℕ) : Prop := n = 0 ∨ 2 ^ 63 ≤ n

lemma failOf_eq_none_iff {log : LogFile} {gate : Text × Text} {n : ℕ}
    (h : summaryField log gate.1 = decimal 0 n) : failOf log gate = none ↔ Passes n := by
  have hdigits : (decimal 0 n).all isDigit = true :=
    List.all_eq_true.mpr fun b hb => isDigit_of_mem_decimal hb
  have hgt : gtZero (decimal 0 n) = true ↔ ¬ Passes n := by
    rw [gtZero, hdigits, decimalValue_decimal, Bool.true_and, Bool.and_eq_true, decide_eq_true_eq,
      decide_eq_true_eq, Passes, not_or, not_le, Nat.pos_iff_ne_zero]
  rw [failOf, h]
  simp only [ite_eq_right_iff, reduceCtorEq, imp_false, hgt, not_not]

/-- The sum of a few 32-bit counters does not overflow. -/
lemma toNat_sumOf {α : Type} (count : α → UInt32) {l : List α} (h : l.length ≤ 65536) :
    (sumOf count l).toNat = (l.map fun src => (count src).toNat).sum := by
  have hself : ∀ a : UInt32, max a a = a := fun a => ite_self a
  have hsum := toNat_foldl_counts count count l 0 (by simp; omega)
  simp only [hself, max_self] at hsum
  exact hsum.trans (Nat.zero_add _)

/-- It is zero only if all of them are. -/
lemma toNat_sumOf_eq_zero_iff {α : Type} {count : α → UInt32} {l : List α}
    (h : l.length ≤ 65536) : (sumOf count l).toNat = 0 ↔ ∀ src ∈ l, count src = 0 := by
  rw [toNat_sumOf count h]
  simp [List.sum_eq_zero_iff, ← UInt32.toNat_inj]

/-- So it passes only if all of them are zero. -/
lemma passes_sumOf_iff {α : Type} {count : α → UInt32} {l : List α} (h : l.length ≤ 65536) :
    Passes (sumOf count l).toNat ↔ ∀ src ∈ l, count src = 0 := by
  have hbound : (sumOf count l).toNat ≤ l.length * 2 ^ 32 := by
    rw [toNat_sumOf count h]
    have hle := List.sum_le_card_nsmul (l.map fun src => (count src).toNat) (2 ^ 32) ?_
    · simpa using hle
    · intro n hn
      obtain ⟨src, _, rfl⟩ := List.mem_map.mp hn
      exact (count src).toNat_lt.le
  rw [Passes, ← toNat_sumOf_eq_zero_iff h, or_iff_left (by omega)]

/-- No stream of the receiver has lost anything. -/
structure RxApplication.Gapless (app : RxApplication) : Prop where
  goose : ∀ src ∈ app.gooseStreams, src.getErrSeqNum = 0 ∧ src.getErrSpduNum = 0
  sv : ∀ src ∈ app.svStreams, src.getErrSeqNum = 0 ∧ src.getErrSpduNum = 0

lemma RxApplication.Configured.length_le {app : RxApplication} (h : app.Configured) :
    app.gooseStreams.length ≤ 65536 ∧ app.svStreams.length ≤ 65536 :=
  ⟨(List.length_filterMap_le _ _).trans h.gooseMap.length_le,
    (List.length_filterMap_le _ _).trans h.svMap.length_le⟩

lemma RxApplication.gapless_iff {app : RxApplication} : app.Gapless ↔
    (∀ src ∈ app.gooseStreams, src.getErrSeqNum = 0) ∧
      (∀ src ∈ app.svStreams, src.getErrSeqNum = 0) ∧
      (∀ src ∈ app.gooseStreams, src.getErrSpduNum = 0) ∧
      ∀ src ∈ app.svStreams, src.getErrSpduNum = 0 := by
  constructor
  · intro hgaps
    exact ⟨fun src hsrc => (hgaps.goose src hsrc).1, fun src hsrc => (hgaps.sv src hsrc).1,
      fun src hsrc => (hgaps.goose src hsrc).2, fun src hsrc => (hgaps.sv src hsrc).2⟩
  · rintro ⟨hseq, hsmp, hspdu, hsvSpdu⟩
    exact ⟨fun src hsrc => ⟨hseq src hsrc, hspdu src hsrc⟩,
      fun src hsrc => ⟨hsmp src hsrc, hsvSpdu src hsrc⟩⟩

/-- The four sums are the gaps of the streams. -/
lemma RxResults.passes_gaps_iff {res : RxResults} (h : res.app.Configured) :
    (Passes res.gooseErrSeq.toNat ∧ Passes res.svErrSeq.toNat ∧ Passes res.gooseErrSpdu.toNat ∧
      Passes res.svErrSpdu.toNat) ↔ res.app.Gapless := by
  rw [gooseErrSeq, svErrSeq, gooseErrSpdu, svErrSpdu, passes_sumOf_iff h.length_le.1,
    passes_sumOf_iff h.length_le.2, passes_sumOf_iff h.length_le.1, passes_sumOf_iff h.length_le.2,
    RxApplication.gapless_iff]

/-- Nothing else went wrong with a frame. -/
structure RxResults.Faultless (res : RxResults) : Prop where
  auth : Passes res.app.m_errAuthCnt.toNat
  gooseParser : Passes res.app.m_errGooseParserCnt.toNat
  svParser : Passes res.app.m_errSVParserCnt.toNat
  ringFull : Passes res.m_errRingFullCnt.toNat
  imissed : Passes res.m_lastPortStat.imissed.toNat
  ierrors : Passes res.m_lastPortStat.ierrors.toNat
  rx_nombuf : Passes res.m_lastPortStat.rx_nombuf.toNat
  q_errors : Passes res.m_lastPortStat.q_errors.toNat

lemma hasMark_summaryBlock {role : Text} {rows : List SummaryRow} {before after : List Text} :
    hasMark (some (before ++ summaryBlock role rows ++ after)) (ascii "END_SUMMARY_" ++ role) =
      true := by
  simp [hasMark, summaryBlock]

section Main

variable {before before' after after' : List Text} {res : RxResults} {gen : GenResults}

lemma procGates_pass_iff (h : res.app.Configured) (hafter : ∀ line ∈ after, NoBlock line) :
    procGates.filterMap (failOf (some (before ++ res.displayResults ++ after))) = [] ↔
      res.app.Gapless ∧ res.Faultless := by
  have hfail : ∀ {key name : Text} {n : ℕ} (k : ℕ),
      (res.summaryRows.flatMap Prod.snd)[k]? = some (total key n) →
      (failOf (some (before ++ res.displayResults ++ after)) (key, name) = none ↔ Passes n) := by
    intro key name n k hk
    apply failOf_eq_none_iff
    exact res.summaryField_total hafter k hk
  simp only [procGates, List.filterMap_eq_nil_iff, List.forall_mem_cons, List.not_mem_nil,
    IsEmpty.forall_iff, implies_true, and_true]
  rw [hfail 7 rfl, hfail 8 rfl, hfail 9 rfl, hfail 10 rfl, hfail 6 rfl, hfail 2 rfl, hfail 3 rfl,
    hfail 11 rfl, hfail 13 rfl, hfail 14 rfl, hfail 15 rfl, hfail 16 rfl,
    ← RxResults.passes_gaps_iff h]
  constructor
  · rintro ⟨hseq, hsmp, hspdu, hsvSpdu, hauth, hgoose, hsv, hring, hmissed, herrors, hnombuf, hq⟩
    exact ⟨⟨hseq, hsmp, hspdu, hsvSpdu⟩,
      ⟨hauth, hgoose, hsv, hring, hmissed, herrors, hnombuf, hq⟩⟩
  · rintro ⟨⟨hseq, hsmp, hspdu, hsvSpdu⟩, hfault⟩
    exact ⟨hseq, hsmp, hspdu, hsvSpdu, hfault.auth, hfault.gooseParser, hfault.svParser,
      hfault.ringFull, hfault.imissed, hfault.ierrors, hfault.rx_nombuf, hfault.q_errors⟩

lemma genGates_pass_iff (hgen : gen.Printed) (hafter : ∀ line ∈ after, NoBlock line) :
    genGates.filterMap (failOf (some (before ++ gen.displayResults ++ after))) = [] ↔
      gen.errSend = 0 := by
  have hrow : (ascii "TX ring full  ", [total (ascii "err_send") gen.errSend.toNat]) ∈
      gen.summaryRows := .tail _ (.head _)
  have hfail : failOf (some (before ++ gen.displayResults ++ after))
      (ascii "err_send", ascii "gen_send_err") = none ↔ Passes gen.errSend.toNat := by
    apply failOf_eq_none_iff
    exact GenResults.summaryField_eq hgen hafter hrow (.head _)
  have hsmall : ¬ 2 ^ 63 ≤ gen.errSend.toNat := by
    have := gen.errSend.toNat_lt
    omega
  rw [genGates, List.filterMap_eq_nil_iff, List.forall_mem_singleton, hfail, Passes,
    or_iff_left hsmall]
  exact @UInt32.toNat_inj gen.errSend 0

/-- The JSON summary of a run says `"pass": true` exactly if both applications have printed their
totals, no stream has a gap, and every counter of lost or rejected frames is zero. -/
theorem passed_iff (fuel : ℕ) (crypto : RSess.Crypto) (conf : RxConfig)
    (bursts : List (List RxFrame)) (ringFull : UInt64) (port : PortStat) (hgen : gen.Printed)
    (hafter : ∀ line ∈ after, NoBlock line) (hafter' : ∀ line ∈ after', NoBlock line) :
    let res : RxResults := ⟨runBursts fuel crypto (init conf) bursts, ringFull, port⟩
    failReasons (some (before ++ gen.displayResults ++ after))
      (some (before' ++ res.displayResults ++ after')) = [] ↔
      res.app.Gapless ∧ res.Faultless ∧ gen.errSend = 0 := by
  intro res
  have hgenMark : hasMark (some (before ++ gen.displayResults ++ after))
      (ascii "END_SUMMARY_GEN") = true := by
    rw [GenResults.displayResults, ← List.append_assoc]
    exact hasMark_summaryBlock
  have hprocMark : hasMark (some (before' ++ res.displayResults ++ after'))
      (ascii "END_SUMMARY_PROC") = true := by
    rw [RxResults.displayResults, ← List.append_assoc]
    exact hasMark_summaryBlock
  rw [failReasons, if_pos hgenMark, if_pos hprocMark, List.append_nil, List.nil_append,
    List.append_eq_nil_iff, genGates_pass_iff hgen hafter,
    procGates_pass_iff (configured_runBursts fuel crypto conf bursts) hafter', and_assoc]

/-- A receiver with one stream gets its first frame, or only its second one. -/
theorem passed_iff_sample :
    let app := fun stNum : UInt8 => runBursts 100 sampleRunCrypto
      (init { m_confGooseNum := 1, m_gooseEntries := 1 }) [[sampleGooseRx 0 stNum]]
    let reasons := fun app : RxApplication =>
      failReasons (some (sampleGenResults.displayResults ++ [statusLine 0]))
        (some ((RxResults.mk app 0 {}).displayResults ++ [statusLine 0]))
    reasons (app 1) = [] ∧ reasons (app 2) ≠ [] := by
  intro app reasons
  have hafter : ∀ line ∈ [statusLine 0], NoBlock line :=
    List.forall_mem_singleton.mpr (noBlock_statusLine 0)
  have h := fun stNum => @passed_iff [] [] _ _ _ 100 sampleRunCrypto
    { m_confGooseNum := 1, m_gooseEntries := 1 } [[sampleGooseRx 0 stNum]] 0 {}
    printed_sampleGenResults hafter hafter
  constructor
  · have hcounters : (app 1).m_errAuthCnt = 0 ∧ (app 1).m_errGooseParserCnt = 0 ∧
        (app 1).m_errSVParserCnt = 0 := by
      dsimp only [app]
      decide +kernel
    obtain ⟨hauth, hgoose, hsv⟩ := hcounters
    refine (h 1).mpr ⟨RxApplication.gapless_iff.mpr (by decide +kernel), ?_, rfl⟩
    exact ⟨.inl (congrArg UInt64.toNat hauth), .inl (congrArg UInt64.toNat hgoose),
      .inl (congrArg UInt64.toNat hsv), .inl rfl, .inl rfl, .inl rfl, .inl rfl, .inl rfl⟩
  · intro hpassed
    have hgap := (RxApplication.gapless_iff.mp ((h 2).mp hpassed).1).1
    revert hgap
    decide +kernel

end Main

end ProcessBus
