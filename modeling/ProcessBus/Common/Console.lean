import ProcessBus.Common.Naming
import ProcessBus.Lib.Columns

/-!
# The printed tables

`console_tables.hpp`: the receiver prints the sources it sets up, and in the end what it counted for
each. A table is a list of lines, a line the list of its ASCII characters without the end of line.
-/

namespace ProcessBus

abbrev Text := List UInt8

/-! ### Columns -/

/-- A space. -/
def SPACE : UInt8 := 0x20

/-- The `|` between two columns. -/
def BAR : UInt8 := 0x7C

/-- The blanks Python strips: tab to carriage return, the four separators and the space. -/
def isBlank (b : UInt8) : Bool := (0x09 ≤ b && b ≤ 0x0D) || (0x1C ≤ b && b ≤ 0x20)

/-- `" {:<w} | … | {:<w} |"`, with the widths beside the arguments. -/
def formatCfgRow (columns : List (ℕ × Text)) : Text := Columns.row SPACE BAR columns

/-- `"{:<w} | … | {:<w} |"` -/
def formatRow (columns : List (ℕ × Text)) : Text := (formatCfgRow columns).tail

/-- A text that is read back from a column. -/
abbrev Plain (text : Text) : Prop := Columns.Plain isBlank BAR text

instance (text : Text) : Decidable (Plain text) :=
  inferInstanceAs (Decidable (∀ a ∈ text, a ≠ BAR ∧ isBlank a = false))

lemma Plain.append {s t : Text} (hs : Plain s) (ht : Plain t) : Plain (s ++ t) := fun _ ha =>
  (List.mem_append.mp ha).elim (hs _) (ht _)

@[simp] lemma plain_decimal (w n : ℕ) : Plain (decimal w n) := by
  intro b hb
  obtain ⟨hge, hle⟩ := mem_decimal hb
  have hb : b.toNat < 58 → 48 ≤ b.toNat → b ≠ BAR ∧ isBlank b = false := by
    simp only [isBlank, BAR, ne_eq, ← UInt8.toNat_inj, UInt8.le_iff_toNat_le, Bool.or_eq_false_iff,
      Bool.and_eq_false_iff, decide_eq_false_iff_not]
    simp
    omega
  exact hb (by omega) (by omega)

@[simp] lemma plain_goIdName (n : ℕ) : Plain (goIdName n) :=
  .append (by decide +kernel) (plain_decimal 8 n)

@[simp] lemma plain_dataSetName (n : ℕ) : Plain (dataSetName n) :=
  .append (.append (by decide +kernel) (plain_decimal 8 n)) (by decide +kernel)

@[simp] lemma plain_gocbName (n : ℕ) : Plain (gocbName n) :=
  .append (.append (by decide +kernel) (plain_decimal 8 n)) (by decide +kernel)

@[simp] lemma plain_svIdName (n : ℕ) : Plain (svIdName n) :=
  .append (by decide +kernel) (plain_decimal 4 n)

/-! ### Addresses -/

/-- One digit of `{:X}`. -/
def hexDigit (n : ℕ) : UInt8 := UInt8.ofNat (if n < 10 then 0x30 + n else 0x37 + n)

/-- `{:02X}` -/
def hexOctet (b : UInt8) : Text := [hexDigit (b.toNat / 16), hexDigit (b.toNat % 16)]

/-- The octets in hexadecimal, with colons between them. -/
def MAC.toString (mac : MAC) : Text := [0x3A].intercalate (mac.m_mac.map hexOctet)

example : L2_GOOSE_MAC.toString = ascii "01:0C:CD:04:00:01" := by decide +kernel

lemma hexOctet_injective : Function.Injective hexOctet := by
  have hdigit : ∀ i < 16, ∀ j < 16, hexDigit i = hexDigit j → i = j := by decide +kernel
  intro a b h
  have ha := a.toNat_lt
  have hb := b.toNat_lt
  rw [hexOctet, hexOctet, List.cons.injEq, List.cons.injEq] at h
  have hhigh := hdigit _ (by omega) _ (by omega) h.1
  have hlow := hdigit _ (by omega) _ (by omega) h.2.1
  exact UInt8.toNat_inj.mp (by omega)

/-- The octets one by one. -/
lemma MAC.toString_eq (mac : MAC) : ∃ a b c d e f, mac.m_mac = [a, b, c, d, e, f] ∧
    mac.toString = hexOctet a ++ 0x3A :: (hexOctet b ++ 0x3A :: (hexOctet c ++ 0x3A ::
      (hexOctet d ++ 0x3A :: (hexOctet e ++ 0x3A :: hexOctet f)))) := by
  obtain ⟨l, hl⟩ := mac
  obtain ⟨a, b, c, d, e, f, rfl⟩ : ∃ a b c d e f, l = [a, b, c, d, e, f] := by
    match l, hl with
    | [a, b, c, d, e, f], _ => exact ⟨a, b, c, d, e, f, rfl⟩
  exact ⟨a, b, c, d, e, f, rfl, by simp [toString]⟩

/-- Different addresses are printed differently. -/
theorem MAC.toString_injective : Function.Injective MAC.toString := by
  intro mac mac' h
  obtain ⟨a, b, c, d, e, f, hmac, htext⟩ := mac.toString_eq
  obtain ⟨a', b', c', d', e', f', hmac', htext'⟩ := mac'.toString_eq
  rw [htext, htext'] at h
  have hoctet : ∀ {x y : UInt8} {s t : Text}, hexOctet x ++ s = hexOctet y ++ t →
      x = y ∧ s = t := fun hxy => by
    obtain ⟨hx, hs⟩ := List.append_inj hxy rfl
    exact ⟨hexOctet_injective hx, hs⟩
  obtain ⟨ha, h⟩ := hoctet h
  obtain ⟨hb, h⟩ := hoctet (List.cons.inj h).2
  obtain ⟨hc, h⟩ := hoctet (List.cons.inj h).2
  obtain ⟨hd, h⟩ := hoctet (List.cons.inj h).2
  obtain ⟨he, h⟩ := hoctet (List.cons.inj h).2
  have hf := hexOctet_injective (List.cons.inj h).2
  have hmacs : mac.m_mac = mac'.m_mac := by rw [hmac, hmac', ha, hb, hc, hd, he, hf]
  cases mac
  cases mac'
  exact (MAC.mk.injEq ..).mpr hmacs

/-! ### Tables of GOOSE streams -/

namespace Console

namespace GooseSource

def printCfgTableHeader : List Text :=
  [formatCfgRow [(20, ascii "MAC"), (10, ascii "APPID"), (20, ascii "GOID"), (32, ascii "GOCB"),
    (32, ascii "DataSet"), (10, ascii "CRev")], List.replicate 142 0x2D]

def printCfgTableRow (g : ProcessBus.GooseSource) : Text :=
  formatCfgRow [(20, g.m_dmac.toString), (10, decimal 0 g.m_appid.toNat), (20, g.m_goid),
    (32, g.m_gocbRef), (32, g.m_dataSetRef), (10, decimal 0 g.m_crev.toNat)]

def printTableHeader : List Text :=
  [formatRow [(20, ascii "MAC"), (10, ascii "APPID"), (20, ascii "GOID"), (10, ascii "StNum"),
    (10, ascii "SqNum"), (10, ascii "ErrSeqCnt"), (10, ascii "ErrSpduCnt")],
    List.replicate 110 0x2D]

def printTableRow (g : ProcessBus.GooseSource) : Text :=
  formatRow [(20, g.m_dmac.toString), (10, decimal 0 g.m_appid.toNat), (20, g.m_goid),
    (10, decimal 0 g.m_stNum.toNat), (10, decimal 0 g.m_sqNum.toNat),
    (10, decimal 0 g.getErrSeqNum.toNat), (10, decimal 0 g.getErrSpduNum.toNat)]

end GooseSource

/-! ### Tables of SV streams -/

namespace SVStreamSource

def printCfgTableHeader : List Text :=
  [formatCfgRow [(20, ascii "MAC"), (10, ascii "APPID"), (20, ascii "SVID"), (10, ascii "CRev")],
    List.replicate 72 0x2D]

def printCfgTableRow (s : ProcessBus.SVStreamSource) : Text :=
  formatCfgRow [(20, s.m_dmac.toString), (10, decimal 0 s.m_appid.toNat), (20, s.m_svid),
    (10, decimal 0 s.m_crev.toNat)]

def printTableHeader : List Text :=
  [formatRow [(20, ascii "DMAC"), (10, ascii "APPID"), (20, ascii "SVID"), (10, ascii "SmpCnt"),
    (10, ascii "ErrSeqCnt"), (10, ascii "ErrSpduCnt")], List.replicate 97 0x2D]

def printTableRow (s : ProcessBus.SVStreamSource) : Text :=
  formatRow [(20, s.m_dmac.toString), (10, decimal 0 s.m_appid.toNat), (20, s.m_svid),
    (10, decimal 0 s.m_smpCnt.toNat), (10, decimal 0 s.getErrSeqNum.toNat),
    (10, decimal 0 s.getErrSpduNum.toNat)]

end SVStreamSource

end Console

end ProcessBus
