import ProcessBus.Lib.Tlv
import ProcessBus.Parser.Sv.Readers
import Mathlib.Data.List.Nodup

/-!
# The grammar of a Sampled Values APDU

What `parse_sv_apdu` accepts, stated over byte strings: an APDU is one `0x60` element with the
number of ASDUs and the sequence of them, an ASDU is a list of fields with increasing tags, and
all ASDUs carry the same svID and confRev. The structures carry these conditions, and `Encodes`
says which byte strings stand for them. Lengths may be written in any definite form.
-/

namespace ProcessBus

/-! ### Elements in memory -/

lemma length_slice_iff {m : Mem} {a n len : ℕ} :
    Tlv.Length (m.slice a n) len ↔
      (m a ≠ 0x80 ∧ lenOctets (m a) ≤ 4) ∧ n = lenSize m a ∧ len = lenValue m a := by
  constructor
  · intro h
    generalize hs : m.slice a n = s at h
    have hlen : s.length = n := by rw [← hs, Mem.length_slice]
    obtain ⟨_, hholds⟩ := Mem.slice_eq_iff.mp hs
    cases h with
    | short b hb =>
      obtain ⟨rfl, _⟩ := Mem.holds_cons.mp hholds
      have hne : m a ≠ 0x80 := fun h => by
        rw [h] at hb
        exact absurd hb (by decide)
      refine ⟨⟨hne, by simp [lenOctets, hb]⟩, ?_, by simp [lenValue, hb]⟩
      simp [lenSize, lenOctets, hb, ← hlen]
    | long bs h1 h4 =>
      obtain ⟨ha, hbs⟩ := Mem.holds_cons.mp hholds
      have hnat : (m a).toNat = 128 + bs.length := by
        rw [ha, UInt8.toNat_ofNat']
        omega
      have hoct : lenOctets (m a) = bs.length := by
        rw [lenOctets, if_neg (by omega)]
        omega
      have hlt := beNat_lt bs
      have hpow : 256 ^ bs.length ≤ 256 ^ 4 := Nat.pow_le_pow_right (by decide) h4
      refine ⟨⟨fun h => ?_, by omega⟩, ?_, ?_⟩
      · rw [h] at hnat
        have : (0x80 : UInt8).toNat = 128 := rfl
        omega
      · rw [lenSize, hoct, ← hlen, List.length_cons]
        omega
      · rw [lenValue, if_neg (by omega), hoct, hbs.slice_eq, Nat.mod_eq_of_lt (by omega)]
  · rintro ⟨⟨hne, h4⟩, rfl, rfl⟩
    by_cases hb : (m a).toNat < 128
    · have hslice : m.slice a (lenSize m a) = [m a] := by
        simp [lenSize, lenOctets, hb, Mem.slice_succ]
      rw [hslice, lenValue, if_pos hb]
      exact .short (m a) hb
    · have hlt := (m a).toNat_lt
      have hoct : lenOctets (m a) = (m a).toNat - 128 := if_neg hb
      have hpos : lenOctets (m a) ≠ 0 := mt (lenOctets_eq_zero_iff hb).mp hne
      have hfirst : m a = UInt8.ofNat (128 + (m.slice (a + 1) (lenOctets (m a))).length) := by
        apply UInt8.toNat_inj.mp
        rw [Mem.length_slice, UInt8.toNat_ofNat']
        omega
      have hval := beNat_lt (m.slice (a + 1) (lenOctets (m a)))
      have hpow : 256 ^ (m.slice (a + 1) (lenOctets (m a))).length ≤ 256 ^ 4 :=
        Nat.pow_le_pow_right (by decide) (by rw [Mem.length_slice]; omega)
      rw [lenSize, Nat.add_comm, Mem.slice_succ, lenValue, if_neg hb, Nat.mod_eq_of_lt (by omega)]
      conv => arg 1; arg 1; rw [hfirst]
      exact .long _ (by rw [Mem.length_slice]; omega) (by rw [Mem.length_slice]; omega)

variable {buffer : Ptr} {stop p n : ℕ}

/-- The element at `p` is the only one that starts there. -/
lemma elem_slice_iff {tag : UInt8} {value : List UInt8} :
    Tlv.Elem tag value (buffer.mem.slice (buffer.off + p) n) ↔
      tagAt buffer p = tag ∧ HeadOk buffer p ∧ p + n = valueEnd buffer p ∧
        value = valueAt buffer p := by
  constructor
  · rintro ⟨len, hlen, hs⟩
    obtain ⟨hn, hholds⟩ := Mem.slice_eq_iff.mp hs
    obtain ⟨htag, hrest⟩ := Mem.holds_cons.mp hholds
    obtain ⟨hl, hv⟩ := Mem.holds_append.mp hrest
    rw [← hl.slice_eq, length_slice_iff, Nat.add_assoc] at hlen
    obtain ⟨hok, hsize, hvalue⟩ := hlen
    have hend : headEnd buffer p = p + 1 + len.length := by rw [headEnd, hsize]
    have hlen' : headLen buffer p = value.length := hvalue.symm
    refine ⟨htag, hok, ?_, ?_⟩
    · simp only [List.length_cons, List.length_append] at hn
      rw [valueEnd, hend, hlen']
      omega
    · rw [valueAt, hend, hlen', show buffer.off + (p + 1 + len.length) =
        buffer.off + p + 1 + len.length by omega, hv.slice_eq]
  · rintro ⟨rfl, hok, hn, rfl⟩
    refine ⟨buffer.mem.slice (buffer.off + (p + 1)) (lenSize buffer.mem (buffer.off + (p + 1))),
      ?_, ?_⟩
    · rw [length_slice_iff, valueAt, Mem.length_slice]
      exact ⟨hok, rfl, rfl⟩
    · have hsplit : n = lenSize buffer.mem (buffer.off + (p + 1)) + headLen buffer p + 1 := by
        simp only [valueEnd, headEnd] at hn
        omega
      rw [hsplit, Mem.slice_succ, Mem.slice_add, valueAt, headEnd]
      simp only [Nat.add_assoc]
      rfl

/-! ### The grammar -/

/-- The Quality word behind each of the eight values is zero. -/
def GoodQuality (value : List UInt8) : Prop :=
  ∀ i < 8, beNat ((value.drop (4 + i * 8)).take 4) = 0

/-- The fields of an ASDU and what is asked of their values. -/
def FieldOk (tag : UInt8) (value : List UInt8) : Prop :=
  (tag = 0x80 ∧ 1 ≤ value.length) ∨  -- svID
  (tag = 0x81 ∧ 1 ≤ value.length) ∨  -- datset
  (tag = 0x82 ∧ value.length = 2) ∨  -- smpCnt
  (tag = 0x83 ∧ value.length = 4) ∨  -- confRev
  (tag = 0x84 ∧ value.length = 8) ∨  -- refrTm
  (tag = 0x85 ∧ value.length = 1) ∨  -- smpSynch
  (tag = 0x86 ∧ value.length = 2) ∨  -- smpRate
  (tag = 0x87 ∧ value.length = 64 ∧ GoodQuality value) ∨  -- data
  (tag = 0x88 ∧ value.length = 2)  -- smpMod

/-- An ASDU: its fields by increasing tag, five of them present. -/
structure SvAsdu where
  fields : List (UInt8 × List UInt8)
  svID : List UInt8
  smpCnt : List UInt8
  confRev : List UInt8
  increasing : (fields.map Prod.fst).Pairwise (· < ·)
  ok : ∀ f ∈ fields, FieldOk f.1 f.2
  svID_mem : (0x80, svID) ∈ fields
  smpCnt_mem : (0x82, smpCnt) ∈ fields
  confRev_mem : (0x83, confRev) ∈ fields
  smpSynch_mem : 0x85 ∈ fields.map Prod.fst
  data_mem : 0x87 ∈ fields.map Prod.fst

/-- `bs` is a `0x30` element made of the fields. -/
def SvAsdu.Encodes (a : SvAsdu) (bs : List UInt8) : Prop :=
  ∃ body, Tlv.Seq (fun f => Tlv.Elem f.1 f.2) a.fields body ∧ Tlv.Elem 0x30 body bs

/-- A PDU: as many ASDUs as `num` says, all of one stream. -/
structure SvPdu where
  num : List UInt8
  asdus : List SvAsdu
  num_length : num.length = 1 ∨ num.length = 2
  num_eq : beNat num = asdus.length
  nonempty : asdus ≠ []
  same : ∀ a ∈ asdus, ∀ b ∈ asdus, a.svID = b.svID ∧ a.confRev = b.confRev

/-- `bs` is a `0x60` element made of noASDU and the sequence of ASDUs. -/
def SvPdu.Encodes (u : SvPdu) (bs : List UInt8) : Prop :=
  ∃ numElem seq seqElem, Tlv.Elem 0x80 u.num numElem ∧ Tlv.Seq SvAsdu.Encodes u.asdus seq ∧
    Tlv.Elem 0xA2 seq seqElem ∧ Tlv.Elem 0x60 (numElem ++ seqElem) bs

/-- The ASDU that names the stream. -/
def SvPdu.first (u : SvPdu) : SvAsdu := u.asdus.head u.nonempty

/-- Strictly increasing tags make a field's value unique. -/
lemma SvAsdu.value_unique (a : SvAsdu) {t : UInt8} {v w : List UInt8} (hv : (t, v) ∈ a.fields)
    (hw : (t, w) ∈ a.fields) : v = w :=
  congrArg Prod.snd
    (List.inj_on_of_nodup_map (f := Prod.fst) (a.increasing.imp UInt8.ne_of_lt) hv hw rfl)

end ProcessBus
