import ProcessBus.Lib.Memory

/-!
# Tag, length, value

Elements of a definite-length encoding as byte strings. A length stands in short form or in long
form with one to four octets, which need not be the fewest possible; five octets and more, which
a decoder may read as well, are left out. `Seq enc` is a concatenation
of encodings; on a memory it is read off one after the other.
-/

namespace Tlv

/-- The length octets `bs` stand for `n`. No length has more than four octets behind the first. -/
inductive Length : List UInt8 → ℕ → Prop
  | short (b : UInt8) : b.toNat < 128 → Length [b] b.toNat
  | long (bs : List UInt8) : 1 ≤ bs.length → bs.length ≤ 4 →
      Length (UInt8.ofNat (128 + bs.length) :: bs) (beNat bs)

/-- `bs` is an element of that tag and value. -/
def Elem (tag : UInt8) (value bs : List UInt8) : Prop :=
  ∃ len, Length len value.length ∧ bs = tag :: (len ++ value)

lemma Length.pos {bs : List UInt8} {n : ℕ} (h : Length bs n) : 0 < bs.length := by
  cases h <;> simp

lemma Elem.length_pos {tag : UInt8} {value bs : List UInt8} (h : Elem tag value bs) :
    0 < bs.length := by
  obtain ⟨len, _, rfl⟩ := h
  simp

/-- Besides its value, an element takes two to six octets. -/
lemma Elem.length_bounds {tag : UInt8} {value bs : List UInt8} (h : Elem tag value bs) :
    value.length + 2 ≤ bs.length ∧ bs.length ≤ value.length + 6 := by
  obtain ⟨len, hlen, rfl⟩ := h
  have hpos := hlen.pos
  have hle : len.length ≤ 5 := by
    generalize value.length = n at hlen
    cases hlen with
    | short _ _ => exact (List.length_singleton).le.trans (by omega)
    | long bs _ h4 =>
      rw [List.length_cons]
      omega
  simp only [List.length_cons, List.length_append]
  omega

/-- Tag and length octets stay the same as long as the length of the value does. -/
lemma Elem.of_length_eq {tag : UInt8} {head value value' : List UInt8}
    (h : Elem tag value (head ++ value)) (hlen : value'.length = value.length) :
    Elem tag value' (head ++ value') := by
  obtain ⟨len, hl, hbs⟩ := h
  have hhead : head = tag :: len := List.append_cancel_right hbs
  exact ⟨len, hlen ▸ hl, by rw [hhead, List.cons_append]⟩

/-- One encoding after the other. -/
inductive Seq {α : Type} (enc : α → List UInt8 → Prop) : List α → List UInt8 → Prop
  | nil : Seq enc [] []
  | cons {a : α} {as : List α} {b bs : List UInt8} :
      enc a b → Seq enc as bs → Seq enc (a :: as) (b ++ bs)

/-- Elements one after the other, given by their tags and values. -/
abbrev Elems (fs : List (UInt8 × List UInt8)) (bs : List UInt8) : Prop :=
  Seq (fun f => Elem f.1 f.2) fs bs

/-- The element with its length in short form. -/
def short (f : UInt8 × List UInt8) : List UInt8 := f.1 :: UInt8.ofNat f.2.length :: f.2

lemma elem_short {f : UInt8 × List UInt8} (h : f.2.length < 128) : Elem f.1 f.2 (short f) := by
  have hlen : (UInt8.ofNat f.2.length).toNat = f.2.length := by
    rw [UInt8.toNat_ofNat', Nat.mod_eq_of_lt (by omega)]
  refine ⟨[UInt8.ofNat f.2.length], ?_, rfl⟩
  have := Length.short (UInt8.ofNat f.2.length) (by rw [hlen]; exact h)
  rwa [hlen] at this

lemma elems_short (fs : List (UInt8 × List UInt8)) (h : ∀ f ∈ fs, f.2.length < 128) :
    Elems fs (fs.flatMap short) := by
  induction fs with
  | nil => exact .nil
  | cons f fs ih =>
    rw [List.forall_mem_cons] at h
    exact .cons (elem_short h.1) (ih h.2)

/-- Elements with given tag and length octets. -/
lemma elems_flatMap {hd : UInt8 → List UInt8} {fs : List (UInt8 × List UInt8)}
    (h : ∀ f ∈ fs, Elem f.1 f.2 (hd f.1 ++ f.2)) :
    Elems fs (fs.flatMap fun f => hd f.1 ++ f.2) := by
  induction fs with
  | nil => exact .nil
  | cons f fs ih =>
    rw [List.forall_mem_cons] at h
    exact .cons h.1 (ih h.2)

variable {α : Type} {enc : α → List UInt8 → Prop} {m : Mem}

lemma Seq.append {as as' : List α} {bs bs' : List UInt8} (h : Seq enc as bs)
    (h' : Seq enc as' bs') : Seq enc (as ++ as') (bs ++ bs') := by
  induction h with
  | nil => exact h'
  | cons ha _ ih =>
    rw [List.cons_append, List.append_assoc]
    exact .cons ha ih

/-- Members that are not empty are at most as many as there are octets. -/
lemma Seq.length_le {as : List α} {bs : List UInt8} (h : Seq enc as bs)
    (hpos : ∀ a b, enc a b → 0 < b.length) : as.length ≤ bs.length := by
  induction h with
  | nil => exact le_rfl
  | cons ha _ ih =>
    have := hpos _ _ ha
    rw [List.length_cons, List.length_append]
    omega

/-- In a memory, a sequence is its first member and the sequence behind it. -/
lemma seq_cons_slice {a : α} {as : List α} {i n : ℕ} :
    Seq enc (a :: as) (m.slice i n) ↔
      ∃ k ≤ n, enc a (m.slice i k) ∧ Seq enc as (m.slice (i + k) (n - k)) := by
  constructor
  · intro h
    generalize hs : m.slice i n = s at h
    cases h with
    | @cons _ _ b bs ha has =>
      have hlen : n = b.length + bs.length := by
        rw [← Mem.length_slice m i n, hs, List.length_append]
      obtain ⟨_, hholds⟩ := Mem.slice_eq_iff.mp hs
      obtain ⟨hb, hbs⟩ := Mem.holds_append.mp hholds
      refine ⟨b.length, by omega, ?_, ?_⟩
      · rwa [hb.slice_eq]
      · rwa [show n - b.length = bs.length by omega, hbs.slice_eq]
  · rintro ⟨k, hk, ha, has⟩
    have hsplit : m.slice i n = m.slice i k ++ m.slice (i + k) (n - k) := by
      rw [← Mem.slice_add, Nat.add_sub_cancel' hk]
    exact hsplit ▸ .cons ha has

/-- Members that are not empty end with the sequence. -/
lemma seq_nil_slice {i n : ℕ} : Seq enc [] (m.slice i n) ↔ n = 0 := by
  constructor
  · intro h
    generalize hs : m.slice i n = s at h
    cases h with
    | nil => rw [← Mem.length_slice m i n, hs, List.length_nil]
  · rintro rfl
    exact .nil

end Tlv
