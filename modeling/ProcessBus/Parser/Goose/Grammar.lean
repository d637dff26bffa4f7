import ProcessBus.Parser.Goose.Fields
import ProcessBus.Parser.Sv.Asdu

/-!
# Well-formed GOOSE frames

The encoding a publisher produces: elements of definite length one behind the other, a dataset
whose arrays and structures hold entries again. On such bytes the chain of the walk is the chain
of the elements, so what the walk reports can be read off the fields. The parsers also read lengths
of more than four octets, which no element here has.
-/

namespace ProcessBus

/-! ### Datasets -/

/-- Arrays and structures. -/
def NestedTag (tag : UInt8) : Prop := tag = 0xA1 ∨ tag = 0xA2

instance (tag : UInt8) : Decidable (NestedTag tag) := inferInstanceAs (Decidable (_ ∨ _))

/-- One entry of a dataset, with at most that many arrays and structures inside each other. -/
def DataEntry : ℕ → UInt8 × List UInt8 → List UInt8 → Prop
  | 0, e, bs => Tlv.Elem e.1 e.2 bs ∧ ¬ NestedTag e.1
  | depth + 1, e, bs =>
    Tlv.Elem e.1 e.2 bs ∧ (NestedTag e.1 → ∃ es, Tlv.Seq (DataEntry depth) es e.2)

lemma DataEntry.elem {depth : ℕ} {e : UInt8 × List UInt8} {bs : List UInt8}
    (h : DataEntry depth e bs) : Tlv.Elem e.1 e.2 bs := by
  cases depth <;> exact h.1

/-- An entry that is no array or structure. -/
lemma DataEntry.of_elem {depth : ℕ} {e : UInt8 × List UInt8} {bs : List UInt8}
    (h : Tlv.Elem e.1 e.2 bs) (hn : ¬ NestedTag e.1) : DataEntry depth e bs := by
  cases depth with
  | zero => exact ⟨h, hn⟩
  | succ depth => exact ⟨h, fun hn' => absurd hn' hn⟩

variable {buffer : Ptr} {stop size p q : ℕ}

/-- Behind an element that ends before `2 ^ 31` no cursor wraps. -/
lemma elemEnd_eq (h : valueEnd buffer p < 2 ^ 32) : elemEnd buffer p = valueEnd buffer p :=
  u32_of_lt h

lemma Fits.entryAt (h : Fits buffer stop p) (hstop : stop ≤ 2 ^ 31) : EntryAt buffer stop p := by
  have hlt := lt_headEnd buffer p
  have hend := h.2
  have hsum : valueEnd buffer p = headEnd buffer p + headLen buffer p := rfl
  refine ⟨by omega, by omega, ?_⟩
  rw [elemEnd_eq (by omega)]
  exact hend

variable (buffer p) in
lemma valueAt_eq : valueAt buffer p =
    buffer.mem.slice (buffer.off + headEnd buffer p) (valueEnd buffer p - headEnd buffer p) := by
  rw [valueEnd, Nat.add_sub_cancel_left]
  rfl

/-- The entries of a sequence are steps of the chain; `hok` is what is known of a nested value. -/
lemma dataPath_of_seq {enc : UInt8 × List UInt8 → List UInt8 → Prop} {ok : ℕ → ℕ → Prop}
    {es : List (UInt8 × List UInt8)} (hstop : stop ≤ 2 ^ 31) (hp : p ≤ stop)
    (helem : ∀ e bs, enc e bs → Tlv.Elem e.1 e.2 bs)
    (hok : ∀ p bs, enc (fieldAt buffer p) bs → Fits buffer stop p → IsNested buffer p →
      ok (headEnd buffer p) (elemEnd buffer p))
    (h : Tlv.Seq enc es (buffer.mem.slice (buffer.off + p) (stop - p))) :
    ∃ l, Loop.Path (DataStep buffer ok stop) p l stop ∧ l.length = es.length := by
  induction es generalizing p with
  | nil =>
    obtain rfl : p = stop := by have := Tlv.seq_nil_slice.mp h; omega
    exact ⟨[], .nil _, rfl⟩
  | cons e es ih =>
    obtain ⟨k, hk, he, hes⟩ := Tlv.seq_cons_slice.mp h
    obtain ⟨htag, hhead, hend, hvalue⟩ := elem_slice_iff.mp (helem _ _ he)
    rw [Nat.add_assoc, Nat.sub_sub, hend] at hes
    have hfits : Fits buffer stop p := ⟨hhead, by omega⟩
    obtain ⟨l, hl, hlen⟩ := ih (by omega) hes
    have hfield : e = fieldAt buffer p := Prod.ext htag.symm hvalue
    refine ⟨p :: l, .cons ⟨hfits.entryAt hstop, fun hn => ?_, ?_⟩ hl, ?_⟩
    · exact hok p _ (hfield ▸ he) hfits hn
    · rw [elemEnd_eq (by omega)]
    · rw [List.length_cons, List.length_cons, hlen]

/-- A sequence of entries is walked from its first to its last, and its arrays and structures are
tiled. -/
lemma dataPath_of_entries {depth : ℕ} {es : List (UInt8 × List UInt8)} (hstop : stop ≤ 2 ^ 31)
    (hp : p ≤ stop)
    (h : Tlv.Seq (DataEntry depth) es (buffer.mem.slice (buffer.off + p) (stop - p))) :
    ∃ l, Loop.Path (DataStep buffer (Tiled buffer depth) stop) p l stop ∧
      l.length = es.length := by
  induction depth generalizing stop p es with
  | zero =>
    refine dataPath_of_seq hstop hp (fun _ _ => DataEntry.elem) (fun p bs he _ hn => ?_) h
    exact absurd hn he.2
  | succ depth ih =>
    refine dataPath_of_seq hstop hp (fun _ _ => DataEntry.elem) (fun p bs he hfits hn => ?_) h
    obtain ⟨es', hes'⟩ := he.2 hn
    have hend := hfits.2
    have hes' : Tlv.Seq (DataEntry depth) es' (valueAt buffer p) := hes'
    rw [valueAt_eq] at hes'
    obtain ⟨l, hl, _⟩ := ih (by omega) (headEnd_le_valueEnd buffer p) hes'
    rw [elemEnd_eq (by omega)]
    exact ⟨_, hl.reflTransGen, le_rfl⟩

/-- The number of entries is what the parser counts. -/
lemma entries_of_seq {es : List (UInt8 × List UInt8)} (hend : valueEnd buffer p ≤ 2 ^ 31)
    (h : Tlv.Seq (DataEntry MAX_DATA_DEPTH) es (valueAt buffer p)) :
    ∃ l, Entries buffer p l ∧ l.length = es.length := by
  rw [valueAt_eq] at h
  obtain ⟨l, hl, hlen⟩ := dataPath_of_entries hend (headEnd_le_valueEnd buffer p) h
  refine ⟨l, ?_, hlen⟩
  unfold Entries
  rw [elemEnd_eq (by omega)]
  exact ⟨_, hl, le_rfl⟩

lemma DataEntry.nested {depth : ℕ} {e : UInt8 × List UInt8} {bs : List UInt8}
    (h : DataEntry depth e bs) (hn : NestedTag e.1) :
    ∃ d es, Tlv.Seq (DataEntry d) es e.2 := by
  cases depth with
  | zero => exact absurd hn h.2
  | succ depth => exact ⟨depth, h.2 hn⟩

/-- The other way round: `hok` is what a step of the chain says about an entry. -/
lemma seq_of_dataReach {enc enc' : UInt8 × List UInt8 → List UInt8 → Prop} {ok : ℕ → ℕ → Prop}
    {es : List (UInt8 × List UInt8)} (hstop : stop ≤ 2 ^ 31) (hp : p ≤ stop)
    (helem : ∀ e bs, enc e bs → Tlv.Elem e.1 e.2 bs)
    (hok : ∀ p bs, enc (fieldAt buffer p) bs → Fits buffer stop p →
      (IsNested buffer p → ok (headEnd buffer p) (elemEnd buffer p)) → enc' (fieldAt buffer p) bs)
    (h : Tlv.Seq enc es (buffer.mem.slice (buffer.off + p) (stop - p)))
    (hreach : ∃ q, Relation.ReflTransGen (DataStep buffer ok stop) p q ∧ stop ≤ q) :
    Tlv.Seq enc' es (buffer.mem.slice (buffer.off + p) (stop - p)) := by
  induction es generalizing p with
  | nil => exact Tlv.seq_nil_slice.mpr (Tlv.seq_nil_slice.mp h)
  | cons e es ih =>
    obtain ⟨k, hk, he, hes⟩ := Tlv.seq_cons_slice.mp h
    obtain ⟨htag, hhead, hend, hvalue⟩ := elem_slice_iff.mp (helem _ _ he)
    have hlt := lt_valueEnd buffer p
    have hfits : Fits buffer stop p := ⟨hhead, by omega⟩
    have hfield : e = fieldAt buffer p := Prod.ext htag.symm hvalue
    obtain ⟨q, hreach, hq⟩ := hreach
    rcases hreach.cases_head with rfl | ⟨c, ⟨_, hnested, rfl⟩, hrest⟩
    · omega
    refine Tlv.seq_cons_slice.mpr ⟨k, hk, ?_, ?_⟩
    · exact hfield ▸ hok p _ (hfield ▸ he) hfits hnested
    · rw [Nat.add_assoc, Nat.sub_sub, hend] at hes ⊢
      rw [elemEnd_eq (by omega)] at hrest
      exact ih (by omega) hes ⟨q, hrest, hq⟩

/-- What the parser accepts of well-formed entries does not nest too deep. -/
lemma entries_of_tiled {depth room : ℕ} {es : List (UInt8 × List UInt8)} (hstop : stop ≤ 2 ^ 31)
    (hp : p ≤ stop)
    (h : Tlv.Seq (DataEntry depth) es (buffer.mem.slice (buffer.off + p) (stop - p)))
    (htiled : Tiled buffer (room + 1) p stop) :
    Tlv.Seq (DataEntry room) es (buffer.mem.slice (buffer.off + p) (stop - p)) := by
  induction room generalizing depth stop p es with
  | zero =>
    refine seq_of_dataReach hstop hp (fun _ _ => DataEntry.elem) (fun p bs he _ hn => ?_) h htiled
    exact ⟨he.elem, hn⟩
  | succ room ih =>
    refine seq_of_dataReach hstop hp (fun _ _ => DataEntry.elem)
      (fun p bs he hfits hn => ⟨he.elem, fun htag => ?_⟩) h htiled
    obtain ⟨d, es', hes'⟩ := he.nested htag
    have hend := hfits.2
    have hes' : Tlv.Seq (DataEntry d) es' (valueAt buffer p) := hes'
    have htiled' := hn htag
    rw [elemEnd_eq (by omega)] at htiled'
    rw [valueAt_eq] at hes'
    refine ⟨es', ?_⟩
    show Tlv.Seq (DataEntry room) es' (valueAt buffer p)
    rw [valueAt_eq]
    exact ih (by omega) (headEnd_le_valueEnd buffer p) hes' htiled'

/-! ### Top-level elements -/

/-- An element the walk steps over as a whole: it is not empty, allData and the content of a
sequence or set are elements again. -/
structure ItemOk (f : UInt8 × List UInt8) : Prop where
  nonempty : f.2 ≠ []
  dataset : f.1 = 0xAB → ∃ es, Tlv.Seq (DataEntry MAX_DATA_DEPTH) es f.2
  seq : f.1 = 0x30 ∨ f.1 = 0x31 → ∃ fs, Tlv.Elems fs f.2
  context : f.1 ≠ 0xA0 ∧ f.1 ≠ 0xA1

lemma skipTo_of_path {l : List ℕ} (hstop : stop ≤ 2 ^ 31)
    (h : Loop.Path (ElemStep buffer stop) p l stop) : SkipTo buffer stop p stop := by
  refine ⟨(h.mono fun a _ b hstep => ?_).reflTransGen, le_rfl⟩
  obtain ⟨⟨_, hend⟩, rfl⟩ := hstep
  have hlt := lt_valueEnd buffer a
  exact ⟨by omega, (elemEnd_eq (by omega)).symm⟩

/-- The walk goes from such an element to the one behind it. -/
lemma topStep_of_item (hstop : stop ≤ 2 ^ 31) (h : ElemStep buffer stop p q)
    (hok : ItemOk (fieldAt buffer p)) : TopStep buffer stop p q := by
  obtain ⟨⟨hhead, hend⟩, rfl⟩ := h
  have hlt := lt_valueEnd buffer p
  have helem : elemEnd buffer p = valueEnd buffer p := elemEnd_eq (by omega)
  have hlen : headLen buffer p ≠ 0 := by
    rw [← length_valueAt]
    exact fun h => hok.nonempty (List.eq_nil_of_length_eq_zero h)
  refine ⟨⟨by omega, helem ▸ hend, hlen⟩, ?_⟩
  rw [helem]
  by_cases hdata : tagAt buffer p = 0xAB
  · rw [if_pos hdata]
    obtain ⟨es, hes⟩ := hok.dataset hdata
    obtain ⟨l, ⟨q, hl, hq⟩, _⟩ := entries_of_seq (hend.trans hstop) hes
    rw [helem] at hl hq
    exact ⟨⟨q, hl.reflTransGen, hq⟩, rfl⟩
  rw [if_neg hdata]
  by_cases hseq : tagAt buffer p = 0x30 ∨ tagAt buffer p = 0x31
  · rw [if_pos hseq]
    obtain ⟨fs, hfs⟩ := hok.seq hseq
    have hfs : Tlv.Elems fs (valueAt buffer p) := hfs
    rw [valueAt_eq] at hfs
    obtain ⟨l, hl, _⟩ := (seq_iff_path (headEnd_le_valueEnd buffer p)).mp hfs
    exact skipTo_of_path (hend.trans hstop) hl
  · rw [if_neg hseq, if_neg]
    exact fun h => h.elim hok.context.1 hok.context.2

/-- Elements that fill the PDU are visited one after the other. -/
lemma topPath_of_items {fs : List (UInt8 × List UInt8)} (hstop : stop ≤ 2 ^ 31) (hp : p ≤ stop)
    (hok : ∀ f ∈ fs, ItemOk f)
    (h : Tlv.Elems fs (buffer.mem.slice (buffer.off + p) (stop - p))) :
    ∃ l, Loop.Path (TopStep buffer stop) p l stop ∧ fs = l.map (fieldAt buffer) ∧
      ∀ q ∈ l, Fits buffer stop q := by
  obtain ⟨l, hl, rfl⟩ := (seq_iff_path hp).mp h
  refine ⟨l, ?_, rfl, fun q hq => ?_⟩
  · refine hl.mono fun q hq _ hstep => topStep_of_item hstop hstep (hok _ ?_)
    exact List.mem_map_of_mem hq
  · obtain ⟨_, _, hstep⟩ := hl.of_mem hq
    exact hstep.1

/-- An inner loop leaves at one place. -/
lemma SkipTo.unique {pos q' : ℕ} (h : SkipTo buffer stop pos q) (h' : SkipTo buffer stop pos q') :
    q = q' := by
  have hdet : Relator.RightUnique (SkipStep buffer stop) := fun _ _ _ h h' => h.2.trans h'.2.symm
  have hend : ∀ {r}, stop ≤ r → ∀ d, ¬ SkipStep buffer stop r d := fun hr d hd =>
    absurd hd.1 (Nat.not_lt.mpr hr)
  have hreach := Loop.reaches_terminal hdet h.1 h'.1 (hend h.2)
  rcases hreach.cases_head with heq | ⟨c, hc, _⟩
  · exact heq.symm
  · exact absurd hc (hend h'.2 c)

/-- From an element that is no context-specific 0 or 1 the walk can only go to the next one. -/
lemma topStep_unique {q' : ℕ} (hstop : stop ≤ 2 ^ 31)
    (hseq : tagAt buffer p = 0x30 ∨ tagAt buffer p = 0x31 → ∃ fs, Tlv.Elems fs (valueAt buffer p))
    (hcontext : tagAt buffer p ≠ 0xA0 ∧ tagAt buffer p ≠ 0xA1) (h : ElemStep buffer stop p q)
    (h' : TopStep buffer stop p q') : q' = q := by
  obtain ⟨⟨_, hend⟩, rfl⟩ := h
  have helem : elemEnd buffer p = valueEnd buffer p := elemEnd_eq (by omega)
  obtain ⟨_, hstep⟩ := h'
  rw [helem] at hstep
  split_ifs at hstep with hdata hset hctx
  · exact hstep.2
  · obtain ⟨fs, hfs⟩ := hseq hset
    rw [valueAt_eq] at hfs
    obtain ⟨l, hl, _⟩ := (seq_iff_path (headEnd_le_valueEnd buffer p)).mp hfs
    exact hstep.unique (skipTo_of_path (hend.trans hstop) hl)
  · exact absurd hctx (not_or.mpr hcontext)
  · exact hstep

/-- A walk to the end over such elements visits all of them. -/
lemma topPath_unique {l l' : List ℕ}
    (hstep : ∀ a ∈ l, ∀ b b', ElemStep buffer stop a b → TopStep buffer stop a b' → b' = b)
    (h : Loop.Path (ElemStep buffer stop) p l stop) (h' : Loop.Path (TopStep buffer stop) p l' q)
    (hq : stop ≤ q) : l' = l := by
  induction l generalizing p l' with
  | nil =>
    cases h
    cases h' with
    | nil => rfl
    | cons hfirst _ => exact absurd hfirst.1.1 (Nat.lt_irrefl _)
  | cons a l ih =>
    cases h with
    | cons hfirst hrest =>
      cases h' with
      | nil =>
        have hlt := lt_valueEnd buffer q
        have hend := hfirst.1.2
        omega
      | cons hfirst' hrest' =>
        obtain rfl := hstep a List.mem_cons_self _ _ hfirst hfirst'
        rw [ih (fun a ha => hstep a (List.mem_cons_of_mem _ ha)) hrest hrest']

end ProcessBus
