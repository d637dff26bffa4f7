import ProcessBus.Common.Containers
import ProcessBus.Lib.Losses

/-!
# Sequence numbers

What the error counters of a source count. The numbers a source is given are those of the frames
that reach it.
-/

namespace ProcessBus

/-- A source with the settings of `src` that has seen no frame. -/
def GooseSource.fresh (src : GooseSource) : GooseSource :=
  { src with m_stNum := 0, m_sqNum := 0, m_errSeqCnt := 0, m_spduNumber := 0, m_errSpduCnt := 0 }

@[inherit_doc GooseSource.fresh]
def SVStreamSource.fresh (src : SVStreamSource) : SVStreamSource :=
  { src with m_smpCnt := 0, m_errSmpCnt := 0, m_spduNumber := 0, m_errSpduCnt := 0 }

/-! ### SPDU numbers -/

/-- The adjacent pairs of a list. -/
def adjacent {α : Type} (l : List α) : List (α × α) := l.zip l.tail

@[simp] lemma adjacent_cons_cons {α : Type} (a b : α) (l : List α) :
    adjacent (a :: b :: l) = (a, b) :: adjacent (b :: l) := rfl

/-- What both sources do with the last SPDU number and the counter. -/
def trackSpdu (state : UInt32 × UInt32) (spduNumber : UInt32) : UInt32 × UInt32 :=
  (spduNumber, if state.1 ≠ 0 ∧ spduNumber ≠ state.1 + 1 then state.2 + 1 else state.2)

lemma GooseSource.foldl_session (numbers : List UInt32) (src : GooseSource) :
    ((numbers.foldl processSessionState src).m_spduNumber,
      (numbers.foldl processSessionState src).m_errSpduCnt) =
    numbers.foldl trackSpdu (src.m_spduNumber, src.m_errSpduCnt) := by
  induction numbers generalizing src with
  | nil => rfl
  | cons n numbers ih => exact ih (src.processSessionState n)

lemma SVStreamSource.foldl_session (numbers : List UInt32) (src : SVStreamSource) :
    ((numbers.foldl processSessionState src).m_spduNumber,
      (numbers.foldl processSessionState src).m_errSpduCnt) =
    numbers.foldl trackSpdu (src.m_spduNumber, src.m_errSpduCnt) := by
  induction numbers generalizing src with
  | nil => rfl
  | cons n numbers ih => exact ih (src.processSessionState n)

/-- A gap that is seen: a number that does not follow on the one before it, unless that is zero. -/
def SpduGap (p : UInt32 × UInt32) : Prop := p.1 ≠ 0 ∧ p.2 ≠ p.1 + 1

instance : DecidablePred SpduGap := fun p => inferInstanceAs (Decidable (p.1 ≠ 0 ∧ p.2 ≠ p.1 + 1))

lemma errors_spduGap (numbers : List UInt32) (last : UInt32) :
    Losses.errors (fun a b => SpduGap (a, b)) last numbers =
      (adjacent (last :: numbers)).countP (SpduGap ·) := by
  induction numbers generalizing last with
  | nil => rfl
  | cons n numbers ih =>
    rw [Losses.errors, ih, adjacent_cons_cons, List.countP_cons, Nat.add_comm]
    simp only [decide_eq_true_eq]

lemma foldl_trackSpdu (numbers : List UInt32) (last err : UInt32) :
    (numbers.foldl trackSpdu (last, err)).2 =
      err + UInt32.ofNat ((adjacent (last :: numbers)).countP (SpduGap ·)) := by
  rw [← errors_spduGap]
  exact Losses.foldl_track (fun a b => SpduGap (a, b)) numbers last err

lemma countP_adjacent_zero (numbers : List UInt32) :
    (adjacent (0 :: numbers)).countP (SpduGap ·) = (adjacent numbers).countP (SpduGap ·) := by
  cases numbers with
  | nil => rfl
  | cons n numbers =>
    rw [adjacent_cons_cons, List.countP_cons_of_neg]
    simp [SpduGap]

/-- The SPDU counter of a source: the first number never counts, and each later one counts if it
does not follow on the one before it. Zero stands for "not seen yet", so behind a zero nothing
counts. -/
theorem errSpduNum_eq_countP (numbers : List UInt32) :
    (∀ src : GooseSource,
      (numbers.foldl GooseSource.processSessionState src.fresh).getErrSpduNum =
        UInt32.ofNat ((adjacent numbers).countP fun p => p.1 ≠ 0 ∧ p.2 ≠ p.1 + 1)) ∧
    ∀ src : SVStreamSource,
      (numbers.foldl SVStreamSource.processSessionState src.fresh).getErrSpduNum =
        UInt32.ofNat ((adjacent numbers).countP fun p => p.1 ≠ 0 ∧ p.2 ≠ p.1 + 1) := by
  have hcount : (numbers.foldl trackSpdu (0, 0)).2 =
      UInt32.ofNat ((adjacent numbers).countP (SpduGap ·)) := by
    rw [foldl_trackSpdu, countP_adjacent_zero, UInt32.zero_add]
  refine ⟨fun src => ?_, fun src => ?_⟩
  · exact (congrArg Prod.snd (GooseSource.foldl_session numbers src.fresh)).trans hcount
  · exact (congrArg Prod.snd (SVStreamSource.foldl_session numbers src.fresh)).trans hcount

/-- A publisher that counts from zero; the four frames behind its first one are lost. -/
theorem errSpduNum_behind_zero :
    ([0, 5].foldl GooseSource.processSessionState (GooseSource.fresh {})).getErrSpduNum ≠
      UInt32.ofNat ((adjacent [(0 : UInt32), 5]).countP fun p => p.2 ≠ p.1 + 1) ∧
    ([0, 5].foldl SVStreamSource.processSessionState (SVStreamSource.fresh {})).getErrSpduNum ≠
      UInt32.ofNat ((adjacent [(0 : UInt32), 5]).countP fun p => p.2 ≠ p.1 + 1) := by
  decide

end ProcessBus
