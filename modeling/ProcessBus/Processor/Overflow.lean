import ProcessBus.Lib.Overflow
import ProcessBus.Processor.InOrder

/-!
# Software RSS under overload

When the ring of a worker is full, the dispatcher frees what did not fit and counts it in
`m_errRingFullCnt`. No other frame is lost, and none is worked off twice. If all frames of a stream
go to one worker, the streams end up as on a single core that receives the frames that got through
and nothing else.
-/

namespace ProcessBus

open RSess Relation Sharding

variable {fuel : ℕ} {crypto : Crypto} {app : RxApplication} {frame frame' : RxFrame}
  {conf : RxConfig} {k : ℕ} {l l' : List RxFrame}

/-- A frame the dispatcher sends where the others of its stream go belongs to a group. -/
lemma RssReady.goesToGroup {mode : SecurityMode} (h : RssReady crypto mode frame) :
    GoesToGroup frame := h.dstIP

/-- Frames of different lanes commute in every application `Init` has configured. -/
lemma stageStep_comm_of_lane (hconfig : config app = config (init conf))
    (hready : RssReady crypto conf.m_rMode frame) (hready' : RssReady crypto conf.m_rMode frame')
    (hne : (workerOf frame k, protoOf frame) ≠ (workerOf frame' k, protoOf frame')) :
    stageStep fuel crypto (stageStep fuel crypto app frame) frame' =
      stageStep fuel crypto (stageStep fuel crypto app frame') frame := by
  obtain ⟨⟨_, hgoose⟩, _, hsv⟩ := filled_init conf
  obtain ⟨hmode, hmaps⟩ := Prod.ext_iff.mp hconfig
  obtain ⟨hgooseMap, hsvMap⟩ := Prod.ext_iff.mp hmaps
  have hmode : app.m_rMode = conf.m_rMode := hmode.trans (mode_init conf)
  have hlane : rssKey frame = rssKey frame' ∧ protoOf frame = protoOf frame' → False := by
    rintro ⟨hkey, hproto⟩
    apply hne
    rw [hproto, workerOf, workerOf]
    simp only [hkey]
  apply stageStep_comm
  · rw [show app.m_gooseMap = (init conf).m_gooseMap from hgooseMap, hmode]
    intro i f g h h'
    exact hlane (goose_same_lane hgoose hready hready' h h')
  · rw [show app.m_svMap = (init conf).m_svMap from hsvMap, hmode]
    intro i f g h h'
    exact hlane (sv_same_lane hsv hready hready' h h')

/-- Only the order within each lane matters. -/
lemma foldl_stageStep_of_lanes (hready : ∀ frame ∈ l, RssReady crypto conf.m_rMode frame)
    (hsame : ∀ (w : Fin (2 ^ k)) proto,
      lane (workerOf · k) protoOf w proto l = lane (workerOf · k) protoOf w proto l') :
    l.foldl (stageStep fuel crypto) (init conf) = l'.foldl (stageStep fuel crypto) (init conf) := by
  apply Fold.foldl_eq_of_classes (fun frame => (workerOf frame k, protoOf frame))
    (config · = config (init conf))
  · intro app hconfig frame
    exact config_stageStep.trans hconfig
  · intro app hconfig frame hframe frame' hframe' hne
    exact stageStep_comm_of_lane hconfig (hready frame hframe) (hready frame' hframe') hne
  · rintro ⟨w, proto⟩
    simpa [lane, Prod.ext_iff] using hsame w proto
  · rfl

/-- Whatever the load, every received frame is in one place at any time, and those that were freed
for want of room are counted. In the end the streams are as a single core leaves them that receives
all frames but the dropped ones, provided that these go where the others of their stream go. -/
theorem overflow_is_counted (fuel : ℕ) (crypto : Crypto) (conf : RxConfig)
    (k capacity burstSize : ℕ) (bursts : List (List RxFrame))
    (s : System RxFrame (Fin (2 ^ k)) RxApplication)
    (hreach : ReflTransGen (Step (workerOf · k) (stageStep fuel crypto) stageOrder capacity
      burstSize) (.start (init conf) bursts) s) :
    (∃ dropped : List RxFrame, s.Places bursts.flatten dropped ∧ dropped.length = s.lost) ∧
    (∀ w, (s.ring w).length ≤ capacity) ∧
    (s.Drained → ∃ kept : List RxFrame, kept.Sublist bursts.flatten ∧
      kept.length + s.lost = bursts.flatten.length ∧
      ((∀ frame ∈ kept, RssReady crypto conf.m_rMode frame) →
        ∀ bursts' : List (List RxFrame), bursts'.flatten = kept →
          s.shared.gooseSources = (runBursts fuel crypto (init conf) bursts').gooseSources ∧
          s.shared.svSources = (runBursts fuel crypto (init conf) bursts').svSources)) := by
  obtain ⟨hplaces, hring⟩ := places_of_reach filter_stageOrder hreach
  refine ⟨hplaces, hring, ?_⟩
  intro hdrained
  obtain ⟨kept, hkept, hlength, hlanes, hshared⟩ :=
    survivors_of_drained filter_stageOrder hreach hdrained
  refine ⟨kept, hkept, hlength, ?_⟩
  intro hready bursts' hflatten
  have hsame : s.shared = runBursts fuel crypto (init conf) bursts' := by
    rw [hshared, runBursts_in_order, hflatten]
    · exact (foldl_stageStep_of_lanes hready fun w proto => (hlanes w proto).symm).symm
    · rw [hflatten]
      exact fun frame hframe => (hready frame hframe).goesToGroup
  rw [hsame]
  exact ⟨rfl, rfl⟩

variable (fuel crypto) in
/-- One worker whose ring has room for one frame gets a burst of two. -/
lemma exists_overflowed (frame frame' : RxFrame) (app : RxApplication) :
    ∃ s : System RxFrame (Fin (2 ^ 0)) RxApplication,
      ReflTransGen (Step (workerOf · 0) (stageStep fuel crypto) stageOrder 1 32)
        (.start app [[frame, frame']]) s ∧ s.Drained ∧ s.lost = 1 := by
  have hone : ∀ w : Fin (2 ^ 0), w = 0 := fun w => Subsingleton.elim (α := Fin 1) w 0
  have hworker : ∀ (l : List RxFrame) (w : Fin (2 ^ 0)), l.filter (workerOf · 0 = w) = l := by
    intro l w
    apply List.filter_eq_self.mpr
    intro frame _
    exact decide_eq_true ((hone _).trans (hone w).symm)
  have hupdate : ∀ (f : Fin (2 ^ 0) → List RxFrame) (l : List RxFrame),
      Function.update f 0 l = fun _ => l := by
    intro f l
    funext w
    rw [hone w, Function.update_self]
  -- the ring after the burst
  let full : System RxFrame (Fin (2 ^ 0)) RxApplication :=
    { System.start app [] with ring := fun _ => [frame], lost := 1 }
  obtain ⟨s, hsteps, hinput, hout, hring, hbatch, hlost⟩ := exists_emptied
    (workerOf · 0) (stageStep fuel crypto) stageOrder 1 32 (w := 0) (s := full) (by decide) rfl
  refine ⟨s, .head (.receive _ [frame, frame'] [] rfl fun _ => rfl) (.head (.enqueue _ 0) ?_), ?_,
    hlost⟩
  · convert hsteps using 1
    simp [full, System.start, hworker, hupdate]
  · refine ⟨hinput, fun w => congrFun hout w, fun w => ?_, fun w => congrFun hbatch w⟩
    rw [hring, hupdate]

/-- A routable frame arrives twice, and one of the two is dropped. -/
theorem overflow_is_counted_sample :
    let app := init { m_confRGooseNum := 1, m_gooseEntries := 1 }
    let frame := sampleRGooseRx 0 1 3
    ∃ s : System RxFrame (Fin (2 ^ 0)) RxApplication,
      ReflTransGen (Step (workerOf · 0) (stageStep 100 sampleCrypto) stageOrder 1 32)
        (.start app [[frame, frame]]) s ∧ s.Drained ∧ s.lost = 1 ∧
      s.shared.gooseSources = (runBursts 100 sampleCrypto app [[frame]]).gooseSources ∧
      s.shared.gooseSources.map (·.m_stNum) = [3] := by
  intro app frame
  obtain ⟨s, hreach, hdrained, hlost⟩ := exists_overflowed 100 sampleCrypto frame frame app
  obtain ⟨-, -, hdone⟩ := overflow_is_counted 100 sampleCrypto
    { m_confRGooseNum := 1, m_gooseEntries := 1 } 0 1 32 [[frame, frame]] s hreach
  obtain ⟨kept, hkept, hlength, hsources⟩ := hdone hdrained
  have hkept : kept = [frame] := by
    obtain ⟨f, rfl⟩ := List.length_eq_one_iff.mp
      (show kept.length = 1 by rw [hlost] at hlength; exact Nat.succ.inj hlength)
    simpa using hkept.subset List.mem_cons_self
  have hready : ∀ f ∈ kept, RssReady sampleCrypto .SEC_NONE f := by
    rw [hkept]
    exact List.forall_mem_singleton.mpr (show RssReady sampleCrypto .SEC_NONE
      (sampleRGooseRx 0 1 3) by decide +kernel)
  have hsame := (hsources hready [[frame]] hkept.symm).1
  refine ⟨s, hreach, hdrained, hlost, hsame, ?_⟩
  rw [hsame]
  show (runBursts 100 sampleCrypto (init { m_confRGooseNum := 1, m_gooseEntries := 1 })
    [[sampleRGooseRx 0 1 3]]).gooseSources.map (·.m_stNum) = [3]
  decide +kernel

end ProcessBus
