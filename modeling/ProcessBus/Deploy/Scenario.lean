import ProcessBus.Deploy.Watch
import Mathlib.Tactic.Linarith

/-!
# One scenario

What `run_one` does to the runs of other scenarios (nothing), that its loop ends, when it stops a
run early, and what a scenario has done that it reports.
-/

namespace ProcessBus

open Relation Script Surroundings RunView

variable {row : Row} {w w' : World} {id : RunId}

/-! ### Footprints -/

/-- A request that sets up or starts nothing but the runs of the row. -/
def Request.Of (row : Row) : Request → Prop
  | .write_params _ id _ | .start_role _ id => id.name = row.name
  | _ => True

lemma asks_preflights {allowed : Request → Prop} (h : ∀ host, allowed (.preflight host))
    (hosts : List Host) : (preflights hosts).Asks allowed := by
  induction hosts with
  | nil => trivial
  | cons host hosts ih =>
    refine .bind (asks_call.mpr (h host)) fun r => ?_
    split_ifs
    · exact ih
    · trivial

lemma asks_startBoth (row : Row) : (startBoth row).Asks (Request.Of row) := by
  refine .bind (asks_call.mpr rfl) fun procWritten => ?_
  refine .bind (asks_call.mpr rfl) fun genWritten => ?_
  split_ifs
  · refine .bind (asks_call.mpr rfl) fun proc => ?_
    split_ifs
    · refine .bind (asks_call.mpr trivial) fun _ => .bind (asks_call.mpr rfl) fun gen => ?_
      split_ifs
      · trivial
      · exact .bind (asks_call.mpr trivial) fun _ => trivial
    · trivial
  · trivial

lemma asks_stopIfAlive {host : Host} {role : Role} :
    (stopIfAlive host role).Asks (Request.Of row) := by
  refine .bind (asks_sessionAlive trivial) fun alive => ?_
  split_ifs
  · exact .bind (asks_call.mpr trivial) fun _ => trivial
  · trivial

lemma asks_watchRound (deadline : ℚ) (losing : ℕ) :
    (watchRound row deadline losing).Asks (Request.Of row) := by
  refine .bind (asks_call.mpr trivial) fun now => ?_
  split_ifs
  · refine .bind (asks_call.mpr trivial) fun _ => ?_
    refine .bind (asks_fetchLogs trivial trivial) fun _ => ?_
    refine .bind (asks_sessionAlive trivial) fun genRunning => ?_
    split_ifs
    · refine .bind (asks_call.mpr trivial) fun genLog => ?_
      refine .bind (asks_call.mpr trivial) fun procLog => ?_
      dsimp only
      generalize (if losingBadly (lastPps genLog) (lastPps procLog) then losing + 1 else 0) = count
      split_ifs
      · exact .bind (asks_call.mpr trivial) fun _ => .bind (asks_call.mpr trivial) fun _ => trivial
      · trivial
    · exact .bind (asks_sessionAlive trivial) fun _ => trivial
  · exact .bind asks_stopIfAlive fun _ => .bind asks_stopIfAlive fun _ => trivial

lemma asks_judge (cutShort : Bool) : (judge row cutShort).Asks (Request.Of row) := by
  refine .bind (asks_fetchLogs trivial trivial) fun _ => ?_
  refine .bind (asks_call.mpr trivial) fun genLog => .bind (asks_call.mpr trivial) fun procLog => ?_
  split <;> trivial

lemma asks_runOne (rounds : ℕ) (row : Row) : (runOne rounds row).Asks (Request.Of row) := by
  refine .bind (asks_call.mpr trivial) fun hosts => ?_
  refine .bind (asks_preflights (fun _ => trivial) hosts) fun failed => ?_
  split
  · trivial
  · refine .bind (asks_startBoth row) fun failed => ?_
    split
    · trivial
    · refine .bind (asks_call.mpr trivial) fun started => ?_
      refine .bind (asks_loop (fun losing => asks_watchRound _ losing) rounds 0) fun watched => ?_
      split
      · trivial
      · trivial
      · exact .bind (asks_judge true) fun _ => trivial
      · exact .bind (asks_judge false) fun _ => trivial

/-- A scenario leaves the runs of all others alone. -/
lemma triple_runOne_of_ne {P : RunView → Prop} (rounds : ℕ) (hne : id.name ≠ row.name)
    (h : ∀ v v', P v → v.Step id v' → P v') :
    devices.Triple (fun w => P (w.view id)) (runOne rounds row) fun _ w => P (w.view id) := by
  refine triple_of_leaves h ((asks_runOne rounds row).mono fun c hc => ?_)
  cases c with
  | write_params host id' params | start_role host id' =>
    rintro rfl
    exact hne hc
  | _ => trivial

/-! ### What never gets less -/

/-- Nothing is forgotten, and the clock does not go back. -/
structure World.Grows (w w' : World) : Prop where
  history : w.history <+: w'.history
  reads : w.reads <+: w'.reads
  clock : w.clock ≤ w'.clock

namespace World.Grows

variable {host : Host} {role : Role} {w₁ w₂ : World}

lemma refl (w : World) : w.Grows w := ⟨List.prefix_rfl, List.prefix_rfl, le_rfl⟩

lemma trans (h : w.Grows w₁) (h' : w₁.Grows w₂) : w.Grows w₂ :=
  ⟨h.history.trans h'.history, h.reads.trans h'.reads, h.clock.trans h'.clock⟩

lemma act (w : World) (host : Host) (id : RunId) (phase : Option Phase) (log : Option (List Text))
    (events : List DeviceEvent) : w.Grows (w.act host id phase log events) :=
  ⟨List.prefix_append _ _, List.prefix_rfl, le_rfl⟩

lemma drift (h : Drift w w') : w.Grows w' := by
  cases h with
  | tick h => exact ⟨List.prefix_rfl, List.prefix_rfl, h⟩
  | run hsession hstep => exact act ..
  | reboot host keep => exact ⟨List.prefix_rfl, List.prefix_rfl, le_rfl⟩

lemma drifts (h : ReflTransGen Drift w w') : w.Grows w' := by
  induction h with
  | refl => exact refl w
  | tail _ hstep ih => exact ih.trans (drift hstep)

lemma stopsApp {ok : Prop} (h : StopsApp host role ok w w') : w.Grows w' := by
  obtain ⟨w₁, hsignals, hdrift, _⟩ := h
  refine trans ?_ (drifts hdrift)
  cases hsignals with
  | running h => exact act ..
  | idle h => exact refl w

lemma kills (h : KillsSession host role w w') : w.Grows w' := by
  cases h with
  | running RC h => exact act ..
  | idle h hidle => exact act ..
  | none h => exact refl w

theorem serve {c : Request} {r : Option (Reply c)} (h : ProcessBus.serve c w r w') :
    w.Grows w' := by
  cases c with
  | time | walk hosts | hasSession host role => rw [h.1]; exact refl w
  | reach host | copyRunner host | testSentinel host | setupPlatform host => rw [h]; exact refl w
  | sleep n =>
    obtain ⟨t, ht, _, rfl⟩ := h
    exact ⟨List.prefix_rfl, List.prefix_rfl, ht⟩
  | preflight host =>
    cases h with
    | lost h => exact refl w
    | gen h hstop => exact stopsApp hstop
    | both hgen hproc => exact (stopsApp hgen).trans (stopsApp hproc)
  | stop_role host role =>
    cases h with
    | lost => exact refl w
    | app hstop => exact stopsApp hstop
    | session hstop hdrift hkill =>
      exact ((stopsApp hstop).trans (drifts hdrift)).trans (kills hkill)
  | write_params host id params =>
    rcases h with ⟨_, rfl | ⟨params', rfl⟩⟩ | rfl
    all_goals exact ⟨List.prefix_rfl, List.prefix_rfl, le_rfl⟩
  | start_role host id =>
    rcases h with ⟨_, rfl⟩ | ⟨_, rfl⟩
    · exact refl _
    · exact act ..
  | scp_from host id =>
    rcases h with rfl | ⟨log, copy, _, _, rfl⟩
    all_goals exact ⟨List.prefix_rfl, List.prefix_rfl, le_rfl⟩
  | readLog id =>
    rcases h with ⟨_, rfl⟩ | ⟨_, rfl⟩
    · exact refl _
    · exact ⟨List.prefix_rfl, List.prefix_append _ _, le_rfl⟩

theorem runs {α : Type} {s : Script Reply α} {o : Option α} (h : devices.Runs s w o w') :
    w.Grows w' := by
  induction h with
  | done a w => exact refl w
  | interrupted w => exact refl w
  | ask hdrift hserve _ ih => exact ((drifts hdrift).trans (serve hserve)).trans ih

end World.Grows

/-! ### The deadline -/

/-- The clock does not fall behind. -/
lemma stable_clock {P : ℚ → Prop} (h : ∀ t t', P t → t ≤ t' → P t') :
    devices.Stable fun w => P w.clock :=
  fun _ _ hw hdrift => h _ _ hw (World.Grows.drift hdrift).clock

lemma triple_clock {α : Type} {P : ℚ → Prop} (s : Script Reply α)
    (h : ∀ t t', P t → t ≤ t' → P t') :
    devices.Triple (fun w => P w.clock) s fun _ w => P w.clock :=
  fun _ _ _ hw hruns => h _ _ hw (World.Grows.runs hruns).clock

/-- With `n` rounds left, the deadline is at most `n - 1` polls away. -/
def InTime (deadline : ℚ) (n : ℕ) (t : ℚ) : Prop := 0 < n ∧ deadline ≤ t + (n - 1 : ℕ) * POLL

lemma inTime_mono {deadline : ℚ} {n : ℕ} : ∀ t t', InTime deadline n t → t ≤ t' →
    InTime deadline n t' := fun _ _ h ht => ⟨h.1, h.2.trans (by linarith)⟩

lemma triple_watchRound_clock (deadline : ℚ) (n : ℕ) (losing : ℕ) :
    devices.Triple (fun w => InTime deadline (n + 1) w.clock) (watchRound row deadline losing)
      fun o w => match o with
        | some (.next _) => InTime deadline n w.clock
        | some .hang => False
        | _ => True := by
  refine .bind (M := fun r w => ∀ t, r = some t → deadline ≤ t + n * POLL ∧ t ≤ w.clock) ?_
    (fun now => ?_) fun _ _ => trivial
  · refine .call (stable_clock inTime_mono) ?_
    rintro w r w' hw ⟨rfl, hr⟩ t ht
    rw [hr t ht]
    exact ⟨hw.2, le_rfl⟩
  split_ifs with hnow
  · refine .bind (M := fun r w => r = some () → InTime deadline n w.clock) ?_ (fun _ => ?_)
      fun _ _ => trivial
    · refine .call (stable_clock (P := fun clock => ∀ t, some now = some t →
        deadline ≤ t + n * POLL ∧ t ≤ clock) fun t t' h ht s hs => ?_) ?_
      · exact ⟨(h s hs).1, (h s hs).2.trans ht⟩
      rintro w r w' hw ⟨t, _, hslept, rfl⟩ hr
      obtain ⟨hdeadline, hclock⟩ := hw now rfl
      have hpos : 0 < n := by
        rcases Nat.eq_zero_or_pos n with rfl | hpos
        · rw [Nat.cast_zero, zero_mul, add_zero] at hdeadline
          exact absurd hnow (not_lt.mpr hdeadline)
        · exact hpos
      have hcast : ((n - 1 : ℕ) : ℚ) = n - 1 := by rw [Nat.cast_sub hpos, Nat.cast_one]
      refine ⟨hpos, ?_⟩
      rw [hcast]
      linarith [hslept hr]
    have hkept : ∀ {α : Type} (s : Script Reply α), devices.Triple
        (fun w => InTime deadline n w.clock) s fun _ w => InTime deadline n w.clock := fun s =>
      triple_clock s inTime_mono
    refine .bind ((hkept _).mono (fun _ h => h rfl) fun _ _ => id) (fun _ => ?_) fun _ _ => trivial
    refine .bind (hkept _) (fun genRunning => ?_) fun _ _ => trivial
    split_ifs
    · refine .bind (hkept _) (fun genLog => ?_) fun _ _ => trivial
      refine .bind (hkept _) (fun procLog => ?_) fun _ _ => trivial
      dsimp only
      generalize (if losingBadly (lastPps genLog) (lastPps procLog) then losing + 1 else 0) = count
      split_ifs
      · refine .bind (hkept _) (fun _ => ?_) fun _ _ => trivial
        exact .bind (hkept _) (fun _ => .done fun _ _ => trivial) fun _ _ => trivial
      · exact .done fun _ h => h
    · refine .bind (hkept _) (fun procRunning => .done fun w h => ?_) fun _ _ => trivial
      cases procRunning
      · exact trivial
      · exact h
  · refine .bind (.any _ _) (fun _ => ?_) fun _ _ => trivial
    exact .bind (.any _ _)
      (fun _ => .done fun _ _ => trivial) fun _ _ => trivial

/-- The loop ends within its rounds. -/
lemma triple_watch_ends (deadline : ℚ) (rounds : ℕ) :
    devices.Triple (fun w => InTime deadline rounds w.clock)
      (loop (watchRound row deadline) rounds 0) fun o _ => o ≠ some none := by
  refine .loop (fun n _ (w : World) => InTime deadline n w.clock)
    (fun _ w hw => absurd hw.1 (lt_irrefl 0)) (fun n losing => ?_) rounds 0
  refine (triple_watchRound_clock deadline n losing).mono (fun _ => id) fun o w hw => ?_
  rcases o with _ | (watched | losing | _)
  · exact nofun
  · exact nofun
  · exact hw
  · exact hw.elim

lemma inTime_watchRounds (t : ℚ) :
    InTime (t + row.duration + STARTUP_MARGIN) (watchRounds row) t := by
  refine ⟨Nat.succ_pos _, ?_⟩
  have hrounds : row.duration + STARTUP_MARGIN ≤ (watchRounds row - 1 : ℕ) * (POLL : ℤ) := by
    simp only [watchRounds, POLL, STARTUP_MARGIN]
    omega
  have hcast : (row.duration + STARTUP_MARGIN : ℚ) ≤ (watchRounds row - 1 : ℕ) * (POLL : ℚ) := by
    exact_mod_cast hrounds
  linarith

lemma triple_runOne_ends (row : Row) :
    devices.Triple (fun _ => True) (runOne (watchRounds row) row) fun o _ => o ≠ some none := by
  refine .bind (.any _ _) (fun hosts => ?_) fun _ _ => nofun
  refine .bind (.any _ _) (fun failed => ?_) fun _ _ => nofun
  cases failed with
  | some reason => exact .done fun _ _ => nofun
  | none =>
    refine .bind (.any _ _) (fun failed => ?_) fun _ _ => nofun
    cases failed with
    | some reason => exact .done fun _ _ => nofun
    | none =>
      refine .bind (M := fun r w => ∀ t : ℚ, r = some t → t ≤ w.clock) ?_ (fun started => ?_)
        fun _ _ => nofun
      · refine .call (fun _ _ _ _ => trivial) ?_
        rintro w r w' - ⟨rfl, hr⟩ t ht
        have hnow : t = w'.clock := hr t ht
        exact hnow.le
      refine .bind ((triple_watch_ends _ _).mono (fun w hw => ?_) fun _ _ => id) (fun watched => ?_)
        fun _ _ => nofun
      · exact inTime_mono started w.clock (inTime_watchRounds started) (hw started rfl)
      cases watched with
      | none => exact .mono (.done fun _ h => absurd rfl h) (fun _ => id) fun _ _ h => h
      | some watched =>
        cases watched with
        | overdue => exact .done fun _ _ => nofun
        | cut_short => exact .bind (.any _ _) (fun _ => .done fun _ _ => nofun) fun _ _ => nofun
        | finished => exact .bind (.any _ _) (fun _ => .done fun _ _ => nofun) fun _ _ => nofun

/-! ### Runs that are stopped early -/

/-- The last thing that was read is a sample with great losses. -/
def LosingSample (row : Row) (reads : List (RunId × LogFile)) : Prop :=
  ∃ pre gen proc, reads = pre ++ [(row.gen, gen), (row.proc, proc)] ∧
    losingBadly (lastPps gen) (lastPps proc) = true

/-- There have been two such samples in a row. -/
def LosingTwice (row : Row) (reads : List (RunId × LogFile)) : Prop :=
  ∃ pre post gen proc gen' proc', reads = pre ++ [(row.gen, gen), (row.proc, proc),
      (row.gen, gen'), (row.proc, proc')] ++ post ∧
    losingBadly (lastPps gen) (lastPps proc) = true ∧
    losingBadly (lastPps gen') (lastPps proc') = true

lemma LosingTwice.mono {reads reads' : List (RunId × LogFile)} (h : LosingTwice row reads)
    (hle : reads <+: reads') : LosingTwice row reads' := by
  obtain ⟨pre, post, gen, proc, gen', proc', rfl, hfirst, hsecond⟩ := h
  obtain ⟨more, rfl⟩ := hle
  exact ⟨pre, post ++ more, gen, proc, gen', proc', by simp, hfirst, hsecond⟩

/-- A request that reads no log. -/
def Request.Unread : Request → Prop
  | .readLog _ => False
  | _ => True

lemma reads_drift (h : Drift w w') : w'.reads = w.reads := by
  cases h <;> rfl

lemma reads_drifts (h : ReflTransGen Drift w w') : w'.reads = w.reads := by
  induction h with
  | refl => rfl
  | tail _ hstep ih => exact (reads_drift hstep).trans ih

lemma reads_stopsApp {host : Host} {role : Role} {ok : Prop} (h : StopsApp host role ok w w') :
    w'.reads = w.reads := by
  obtain ⟨w₁, hsignals, hdrift, _⟩ := h
  refine (reads_drifts hdrift).trans ?_
  cases hsignals <;> rfl

lemma reads_kills {host : Host} {role : Role} (h : KillsSession host role w w') :
    w'.reads = w.reads := by
  cases h <;> rfl

lemma reads_serve {c : Request} (hc : c.Unread) {r : Option (Reply c)} (h : serve c w r w') :
    w'.reads = w.reads := by
  cases c with
  | readLog id => exact hc.elim
  | time | walk hosts | hasSession host role => rw [h.1]
  | reach host | copyRunner host | testSentinel host | setupPlatform host => rw [h]
  | sleep n =>
    obtain ⟨t, _, _, rfl⟩ := h
    rfl
  | preflight host =>
    cases h with
    | lost h => rfl
    | gen h hstop => exact reads_stopsApp hstop
    | both hgen hproc => exact (reads_stopsApp hproc).trans (reads_stopsApp hgen)
  | stop_role host role =>
    cases h with
    | lost => rfl
    | app hstop => exact reads_stopsApp hstop
    | session hstop hdrift hkill =>
      exact ((reads_kills hkill).trans (reads_drifts hdrift)).trans (reads_stopsApp hstop)
  | write_params host id params => rcases h with ⟨_, rfl | ⟨params', rfl⟩⟩ | rfl <;> rfl
  | start_role host id => rcases h with ⟨_, rfl⟩ | ⟨_, rfl⟩ <;> rfl
  | scp_from host id => rcases h with rfl | ⟨log, copy, _, _, rfl⟩ <;> rfl

lemma triple_unread {α : Type} {P : List (RunId × LogFile) → Prop} {s : Script Reply α}
    (hs : s.Asks Request.Unread) :
    devices.Triple (fun w => P w.reads) s fun _ w => P w.reads := by
  refine .of_asks (fun w w' hw hdrift => ?_) (fun c hc w r w' hw hserve => ?_) hs
  · rwa [reads_drift hdrift]
  · rwa [reads_serve hc hserve]

lemma triple_readLog_reads (reads : List (RunId × LogFile)) :
    devices.Triple (fun w => w.reads = reads) (request (.readLog id)) fun r w =>
      ∀ log : LogFile, r = some log → w.reads = reads ++ [(id, log)] := by
  refine .call (fun w w' hw hdrift => (reads_drift hdrift).trans hw) ?_
  rintro w r w' rfl (⟨rfl, rfl⟩ | ⟨rfl, rfl⟩) log hlog
  · cases hlog
  · cases hlog
    rfl

/-- Before a round that counts `losing` samples with great losses. -/
def Counted (row : Row) (losing : ℕ) (reads : List (RunId × LogFile)) : Prop :=
  0 < losing → LosingSample row reads

/-- What a round leaves, or the two samples that ended it. -/
def Row.AfterSample (row : Row) : Option (Round Watched ℕ) → World → Prop
  | some (.next losing), w => Counted row losing w.reads
  | some (.done .cut_short), w => isBurst row = false ∧ LosingTwice row w.reads
  | _, _ => True

lemma triple_sample_reads (losing : ℕ) {reads : List (RunId × LogFile)}
    (hcount : Counted row losing reads) :
    devices.Triple (fun w => w.reads = reads) (sample row losing) row.AfterSample := by
  refine .bind (triple_readLog_reads reads) (fun genLog => ?_) fun _ _ => trivial
  refine .bind ((triple_readLog_reads (reads ++ [(row.gen, genLog)])).mono (fun w hw => hw _ rfl)
    fun _ _ => id) (fun procLog => ?_) fun _ _ => trivial
  have hread : ∀ w : World, (∀ log : LogFile, some procLog = some log →
      w.reads = reads ++ [(row.gen, genLog)] ++ [(row.proc, log)]) →
      w.reads = reads ++ [(row.gen, genLog), (row.proc, procLog)] := by
    intro w hw
    rw [hw procLog rfl, List.append_assoc]
    rfl
  by_cases hlosing : losingBadly (lastPps genLog) (lastPps procLog) = true
  · dsimp only
    rw [if_pos hlosing]
    split_ifs with hcut
    · have htwice : isBurst row = false ∧
          LosingTwice row (reads ++ [(row.gen, genLog), (row.proc, procLog)]) := by
        refine ⟨by simpa using hcut.2, ?_⟩
        obtain ⟨pre, gen, proc, rfl, hfirst⟩ := hcount (Nat.le_of_succ_le_succ hcut.1)
        exact ⟨pre, [], gen, proc, genLog, procLog, by simp, hfirst, hlosing⟩
      have hstop : ∀ host role, devices.Triple
          (fun w => isBurst row = false ∧ LosingTwice row w.reads) (request (.stop_role host role))
          fun _ w => isBurst row = false ∧ LosingTwice row w.reads := fun host role =>
        triple_unread (P := fun reads => isBurst row = false ∧ LosingTwice row reads)
          (asks_call.mpr trivial)
      refine .bind ((hstop _ _).mono (fun w hw => ?_) fun _ _ => id) (fun _ => ?_)
        fun _ _ => trivial
      · rwa [hread w hw]
      exact .bind (hstop _ _) (fun _ => .done fun _ => id) fun _ _ => trivial
    · refine .done fun w hw _ => ?_
      exact ⟨reads, genLog, procLog, hread w hw, hlosing⟩
  · dsimp only
    rw [if_neg hlosing]
    split_ifs with hcut
    · exact absurd hcut.1 (by decide)
    · exact .done fun w hw hpos => absurd hpos (lt_irrefl 0)

lemma triple_watchRound_reads (deadline : ℚ) (losing : ℕ) :
    devices.Triple (fun w => Counted row losing w.reads) (watchRound row deadline losing)
      row.AfterSample := by
  have hkept : ∀ {α : Type} {s : Script Reply α}, s.Asks Request.Unread → devices.Triple
      (fun w => Counted row losing w.reads) s fun _ w => Counted row losing w.reads := triple_unread
  refine .bind (hkept (asks_call.mpr trivial)) (fun now => ?_) fun _ _ => trivial
  split_ifs
  · refine .bind (hkept (asks_call.mpr trivial)) (fun _ => ?_) fun _ _ => trivial
    refine .bind (hkept (asks_fetchLogs trivial trivial)) (fun _ => ?_) fun _ _ => trivial
    refine .bind (hkept (asks_sessionAlive trivial)) (fun genRunning => ?_) fun _ _ => trivial
    split_ifs
    · exact fun w o w' hw hruns => triple_sample_reads losing hw w o w' rfl hruns
    · refine .bind (hkept (asks_sessionAlive trivial)) (fun procRunning => .done fun w hw => ?_)
        fun _ _ => trivial
      cases procRunning
      · exact trivial
      · exact hw
  · refine .bind (.any _ _) (fun _ => ?_) fun _ _ => trivial
    exact .bind (.any _ _) (fun _ => .done fun _ _ => trivial) fun _ _ => trivial

/-- A run is cut short only behind two such samples, and never a burst run. -/
lemma triple_watch_reads (deadline : ℚ) (rounds : ℕ) :
    devices.Triple (fun _ => True) (loop (watchRound row deadline) rounds 0) fun o w =>
      o = some (some .cut_short) → isBurst row = false ∧ LosingTwice row w.reads := by
  refine Triple.mono (.loop (fun _ losing (w : World) => Counted row losing w.reads)
    (fun _ _ _ => nofun) (fun _ losing => ?_) rounds 0) (fun _ _ => nofun) fun _ _ => id
  refine (triple_watchRound_reads deadline losing).mono (fun _ => id) fun o w hw => ?_
  rcases o with _ | (watched | losing | _)
  · exact nofun
  · cases watched
    · exact nofun
    · exact fun _ => hw
    · exact nofun
  · exact hw
  · exact nofun

/-! ### One scenario -/

/-- Nothing of the row's runs exists. -/
def Row.Fresh (row : Row) (w : World) : Prop := (w.view row.gen).Fresh ∧ (w.view row.proc).Fresh

lemma triple_judge_early (cutShort : Bool) :
    devices.Triple (fun _ => True) (judge row cutShort) fun o _ =>
      ∀ res early, o = some (.ok res early) → early = cutShort := by
  refine .bind (.any _ _) (fun _ => ?_) fun _ _ => nofun
  refine .bind (.any _ _) (fun genLog => .bind (.any _ _) (fun procLog => ?_) fun _ _ => nofun)
    fun _ _ => nofun
  split
  · exact .done fun _ _ _ _ => nofun
  · refine .done fun _ _ res early hok => ?_
    rw [Option.some.injEq] at hok
    split_ifs at hok <;> cases hok <;> rfl

/-- A scenario that is not stopped early has run. -/
lemma triple_runOne_ran (rounds : ℕ) : devices.Triple row.Fresh (runOne rounds row) fun o w =>
    ∀ res, o = some (some (.ok res false)) → row.Ran w := by
  have hfresh : ∀ {α : Type} {s : Script Reply α}, s.Asks (fun c => ∀ id, c.Leaves id) →
      devices.Triple row.Fresh s fun _ => row.Fresh := fun hs =>
    .and (triple_of_leaves fresh_step (hs.mono fun c hc => hc _))
      (triple_of_leaves fresh_step (hs.mono fun c hc => hc _))
  refine .bind (hfresh (asks_call.mpr fun _ => trivial)) (fun hosts => ?_) fun _ _ => nofun
  refine .bind (hfresh (asks_preflights (fun _ _ => trivial) hosts)) (fun failed => ?_)
    fun _ _ => nofun
  cases failed with
  | some reason => exact .done fun _ _ _ => nofun
  | none =>
    refine .bind triple_startBoth (fun failed => ?_) fun _ _ => nofun
    cases failed with
    | some reason => exact .done fun _ _ _ => nofun
    | none =>
      have hkept : devices.Triple row.Started (request .time) fun _ => row.Started :=
        Row.started_of_spares (asks_call.mpr trivial) (asks_call.mpr trivial)
      refine .bind (hkept.mono (fun w hw => hw rfl) fun _ _ => id) (fun started => ?_)
        fun _ _ => nofun
      refine .bind (triple_watch _ _) (fun watched => ?_) fun _ _ => nofun
      cases watched with
      | none => exact .done fun _ _ _ => nofun
      | some watched =>
        cases watched with
        | overdue => exact .done fun _ _ _ => nofun
        | cut_short =>
          refine .bind ((triple_judge_early true).mono (fun _ _ => trivial) fun _ _ => id)
            (fun outcome => .done fun w hw res hok => ?_) fun _ _ => nofun
          cases hok
          exact absurd (hw res false rfl) Bool.false_ne_true
        | finished =>
          refine .bind (triple_judge.mono (fun w hw => hw rfl) fun _ _ => id)
            (fun outcome => .done fun w hw res hok => ?_) fun _ _ => nofun
          cases hok
          exact (hw res false rfl).2

/-- One that is stopped early has lost twice in a row. -/
lemma triple_runOne_cut (rounds : ℕ) : devices.Triple (fun _ => True) (runOne rounds row)
    fun o w => ∀ res, o = some (some (.ok res true)) →
      isBurst row = false ∧ LosingTwice row w.reads := by
  refine .bind (.any _ _) (fun hosts => ?_) fun _ _ => nofun
  refine .bind (.any _ _) (fun failed => ?_) fun _ _ => nofun
  cases failed with
  | some reason => exact .done fun _ _ _ => nofun
  | none =>
    refine .bind (.any _ _) (fun failed => ?_) fun _ _ => nofun
    cases failed with
    | some reason => exact .done fun _ _ _ => nofun
    | none =>
      refine .bind (.any _ _) (fun started => ?_) fun _ _ => nofun
      refine .bind ((triple_watch_reads _ _).mono (fun _ _ => trivial) fun _ _ => id)
        (fun watched => ?_) fun _ _ => nofun
      cases watched with
      | none => exact .done fun _ _ _ => nofun
      | some watched =>
        cases watched with
        | overdue => exact .done fun _ _ _ => nofun
        | cut_short =>
          refine .bind (M := fun _ w => isBurst row = false ∧ LosingTwice row w.reads)
            (fun w o w' hw hruns => ?_) (fun outcome => .done fun w hw res hok => hw)
            fun _ _ _ => nofun
          exact ⟨(hw rfl).1, (hw rfl).2.mono (World.Grows.runs hruns).reads⟩
        | finished =>
          refine .bind ((triple_judge_early false).mono (fun _ _ => trivial) fun _ _ => id)
            (fun outcome => .done fun w hw res hok => ?_) fun _ _ => nofun
          cases hok
          exact absurd (hw res true rfl).symm Bool.false_ne_true

end ProcessBus
