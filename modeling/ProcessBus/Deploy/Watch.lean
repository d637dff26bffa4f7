import ProcessBus.Deploy.Runner
import ProcessBus.Deploy.Views

/-!
# One run of a batch

From the time a run is set up to the time it is judged: what its view can be, as long as it is left
alone. The runner goes on only if the logs it has fetched say that both applications have ended with
0, and such a log is there only if they have.
-/

namespace ProcessBus

open Relation Script Surroundings

/-- The application runs or is about to start. -/
def Phase.Pending : Phase → Prop
  | .launched | .foreground .. => True
  | .returned _ | .recorded => False

namespace RunView

def Pending (v : RunView) (host : Host) : Prop := ∃ p, v.phase host = some p ∧ p.Pending

/-- Nothing is pending, and this is all that has happened. -/
structure Still (events : List DeviceEvent) (v : RunView) : Prop where
  events : v.events = events
  idle : ∀ host, ¬ v.Pending host

/-- There is nothing of the run anywhere. -/
structure Fresh (v : RunView) : Prop where
  phase : ∀ host, v.phase host = none
  log : ∀ host, v.log host = none
  copy : v.copy = none
  events : v.events = []

variable {id : RunId} {v v' : RunView} {host h' : Host} {phase : Option Phase}
  {log : Option (List Text)} {events evs : List DeviceEvent}

@[simp] lemma act_phase : (v.act host phase log events).phase host = phase := by simp [act]

@[simp] lemma act_log : (v.act host phase log events).log host = log := by simp [act]

@[simp] lemma act_params : (v.act host phase log events).params = v.params := rfl

@[simp] lemma act_copy : (v.act host phase log events).copy = v.copy := rfl

@[simp] lemma act_events : (v.act host phase log events).events = v.events ++ events := rfl

lemma pending_act : (v.act host phase log events).Pending h' ↔
    if h' = host then ∃ p, phase = some p ∧ p.Pending else v.Pending h' := by
  by_cases h : h' = host
  · subst h
    simp [Pending, act]
  · simp [Pending, act, h]

/-- A step of a run that is not pending, which ends no other way. -/
lemma Still.act (h : v.Still evs) (hphase : ∀ p, phase = some p → ¬ p.Pending) :
    (v.act host phase log []).Still evs := by
  refine ⟨by simp [RunView.act, h.events], fun h' => ?_⟩
  rw [pending_act]
  split_ifs
  · rintro ⟨p, hp, hpending⟩
    exact hphase p hp hpending
  · exact h.idle h'

lemma Still.step (h : v.Still evs) (hstep : v.Step id v') : v'.Still evs := by
  cases hstep with
  | calm hcalm =>
    cases hcalm with
    | fetch hlog hcopy => exact ⟨h.events, h.idle⟩
    | drift hdrift =>
      cases hdrift with
      | refl => exact h
      | reboot host hlog => exact h.act nofun
      | @run host p phase' log' events hphase hstep =>
        have hidle : ¬ p.Pending := fun hp => h.idle host ⟨p, hphase, hp⟩
        cases hstep with
        | begin | giveUp | print | exit => exact absurd trivial hidle
        | record => exact h.act fun p hp => by cases hp; exact fun hpending => hpending
        | leave => exact h.act nofun
  | stop hstop =>
    cases hstop with
    | @signal host p s hphase | @kill host p s RC hphase =>
      exact absurd ⟨_, hphase, trivial⟩ (h.idle host)
    | close hphase => exact h.act nofun

lemma Fresh.step (h : v.Fresh) (hstep : v.Step id v') : v'.Fresh := by
  have hact : ∀ host log, log = none → (v.act host none log []).Fresh := by
    rintro host log rfl
    refine ⟨fun h' => ?_, fun h' => ?_, h.copy, by simp [RunView.act, h.events]⟩
    · by_cases hh : h' = host <;> simp [RunView.act, hh, h.phase]
    · by_cases hh : h' = host <;> simp [RunView.act, hh, h.log]
  cases hstep with
  | calm hcalm =>
    cases hcalm with
    | @fetch host log copy hlog hcopy =>
      rw [h.log] at hlog
      cases hlog
    | drift hdrift =>
      cases hdrift with
      | refl => exact h
      | @run host p phase' log' events hphase hstep =>
        rw [h.phase] at hphase
        cases hphase
      | @reboot host log' hlog =>
        rw [h.log, or_self] at hlog
        exact hact host log' hlog
  | stop hstop =>
    cases hstop with
    | @signal host p s hphase | @kill host p s RC hphase =>
      rw [h.phase] at hphase
      cases hphase
    | @close host hphase => exact hact host _ (h.log host)

/-! ### A run that is left alone -/

/-- The application has started with these parameters and ended by itself. -/
def Over (id : RunId) (host : Host) (p : RunParams) (RC : ℕ) (v : RunView) : Prop :=
  v.Still [.started host id p, .exited host id RC false]

/-- What the phase says about the log and the history. -/
def PhaseOf (id : RunId) (host : Host) (p : RunParams) (log : Option (List Text))
    (events : List DeviceEvent) : Option Phase → Prop
  | some .launched => log = none ∧ events = []
  | some (.foreground q s) => q = p ∧ s = false ∧ events = [.started host id p]
  | some (.returned RC) => events = [.started host id p, .exited host id RC false]
  | some .recorded | none => True

/-- A run on `host` that nobody has stopped. -/
structure Underway (id : RunId) (host : Host) (p : RunParams) (v : RunView) : Prop where
  away : ∀ h', h' ≠ host → v.phase h' = none ∧ v.log h' = none
  params : v.params host = some p
  phase : PhaseOf id host p (v.log host) v.events (v.phase host)
  log : ∀ lines, v.log host = some lines → ∀ line ∈ lines,
    statusOf line = none ∨ ∃ RC, line = statusLine RC ∧ v.Over id host p RC
  copy : exitStatus v.copy = some 0 → v.Over id host p 0

variable {p : RunParams} {RC : ℕ}

lemma not_over_of_pending (h : v.Pending host) : ¬ v.Over id h' p RC := fun hover =>
  hover.idle host h

namespace Underway

/-- While the run is pending, there is no status in its log. -/
lemma statusOf_eq_none (h : v.Underway id host p) (hpending : v.Pending host) :
    ∀ lines, v.log host = some lines → ∀ line ∈ lines, statusOf line = none := by
  intro lines hlines line hline
  rcases h.log lines hlines line hline with hnone | ⟨RC, _, hover⟩
  · exact hnone
  · exact absurd hover (not_over_of_pending hpending)

lemma exitStatus_ne (h : v.Underway id host p) (hpending : v.Pending host) :
    exitStatus v.copy ≠ some 0 := fun hcopy =>
  not_over_of_pending hpending (h.copy hcopy)

/-- A step of the run itself. -/
lemma run (h : v.Underway id host p) {ph : Phase} (hphase : v.phase host = some ph)
    (hstep : RunStep host id (v.params host) ph (v.log host) phase log events) :
    (v.act host phase log events).Underway id host p := by
  have haway : ∀ h', h' ≠ host → (v.act host phase log events).phase h' = none ∧
      (v.act host phase log events).log h' = none := by
    intro h' hne
    simpa [RunView.act, hne] using h.away h' hne
  have hover : ∀ {RC}, v.Over id host p RC → (v.act host phase log events).Over id host p RC :=
    fun hover => Still.step hover (.calm (.drift (.run hphase hstep)))
  have hcopy : v.Pending host → exitStatus v.copy = some 0 →
      (v.act host phase log events).Over id host p 0 := fun hpending hstatus =>
    absurd hstatus (h.exitStatus_ne hpending)
  have hview := h.phase
  rw [hphase] at hview
  cases hstep with
  | @begin q _ hparams =>
    rw [h.params, Option.some.injEq] at hparams
    subst hparams
    refine ⟨haway, h.params, ?_, ?_, hcopy ⟨_, hphase, trivial⟩⟩
    · simp [PhaseOf, hview.2]
    · simp
  | @giveUp _ log' hlog =>
    rw [hview.1, or_self] at hlog
    subst hlog
    exact ⟨haway, h.params, by simp [PhaseOf], by simp, hcopy ⟨_, hphase, trivial⟩⟩
  | @print q s _ line hline =>
    have hnone := h.statusOf_eq_none ⟨_, hphase, trivial⟩
    refine ⟨haway, h.params, by simpa [PhaseOf] using hview, ?_, hcopy ⟨_, hphase, trivial⟩⟩
    intro lines hlines line' hline'
    rw [act_log, Option.map_eq_some_iff] at hlines
    obtain ⟨before, hbefore, rfl⟩ := hlines
    rw [List.mem_append, List.mem_singleton] at hline'
    rcases hline' with hmem | rfl
    · exact .inl (hnone before hbefore line' hmem)
    · exact .inl hline
  | @exit q s _ RC =>
    have hnone := h.statusOf_eq_none ⟨_, hphase, trivial⟩
    refine ⟨haway, h.params, ?_, ?_, hcopy ⟨_, hphase, trivial⟩⟩
    · simp [PhaseOf, hview.2.2, hview.2.1]
    · intro lines hlines line hline
      rw [act_log] at hlines
      exact .inl (hnone lines hlines line hline)
  | @record RC _ =>
    have hthis : (v.act host (some .recorded) (some (((v.log host).getD []) ++ [statusLine RC]))
        []).Over id host p RC := by
      refine ⟨by simpa [PhaseOf] using hview, fun h' => ?_⟩
      rw [pending_act]
      split_ifs with hh
      · rintro ⟨q, hq, hpending⟩
        cases hq
        exact hpending
      · rintro ⟨q, hq, _⟩
        rw [(h.away h' hh).1] at hq
        cases hq
    refine ⟨haway, h.params, by simp [PhaseOf], ?_, fun hstatus => hover (h.copy hstatus)⟩
    intro lines hlines line hline
    rw [act_log, Option.some.injEq] at hlines
    rw [← hlines, List.mem_append, List.mem_singleton] at hline
    rcases hline with hmem | rfl
    · cases hlog : v.log host with
      | none =>
        rw [hlog] at hmem
        cases hmem
      | some before =>
        rw [hlog] at hmem
        rcases h.log before hlog line hmem with hnone | ⟨RC', hline, hold⟩
        · exact .inl hnone
        · exact .inr ⟨RC', hline, hlog ▸ hover hold⟩
    · exact .inr ⟨RC, rfl, hthis⟩
  | leave =>
    refine ⟨haway, h.params, by simp [PhaseOf], ?_, fun hstatus => hover (h.copy hstatus)⟩
    intro lines hlines line hline
    rw [act_log] at hlines
    rcases h.log lines hlines line hline with hnone | ⟨RC', hline', hold⟩
    · exact .inl hnone
    · exact .inr ⟨RC', hline', hover hold⟩

lemma reboot (h : v.Underway id host p) (hlog : log = v.log h' ∨ log = none) :
    (v.act h' none log []).Underway id host p := by
  have hover : ∀ {RC}, v.Over id host p RC → (v.act h' none log []).Over id host p RC :=
    fun hover => hover.act nofun
  by_cases hh : h' = host
  · subst hh
    refine ⟨fun h'' hne => ?_, h.params, by simp [PhaseOf], ?_,
      fun hstatus => hover (h.copy hstatus)⟩
    · simpa [RunView.act, hne] using h.away h'' hne
    · intro lines hlines line hline
      rw [act_log] at hlines
      rcases hlog with hlog | hlog
      · rcases h.log lines (hlog.symm.trans hlines) line hline with hnone | ⟨RC, hline', hold⟩
        · exact .inl hnone
        · exact .inr ⟨RC, hline', hover hold⟩
      · rw [hlog] at hlines
        cases hlines
  · obtain ⟨hphase, hnone⟩ := h.away h' hh
    rw [hnone, or_self] at hlog
    have hsame : v.act h' none log [] = v := by
      rw [RunView.act, hlog, Function.update_eq_self_iff.mpr hphase.symm,
        Function.update_eq_self_iff.mpr hnone.symm, List.append_nil]
    rwa [hsame]

/-- The log that is fetched has a status of 0 only if the run has ended with it. -/
lemma fetch (h : v.Underway id host p) {lines copy : List Text} (hlog : v.log h' = some lines)
    (hcopy : CutOf copy lines) : ({ v with copy := some copy } : RunView).Underway id host p := by
  refine ⟨h.away, h.params, h.phase, fun lines' hlines' line hline => ?_, fun hstatus => ?_⟩
  · rcases h.log lines' hlines' line hline with hnone | ⟨RC, hline', hover⟩
    · exact .inl hnone
    · exact .inr ⟨RC, hline', hover.events, hover.idle⟩
  · have hhost : h' = host := by
      by_contra hne
      rw [(h.away h' hne).2] at hlog
      cases hlog
    subst hhost
    have hmem : statusLine 0 ∈ lines := by
      refine exists_status_of_cutOf hcopy (fun line hline => ?_) hstatus
      exact (h.log lines hlog line hline).imp_right fun ⟨RC, hline', _⟩ => ⟨RC, hline'⟩
    rcases h.log lines hlog _ hmem with hnone | ⟨RC, hline, hover⟩
    · exact absurd hnone (by decide +kernel)
    · have hRC : (0 : ℕ) = RC := decimal_injective 0 (List.append_cancel_left hline)
      subst hRC
      exact ⟨hover.events, hover.idle⟩

theorem calm (h : v.Underway id host p) (hstep : v.Calm id v') : v'.Underway id host p := by
  cases hstep with
  | fetch hlog hcopy => exact h.fetch hlog hcopy
  | drift hdrift =>
    cases hdrift with
    | refl => exact h
    | reboot h' hlog => exact h.reboot hlog
    | @run h' ph phase' log' events hphase hstep =>
      have hhost : h' = host := by
        by_contra hne
        rw [(h.away h' hne).1] at hphase
        cases hphase
      subst hhost
      exact h.run hphase hstep

/-- A run that has been set up starts with its session. -/
lemma launch (hfresh : v.Fresh) (hparams : v.params host = some p) :
    (v.act host (some .launched) (v.log host) []).Underway id host p := by
  refine ⟨fun h' hne => ?_, hparams, ?_, ?_, ?_⟩
  · simp [RunView.act, hne, hfresh.phase, hfresh.log]
  · simp [PhaseOf, hfresh.log, hfresh.events]
  · simp [hfresh.log]
  · intro hstatus
    rw [act_copy, hfresh.copy] at hstatus
    simp [exitStatus, lastOf] at hstatus

end Underway

/-- Nothing but a new parameter file changes the parameters. -/
lemma Step.params_eq (h : v.Step id v') : v'.params = v.params := by
  cases h with
  | calm hcalm =>
    cases hcalm with
    | fetch hlog hcopy => rfl
    | drift hdrift => cases hdrift <;> rfl
  | stop hstop => cases hstop <;> rfl

end RunView

/-! ### Setting a run up -/

open RunView

variable {id : RunId} {host : Host} {p : RunParams}

/-- The run has its parameters, and nothing else. -/
def RunView.Written (host : Host) (p : RunParams) (v : RunView) : Prop :=
  v.Fresh ∧ v.params host = some p

lemma RunView.Written.step {v v' : RunView} (h : v.Written host p) (hstep : v.Step id v') :
    v'.Written host p :=
  ⟨h.1.step hstep, hstep.params_eq ▸ h.2⟩

lemma view_setParams_self {w : World} :
    (w.setParams host id (some p)).view id =
      { w.view id with params := Function.update (w.view id).params host (some p) } := by
  rw [World.view, World.view]
  congr 1
  · funext h'
    by_cases hh : h' = host
    · subst hh
      simp [World.phaseAt, World.setParams]
    · simp [World.phaseAt, World.setParams, hh]
  · funext h'
    by_cases hh : h' = host
    · subst hh
      simp [World.setParams]
    · simp [World.setParams, hh]
  · funext h'
    by_cases hh : h' = host
    · subst hh
      simp [World.setParams]
    · simp [World.setParams, hh]

lemma triple_write : devices.Triple (fun w => (w.view id).Fresh)
    (request (.write_params host id p)) fun r w => r = some true → (w.view id).Written host p := by
  refine .call (stable_of_calm fun v v' hv hstep => hv.step (.calm hstep)) ?_
  rintro w r w' hw (⟨hne, _⟩ | rfl) hr
  · exact absurd hr hne
  · rw [view_setParams_self]
    exact ⟨⟨hw.phase, hw.log, hw.copy, hw.events⟩, by simp⟩

lemma triple_start : devices.Triple (fun w => (w.view id).Written host p)
    (request (.start_role host id)) fun r w => Succeeded r → (w.view id).Underway id host p := by
  refine .call (stable_of_calm fun v v' hv hstep => hv.step (.calm hstep)) ?_
  rintro w r w' hw (⟨hne, _⟩ | ⟨hnone, rfl⟩) hr
  · exact absurd hr hne
  · rw [view_act_self (by simp)]
    exact .launch hw.1 hw.2

variable {row : Row}

lemma gen_ne_proc : row.gen ≠ row.proc := nofun

lemma fresh_step : ∀ v v' : RunView, v.Fresh → v.Step id v' → v'.Fresh := fun _ _ h => h.step

lemma fresh_calm : ∀ v v' : RunView, v.Fresh → v.Calm id v' → v'.Fresh := fun _ _ h hstep =>
  h.step (.calm hstep)

lemma written_calm : ∀ v v' : RunView, v.Written host p → v.Calm id v' → v'.Written host p :=
  fun _ _ h hstep => h.step (.calm hstep)

lemma underway_calm : ∀ v v' : RunView, v.Underway id host p → v.Calm id v' →
    v'.Underway id host p := fun _ _ h => h.calm

/-- Both runs of the row are underway. -/
def Row.Started (row : Row) (w : World) : Prop :=
  (w.view row.gen).Underway row.gen row.gen_host row.genParams ∧
    (w.view row.proc).Underway row.proc row.proc_host row.procParams

lemma succeeded_of_ok {r : Completed} (h : r.ok = true) : Succeeded (some r) :=
  ⟨r, rfl, of_decide_eq_true h⟩

lemma triple_startRoles :
    devices.Triple (fun w => (w.view row.gen).Written row.gen_host row.genParams ∧
      (w.view row.proc).Written row.proc_host row.procParams) (startRoles row)
      fun o w => o = some none → row.Started w := by
  refine .bind (M := fun r w => (w.view row.gen).Written row.gen_host row.genParams ∧
    (Succeeded r → (w.view row.proc).Underway row.proc row.proc_host row.procParams)) ?_ ?_ nofun
  · exact .and (triple_of_spares written_calm (asks_call.mpr gen_ne_proc.symm)) triple_start
  intro proc
  split_ifs with hproc
  · have hstarted : ∀ w : World, ((w.view row.gen).Written row.gen_host row.genParams ∧
        (Succeeded (some proc) →
          (w.view row.proc).Underway row.proc row.proc_host row.procParams)) →
        (w.view row.gen).Written row.gen_host row.genParams ∧
          (w.view row.proc).Underway row.proc row.proc_host row.procParams := fun w hw =>
      ⟨hw.1, hw.2 (succeeded_of_ok hproc)⟩
    refine .bind (M := fun _ w => (w.view row.gen).Written row.gen_host row.genParams ∧
      (w.view row.proc).Underway row.proc row.proc_host row.procParams) ?_ ?_ nofun
    · refine Triple.mono (.and ?_ ?_) hstarted fun _ _ h => h
      · exact triple_of_spares written_calm (asks_call.mpr trivial)
      · exact triple_of_spares underway_calm (asks_call.mpr trivial)
    intro _
    refine .bind (M := fun r w => (Succeeded r →
      (w.view row.gen).Underway row.gen row.gen_host row.genParams) ∧
        (w.view row.proc).Underway row.proc row.proc_host row.procParams) ?_ ?_ nofun
    · exact .and triple_start (triple_of_spares underway_calm (asks_call.mpr gen_ne_proc))
    intro gen
    split_ifs with hgen
    · exact .done fun w hw _ => ⟨hw.1 (succeeded_of_ok hgen), hw.2⟩
    · exact .bind (.any _ _)
        (fun _ => .done fun _ _ => nofun) nofun
  · exact .done fun _ _ => nofun

lemma triple_startBoth :
    devices.Triple (fun w => (w.view row.gen).Fresh ∧ (w.view row.proc).Fresh) (startBoth row)
      fun o w => o = some none → row.Started w := by
  refine .bind (M := fun r w => (w.view row.gen).Fresh ∧
    (r = some true → (w.view row.proc).Written row.proc_host row.procParams)) ?_ ?_ nofun
  · exact .and (triple_of_spares fresh_calm (asks_call.mpr gen_ne_proc.symm)) triple_write
  intro procWritten
  refine .bind (M := fun r w => (r = some true →
    (w.view row.gen).Written row.gen_host row.genParams) ∧ (some procWritten = some true →
      (w.view row.proc).Written row.proc_host row.procParams)) ?_ ?_ nofun
  · refine .and triple_write (triple_of_spares (P := fun v => some procWritten = some true →
      v.Written row.proc_host row.procParams) (fun v v' hv hstep hr => ?_) (asks_call.mpr ?_))
    · exact (hv hr).step (.calm hstep)
    · exact gen_ne_proc
  intro genWritten
  split_ifs with hwritten
  · rw [Bool.and_eq_true] at hwritten
    exact triple_startRoles.mono
      (fun w hw => ⟨hw.1 (congrArg some hwritten.2), hw.2 (congrArg some hwritten.1)⟩)
      fun _ _ h => h
  · exact .done fun _ _ => nofun

/-! ### Watching it -/

lemma Row.started_of_spares {α : Type} {s : Script Reply α} (hgen : s.Asks (Request.Spares row.gen))
    (hproc : s.Asks (Request.Spares row.proc)) :
    devices.Triple row.Started s fun _ => row.Started :=
  .and (triple_of_spares underway_calm hgen) (triple_of_spares underway_calm hproc)

lemma asks_sessionAlive {allowed : Request → Prop} {role : Role}
    (h : allowed (.hasSession host role)) : (sessionAlive host role).Asks allowed :=
  .bind (asks_call.mpr h) fun _ => trivial

lemma asks_fetchLogs {allowed : Request → Prop} (hgen : allowed (.scp_from row.gen_host row.gen))
    (hproc : allowed (.scp_from row.proc_host row.proc)) : (fetchLogs row).Asks allowed :=
  .bind (asks_call.mpr hgen) fun _ => .bind (asks_call.mpr hproc) fun _ => trivial

/-- What a round leaves if it has not stopped anything. -/
def Row.AfterRound (row : Row) : Option (Round Watched ℕ) → World → Prop
  | some (.done .finished), w | some (.next _), w => row.Started w
  | _, _ => True

lemma triple_sample (losing : ℕ) :
    devices.Triple row.Started (sample row losing) row.AfterRound := by
  refine .bind (Row.started_of_spares (asks_call.mpr trivial) (asks_call.mpr trivial))
    (fun genLog => ?_) fun _ _ => trivial
  refine .bind (Row.started_of_spares (asks_call.mpr trivial) (asks_call.mpr trivial))
    (fun procLog => ?_) fun _ _ => trivial
  dsimp only
  generalize (if losingBadly (lastPps genLog) (lastPps procLog) then losing + 1 else 0) = count
  split_ifs
  · refine .bind (.any _ _) (fun _ => ?_) fun _ _ => trivial
    exact .bind (.any _ _)
      (fun _ => .done fun _ _ => trivial) fun _ _ => trivial
  · exact .done fun _ hw => hw

lemma triple_watchRound (deadline : ℚ) (losing : ℕ) :
    devices.Triple row.Started (watchRound row deadline losing) row.AfterRound := by
  refine .bind (Row.started_of_spares (asks_call.mpr trivial) (asks_call.mpr trivial))
    (fun now => ?_) fun _ _ => trivial
  split_ifs
  · refine .bind (Row.started_of_spares (asks_call.mpr trivial) (asks_call.mpr trivial))
      (fun _ => ?_) fun _ _ => trivial
    refine .bind (Row.started_of_spares (asks_fetchLogs trivial trivial)
      (asks_fetchLogs trivial trivial)) (fun _ => ?_) fun _ _ => trivial
    refine .bind (Row.started_of_spares (asks_sessionAlive trivial) (asks_sessionAlive trivial))
      (fun genRunning => ?_) fun _ _ => trivial
    split_ifs
    · exact triple_sample losing
    · refine .bind (Row.started_of_spares (asks_sessionAlive trivial) (asks_sessionAlive trivial))
        (fun procRunning => .done fun w hw => ?_) fun _ _ => trivial
      cases procRunning <;> exact hw
  · refine .bind (.any _ _) (fun _ => ?_) fun _ _ => trivial
    exact .bind (.any _ _)
      (fun _ => .done fun _ _ => trivial) fun _ _ => trivial

/-- When both sessions are gone, nobody has stopped the run. -/
lemma triple_watch (deadline : ℚ) (rounds : ℕ) :
    devices.Triple row.Started (loop (watchRound row deadline) rounds 0) fun o w =>
      o = some (some .finished) → row.Started w := by
  refine .loop (fun _ _ w => row.Started w) (fun _ _ _ => nofun) (fun _ losing => ?_) rounds 0
  refine (triple_watchRound deadline losing).mono (fun _ => id) fun o w hw => ?_
  rcases o with _ | (watched | losing | _)
  · exact nofun
  · cases watched
    · exact fun _ => hw
    · exact nofun
    · exact nofun
  · exact hw
  · exact nofun

/-! ### Judging it -/

lemma exitStatus_of_uncleanly {log : LogFile} {role tag : Text}
    (h : uncleanly log role tag = none) :
    exitStatus log = some 0 := by
  rw [uncleanly] at h
  split at h
  · cases h
  · rename_i status hstatus
    split_ifs at h with hne
    all_goals rw [not_not.mp hne] at hstatus; exact hstatus

/-- Both applications of the row have ended by themselves, with 0. -/
def Row.Ran (row : Row) (w : World) : Prop :=
  (w.view row.gen).Over row.gen row.gen_host row.genParams 0 ∧
    (w.view row.proc).Over row.proc row.proc_host row.procParams 0

lemma exitStatus_of_finishedCleanly {genLog procLog : LogFile}
    (h : finishedCleanly genLog procLog = none) :
    exitStatus genLog = some 0 ∧ exitStatus procLog = some 0 := by
  rw [finishedCleanly] at h
  cases hgen : uncleanly genLog (ascii "gen") (ascii "SUMMARY_GEN") with
  | some reason =>
    rw [hgen] at h
    cases h
  | none =>
    rw [hgen] at h
    exact ⟨exitStatus_of_uncleanly hgen, exitStatus_of_uncleanly h⟩

/-- A log that is read is the one that was fetched. -/
lemma triple_readLog : devices.Triple (fun w => (w.view id).Underway id host p)
    (request (.readLog id)) fun r w => ∀ log, r = some log → exitStatus log = some 0 →
      (w.view id).Over id host p 0 := by
  refine .call (stable_of_calm underway_calm) ?_
  rintro w r w' hw (⟨rfl, rfl⟩ | ⟨rfl, rfl⟩) log hlog
  · cases hlog
  · cases hlog
    exact hw.copy

/-- When the logs of a run that nobody has stopped are in order, both applications have ended. -/
lemma triple_judge : devices.Triple row.Started (judge row false) fun o w =>
    ∀ res early, o = some (.ok res early) → early = false ∧ row.Ran w := by
  refine .bind (Row.started_of_spares (asks_fetchLogs trivial trivial)
    (asks_fetchLogs trivial trivial)) (fun _ => ?_) fun _ _ => nofun
  refine .bind (M := fun r w => (∀ log, r = some log → exitStatus log = some 0 →
    (w.view row.gen).Over row.gen row.gen_host row.genParams 0) ∧
      (w.view row.proc).Underway row.proc row.proc_host row.procParams) ?_ (fun genLog => ?_)
      fun _ _ => nofun
  · exact .and triple_readLog (triple_of_spares underway_calm (asks_call.mpr trivial))
  refine .bind (M := fun r w => (exitStatus genLog = some 0 →
    (w.view row.gen).Over row.gen row.gen_host row.genParams 0) ∧ ∀ log, r = some log →
      exitStatus log = some 0 → (w.view row.proc).Over row.proc row.proc_host row.procParams 0)
      ?_ (fun procLog => ?_) fun _ _ => nofun
  · refine Triple.mono (.and (triple_of_spares (P := fun v => exitStatus genLog = some 0 →
      v.Over row.gen row.gen_host row.genParams 0) (fun v v' hv hstep hstatus => ?_)
      (asks_call.mpr trivial)) triple_readLog) (fun w hw => ⟨hw.1 genLog rfl, hw.2⟩) fun _ _ => id
    exact (hv hstatus).step (.calm hstep)
  have hclean : (if false = true then none else finishedCleanly genLog procLog) =
      finishedCleanly genLog procLog := rfl
  rw [hclean]
  cases hcase : finishedCleanly genLog procLog with
  | some reason => exact .done fun _ _ _ _ => nofun
  | none =>
    obtain ⟨hgen, hproc⟩ := exitStatus_of_finishedCleanly hcase
    refine .done fun w hw res early hok => ?_
    have hran : row.Ran w := ⟨hw.1 hgen, hw.2 procLog rfl hproc⟩
    simp only [Bool.false_eq_true, if_false, Option.some.injEq] at hok
    split_ifs at hok
    cases hok
    exact ⟨rfl, hran⟩

end ProcessBus
