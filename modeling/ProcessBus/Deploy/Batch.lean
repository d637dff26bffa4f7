import ProcessBus.Deploy.Scenario

/-!
# A whole batch

What `main` promises if nothing of its scenarios is left over from before: a scenario that is
reported has run, alone and to its end, and no application gets a signal unless its receiver fell
behind or its scenario ends the batch. An old log would be taken for that of a run that never was,
and an old application is stopped before the new one starts.
-/

namespace ProcessBus

open Relation Script Surroundings RunView

variable {row : Row} {w w' : World} {id : RunId}

/-! ### Scenarios in turn -/

/-- The applications of `a` have come to their end before anything happens to those of `b`. -/
def Before (a b : Row) (history : List DeviceEvent) : Prop :=
  ∃ pre post, history = pre ++ post ∧
    ∀ role, eventsOf ⟨a.name, role⟩ post = [] ∧ eventsOf ⟨b.name, role⟩ pre = []

lemma eventsOf_append (id : RunId) (l l' : List DeviceEvent) :
    eventsOf id (l ++ l') = eventsOf id l ++ eventsOf id l' := List.filter_append ..

namespace Row

variable {a b : Row}

/-- Nothing more happens to a scenario that has run. -/
lemma Ran.eventsOf_eq (h : row.Ran w) (h' : row.Ran w') (role : Role) :
    eventsOf ⟨row.name, role⟩ w'.history = eventsOf ⟨row.name, role⟩ w.history := by
  cases role with
  | gen => exact h'.1.events.trans h.1.events.symm
  | proc => exact h'.2.events.trans h.2.events.symm

lemma Fresh.eventsOf_eq (h : row.Fresh w) (role : Role) :
    eventsOf ⟨row.name, role⟩ w.history = [] := by
  cases role with
  | gen => exact h.1.events
  | proc => exact h.2.events

/-- It is over before the next scenario begins. -/
lemma Ran.before (ha : a.Ran w) (ha' : a.Ran w') (hb : b.Fresh w) (hgrows : w.Grows w') :
    Before a b w'.history := by
  obtain ⟨post, hpost⟩ := hgrows.history
  refine ⟨w.history, post, hpost.symm, fun role => ⟨?_, hb.eventsOf_eq role⟩⟩
  have heq := ha.eventsOf_eq ha' role
  rw [← hpost, eventsOf_append] at heq
  exact List.append_right_eq_self.mp heq

lemma Ran.before_mono (ha : a.Ran w) (ha' : a.Ran w') (h : Before a b w.history)
    (hgrows : w.Grows w') : Before a b w'.history := by
  obtain ⟨pre, post, hsplit, hevents⟩ := h
  obtain ⟨more, hmore⟩ := hgrows.history
  refine ⟨pre, post ++ more, by rw [← hmore, hsplit, List.append_assoc], fun role => ?_⟩
  have heq := ha.eventsOf_eq ha' role
  rw [← hmore, eventsOf_append] at heq
  refine ⟨?_, (hevents role).2⟩
  rw [eventsOf_append, (hevents role).1, List.append_right_eq_self.mp heq]
  rfl

/-- No application of the row has got a signal. -/
lemma Ran.not_signalled (h : row.Ran w) {host : Host} (hname : id.name = row.name) :
    .signalled host id ∉ w.history := by
  intro hmem
  have hevent : DeviceEvent.signalled host id ∈ eventsOf id w.history :=
    List.mem_filter.mpr ⟨hmem, by simp [DeviceEvent.id]⟩
  obtain ⟨name, role⟩ := id
  cases hname
  cases role with
  | gen =>
    have hevents : eventsOf row.gen w.history = _ := h.1.events
    rw [Row.gen] at hevents
    rw [hevents] at hevent
    simp at hevent
  | proc =>
    have hevents : eventsOf row.proc w.history = _ := h.2.events
    rw [Row.proc] at hevents
    rw [hevents] at hevent
    simp at hevent

lemma Fresh.not_signalled (h : row.Fresh w) {host : Host} (hname : id.name = row.name) :
    .signalled host id ∉ w.history := by
  intro hmem
  have hevent : DeviceEvent.signalled host id ∈ eventsOf id w.history :=
    List.mem_filter.mpr ⟨hmem, by simp [DeviceEvent.id]⟩
  obtain ⟨name, role⟩ := id
  cases hname
  rw [h.eventsOf_eq role] at hevent
  cases hevent

end Row

/-! ### The rows of a batch -/

/-- The rows that are reported, with what is reported of them; the one the batch ends with, unless
it comes to the end of the list; and the ones behind it. -/
structure Batch (done : List (Row × Verdict × Bool)) (current : Option Row) (rest : List Row)
    (w : World) : Prop where
  fresh : ∀ row ∈ rest, row.Fresh w
  ran : ∀ e ∈ done, e.2.2 = false → e.1.Ran w
  inTurn : done.Pairwise fun a b => a.2.2 = false → Before a.1 b.1 w.history
  cut : ∀ e ∈ done, e.2.2 = true → isBurst e.1 = false ∧ LosingTwice e.1 w.reads

namespace Batch

variable {done : List (Row × Verdict × Bool)} {current : Option Row} {rest : List Row}

/-- What has been reported stays true while nothing else is started. -/
lemma mono (h : Batch done current rest w) (hgrows : w.Grows w')
    (hfresh : ∀ row ∈ rest, row.Fresh w → row.Fresh w')
    (hran : ∀ e ∈ done, e.1.Ran w → e.1.Ran w') : Batch done current rest w' := by
  refine ⟨fun row hrow => hfresh row hrow (h.fresh row hrow),
    fun e he hkept => hran e he (h.ran e he hkept), ?_,
    fun e he hcut => ⟨(h.cut e he hcut).1, (h.cut e he hcut).2.mono hgrows.reads⟩⟩
  refine h.inTurn.imp_of_mem fun {a b} ha hb hbefore hkept => ?_
  have hwas := h.ran a ha hkept
  exact hwas.before_mono (hran a ha hwas) (hbefore hkept) hgrows

/-- The next row aborts the batch. -/
lemma step_abort (h : Batch done none (row :: rest) w) (hgrows : w.Grows w')
    (hfresh : ∀ row ∈ rest, row.Fresh w → row.Fresh w')
    (hran : ∀ e ∈ done, e.1.Ran w → e.1.Ran w') : Batch done (some row) rest w' := by
  have hmono : Batch done none rest w' :=
    mono ⟨fun r hr => h.fresh r (List.mem_cons_of_mem _ hr), h.ran, h.inTurn, h.cut⟩ hgrows hfresh
      hran
  exact ⟨hmono.fresh, hmono.ran, hmono.inTurn, hmono.cut⟩

/-- The next row is reported. -/
lemma step_ok (h : Batch done none (row :: rest) w) (hgrows : w.Grows w')
    (hfresh : ∀ row ∈ rest, row.Fresh w → row.Fresh w')
    (hran : ∀ e ∈ done, e.1.Ran w → e.1.Ran w') {res : Verdict} {early : Bool}
    (hrow : early = false → row.Ran w')
    (hcut : early = true → isBurst row = false ∧ LosingTwice row w'.reads) :
    Batch (done ++ [(row, res, early)]) none rest w' := by
  have hmono := h.step_abort hgrows hfresh hran
  refine ⟨hmono.fresh, ?_, ?_, ?_⟩
  · simp only [List.forall_mem_append, List.forall_mem_singleton]
    exact ⟨hmono.ran, hrow⟩
  · rw [List.pairwise_append]
    refine ⟨hmono.inTurn, List.pairwise_singleton _ _, fun a ha b hb hkept => ?_⟩
    rw [List.mem_singleton] at hb
    subst hb
    have hwas := h.ran a ha hkept
    exact hwas.before (hran a ha hwas) (h.fresh row List.mem_cons_self) hgrows
  · simp only [List.forall_mem_append, List.forall_mem_singleton]
    exact ⟨hmono.cut, hcut⟩

end Batch

lemma Row.kept_of_runOne {other : Row} {rounds : ℕ} {o : Option (Option Outcome)}
    (hne : other.name ≠ row.name) (hruns : devices.Runs (runOne rounds row) w o w') :
    (other.Fresh w → other.Fresh w') ∧ (other.Ran w → other.Ran w') := by
  have hkept : ∀ {P : RunView → Prop} {id : RunId}, id.name = other.name →
      (∀ v v', P v → v.Step id v' → P v') → P (w.view id) → P (w'.view id) :=
    fun hname hP hw => triple_runOne_of_ne rounds (hname ▸ hne) hP w o w' hw hruns
  refine ⟨fun h => ⟨?_, ?_⟩, fun h => ⟨?_, ?_⟩⟩
  · exact hkept rfl fresh_step h.1
  · exact hkept rfl fresh_step h.2
  · exact hkept rfl (fun _ _ h => h.step) h.1
  · exact hkept rfl (fun _ _ h => h.step) h.2

/-- Nothing is started. -/
def Request.Idle (c : Request) : Prop := ∀ id, c.Leaves id

lemma Row.kept_of_idle {α : Type} {s : Script Reply α} {o : Option α}
    (hs : s.Asks Request.Idle) (hruns : devices.Runs s w o w') :
    (row.Fresh w → row.Fresh w') ∧ (row.Ran w → row.Ran w') := by
  have hkept : ∀ {P : RunView → Prop} {id : RunId}, (∀ v v', P v → v.Step id v' → P v') →
      P (w.view id) → P (w'.view id) := fun hP hw =>
    triple_of_leaves hP (hs.mono fun c hc => hc _) w o w' hw hruns
  exact ⟨fun h => ⟨hkept fresh_step h.1, hkept fresh_step h.2⟩,
    fun h => ⟨hkept (fun _ _ h => h.step) h.1, hkept (fun _ _ h => h.step) h.2⟩⟩

/-- How far a batch has come, and what it says about it if it comes to an end. -/
def Progress.Reports (o : Option (Option Progress)) (done : List (Row × Verdict × Bool))
    (current : Option Row) (rest : List Row) : Prop :=
  ∀ p, o = some (some p) → p.done = done ∧ p.aborted.map Prod.fst = current ∧
    (current = none → rest = [])

theorem runs_runRows {rows : List Row} {progress : Progress} {o : Option (Option Progress)}
    (hruns : devices.Runs (runRows rows progress) w o w') (haborted : progress.aborted = none)
    (hnames : (progress.done.map (·.1.name) ++ rows.map Row.name).Nodup)
    (h : Batch progress.done none rows w) :
    ∃ done current rest,
      progress.done.map Prod.fst ++ rows = done.map Prod.fst ++ current.toList ++ rest ∧
      Batch done current rest w' ∧ Progress.Reports o done current rest := by
  induction rows generalizing progress w with
  | nil =>
    cases hruns
    refine ⟨progress.done, none, [], by simp, h, fun p hp => ?_⟩
    cases hp
    exact ⟨rfl, by simp [haborted], fun _ => rfl⟩
  | cons row rows ih =>
    have hall := hnames
    rw [List.map_cons, List.nodup_append, List.nodup_cons] at hnames
    obtain ⟨hdone, ⟨hrow, hrows⟩, hdisjoint⟩ := hnames
    have hothers : ∀ {o : Option (Option Outcome)} {w₁ : World},
        devices.Runs (runOne (watchRounds row) row) w o w₁ →
        (∀ r ∈ rows, r.Fresh w → r.Fresh w₁) ∧ ∀ e ∈ progress.done, e.1.Ran w → e.1.Ran w₁ := by
      intro o w₁ hrun
      refine ⟨fun r hr => (Row.kept_of_runOne (fun heq => hrow ?_) hrun).1,
        fun e he => (Row.kept_of_runOne (fun heq => ?_) hrun).2⟩
      · exact heq ▸ List.mem_map_of_mem hr
      · exact hdisjoint e.1.name (List.mem_map_of_mem (f := (·.1.name)) he) row.name
          List.mem_cons_self heq
    rcases runs_bind hruns with ⟨outcome, w₁, hfirst, hthen⟩ | ⟨hfirst, rfl⟩
    · obtain ⟨hfresh, hran⟩ := hothers hfirst
      have hgrows := World.Grows.runs hfirst
      cases outcome with
      | none => exact absurd rfl (triple_runOne_ends row w _ w₁ trivial hfirst)
      | some outcome =>
        cases outcome with
        | abort reason =>
          cases hthen
          refine ⟨progress.done, some row, rows, by simp, h.step_abort hgrows hfresh hran,
            fun p hp => ?_⟩
          cases hp
          exact ⟨rfl, rfl, nofun⟩
        | ok res early =>
          have hstep : Batch (progress.done ++ [(row, res, early)]) none rows w₁ := by
            refine h.step_ok hgrows hfresh hran (fun hearly => ?_) fun hearly => ?_
            · subst hearly
              exact triple_runOne_ran _ w _ w₁ (h.fresh row List.mem_cons_self) hfirst res rfl
            · subst hearly
              exact triple_runOne_cut _ w _ w₁ trivial hfirst res rfl
          obtain ⟨done, current, rest, hsplit, hbatch, hreports⟩ :=
            ih hthen haborted (by simpa using hall) hstep
          exact ⟨done, current, rest, by simpa using hsplit, hbatch, hreports⟩
    · obtain ⟨hfresh, hran⟩ := hothers hfirst
      exact ⟨progress.done, some row, rows, by simp,
        h.step_abort (World.Grows.runs hfirst) hfresh hran, nofun⟩

/-! ### From the configuration to the end -/

lemma asks_prepareAll (hosts : List Host) : (prepareAll hosts).Asks Request.Idle := by
  induction hosts with
  | nil => trivial
  | cons host hosts ih =>
    have hprepare : (prepare host).Asks Request.Idle := by
      refine .bind (asks_call.mpr fun _ => trivial) fun reached => ?_
      split_ifs
      · refine .bind (asks_call.mpr fun _ => trivial) fun copied => ?_
        split_ifs
        · refine .bind (asks_call.mpr fun _ => trivial) fun sentinel => ?_
          split_ifs
          · trivial
          · exact .bind (asks_call.mpr fun _ => trivial) fun _ => trivial
        · trivial
      · trivial
    refine hprepare.bind fun failed => ?_
    cases failed with
    | some reason => trivial
    | none => exact ih

lemma asks_stopEverything (rows : List Row) : (stopEverything rows).Asks Request.Idle := by
  refine .bind (asks_call.mpr fun _ => trivial) fun hosts => .bind ?_ fun _ => trivial
  refine asks_forEach fun host _ => ?_
  exact .bind (asks_call.mpr fun _ => trivial) fun _ =>
    .bind (asks_call.mpr fun _ => trivial) fun _ => trivial

lemma triple_stopEverything (rows : List Row) :
    devices.Triple (fun _ => True) (stopEverything rows) fun o _ =>
      ∀ e, o = some e → e = some .interrupted := by
  refine .bind (.any _ _) (fun hosts => .bind (.any _ _) (fun _ => .done fun _ _ e he => ?_)
    fun _ _ => nofun) fun _ _ => nofun
  cases he
  rfl

namespace Batch

variable {done : List (Row × Verdict × Bool)} {current : Option Row} {rest rows : List Row}

lemma of_idle {α : Type} {s : Script Reply α} {o : Option α} (h : Batch done current rest w)
    (hs : s.Asks Request.Idle) (hruns : devices.Runs s w o w') : Batch done current rest w' :=
  h.mono (World.Grows.runs hruns) (fun _ _ => (Row.kept_of_idle hs hruns).1)
    fun _ _ => (Row.kept_of_idle hs hruns).2

/-- How a batch with these rows ends. -/
def Ends (rows : List Row) (o : Option (Option BatchEnd)) (w : World) : Prop :=
  ∃ done current rest, rows = done.map Prod.fst ++ current.toList ++ rest ∧
    Batch done current rest w ∧ ∀ p, o = some (some (.finished p)) →
      p.done = done ∧ p.aborted.map Prod.fst = current ∧ (current = none → rest = [])

lemma runs_prepareAndRun {o : Option (Option BatchEnd)} (hnames : (rows.map Row.name).Nodup)
    (hfresh : ∀ row ∈ rows, row.Fresh w) (hruns : devices.Runs (prepareAndRun rows) w o w') :
    Ends rows o w' := by
  have h : Batch [] none rows w := ⟨hfresh, nofun, .nil, nofun⟩
  rcases runs_bind hruns with ⟨failed, w₁, hprepare, hthen⟩ | ⟨hprepare, rfl⟩
  · have h₁ := h.of_idle (asks_prepareAll _) hprepare
    cases failed with
    | some failed =>
      cases hthen
      exact ⟨[], none, rows, rfl, h₁, nofun⟩
    | none =>
      rcases runs_bind hthen with ⟨progress, w₂, hrun, hend⟩ | ⟨hrun, rfl⟩
      · obtain ⟨done, current, rest, hsplit, hbatch, hreports⟩ :=
          runs_runRows hrun rfl (by simpa using hnames) h₁
        refine ⟨done, current, rest, hsplit, by cases hend; exact hbatch, fun p hp => ?_⟩
        cases progress with
        | none =>
          cases hend
          cases hp
        | some progress =>
          cases hend
          cases hp
          exact hreports _ rfl
      · obtain ⟨done, current, rest, hsplit, hbatch, _⟩ :=
          runs_runRows hrun rfl (by simpa using hnames) h₁
        exact ⟨done, current, rest, hsplit, hbatch, nofun⟩
  · exact ⟨[], none, rows, rfl, h.of_idle (asks_prepareAll _) hprepare, nofun⟩

lemma runs_mainBatch {conf : List Row} {selected : Row → Bool} {o : Option (Option BatchEnd)}
    (hfresh : ∀ row ∈ conf.filter selected, row.Fresh w)
    (hruns : devices.Runs (mainBatch conf selected) w o w') :
    Ends (conf.filter selected) o w' := by
  have hnothing : ∀ e : BatchEnd, (∀ p, e ≠ .finished p) →
      Ends (conf.filter selected) (some (some e)) w := by
    intro e he
    refine ⟨[], none, conf.filter selected, rfl, ⟨hfresh, nofun, .nil, nofun⟩, ?_⟩
    intro p hp
    cases hp
    exact absurd rfl (he p)
  rw [mainBatch] at hruns
  dsimp only at hruns
  split_ifs at hruns with hnames
  · cases hruns
    exact hnothing _ nofun
  · have hnodup : ((conf.filter selected).map Row.name).Nodup :=
      hnames.sublist (List.filter_sublist.map _)
    rcases runs_onInterrupt hruns with ⟨b, rfl, hbody⟩ | ⟨w₁, hbody, hhandler⟩
    · exact runs_prepareAndRun hnodup hfresh hbody
    · obtain ⟨done, current, rest, hsplit, hbatch, _⟩ := runs_prepareAndRun hnodup hfresh hbody
      refine ⟨done, current, rest, hsplit, hbatch.of_idle (asks_stopEverything _) hhandler,
        fun p hp => ?_⟩
      cases triple_stopEverything _ w₁ o w' trivial hhandler _ hp
  · cases hruns
    exact hnothing _ nofun

end Batch

/-! ### A batch that goes well -/

lemma drift_act {host : Host} {phase : Phase} {phase' : Option Phase}
    {log log' : Option (List Text)} {events events' : List DeviceEvent}
    (hstep : RunStep host id ((w.device host).params id) phase log phase' log' events') :
    Drift (w.act host id (some phase) log events)
      (w.act host id phase' log' (events ++ events')) := by
  have hnext : Drift (w.act host id (some phase) log events)
      ((w.act host id (some phase) log events).act host id phase' log' events') :=
    .run (by simp [World.act]; rfl) (by simpa [World.act] using hstep)
  simpa [World.act] using hnext

/-- An application that starts, prints some lines and ends by itself. -/
lemma drift_through {host : Host} {p : RunParams} {lines : List Text}
    (hsession : (w.device host).session id.role = some ⟨id.name, .launched⟩)
    (hparams : (w.device host).params id = some p) (hlines : ∀ line ∈ lines, statusOf line = none) :
    ReflTransGen Drift w (w.act host id none (some (lines ++ [statusLine 0]))
      [.started host id p, .exited host id 0 false]) := by
  have hprint : ∀ pre : List Text, (∀ line ∈ pre, statusOf line = none) → ReflTransGen Drift w
      (w.act host id (some (.foreground p false)) (some pre) [.started host id p]) := by
    intro pre hpre
    induction pre using List.reverseRecOn with
    | nil => exact .single (.run hsession (.begin hparams))
    | append_singleton pre line ih =>
      rw [List.forall_mem_append, List.forall_mem_singleton] at hpre
      exact (ih hpre.1).tail (drift_act (.print hpre.2))
  have hexit := (hprint lines hlines).tail (drift_act (.exit 0))
  exact (hexit.tail (drift_act .record)).tail (drift_act .leave)

/-- Nothing has happened yet. -/
def World.empty : World where
  clock := 0
  device := fun _ => ⟨fun _ => none, fun _ => none, fun _ => none⟩
  copy := fun _ => none
  reads := []
  history := []

lemma fresh_empty (row : Row) : row.Fresh .empty :=
  ⟨⟨fun _ => rfl, fun _ => rfl, rfl, rfl⟩, ⟨fun _ => rfl, fun _ => rfl, rfl, rfl⟩⟩

/-- A scenario on one board. -/
def sampleScenario : Row where
  name := ascii "t"
  gen_host := .blackbox
  gen_args := ascii "--goose 10"
  proc_host := .blackbox
  proc_args := ascii "--goose 10"
  gen_lcores := []
  proc_lcores := ascii "2"
  duration := 60

def sampleGenLines : List Text := [ascii "PPS | 5 |", ascii "SUMMARY_GEN"]

def sampleProcLines : List Text := [ascii "PPS | 5 |", ascii "SUMMARY_PROC"]

/-- A request that succeeds. -/
def Completed.good : Completed := { returncode := 0 }

def Completed.bad : Completed := { returncode := 1 }

lemma not_succeeded_bad : ¬ Succeeded (some .bad) := by
  rintro ⟨c, hc, hzero⟩
  cases hc
  cases hzero

section

variable {host : Host} {role : Role} {p : RunParams} {lines lines' : List Text}

lemma runs_write : devices.Runs (request (.write_params host id p)) w (some true)
    (w.setParams host id (some p)) := .call .refl (.inr rfl)

lemma runs_sleep (n : ℕ) (h : ReflTransGen Drift w w') :
    devices.Runs (request (.sleep n)) w (some ()) { w' with clock := w'.clock + n } :=
  .call h ⟨w'.clock + n, le_add_of_nonneg_right (Nat.cast_nonneg n), fun _ => le_rfl, rfl⟩

lemma runs_start (h : (w.device host).session id.role = none) :
    devices.Runs (request (.start_role host id)) w (some Completed.good)
      (w.act host id (some .launched) ((w.device host).log id) []) := .call .refl (.inr ⟨h, rfl⟩)

lemma runs_time : devices.Runs (request .time) w (some w.clock) w :=
  .call .refl ⟨rfl, fun _ h => (Option.some.inj h).symm⟩

lemma runs_read {file : LogFile} (h : w.copy id = file) :
    devices.Runs (request (.readLog id)) w (some file)
      { w with reads := w.reads ++ [(id, file)] } := by
  subst h
  exact .call .refl (.inr ⟨rfl, rfl⟩)

lemma runs_sessionAlive_false : devices.Runs (sessionAlive host role) w (some false) w :=
  .bind (.call (r := Completed.bad) .refl ⟨rfl, fun h => absurd h not_succeeded_bad⟩)
    (.done false w)

lemma runs_preflights (hgen : w.Idle host .gen) (hproc : w.Idle host .proc) :
    devices.Runs (preflights [host]) w (some none) w := by
  have hserve : serve (.preflight host) w (some Completed.good) w :=
    .both ⟨w, .idle hgen, .refl, fun _ => hgen⟩ ⟨w, .idle hproc, .refl, fun _ => hproc⟩
  exact .bind (.call .refl hserve) (.done none w)

lemma runs_fetchLogs (hgen : (w.device row.gen_host).log row.gen = some lines)
    (hproc : (w.device row.proc_host).log row.proc = some lines') :
    devices.Runs (fetchLogs row) w (some ())
      ((w.setCopy row.gen (some lines)).setCopy row.proc (some lines')) := by
  refine .bind (.call (r := Completed.good) .refl (.inr ⟨lines, lines, hgen, .refl lines, rfl⟩)) ?_
  exact .bind (.call (r := Completed.good) .refl (.inr ⟨lines', lines', hproc, .refl lines', rfl⟩))
    (.done () _)

end

/-- Both sessions of the scenario are open. -/
structure Launched (w : World) : Prop where
  proc : (w.device .blackbox).session .proc = some ⟨sampleScenario.name, .launched⟩
  gen : (w.device .blackbox).session .gen = some ⟨sampleScenario.name, .launched⟩
  procParams : (w.device .blackbox).params sampleScenario.proc = some sampleScenario.procParams
  genParams : (w.device .blackbox).params sampleScenario.gen = some sampleScenario.genParams

lemma exists_runs_startBoth (hsession : ∀ role, (w.device .blackbox).session role = none) :
    ∃ w', devices.Runs (startBoth sampleScenario) w (some none) w' ∧ Launched w' := by
  refine ⟨_, .bind runs_write (.bind runs_write (.bind (runs_start ?_) (.bind (runs_sleep _ .refl)
    (.bind (runs_start ?_) (.done none _))))), ?_⟩
  · simpa [World.setParams, sampleScenario, Row.proc] using hsession .proc
  · simpa [World.setParams, World.act, sampleScenario, Row.gen, Row.proc] using hsession .gen
  · refine ⟨?_, ?_, ?_, ?_⟩ <;> simp [World.setParams, World.act, sampleScenario, Row.gen, Row.proc]

def sampleGenLog : List Text := sampleGenLines ++ [statusLine 0]

def sampleProcLog : List Text := sampleProcLines ++ [statusLine 0]

/-- Both applications have run, and both sessions are closed. -/
structure Closed (w : World) : Prop where
  proc : (w.device .blackbox).log sampleScenario.proc = some sampleProcLog
  gen : (w.device .blackbox).log sampleScenario.gen = some sampleGenLog

lemma exists_drift_closed (h : Launched w) : ∃ w', ReflTransGen Drift w w' ∧ Closed w' := by
  have hproc := @drift_through w sampleScenario.proc .blackbox sampleScenario.procParams
    sampleProcLines h.proc h.procParams (by decide +kernel)
  have hgen := @drift_through (w.act .blackbox sampleScenario.proc none (some sampleProcLog)
      [.started .blackbox sampleScenario.proc sampleScenario.procParams,
        .exited .blackbox sampleScenario.proc 0 false])
    sampleScenario.gen .blackbox sampleScenario.genParams sampleGenLines
    (by simpa [World.act, sampleScenario, Row.gen, Row.proc] using h.gen)
    (by simpa [World.act, sampleScenario, Row.gen, Row.proc] using h.genParams)
    (by decide +kernel)
  refine ⟨_, hproc.trans hgen, ?_, ?_⟩
  · simp [World.act, sampleScenario, Row.gen, Row.proc]
  · simp [World.act, sampleScenario, Row.gen, Row.proc, sampleGenLog]

/-- With both logs in the results directory. -/
def World.fetched (w : World) : World :=
  (w.setCopy sampleScenario.gen (some sampleGenLog)).setCopy sampleScenario.proc
    (some sampleProcLog)

lemma Closed.runs_fetchLogs (h : Closed w) :
    devices.Runs (fetchLogs sampleScenario) w (some ()) w.fetched :=
  ProcessBus.runs_fetchLogs h.gen h.proc

/-- The first round finds both sessions closed. -/
lemma exists_runs_watch (h : Launched w) {deadline : ℚ} (hdeadline : w.clock < deadline) (n : ℕ) :
    ∃ w', devices.Runs (loop (watchRound sampleScenario deadline) (n + 1) 0) w
      (some (some .finished)) w' ∧ Closed w' := by
  obtain ⟨w₁, hdrift, hclosed⟩ := exists_drift_closed h
  have hslept : Closed { w₁ with clock := w₁.clock + POLL } := ⟨hclosed.proc, hclosed.gen⟩
  have hround : devices.Runs (watchRound sampleScenario deadline 0) w (some (.done .finished))
      ({ w₁ with clock := w₁.clock + POLL } : World).fetched := by
    refine .bind runs_time ?_
    rw [if_pos hdeadline]
    exact .bind (runs_sleep POLL hdrift) (.bind hslept.runs_fetchLogs
      (.bind runs_sessionAlive_false (.bind runs_sessionAlive_false (.done _ _))))
  exact ⟨_, .bind hround (.done _ _), hslept.proc, hslept.gen⟩

lemma exists_runs_judge (h : Closed w) :
    ∃ res w', devices.Runs (judge sampleScenario false) w (some (.ok res false)) w' := by
  have hclean : finishedCleanly (some sampleGenLog) (some sampleProcLog) = none := by
    decide +kernel
  have hvoid : (verdict (some sampleGenLog) (some sampleProcLog)).cls ≠ .VOID := by
    decide +kernel
  have hgen : w.fetched.copy sampleScenario.gen = some sampleGenLog := by
    simp [World.fetched, World.setCopy, Row.gen, Row.proc]
  have hproc : w.fetched.copy sampleScenario.proc = some sampleProcLog := by
    simp [World.fetched, World.setCopy]
  refine ⟨verdict (some sampleGenLog) (some sampleProcLog), { w.fetched with
    reads := w.fetched.reads ++ [(sampleScenario.gen, some sampleGenLog)] ++
      [(sampleScenario.proc, some sampleProcLog)] }, .bind h.runs_fetchLogs
    (.bind (runs_read hgen) (.bind (@runs_read _ _ (some sampleProcLog) hproc) ?_))⟩
  rw [if_neg Bool.false_ne_true, hclean]
  dsimp only
  rw [if_neg Bool.false_ne_true, if_neg hvoid]
  exact .done _ _

lemma idle_of_none {host : Host} {role : Role} (h : (w.device host).session role = none) :
    w.Idle host role := by
  intro name p s hs
  rw [h] at hs
  cases hs

lemma exists_runs_runOne (hsession : ∀ role, (w.device .blackbox).session role = none) :
    ∃ res w', devices.Runs (runOne (watchRounds sampleScenario) sampleScenario) w
      (some (some (.ok res false))) w' := by
  obtain ⟨w₁, hstart, hlaunched⟩ := exists_runs_startBoth hsession
  have hdeadline : w₁.clock < w₁.clock + sampleScenario.duration + STARTUP_MARGIN := by
    norm_num [sampleScenario, STARTUP_MARGIN, add_assoc]
  obtain ⟨w₂, hwatch, hclosed⟩ := exists_runs_watch hlaunched hdeadline 16
  obtain ⟨res, w₃, hjudge⟩ := exists_runs_judge hclosed
  have hwalk : serve (.walk [Host.blackbox, .blackbox]) w (some [Host.blackbox]) w :=
    ⟨rfl, fun l hl => by cases hl; exact .refl _⟩
  refine ⟨res, w₃, .bind (.call .refl hwalk) (.bind (runs_preflights (idle_of_none (hsession _))
    (idle_of_none (hsession _))) (.bind hstart (.bind runs_time (.bind hwatch (.bind hjudge
      (.done _ w₃))))))⟩

/-- A batch of this scenario that goes well. -/
lemma exists_runs_batch : ∃ res w', devices.Runs (mainBatch [sampleScenario] fun _ => true) .empty
    (some (some (.finished { done := [(sampleScenario, res, false)] }))) w' := by
  obtain ⟨res, w', hrun⟩ := exists_runs_runOne (w := .empty) fun _ => rfl
  refine ⟨res, w', ?_⟩
  have hprepare : devices.Runs (prepareAll [.blackbox]) .empty (some none) .empty :=
    .bind (.bind (.call (r := Completed.good) .refl rfl)
      (.bind (.call (r := Completed.good) .refl rfl)
        (.bind (.call (r := Completed.good) .refl rfl) (.done none _)))) (.done none _)
  have hrows : devices.Runs (runRows [sampleScenario] {}) .empty
      (some (some { done := [(sampleScenario, res, false)] })) w' := .bind hrun (.done _ w')
  have hbody : devices.Runs (prepareAndRun [sampleScenario]) .empty
      (some (some (.finished { done := [(sampleScenario, res, false)] }))) w' :=
    .bind hprepare (.bind hrows (.done _ w'))
  have hmain : mainBatch [sampleScenario] (fun _ => true) =
      (prepareAndRun [sampleScenario]).onInterrupt (stopEverything [sampleScenario]) := by
    have hnames : ([sampleScenario].map Row.name).Nodup := List.nodup_singleton _
    exact (if_neg (not_not_intro hnames)).trans (if_neg (List.cons_ne_nil _ _))
  rw [hmain]
  exact hbody.onInterrupt _

section Main

variable {conf : List Row} {selected : Row → Bool} {o : Option (Option BatchEnd)} {p : Progress}

/-- Whatever gets lost, crashes or reboots, when the batch finds nothing of its scenarios on the
devices and no copy of their logs: a scenario that is reported, and was not stopped early, has run.
Both applications were started on their devices with the parameters of the row, ended by themselves
with 0, and got no signal before or after. They were over before the next scenario began. The exit
code is 0 if and only if all scenarios that were asked for are reported. -/
theorem reported_scenarios_ran (hfresh : ∀ row ∈ conf.filter selected, row.Fresh w)
    (hruns : devices.Runs (mainBatch conf selected) w (some (some (.finished p))) w') :
    (∀ e ∈ p.done, e.2.2 = false →
      eventsOf e.1.proc w'.history = [.started e.1.proc_host e.1.proc e.1.procParams,
        .exited e.1.proc_host e.1.proc 0 false] ∧
      eventsOf e.1.gen w'.history = [.started e.1.gen_host e.1.gen e.1.genParams,
        .exited e.1.gen_host e.1.gen 0 false]) ∧
    (p.done.Pairwise fun a b => a.2.2 = false → Before a.1 b.1 w'.history) ∧
    ((BatchEnd.finished p).code = 0 ↔ p.done.map Prod.fst = conf.filter selected) := by
  obtain ⟨done, current, rest, hsplit, hbatch, hreports⟩ := Batch.runs_mainBatch hfresh hruns
  obtain ⟨rfl, hcurrent, hrest⟩ := hreports p rfl
  refine ⟨fun e he hkept => ?_, hbatch.inTurn, ?_⟩
  · have hran := hbatch.ran e he hkept
    exact ⟨hran.2.events, hran.1.events⟩
  · cases haborted : p.aborted with
    | none =>
      rw [haborted] at hcurrent
      have hnone : current = none := hcurrent.symm
      have hall : p.done.map Prod.fst = conf.filter selected := by
        rw [hsplit, hnone, hrest hnone]
        simp
      simp [BatchEnd.code, haborted, hall]
    | some e =>
      rw [haborted] at hcurrent
      have hne : p.done.map Prod.fst ≠ conf.filter selected := by
        rw [hsplit, ← hcurrent]
        simp
      simp [BatchEnd.code, haborted, hne]

theorem reported_scenarios_ran_sample : ∃ (res : Verdict) (w' : World),
    eventsOf sampleScenario.gen w'.history =
      [.started .blackbox sampleScenario.gen sampleScenario.genParams,
        .exited .blackbox sampleScenario.gen 0 false] ∧
    (BatchEnd.finished { done := [(sampleScenario, res, false)] }).code = 0 := by
  obtain ⟨res, w', hruns⟩ := exists_runs_batch
  have h := reported_scenarios_ran (fun row _ => fresh_empty row) hruns
  exact ⟨res, w', (h.1 _ (List.mem_singleton_self _) rfl).2, h.2.2.mpr rfl⟩

/-- Even if the batch is interrupted, when it finds nothing of its scenarios on the devices: an
application of a scenario that gets a signal belongs to the one the batch ends with, or to one that
is no burst run and whose receiver fell behind in two samples in a row. -/
theorem signals_have_a_cause (hfresh : ∀ row ∈ conf.filter selected, row.Fresh w)
    (hruns : devices.Runs (mainBatch conf selected) w o w') :
    ∃ done current rest, conf.filter selected = done.map Prod.fst ++ current.toList ++ rest ∧
      (∀ p, o = some (some (.finished p)) → p.done = done ∧ p.aborted.map Prod.fst = current) ∧
      ∀ row ∈ conf.filter selected, ∀ host id, id.name = row.name →
        .signalled host id ∈ w'.history → current = some row ∨
          ∃ res, (row, res, true) ∈ done ∧ isBurst row = false ∧ LosingTwice row w'.reads := by
  obtain ⟨done, current, rest, hsplit, hbatch, hreports⟩ := Batch.runs_mainBatch hfresh hruns
  refine ⟨done, current, rest, hsplit, fun p hp => ⟨(hreports p hp).1, (hreports p hp).2.1⟩, ?_⟩
  intro row hrow host id hname hsignal
  rw [hsplit, List.mem_append, List.mem_append] at hrow
  rcases hrow with (hdone | hcurrent) | hrest
  · obtain ⟨⟨_, res, early⟩, he, rfl⟩ := List.mem_map.mp hdone
    cases early with
    | false => exact absurd hsignal ((hbatch.ran _ he rfl).not_signalled hname)
    | true => exact .inr ⟨res, he, hbatch.cut _ he rfl⟩
  · rw [Option.mem_toList] at hcurrent
    exact .inl hcurrent
  · exact absurd hsignal ((hbatch.fresh row hrest).not_signalled hname)

theorem signals_have_a_cause_sample : ∃ w' : World, ∀ host id,
    id.name = sampleScenario.name → .signalled host id ∉ w'.history := by
  obtain ⟨res, w', hruns⟩ := exists_runs_batch
  obtain ⟨done, current, rest, hsplit, hp, hcause⟩ :=
    signals_have_a_cause (fun row _ => fresh_empty row) hruns
  obtain ⟨rfl, hcurrent⟩ := hp _ rfl
  refine ⟨w', fun host id hname hsignal => ?_⟩
  rcases hcause sampleScenario (List.mem_singleton_self _) host id hname hsignal with h | h
  · exact absurd (hcurrent.trans h) nofun
  · obtain ⟨_, hmem, _⟩ := h
    simp at hmem

lemma triple_runRows_ends (rows : List Row) (progress : Progress) :
    devices.Triple (fun _ => True) (runRows rows progress) fun o _ => o ≠ some none := by
  induction rows generalizing progress with
  | nil => exact .done fun _ _ => nofun
  | cons row rows ih =>
    refine .bind (triple_runOne_ends row) (fun outcome => ?_) fun _ _ => nofun
    cases outcome with
    | none => exact Triple.mono (.done fun _ h => absurd rfl h) (fun _ => id) fun _ _ h => h
    | some outcome =>
      cases outcome with
      | abort reason => exact .done fun _ _ => nofun
      | ok res early => exact (ih _).mono (fun _ _ => trivial) fun _ _ => id

/-- Every batch comes to an end, whatever the devices do, as long as the clock goes on: the loop
over the samples of a scenario makes at most `watchRounds` rounds. -/
theorem batch_ends (hruns : devices.Runs (mainBatch conf selected) w o w') : o ≠ some none := by
  have hbody : ∀ rows, devices.Triple (fun _ => True) (prepareAndRun rows)
      fun o _ => o ≠ some none := by
    intro rows
    refine .bind (.any _ _) (fun failed => ?_) fun _ _ => nofun
    cases failed with
    | some failed => exact .done fun _ _ => nofun
    | none =>
      refine .bind ((triple_runRows_ends rows {}).mono (fun _ _ => trivial) fun _ _ => id)
        (fun progress => .done fun _ h => ?_) fun _ _ => nofun
      cases progress with
      | none => exact absurd rfl h
      | some progress => exact nofun
  rw [mainBatch] at hruns
  dsimp only at hruns
  split_ifs at hruns
  · cases hruns
    exact nofun
  · rcases runs_onInterrupt hruns with ⟨b, rfl, hrun⟩ | ⟨w₁, _, hhandler⟩
    · exact hbody _ _ _ _ trivial hrun
    · rintro rfl
      cases triple_stopEverything _ w₁ _ w' trivial hhandler none rfl
  · cases hruns
    exact nofun

theorem batch_ends_sample : ∃ o w',
    devices.Runs (mainBatch [sampleScenario] fun _ => true) .empty o w' ∧ o ≠ some none := by
  obtain ⟨res, w', hruns⟩ := exists_runs_batch
  exact ⟨_, w', hruns, batch_ends hruns⟩

end Main

end ProcessBus
