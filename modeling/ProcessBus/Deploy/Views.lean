import ProcessBus.Deploy.Device

/-!
# What a batch does to one run

A run is looked at through what the devices, the results directory and the history say about it.
Whatever happens to another run leaves this view as it is, so a property of a run is kept by
everything if it is kept by the steps of the run itself.
-/

namespace ProcessBus

open Relation

/-- A run as the world shows it, host by host. -/
structure RunView where
  phase : Host → Option Phase
  log : Host → Option (List Text)
  params : Host → Option RunParams
  copy : LogFile
  events : List DeviceEvent

/-- The phase of a session with the name of the run. -/
def World.phaseAt (w : World) (host : Host) (id : RunId) : Option Phase :=
  ((w.device host).session id.role).bind fun s => if s.name = id.name then some s.phase else none

/-- What has happened to the run. -/
def eventsOf (id : RunId) (history : List DeviceEvent) : List DeviceEvent :=
  history.filter (·.id = id)

def World.view (w : World) (id : RunId) : RunView where
  phase := fun host => w.phaseAt host id
  log := fun host => (w.device host).log id
  params := fun host => (w.device host).params id
  copy := w.copy id
  events := eventsOf id w.history

/-- A step of the run on one host. -/
def RunView.act (v : RunView) (host : Host) (phase : Option Phase) (log : Option (List Text))
    (events : List DeviceEvent) : RunView :=
  { v with
    phase := Function.update v.phase host phase
    log := Function.update v.log host log
    events := v.events ++ events }

variable {w w' : World} {host h' : Host} {id id' : RunId} {role : Role} {phase : Option Phase}
  {log : Option (List Text)} {events : List DeviceEvent}

lemma phaseAt_eq_some {p : Phase} :
    w.phaseAt host id = some p ↔ (w.device host).session id.role = some ⟨id.name, p⟩ := by
  rw [World.phaseAt]
  cases hsession : (w.device host).session id.role with
  | none => simp
  | some s =>
    obtain ⟨name, q⟩ := s
    by_cases hname : name = id.name
    · simp [hname]
    · simp [hname]

/-! ### Acts -/

/-- Nobody else is in the session. -/
def World.Slot (w : World) (host : Host) (id : RunId) : Prop :=
  ∀ s, (w.device host).session id.role = some s → s.name = id.name

lemma slot_of_session {p : Phase} (h : (w.device host).session id.role = some ⟨id.name, p⟩) :
    w.Slot host id := by
  intro s hs
  rw [h, Option.some.injEq] at hs
  rw [← hs]

lemma slot_of_none (h : (w.device host).session id.role = none) : w.Slot host id := by
  intro s hs
  rw [h] at hs
  cases hs

lemma view_act_self (hevents : ∀ e ∈ events, e.id = id) :
    (w.act host id phase log events).view id = (w.view id).act host phase log events := by
  have hfilter : eventsOf id events = events := List.filter_eq_self.mpr (by simpa using hevents)
  rw [RunView.act, World.view, World.view]
  congr 1
  · funext h'
    by_cases hh : h' = host
    · subst hh
      cases phase <;> simp [World.phaseAt, World.act]
    · simp [World.phaseAt, World.act, hh]
  · funext h'
    by_cases hh : h' = host
    · subst hh
      simp [World.act]
    · simp [World.act, hh]
  · funext h'
    by_cases hh : h' = host
    · subst hh
      simp [World.act]
    · simp [World.act, hh]
  · rw [eventsOf, World.act, List.filter_append, ← eventsOf, ← eventsOf, hfilter]

/-- Another run does not notice it. -/
lemma view_act_of_ne (hslot : w.Slot host id) (hne : id' ≠ id) (hevents : ∀ e ∈ events, e.id = id) :
    (w.act host id phase log events).view id' = w.view id' := by
  have hfilter : eventsOf id' events = [] := by
    rw [eventsOf, List.filter_eq_nil_iff]
    intro e he
    rw [hevents e he]
    simpa using hne.symm
  rw [World.view, World.view]
  congr 1
  · funext h'
    by_cases hh : h' = host
    · subst hh
      by_cases hrole : id'.role = id.role
      · have hname : id.name ≠ id'.name := by
          intro hname
          apply hne
          cases id
          cases id'
          simp_all
        have hbefore : w.phaseAt h' id' = none := by
          cases hsession : (w.device h').session id.role with
          | none => simp [World.phaseAt, hrole, hsession]
          | some s =>
            have hs : s.name = id.name := hslot s hsession
            simp [World.phaseAt, hrole, hsession, hs, hname]
        rw [hbefore]
        cases phase <;> simp [World.phaseAt, World.act, hrole, hname]
      · simp [World.phaseAt, World.act, hrole]
    · simp [World.phaseAt, World.act, hh]
  · funext h'
    by_cases hh : h' = host
    · subst hh
      simp [World.act, hne]
    · simp [World.act, hh]
  · funext h'
    by_cases hh : h' = host
    · subst hh
      simp [World.act]
    · simp [World.act, hh]
  · rw [eventsOf, World.act, List.filter_append, ← eventsOf, ← eventsOf, hfilter, List.append_nil]

/-! ### Steps of a view -/

/-- What can happen to a run on its own. -/
inductive RunView.Drift (id : RunId) (v : RunView) : RunView → Prop where
  | refl : Drift id v v
  | run {host : Host} {phase : Phase} {phase' : Option Phase} {log' : Option (List Text)}
      {events : List DeviceEvent} (hphase : v.phase host = some phase)
      (hstep : RunStep host id (v.params host) phase (v.log host) phase' log' events) :
      Drift id v (v.act host phase' log' events)
  | reboot (host : Host) {log' : Option (List Text)} (hlog : log' = v.log host ∨ log' = none) :
      Drift id v (v.act host none log' [])

lemma RunStep.id_of_mem {params : Option RunParams} {p : Phase} {phase' : Option Phase}
    {log log' : Option (List Text)} (h : RunStep host id params p log phase' log' events) :
    ∀ e ∈ events, e.id = id := by
  cases h <;> simp [DeviceEvent.id]

theorem view_drift (h : Drift w w') (id : RunId) : (w.view id).Drift id (w'.view id) := by
  cases h with
  | tick h => exact .refl
  | @run host id' phase phase' log' events hsession hstep =>
    by_cases hid : id = id'
    · subst hid
      rw [view_act_self hstep.id_of_mem]
      exact .run (phaseAt_eq_some.mpr hsession) hstep
    · rw [view_act_of_ne (slot_of_session hsession) hid hstep.id_of_mem]
      exact .refl
  | reboot host keep =>
    have hview : (w.reboot host keep).view id =
        (w.view id).act host none (if keep then (w.view id).log host else none) [] := by
      rw [RunView.act, World.view, World.view]
      congr 1
      · funext h'
        by_cases hh : h' = host
        · subst hh
          simp [World.phaseAt, World.reboot]
        · simp [World.phaseAt, World.reboot, hh]
      · funext h'
        by_cases hh : h' = host
        · subst hh
          simp [World.reboot]
        · simp [World.reboot, hh]
      · funext h'
        by_cases hh : h' = host
        · subst hh
          simp [World.reboot]
        · simp [World.reboot, hh]
      · simp [World.reboot]
    rw [hview]
    refine .reboot host ?_
    cases keep
    · exact .inr rfl
    · exact .inl rfl

/-- What stopping an application or closing its session does to it. -/
inductive RunView.Stop (id : RunId) (v : RunView) : RunView → Prop where
  | signal {host : Host} {p : RunParams} {s : Bool} (h : v.phase host = some (.foreground p s)) :
      Stop id v (v.act host (some (.foreground p true)) (v.log host) [.signalled host id])
  | kill {host : Host} {p : RunParams} {s : Bool} (RC : ℕ)
      (h : v.phase host = some (.foreground p s)) :
      Stop id v (v.act host none (v.log host) [.signalled host id, .exited host id RC true])
  | close {host : Host} (h : ∀ p s, v.phase host ≠ some (.foreground p s)) :
      Stop id v (v.act host none (v.log host) [])

/-- What happens to a run that is left alone. -/
inductive RunView.Calm (id : RunId) (v : RunView) : RunView → Prop where
  | drift {v' : RunView} (h : v.Drift id v') : Calm id v v'
  /-- Its log is fetched. -/
  | fetch {host : Host} {log copy : List Text} (hlog : v.log host = some log)
      (hcopy : CutOf copy log) : Calm id v { v with copy := some copy }

/-- What happens to a run that is not started. -/
inductive RunView.Step (id : RunId) (v : RunView) : RunView → Prop where
  | calm {v' : RunView} (h : v.Calm id v') : Step id v v'
  | stop {v' : RunView} (h : v.Stop id v') : Step id v v'

lemma view_signals (h : Signals host role w w') (id : RunId) :
    ReflTransGen (RunView.Step id) (w.view id) (w'.view id) := by
  cases h with
  | @running name p s h =>
    have hslot : w.Slot host ⟨name, role⟩ := slot_of_session h
    by_cases hid : id = ⟨name, role⟩
    · subst hid
      rw [view_act_self (by simp [DeviceEvent.id])]
      exact .single (.stop (.signal (phaseAt_eq_some.mpr h)))
    · rw [view_act_of_ne hslot hid (by simp [DeviceEvent.id])]
  | idle h => exact .refl

lemma view_kills (h : KillsSession host role w w') (id : RunId) :
    ReflTransGen (RunView.Step id) (w.view id) (w'.view id) := by
  cases h with
  | @running name p s RC h =>
    have hslot : w.Slot host ⟨name, role⟩ := slot_of_session h
    by_cases hid : id = ⟨name, role⟩
    · subst hid
      rw [view_act_self (by simp [DeviceEvent.id])]
      exact .single (.stop (.kill RC (phaseAt_eq_some.mpr h)))
    · rw [view_act_of_ne hslot hid (by simp [DeviceEvent.id])]
  | @idle name phase h hidle =>
    have hslot : w.Slot host ⟨name, role⟩ := slot_of_session h
    by_cases hid : id = ⟨name, role⟩
    · subst hid
      rw [view_act_self (by simp)]
      refine .single (.stop (.close fun p s hphase => ?_))
      exact hidle name p s (phaseAt_eq_some.mp hphase)
    · rw [view_act_of_ne hslot hid (by simp)]
  | none h => exact .refl

lemma view_drifts (h : ReflTransGen Drift w w') (id : RunId) :
    ReflTransGen (RunView.Calm id) (w.view id) (w'.view id) := by
  induction h with
  | refl => exact .refl
  | tail _ hstep ih => exact ih.tail (.drift (view_drift hstep id))

lemma step_of_calm {v v' : RunView} (h : ReflTransGen (RunView.Calm id) v v') :
    ReflTransGen (RunView.Step id) v v' := ReflTransGen.mono (fun _ _ => RunView.Step.calm) _ _ h

lemma view_stopsApp {ok : Prop} (h : StopsApp host role ok w w') (id : RunId) :
    ReflTransGen (RunView.Step id) (w.view id) (w'.view id) := by
  obtain ⟨w₁, hsignals, hdrift, _⟩ := h
  exact (view_signals hsignals id).trans (step_of_calm (view_drifts hdrift id))

lemma view_preflight {r : Option Completed} (h : Preflight host r w w') (id : RunId) :
    ReflTransGen (RunView.Step id) (w.view id) (w'.view id) := by
  cases h with
  | lost h => exact .refl
  | gen h hstop => exact view_stopsApp hstop id
  | both hgen hproc => exact (view_stopsApp hgen id).trans (view_stopsApp hproc id)

lemma view_stopRole (h : StopRole host role w w') (id : RunId) :
    ReflTransGen (RunView.Step id) (w.view id) (w'.view id) := by
  cases h with
  | lost => exact .refl
  | app hstop => exact view_stopsApp hstop id
  | session hstop hdrift hkill =>
    exact ((view_stopsApp hstop id).trans (step_of_calm (view_drifts hdrift id))).trans
      (view_kills hkill id)

/-! ### Requests -/

/-- A request that neither sets up nor starts the run. -/
def Request.Leaves (id : RunId) : Request → Prop
  | .write_params _ id' _ | .start_role _ id' => id' ≠ id
  | _ => True

/-- A request that does not stop anything either. -/
def Request.Spares (id : RunId) : Request → Prop
  | .write_params _ id' _ | .start_role _ id' => id' ≠ id
  | .preflight _ | .stop_role _ _ => False
  | _ => True

lemma view_setParams_of_ne {params : Option RunParams} (hne : id' ≠ id) :
    (w.setParams host id params).view id' = w.view id' := by
  rw [World.view, World.view]
  congr 1
  · funext h'
    by_cases hh : h' = host
    · subst hh
      simp [World.phaseAt, World.setParams]
    · simp [World.phaseAt, World.setParams, hh]
  · funext h'
    by_cases hh : h' = host
    · subst hh
      simp [World.setParams]
    · simp [World.setParams, hh]
  · funext h'
    by_cases hh : h' = host
    · subst hh
      simp [World.setParams, hne]
    · simp [World.setParams, hh]

lemma view_setCopy {lines copy : List Text} (hlog : (w.device host).log id' = some lines)
    (hcopy : CutOf copy lines) (id : RunId) :
    ReflTransGen (RunView.Calm id) (w.view id) ((w.setCopy id' (some copy)).view id) := by
  by_cases hid : id = id'
  · subst hid
    have hview : (w.setCopy id (some copy)).view id = { w.view id with copy := some copy } := by
      simp [World.view, World.setCopy, World.phaseAt]
    rw [hview]
    exact .single (.fetch hlog hcopy)
  · have hview : (w.setCopy id' (some copy)).view id = w.view id := by
      simp [World.view, World.setCopy, World.phaseAt, hid]
    rw [hview]

theorem view_of_spares {c : Request} (hc : c.Spares id) {r : Option (Reply c)}
    (h : serve c w r w') : ReflTransGen (RunView.Calm id) (w.view id) (w'.view id) := by
  cases c with
  | time => rw [h.1]
  | walk hosts => rw [h.1]
  | hasSession host role => rw [h.1]
  | reach host | copyRunner host | testSentinel host | setupPlatform host => rw [h]
  | sleep n =>
    obtain ⟨t, _, _, rfl⟩ := h
    exact .refl
  | preflight host | stop_role host role => exact hc.elim
  | write_params host id' params =>
    rcases h with ⟨_, rfl | ⟨params', rfl⟩⟩ | rfl
    · exact .refl
    · rw [view_setParams_of_ne (Ne.symm hc)]
    · rw [view_setParams_of_ne (Ne.symm hc)]
  | start_role host id' =>
    rcases h with ⟨_, rfl⟩ | ⟨hnone, rfl⟩
    · exact .refl
    · rw [view_act_of_ne (slot_of_none hnone) (Ne.symm hc) (by simp)]
  | scp_from host id' =>
    rcases h with rfl | ⟨log, copy, hlog, hcopy, rfl⟩
    · exact .refl
    · exact view_setCopy hlog hcopy id
  | readLog id' =>
    rcases h with ⟨_, rfl⟩ | ⟨_, rfl⟩
    · exact .refl
    · exact .refl

theorem view_of_leaves {c : Request} (hc : c.Leaves id) {r : Option (Reply c)}
    (h : serve c w r w') : ReflTransGen (RunView.Step id) (w.view id) (w'.view id) := by
  by_cases hspares : c.Spares id
  · exact step_of_calm (view_of_spares hspares h)
  · cases c with
    | preflight host => exact view_preflight h id
    | stop_role host role => exact view_stopRole h id
    | _ => exact absurd hc hspares

/-! ### What a run keeps -/

variable {P : RunView → Prop}

lemma stable_of_calm (h : ∀ v v', P v → v.Calm id v' → P v') :
    devices.Stable fun w => P (w.view id) :=
  fun _ _ hw hdrift => h _ _ hw (.drift (view_drift hdrift id))

lemma keep {step : RunView → RunView → Prop} (h : ∀ v v', P v → step v v' → P v')
    {v v' : RunView} (hv : P v) (hsteps : ReflTransGen step v v') : P v' := by
  induction hsteps with
  | refl => exact hv
  | tail _ hstep ih => exact h _ _ ih hstep

/-- A script that leaves a run alone keeps whatever the run keeps by itself. -/
theorem triple_of_spares {α : Type} {s : Script Reply α} (h : ∀ v v', P v → v.Calm id v' → P v')
    (hs : s.Asks (Request.Spares id)) :
    devices.Triple (fun w => P (w.view id)) s fun _ w => P (w.view id) :=
  .of_asks (stable_of_calm h) (fun _ hc _ _ _ hw hserve => keep h hw (view_of_spares hc hserve)) hs

theorem triple_of_leaves {α : Type} {s : Script Reply α} (h : ∀ v v', P v → v.Step id v' → P v')
    (hs : s.Asks (Request.Leaves id)) :
    devices.Triple (fun w => P (w.view id)) s fun _ w => P (w.view id) :=
  .of_asks (stable_of_calm fun v v' hv hstep => h v v' hv (.calm hstep))
    (fun _ hc _ _ _ hw hserve => keep h hw (view_of_leaves hc hserve)) hs

end ProcessBus
