import ProcessBus.Deploy.Logs
import ProcessBus.Lib.Script
import Mathlib.Algebra.Order.Ring.Rat

/-!
# The devices of a batch

`run_tests.py` reaches the two devices over ssh. On a device an application runs in a tmux session
of its role, under `device_runner.sh`, which starts it, writes its output into a log and adds its
exit status. Between two requests the devices do what they like: applications print, end and crash,
sessions close, a board reboots. A request may be lost on its way, and so may its reply.
-/

namespace ProcessBus

open Relation

/-! ### What is on a device -/

/-- The names in `HOSTS`. -/
inductive Host where
  | blackbox | opi3b
  deriving DecidableEq, Repr

def Host.name : Host → Text
  | blackbox => ascii "blackbox"
  | opi3b => ascii "opi3b"

/-- `gen` or `proc` -/
inductive Role where
  | gen | proc
  deriving DecidableEq, Repr

/-- One application of one scenario: its files are called `<name>_<role>`. -/
structure RunId where
  name : Text
  role : Role
  deriving DecidableEq

/-- The file with the parameters of a run. -/
structure RunParams where
  APP_ARGS : Text
  LCORES : Text
  NIC : Text
  TIME : ℤ
  deriving DecidableEq

/-- How far `device_runner.sh run` has come. -/
inductive Phase where
  /-- The session is open, and nothing has happened yet. -/
  | launched
  /-- The application runs, with these parameters. Has it got a signal? -/
  | foreground (params : RunParams) (signalled : Bool)
  /-- The application has returned `RC`, and this has not been recorded. -/
  | returned (RC : ℕ)
  /-- The last lines are written. -/
  | recorded
  deriving DecidableEq

/-- The tmux session `pbus_<role>`. -/
structure Session where
  name : Text
  phase : Phase
  deriving DecidableEq

structure Device where
  params : RunId → Option RunParams
  log : RunId → Option (List Text)
  session : Role → Option Session

/-- What happens to an application. -/
inductive DeviceEvent where
  | started (host : Host) (id : RunId) (params : RunParams)
  | signalled (host : Host) (id : RunId)
  /-- The exit status, and whether there had been a signal. -/
  | exited (host : Host) (id : RunId) (RC : ℕ) (signalled : Bool)
  deriving DecidableEq

def DeviceEvent.id : DeviceEvent → RunId
  | started _ id _ | signalled _ id | exited _ id _ _ => id

/-- The devices, the results directory and the clock, with what has happened so far. -/
structure World where
  clock : ℚ
  device : Host → Device
  /-- The logs in the results directory. -/
  copy : RunId → LogFile
  /-- What the runner has read from them. -/
  reads : List (RunId × LogFile)
  history : List DeviceEvent

namespace World

variable (w : World)

/-- The session, the log and the history after something has happened to a run. -/
def act (host : Host) (id : RunId) (phase : Option Phase) (log : Option (List Text))
    (events : List DeviceEvent) : World :=
  let dev := w.device host
  let dev' := { dev with
    session := Function.update dev.session id.role (phase.map (⟨id.name, ·⟩))
    log := Function.update dev.log id log }
  { w with device := Function.update w.device host dev', history := w.history ++ events }

def setParams (host : Host) (id : RunId) (params : Option RunParams) : World :=
  let dev := w.device host
  let dev' := { dev with params := Function.update dev.params id params }
  { w with device := Function.update w.device host dev' }

def setCopy (id : RunId) (copy : LogFile) : World :=
  { w with copy := Function.update w.copy id copy }

/-- Everything that runs is gone, and the logs in `/tmp` may be, too. -/
def reboot (host : Host) (keep : Bool) : World :=
  let dev := w.device host
  let dev' := { dev with
    session := fun _ => none
    log := fun id => if keep then dev.log id else none }
  { w with device := Function.update w.device host dev' }

end World

/-! ### What happens on its own -/

/-- The next thing `device_runner.sh run` or its application does: from a phase and a log to what
comes of them and what goes into the history. -/
inductive RunStep (host : Host) (id : RunId) (params : Option RunParams) :
    Phase → Option (List Text) → Option Phase → Option (List Text) → List DeviceEvent → Prop where
  /-- The old log is removed, and the application starts. -/
  | begin {p : RunParams} {log : Option (List Text)} (hparams : params = some p) :
      RunStep host id params .launched log (some (.foreground p false)) (some [])
        [.started host id p]
  /-- There are no parameters, or another application is in the way. -/
  | giveUp {log log' : Option (List Text)} (hlog : log' = log ∨ log' = none) :
      RunStep host id params .launched log none log' []
  /-- The application prints a line. It does not print the line of the runner. -/
  | print {p : RunParams} {s : Bool} {log : Option (List Text)} {line : Text}
      (hline : statusOf line = none) :
      RunStep host id params (.foreground p s) log (some (.foreground p s))
        (log.map (· ++ [line])) []
  | exit {p : RunParams} {s : Bool} {log : Option (List Text)} (RC : ℕ) :
      RunStep host id params (.foreground p s) log (some (.returned RC)) log
        [.exited host id RC s]
  | record {RC : ℕ} {log : Option (List Text)} :
      RunStep host id params (.returned RC) log (some .recorded)
        (some (log.getD [] ++ [statusLine RC])) []
  | leave {log : Option (List Text)} : RunStep host id params .recorded log none log []

/-- The clock goes on, a session does its next step, or a board reboots. -/
inductive Drift : World → World → Prop where
  | tick {w : World} {t : ℚ} (h : w.clock ≤ t) : Drift w { w with clock := t }
  | run {w : World} {host : Host} {id : RunId} {phase : Phase} {phase' : Option Phase}
      {log' : Option (List Text)} {events : List DeviceEvent}
      (hsession : (w.device host).session id.role = some ⟨id.name, phase⟩)
      (hstep : RunStep host id ((w.device host).params id) phase ((w.device host).log id)
        phase' log' events) : Drift w (w.act host id phase' log' events)
  | reboot {w : World} (host : Host) (keep : Bool) : Drift w (w.reboot host keep)

/-! ### Stopping an application -/

/-- Nothing of this role runs. -/
def World.Idle (w : World) (host : Host) (role : Role) : Prop :=
  ∀ name p s, (w.device host).session role ≠ some ⟨name, .foreground p s⟩

/-- `pkill -TERM -x "$app"` -/
inductive Signals (host : Host) (role : Role) : World → World → Prop where
  | running {w : World} {name : Text} {p : RunParams} {s : Bool}
      (h : (w.device host).session role = some ⟨name, .foreground p s⟩) :
      Signals host role w (w.act host ⟨name, role⟩ (some (.foreground p true))
        ((w.device host).log ⟨name, role⟩) [.signalled host ⟨name, role⟩])
  | idle {w : World} (h : w.Idle host role) : Signals host role w w

/-- `graceful_stop_app`: a signal, and then a look whether the application is gone. -/
def StopsApp (host : Host) (role : Role) (ok : Prop) (w w' : World) : Prop :=
  ∃ w₁, Signals host role w w₁ ∧ ReflTransGen Drift w₁ w' ∧ (ok → w'.Idle host role)

/-- `tmux kill-session`: an application that has come up in the session goes with it. -/
inductive KillsSession (host : Host) (role : Role) : World → World → Prop where
  | running {w : World} {name : Text} {p : RunParams} {s : Bool} (RC : ℕ)
      (h : (w.device host).session role = some ⟨name, .foreground p s⟩) :
      KillsSession host role w (w.act host ⟨name, role⟩ none ((w.device host).log ⟨name, role⟩)
        [.signalled host ⟨name, role⟩, .exited host ⟨name, role⟩ RC true])
  | idle {w : World} {name : Text} {phase : Phase}
      (h : (w.device host).session role = some ⟨name, phase⟩) (hidle : w.Idle host role) :
      KillsSession host role w
        (w.act host ⟨name, role⟩ none ((w.device host).log ⟨name, role⟩) [])
  | none {w : World} (h : (w.device host).session role = none) : KillsSession host role w w

/-! ### Requests -/

/-- `subprocess.CompletedProcess` -/
structure Completed where
  returncode : ℤ
  stdout : Text := []
  stderr : Text := []

/-- What the runner asks for. -/
inductive Request where
  | time
  | sleep (seconds : ℕ)
  /-- The order in which a Python set is walked through. -/
  | walk (hosts : List Host)
  /-- `ssh(host, "true")` -/
  | reach (host : Host)
  | copyRunner (host : Host)
  | testSentinel (host : Host)
  | setupPlatform (host : Host)
  | preflight (host : Host)
  | write_params (host : Host) (id : RunId) (params : RunParams)
  | start_role (host : Host) (id : RunId)
  | stop_role (host : Host) (role : Role)
  /-- `tmux has-session` -/
  | hasSession (host : Host) (role : Role)
  | scp_from (host : Host) (id : RunId)
  /-- A file in the results directory. -/
  | readLog (id : RunId)

/-- What it gets. -/
def Reply : Request → Type
  | .time => ℚ
  | .sleep _ => Unit
  | .walk _ => List Host
  | .write_params .. => Bool
  | .readLog _ => LogFile
  | .reach _ | .copyRunner _ | .testSentinel _ | .setupPlatform _ | .preflight _ | .start_role ..
  | .stop_role .. | .hasSession .. | .scp_from .. => Completed

/-- The reply has arrived, and it reports success. -/
def Succeeded (r : Option Completed) : Prop := ∃ c, r = some c ∧ c.returncode = 0

/-- `preflight`: the generator, and then the processor if that went well. -/
inductive Preflight (host : Host) (r : Option Completed) : World → World → Prop where
  | lost {w : World} (h : ¬ Succeeded r) : Preflight host r w w
  | gen {w w' : World} (h : ¬ Succeeded r) (hstop : StopsApp host .gen False w w') :
      Preflight host r w w'
  | both {w w₁ w' : World} (hgen : StopsApp host .gen True w w₁)
      (hproc : StopsApp host .proc (Succeeded r) w₁ w') : Preflight host r w w'

/-- `stop_role`: the application, and then its session if the application is gone. -/
inductive StopRole (host : Host) (role : Role) : World → World → Prop where
  | lost {w : World} : StopRole host role w w
  | app {w w' : World} (hstop : StopsApp host role False w w') : StopRole host role w w'
  | session {w w₁ w₂ w' : World} (hstop : StopsApp host role True w w₁)
      (hdrift : ReflTransGen Drift w₁ w₂) (hkill : KillsSession host role w₂ w') :
      StopRole host role w w'

/-- How a request changes the world, and which replies it can get. -/
def serve : (c : Request) → World → Option (Reply c) → World → Prop
  | .time, w, r, w' => w' = w ∧ ∀ t, r = some t → t = w.clock
  | .sleep n, w, r, w' =>
    ∃ t, w.clock ≤ t ∧ (r = some () → w.clock + n ≤ t) ∧ w' = { w with clock := t }
  | .walk hosts, w, r, w' => w' = w ∧ ∀ l, r = some l → l.Perm hosts.dedup
  | .reach _, w, _, w' | .copyRunner _, w, _, w' | .testSentinel _, w, _, w'
  | .setupPlatform _, w, _, w' => w' = w
  | .preflight host, w, r, w' => Preflight host r w w'
  | .write_params host id params, w, r, w' =>
    r ≠ some true ∧ (w' = w ∨ ∃ params', w' = w.setParams host id params') ∨
      w' = w.setParams host id (some params)
  | .start_role host id, w, r, w' =>
    ¬ Succeeded r ∧ w' = w ∨ (w.device host).session id.role = none ∧
      w' = w.act host id (some .launched) ((w.device host).log id) []
  | .stop_role host role, w, _, w' => StopRole host role w w'
  | .hasSession host role, w, r, w' =>
    w' = w ∧ (Succeeded r → (w.device host).session role ≠ none)
  | .scp_from host id, w, _, w' =>
    w' = w ∨ ∃ log copy, (w.device host).log id = some log ∧ CutOf copy log ∧
      w' = w.setCopy id (some copy)
  | .readLog id, w, r, w' =>
    r = none ∧ w' = w ∨
      r = some (w.copy id) ∧ w' = { w with reads := w.reads ++ [(id, w.copy id)] }

/-- The devices as the surroundings of the runner. -/
def devices : Surroundings Reply World where
  drift := Drift
  serve := serve

end ProcessBus
