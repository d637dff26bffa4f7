import ProcessBus.Deploy.Device
import ProcessBus.Deploy.Verdict

/-!
# The batch runner

`run_one` and `main` of `run_tests.py`: the receiver is started first, and then the generator; both
end by themselves, and the runner watches. It stops a run only when the receiver falls far behind or
the deadline passes. When anything goes wrong, the rest of the batch is skipped.
-/

namespace ProcessBus

open Script

/-! ### A scenario -/

/-- A row of the configuration. -/
structure Row where
  name : Text
  gen_host : Host
  gen_args : Text
  proc_host : Host
  proc_args : Text
  gen_lcores : Text
  proc_lcores : Text
  duration : ℤ
  deriving DecidableEq

def START_DELAY : ℕ := 5
def PROC_PAD : ℕ := 10
def STARTUP_MARGIN : ℕ := 90
def POLL : ℕ := 10
def LOSS_RATIO : ℚ := 1 / 2
def LOSS_SAMPLES : ℕ := 2

/-- `losing_badly` -/
def losingBadly (tx rx : ℕ) : Bool := 0 < tx ∧ (rx : ℚ) < tx * LOSS_RATIO

/-- `is_burst` -/
def isBurst (row : Row) : Bool := ascii "--burst" <:+: row.gen_args

/-- `proc_run_time` -/
def procRunTime (duration : ℤ) : ℤ := START_DELAY + duration + PROC_PAD

/-- The second entry of `HOSTS`. -/
def Host.nic : Host → Text
  | .blackbox => ascii "0000:07:00.0"
  | .opi3b => ascii "0000:01:00.0"

/-- `LOOPBACK_NIC` -/
def Role.loopbackNic : Role → Text
  | .gen => ascii "0000:0b:00.0"
  | .proc => ascii "0000:0c:00.0"

/-- `nic_for` -/
def nicFor (host : Host) (role : Role) (loopback : Bool) : Text :=
  if loopback then role.loopbackNic else host.nic

namespace Row

variable (row : Row)

def loopback : Bool := row.gen_host = row.proc_host

/-- The generator of the row. -/
def gen : RunId := ⟨row.name, .gen⟩

/-- Its receiver. -/
def proc : RunId := ⟨row.name, .proc⟩

def genParams : RunParams where
  APP_ARGS := row.gen_args
  LCORES := row.gen_lcores
  NIC := nicFor row.gen_host .gen row.loopback
  TIME := row.duration

def procParams : RunParams where
  APP_ARGS := row.proc_args
  LCORES := row.proc_lcores
  NIC := nicFor row.proc_host .proc row.loopback
  TIME := procRunTime row.duration

end Row

/-! ### Watching a run -/

/-- One request. -/
abbrev request (c : Request) : Script Reply (Reply c) := call c

/-- `r.returncode == 0` -/
def Completed.ok (r : Completed) : Bool := r.returncode = 0

/-- `why` -/
def why (r : Completed) : Text :=
  Columns.strip isBlank
    (if r.stderr ≠ [] then r.stderr
    else if r.stdout ≠ [] then r.stdout
    else ascii "exit status " ++ if 0 ≤ r.returncode then decimal 0 r.returncode.toNat
      else 0x2D :: decimal 0 (-r.returncode).toNat)

/-- `session_alive` -/
def sessionAlive (host : Host) (role : Role) : Script Reply Bool := do
  let r : Completed ← request (.hasSession host role)
  pure r.ok

/-- `fetch_logs` -/
def fetchLogs (row : Row) : Script Reply Unit := do
  let _ ← request (.scp_from row.gen_host row.gen)
  let _ ← request (.scp_from row.proc_host row.proc)
  pure ()

/-- How the loop of `run_one` ends. -/
inductive Watched where
  /-- Neither session is there any more. -/
  | finished
  | cut_short
  /-- The deadline has passed. -/
  | overdue
  deriving DecidableEq

/-- A sample while the generator runs. -/
def sample (row : Row) (losing : ℕ) : Script Reply (Round Watched ℕ) := do
  let genLog : LogFile ← request (.readLog row.gen)
  let procLog : LogFile ← request (.readLog row.proc)
  let losing := if losingBadly (lastPps genLog) (lastPps procLog) then losing + 1 else 0
  if LOSS_SAMPLES ≤ losing ∧ ¬ isBurst row then do
    let _ ← request (.stop_role row.gen_host .gen)
    let _ ← request (.stop_role row.proc_host .proc)
    pure (.done .cut_short)
  else pure (.next losing)

/-- Stop what still runs. -/
def stopIfAlive (host : Host) (role : Role) : Script Reply Unit := do
  let alive ← sessionAlive host role
  if alive then do
    let _ ← request (.stop_role host role)
    pure ()
  else pure ()

/-- The deadline has passed. -/
def stopOverdue (row : Row) : Script Reply (Round Watched ℕ) := do
  stopIfAlive row.gen_host .gen
  stopIfAlive row.proc_host .proc
  pure (.done .overdue)

/-- One round of the loop. -/
def watchRound (row : Row) (deadline : ℚ) (losing : ℕ) : Script Reply (Round Watched ℕ) := do
  let now : ℚ ← request .time
  if now < deadline then do
    let _ ← request (.sleep POLL)
    fetchLogs row
    let genRunning ← sessionAlive row.gen_host .gen
    if genRunning then sample row losing
    else do
      let procRunning ← sessionAlive row.proc_host .proc
      pure (if procRunning then .next losing else .done .finished)
  else stopOverdue row

/-- Enough rounds for the deadline to pass: every one but the last takes `POLL` seconds. -/
def watchRounds (row : Row) : ℕ := (row.duration + STARTUP_MARGIN).toNat / POLL + 2

/-! ### A run -/

/-- `finished_cleanly` for one role: what is wrong with its log, if anything. -/
def uncleanly (log : LogFile) (role tag : Text) : Option Text :=
  match exitStatus log with
  | none => some (role ++ ascii " log carries no exit status (killed or truncated)")
  | some status =>
    if status ≠ 0 then some (role ++ ascii " exit_status=" ++
      if 0 ≤ status then decimal 0 status.toNat else 0x2D :: decimal 0 (-status).toNat)
    else if hasSummary log tag then none
    else some (role ++ ascii " finished without a summary block")

/-- `finished_cleanly` -/
def finishedCleanly (genLog procLog : LogFile) : Option Text :=
  (uncleanly genLog (ascii "gen") (ascii "SUMMARY_GEN")).orElse fun _ =>
    uncleanly procLog (ascii "proc") (ascii "SUMMARY_PROC")

/-- The status and the information `run_one` returns. -/
inductive Outcome where
  | ok (res : Verdict) (stoppedEarly : Bool)
  | abort (reason : Text)
  deriving DecidableEq

/-- `preflight` on every host, up to the first failure. -/
def preflights : List Host → Script Reply (Option Text)
  | [] => pure none
  | host :: hosts => do
    let r : Completed ← request (.preflight host)
    if r.ok then preflights hosts
    else pure (some (ascii "preflight failed on " ++ host.name ++ ascii ": " ++
      Columns.strip isBlank r.stderr))

/-- Start the receiver, and then the generator. -/
def startRoles (row : Row) : Script Reply (Option Text) := do
  let proc : Completed ← request (.start_role row.proc_host row.proc)
  if proc.ok then do
    let _ ← request (.sleep START_DELAY)
    let gen : Completed ← request (.start_role row.gen_host row.gen)
    if gen.ok then pure none
    else do
      let _ ← request (.stop_role row.proc_host .proc)
      pure (some (ascii "generator did not start"))
  else pure (some (ascii "processor did not start"))

/-- Copy the parameters and start both roles. -/
def startBoth (row : Row) : Script Reply (Option Text) := do
  let procWritten : Bool ← request (.write_params row.proc_host row.proc row.procParams)
  let genWritten : Bool ← request (.write_params row.gen_host row.gen row.genParams)
  if procWritten && genWritten then startRoles row
  else pure (some (ascii "could not copy the run parameters"))

/-- Fetch the logs for the last time and judge the run. -/
def judge (row : Row) (cutShort : Bool) : Script Reply Outcome := do
  fetchLogs row
  let genLog : LogFile ← request (.readLog row.gen)
  let procLog : LogFile ← request (.readLog row.proc)
  match if cutShort then none else finishedCleanly genLog procLog with
  | some reason => pure (.abort reason)
  | none =>
    let res := verdict genLog procLog
    let res := if cutShort then { res with cls := .LIMIT } else res
    pure (if res.cls = .VOID then .abort (ascii "no traffic was measured (TX or RX is zero)")
      else .ok res cutShort)

/-- `run_one`, with an upper bound for the rounds of its loop; `none` if they are not enough. -/
def runOne (rounds : ℕ) (row : Row) : Script Reply (Option Outcome) := do
  let hosts : List Host ← request (.walk [row.gen_host, row.proc_host])
  let failed ← preflights hosts
  match failed with
  | some reason => pure (some (.abort reason))
  | none => do
    let failed ← startBoth row
    match failed with
    | some reason => pure (some (.abort reason))
    | none => do
      let started : ℚ ← request .time
      let deadline := started + row.duration + STARTUP_MARGIN
      let watched ← loop (watchRound row deadline) rounds 0
      match watched with
      | none => pure none
      | some .overdue =>
        pure (some (.abort (ascii "a run did not finish by itself (stopped by hand)")))
      | some .cut_short => do
        let o ← judge row true
        pure (some o)
      | some .finished => do
        let o ← judge row false
        pure (some o)

/-! ### A batch -/

/-- `prepare` -/
def prepare (host : Host) : Script Reply (Option Text) := do
  let r : Completed ← request (.reach host)
  if r.ok then do
    let r : Completed ← request (.copyRunner host)
    if r.ok then do
      let sentinel : Completed ← request (.testSentinel host)
      if sentinel.ok then pure none
      else do
        let r : Completed ← request (.setupPlatform host)
        pure (if r.ok then none else some (ascii "setup_platform.sh failed: " ++ why r))
    else pure (some (ascii "could not copy device_runner.sh: " ++ why r))
  else pure (some (ascii "unreachable over ssh: " ++ why r))

def prepareAll : List Host → Script Reply (Option (Host × Text))
  | [] => pure none
  | host :: hosts => do
    let failed ← prepare host
    match failed with
    | some reason => pure (some (host, reason))
    | none => prepareAll hosts

/-- The rows that are done, and the one the batch was aborted at. -/
structure Progress where
  done : List (Row × Verdict × Bool) := []
  aborted : Option (Row × Text) := none

/-- The loop over the rows; `none` if `run_one` does not end. -/
def runRows : List Row → Progress → Script Reply (Option Progress)
  | [], progress => pure (some progress)
  | row :: rows, progress => do
    let outcome ← runOne (watchRounds row) row
    match outcome with
    | none => pure none
    | some (.abort reason) => pure (some { progress with aborted := some (row, reason) })
    | some (.ok res early) =>
      runRows rows { progress with done := progress.done ++ [(row, res, early)] }

/-- How `main` ends. -/
inductive BatchEnd where
  | duplicateNames
  | noRows
  | unprepared (host : Host) (reason : Text)
  | finished (progress : Progress)
  | interrupted

/-- The exit code. -/
def BatchEnd.code : BatchEnd → ℕ
  | .duplicateNames | .noRows | .unprepared .. => 1
  | .finished progress => if progress.aborted.isSome then 1 else 0
  | .interrupted => 130

/-- The hosts of some rows, in alphabetical order. -/
def hostsUsed (rows : List Row) : List Host :=
  [.blackbox, .opi3b].filter fun host =>
    rows.any fun row => row.gen_host = host || row.proc_host = host

/-- Ctrl+C: stop both roles on every device. -/
def stopEverything (rows : List Row) : Script Reply (Option BatchEnd) := do
  let hosts : List Host ← request (.walk (hostsUsed rows))
  forEach (fun host => do
    let _ ← request (.stop_role host .gen)
    let _ ← request (.stop_role host .proc)
    pure ()) hosts
  pure (some .interrupted)

/-- Prepare the devices and run the rows. -/
def prepareAndRun (rows : List Row) : Script Reply (Option BatchEnd) := do
  let failed ← prepareAll (hostsUsed rows)
  match failed with
  | some (host, reason) => pure (some (.unprepared host reason))
  | none => do
    let progress ← runRows rows {}
    pure (progress.map BatchEnd.finished)

/-- `main` with the rows of the configuration and the selected ones among them; `none` if it does
not end. -/
def mainBatch (conf : List Row) (selected : Row → Bool) : Script Reply (Option BatchEnd) :=
  if ¬ (conf.map Row.name).Nodup then pure (some .duplicateNames)
  else
    let rows := conf.filter selected
    if rows = [] then pure (some .noRows)
    else (prepareAndRun rows).onInterrupt (stopEverything rows)

end ProcessBus
