import Vmstated.Libprocwatch.ProcessState

/-! bhyve_director.c: what the director does to one watched virtual machine.
Looking the machine up by name, console links and syslog have no effect on it
and are left out. -/
namespace Vmstated.Libprocwatch
open Library

/-! bhyve_director_errors.h -/

def bdErrUnlockfailure : Int := 195
def bdErrVmstateisfail : Int := 169
def bdErrVmstartfailed : Int := 168
def bdErrKeventregfail : Int := 167
def bdErrTransitchfail : Int := 166
def bdErrVmstartdiedim : Int := 165
def bdErrVmstatenofail : Int := 164
def bdErrVmconfgenfail : Int := 163

/-- `maxrestart` and `maxrestarttime` are those of the configuration;
`startups` holds the start timestamps, oldest first. -/
structure BhyveWatchedVm where
  state : ProcessStateVm
  maxrestart : UInt32
  maxrestarttime : Int
  startups : List Int

def onState {α : Type} (program : StateM ProcessStateVm α) : StateM BhyveWatchedVm α :=
  focus BhyveWatchedVm.state (fun bwv psv => { bwv with state := psv }) program

def bwvLog (event : Event) : StateM BhyveWatchedVm Unit :=
  onState (modify (·.log event))

/-- `malloc` may fail; then nothing is recorded. -/
def bwvTimestamp (allocated : Bool) (now : Int) : StateM BhyveWatchedVm Int := do
  if !allocated then
    return -1
  bwvLog (.clock now)
  bwvLog (.stamp now)
  modify fun bwv => { bwv with startups := bwv.startups ++ [now] }
  return 0

def removeBefore (deadline : Int) : List Int → List Int
  | [] => []
  | timestamp :: rest => if timestamp < deadline then removeBefore deadline rest
      else timestamp :: rest

def countEntries (counter : UInt32) : List Int → UInt32
  | [] => counter
  | _ :: rest => countEntries (counter + 1) rest

def bwvCountrestartsSince (deadline : Int) : StateM BhyveWatchedVm UInt32 := do
  modify fun bwv => { bwv with startups := removeBefore deadline bwv.startups }
  return countEntries 0 (← get).startups

/-- Neither `time` nor the count sets `errno`, so only the count decides. -/
def bwvIsCountfail (now : Int) : StateM BhyveWatchedVm Bool := do
  bwvLog (.clock now)
  let deadline := now - (← get).maxrestarttime
  let count ← bwvCountrestartsSince deadline
  return count > (← get).maxrestart

inductive GeneratorOutcome where
  | noGenerator
  | fails
  | generates (setConfigfile : Int)
deriving DecidableEq, Repr

def bwvGenerateConfig : GeneratorOutcome → Int
  | .noGenerator => 0
  | .fails => -1
  | .generates setConfigfile => setConfigfile

/-- `waitpid(pid, &pidstat, WNOHANG | WEXITED | WSTOPPED)`: the pid with a
status, or anything else. -/
inductive WaitOutcome where
  | reports (status : Nat)
  | other
deriving DecidableEq, Repr

structure StartAnswers where
  now : Int
  stampAllocated : Bool
  stampTime : Int
  generator : GeneratorOutcome
  launch : LaunchAnswers
  killOk : Bool
  waitpid : WaitOutcome
  keventOk : Bool
  exit : ExitAnswers

/-- `bd_startvm` when `waitpid` reports that the process ended. -/
def bdStartDied (status : Nat) (answers : ExitAnswers) : StateM BhyveWatchedVm Int := do
  if (← onState (psvOnexit answers (toUshort (wexitstatus status)))) ≠ 0 then
    _ ← onState psvFailurestate
  return bdErrVmstartdiedim

def bdStartLaunched (pid : Nat) (answers : StartAnswers) : StateM BhyveWatchedVm Int := do
  if !answers.killOk then
    _ ← onState (psvOnexit answers.exit 4)
  else
    match answers.waitpid with
    | .reports status =>
      if wifexited status ∨ wifsignaled status then
        onState (modify fun psv => { psv with os := psv.os.reaped pid })
        return ← bdStartDied status answers.exit
    | .other =>
      bwvLog (.kevent pid answers.keventOk)
      if !answers.keventOk then
        return bdErrKeventregfail
      onState (modify fun psv => { psv with os := psv.os.watched pid })
  return 0

def bdStartError (result : Int) : Int :=
  if result > 0 then
    if psvErrMutexunlockfail.land result ≠ 0 then bdErrUnlockfailure
    else if psvErrTransitionsfail.land result ≠ 0 then bdErrTransitchfail
    else bdErrVmstartfailed
  else bdErrVmstartfailed

def bdLaunchvm (answers : StartAnswers) : StateM BhyveWatchedVm Int := do
  let (result, pid) ← onState (psvStartvm answers.launch)
  if result ≠ 0 then
    return bdStartError result
  bdStartLaunched (pid.getD 0) answers

def bdStartvm (answers : StartAnswers) : StateM BhyveWatchedVm Int := do
  if ← bwvIsCountfail answers.now then
    _ ← onState psvFailurestate
    return bdErrVmstateisfail
  if ← onState psvIsFailurestate then
    return bdErrVmstateisfail
  _ ← bwvTimestamp answers.stampAllocated answers.stampTime
  if bwvGenerateConfig answers.generator ≠ 0 then
    _ ← onState psvFailurestate
    return bdErrVmconfgenfail
  bdLaunchvm answers

def bdStopvm (answers : StopAnswers) : StateM BhyveWatchedVm Int :=
  onState (psvStopvm false answers)

def bdResetfailvm : StateM BhyveWatchedVm Int := do
  if !(← onState psvIsFailurestate) then
    return bdErrVmstatenofail
  onState psvResetfailure

/-- The `EVFILT_PROC` case of `bd_kqueue_thread`; the results of the calls
are not looked at. -/
def bdKqueueExit (status : Nat) (answers : ExitAnswers) : StateM BhyveWatchedVm Unit := do
  if wifexited status then
    _ ← onState (psvOnexit answers (toUshort (wexitstatus status)))
  else
    _ ← onState psvFailurestate

def bwvNew (maxrestart : UInt32) (maxrestarttime : Int) (rmo : Bool) : BhyveWatchedVm :=
  ⟨⟨.init, 0, rmo, ⟨fun _ _ => .absent, [], []⟩⟩, maxrestart, maxrestarttime, []⟩

end Vmstated.Libprocwatch
