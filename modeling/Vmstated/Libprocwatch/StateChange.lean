import Vmstated.Library.Oracle
import Vmstated.Libprocwatch.WaitStatus
import Vmstated.Libstate.StateHandler

/-! Hook scripts, and the operating system as the functions that manage one
virtual machine see it. -/
namespace Vmstated.Libprocwatch
open Library Libstate

inductive VmState where
  | init
  | startNetwork
  | prestartAfterRestart
  | startStorage
  | startAfterRestart
  | running
  | restarted
  | stopping
  | stopStorage
  | prestopBeforeRestart
  | stopNetwork
  | restarting
  | stopped
  | restartStopped
  | failed
deriving DecidableEq, Repr

/-- What becomes of a hook script: no such file, no process for it, or a
process that `waitpid` reports. -/
inductive HookOutcome where
  | absent
  | notLaunched
  | waited (status : Nat)
deriving DecidableEq, Repr

def schRunscript : HookOutcome → Int
  | .absent => 0
  | .notLaunched => -1
  | .waited status => if wifexited status then wexitstatus status else -1

/-- What a call did, in order. -/
inductive Event where
  /-- `sth_transitionto` was called; `found` tells whether the table has an entry. -/
  | request (src target : VmState) (found : Bool)
  | hook (state : VmState) (outcome : HookOutcome)
  /-- `launch_redirected` was called in `state`; `pid` is that of the new process. -/
  | launch (state : VmState) (pid : Option Nat)
  | kill (pid : Nat) (sent : Bool)
  /-- `psv_onexit` was called. -/
  | onexit (exitcode : Nat)
  | requestReboot (accepted : Bool)
  /-- `time` was read. -/
  | clock (now : Int)
  /-- A start timestamp was recorded. -/
  | stamp (time : Int)
  | kevent (pid : Nat) (registered : Bool)
deriving DecidableEq, Repr

def Event.rebootRequest : Event → Option Bool
  | .requestReboot accepted => some accepted
  | _ => none

/-- A process launched for the virtual machine. It is `watched` from the
registration of its `NOTE_EXIT` event until that event is delivered. -/
structure Proc where
  pid : Nat
  alive : Bool
  watched : Bool
deriving DecidableEq, Repr

/-- `hooks` decides the outcome of the hook scripts still to come, `trace`
lists what the call did so far, `procs` the processes launched, newest first. -/
structure Os where
  hooks : Oracle VmState HookOutcome
  trace : List Event
  procs : List Proc

def Os.log (os : Os) (event : Event) : Os := { os with trace := os.trace ++ [event] }

def Os.call (hooks : Oracle VmState HookOutcome) (os : Os) : Os :=
  { os with hooks := hooks, trace := [] }

@[simp] theorem Os.log_hooks (os : Os) (event : Event) : (os.log event).hooks = os.hooks := rfl
@[simp] theorem Os.log_procs (os : Os) (event : Event) : (os.log event).procs = os.procs := rfl
@[simp] theorem Os.log_trace (os : Os) (event : Event) :
    (os.log event).trace = os.trace ++ [event] := rfl

def updatePid (pid : Nat) (update : Proc → Proc) : List Proc → List Proc
  | [] => []
  | p :: procs => if p.pid = pid then update p :: procs else p :: updatePid pid update procs

@[simp] theorem updatePid_head (pid : Nat) (update : Proc → Proc) (p : Proc) (procs : List Proc)
    (h : p.pid = pid) : updatePid pid update (p :: procs) = update p :: procs := by
  simp [updatePid, h]

def Os.reaped (os : Os) (pid : Nat) : Os :=
  { os with procs := updatePid pid (fun p => { p with alive := false }) os.procs }

/-- `kevent` registered the pid for `NOTE_EXIT`. -/
def Os.watched (os : Os) (pid : Nat) : Os :=
  { os with procs := updatePid pid (fun p => { p with watched := true }) os.procs }

/-- `on_enter` of every state but `init`: run the script named after the state. -/
def schOnenter : Callback VmState Os := fun newState _ _ os =>
  let outcome := os.hooks 0 newState.id
  (schRunscript outcome,
    { os with hooks := os.hooks.drop 1, trace := os.trace ++ [.hook newState.id outcome] })

/-- The script succeeded, or there is none. -/
def HookOutcome.good (outcome : HookOutcome) : Bool := schRunscript outcome == 0

theorem schRunscript_eq_zero {outcome : HookOutcome} :
    schRunscript outcome = 0 ↔ outcome.good = true := by
  simp [HookOutcome.good]

end Vmstated.Libprocwatch
