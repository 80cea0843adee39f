import Mathlib.Data.Int.Bitwise
import Vmstated.Libprocwatch.StateChange

/-! process_state.c: the state machine of one virtual machine and the
functions that drive it. A function returns its C result and acts on the
`process_state_vm`; system calls answer what their arguments say. -/
namespace Vmstated.Libprocwatch
open Library Libstate

def hookedNode (id : VmState) (name : String) : StateNode VmState Os :=
  ⟨⟨id, name⟩, some schOnenter, none⟩

def processStateList : List (StateNode VmState Os) :=
  [ ⟨⟨.init, "init"⟩, none, none⟩,
    hookedNode .startNetwork "start_network",
    hookedNode .prestartAfterRestart "prestart_after_restart",
    hookedNode .startStorage "start_storage",
    hookedNode .startAfterRestart "start_after_restart",
    hookedNode .running "running",
    hookedNode .restarted "restarted",
    hookedNode .stopStorage "stop_storage",
    hookedNode .prestopBeforeRestart "prestop_before_restart",
    hookedNode .stopNetwork "stop_network",
    hookedNode .restarting "restarting",
    hookedNode .stopped "stopped",
    hookedNode .restartStopped "restart_stopped",
    hookedNode .failed "failed",
    hookedNode .stopping "stopping" ]

/-- An entry of `process_transition_list`, by index into `process_state_list`. -/
def transitionEntry (src : Option Nat) (dst : Nat) : StateTransition VmState Os :=
  ⟨src.bind (processStateList[·]?), processStateList[dst]?⟩

def processTransitionList : List (StateTransition VmState Os) :=
  [ transitionEntry (some 0) 1,
    transitionEntry (some 1) 3,
    transitionEntry (some 1) 9,
    transitionEntry (some 3) 5,
    transitionEntry (some 5) 14,
    transitionEntry (some 14) 7,
    transitionEntry (some 5) 8,
    transitionEntry (some 7) 9,
    transitionEntry (some 9) 11,
    transitionEntry (some 8) 10,
    transitionEntry (some 10) 12,
    transitionEntry (some 12) 2,
    transitionEntry (some 2) 4,
    transitionEntry (some 4) 6,
    transitionEntry (some 6) 5,
    transitionEntry (some 11) 13,
    transitionEntry none 7,
    transitionEntry (some 1) 9,
    transitionEntry (some 11) 1,
    transitionEntry (some 13) 0 ]

def psState (id : VmState) : Option (StateNode VmState Os) :=
  (sthLookupstate processStateList id).bind (processStateList[·]?)

def VmState.node (id : VmState) : StateNode VmState Os :=
  (psState id).getD (hookedNode id "")

/-- `state` is the id of the handler's current node; the handler's table is
always `process_transition_list`. `rmo` tells whether a reboot manager is set. -/
structure ProcessStateVm where
  state : VmState
  processid : Nat
  rmo : Bool
  os : Os

def ProcessStateVm.sth (psv : ProcessStateVm) : StateHandler VmState Os :=
  ⟨psv.state.node, processTransitionList⟩

def ProcessStateVm.log (psv : ProcessStateVm) (event : Event) : ProcessStateVm :=
  { psv with os := psv.os.log event }

def ProcessStateVm.call (hooks : Oracle VmState HookOutcome) (psv : ProcessStateVm) :
    ProcessStateVm :=
  { psv with os := psv.os.call hooks }

def psvTransitionto (target : VmState) : StateM ProcessStateVm Int := fun psv =>
  let found := (sthFindtransition psv.sth target).isSome
  let call := sthTransitionto psv.sth target (psv.os.log (.request psv.state target found))
  (call.1.1, { psv with state := sthGetcurrentid call.1.2, os := call.2 })

def psvGetstate : StateM ProcessStateVm VmState := return (← get).state

def psvGetpid (lockOk : Bool) : StateM ProcessStateVm Nat := do
  if !lockOk then
    return 0
  return (← get).processid

def psvTransitions : List VmState → StateM ProcessStateVm Int
  | [] => return 0
  | target :: targets => do
    if (← psvTransitionto target) ≠ 0 then
      return -1
    psvTransitions targets

def failureSequence : List VmState := [.stopStorage, .stopNetwork, .stopped, .failed]

def psvFailurestate : StateM ProcessStateVm Int := psvTransitions failureSequence

def psvIsFailurestate : StateM ProcessStateVm Bool := return (← psvGetstate) = .failed

def psvResetfailure : StateM ProcessStateVm Int := do
  if !(← psvIsFailurestate) then
    return -1
  psvTransitionto .init

/-! process_state_errors.h -/

def psvErrMutexunlockfail : Int := 1
def psvErrTransitionsfail : Int := 2
def psvErrMutexlockfailed : Int := 4

structure ExitAnswers where
  rebootAccepted : Bool
  lockOk : Bool
  unlockOk : Bool

def requestReboot (accepted : Bool) : StateM ProcessStateVm Int := do
  if (← get).rmo then
    modify (·.log (.requestReboot accepted))
    if !accepted then
      _ ← psvFailurestate
      return -1
  return 0

def psvExitSwitch (answers : ExitAnswers) (exitcode : Nat) : StateM ProcessStateVm Int := do
  match ← psvGetstate with
  | .prestopBeforeRestart =>
    match exitcode with
    | 0 =>
      if (← psvTransitions [.restarting, .restartStopped]) ≠ 0 then
        return -1
      requestReboot answers.rebootAccepted
    | _ => return 0
  | .running =>
    match exitcode with
    | 0 =>
      if (← psvTransitions [.prestopBeforeRestart, .restarting, .restartStopped]) ≠ 0 then
        return -1
      requestReboot answers.rebootAccepted
    | 1 | 2 => psvTransitions [.stopStorage, .stopNetwork, .stopped]
    | _ => return 0
  | .stopping => psvTransitions [.stopStorage, .stopNetwork, .stopped]
  | _ => return 0

def psvExitFailure (answers : ExitAnswers) : StateM ProcessStateVm Int := do
  _ ← psvFailurestate
  if !answers.lockOk then
    return psvErrMutexlockfailed
  modify fun psv => { psv with processid := 0 }
  if !answers.unlockOk then
    return psvErrMutexunlockfail
  return 0

def psvOnexit (answers : ExitAnswers) (exitcode : Nat) : StateM ProcessStateVm Int := do
  modify (·.log (.onexit exitcode))
  if (← psvExitSwitch answers exitcode) ≠ 0 then
    return -1
  if exitcode ≥ 3 then
    psvExitFailure answers
  else
    return 0

/-- What `pd_launch_redirected` meets. `exited` tells that the child is gone
before the call that launched it returns. -/
inductive LaunchOutcome where
  | clientFails
  | forkFails
  | forked (pid : Nat) (exited : Bool)
deriving DecidableEq, Repr

def pdLaunchRedirected (outcome : LaunchOutcome) : StateM ProcessStateVm Int := fun psv =>
  match outcome with
  | .clientFails | .forkFails => (-1, psv.log (.launch psv.state none))
  | .forked pid exited =>
    let os := psv.os.log (.launch psv.state (some pid))
    (0, { psv with processid := pid, os := { os with procs := ⟨pid, !exited, false⟩ :: os.procs } })

structure LaunchAnswers where
  lockOk : Bool
  launch : LaunchOutcome
  unlockOk : Bool

/-- The end of `psv_startvm`, from the lock on. The second component is what
it stores in `*pid`. -/
def psvLaunchvm (answers : LaunchAnswers) (restarting : Bool) :
    StateM ProcessStateVm (Int × Option Nat) := do
  if !answers.lockOk then
    if (← psvFailurestate) ≠ 0 then
      return (-1, none)
    return (-1, none)
  let result ← pdLaunchRedirected answers.launch
  let failure := result ≠ 0
  let psv ← get
  let pid := if failure then none else some psv.processid
  if !answers.unlockOk ∨ failure then
    let result := result.lor psvErrMutexunlockfail
    if (← psvFailurestate) ≠ 0 then
      return (result.lor psvErrTransitionsfail, pid)
    return (result, pid)
  if (← psvTransitionto (if restarting then .restarted else .running)) ≠ 0 then
    _ ← psvFailurestate
    return (result.lor psvErrTransitionsfail, pid)
  if restarting then
    if (← psvTransitionto .running) ≠ 0 then
      _ ← psvFailurestate
      return (result.lor psvErrTransitionsfail, pid)
  return (result, pid)

def VmState.startable (state : VmState) : Bool :=
  state = .init ∨ state = .stopped ∨ state = .restartStopped

/-- The two start-up entries of `psv_startvm`, with their recovery; -1 where
`psv_startvm` returns. -/
def psvStartup (current : VmState) : StateM ProcessStateVm Int := do
  let restarting : Bool := current = .restartStopped
  if (← psvTransitionto (if restarting then .prestartAfterRestart else .startNetwork)) ≠ 0 then
    if current = .init then
      return -1
    let storage := if restarting then [.stopStorage] else []
    if (← psvTransitions (storage ++ [.stopNetwork, .stopped, .failed])) ≠ 0 then
      return -1
    -- as in the source, nothing returns here: the start goes on
  if (← psvTransitionto (if restarting then .startAfterRestart else .startStorage)) ≠ 0 then
    if (← psvFailurestate) ≠ 0 then
      return -1
    -- and nothing returns here either
  return 0

def psvStartvm (answers : LaunchAnswers) : StateM ProcessStateVm (Int × Option Nat) := do
  let current ← psvGetstate
  if !current.startable then
    return (-1, none)
  if (← psvStartup current) ≠ 0 then
    return (-1, none)
  psvLaunchvm answers (current = .restartStopped)

structure StopAnswers where
  lockOk : Bool
  killOk : Bool
  /-- What `waitpid` stores; `none` if it fails. -/
  waited : Option Nat

/-- The `if (exitcode)` of `psv_stop_or_reboot`; `exitcode` tells whether the
caller passes a pointer for the status. -/
def psvWaitexit (exitcode : Bool) (answers : StopAnswers) (pid : Nat) :
    StateM ProcessStateVm Int := do
  if !exitcode then
    return 0
  match answers.waited with
  | none =>
    _ ← psvFailurestate
    return -1
  | some status =>
    modify fun psv => { psv with os := psv.os.reaped pid }
    if wifexited status ∧ toUshort (wexitstatus status) ≥ 3 then
      _ ← psvFailurestate
    return 0

def psvSignal (exitcode : Bool) (answers : StopAnswers) : StateM ProcessStateVm Int := do
  let pid ← psvGetpid answers.lockOk
  if pid = 0 then
    return 0
  modify (·.log (.kill pid answers.killOk))
  if !answers.killOk then
    if (← psvFailurestate) ≠ 0 then
      return -1
  psvWaitexit exitcode answers pid

def psvStopOrReboot (reboot exitcode : Bool) (answers : StopAnswers) :
    StateM ProcessStateVm Int := do
  if (← psvGetstate) ≠ .running then
    return -1
  if (← psvTransitionto (if reboot then .prestopBeforeRestart else .stopping)) ≠ 0 then
    if (← psvFailurestate) ≠ 0 then
      return -1
  psvSignal exitcode answers

def psvStopvm (exitcode : Bool) (answers : StopAnswers) : StateM ProcessStateVm Int :=
  psvStopOrReboot false exitcode answers

def psvRebootvm (exitcode : Bool) (answers : StopAnswers) : StateM ProcessStateVm Int :=
  psvStopOrReboot true exitcode answers

end Vmstated.Libprocwatch
