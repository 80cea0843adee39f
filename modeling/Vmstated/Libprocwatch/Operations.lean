import Vmstated.Library.Machine
import Vmstated.Libprocwatch.DirectorSpec

/-! Runs of the functions of process_state.c on one virtual machine, and what
these functions do when no hook script fails. -/
namespace Vmstated.Libprocwatch
open Library

inductive PsvOp where
  | startvm (answers : LaunchAnswers)
  /-- `exitcode` is NULL. -/
  | stopOrReboot (reboot : Bool) (answers : StopAnswers)
  | onexit (exitcode : Nat) (answers : ExitAnswers)
  | failurestate
  | resetfailure

def PsvOp.run : PsvOp → StateM ProcessStateVm Int
  | .startvm answers => return (← psvStartvm answers).1
  | .stopOrReboot reboot answers => psvStopOrReboot reboot false answers
  | .onexit exitcode answers => psvOnexit answers exitcode
  | .failurestate => psvFailurestate
  | .resetfailure => psvResetfailure

structure PsvCall where
  hooks : Hooks
  op : PsvOp

def psvMachine : Machine ProcessStateVm PsvCall Int where
  step psv input := some (input.op.run (psv.call input.hooks))

def VmState.resting : VmState → Bool
  | .init | .running | .stopping | .prestopBeforeRestart | .restartStopped | .stopped | .failed =>
    true
  | _ => false

/-- The machine went from `psv` to `psv'` along entries of the table. -/
structure Follows (psv psv' : ProcessStateVm) : Prop where
  rmo : psv'.rmo = psv.rmo
  found : Adds Event.found psv psv'

namespace Follows
variable {psv psv' psv'' : ProcessStateVm}

theorem refl (psv : ProcessStateVm) : Follows psv psv := ⟨rfl, .refl _ psv⟩

theorem trans (h : Follows psv psv') (h' : Follows psv' psv'') : Follows psv psv'' :=
  ⟨h'.rmo.trans h.rmo, h.found.trans h'.found⟩

theorem log (h : Follows psv psv') {event : Event} (hevent : event.found = true) :
    Follows psv (psv'.log event) :=
  h.trans ⟨rfl, .log psv' hevent⟩

theorem walk (h : Follows psv psv') (path : List VmState) : Follows psv (psv'.walk path) :=
  h.trans ⟨(psv'.quiet_walk path).rmo, psv'.walk_found path⟩

theorem launched (h : Follows psv psv') (pid : Nat) (exited : Bool) :
    Follows psv (psv'.launched pid exited) :=
  h.trans ⟨rfl, [.launch psv'.state (some pid)], rfl, by simp [Event.found]⟩

theorem entered (h : Follows psv psv') (target : VmState) : Follows psv (psv'.entered target) :=
  h.trans ⟨rfl, _, rfl, by simp [Event.found]⟩

end Follows

theorem follows_startup {psv : ProcessStateVm}
    (hpass : hooksPass psv.os.hooks 0 (startupPath psv.state) = true) :
    Follows psv psv.startup := by
  rw [startup_eq_walk hpass]
  exact (Follows.refl psv).walk _

section
variable {psv psv' : ProcessStateVm}

theorem NoHookFails.walk_failed (h : NoHookFails (psv.walk failureSequence)) :
    (psv.walk failureSequence).state = .failed :=
  walk_state_of_pass (h.walk_passes fun _ _ => rfl)

theorem NoHookFails.walk_rests (h : NoHookFails (psv.walk failureSequence)) :
    (psv.walk failureSequence).state.resting = true := by
  rw [h.walk_failed]
  rfl

theorem StartResult.of_no_failure {answers : LaunchAnswers} {result : Int × Option Nat}
    (h : StartResult answers psv result psv') (hclean : NoHookFails psv') :
    Follows psv psv' ∧ (psv.state.resting = true → psv'.state.resting = true) := by
  have hlaunched (pid : Nat) (exited : Bool) := launched_adds psv.startup pid exited
  have hwalk (psv : ProcessStateVm) (path : List VmState) := (psv.quiet_walk path).trace
  have hstartup (hpasses : NoHookFails psv.startup) := follows_startup hpasses.startup_passes
  cases h with
  | refused => exact ⟨.refl psv, id⟩
  | stuck _ hstuck =>
    rw [hclean.startup_passes] at hstuck
    exact absurd hstuck (by decide)
  | lockFails =>
    have hfollows := hstartup (hclean.before (hwalk _ _))
    exact ⟨hfollows.walk _, fun _ => hclean.walk_rests⟩
  | notForked =>
    have hlog : Adds Event.starts psv.startup (psv.startup.log (.launch psv.startup.state none)) :=
      .log _ rfl
    have hfollows := hstartup ((hclean.before (hwalk _ _)).before hlog)
    exact ⟨(hfollows.log rfl).walk _, fun _ => hclean.walk_rests⟩
  | unlockFails =>
    have hfollows := hstartup ((hclean.before (hwalk _ _)).before (hlaunched _ _))
    exact ⟨(hfollows.launched _ _).walk _, fun _ => hclean.walk_rests⟩
  | @up pid exited hstart hpass hlock hlaunch hunlock hup =>
    have hfollows := (follows_startup hpass).launched pid exited
    have hrunning := brought_state ⟨hstart, hpass, hlock, hlaunch, hunlock, hup⟩
    rw [ProcessStateVm.brought] at hrunning
    refine ⟨hfollows.walk _, fun _ => ?_⟩
    rw [hrunning]
    rfl
  | upFails hstart hpass =>
    have hfollows := follows_startup hpass
    exact ⟨((hfollows.launched _ _).walk _).walk _, fun _ => hclean.walk_rests⟩
  | missed _ hrecovers =>
    have hmissed := (hclean.before (hwalk _ _)).before (ProcessStateVm.quiet_missed _ _).trace
    have hstarted : NoHookFails psv.startup := hmissed.before (hlaunched _ _)
    rw [not_recovers_of_pass hstarted.startup_passes] at hrecovers
    exact absurd hrecovers (by decide)

theorem resting_exitEnd (state : VmState) (exitcode : Nat) (hrest : state.resting = true) :
    ((exitPath state exitcode).getLastD state).resting = true := by
  unfold exitPath
  split <;> first | rfl | exact hrest

theorem ExitResult.of_no_failure {answers : ExitAnswers} {exitcode : Nat}
    {call : Int × ProcessStateVm} (h : ExitResult answers exitcode psv call)
    (hclean : NoHookFails call.2) :
    Follows psv call.2 ∧ (psv.state.resting = true → call.2.state.resting = true) := by
  have hmoved : Follows psv (psv.exitMoved exitcode) := ((Follows.refl psv).log rfl).walk _
  have hrest (hpass : hooksPass psv.os.hooks 0 (exitPath psv.state exitcode) = true)
      (hresting : psv.state.resting = true) : (psv.exitMoved exitcode).state.resting = true := by
    rw [exitMoved_state, hookArrival, arrival_of_passes hpass]
    exact resting_exitEnd psv.state exitcode hresting
  cases h with
  | stuck hstuck =>
    have hpass : hooksPass psv.os.hooks 0 (exitPath psv.state exitcode) = true :=
      hclean.walk_passes fun _ _ => rfl
    rw [hpass] at hstuck
    exact absurd hstuck (by decide)
  | unmanaged hpass => exact ⟨hmoved, hrest hpass⟩
  | accepted hpass => exact ⟨hmoved.log rfl, hrest hpass⟩
  | rejected => exact ⟨(hmoved.log rfl).walk _, fun _ => hclean.walk_rests⟩
  | failed =>
    have hwalk := hmoved.walk failureSequence
    have hfailed : NoHookFails ((psv.exitMoved exitcode).walk failureSequence) := hclean
    exact ⟨⟨hwalk.rmo, hwalk.found⟩, fun _ => hfailed.walk_rests⟩
  | settled hpass => exact ⟨hmoved, hrest hpass⟩

theorem ExitResult.passes {answers : ExitAnswers} {exitcode : Nat} {call : Int × ProcessStateVm}
    (h : ExitResult answers exitcode psv call) (hclean : NoHookFails call.2) :
    hooksPass psv.os.hooks 0 (exitPath psv.state exitcode) = true := by
  cases h with
  | stuck => exact hclean.walk_passes fun _ _ => rfl
  | _ => assumption

theorem ExitResult.rebootRequests {answers : ExitAnswers} {exitcode : Nat}
    {call : Int × ProcessStateVm} (h : ExitResult answers exitcode psv call)
    (hpass : hooksPass psv.os.hooks 0 (exitPath psv.state exitcode) = true) :
    rebootRequests call.2.os.trace =
      rebootRequests psv.os.trace ++
        if psv.rmo && exitReboots psv.state exitcode then [answers.rebootAccepted] else [] := by
  have hmoved := exitMoved_rebootRequests psv exitcode
  have hwalk (psv : ProcessStateVm) := quiet_rebootRequests (psv.quiet_walk failureSequence)
  have hlog (accepted : Bool) : Libprocwatch.rebootRequests
      ((psv.exitMoved exitcode).log (.requestReboot accepted)).os.trace =
        Libprocwatch.rebootRequests psv.os.trace ++ [accepted] := by
    rw [ProcessStateVm.log, Os.log_trace, rebootRequests_log, hmoved]
    rfl
  cases h with
  | stuck hstuck =>
    rw [hpass] at hstuck
    exact absurd hstuck (by decide)
  | unmanaged _ _ hrmo => simp [hmoved, hrmo]
  | accepted _ hreboots hrmo haccepted => simp [hlog, hrmo, hreboots, haccepted]
  | rejected _ hreboots hrmo haccepted => simp [hwalk, hlog, hrmo, hreboots, haccepted]
  | failed _ hcode =>
    have hreboots : exitReboots psv.state exitcode = false := exitReboots_of_ne (by omega) psv.state
    simp [hwalk, hmoved, hreboots]
  | settled _ hreboots => simp [hmoved, hreboots]

theorem psvStopOrReboot_of_no_failure (reboot : Bool) (answers : StopAnswers)
    (hclean : NoHookFails (psvStopOrReboot reboot false answers psv).2) :
    Follows psv (psvStopOrReboot reboot false answers psv).2 ∧
      (psv.state.resting = true →
        (psvStopOrReboot reboot false answers psv).2.state.resting = true) := by
  by_cases hs : psv.state = .running
  · have heq := psvStopOrReboot_of_running reboot false answers hs
    have htarget : (if reboot then VmState.prestopBeforeRestart else VmState.stopping).resting =
        true := by
      cases reboot <;> rfl
    dsimp only at heq
    generalize (if reboot then VmState.prestopBeforeRestart else VmState.stopping) = target
      at htarget heq
    have hgood : (psv.os.hooks 0 target).good = true := by
      by_contra hbad
      rw [heq, if_neg hbad] at hclean
      have hhooked : NoHookFails (psv.hooked target) := by
        split at hclean
        · exact (hclean.before (psvSignal_frame _ _).2).before (ProcessStateVm.quiet_walk _ _).trace
        · exact hclean.before (ProcessStateVm.quiet_walk _ _).trace
      exact hbad (hhooked.hooked_good rfl)
    have hentered := (Follows.refl psv).entered target
    rw [if_pos hgood] at heq
    rw [heq] at hclean ⊢
    rcases psvSignal_cases answers (psv.entered target) with h | h | h
    · rw [h]
      exact ⟨hentered, fun _ => htarget⟩
    · rw [h]
      exact ⟨hentered.log rfl, fun _ => htarget⟩
    · rw [h] at hclean ⊢
      exact ⟨(hentered.log rfl).walk failureSequence, fun _ => hclean.walk_rests⟩
  · rw [psvStopOrReboot_of_not_running reboot false answers hs]
    exact ⟨.refl psv, id⟩

theorem psvResetfailure_follows (psv : ProcessStateVm) :
    Follows psv (psvResetfailure psv).2 ∧
      (psv.state.resting = true → (psvResetfailure psv).2.state.resting = true) := by
  by_cases hs : psv.state = .failed
  · have hlog : Follows psv (psv.log (.request .failed .init true)) := (Follows.refl psv).log rfl
    rw [psvResetfailure_of_failed hs]
    exact ⟨⟨hlog.rmo, hlog.found⟩, fun _ => rfl⟩
  · rw [psvResetfailure_of_not_failed hs]
    exact ⟨.refl psv, id⟩

end

theorem PsvOp.of_no_failure (op : PsvOp) {psv : ProcessStateVm}
    (hclean : NoHookFails (op.run psv).2) :
    Follows psv (op.run psv).2 ∧
      (psv.state.resting = true → (op.run psv).2.state.resting = true) := by
  cases op with
  | startvm answers => exact (psvStartvm_result answers psv).of_no_failure hclean
  | stopOrReboot reboot answers => exact psvStopOrReboot_of_no_failure reboot answers hclean
  | onexit exitcode answers => exact (psvOnexit_result answers exitcode psv).of_no_failure hclean
  | failurestate =>
    have hfailure : (PsvOp.failurestate.run psv).2 = psv.walk failureSequence := by
      rw [PsvOp.run, psvFailurestate_eq]
    rw [hfailure] at hclean ⊢
    exact ⟨(Follows.refl psv).walk failureSequence, fun _ => hclean.walk_rests⟩
  | resetfailure => exact psvResetfailure_follows psv

/-- The reboot the operation asks for in `state`, with the manager's answer. -/
def PsvOp.reboots (state : VmState) : PsvOp → Option Bool
  | .onexit exitcode answers =>
    if exitcode = 0 ∧ (state = .running ∨ state = .prestopBeforeRestart) then
      some answers.rebootAccepted
    else none
  | _ => none

theorem PsvOp.rebootRequests (op : PsvOp) {psv : ProcessStateVm}
    (hclean : NoHookFails (op.run psv).2) :
    rebootRequests (op.run psv).2.os.trace =
      rebootRequests psv.os.trace ++ if psv.rmo then (op.reboots psv.state).toList else [] := by
  cases op with
  | startvm answers =>
    have hadds := (psvStartvm_result answers psv).adds
    have hsame := hadds.rebootRequests fun e he => by
      cases e <;> first | rfl | simp [Event.starts] at he
    simpa [PsvOp.run, PsvOp.reboots] using hsame
  | stopOrReboot reboot answers =>
    have hadds := (psvStopOrReboot_frame reboot answers psv).2
    have hsame := hadds.rebootRequests fun e he => by
      cases e <;> first | rfl | simp [Event.stops] at he
    simpa [PsvOp.run, PsvOp.reboots] using hsame
  | onexit exitcode answers =>
    have hresult := psvOnexit_result answers exitcode psv
    have hrequests := hresult.rebootRequests (hresult.passes hclean)
    rw [PsvOp.run, hrequests]
    congr 1
    unfold PsvOp.reboots exitReboots
    cases psv.rmo <;> simp
    split <;> simp
  | failurestate =>
    have hsame := quiet_rebootRequests (psv.quiet_walk failureSequence)
    simpa [PsvOp.run, PsvOp.reboots, psvFailurestate_eq] using hsame
  | resetfailure =>
    by_cases hs : psv.state = .failed
    · have hlog : Libprocwatch.rebootRequests (psv.os.trace ++ [.request .failed .init true]) =
          Libprocwatch.rebootRequests psv.os.trace ++ [] := rebootRequests_log
      simpa [PsvOp.run, PsvOp.reboots, psvResetfailure_of_failed hs, ProcessStateVm.log] using hlog
    · simp [PsvOp.run, PsvOp.reboots, psvResetfailure_of_not_failed hs]

end Vmstated.Libprocwatch
