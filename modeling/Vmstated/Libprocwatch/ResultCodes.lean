import Vmstated.Libprocwatch.CommandHandler
import Vmstated.Libprocwatch.DirectorSpec

/-! The codes with which the director answers for a machine that it knows. -/
namespace Vmstated.Libprocwatch
open Library

/-- Those of bhyve_director_errors.h, but for the unknown name, and -1. -/
def resultCodes : List Int :=
  [0, -1, bdErrVmconfgenfail, bdErrVmstatenofail, bdErrVmstartdiedim,
    bdErrTransitchfail, bdErrKeventregfail,
    bdErrVmstartfailed, bdErrVmstateisfail, bdErrUnlockfailure]

abbrev Coded (program : StateM BhyveWatchedVm Int) : Prop := Returns (· ∈ resultCodes) program

theorem returns_onState {α : Type} {p : α → Prop} {program : StateM ProcessStateVm α}
    (h : Returns p program) :
    Returns p (onState program) := fun bwv => h bwv.state

/-! Stopping. -/

abbrev Failable (program : StateM ProcessStateVm Int) : Prop :=
  Returns (· ∈ [0, (-1 : Int)]) program

theorem failable_zero : Failable (pure 0) := .pure (by decide)

theorem failable_failed : Failable (pure (-1)) := .pure (by decide)

theorem psvWaitexit_failable (exitcode : Bool) (answers : StopAnswers) (pid : Nat) :
    Failable (psvWaitexit exitcode answers pid) := by
  unfold psvWaitexit
  apply Returns.ite failable_zero
  cases answers.waited with
  | none => exact .bind fun _ => failable_failed
  | some status => exact .bind fun _ => .ite (.bind fun _ => failable_zero) failable_zero

theorem psvSignal_failable (exitcode : Bool) (answers : StopAnswers) :
    Failable (psvSignal exitcode answers) := by
  unfold psvSignal
  apply Returns.bind
  intro pid
  apply Returns.ite failable_zero
  apply Returns.bind
  intro _
  apply Returns.ite
  · exact .bind fun _ => .ite failable_failed (psvWaitexit_failable exitcode answers pid)
  · exact psvWaitexit_failable exitcode answers pid

theorem psvStopOrReboot_failable (reboot exitcode : Bool) (answers : StopAnswers) :
    Failable (psvStopOrReboot reboot exitcode answers) := by
  unfold psvStopOrReboot
  apply Returns.bind
  intro _
  apply Returns.ite failable_failed
  apply Returns.bind
  intro _
  apply Returns.ite
  · exact .bind fun _ => .ite failable_failed (psvSignal_failable exitcode answers)
  · exact psvSignal_failable exitcode answers

theorem bdStopvm_coded (answers : StopAnswers) : Coded (bdStopvm answers) := by
  have hstop : Returns (· ∈ [0, (-1 : Int)]) (bdStopvm answers) :=
    returns_onState (psvStopOrReboot_failable false false answers)
  exact hstop.mono (by decide)

/-! Starting. -/

theorem bdStartError_coded (result : Int) : bdStartError result ∈ resultCodes := by
  unfold bdStartError
  split
  · split
    · decide
    · split <;> decide
  · decide

theorem bdStartDied_coded (status : Nat) (answers : ExitAnswers) :
    Coded (bdStartDied status answers) := by
  have hdied : Coded (pure bdErrVmstartdiedim) := .pure (by decide)
  unfold bdStartDied
  apply Returns.bind
  intro _
  exact .ite (.bind fun _ => hdied) hdied

theorem bdStartLaunched_coded (pid : Nat) (answers : StartAnswers) :
    Coded (bdStartLaunched pid answers) := by
  have hup : Coded (pure 0) := .pure (by decide)
  unfold bdStartLaunched
  apply Returns.ite (.bind fun _ => hup)
  cases answers.waitpid with
  | reports status => exact .ite (.bind fun _ => bdStartDied_coded status answers.exit) hup
  | other => exact .bind fun _ => .ite (.pure (by decide)) (.bind fun _ => hup)

theorem bdLaunchvm_coded (answers : StartAnswers) : Coded (bdLaunchvm answers) := by
  unfold bdLaunchvm
  apply Returns.bind
  intro started
  exact .ite (.pure (bdStartError_coded started.1)) (bdStartLaunched_coded _ answers)

theorem bdStartvm_coded (answers : StartAnswers) : Coded (bdStartvm answers) := by
  have hfailed : Coded (pure bdErrVmstateisfail) := .pure (by decide)
  have hnoconfig : Coded (pure bdErrVmconfgenfail) := .pure (by decide)
  unfold bdStartvm
  apply Returns.bind
  intro _
  apply Returns.ite (.bind fun _ => hfailed)
  apply Returns.bind
  intro _
  apply Returns.ite hfailed
  apply Returns.bind
  intro _
  exact .ite (.bind fun _ => hnoconfig) (bdLaunchvm_coded answers)

/-! Resetting. -/

theorem bdResetfailvm_coded : Coded bdResetfailvm := by
  intro bwv
  by_cases hfailed : bwv.state.state = .failed
  · rw [bdResetfailvm_of_failed hfailed]
    exact (by decide : (0 : Int) ∈ resultCodes)
  · rw [bdResetfailvm_of_not_failed hfailed]
    exact (by decide : bdErrVmstatenofail ∈ resultCodes)

end Vmstated.Libprocwatch
