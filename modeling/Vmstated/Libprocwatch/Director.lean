import Vmstated.Library.Machine
import Vmstated.Libprocwatch.BhyveDirector

/-! Runs of one watched machine under the director. An operation carries all
the outcomes it meets, and runs to completion. -/
namespace Vmstated.Libprocwatch
open Library

inductive Op where
  /-- `bd_startvm`, from a client or from the reboot thread. -/
  | startvm (hooks : Oracle VmState HookOutcome) (answers : StartAnswers)
  | stopvm (hooks : Oracle VmState HookOutcome) (answers : StopAnswers)
  | resetfailvm (hooks : Oracle VmState HookOutcome)
  /-- The exit event of the process at this place of the list is delivered. -/
  | exitEvent (index : Nat) (status : Nat) (hooks : Oracle VmState HookOutcome)
      (answers : ExitAnswers)
  /-- That process exits. -/
  | exits (index : Nat)

namespace BhyveWatchedVm

def call (hooks : Oracle VmState HookOutcome) (bwv : BhyveWatchedVm) : BhyveWatchedVm :=
  { bwv with state := bwv.state.call hooks }

def withProcs (procs : List Proc) (bwv : BhyveWatchedVm) : BhyveWatchedVm :=
  { bwv with state := { bwv.state with os := { bwv.state.os with procs := procs, trace := [] } } }

end BhyveWatchedVm

/-- The steps of the director. The output is the return code, 0 for steps that
have none. -/
def director : Machine BhyveWatchedVm Op Int where
  step bwv
    | .startvm hooks answers => some (bdStartvm answers (bwv.call hooks))
    | .stopvm hooks answers => some (bdStopvm answers (bwv.call hooks))
    | .resetfailvm hooks => some (bdResetfailvm (bwv.call hooks))
    | .exitEvent index status hooks answers =>
      match bwv.state.os.procs[index]? with
      | some ⟨pid, false, true⟩ =>
        let delivered := bwv.withProcs (bwv.state.os.procs.set index ⟨pid, false, false⟩)
        some (0, (bdKqueueExit status answers (delivered.call hooks)).2)
      | _ => none
    | .exits index =>
      match bwv.state.os.procs[index]? with
      | some ⟨pid, true, watched⟩ =>
        some (0, bwv.withProcs (bwv.state.os.procs.set index ⟨pid, false, watched⟩))
      | _ => none

theorem director_startvm (bwv : BhyveWatchedVm) (hooks : Oracle VmState HookOutcome)
    (answers : StartAnswers) :
    director.step bwv (.startvm hooks answers) =
      some ((bdStartvm answers (bwv.call hooks)).1, (bdStartvm answers (bwv.call hooks)).2) := rfl

section
variable {bwv after : BhyveWatchedVm} {output : Int} {index status : Nat}
  {hooks : Oracle VmState HookOutcome} {answers : ExitAnswers}

theorem director_exitEvent
    (hstep : director.step bwv (.exitEvent index status hooks answers) = some (output, after)) :
    ∃ pid, bwv.state.os.procs[index]? = some ⟨pid, false, true⟩ ∧
      after = (bdKqueueExit status answers
        ((bwv.withProcs (bwv.state.os.procs.set index ⟨pid, false, false⟩)).call hooks)).2 := by
  simp only [director] at hstep
  split at hstep
  · rename_i pid hproc
    cases hstep
    exact ⟨pid, hproc, rfl⟩
  · contradiction

theorem director_stopvm {answers : StopAnswers}
    (hstep : director.step bwv (.stopvm hooks answers) = some (output, after)) :
    bdStopvm answers (bwv.call hooks) = (output, after) := Option.some.inj hstep

theorem director_resetfailvm
    (hstep : director.step bwv (.resetfailvm hooks) = some (output, after)) :
    bdResetfailvm (bwv.call hooks) = (output, after) := Option.some.inj hstep

theorem director_exits (hstep : director.step bwv (.exits index) = some (output, after)) :
    ∃ pid watched, bwv.state.os.procs[index]? = some ⟨pid, true, watched⟩ ∧
      after = bwv.withProcs (bwv.state.os.procs.set index ⟨pid, false, watched⟩) := by
  simp only [director] at hstep
  split at hstep
  · rename_i pid watched hproc
    cases hstep
    exact ⟨pid, watched, hproc, rfl⟩
  · contradiction

end

end Vmstated.Libprocwatch
