import Vmstated.Libprocwatch.ProcessState

/-! What `process_transition_list` allows, and what one call of
`sth_transitionto` on it can do. -/
namespace Vmstated.Libprocwatch
open Library Libstate

/-- The graph of `process_transition_list`; `stop_storage` is entered from
everywhere. -/
def edge : VmState → VmState → Bool
  | _, .stopStorage => true
  | .init, .startNetwork => true
  | .startNetwork, .startStorage => true
  | .startNetwork, .stopNetwork => true
  | .startStorage, .running => true
  | .running, .stopping => true
  | .running, .prestopBeforeRestart => true
  | .stopStorage, .stopNetwork => true
  | .stopNetwork, .stopped => true
  | .prestopBeforeRestart, .restarting => true
  | .restarting, .restartStopped => true
  | .restartStopped, .prestartAfterRestart => true
  | .prestartAfterRestart, .startAfterRestart => true
  | .startAfterRestart, .restarted => true
  | .restarted, .running => true
  | .stopped, .failed => true
  | .stopped, .startNetwork => true
  | .failed, .init => true
  | _, _ => false

@[simp] theorem node_id (state : VmState) : state.node.id = state := by
  cases state <;> rfl

@[simp] theorem node_onExit (state : VmState) : state.node.onExit = none := by
  cases state <;> rfl

theorem node_onEnter (state : VmState) :
    state.node.onEnter = if state = .init then none else some schOnenter := by
  cases state <;> rfl

theorem findtransition_dst (source target : VmState) :
    (sthFindtransition ⟨source.node, processTransitionList⟩ target).bind (·.dst) =
      if edge source target then some target.node else none := by
  cases source <;> cases target <;> rfl

theorem findtransition_isSome (source target : VmState) :
    (sthFindtransition ⟨source.node, processTransitionList⟩ target).isSome =
      edge source target := by
  cases source <;> cases target <;> rfl

namespace ProcessStateVm

/-- The call that found no entry. -/
def missed (psv : ProcessStateVm) (target : VmState) : ProcessStateVm :=
  psv.log (.request psv.state target false)

def hooked (psv : ProcessStateVm) (target : VmState) : ProcessStateVm :=
  { psv with
    os :=
      { psv.os with
        hooks := psv.os.hooks.drop 1
        trace := psv.os.trace ++
          [.request psv.state target true, .hook target (psv.os.hooks 0 target)] } }

def entered (psv : ProcessStateVm) (target : VmState) : ProcessStateVm :=
  { psv.hooked target with state := target }

end ProcessStateVm

section
variable {psv : ProcessStateVm} {target : VmState}

/-- All a call can do, for the states that have a hook. -/
theorem psvTransitionto_eq (hinit : target ≠ .init) :
    psvTransitionto target psv =
      if edge psv.state target then
        if (psv.os.hooks 0 target).good then (0, psv.entered target) else (-1, psv.hooked target)
      else (-1, psv.missed target) := by
  have hdst := findtransition_dst psv.state target
  have hfound := findtransition_isSome psv.state target
  unfold psvTransitionto ProcessStateVm.sth
  by_cases hedge : edge psv.state target = true
  · rw [hedge] at hdst hfound
    simp only [hfound, sthTransitionto_of_some hdst (node_onExit psv.state), node_onEnter,
      if_neg hinit, runCallback_some, schOnenter, node_id, Os.log_hooks, Os.log_trace,
      Os.log_procs, schRunscript_eq_zero, hedge, ↓reduceIte]
    split
    · simp [sthGetcurrentid, ProcessStateVm.entered, ProcessStateVm.hooked]
    · simp [sthGetcurrentid, ProcessStateVm.hooked]
  · rw [Bool.not_eq_true] at hedge
    rw [hedge] at hdst hfound
    simp only [hfound, sthTransitionto_of_none hdst, sthGetcurrentid, node_id, hedge,
      Bool.false_eq_true, ↓reduceIte]
    rfl

theorem psvTransitionto_init (hedge : edge psv.state .init = true) :
    psvTransitionto .init psv =
      (0, { psv.log (.request psv.state .init true) with state := .init }) := by
  have hdst := findtransition_dst psv.state .init
  have hfound := findtransition_isSome psv.state .init
  rw [hedge] at hdst hfound
  unfold psvTransitionto ProcessStateVm.sth
  simp only [hfound, sthTransitionto_of_some hdst (node_onExit psv.state), node_onEnter]
  rfl

end

end Vmstated.Libprocwatch
