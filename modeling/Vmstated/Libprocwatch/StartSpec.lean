import Vmstated.Libprocwatch.Walks

/-! What a start can do, in terms of the hook outcomes. -/
namespace Vmstated.Libprocwatch
open Library

def startupPath : VmState → List VmState
  | .restartStopped => [.prestartAfterRestart, .startAfterRestart]
  | _ => [.startNetwork, .startStorage]

def upPath : VmState → List VmState
  | .restartStopped => [.restarted, .running]
  | _ => [.running]

/-- A start-up hook fails and every hook of the recovery succeeds. The virtual
machine is `failed` then, and the start goes on. -/
def startupRecovers (hooks : Hooks) : VmState → Bool
  | .restartStopped =>
    if (hooks 0 .prestartAfterRestart).good then
      !(hooks 1 .startAfterRestart).good && hooksPass hooks 2 failureSequence
    else
      hooksPass hooks 1 failureSequence && hooksPass hooks 5 failureSequence
  | _ =>
    (hooks 0 .startNetwork).good && !(hooks 1 .startStorage).good &&
      hooksPass hooks 2 failureSequence

def recoveryHooks (hooks : Hooks) : VmState → Nat
  | .restartStopped => if (hooks 0 .prestartAfterRestart).good then 6 else 9
  | _ => 6

namespace ProcessStateVm

def startup (psv : ProcessStateVm) : ProcessStateVm :=
  match psv.state with
  | .restartStopped =>
    if (psv.os.hooks 0 .prestartAfterRestart).good then
      let psv := psv.entered .prestartAfterRestart
      if (psv.os.hooks 0 .startAfterRestart).good then psv.entered .startAfterRestart
      else (psv.hooked .startAfterRestart).walk failureSequence
    else
      let psv := psv.hooked .prestartAfterRestart
      if hooksPass psv.os.hooks 0 failureSequence then
        ((psv.walk failureSequence).missed .startAfterRestart).walk failureSequence
      else psv.walk failureSequence
  | state =>
    if (psv.os.hooks 0 .startNetwork).good then
      let psv := psv.entered .startNetwork
      if (psv.os.hooks 0 .startStorage).good then psv.entered .startStorage
      else (psv.hooked .startStorage).walk failureSequence
    else if state = .init then psv.hooked .startNetwork
    else (psv.hooked .startNetwork).missed .stopNetwork

end ProcessStateVm

theorem startable_cases {state : VmState} (h : state.startable = true) :
    state = .init ∨ state = .stopped ∨ state = .restartStopped := by
  simpa [VmState.startable] using h

@[simp] theorem failureSequence_length : failureSequence.length = 4 := rfl

theorem walk_state_of_pass {psv : ProcessStateVm} {path : List VmState}
    (h : hooksPass psv.os.hooks 0 path = true) :
    (psv.walk path).state = path.getLastD psv.state := by
  rw [psv.walk_state, hookArrival, arrival_of_passes h]

theorem walk_hooks_of_pass {psv : ProcessStateVm} {path : List VmState}
    (h : hooksPass psv.os.hooks 0 path = true) :
    (psv.walk path).os.hooks = psv.os.hooks.drop path.length := by
  rw [psv.walk_hooks, hooksAsked, asked_of_passes h]

theorem psvStartup_eq (psv : ProcessStateVm) (hstart : psv.state.startable = true) :
    psvStartup psv.state psv =
      (if hooksPass psv.os.hooks 0 (startupPath psv.state) || startupRecovers psv.os.hooks psv.state
        then 0 else -1, psv.startup) := by
  unfold psvStartup ProcessStateVm.startup
  rcases startable_cases hstart with hs | hs | hs
  · simp only [hs, startupPath, startupRecovers]
    by_cases hfirst : (psv.os.hooks 0 .startNetwork).good = true
    · by_cases hsecond : (psv.os.hooks 1 .startStorage).good = true
      · simp [psvTransitionto_eq, hs, edge, hfirst, hsecond]
      · simp [psvTransitionto_eq, hs, edge, hfirst, hsecond, psvFailurestate_eq, passes_drop]
        split <;> simp_all
    · simp [psvTransitionto_eq, hs, edge, hfirst]
  · simp only [hs, startupPath, startupRecovers]
    by_cases hfirst : (psv.os.hooks 0 .startNetwork).good = true
    · by_cases hsecond : (psv.os.hooks 1 .startStorage).good = true
      · simp [psvTransitionto_eq, hs, edge, hfirst, hsecond]
      · simp [psvTransitionto_eq, hs, edge, hfirst, hsecond, psvFailurestate_eq, passes_drop]
        split <;> simp_all
    · simp [psvTransitionto_eq, psvTransitions, hs, edge, hfirst]
  · simp only [hs, startupPath, startupRecovers]
    by_cases hfirst : (psv.os.hooks 0 .prestartAfterRestart).good = true
    · by_cases hsecond : (psv.os.hooks 1 .startAfterRestart).good = true
      · simp [psvTransitionto_eq, hs, edge, hfirst, hsecond]
      · simp [psvTransitionto_eq, hs, edge, hfirst, hsecond, psvFailurestate_eq, passes_drop]
        split <;> simp_all
    · have hsequence : psvTransitions [.stopStorage, .stopNetwork, .stopped, .failed] =
          psvFailurestate := rfl
      by_cases hpass : hooksPass psv.os.hooks 1 failureSequence = true
      · have hhooked : hooksPass (psv.hooked .prestartAfterRestart).os.hooks 0 failureSequence =
          true := by
          rw [ProcessStateVm.hooked_hooks, hooksPass, passes_drop]
          exact hpass
        have hstate : ((psv.hooked .prestartAfterRestart).walk failureSequence).state = .failed :=
          walk_state_of_pass hhooked
        have hhooks := walk_hooks_of_pass hhooked
        simp [psvTransitionto_eq, hs, edge, hfirst, hsequence, psvFailurestate_eq, hpass,
          passes_drop, hstate, hhooks]
        split <;> rfl
      · simp [psvTransitionto_eq, hs, edge, hfirst, hsequence, psvFailurestate_eq, hpass,
          passes_drop]

def launchState : VmState → VmState
  | .restartStopped => .startAfterRestart
  | _ => .startStorage

theorem quiet_startup (psv : ProcessStateVm) : Quiet psv psv.startup := by
  unfold ProcessStateVm.startup
  split
  · split
    · have hfirst := psv.quiet_entered .prestartAfterRestart
      dsimp only
      split
      · exact hfirst.trans (ProcessStateVm.quiet_entered _ _)
      · exact hfirst.trans ((ProcessStateVm.quiet_hooked _ _).trans (ProcessStateVm.quiet_walk _ _))
    · have hfirst := psv.quiet_hooked .prestartAfterRestart
      dsimp only
      split
      · exact hfirst.trans ((ProcessStateVm.quiet_walk _ _).trans
          ((ProcessStateVm.quiet_missed _ _).trans (ProcessStateVm.quiet_walk _ _)))
      · exact hfirst.trans (ProcessStateVm.quiet_walk _ _)
  · split
    · have hfirst := psv.quiet_entered .startNetwork
      dsimp only
      split
      · exact hfirst.trans (ProcessStateVm.quiet_entered _ _)
      · exact hfirst.trans ((ProcessStateVm.quiet_hooked _ _).trans (ProcessStateVm.quiet_walk _ _))
    · have hfirst := psv.quiet_hooked .startNetwork
      split
      · exact hfirst
      · exact hfirst.trans (ProcessStateVm.quiet_missed _ _)

theorem startup_eq_walk {psv : ProcessStateVm}
    (hpass : hooksPass psv.os.hooks 0 (startupPath psv.state) = true) :
    psv.startup = psv.walk (startupPath psv.state) := by
  cases hs : psv.state <;> simp only [hs, startupPath, hooksPass, passes_cons, passes_nil,
    Bool.and_true, Bool.and_eq_true, Nat.zero_add] at hpass <;>
    simp [ProcessStateVm.startup, ProcessStateVm.walk, startupPath, hs, hpass]

theorem startup_of_pass {psv : ProcessStateVm}
    (hpass : hooksPass psv.os.hooks 0 (startupPath psv.state) = true) :
    psv.startup.state = launchState psv.state ∧ psv.startup.os.hooks = psv.os.hooks.drop 2 := by
  have hend : (startupPath psv.state).getLastD psv.state = launchState psv.state := by
    cases psv.state <;> rfl
  have hlength : (startupPath psv.state).length = 2 := by
    cases psv.state <;> rfl
  rw [startup_eq_walk hpass, walk_state_of_pass hpass, walk_hooks_of_pass hpass, hend, hlength]
  exact ⟨rfl, rfl⟩

theorem NoHookFails.startup_passes {psv : ProcessStateVm} (h : NoHookFails psv.startup) :
    hooksPass psv.os.hooks 0 (startupPath psv.state) = true := by
  unfold ProcessStateVm.startup at h
  split at h
  · rename_i hs
    split at h
    · rename_i hfirst
      dsimp only at h
      split at h
      · rename_i hsecond
        simpa [hs, startupPath, hfirst] using hsecond
      · rename_i hsecond
        have hgood := (h.before (ProcessStateVm.quiet_walk _ _).trace).hooked_good rfl
        exact absurd hgood hsecond
    · rename_i hfirst
      have hhooked : NoHookFails (psv.hooked .prestartAfterRestart) := by
        dsimp only at h
        split at h
        · exact ((h.before (ProcessStateVm.quiet_walk _ _).trace).before
            (ProcessStateVm.quiet_missed _ _).trace).before (ProcessStateVm.quiet_walk _ _).trace
        · exact h.before (ProcessStateVm.quiet_walk _ _).trace
      exact absurd (hhooked.hooked_good rfl) hfirst
  · have hpath : startupPath psv.state = [.startNetwork, .startStorage] := by
      cases hs : psv.state <;> simp_all [startupPath]
    split at h
    · rename_i hfirst
      dsimp only at h
      split at h
      · rename_i hsecond
        simpa [hpath, hfirst] using hsecond
      · rename_i hsecond
        have hgood := (h.before (ProcessStateVm.quiet_walk _ _).trace).hooked_good rfl
        exact absurd hgood hsecond
    · rename_i hfirst
      have hhooked : NoHookFails (psv.hooked .startNetwork) := by
        split at h
        · exact h
        · exact h.before (ProcessStateVm.quiet_missed _ _).trace
      exact absurd (hhooked.hooked_good rfl) hfirst

theorem walk_recovers {psv : ProcessStateVm} {hooks : Hooks} {n : Nat}
    (hhooks : psv.os.hooks = hooks.drop n) (hpass : hooksPass hooks n failureSequence = true) :
    (psv.walk failureSequence).state = .failed ∧
      (psv.walk failureSequence).os.hooks = hooks.drop (n + 4) := by
  have hpass' : hooksPass psv.os.hooks 0 failureSequence = true := by
    rw [hhooks, hooksPass, passes_drop, Nat.zero_add]
    exact hpass
  refine ⟨walk_state_of_pass hpass', ?_⟩
  rw [walk_hooks_of_pass hpass', hhooks, Oracle.drop_drop, failureSequence_length]

theorem startup_of_recovers {psv : ProcessStateVm}
    (hrecovers : startupRecovers psv.os.hooks psv.state = true) :
    psv.startup.state = .failed ∧
      psv.startup.os.hooks = psv.os.hooks.drop (recoveryHooks psv.os.hooks psv.state) := by
  unfold ProcessStateVm.startup
  unfold startupRecovers at hrecovers
  split
  · rename_i hs
    rw [hs] at hrecovers
    dsimp only at hrecovers
    by_cases hfirst : (psv.os.hooks 0 .prestartAfterRestart).good = true
    · rw [if_pos hfirst, Bool.and_eq_true, Bool.not_eq_true'] at hrecovers
      simp only [hfirst, ↓reduceIte, ProcessStateVm.entered_hooks, Oracle.drop_apply, Nat.zero_add,
        hrecovers.1, Bool.false_eq_true, recoveryHooks, hs]
      apply walk_recovers _ hrecovers.2
      rfl
    · rw [if_neg hfirst, Bool.and_eq_true] at hrecovers
      have hhooked : (psv.hooked .prestartAfterRestart).os.hooks = psv.os.hooks.drop 1 := rfl
      have hpass : hooksPass (psv.hooked .prestartAfterRestart).os.hooks 0 failureSequence =
          true := by
        rw [hhooked, hooksPass, passes_drop, Nat.zero_add]
        exact hrecovers.1
      have hwalk := walk_recovers hhooked hrecovers.1
      simp only [hfirst, hpass, ↓reduceIte, Bool.false_eq_true, recoveryHooks, hs]
      apply walk_recovers _ hrecovers.2
      exact hwalk.2
  · rename_i hs
    have hfresh : (psv.os.hooks 0 .startNetwork).good && !(psv.os.hooks 1 .startStorage).good &&
        hooksPass psv.os.hooks 2 failureSequence := by
      cases hstate : psv.state <;> simp_all
    have hused : recoveryHooks psv.os.hooks psv.state = 6 := by
      cases hstate : psv.state <;> simp_all [recoveryHooks]
    rw [Bool.and_eq_true, Bool.and_eq_true, Bool.not_eq_true'] at hfresh
    simp only [hfresh.1.1, ↓reduceIte, ProcessStateVm.entered_hooks,
      Oracle.drop_apply, Nat.zero_add, hfresh.1.2, Bool.false_eq_true, hused]
    apply walk_recovers _ hfresh.2
    rfl

def ProcessStateVm.launched (psv : ProcessStateVm) (pid : Nat) (exited : Bool) : ProcessStateVm :=
  { psv with
    processid := pid
    os :=
      { psv.os with
        trace := psv.os.trace ++ [.launch psv.state (some pid)]
        procs := ⟨pid, !exited, false⟩ :: psv.os.procs } }

@[simp] theorem launched_state (psv : ProcessStateVm) (pid : Nat) (exited : Bool) :
    (psv.launched pid exited).state = psv.state := rfl

@[simp] theorem launched_hooks (psv : ProcessStateVm) (pid : Nat) (exited : Bool) :
    (psv.launched pid exited).os.hooks = psv.os.hooks := rfl

theorem pdLaunchRedirected_forked (pid : Nat) (exited : Bool) (psv : ProcessStateVm) :
    pdLaunchRedirected (.forked pid exited) psv = (0, psv.launched pid exited) := rfl

/-! The results `psv_startvm` combines. -/

theorem failed_lor_unlockfail : (-1 : Int).lor psvErrMutexunlockfail = -1 := by decide +kernel
theorem failed_lor_transitionsfail : (-1 : Int).lor psvErrTransitionsfail = -1 := by decide +kernel
theorem zero_lor_unlockfail : (0 : Int).lor psvErrMutexunlockfail = 1 := by decide +kernel
theorem zero_lor_transitionsfail : (0 : Int).lor psvErrTransitionsfail = 2 := by decide +kernel
theorem unlockfail_lor_transitionsfail : (1 : Int).lor psvErrTransitionsfail = 3 := by
  decide +kernel

section
variable {answers : LaunchAnswers} {psv : ProcessStateVm} {current : VmState} {pid : Nat}
  {exited : Bool}

theorem psvLaunchvm_of_lock_fails (restarting : Bool) (hlock : answers.lockOk = false) :
    psvLaunchvm answers restarting psv = ((-1, none), psv.walk failureSequence) := by
  unfold psvLaunchvm
  simp [hlock, psvFailurestate_eq]

theorem psvLaunchvm_of_not_forked (restarting : Bool) (hlock : answers.lockOk = true)
    (hlaunch : ∀ pid exited, answers.launch ≠ .forked pid exited) :
    psvLaunchvm answers restarting psv =
      ((-1, none), (psv.log (.launch psv.state none)).walk failureSequence) := by
  have hresult : pdLaunchRedirected answers.launch psv =
      (-1, psv.log (.launch psv.state none)) := by
    cases houtcome : answers.launch with
    | forked pid exited => exact absurd houtcome (hlaunch pid exited)
    | _ => rfl
  unfold psvLaunchvm
  simp [hlock, hresult, psvFailurestate_eq, failed_lor_unlockfail, failed_lor_transitionsfail]

theorem psvLaunchvm_of_unlock_fails (restarting : Bool) (hlock : answers.lockOk = true)
    (hlaunch : answers.launch = .forked pid exited) (hunlock : answers.unlockOk = false) :
    psvLaunchvm answers restarting psv =
      ((if hooksPass psv.os.hooks 0 failureSequence then 1 else 3, some pid),
        (psv.launched pid exited).walk failureSequence) := by
  have hpid : (psv.launched pid exited).processid = pid := rfl
  unfold psvLaunchvm
  simp [hlock, hlaunch, hunlock, hpid, pdLaunchRedirected_forked, psvFailurestate_eq,
    zero_lor_unlockfail, unlockfail_lor_transitionsfail]
  split <;> simp_all

theorem psvLaunchvm_of_ready (hlock : answers.lockOk = true)
    (hlaunch : answers.launch = .forked pid exited) (hunlock : answers.unlockOk = true)
    (hstate : psv.state = launchState current) :
    psvLaunchvm answers (current = .restartStopped) psv =
      let up := (psv.launched pid exited).walk (upPath current)
      if hooksPass psv.os.hooks 0 (upPath current) then ((0, some pid), up)
      else ((2, some pid), up.walk failureSequence) := by
  have hpid : (psv.launched pid exited).processid = pid := rfl
  unfold psvLaunchvm
  by_cases hcurrent : current = .restartStopped
  · subst hcurrent
    by_cases hfirst : (psv.os.hooks 0 .restarted).good = true
    · by_cases hsecond : (psv.os.hooks 1 .running).good = true
      · simp [hlock, hlaunch, hunlock, hpid, pdLaunchRedirected_forked, psvTransitionto_eq, hstate,
          launchState, edge, upPath, hfirst, hsecond, ProcessStateVm.walk]
      · simp [hlock, hlaunch, hunlock, hpid, pdLaunchRedirected_forked, psvTransitionto_eq, hstate,
          launchState, edge, upPath, hfirst, hsecond, ProcessStateVm.walk, psvFailurestate_eq,
          zero_lor_transitionsfail]
    · simp [hlock, hlaunch, hunlock, hpid, pdLaunchRedirected_forked, psvTransitionto_eq, hstate,
        launchState, edge, upPath, hfirst, ProcessStateVm.walk, psvFailurestate_eq,
        zero_lor_transitionsfail]
  · have hup : upPath current = [.running] := by cases current <;> simp_all [upPath]
    have hlaunchState : launchState current = .startStorage := by
      cases current <;> simp_all [launchState]
    rw [hlaunchState] at hstate
    by_cases hfirst : (psv.os.hooks 0 .running).good = true
    · simp [hlock, hlaunch, hunlock, hpid, pdLaunchRedirected_forked, psvTransitionto_eq, hstate,
        edge, hup, hfirst, ProcessStateVm.walk, hcurrent]
    · simp [hlock, hlaunch, hunlock, hpid, pdLaunchRedirected_forked, psvTransitionto_eq, hstate,
        edge, hup, hfirst, ProcessStateVm.walk, hcurrent, psvFailurestate_eq,
        zero_lor_transitionsfail]

/-- The process is launched although a start-up entry failed: the table has no
way from `failed` to `running`. -/
theorem psvLaunchvm_of_failed (restarting : Bool) (hlock : answers.lockOk = true)
    (hlaunch : answers.launch = .forked pid exited) (hunlock : answers.unlockOk = true)
    (hstate : psv.state = .failed) :
    psvLaunchvm answers restarting psv =
      ((2, some pid), ((psv.launched pid exited).missed
        (if restarting then .restarted else .running)).walk failureSequence) := by
  have hpid : (psv.launched pid exited).processid = pid := rfl
  unfold psvLaunchvm
  cases restarting
  · simp [hlock, hlaunch, hunlock, hpid, pdLaunchRedirected_forked, psvTransitionto_eq, hstate,
      edge, psvFailurestate_eq, zero_lor_transitionsfail]
  · simp [hlock, hlaunch, hunlock, hpid, pdLaunchRedirected_forked, psvTransitionto_eq, hstate,
      edge, psvFailurestate_eq, zero_lor_transitionsfail]

end

theorem psvStartvm_eq (answers : LaunchAnswers) (psv : ProcessStateVm) :
    psvStartvm answers psv =
      if !psv.state.startable then ((-1, none), psv)
      else if hooksPass psv.os.hooks 0 (startupPath psv.state) ||
          startupRecovers psv.os.hooks psv.state then
        psvLaunchvm answers (psv.state = .restartStopped) psv.startup
      else ((-1, none), psv.startup) := by
  unfold psvStartvm psvGetstate
  by_cases hstart : psv.state.startable = true
  · simp only [bind_apply, get_apply, pure_apply, hstart, Bool.not_true, Bool.false_eq_true,
      ↓reduceIte, psvStartup_eq psv hstart, ite_apply_state]
    split <;> rfl
  · simp [hstart]

theorem psvStartvm_of_refused {answers : LaunchAnswers} {psv : ProcessStateVm}
    (hstart : psv.state.startable = false) : psvStartvm answers psv = ((-1, none), psv) := by
  simp [psvStartvm_eq, hstart]

inductive StartResult (answers : LaunchAnswers) (psv : ProcessStateVm) :
    Int × Option Nat → ProcessStateVm → Prop where
  | refused (hstart : psv.state.startable = false) : StartResult answers psv (-1, none) psv
  | stuck (hstart : psv.state.startable = true)
      (hpass : hooksPass psv.os.hooks 0 (startupPath psv.state) = false)
      (hrecovers : startupRecovers psv.os.hooks psv.state = false) :
      StartResult answers psv (-1, none) psv.startup
  | lockFails (hstart : psv.state.startable = true) (hlock : answers.lockOk = false) :
      StartResult answers psv (-1, none) (psv.startup.walk failureSequence)
  | notForked (hstart : psv.state.startable = true)
      (hgoes : hooksPass psv.os.hooks 0 (startupPath psv.state) = true ∨
        startupRecovers psv.os.hooks psv.state = true)
      (hlock : answers.lockOk = true)
      (hlaunch : ∀ pid exited, answers.launch ≠ .forked pid exited) :
      StartResult answers psv (-1, none)
        ((psv.startup.log (.launch psv.startup.state none)).walk failureSequence)
  | unlockFails {pid : Nat} {exited : Bool} (hstart : psv.state.startable = true)
      (hgoes : hooksPass psv.os.hooks 0 (startupPath psv.state) = true ∨
        startupRecovers psv.os.hooks psv.state = true)
      (hlock : answers.lockOk = true) (hlaunch : answers.launch = .forked pid exited)
      (hunlock : answers.unlockOk = false) :
      StartResult answers psv
        (if hooksPass psv.startup.os.hooks 0 failureSequence then 1 else 3, some pid)
        ((psv.startup.launched pid exited).walk failureSequence)
  | up {pid : Nat} {exited : Bool} (hstart : psv.state.startable = true)
      (hpass : hooksPass psv.os.hooks 0 (startupPath psv.state) = true)
      (hlock : answers.lockOk = true) (hlaunch : answers.launch = .forked pid exited)
      (hunlock : answers.unlockOk = true)
      (hup : hooksPass psv.os.hooks 2 (upPath psv.state) = true) :
      StartResult answers psv (0, some pid)
        ((psv.startup.launched pid exited).walk (upPath psv.state))
  | upFails {pid : Nat} {exited : Bool} (hstart : psv.state.startable = true)
      (hpass : hooksPass psv.os.hooks 0 (startupPath psv.state) = true)
      (hlock : answers.lockOk = true) (hlaunch : answers.launch = .forked pid exited)
      (hunlock : answers.unlockOk = true)
      (hup : hooksPass psv.os.hooks 2 (upPath psv.state) = false) :
      StartResult answers psv (2, some pid)
        (((psv.startup.launched pid exited).walk (upPath psv.state)).walk failureSequence)
  | missed {pid : Nat} {exited : Bool} {target : VmState} (hstart : psv.state.startable = true)
      (hrecovers : startupRecovers psv.os.hooks psv.state = true)
      (hlock : answers.lockOk = true) (hlaunch : answers.launch = .forked pid exited)
      (hunlock : answers.unlockOk = true) :
      StartResult answers psv (2, some pid)
        (((psv.startup.launched pid exited).missed target).walk failureSequence)

theorem psvStartvm_result (answers : LaunchAnswers) (psv : ProcessStateVm) :
    StartResult answers psv (psvStartvm answers psv).1 (psvStartvm answers psv).2 := by
  rw [psvStartvm_eq]
  by_cases hstart : psv.state.startable = true
  · by_cases hgoes : (hooksPass psv.os.hooks 0 (startupPath psv.state) ||
        startupRecovers psv.os.hooks psv.state) = true
    · simp only [hstart, hgoes, Bool.not_true, Bool.false_eq_true, ↓reduceIte]
      rw [Bool.or_eq_true] at hgoes
      by_cases hlock : answers.lockOk = true
      · cases hlaunch : answers.launch with
        | clientFails =>
          have hnone : ∀ pid exited, answers.launch ≠ .forked pid exited := by simp [hlaunch]
          rw [psvLaunchvm_of_not_forked _ hlock hnone]
          exact .notForked hstart hgoes hlock hnone
        | forkFails =>
          have hnone : ∀ pid exited, answers.launch ≠ .forked pid exited := by simp [hlaunch]
          rw [psvLaunchvm_of_not_forked _ hlock hnone]
          exact .notForked hstart hgoes hlock hnone
        | forked pid exited =>
          by_cases hunlock : answers.unlockOk = true
          · rcases hgoes with hpass | hrecovers
            · have hready := startup_of_pass hpass
              rw [psvLaunchvm_of_ready hlock hlaunch hunlock hready.1, hready.2]
              simp only [hooksPass, passes_drop, Nat.zero_add]
              by_cases hup : hooksPass psv.os.hooks 2 (upPath psv.state) = true
              · simp only [hooksPass] at hup
                simp only [hup, ↓reduceIte]
                exact .up hstart hpass hlock hlaunch hunlock hup
              · rw [Bool.not_eq_true] at hup
                simp only [hooksPass] at hup
                simp only [hup, Bool.false_eq_true, ↓reduceIte]
                exact .upFails hstart hpass hlock hlaunch hunlock hup
            · have hfailed := startup_of_recovers hrecovers
              rw [psvLaunchvm_of_failed _ hlock hlaunch hunlock hfailed.1]
              exact .missed hstart hrecovers hlock hlaunch hunlock
          · rw [Bool.not_eq_true] at hunlock
            rw [psvLaunchvm_of_unlock_fails _ hlock hlaunch hunlock]
            exact .unlockFails hstart hgoes hlock hlaunch hunlock
      · rw [Bool.not_eq_true] at hlock
        rw [psvLaunchvm_of_lock_fails _ hlock]
        exact .lockFails hstart hlock
    · simp only [hstart, hgoes, Bool.not_true, Bool.false_eq_true, ↓reduceIte]
      rw [Bool.or_eq_true, not_or, Bool.not_eq_true, Bool.not_eq_true] at hgoes
      exact .stuck hstart hgoes.1 hgoes.2
  · rw [Bool.not_eq_true] at hstart
    simp only [hstart, Bool.not_false, ↓reduceIte]
    exact .refused hstart

theorem StartResult.of_refused {answers : LaunchAnswers} {psv psv' : ProcessStateVm}
    {result : Int × Option Nat} (h : StartResult answers psv result psv')
    (hrefused : psv.state.startable = false) : psv' = psv := by
  cases h with
  | refused => rfl
  | _ => simp_all

theorem starts_of_quiet (e : Event) (h : e.quiet = true) : e.starts = true := by
  cases e <;> simp_all [Event.quiet, Event.starts]

theorem launched_adds (psv : ProcessStateVm) (pid : Nat) (exited : Bool) :
    Adds Event.starts psv (psv.launched pid exited) :=
  ⟨[.launch psv.state (some pid)], rfl, by simp [Event.starts]⟩

theorem StartResult.adds {answers : LaunchAnswers} {psv psv' : ProcessStateVm}
    {result : Int × Option Nat} (h : StartResult answers psv result psv') :
    Adds Event.starts psv psv' := by
  have hstartup := (quiet_startup psv).trace.mono starts_of_quiet
  have hwalk {raised : ProcessStateVm} (path : List VmState) (h : Adds Event.starts psv raised) :
      Adds Event.starts psv (raised.walk path) :=
    h.trans (raised.adds_walk starts_of_quiet path)
  have hlaunched (pid : Nat) (exited : Bool) :=
    hstartup.trans (launched_adds psv.startup pid exited)
  cases h with
  | refused => exact .refl _ psv
  | stuck => exact hstartup
  | lockFails => exact hwalk _ hstartup
  | notForked => exact hwalk _ (hstartup.trans (.log _ rfl))
  | unlockFails => exact hwalk _ (hlaunched _ _)
  | up => exact hwalk _ (hlaunched _ _)
  | upFails => exact hwalk _ (hwalk _ (hlaunched _ _))
  | missed =>
    exact hwalk _
      ((hlaunched _ _).trans ((ProcessStateVm.quiet_missed _ _).trace.mono starts_of_quiet))

end Vmstated.Libprocwatch
