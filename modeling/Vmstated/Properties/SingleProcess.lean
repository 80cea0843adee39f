import Mathlib.Data.List.Count
import Vmstated.Libprocwatch.DirectorSpec

/-! At most one process of a virtual machine is alive, as long as no step leaves
the machine in a state it may be started from while a process is unfinished. -/
namespace Vmstated.Properties
open Library Libprocwatch

/-- The states from which a start may launch a process, directly or after a
reset. -/
def idle : VmState → Bool
  | .init | .stopped | .restartStopped | .failed => true
  | _ => false

theorem idle_failureEnd (hooks : Hooks) (n : Nat) (state : VmState) :
    idle (hookArrival hooks n state failureSequence) = failureRests idle hooks n state :=
  rest_failureEnd rfl rfl rfl rfl hooks n state

theorem idle_walk {psv : ProcessStateVm} {hooks : Hooks} {n : Nat}
    (hhooks : psv.os.hooks = hooks.drop n) :
    idle (psv.walk failureSequence).state = failureRests idle hooks n psv.state := by
  rw [psv.walk_state, idle_failureEnd, hhooks, failureRests_drop, Nat.zero_add]

theorem idle_of_startable {state : VmState} (h : state.startable = true) : idle state = true := by
  rcases startable_cases h with rfl | rfl | rfl <;> rfl

/-- The process is alive, or its exit event is still to come. -/
def outstanding (p : Proc) : Bool := p.alive || p.watched

def outstandingProcs (psv : ProcessStateVm) : Nat := psv.os.procs.countP outstanding

/-- An idle machine has no outstanding process, any other one at most one. -/
def Guarded (psv : ProcessStateVm) : Prop :=
  outstandingProcs psv ≤ if idle psv.state then 0 else 1

/-- A start that launches a process does not leave the machine idle: no start-up
entry failed with a recovery that ends there, and nothing fails after the launch
with a failure sequence that gets to `stopped`. -/
def startHolds (answers : StartAnswers) (hooks : Hooks) (state : VmState) : Bool :=
  if startupRecovers hooks state then
    !failureRests idle hooks (recoveryHooks hooks state) .failed
  else if !answers.launch.unlockOk then !failureReaches hooks 2
  else if !hooksPass hooks 2 (upPath state) then
    !failureReaches hooks (2 + hooksAsked hooks 2 (upPath state))
  else answers.killOk || !failureReaches hooks (2 + (upPath state).length)

/-- A stop request does not leave a running machine idle: no failure sequence it
runs, for its hook or for a signal that is not sent, gets to `stopped`. -/
def stopHolds (answers : StopAnswers) (hooks : Hooks) (pid : Nat) : Bool :=
  let unsent := answers.lockOk && pid != 0 && !answers.killOk
  if (hooks 0 .stopping).good then !(unsent && failureReaches hooks 1)
  else if hooksPass hooks 1 failureSequence then unsent && !failureRests idle hooks 5 .failed
  else !failureReaches hooks 1

/-- The condition on a step: it does not leave the machine idle with a process
outstanding. -/
def keepsGuard (bwv : BhyveWatchedVm) : Op → Bool
  | .startvm hooks answers =>
    if 0 < outstandingProcs bwv.state then
      !(bwv.penalizes answers && failureReaches hooks 0)
    else
      match bwv.forks answers hooks with
      | none => true
      | some p => !p.alive || startHolds answers hooks bwv.state.state
  | .stopvm hooks answers =>
    !decide (0 < outstandingProcs bwv.state ∧ bwv.state.state = .running) ||
      stopHolds answers hooks bwv.state.processid
  | _ => true

theorem guarded_of_none {psv : ProcessStateVm} (h : outstandingProcs psv = 0) : Guarded psv := by
  unfold Guarded
  omega

theorem guarded_of_busy {psv : ProcessStateVm} (hle : outstandingProcs psv ≤ 1)
    (hbusy : idle psv.state = false) : Guarded psv := by
  unfold Guarded
  rw [hbusy, if_neg (by decide)]
  exact hle

theorem Guarded.busy {psv : ProcessStateVm} (h : Guarded psv) (hout : 0 < outstandingProcs psv) :
    outstandingProcs psv = 1 ∧ idle psv.state = false := by
  unfold Guarded at h
  cases hidle : idle psv.state with
  | true =>
    rw [hidle, if_pos rfl] at h
    omega
  | false =>
    rw [hidle, if_neg (by decide)] at h
    exact ⟨by omega, rfl⟩

theorem Guarded.frame {psv psv' : ProcessStateVm} (h : Guarded psv)
    (hprocs : psv'.os.procs = psv.os.procs) (hstate : psv'.state = psv.state) : Guarded psv' := by
  unfold Guarded outstandingProcs at h ⊢
  rw [hprocs, hstate]
  exact h

theorem outstandingProcs_of_procs {psv psv' : ProcessStateVm} (h : psv'.os.procs = psv.os.procs) :
    outstandingProcs psv' = outstandingProcs psv := by
  unfold outstandingProcs
  rw [h]

theorem Guarded.walk {psv : ProcessStateVm} {hooks : Hooks} {n : Nat} (h : Guarded psv)
    (hout : 0 < outstandingProcs psv) (hhooks : psv.os.hooks = hooks.drop n)
    (hstays : failureReaches hooks n = false) : Guarded (psv.walk failureSequence) := by
  obtain ⟨hone, hbusy⟩ := h.busy hout
  have hprocs := outstandingProcs_of_procs (psv.quiet_walk failureSequence).procs
  apply guarded_of_busy
  · omega
  · rw [idle_walk hhooks, failureRests_of_not hbusy, hstays]

section
variable {bwv : BhyveWatchedVm} {hooks : Hooks} {answers : StartAnswers}

theorem startvm_guarded_of_busy (h : Guarded bwv.state) (hout : 0 < outstandingProcs bwv.state)
    (hkeeps : (bwv.penalizes answers && failureReaches hooks 0) = false) :
    Guarded (bdStartvm answers (bwv.call hooks)).2.state := by
  have hbusy := (h.busy hout).2
  have hlooked : Guarded ((bwv.call hooks).looked answers.now).state := h.frame rfl rfl
  have hadmitted : Guarded ((bwv.call hooks).admitted answers).state :=
    h.frame (by simp) (by simp)
  have hrefused : ((bwv.call hooks).admitted answers).state.state.startable = false := by
    rw [← Bool.not_eq_true]
    intro hstart
    have hidle := idle_of_startable hstart
    simp only [BhyveWatchedVm.admitted_state_state, BhyveWatchedVm.call_state,
      ProcessStateVm.call_state] at hidle
    rw [hidle] at hbusy
    exact absurd hbusy (by decide)
  have hresult := bdStartvm_result answers (bwv.call hooks)
  generalize bdStartvm answers (bwv.call hooks) = call at hresult
  cases hresult with
  | throttled hcount =>
    rw [BhyveWatchedVm.call_countfails] at hcount
    have hpenalizes : bwv.penalizes answers = true := by simp [BhyveWatchedVm.penalizes, hcount]
    rw [hpenalizes, Bool.true_and] at hkeeps
    exact hlooked.walk hout rfl hkeeps
  | failed hcount hfailed => exact hlooked
  | ungenerated hcount hfailed hgen =>
    have hnot : bwv.state.state ≠ .failed := hfailed
    have hpenalizes : bwv.penalizes answers = true := by
      simp [BhyveWatchedVm.penalizes, hnot, hgen]
    rw [hpenalizes, Bool.true_and] at hkeeps
    have hprocs :=
      outstandingProcs_of_procs (BhyveWatchedVm.admitted_procs (bwv.call hooks) answers)
    have hcalled : outstandingProcs (bwv.call hooks).state = outstandingProcs bwv.state := rfl
    exact hadmitted.walk (by omega) (BhyveWatchedVm.admitted_hooks _ _) hkeeps
  | unlaunched hcount hfailed hgen hresult hstart =>
    rw [hstart.of_refused hrefused]
    exact hadmitted
  | up hcount hgen hup =>
    rw [hup.startable] at hrefused
    exact absurd hrefused (by decide)

theorem launchState_busy (state : VmState) : idle (launchState state) = false := by
  cases state <;> rfl

theorem upPath_busy (hooks : Hooks) (n : Nat) (state : VmState) :
    idle (hookArrival hooks n (launchState state) (upPath state)) = false := by
  cases state with
  | restartStopped =>
    simp only [launchState, upPath, hookArrival, arrival]
    split
    · split <;> rfl
    · rfl
  | _ =>
    simp only [launchState, upPath, hookArrival, arrival]
    split <;> rfl

theorem stopped_on_way_up {psv : ProcessStateVm} (pid : Nat) (exited : Bool)
    (hpass : hooksPass psv.os.hooks 0 (startupPath psv.state) = true) :
    let raised := (psv.startup.launched pid exited).walk (upPath psv.state)
    idle raised.state = false ∧
      raised.os.hooks = psv.os.hooks.drop (2 + hooksAsked psv.os.hooks 2 (upPath psv.state)) := by
  have hready := startup_of_pass hpass
  dsimp only
  rw [ProcessStateVm.walk_state, ProcessStateVm.walk_hooks,
    launched_state, launched_hooks, hready.1,
    hready.2, hooksAsked, asked_drop, Oracle.drop_drop, Nat.zero_add]
  exact ⟨upPath_busy _ _ _, rfl⟩

theorem unlaunched_busy {psv psv' : ProcessStateVm} {result : Int} {pid : Option Nat}
    (hstart : StartResult answers.launch psv (result, pid) psv') (hresult : result ≠ 0)
    (hforked : forkedBy answers.launch psv.os.hooks psv.state ≠ none)
    (hholds : startHolds answers psv.os.hooks psv.state = true) : idle psv'.state = false := by
  unfold startHolds at hholds
  have hrecovered (h : startupRecovers psv.os.hooks psv.state = true) {raised : ProcessStateVm}
      (hstate : raised.state = psv.startup.state)
        (hhooks : raised.os.hooks = psv.startup.os.hooks) :
      idle (raised.walk failureSequence).state = false := by
    have hfailed := startup_of_recovers h
    rw [hfailed.1] at hstate
    rw [hfailed.2] at hhooks
    rw [if_pos h, Bool.not_eq_true'] at hholds
    rw [idle_walk hhooks, hstate, hholds]
  cases hstart with
  | refused hstart => exact absurd (by simp [forkedBy, launchReached, hstart]) hforked
  | stuck hstart hpass hrecovers =>
    exact absurd (by simp [forkedBy, launchReached, hpass, hrecovers]) hforked
  | lockFails hstart hlock => exact absurd (by simp [forkedBy, launchReached, hlock]) hforked
  | notForked hstart hgoes hlock hlaunch =>
    cases houtcome : answers.launch.launch with
    | forked pid exited => exact absurd houtcome (hlaunch pid exited)
    | _ => exact absurd (by simp [forkedBy, houtcome]) hforked
  | @unlockFails pid exited hstart hgoes hlock hlaunch hunlock =>
    rcases hgoes with hpass | hrecovers
    · have hready := startup_of_pass hpass
      rw [not_recovers_of_pass hpass, if_neg (by decide), hunlock, Bool.not_false, if_pos rfl,
        Bool.not_eq_true'] at hholds
      have hlaunched : (psv.startup.launched pid exited).os.hooks = psv.os.hooks.drop 2 := hready.2
      rw [idle_walk hlaunched, launched_state, hready.1, failureRests_of_not (launchState_busy _)]
      exact hholds
    · exact hrecovered hrecovers rfl rfl
  | up hstart hpass hlock hlaunch hunlock hup => exact absurd rfl hresult
  | @upFails pid exited hstart hpass hlock hlaunch hunlock hup =>
    rw [not_recovers_of_pass hpass, if_neg (by decide), hunlock,
      Bool.not_true, if_neg (by decide), hup,
      Bool.not_false, if_pos rfl, Bool.not_eq_true'] at hholds
    have hraised := stopped_on_way_up pid exited hpass
    rw [idle_walk hraised.2, failureRests_of_not hraised.1]
    exact hholds
  | missed hstart hrecovers hlock hlaunch hunlock => exact hrecovered hrecovers rfl rfl

theorem brought_guarded {after : BhyveWatchedVm} {result : Int} {pid : Nat} {alive : Bool} {n : Nat}
    (hlaunched : LaunchedResult pid answers bwv (result, after))
    {procs : List Proc} (hhead : bwv.state.os.procs = ⟨pid, alive, false⟩ :: procs)
    (hrest : procs.countP outstanding = 0)
    (hrunning : bwv.state.state = .running) (hhooks : bwv.state.os.hooks = hooks.drop n)
    (hholds : alive = true → (answers.killOk || !failureReaches hooks n) = true) :
    Guarded after.state := by
  have hone : bwv.state.os.procs.countP outstanding ≤ 1 := by
    rw [hhead, List.countP_cons, hrest]
    split <;> omega
  have hbusy : idle bwv.state.state = false := by
    rw [hrunning]
    rfl
  cases hlaunched with
  | vanished hkill =>
    have hafter := psvOnexit_procs answers.exit 4 bwv.state
    cases alive with
    | true =>
      have hstays : failureReaches hooks n = false := by simpa [hkill] using hholds rfl
      apply guarded_of_busy
      · rw [outstandingProcs, hafter]
        exact hone
      · rw [psvOnexit_of_failure hrunning (by decide), idle_failureEnd, hhooks, failureRests_drop,
          failureRests_of_not rfl, Nat.zero_add]
        exact hstays
    | false =>
      apply guarded_of_none
      rw [outstandingProcs, hafter, hhead, List.countP_cons, hrest]
      rfl
  | died hkill hwait hended =>
    apply guarded_of_none
    rw [outstandingProcs, died_procs, ProcessStateVm.reaped_procs hhead, List.countP_cons, hrest]
    rfl
  | stopped hkill hwait hended => exact guarded_of_busy hone hbusy
  | unregistered hkill hwait hkevent => exact guarded_of_busy hone hbusy
  | registered hkill hwait hkevent =>
    apply guarded_of_busy
    · rw [outstandingProcs, ProcessStateVm.registered_procs hhead, List.countP_cons, hrest]
      simp [outstanding]
    · exact hbusy

theorem startvm_guarded_of_free (hnone : outstandingProcs bwv.state = 0)
    (hkeeps : ∀ p ∈ bwv.forks answers hooks, p.alive = true →
      startHolds answers hooks bwv.state.state = true) :
    Guarded (bdStartvm answers (bwv.call hooks)).2.state := by
  have hadmitted : ((bwv.call hooks).admitted answers).state.os.procs = bwv.state.os.procs := by
    simp
  have hresult := bdStartvm_result answers (bwv.call hooks)
  generalize bdStartvm answers (bwv.call hooks) = call at hresult
  cases hresult with
  | throttled hcount =>
    apply guarded_of_none
    rw [← hnone]
    exact outstandingProcs_of_procs (ProcessStateVm.quiet_walk _ _).procs
  | failed hcount hfailed => exact guarded_of_none hnone
  | ungenerated hcount hfailed hgen =>
    apply guarded_of_none
    rw [← hnone]
    exact outstandingProcs_of_procs ((ProcessStateVm.quiet_walk _ _).procs.trans hadmitted)
  | unlaunched hcount hfailed hgen hresult hstart =>
    have hprocs := hstart.procs
    have hbusy := unlaunched_busy hstart hresult
    have hforks := forks_of_admitted hooks hcount hfailed hgen
    simp only [BhyveWatchedVm.admitted_hooks, BhyveWatchedVm.admitted_state_state, hadmitted,
      BhyveWatchedVm.call_state, ProcessStateVm.call_hooks, ProcessStateVm.call_state]
        at hprocs hbusy hforks
    have hforks' : bwv.forks answers hooks = forkedBy answers.launch hooks bwv.state.state := hforks
    rw [hforks'] at hkeeps
    cases hforked : forkedBy answers.launch hooks bwv.state.state with
    | none =>
      rw [hforked] at hprocs
      apply guarded_of_none
      rw [← hnone]
      exact outstandingProcs_of_procs hprocs
    | some p =>
      rw [hforked] at hprocs hbusy hkeeps
      have hunwatched := forkedBy_unwatched p hforked
      have hcount : outstandingProcs bwv.state = 0 := hnone
      have hprocs' : outstandingProcs _ = (p :: bwv.state.os.procs).countP outstanding :=
        congrArg (List.countP outstanding) hprocs
      unfold outstandingProcs at hcount
      rw [List.countP_cons, hcount, outstanding, hunwatched, Bool.or_false] at hprocs'
      cases halive : p.alive with
      | false =>
        rw [halive] at hprocs'
        exact guarded_of_none hprocs'
      | true =>
        rw [halive] at hprocs'
        exact guarded_of_busy hprocs'.le (hbusy (by simp) (hkeeps p rfl halive))
  | @up pid exited hcount hgen hup =>
    have hprocs := brought_procs ((bwv.call hooks).admitted answers).state pid exited
    have hforked := hup.forkedBy_eq
    have hforks := forks_of_admitted hooks hcount
      (by simpa using startable_ne_failed hup.startable) hgen
    have hhooks := brought_hooks hup
    have hpass := hup.pass
    have hunlock := hup.unlock
    have hwayup := hup.up
    simp only [BhyveWatchedVm.admitted_hooks, BhyveWatchedVm.admitted_state_state, hadmitted,
      BhyveWatchedVm.call_state, ProcessStateVm.call_hooks, ProcessStateVm.call_state] at *
    have hforks' : bwv.forks answers hooks = some ⟨pid, !exited, false⟩ := hforks.trans hforked
    have hlaunched := bdStartLaunched_result pid answers { (bwv.call hooks).admitted answers with
      state := ((bwv.call hooks).admitted answers).state.brought pid exited }
    refine brought_guarded hlaunched hprocs hnone (brought_state hup) hhooks fun halive => ?_
    have hholds := hkeeps _ hforks' halive
    unfold startHolds at hholds
    rw [not_recovers_of_pass hpass, if_neg (by decide), hunlock,
      Bool.not_true, if_neg (by decide), hwayup, Bool.not_true, if_neg (by decide)] at hholds
    exact hholds

end

theorem signal_guarded {answers : StopAnswers} {psv : ProcessStateVm} {hooks : Hooks} {n : Nat}
    (h : Guarded psv) (hout : 0 < outstandingProcs psv) (hhooks : psv.os.hooks = hooks.drop n)
    (hholds : (answers.lockOk && psv.processid != 0 && !answers.killOk && failureReaches hooks n) =
      false) :
    Guarded (psvSignal false answers psv).2 := by
  rw [psvSignal_eq]
  by_cases hpid : (if answers.lockOk then psv.processid else 0) = 0
  · rw [if_pos hpid]
    exact h
  · rw [if_neg hpid]
    have hlogged : Guarded (psv.log (.kill psv.processid false)) := h
    cases hkill : answers.killOk with
    | true => exact h
    | false =>
      have hlock : answers.lockOk = true ∧ psv.processid ≠ 0 := by
        cases hlock : answers.lockOk <;> simp_all
      have hstays : failureReaches hooks n = false := by
        simpa [hlock.1, hlock.2, hkill] using hholds
      exact hlogged.walk hout hhooks hstays

/-- The signal that cannot be sent after a hook has failed: the failure sequence
is run a second time. -/
theorem signal_guarded_of_failed {answers : StopAnswers} {psv : ProcessStateVm} (h : Guarded psv)
    (hout : 0 < outstandingProcs psv) (hpass : hooksPass psv.os.hooks 1 failureSequence = true)
    (hholds : answers.lockOk = true ∧ psv.processid ≠ 0 ∧ answers.killOk = false ∧
      failureRests idle psv.os.hooks 5 .failed = false) :
    Guarded (psvSignal false answers ((psv.hooked .stopping).walk failureSequence)).2 := by
  obtain ⟨hlock, hnonzero, hkill, hstays⟩ := hholds
  have hfailed : hooksPass (psv.hooked .stopping).os.hooks 0 failureSequence = true := by
    rw [ProcessStateVm.hooked_hooks, hooksPass, passes_drop]
    exact hpass
  have hhooks : ((psv.hooked .stopping).walk failureSequence).os.hooks = psv.os.hooks.drop 5 := by
    rw [walk_hooks_of_pass hfailed, ProcessStateVm.hooked_hooks, Oracle.drop_drop]
    rfl
  have hpid := ((psv.hooked .stopping).quiet_walk failureSequence).processid
  have hwalked :=
    (psv.quiet_hooked .stopping).trans ((psv.hooked .stopping).quiet_walk failureSequence)
  have hstate : ((psv.hooked .stopping).walk failureSequence).state = .failed :=
    walk_state_of_pass hfailed
  have hsent : ¬(if answers.lockOk then
      ((psv.hooked .stopping).walk failureSequence).processid else 0) = 0 := by
    rw [hlock, if_pos rfl, hpid]
    exact hnonzero
  rw [psvSignal_eq, if_neg hsent, hkill]
  change Guarded (ProcessStateVm.walk (ProcessStateVm.log _ (.kill _ false)) failureSequence)
  apply guarded_of_busy
  · rw [outstandingProcs, (ProcessStateVm.quiet_walk _ _).procs, log_procs, hwalked.procs]
    exact (h.busy hout).1.le
  · have hlogged : (((psv.hooked .stopping).walk failureSequence).log
        (.kill ((psv.hooked .stopping).walk failureSequence).processid false)).os.hooks =
        psv.os.hooks.drop 5 := hhooks
    rw [idle_walk hlogged, log_state, hstate]
    exact hstays

theorem stopvm_guarded {answers : StopAnswers} {psv : ProcessStateVm} (h : Guarded psv)
    (hholds : 0 < outstandingProcs psv ∧ psv.state = .running →
      stopHolds answers psv.os.hooks psv.processid = true) :
    Guarded (psvStopOrReboot false false answers psv).2 := by
  have hprocs := outstandingProcs_of_procs (psvStopOrReboot_frame false answers psv).1
  by_cases hout : 0 < outstandingProcs psv
  · by_cases hs : psv.state = .running
    · have hholds := hholds ⟨hout, hs⟩
      rw [psvStopOrReboot_of_running false false answers hs]
      unfold stopHolds at hholds
      by_cases hgood : (psv.os.hooks 0 .stopping).good = true
      · have hentered : Guarded (psv.entered .stopping) := guarded_of_busy (h.busy hout).1.le rfl
        rw [if_pos hgood] at hholds
        simp only [Bool.false_eq_true, ↓reduceIte, hgood]
        apply signal_guarded hentered hout rfl
        rw [Bool.not_eq_true'] at hholds
        exact hholds
      · have hhooked : Guarded (psv.hooked .stopping) := h
        rw [if_neg hgood] at hholds
        simp only [Bool.false_eq_true, ↓reduceIte, hgood]
        by_cases hpass : hooksPass psv.os.hooks 1 failureSequence = true
        · rw [if_pos hpass] at hholds ⊢
          simp only [Bool.and_eq_true, bne_iff_ne, ne_eq, Bool.not_eq_true', and_assoc] at hholds
          exact signal_guarded_of_failed h hout hpass hholds
        · rw [if_neg hpass] at hholds ⊢
          exact hhooked.walk hout rfl (by simpa using hholds)
    · rw [psvStopOrReboot_of_not_running false false answers hs]
      exact h
  · apply guarded_of_none
    omega

/-- One step keeps the guard. -/
theorem step_guarded {bwv after : BhyveWatchedVm} {op : Op} {output : Int} (h : Guarded bwv.state)
    (hkeeps : keepsGuard bwv op = true) (hstep : director.step bwv op = some (output, after)) :
    Guarded after.state := by
  cases op with
  | startvm hooks answers =>
    have hcall : bdStartvm answers (bwv.call hooks) = (output, after) := Option.some.inj hstep
    have hafter : (bdStartvm answers (bwv.call hooks)).2 = after := by rw [hcall]
    rw [← hafter]
    simp only [keepsGuard] at hkeeps
    by_cases hout : 0 < outstandingProcs bwv.state
    · rw [if_pos hout, Bool.not_eq_true'] at hkeeps
      exact startvm_guarded_of_busy h hout hkeeps
    · rw [if_neg hout] at hkeeps
      apply startvm_guarded_of_free (by omega)
      intro p hp halive
      rw [Option.mem_def] at hp
      simpa [hp, halive] using hkeeps
  | stopvm hooks answers =>
    have hcall : bdStopvm answers (bwv.call hooks) = (output, after) := Option.some.inj hstep
    have hafter : (bdStopvm answers (bwv.call hooks)).2 = after := by rw [hcall]
    rw [← hafter]
    have hcalled : Guarded (bwv.state.call hooks) := h
    apply stopvm_guarded hcalled
    intro hbusy
    have hbusy' : 0 < outstandingProcs bwv.state ∧ bwv.state.state = .running := hbusy
    simpa [keepsGuard, hbusy'] using hkeeps
  | resetfailvm hooks =>
    have hcall : bdResetfailvm (bwv.call hooks) = (output, after) := Option.some.inj hstep
    have hcalled : Guarded (bwv.call hooks).state := h
    by_cases hfailed : (bwv.call hooks).state.state = .failed
    · rw [bdResetfailvm_of_failed hfailed] at hcall
      cases hcall
      unfold Guarded at hcalled ⊢
      rw [hfailed] at hcalled
      exact hcalled
    · rw [bdResetfailvm_of_not_failed hfailed] at hcall
      cases hcall
      exact hcalled
  | exitEvent index status hooks answers =>
    obtain ⟨pid, hproc, rfl⟩ := director_exitEvent hstep
    obtain ⟨hindex, hget⟩ := List.getElem?_eq_some_iff.mp hproc
    have hprocs := bdKqueueExit_procs status answers
      ((bwv.withProcs (bwv.state.os.procs.set index ⟨pid, false, false⟩)).call hooks)
    apply guarded_of_none
    have hout : 0 < outstandingProcs bwv.state := by
      apply List.countP_pos_iff.mpr
      exact ⟨_, List.getElem_mem hindex, by rw [hget]; rfl⟩
    have hone := (h.busy hout).1
    unfold outstandingProcs at hone ⊢
    rw [hprocs]
    change (bwv.state.os.procs.set index ⟨pid, false, false⟩).countP outstanding = 0
    rw [List.countP_set hindex, hget, hone]
    rfl
  | exits index =>
    obtain ⟨pid, watched, hproc, rfl⟩ := director_exits hstep
    obtain ⟨hindex, hget⟩ := List.getElem?_eq_some_iff.mp hproc
    have hle : (bwv.state.os.procs.set index ⟨pid, false, watched⟩).countP outstanding ≤
        bwv.state.os.procs.countP outstanding := by
      have hpos : 0 < bwv.state.os.procs.countP outstanding := by
        apply List.countP_pos_iff.mpr
        exact ⟨_, List.getElem_mem hindex, by rw [hget]; rfl⟩
      have hold : outstanding ⟨pid, true, watched⟩ = true := rfl
      rw [List.countP_set hindex, hget, hold, if_pos rfl]
      split
      · omega
      · omega
    exact hle.trans h

theorem countP_alive_le (procs : List Proc) :
    procs.countP (·.alive) ≤ procs.countP outstanding := by
  apply List.countP_mono_left
  intro p _ halive
  rw [outstanding, halive, Bool.true_or]

/-- In every run whose steps meet their condition at most one process of the
machine is alive, in every state reached. -/
theorem at_most_one_alive {maxrestart : UInt32} {maxrestarttime : Int} {rmo : Bool}
    {transits : List (Transit BhyveWatchedVm Op Int)} {final : BhyveWatchedVm}
    (run : Run director (bwvNew maxrestart maxrestarttime rmo) transits final)
    (hkeeps : ∀ x ∈ transits, keepsGuard x.before x.input = true) :
    final.state.os.procs.countP (·.alive) ≤ 1 := by
  have hinit : Guarded (bwvNew maxrestart maxrestarttime rmo).state := Nat.le_refl 0
  have hkeep : ∀ x : Transit BhyveWatchedVm Op Int, Guarded x.before.state →
      keepsGuard x.before x.input = true →
      director.step x.before x.input = some (x.output, x.after) → Guarded x.after.state :=
    fun x hx hallowed hstep => step_guarded hx hallowed hstep
  have hguarded : Guarded final.state :=
    run.invariant (P := fun bwv => Guarded bwv.state) hinit hkeep hkeeps
  have halive := countP_alive_le final.state.os.procs
  unfold Guarded outstandingProcs at hguarded
  split at hguarded <;> omega

def startedAgain : List Op :=
  [.startvm (fun _ _ => .absent) (startWith 100 10),
    .stopvm (fun _ _ => .absent) ⟨true, true, none⟩, .exits 0,
    .exitEvent 0 0 (fun _ _ => .absent) ⟨true, true, true⟩,
      .startvm (fun _ _ => .absent) (startWith 200 11)]

theorem at_most_one_alive_startedAgain :
    ∃ transits final, director.exec (bwvNew 3 30 true) startedAgain = some (transits, final) ∧
      final.state.os.procs = [⟨11, true, true⟩, ⟨10, false, false⟩] ∧
      final.state.os.procs.countP (·.alive) ≤ 1 := by
  have hrun : (director.exec (bwvNew 3 30 true) startedAgain).any (fun run =>
      run.1.all (fun x => keepsGuard x.before x.input) &&
        decide (run.2.state.os.procs = [⟨11, true, true⟩, ⟨10, false, false⟩])) = true := by
    decide +kernel
  obtain ⟨⟨transits, final⟩, hexec, hall⟩ := (Option.any_eq_true _ _).mp hrun
  simp only [Bool.and_eq_true, List.all_eq_true, decide_eq_true_eq] at hall
  exact ⟨transits, final, hexec, hall.2, at_most_one_alive (Machine.exec_run hexec) hall.1⟩

/-- The start_storage hook exits with 1, so process 10 is launched in `failed`.
After a reset the machine starts again, with process 11. -/
def twiceRun : List Op :=
  [.startvm (fun _ state => if state = .startStorage then .waited 256 else .absent)
    (startWith 100 10), .resetfailvm fun _ _ => .absent,
    .startvm (fun _ _ => .absent) (startWith 200 11)]

theorem two_alive :
    ∃ transits final, Run director (bwvNew 3 30 true) transits final ∧
      final.state.os.procs.countP (·.alive) = 2 := by
  have hcount : (director.exec (bwvNew 3 30 true) twiceRun).map
      (fun run => run.2.state.os.procs.countP (·.alive)) = some 2 := by
    decide +kernel
  rcases hexec : director.exec (bwvNew 3 30 true) twiceRun with _ | ⟨transits, final⟩
  · rw [hexec] at hcount
    cases hcount
  · rw [hexec, Option.map_some, Option.some.injEq] at hcount
    exact ⟨transits, final, Machine.exec_run hexec, hcount⟩

end Vmstated.Properties
