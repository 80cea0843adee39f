import Mathlib.Tactic.IntervalCases
import Vmstated.Libprocwatch.DirectorSpec

/-! The end of the process of a running machine, as `bd_startvm` and as
`bd_kqueue_thread` take notice of it. -/
namespace Vmstated.Properties
open Library Libprocwatch

/-- Same state, same reboot requests. -/
def Agree (psv psv' : ProcessStateVm) : Prop :=
  psv.state = psv'.state ∧ rebootRequests psv.os.trace = rebootRequests psv'.os.trace

/-- The failure sequence, with its first hook at position `n`, ends in the state
it begins in: it makes no move, or the last one is to that state. -/
def failureKeeps (hooks : Hooks) (n : Nat) (state : VmState) : Bool :=
  match hooksMade hooks n failureSequence with
  | 0 => true
  | k + 1 => failureSequence[k]? == some state

theorem failureKeeps_iff (hooks : Hooks) (n : Nat) (state : VmState) :
    failureKeeps hooks n state = true ↔ hookArrival hooks n state failureSequence = state := by
  have hle := made_le_length HookOutcome.good hooks n failureSequence
  rw [hookArrival, arrival_eq_made]
  unfold failureKeeps hooksMade
  generalize made HookOutcome.good hooks n failureSequence = k at hle ⊢
  cases k with
  | zero => exact iff_of_true rfl rfl
  | succ k =>
    have hk : k < failureSequence.length := by omega
    dsimp only
    rw [List.getD_cons_succ, List.getD_eq_getElem _ _ hk, List.getElem?_eq_getElem hk]
    simp

/-- Two failure sequences in a row, the first at position `n`, end where the
first one does. -/
def secondKeeps (hooks : Hooks) (n : Nat) (state : VmState) : Bool :=
  failureKeeps hooks (n + hooksAsked hooks n failureSequence)
    ((state :: failureSequence).getD (hooksMade hooks n failureSequence) state)

/-- The condition on a status and the outcomes both handlers meet. For a process
that exited: whatever makes `psv_onexit` fail, the failure sequence after that
moves nothing. For one that a signal ended: the reboot is stopped by a hook, and
the failure sequence after that is stopped where it would be without it. -/
def handlersAgree (termination : Termination) (hooks : Hooks) (rmo : Bool)
    (answers : ExitAnswers) : Bool :=
  let exitcode := toUshort (wexitstatus termination.status)
  let path := exitPath .running exitcode
  let moves := hooksMade hooks 0 path
  if wifexited termination.status then
    if moves < path.length then
      failureKeeps hooks (moves + 1) ((VmState.running :: path).getD moves .running)
    else if exitcode = 0 then !rmo || answers.rebootAccepted || secondKeeps hooks 3 .restartStopped
    else exitcode < 3 || answers.lockOk && answers.unlockOk || secondKeeps hooks 0 .running
  else
    let sequence := hooksMade hooks (moves + 1) failureSequence
    decide (moves < path.length) && sequence == hooksMade hooks 0 failureSequence &&
      (moves == 0 || sequence != 0)

section
variable {psv : ProcessStateVm} {hooks : Hooks} {answers : ExitAnswers} {termination : Termination}

theorem agree_failing (psv : ProcessStateVm) :
    Agree (psv.walk failureSequence) psv ↔ failureKeeps psv.os.hooks 0 psv.state = true := by
  rw [Agree, failureKeeps_iff, psv.walk_state,
    and_iff_left (quiet_rebootRequests (psv.quiet_walk _))]

theorem failureKeeps_drop (hooks : Hooks) (m n : Nat) (state : VmState) :
    failureKeeps (hooks.drop m) n state = failureKeeps hooks (n + m) state := by
  rw [Bool.eq_iff_iff, failureKeeps_iff, failureKeeps_iff, hookArrival, arrival_drop]

theorem failureKeeps_second {n : Nat} (hhooks : psv.os.hooks = hooks.drop n) :
    failureKeeps (psv.walk failureSequence).os.hooks 0 (psv.walk failureSequence).state =
      secondKeeps hooks n psv.state := by
  rw [psv.walk_state, psv.walk_hooks, hhooks, failureKeeps_drop, failureKeeps_drop, hookArrival,
    arrival_eq_made, hooksAsked, asked_drop, made_drop, secondKeeps, Nat.zero_add, Nat.zero_add,
    Nat.add_comm]

theorem agree_exited (exitcode : Nat) (hs : psv.state = .running) (hhooks : psv.os.hooks = hooks) :
    let call := psvOnexit answers exitcode psv
    Agree (if call.1 = 0 then call.2 else call.2.walk failureSequence) call.2 ↔
      (let path := exitPath .running exitcode
       let moves := hooksMade hooks 0 path
       if moves < path.length then
         failureKeeps hooks (moves + 1) ((VmState.running :: path).getD moves .running)
       else if exitcode = 0 then !psv.rmo || answers.rebootAccepted ||
         secondKeeps hooks 3 .restartStopped
       else exitcode < 3 || answers.lockOk && answers.unlockOk || secondKeeps hooks 0 .running) =
         true := by
  have hresult := psvOnexit_result answers exitcode psv
  generalize psvOnexit answers exitcode psv = call at hresult
  have hself (psv : ProcessStateVm) : Agree psv psv := ⟨rfl, rfl⟩
  cases hresult with
  | stuck hpass =>
    obtain ⟨hstate, hmovedHooks, hmoves⟩ := exitMoved_of_stuck hs hhooks hpass
    have hfails : ¬(-1 : Int) = 0 := by decide
    dsimp only
    rw [if_neg hfails, if_pos hmoves, agree_failing, hstate, hmovedHooks, failureKeeps_drop,
      Nat.zero_add]
  | unmanaged hpass hreboots hrmo =>
    have hmoves := (exitMoved_of_pass hs hhooks hpass).2.2
    apply iff_of_true (hself _)
    dsimp only
    rw [if_neg hmoves, if_pos (exitReboots_zero hreboots), hrmo]
    rfl
  | accepted hpass hreboots hrmo haccepted =>
    have hmoves := (exitMoved_of_pass hs hhooks hpass).2.2
    apply iff_of_true (hself _)
    dsimp only
    rw [if_neg hmoves, if_pos (exitReboots_zero hreboots), haccepted, Bool.or_true, Bool.true_or]
  | rejected hpass hreboots hrmo haccepted =>
    obtain ⟨hstate, hmovedHooks, hmoves⟩ := exitMoved_of_pass hs hhooks hpass
    have hzero := exitReboots_zero hreboots
    subst hzero
    have hfails : ¬(-1 : Int) = 0 := by decide
    have hasked : ((psv.exitMoved 0).log (.requestReboot false)).os.hooks = _ := hmovedHooks
    have hsecond := failureKeeps_second hasked
    dsimp only at hmoves ⊢
    rw [if_neg hfails, if_neg hmoves, if_pos rfl, agree_failing, hsecond, log_state, hstate, hrmo,
      haccepted]
    rfl
  | @failed result processid hpass hexit hresult =>
    obtain ⟨hstate, hmovedHooks, hmoves⟩ := exitMoved_of_pass hs hhooks hpass
    obtain ⟨more, rfl⟩ : ∃ more, exitcode = more + 3 := ⟨exitcode - 3, by omega⟩
    have hsecond := failureKeeps_second hmovedHooks
    dsimp only at hmoves ⊢
    rw [if_neg hmoves, if_neg (Nat.succ_ne_zero _)]
    by_cases hzero : result = 0
    · have hanswers := hresult.mp hzero
      rw [if_pos hzero, hanswers.1, hanswers.2]
      simp [hself]
    · have hanswers : (answers.lockOk && answers.unlockOk) = false := by
        rw [← Bool.not_eq_true, Bool.and_eq_true]
        exact fun h => hzero (hresult.mpr h)
      have hlarge : decide (more + 3 < 3) = false := by simp
      rw [if_neg hzero, agree_failing, hanswers, hlarge, Bool.false_or, Bool.false_or]
      rw [hstate] at hsecond
      rw [← Bool.eq_iff_iff]
      exact hsecond
  | settled hpass hreboots hexit =>
    have hmoves := (exitMoved_of_pass hs hhooks hpass).2.2
    have hne : exitcode ≠ 0 := by
      rintro rfl
      rw [hs] at hreboots
      exact absurd hreboots (by decide)
    apply iff_of_true (hself _)
    simp [hmoves, hne, hexit]

/-- Failure sequences from `running` and from where the reboot was stopped end in
the same state if they make the same moves, and some if they start apart. -/
theorem failureEnd_inj {moves k l : Nat} (hmoves : moves < 3) (hk : k ≤ 4) (hl : l ≤ 4) :
    let start := (VmState.running :: exitPath .running 0).getD moves .running
    (start :: failureSequence).getD k start = (VmState.running :: failureSequence).getD l .running ↔
      k = l ∧ (moves = 0 ∨ k ≠ 0) := by
  interval_cases moves <;> interval_cases k <;> interval_cases l <;> decide

theorem agree_signaled (hs : psv.state = .running) (hhooks : psv.os.hooks = hooks) :
    let call := psvOnexit answers 0 psv
    Agree (if call.1 = 0 then call.2 else call.2.walk failureSequence) (psv.walk failureSequence) ↔
      (let path := exitPath .running 0
       let moves := hooksMade hooks 0 path
       let sequence := hooksMade hooks (moves + 1) failureSequence
       decide (moves < path.length) && sequence == hooksMade hooks 0 failureSequence &&
        (moves == 0 || sequence != 0)) = true := by
  have hresult := psvOnexit_result answers 0 psv
  generalize psvOnexit answers 0 psv = call at hresult
  have hreboots : exitReboots psv.state 0 = true := by
    rw [hs]
    rfl
  have hsequence := quiet_rebootRequests (psv.quiet_walk failureSequence)
  have hmoved := exitMoved_rebootRequests psv 0
  cases hresult with
  | stuck hpass =>
    obtain ⟨hstate, hmovedHooks, hmoves⟩ := exitMoved_of_stuck hs hhooks hpass
    have hafter := quiet_rebootRequests ((psv.exitMoved 0).quiet_walk failureSequence)
    have hk := made_le_length HookOutcome.good hooks (hooksMade hooks 0 (exitPath .running 0) + 1)
      failureSequence
    have hl := made_le_length HookOutcome.good hooks 0 failureSequence
    have hinj := failureEnd_inj hmoves hk hl
    have hfails : ¬(-1 : Int) = 0 := by decide
    dsimp only at hmoves hinj ⊢
    rw [if_neg hfails, Agree, hafter, hmoved, hsequence, and_iff_left rfl,
      ProcessStateVm.walk_state,
      ProcessStateVm.walk_state, hstate, hmovedHooks, hhooks, hs, hookArrival, hookArrival,
      arrival_drop, arrival_eq_made, arrival_eq_made, Nat.zero_add, hinj]
    simp [hmoves]
  | unmanaged hpass hreboots hrmo =>
    obtain ⟨hstate, hmovedHooks, hmoves⟩ := exitMoved_of_pass hs hhooks hpass
    have hnever : ∀ l ≤ 4,
        .restartStopped ≠ (VmState.running :: failureSequence).getD l .running := by
      decide
    have hl := made_le_length HookOutcome.good hooks 0 failureSequence
    apply iff_of_false
    · intro h
      have hend := h.1
      rw [if_pos rfl, psv.walk_state, hhooks, hs, hookArrival, arrival_eq_made] at hend
      exact hnever _ hl (hstate.symm.trans hend)
    · simp [hmoves]
  | accepted hpass hreboots hrmo haccepted =>
    have hmoves := (exitMoved_of_pass hs hhooks hpass).2.2
    apply iff_of_false
    · intro h
      have hrequests := h.2
      rw [if_pos rfl, ProcessStateVm.log, Os.log_trace, rebootRequests_log, hmoved, hsequence]
        at hrequests
      exact absurd hrequests (by simp [rebootRequests, Event.rebootRequest])
    · simp [hmoves]
  | rejected hpass hreboots hrmo haccepted =>
    have hmoves := (exitMoved_of_pass hs hhooks hpass).2.2
    have hfails : ¬(-1 : Int) = 0 := by decide
    apply iff_of_false
    · intro h
      have hrequests := h.2
      rw [if_neg hfails, quiet_rebootRequests (ProcessStateVm.quiet_walk _ _),
        quiet_rebootRequests (ProcessStateVm.quiet_walk _ _), ProcessStateVm.log, Os.log_trace,
        rebootRequests_log, hmoved, hsequence] at hrequests
      exact absurd hrequests (by simp [rebootRequests, Event.rebootRequest])
    · simp [hmoves]
  | failed hpass hexit hresult => exact absurd hexit (by decide)
  | settled hpass hnot hexit =>
    rw [hreboots] at hnot
    exact absurd hnot (by decide)

end

theorem exit_handlers_agree_iff (termination : Termination) (answers : ExitAnswers)
    (bwv : BhyveWatchedVm) (hooks : Hooks) (hs : bwv.state.state = .running) :
    Agree (bdStartDied termination.status answers (bwv.call hooks)).2.state
        (bdKqueueExit termination.status answers (bwv.call hooks)).2.state ↔
      handlersAgree termination hooks bwv.state.rmo answers = true := by
  have hcalled : (bwv.state.call hooks).state = .running := hs
  rw [bdStartDied_eq, bdKqueueExit_state]
  unfold handlersAgree ProcessStateVm.died
  dsimp only [BhyveWatchedVm.call_state]
  cases hexited : wifexited termination.status with
  | true => exact agree_exited _ hcalled rfl
  | false =>
    have hcode : wexitstatus termination.status = 0 := by
      rcases termination.ended with h | h
      · rw [hexited] at h
        exact absurd h (by decide)
      · exact h.2
    rw [hcode]
    exact agree_signaled hcalled rfl

def runningMachine : BhyveWatchedVm :=
  { bwvNew 3 30 true with state := ⟨.running, 10, true, ⟨fun _ _ => .absent, [], [⟨10, false, true⟩]⟩⟩ }

def killed : Termination := ⟨9, by decide⟩

theorem exit_handlers_agree_runningMachine :
    Agree (bdStartDied killed.status ⟨true, true, true⟩
      (runningMachine.call fun _ _ => .notLaunched)).2.state
      (bdKqueueExit killed.status ⟨true, true, true⟩
        (runningMachine.call fun _ _ => .notLaunched)).2.state := by
  refine (exit_handlers_agree_iff killed ⟨true, true, true⟩ runningMachine
    (fun _ _ => .notLaunched) rfl).mpr ?_
  decide +kernel

/-- The immediate end by signal 9 is taken for a reboot, the later one for a
failure. -/
theorem exit_handlers_disagree :
    ¬Agree (bdStartDied killed.status ⟨true, true, true⟩
          (runningMachine.call fun _ _ => .absent)).2.state
        (bdKqueueExit killed.status ⟨true, true, true⟩
          (runningMachine.call fun _ _ => .absent)).2.state := by
  intro h
  have hstart : (bdStartDied killed.status ⟨true, true, true⟩
      (runningMachine.call fun _ _ => .absent)).2.state.state = .restartStopped := by
    decide +kernel
  have hkqueue : (bdKqueueExit killed.status ⟨true, true, true⟩
      (runningMachine.call fun _ _ => .absent)).2.state.state = .failed := by
    decide +kernel
  have hstate := h.1
  rw [hstart, hkqueue] at hstate
  exact absurd hstate (by decide)

end Vmstated.Properties
