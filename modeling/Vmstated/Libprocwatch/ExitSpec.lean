import Vmstated.Libprocwatch.Walks

/-! What the exit handler, a stop request and a failure reset can do, in terms
of the hook outcomes. -/
namespace Vmstated.Libprocwatch
open Library

def exitPath : VmState → Nat → List VmState
  | .prestopBeforeRestart, 0 => [.restarting, .restartStopped]
  | .running, 0 => [.prestopBeforeRestart, .restarting, .restartStopped]
  | .running, 1 => [.stopStorage, .stopNetwork, .stopped]
  | .running, 2 => [.stopStorage, .stopNetwork, .stopped]
  | .stopping, _ => [.stopStorage, .stopNetwork, .stopped]
  | _, _ => []

/-- The exit is a reboot of the guest. -/
def exitReboots (state : VmState) (exitcode : Nat) : Bool :=
  exitcode == 0 && (state == .running || state == .prestopBeforeRestart)

theorem exitReboots_zero {state : VmState} {exitcode : Nat}
    (h : exitReboots state exitcode = true) :
    exitcode = 0 := by
  simp only [exitReboots, Bool.and_eq_true, beq_iff_eq] at h
  exact h.1

theorem exitReboots_of_ne {exitcode : Nat} (h : exitcode ≠ 0) (state : VmState) :
    exitReboots state exitcode = false := by
  unfold exitReboots
  rw [beq_eq_false_iff_ne.mpr h, Bool.false_and]

theorem rebootPath_last {state : VmState} {exitcode : Nat} (h : exitReboots state exitcode = true) :
    (exitPath state exitcode).getLastD state = .restartStopped := by
  simp only [exitReboots, Bool.and_eq_true, Bool.or_eq_true, beq_iff_eq] at h
  obtain ⟨rfl, rfl | rfl⟩ := h <;> rfl

theorem pathOk_exitPath (state : VmState) (exitcode : Nat) :
    pathOk state (exitPath state exitcode) = true := by
  unfold exitPath
  split <;> rfl

@[simp] theorem log_state (psv : ProcessStateVm) (event : Event) :
    (psv.log event).state = psv.state := rfl

@[simp] theorem log_hooks (psv : ProcessStateVm) (event : Event) :
    (psv.log event).os.hooks = psv.os.hooks := rfl

@[simp] theorem log_procs (psv : ProcessStateVm) (event : Event) :
    (psv.log event).os.procs = psv.os.procs := rfl

@[simp] theorem log_rmo (psv : ProcessStateVm) (event : Event) :
    (psv.log event).rmo = psv.rmo := rfl

theorem requestReboot_eq (accepted : Bool) (psv : ProcessStateVm) :
    requestReboot accepted psv =
      if !psv.rmo then (0, psv)
      else if accepted then (0, psv.log (.requestReboot accepted))
      else (-1, (psv.log (.requestReboot accepted)).walk failureSequence) := by
  unfold requestReboot
  cases hrmo : psv.rmo <;> cases accepted <;> simp [hrmo, psvFailurestate_eq]

theorem psvExitSwitch_eq (answers : ExitAnswers) (exitcode : Nat) (psv : ProcessStateVm) :
    psvExitSwitch answers exitcode psv =
      let path := exitPath psv.state exitcode
      if !hooksPass psv.os.hooks 0 path then (-1, psv.walk path)
      else if exitReboots psv.state exitcode then requestReboot answers.rebootAccepted
        (psv.walk path)
      else (0, psv.walk path) := by
  have htransitions := psvTransitions_eq (pathOk_exitPath psv.state exitcode)
  unfold psvExitSwitch psvGetstate
  cases hs : psv.state
  case running =>
    rcases exitcode with _ | _ | _ | exitcode
    · simp [exitPath, exitReboots, hs] at htransitions ⊢
      simp [htransitions]
      split <;> simp_all
    · simp [exitPath, exitReboots, hs] at htransitions ⊢
      simp [htransitions]
      split <;> simp_all
    · simp [exitPath, exitReboots, hs] at htransitions ⊢
      simp [htransitions]
      split <;> simp_all
    · simp [hs, exitPath, exitReboots, ProcessStateVm.walk]
  case prestopBeforeRestart =>
    rcases exitcode with _ | exitcode
    · simp [exitPath, exitReboots, hs] at htransitions ⊢
      simp [htransitions]
      split <;> simp_all
    · simp [hs, exitPath, exitReboots, ProcessStateVm.walk]
  case stopping =>
    simp [exitPath, exitReboots, hs] at htransitions ⊢
    simp [htransitions]
    split <;> simp_all
  all_goals simp [hs, exitPath, exitReboots, ProcessStateVm.walk]

theorem psvExitFailure_eq (answers : ExitAnswers) (psv : ProcessStateVm) :
    psvExitFailure answers psv =
      let failed := psv.walk failureSequence
      if !answers.lockOk then (psvErrMutexlockfailed, failed)
      else (if answers.unlockOk then 0 else psvErrMutexunlockfail,
        { failed with processid := 0 }) := by
  unfold psvExitFailure
  cases hlock : answers.lockOk <;> cases hunlock : answers.unlockOk <;>
    simp [psvFailurestate_eq]

theorem psvOnexit_eq (answers : ExitAnswers) (exitcode : Nat) (psv : ProcessStateVm) :
    psvOnexit answers exitcode psv =
      let path := exitPath psv.state exitcode
      let moved := (psv.log (.onexit exitcode)).walk path
      if !hooksPass psv.os.hooks 0 path then (-1, moved)
      else if exitReboots psv.state exitcode then requestReboot answers.rebootAccepted moved
      else if exitcode ≥ 3 then psvExitFailure answers moved
      else (0, moved) := by
  have hswitch := psvExitSwitch_eq answers exitcode (psv.log (.onexit exitcode))
  simp only [log_state, log_hooks] at hswitch
  unfold psvOnexit
  simp only [bind_apply, modify_apply, ite_apply_state, pure_apply, hswitch]
  by_cases hpass : hooksPass psv.os.hooks 0 (exitPath psv.state exitcode) = true
  · by_cases hreboots : exitReboots psv.state exitcode = true
    · have hcode : ¬ exitcode ≥ 3 := by
        have hzero := exitReboots_zero hreboots
        omega
      simp only [hpass, hreboots, hcode, requestReboot_eq, Bool.not_true, Bool.false_eq_true,
        ↓reduceIte]
      split
      · rfl
      · split <;> rfl
    · simp [hpass, hreboots]
  · simp [hpass]

def ProcessStateVm.exitMoved (psv : ProcessStateVm) (exitcode : Nat) : ProcessStateVm :=
  (psv.log (.onexit exitcode)).walk (exitPath psv.state exitcode)

theorem exitMoved_state (psv : ProcessStateVm) (exitcode : Nat) :
    (psv.exitMoved exitcode).state =
      hookArrival psv.os.hooks 0 psv.state (exitPath psv.state exitcode) := by
  rw [ProcessStateVm.exitMoved, ProcessStateVm.walk_state, log_hooks, log_state]

theorem exitMoved_hooks (psv : ProcessStateVm) (exitcode : Nat) :
    (psv.exitMoved exitcode).os.hooks =
      psv.os.hooks.drop (hooksAsked psv.os.hooks 0 (exitPath psv.state exitcode)) := by
  rw [ProcessStateVm.exitMoved, ProcessStateVm.walk_hooks, log_hooks]

section
variable {psv : ProcessStateVm} {hooks : Hooks}

theorem exitMoved_of_stuck {exitcode : Nat} (hs : psv.state = .running)
    (hhooks : psv.os.hooks = hooks)
    (hpass : hooksPass psv.os.hooks 0 (exitPath psv.state exitcode) = false) :
    let path := exitPath .running exitcode
    let moves := hooksMade hooks 0 path
    (psv.exitMoved exitcode).state = (VmState.running :: path).getD moves .running ∧
      (psv.exitMoved exitcode).os.hooks = hooks.drop (moves + 1) ∧ moves < path.length := by
  rw [hs, hhooks] at hpass
  have hmade := made_of_not_passes hpass
  rw [exitMoved_state, exitMoved_hooks, hs, hhooks]
  refine ⟨?_, ?_, hmade.1⟩
  · rw [hookArrival, arrival_eq_made]
  · rw [hooksAsked, hmade.2]

theorem exitMoved_of_pass {exitcode : Nat} (hs : psv.state = .running)
    (hhooks : psv.os.hooks = hooks)
    (hpass : hooksPass psv.os.hooks 0 (exitPath psv.state exitcode) = true) :
    let path := exitPath .running exitcode
    (psv.exitMoved exitcode).state = path.getLastD .running ∧
      (psv.exitMoved exitcode).os.hooks = hooks.drop path.length ∧
      ¬hooksMade hooks 0 path < path.length := by
  rw [hs, hhooks] at hpass
  have hmade : hooksMade hooks 0 (exitPath .running exitcode) = _ := made_of_passes hpass
  rw [exitMoved_state, exitMoved_hooks, hs, hhooks, hookArrival,
    arrival_of_passes hpass, hooksAsked, asked_of_passes hpass]
  exact ⟨rfl, rfl, hmade.not_lt⟩

end

inductive ExitResult (answers : ExitAnswers) (exitcode : Nat) (psv : ProcessStateVm) :
    Int × ProcessStateVm → Prop where
  | stuck (hpass : hooksPass psv.os.hooks 0 (exitPath psv.state exitcode) = false) :
      ExitResult answers exitcode psv (-1, psv.exitMoved exitcode)
  | unmanaged (hpass : hooksPass psv.os.hooks 0 (exitPath psv.state exitcode) = true)
      (hreboots : exitReboots psv.state exitcode = true) (hrmo : psv.rmo = false) :
      ExitResult answers exitcode psv (0, psv.exitMoved exitcode)
  | accepted (hpass : hooksPass psv.os.hooks 0 (exitPath psv.state exitcode) = true)
      (hreboots : exitReboots psv.state exitcode = true) (hrmo : psv.rmo = true)
      (haccepted : answers.rebootAccepted = true) :
      ExitResult answers exitcode psv (0, (psv.exitMoved exitcode).log (.requestReboot true))
  | rejected (hpass : hooksPass psv.os.hooks 0 (exitPath psv.state exitcode) = true)
      (hreboots : exitReboots psv.state exitcode = true) (hrmo : psv.rmo = true)
      (haccepted : answers.rebootAccepted = false) :
      ExitResult answers exitcode psv
        (-1, ((psv.exitMoved exitcode).log (.requestReboot false)).walk failureSequence)
  | failed {result : Int} {processid : Nat}
      (hpass : hooksPass psv.os.hooks 0 (exitPath psv.state exitcode) = true)
      (hcode : exitcode ≥ 3)
      (hresult : result = 0 ↔ answers.lockOk = true ∧ answers.unlockOk = true) :
      ExitResult answers exitcode psv
        (result,
          { (psv.exitMoved exitcode).walk failureSequence with processid := processid })
  | settled (hpass : hooksPass psv.os.hooks 0 (exitPath psv.state exitcode) = true)
      (hreboots : exitReboots psv.state exitcode = false) (hcode : exitcode < 3) :
      ExitResult answers exitcode psv (0, psv.exitMoved exitcode)

theorem psvOnexit_result (answers : ExitAnswers) (exitcode : Nat) (psv : ProcessStateVm) :
    ExitResult answers exitcode psv (psvOnexit answers exitcode psv) := by
  have hrmo : (psv.exitMoved exitcode).rmo = psv.rmo := (ProcessStateVm.quiet_walk _ _).rmo
  rw [psvOnexit_eq]
  change ExitResult answers exitcode psv
    (if !hooksPass psv.os.hooks 0 (exitPath psv.state exitcode) then (-1, psv.exitMoved exitcode)
      else if exitReboots psv.state exitcode then
        requestReboot answers.rebootAccepted (psv.exitMoved exitcode)
      else if exitcode ≥ 3 then psvExitFailure answers (psv.exitMoved exitcode)
      else (0, psv.exitMoved exitcode))
  cases hpass : hooksPass psv.os.hooks 0 (exitPath psv.state exitcode) with
  | false => exact .stuck hpass
  | true =>
    cases hreboots : exitReboots psv.state exitcode with
    | true =>
      simp only [Bool.not_true, Bool.false_eq_true, ↓reduceIte, requestReboot_eq, hrmo]
      cases hmanager : psv.rmo with
      | false => exact .unmanaged hpass hreboots hmanager
      | true =>
        cases haccepted : answers.rebootAccepted with
        | true => exact .accepted hpass hreboots hmanager haccepted
        | false => exact .rejected hpass hreboots hmanager haccepted
    | false =>
      simp only [Bool.not_true, Bool.false_eq_true, ↓reduceIte, psvExitFailure_eq]
      by_cases hcode : exitcode ≥ 3
      · simp only [hcode, ↓reduceIte]
        cases hlock : answers.lockOk with
        | false => exact .failed hpass hcode (by simp [hlock, psvErrMutexlockfailed])
        | true =>
          cases hunlock : answers.unlockOk with
          | false => exact .failed hpass hcode (by simp [hunlock, psvErrMutexunlockfail])
          | true => exact .failed hpass hcode (by simp [hlock, hunlock])
      · simp only [hcode, ↓reduceIte]
        exact .settled hpass hreboots (by omega)

def rebootRequests (trace : List Event) : List Bool :=
  trace.filterMap Event.rebootRequest

theorem Adds.rebootRequests {kind : Event → Bool} {psv psv' : ProcessStateVm}
    (h : Adds kind psv psv') (hkind : ∀ e, kind e = true → e.rebootRequest = none) :
    rebootRequests psv'.os.trace = rebootRequests psv.os.trace :=
  h.filterMap hkind

theorem quiet_rebootRequests {psv psv' : ProcessStateVm} (h : Quiet psv psv') :
    rebootRequests psv'.os.trace = rebootRequests psv.os.trace := by
  apply h.trace.rebootRequests
  intro e he
  cases e <;> first | rfl | simp [Event.quiet] at he

theorem rebootRequests_log {event : Event} {trace : List Event} :
    rebootRequests (trace ++ [event]) = rebootRequests trace ++ rebootRequests [event] := by
  unfold rebootRequests
  rw [List.filterMap_append]

theorem exitMoved_rebootRequests (psv : ProcessStateVm) (exitcode : Nat) :
    rebootRequests (psv.exitMoved exitcode).os.trace = rebootRequests psv.os.trace := by
  have hlogged : rebootRequests (psv.log (.onexit exitcode)).os.trace =
      rebootRequests psv.os.trace := by
    rw [ProcessStateVm.log, Os.log_trace, rebootRequests_log]
    exact List.append_nil _
  rw [ProcessStateVm.exitMoved, quiet_rebootRequests (ProcessStateVm.quiet_walk _ _), hlogged]

theorem exits_of_quiet (e : Event) (h : e.quiet = true) : e.exits = true := by
  cases e <;> simp_all [Event.quiet, Event.exits]

theorem exitMoved_adds (psv : ProcessStateVm) (exitcode : Nat) :
    Adds Event.exits psv (psv.exitMoved exitcode) :=
  (Adds.log psv rfl).trans (ProcessStateVm.adds_walk exits_of_quiet _ _)

theorem ExitResult.adds {answers : ExitAnswers} {exitcode : Nat} {psv : ProcessStateVm}
    {call : Int × ProcessStateVm} (h : ExitResult answers exitcode psv call) :
    Adds Event.exits psv call.2 := by
  have hmoved := exitMoved_adds psv exitcode
  have hwalk {raised : ProcessStateVm} (h : Adds Event.exits psv raised) :
      Adds Event.exits psv (raised.walk failureSequence) :=
    h.trans (raised.adds_walk exits_of_quiet failureSequence)
  cases h with
  | stuck => exact hmoved
  | unmanaged => exact hmoved
  | accepted => exact hmoved.trans (.log _ rfl)
  | rejected => exact hwalk (hmoved.trans (.log _ rfl))
  | failed => exact hwalk hmoved
  | settled => exact hmoved

theorem psvOnexit_of_failure {answers : ExitAnswers} {exitcode : Nat} {psv : ProcessStateVm}
    (hs : psv.state = .running) (hcode : exitcode ≥ 3) :
    (psvOnexit answers exitcode psv).2.state =
      hookArrival psv.os.hooks 0 .running failureSequence := by
  obtain ⟨more, rfl⟩ : ∃ more, exitcode = more + 3 := ⟨exitcode - 3, by omega⟩
  have hreboots : exitReboots psv.state (more + 3) = false := rfl
  have hmoved : psv.exitMoved (more + 3) = psv.log (.onexit (more + 3)) := by
    unfold ProcessStateVm.exitMoved
    rw [hs]
    rfl
  have hresult := psvOnexit_result answers (more + 3) psv
  generalize psvOnexit answers (more + 3) psv = call at hresult
  cases hresult with
  | stuck hpass =>
    rw [hs] at hpass
    exact absurd hpass (by simp [exitPath])
  | unmanaged hpass hyes => exact absurd hyes (by simp [hreboots])
  | accepted hpass hyes => exact absurd hyes (by simp [hreboots])
  | rejected hpass hyes => exact absurd hyes (by simp [hreboots])
  | failed hpass hexit hresult =>
    dsimp only
    rw [hmoved, ProcessStateVm.walk_state, log_hooks, log_state, hs]
  | settled hpass hno hsmall => omega

/-! Stop requests and failure resets. -/

theorem psvSignal_eq (answers : StopAnswers) (psv : ProcessStateVm) :
    psvSignal false answers psv =
      if (if answers.lockOk then psv.processid else 0) = 0 then (0, psv)
      else
        let killed := psv.log (.kill psv.processid answers.killOk)
        if answers.killOk then (0, killed)
        else (if hooksPass psv.os.hooks 0 failureSequence then 0 else -1,
          killed.walk failureSequence) := by
  unfold psvSignal psvGetpid psvWaitexit
  cases hlock : answers.lockOk
  · simp
  · by_cases hpid : psv.processid = 0
    · simp [hpid]
    · cases hkill : answers.killOk
      · simp [hpid, psvFailurestate_eq]
        split <;> simp_all
      · simp [hpid]

theorem psvStopOrReboot_of_not_running (reboot exitcode : Bool) (answers : StopAnswers)
    {psv : ProcessStateVm} (hs : psv.state ≠ .running) :
    psvStopOrReboot reboot exitcode answers psv = (-1, psv) := by
  unfold psvStopOrReboot psvGetstate
  simp [hs]

theorem psvStopOrReboot_of_running (reboot exitcode : Bool) (answers : StopAnswers)
    {psv : ProcessStateVm} (hs : psv.state = .running) :
    psvStopOrReboot reboot exitcode answers psv =
      let target : VmState := if reboot then .prestopBeforeRestart else .stopping
      if (psv.os.hooks 0 target).good then psvSignal exitcode answers (psv.entered target)
      else
        let failed := (psv.hooked target).walk failureSequence
        if hooksPass psv.os.hooks 1 failureSequence then psvSignal exitcode answers failed
        else (-1, failed) := by
  unfold psvStopOrReboot psvGetstate
  cases reboot
  · by_cases hgood : (psv.os.hooks 0 .stopping).good = true
    · simp [hs, hgood, psvTransitionto_eq, edge]
    · by_cases hpass : hooksPass psv.os.hooks 1 failureSequence = true
      · simp [hs, hgood, psvTransitionto_eq, edge, psvFailurestate_eq, passes_drop, hpass]
      · simp [hs, hgood, psvTransitionto_eq, edge, psvFailurestate_eq, passes_drop, hpass]
  · by_cases hgood : (psv.os.hooks 0 .prestopBeforeRestart).good = true
    · simp [hs, hgood, psvTransitionto_eq, edge]
    · by_cases hpass : hooksPass psv.os.hooks 1 failureSequence = true
      · simp [hs, hgood, psvTransitionto_eq, edge, psvFailurestate_eq, passes_drop, hpass]
      · simp [hs, hgood, psvTransitionto_eq, edge, psvFailurestate_eq, passes_drop, hpass]

theorem stops_of_quiet (e : Event) (h : e.quiet = true) : e.stops = true := by
  cases e <;> simp_all [Event.quiet, Event.stops]

theorem psvSignal_cases (answers : StopAnswers) (psv : ProcessStateVm) :
    let killed := psv.log (.kill psv.processid answers.killOk)
    (psvSignal false answers psv).2 = psv ∨ (psvSignal false answers psv).2 = killed ∨
      (psvSignal false answers psv).2 = killed.walk failureSequence := by
  rw [psvSignal_eq]
  by_cases hpid : (if answers.lockOk then psv.processid else 0) = 0
  · rw [if_pos hpid]
    exact .inl rfl
  · rw [if_neg hpid]
    cases answers.killOk
    · exact .inr (.inr rfl)
    · exact .inr (.inl rfl)

theorem psvSignal_frame (answers : StopAnswers) (psv : ProcessStateVm) :
    (psvSignal false answers psv).2.os.procs = psv.os.procs ∧
      Adds Event.stops psv (psvSignal false answers psv).2 := by
  rcases psvSignal_cases answers psv with h | h | h
  · rw [h]
    exact ⟨rfl, .refl _ psv⟩
  · rw [h]
    exact ⟨rfl, .log psv rfl⟩
  · rw [h]
    exact ⟨(ProcessStateVm.quiet_walk _ _).procs,
      (Adds.log psv rfl).trans (ProcessStateVm.adds_walk stops_of_quiet _ _)⟩

theorem psvStopOrReboot_frame (reboot : Bool) (answers : StopAnswers) (psv : ProcessStateVm) :
    (psvStopOrReboot reboot false answers psv).2.os.procs = psv.os.procs ∧
      Adds Event.stops psv (psvStopOrReboot reboot false answers psv).2 := by
  by_cases hs : psv.state = .running
  · rw [psvStopOrReboot_of_running reboot false answers hs]
    generalize (if reboot then VmState.prestopBeforeRestart else VmState.stopping) = target
    have hfailed := (psv.quiet_hooked target).trans (ProcessStateVm.quiet_walk _ failureSequence)
    by_cases hgood : (psv.os.hooks 0 target).good = true
    · rw [if_pos hgood]
      have hsignal := psvSignal_frame answers (psv.entered target)
      exact ⟨hsignal.1, ((psv.quiet_entered target).trace.mono stops_of_quiet).trans hsignal.2⟩
    · rw [if_neg hgood]
      cases hooksPass psv.os.hooks 1 failureSequence
      · exact ⟨hfailed.procs, hfailed.trace.mono stops_of_quiet⟩
      · have hsignal := psvSignal_frame answers ((psv.hooked target).walk failureSequence)
        exact ⟨hsignal.1.trans hfailed.procs, (hfailed.trace.mono stops_of_quiet).trans hsignal.2⟩
  · rw [psvStopOrReboot_of_not_running reboot false answers hs]
    exact ⟨rfl, .refl _ psv⟩

theorem psvResetfailure_of_failed {psv : ProcessStateVm} (hs : psv.state = .failed) :
    psvResetfailure psv =
      (0, { psv.log (.request .failed .init true) with state := .init }) := by
  have hedge : edge psv.state .init = true := by
    rw [hs]
    rfl
  unfold psvResetfailure psvIsFailurestate psvGetstate
  simp [hs, psvTransitionto_init hedge]

theorem psvResetfailure_of_not_failed {psv : ProcessStateVm} (hs : psv.state ≠ .failed) :
    psvResetfailure psv = (-1, psv) := by
  unfold psvResetfailure psvIsFailurestate psvGetstate
  simp [hs]

end Vmstated.Libprocwatch
