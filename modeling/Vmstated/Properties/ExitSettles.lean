import Vmstated.Libprocwatch.DirectorSpec

/-! Where the handling of a process exit leaves the virtual machine, in every
run of the director. -/
namespace Vmstated.Properties
open Library Libprocwatch

def settled : VmState → Bool
  | .stopped | .restartStopped | .failed => true
  | _ => false

theorem settled_failureEnd (hooks : Hooks) (n : Nat) (state : VmState) :
    settled (hookArrival hooks n state failureSequence) = failureRests settled hooks n state :=
  rest_failureEnd rfl rfl rfl rfl hooks n state

def secondSettles (hooks : Hooks) (n : Nat) (state : VmState) : Bool :=
  failureRests settled hooks (n + hooksAsked hooks n failureSequence)
    (hookArrival hooks n state failureSequence)

theorem settled_walk {psv : ProcessStateVm} {hooks : Hooks} {n : Nat}
    (hhooks : psv.os.hooks = hooks.drop n) :
    settled (psv.walk failureSequence).state = failureRests settled hooks n psv.state := by
  rw [psv.walk_state, settled_failureEnd, hhooks, failureRests_drop, Nat.zero_add]

theorem settled_walk_walk {psv psv' : ProcessStateVm} {hooks : Hooks} {n : Nat}
    (hhooks : psv.os.hooks = hooks.drop n) (hstate' : psv'.state = (psv.walk failureSequence).state)
    (hhooks' : psv'.os.hooks = (psv.walk failureSequence).os.hooks) :
    settled (psv'.walk failureSequence).state = secondSettles hooks n psv.state := by
  have hafter : psv'.os.hooks = hooks.drop (n + hooksAsked hooks n failureSequence) := by
    rw [hhooks', psv.walk_hooks, hhooks, hooksAsked, asked_drop, Oracle.drop_drop, Nat.zero_add]
  rw [settled_walk hafter, hstate', psv.walk_state, hhooks, hookArrival, arrival_drop, Nat.zero_add,
    secondSettles]

theorem exitPath_unsettled {state : VmState} {exitcode moves : Nat}
    (hmoves : moves < (exitPath state exitcode).length) :
    settled ((state :: exitPath state exitcode).getD moves state) = false := by
  unfold exitPath at hmoves ⊢
  split at hmoves <;> simp only [List.length_cons, List.length_nil] at hmoves <;>
    interval_cases moves <;> rfl

/-- The condition for `psv_onexit` to end settled: its transitions are made, and
the state they end in is settled, or else the failure sequence run for a refused
reboot or for an exit code from 3 on gets through. -/
def onexitSettles (answers : ExitAnswers) (hooks : Hooks) (rmo : Bool) (state : VmState)
    (exitcode : Nat) : Bool :=
  let path := exitPath state exitcode
  hooksPass hooks 0 path &&
    if exitReboots state exitcode then
      !rmo || answers.rebootAccepted || failureRests settled hooks path.length .restartStopped
    else if exitcode < 3 then settled (path.getLastD state)
    else failureRests settled hooks path.length (path.getLastD state)

theorem exitMoved_settled (psv : ProcessStateVm) (exitcode : Nat) :
    let path := exitPath psv.state exitcode
    if hooksPass psv.os.hooks 0 path then
      (psv.exitMoved exitcode).state = path.getLastD psv.state ∧
        (psv.exitMoved exitcode).os.hooks = psv.os.hooks.drop path.length
    else settled (psv.exitMoved exitcode).state = false := by
  dsimp only
  rw [exitMoved_state, exitMoved_hooks]
  split
  · rename_i hpass
    rw [hookArrival, arrival_of_passes hpass, hooksAsked, asked_of_passes hpass]
    exact ⟨rfl, rfl⟩
  · rename_i hpass
    rw [Bool.not_eq_true] at hpass
    rw [hookArrival, arrival_eq_made]
    exact exitPath_unsettled (made_of_not_passes hpass).1

theorem psvOnexit_settled (answers : ExitAnswers) (exitcode : Nat) (psv : ProcessStateVm) :
    settled (psvOnexit answers exitcode psv).2.state =
      onexitSettles answers psv.os.hooks psv.rmo psv.state exitcode := by
  have hresult := psvOnexit_result answers exitcode psv
  generalize psvOnexit answers exitcode psv = call at hresult
  have hmoved := exitMoved_settled psv exitcode
  unfold onexitSettles
  dsimp only at hmoved ⊢
  cases hresult with
  | stuck hpass =>
    rw [hpass] at hmoved ⊢
    exact hmoved
  | unmanaged hpass hreboots hrmo =>
    rw [if_pos hpass] at hmoved
    rw [hpass, hreboots, hrmo, hmoved.1, rebootPath_last hreboots]
    rfl
  | accepted hpass hreboots hrmo haccepted =>
    rw [if_pos hpass] at hmoved
    rw [hpass, hreboots, hrmo, haccepted, log_state, hmoved.1, rebootPath_last hreboots]
    rfl
  | rejected hpass hreboots hrmo haccepted =>
    rw [if_pos hpass] at hmoved
    have hasked : ((psv.exitMoved exitcode).log (.requestReboot false)).os.hooks = _ := hmoved.2
    have hwalk := settled_walk hasked
    rw [hpass, hreboots, hrmo, haccepted, hwalk, log_state, hmoved.1, rebootPath_last hreboots]
    rfl
  | failed hpass hcode hresult =>
    rw [if_pos hpass] at hmoved
    have hreboots : exitReboots psv.state exitcode = false := exitReboots_of_ne (by omega) psv.state
    have hwalk := settled_walk hmoved.2
    rw [hmoved.1] at hwalk
    rw [hpass, hreboots, Bool.true_and, if_neg (by decide), if_neg (by omega)]
    exact hwalk
  | settled hpass hreboots hcode =>
    rw [if_pos hpass] at hmoved
    rw [hpass, hreboots, hmoved.1, Bool.true_and, if_neg (by decide), if_pos hcode]

/-- The condition for an immediate end of the process to be settled: where
`psv_onexit` fails, the failure sequence is run once more. -/
def diedSettles (answers : ExitAnswers) (hooks : Hooks) (rmo : Bool) (exitcode : Nat) : Bool :=
  let path := exitPath .running exitcode
  let moves := hooksMade hooks 0 path
  if moves < path.length then
    failureRests settled hooks (moves + 1) ((VmState.running :: path).getD moves .running)
  else if exitcode = 0 then !rmo || answers.rebootAccepted || secondSettles hooks 3 .restartStopped
  else if exitcode < 3 then true
  else if answers.lockOk && answers.unlockOk then failureRests settled hooks 0 .running
  else secondSettles hooks 0 .running

theorem died_settled (answers : ExitAnswers) (status : Nat) {psv : ProcessStateVm}
    (hs : psv.state = .running) :
    settled (psv.died status answers).state =
      diedSettles answers psv.os.hooks psv.rmo (toUshort (wexitstatus status)) := by
  unfold ProcessStateVm.died diedSettles
  generalize toUshort (wexitstatus status) = exitcode
  have hresult := psvOnexit_result answers exitcode psv
  generalize psvOnexit answers exitcode psv = call at hresult
  have hfails : ¬(-1 : Int) = 0 := by decide
  have hlast (h : exitReboots psv.state exitcode = true) :
      (exitPath .running exitcode).getLastD .running = .restartStopped := by
    rw [← hs]
    exact rebootPath_last h
  cases hresult with
  | stuck hpass =>
    obtain ⟨hstate, hmovedHooks, hmoves⟩ := exitMoved_of_stuck hs rfl hpass
    dsimp only at hmoves ⊢
    rw [if_neg hfails, if_pos hmoves, settled_walk hmovedHooks, hstate]
  | unmanaged hpass hreboots hrmo =>
    obtain ⟨hstate, hmovedHooks, hmoves⟩ := exitMoved_of_pass hs rfl hpass
    dsimp only at hmoves ⊢
    rw [if_pos rfl, if_neg hmoves, if_pos (exitReboots_zero hreboots), hrmo, hstate, hlast hreboots]
    rfl
  | accepted hpass hreboots hrmo haccepted =>
    obtain ⟨hstate, hmovedHooks, hmoves⟩ := exitMoved_of_pass hs rfl hpass
    dsimp only at hmoves ⊢
    rw [if_pos rfl, if_neg hmoves, if_pos (exitReboots_zero hreboots), haccepted, log_state, hstate,
      hlast hreboots, Bool.or_true, Bool.true_or]
    rfl
  | rejected hpass hreboots hrmo haccepted =>
    obtain ⟨hstate, hmovedHooks, hmoves⟩ := exitMoved_of_pass hs rfl hpass
    have hasked : ((psv.exitMoved exitcode).log (.requestReboot false)).os.hooks = _ := hmovedHooks
    have hwalk := settled_walk_walk hasked rfl rfl
    rw [log_state, hstate, hlast hreboots] at hwalk
    have hzero := exitReboots_zero hreboots
    subst hzero
    dsimp only at hmoves ⊢
    rw [if_neg hfails, if_neg hmoves, if_pos rfl, hrmo, haccepted, hwalk]
    rfl
  | @failed result processid hpass hexit hresult =>
    obtain ⟨hstate, hmovedHooks, hmoves⟩ := exitMoved_of_pass hs rfl hpass
    obtain ⟨more, rfl⟩ : ∃ more, exitcode = more + 3 := ⟨exitcode - 3, by omega⟩
    have hsmall : ¬more + 3 < 3 := by omega
    dsimp only at hmoves ⊢
    rw [if_neg hmoves, if_neg (Nat.succ_ne_zero _), if_neg hsmall]
    by_cases hzero : result = 0
    · have hanswers := hresult.mp hzero
      have hwalk := settled_walk hmovedHooks
      rw [hstate] at hwalk
      rw [if_pos hzero, hanswers.1, hanswers.2]
      exact hwalk
    · have hanswers : (answers.lockOk && answers.unlockOk) = false := by
        rw [← Bool.not_eq_true, Bool.and_eq_true]
        exact fun h => hzero (hresult.mpr h)
      have hnone : ¬false = true := by decide
      have hwalk :
          settled (ProcessStateVm.walk { (psv.exitMoved (more + 3)).walk failureSequence with
          processid := processid } failureSequence).state = _ :=
        settled_walk_walk hmovedHooks rfl rfl
      rw [if_neg hzero, hanswers, if_neg hnone, hwalk, hstate]
      rfl
  | settled hpass hreboots hexit =>
    rw [hs] at hreboots
    obtain ⟨hstate, hmovedHooks, hmoves⟩ := exitMoved_of_pass hs rfl hpass
    have hne : exitcode ≠ 0 := by
      rintro rfl
      exact absurd hreboots (by decide)
    dsimp only at hmoves ⊢
    rw [if_pos rfl, if_neg hmoves, if_neg hne, if_pos hexit, hstate]
    interval_cases exitcode
    · exact absurd rfl hne
    · rfl
    · rfl

def HandlesExit (x : Transit BhyveWatchedVm Op Int) : Prop :=
  match x.input with
  | .exitEvent .. => True
  | .startvm .. => ∃ exitcode, Event.onexit exitcode ∈ x.after.state.os.trace
  | _ => False

/-- The condition for a step that handles the exit to end settled. A start that
does so has made its start-up entries and is `running`. -/
def exitSettles (bwv : BhyveWatchedVm) : Op → Bool
  | .exitEvent _ status hooks answers =>
    if wifexited status then
      onexitSettles answers hooks bwv.state.rmo bwv.state.state (toUshort (wexitstatus status))
    else failureRests settled hooks 0 bwv.state.state
  | .startvm hooks answers =>
    let later := hooks.drop (2 + (upPath bwv.state.state).length)
    if answers.killOk then
      match answers.waitpid with
      | .reports status =>
        diedSettles answers.exit later bwv.state.rmo (toUshort (wexitstatus status))
      | .other => true
    else failureRests settled later 0 .running
  | _ => true

theorem exitEvent_settled {bwv after : BhyveWatchedVm} {index status : Nat} {hooks : Hooks}
    {answers : ExitAnswers} {output : Int}
    (hstep : director.step bwv (.exitEvent index status hooks answers) = some (output, after)) :
    settled after.state.state = exitSettles bwv (.exitEvent index status hooks answers) := by
  simp only [director] at hstep
  split at hstep
  · cases hstep
    simp only [bdKqueueExit_state, exitSettles]
    split
    · rw [psvOnexit_settled]
      rfl
    · rw [ProcessStateVm.walk_state, settled_failureEnd]
      rfl
  · contradiction

/-- Nothing in the trace has to do with the end of the process. -/
def Starting (psv : ProcessStateVm) : Prop :=
  ∀ exitcode, Event.onexit exitcode ∉ psv.os.trace

theorem Starting.of_adds {kind : Event → Bool} {psv psv' : ProcessStateVm} (h : Starting psv)
    (hadds : Adds kind psv psv') (hkind : ∀ exitcode, kind (.onexit exitcode) = false) :
    Starting psv' :=
  fun exitcode hmem => h exitcode (hadds.mem_before hmem (hkind exitcode))

theorem Starting.log {psv : ProcessStateVm} {event : Event} (h : Starting psv)
    (hevent : ∀ exitcode, Event.onexit exitcode ≠ event) : Starting (psv.log event) := by
  intro exitcode hmem
  rcases List.mem_append.mp hmem with hmem | hmem
  · exact h exitcode hmem
  · exact hevent exitcode (List.mem_singleton.mp hmem)

theorem starting_of_timing {psv : ProcessStateVm} (h : ∀ e ∈ psv.os.trace, e.timing = true) :
    Starting psv := by
  intro exitcode hmem
  exact absurd (h _ hmem) (by simp [Event.timing])

theorem startvm_settled {bwv : BhyveWatchedVm} {hooks : Hooks} {answers : StartAnswers}
    (hexit : ¬Starting (bdStartvm answers (bwv.call hooks)).2.state) :
    settled (bdStartvm answers (bwv.call hooks)).2.state.state =
      exitSettles bwv (.startvm hooks answers) := by
  have hlooked := starting_of_timing (looked_timing bwv hooks answers.now)
  have hadmitted := starting_of_timing (admitted_timing bwv hooks answers)
  have hresult := bdStartvm_result answers (bwv.call hooks)
  generalize bdStartvm answers (bwv.call hooks) = call at hresult hexit
  cases hresult with
  | throttled hcount =>
    exact absurd (hlooked.of_adds (ProcessStateVm.quiet_walk _ _).trace fun _ => rfl) hexit
  | failed hcount hfailed => exact absurd hlooked hexit
  | ungenerated hcount hfailed hgen =>
    exact absurd (hadmitted.of_adds (ProcessStateVm.quiet_walk _ _).trace fun _ => rfl) hexit
  | unlaunched hcount hfailed hgen hresult hstart =>
    exact absurd (hadmitted.of_adds hstart.adds fun _ => rfl) hexit
  | @up pid exited hcount hgen hup =>
    have hrunning := brought_state hup
    have hhooks := brought_hooks hup
    have hrmo := brought_rmo ((bwv.call hooks).admitted answers).state pid exited
    have hbrought : Starting (((bwv.call hooks).admitted answers).state.brought pid exited) :=
      hadmitted.of_adds (brought_adds _ pid exited) fun _ => rfl
    simp only [BhyveWatchedVm.admitted_hooks, BhyveWatchedVm.admitted_state_state,
      BhyveWatchedVm.admitted_rmo, BhyveWatchedVm.call_state, ProcessStateVm.call_hooks,
      ProcessStateVm.call_state, ProcessStateVm.call_rmo] at hhooks hrmo
    have hlaunched := bdStartLaunched_result pid answers { (bwv.call hooks).admitted answers with
      state := ((bwv.call hooks).admitted answers).state.brought pid exited }
    generalize bdStartLaunched pid answers { (bwv.call hooks).admitted answers with
      state := ((bwv.call hooks).admitted answers).state.brought pid exited } = call
        at hlaunched hexit
    cases hlaunched with
    | vanished hkill =>
      rw [psvOnexit_settled, hrunning, hhooks]
      simp only [exitSettles, hkill]
      rfl
    | @died status hkill hwait hended =>
      have hreaped : (ProcessStateVm.reaped _ pid).state = .running := hrunning
      rw [died_settled answers.exit status hreaped, ProcessStateVm.reaped_hooks,
        ProcessStateVm.reaped_rmo, hhooks, hrmo]
      simp only [exitSettles, hkill, hwait]
      rfl
    | stopped hkill hwait hended => exact absurd hbrought hexit
    | unregistered hkill hwait hkevent => exact absurd (hbrought.log (by simp)) hexit
    | registered hkill hwait hkevent =>
      have hlogged : Starting ((((bwv.call hooks).admitted answers).state.brought pid exited).log
          (.kevent pid true)) := hbrought.log (by simp)
      exact absurd hlogged hexit

/-- In every run, every handled exit leaves the machine settled exactly if every
step that handles one meets its condition. -/
theorem exits_settle_iff {maxrestart : UInt32} {maxrestarttime : Int} {rmo : Bool}
    {transits : List (Transit BhyveWatchedVm Op Int)} {final : BhyveWatchedVm}
    (run : Run director (bwvNew maxrestart maxrestarttime rmo) transits final) :
    (∀ x ∈ transits, HandlesExit x → settled x.after.state.state = true) ↔
      ∀ x ∈ transits, HandlesExit x → exitSettles x.before x.input = true := by
  have hstep : ∀ x ∈ transits, HandlesExit x →
      settled x.after.state.state = exitSettles x.before x.input := by
    intro x hx hexit
    have hx := run.step_mem hx
    unfold HandlesExit at hexit
    rcases x with ⟨before, input, output, after⟩
    cases input with
    | exitEvent index status hooks answers => exact exitEvent_settled hx
    | startvm hooks answers =>
      have hcall : bdStartvm answers (before.call hooks) = (output, after) := Option.some.inj hx
      obtain ⟨exitcode, hmem⟩ := hexit
      have hstarted : ¬Starting (bdStartvm answers (before.call hooks)).2.state := by
        rw [hcall]
        exact fun h => h exitcode hmem
      rw [← startvm_settled hstarted, hcall]
    | stopvm hooks answers => exact hexit.elim
    | resetfailvm hooks => exact hexit.elim
    | exits index => exact hexit.elim
  constructor
  · intro h x hx hexit
    rw [← hstep x hx hexit]
    exact h x hx hexit
  · intro h x hx hexit
    rw [hstep x hx hexit]
    exact h x hx hexit

def rebootRun (outcome : HookOutcome) : List Op :=
  [.startvm (fun _ _ => .absent)
      ⟨100, true, 100, .noGenerator, ⟨true, .forked 10 false, true⟩,
        true, .other, true, ⟨true, true, true⟩⟩,
    .exits 0,
    .exitEvent 0 0 (fun _ _ => outcome) ⟨true, true, true⟩]

theorem exits_settle_rebootRun :
    ∃ transits final, director.exec (bwvNew 3 30 true) (rebootRun .absent) =
      some (transits, final) ∧
      final.state.state = .restartStopped ∧ ∀ x ∈ transits, HandlesExit x →
        settled x.after.state.state = true := by
  have hrun : (director.exec (bwvNew 3 30 true) (rebootRun .absent)).any (fun run =>
      run.1.all (fun x => exitSettles x.before x.input) && run.2.state.state == .restartStopped) =
        true := by
    decide +kernel
  obtain ⟨⟨transits, final⟩, hexec, hall⟩ := (Option.any_eq_true _ _).mp hrun
  simp only [Bool.and_eq_true, List.all_eq_true, beq_iff_eq] at hall
  exact ⟨transits, final, hexec, hall.2,
    (exits_settle_iff (Machine.exec_run hexec)).mpr fun x hx _ => hall.1 x hx⟩

def isExitEvent : Op → Bool
  | .exitEvent .. => true
  | _ => false

/-- The kqueue thread does not look at the result of `psv_onexit`: the machine
stays `running` without a process. -/
theorem exits_unsettled :
    ¬∀ transits final, Run director (bwvNew 3 30 true) transits final →
      ∀ x ∈ transits, HandlesExit x → settled x.after.state.state = true := by
  intro h
  have hlast : (director.exec (bwvNew 3 30 true) (rebootRun (.waited 256))).map
      (fun run => run.1.getLast?.map fun x => (isExitEvent x.input, x.after.state.state)) =
      some (some (true, .running)) := by
    decide +kernel
  rcases hexec : director.exec (bwvNew 3 30 true) (rebootRun (.waited 256))
    with _ | ⟨transits, final⟩
  · rw [hexec] at hlast
    cases hlast
  · rw [hexec] at hlast
    rcases hx : transits.getLast? with _ | x
    · rw [Option.map_some, hx] at hlast
      cases hlast
    · simp only [Option.map_some, hx, Option.some.injEq, Prod.mk.injEq] at hlast
      have hexit : HandlesExit x := by
        have hinput := hlast.1
        unfold HandlesExit
        unfold isExitEvent at hinput
        split at hinput
        · rename_i hop
          simp only [hop]
        · contradiction
      have hsettled := h transits final (Machine.exec_run hexec) x (List.mem_of_getLast? hx) hexit
      rw [hlast.2] at hsettled
      exact absurd hsettled (by decide)

end Vmstated.Properties
