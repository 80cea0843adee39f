import Vmstated.Libprocwatch.Director
import Vmstated.Libprocwatch.ExitSpec
import Vmstated.Libprocwatch.StartSpec

/-! The cases of `bd_startvm` and of the operations on a watched machine. -/
namespace Vmstated.Libprocwatch
open Library

namespace BhyveWatchedVm

def countfails (bwv : BhyveWatchedVm) (now : Int) : Bool :=
  countEntries 0 (removeBefore (now - bwv.maxrestarttime) bwv.startups) > bwv.maxrestart

/-- A start that runs the failure sequence before it looks at the state any
further. -/
def penalizes (bwv : BhyveWatchedVm) (answers : StartAnswers) : Bool :=
  bwv.countfails answers.now ||
    bwv.state.state != .failed && bwvGenerateConfig answers.generator != 0

def looked (bwv : BhyveWatchedVm) (now : Int) : BhyveWatchedVm :=
  { bwv with
    state := bwv.state.log (.clock now)
    startups := removeBefore (now - bwv.maxrestarttime) bwv.startups }

def stamped (bwv : BhyveWatchedVm) (allocated : Bool) (now : Int) : BhyveWatchedVm :=
  if allocated then
    { bwv with
      state := (bwv.state.log (.clock now)).log (.stamp now)
      startups := bwv.startups ++ [now] }
  else bwv

def failing (bwv : BhyveWatchedVm) : BhyveWatchedVm :=
  { bwv with state := bwv.state.walk failureSequence }

def admitted (bwv : BhyveWatchedVm) (answers : StartAnswers) : BhyveWatchedVm :=
  (bwv.looked answers.now).stamped answers.stampAllocated answers.stampTime

@[simp] theorem looked_state_state (bwv : BhyveWatchedVm) (now : Int) :
    (bwv.looked now).state.state = bwv.state.state := rfl

@[simp] theorem looked_hooks (bwv : BhyveWatchedVm) (now : Int) :
    (bwv.looked now).state.os.hooks = bwv.state.os.hooks := rfl

@[simp] theorem looked_procs (bwv : BhyveWatchedVm) (now : Int) :
    (bwv.looked now).state.os.procs = bwv.state.os.procs := rfl

@[simp] theorem admitted_state_state (bwv : BhyveWatchedVm) (answers : StartAnswers) :
    (bwv.admitted answers).state.state = bwv.state.state := by
  unfold admitted stamped
  split <;> rfl

@[simp] theorem admitted_hooks (bwv : BhyveWatchedVm) (answers : StartAnswers) :
    (bwv.admitted answers).state.os.hooks = bwv.state.os.hooks := by
  unfold admitted stamped
  split <;> rfl

@[simp] theorem admitted_procs (bwv : BhyveWatchedVm) (answers : StartAnswers) :
    (bwv.admitted answers).state.os.procs = bwv.state.os.procs := by
  unfold admitted stamped
  split <;> rfl

@[simp] theorem admitted_rmo (bwv : BhyveWatchedVm) (answers : StartAnswers) :
    (bwv.admitted answers).state.rmo = bwv.state.rmo := by
  unfold admitted stamped
  split <;> rfl

@[simp] theorem looked_processid (bwv : BhyveWatchedVm) (now : Int) :
    (bwv.looked now).state.processid = bwv.state.processid := rfl

@[simp] theorem admitted_processid (bwv : BhyveWatchedVm) (answers : StartAnswers) :
    (bwv.admitted answers).state.processid = bwv.state.processid := by
  unfold admitted stamped
  split <;> rfl

@[simp] theorem call_state (hooks : Hooks) (bwv : BhyveWatchedVm) :
    (bwv.call hooks).state = bwv.state.call hooks := rfl

@[simp] theorem call_countfails (hooks : Hooks) (bwv : BhyveWatchedVm) (now : Int) :
    (bwv.call hooks).countfails now = bwv.countfails now := rfl

@[simp] theorem call_penalizes (hooks : Hooks) (bwv : BhyveWatchedVm) (answers : StartAnswers) :
    (bwv.call hooks).penalizes answers = bwv.penalizes answers := rfl

@[simp] theorem failing_state (bwv : BhyveWatchedVm) :
    bwv.failing.state = bwv.state.walk failureSequence := rfl

end BhyveWatchedVm

def Event.timing : Event → Bool
  | .clock _ | .stamp _ => true
  | _ => false

theorem looked_timing (bwv : BhyveWatchedVm) (hooks : Hooks) (now : Int) :
    ∀ e ∈ ((bwv.call hooks).looked now).state.os.trace, e.timing = true := by
  have htrace : ((bwv.call hooks).looked now).state.os.trace = [.clock now] := rfl
  simp [htrace, Event.timing]

theorem admitted_timing (bwv : BhyveWatchedVm) (hooks : Hooks) (answers : StartAnswers) :
    ∀ e ∈ ((bwv.call hooks).admitted answers).state.os.trace, e.timing = true := by
  unfold BhyveWatchedVm.admitted BhyveWatchedVm.stamped
  split
  · have htrace : ((((bwv.call hooks).looked answers.now).state.log (.clock answers.stampTime)).log
        (.stamp answers.stampTime)).os.trace =
        [.clock answers.now, .clock answers.stampTime, .stamp answers.stampTime] := rfl
    simp [htrace, Event.timing]
  · exact looked_timing bwv hooks answers.now

@[simp] theorem onState_apply {α : Type} (program : StateM ProcessStateVm α)
    (bwv : BhyveWatchedVm) :
    onState program bwv = ((program bwv.state).1, { bwv with state := (program bwv.state).2 }) :=
      rfl

theorem bwvIsCountfail_eq (now : Int) (bwv : BhyveWatchedVm) :
    bwvIsCountfail now bwv = (bwv.countfails now, bwv.looked now) := rfl

theorem bwvTimestamp_snd (allocated : Bool) (now : Int) (bwv : BhyveWatchedVm) :
    (bwvTimestamp allocated now bwv).2 = bwv.stamped allocated now := by
  cases allocated <;> rfl

theorem bdStartvm_eq (answers : StartAnswers) (bwv : BhyveWatchedVm) :
    bdStartvm answers bwv =
      if bwv.countfails answers.now then (bdErrVmstateisfail, (bwv.looked answers.now).failing)
      else if bwv.state.state = .failed then (bdErrVmstateisfail, bwv.looked answers.now)
      else if bwvGenerateConfig answers.generator ≠ 0 then
        (bdErrVmconfgenfail, (bwv.admitted answers).failing)
      else bdLaunchvm answers (bwv.admitted answers) := by
  unfold bdStartvm psvIsFailurestate psvGetstate
  by_cases hcount : bwv.countfails answers.now = true
  · simp [bwvIsCountfail_eq, hcount, psvFailurestate_eq]
    rfl
  · by_cases hfailed : bwv.state.state = .failed
    · simp [bwvIsCountfail_eq, hcount, hfailed]
    · by_cases hgen : bwvGenerateConfig answers.generator = 0
      · simp [bwvIsCountfail_eq, hcount, hfailed, hgen, bwvTimestamp_snd]
        rfl
      · simp [bwvIsCountfail_eq, hcount, hfailed, hgen, bwvTimestamp_snd, psvFailurestate_eq]
        rfl

def ended (status : Nat) : Bool := wifexited status || wifsignaled status

theorem bdStartError_ne_zero (result : Int) : bdStartError result ≠ 0 := by
  unfold bdStartError
  split
  · split
    · decide
    · split <;> decide
  · decide

theorem bdLaunchvm_of_fails {answers : StartAnswers} {bwv : BhyveWatchedVm}
    (h : (psvStartvm answers.launch bwv.state).1.1 ≠ 0) :
    bdLaunchvm answers bwv =
      (bdStartError (psvStartvm answers.launch bwv.state).1.1,
        { bwv with state := (psvStartvm answers.launch bwv.state).2 }) := by
  unfold bdLaunchvm
  simp [h]

theorem bdLaunchvm_of_succeeds {answers : StartAnswers} {bwv : BhyveWatchedVm} {pid : Nat}
    (h : (psvStartvm answers.launch bwv.state).1 = (0, some pid)) :
    bdLaunchvm answers bwv =
      bdStartLaunched pid answers
        { bwv with state := (psvStartvm answers.launch bwv.state).2 } := by
  unfold bdLaunchvm
  simp [h]

def ProcessStateVm.brought (psv : ProcessStateVm) (pid : Nat) (exited : Bool) : ProcessStateVm :=
  (psv.startup.launched pid exited).walk (upPath psv.state)

/-- The conditions under which the process comes up. -/
structure ComesUp (answers : LaunchAnswers) (psv : ProcessStateVm) (pid : Nat) (exited : Bool) :
    Prop where
  startable : psv.state.startable = true
  pass : hooksPass psv.os.hooks 0 (startupPath psv.state) = true
  lock : answers.lockOk = true
  launch : answers.launch = .forked pid exited
  unlock : answers.unlockOk = true
  up : hooksPass psv.os.hooks 2 (upPath psv.state) = true

/-- Everything a call of `bd_startvm` can come to. -/
inductive StartvmResult (answers : StartAnswers) (bwv : BhyveWatchedVm) :
    Int × BhyveWatchedVm → Prop where
  | throttled (hcount : bwv.countfails answers.now = true) :
      StartvmResult answers bwv (bdErrVmstateisfail, (bwv.looked answers.now).failing)
  | failed (hcount : bwv.countfails answers.now = false) (hfailed : bwv.state.state = .failed) :
      StartvmResult answers bwv (bdErrVmstateisfail, bwv.looked answers.now)
  | ungenerated (hcount : bwv.countfails answers.now = false)
      (hfailed : bwv.state.state ≠ .failed) (hgen : bwvGenerateConfig answers.generator ≠ 0) :
      StartvmResult answers bwv (bdErrVmconfgenfail, (bwv.admitted answers).failing)
  | unlaunched {result : Int} {pid : Option Nat} {psv' : ProcessStateVm}
      (hcount : bwv.countfails answers.now = false) (hfailed : bwv.state.state ≠ .failed)
      (hgen : bwvGenerateConfig answers.generator = 0) (hresult : result ≠ 0)
      (hstart : StartResult answers.launch (bwv.admitted answers).state (result, pid) psv') :
      StartvmResult answers bwv (bdStartError result, { bwv.admitted answers with state := psv' })
  | up {pid : Nat} {exited : Bool} (hcount : bwv.countfails answers.now = false)
      (hgen : bwvGenerateConfig answers.generator = 0)
      (hup : ComesUp answers.launch (bwv.admitted answers).state pid exited) :
      StartvmResult answers bwv
        (bdStartLaunched pid answers
          { bwv.admitted answers with state := (bwv.admitted answers).state.brought pid exited })

theorem bdStartvm_result (answers : StartAnswers) (bwv : BhyveWatchedVm) :
    StartvmResult answers bwv (bdStartvm answers bwv) := by
  rw [bdStartvm_eq]
  by_cases hcount : bwv.countfails answers.now = true
  · rw [if_pos hcount]
    exact .throttled hcount
  · rw [if_neg hcount]
    rw [Bool.not_eq_true] at hcount
    by_cases hfailed : bwv.state.state = .failed
    · rw [if_pos hfailed]
      exact .failed hcount hfailed
    · rw [if_neg hfailed]
      by_cases hgen : bwvGenerateConfig answers.generator = 0
      · rw [if_neg (not_not.mpr hgen)]
        have hresult := psvStartvm_result answers.launch (bwv.admitted answers).state
        by_cases hzero : (psvStartvm answers.launch (bwv.admitted answers).state).1.1 = 0
        · rcases hcall : psvStartvm answers.launch
            (bwv.admitted answers).state with ⟨⟨result, pid⟩, psv'⟩
          rw [hcall] at hresult hzero
          dsimp only at hresult hzero
          cases hresult with
          | up hstart hpass hlock hlaunch hunlock hup =>
            rw [bdLaunchvm_of_succeeds (by rw [hcall]), hcall]
            exact .up hcount hgen ⟨hstart, hpass, hlock, hlaunch, hunlock, hup⟩
          | unlockFails =>
            split at hzero
            · exact absurd hzero (by decide)
            · exact absurd hzero (by decide)
          | _ => exact absurd hzero (by decide)
        · rw [bdLaunchvm_of_fails hzero]
          exact .unlaunched hcount hfailed hgen hzero hresult
      · rw [if_pos hgen]
        exact .ungenerated hcount hfailed hgen

def BhyveWatchedVm.admits (bwv : BhyveWatchedVm) (answers : StartAnswers) : Bool :=
  !bwv.countfails answers.now && bwv.state.state != .failed &&
    bwvGenerateConfig answers.generator == 0

def launchReached (answers : LaunchAnswers) (hooks : Hooks) (state : VmState) : Bool :=
  state.startable && answers.lockOk &&
    (hooksPass hooks 0 (startupPath state) || startupRecovers hooks state)

def startsUp (answers : LaunchAnswers) (hooks : Hooks) (state : VmState) : Bool :=
  hooksPass hooks 0 (startupPath state) && answers.unlockOk && hooksPass hooks 2 (upPath state)

theorem not_recovers_of_pass {hooks : Hooks} {state : VmState}
    (h : hooksPass hooks 0 (startupPath state) = true) : startupRecovers hooks state = false := by
  cases state <;> simp_all [startupPath, startupRecovers]

theorem startable_ne_failed {state : VmState} (h : state.startable = true) : state ≠ .failed := by
  rintro rfl
  exact absurd h (by decide)

theorem psvOnexit_procs (answers : ExitAnswers) (exitcode : Nat) (psv : ProcessStateVm) :
    (psvOnexit answers exitcode psv).2.os.procs = psv.os.procs := by
  have hmoved :=
    (ProcessStateVm.quiet_walk (psv.log (.onexit exitcode)) (exitPath psv.state exitcode)).procs
  rw [psvOnexit_eq]
  dsimp only
  split
  · exact hmoved
  · split
    · rw [requestReboot_eq]
      split
      · exact hmoved
      · split
        · exact hmoved
        · exact (ProcessStateVm.quiet_walk _ _).procs.trans hmoved
    · split
      · rw [psvExitFailure_eq]
        dsimp only
        split
        · exact (ProcessStateVm.quiet_walk _ _).procs.trans hmoved
        · exact (ProcessStateVm.quiet_walk _ _).procs.trans hmoved
      · exact hmoved

theorem brought_state {answers : LaunchAnswers} {psv : ProcessStateVm} {pid : Nat} {exited : Bool}
    (h : ComesUp answers psv pid exited) : (psv.brought pid exited).state = .running := by
  have hready := startup_of_pass h.pass
  have hpass : hooksPass (psv.startup.launched pid exited).os.hooks 0
      (upPath psv.state) = true := by
    rw [launched_hooks, hready.2, hooksPass, passes_drop]
    exact h.up
  rw [ProcessStateVm.brought, walk_state_of_pass hpass]
  cases psv.state <;> rfl

theorem brought_hooks {answers : LaunchAnswers} {psv : ProcessStateVm} {pid : Nat} {exited : Bool}
    (h : ComesUp answers psv pid exited) :
    (psv.brought pid exited).os.hooks = psv.os.hooks.drop (2 + (upPath psv.state).length) := by
  have hready := startup_of_pass h.pass
  have hpass : hooksPass (psv.startup.launched pid exited).os.hooks 0
      (upPath psv.state) = true := by
    rw [launched_hooks, hready.2, hooksPass, passes_drop]
    exact h.up
  rw [ProcessStateVm.brought, walk_hooks_of_pass hpass, launched_hooks, hready.2, Oracle.drop_drop]

theorem brought_rmo (psv : ProcessStateVm) (pid : Nat) (exited : Bool) :
    (psv.brought pid exited).rmo = psv.rmo := by
  rw [ProcessStateVm.brought, (ProcessStateVm.quiet_walk _ _).rmo]
  exact (quiet_startup psv).rmo

theorem launched_procs (psv : ProcessStateVm) (pid : Nat) (exited : Bool) :
    (psv.startup.launched pid exited).os.procs = ⟨pid, !exited, false⟩ :: psv.os.procs := by
  rw [← (quiet_startup psv).procs]
  rfl

theorem brought_procs (psv : ProcessStateVm) (pid : Nat) (exited : Bool) :
    (psv.brought pid exited).os.procs = ⟨pid, !exited, false⟩ :: psv.os.procs := by
  rw [ProcessStateVm.brought, (ProcessStateVm.quiet_walk _ _).procs, launched_procs]

theorem brought_adds (psv : ProcessStateVm) (pid : Nat) (exited : Bool) :
    Adds Event.starts psv (psv.brought pid exited) :=
  (((quiet_startup psv).trace.mono starts_of_quiet).trans (launched_adds _ _ _)).trans
    (ProcessStateVm.adds_walk starts_of_quiet _ _)

def forkedBy (answers : LaunchAnswers) (hooks : Hooks) (state : VmState) : Option Proc :=
  if launchReached answers hooks state then
    match answers.launch with
    | .forked pid exited => some ⟨pid, !exited, false⟩
    | _ => none
  else none

def BhyveWatchedVm.forks (bwv : BhyveWatchedVm) (answers : StartAnswers) (hooks : Hooks) :
    Option Proc :=
  if bwv.admits answers then forkedBy answers.launch hooks bwv.state.state else none

theorem forks_of_admitted {bwv : BhyveWatchedVm} {answers : StartAnswers} (hooks : Hooks)
    (hcount : bwv.countfails answers.now = false) (hfailed : bwv.state.state ≠ .failed)
    (hgen : bwvGenerateConfig answers.generator = 0) :
    bwv.forks answers hooks = forkedBy answers.launch hooks bwv.state.state := by
  have hadmits : bwv.admits answers = true := by
    simp [BhyveWatchedVm.admits, hcount, hfailed, hgen]
  rw [BhyveWatchedVm.forks, if_pos hadmits]

theorem StartResult.procs {answers : LaunchAnswers} {psv psv' : ProcessStateVm}
    {result : Int × Option Nat} (h : StartResult answers psv result psv') :
    psv'.os.procs = (forkedBy answers psv.os.hooks psv.state).toList ++ psv.os.procs := by
  have hstartup := (quiet_startup psv).procs
  have hwalk (psv : ProcessStateVm) (path : List VmState) := (psv.quiet_walk path).procs
  unfold forkedBy launchReached
  cases h with
  | refused hstart => simp [hstart]
  | stuck hstart hpass hrecovers => simp [hstartup, hpass, hrecovers]
  | lockFails hstart hlock => simp [hstartup, hwalk, hlock]
  | notForked hstart hgoes hlock hlaunch =>
    have hnone : (match answers.launch with
        | .forked pid exited => some (⟨pid, !exited, false⟩ : Proc)
        | _ => none) = none := by
      cases houtcome : answers.launch with
      | forked pid exited => exact absurd houtcome (hlaunch pid exited)
      | _ => rfl
    rw [hnone, ite_self, hwalk]
    exact hstartup
  | unlockFails hstart hgoes hlock hlaunch hunlock =>
    rw [hwalk, launched_procs]
    simp [hstart, hlock, hlaunch, hgoes]
  | up hstart hpass hlock hlaunch hunlock hup =>
    rw [hwalk, launched_procs]
    simp [hstart, hlock, hlaunch, hpass]
  | upFails hstart hpass hlock hlaunch hunlock hup =>
    rw [hwalk, hwalk, launched_procs]
    simp [hstart, hlock, hlaunch, hpass]
  | missed hstart hrecovers hlock hlaunch hunlock =>
    rw [hwalk, (ProcessStateVm.quiet_missed _ _).procs, launched_procs]
    simp [hstart, hlock, hlaunch, hrecovers]

theorem StartResult.not_startsUp {answers : LaunchAnswers}
    {psv psv' : ProcessStateVm} {result : Int}
    {pid : Option Nat} (h : StartResult answers psv (result, pid) psv') (hresult : result ≠ 0)
    (hforked : forkedBy answers psv.os.hooks psv.state ≠ none) :
    startsUp answers psv.os.hooks psv.state = false := by
  unfold forkedBy launchReached at hforked
  unfold startsUp
  cases h with
  | refused hstart => simp [hstart] at hforked
  | stuck hstart hpass hrecovers => simp [hpass]
  | lockFails hstart hlock => simp [hlock] at hforked
  | notForked hstart hgoes hlock hlaunch =>
    cases houtcome : answers.launch with
    | forked pid exited => exact absurd houtcome (hlaunch pid exited)
    | _ => simp [houtcome] at hforked
  | unlockFails hstart hgoes hlock hlaunch hunlock => simp [hunlock]
  | up hstart hpass hlock hlaunch hunlock hup => exact absurd rfl hresult
  | upFails hstart hpass hlock hlaunch hunlock hup => simp [hup]
  | missed hstart hrecovers hlock hlaunch hunlock =>
    by_contra hpass
    simp only [Bool.and_eq_true, Bool.not_eq_false] at hpass
    have hnot := not_recovers_of_pass hpass.1.1
    rw [hrecovers] at hnot
    exact absurd hnot (by decide)

theorem ComesUp.forkedBy_eq {answers : LaunchAnswers} {psv : ProcessStateVm} {pid : Nat}
    {exited : Bool} (h : ComesUp answers psv pid exited) :
    forkedBy answers psv.os.hooks psv.state = some ⟨pid, !exited, false⟩ := by
  unfold forkedBy launchReached
  simp [h.startable, h.lock, h.pass, h.launch]

theorem ComesUp.startsUp_eq {answers : LaunchAnswers} {psv : ProcessStateVm} {pid : Nat}
    {exited : Bool} (h : ComesUp answers psv pid exited) :
    startsUp answers psv.os.hooks psv.state = true := by
  simp [startsUp, h.pass, h.unlock, h.up]

theorem forkedBy_unwatched {answers : LaunchAnswers} {hooks : Hooks} {state : VmState} :
    ∀ p ∈ forkedBy answers hooks state, p.watched = false := by
  intro p hp
  unfold forkedBy at hp
  split at hp
  · cases houtcome : answers.launch with
    | forked pid exited =>
      simp only [houtcome, Option.mem_def, Option.some.injEq] at hp
      rw [← hp]
    | _ => simp [houtcome] at hp
  · simp at hp

def ProcessStateVm.died (psv : ProcessStateVm) (status : Nat) (answers : ExitAnswers) :
    ProcessStateVm :=
  let call := psvOnexit answers (toUshort (wexitstatus status)) psv
  if call.1 = 0 then call.2 else call.2.walk failureSequence

theorem bdStartDied_eq (status : Nat) (answers : ExitAnswers) (bwv : BhyveWatchedVm) :
    bdStartDied status answers bwv =
      (bdErrVmstartdiedim, { bwv with state := bwv.state.died status answers }) := by
  unfold bdStartDied ProcessStateVm.died
  by_cases hzero : (psvOnexit answers (toUshort (wexitstatus status)) bwv.state).1 = 0
  · simp [hzero]
  · simp [hzero, psvFailurestate_eq]

theorem died_procs (psv : ProcessStateVm) (status : Nat) (answers : ExitAnswers) :
    (psv.died status answers).os.procs = psv.os.procs := by
  unfold ProcessStateVm.died
  dsimp only
  split
  · exact psvOnexit_procs _ _ _
  · exact (ProcessStateVm.quiet_walk _ _).procs.trans (psvOnexit_procs _ _ _)

namespace ProcessStateVm

def reaped (psv : ProcessStateVm) (pid : Nat) : ProcessStateVm :=
  { psv with os := psv.os.reaped pid }

def registered (psv : ProcessStateVm) (pid : Nat) : ProcessStateVm :=
  { psv with os := (psv.os.log (.kevent pid true)).watched pid }

@[simp] theorem reaped_state (psv : ProcessStateVm) (pid : Nat) :
    (psv.reaped pid).state = psv.state := rfl

@[simp] theorem reaped_hooks (psv : ProcessStateVm) (pid : Nat) :
    (psv.reaped pid).os.hooks = psv.os.hooks := rfl

@[simp] theorem reaped_rmo (psv : ProcessStateVm) (pid : Nat) :
    (psv.reaped pid).rmo = psv.rmo := rfl

theorem reaped_procs {psv : ProcessStateVm} {pid : Nat} {alive watched : Bool} {procs : List Proc}
    (h : psv.os.procs = ⟨pid, alive, watched⟩ :: procs) :
    (psv.reaped pid).os.procs = ⟨pid, false, watched⟩ :: procs := by
  rw [reaped, Os.reaped, h]
  simp

theorem registered_procs {psv : ProcessStateVm} {pid : Nat} {alive watched : Bool}
    {procs : List Proc} (h : psv.os.procs = ⟨pid, alive, watched⟩ :: procs) :
    (psv.registered pid).os.procs = ⟨pid, alive, true⟩ :: procs := by
  rw [registered, Os.watched, Os.log_procs, h]
  simp

end ProcessStateVm

inductive LaunchedResult (pid : Nat) (answers : StartAnswers) (bwv : BhyveWatchedVm) :
    Int × BhyveWatchedVm → Prop where
  | vanished (hkill : answers.killOk = false) :
      LaunchedResult pid answers bwv
        (0, { bwv with state := (psvOnexit answers.exit 4 bwv.state).2 })
  | died {status : Nat} (hkill : answers.killOk = true) (hwait : answers.waitpid = .reports status)
      (hended : ended status = true) :
      LaunchedResult pid answers bwv
        (bdErrVmstartdiedim,
          { bwv with state := (bwv.state.reaped pid).died status answers.exit })
  | stopped {status : Nat} (hkill : answers.killOk = true)
      (hwait : answers.waitpid = .reports status) (hended : ended status = false) :
      LaunchedResult pid answers bwv (0, bwv)
  | unregistered (hkill : answers.killOk = true) (hwait : answers.waitpid = .other)
      (hkevent : answers.keventOk = false) :
      LaunchedResult pid answers bwv
        (bdErrKeventregfail, { bwv with state := bwv.state.log (.kevent pid false) })
  | registered (hkill : answers.killOk = true) (hwait : answers.waitpid = .other)
      (hkevent : answers.keventOk = true) :
      LaunchedResult pid answers bwv (0, { bwv with state := bwv.state.registered pid })

theorem bdStartLaunched_result (pid : Nat) (answers : StartAnswers) (bwv : BhyveWatchedVm) :
    LaunchedResult pid answers bwv (bdStartLaunched pid answers bwv) := by
  unfold bdStartLaunched
  cases hkill : answers.killOk with
  | false => exact .vanished hkill
  | true =>
    cases hwait : answers.waitpid with
    | reports status =>
      by_cases hended : ended status = true
      · have hgone : wifexited status = true ∨ wifsignaled status = true := by
          simpa [ended] using hended
        have hdied := bdStartDied_eq status answers.exit { bwv with state := bwv.state.reaped pid }
        simp only [Bool.not_true, Bool.false_eq_true, ↓reduceIte, hgone, bind_apply, onState_apply,
          modify_apply]
        change LaunchedResult pid answers bwv
          (bdStartDied status answers.exit { bwv with state := bwv.state.reaped pid })
        rw [hdied]
        exact .died hkill hwait hended
      · have hthere : ¬(wifexited status = true ∨ wifsignaled status = true) := by
          simpa [ended] using hended
        rw [Bool.not_eq_true] at hended
        simp only [Bool.not_true, Bool.false_eq_true, ↓reduceIte, hthere]
        exact .stopped hkill hwait hended
    | other =>
      cases hkevent : answers.keventOk with
      | false => exact .unregistered hkill hwait hkevent
      | true => exact .registered hkill hwait hkevent

theorem bdKqueueExit_state (status : Nat) (answers : ExitAnswers) (bwv : BhyveWatchedVm) :
    (bdKqueueExit status answers bwv).2.state =
      if wifexited status then (psvOnexit answers (toUshort (wexitstatus status)) bwv.state).2
      else bwv.state.walk failureSequence := by
  unfold bdKqueueExit
  by_cases hexited : wifexited status = true <;> simp [hexited, psvFailurestate_eq]

theorem bdStopvm_of_not_running (answers : StopAnswers) {bwv : BhyveWatchedVm}
    (hs : bwv.state.state ≠ .running) : bdStopvm answers bwv = (-1, bwv) := by
  unfold bdStopvm psvStopvm
  rw [onState_apply, psvStopOrReboot_of_not_running false false answers hs]

theorem bdResetfailvm_of_failed {bwv : BhyveWatchedVm} (hs : bwv.state.state = .failed) :
    bdResetfailvm bwv =
      (0, { bwv with
        state := { bwv.state.log (.request .failed .init true) with state := .init } }) := by
  unfold bdResetfailvm psvIsFailurestate psvGetstate
  simp [hs, psvResetfailure_of_failed]

theorem bdResetfailvm_of_not_failed {bwv : BhyveWatchedVm} (hs : bwv.state.state ≠ .failed) :
    bdResetfailvm bwv = (bdErrVmstatenofail, bwv) := by
  unfold bdResetfailvm psvIsFailurestate psvGetstate
  simp [hs]

theorem died_adds (psv : ProcessStateVm) (status : Nat) (answers : ExitAnswers) :
    Adds Event.exits psv (psv.died status answers) := by
  have hexit := (psvOnexit_result answers (toUshort (wexitstatus status)) psv).adds
  unfold ProcessStateVm.died
  dsimp only
  split
  · exact hexit
  · exact hexit.trans (ProcessStateVm.adds_walk exits_of_quiet _ _)

theorem bdKqueueExit_adds (status : Nat) (answers : ExitAnswers) (bwv : BhyveWatchedVm) :
    Adds Event.exits bwv.state (bdKqueueExit status answers bwv).2.state := by
  rw [bdKqueueExit_state]
  split
  · exact (psvOnexit_result _ _ _).adds
  · exact ProcessStateVm.adds_walk exits_of_quiet _ _

theorem bdKqueueExit_procs (status : Nat) (answers : ExitAnswers) (bwv : BhyveWatchedVm) :
    (bdKqueueExit status answers bwv).2.state.os.procs = bwv.state.os.procs := by
  rw [bdKqueueExit_state]
  split
  · exact psvOnexit_procs _ _ _
  · exact (ProcessStateVm.quiet_walk _ _).procs

def startWith (now : Int) (pid : Nat) : StartAnswers :=
  ⟨now, true, now, .noGenerator, ⟨true, .forked pid false, true⟩,
    true, .other, true, ⟨true, true, true⟩⟩

end Vmstated.Libprocwatch
