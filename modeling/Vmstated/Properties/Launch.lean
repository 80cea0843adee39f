import Mathlib.Data.List.Basic
import Vmstated.Libprocwatch.DirectorSpec

/-! When `psv_startvm` launches the process: with all start-up states entered,
or after a start-up entry failed and the recovery got through. -/
namespace Vmstated.Properties
open Library Libprocwatch

def startupEntry : VmState → Bool
  | .startNetwork | .startStorage | .prestartAfterRestart | .startAfterRestart => true
  | _ => false

/-- A request for a start-up state, or the hook of one, that did not succeed. -/
def startupFailed : Event → Bool
  | .request _ target found => startupEntry target && !found
  | .hook state outcome => startupEntry state && !outcome.good
  | _ => false

/-- Whenever the trace launches the process, all start-up entries before it
succeeded and the virtual machine is in the last of them. -/
def LaunchesEntered (trace : List Event) : Prop :=
  ∀ earlier later state pid, trace = earlier ++ .launch state pid :: later →
    (state = .startStorage ∨ state = .startAfterRestart) ∧
      ∀ e ∈ earlier, startupFailed e = false

theorem quiet_not_launch {events : List Event} (hquiet : ∀ e ∈ events, e.quiet = true)
    (state : VmState) (pid : Option Nat) : Event.launch state pid ∉ events :=
  fun hmem => absurd (hquiet _ hmem) (by simp [Event.quiet])

theorem launchesEntered_of_quiet {trace : List Event} (hquiet : ∀ e ∈ trace, e.quiet = true) :
    LaunchesEntered trace := by
  intro earlier later state pid htrace
  have hmem : Event.launch state pid ∈ trace := by simp [htrace]
  exact absurd hmem (quiet_not_launch hquiet state pid)

theorem launchesEntered_iff {before after : List Event} {state : VmState} {pid : Option Nat}
    (hbefore : ∀ e ∈ before, e.quiet = true) (hafter : ∀ e ∈ after, e.quiet = true) :
    LaunchesEntered (before ++ .launch state pid :: after) ↔
      (state = .startStorage ∨ state = .startAfterRestart) ∧
        ∀ e ∈ before, startupFailed e = false := by
  constructor
  · intro h
    exact h before after state pid rfl
  · intro h earlier later state' pid' hsplit
    have hfirst := quiet_not_launch hbefore state' pid'
    have hlast := quiet_not_launch hafter state' pid'
    obtain ⟨rfl, hlaunch, rfl⟩ := (List.append_cons_inj_of_notMem hfirst hlast).mp hsplit
    cases hlaunch
    exact h

theorem quiet_call {psv psv' : ProcessStateVm} {hooks : Hooks} (h : Quiet (psv.call hooks) psv') :
    ∀ e ∈ psv'.os.trace, e.quiet = true := by
  obtain ⟨events, htrace, hquiet⟩ := h.trace
  rw [htrace, ProcessStateVm.call_trace, List.nil_append]
  exact hquiet

theorem launch_trace {start launched psv' : ProcessStateVm} {pid : Option Nat}
    (hlaunched : launched.os.trace = start.os.trace ++ [.launch start.state pid])
    (h : Quiet launched psv') :
    ∃ pid later, psv'.os.trace = start.os.trace ++ .launch start.state pid :: later ∧
      ∀ e ∈ later, e.quiet = true := by
  obtain ⟨events, htrace, hquiet⟩ := h.trace
  refine ⟨pid, events, ?_, hquiet⟩
  rw [htrace, hlaunched, List.append_assoc]
  rfl

theorem psvStartvm_trace (answers : LaunchAnswers) (psv : ProcessStateVm) (hooks : Hooks) :
    let start := (psv.call hooks).startup
    let trace := (psvStartvm answers (psv.call hooks)).2.os.trace
    if launchReached answers hooks psv.state then
      ∃ pid later, trace = start.os.trace ++ .launch start.state pid :: later ∧
        ∀ e ∈ later, e.quiet = true
    else ∀ e ∈ trace, e.quiet = true := by
  have hresult := psvStartvm_result answers (psv.call hooks)
  have hstartup := quiet_startup (psv.call hooks)
  generalize psvStartvm answers (psv.call hooks) = call at hresult
  obtain ⟨result, psv'⟩ := call
  dsimp only at hresult ⊢
  unfold launchReached
  cases hresult with
  | refused hstart =>
    have hcond : psv.state.startable = false := hstart
    rw [if_neg (by simp [hcond])]
    exact quiet_call (Quiet.refl _)
  | stuck hstart hpass hrecovers =>
    have hcond : (hooksPass hooks 0 (startupPath psv.state) ||
        startupRecovers hooks psv.state) = false := Bool.or_eq_false_iff.mpr ⟨hpass, hrecovers⟩
    rw [if_neg (by simp [hcond])]
    exact quiet_call hstartup
  | lockFails hstart hlock =>
    rw [if_neg (by simp [hlock])]
    exact quiet_call (hstartup.trans (ProcessStateVm.quiet_walk _ _))
  | notForked hstart hgoes hlock hlaunch =>
    have hcond := Bool.or_eq_true_iff.mpr hgoes
    simp only [ProcessStateVm.call_state, ProcessStateVm.call_hooks] at hstart hcond
    rw [if_pos (by simp only [hstart, hlock, hcond, Bool.and_self])]
    exact launch_trace rfl (ProcessStateVm.quiet_walk _ _)
  | unlockFails hstart hgoes hlock hlaunch hunlock => 
    have hcond := Bool.or_eq_true_iff.mpr hgoes
    simp only [ProcessStateVm.call_state, ProcessStateVm.call_hooks] at hstart hcond
    rw [if_pos (by simp only [hstart, hlock, hcond, Bool.and_self])]
    exact launch_trace rfl (ProcessStateVm.quiet_walk _ _)
  | up hstart hpass hlock hlaunch hunlock hup =>
    simp only [ProcessStateVm.call_state, ProcessStateVm.call_hooks] at hstart hpass
    rw [if_pos (by simp only [hstart, hlock, hpass, Bool.and_self, Bool.true_or])]
    exact launch_trace rfl (ProcessStateVm.quiet_walk _ _)
  | upFails hstart hpass hlock hlaunch hunlock hup =>
    simp only [ProcessStateVm.call_state, ProcessStateVm.call_hooks] at hstart hpass
    rw [if_pos (by simp only [hstart, hlock, hpass, Bool.and_self, Bool.true_or])]
    exact launch_trace rfl ((ProcessStateVm.quiet_walk _ _).trans (ProcessStateVm.quiet_walk _ _))
  | missed hstart hrecovers hlock hlaunch hunlock =>
    simp only [ProcessStateVm.call_state, ProcessStateVm.call_hooks] at hstart hrecovers
    rw [if_pos (by simp only [hstart, hlock, hrecovers, Bool.and_self, Bool.or_true])]
    exact launch_trace rfl ((ProcessStateVm.quiet_missed _ _).trans (ProcessStateVm.quiet_walk _ _))

theorem startup_succeeds {psv : ProcessStateVm} {hooks : Hooks}
    (hpass : hooksPass hooks 0 (startupPath psv.state) = true) :
    ∀ e ∈ (psv.call hooks).startup.os.trace, startupFailed e = false := by
  cases hs : psv.state <;> simp only [hs, startupPath, hooksPass, passes_cons, passes_nil,
    Bool.and_true, Bool.and_eq_true, Nat.zero_add] at hpass <;>
    simp [ProcessStateVm.startup, hs, hpass, ProcessStateVm.entered, ProcessStateVm.hooked,
      startupFailed]

theorem launchState_entered (state : VmState) :
    launchState state = .startStorage ∨ launchState state = .startAfterRestart := by
  cases state <;> simp [launchState]

/-- The process is launched with every start-up entry made, unless a start-up
hook fails and the recovery, all of whose hooks succeed, lets the start go on. -/
theorem launch_entered_iff (answers : LaunchAnswers) (psv : ProcessStateVm) (hooks : Hooks) :
    LaunchesEntered (psvStartvm answers (psv.call hooks)).2.os.trace ↔
      ¬(psv.state.startable = true ∧ answers.lockOk = true ∧
        startupRecovers hooks psv.state = true) := by
  have htrace := psvStartvm_trace answers psv hooks
  have hstartup := quiet_call (quiet_startup (psv.call hooks))
  dsimp only at htrace
  split at htrace
  · rename_i hcond
    obtain ⟨pid, later, htrace, hlater⟩ := htrace
    rw [htrace, launchesEntered_iff hstartup hlater]
    simp only [launchReached, Bool.and_eq_true, Bool.or_eq_true] at hcond
    obtain ⟨⟨hstart, hlock⟩, hpass | hrecovers⟩ := hcond
    · have hcalled : hooksPass (psv.call hooks).os.hooks 0 (startupPath (psv.call hooks).state) =
        true := hpass
      have hready := (startup_of_pass hcalled).1
      simp only [hready, ProcessStateVm.call_state, launchState_entered,
        true_and, not_recovers_of_pass hpass,
        Bool.false_eq_true, and_false, not_false_eq_true, iff_true]
      exact startup_succeeds hpass
    · have hcalled : startupRecovers (psv.call hooks).os.hooks (psv.call hooks).state = true :=
        hrecovers
      have hfailed := (startup_of_recovers hcalled).1
      simp [hfailed, hstart, hlock, hrecovers]
  · rename_i hcond
    simp only [launchesEntered_of_quiet htrace, true_iff]
    intro h
    simp [launchReached, h] at hcond

/-- start_network succeeds, start_storage exits with 1 and the four hooks of
the failure sequence are absent: the process is launched in `failed`. -/
theorem launch_not_entered :
    ¬LaunchesEntered (psvStartvm ⟨true, .forked 10 false, true⟩
      ((bwvNew 3 30 true).state.call
        fun _ state => if state = .startStorage then .waited 256 else .absent)).2.os.trace := by
  intro h
  have hlaunch : Event.launch .failed (some 10) ∈ (psvStartvm ⟨true, .forked 10 false, true⟩
      ((bwvNew 3 30 true).state.call
        fun _ state => if state = .startStorage then .waited 256 else .absent)).2.os.trace := by
    decide +kernel
  obtain ⟨earlier, later, hsplit⟩ := List.append_of_mem hlaunch
  have hstate := (h earlier later _ _ hsplit).1
  simp at hstate

end Vmstated.Properties
