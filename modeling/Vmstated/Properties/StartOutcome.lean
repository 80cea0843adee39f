import Vmstated.Libprocwatch.StartSpec

/-! What the result of `psv_startvm` tells about the machine. -/
namespace Vmstated.Properties
open Library Libprocwatch

/-- The launches that a trace shows, by the process that each of them made. -/
def launchesIn (trace : List Event) : List (Option Nat) :=
  trace.filterMap fun
    | .launch _ pid => some pid
    | _ => none

/-- A start returns 0 where it gets a machine that was down to run. -/
structure StartTells (launch : LaunchOutcome) (before : VmState) (result : Int × Option Nat)
    (after : ProcessStateVm) : Prop where
  succeeds_iff : result.1 = 0 ↔
    (before = .init ∨ before = .stopped ∨ before = .restartStopped) ∧ after.state = .running
  launched : result.1 = 0 → ∃ pid exited, launch = .forked pid exited ∧
    launchesIn after.os.trace = [some pid] ∧ result.2 = some pid ∧ after.processid = pid
  refused : ¬(before = .init ∨ before = .stopped ∨ before = .restartStopped) →
    result.1 ≠ 0 ∧ after.os.trace = [] ∧ after.state = before

theorem failure_not_running {psv : ProcessStateVm} (hstate : psv.state ≠ .running) :
    (psv.walk failureSequence).state ≠ .running := by
  have hmem : (psv.walk failureSequence).state ∈ psv.state :: failureSequence := by
    rw [psv.walk_state]
    exact arrival_mem _ _ _ _ _
  intro hrunning
  rw [hrunning] at hmem
  rcases List.mem_cons.mp hmem with hsame | hpath
  · exact hstate hsame.symm
  · exact absurd hpath (by decide)

theorem startup_not_running {psv : ProcessStateVm} (hstart : psv.state.startable = true) :
    psv.startup.state ≠ .running := by
  have hnot : psv.state ≠ .running := by
    intro hrunning
    rw [hrunning] at hstart
    cases hstart
  unfold ProcessStateVm.startup
  split
  · split
    · dsimp only
      split
      · exact VmState.noConfusion
      · exact failure_not_running VmState.noConfusion
    · dsimp only
      split
      · exact failure_not_running (failure_not_running hnot)
      · exact failure_not_running hnot
  · split
    · dsimp only
      split
      · exact VmState.noConfusion
      · exact failure_not_running VmState.noConfusion
    · split
      · exact hnot
      · exact hnot

theorem upPath_not_running {psv : ProcessStateVm} {current : VmState}
    (hstate : psv.state ≠ .running) (hup : hooksPass psv.os.hooks 0 (upPath current) = false) :
    (psv.walk (upPath current)).state ≠ .running := by
  have hmem : (psv.walk (upPath current)).state ∈ (psv.state :: upPath current).dropLast := by
    rw [psv.walk_state]
    exact arrival_of_not_passes hup psv.state
  have hbefore : VmState.running ∉ (psv.state :: upPath current).dropLast := by
    have hother : VmState.running ≠ psv.state := hstate.symm
    cases current <;> simp [upPath, hother]
  intro hrunning
  rw [hrunning] at hmem
  exact hbefore hmem

theorem launchesIn_quiet {psv psv' : ProcessStateVm} (h : Quiet psv psv') :
    launchesIn psv'.os.trace = launchesIn psv.os.trace := by
  apply h.trace.filterMap
  intro e he
  cases e <;> first | rfl | cases he

theorem startable_iff (state : VmState) :
    state.startable = true ↔ state = .init ∨ state = .stopped ∨ state = .restartStopped := by
  unfold VmState.startable
  exact decide_eq_true_iff

section
variable {launch : LaunchOutcome} {psv after : ProcessStateVm} {pid : Nat} {exited : Bool}

theorem startTells_of_fails {code : Int} {pid : Option Nat} (hstart : psv.state.startable = true)
    (hcode : code ≠ 0) (hafter : after.state ≠ .running) :
    StartTells launch psv.state (code, pid) after := by
  refine ⟨?_, fun hzero => absurd hzero hcode, fun hdown => ?_⟩
  · exact ⟨fun hzero => absurd hzero hcode, fun h => absurd h.2 hafter⟩
  · exact absurd ((startable_iff psv.state).mp hstart) hdown

theorem launched_passes (hpass : hooksPass psv.os.hooks 0 (startupPath psv.state) = true)
    (path : List VmState) :
    hooksPass (psv.startup.launched pid exited).os.hooks 0 path =
      hooksPass psv.os.hooks 2 path := by
  rw [launched_hooks, (startup_of_pass hpass).2, hooksPass, passes_drop]

theorem up_running (hpass : hooksPass psv.os.hooks 0 (startupPath psv.state) = true)
    (hup : hooksPass psv.os.hooks 2 (upPath psv.state) = true) (hempty : psv.os.trace = []) :
    let up := (psv.startup.launched pid exited).walk (upPath psv.state)
    up.state = .running ∧ launchesIn up.os.trace = [some pid] ∧ up.processid = pid := by
  have hwalk := (psv.startup.launched pid exited).quiet_walk (upPath psv.state)
  have hbefore : launchesIn psv.startup.os.trace = [] := by
    rw [launchesIn_quiet (quiet_startup psv), hempty]
    rfl
  refine ⟨?_, ?_, hwalk.processid⟩
  · rw [walk_state_of_pass (by rw [launched_passes hpass]; exact hup)]
    cases psv.state <;> rfl
  · rw [launchesIn_quiet hwalk]
    unfold launchesIn at hbefore ⊢
    rw [ProcessStateVm.launched, List.filterMap_append, hbefore]
    rfl

end

/-- The mutexes do not fail; the launch and each hook may. -/
theorem start_returns_zero_iff (launch : LaunchOutcome) (psv : ProcessStateVm) (hooks : Hooks) :
    StartTells launch psv.state (psvStartvm ⟨true, launch, true⟩ (psv.call hooks)).1
      (psvStartvm ⟨true, launch, true⟩ (psv.call hooks)).2 := by
  have hresult := psvStartvm_result ⟨true, launch, true⟩ (psv.call hooks)
  have hnot (hstart : psv.state.startable = true) : (psv.call hooks).startup.state ≠ .running :=
    startup_not_running hstart
  generalize psvStartvm ⟨true, launch, true⟩ (psv.call hooks) = call at hresult
  obtain ⟨result, after⟩ := call
  dsimp only at hresult ⊢
  cases hresult with
  | refused hstart =>
    have hdown : ¬(psv.state = .init ∨ psv.state = .stopped ∨ psv.state = .restartStopped) := by
      rw [← startable_iff]
      exact Bool.not_eq_true _ ▸ hstart
    exact ⟨⟨fun h => absurd h (by decide), fun h => absurd h.1 hdown⟩,
      fun h => absurd h (by decide), fun _ => ⟨by decide, rfl, rfl⟩⟩
  | stuck hstart => exact startTells_of_fails hstart (by decide) (hnot hstart)
  | lockFails hstart hlock => cases hlock
  | notForked hstart =>
    exact startTells_of_fails hstart (by decide) (failure_not_running (hnot hstart))
  | unlockFails hstart hgoes hlock hlaunch hunlock => cases hunlock
  | @up pid exited hstart hpass hlock hlaunch hunlock hup =>
    obtain ⟨hrunning, hlaunches, hpid⟩ := @up_running (psv.call hooks) pid exited hpass hup rfl
    have hdown := (startable_iff psv.state).mp hstart
    exact ⟨⟨fun _ => ⟨hdown, hrunning⟩, fun _ => rfl⟩,
      fun _ => ⟨pid, exited, hlaunch, hlaunches, rfl, hpid⟩, fun h => absurd hdown h⟩
  | @upFails pid exited hstart hpass hlock hlaunch hunlock hup =>
    have hfails := @launched_passes (psv.call hooks) pid exited hpass (upPath psv.state)
    have hlaunched : ((psv.call hooks).startup.launched pid exited).state ≠ .running := hnot hstart
    have hup' := upPath_not_running hlaunched (hfails.trans hup)
    exact startTells_of_fails hstart (by decide) (failure_not_running hup')
  | missed hstart =>
    exact startTells_of_fails hstart (by decide) (failure_not_running (hnot hstart))

/-- Without hook scripts a machine gets to run. -/
example : (psvStartvm ⟨true, .forked 10 false, true⟩
    ((ProcessStateVm.mk .stopped 0 true ⟨fun _ _ => .absent, [], []⟩).call fun _ _ => .absent)).1 =
    (0, some 10) := by
  decide +kernel

end Vmstated.Properties
