import Vmstated.Libprocwatch.DirectorSpec

/-! What a failing hook script makes of a start, a stop request and the end of
the process. -/
namespace Vmstated.Properties
open Library Libprocwatch

def HookFails (psv : ProcessStateVm) : Prop :=
  ∃ e ∈ psv.os.trace, e.failsIn (fun _ => true) = true

instance (psv : ProcessStateVm) : Decidable (HookFails psv) :=
  inferInstanceAs (Decidable (∃ e ∈ psv.os.trace, e.failsIn (fun _ => true) = true))

def recovers (state : VmState) : Bool := failureSequence.contains state

theorem recovers_of_mem {state : VmState} (h : state ∈ failureSequence) : recovers state = true :=
  List.contains_iff_mem.mpr h

theorem walk_recovered {psv : ProcessStateVm} (h : NoneFails recovers (psv.walk failureSequence)) :
    (psv.walk failureSequence).state = .failed :=
  walk_state_of_pass (h.walk_passes fun _ => recovers_of_mem)

theorem startup_recovered {psv : ProcessStateVm}
    (hpass : hooksPass psv.os.hooks 0 (startupPath psv.state) = false)
    (hfirst : psv.state = .restartStopped ∨ (psv.os.hooks 0 .startNetwork).good = true)
    (hrecovery : NoneFails recovers psv.startup) : psv.startup.state = .failed := by
  unfold ProcessStateVm.startup at hrecovery ⊢
  split
  · rename_i hs
    simp only [hs] at hrecovery hpass
    split
    · rename_i hgood
      have hbad : ¬(psv.os.hooks 1 .startAfterRestart).good = true := by
        simpa [startupPath, hgood] using hpass
      rw [if_pos hgood] at hrecovery
      simp only [ProcessStateVm.entered_hooks, Oracle.drop_apply, Nat.zero_add, if_neg hbad]
        at hrecovery ⊢
      exact walk_recovered hrecovery
    · rename_i hbad
      rw [if_neg hbad] at hrecovery
      dsimp only at hrecovery ⊢
      split
      · rename_i hwalk
        rw [if_pos hwalk] at hrecovery
        exact walk_recovered hrecovery
      · rename_i hwalk
        rw [if_neg hwalk] at hrecovery
        exact walk_recovered hrecovery
  · rename_i hs
    have hgood : (psv.os.hooks 0 .startNetwork).good = true := hfirst.resolve_left hs
    have hpath : startupPath psv.state = [.startNetwork, .startStorage] := by
      cases hstate : psv.state <;> simp_all [startupPath]
    have hbad : ¬(psv.os.hooks 1 .startStorage).good = true := by
      simpa [hpath, hgood] using hpass
    simp only [hgood, ↓reduceIte, ProcessStateVm.entered_hooks, Oracle.drop_apply, Nat.zero_add,
      if_neg hbad] at hrecovery ⊢
    exact walk_recovered hrecovery

section
variable {answers : LaunchAnswers} {psv psv' : ProcessStateVm} {result : Int × Option Nat}

theorem StartResult.fails (h : StartResult answers psv result psv') (hbefore : NoHookFails psv)
    (hfails : HookFails psv') : result.1 ≠ 0 := by
  cases h with
  | @up pid exited hstart hpass hlock hlaunch hunlock hup =>
    have hready := startup_of_pass hpass
    have hstartup : NoHookFails psv.startup := by
      rw [startup_eq_walk hpass]
      exact hbefore.after (ProcessStateVm.walk_succeeds _ hpass)
    have hlaunched : NoHookFails (psv.startup.launched pid exited) :=
      hstartup.after ⟨_, rfl, by simp [Event.failsIn]⟩
    have hleft : hooksPass (psv.startup.launched pid exited).os.hooks 0
        (upPath psv.state) = true := by
      rw [launched_hooks, hready.2, hooksPass, passes_drop]
      exact hup
    have hclean := hlaunched.after (ProcessStateVm.walk_succeeds _ hleft)
    exact absurd hfails hclean.not_fails
  | unlockFails =>
    dsimp only
    split <;> decide
  | _ => simp

/-- It ends in `failed` unless the failing hook is that of start_network, run in
`init` or `stopped`, or a hook of the recovery fails too. -/
theorem StartResult.recovered (h : StartResult answers psv result psv')
    (hstart : psv.state.startable = true) (hresult : result.1 ≠ 0)
    (hfirst : psv.state = .restartStopped ∨ (psv.os.hooks 0 .startNetwork).good = true)
    (hrecovery : NoneFails recovers psv') : psv'.state = .failed := by
  cases h with
  | refused hrefused =>
    rw [hrefused] at hstart
    exact absurd hstart (by decide)
  | stuck _ hpass => exact startup_recovered hpass hfirst hrecovery
  | up => exact absurd rfl hresult
  | _ => exact walk_recovered hrecovery

end

/-- `psv'` comes from `psv` by runs of the failure sequence. -/
structure Recovery (psv psv' : ProcessStateVm) : Prop where
  hooks : Adds (fun e => !e.failsIn fun state => !recovers state) psv psv'
  failed : NoneFails recovers psv' → psv.state = .failed → psv'.state = .failed

theorem Recovery.trans {psv psv' psv'' : ProcessStateVm} (h : Recovery psv psv')
    (h' : Recovery psv' psv'') : Recovery psv psv'' :=
  ⟨h.hooks.trans h'.hooks, fun hrecovery hs =>
    h'.failed hrecovery (h.failed (hrecovery.before h'.hooks) hs)⟩

instance : IsPreorder ProcessStateVm Recovery where
  refl psv := ⟨.refl _ psv, fun _ hs => hs⟩
  trans _ _ _ h h' := h.trans h'

theorem recovery_walk (psv : ProcessStateVm) : Recovery psv (psv.walk failureSequence) :=
  ⟨psv.walk_fails_only fun state hstate => by simp [recovers_of_mem hstate],
    fun hrecovery _ => walk_recovered hrecovery⟩

theorem recovery_failurestate : Steps Recovery psvFailurestate := by
  intro psv
  rw [psvFailurestate_eq]
  exact recovery_walk psv

theorem recovery_waitexit (exitcode : Bool) (answers : StopAnswers) (pid : Nat) :
    Steps Recovery (psvWaitexit exitcode answers pid) := by
  have hreaped (psv : ProcessStateVm) : Recovery psv { psv with os := psv.os.reaped pid } :=
    ⟨.refl _ psv, fun _ hs => hs⟩
  unfold psvWaitexit
  refine Steps.ite (steps_pure _) ?_
  cases answers.waited with
  | none => exact recovery_failurestate.bind fun _ => steps_pure _
  | some status =>
    refine (steps_modify hreaped).bind fun _ => ?_
    exact Steps.ite (recovery_failurestate.bind fun _ => steps_pure _) (steps_pure _)

theorem recovery_signal (exitcode : Bool) (answers : StopAnswers) :
    Steps Recovery (psvSignal exitcode answers) := by
  have hgetpid : Steps Recovery (psvGetpid answers.lockOk) := by
    unfold psvGetpid
    exact Steps.ite (steps_pure _) (steps_get.bind fun _ => steps_pure _)
  have hkill (pid : Nat) (psv : ProcessStateVm) :
      Recovery psv (psv.log (.kill pid answers.killOk)) :=
    ⟨.log psv rfl, fun _ hs => hs⟩
  unfold psvSignal
  refine hgetpid.bind fun pid => ?_
  refine Steps.ite (steps_pure _) ?_
  refine (steps_modify (hkill pid)).bind fun _ => ?_
  have hwait := recovery_waitexit exitcode answers pid
  exact Steps.ite (recovery_failurestate.bind fun _ => Steps.ite (steps_pure _) hwait) hwait

theorem Recovery.clean {psv psv' : ProcessStateVm} (h : Recovery psv psv')
    (hbefore : NoHookFails psv) (hrecovery : NoneFails recovers psv') : NoHookFails psv' := by
  obtain ⟨events, htrace, hevents⟩ := h.hooks
  intro e he
  have hrecovers := hrecovery e he
  rw [htrace] at he
  rcases List.mem_append.mp he with he | he
  · exact hbefore e he
  · have hothers := hevents e he
    cases e with
    | hook state outcome =>
      simp only [Event.failsIn, Bool.not_eq_true', Bool.and_eq_false_iff, Bool.not_eq_false']
        at hrecovers hothers ⊢
      rcases hothers with hstate | hgood
      · rw [hstate] at hrecovers
        exact .inr (hrecovers.resolve_left (by decide))
      · exact .inr hgood
    | _ => rfl

theorem stop_recovered {reboot exitcode : Bool} {answers : StopAnswers} {psv : ProcessStateVm}
    (hs : psv.state = .running) (hbefore : NoHookFails psv)
    (hfails : HookFails (psvStopOrReboot reboot exitcode answers psv).2)
    (hrecovery : NoneFails recovers (psvStopOrReboot reboot exitcode answers psv).2) :
    (psvStopOrReboot reboot exitcode answers psv).2.state = .failed := by
  have hsignal := recovery_signal exitcode answers
  rw [psvStopOrReboot_of_running reboot exitcode answers hs] at hfails hrecovery ⊢
  generalize (if reboot then VmState.prestopBeforeRestart else VmState.stopping) = target
    at hfails hrecovery ⊢
  dsimp only at hfails hrecovery ⊢
  by_cases hgood : (psv.os.hooks 0 target).good = true
  · rw [if_pos hgood] at hfails hrecovery
    have hentered : NoHookFails (psv.entered target) :=
      hbefore.after ⟨_, rfl, by simp [Event.failsIn, hgood]⟩
    have hclean := (hsignal (psv.entered target)).clean hentered hrecovery
    exact absurd hfails hclean.not_fails
  · rw [if_neg hgood] at hrecovery ⊢
    split at hrecovery
    · rename_i hpass
      rw [if_pos hpass]
      have hback := hsignal ((psv.hooked target).walk failureSequence)
      exact hback.failed hrecovery (walk_recovered (hrecovery.before hback.hooks))
    · rename_i hpass
      rw [if_neg hpass]
      exact walk_recovered hrecovery

/-- `psv_onexit` returns -1 if a hook fails, unless that is one of the failure
sequence it runs for an exit code from 3 on. -/
theorem ExitResult.fails {answers : ExitAnswers} {exitcode : Nat} {psv : ProcessStateVm}
    {call : Int × ProcessStateVm} (h : ExitResult answers exitcode psv call)
    (hbefore : NoHookFails psv) (hfails : HookFails call.2)
    (hexit : exitcode < 3 ∨ hooksPass psv.os.hooks 0 (exitPath psv.state exitcode) = false) :
    call.1 = -1 := by
  have hlogged : NoHookFails (psv.log (.onexit exitcode)) := hbefore.after (.log psv rfl)
  have hmoved (hpass : hooksPass psv.os.hooks 0 (exitPath psv.state exitcode) = true) :
      NoHookFails (psv.exitMoved exitcode) :=
    hlogged.after (ProcessStateVm.walk_succeeds _ hpass)
  cases h with
  | stuck => rfl
  | unmanaged hpass => exact absurd hfails (hmoved hpass).not_fails
  | accepted hpass =>
    have hrequested : NoHookFails ((psv.exitMoved exitcode).log (.requestReboot true)) :=
      (hmoved hpass).after (.log _ rfl)
    exact absurd hfails hrequested.not_fails
  | rejected => rfl
  | failed hpass hcode =>
    rw [hpass] at hexit
    simp only [Bool.true_eq_false, or_false] at hexit
    omega
  | settled hpass => exact absurd hfails (hmoved hpass).not_fails

structure StartFails (psv : ProcessStateVm) (hooks : Hooks)
    (call : (Int × Option Nat) × ProcessStateVm) : Prop where
  reported : call.1.1 ≠ 0
  failed : psv.state = .restartStopped ∨ (hooks 0 .startNetwork).good = true →
    NoneFails recovers call.2 → call.2.state = .failed
  /-- The source: "just stay in INIT". -/
  stays : psv.state = .init → (hooks 0 .startNetwork).good = false →
    call.1.1 = -1 ∧ call.2.state = .init

/-- What `psv_onexit` makes of a failing hook: it leaves the recovery to its
caller. -/
structure ExitFails (call : Int × ProcessStateVm) : Prop where
  reported : call.1 = -1
  recovery : ∀ hooks, NoHookFails (psvFailurestate (call.2.call hooks)).2 →
    (psvFailurestate (call.2.call hooks)).1 = 0 ∧
      (psvFailurestate (call.2.call hooks)).2.state = .failed

theorem start_stays {answers : LaunchAnswers} {psv : ProcessStateVm} (hs : psv.state = .init)
    (hbad : (psv.os.hooks 0 .startNetwork).good = false) :
    (psvStartvm answers psv).1.1 = -1 ∧ (psvStartvm answers psv).2.state = .init := by
  have hstart : psv.state.startable = true := by
    rw [hs]
    rfl
  have hstop : (hooksPass psv.os.hooks 0 (startupPath psv.state) ||
      startupRecovers psv.os.hooks psv.state) = false := by
    rw [hs]
    simp [startupPath, startupRecovers, hbad]
  rw [psvStartvm_eq]
  simp only [hstart, hstop, Bool.not_true, Bool.false_eq_true, ↓reduceIte]
  simp [ProcessStateVm.startup, hs, hbad]

/-- The failure law. A failing hook makes a start return an error, and puts the
machine into `failed` unless it is that of start_network from `init` or `stopped`
or the recovery fails as well; so it does in a stop request, unless the recovery
fails; `psv_onexit` reports it. -/
theorem hook_failure_law (psv : ProcessStateVm) (hooks : Hooks) :
    (∀ answers, psv.state.startable = true →
      HookFails (psvStartvm answers (psv.call hooks)).2 →
        StartFails psv hooks (psvStartvm answers (psv.call hooks))) ∧
    (∀ reboot exitcode answers, psv.state = .running →
      HookFails (psvStopOrReboot reboot exitcode answers (psv.call hooks)).2 →
        NoneFails recovers (psvStopOrReboot reboot exitcode answers (psv.call hooks)).2 →
          (psvStopOrReboot reboot exitcode answers (psv.call hooks)).2.state = .failed) ∧
    (∀ answers exitcode, HookFails (psvOnexit answers exitcode (psv.call hooks)).2 →
      exitcode < 3 ∨ hooksPass hooks 0 (exitPath psv.state exitcode) = false →
        ExitFails (psvOnexit answers exitcode (psv.call hooks))) := by
  have hcalled : NoHookFails (psv.call hooks) := by
    simp [NoneFails]
  refine ⟨?_, ?_, ?_⟩
  · intro answers hstart hfails
    have hresult := psvStartvm_result answers (psv.call hooks)
    have hreported := StartResult.fails hresult hcalled hfails
    exact ⟨hreported, fun hfirst => StartResult.recovered hresult hstart hreported hfirst,
      fun hs hbad => start_stays hs hbad⟩
  · intro reboot exitcode answers hs hfails hrecovery
    exact stop_recovered hs hcalled hfails hrecovery
  · intro answers exitcode hfails hexit
    have hreported := ExitResult.fails (psvOnexit_result answers exitcode (psv.call hooks)) hcalled
      hfails hexit
    refine ⟨hreported, fun hooks' hclean => ?_⟩
    rw [psvFailurestate_eq] at hclean ⊢
    have hpass := hclean.walk_passes fun _ _ => rfl
    rw [if_pos hpass]
    exact ⟨rfl, walk_state_of_pass hpass⟩

def onlyFails (state : VmState) : Hooks :=
  fun _ key => if key = state then .waited 256 else .absent

def freshVm : ProcessStateVm := ⟨.init, 0, true, ⟨fun _ _ => .absent, [], []⟩⟩
def runningVm : ProcessStateVm := ⟨.running, 10, true, ⟨fun _ _ => .absent, [], [⟨10, true, true⟩]⟩⟩

theorem hook_failure_law_onlyFails :
    StartFails freshVm (onlyFails .startStorage)
      (psvStartvm ⟨true, .forked 10 false, true⟩ (freshVm.call (onlyFails .startStorage))) ∧
    (psvStopOrReboot false true ⟨true, true, some 0⟩
      (runningVm.call (onlyFails .stopping))).2.state = .failed ∧
    ExitFails (psvOnexit ⟨true, true, true⟩ 0
      (runningVm.call (onlyFails .prestopBeforeRestart))) :=
  ⟨(hook_failure_law freshVm (onlyFails .startStorage)).1 _ rfl (by decide +kernel),
    (hook_failure_law runningVm (onlyFails .stopping)).2.1 _ _ _ rfl (by decide +kernel)
      (by decide +kernel),
    (hook_failure_law runningVm (onlyFails .prestopBeforeRestart)).2.2 _ _ (by decide +kernel)
      (.inl (by decide))⟩

theorem hook_failure_stays :
    ¬(HookFails (psvStartvm ⟨true, .forked 10 false, true⟩
          (freshVm.call (onlyFails .startNetwork))).2 →
      (psvStartvm ⟨true, .forked 10 false, true⟩
          (freshVm.call (onlyFails .startNetwork))).2.state = .failed) := by
  decide +kernel

end Vmstated.Properties
