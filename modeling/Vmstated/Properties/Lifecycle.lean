import Vmstated.Libprocwatch.Operations

/-! Runs in which no hook script fails. -/
namespace Vmstated.Properties
open Library Libprocwatch

/-- An operation that ends in a resting state, finds a table entry for every
transition it asks for, and asks for a reboot exactly if the guest reboots and
there is a manager. -/
structure Regular (rmo : Bool) (x : Transit ProcessStateVm PsvCall Int) : Prop where
  resting : x.after.state.resting = true
  found : ∀ e ∈ x.after.os.trace, e.found = true
  reboots : rebootRequests x.after.os.trace =
    if rmo then (x.input.op.reboots x.before.state).toList else []

structure Rested (rmo : Bool) (psv : ProcessStateVm) : Prop where
  resting : psv.state.resting = true
  manager : psv.rmo = rmo

theorem psvMachine_step {x : Transit ProcessStateVm PsvCall Int}
    (hstep : psvMachine.step x.before x.input = some (x.output, x.after)) :
    x.after = (x.input.op.run (x.before.call x.input.hooks)).2 := by
  have hcall : x.input.op.run (x.before.call x.input.hooks) = (x.output, x.after) :=
    Option.some.inj hstep
  rw [hcall]

theorem rested_step {rmo : Bool} {x : Transit ProcessStateVm PsvCall Int}
    (hrested : Rested rmo x.before) (hclean : NoHookFails x.after)
    (hstep : psvMachine.step x.before x.input = some (x.output, x.after)) : Rested rmo x.after := by
  rw [psvMachine_step hstep] at hclean ⊢
  have hop := x.input.op.of_no_failure hclean
  exact ⟨hop.2 hrested.resting, hop.1.rmo.trans hrested.manager⟩

theorem regular_step {rmo : Bool} {x : Transit ProcessStateVm PsvCall Int}
    (hrested : Rested rmo x.before) (hclean : NoHookFails x.after)
    (hstep : psvMachine.step x.before x.input = some (x.output, x.after)) : Regular rmo x := by
  have hafter := psvMachine_step hstep
  have hrest := (rested_step hrested hclean hstep).resting
  rw [hafter] at hclean
  refine ⟨hrest, ?_, ?_⟩
  · obtain ⟨events, htrace, hfound⟩ := (x.input.op.of_no_failure hclean).1.found
    rw [hafter, htrace, ProcessStateVm.call_trace, List.nil_append]
    exact hfound
  · rw [hafter, x.input.op.rebootRequests hclean, ProcessStateVm.call_trace,
      ProcessStateVm.call_rmo, ProcessStateVm.call_state, hrested.manager]
    rfl

/-- From `init`, whatever the launches, the signals and the reboot manager do,
the machine rests in between operations and can always be put into `failed`. -/
theorem lifecycle_without_hook_failures {start final : ProcessStateVm}
    {transits : List (Transit ProcessStateVm PsvCall Int)} (hinit : start.state = .init)
    (hclean : ∀ x ∈ transits, NoHookFails x.after)
    (run : Run psvMachine start transits final) :
    (∀ x ∈ transits, Regular start.rmo x) ∧ final.state.resting = true ∧
      ∀ hooks, NoHookFails (psvFailurestate (final.call hooks)).2 →
        (psvFailurestate (final.call hooks)).1 = 0 ∧
          (psvFailurestate (final.call hooks)).2.state = .failed := by
  have hstart : Rested start.rmo start := ⟨by rw [hinit]; rfl, rfl⟩
  have hkeep (x : Transit ProcessStateVm PsvCall Int) (hrested : Rested start.rmo x.before)
      (hclean : NoHookFails x.after)
      (hstep : psvMachine.step x.before x.input = some (x.output, x.after)) :
      Rested start.rmo x.after :=
    rested_step hrested hclean hstep
  have hbefore := run.invariant_before hstart hkeep hclean
  refine ⟨?_, (run.invariant hstart hkeep hclean).resting, ?_⟩
  · intro x hx
    exact regular_step (hbefore x hx) (hclean x hx) (run.step_mem hx)
  · intro hooks hfailing
    rw [psvFailurestate_eq] at hfailing ⊢
    have hpass := hfailing.walk_passes fun _ _ => rfl
    rw [if_pos hpass]
    exact ⟨rfl, walk_state_of_pass hpass⟩

/-- The machine is started, the guest reboots, the manager refuses, and the
failure is reset. -/
def refusedReboot : List PsvCall :=
  [⟨fun _ _ => .absent, .startvm ⟨true, .forked 10 false, true⟩⟩,
    ⟨fun _ _ => .waited 0, .onexit 0 ⟨false, true, true⟩⟩,
    ⟨fun _ _ => .absent, .resetfailure⟩]

theorem lifecycle_without_hook_failures_refusedReboot :
    ∃ transits final, psvMachine.exec (bwvNew 3 30 true).state refusedReboot =
      some (transits, final) ∧ (∀ x ∈ transits, Regular true x) ∧ final.state.resting = true ∧
        ∀ hooks, NoHookFails (psvFailurestate (final.call hooks)).2 →
          (psvFailurestate (final.call hooks)).1 = 0 ∧
            (psvFailurestate (final.call hooks)).2.state = .failed := by
  have hrun : (psvMachine.exec (bwvNew 3 30 true).state refusedReboot).any
      (fun run => run.1.all fun x => x.after.os.trace.all fun e => !e.failsIn fun _ => true) =
        true := by
    decide +kernel
  obtain ⟨⟨transits, final⟩, hexec, hall⟩ := (Option.any_eq_true _ _).mp hrun
  have hclean : ∀ x ∈ transits, NoHookFails x.after := by
    simpa [NoHookFails, NoneFails] using hall
  exact ⟨transits, final, hexec,
    lifecycle_without_hook_failures rfl hclean (Machine.exec_run hexec)⟩

end Vmstated.Properties
