import Vmstated.Libprocwatch.HookBrackets

/-! Which runs tear down what was never set up. -/
namespace Vmstated.Properties
open Library Libprocwatch

def hookMachine : Machine (ProcessStateVm × Resources) PsvCall Int :=
  psvMachine.monitored brackets (·.os.trace)

def Bracketed (x : Transit (ProcessStateVm × Resources) PsvCall Int) : Prop :=
  brackets.accepts x.before.2 x.after.1.os.trace = true

theorem bracketed_step {x : Transit (ProcessStateVm × Resources) PsvCall Int}
    (hsound : Sound x.before.1.state x.before.2)
    (hstep : hookMachine.step x.before x.input = some (x.output, x.after)) :
    (Bracketed x ↔ opBrackets x.before.2.storage x.before.1 x.input = true) ∧
      Sound x.after.1.state x.after.2 := by
  obtain ⟨hmachine, hheld⟩ := monitored_step hstep
  have hcall : x.input.op.run (x.before.1.call x.input.hooks) = (x.output, x.after.1) :=
    Option.some.inj hmachine
  obtain ⟨hbrackets, hafter⟩ := op_brackets x.input.op x.input.hooks hsound
  rw [hcall] at hbrackets hafter
  rw [hheld]
  refine ⟨?_, hafter⟩
  unfold Bracketed
  rw [← hbrackets]
  exact Iff.rfl

/-- Exactly the runs whose operations are all in order keep the stop hooks
within their brackets. -/
theorem hooks_bracketed_iff {psv : ProcessStateVm} {final : ProcessStateVm × Resources}
    {transits : List (Transit (ProcessStateVm × Resources) PsvCall Int)}
    (run : Run hookMachine (psv, ⟨false, false⟩) transits final) :
    (∀ x ∈ transits, Bracketed x) ↔
      ∀ x ∈ transits, opBrackets x.before.2.storage x.before.1 x.input = true := by
  have hsound : ∀ x ∈ transits, Sound x.before.1.state x.before.2 :=
    run.invariant_before (P := fun s => Sound s.1.state s.2) (sound_of_down rfl)
      (fun x hsound _ hstep => (bracketed_step hsound hstep).2) fun _ _ => trivial
  refine forall₂_congr fun x hx => ?_
  exact (bracketed_step (hsound x hx) (run.step_mem hx)).1

def bracketedCalls : List PsvCall :=
  [⟨fun _ _ => .waited 0, .startvm ⟨true, .forked 10 false, true⟩⟩,
    ⟨fun _ _ => .waited 0, .onexit 0 ⟨true, true, true⟩⟩,
    ⟨fun _ _ => .waited 0, .startvm ⟨true, .forked 11 false, true⟩⟩,
    ⟨fun _ _ => .waited 0, .onexit 1 ⟨true, true, true⟩⟩]

theorem hooks_bracketed_iff_powerOff :
    ∃ transits final,
      hookMachine.exec ((bwvNew 3 30 true).state, ⟨false, false⟩) bracketedCalls =
        some (transits, final) ∧ ∀ x ∈ transits, Bracketed x := by
  have hrun : (hookMachine.exec ((bwvNew 3 30 true).state, ⟨false, false⟩) bracketedCalls).any
      (fun run => run.1.all fun x => opBrackets x.before.2.storage x.before.1 x.input) = true := by
    decide +kernel
  obtain ⟨⟨transits, final⟩, hexec, hall⟩ := (Option.any_eq_true _ _).mp hrun
  rw [List.all_eq_true] at hall
  exact ⟨transits, final, hexec, (hooks_bracketed_iff (Machine.exec_run hexec)).mpr hall⟩

def storageFails : PsvCall :=
  ⟨fun _ state => if state = .startStorage then .waited 256 else .waited 0,
    .startvm ⟨true, .forked 10 false, true⟩⟩

/-- Then `stop_storage` is run for a storage that never was up. -/
theorem hooks_not_bracketed :
    ¬∀ (transits : List (Transit (ProcessStateVm × Resources) PsvCall Int))
      (final : ProcessStateVm × Resources),
      Run hookMachine ((bwvNew 3 30 true).state, ⟨false, false⟩) transits final →
        ∀ x ∈ transits, Bracketed x := by
  have hrun : (hookMachine.exec ((bwvNew 3 30 true).state, ⟨false, false⟩) [storageFails]).any
      (fun run => run.1.any fun x => !brackets.accepts x.before.2 x.after.1.os.trace) = true := by
    decide +kernel
  obtain ⟨⟨transits, final⟩, hexec, hany⟩ := (Option.any_eq_true _ _).mp hrun
  simp only [List.any_eq_true, Bool.not_eq_true'] at hany
  obtain ⟨x, hx, hnot⟩ := hany
  intro hbracketed
  have haccepts := hbracketed transits final (Machine.exec_run hexec) x hx
  rw [Bracketed, hnot] at haccepts
  exact absurd haccepts Bool.false_ne_true

end Vmstated.Properties
