import Mathlib.Tactic.IntervalCases
import Vmstated.Libprocwatch.DirectorSpec

/-! Whether a failed virtual machine stays down until it is reset, in every run
of the director. -/
namespace Vmstated.Properties
open Library Libprocwatch

/-- `failed`, and the states a failure sequence begun there may stop in short of
`stopped`. -/
def down : VmState → Bool
  | .failed | .stopStorage | .stopNetwork => true
  | _ => false

/-- The failure sequence gets to `stopped` and no further. -/
def failureEscapes (hooks : Hooks) : Bool :=
  hooksMade hooks 0 failureSequence == 3

/-- The condition on a step: where it runs the failure sequence, that does not
end in `stopped`. -/
def staysDown (bwv : BhyveWatchedVm) : Op → Bool
  | .startvm hooks answers => !(bwv.penalizes answers && failureEscapes hooks)
  | .exitEvent _ status hooks _ =>
    wifexited status && decide (toUshort (wexitstatus status) < 3) || !failureEscapes hooks
  | _ => true

def Resets (x : Transit BhyveWatchedVm Op Int) : Prop :=
  x.output = 0 ∧ ∃ hooks, x.input = .resetfailvm hooks

/-- The step launches the process. -/
def Launches (x : Transit BhyveWatchedVm Op Int) : Prop :=
  ∃ state pid, Event.launch state pid ∈ x.after.state.os.trace

theorem launches_nothing {kind : Event → Bool} {psv psv' : ProcessStateVm}
    (hbefore : ∀ e ∈ psv.os.trace, e.timing = true) (hadds : Adds kind psv psv')
    (hkind : ∀ state pid, kind (.launch state pid) = false) (state : VmState) (pid : Option Nat) :
    Event.launch state pid ∉ psv'.os.trace := by
  intro hmem
  have htiming := hbefore _ (hadds.mem_before hmem (hkind state pid))
  exact absurd htiming (by simp [Event.timing])

theorem down_of_sequence {psv : ProcessStateVm} (hs : down psv.state = true)
    (hstays : failureEscapes psv.os.hooks = false) :
    down (psv.walk failureSequence).state = true := by
  have hle := made_le_length HookOutcome.good psv.os.hooks 0 failureSequence
  rw [psv.walk_state, hookArrival, arrival_eq_made]
  unfold failureEscapes hooksMade at hstays
  generalize made HookOutcome.good psv.os.hooks 0 failureSequence = k at hle hstays ⊢
  rw [failureSequence_length] at hle
  interval_cases k
  · exact hs
  · rfl
  · rfl
  · exact absurd hstays (by decide)
  · rfl

theorem down_not_startable {state : VmState} (h : down state = true) : state.startable = false := by
  cases state <;> first | rfl | simp [down] at h

theorem down_exitPath {state : VmState} (h : down state = true) (exitcode : Nat) :
    exitPath state exitcode = [] := by
  cases state <;> first | rfl | simp [down] at h

theorem down_not_reboots {state : VmState} (h : down state = true) (exitcode : Nat) :
    exitReboots state exitcode = false := by
  cases state <;> simp_all [down, exitReboots]

theorem down_not_running {state : VmState} (h : down state = true) : state ≠ .running := by
  rintro rfl
  exact absurd h (by decide)

theorem startvm_launches_nothing {bwv : BhyveWatchedVm} (hooks : Hooks) (answers : StartAnswers)
    (hs : down bwv.state.state = true) :
    (staysDown bwv (.startvm hooks answers) = true →
        down (bdStartvm answers (bwv.call hooks)).2.state.state = true) ∧
      ∀ state pid, Event.launch state pid ∉
        (bdStartvm answers (bwv.call hooks)).2.state.os.trace := by
  have hlooked := looked_timing bwv hooks answers.now
  have hadmitted := admitted_timing bwv hooks answers
  have hnone {psv psv' : ProcessStateVm} (htiming : ∀ e ∈ psv.os.trace, e.timing = true)
      (hquiet : Quiet psv psv') := launches_nothing htiming hquiet.trace fun _ _ => rfl
  have hresult := bdStartvm_result answers (bwv.call hooks)
  generalize bdStartvm answers (bwv.call hooks) = call at hresult
  cases hresult with
  | throttled hcount =>
    refine ⟨fun hstays => ?_, hnone hlooked (ProcessStateVm.quiet_walk _ _)⟩
    rw [BhyveWatchedVm.call_countfails] at hcount
    apply down_of_sequence
    · exact hs
    · simpa [staysDown, BhyveWatchedVm.penalizes, hcount] using hstays
  | failed hcount hfailed => exact ⟨fun _ => hs, hnone hlooked (Quiet.refl _)⟩
  | ungenerated hcount hfailed hgen =>
    refine ⟨fun hstays => ?_, hnone hadmitted (ProcessStateVm.quiet_walk _ _)⟩
    have hnot : bwv.state.state ≠ .failed := hfailed
    apply down_of_sequence
    · simpa using hs
    · simpa [staysDown, BhyveWatchedVm.penalizes, hnot, hgen] using hstays
  | unlaunched hcount hfailed hgen hresult hstart =>
    have hrefused : ((bwv.call hooks).admitted answers).state.state.startable = false := by
      simpa using down_not_startable hs
    rw [hstart.of_refused hrefused]
    exact ⟨fun _ => by simpa using hs, hnone hadmitted (Quiet.refl _)⟩
  | up hcount hgen hup =>
    have hrefused : ((bwv.call hooks).admitted answers).state.state.startable = false := by
      simpa using down_not_startable hs
    rw [hup.startable] at hrefused
    exact absurd hrefused (by decide)

theorem onexit_down {exitcode : Nat} {psv : ProcessStateVm} (answers : ExitAnswers)
    (hs : down psv.state = true) (hstays : exitcode < 3 ∨ failureEscapes psv.os.hooks = false) :
    down (psvOnexit answers exitcode psv).2.state = true := by
  have hpath := down_exitPath hs exitcode
  have hmoved : psv.exitMoved exitcode = psv.log (.onexit exitcode) := by
    rw [ProcessStateVm.exitMoved, hpath]
    rfl
  have hreboots := down_not_reboots hs exitcode
  have hresult := psvOnexit_result answers exitcode psv
  generalize psvOnexit answers exitcode psv = call at hresult
  cases hresult with
  | stuck hpass =>
    rw [hpath] at hpass
    exact absurd hpass (by simp)
  | unmanaged hpass hyes => exact absurd hyes (by simp [hreboots])
  | accepted hpass hyes => exact absurd hyes (by simp [hreboots])
  | rejected hpass hyes => exact absurd hyes (by simp [hreboots])
  | failed hpass hcode hresult =>
    have hescapes : failureEscapes psv.os.hooks = false := hstays.resolve_left (by omega)
    have hlogged : down (psv.log (.onexit exitcode)).state = true := hs
    rw [hmoved]
    exact down_of_sequence hlogged hescapes
  | settled hpass hno hcode =>
    rw [hmoved]
    exact hs

theorem kqueueExit_down {status : Nat} {bwv : BhyveWatchedVm} (answers : ExitAnswers)
    (hs : down bwv.state.state = true)
    (hstays : (wifexited status && decide (toUshort (wexitstatus status) < 3) ||
      !failureEscapes bwv.state.os.hooks) = true) :
    down (bdKqueueExit status answers bwv).2.state.state = true := by
  rw [bdKqueueExit_state]
  cases hexited : wifexited status with
  | true =>
    apply onexit_down answers hs
    simpa [hexited] using hstays
  | false =>
    apply down_of_sequence hs
    simpa [hexited] using hstays

/-- A step of a machine that is down launches nothing, and leaves it down if the
step meets its condition and is no reset that succeeds. -/
theorem step_down {bwv after : BhyveWatchedVm} {op : Op} {output : Int}
    (hs : down bwv.state.state = true) (hstep : director.step bwv op = some (output, after)) :
    (staysDown bwv op = true → ¬Resets ⟨bwv, op, output, after⟩ → down after.state.state = true) ∧
      ¬Launches ⟨bwv, op, output, after⟩ := by
  unfold Launches Resets
  simp only [not_exists]
  cases op with
  | startvm hooks answers =>
    have hcall : bdStartvm answers (bwv.call hooks) = (output, after) := Option.some.inj hstep
    have hstart := startvm_launches_nothing hooks answers hs
    rw [hcall] at hstart
    exact ⟨fun hstays _ => hstart.1 hstays, hstart.2⟩
  | stopvm hooks answers =>
    have hcall : bdStopvm answers (bwv.call hooks) = (output, after) := Option.some.inj hstep
    have hnot : (bwv.call hooks).state.state ≠ .running := down_not_running hs
    rw [bdStopvm_of_not_running answers hnot] at hcall
    cases hcall
    exact ⟨fun _ _ => hs, fun _ _ => List.not_mem_nil⟩
  | resetfailvm hooks =>
    have hcall : bdResetfailvm (bwv.call hooks) = (output, after) := Option.some.inj hstep
    by_cases hfailed : (bwv.call hooks).state.state = .failed
    · rw [bdResetfailvm_of_failed hfailed] at hcall
      cases hcall
      refine ⟨fun _ hreset => absurd ⟨rfl, hooks, rfl⟩ hreset, fun state pid hmem => ?_⟩
      have hrequest := List.mem_singleton.mp hmem
      cases hrequest
    · rw [bdResetfailvm_of_not_failed hfailed] at hcall
      cases hcall
      exact ⟨fun _ _ => hs, fun _ _ => List.not_mem_nil⟩
  | exitEvent index status hooks answers =>
    obtain ⟨pid, hproc, rfl⟩ := director_exitEvent hstep
    have hdelivered : down ((bwv.withProcs (bwv.state.os.procs.set index ⟨pid, false, false⟩)).call
        hooks).state.state = true := hs
    have hexit := bdKqueueExit_adds status answers
      ((bwv.withProcs (bwv.state.os.procs.set index ⟨pid, false, false⟩)).call hooks)
    have hempty : ∀ e ∈ ((bwv.withProcs (bwv.state.os.procs.set index ⟨pid, false, false⟩)).call
        hooks).state.os.trace, e.timing = true := fun _ he => absurd he List.not_mem_nil
    exact ⟨fun hstays _ => kqueueExit_down answers hdelivered hstays,
      launches_nothing hempty hexit fun _ _ => rfl⟩
  | exits index =>
    obtain ⟨pid, watched, hproc, rfl⟩ := director_exits hstep
    exact ⟨fun _ _ => hs, fun _ _ => List.not_mem_nil⟩

/-- After a step that ends in `failed`, steps that meet their condition and are
no reset that succeeds keep the machine down, so the next step launches nothing. -/
theorem failed_launches_nothing {maxrestart : UInt32} {maxrestarttime : Int} {rmo : Bool}
    {earlier later rest : List (Transit BhyveWatchedVm Op Int)}
    {x y : Transit BhyveWatchedVm Op Int} {final : BhyveWatchedVm}
    (run : Run director (bwvNew maxrestart maxrestarttime rmo)
      (earlier ++ x :: (later ++ y :: rest)) final)
    (hfailed : x.after.state.state = .failed) (hreset : ∀ z ∈ later, ¬Resets z)
    (hstays : ∀ z ∈ later, staysDown z.before z.input = true) : ¬Launches y := by
  have hafter := run.after_mid
  have hlater := hafter.before_mid
  have hinit : down x.after.state.state = true := by
    rw [hfailed]
    rfl
  have hdown : down y.before.state.state = true := by
    have hkeep : ∀ z : Transit BhyveWatchedVm Op Int, down z.before.state.state = true →
        staysDown z.before z.input = true ∧ ¬Resets z →
        director.step z.before z.input = some (z.output, z.after) →
          down z.after.state.state = true :=
      fun z hz hallowed hstep => (step_down hz hstep).1 hallowed.1 hallowed.2
    exact hlater.invariant (P := fun bwv => down bwv.state.state = true) hinit hkeep
      fun z hz => ⟨hstays z hz, hreset z hz⟩
  have hy := hafter.step_mem (List.mem_append_right later List.mem_cons_self)
  exact (step_down hdown hy).2

def startAt (now : Int) (generator : GeneratorOutcome) : StartAnswers :=
  ⟨now, true, now, generator, ⟨true, .forked 10 false, true⟩,
    true, .other, true, ⟨true, true, true⟩⟩

theorem failed_launches_nothing_throttled :
    ∃ x z y final, Run director (bwvNew 0 30 true) [x, z, y] final ∧ x.after.state.state = .failed ∧
      z.before.penalizes (startAt 110 .noGenerator) = true ∧
      z.input = .startvm (fun _ _ => .absent) (startAt 110 .noGenerator) ∧ ¬Launches y := by
  have hfailed : (bdStartvm (startAt 100 .fails)
      ((bwvNew 0 30 true).call fun _ _ => .absent)).2.state.state = .failed := by
    decide +kernel
  have hthrottled : (bdStartvm (startAt 100 .fails)
      ((bwvNew 0 30 true).call fun _ _ => .absent)).2.penalizes
        (startAt 110 .noGenerator) = true := by
    decide +kernel
  have hfirst := director_startvm (bwvNew 0 30 true) (fun _ _ => .absent) (startAt 100 .fails)
  generalize bdStartvm (startAt 100 .fails) ((bwvNew 0 30 true).call fun _ _ => .absent) = failed
    at hfailed hthrottled hfirst
  have hsecond := director_startvm failed.2 (fun _ _ => .absent) (startAt 110 .noGenerator)
  generalize bdStartvm (startAt 110 .noGenerator) (failed.2.call fun _ _ => .absent) = again
    at hsecond
  have hthird := director_startvm again.2 (fun _ _ => .absent) (startAt 200 .noGenerator)
  have run := Run.cons hfirst (Run.cons hsecond (Run.cons hthird .nil))
  refine ⟨_, _, _, _, run, hfailed, hthrottled, rfl, ?_⟩
  apply @failed_launches_nothing 0 30 true [] [_] [] _ _ _ run hfailed
  · intro z hz
    rw [List.mem_singleton.mp hz]
    rintro ⟨-, hooks, hreset⟩
    cases hreset
  · intro z hz
    rw [List.mem_singleton.mp hz]
    have hsticks : failureEscapes (fun _ _ => .absent) = false := by decide
    simp [staysDown, hsticks]

def isReset : Op → Bool
  | .resetfailvm .. => true
  | _ => false

def isLaunch : Event → Bool
  | .launch .. => true
  | _ => false

/-- Two starts fail, with a reset between them. A third one hits the throttle,
whose failure sequence is stopped by the `failed` hook; the fourth one launches
the process. -/
def escapeRun : List Op :=
  [.startvm (fun _ _ => .absent) (startAt 100 .fails),
    .resetfailvm fun _ _ => .absent,
    .startvm (fun _ _ => .absent) (startAt 101 .fails),
    .startvm (fun _ state => if state = .failed then .waited 256 else .absent)
      (startAt 102 .noGenerator),
    .startvm (fun _ _ => .absent) (startAt 200 .noGenerator)]

theorem failed_escapes :
    ∃ earlier x later y rest final,
      Run director (bwvNew 1 30 true) (earlier ++ x :: (later ++ y :: rest)) final ∧
        x.after.state.state = .failed ∧ (∀ z ∈ later, ¬Resets z) ∧ Launches y := by
  have hseen : (director.exec (bwvNew 1 30 true) escapeRun).map (fun run => run.1.map fun x =>
      (x.after.state.state, isReset x.input, x.after.state.os.trace.any isLaunch)) =
      some [(.failed, false, false), (.init, true, false), (.failed, false, false),
        (.stopped, false, false), (.running, false, true)] := by
    decide +kernel
  rcases hexec : director.exec (bwvNew 1 30 true) escapeRun with _ | ⟨transits, final⟩
  · rw [hexec] at hseen
    cases hseen
  · rw [hexec, Option.map_some, Option.some.injEq] at hseen
    have run := Machine.exec_run hexec
    rcases transits with _ | ⟨a, _ | ⟨b, _ | ⟨x, _ | ⟨d, _ | ⟨y, _ | ⟨_, _⟩⟩⟩⟩⟩⟩ <;>
      simp only [List.map_cons, List.map_nil, List.cons.injEq, Prod.mk.injEq, reduceCtorEq,
        and_false, and_true] at hseen
    obtain ⟨-, -, ⟨hfailed, -⟩, ⟨-, hstart, -⟩, -, -, hlaunch⟩ := hseen
    refine ⟨[a, b], x, [d], y, [], final, run, hfailed, ?_, ?_⟩
    · intro z hz hreset
      obtain ⟨-, hooks, hinput⟩ := hreset
      rw [List.mem_singleton.mp hz] at hinput
      simp [hinput, isReset] at hstart
    · obtain ⟨e, he, hisLaunch⟩ := List.any_eq_true.mp hlaunch
      cases e with
      | launch state pid => exact ⟨state, pid, he⟩
      | _ => exact absurd hisLaunch (by simp [isLaunch])

end Vmstated.Properties
