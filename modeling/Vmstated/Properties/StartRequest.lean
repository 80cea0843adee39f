import Vmstated.Libprocwatch.Director
import Vmstated.Libprocwatch.DirectorSpec

/-! What one call of `bd_startvm` does to a virtual machine that cannot be
started, and what its result tells about one that can. -/
namespace Vmstated.Properties
open Library Libprocwatch

def runsScript : Event → Bool
  | .hook _ (.waited _) => true
  | _ => false

structure Untouched (before after : ProcessStateVm) : Prop where
  state : after.state = before.state
  processid : after.processid = before.processid
  procs : after.os.procs = before.os.procs
  scripts : ∀ e ∈ after.os.trace, runsScript e = false

/-- A walk of absent hooks that ends in `home`, or stops there at a hook that
cannot be launched. -/
def unmoved (home : VmState) (hooks : Hooks) (state : VmState) : List VmState → Bool
  | [] => state == home
  | next :: path =>
    match hooks 0 next with
    | .absent => unmoved home (hooks.drop 1) next path
    | .notLaunched => state == home
    | .waited _ => false

theorem walk_unmoved (home : VmState) (path : List VmState) (psv : ProcessStateVm) :
    ((psv.walk path).state = home ∧ ∀ e ∈ (psv.walk path).os.trace, runsScript e = false) ↔
      unmoved home psv.os.hooks psv.state path = true ∧
        ∀ e ∈ psv.os.trace, runsScript e = false := by
  induction path generalizing psv with
  | nil => simp [ProcessStateVm.walk, unmoved]
  | cons next path ih =>
    simp only [ProcessStateVm.walk, unmoved]
    cases houtcome : psv.os.hooks 0 next with
    | absent =>
      have hgood : HookOutcome.absent.good = true := rfl
      rw [if_pos hgood, ih]
      simp [ProcessStateVm.entered, ProcessStateVm.hooked, houtcome, or_imp, forall_and, runsScript]
    | notLaunched =>
      have hgood : ¬HookOutcome.notLaunched.good = true := by decide
      rw [if_neg hgood]
      simp [ProcessStateVm.hooked, houtcome, or_imp, forall_and, runsScript]
    | waited status =>
      have hhook : Event.hook next (.waited status) ∈ (psv.hooked next).os.trace := by
        simp [ProcessStateVm.hooked, houtcome]
      simp only [Bool.false_eq_true, false_and, iff_false, not_and, not_forall]
      intro _
      refine ⟨.hook next (.waited status), ?_, by simp [runsScript]⟩
      split
      · exact (ProcessStateVm.quiet_walk _ _).trace.mem_after hhook
      · exact hhook

/-- The failure sequence changes nothing: no script of it is run, and it ends
where it began. -/
def failureUnmoved (hooks : Hooks) (state : VmState) : Bool :=
  unmoved state hooks state failureSequence

theorem walk_untouched {before psv : ProcessStateVm} (hstate : psv.state = before.state)
    (hpid : psv.processid = before.processid) (hprocs : psv.os.procs = before.os.procs)
    (hscripts : ∀ e ∈ psv.os.trace, runsScript e = false) :
    Untouched before (psv.walk failureSequence) ↔
      failureUnmoved psv.os.hooks before.state = true := by
  have hquiet := psv.quiet_walk failureSequence
  have hmoved := walk_unmoved before.state failureSequence psv
  rw [hstate, and_iff_left hscripts] at hmoved
  unfold failureUnmoved
  rw [← hmoved]
  constructor
  · intro h
    exact ⟨h.state, h.scripts⟩
  · intro h
    exact ⟨h.1, hquiet.processid.trans hpid, hquiet.procs.trans hprocs, h.2⟩

theorem timing_scripts {events : List Event} (h : ∀ e ∈ events, e.timing = true) :
    ∀ e ∈ events, runsScript e = false := by
  intro e he
  have htiming := h e he
  cases e <;> first | rfl | simp [Event.timing] at htiming

/-- A start request on a machine that cannot be started leaves it alone, unless
the throttle or the configuration generator makes it run the failure sequence. -/
theorem refused_start_iff (answers : StartAnswers) (bwv : BhyveWatchedVm) (hooks : Hooks)
    (hstart : bwv.state.state.startable = false) :
    ((bdStartvm answers (bwv.call hooks)).1 ≠ 0 ∧
        Untouched bwv.state (bdStartvm answers (bwv.call hooks)).2.state) ↔
      (bwv.penalizes answers = true → failureUnmoved hooks bwv.state.state = true) := by
  have hlooked := timing_scripts (looked_timing bwv hooks answers.now)
  have hadmitted := timing_scripts (admitted_timing bwv hooks answers)
  rw [bdStartvm_eq]
  unfold BhyveWatchedVm.penalizes
  simp only [BhyveWatchedVm.call_countfails, BhyveWatchedVm.call_state, ProcessStateVm.call_state]
  by_cases hcount : bwv.countfails answers.now = true
  · have hmoved :
      Untouched bwv.state (((bwv.call hooks).looked answers.now).state.walk failureSequence) ↔ _ :=
      walk_untouched rfl rfl rfl hlooked
    simp only [hcount, ↓reduceIte, BhyveWatchedVm.failing_state, hmoved, Bool.true_or, forall_const]
    exact and_iff_right (by decide)
  · rw [Bool.not_eq_true] at hcount
    by_cases hfailed : bwv.state.state = .failed
    · have huntouched : Untouched bwv.state ((bwv.call hooks).looked answers.now).state :=
        ⟨rfl, rfl, rfl, hlooked⟩
      simp only [hcount, hfailed, huntouched, Bool.false_eq_true, ↓reduceIte, bne_self_eq_false,
        Bool.false_and, Bool.or_false, false_implies, iff_true, and_true]
      decide
    · by_cases hgen : bwvGenerateConfig answers.generator = 0
      · have hrefused : ((bwv.call hooks).admitted answers).state.state.startable = false := by
          simpa using hstart
        have hcall : psvStartvm answers.launch _ = _ := psvStartvm_of_refused hrefused
        have hlaunch : bdLaunchvm answers ((bwv.call hooks).admitted answers) = _ :=
          bdLaunchvm_of_fails (by simp [hcall])
        have huntouched : Untouched bwv.state ((bwv.call hooks).admitted answers).state :=
          ⟨by simp, by simp, by simp, hadmitted⟩
        simp only [hcount, hfailed, hgen, hlaunch, hcall, huntouched,
          Bool.false_eq_true, ↓reduceIte,
          ne_eq, not_true_eq_false, and_true, bne_self_eq_false, Bool.and_false, Bool.or_self,
          false_implies, iff_true]
        exact bdStartError_ne_zero _
      · have hmoved : Untouched bwv.state
          (((bwv.call hooks).admitted answers).state.walk failureSequence) ↔ _ :=
          walk_untouched (by simp) (by simp) (by simp) hadmitted
        have hpenalizes : (bwv.state.state != .failed && bwvGenerateConfig answers.generator != 0) =
            true := by
          simp [hfailed, hgen]
        simp only [hcount, hfailed, hgen, hpenalizes, hmoved, Bool.false_eq_true, ↓reduceIte, ne_eq,
          not_false_eq_true, BhyveWatchedVm.failing_state, Bool.or_true, forall_const]
        rw [BhyveWatchedVm.admitted_hooks]
        exact and_iff_right (by decide)

def startedFourTimes : BhyveWatchedVm :=
  { bwvNew 3 30 true with
    state := ⟨.running, 10, true, ⟨fun _ _ => .absent, [], [⟨10, true, true⟩]⟩⟩
    startups := [100, 101, 102, 103] }

def startAt104 : StartAnswers :=
  ⟨104, true, 104, .noGenerator, ⟨true, .forked 11 false, true⟩,
    true, .other, true, ⟨true, true, true⟩⟩

theorem refused_start_startedFourTimes :
    (bdStartvm startAt104 (startedFourTimes.call fun _ _ => .notLaunched)).1 ≠ 0 ∧
      Untouched startedFourTimes.state
        (bdStartvm startAt104 (startedFourTimes.call fun _ _ => .notLaunched)).2.state := by
  refine (refused_start_iff startAt104 startedFourTimes (fun _ _ => .notLaunched) rfl).mpr fun _ =>
    ?_
  decide +kernel

/-- The fifth start brings the running machine down. -/
theorem refused_start_moves :
    ¬((bdStartvm startAt104 (startedFourTimes.call fun _ _ => .absent)).1 ≠ 0 ∧
      Untouched startedFourTimes.state
        (bdStartvm startAt104 (startedFourTimes.call fun _ _ => .absent)).2.state) := by
  intro h
  have hafter : (bdStartvm startAt104 (startedFourTimes.call fun _ _ => .absent)).2.state.state =
      .failed := by
    decide +kernel
  have hstate := h.2.state
  rw [hafter] at hstate
  exact absurd hstate (by decide)

def LaunchedBy (before after : ProcessStateVm) (p : Proc) : Prop :=
  after.os.procs = p :: before.os.procs

/-- The result 0 tells of a running machine whose process is watched; any other
result leaves no process of the call alive and unwatched. -/
structure Truthful (before after : ProcessStateVm) (result : Int) : Prop where
  success : result = 0 ↔
    after.state = .running ∧ ∃ p, LaunchedBy before after p ∧ p.watched = true
  failure : result ≠ 0 → ∀ p, LaunchedBy before after p → p.alive = true → p.watched = true

theorem truthful_of_no_launch {before after : ProcessStateVm} {result : Int} (hresult : result ≠ 0)
    (hprocs : after.os.procs = before.os.procs) : Truthful before after result := by
  have hnone : ∀ p, ¬LaunchedBy before after p := by
    intro p hp
    rw [LaunchedBy, hprocs] at hp
    exact List.cons_ne_self p before.os.procs hp.symm
  refine ⟨?_, fun _ p hp => absurd hp (hnone p)⟩
  simp [hresult, hnone]

theorem truthful_of_launch {before after : ProcessStateVm} {result : Int} {p : Proc}
    (hlaunched : LaunchedBy before after p) :
    Truthful before after result ↔
      (result = 0 ↔ after.state = .running ∧ p.watched = true) ∧
        (result ≠ 0 → p.alive = true → p.watched = true) := by
  have honly : ∀ q, LaunchedBy before after q ↔ q = p := by
    intro q
    rw [LaunchedBy, hlaunched]
    simp [eq_comm]
  constructor
  · intro h
    have hsuccess := h.success
    have hfailure := h.failure
    simp only [honly, exists_eq_left, forall_eq] at hsuccess hfailure
    exact ⟨hsuccess, hfailure⟩
  · intro h
    constructor
    · simp only [honly, exists_eq_left]
      exact h.1
    · simp only [honly, forall_eq]
      exact h.2

theorem truthful_of_failure {before after : ProcessStateVm} {result : Int} {forked : Option Proc}
    (hresult : result ≠ 0) (hprocs : after.os.procs = forked.toList ++ before.os.procs)
    (hunwatched : ∀ p ∈ forked, p.watched = false) :
    Truthful before after result ↔ ∀ p ∈ forked, p.alive = false := by
  cases forked with
  | none => exact iff_of_true (truthful_of_no_launch hresult hprocs) (by simp)
  | some p =>
    rw [truthful_of_launch hprocs]
    simp [hresult, hunwatched p rfl]

/-- The condition on the outcomes a start meets: nothing is launched, or all
goes well up to the registration of the exit event, or the process of a start
that fails is gone already. -/
def startTruthful (answers : StartAnswers) (bwv : BhyveWatchedVm) (hooks : Hooks) : Bool :=
  match bwv.forks answers hooks with
  | none => true
  | some p =>
    if startsUp answers.launch hooks bwv.state.state then
      answers.killOk &&
        match answers.waitpid with
        | .reports status => ended status
        | .other => answers.keventOk || !p.alive
    else !p.alive

theorem launched_truthful_iff (answers : StartAnswers) {before : ProcessStateVm}
    {bwv : BhyveWatchedVm} {pid : Nat} {alive : Bool}
    (hprocs : bwv.state.os.procs = ⟨pid, alive, false⟩ :: before.os.procs)
    (hrunning : bwv.state.state = .running) :
    Truthful before (bdStartLaunched pid answers bwv).2.state (bdStartLaunched pid answers bwv).1 ↔
      (answers.killOk &&
        match answers.waitpid with
        | .reports status => ended status
        | .other => answers.keventOk || !alive) = true := by
  have hresult := bdStartLaunched_result pid answers bwv
  generalize bdStartLaunched pid answers bwv = call at hresult
  cases hresult with
  | vanished hkill =>
    rw [truthful_of_launch ((psvOnexit_procs answers.exit 4 bwv.state).trans hprocs)]
    simp [hkill]
  | died hkill hwait hended =>
    rw [truthful_of_launch ((died_procs _ _ _).trans (ProcessStateVm.reaped_procs hprocs))]
    simp [hkill, hwait, hended, bdErrVmstartdiedim]
  | stopped hkill hwait hended =>
    rw [truthful_of_launch hprocs]
    simp [hkill, hwait, hended, hrunning]
  | unregistered hkill hwait hkevent =>
    have hlogged : (bwv.state.log (.kevent pid false)).os.procs = _ := hprocs
    rw [truthful_of_launch hlogged]
    simp [hkill, hwait, hkevent, bdErrKeventregfail]
  | registered hkill hwait hkevent =>
    have hstate : (bwv.state.registered pid).state = .running := hrunning
    rw [truthful_of_launch (ProcessStateVm.registered_procs hprocs)]
    simp [hkill, hwait, hkevent, hstate]

theorem start_truthful_iff (answers : StartAnswers) (bwv : BhyveWatchedVm) (hooks : Hooks) :
    Truthful bwv.state (bdStartvm answers (bwv.call hooks)).2.state
        (bdStartvm answers (bwv.call hooks)).1 ↔
      startTruthful answers bwv hooks = true := by
  have hresult := bdStartvm_result answers (bwv.call hooks)
  generalize bdStartvm answers (bwv.call hooks) = call at hresult
  unfold startTruthful BhyveWatchedVm.forks BhyveWatchedVm.admits
  cases hresult with
  | throttled hcount =>
    have htruthful : Truthful bwv.state ((bwv.call hooks).looked answers.now).failing.state
        bdErrVmstateisfail :=
      truthful_of_no_launch (by decide) (ProcessStateVm.quiet_walk _ _).procs
    rw [BhyveWatchedVm.call_countfails] at hcount
    apply iff_of_true htruthful
    simp [hcount]
  | failed hcount hfailed =>
    have htruthful : Truthful bwv.state ((bwv.call hooks).looked answers.now).state
        bdErrVmstateisfail :=
      truthful_of_no_launch (by decide) rfl
    have hcurrent : bwv.state.state = .failed := hfailed
    apply iff_of_true htruthful
    simp [hcurrent]
  | ungenerated hcount hfailed hgen =>
    have htruthful : Truthful bwv.state ((bwv.call hooks).admitted answers).failing.state
        bdErrVmconfgenfail :=
      truthful_of_no_launch (by decide) ((ProcessStateVm.quiet_walk _ _).procs.trans (by simp))
    apply iff_of_true htruthful
    simp [hgen]
  | @unlaunched result pid psv' hcount hfailed hgen hresult hstart =>
    simp only [BhyveWatchedVm.call_countfails, BhyveWatchedVm.call_state,
      ProcessStateVm.call_state] at hcount hfailed
    have hprocs := hstart.procs
    have hnot := hstart.not_startsUp hresult
    simp only [BhyveWatchedVm.admitted_hooks, BhyveWatchedVm.admitted_state_state,
      BhyveWatchedVm.admitted_procs, BhyveWatchedVm.call_state, ProcessStateVm.call_hooks,
      ProcessStateVm.call_state, ProcessStateVm.call_procs] at hprocs hnot
    rw [truthful_of_failure (bdStartError_ne_zero result) hprocs forkedBy_unwatched]
    cases hforked : forkedBy answers.launch hooks bwv.state.state with
    | none => simp
    | some p =>
      have hdown := hnot (by simp [hforked])
      simp [hcount, hfailed, hgen, hdown]
  | @up pid exited hcount hgen hup =>
    have hprocs := brought_procs ((bwv.call hooks).admitted answers).state pid exited
    have hrunning := brought_state hup
    have hforked := hup.forkedBy_eq
    have hstarts := hup.startsUp_eq
    have hfailed := startable_ne_failed hup.startable
    simp only [BhyveWatchedVm.admitted_hooks, BhyveWatchedVm.admitted_state_state,
      BhyveWatchedVm.admitted_procs, BhyveWatchedVm.call_state, ProcessStateVm.call_hooks,
      ProcessStateVm.call_state, ProcessStateVm.call_procs, BhyveWatchedVm.call_countfails] at *
    have hadmits : (!bwv.countfails answers.now && bwv.state.state != .failed &&
        bwvGenerateConfig answers.generator == 0) = true := by
      simp [hcount, hfailed, hgen]
    rw [hadmits, if_pos rfl, hforked]
    dsimp only
    rw [hstarts, if_pos rfl]
    exact launched_truthful_iff answers hprocs hrunning

/-- `kill` does not find the process: the result is 0, and the machine `failed`. -/
theorem start_not_truthful :
    ¬Truthful (bwvNew 3 30 true).state
      (bdStartvm { startAt104 with killOk := false }
        ((bwvNew 3 30 true).call fun _ _ => .absent)).2.state
      (bdStartvm { startAt104 with killOk := false }
        ((bwvNew 3 30 true).call fun _ _ => .absent)).1 := by
  intro h
  have hresult : (bdStartvm { startAt104 with killOk := false }
      ((bwvNew 3 30 true).call fun _ _ => .absent)).1 = 0 := by
    decide +kernel
  have hafter : (bdStartvm { startAt104 with killOk := false }
      ((bwvNew 3 30 true).call fun _ _ => .absent)).2.state.state = .failed := by
    decide +kernel
  have hrunning := (h.success.mp hresult).1
  rw [hafter] at hrunning
  exact absurd hrunning (by decide)

end Vmstated.Properties
