import Vmstated.Library.Monitor
import Vmstated.Libprocwatch.Operations

/-! When a function of process_state.c tears down what was never set up. -/
namespace Vmstated.Libprocwatch
open Library

/-- What the start hooks have set up and no stop hook was run for since. -/
structure Resources where
  storage : Bool
  network : Bool
deriving DecidableEq, Repr

/-- It objects to a stop hook that finds nothing set up. -/
def brackets : Monitor Resources Event where
  next r
    | .hook .startStorage outcome => { r with storage := r.storage || outcome.good }
    | .hook .startNetwork outcome => { r with network := r.network || outcome.good }
    | .hook .stopStorage _ => { r with storage := false }
    | .hook .stopNetwork _ => { r with network := false }
    | _ => r
  allows r
    | .hook .stopStorage _ => r.storage
    | .hook .stopNetwork _ => r.network
    | _ => true

/-- Hooks that set nothing up and tear nothing down. -/
def neutral : VmState → Bool
  | .startStorage | .startNetwork | .stopStorage | .stopNetwork => false
  | _ => true

def holds : VmState → Bool
  | .startStorage | .running | .stopping | .prestopBeforeRestart | .restarting | .restartStopped
  | .prestartAfterRestart | .startAfterRestart | .restarted => true
  | _ => false

/-- Storage is set up after the network and torn down before it. -/
def Sound (state : VmState) (r : Resources) : Prop :=
  r.storage = true → r.network = true ∧ holds state = true

def held (r : Resources) (psv : ProcessStateVm) : Resources := brackets.run r psv.os.trace

def bracketed (r : Resources) (psv : ProcessStateVm) : Bool := brackets.accepts r psv.os.trace

section
variable (r : Resources) (psv : ProcessStateVm)

theorem held_hooked (target : VmState) : held r (psv.hooked target) =
    brackets.next (held r psv) (.hook target (psv.os.hooks 0 target)) := by
  simp [held, ProcessStateVm.hooked, brackets]

theorem bracketed_hooked (target : VmState) : bracketed r (psv.hooked target) =
    (bracketed r psv && brackets.allows (held r psv) (.hook target (psv.os.hooks 0 target))) := by
  simp [bracketed, held, ProcessStateVm.hooked, brackets]

theorem held_entered (target : VmState) : held r (psv.entered target) =
    brackets.next (held r psv) (.hook target (psv.os.hooks 0 target)) := held_hooked r psv target

theorem bracketed_entered (target : VmState) : bracketed r (psv.entered target) =
    (bracketed r psv && brackets.allows (held r psv) (.hook target (psv.os.hooks 0 target))) :=
  bracketed_hooked r psv target

theorem hooked_neutral {target : VmState} (h : neutral target = true) :
    held r (psv.hooked target) = held r psv ∧ bracketed r (psv.hooked target) =
      bracketed r psv := by
  rw [held_hooked, bracketed_hooked]
  cases target <;> first | exact ⟨rfl, Bool.and_true _⟩ | contradiction

theorem walk_neutral {path : List VmState} (hpath : ∀ state ∈ path, neutral state = true) :
    held r (psv.walk path) = held r psv ∧ bracketed r (psv.walk path) = bracketed r psv := by
  induction path generalizing psv with
  | nil => exact ⟨rfl, rfl⟩
  | cons next path ih =>
    have hnext := hooked_neutral r psv (hpath next List.mem_cons_self)
    have hrest := ih (psv.entered next) fun state hstate =>
        hpath state (List.mem_cons_of_mem next hstate)
    rw [ProcessStateVm.walk]
    split
    · exact ⟨hrest.1.trans hnext.1, hrest.2.trans hnext.2⟩
    · exact hnext

theorem walk_teardown {rest : List VmState} (hrest : ∀ state ∈ rest, neutral state = true)
    (hnetwork : (held r psv).storage = true → (held r psv).network = true) :
    (held r (psv.walk (.stopStorage :: .stopNetwork :: rest))).storage = false ∧
      bracketed r (psv.walk (.stopStorage :: .stopNetwork :: rest)) =
        (bracketed r psv && (held r psv).storage) := by
  have hstorage := held_hooked r psv .stopStorage
  have hbracketed := bracketed_hooked r psv .stopStorage
  rw [ProcessStateVm.walk]
  split
  · have hentered : held r (psv.entered .stopStorage) = ⟨false, (held r psv).network⟩ := hstorage
    have hstop := held_hooked r (psv.entered .stopStorage) .stopNetwork
    have hallowed := bracketed_hooked r (psv.entered .stopStorage) .stopNetwork
    rw [hentered] at hstop hallowed
    have hcount : bracketed r ((psv.entered .stopStorage).hooked .stopNetwork) =
        (bracketed r psv && (held r psv).storage) := by
      rw [hallowed, bracketed_entered, Bool.and_assoc]
      congr 1
      change ((held r psv).storage && (held r psv).network) = (held r psv).storage
      cases hup : (held r psv).storage
      · rfl
      · exact hnetwork hup
    rw [ProcessStateVm.walk]
    split
    · obtain ⟨hheld, hkept⟩ :=
        walk_neutral r ((psv.entered .stopStorage).entered .stopNetwork) hrest
      rw [hheld, hkept, held_entered, hentered]
      exact ⟨rfl, hcount⟩
    · rw [hstop]
      exact ⟨rfl, hcount⟩
  · rw [hstorage]
    exact ⟨rfl, hbracketed⟩

theorem walk_failing (hnetwork : (held r psv).storage = true → (held r psv).network = true) :
    (held r (psv.walk failureSequence)).storage = false ∧
      bracketed r (psv.walk failureSequence) = (bracketed r psv && (held r psv).storage) :=
  walk_teardown r psv (by decide) hnetwork

theorem walk_failing_down (hdown : (held r psv).storage = false) :
    (held r (psv.walk failureSequence)).storage = false ∧
      bracketed r (psv.walk failureSequence) = false := by
  obtain ⟨hheld, hkept⟩ := walk_failing r psv (by simp [hdown])
  refine ⟨hheld, ?_⟩
  rw [hkept, hdown, Bool.and_false]

theorem hooked_failing {target : VmState} (htarget : neutral target = true) (hheld : held r psv = r)
    (hkept : bracketed r psv = true) (hnetwork : r.storage = true → r.network = true) :
    (held r ((psv.hooked target).walk failureSequence)).storage = false ∧
      bracketed r ((psv.hooked target).walk failureSequence) = r.storage := by
  obtain ⟨hhooked, hsame⟩ := hooked_neutral r psv htarget
  rw [hheld] at hhooked
  rw [hkept] at hsame
  obtain ⟨hdown, hfailing⟩ := walk_failing r (psv.hooked target) (by rw [hhooked]; exact hnetwork)
  refine ⟨hdown, ?_⟩
  rw [hfailing, hsame, hhooked, Bool.true_and]

theorem log_held (event : Event) (hevent : brackets.Ignores [event]) :
    held r (psv.log event) = held r psv ∧ bracketed r (psv.log event) = bracketed r psv := by
  unfold held bracketed ProcessStateVm.log
  rw [Os.log_trace, Monitor.run_append, Monitor.accepts_append,
    Monitor.run_of_ignores brackets hevent,
    Monitor.accepts_of_ignores brackets hevent, Bool.and_true]
  exact ⟨rfl, rfl⟩

theorem sound_of_down {state : VmState} {r : Resources} (hdown : r.storage = false) :
    Sound state r := by
  intro hup
  rw [hdown] at hup
  contradiction

end

/-! Starts. -/

def forks : LaunchOutcome → Bool
  | .forked .. => true
  | _ => false

/-- When a start is in order. `start_storage` must not fail once the network is
up, since its recovery tears down the storage too; and a failed restart must
not get through its recovery, since the start goes on and runs another. -/
def startBrackets (storage : Bool) (answers : LaunchAnswers) (hooks : Hooks) : VmState → Bool
  | .restartStopped =>
    if !(hooks 0 .prestartAfterRestart).good then storage && !hooksPass hooks 1 failureSequence
    else if !(hooks 1 .startAfterRestart).good then storage && !hooksPass hooks 2 failureSequence
    else
      storage || answers.lockOk && forks answers.launch && answers.unlockOk &&
        hooksPass hooks 2 [.restarted, .running]
  | .init | .stopped => !(hooks 0 .startNetwork).good || (hooks 1 .startStorage).good
  | _ => true

section
variable {r : Resources} {psv : ProcessStateVm}

theorem sound_fresh (hsound : Sound psv.state r)
    (hfresh : psv.state = .init ∨ psv.state = .stopped) :
    r.storage = false := by
  by_contra hup
  rw [Bool.not_eq_false] at hup
  have hholds := (hsound hup).2
  rcases hfresh with hs | hs <;> simp [hs, holds] at hholds

theorem startup_up (hheld : held r psv = r) (hkept : bracketed r psv = true)
    (hsound : Sound psv.state r) (hstart : psv.state.startable = true)
    (hpass : hooksPass psv.os.hooks 0 (startupPath psv.state) = true) :
    bracketed r psv.startup = true ∧
      ((held r psv.startup).storage = true → (held r psv.startup).network = true) ∧
      (held r psv.startup).storage = (r.storage || psv.state != .restartStopped) := by
  have hfresh (hpath : startupPath psv.state = [.startNetwork, .startStorage])
      (hne : psv.state ≠ .restartStopped) :
      bracketed r (psv.walk (startupPath psv.state)) = true ∧
        held r (psv.walk (startupPath psv.state)) = ⟨true, true⟩ := by
    rw [hpath] at hpass ⊢
    simp only [hooksPass, passes_cons, passes_nil, Bool.and_true, Bool.and_eq_true] at hpass
    have hwalk : psv.walk [.startNetwork, .startStorage] =
        (psv.entered .startNetwork).entered .startStorage := by
      simp [ProcessStateVm.walk, hpass]
    rw [hwalk]
    simp only [bracketed_entered, held_entered, hkept]
    simp [brackets, hpass]
  rw [startup_eq_walk hpass]
  rcases startable_cases hstart with hs | hs | hs
  · obtain ⟨hsame, hup⟩ := hfresh (by rw [hs]; rfl) (by simp [hs])
    rw [hup]
    exact ⟨hsame, fun _ => rfl, by simp [hs]⟩
  · obtain ⟨hsame, hup⟩ := hfresh (by rw [hs]; rfl) (by simp [hs])
    rw [hup]
    exact ⟨hsame, fun _ => rfl, by simp [hs]⟩
  · have hneutral : ∀ state ∈ startupPath psv.state, neutral state = true := by
      rw [hs]
      decide
    obtain ⟨hwalk, hsame⟩ := walk_neutral r psv hneutral
    rw [hwalk, hsame, hheld]
    exact ⟨hkept, fun hup => (hsound hup).1, by simp [hs]⟩

/-- After a start-up that fails nothing is up, and the start ends there unless
it recovers. -/
def StartupFails (r : Resources) (psv : ProcessStateVm) (answers : LaunchAnswers) : Prop :=
  (held r psv.startup).storage = false ∧
    (bracketed r psv.startup = startBrackets r.storage answers psv.os.hooks psv.state ∨
      startupRecovers psv.os.hooks psv.state = true)

/-- A start that goes on from `failed` is not in order. -/
theorem startBrackets_of_recovers {storage : Bool} {answers : LaunchAnswers} {hooks : Hooks}
    {state : VmState} (hstart : state.startable = true)
    (hrecovers : startupRecovers hooks state = true) :
    startBrackets storage answers hooks state = false := by
  rcases startable_cases hstart with hs | hs | hs
  · simp_all [startupRecovers, startBrackets]
  · simp_all [startupRecovers, startBrackets]
  · by_cases hfirst : (hooks 0 .prestartAfterRestart).good = true
    · simp_all [startupRecovers, startBrackets]
    · simp_all [startupRecovers, startBrackets]

theorem startBrackets_of_pass {storage : Bool} {answers : LaunchAnswers} {hooks : Hooks}
    {state : VmState} (hstart : state.startable = true)
    (hpass : hooksPass hooks 0 (startupPath state) = true) :
    startBrackets storage answers hooks state =
      ((storage || state != .restartStopped) || answers.lockOk && forks answers.launch &&
        answers.unlockOk && hooksPass hooks 2 (upPath state)) := by
  rcases startable_cases hstart with hs | hs | hs <;>
    simp_all [startBrackets, startupPath, upPath]

theorem prestart_fails (answers : LaunchAnswers) (hheld : held r psv = r)
    (hkept : bracketed r psv = true) (hsound : Sound psv.state r) (hs : psv.state = .restartStopped)
    (hfirst : ¬(psv.os.hooks 0 .prestartAfterRestart).good = true) :
    StartupFails r psv answers := by
  have hfailing :=
    hooked_failing r psv (show neutral .prestartAfterRestart = true from rfl) hheld hkept
      fun hup => (hsound hup).1
  have hhooks : hooksPass (psv.hooked .prestartAfterRestart).os.hooks 0 failureSequence =
      hooksPass psv.os.hooks 1 failureSequence := by
    rw [ProcessStateVm.hooked_hooks, hooksPass, passes_drop]
  rw [ProcessStateVm.hooked_hooks] at hhooks
  unfold StartupFails
  cases hrecovers : hooksPass psv.os.hooks 1 failureSequence
  · have hstartup : psv.startup = (psv.hooked .prestartAfterRestart).walk failureSequence := by
      rw [hrecovers] at hhooks
      simp [ProcessStateVm.startup, hs, hfirst, hhooks]
    rw [hstartup, hfailing.2]
    exact ⟨hfailing.1, .inl (by simp [startBrackets, hs, hfirst, hrecovers])⟩
  · have hstartup : psv.startup = (((psv.hooked .prestartAfterRestart).walk failureSequence).missed
        .startAfterRestart).walk failureSequence := by
      rw [hrecovers] at hhooks
      simp [ProcessStateVm.startup, hs, hfirst, hhooks]
    have hmissed := log_held r ((psv.hooked .prestartAfterRestart).walk failureSequence)
      (.request ((psv.hooked .prestartAfterRestart).walk failureSequence).state
        .startAfterRestart false)
      (by simp [Monitor.Ignores, brackets])
    have hagain := walk_failing_down r _ ((congrArg Resources.storage hmissed.1).trans hfailing.1)
    rw [hstartup]
    refine ⟨hagain.1, .inl ?_⟩
    rw [ProcessStateVm.missed, hagain.2]
    simp [startBrackets, hs, hfirst, hrecovers]

theorem startAfter_fails (answers : LaunchAnswers) (hheld : held r psv = r)
    (hkept : bracketed r psv = true) (hsound : Sound psv.state r) (hs : psv.state = .restartStopped)
    (hfirst : (psv.os.hooks 0 .prestartAfterRestart).good = true)
    (hsecond : ¬(psv.os.hooks 1 .startAfterRestart).good = true) : StartupFails r psv answers := by
  have hstartup : psv.startup =
      ((psv.entered .prestartAfterRestart).hooked .startAfterRestart).walk failureSequence := by
    simp [ProcessStateVm.startup, hs, hfirst, hsecond]
  obtain ⟨hentered, hsame⟩ :=
    hooked_neutral r psv (show neutral .prestartAfterRestart = true from rfl)
  have hfailing := hooked_failing r (psv.entered .prestartAfterRestart)
    (show neutral .startAfterRestart = true from rfl) (hentered.trans hheld) (hsame.trans hkept)
    fun hup => (hsound hup).1
  unfold StartupFails
  rw [hstartup, hfailing.2]
  refine ⟨hfailing.1, ?_⟩
  cases hrecovers : hooksPass psv.os.hooks 2 failureSequence
  · simp [startBrackets, hs, hfirst, hsecond, hrecovers]
  · simp [startupRecovers, hs, hfirst, hsecond, hrecovers]

theorem fresh_fails (answers : LaunchAnswers) (hheld : held r psv = r)
    (hkept : bracketed r psv = true)
    (hsound : Sound psv.state r) (hfresh : psv.state = .init ∨ psv.state = .stopped)
    (hpass : hooksPass psv.os.hooks 0 (startupPath psv.state) = false) :
    StartupFails r psv answers := by
  have hdown := sound_fresh hsound hfresh
  have hbrackets : startBrackets r.storage answers psv.os.hooks psv.state =
      (!(psv.os.hooks 0 .startNetwork).good || (psv.os.hooks 1 .startStorage).good) := by
    rcases hfresh with h | h <;> rw [h] <;> rfl
  unfold StartupFails
  rw [hbrackets]
  by_cases hnetwork : (psv.os.hooks 0 .startNetwork).good = true
  · have hstorage : (psv.os.hooks 1 .startStorage).good = false := by
      rcases hfresh with h | h <;> simpa [h, startupPath, hnetwork] using hpass
    have hstartup : psv.startup =
        ((psv.entered .startNetwork).hooked .startStorage).walk failureSequence := by
      rcases hfresh with h | h <;> simp [ProcessStateVm.startup, h, hnetwork, hstorage]
    have hup : (held r ((psv.entered .startNetwork).hooked .startStorage)).storage = false := by
      rw [held_hooked, held_entered, hheld]
      simp [brackets, hdown, hstorage]
    have hfailing := walk_failing_down r _ hup
    rw [hstartup, hfailing.2]
    exact ⟨hfailing.1, .inl (by simp [hnetwork, hstorage])⟩
  · have hhooked : (held r (psv.hooked .startNetwork)).storage = false ∧
        bracketed r (psv.hooked .startNetwork) = true := by
      rw [held_hooked, bracketed_hooked, hheld, hkept]
      exact ⟨hdown, rfl⟩
    have hstartup : psv.startup = psv.hooked .startNetwork ∨
        psv.startup = (psv.hooked .startNetwork).log (.request psv.state .stopNetwork false) := by
      rcases hfresh with h | h
      · exact .inl (by simp [ProcessStateVm.startup, h, hnetwork])
      · exact .inr (by simp [ProcessStateVm.startup, h, hnetwork, ProcessStateVm.missed])
    rcases hstartup with h | h
    · rw [h, hhooked.2]
      exact ⟨hhooked.1, .inl (by simp [hnetwork])⟩
    · have hmissed := log_held r (psv.hooked .startNetwork) (.request psv.state .stopNetwork false)
        (by simp [Monitor.Ignores, brackets])
      rw [h, hmissed.1, hmissed.2, hhooked.2]
      exact ⟨hhooked.1, .inl (by simp [hnetwork])⟩

theorem startup_down (answers : LaunchAnswers) (hheld : held r psv = r)
    (hkept : bracketed r psv = true)
    (hsound : Sound psv.state r) (hstart : psv.state.startable = true)
    (hpass : hooksPass psv.os.hooks 0 (startupPath psv.state) = false) :
    StartupFails r psv answers := by
  rcases startable_cases hstart with hs | hs | hs
  · exact fresh_fails answers hheld hkept hsound (.inl hs) hpass
  · exact fresh_fails answers hheld hkept hsound (.inr hs) hpass
  · by_cases hfirst : (psv.os.hooks 0 .prestartAfterRestart).good = true
    · have hsecond : ¬(psv.os.hooks 1 .startAfterRestart).good = true := by
        simpa [hs, startupPath, hfirst] using hpass
      exact startAfter_fails answers hheld hkept hsound hs hfirst hsecond
    · exact prestart_fails answers hheld hkept hsound hs hfirst

theorem launched_held (r : Resources) (psv : ProcessStateVm) (pid : Nat) (exited : Bool) :
    held r (psv.launched pid exited) = held r psv ∧
      bracketed r (psv.launched pid exited) = bracketed r psv :=
  log_held r psv (.launch psv.state (some pid)) (by simp [Monitor.Ignores, brackets])

theorem upPath_neutral (state : VmState) : ∀ next ∈ upPath state, neutral next = true := by
  cases state <;> decide

theorem started_brackets (answers : LaunchAnswers) (hheld : held r psv = r)
    (hkept : bracketed r psv = true) (hsound : Sound psv.state r)
    (hstart : psv.state.startable = true)
    (hpass : hooksPass psv.os.hooks 0 (startupPath psv.state) = true) :
    bracketed r (psvStartvm answers psv).2 =
      startBrackets r.storage answers psv.os.hooks psv.state ∧
      Sound (psvStartvm answers psv).2.state (held r (psvStartvm answers psv).2) := by
  obtain ⟨hup, hnetwork, hstorage⟩ := startup_up hheld hkept hsound hstart hpass
  have hlaunched := launched_held r psv.startup
  have hfails {raised : ProcessStateVm} (hsame : held r raised = held r psv.startup)
      (hkept : bracketed r raised = bracketed r psv.startup)
      (hnot : (answers.lockOk && forks answers.launch && answers.unlockOk &&
        hooksPass psv.os.hooks 2 (upPath psv.state)) = false) :
      bracketed r (raised.walk failureSequence) =
        startBrackets r.storage answers psv.os.hooks psv.state ∧
        Sound (raised.walk failureSequence).state (held r (raised.walk failureSequence)) := by
    obtain ⟨hdown, hfailing⟩ := walk_failing r raised (by rw [hsame]; exact hnetwork)
    refine ⟨?_, sound_of_down hdown⟩
    rw [hfailing, hkept, hsame, hup, hstorage, startBrackets_of_pass hstart hpass, hnot]
    simp
  have hresult := psvStartvm_result answers psv
  generalize psvStartvm answers psv = call at hresult
  obtain ⟨result, psv'⟩ := call
  dsimp only at hresult ⊢
  cases hresult with
  | refused hrefused => simp [hstart] at hrefused
  | stuck _ hstuck => simp [hpass] at hstuck
  | lockFails _ hlock => exact hfails rfl rfl (by simp [hlock])
  | notForked _ _ _ hlaunch =>
    have hnone : forks answers.launch = false := by
      cases houtcome : answers.launch with
      | forked pid exited => exact absurd houtcome (hlaunch pid exited)
      | _ => rfl
    have hlogged := log_held r psv.startup (.launch psv.startup.state none)
      (by simp [Monitor.Ignores, brackets])
    exact hfails hlogged.1 hlogged.2 (by simp [hnone])
  | @unlockFails pid exited _ _ _ _ hunlock =>
    exact hfails (hlaunched pid exited).1 (hlaunched pid exited).2 (by simp [hunlock])
  | @up pid exited _ _ hlock hlaunch hunlock hready =>
    obtain ⟨hwalk, hsame⟩ :=
      walk_neutral r (psv.startup.launched pid exited) (upPath_neutral psv.state)
    have hrunning := brought_state ⟨hstart, hpass, hlock, hlaunch, hunlock, hready⟩
    rw [ProcessStateVm.brought] at hrunning
    rw [hwalk, hsame, (hlaunched pid exited).1, (hlaunched pid exited).2, hrunning, hup,
      startBrackets_of_pass hstart hpass]
    refine ⟨?_, fun hstored => ⟨hnetwork hstored, rfl⟩⟩
    simp [hlock, hlaunch, hunlock, hready, forks]
  | @upFails pid exited _ _ _ _ _ hunready =>
    obtain ⟨hwalk, hsame⟩ :=
      walk_neutral r (psv.startup.launched pid exited) (upPath_neutral psv.state)
    exact hfails (hwalk.trans (hlaunched pid exited).1) (hsame.trans (hlaunched pid exited).2)
      (by simp [hunready])
  | missed _ hrecovers =>
    rw [not_recovers_of_pass hpass] at hrecovers
    contradiction

/-- A start-up fails and recovers: what follows runs the failure sequence
again. -/
theorem recovered_brackets (answers : LaunchAnswers) (hstart : psv.state.startable = true)
    (hpass : hooksPass psv.os.hooks 0 (startupPath psv.state) = false)
    (hrecovers : startupRecovers psv.os.hooks psv.state = true)
    (hdown : (held r psv.startup).storage = false) :
    bracketed r (psvStartvm answers psv).2 = false ∧
      (held r (psvStartvm answers psv).2).storage = false := by
  have hlaunched := launched_held r psv.startup
  have hagain {raised : ProcessStateVm} (hsame : held r raised = held r psv.startup) :
      bracketed r (raised.walk failureSequence) = false ∧
        (held r (raised.walk failureSequence)).storage = false := by
    rw [← hsame] at hdown
    exact (walk_failing_down r raised hdown).symm
  have hresult := psvStartvm_result answers psv
  generalize psvStartvm answers psv = call at hresult
  obtain ⟨result, psv'⟩ := call
  dsimp only at hresult ⊢
  cases hresult with
  | refused hrefused => simp [hstart] at hrefused
  | stuck _ _ hstuck => simp [hrecovers] at hstuck
  | lockFails => exact hagain rfl
  | notForked => exact hagain (log_held r psv.startup _ (by simp [Monitor.Ignores, brackets])).1
  | @unlockFails pid exited => exact hagain (hlaunched pid exited).1
  | up _ hpassed => simp [hpass] at hpassed
  | upFails _ hpassed => simp [hpass] at hpassed
  | @missed pid exited target =>
    have hmissed := log_held r (psv.startup.launched pid exited)
      (.request (psv.startup.launched pid exited).state target false)
        (by simp [Monitor.Ignores, brackets])
    exact hagain (hmissed.1.trans (hlaunched pid exited).1)

theorem psvStartvm_brackets (answers : LaunchAnswers) (hheld : held r psv = r)
    (hkept : bracketed r psv = true) (hsound : Sound psv.state r) :
    bracketed r (psvStartvm answers psv).2 =
      startBrackets r.storage answers psv.os.hooks psv.state ∧
      Sound (psvStartvm answers psv).2.state (held r (psvStartvm answers psv).2) := by
  by_cases hstart : psv.state.startable = true
  · by_cases hpass : hooksPass psv.os.hooks 0 (startupPath psv.state) = true
    · exact started_brackets answers hheld hkept hsound hstart hpass
    · rw [Bool.not_eq_true] at hpass
      obtain ⟨hdown, hends⟩ := startup_down answers hheld hkept hsound hstart hpass
      by_cases hrecovers : startupRecovers psv.os.hooks psv.state = true
      · have hagain := recovered_brackets answers hstart hpass hrecovers hdown
        rw [hagain.1, startBrackets_of_recovers hstart hrecovers]
        exact ⟨rfl, sound_of_down hagain.2⟩
      · rw [psvStartvm_eq]
        simp only [hstart, hpass, hrecovers, Bool.not_true, Bool.false_eq_true,
          ↓reduceIte, Bool.or_self]
        exact ⟨hends.resolve_right hrecovers, sound_of_down hdown⟩
  · rw [Bool.not_eq_true] at hstart
    rw [psvStartvm_of_refused hstart]
    refine ⟨?_, by rw [hheld]; exact hsound⟩
    rw [hkept]
    cases hs : psv.state <;> first | rfl | simp [hs, VmState.startable] at hstart

end

/-! Exits. -/

def tearsDown (state : VmState) (exitcode : Nat) : Bool :=
  (exitPath state exitcode).head? == some .stopStorage

/-- When an exit is in order: a teardown finds the storage up, and no exit code
from 3 on tears down a second time. -/
def exitBrackets (storage rmo : Bool) (answers : ExitAnswers) (exitcode : Nat) (hooks : Hooks)
    (state : VmState) : Bool :=
  (storage || !tearsDown state exitcode) &&
    (!hooksPass hooks 0 (exitPath state exitcode) ||
      if exitReboots state exitcode then storage || !rmo || answers.rebootAccepted
      else exitcode < 3 || storage && !tearsDown state exitcode)

theorem exitPath_cases (state : VmState) (exitcode : Nat) :
    exitPath state exitcode = [.stopStorage, .stopNetwork, .stopped] ∧
      tearsDown state exitcode = true ∨
      (∀ next ∈ exitPath state exitcode, neutral next = true ∧ holds next = true) ∧
        tearsDown state exitcode = false := by
  unfold tearsDown exitPath
  split <;> first | exact .inl ⟨rfl, rfl⟩ | exact .inr ⟨by decide, rfl⟩

theorem sound_walk {r : Resources} {psv : ProcessStateVm} {path : List VmState}
    (hsound : Sound psv.state r) (hpath : ∀ next ∈ path, holds next = true) :
    Sound (psv.walk path).state r := by
  intro hup
  refine ⟨(hsound hup).1, ?_⟩
  rw [psv.walk_state]
  rcases List.mem_cons.mp (arrival_mem HookOutcome.good psv.os.hooks 0 psv.state path) with h | h
  · rw [hookArrival, h]
    exact (hsound hup).2
  · exact hpath _ h

section
variable {r : Resources} {psv : ProcessStateVm}

theorem exitMoved_brackets (exitcode : Nat) (hheld : held r psv = r)
    (hkept : bracketed r psv = true) (hsound : Sound psv.state r) :
    (held r (psv.exitMoved exitcode)).storage = (r.storage && !tearsDown psv.state exitcode) ∧
      bracketed r (psv.exitMoved exitcode) = (r.storage || !tearsDown psv.state exitcode) ∧
      Sound (psv.exitMoved exitcode).state (held r (psv.exitMoved exitcode)) := by
  have hlogged := log_held r psv (.onexit exitcode) (by simp [Monitor.Ignores, brackets])
  rw [hheld] at hlogged
  unfold ProcessStateVm.exitMoved
  rcases exitPath_cases psv.state exitcode with ⟨hpath, htears⟩ | ⟨hpath, htears⟩
  · obtain ⟨hdown, hsame⟩ := walk_teardown r (psv.log (.onexit exitcode))
      (show ∀ state ∈ [VmState.stopped], neutral state = true by decide)
      (by rw [hlogged.1]; exact fun hup => (hsound hup).1)
    rw [hpath, htears, hdown, hsame, hlogged.1, hlogged.2, hkept]
    exact ⟨by simp, by simp, sound_of_down hdown⟩
  · obtain ⟨hwalk, hsame⟩ :=
      walk_neutral r (psv.log (.onexit exitcode)) fun next hnext => (hpath next hnext).1
    rw [htears, hwalk, hsame, hlogged.1, hlogged.2, hkept]
    refine ⟨by simp, by simp, ?_⟩
    exact sound_walk hsound fun next hnext => (hpath next hnext).2

theorem psvOnexit_brackets (answers : ExitAnswers) (exitcode : Nat) (hheld : held r psv = r)
    (hkept : bracketed r psv = true) (hsound : Sound psv.state r) :
    bracketed r (psvOnexit answers exitcode psv).2 =
        exitBrackets r.storage psv.rmo answers exitcode psv.os.hooks psv.state ∧
      Sound (psvOnexit answers exitcode psv).2.state
        (held r (psvOnexit answers exitcode psv).2) := by
  obtain ⟨hstorage, hmoved, hsettled⟩ := exitMoved_brackets exitcode hheld hkept hsound
  have hlogged (accepted : Bool) := log_held r (psv.exitMoved exitcode) (.requestReboot accepted)
    (by simp [Monitor.Ignores, brackets])
  have hfails {raised : ProcessStateVm} (hsame : held r raised = held r (psv.exitMoved exitcode))
      (hkept : bracketed r raised = bracketed r (psv.exitMoved exitcode)) :
      bracketed r (raised.walk failureSequence) = (r.storage && !tearsDown psv.state exitcode) ∧
        (held r (raised.walk failureSequence)).storage = false := by
    obtain ⟨hdown, hfailing⟩ :=
      walk_failing r raised (by rw [hsame]; exact fun hup => (hsettled hup).1)
    refine ⟨?_, hdown⟩
    rw [hfailing, hkept, hsame, hmoved, hstorage]
    cases r.storage <;> cases tearsDown psv.state exitcode <;> rfl
  have hreboots (h : exitReboots psv.state exitcode = true) :
      tearsDown psv.state exitcode = false := by
    simp only [exitReboots, Bool.and_eq_true, Bool.or_eq_true, beq_iff_eq] at h
    obtain ⟨rfl, hs | hs⟩ := h <;> rw [hs] <;> rfl
  have hresult := psvOnexit_result answers exitcode psv
  generalize psvOnexit answers exitcode psv = call at hresult
  unfold exitBrackets
  cases hresult with
  | stuck hpass =>
    rw [hpass]
    exact ⟨by simp [hmoved], hsettled⟩
  | unmanaged hpass hyes hrmo => exact ⟨by simp [hmoved, hyes, hrmo], hsettled⟩
  | accepted hpass hyes hrmo haccepted =>
    dsimp only
    rw [(hlogged true).1, (hlogged true).2]
    exact ⟨by simp [hmoved, hyes, haccepted], hsettled⟩
  | rejected hpass hyes hrmo haccepted =>
    obtain ⟨hkeep, hdown⟩ := hfails (hlogged false).1 (hlogged false).2
    refine ⟨?_, sound_of_down hdown⟩
    dsimp only
    rw [hkeep]
    simp [hpass, hyes, hrmo, haccepted, hreboots hyes]
  | @failed result processid hpass hcode hresult =>
    obtain ⟨hkeep, hdown⟩ := @hfails (psv.exitMoved exitcode) rfl rfl
    refine ⟨?_, sound_of_down hdown⟩
    have hno : exitReboots psv.state exitcode = false := exitReboots_of_ne (by omega) psv.state
    have hsame :
        bracketed r { (psv.exitMoved exitcode).walk failureSequence with processid := processid } =
        bracketed r ((psv.exitMoved exitcode).walk failureSequence) := rfl
    dsimp only
    rw [hsame, hkeep, hpass, hno]
    have hsmall : ¬exitcode < 3 := by omega
    cases r.storage <;> simp [hsmall]
  | settled hpass hno hcode =>
    exact ⟨by simp [hmoved, hno, hcode], hsettled⟩

end

/-! Stop requests. -/

def unkilled (answers : StopAnswers) (processid : Nat) : Bool :=
  answers.lockOk && processid != 0 && !answers.killOk

/-- When a stop request is in order: the storage is up for the teardown that
follows a failed hook or a failed signal, and they do not both tear it down. -/
def stopBrackets (storage reboot : Bool) (answers : StopAnswers) (processid : Nat) (hooks : Hooks)
    (state : VmState) : Bool :=
  if state ≠ .running then true
  else if (hooks 0 (if reboot then .prestopBeforeRestart else .stopping)).good then
    storage || !unkilled answers processid
  else storage && !(hooksPass hooks 1 failureSequence && unkilled answers processid)

section
variable {r : Resources} {psv : ProcessStateVm}

theorem psvSignal_brackets (answers : StopAnswers) (hsound : Sound psv.state (held r psv)) :
    bracketed r (psvSignal false answers psv).2 =
        (bracketed r psv && ((held r psv).storage || !unkilled answers psv.processid)) ∧
      Sound (psvSignal false answers psv).2.state (held r (psvSignal false answers psv).2) := by
  have hlogged :=
    log_held r psv (.kill psv.processid answers.killOk) (by simp [Monitor.Ignores, brackets])
  rw [psvSignal_eq]
  by_cases hpid : (if answers.lockOk then psv.processid else 0) = 0
  · have hkilled : unkilled answers psv.processid = false := by
      unfold unkilled
      cases hlock : answers.lockOk
      · rfl
      · simp_all
    rw [if_pos hpid, hkilled]
    exact ⟨by simp, hsound⟩
  · rw [if_neg hpid]
    cases hkill : answers.killOk
    · have hunkilled : unkilled answers psv.processid = true := by
        unfold unkilled
        cases hlock : answers.lockOk <;> simp_all
      rw [hkill] at hlogged
      obtain ⟨hdown, hfailing⟩ := walk_failing r (psv.log (.kill psv.processid false))
        (by rw [hlogged.1]; exact fun hup => (hsound hup).1)
      refine ⟨?_, sound_of_down hdown⟩
      dsimp only
      rw [if_neg Bool.false_ne_true, hfailing, hlogged.1, hlogged.2,
        hunkilled, Bool.not_true, Bool.or_false]
    · have hkilled : unkilled answers psv.processid = false := by simp [unkilled, hkill]
      rw [hkill] at hlogged
      dsimp only
      rw [if_pos rfl, hlogged.1, hlogged.2, hkilled]
      exact ⟨by simp, hsound⟩

theorem psvStopOrReboot_brackets (reboot : Bool) (answers : StopAnswers) (hheld : held r psv = r)
    (hkept : bracketed r psv = true) (hsound : Sound psv.state r) :
    bracketed r (psvStopOrReboot reboot false answers psv).2 =
        stopBrackets r.storage reboot answers psv.processid psv.os.hooks psv.state ∧
      Sound (psvStopOrReboot reboot false answers psv).2.state
        (held r (psvStopOrReboot reboot false answers psv).2) := by
  unfold stopBrackets
  by_cases hs : psv.state = .running
  · have htarget : neutral (if reboot then .prestopBeforeRestart else .stopping) = true ∧
        holds (if reboot then .prestopBeforeRestart else .stopping) = true := by
      cases reboot <;> exact ⟨rfl, rfl⟩
    have hcall := psvStopOrReboot_of_running reboot false answers hs
    dsimp only at hcall
    rw [hcall, if_neg (not_not.mpr hs)]
    generalize (if reboot then VmState.prestopBeforeRestart else VmState.stopping) = target
      at htarget ⊢
    by_cases hgood : (psv.os.hooks 0 target).good = true
    · obtain ⟨hentered, hsame⟩ := hooked_neutral r psv htarget.1
      have hsound' : Sound (psv.entered target).state (held r (psv.entered target)) := by
        rw [show held r (psv.entered target) = r from hentered.trans hheld]
        exact fun hup => ⟨(hsound hup).1, htarget.2⟩
      obtain ⟨hsignal, hleft⟩ := psvSignal_brackets answers hsound'
      rw [if_pos hgood, if_pos hgood, hsignal]
      refine ⟨?_, hleft⟩
      rw [show bracketed r (psv.entered target) = true from hsame.trans hkept,
        show held r (psv.entered target) = r from hentered.trans hheld, Bool.true_and]
      rfl
    · obtain ⟨hdown, hfailing⟩ :=
        hooked_failing r psv htarget.1 hheld hkept fun hup => (hsound hup).1
      have hnothing : Sound ((psv.hooked target).walk failureSequence).state _ :=
        sound_of_down hdown
      rw [if_neg hgood, if_neg hgood]
      by_cases hpass : hooksPass psv.os.hooks 1 failureSequence = true
      · obtain ⟨hsignal, hleft⟩ := psvSignal_brackets answers hnothing
        have hpid : ((psv.hooked target).walk failureSequence).processid = psv.processid :=
          (ProcessStateVm.quiet_walk _ _).processid
        rw [if_pos hpass, hsignal, hfailing, hdown, hpid, hpass]
        exact ⟨by simp, hleft⟩
      · rw [Bool.not_eq_true] at hpass
        rw [hpass, if_neg Bool.false_ne_true]
        dsimp only
        rw [hfailing]
        exact ⟨by simp, sound_of_down hdown⟩
  · rw [psvStopOrReboot_of_not_running reboot false answers hs, if_pos hs]
    dsimp only
    rw [hheld]
    exact ⟨hkept, hsound⟩

/-- When an operation is in order. -/
def opBrackets (storage : Bool) (psv : ProcessStateVm) (input : PsvCall) : Bool :=
  match input.op with
  | .startvm answers => startBrackets storage answers input.hooks psv.state
  | .stopOrReboot reboot answers =>
    stopBrackets storage reboot answers psv.processid input.hooks psv.state
  | .onexit exitcode answers => exitBrackets storage psv.rmo answers exitcode input.hooks psv.state
  | .failurestate => storage
  | .resetfailure => true

theorem op_brackets (op : PsvOp) (hooks : Hooks) (hsound : Sound psv.state r) :
    bracketed r (op.run (psv.call hooks)).2 = opBrackets r.storage psv ⟨hooks, op⟩ ∧
      Sound (op.run (psv.call hooks)).2.state (held r (op.run (psv.call hooks)).2) := by
  have hheld : held r (psv.call hooks) = r := rfl
  have hkept : bracketed r (psv.call hooks) = true := rfl
  cases op with
  | startvm answers => exact psvStartvm_brackets answers hheld hkept hsound
  | stopOrReboot reboot answers => exact psvStopOrReboot_brackets reboot answers hheld hkept hsound
  | onexit exitcode answers => exact psvOnexit_brackets answers exitcode hheld hkept hsound
  | failurestate =>
    obtain ⟨hdown, hfailing⟩ := walk_failing r (psv.call hooks) fun hup => (hsound hup).1
    have hcall : (PsvOp.failurestate.run (psv.call hooks)).2 =
        (psv.call hooks).walk failureSequence := by
      rw [PsvOp.run, psvFailurestate_eq]
    rw [hcall, hfailing]
    exact ⟨rfl, sound_of_down hdown⟩
  | resetfailure =>
    by_cases hs : (psv.call hooks).state = .failed
    · have hdown : r.storage = false := by
        by_contra hup
        rw [Bool.not_eq_false] at hup
        have hholds := (hsound hup).2
        rw [show psv.state = .failed from hs] at hholds
        contradiction
      rw [PsvOp.run, psvResetfailure_of_failed hs]
      exact ⟨rfl, sound_of_down hdown⟩
    · rw [PsvOp.run, psvResetfailure_of_not_failed hs]
      exact ⟨rfl, hsound⟩

end

end Vmstated.Libprocwatch
