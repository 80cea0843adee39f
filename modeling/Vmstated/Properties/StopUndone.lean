import Vmstated.Libprocwatch.RebootRequests

/-! How long a stop holds. -/
namespace Vmstated.Properties
open Library Libprocwatch

/-- An exit that is handled in these states asks for no reboot. -/
def dormant : VmState → Bool
  | .running | .prestopBeforeRestart => false
  | _ => true

theorem dormant_walk {psv : ProcessStateVm} {path : List VmState}
    (hdormant : dormant psv.state = true)
    (hpath : ∀ state ∈ path, dormant state = true) : dormant (psv.walk path).state = true := by
  rw [psv.walk_state]
  rcases List.mem_cons.mp (arrival_mem HookOutcome.good psv.os.hooks 0 psv.state path) with h | h
  · rw [hookArrival, h]
    exact hdormant
  · exact hpath _ h

theorem dormant_failureSequence : ∀ state ∈ failureSequence, dormant state = true := by decide

theorem dormant_exitPath {state : VmState} (hdormant : dormant state = true) (exitcode : Nat) :
    ∀ next ∈ exitPath state exitcode, dormant next = true := by
  cases state <;> first | contradiction | simp [exitPath, dormant]

theorem dormant_not_reboots {state : VmState} (hdormant : dormant state = true) (exitcode : Nat) :
    exitReboots state exitcode = false := by
  cases state <;> first | contradiction | simp [exitReboots]

theorem psvOnexit_dormant (answers : ExitAnswers) (exitcode : Nat) {psv : ProcessStateVm}
    (hdormant : dormant psv.state = true) :
    dormant (psvOnexit answers exitcode psv).2.state = true := by
  have hlogged : dormant (psv.log (.onexit exitcode)).state = true := hdormant
  have hmoved : dormant (psv.exitMoved exitcode).state = true :=
    dormant_walk hlogged (dormant_exitPath hdormant exitcode)
  rcases psvOnexit_state answers (dormant_not_reboots hdormant exitcode) with hstate | ⟨_, hstate⟩
  · rw [hstate]
    exact hmoved
  · rw [hstate]
    exact dormant_walk hmoved dormant_failureSequence

theorem bdStopvm_dormant {answers : StopAnswers} {bwv : BhyveWatchedVm}
    (hzero : (bdStopvm answers bwv).1 = 0) :
    dormant (bdStopvm answers bwv).2.state.state = true := by
  have hstop : bdStopvm answers bwv = ((psvStopOrReboot false false answers bwv.state).1,
      { bwv with state := (psvStopOrReboot false false answers bwv.state).2 }) := rfl
  rw [hstop] at hzero ⊢
  dsimp only at hzero ⊢
  have hsignal {psv : ProcessStateVm} (hdormant : dormant psv.state = true) :
      dormant (psvSignal false answers psv).2.state = true := by
    rcases psvSignal_cases answers psv with h | h | h
    · rw [h]
      exact hdormant
    · rw [h]
      exact hdormant
    · rw [h]
      exact dormant_walk hdormant dormant_failureSequence
  by_cases hs : bwv.state.state = .running
  · rw [psvStopOrReboot_of_running false false answers hs] at hzero ⊢
    dsimp only at hzero ⊢
    by_cases hgood : (bwv.state.os.hooks 0 .stopping).good = true
    · rw [if_neg Bool.false_ne_true, if_pos hgood]
      exact hsignal rfl
    · rw [if_neg Bool.false_ne_true, if_neg hgood] at hzero ⊢
      by_cases hpass : hooksPass bwv.state.os.hooks 1 failureSequence = true
      · have hfailed : ((bwv.state.hooked .stopping).walk failureSequence).state = .failed := by
          apply walk_state_of_pass
          rw [ProcessStateVm.hooked_hooks, hooksPass, passes_drop]
          exact hpass
        rw [if_pos hpass]
        apply hsignal
        rw [hfailed]
        rfl
      · rw [if_neg hpass] at hzero
        exact absurd hzero (by decide : (-1 : Int) ≠ 0)
  · rw [psvStopOrReboot_of_not_running false false answers hs] at hzero
    exact absurd hzero (by decide : (-1 : Int) ≠ 0)

def Op.isStart : Op → Bool
  | .startvm .. => true
  | _ => false

theorem director_dormant {bwv bwv' : BhyveWatchedVm} {op : Op} {output : Int}
    (hstep : director.step bwv op = some (output, bwv')) (hother : Op.isStart op = false)
    (hdormant : dormant bwv.state.state = true) :
    dormant bwv'.state.state = true ∧ rebootRequests bwv'.state.os.trace = [] ∧
      bwv'.state.os.procs.length = bwv.state.os.procs.length := by
  cases op with
  | startvm => contradiction
  | stopvm hooks answers =>
    have hne : (bwv.call hooks).state.state ≠ .running := by
      intro hs
      rw [BhyveWatchedVm.call_state, ProcessStateVm.call_state] at hs
      rw [hs] at hdormant
      contradiction
    have hcall := director_stopvm hstep
    rw [bdStopvm_of_not_running answers hne] at hcall
    cases hcall
    exact ⟨hdormant, rfl, rfl⟩
  | resetfailvm hooks =>
    have hcall := director_resetfailvm hstep
    by_cases hs : (bwv.call hooks).state.state = .failed
    · rw [bdResetfailvm_of_failed hs] at hcall
      cases hcall
      exact ⟨rfl, rfl, rfl⟩
    · rw [bdResetfailvm_of_not_failed hs] at hcall
      cases hcall
      exact ⟨hdormant, rfl, rfl⟩
  | exitEvent index status hooks answers =>
    obtain ⟨pid, hproc, hafter⟩ := director_exitEvent hstep
    generalize hbwv :
      (bwv.withProcs (bwv.state.os.procs.set index ⟨pid, false, false⟩)).call hooks =
      delivered at hafter
    have hdelivered : dormant delivered.state.state = true ∧ delivered.state.os.trace = [] ∧
        delivered.state.os.procs.length = bwv.state.os.procs.length := by
      rw [← hbwv]
      exact ⟨hdormant, rfl, List.length_set⟩
    obtain ⟨hdormant, htrace, hlength⟩ := hdelivered
    have hnone : rebootRequests delivered.state.os.trace = [] := by
      rw [htrace]
      rfl
    rw [← hlength, hafter, bdKqueueExit_procs, bdKqueueExit_state]
    split
    · exact ⟨psvOnexit_dormant _ _ hdormant,
        psvOnexit_asks_nothing _ (dormant_not_reboots hdormant _) hnone, rfl⟩
    · have hquiet := quiet_rebootRequests (delivered.state.quiet_walk failureSequence)
      exact ⟨dormant_walk hdormant dormant_failureSequence, hquiet.trans hnone, rfl⟩
  | exits index =>
    obtain ⟨pid, watched, hproc, hafter⟩ := director_exits hstep
    rw [hafter]
    exact ⟨hdormant, rfl, List.length_set⟩

namespace BhyveDirector

def procs (bd : BhyveDirector) (index : Nat) : List Proc :=
  (bd.statelist[index]?.map (·.state.os.procs)).getD []

end BhyveDirector

section
variable (index : Nat) (x : Transit BhyveDirector DirectorOp Int)

/-- `bd_stopvm` returns 0. -/
def Stops : Prop :=
  (∃ hooks answers request, x.input = .vm index (.stopvm hooks answers) request) ∧ x.output = 0

/-- The exit is handled of the process that was the last one at the stop. New
processes are in front of it. -/
def ExitHandled (stop exit : Transit BhyveDirector DirectorOp Int) : Prop :=
  ∃ place status hooks answers request,
    exit.input = .vm index (.exitEvent place status hooks answers) request ∧
      place + (BhyveDirector.procs stop.after index).length =
        (BhyveDirector.procs exit.before index).length

def ClientStarts : Prop :=
  ∃ hooks answers request, x.input = .vm index (.startvm hooks answers) request

def GainsProcess : Prop :=
  (BhyveDirector.procs x.before index).length < (BhyveDirector.procs x.after index).length

end

/-- After a stop that succeeds, and the exit of the process, every launch has
been asked for by a client since that exit. -/
def StopsStand (transits : List (Transit BhyveDirector DirectorOp Int)) : Prop :=
  ∀ index earlier stop middle exit later launch rest,
    transits = earlier ++ stop :: (middle ++ exit :: (later ++ launch :: rest)) →
      Stops index stop → ExitHandled index stop exit → GainsProcess index launch →
        ∃ x ∈ later ++ [launch], ClientStarts index x

/-- The reboot thread has nothing to do for the machine, and will get nothing. -/
def leftAlone (index : Nat) (bd : BhyveDirector) : Bool :=
  decide (index ∉ bd.reboot.rebootlist) && bd.reboot.thread != .taken index &&
    bd.statelist[index]?.all fun bwv => dormant bwv.state.state

/-- So it is whenever the exit is handled of a process that was stopped. -/
def ExitsClean (transits : List (Transit BhyveDirector DirectorOp Int)) : Prop :=
  ∀ index earlier stop middle exit rest, transits = earlier ++ stop :: (middle ++ exit :: rest) →
    Stops index stop → ExitHandled index stop exit → leftAlone index exit.before = true

/-- The machine is dormant, and the reboot thread does not know of it. -/
structure Stopped (index : Nat) (bd : BhyveDirector) : Prop where
  unlisted : index ∉ bd.reboot.rebootlist
  untaken : bd.reboot.thread ≠ .taken index
  isDormant : ∀ bwv, bd.statelist[index]? = some bwv → dormant bwv.state.state = true

theorem stopped_of_leftAlone {index : Nat} {bd : BhyveDirector} (h : leftAlone index bd = true) :
    Stopped index bd := by
  simp only [leftAlone, Bool.and_eq_true, decide_eq_true_eq, bne_iff_ne] at h
  obtain ⟨⟨hunlisted, huntaken⟩, hdormant⟩ := h
  refine ⟨hunlisted, huntaken, ?_⟩
  intro bwv hbwv
  rw [hbwv] at hdormant
  exact hdormant

section
variable {bd bd' : BhyveDirector} {index : Nat}

theorem Stopped.runThread (h : Stopped index bd) (hthread : bd.runThread = some bd') :
    Stopped index bd' ∧ bd'.statelist = bd.statelist := by
  obtain ⟨hlist, hsection⟩ := runThread_cases hthread
  refine ⟨⟨?_, ?_, ?_⟩, hlist⟩
  · exact fun hmem => h.unlisted ((bdRestartThread_rebootlist hsection).subset hmem)
  · exact fun htaken => h.untaken.elim (absurd (bdRestartThread_taken hsection htaken) h.unlisted)
  · rw [hlist]
    exact h.isDormant

theorem Stopped.perform_other {other : Nat} {op : Op} {request : RequestAnswers} {output : Int}
    (h : Stopped index bd) (hne : other ≠ index)
    (hperform : bd.perform other op request = some (output, bd')) :
    Stopped index bd' ∧ bd'.statelist[index]? = bd.statelist[index]? := by
  obtain ⟨bwv, bwv', hbwv, hstep, hlist, hreboot⟩ := perform_cases hperform
  have hsame : bd'.statelist[index]? = bd.statelist[index]? := by
    rw [hlist, List.getElem?_set_ne hne]
  refine ⟨⟨?_, ?_, ?_⟩, hsame⟩
  · intro hmem
    rw [hreboot] at hmem
    split at hmem
    · exact h.unlisted hmem
    · rcases bdRequestreboot_mem hmem with hmem | heq
      · exact h.unlisted hmem
      · exact hne heq.symm
  · intro htaken
    rw [hreboot] at htaken
    split at htaken
    · exact h.untaken htaken
    · exact h.untaken (bdRequestreboot_taken htaken)
  · rw [hsame]
    exact h.isDormant

theorem Stopped.perform_self {op : Op} {request : RequestAnswers} {output : Int}
    (h : Stopped index bd) (hother : Op.isStart op = false)
    (hperform : bd.perform index op request = some (output, bd')) :
    Stopped index bd' ∧
      (BhyveDirector.procs bd' index).length = (BhyveDirector.procs bd index).length := by
  obtain ⟨bwv, bwv', hbwv, hstep, hlist, hreboot⟩ := perform_cases hperform
  have hindex : index < bd.statelist.length := (List.getElem?_eq_some_iff.mp hbwv).1
  have hother' : Op.isStart (op.answered ((bdRequestreboot request index bd.reboot).1 == 0)) =
      false := by
    cases op <;> first | contradiction | rfl
  obtain ⟨hdormant, hnone, hlength⟩ := director_dormant hstep hother' (h.isDormant bwv hbwv)
  have hself : bd'.statelist[index]? = some bwv' := by
    rw [hlist, List.getElem?_set_self hindex]
  rw [if_pos hnone] at hreboot
  refine ⟨⟨by rw [hreboot]; exact h.unlisted, by rw [hreboot]; exact h.untaken, ?_⟩, ?_⟩
  · intro bwv'' hbwv''
    rw [hself] at hbwv''
    cases hbwv''
    exact hdormant
  · simp [BhyveDirector.procs, hself, hbwv, hlength]

end

/-- As long as no client asks for a start, a stopped machine stays stopped and
nothing is launched for it. -/
theorem stopped_step {index : Nat} {x : Transit BhyveDirector DirectorOp Int}
    (hstopped : Stopped index x.before) (hnot : ¬ClientStarts index x)
    (hstep : fleet.step x.before x.input = some (x.output, x.after)) :
    Stopped index x.after ∧ ¬GainsProcess index x := by
  have hprocs {bd : BhyveDirector} (hsame : bd.statelist[index]? = x.before.statelist[index]?) :
      (BhyveDirector.procs bd index).length = (BhyveDirector.procs x.before index).length := by
    rw [BhyveDirector.procs, hsame, BhyveDirector.procs]
  have hsettle {bd : BhyveDirector} (h : Stopped index bd)
      (hlength : (BhyveDirector.procs bd index).length =
        (BhyveDirector.procs x.before index).length)
      (hafter : x.after = bd ∨ bd.runThread = some x.after) :
      Stopped index x.after ∧ ¬GainsProcess index x := by
    unfold GainsProcess
    rcases hafter with hsame | hthread
    · rw [hsame]
      exact ⟨h, by omega⟩
    · obtain ⟨hafter, hlist⟩ := h.runThread hthread
      have hequal : BhyveDirector.procs x.after index = BhyveDirector.procs bd index := by
        rw [BhyveDirector.procs, hlist, BhyveDirector.procs]
      exact ⟨hafter, by rw [hequal]; omega⟩
  rcases fleet_cases hstep
    with ⟨place, op, request, mid, hop, hperform, hafter⟩ | ⟨_, hlist, hthread⟩
  · have hnext : x.after = mid ∨ mid.runThread = some x.after := hafter.imp id And.right
    by_cases heq : place = index
    · subst heq
      have hother : Op.isStart op = false := by
        cases op with
        | startvm hooks answers =>
          rcases operation_cases hop with hinput | htaken
          · exact absurd ⟨hooks, answers, request, hinput⟩ hnot
          · exact absurd htaken hstopped.untaken
        | _ => rfl
      obtain ⟨hmid, hlength⟩ := hstopped.perform_self hother hperform
      exact hsettle hmid hlength hnext
    · obtain ⟨hmid, hsame⟩ := hstopped.perform_other heq hperform
      exact hsettle hmid (hprocs hsame) hnext
  · rcases hthread with ⟨hrun, _⟩ | hwoken
    · exact hsettle hstopped rfl (.inr hrun)
    · refine ⟨⟨?_, ?_, ?_⟩, ?_⟩
      · rw [hwoken]
        exact hstopped.unlisted
      · rw [hwoken]
        exact fun htaken => by simp at htaken
      · rw [hlist]
        exact hstopped.isDormant
      · have hequal := hprocs (congrArg (·[index]?) hlist)
        unfold GainsProcess
        omega

/-- It is left alone if the reboot thread had nothing to do for it at the stop,
and no client has asked for a start in between. -/
theorem leftAlone_of_stops {index : Nat} {stop exit : Transit BhyveDirector DirectorOp Int}
    {middle : List (Transit BhyveDirector DirectorOp Int)} (hstops : Stops index stop)
    (hunlisted : index ∉ stop.before.reboot.rebootlist)
    (huntaken : stop.before.reboot.thread ≠ .taken index)
    (hstep : fleet.step stop.before stop.input = some (stop.output, stop.after))
    (hmiddle : Run fleet stop.after middle exit.before)
    (hnone : ∀ x ∈ middle, ¬ClientStarts index x) :
    leftAlone index exit.before = true := by
  obtain ⟨⟨hooks, answers, request, hinput⟩, hzero⟩ := hstops
  rw [hinput] at hstep
  obtain ⟨bwv, bwv', hbwv, hdirector, hlist, hreboot⟩ := perform_cases hstep
  have hindex : index < stop.before.statelist.length := (List.getElem?_eq_some_iff.mp hbwv).1
  have hcall := director_stopvm hdirector
  have hdormant : dormant bwv'.state.state = true := by
    have hreturned : (bdStopvm answers (bwv.call hooks)).1 = 0 := by rw [hcall, hzero]
    have hdormant := bdStopvm_dormant hreturned
    rw [hcall] at hdormant
    exact hdormant
  have hnothing := bdStopvm_asks_nothing answers bwv hooks
  rw [hcall] at hnothing
  rw [if_pos hnothing] at hreboot
  have hstopped : Stopped index stop.after := by
    refine ⟨by rw [hreboot]; exact hunlisted, by rw [hreboot]; exact huntaken, ?_⟩
    intro bwv'' hbwv''
    rw [hlist, List.getElem?_set_self hindex] at hbwv''
    cases hbwv''
    exact hdormant
  have hlast : Stopped index exit.before :=
    hmiddle.invariant hstopped
      (fun x hstopped hnot hstep => (stopped_step hstopped hnot hstep).1) hnone
  simp only [leftAlone, Bool.and_eq_true, decide_eq_true_eq, bne_iff_ne, Option.all_eq_true]
  exact ⟨⟨hlast.unlisted, hlast.untaken⟩, hlast.isDormant⟩

/-! Runs. -/

/-- A client starts the machine, stops it, and starts and stops it again. -/
def stoppedByClient : List DirectorOp :=
  [.started 0 10, .stopped 0, .exited 0, .exitHandled 0 0,
    .started 0 11, .stopped 0, .exited 0, .exitHandled 0 1]

/-- Whenever an exit is handled, the machine is left alone. -/
def quietExit (x : Transit BhyveDirector DirectorOp Int) : Bool :=
  match x.input with
  | .vm index (.exitEvent ..) _ => leftAlone index x.before
  | _ => true

/-- The guest reboots, and a client starts the machine before the reboot
thread does. -/
def startedTwice : List DirectorOp :=
  [.thread, .thread, .started 0 10, .exited 0, .exitHandled 0 0, .started 0 11]

/-- Then the client stops it, and the reboot thread launches it. -/
def staleReboot : List DirectorOp :=
  startedTwice ++ .stopped 0 ::
    ([.exited 0] ++ .exitHandled 0 256 :: ([.thread] ++ [.relaunched 12]))

/-- The stop of the second process returns 0, its exit is handled, and the reboot
thread launches a process. -/
def undoes (x : Transit BhyveDirector DirectorOp Int) : Bool :=
  match x.input with
  | .vm _ (.stopvm ..) _ => x.output == 0 && (BhyveDirector.procs x.after 0).length == 2
  | .vm _ (.exitEvent _ status ..) _ => status == 0 || (BhyveDirector.procs x.before 0).length == 2
  | .restart .. =>
    (BhyveDirector.procs x.before 0).length < (BhyveDirector.procs x.after 0).length
  | _ => true

end Vmstated.Properties
