import Vmstated.Libprocwatch.Fleet

/-! Which operations on a watched machine ask for a reboot, and where they
leave the machine. -/
namespace Vmstated.Libprocwatch
open Library

/-- The call asked for no reboot; or for one, and if that was accepted the
machine waits for it. -/
def AsksOnce (accepted : Bool) (psv : ProcessStateVm) : Prop :=
  rebootRequests psv.os.trace = [] ∨
    rebootRequests psv.os.trace = [accepted] ∧ (accepted = true → psv.state = .restartStopped)

section
variable {answers : ExitAnswers} {exitcode : Nat} {psv : ProcessStateVm}

theorem exitMoved_reboots (hpass : hooksPass psv.os.hooks 0 (exitPath psv.state exitcode) = true)
    (hreboots : exitReboots psv.state exitcode = true) :
    (psv.exitMoved exitcode).state = .restartStopped := by
  rw [exitMoved_state, hookArrival, arrival_of_passes hpass, rebootPath_last hreboots]

theorem psvOnexit_asksOnce (answers : ExitAnswers) (exitcode : Nat)
    (hnone : rebootRequests psv.os.trace = []) :
    AsksOnce answers.rebootAccepted (psvOnexit answers exitcode psv).2 ∧
      ((psvOnexit answers exitcode psv).1 ≠ 0 → answers.rebootAccepted = true →
        rebootRequests (psvOnexit answers exitcode psv).2.os.trace = []) := by
  have hresult := psvOnexit_result answers exitcode psv
  generalize psvOnexit answers exitcode psv = call at hresult
  have hmoved : rebootRequests (psv.exitMoved exitcode).os.trace = [] := by
    rw [exitMoved_rebootRequests, hnone]
  have hlogged (accepted : Bool) : rebootRequests
      ((psv.exitMoved exitcode).log (.requestReboot accepted)).os.trace = [accepted] := by
    rw [ProcessStateVm.log, Os.log_trace, rebootRequests_log, hmoved]
    rfl
  cases hresult with
  | stuck => exact ⟨.inl hmoved, fun _ _ => hmoved⟩
  | unmanaged => exact ⟨.inl hmoved, fun _ _ => hmoved⟩
  | accepted hpass hreboots hrmo haccepted =>
    rw [haccepted]
    exact ⟨.inr ⟨hlogged true, fun _ => exitMoved_reboots hpass hreboots⟩,
      fun hne => absurd rfl hne⟩
  | rejected hpass hreboots hrmo haccepted =>
    rw [haccepted]
    refine ⟨.inr ⟨?_, fun hyes => absurd hyes (by decide)⟩, fun _ hyes => absurd hyes (by decide)⟩
    rw [quiet_rebootRequests (ProcessStateVm.quiet_walk _ _), hlogged]
  | @failed result processid hpass hcode hresult =>
    have hfailed := quiet_rebootRequests ((psv.exitMoved exitcode).quiet_walk failureSequence)
    rw [hmoved] at hfailed
    exact ⟨.inl hfailed, fun _ _ => hfailed⟩
  | settled => exact ⟨.inl hmoved, fun _ _ => hmoved⟩

theorem died_asksOnce (answers : ExitAnswers) (status : Nat)
    (hnone : rebootRequests psv.os.trace = []) :
    AsksOnce answers.rebootAccepted (psv.died status answers) := by
  have hexit := psvOnexit_asksOnce answers (toUshort (wexitstatus status)) hnone
  unfold ProcessStateVm.died
  dsimp only
  split
  · exact hexit.1
  · rename_i hne
    have hsame := quiet_rebootRequests (ProcessStateVm.quiet_walk
      (psvOnexit answers (toUshort (wexitstatus status)) psv).2 failureSequence)
    rcases hexit.1 with hquiet | ⟨hasked, _⟩
    · exact .inl (hsame.trans hquiet)
    · refine .inr ⟨hsame.trans hasked, fun hyes => ?_⟩
      have hquiet := hexit.2 hne hyes
      rw [hasked] at hquiet
      contradiction

end

theorem starts_asks_nothing (e : Event) (h : e.starts = true) : e.rebootRequest = none := by
  cases e <;> first | rfl | simp [Event.starts] at h

theorem admitted_asks_nothing (bwv : BhyveWatchedVm) (hooks : Hooks) (answers : StartAnswers) :
    rebootRequests ((bwv.call hooks).admitted answers).state.os.trace = [] := by
  unfold rebootRequests
  rw [List.filterMap_eq_nil_iff]
  intro e he
  have htiming := admitted_timing bwv hooks answers e he
  cases e <;> first | rfl | simp [Event.timing] at htiming

theorem bdStartLaunched_asksOnce (pid : Nat) (answers : StartAnswers) {bwv : BhyveWatchedVm}
    (hnone : rebootRequests bwv.state.os.trace = []) :
    AsksOnce answers.exit.rebootAccepted (bdStartLaunched pid answers bwv).2.state := by
  have hresult := bdStartLaunched_result pid answers bwv
  generalize bdStartLaunched pid answers bwv = call at hresult
  have hlogged (registered : Bool) :
      rebootRequests (bwv.state.log (.kevent pid registered)).os.trace = [] := by
    rw [ProcessStateVm.log, Os.log_trace, rebootRequests_log, hnone]
    rfl
  cases hresult with
  | vanished => exact (psvOnexit_asksOnce answers.exit 4 hnone).1
  | @died status => exact died_asksOnce answers.exit status hnone
  | stopped => exact .inl hnone
  | unregistered => exact .inl (hlogged false)
  | registered => exact .inl (hlogged true)

theorem bdStartvm_asksOnce (bwv : BhyveWatchedVm) (hooks : Hooks) (answers : StartAnswers) :
    AsksOnce answers.exit.rebootAccepted (bdStartvm answers (bwv.call hooks)).2.state := by
  have hresult := bdStartvm_result answers (bwv.call hooks)
  generalize bdStartvm answers (bwv.call hooks) = call at hresult
  have hlooked : rebootRequests ((bwv.call hooks).looked answers.now).state.os.trace = [] := rfl
  have hadmitted := admitted_asks_nothing bwv hooks answers
  cases hresult with
  | throttled => exact .inl ((quiet_rebootRequests (ProcessStateVm.quiet_walk _ _)).trans hlooked)
  | failed => exact .inl hlooked
  | ungenerated =>
    exact .inl ((quiet_rebootRequests (ProcessStateVm.quiet_walk _ _)).trans hadmitted)
  | unlaunched hcount hfailed hgen hne hstart =>
    exact .inl ((hstart.adds.rebootRequests starts_asks_nothing).trans hadmitted)
  | @up pid exited hcount hgen hup =>
    apply bdStartLaunched_asksOnce
    exact ((brought_adds _ pid exited).rebootRequests starts_asks_nothing).trans hadmitted

theorem bdStopvm_asks_nothing (answers : StopAnswers) (bwv : BhyveWatchedVm) (hooks : Hooks) :
    rebootRequests (bdStopvm answers (bwv.call hooks)).2.state.os.trace = [] := by
  have hstops := (psvStopOrReboot_frame false answers (bwv.state.call hooks)).2
  apply hstops.rebootRequests
  intro e he
  cases e <;> first | rfl | simp [Event.stops] at he

/-- One operation asks for at most one reboot. -/
theorem director_asksOnce {bwv bwv' : BhyveWatchedVm} {op : Op} {accepted : Bool} {output : Int}
    (hstep : director.step bwv (op.answered accepted) = some (output, bwv')) :
    AsksOnce accepted bwv'.state := by
  cases op with
  | startvm hooks answers =>
    have hcall := congrArg Prod.snd (Option.some.inj hstep)
    have hasks := bdStartvm_asksOnce bwv hooks
      { answers with exit := { answers.exit with rebootAccepted := accepted } }
    rw [hcall] at hasks
    exact hasks
  | stopvm hooks answers =>
    have hafter : bwv' = (bdStopvm answers (bwv.call hooks)).2 := by rw [director_stopvm hstep]
    rw [hafter]
    exact .inl (bdStopvm_asks_nothing answers bwv hooks)
  | resetfailvm hooks =>
    have hafter : bwv' = (bdResetfailvm (bwv.call hooks)).2 := by rw [director_resetfailvm hstep]
    rw [hafter]
    by_cases hs : (bwv.call hooks).state.state = .failed
    · rw [bdResetfailvm_of_failed hs]
      exact .inl rfl
    · rw [bdResetfailvm_of_not_failed hs]
      exact .inl rfl
  | exitEvent index status hooks answers =>
    obtain ⟨pid, hproc, hafter⟩ := director_exitEvent hstep
    rw [hafter, bdKqueueExit_state]
    split
    · exact (psvOnexit_asksOnce _ _ rfl).1
    · exact .inl (quiet_rebootRequests (ProcessStateVm.quiet_walk _ _))
  | exits index =>
    obtain ⟨pid, watched, hproc, hafter⟩ := director_exits hstep
    rw [hafter]
    exact .inl rfl

theorem psvOnexit_asks_nothing (answers : ExitAnswers) {exitcode : Nat} {psv : ProcessStateVm}
    (hreboots : exitReboots psv.state exitcode = false) (hnone : rebootRequests psv.os.trace = []) :
    rebootRequests (psvOnexit answers exitcode psv).2.os.trace = [] := by
  have hresult := psvOnexit_result answers exitcode psv
  generalize psvOnexit answers exitcode psv = call at hresult
  have hmoved : rebootRequests (psv.exitMoved exitcode).os.trace = [] := by
    rw [exitMoved_rebootRequests, hnone]
  cases hresult with
  | accepted _ hyes => simp [hreboots] at hyes
  | rejected _ hyes => simp [hreboots] at hyes
  | failed => exact (quiet_rebootRequests (ProcessStateVm.quiet_walk _ _)).trans hmoved
  | _ => exact hmoved

theorem psvOnexit_state (answers : ExitAnswers) {exitcode : Nat} {psv : ProcessStateVm}
    (hreboots : exitReboots psv.state exitcode = false) :
    (psvOnexit answers exitcode psv).2.state = (psv.exitMoved exitcode).state ∨
      exitcode ≥ 3 ∧ (psvOnexit answers exitcode psv).2.state =
        ((psv.exitMoved exitcode).walk failureSequence).state := by
  have hresult := psvOnexit_result answers exitcode psv
  generalize psvOnexit answers exitcode psv = call at hresult
  cases hresult with
  | accepted _ hyes => simp [hreboots] at hyes
  | rejected _ hyes => simp [hreboots] at hyes
  | failed _ hcode => exact .inr ⟨hcode, rfl⟩
  | _ => exact .inl rfl

/-! Where none is asked for. -/

/-- The guest of a process reboots, or the process of a start that is let through is
gone at once. -/
def mayRequest (bwv : BhyveWatchedVm) : Op → Bool
  | .startvm _ answers =>
    !bwv.countfails answers.now && bwvGenerateConfig answers.generator == 0 &&
      bwv.state.state.startable && answers.killOk && match answers.waitpid with
        | .reports status => toUshort (wexitstatus status) == 0
        | .other => false
  | .exitEvent _ status _ _ =>
    wifexited status && exitReboots bwv.state.state (toUshort (wexitstatus status))
  | _ => false

theorem died_asks_nothing (answers : ExitAnswers) {status : Nat} {psv : ProcessStateVm}
    (hcode : toUshort (wexitstatus status) ≠ 0) (hnone : rebootRequests psv.os.trace = []) :
    rebootRequests (psv.died status answers).os.trace = [] := by
  have hexit := psvOnexit_asks_nothing answers (exitReboots_of_ne hcode psv.state) hnone
  unfold ProcessStateVm.died
  dsimp only
  split
  · exact hexit
  · exact (quiet_rebootRequests (ProcessStateVm.quiet_walk _ _)).trans hexit

theorem bdStartLaunched_asks_nothing (pid : Nat) {answers : StartAnswers} {bwv : BhyveWatchedVm}
    (hnone : rebootRequests bwv.state.os.trace = [])
    (hcode : ∀ status, answers.killOk = true → answers.waitpid = .reports status →
      toUshort (wexitstatus status) ≠ 0) :
    rebootRequests (bdStartLaunched pid answers bwv).2.state.os.trace = [] := by
  have hresult := bdStartLaunched_result pid answers bwv
  generalize bdStartLaunched pid answers bwv = call at hresult
  have hlogged (registered : Bool) :
      rebootRequests (bwv.state.log (.kevent pid registered)).os.trace = [] := by
    rw [ProcessStateVm.log, Os.log_trace, rebootRequests_log, hnone]
    rfl
  cases hresult with
  | vanished => exact psvOnexit_asks_nothing answers.exit (exitReboots_of_ne (by decide) _) hnone
  | died hkill hwait _ => exact died_asks_nothing answers.exit (hcode _ hkill hwait) hnone
  | stopped => exact hnone
  | unregistered => exact hlogged false
  | registered => exact hlogged true

theorem bdStartvm_asks_nothing {bwv : BhyveWatchedVm} {hooks : Hooks} {answers : StartAnswers}
    (hnot : mayRequest bwv (.startvm hooks answers) = false) :
    rebootRequests (bdStartvm answers (bwv.call hooks)).2.state.os.trace = [] := by
  have hresult := bdStartvm_result answers (bwv.call hooks)
  generalize bdStartvm answers (bwv.call hooks) = call at hresult
  have hlooked : rebootRequests ((bwv.call hooks).looked answers.now).state.os.trace = [] := rfl
  have hadmitted := admitted_asks_nothing bwv hooks answers
  cases hresult with
  | throttled => exact (quiet_rebootRequests (ProcessStateVm.quiet_walk _ _)).trans hlooked
  | failed => exact hlooked
  | ungenerated => exact (quiet_rebootRequests (ProcessStateVm.quiet_walk _ _)).trans hadmitted
  | unlaunched _ _ _ _ hstart =>
    exact (hstart.adds.rebootRequests starts_asks_nothing).trans hadmitted
  | @up pid exited hcount hgen hup =>
    apply bdStartLaunched_asks_nothing
    · exact ((brought_adds _ pid exited).rebootRequests starts_asks_nothing).trans hadmitted
    · intro status hkill hwait hcode
      have hstartable : bwv.state.state.startable = true := by simpa using hup.startable
      have hcount' : bwv.countfails answers.now = false := hcount
      simp [mayRequest, hcount', hgen, hstartable, hkill, hwait, hcode] at hnot

theorem director_asks_nothing {bwv bwv' : BhyveWatchedVm} {op : Op} {accepted : Bool} {output : Int}
    (hstep : director.step bwv (op.answered accepted) = some (output, bwv'))
    (hnot : mayRequest bwv op = false) :
    rebootRequests bwv'.state.os.trace = [] := by
  cases op with
  | startvm hooks answers =>
    have hcall := congrArg Prod.snd (Option.some.inj hstep)
    have hasks := @bdStartvm_asks_nothing bwv hooks
      { answers with exit := { answers.exit with rebootAccepted := accepted } } hnot
    rw [hcall] at hasks
    exact hasks
  | exitEvent index status hooks answers =>
    obtain ⟨pid, hproc, hafter⟩ := director_exitEvent hstep
    rw [hafter, bdKqueueExit_state]
    split
    · rename_i hexited
      simp only [mayRequest, hexited, Bool.true_and] at hnot
      exact psvOnexit_asks_nothing _ hnot rfl
    · exact quiet_rebootRequests (ProcessStateVm.quiet_walk _ _)
  | stopvm hooks answers =>
    have hafter : bwv' = (bdStopvm answers (bwv.call hooks)).2 := by rw [director_stopvm hstep]
    rw [hafter]
    exact bdStopvm_asks_nothing answers bwv hooks
  | resetfailvm hooks =>
    have hafter : bwv' = (bdResetfailvm (bwv.call hooks)).2 := by rw [director_resetfailvm hstep]
    rw [hafter]
    by_cases hs : (bwv.call hooks).state.state = .failed
    · rw [bdResetfailvm_of_failed hs]
      rfl
    · rw [bdResetfailvm_of_not_failed hs]
      rfl
  | exits index =>
    obtain ⟨pid, watched, hproc, hafter⟩ := director_exits hstep
    rw [hafter]
    rfl

end Vmstated.Libprocwatch
