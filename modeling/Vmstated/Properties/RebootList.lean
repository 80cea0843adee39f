import Vmstated.Libprocwatch.RebootRequests

/-! What is on the reboot list. -/
namespace Vmstated.Properties
open Library Libprocwatch

/-- No machine is on the list twice, and all of them wait for their reboot. -/
structure Queued (bd : BhyveDirector) : Prop where
  nodup : bd.reboot.rebootlist.Nodup
  waits : ∀ index ∈ bd.reboot.rebootlist, ∃ bwv, bd.statelist[index]? = some bwv ∧
    bwv.state.state = .restartStopped

/-- A start that gets nowhere from `restart_stopped`: the hooks of its first
moves fail. -/
def startStays (bwv : BhyveWatchedVm) (hooks : Hooks) (answers : StartAnswers) : Bool :=
  if bwv.penalizes answers then !(hooks 0 .stopStorage).good
  else !(hooks 0 .prestartAfterRestart).good && !(hooks 1 .stopStorage).good

/-- An exit that does not run the failure sequence, or whose first hook fails. -/
def exitStays (status : Nat) (hooks : Hooks) : Bool :=
  wifexited status && decide (toUshort (wexitstatus status) < 3) || !(hooks 0 .stopStorage).good

def opStays (bwv : BhyveWatchedVm) : Op → Bool
  | .startvm hooks answers => startStays bwv hooks answers
  | .exitEvent _ status hooks _ => exitStays status hooks
  | _ => true

section
variable {psv : ProcessStateVm}

theorem walk_stays (hbad : ¬(psv.os.hooks 0 .stopStorage).good = true) :
    (psv.walk failureSequence).state = psv.state := by
  simp [failureSequence, ProcessStateVm.walk, hbad]

theorem psvOnexit_stays (answers : ExitAnswers) {exitcode : Nat} (hs : psv.state = .restartStopped)
    (hstays : exitcode < 3 ∨ ¬(psv.os.hooks 0 .stopStorage).good = true) :
    (psvOnexit answers exitcode psv).2.state = .restartStopped := by
  have hreboots : exitReboots psv.state exitcode = false := by simp [exitReboots, hs]
  have hmoved : psv.exitMoved exitcode = psv.log (.onexit exitcode) := by
    simp [ProcessStateVm.exitMoved, hs, exitPath, ProcessStateVm.walk]
  rcases psvOnexit_state answers hreboots with hstate | ⟨hcode, hstate⟩
  · rw [hstate, hmoved]
    exact hs
  · have hbad := hstays.resolve_left (by omega)
    have hlogged : ¬((psv.log (.onexit exitcode)).os.hooks 0 .stopStorage).good = true := hbad
    rw [hstate, hmoved, walk_stays hlogged]
    exact hs

theorem startup_stays (hs : psv.state = .restartStopped)
    (hprestart : ¬(psv.os.hooks 0 .prestartAfterRestart).good = true)
    (hstorage : ¬(psv.os.hooks 1 .stopStorage).good = true) (answers : LaunchAnswers) :
    psvStartvm answers psv = ((-1, none), psv.startup) ∧ psv.startup.state = .restartStopped := by
  have hpass : hooksPass psv.os.hooks 0 (startupPath psv.state) = false := by
    simp [hs, startupPath, hprestart]
  have hrecovers : startupRecovers psv.os.hooks psv.state = false := by
    simp [hs, startupRecovers, hprestart, failureSequence, hstorage]
  have hstart : psv.state.startable = true := by rw [hs]; rfl
  refine ⟨by simp [psvStartvm_eq, hstart, hpass, hrecovers], ?_⟩
  have hfails : hooksPass (psv.hooked .prestartAfterRestart).os.hooks 0 failureSequence =
      false := by
    simp [failureSequence, hstorage]
  have hleft : psv.startup = (psv.hooked .prestartAfterRestart).walk failureSequence := by
    rw [ProcessStateVm.hooked_hooks] at hfails
    simp [ProcessStateVm.startup, hs, hprestart, hfails]
  rw [hleft, walk_stays (by simpa using hstorage)]
  exact hs

end

theorem bdStartvm_stays {bwv : BhyveWatchedVm} {hooks : Hooks} {answers : StartAnswers}
    (hs : bwv.state.state = .restartStopped) (hstays : startStays bwv hooks answers = true) :
    (bdStartvm answers (bwv.call hooks)).2.state.state = .restartStopped ∧
      rebootRequests (bdStartvm answers (bwv.call hooks)).2.state.os.trace = [] := by
  have hstate : ((bwv.call hooks).admitted answers).state.state = .restartStopped := by simp [hs]
  have hhooks : ((bwv.call hooks).admitted answers).state.os.hooks = hooks := by simp
  have hne : (bwv.call hooks).state.state ≠ .failed := by simp [hs]
  have hadmitted := admitted_asks_nothing bwv hooks answers
  have hquiet (psv : ProcessStateVm) (hnone : rebootRequests psv.os.trace = []) :
      rebootRequests (psv.walk failureSequence).os.trace = [] :=
    (quiet_rebootRequests (psv.quiet_walk _)).trans hnone
  rw [startStays] at hstays
  rw [bdStartvm_eq, BhyveWatchedVm.call_countfails]
  by_cases hcount : bwv.countfails answers.now = true
  · have hbad : ¬(hooks 0 .stopStorage).good = true := by
      simpa [BhyveWatchedVm.penalizes, hcount] using hstays
    rw [if_pos hcount]
    exact ⟨(walk_stays hbad).trans hs, hquiet _ rfl⟩
  · rw [if_neg hcount, if_neg hne]
    by_cases hgen : bwvGenerateConfig answers.generator = 0
    · simp only [BhyveWatchedVm.penalizes, hcount, hgen, bne_self_eq_false, Bool.and_false,
        Bool.or_self, Bool.false_eq_true, ↓reduceIte, Bool.and_eq_true, Bool.not_eq_true'] at hstays
      generalize (bwv.call hooks).admitted answers = admitted at hadmitted hstate hhooks ⊢
      have hstart := startup_stays hstate (by simp [hhooks, hstays.1]) (by simp [hhooks, hstays.2])
        answers.launch
      have hfails : (psvStartvm answers.launch admitted.state).1.1 ≠ 0 := by
        rw [hstart.1]
        exact (by decide : (-1 : Int) ≠ 0)
      rw [if_neg (not_not.mpr hgen), bdLaunchvm_of_fails hfails, hstart.1]
      exact ⟨hstart.2, (quiet_rebootRequests (quiet_startup _)).trans hadmitted⟩
    · have hbad : ¬(hooks 0 .stopStorage).good = true := by
        simpa [BhyveWatchedVm.penalizes, hs, hgen] using hstays
      rw [← hhooks] at hbad
      rw [if_pos hgen]
      exact ⟨(walk_stays hbad).trans hstate, hquiet _ hadmitted⟩

/-- An operation that stays leaves a waiting machine where it is, and asks for
nothing. -/
theorem director_stays {bwv bwv' : BhyveWatchedVm} {op : Op} {accepted : Bool} {output : Int}
    (hstep : director.step bwv (op.answered accepted) = some (output, bwv'))
    (hs : bwv.state.state = .restartStopped) (hstays : opStays bwv op = true) :
    bwv'.state.state = .restartStopped ∧ rebootRequests bwv'.state.os.trace = [] := by
  cases op with
  | startvm hooks answers =>
    have hcall := congrArg Prod.snd (Option.some.inj hstep)
    have hstays : startStays bwv hooks
        { answers with exit := { answers.exit with rebootAccepted := accepted } } = true := hstays
    have hstart := bdStartvm_stays hs hstays
    rw [hcall] at hstart
    exact hstart
  | stopvm hooks answers =>
    have hne : (bwv.call hooks).state.state ≠ .running := by simp [hs]
    have hcall := director_stopvm hstep
    rw [bdStopvm_of_not_running answers hne] at hcall
    cases hcall
    exact ⟨hs, rfl⟩
  | resetfailvm hooks =>
    have hne : (bwv.call hooks).state.state ≠ .failed := by simp [hs]
    have hcall := director_resetfailvm hstep
    rw [bdResetfailvm_of_not_failed hne] at hcall
    cases hcall
    exact ⟨hs, rfl⟩
  | exitEvent index status hooks answers =>
    obtain ⟨pid, hproc, hafter⟩ := director_exitEvent hstep
    generalize hbwv :
      (bwv.withProcs (bwv.state.os.procs.set index ⟨pid, false, false⟩)).call hooks =
      delivered at hafter
    have hdelivered : delivered.state.state = .restartStopped ∧ delivered.state.os.hooks = hooks ∧
        delivered.state.os.trace = [] := by
      rw [← hbwv]
      exact ⟨hs, rfl, rfl⟩
    obtain ⟨hstate, hhooks, htrace⟩ := hdelivered
    have hstays : exitStays status hooks = true := hstays
    simp only [exitStays, Bool.or_eq_true, Bool.and_eq_true, decide_eq_true_eq, Bool.not_eq_true']
      at hstays
    have hnone : rebootRequests delivered.state.os.trace = [] := by rw [htrace]; rfl
    rw [hafter, bdKqueueExit_state]
    split
    · rename_i hexited
      have hreboots (exitcode : Nat) : exitReboots delivered.state.state exitcode = false := by
        simp [exitReboots, hstate]
      refine ⟨psvOnexit_stays _ hstate ?_, psvOnexit_asks_nothing _ (hreboots _) hnone⟩
      rw [hhooks]
      exact hstays.imp And.right (by simp)
    · rename_i hkilled
      have hbad := hstays.resolve_left fun h => hkilled h.1
      refine ⟨?_, (quiet_rebootRequests (ProcessStateVm.quiet_walk _ _)).trans hnone⟩
      rw [walk_stays (by rw [hhooks]; simp [hbad]), hstate]
  | exits index =>
    obtain ⟨pid, watched, hproc, hafter⟩ := director_exits hstep
    rw [hafter]
    exact ⟨hs, rfl⟩

/-- A request that fails has inserted nothing. -/
def requestClean (request : RequestAnswers) : Bool :=
  !request.lockOk || request.signalOk && request.unlockOk

/-- Nothing moves a machine that is on the list, and no request fails once it
has inserted a machine. -/
def keepsList (bd : BhyveDirector) (input : DirectorOp) : Bool :=
  match bd.operation input with
  | none => true
  | some (index, op, request) =>
    match bd.statelist[index]? with
    | none => true
    | some bwv =>
      (requestClean request || !mayRequest bwv op) &&
        (decide (index ∉ bd.reboot.rebootlist) || opStays bwv op)

theorem bdRequestreboot_clean {request : RequestAnswers} (hclean : requestClean request = true)
    (index : Nat) (reboot : RebootQueue Nat) :
    (bdRequestreboot request index reboot).2.rebootlist = reboot.rebootlist ∧
        (bdRequestreboot request index reboot).1 = -1 ∨
      (bdRequestreboot request index reboot).2.rebootlist = reboot.rebootlist ++ [index] ∧
        (bdRequestreboot request index reboot).1 = 0 := by
  unfold bdRequestreboot
  cases hlock : request.lockOk
  · exact .inl ⟨rfl, rfl⟩
  · simp only [requestClean, hlock, Bool.not_true, Bool.false_or, Bool.and_eq_true] at hclean
    simp [hclean]

section
variable {bd bd' : BhyveDirector} {index : Nat} {op : Op} {request : RequestAnswers} {output : Int}

theorem perform_queued (h : bd.perform index op request = some (output, bd')) (hqueued : Queued bd)
    (hclean : ∀ bwv, bd.statelist[index]? = some bwv → mayRequest bwv op = true →
      requestClean request = true)
    (hstays : ∀ bwv, bd.statelist[index]? = some bwv → index ∈ bd.reboot.rebootlist →
      opStays bwv op = true) : Queued bd' := by
  obtain ⟨bwv, bwv', hbwv, hstep, hlist, hreboot⟩ := perform_cases h
  have hindex : index < bd.statelist.length := (List.getElem?_eq_some_iff.mp hbwv).1
  -- the machine itself, if it is on the list, stays there
  have hself (hmem : index ∈ bd.reboot.rebootlist) :
      bwv'.state.state = .restartStopped ∧ rebootRequests bwv'.state.os.trace = [] := by
    obtain ⟨_, hsame, hs⟩ := hqueued.waits index hmem
    rw [hbwv] at hsame
    cases hsame
    exact director_stays hstep hs (hstays bwv hbwv hmem)
  have hwaits (i : Nat) (hi : i ∈ bd.reboot.rebootlist) : ∃ bwv, bd'.statelist[i]? = some bwv ∧
      bwv.state.state = .restartStopped := by
    rw [hlist]
    by_cases heq : index = i
    · subst heq
      exact ⟨bwv', List.getElem?_set_self hindex, (hself hi).1⟩
    · rw [List.getElem?_set_ne heq]
      exact hqueued.waits i hi
  rcases director_asksOnce hstep with hnone | ⟨hasked, hstate⟩
  · rw [if_pos hnone] at hreboot
    rw [← hreboot] at hwaits
    exact ⟨by rw [hreboot]; exact hqueued.nodup, hwaits⟩
  · have hne : rebootRequests bwv'.state.os.trace ≠ [] := by simp [hasked]
    have hfresh : index ∉ bd.reboot.rebootlist := fun hmem => hne (hself hmem).2
    have hmay : mayRequest bwv op = true := by
      rw [← Bool.not_eq_false]
      exact fun hnot => hne (director_asks_nothing hstep hnot)
    rw [if_neg hne] at hreboot
    rcases bdRequestreboot_clean (hclean bwv hbwv hmay) index bd.reboot
      with ⟨hsame, _⟩ | ⟨hlonger, hzero⟩
    · rw [← hreboot] at hsame
      exact ⟨by rw [hsame]; exact hqueued.nodup, by rw [hsame]; exact hwaits⟩
    · have hstopped : bwv'.state.state = .restartStopped := by
        apply hstate
        simp [hzero]
      rw [← hreboot] at hlonger
      constructor
      · rw [hlonger, List.nodup_append]
        refine ⟨hqueued.nodup, by simp, ?_⟩
        intro i hi j hj
        rw [List.mem_singleton.mp hj]
        rintro rfl
        exact hfresh hi
      · intro i hi
        rw [hlonger] at hi
        rcases List.mem_append.mp hi with hi | hi
        · exact hwaits i hi
        · rw [List.mem_singleton.mp hi, hlist]
          exact ⟨bwv', List.getElem?_set_self hindex, hstopped⟩

theorem runThread_queued (h : bd.runThread = some bd') (hqueued : Queued bd) : Queued bd' := by
  obtain ⟨hlist, hsection⟩ := runThread_cases h
  have hsub := bdRestartThread_rebootlist hsection
  refine ⟨hsub.nodup hqueued.nodup, fun i hi => ?_⟩
  rw [hlist]
  exact hqueued.waits i (hsub.subset hi)

end

theorem queued_step {x : Transit BhyveDirector DirectorOp Int} (hqueued : Queued x.before)
    (hkeeps : keepsList x.before x.input = true)
    (hstep : fleet.step x.before x.input = some (x.output, x.after)) : Queued x.after := by
  rcases fleet_cases hstep
    with ⟨index, op, request, mid, hop, hperform, hafter⟩ | ⟨_, hlist, hthread⟩
  · obtain ⟨bwv, _, hbwv, _⟩ := perform_cases hperform
    simp only [keepsList, hop, hbwv, Bool.and_eq_true, Bool.or_eq_true, decide_eq_true_eq] at hkeeps
    have hmid : Queued mid := by
      apply perform_queued hperform hqueued
      · intro bwv' hbwv' hmay
        rw [hbwv] at hbwv'
        cases hbwv'
        simpa [hmay] using hkeeps.1
      · intro bwv' hbwv' hmem
        rw [hbwv] at hbwv'
        cases hbwv'
        exact hkeeps.2.resolve_left (not_not.mpr hmem)
    rcases hafter with hsame | ⟨_, hthread⟩
    · rw [hsame]
      exact hmid
    · exact runThread_queued hthread hmid
  · rcases hthread with ⟨hrun, _⟩ | hwoken
    · exact runThread_queued hrun hqueued
    · exact ⟨by rw [hwoken]; exact hqueued.nodup, by rw [hwoken, hlist]; exact hqueued.waits⟩

/-- If nothing moves a machine that is on the list, the list has no duplicates
and all machines on it wait for their reboot. -/
theorem rebootlist_queued {configurations : List (UInt32 × Int)}
    {transits : List (Transit BhyveDirector DirectorOp Int)} {bd : BhyveDirector}
    (run : Run fleet (bdNew configurations) transits bd)
    (hkeeps : ∀ x ∈ transits, keepsList x.before x.input = true) : Queued bd := by
  have hnew : Queued (bdNew configurations) := by
    constructor
    · exact List.nodup_nil
    · intro index hindex
      cases hindex
  exact run.invariant hnew (fun x => queued_step) hkeeps

/-! Runs. -/

def guestReboot : List DirectorOp :=
  [.started 0 10, .exited 0, .exitHandled 0 0]

theorem rebootlist_queued_guestReboot :
    ∃ transits bd, fleet.exec (bdNew [(3, 30)]) guestReboot = some (transits, bd) ∧
      bd.reboot.rebootlist = [0] ∧ Queued bd := by
  have hrun : (fleet.exec (bdNew [(3, 30)]) guestReboot).any
      (fun run => run.1.all (fun x => keepsList x.before x.input) &&
        run.2.reboot.rebootlist == [0]) = true := by
    decide +kernel
  obtain ⟨⟨transits, bd⟩, hexec, hall⟩ := (Option.any_eq_true _ _).mp hrun
  simp only [Bool.and_eq_true, List.all_eq_true, beq_iff_eq] at hall
  exact ⟨transits, bd, hexec, hall.2, rebootlist_queued (Machine.exec_run hexec) hall.1⟩

/-- Before the reboot thread gets to it the client starts the machine again,
and the guest reboots once more. -/
def restartedByClient : List DirectorOp :=
  guestReboot ++ [.started 0 11, .exited 0, .exitHandled 0 0]

/-- The machine runs while it is on the list, and is then on it twice. -/
theorem rebootlist_not_queued :
    ¬∀ (transits : List (Transit BhyveDirector DirectorOp Int)) (bd : BhyveDirector),
      Run fleet (bdNew [(3, 30)]) transits bd → Queued bd := by
  have hrun : (fleet.exec (bdNew [(3, 30)]) restartedByClient).any
      (fun run => run.2.reboot.rebootlist == [0, 0]) = true := by
    decide +kernel
  obtain ⟨⟨transits, bd⟩, hexec, htwice⟩ := (Option.any_eq_true _ _).mp hrun
  simp only [beq_iff_eq] at htwice
  intro hqueued
  have hnodup := (hqueued transits bd (Machine.exec_run hexec)).nodup
  rw [htwice] at hnodup
  exact absurd hnodup (by decide)

end Vmstated.Properties
