import Mathlib.Data.List.Flatten
import Vmstated.Library.Window
import Vmstated.Libprocwatch.DirectorSpec

/-! The restart throttle, over every run with a clock that does not go back. -/
namespace Vmstated.Properties
open Library Libprocwatch

/-! The readings of the clock and the timestamps recorded, as the trace of a call
tells them. -/

def clockReading : Event → Option Int
  | .clock now => some now
  | _ => none

def recordedStamp : Event → Option Int
  | .stamp time => some time
  | _ => none

def clocksOf (psv : ProcessStateVm) : List Int := psv.os.trace.filterMap clockReading

def stampsOf (psv : ProcessStateVm) : List Int := psv.os.trace.filterMap recordedStamp

def timeless (e : Event) : Bool := !e.timing

theorem timeless_of_quiet (e : Event) (h : e.quiet = true) : timeless e = true := by
  cases e <;> simp_all [Event.quiet, timeless, Event.timing]

theorem timeless_of_starts (e : Event) (h : e.starts = true) : timeless e = true := by
  cases e <;> simp_all [Event.starts, timeless, Event.timing]

theorem timeless_of_stops (e : Event) (h : e.stops = true) : timeless e = true := by
  cases e <;> simp_all [Event.stops, timeless, Event.timing]

theorem timeless_of_exits (e : Event) (h : e.exits = true) : timeless e = true := by
  cases e <;> simp_all [Event.exits, timeless, Event.timing]

theorem timeless_clocks {psv psv' : ProcessStateVm} (h : Adds timeless psv psv') :
    clocksOf psv' = clocksOf psv := by
  apply h.filterMap
  intro e he
  cases e <;> simp_all [timeless, Event.timing, clockReading]

theorem timeless_stamps {psv psv' : ProcessStateVm} (h : Adds timeless psv psv') :
    stampsOf psv' = stampsOf psv := by
  apply h.filterMap
  intro e he
  cases e <;> simp_all [timeless, Event.timing, recordedStamp]

theorem launched_timeless {pid : Nat} {answers : StartAnswers} {bwv : BhyveWatchedVm}
    {call : Int × BhyveWatchedVm} (h : LaunchedResult pid answers bwv call) :
    Adds timeless bwv.state call.2.state ∧ call.2.startups = bwv.startups ∧
      call.2.maxrestart = bwv.maxrestart ∧ call.2.maxrestarttime = bwv.maxrestarttime := by
  refine ⟨?_, ?_, ?_, ?_⟩
  · cases h with
    | vanished hkill => exact (psvOnexit_result _ _ _).adds.mono timeless_of_exits
    | @died status hkill hwait hended =>
      exact (died_adds (bwv.state.reaped pid) status answers.exit).mono timeless_of_exits
    | stopped => exact .refl _ _
    | unregistered => exact .log _ rfl
    | registered => exact Adds.log bwv.state rfl
  all_goals cases h <;> rfl

theorem removeBefore_eq (deadline : Int) (startups : List Int) :
    removeBefore deadline startups = prune deadline startups := by
  induction startups with
  | nil => rfl
  | cons timestamp rest ih =>
    rw [removeBefore, prune, List.dropWhile_cons]
    by_cases hbefore : timestamp < deadline
    · rw [if_pos hbefore, if_pos (by simpa using hbefore)]
      exact ih
    · rw [if_neg hbefore, if_neg (by simpa using hbefore)]

theorem countEntries_toNat (counter : UInt32) (startups : List Int) :
    (countEntries counter startups).toNat = (counter.toNat + startups.length) % 2 ^ 32 := by
  induction startups generalizing counter with
  | nil => exact (Nat.mod_eq_of_lt counter.toNat_lt).symm
  | cons timestamp rest ih =>
    rw [countEntries, ih, UInt32.toNat_add, List.length_cons]
    have hone : (1 : UInt32).toNat = 1 := rfl
    rw [hone]
    omega

theorem countfails_iff {bwv : BhyveWatchedVm} {now : Int}
    (hlength : (prune (now - bwv.maxrestarttime) bwv.startups).length < 2 ^ 32) :
    bwv.countfails now = true ↔
      bwv.maxrestart.toNat < (prune (now - bwv.maxrestarttime) bwv.startups).length := by
  unfold BhyveWatchedVm.countfails
  have hzero : (0 : UInt32).toNat = 0 := rfl
  rw [decide_eq_true_eq, gt_iff_lt, UInt32.lt_iff_toNat_lt,
    countEntries_toNat, removeBefore_eq, hzero, Nat.zero_add, Nat.mod_eq_of_lt hlength]

/-- The start is recorded. -/
def records (bwv : BhyveWatchedVm) (answers : StartAnswers) : Bool :=
  !bwv.countfails answers.now && bwv.state.state != .failed && answers.stampAllocated

structure StartTiming (answers : StartAnswers) (bwv after : BhyveWatchedVm) : Prop where
  maxrestart : after.maxrestart = bwv.maxrestart
  maxrestarttime : after.maxrestarttime = bwv.maxrestarttime
  stamps : stampsOf after.state = if records bwv answers then [answers.stampTime] else []
  clocks : clocksOf after.state = answers.now :: stampsOf after.state
  startups : after.startups =
    prune (answers.now - bwv.maxrestarttime) bwv.startups ++ stampsOf after.state

theorem looked_startTiming {answers : StartAnswers} {bwv after : BhyveWatchedVm} {hooks : Hooks}
    (hrecords : records bwv answers = false)
    (htimeless : Adds timeless ((bwv.call hooks).looked answers.now).state after.state)
    (hstartups : after.startups = ((bwv.call hooks).looked answers.now).startups)
    (hmax : after.maxrestart = bwv.maxrestart) (htime : after.maxrestarttime = bwv.maxrestarttime) :
    StartTiming answers bwv after := by
  have hstamps : stampsOf after.state = [] := timeless_stamps htimeless
  have hclocks : clocksOf after.state = [answers.now] := timeless_clocks htimeless
  refine ⟨hmax, htime, ?_, ?_, ?_⟩
  · rw [hstamps, hrecords]
    rfl
  · rw [hclocks, hstamps]
  · rw [hstartups, hstamps, List.append_nil, ← removeBefore_eq]
    rfl

theorem admitted_startTiming {answers : StartAnswers} {bwv after : BhyveWatchedVm} {hooks : Hooks}
    (hcount : bwv.countfails answers.now = false) (hfailed : bwv.state.state ≠ .failed)
    (htimeless : Adds timeless ((bwv.call hooks).admitted answers).state after.state)
    (hstartups : after.startups = ((bwv.call hooks).admitted answers).startups)
    (hmax : after.maxrestart = ((bwv.call hooks).admitted answers).maxrestart)
    (htime : after.maxrestarttime = ((bwv.call hooks).admitted answers).maxrestarttime) :
    StartTiming answers bwv after := by
  unfold BhyveWatchedVm.admitted BhyveWatchedVm.stamped at *
  cases hallocated : answers.stampAllocated with
  | false =>
    rw [hallocated, if_neg (by decide)] at hmax htime hstartups htimeless
    have hrecords : records bwv answers = false := by simp [records, hallocated]
    exact looked_startTiming hrecords htimeless hstartups hmax htime
  | true =>
    rw [hallocated, if_pos rfl] at hmax htime hstartups htimeless
    have hrecords : records bwv answers = true := by simp [records, hcount, hfailed, hallocated]
    have hstamps : stampsOf after.state = [answers.stampTime] := timeless_stamps htimeless
    have hclocks : clocksOf after.state = [answers.now, answers.stampTime] :=
      timeless_clocks htimeless
    refine ⟨hmax, htime, ?_, ?_, ?_⟩
    · rw [hstamps, hrecords, if_pos rfl]
    · rw [hclocks, hstamps]
    · rw [hstartups, hstamps, ← removeBefore_eq]
      rfl

theorem startvm_timing (answers : StartAnswers) (bwv : BhyveWatchedVm) (hooks : Hooks) :
    StartTiming answers bwv (bdStartvm answers (bwv.call hooks)).2 := by
  have hresult := bdStartvm_result answers (bwv.call hooks)
  generalize bdStartvm answers (bwv.call hooks) = call at hresult
  cases hresult with
  | throttled hcount =>
    rw [BhyveWatchedVm.call_countfails] at hcount
    have hrecords : records bwv answers = false := by simp [records, hcount]
    exact looked_startTiming hrecords (ProcessStateVm.adds_walk timeless_of_quiet _ _) rfl rfl rfl
  | failed hcount hfailed =>
    have hcurrent : bwv.state.state = .failed := hfailed
    have hrecords : records bwv answers = false := by simp [records, hcurrent]
    exact looked_startTiming hrecords (Adds.refl _ _) rfl rfl rfl
  | ungenerated hcount hfailed hgen =>
    exact admitted_startTiming hcount hfailed
      (ProcessStateVm.adds_walk timeless_of_quiet _ _) rfl rfl rfl
  | unlaunched hcount hfailed hgen hresult hstart =>
    exact admitted_startTiming hcount hfailed (hstart.adds.mono timeless_of_starts) rfl rfl rfl
  | @up pid exited hcount hgen hup =>
    have hfailed : bwv.state.state ≠ .failed := by
      simpa using startable_ne_failed hup.startable
    have hbrought : Adds timeless ((bwv.call hooks).admitted answers).state
        (((bwv.call hooks).admitted answers).state.brought pid exited) :=
      ((quiet_startup _).trace.mono timeless_of_quiet).trans
        (((launched_adds _ _ _).mono timeless_of_starts).trans
          (ProcessStateVm.adds_walk timeless_of_quiet _ _))
    obtain ⟨htimeless, hstartups, hmax, htime⟩ := launched_timeless
      (bdStartLaunched_result pid answers { (bwv.call hooks).admitted answers with
        state := ((bwv.call hooks).admitted answers).state.brought pid exited })
    exact admitted_startTiming hcount hfailed (hbrought.trans htimeless) hstartups hmax htime

def clocks (transits : List (Transit BhyveWatchedVm Op Int)) : List Int :=
  transits.flatMap fun x => clocksOf x.after.state

def stamps (transits : List (Transit BhyveWatchedVm Op Int)) : List Int :=
  transits.flatMap fun x => stampsOf x.after.state

/-- What holds of the log after a run with these readings of the clock and these
timestamps recorded. -/
structure Limited (limit : UInt32) (span : Int) (readings history : List Int)
    (bwv : BhyveWatchedVm) : Prop where
  maxrestart : bwv.maxrestart = limit
  maxrestarttime : bwv.maxrestarttime = span
  remembers : ∀ now, (∀ reading ∈ readings, reading ≤ now) →
    Remembers span now history bwv.startups
  spaced : Spaced limit.toNat span history
  length : bwv.startups.length ≤ limit.toNat + 1

section
variable {limit : UInt32} {span : Int} {readings history : List Int}
  {bwv after : BhyveWatchedVm} {hooks : Hooks} {answers : StartAnswers}

theorem Limited.pruned_length (h : Limited limit span readings history bwv) (now : Int) :
    (prune (now - bwv.maxrestarttime) bwv.startups).length ≤ limit.toNat + 1 :=
  (List.dropWhile_sublist _).length_le.trans h.length

theorem Limited.countfails (h : Limited limit span readings history bwv)
    (hmax : limit.toNat < 2 ^ 32 - 1) {now : Int} (hnow : ∀ reading ∈ readings, reading ≤ now)
    (hmany : limit.toNat < (recordedSince (now - span) history).length) :
    bwv.countfails now = true := by
  have hlength := h.pruned_length now
  rw [countfails_iff (by omega), h.maxrestart, h.maxrestarttime]
  exact hmany.trans_le ((h.remembers now hnow).prune le_rfl).recordedSince_le

theorem Limited.startvm (h : Limited limit span readings history bwv)
    (hmax : limit.toNat < 2 ^ 32 - 1) (htiming : StartTiming answers bwv after)
    (hclock : (readings ++ clocksOf after.state).Pairwise (· ≤ ·)) :
    Limited limit span (readings ++ clocksOf after.state)
      (history ++ stampsOf after.state) after := by
  have hlength := h.pruned_length answers.now
  rw [htiming.clocks] at hclock ⊢
  obtain ⟨-, hlater, hbefore⟩ := List.pairwise_append.mp hclock
  have hnow : ∀ reading ∈ readings, reading ≤ answers.now :=
    fun reading hreading => hbefore reading hreading answers.now List.mem_cons_self
  have hpruned := (h.remembers answers.now hnow).prune le_rfl
  have hstartups := htiming.startups
  rw [h.maxrestarttime] at hlength hstartups
  have hstamps := htiming.stamps
  cases hrecords : records bwv answers with
  | false =>
    rw [hrecords, if_neg (by decide)] at hstamps
    rw [hstamps, List.append_nil] at hstartups
    rw [hstamps, List.append_nil]
    refine ⟨htiming.maxrestart.trans h.maxrestart,
      htiming.maxrestarttime.trans h.maxrestarttime, ?_, h.spaced, ?_⟩
    · intro now hreadings
      rw [hstartups]
      exact hpruned.advance (hreadings answers.now (by simp))
    · rw [hstartups]
      exact hlength
  | true =>
    rw [hrecords, if_pos rfl] at hstamps
    rw [hstamps] at hstartups hlater ⊢
    have hfew : (prune (answers.now - span) bwv.startups).length ≤ limit.toNat := by
      have hcount : bwv.countfails answers.now = false := by
        unfold records at hrecords
        simp only [Bool.and_eq_true, Bool.not_eq_true'] at hrecords
        exact hrecords.1.1
      by_contra hmany
      rw [← Bool.not_eq_true, countfails_iff (by rw [h.maxrestarttime]; omega), h.maxrestart,
        h.maxrestarttime] at hcount
      omega
    have hstamp : answers.now ≤ answers.stampTime := by
      rw [List.pairwise_cons] at hlater
      exact hlater.1 _ List.mem_cons_self
    refine ⟨htiming.maxrestart.trans h.maxrestart,
      htiming.maxrestarttime.trans h.maxrestarttime, ?_, ?_, ?_⟩
    · intro now hreadings
      rw [hstartups]
      exact (hpruned.advance (hreadings answers.now (by simp))).record answers.stampTime
    · exact h.spaced.record (hpruned.recordedSince_le.trans hfew) hstamp
    · rw [hstartups, List.length_append, List.length_singleton]
      omega

end

/-- A step that has nothing to do with the throttle. -/
structure Untimed (bwv after : BhyveWatchedVm) : Prop where
  maxrestart : after.maxrestart = bwv.maxrestart
  maxrestarttime : after.maxrestarttime = bwv.maxrestarttime
  startups : after.startups = bwv.startups
  clocks : clocksOf after.state = []
  stamps : stampsOf after.state = []

theorem untimed_of_timeless {bwv after : BhyveWatchedVm} {psv : ProcessStateVm}
    (htrace : psv.os.trace = []) (htimeless : Adds timeless psv after.state)
    (hmax : after.maxrestart = bwv.maxrestart) (htime : after.maxrestarttime = bwv.maxrestarttime)
    (hstartups : after.startups = bwv.startups) : Untimed bwv after := by
  refine ⟨hmax, htime, hstartups, ?_, ?_⟩
  · rw [timeless_clocks htimeless, clocksOf, htrace, List.filterMap_nil]
  · rw [timeless_stamps htimeless, stampsOf, htrace, List.filterMap_nil]

theorem kqueueExit_startups (status : Nat) (answers : ExitAnswers) (bwv : BhyveWatchedVm) :
    (bdKqueueExit status answers bwv).2.startups = bwv.startups ∧
      (bdKqueueExit status answers bwv).2.maxrestart = bwv.maxrestart ∧
      (bdKqueueExit status answers bwv).2.maxrestarttime = bwv.maxrestarttime := by
  unfold bdKqueueExit
  by_cases hexited : wifexited status = true <;> simp [hexited]

theorem step_timing {bwv after : BhyveWatchedVm} {op : Op} {output : Int}
    (hstep : director.step bwv op = some (output, after)) :
    (∃ hooks answers, op = .startvm hooks answers ∧ StartTiming answers bwv after) ∨
      Untimed bwv after := by
  cases op with
  | startvm hooks answers =>
    have hcall : bdStartvm answers (bwv.call hooks) = (output, after) := Option.some.inj hstep
    have htiming := startvm_timing answers bwv hooks
    rw [hcall] at htiming
    exact .inl ⟨hooks, answers, rfl, htiming⟩
  | stopvm hooks answers =>
    have hcall : bdStopvm answers (bwv.call hooks) = (output, after) := Option.some.inj hstep
    have hafter : (bdStopvm answers (bwv.call hooks)).2 = after := by rw [hcall]
    rw [← hafter]
    have htimeless :=
      (psvStopOrReboot_frame false answers (bwv.state.call hooks)).2.mono timeless_of_stops
    exact .inr (untimed_of_timeless rfl htimeless rfl rfl rfl)
  | resetfailvm hooks =>
    have hcall : bdResetfailvm (bwv.call hooks) = (output, after) := Option.some.inj hstep
    by_cases hfailed : (bwv.call hooks).state.state = .failed
    · rw [bdResetfailvm_of_failed hfailed] at hcall
      cases hcall
      exact .inr ⟨rfl, rfl, rfl, rfl, rfl⟩
    · rw [bdResetfailvm_of_not_failed hfailed] at hcall
      cases hcall
      exact .inr ⟨rfl, rfl, rfl, rfl, rfl⟩
  | exitEvent index status hooks answers =>
    obtain ⟨pid, hproc, rfl⟩ := director_exitEvent hstep
    obtain ⟨hstartups, hmax, htime⟩ := kqueueExit_startups status answers
      ((bwv.withProcs (bwv.state.os.procs.set index ⟨pid, false, false⟩)).call hooks)
    exact .inr (untimed_of_timeless rfl
      ((bdKqueueExit_adds _ _ _).mono timeless_of_exits) hmax htime hstartups)
  | exits index =>
    obtain ⟨pid, watched, hproc, rfl⟩ := director_exits hstep
    exact .inr ⟨rfl, rfl, rfl, rfl, rfl⟩

theorem clocks_snoc (transits : List (Transit BhyveWatchedVm Op Int))
    (x : Transit BhyveWatchedVm Op Int) :
    clocks (transits ++ [x]) = clocks transits ++ clocksOf x.after.state := by
  simp [clocks]

theorem stamps_snoc (transits : List (Transit BhyveWatchedVm Op Int))
    (x : Transit BhyveWatchedVm Op Int) :
    stamps (transits ++ [x]) = stamps transits ++ stampsOf x.after.state := by
  simp [stamps]

theorem run_limited {maxrestart : UInt32} {maxrestarttime : Int} {rmo : Bool}
    {transits : List (Transit BhyveWatchedVm Op Int)} {final : BhyveWatchedVm}
    (run : Run director (bwvNew maxrestart maxrestarttime rmo) transits final)
    (hmax : maxrestart.toNat < 2 ^ 32 - 1) (hclock : (clocks transits).Pairwise (· ≤ ·)) :
    Limited maxrestart maxrestarttime (clocks transits) (stamps transits) final := by
  induction run with
  | nil =>
    exact ⟨rfl, rfl, fun now _ => remembers_nil maxrestarttime now, spaced_nil _ _, Nat.zero_le _⟩
  | @snoc transits bwv after op output run hstep ih =>
    rw [clocks_snoc] at hclock ⊢
    rw [stamps_snoc]
    have hlimited := ih (List.pairwise_append.mp hclock).1
    rcases step_timing hstep with ⟨hooks, answers, hop, htiming⟩ | huntimed
    · exact hlimited.startvm hmax htiming hclock
    · rw [huntimed.clocks, huntimed.stamps, List.append_nil, List.append_nil]
      refine ⟨huntimed.maxrestart.trans hlimited.maxrestart,
        huntimed.maxrestarttime.trans hlimited.maxrestarttime, ?_, hlimited.spaced, ?_⟩
      · rw [huntimed.startups]
        exact hlimited.remembers
      · rw [huntimed.startups]
        exact hlimited.length

def launchesProcess : Event → Bool
  | .launch _ (some _) => true
  | _ => false

def launched (psv : ProcessStateVm) : Bool := psv.os.trace.any launchesProcess

def launchStamps (transits : List (Transit BhyveWatchedVm Op Int)) : List Int :=
  stamps (transits.filter fun x => launched x.after.state)

/-- The throttle does its work in a run: `maxrestart + 2` launches are spread
over more than `maxrestarttime`, a launch has its timestamp if there was memory
for it, and a start that finds too many timestamps in the window is refused. -/
structure Throttled (maxrestart : UInt32) (maxrestarttime : Int)
    (transits : List (Transit BhyveWatchedVm Op Int)) : Prop where
  spaced : Spaced maxrestart.toNat maxrestarttime (launchStamps transits)
  recorded : ∀ x ∈ transits, ∀ hooks answers, x.input = .startvm hooks answers →
    answers.stampAllocated = true → launched x.after.state = true →
      stampsOf x.after.state = [answers.stampTime]
  refused : ∀ earlier x later, transits = earlier ++ x :: later →
    ∀ hooks answers, x.input = .startvm hooks answers →
      maxrestart.toNat < (recordedSince (answers.now - maxrestarttime) (stamps earlier)).length →
        launched x.after.state = false ∧
          (hooksPass hooks 0 failureSequence = true → x.after.state.state = .failed)

theorem timing_not_launch (e : Event) (h : e.timing = true) : ¬launchesProcess e = true := by
  cases e <;> first | exact Bool.false_ne_true | cases h

theorem quiet_not_launches (e : Event) (h : e.quiet = true) : ¬launchesProcess e = true := by
  cases e <;> first | exact Bool.false_ne_true | cases h

theorem not_launched_of_quiet {psv psv' : ProcessStateVm}
    (htiming : ∀ e ∈ psv.os.trace, e.timing = true) (hquiet : Quiet psv psv') :
    launched psv' = false := by
  obtain ⟨events, htrace, hevents⟩ := hquiet.trace
  rw [launched, htrace, List.any_append, Bool.or_eq_false_iff, List.any_eq_false, List.any_eq_false]
  constructor
  · exact fun e he => timing_not_launch e (htiming e he)
  · exact fun e he => quiet_not_launches e (hevents e he)

section
variable {bwv : BhyveWatchedVm} {hooks : Hooks} {answers : StartAnswers}

theorem startvm_throttled (hcount : bwv.countfails answers.now = true) :
    launched (bdStartvm answers (bwv.call hooks)).2.state = false ∧
      (hooksPass hooks 0 failureSequence = true →
        (bdStartvm answers (bwv.call hooks)).2.state.state = .failed) := by
  rw [bdStartvm_eq, BhyveWatchedVm.call_countfails, if_pos hcount]
  constructor
  · exact not_launched_of_quiet (looked_timing bwv hooks answers.now)
      (ProcessStateVm.quiet_walk _ _)
  · intro hpass
    exact walk_state_of_pass hpass

theorem startvm_recorded (hallocated : answers.stampAllocated = true)
    (hlaunched : launched (bdStartvm answers (bwv.call hooks)).2.state = true) :
    stampsOf (bdStartvm answers (bwv.call hooks)).2.state = [answers.stampTime] := by
  have hcount : bwv.countfails answers.now = false := by
    rw [← Bool.not_eq_true]
    intro hcount
    rw [(startvm_throttled hcount).1] at hlaunched
    exact absurd hlaunched (by decide)
  have hfailed : bwv.state.state ≠ .failed := by
    intro hfailed
    have hcurrent : (bwv.call hooks).state.state = .failed := hfailed
    rw [bdStartvm_eq, BhyveWatchedVm.call_countfails, hcount, if_neg (by decide), if_pos hcurrent,
      not_launched_of_quiet (looked_timing bwv hooks answers.now) (Quiet.refl _)] at hlaunched
    exact absurd hlaunched (by decide)
  rw [(startvm_timing answers bwv hooks).stamps, records, hcount, hallocated]
  simp [hfailed]

end

theorem restarts_throttled {maxrestart : UInt32} {maxrestarttime : Int} {rmo : Bool}
    {transits : List (Transit BhyveWatchedVm Op Int)} {final : BhyveWatchedVm}
    (run : Run director (bwvNew maxrestart maxrestarttime rmo) transits final)
    (hmax : maxrestart.toNat < 2 ^ 32 - 1) (hclock : (clocks transits).Pairwise (· ≤ ·)) :
    Throttled maxrestart maxrestarttime transits := by
  constructor
  · exact (run_limited run hmax hclock).spaced.sublist (List.filter_sublist.flatMap _)
  · intro x hx hooks answers hop hallocated hlaunched
    have hstep := run.step_mem hx
    rw [hop] at hstep
    have hcall : bdStartvm answers (x.before.call hooks) = (x.output, x.after) :=
      Option.some.inj hstep
    have hafter : (bdStartvm answers (x.before.call hooks)).2 = x.after := by rw [hcall]
    rw [← hafter] at hlaunched ⊢
    exact startvm_recorded hallocated hlaunched
  · rintro earlier x later rfl hooks answers hop hmany
    have hstep := run.step_mem (List.mem_append_right earlier List.mem_cons_self)
    rw [hop] at hstep
    have hcall : bdStartvm answers (x.before.call hooks) = (x.output, x.after) :=
      Option.some.inj hstep
    have hafter : (bdStartvm answers (x.before.call hooks)).2 = x.after := by rw [hcall]
    have htiming := startvm_timing answers x.before hooks
    rw [hafter] at htiming
    have hsplit : clocks (earlier ++ x :: later) =
        clocks earlier ++ (clocksOf x.after.state ++ clocks later) := by
      simp [clocks]
    rw [hsplit, htiming.clocks] at hclock
    obtain ⟨hearlier, -, hbefore⟩ := List.pairwise_append.mp hclock
    have hnow : ∀ reading ∈ clocks earlier, reading ≤ answers.now :=
      fun reading hreading => hbefore reading hreading answers.now (by simp)
    have hlimited := run_limited run.before_mid hmax hearlier
    have hcount := hlimited.countfails hmax hnow hmany
    rw [← hafter]
    exact startvm_throttled hcount

/-- The process of the first start fails. The second start comes too early, and the
third one after a reset. -/
def throttledStarts : List Op :=
  [.startvm (fun _ _ => .absent) (startWith 100 10), .exits 0,
    .exitEvent 0 256 (fun _ _ => .absent) ⟨true, true, true⟩,
    .startvm (fun _ _ => .absent) (startWith 120 11), .resetfailvm fun _ _ => .absent,
    .startvm (fun _ _ => .absent) (startWith 200 12)]

theorem restarts_throttled_throttledStarts :
    ∃ transits final, director.exec (bwvNew 0 30 true) throttledStarts = some (transits, final) ∧
      launchStamps transits = [100, 200] ∧
      transits.map (fun x => launched x.after.state) = [true, false, false, false, false, true] ∧
      Throttled 0 30 transits := by
  have hrun : (director.exec (bwvNew 0 30 true) throttledStarts).any (fun run =>
      decide ((clocks run.1).Pairwise (· ≤ ·)) && launchStamps run.1 == [100, 200] &&
        run.1.map (fun x => launched x.after.state) == [true, false, false, false, false, true]) =
          true := by
    decide +kernel
  obtain ⟨⟨transits, final⟩, hexec, hall⟩ := (Option.any_eq_true _ _).mp hrun
  simp only [Bool.and_eq_true, decide_eq_true_eq, beq_iff_eq] at hall
  obtain ⟨⟨hclock, hstamps⟩, hlaunched⟩ := hall
  exact ⟨transits, final, hexec, hstamps, hlaunched,
    restarts_throttled (Machine.exec_run hexec) (by decide) hclock⟩

end Vmstated.Properties
