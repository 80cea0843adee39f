import Vmstated.Libprocwatch.DirectorInfo
import Vmstated.Libprocwatch.Fleet
import Vmstated.Properties.Throttle

/-! What the director knows of the last start of a machine, over every run with
a clock that does not go back. The list that it looks at is that of the
throttle. -/
namespace Vmstated.Properties
open Library Libprocwatch

/-- The last boot that is told is the last one recorded, and zero is told of a
machine of which none was. -/
def TellsLastboot (history : List Int) (bwv : BhyveWatchedVm) : Prop :=
  bwvGetLastboot bwv = .ofInt (history.getLastD 0) ∧ (bwvGetLastboot bwv = 0 → history = [])

/-- The start is recorded, or does not forget the last one that was. -/
def keepsLastboot (bwv : BhyveWatchedVm) (answers : StartAnswers) : Prop :=
  if records bwv answers then answers.stampTime ≠ 0
  else ∀ last ∈ bwv.startups.getLast?, answers.now - bwv.maxrestarttime ≤ last

instance (bwv : BhyveWatchedVm) (answers : StartAnswers) : Decidable (keepsLastboot bwv answers) :=
  inferInstanceAs (Decidable (if records bwv answers then answers.stampTime ≠ 0
    else ∀ last ∈ bwv.startups.getLast?, answers.now - bwv.maxrestarttime ≤ last))

/-- The newest entry of the history is that of the list, and not zero. -/
structure LastKept (history : List Int) (bwv : BhyveWatchedVm) : Prop where
  last : bwv.startups.getLast? = history.getLast?
  known : 0 ∉ history.getLast?

section
variable {history : List Int} {bwv after : BhyveWatchedVm} {answers : StartAnswers}

theorem LastKept.start (h : LastKept history bwv) (htiming : StartTiming answers bwv after)
    (hkeeps : keepsLastboot bwv answers) : LastKept (history ++ stampsOf after.state) after := by
  have hstartups := htiming.startups
  have hstamps := htiming.stamps
  unfold keepsLastboot at hkeeps
  cases hrecords : records bwv answers with
  | true =>
    rw [hrecords, if_pos rfl] at hkeeps hstamps
    rw [hstamps] at hstartups ⊢
    refine ⟨?_, ?_⟩
    · rw [hstartups, List.getLast?_concat, List.getLast?_concat]
    · rw [List.getLast?_concat, Option.mem_some]
      exact hkeeps
  | false =>
    rw [hrecords, if_neg Bool.false_ne_true] at hkeeps hstamps
    rw [hstamps, List.append_nil] at hstartups ⊢
    refine ⟨?_, h.known⟩
    rw [hstartups, ← h.last]
    cases hlast : bwv.startups.getLast? with
    | none =>
      rw [List.getLast?_eq_none_iff.mp hlast]
      rfl
    | some last => exact prune_getLast? hlast (hkeeps last hlast)

theorem LastKept.tells (h : LastKept history bwv)
    (hrange : ∀ time ∈ history, -2 ^ 63 ≤ time ∧ time < 2 ^ 63) :
    TellsLastboot history bwv := by
  have hsame : bwvGetLastboot bwv = .ofInt (history.getLastD 0) := by
    rw [bwvGetLastboot, List.getLastD_eq_getLast?, List.getLastD_eq_getLast?, h.last]
  refine ⟨hsame, fun hzero => ?_⟩
  cases hlast : history.getLast? with
  | none => exact List.getLast?_eq_none_iff.mp hlast
  | some last =>
    obtain ⟨hlow, hhigh⟩ := hrange last (List.mem_of_getLast? hlast)
    rw [hsame, List.getLastD_eq_getLast?, hlast, Option.getD_some] at hzero
    have hint := congrArg Int64.toInt hzero
    rw [Int64.toInt_ofInt_of_le hlow hhigh] at hint
    exact absurd hlast (hint ▸ h.known)

/-- A start that does not keep the last boot makes it zero. -/
theorem start_forgets (hkept : bwv.startups <:+ history) (hsorted : history.Pairwise (· ≤ ·))
    (htiming : StartTiming answers bwv after) (hkeeps : ¬keepsLastboot bwv answers) :
    ¬TellsLastboot (history ++ stampsOf after.state) after := by
  have hstartups := htiming.startups
  have hstamps := htiming.stamps
  unfold keepsLastboot at hkeeps
  rintro ⟨-, hnone⟩
  cases hrecords : records bwv answers with
  | true =>
    rw [hrecords, if_pos rfl] at hkeeps hstamps
    rw [hstamps, not_not.mp hkeeps] at hstartups hnone
    have hzero : bwvGetLastboot after = 0 := by
      rw [bwvGetLastboot, hstartups, List.getLastD_concat]
      rfl
    exact List.concat_ne_nil 0 history (List.concat_eq_append ▸ hnone hzero)
  | false =>
    rw [hrecords, if_neg Bool.false_ne_true] at hkeeps hstamps
    rw [hstamps, List.append_nil] at hstartups hnone
    push Not at hkeeps
    obtain ⟨last, hlast, hold⟩ := hkeeps
    have hzero : bwvGetLastboot after = 0 := by
      rw [bwvGetLastboot, hstartups, prune_eq_nil (hsorted.sublist hkept.sublist) hlast hold]
      rfl
    rw [hnone hzero, List.suffix_nil] at hkept
    rw [hkept] at hlast
    cases hlast

end

theorem stamps_sublist {bwv after : BhyveWatchedVm} {op : Op} {output : Int}
    (hstep : director.step bwv op = some (output, after)) :
    (stampsOf after.state).Sublist (clocksOf after.state) := by
  rcases step_timing hstep with ⟨hooks, answers, -, htiming⟩ | huntimed
  · rw [htiming.clocks]
    exact List.sublist_cons_self _ _
  · rw [huntimed.stamps]
    exact List.nil_sublist _

/-- Of the steps that a run makes, the starts are to keep the last boot. -/
def startsKeep (transits : List (Transit BhyveWatchedVm Op Int)) : Prop :=
  ∀ x ∈ transits, ∀ hooks answers, x.input = .startvm hooks answers → keepsLastboot x.before answers

section
variable {maxrestart : UInt32} {maxrestarttime : Int} {rmo : Bool}
  {transits : List (Transit BhyveWatchedVm Op Int)} {final : BhyveWatchedVm}
  (run : Run director (bwvNew maxrestart maxrestarttime rmo) transits final)
include run

theorem stamps_sublist_clocks : (stamps transits).Sublist (clocks transits) := by
  induction run with
  | nil => exact List.Sublist.refl _
  | snoc run hstep ih =>
    rw [stamps_snoc, clocks_snoc]
    exact ih.append (stamps_sublist hstep)

theorem startups_suffix : final.startups <:+ stamps transits := by
  induction run with
  | nil => exact List.suffix_refl []
  | @snoc transits bwv after op output run hstep ih =>
    rw [stamps_snoc]
    rcases step_timing hstep with ⟨hooks, answers, -, htiming⟩ | huntimed
    · obtain ⟨forgotten, hsplit⟩ :=
        (prune_suffix (answers.now - bwv.maxrestarttime) bwv.startups).trans ih
      rw [htiming.startups]
      exact ⟨forgotten, by rw [← List.append_assoc, hsplit]⟩
    · rw [huntimed.startups, huntimed.stamps, List.append_nil]
      exact ih

theorem run_lastKept (hkeep : startsKeep transits) : LastKept (stamps transits) final := by
  induction run with
  | nil => exact ⟨rfl, Option.not_mem_none 0⟩
  | @snoc transits bwv after op output run hstep ih =>
    have hbefore := ih fun x hx => hkeep x (List.mem_append_left _ hx)
    rw [stamps_snoc]
    rcases step_timing hstep with ⟨hooks, answers, hop, htiming⟩ | huntimed
    · exact hbefore.start htiming (hkeep ⟨bwv, op, output, after⟩ (by simp) hooks answers hop)
    · rw [huntimed.stamps, List.append_nil]
      exact ⟨huntimed.startups ▸ hbefore.last, hbefore.known⟩

end

def LastbootTold (start : BhyveWatchedVm) (transits : List (Transit BhyveWatchedVm Op Int)) :
    Prop :=
  ∀ earlier state, earlier <+: transits → Run director start earlier state →
    TellsLastboot (stamps earlier) state

/-- The last boot is told throughout a run if and only if each of its starts is
recorded, or comes within `maxrestarttime` of the last one that was. The clock
tells values of `time_t`. -/
theorem lastboot_told_iff {maxrestart : UInt32} {maxrestarttime : Int} {rmo : Bool}
    {transits : List (Transit BhyveWatchedVm Op Int)} {final : BhyveWatchedVm}
    (run : Run director (bwvNew maxrestart maxrestarttime rmo) transits final)
    (hclock : (clocks transits).Pairwise (· ≤ ·))
    (hrange : ∀ reading ∈ clocks transits, -2 ^ 63 ≤ reading ∧ reading < 2 ^ 63) :
    LastbootTold (bwvNew maxrestart maxrestarttime rmo) transits ↔ startsKeep transits := by
  constructor
  · intro htold x hx hooks answers hop
    obtain ⟨earlier, later, rfl⟩ := List.append_of_mem hx
    by_contra hkeeps
    have hstep := run.step_mem hx
    have hbefore := run.before_mid
    have hafter := hbefore.snoc hstep
    have htells := htold (earlier ++ [x]) x.after ⟨later, by simp⟩ hafter
    rw [stamps_snoc] at htells
    rw [hop] at hstep
    have hcall : bdStartvm answers (x.before.call hooks) = (x.output, x.after) :=
      Option.some.inj hstep
    have htiming := startvm_timing answers x.before hooks
    rw [hcall] at htiming
    have hsorted : (stamps earlier).Pairwise (· ≤ ·) := by
      apply List.Pairwise.sublist (stamps_sublist_clocks hbefore)
      rw [clocks, List.flatMap_append] at hclock
      exact (List.pairwise_append.mp hclock).1
    exact start_forgets (startups_suffix hbefore) hsorted htiming hkeeps htells
  · intro hkeep earlier state hprefix hrun
    obtain ⟨later, rfl⟩ := hprefix
    have hkept := run_lastKept hrun fun x hx => hkeep x (List.mem_append_left later hx)
    refine hkept.tells fun time htime => hrange time ?_
    rw [clocks, List.flatMap_append]
    exact List.mem_append_left _ ((stamps_sublist_clocks hrun).subset htime)

theorem lastboot_told_throttledStarts :
    ∃ transits final, director.exec (bwvNew 0 30 true) throttledStarts = some (transits, final) ∧
      bwvGetLastboot final = 200 ∧ LastbootTold (bwvNew 0 30 true) transits := by
  have hrun : (director.exec (bwvNew 0 30 true) throttledStarts).any (fun run =>
      decide ((clocks run.1).Pairwise (· ≤ ·)) &&
        (clocks run.1).all (fun reading => -2 ^ 63 ≤ reading && reading < 2 ^ 63) &&
        bwvGetLastboot run.2 == 200 && run.1.all fun x =>
          match x.input, x.before with
          | .startvm _ answers, before => decide (keepsLastboot before answers)
          | .stopvm _ _, _ | .resetfailvm _, _ | .exitEvent _ _ _ _, _ | .exits _, _ => true) =
        true := by
    decide +kernel
  obtain ⟨⟨transits, final⟩, hexec, hall⟩ := (Option.any_eq_true _ _).mp hrun
  simp only [Bool.and_eq_true, decide_eq_true_eq, beq_iff_eq, List.all_eq_true] at hall
  obtain ⟨⟨⟨hclock, hrange⟩, hlast⟩, hkeeps⟩ := hall
  refine ⟨transits, final, hexec, hlast,
    (lastboot_told_iff (Machine.exec_run hexec) hclock hrange).mpr ?_⟩
  intro x hx hooks answers hop
  have hkept := hkeeps x hx
  rw [hop] at hkept
  exact of_decide_eq_true hkept

def ungeneratedStart (now : Int) (bwv : BhyveWatchedVm) : Transit BhyveWatchedVm Op Int :=
  let answers := { untroubledStart 10 with now, stampTime := now, generator := .fails }
  let call := bdStartvm answers (bwv.call fun _ _ => .absent)
  ⟨bwv, .startvm (fun _ _ => .absent) answers, call.1, call.2⟩

theorem ungeneratedStart_run {now : Int} {bwv final : BhyveWatchedVm}
    {later : List (Transit BhyveWatchedVm Op Int)}
    (run : Run director (ungeneratedStart now bwv).after later final) :
    Run director bwv (ungeneratedStart now bwv :: later) final :=
  Run.cons (director_startvm _ _ _) run

def startedOnce : Transit BhyveWatchedVm Op Int := ungeneratedStart 1 (bwvNew 3 30 true)

def startedLater : Transit BhyveWatchedVm Op Int := ungeneratedStart 100 startedOnce.after

/-- The second start empties the list and records nothing. -/
theorem lastboot_forgotten :
    ∃ final, Run director (bwvNew 3 30 true) [startedOnce, startedLater] final ∧
    (clocks [startedOnce, startedLater]).Pairwise (· ≤ ·) ∧
      ¬LastbootTold (bwvNew 3 30 true) [startedOnce, startedLater] := by
  have run : Run director (bwvNew 3 30 true) [startedOnce, startedLater] startedLater.after :=
    ungeneratedStart_run (ungeneratedStart_run .nil)
  have hclock : (clocks [startedOnce, startedLater]).Pairwise (· ≤ ·) := by decide +kernel
  refine ⟨_, run, hclock, fun htold => ?_⟩
  have hstamps :=
    (htold [startedOnce, startedLater] _ (List.prefix_refl _) run).2 (by decide +kernel)
  exact absurd hstamps (by decide +kernel)

end Vmstated.Properties
