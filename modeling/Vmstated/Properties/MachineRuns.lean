import Vmstated.Libprocwatch.FleetMachines
import Vmstated.Properties.Throttle

/-! Each machine of a director behaves as if it were alone with its own
operations, whoever asks for them. -/
namespace Vmstated.Properties
open Library Libprocwatch

section
variable (index : Nat)

def operationAt (x : Transit BhyveDirector DirectorOp Int) : Option (Op × Int) :=
  match x.before.operation x.input with
  | none => none
  | some (place, op, request) =>
    if place = index then some
      (op.answered ((bdRequestreboot request index x.before.reboot).1 == 0), x.output)
    else none

theorem machineTransit_operationAt {x : Transit BhyveDirector DirectorOp Int}
    (hstep : fleet.step x.before x.input = some (x.output, x.after)) :
    (machineTransit index x).map (fun y => (y.input, y.output)) = operationAt index x := by
  unfold machineTransit operationAt
  cases hop : x.before.operation x.input with
  | none => rfl
  | some operation =>
    obtain ⟨place, op, request⟩ := operation
    obtain ⟨before, after, hbefore, _, hlist⟩ := operation_step hstep hop
    dsimp only
    by_cases hplace : place = index
    · subst hplace
      have hlt : place < x.before.statelist.length := (List.getElem?_eq_some_iff.mp hbefore).1
      rw [if_pos rfl, if_pos rfl, hbefore, hlist, List.getElem?_set_self hlt]
      rfl
    · rw [if_neg hplace, if_neg hplace]
      rfl

theorem machineRun_operations {transits : List (Transit BhyveDirector DirectorOp Int)}
    (hsteps : ∀ x ∈ transits, fleet.step x.before x.input = some (x.output, x.after)) :
    (machineRun index transits).map (fun y => (y.input, y.output)) =
      transits.filterMap (operationAt index) := by
  rw [machineRun, Part.transits, List.map_filterMap]
  apply List.filterMap_congr
  intro x hx
  exact machineTransit_operationAt index (hsteps x hx)

end

/-- In a run of the fleet a machine makes the run of a director of its own, of
the operations that are asked of it, with the same results. -/
theorem machine_alone {configurations : List (UInt32 × Int)}
    {transits : List (Transit BhyveDirector DirectorOp Int)}
    {bd : BhyveDirector} (run : Run fleet (bdNew configurations) transits bd)
    {index : Nat} {maxrestart : UInt32}
    {maxrestarttime : Int} (hconfig : configurations[index]? = some (maxrestart, maxrestarttime)) :
    ∃ own bwv, bd.statelist[index]? = some bwv ∧
      Run director (bwvNew maxrestart maxrestarttime true) own bwv ∧
      own.map (fun y => (y.input, y.output)) = transits.filterMap (operationAt index) := by
  obtain ⟨bwv, hbwv, hown⟩ := (fleetMachine index).run run (bdNew_machine hconfig)
  exact ⟨machineRun index transits, bwv, hbwv, hown,
    machineRun_operations index fun x hx => run.step_mem hx⟩

def bothStarted : List DirectorOp := [.started 0 10, .started 1 11]

theorem machine_alone_bothStarted : ∃ transits bd own bwv,
    Run fleet (bdNew [(3, 30), (5, 60)]) transits bd ∧ bd.statelist[1]? = some bwv ∧
      Run director (bwvNew 5 60 true) own bwv ∧
      own.map (fun y => (y.input, y.output)) = transits.filterMap (operationAt 1) := by
  have hrun : (fleet.exec (bdNew [(3, 30), (5, 60)]) bothStarted).isSome = true := by
    decide +kernel
  obtain ⟨⟨transits, bd⟩, hexec⟩ := Option.isSome_iff_exists.mp hrun
  have run := Machine.exec_run hexec
  obtain ⟨own, bwv, hbwv, hown, hoperations⟩ := @machine_alone _ _ _ run 1 5 60 rfl
  exact ⟨transits, bd, own, bwv, run, hbwv, hown, hoperations⟩

/-! The throttle. -/

def readings (x : Transit BhyveDirector DirectorOp Int) : List Int :=
  match x.before.operation x.input with
  | none => []
  | some (place, _, _) => ((machineTransit place x).map fun y => clocksOf y.after.state).getD []

def fleetClocks (transits : List (Transit BhyveDirector DirectorOp Int)) : List Int :=
  transits.flatMap readings

theorem readings_of_machineTransit {index : Nat} {x : Transit BhyveDirector DirectorOp Int}
    {y : Transit BhyveWatchedVm Op Int} (hsome : machineTransit index x = some y) :
    readings x = clocksOf y.after.state := by
  have hplace : ∃ op request, x.before.operation x.input = some (index, op, request) := by
    unfold machineTransit at hsome
    split at hsome
    · cases hsome
    · rename_i place op request hop
      split at hsome
      · rename_i hindex
        exact ⟨op, request, hindex ▸ hop⟩
      · cases hsome
  obtain ⟨op, request, hop⟩ := hplace
  rw [readings, hop]
  dsimp only
  rw [hsome, Option.map_some, Option.getD_some]

theorem clocks_machineRun (index : Nat) (transits : List (Transit BhyveDirector DirectorOp Int)) :
    (clocks (machineRun index transits)).Sublist (fleetClocks transits) := by
  induction transits with
  | nil => exact List.Sublist.refl _
  | cons x transits ih =>
    rw [fleetClocks, List.flatMap_cons, ← fleetClocks, machineRun, Part.transits]
    cases hmoves : (fleetMachine index).moves x with
    | none =>
      rw [List.filterMap_cons_none hmoves]
      exact ih.trans (List.sublist_append_right _ _)
    | some y =>
      rw [List.filterMap_cons_some hmoves, clocks, List.flatMap_cons, ← clocks,
        @readings_of_machineTransit index x y hmoves]
      exact (List.Sublist.refl _).append ih

/-- Whoever asks for its starts, a client or the reboot thread, and whatever
the other machines do, a machine is not launched more often than its limits
allow, if the clock does not go back. -/
theorem launches_spaced {configurations : List (UInt32 × Int)}
    {transits : List (Transit BhyveDirector DirectorOp Int)}
    {bd : BhyveDirector} (run : Run fleet (bdNew configurations) transits bd)
    (hclock : (fleetClocks transits).Pairwise (· ≤ ·)) {index : Nat}
    {maxrestart : UInt32} {maxrestarttime : Int}
    (hconfig : configurations[index]? = some (maxrestart, maxrestarttime))
    (hmax : maxrestart.toNat < 2 ^ 32 - 1) :
    Spaced maxrestart.toNat maxrestarttime (launchStamps (machineRun index transits)) := by
  obtain ⟨bwv, _, hown⟩ := (fleetMachine index).run run (bdNew_machine hconfig)
  have hlimited := run_limited hown hmax (hclock.sublist (clocks_machineRun index transits))
  exact hlimited.spaced.sublist (List.filter_sublist.flatMap _)

/-- The guest of the first machine reboots while a client starts the second one. -/
def restartedLater : List DirectorOp :=
  [.thread, .thread, .vm 0 (.startvm (fun _ _ => .absent) (startWith 100 10)) ⟨true, true, true⟩,
    .exited 0,
    .exitHandled 0 0, .vm 1 (.startvm (fun _ _ => .absent) (startWith 110 11)) ⟨true, true, true⟩,
      .thread,
    .restart (fun _ _ => .absent) (startWith 150 12) ⟨true, true, true⟩]

theorem launches_spaced_restartedLater : ∃ transits bd,
    fleet.exec (bdNew [(0, 30), (5, 60)]) restartedLater = some (transits, bd) ∧
      launchStamps (machineRun 0 transits) = [100, 150] ∧
      Spaced (0 : UInt32).toNat 30 (launchStamps (machineRun 0 transits)) := by
  have hrun : (fleet.exec (bdNew [(0, 30), (5, 60)]) restartedLater).any
      (fun run => decide ((fleetClocks run.1).Pairwise (· ≤ ·)) &&
        launchStamps (machineRun 0 run.1) == [100, 150]) = true := by
    decide +kernel
  obtain ⟨⟨transits, bd⟩, hexec, hall⟩ := (Option.any_eq_true _ _).mp hrun
  simp only [Bool.and_eq_true, decide_eq_true_eq, beq_iff_eq] at hall
  have hmax : (0 : UInt32).toNat < 2 ^ 32 - 1 := by decide
  have hspaced := @launches_spaced _ _ _ (Machine.exec_run hexec) hall.1 0 0 30 rfl hmax
  exact ⟨transits, bd, hexec, hall.2, hspaced⟩

end Vmstated.Properties
