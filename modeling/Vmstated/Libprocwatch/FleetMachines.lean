import Vmstated.Library.Projection
import Vmstated.Libprocwatch.Fleet

/-! bhyve_director.c: one of the machines of a director, for which all the
others could as well not be there. -/
namespace Vmstated.Libprocwatch
open Library

def machineTransit (index : Nat) (x : Transit BhyveDirector DirectorOp Int) :
    Option (Transit BhyveWatchedVm Op Int) :=
  match x.before.operation x.input with
  | none => none
  | some (place, op, request) =>
    if place = index then
      match x.before.statelist[index]?, x.after.statelist[index]? with
      | some before, some after =>
        some ⟨before, op.answered ((bdRequestreboot request index x.before.reboot).1 == 0),
          x.output, after⟩
      | _, _ => none
    else none

section
variable {index : Nat} {x : Transit BhyveDirector DirectorOp Int}
  (hstep : fleet.step x.before x.input = some (x.output, x.after))
include hstep

theorem operation_step {place : Nat} {op : Op} {request : RequestAnswers}
    (hop : x.before.operation x.input = some (place, op, request)) :
    ∃ before after, x.before.statelist[place]? = some before ∧
      director.step before (op.answered ((bdRequestreboot request place x.before.reboot).1 == 0)) =
        some (x.output, after) ∧
      x.after.statelist = x.before.statelist.set place after := by
  rcases fleet_cases hstep with ⟨place', op', request', mid, hop', hperform, hafter⟩ | ⟨hnone, _⟩
  · rw [hop] at hop'
    cases hop'
    obtain ⟨before, after, hbefore, hmove, hlist, _⟩ := perform_cases hperform
    refine ⟨before, after, hbefore, hmove, ?_⟩
    rcases hafter with hsame | ⟨_, hthread⟩
    · rw [hsame, hlist]
    · rw [(runThread_cases hthread).1, hlist]
  · rw [hop] at hnone
    cases hnone

theorem machineTransit_none (hnone : machineTransit index x = none) :
    x.after.statelist[index]? = x.before.statelist[index]? := by
  unfold machineTransit at hnone
  cases hop : x.before.operation x.input with
  | none =>
    rcases fleet_cases hstep with ⟨_, _, _, _, hop', _⟩ | ⟨_, hlist, _⟩
    · rw [hop] at hop'
      cases hop'
    · rw [hlist]
  | some operation =>
    obtain ⟨place, op, request⟩ := operation
    obtain ⟨before, after, hbefore, _, hlist⟩ := operation_step hstep hop
    have hlt : place < x.before.statelist.length := (List.getElem?_eq_some_iff.mp hbefore).1
    rw [hop] at hnone
    dsimp only at hnone
    by_cases hplace : place = index
    · subst hplace
      rw [if_pos rfl, hbefore, hlist, List.getElem?_set_self hlt] at hnone
      cases hnone
    · rw [hlist, List.getElem?_set_ne hplace]

theorem machineTransit_some {y : Transit BhyveWatchedVm Op Int}
    (hsome : machineTransit index x = some y) :
    x.before.statelist[index]? = some y.before ∧
      director.step y.before y.input = some (y.output, y.after) ∧
      x.after.statelist[index]? = some y.after := by
  unfold machineTransit at hsome
  cases hop : x.before.operation x.input with
  | none =>
    rw [hop] at hsome
    cases hsome
  | some operation =>
    obtain ⟨place, op, request⟩ := operation
    obtain ⟨before, after, hbefore, hmove, hlist⟩ := operation_step hstep hop
    have hlt : place < x.before.statelist.length := (List.getElem?_eq_some_iff.mp hbefore).1
    rw [hop] at hsome
    dsimp only at hsome
    by_cases hplace : place = index
    · subst hplace
      have hafter : x.after.statelist[place]? = some after := by
        rw [hlist, List.getElem?_set_self hlt]
      rw [if_pos rfl, hbefore, hafter] at hsome
      cases hsome
      exact ⟨hbefore, hmove, hafter⟩
    · rw [if_neg hplace] at hsome
      cases hsome

end

def fleetMachine (index : Nat) : Part fleet director where
  view bd := bd.statelist[index]?
  moves := machineTransit index
  rests _ hstep hnone := machineTransit_none hstep hnone
  steps _ _ hstep hsome := machineTransit_some hstep hsome

/-- The transits of the machine in those of the fleet. -/
def machineRun (index : Nat) (transits : List (Transit BhyveDirector DirectorOp Int)) :
    List (Transit BhyveWatchedVm Op Int) :=
  (fleetMachine index).transits transits

theorem bdNew_machine {configurations : List (UInt32 × Int)} {index : Nat} {maxrestart : UInt32}
    {maxrestarttime : Int} (hconfig : configurations[index]? = some (maxrestart, maxrestarttime)) :
    (fleetMachine index).view (bdNew configurations) =
      some (bwvNew maxrestart maxrestarttime true) := by
  have hmap : (configurations.map fun bc => bwvNew bc.1 bc.2 true)[index]? =
      some (bwvNew maxrestart maxrestarttime true) := by
    rw [List.getElem?_map, hconfig, Option.map_some]
  exact hmap

end Vmstated.Libprocwatch
