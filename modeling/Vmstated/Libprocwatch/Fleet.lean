import Vmstated.Libprocwatch.DirectorSpec
import Vmstated.Libprocwatch.RebootThread

/-! bhyve_director.c: all watched machines under one director. Clients, exit
events and the reboot thread act on them in any order; names are distinct, so
a place in `statelist` stands for a machine. -/
namespace Vmstated.Libprocwatch
open Library

structure BhyveDirector where
  statelist : List BhyveWatchedVm
  reboot : RebootQueue Nat

def bdNew (configurations : List (UInt32 × Int)) : BhyveDirector :=
  ⟨configurations.map fun bc => bwvNew bc.1 bc.2 true, .new⟩

def Op.answered (accepted : Bool) : Op → Op
  | .startvm hooks answers =>
    .startvm hooks { answers with exit := { answers.exit with rebootAccepted := accepted } }
  | .exitEvent index status hooks answers =>
    .exitEvent index status hooks { answers with rebootAccepted := accepted }
  | op => op

inductive DirectorOp where
  /-- A client command or an event, for the machine at this place. `request`
  answers the calls of `bd_requestreboot`, if it comes to that. -/
  | vm (index : Nat) (op : Op) (request : RequestAnswers)
  /-- `bd_startvm` in the reboot thread. -/
  | restart (hooks : Oracle VmState HookOutcome) (answers : StartAnswers) (request : RequestAnswers)
  /-- Another section of the reboot thread. -/
  | thread
  | spurious

namespace BhyveDirector

def perform (index : Nat) (op : Op) (request : RequestAnswers) (bd : BhyveDirector) :
    Option (Int × BhyveDirector) := do
  let bwv ← bd.statelist[index]?
  let requested := bdRequestreboot request index bd.reboot
  let (output, bwv) ← director.step bwv (op.answered (requested.1 == 0))
  return (output,
    { statelist := bd.statelist.set index bwv
      reboot := if rebootRequests bwv.state.os.trace = [] then bd.reboot else requested.2 })

def operation (bd : BhyveDirector) : DirectorOp → Option (Nat × Op × RequestAnswers)
  | .vm index op request => some (index, op, request)
  | .restart hooks answers request =>
    match bd.reboot.thread with
    | .taken index => some (index, .startvm hooks answers, request)
    | _ => none
  | _ => none

def runThread (bd : BhyveDirector) : Option BhyveDirector :=
  (bdRestartThread bd.reboot).map fun reboot => { bd with reboot := reboot }

end BhyveDirector

def fleet : Machine BhyveDirector DirectorOp Int where
  step bd input :=
    match input with
    | .vm index op request => bd.perform index op request
    | .restart hooks answers request =>
      match bd.reboot.thread with
      | .taken index => do
        let (output, bd) ← bd.perform index (.startvm hooks answers) request
        let bd ← bd.runThread
        return (output, bd)
      | _ => none
    | .thread =>
      match bd.reboot.thread with
      | .taken _ => none
      | _ => bd.runThread.map fun bd => (0, bd)
    | .spurious =>
      match bd.reboot.thread with
      | .waiting _ => some (0, { bd with reboot := { bd.reboot with thread := .waiting true } })
      | _ => none

/-! Operations in which nothing fails, and there are no hook scripts. -/

def untroubledStart (pid : Nat) : StartAnswers :=
  ⟨100, true, 100, .noGenerator, ⟨true, .forked pid false, true⟩, true, .other, true,
    ⟨true, true, true⟩⟩

def DirectorOp.started (index pid : Nat) : DirectorOp :=
  .vm index (.startvm (fun _ _ => .absent) (untroubledStart pid)) ⟨true, true, true⟩

def DirectorOp.stopped (index : Nat) : DirectorOp :=
  .vm index (.stopvm (fun _ _ => .absent) ⟨true, true, none⟩) ⟨true, true, true⟩

def DirectorOp.exited (index : Nat) : DirectorOp := .vm index (.exits 0) ⟨true, true, true⟩

def DirectorOp.exitHandled (index status : Nat) : DirectorOp :=
  .vm index (.exitEvent 0 status (fun _ _ => .absent) ⟨true, true, true⟩) ⟨true, true, true⟩

def DirectorOp.relaunched (pid : Nat) : DirectorOp :=
  .restart (fun _ _ => .absent) (untroubledStart pid) ⟨true, true, true⟩

section
variable {bd bd' : BhyveDirector} {index : Nat} {op : Op} {request : RequestAnswers} {output : Int}

theorem operation_cases {input : DirectorOp} (h : bd.operation input = some (index, op, request)) :
    input = .vm index op request ∨ bd.reboot.thread = .taken index := by
  cases input with
  | vm place op request =>
    cases h
    exact .inl rfl
  | restart hooks answers request =>
    simp only [BhyveDirector.operation] at h
    split at h
    · rename_i htaken
      cases h
      exact .inr htaken
    · contradiction
  | thread => contradiction
  | spurious => contradiction

theorem perform_cases (h : bd.perform index op request = some (output, bd')) :
    ∃ bwv bwv', bd.statelist[index]? = some bwv ∧
      director.step bwv (op.answered ((bdRequestreboot request index bd.reboot).1 == 0)) =
        some (output, bwv') ∧
      bd'.statelist = bd.statelist.set index bwv' ∧
      bd'.reboot = if rebootRequests bwv'.state.os.trace = [] then bd.reboot
        else (bdRequestreboot request index bd.reboot).2 := by
  simp only [BhyveDirector.perform, Option.bind_eq_bind, Option.bind_eq_some_iff] at h
  obtain ⟨bwv, hbwv, ⟨code, bwv'⟩, hstep, hresult⟩ := h
  cases hresult
  exact ⟨bwv, bwv', hbwv, hstep, rfl, rfl⟩

/-- What a step of the fleet is: something happens to one machine, or the
reboot thread makes a section. -/
theorem fleet_cases {input : DirectorOp} (hstep : fleet.step bd input = some (output, bd')) :
    (∃ index op request mid, bd.operation input = some (index, op, request) ∧
      bd.perform index op request = some (output, mid) ∧
      (bd' = mid ∨ bd.reboot.thread = .taken index ∧ mid.runThread = some bd')) ∨
    bd.operation input = none ∧ bd'.statelist = bd.statelist ∧
      (bd.runThread = some bd' ∧ (∀ index, bd.reboot.thread ≠ .taken index) ∨
        bd'.reboot = { bd.reboot with thread := .waiting true }) := by
  cases input with
  | vm index op request => exact .inl ⟨index, op, request, bd', rfl, hstep, .inl rfl⟩
  | restart hooks answers request =>
    simp only [fleet] at hstep
    split at hstep
    · rename_i index htaken
      simp only [Option.bind_eq_bind, Option.bind_eq_some_iff] at hstep
      obtain ⟨⟨code, mid⟩, hperform, after, hthread, hresult⟩ := hstep
      cases hresult
      refine .inl ⟨index, .startvm hooks answers, request, mid,
        ?_, hperform, .inr ⟨htaken, hthread⟩⟩
      simp [BhyveDirector.operation, htaken]
    · contradiction
  | thread =>
    simp only [fleet] at hstep
    split at hstep
    · contradiction
    · rename_i hfree
      obtain ⟨after, hthread, hresult⟩ := Option.map_eq_some_iff.mp hstep
      cases hresult
      obtain ⟨reboot, hsection, hafter⟩ := Option.map_eq_some_iff.mp hthread
      refine .inr ⟨rfl, ?_, .inl ⟨hthread, hfree⟩⟩
      rw [← hafter]
  | spurious =>
    simp only [fleet] at hstep
    split at hstep
    · cases hstep
      exact .inr ⟨rfl, rfl, .inr rfl⟩
    · contradiction

theorem runThread_cases (h : bd.runThread = some bd') :
    bd'.statelist = bd.statelist ∧ bdRestartThread bd.reboot = some bd'.reboot := by
  obtain ⟨reboot, hsection, rfl⟩ := Option.map_eq_some_iff.mp h
  exact ⟨rfl, hsection⟩

end

end Vmstated.Libprocwatch
