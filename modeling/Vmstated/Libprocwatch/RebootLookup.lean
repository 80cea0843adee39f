import Mathlib.Data.List.Nodup
import Vmstated.Library.TailQueue
import Vmstated.Libprocwatch.RebootThread

/-! bhyve_director.c: `bd_requestreboot` with its lookup, on the list that links
the machines themselves. Machines and process states are known by their
addresses. -/
namespace Vmstated.Libprocwatch
open Library

inductive RequestErrno where
  | einval
  | enoent
  | edeadlk
deriving DecidableEq, Repr

/-- `bwv_new` gives each machine a process state of its own. -/
structure WatchedVms (α β : Type) where
  statelist : List α
  state : α → β
  distinct : (statelist.map state).Nodup

theorem WatchedVms.eq_of_state {α β : Type} (vms : WatchedVms α β)
    {bwv other : α} (hbwv : bwv ∈ vms.statelist)
    (hother : other ∈ vms.statelist) (hstate : vms.state bwv = vms.state other) : bwv = other :=
  List.inj_on_of_nodup_map vms.distinct hbwv hother hstate

/-- `held` tells whether the caller holds `bd->mtx`. -/
structure LinkedReboots (α : Type) where
  rebootlist : TailQueue α
  thread : RebootPc α
  held : Bool

def RebootPc.signal {α : Type} : RebootPc α → RebootPc α
  | .waiting _ => .waiting true
  | thread => thread

theorem signal_thread {α : Type} (queue : RebootQueue α) :
    queue.signal.thread = queue.thread.signal := by
  obtain ⟨rebootlist, rebootState, thread⟩ := queue
  cases thread <;> rfl

section
variable {α β : Type} [DecidableEq α] [DecidableEq β] (vms : WatchedVms α β)
  (answers : RequestAnswers)

def LinkedReboots.unlock (unlockOk : Bool) (bd : LinkedReboots α) : LinkedReboots α :=
  if unlockOk then { bd with held := false } else bd

/-- From the insertion on. -/
def requestFound (bwv : α) (bd : LinkedReboots α) : Int × Option RequestErrno × LinkedReboots α :=
  let bd := { bd with rebootlist := bd.rebootlist.insertTail bwv }
  let bd := { bd with thread := if answers.signalOk then bd.thread.signal else bd.thread }
  let bd := bd.unlock answers.unlockOk
  if !answers.unlockOk then (-1, some .edeadlk, bd)
  else if answers.signalOk then (0, none, bd)
  else (-1, some .edeadlk, bd)

/-- The result, and `errno` where it is set. `SLIST_FOREACH` leaves the machine
at which the loop stopped, or `NULL`; nothing is returned where that is read. -/
def bdRequestrebootLinked (psv : Option β) (bd : LinkedReboots α) :
    Option (Int × Option RequestErrno × LinkedReboots α) :=
  match psv with
  | none => some (-1, some .einval, bd)
  | some psv =>
    if !answers.lockOk then some (-1, some .edeadlk, bd)
    else
      let bd := { bd with held := true }
      match vms.statelist.find? fun bwv => vms.state bwv = psv with
      | none => none
      | some bwv =>
        if vms.state bwv ≠ psv then some (-1, some .enoent, bd.unlock answers.unlockOk)
        else some (requestFound answers bwv bd)

variable {vms} {answers} {psv : β} {bwv : α} {bd : LinkedReboots α}

theorem bdRequestrebootLinked_unlocked (hlock : answers.lockOk = false) :
    bdRequestrebootLinked vms answers (some psv) bd = some (-1, some .edeadlk, bd) := by
  simp [bdRequestrebootLinked, hlock]

theorem bdRequestrebootLinked_found (hlock : answers.lockOk = true) (hbwv : bwv ∈ vms.statelist)
    (hstate : vms.state bwv = psv) :
    bdRequestrebootLinked vms answers (some psv) bd =
      some (requestFound answers bwv { bd with held := true }) := by
  have hfind : vms.statelist.find? (fun bwv => vms.state bwv = psv) = some bwv := by
    cases hfind : vms.statelist.find? (fun bwv => vms.state bwv = psv) with
    | none =>
      rw [List.find?_eq_none] at hfind
      exact absurd (decide_eq_true hstate) (hfind bwv hbwv)
    | some other =>
      have hother : vms.state other = psv := by simpa using List.find?_some hfind
      rw [vms.eq_of_state (List.mem_of_find?_eq_some hfind) hbwv (hother.trans hstate.symm)]
  simp [bdRequestrebootLinked, hlock, hfind, hstate]

theorem bdRequestrebootLinked_missing (hlock : answers.lockOk = true)
    (hnone : ∀ bwv ∈ vms.statelist, vms.state bwv ≠ psv) :
    bdRequestrebootLinked vms answers (some psv) bd = none := by
  have hfind : vms.statelist.find? (fun bwv => vms.state bwv = psv) = none := by
    rw [List.find?_eq_none]
    intro bwv hbwv
    simpa using hnone bwv hbwv
  simp [bdRequestrebootLinked, hlock, hfind]

theorem requestFound_eq (answers : RequestAnswers) (bwv : α) (bd : LinkedReboots α) :
    (requestFound answers bwv bd).2.2 = ⟨bd.rebootlist.insertTail bwv,
      if answers.signalOk then bd.thread.signal else bd.thread, bd.held && !answers.unlockOk⟩ := by
  unfold requestFound LinkedReboots.unlock
  cases answers.unlockOk <;> cases answers.signalOk <;> simp

/-! A machine that is not on the list yet: the queue as a list. -/

structure LinkedReboots.Linked (bd : LinkedReboots α) (queue : RebootQueue α) : Prop where
  holds : bd.rebootlist.Holds queue.rebootlist
  thread : bd.thread = queue.thread

/-- What the call does to the links is what it does to the list. -/
theorem requestFound_linked {queue : RebootQueue α} (hlock : answers.lockOk = true)
    (hlinked : bd.Linked queue) (hfresh : bwv ∉ queue.rebootlist) :
    (requestFound answers bwv bd).1 = (bdRequestreboot answers bwv queue).1 ∧
      (requestFound answers bwv bd).2.2.Linked (bdRequestreboot answers bwv queue).2 := by
  have hinserted := TailQueue.insertTail_holds hlinked.holds hfresh
  have hsignal := signal_thread (queue.insertTail bwv)
  rw [RebootQueue.insertTail_thread, ← hlinked.thread] at hsignal
  have hthread := hlinked.thread
  obtain ⟨lockOk, signalOk, unlockOk⟩ := answers
  obtain rfl : lockOk = true := hlock
  rw [requestFound_eq]
  cases signalOk <;> cases unlockOk
  all_goals
    refine ⟨rfl, ?_, ?_⟩
    · simpa [bdRequestreboot] using hinserted
    · simp [bdRequestreboot, hsignal, hthread]

end

end Vmstated.Libprocwatch
