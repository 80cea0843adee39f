import Vmstated.Library.Call
import Vmstated.Library.Machine

/-! bhyve_director.c: the reboot list, the thread that serves it, and the
functions that wake this thread. A step is what one party does between taking
`bd->mtx` and giving it back. -/
namespace Vmstated.Libprocwatch
open Library

variable {α : Type}

/-- Where `bd_restart_thread` is while it does not hold the mutex. Its
`interrupt` is false up to `finished`. -/
inductive RebootPc (α : Type) where
  /-- Before the first lock. -/
  | entry
  /-- Before the lock of the outer loop. -/
  | outer
  /-- In `pthread_cond_wait`; `woken` tells whether a wake-up is pending. -/
  | waiting (woken : Bool)
  /-- Before the call of `bd_startvm`, with the machine taken off the list. -/
  | taken (bwv : α)
  /-- Before the lock that follows this call. -/
  | launched
  | finished
deriving DecidableEq, Repr

structure RebootQueue (α : Type) where
  rebootlist : List α
  rebootState : Bool
  thread : RebootPc α

namespace RebootQueue

def new : RebootQueue α := ⟨[], false, .entry⟩

/-- `pthread_cond_signal(&bd->reboot_wakeup)`: nobody hears it but a thread
that waits. -/
def signal (bd : RebootQueue α) : RebootQueue α :=
  match bd.thread with
  | .waiting _ => { bd with thread := .waiting true }
  | _ => bd

/-- `STAILQ_INSERT_TAIL`. The source links the machines themselves, so its list
is this one as long as no machine is on it twice. -/
def insertTail (bwv : α) (bd : RebootQueue α) : RebootQueue α :=
  { bd with rebootlist := bd.rebootlist ++ [bwv] }

def look (bd : RebootQueue α) : RebootQueue α :=
  match bd.rebootlist with
  | [] => { bd with thread := .outer }
  | bwv :: rest =>
    { bd with
      rebootlist := rest
      thread := if bd.rebootState then .finished else .taken bwv }

@[simp] theorem signal_rebootlist (bd : RebootQueue α) : bd.signal.rebootlist = bd.rebootlist := by
  unfold signal
  split <;> rfl

@[simp] theorem signal_rebootState (bd : RebootQueue α) :
    bd.signal.rebootState = bd.rebootState := by
  unfold signal
  split <;> rfl

@[simp] theorem insertTail_thread (bwv : α) (bd : RebootQueue α) :
    (bd.insertTail bwv).thread = bd.thread := rfl

@[simp] theorem insertTail_rebootlist (bwv : α) (bd : RebootQueue α) :
    (bd.insertTail bwv).rebootlist = bd.rebootlist ++ [bwv] := rfl

@[simp] theorem insertTail_rebootState (bwv : α) (bd : RebootQueue α) :
    (bd.insertTail bwv).rebootState = bd.rebootState := rfl

@[simp] theorem look_rebootState (bd : RebootQueue α) : bd.look.rebootState = bd.rebootState := by
  unfold look
  split <;> rfl

/-- Nobody sleeps through a signal. -/
theorem signal_thread_ne (bd : RebootQueue α) : bd.signal.thread ≠ .waiting false := by
  unfold signal
  split
  · simp
  · rename_i hawake
    exact hawake false

theorem signal_of_awake {bd : RebootQueue α} (hawake : ∀ woken, bd.thread ≠ .waiting woken) :
    bd.signal = bd := by
  unfold signal
  split
  · rename_i hwaits
    exact absurd hwaits (hawake _)
  · rfl

theorem signal_thread_outer (bd : RebootQueue α) :
    bd.signal.thread = .outer ↔ bd.thread = .outer := by
  unfold signal
  split
  · simp_all
  · exact Iff.rfl

theorem signal_taken (bd : RebootQueue α) {bwv : α} (h : bd.signal.thread = .taken bwv) :
    bd.thread = .taken bwv := by
  unfold signal at h
  split at h
  · contradiction
  · exact h

theorem look_thread_ne (bd : RebootQueue α) (woken : Bool) : bd.look.thread ≠ .waiting woken := by
  unfold look
  split
  · simp
  · dsimp only
    split <;> simp

theorem look_thread_outer {bd : RebootQueue α} :
    bd.look.thread = .outer ↔ bd.rebootlist = [] := by
  unfold look
  split
  · simp_all
  · rename_i hlist
    rw [hlist]
    dsimp only
    split <;> simp

def looks (bd : RebootQueue α) : Bool :=
  match bd.thread with
  | .waiting woken => woken
  | .launched => true
  | _ => false

end RebootQueue

structure RequestAnswers where
  lockOk : Bool
  signalOk : Bool
  unlockOk : Bool

/-- `bd_requestreboot` for a watched machine; its lookup finds it. -/
def bdRequestreboot (answers : RequestAnswers) (bwv : α) : StateM (RebootQueue α) Int := do
  if !answers.lockOk then
    return -1
  modify (·.insertTail bwv)
  if answers.signalOk then
    modify (·.signal)
  if !answers.unlockOk then
    return -1
  return if answers.signalOk then 0 else -1

def bdRestartThread (bd : RebootQueue α) : Option (RebootQueue α) :=
  match bd.thread with
  | .entry => some { bd with thread := if bd.rebootState then .finished else .outer }
  | .outer => some { bd with thread := .waiting false }
  | .waiting true => some bd.look
  | .waiting false => none
  | .taken _ => some { bd with thread := .launched }
  | .launched => some bd.look
  | .finished => none

theorem bdRestartThread_taken {bd bd' : RebootQueue α} {bwv : α}
    (hsection : bdRestartThread bd = some bd') (htaken : bd'.thread = .taken bwv) :
    bwv ∈ bd.rebootlist := by
  have hlook (h : bd.look.thread = .taken bwv) : bwv ∈ bd.rebootlist := by
    unfold RebootQueue.look at h
    split at h
    · contradiction
    · rename_i hlist
      rw [hlist]
      cases hflag : bd.rebootState
      · simp_all
      · simp [hflag] at h
  unfold bdRestartThread at hsection
  split at hsection <;> cases hsection
  · cases hflag : bd.rebootState <;> simp [hflag] at htaken
  · contradiction
  · exact hlook htaken
  · contradiction
  · exact hlook htaken

theorem bdRestartThread_rebootlist {bd bd' : RebootQueue α}
    (hsection : bdRestartThread bd = some bd') : bd'.rebootlist.Sublist bd.rebootlist := by
  have hlook : bd.look.rebootlist.Sublist bd.rebootlist := by
    unfold RebootQueue.look
    split
    · exact List.Sublist.refl _
    · rename_i hlist
      rw [hlist]
      exact List.sublist_cons_self _ _
  unfold bdRestartThread at hsection
  split at hsection <;> cases hsection
  · exact List.Sublist.refl _
  · exact List.Sublist.refl _
  · exact hlook
  · exact List.Sublist.refl _
  · exact hlook

theorem bdRequestreboot_taken {answers : RequestAnswers} {bd : RebootQueue α} {bwv bwv' : α}
    (htaken : (bdRequestreboot answers bwv bd).2.thread = .taken bwv') :
    bd.thread = .taken bwv' := by
  unfold bdRequestreboot at htaken
  cases hlock : answers.lockOk
  · simpa [hlock] using htaken
  · cases hsent : answers.signalOk
    · cases hunlock : answers.unlockOk <;> simpa [hlock, hsent, hunlock] using htaken
    · have hraised : (bd.insertTail bwv).signal.thread = .taken bwv' := by
        cases hunlock : answers.unlockOk <;> simpa [hlock, hsent, hunlock] using htaken
      exact (bd.insertTail bwv).signal_taken hraised

theorem bdRequestreboot_mem {answers : RequestAnswers} {bd : RebootQueue α} {bwv bwv' : α}
    (hmem : bwv' ∈ (bdRequestreboot answers bwv bd).2.rebootlist) :
    bwv' ∈ bd.rebootlist ∨ bwv' = bwv := by
  unfold bdRequestreboot at hmem
  cases hlock : answers.lockOk <;> cases hsent : answers.signalOk <;>
    cases hunlock : answers.unlockOk <;> simp [hlock, hsent, hunlock] at hmem <;> tauto

def bdFreeSignal (bd : RebootQueue α) : RebootQueue α :=
  { bd with rebootState := true }.signal

def bdFreeJoined (bd : RebootQueue α) : RebootQueue α := { bd with rebootlist := [] }

inductive RebootOp (α : Type) where
  | request (bwv : α)
  | thread
  /-- `pthread_cond_wait` returns without a signal. -/
  | spurious
  | free
  | joined

/-- All parties together, when no call on the mutex or the condition variable
fails. -/
def rebootThread : Machine (RebootQueue α) (RebootOp α) Unit where
  step bd
    | .request bwv => some ((), (bdRequestreboot ⟨true, true, true⟩ bwv bd).2)
    | .thread => (bdRestartThread bd).map fun bd => ((), bd)
    | .spurious =>
      match bd.thread with
      | .waiting _ => some ((), { bd with thread := .waiting true })
      | _ => none
    | .free => some ((), bdFreeSignal bd)
    | .joined =>
      match bd.thread, bd.rebootState with
      | .finished, true => some ((), bdFreeJoined bd)
      | _, _ => none

end Vmstated.Libprocwatch
