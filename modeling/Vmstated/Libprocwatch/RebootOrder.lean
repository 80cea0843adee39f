import Vmstated.Library.TailQueue
import Vmstated.Libprocwatch.RebootRequests

/-! bhyve_director.c: what the steps of a run put on the reboot list and take
off it, and the restarts that come of it. -/
namespace Vmstated.Libprocwatch
open Library

def requestedBy (x : Transit BhyveDirector DirectorOp Int) : Option Nat :=
  match x.before.operation x.input with
  | none => none
  | some (place, _, request) =>
    match x.after.statelist[place]? with
    | none => none
    | some bwv => if rebootRequests bwv.state.os.trace ≠ [] ∧ request.lockOk = true then some place
        else none

def dequeuedBy (x : Transit BhyveDirector DirectorOp Int) : Option Nat :=
  match x.input, x.before.reboot.thread with
  | .thread, .waiting _ => x.before.reboot.rebootlist.head?
  | .thread, .launched => x.before.reboot.rebootlist.head?
  | _, _ => none

def restartedBy (x : Transit BhyveDirector DirectorOp Int) : Option Nat :=
  match x.input, x.before.reboot.thread with
  | .restart _ _ _, .taken index => some index
  | _, _ => none

def inHand : RebootPc Nat → List Nat
  | .taken index => [index]
  | _ => []

/-- What a step does to the links between the machines. -/
def relink (queue : TailQueue Nat) (x : Transit BhyveDirector DirectorOp Int) : TailQueue Nat :=
  let queue := match dequeuedBy x with
    | none => queue
    | some _ => queue.removeHead
  match requestedBy x with
  | none => queue
  | some index => queue.insertTail index

theorem signal_inHand (reboot : RebootQueue Nat) :
    inHand reboot.signal.thread = inHand reboot.thread := by
  unfold RebootQueue.signal
  cases hthread : reboot.thread <;> simp [inHand, hthread]

theorem bdRequestreboot_leaves (answers : RequestAnswers) (index : Nat) (reboot : RebootQueue Nat) :
    let after := (bdRequestreboot answers index reboot).2
    after.rebootlist = reboot.rebootlist ++ (if answers.lockOk = true then [index] else []) ∧
      inHand after.thread = inHand reboot.thread ∧ after.rebootState = reboot.rebootState := by
  obtain ⟨lockOk, signalOk, unlockOk⟩ := answers
  cases lockOk <;> cases signalOk <;> cases unlockOk <;> simp [bdRequestreboot, signal_inHand]

theorem look_order {reboot : RebootQueue Nat} (hrunning : reboot.rebootState = false) :
    reboot.rebootlist.head?.toList ++ reboot.look.rebootlist = reboot.rebootlist ∧
      inHand reboot.look.thread = reboot.rebootlist.head?.toList := by
  unfold RebootQueue.look
  cases hlist : reboot.rebootlist with
  | nil => simp [inHand]
  | cons index rest => simp [hrunning, inHand]

/-- An account of a step: what comes onto the list and what leaves it, and what
the thread has in hand before and after it. -/
structure Accounts (x : Transit BhyveDirector DirectorOp Int) : Prop where
  listed : (dequeuedBy x).toList ++ x.after.reboot.rebootlist =
    x.before.reboot.rebootlist ++ (requestedBy x).toList
  taken : inHand x.before.reboot.thread ++ (dequeuedBy x).toList =
    (restartedBy x).toList ++ inHand x.after.reboot.thread
  running : x.after.reboot.rebootState = false

section
variable {x : Transit BhyveDirector DirectorOp Int} (hrunning : x.before.reboot.rebootState = false)
include hrunning

theorem accounts_look (hinput : x.input = .thread)
    (hdequeued : dequeuedBy x = x.before.reboot.rebootlist.head?)
    (hfree : inHand x.before.reboot.thread = []) (hafter : x.after.reboot = x.before.reboot.look) :
    Accounts x := by
  obtain ⟨hlist, hhand⟩ := look_order hrunning
  have hrequested : requestedBy x = none := by
    rw [requestedBy, hinput]
    rfl
  have hrestarted : restartedBy x = none := by
    rw [restartedBy, hinput]
  constructor
  · rw [hdequeued, hrequested, hafter, hlist, Option.toList_none, List.append_nil]
  · rw [hdequeued, hrestarted, hafter, hhand, hfree]
    rfl
  · rw [hafter, RebootQueue.look_rebootState, hrunning]

theorem accounts_thread (hinput : x.input = .thread)
    (hfree : ∀ index, x.before.reboot.thread ≠ .taken index)
    (hsection : bdRestartThread x.before.reboot = some x.after.reboot) : Accounts x := by
  have hrequested : requestedBy x = none := by
    rw [requestedBy, hinput]
    rfl
  cases hthread : x.before.reboot.thread with
  | taken index => exact absurd hthread (hfree index)
  | finished =>
    rw [bdRestartThread, hthread] at hsection
    cases hsection
  | entry =>
    simp only [bdRestartThread, hthread, hrunning, Option.some.injEq] at hsection
    constructor <;> simp [dequeuedBy, restartedBy, hinput, hthread, hrequested, ← hsection, inHand]
  | outer =>
    simp only [bdRestartThread, hthread, Option.some.injEq] at hsection
    constructor <;>
      simp [dequeuedBy, restartedBy, hinput, hthread, hrequested, ← hsection, inHand, hrunning]
  | launched =>
    simp only [bdRestartThread, hthread, Option.some.injEq] at hsection
    apply accounts_look hrunning hinput _ _ hsection.symm
    · rw [dequeuedBy, hinput, hthread]
    · rw [hthread]
      rfl
  | waiting woken =>
    cases woken with
    | false =>
      rw [bdRestartThread, hthread] at hsection
      cases hsection
    | true =>
      simp only [bdRestartThread, hthread, Option.some.injEq] at hsection
      apply accounts_look hrunning hinput _ _ hsection.symm
      · rw [dequeuedBy, hinput, hthread]
      · rw [hthread]
        rfl

theorem perform_accounts {place : Nat} {op : Op} {request : RequestAnswers} {mid : BhyveDirector}
    (hop : x.before.operation x.input = some (place, op, request))
    (hperform : x.before.perform place op request = some (x.output, mid))
    (hlist : x.after.statelist = mid.statelist) :
    mid.reboot.rebootlist = x.before.reboot.rebootlist ++ (requestedBy x).toList ∧
      inHand mid.reboot.thread = inHand x.before.reboot.thread ∧
        mid.reboot.rebootState = false := by
  obtain ⟨before, bwv, hbefore, _, hmid, hreboot⟩ := perform_cases hperform
  have hlt : place < x.before.statelist.length := (List.getElem?_eq_some_iff.mp hbefore).1
  have hrequested : requestedBy x =
      if rebootRequests bwv.state.os.trace ≠ [] ∧ request.lockOk = true then some place
      else none := by
    rw [requestedBy, hop]
    dsimp only
    rw [hlist, hmid, List.getElem?_set_self hlt]
  obtain ⟨hlisted, hhand, hstate⟩ := bdRequestreboot_leaves request place x.before.reboot
  rw [hreboot, hrequested]
  by_cases hasked : rebootRequests bwv.state.os.trace = []
  · simp [hasked, hrunning]
  · rw [if_neg hasked, hlisted, hhand, hstate]
    cases hlock : request.lockOk <;> simp [hasked, hrunning]

/-- Each step of a director that is not shut down has its account. -/
theorem fleet_accounts (hstep : fleet.step x.before x.input = some (x.output, x.after)) :
    Accounts x := by
  cases hinput : x.input with
  | vm place op request =>
    rw [hinput] at hstep
    have hop : x.before.operation x.input = some (place, op, request) := by
      rw [hinput]
      rfl
    obtain ⟨hlisted, hhand, hstate⟩ := perform_accounts hrunning hop hstep rfl
    constructor
    · simpa [dequeuedBy, hinput] using hlisted
    · simpa [dequeuedBy, restartedBy, hinput] using hhand.symm
    · exact hstate
  | restart hooks answers request =>
    rw [hinput] at hstep
    simp only [fleet] at hstep
    split at hstep
    · rename_i index htaken
      simp only [Option.bind_eq_bind, Option.bind_eq_some_iff] at hstep
      obtain ⟨⟨code, mid⟩, hperform, after, hthread, hresult⟩ := hstep
      cases hresult
      have hop : x.before.operation x.input = some (index, .startvm hooks answers, request) := by
        rw [hinput, BhyveDirector.operation, htaken]
      obtain ⟨hlist, hsection⟩ := runThread_cases hthread
      obtain ⟨hlisted, hhand, hstate⟩ := perform_accounts hrunning hop hperform hlist
      have hstill : mid.reboot.thread = .taken index := by
        rw [htaken] at hhand
        cases hmid : mid.reboot.thread <;> simp_all [inHand]
      simp only [bdRestartThread, hstill, Option.some.injEq] at hsection
      constructor
      · simpa [dequeuedBy, hinput, ← hsection] using hlisted
      · simp [dequeuedBy, restartedBy, hinput, htaken, ← hsection, inHand]
      · rw [← hsection]
        exact hstate
    · cases hstep
  | thread =>
    rw [hinput] at hstep
    simp only [fleet] at hstep
    split at hstep
    · cases hstep
    · rename_i hfree
      obtain ⟨after, hthread, hresult⟩ := Option.map_eq_some_iff.mp hstep
      obtain rfl : after = x.after := (Prod.mk.inj hresult).2
      exact accounts_thread hrunning hinput hfree (runThread_cases hthread).2
  | spurious =>
    rw [hinput] at hstep
    simp only [fleet] at hstep
    split at hstep
    · rename_i woken hwaits
      have hafter : x.after.reboot = { x.before.reboot with thread := .waiting true } := by
        rw [← (Prod.mk.inj (Option.some.inj hstep)).2]
      have hrequested : requestedBy x = none := by
        rw [requestedBy, hinput]
        rfl
      constructor <;>
        simp [dequeuedBy, restartedBy, hinput, hrequested, hafter, hwaits, inHand, hrunning]
    · cases hstep

end

end Vmstated.Libprocwatch
