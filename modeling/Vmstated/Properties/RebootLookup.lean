import Vmstated.Libprocwatch.RebootLookup

/-! Requests for a reboot, for any process state. -/
namespace Vmstated.Properties
open Library Libprocwatch

section
variable {α β : Type}

/-- The machine goes to the end of the list, with the mutex given back. On a
queue without links the call does the same. -/
structure Appended (vms : WatchedVms α β) (answers : RequestAnswers)
    (psv : β) (queue : RebootQueue α) (bwv : α)
    (result : Int) (after : LinkedReboots α) : Prop where
  found : bwv ∈ vms.statelist ∧ vms.state bwv = psv
  only : ∀ other ∈ vms.statelist, vms.state other = psv → other = bwv
  holds : after.rebootlist.Holds (queue.rebootlist ++ [bwv])
  released : after.held = !answers.unlockOk
  result : result = (bdRequestreboot answers bwv queue).1
  linked : after.Linked (bdRequestreboot answers bwv queue).2

structure NotFound (vms : WatchedVms α β) (psv : β) (rebootlist : List α)
    (result : Int) (errno : Option RequestErrno) (after : LinkedReboots α) : Prop where
  missing : ∀ bwv ∈ vms.statelist, vms.state bwv ≠ psv
  result : result = -1 ∧ errno = some .enoent
  holds : after.rebootlist.Holds rebootlist
  released : after.held = false

variable [DecidableEq α] {vms : WatchedVms α β} {answers : RequestAnswers}
  {psv : β} {bd : LinkedReboots α} {queue : RebootQueue α}

theorem appended_iff {bwv other : α} (hlock : answers.lockOk = true) (hlinked : bd.Linked queue)
    (hbwv : bwv ∈ vms.statelist) (hstate : vms.state bwv = psv) :
    Appended vms answers psv queue other (requestFound answers bwv { bd with held := true }).1
        (requestFound answers bwv { bd with held := true }).2.2 ↔
      other = bwv ∧ bwv ∉ queue.rebootlist := by
  have honly (other : α) (hother : other ∈ vms.statelist) (hsame : vms.state other = psv) :
      other = bwv :=
    vms.eq_of_state hother hbwv (hsame.trans hstate.symm)
  constructor
  · intro happended
    obtain rfl := honly other happended.found.1 happended.found.2
    have hinserted := happended.holds
    rw [requestFound_eq] at hinserted
    exact ⟨rfl, (TailQueue.insertTail_holds_iff other hlinked.holds).mp hinserted⟩
  · rintro ⟨rfl, hfresh⟩
    have hlinkedHeld : LinkedReboots.Linked { bd with held := true } queue :=
      ⟨hlinked.holds, hlinked.thread⟩
    obtain ⟨hresult, hafter⟩ := requestFound_linked hlock hlinkedHeld hfresh
    refine ⟨⟨hbwv, hstate⟩, honly, ?_, ?_, hresult, hafter⟩
    · rw [requestFound_eq]
      exact TailQueue.insertTail_holds hlinked.holds hfresh
    · rw [requestFound_eq]
      rfl

variable [DecidableEq β]

/-- The call comes to an end. Without the mutex it does nothing. -/
def RequestsReboot (vms : WatchedVms α β) (answers : RequestAnswers)
    (psv : β) (bd : LinkedReboots α) (queue : RebootQueue α) : Prop :=
  ∃ result errno after, bdRequestrebootLinked vms answers (some psv) bd =
    some (result, errno, after) ∧
    if answers.lockOk then
      (∃ bwv, Appended vms answers psv queue bwv result after) ∨
        NotFound vms psv queue.rebootlist result errno after
    else after = bd

/-- A request is as it should be if it does not get the mutex, or the state is
that of a machine which is not on the list yet. -/
theorem requestsReboot_iff (hlinked : bd.Linked queue) :
    RequestsReboot vms answers psv bd queue ↔
      (answers.lockOk = true → ∃ bwv ∈ vms.statelist,
        vms.state bwv = psv ∧ bwv ∉ queue.rebootlist) := by
  unfold RequestsReboot
  cases hlock : answers.lockOk with
  | false =>
    refine iff_of_true ⟨_, _, _, bdRequestrebootLinked_unlocked hlock, rfl⟩ ?_
    exact fun htrue => absurd htrue Bool.false_ne_true
  | true =>
    rw [forall_prop_of_true rfl]
    by_cases hfound : ∃ bwv ∈ vms.statelist, vms.state bwv = psv
    · obtain ⟨bwv, hbwv, hstate⟩ := hfound
      have hcall := @bdRequestrebootLinked_found _ _ _ _ vms answers psv bwv bd hlock hbwv hstate
      constructor
      · rintro ⟨result, errno, after, hresult, ⟨other, happended⟩ | hnone⟩
        · obtain hsame := Option.some.inj (hcall.symm.trans hresult)
          obtain rfl : (requestFound answers bwv { bd with held := true }).1 = result :=
            congrArg Prod.fst hsame
          obtain rfl : (requestFound answers bwv { bd with held := true }).2.2 = after :=
            congrArg (fun call => call.2.2) hsame
          exact ⟨bwv, hbwv, hstate, ((appended_iff hlock hlinked hbwv hstate).mp happended).2⟩
        · exact absurd hstate (hnone.missing bwv hbwv)
      · rintro ⟨other, hother, hsame, hfresh⟩
        obtain rfl := vms.eq_of_state hother hbwv (hsame.trans hstate.symm)
        exact ⟨_, _, _, hcall,
          Or.inl ⟨other, (appended_iff hlock hlinked hother hsame).mpr ⟨rfl, hfresh⟩⟩⟩
    · refine iff_of_false ?_ ?_
      · rintro ⟨result, errno, after, hresult, -⟩
        rw [bdRequestrebootLinked_missing hlock fun bwv hbwv hstate => hfound ⟨bwv, hbwv, hstate⟩]
          at hresult
        cases hresult
      · rintro ⟨bwv, hbwv, hstate, -⟩
        exact hfound ⟨bwv, hbwv, hstate⟩

end

theorem requestsReboot_first :
    RequestsReboot (⟨[1, 2], id, by decide⟩ : WatchedVms Nat Nat) ⟨true, true, true⟩ 1
    ⟨TailQueue.init fun _ => none, .waiting false, false⟩ ⟨[], false, .waiting false⟩ :=
  (requestsReboot_iff ⟨TailQueue.init_holds _, rfl⟩).mpr fun _ =>
    ⟨1, by decide, rfl, List.not_mem_nil⟩

/-- A director without machines reads the state of none. -/
theorem not_requestsReboot : ¬∀ (vms : WatchedVms Nat Nat) (answers : RequestAnswers) (psv : Nat)
    (bd : LinkedReboots Nat) (queue : RebootQueue Nat), bd.Linked queue →
    RequestsReboot vms answers psv bd queue := by
  intro hall
  obtain ⟨result, errno, after, hcall, -⟩ := hall ⟨[], id, List.nodup_nil⟩ ⟨true, true, true⟩ 1
    ⟨TailQueue.init fun _ => none, .waiting false, false⟩ ⟨[], false, .waiting false⟩
      ⟨TailQueue.init_holds _, rfl⟩
  cases hcall

end Vmstated.Properties
