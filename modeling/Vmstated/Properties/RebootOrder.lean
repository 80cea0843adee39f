import Vmstated.Libprocwatch.RebootOrder
import Vmstated.Properties.RebootList

/-! Reboots in the order of their requests. -/
namespace Vmstated.Properties
open Library Libprocwatch

section
variable {transits : List (Transit BhyveDirector DirectorOp Int)} {start bd : BhyveDirector}

/-- The requests are served in their order, each of them once: what is asked
for is what was restarted, what the thread has in hand, and what is listed. -/
theorem requests_accounted (run : Run fleet start transits bd)
    (hrunning : start.reboot.rebootState = false)
    (hempty : inHand start.reboot.thread ++ start.reboot.rebootlist = []) :
    transits.filterMap requestedBy =
        transits.filterMap restartedBy ++ (inHand bd.reboot.thread ++ bd.reboot.rebootlist) ∧
      bd.reboot.rebootState = false := by
  induction run with
  | nil => exact ⟨by rw [hempty]; rfl, hrunning⟩
  | @snoc transits mid after input output _ hstep ih =>
    obtain ⟨hserved, hstate⟩ := ih
    have haccounts := @fleet_accounts ⟨mid, input, output, after⟩ hstate hstep
    refine ⟨?_, haccounts.running⟩
    have hlisted := haccounts.listed
    have htaken := haccounts.taken
    dsimp only at hlisted htaken
    have hsingle (moves : Transit BhyveDirector DirectorOp Int → Option Nat)
        (x : Transit BhyveDirector DirectorOp Int) :
        [x].filterMap moves = (moves x).toList := rfl
    rw [List.filterMap_append, List.filterMap_append, hsingle,
      hsingle, hserved, List.append_assoc, List.append_assoc,
      List.append_assoc, ← hlisted, ← List.append_assoc (inHand mid.reboot.thread), htaken]
    simp only [List.append_assoc]

/-- The links between the machines are those of the list, as long as nothing
moves a machine that is on it. -/
theorem links_hold (run : Run fleet start transits bd) (hrunning : start.reboot.rebootState = false)
    (hqueued : Queued start) (hkeeps : ∀ x ∈ transits, keepsList x.before x.input = true)
    {queue : TailQueue Nat}
    (hholds : queue.Holds start.reboot.rebootlist) :
    (transits.foldl relink queue).Holds bd.reboot.rebootlist ∧
      Queued bd ∧ bd.reboot.rebootState = false := by
  induction run with
  | nil => exact ⟨hholds, hqueued, hrunning⟩
  | @snoc transits mid after input output _ hstep ih =>
    obtain ⟨hlinks, hmid, hstate⟩ := ih fun x hx => hkeeps x (List.mem_append_left _ hx)
    have hlast := hkeeps ⟨mid, input, output, after⟩ (List.mem_append_right _ List.mem_cons_self)
    have hafter := @queued_step ⟨mid, input, output, after⟩ hmid hlast hstep
    have haccounts := @fleet_accounts ⟨mid, input, output, after⟩ hstate hstep
    refine ⟨?_, hafter, haccounts.running⟩
    have hlisted := haccounts.listed
    dsimp only at hlisted
    rw [List.foldl_append, List.foldl_cons, List.foldl_nil, relink]
    cases hdequeued : dequeuedBy ⟨mid, input, output, after⟩ with
    | none =>
      rw [hdequeued, Option.toList_none, List.nil_append] at hlisted
      cases hrequested : requestedBy ⟨mid, input, output, after⟩ with
      | none =>
        rw [hrequested, Option.toList_none, List.append_nil] at hlisted
        rw [hlisted]
        exact hlinks
      | some index =>
        rw [hrequested, Option.toList_some] at hlisted
        have hfresh : index ∉ mid.reboot.rebootlist := by
          intro hmem
          have hnodup := hafter.nodup
          dsimp only at hnodup
          rw [hlisted, List.nodup_append] at hnodup
          exact hnodup.2.2 index hmem index (List.mem_singleton_self index) rfl
        rw [hlisted]
        exact TailQueue.insertTail_holds hlinks hfresh
    | some index =>
      -- a section of the thread requests nothing
      have hnone : requestedBy ⟨mid, input, output, after⟩ = none := by
        unfold dequeuedBy at hdequeued
        cases input <;> simp_all [requestedBy, BhyveDirector.operation]
      rw [hdequeued, hnone, Option.toList_some, Option.toList_none,
        List.append_nil, List.singleton_append] at hlisted
      rw [hnone]
      dsimp only
      rw [← hlisted] at hlinks
      exact TailQueue.removeHead_holds hlinks

end

/-- As long as nothing moves a machine that is on the list, the machines are
restarted in the order of the requests, each request once, and the requests
that wait are those that the machines are linked by. -/
theorem reboots_in_order {configurations : List (UInt32 × Int)}
    {transits : List (Transit BhyveDirector DirectorOp Int)} {bd : BhyveDirector}
    (run : Run fleet (bdNew configurations) transits bd)
    (hkeeps : ∀ x ∈ transits, keepsList x.before x.input = true) (links : Nat → Option Nat) :
    transits.filterMap requestedBy =
        transits.filterMap restartedBy ++ (inHand bd.reboot.thread ++ bd.reboot.rebootlist) ∧
      (transits.foldl relink (TailQueue.init links)).Holds bd.reboot.rebootlist := by
  have hnew : Queued (bdNew configurations) := by
    constructor
    · exact List.nodup_nil
    · intro index hindex
      cases hindex
  exact ⟨(requests_accounted run rfl rfl).1,
    (links_hold run rfl hnew hkeeps (TailQueue.init_holds links)).1⟩

def twoReboots : List DirectorOp :=
  [.thread, .thread, .started 0 10, .started 1 11, .exited 1,
    .exitHandled 1 0, .exited 0, .exitHandled 0 0, .thread, .relaunched 12]

theorem reboots_in_order_twoReboots :
    ∃ transits bd, fleet.exec (bdNew [(3, 30), (3, 30)]) twoReboots = some (transits, bd) ∧
    bd.reboot.rebootlist = [0] ∧
    transits.filterMap requestedBy =
        transits.filterMap restartedBy ++ (inHand bd.reboot.thread ++ bd.reboot.rebootlist) ∧
      (transits.foldl relink (TailQueue.init fun _ => none)).Holds bd.reboot.rebootlist := by
  have hrun : (fleet.exec (bdNew [(3, 30), (3, 30)]) twoReboots).any
      (fun run => run.1.all (fun x => keepsList x.before x.input) &&
        run.2.reboot.rebootlist == [0]) = true := by
    decide +kernel
  obtain ⟨⟨transits, bd⟩, hexec, hall⟩ := (Option.any_eq_true _ _).mp hrun
  simp only [Bool.and_eq_true, List.all_eq_true, beq_iff_eq] at hall
  exact ⟨transits, bd, hexec, hall.2, reboots_in_order (Machine.exec_run hexec) hall.1 _⟩

end Vmstated.Properties
