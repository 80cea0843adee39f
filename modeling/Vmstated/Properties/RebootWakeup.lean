import Vmstated.Libprocwatch.RebootThread

/-! What the reboot thread can sleep through. -/
namespace Vmstated.Properties
open Library Libprocwatch

variable {α : Type}

section
variable {bd after : RebootQueue α} {output : Unit}

theorem rebootThread_request {bwv : α}
    (hstep : rebootThread.step bd (.request bwv) = some (output, after)) :
    after = (bd.insertTail bwv).signal := by
  cases hstep
  rfl

theorem rebootThread_thread (hstep : rebootThread.step bd .thread = some (output, after)) :
    bdRestartThread bd = some after := by
  obtain ⟨next, hnext, heq⟩ := Option.map_eq_some_iff.mp hstep
  cases heq
  exact hnext

theorem rebootThread_spurious (hstep : rebootThread.step bd .spurious = some (output, after)) :
    (∃ woken, bd.thread = .waiting woken) ∧ after = { bd with thread := .waiting true } := by
  simp only [rebootThread] at hstep
  split at hstep
  · rename_i woken hwaits
    cases hstep
    exact ⟨⟨woken, hwaits⟩, rfl⟩
  · contradiction

theorem rebootThread_free (hstep : rebootThread.step bd .free = some (output, after)) :
    after = bdFreeSignal bd := by
  cases hstep
  rfl

theorem rebootThread_joined (hstep : rebootThread.step bd .joined = some (output, after)) :
    bd.thread = .finished ∧ after = bdFreeJoined bd := by
  simp only [rebootThread] at hstep
  split at hstep
  · rename_i hfinished _
    cases hstep
    exact ⟨hfinished, rfl⟩
  · contradiction

end

/-- No request comes while the thread is on its way to the wait, past its last
look at the list. -/
def Heard : Transit (RebootQueue α) (RebootOp α) Unit → Prop
  | ⟨bd, .request _, _, _⟩ => bd.thread ≠ .outer
  | ⟨bd, .thread, _, _⟩ => bd.thread = .entry → bd.rebootState = false → bd.rebootlist = []
  | _ => True

instance [DecidableEq α] : (x : Transit (RebootQueue α) (RebootOp α) Unit) → Decidable (Heard x)
  | ⟨_, .request _, _, _⟩ => inferInstanceAs (Decidable (_ ≠ _))
  | ⟨_, .thread, _, _⟩ => inferInstanceAs (Decidable (_ → _ → _))
  | ⟨_, .spurious, _, _⟩ | ⟨_, .free, _, _⟩ | ⟨_, .joined, _, _⟩ => .isTrue trivial

/-- On its way to the wait and in it, the thread has nothing to do. -/
structure Idle (bd : RebootQueue α) : Prop where
  outer : bd.thread = .outer → bd.rebootlist = []
  asleep : bd.thread = .waiting false → bd.rebootlist = []

theorem idle_thread {bd after : RebootQueue α} (hidle : Idle bd)
    (hentry : bd.thread = .entry → bd.rebootState = false → bd.rebootlist = [])
    (hsection : bdRestartThread bd = some after) : Idle after := by
  have hlook : Idle bd.look := by
    constructor
    · intro houter
      have hempty := RebootQueue.look_thread_outer.mp houter
      unfold RebootQueue.look
      rw [hempty]
    · intro hasleep
      exact absurd hasleep (bd.look_thread_ne false)
  unfold bdRestartThread at hsection
  split at hsection <;> cases hsection
  · rename_i hthread
    constructor
    · intro houter
      cases hflag : bd.rebootState
      · exact hentry hthread hflag
      · simp [hflag] at houter
    · intro hasleep
      cases hflag : bd.rebootState <;> simp [hflag] at hasleep
  · rename_i hthread
    exact ⟨fun houter => by simp at houter, fun _ => hidle.outer hthread⟩
  · exact hlook
  · exact ⟨fun houter => by simp at houter, fun hasleep => by simp at hasleep⟩
  · exact hlook

theorem idle_step {x : Transit (RebootQueue α) (RebootOp α) Unit} (hidle : Idle x.before)
    (hheard : Heard x) (hstep : rebootThread.step x.before x.input = some (x.output, x.after)) :
    Idle x.after := by
  obtain ⟨bd, op, output, after⟩ := x
  dsimp only at hidle hstep ⊢
  cases op with
  | request bwv =>
    rw [rebootThread_request hstep]
    constructor
    · intro houter
      rw [RebootQueue.signal_thread_outer] at houter
      exact absurd houter hheard
    · intro hasleep
      exact absurd hasleep (RebootQueue.signal_thread_ne _)
  | thread => exact idle_thread hidle hheard (rebootThread_thread hstep)
  | spurious =>
    rw [(rebootThread_spurious hstep).2]
    exact ⟨fun houter => by simp at houter, fun hasleep => by simp at hasleep⟩
  | free =>
    rw [rebootThread_free hstep]
    constructor
    · intro houter
      rw [bdFreeSignal, RebootQueue.signal_thread_outer] at houter
      rw [bdFreeSignal, RebootQueue.signal_rebootlist]
      exact hidle.outer houter
    · intro hasleep
      exact absurd hasleep (RebootQueue.signal_thread_ne _)
  | joined =>
    rw [(rebootThread_joined hstep).2]
    exact ⟨fun _ => rfl, fun _ => rfl⟩

/-- If every request is made where the thread hears of it, a thread that
sleeps with no wake-up pending has no reboot to do. -/
theorem asleep_without_reboots {transits : List (Transit (RebootQueue α) (RebootOp α) Unit)}
    {bd : RebootQueue α} (run : Run rebootThread RebootQueue.new transits bd)
    (hheard : ∀ x ∈ transits, Heard x) (hasleep : bd.thread = .waiting false) :
    bd.rebootlist = [] := by
  have hnew : Idle (RebootQueue.new : RebootQueue α) := by
    constructor <;> intro <;> rfl
  have hidle : Idle bd := run.invariant hnew (fun x => idle_step) hheard
  exact hidle.asleep hasleep

def servedReboot : List (RebootOp Nat) :=
  [.thread, .thread, .request 7, .thread, .thread, .thread, .thread]

theorem asleep_without_reboots_served :
    ∃ transits bd, rebootThread.exec RebootQueue.new servedReboot = some (transits, bd) ∧
      bd.thread = .waiting false ∧ bd.rebootlist = [] := by
  have hrun : (rebootThread.exec RebootQueue.new servedReboot).any
      (fun run => run.1.all (fun x => decide (Heard x)) && run.2.thread == .waiting false) =
        true := by
    decide +kernel
  obtain ⟨⟨transits, bd⟩, hexec, hall⟩ := (Option.any_eq_true _ _).mp hrun
  simp only [Bool.and_eq_true, List.all_eq_true, decide_eq_true_eq, beq_iff_eq] at hall
  exact ⟨transits, bd, hexec, hall.2, asleep_without_reboots (Machine.exec_run hexec) hall.1 hall.2⟩

/-- After a request that is made elsewhere the thread goes to sleep with the
list not empty. -/
theorem lost_of_not_heard {x : Transit (RebootQueue α) (RebootOp α) Unit} (hlost : ¬Heard x)
    (hstep : rebootThread.step x.before x.input = some (x.output, x.after)) :
    ∃ asleep, rebootThread.step x.after .thread = some ((), asleep) ∧
      asleep.thread = .waiting false ∧ asleep.rebootlist ≠ [] := by
  obtain ⟨bd, op, output, after⟩ := x
  dsimp only [Heard] at hlost hstep ⊢
  have hsleep (houter : after.thread = .outer) :
      rebootThread.step after .thread = some ((), { after with thread := .waiting false }) := by
    simp [rebootThread, bdRestartThread, houter]
  cases op with
  | request bwv =>
    have houter : after.thread = .outer := by
      rw [rebootThread_request hstep, RebootQueue.signal_thread_outer]
      exact not_not.mp hlost
    refine ⟨_, hsleep houter, rfl, ?_⟩
    simp [rebootThread_request hstep]
  | thread =>
    push Not at hlost
    obtain ⟨hentry, hflag, hlist⟩ := hlost
    have hsection := rebootThread_thread hstep
    rw [bdRestartThread, hentry, hflag] at hsection
    cases hsection
    exact ⟨_, hsleep rfl, rfl, hlist⟩
  | _ => exact absurd trivial hlost

def earlyRequest : List (RebootOp Nat) := [.thread, .request 7, .thread]

/-- The thread sleeps although a reboot is asked for. -/
theorem reboot_lost :
    ¬∀ (transits : List (Transit (RebootQueue Nat) (RebootOp Nat) Unit)) (bd : RebootQueue Nat),
      Run rebootThread RebootQueue.new transits bd → bd.thread = .waiting false →
        bd.rebootlist = [] := by
  have hrun : (rebootThread.exec RebootQueue.new earlyRequest).any
      (fun run => run.2.thread == .waiting false && run.2.rebootlist == [7]) = true := by
    decide +kernel
  obtain ⟨⟨transits, bd⟩, hexec, hlost⟩ := (Option.any_eq_true _ _).mp hrun
  simp only [Bool.and_eq_true, beq_iff_eq] at hlost
  intro hnever
  have hempty := hnever transits bd (Machine.exec_run hexec) hlost.1
  rw [hlost.2] at hempty
  contradiction

/-! The shutdown. -/

/-- The step that makes the thread wait. -/
def EntersWait (x : Transit (RebootQueue α) (RebootOp α) Unit) : Prop :=
  (∀ woken, x.before.thread ≠ .waiting woken) ∧ ∃ woken, x.after.thread = .waiting woken

/-- The flag is not set on the thread's way to its wait, and while it is set
the thread finds a machine whenever it looks at the list. -/
def Answered : Transit (RebootQueue α) (RebootOp α) Unit → Prop
  | ⟨bd, .free, _, _⟩ => bd.thread ≠ .outer
  | ⟨bd, .thread, _, _⟩ => bd.rebootState = true → bd.looks = true → bd.rebootlist ≠ []
  | _ => True

instance [DecidableEq α] : (x : Transit (RebootQueue α) (RebootOp α) Unit) → Decidable (Answered x)
  | ⟨_, .free, _, _⟩ => inferInstanceAs (Decidable (_ ≠ _))
  | ⟨_, .thread, _, _⟩ => inferInstanceAs (Decidable (_ → _ → _))
  | ⟨_, .spurious, _, _⟩ | ⟨_, .request _, _, _⟩ | ⟨_, .joined, _, _⟩ => .isTrue trivial

/-- The thread is on its way to the wait only while it may run. -/
def Stoppable (bd : RebootQueue α) : Prop := bd.thread = .outer → bd.rebootState = false

theorem stoppable_look {bd : RebootQueue α} (hlist : bd.rebootState = true → bd.rebootlist ≠ []) :
    Stoppable bd.look := by
  intro houter
  have hempty := RebootQueue.look_thread_outer.mp houter
  rw [RebootQueue.look_rebootState]
  cases hflag : bd.rebootState
  · rfl
  · exact absurd hempty (hlist hflag)

theorem stoppable_thread {bd after : RebootQueue α}
    (hlist : bd.rebootState = true → bd.looks = true → bd.rebootlist ≠ [])
    (hsection : bdRestartThread bd = some after) : Stoppable after := by
  unfold bdRestartThread at hsection
  split at hsection <;> cases hsection
  · intro houter
    cases hflag : bd.rebootState
    · rfl
    · simp [hflag] at houter
  · exact fun houter => by simp at houter
  · rename_i hthread
    exact stoppable_look fun hflag => hlist hflag (by simp [RebootQueue.looks, hthread])
  · exact fun houter => by simp at houter
  · rename_i hthread
    exact stoppable_look fun hflag => hlist hflag (by simp [RebootQueue.looks, hthread])

theorem stoppable_step {x : Transit (RebootQueue α) (RebootOp α) Unit} (hstop : Stoppable x.before)
    (hanswered : Answered x)
    (hstep : rebootThread.step x.before x.input = some (x.output, x.after)) :
    Stoppable x.after := by
  obtain ⟨bd, op, output, after⟩ := x
  dsimp only at hstop hstep ⊢
  cases op with
  | request bwv =>
    rw [rebootThread_request hstep]
    intro houter
    rw [RebootQueue.signal_thread_outer] at houter
    rw [RebootQueue.signal_rebootState]
    exact hstop houter
  | thread => exact stoppable_thread hanswered (rebootThread_thread hstep)
  | spurious =>
    rw [(rebootThread_spurious hstep).2]
    exact fun houter => by simp at houter
  | free =>
    rw [rebootThread_free hstep]
    intro houter
    rw [bdFreeSignal, RebootQueue.signal_thread_outer] at houter
    exact absurd houter hanswered
  | joined =>
    obtain ⟨hfinished, hafter⟩ := rebootThread_joined hstep
    rw [hafter]
    intro houter
    have houter : bd.thread = .outer := houter
    rw [hfinished] at houter
    cases houter

theorem enters_from_outer {x : Transit (RebootQueue α) (RebootOp α) Unit} (henters : EntersWait x)
    (hstep : rebootThread.step x.before x.input = some (x.output, x.after)) :
    x.before.thread = .outer ∧ x.input = .thread := by
  obtain ⟨bd, op, output, after⟩ := x
  obtain ⟨hawake, woken, hwaits⟩ := henters
  dsimp only at hawake hwaits hstep ⊢
  cases op with
  | request bwv =>
    have hsame : (bd.insertTail bwv).signal = bd.insertTail bwv :=
      RebootQueue.signal_of_awake hawake
    rw [rebootThread_request hstep, hsame] at hwaits
    exact absurd hwaits (hawake woken)
  | thread =>
    have hsection := rebootThread_thread hstep
    unfold bdRestartThread at hsection
    split at hsection <;> cases hsection
    · cases hflag : bd.rebootState <;> simp [hflag] at hwaits
    · exact ⟨by assumption, rfl⟩
    · exact absurd hwaits (bd.look_thread_ne woken)
    · simp at hwaits
    · exact absurd hwaits (bd.look_thread_ne woken)
  | spurious =>
    obtain ⟨⟨sleeping, hthread⟩, _⟩ := rebootThread_spurious hstep
    exact absurd hthread (hawake sleeping)
  | free =>
    have hsame : bdFreeSignal bd = { bd with rebootState := true } :=
      RebootQueue.signal_of_awake hawake
    rw [rebootThread_free hstep, hsame] at hwaits
    exact absurd hwaits (hawake woken)
  | joined =>
    rw [(rebootThread_joined hstep).2] at hwaits
    exact absurd hwaits (hawake woken)

/-- If the flag is set where the thread still reads it, the thread does not
wait again. -/
theorem no_wait_after_shutdown {transits : List (Transit (RebootQueue α) (RebootOp α) Unit)}
    {bd : RebootQueue α} (run : Run rebootThread RebootQueue.new transits bd)
    (hanswered : ∀ x ∈ transits, Answered x) :
    ∀ x ∈ transits, EntersWait x → x.before.rebootState = false := by
  intro x hx henters
  have hnew : Stoppable (RebootQueue.new : RebootQueue α) := fun _ => rfl
  have hstop := run.invariant_before hnew (fun x => stoppable_step) hanswered x hx
  exact hstop (enters_from_outer henters (run.step_mem hx)).1

def freedWithReboot : List (RebootOp Nat) :=
  [.thread, .thread, .request 7, .free, .thread, .joined]

theorem no_wait_after_shutdown_freed :
    ∃ transits bd, rebootThread.exec RebootQueue.new freedWithReboot = some (transits, bd) ∧
      ∀ x ∈ transits, EntersWait x → x.before.rebootState = false := by
  have hrun : (rebootThread.exec RebootQueue.new freedWithReboot).any
      (fun run => run.1.all fun x => decide (Answered x)) = true := by
    decide +kernel
  obtain ⟨⟨transits, bd⟩, hexec, hall⟩ := (Option.any_eq_true _ _).mp hrun
  simp only [List.all_eq_true, decide_eq_true_eq] at hall
  exact ⟨transits, bd, hexec, no_wait_after_shutdown (Machine.exec_run hexec) hall⟩

theorem waits_of_not_answered {x : Transit (RebootQueue α) (RebootOp α) Unit}
    (hmissed : ¬Answered x)
    (hstep : rebootThread.step x.before x.input = some (x.output, x.after)) :
    ∃ asleep, rebootThread.step x.after .thread = some ((), asleep) ∧
      EntersWait ⟨x.after, .thread, (), asleep⟩ ∧ x.after.rebootState = true := by
  obtain ⟨bd, op, output, after⟩ := x
  dsimp only [Answered] at hmissed hstep ⊢
  have hsleep (houter : after.thread = .outer) :
      rebootThread.step after .thread = some ((), { after with thread := .waiting false }) := by
    simp [rebootThread, bdRestartThread, houter]
  have henters (houter : after.thread = .outer) :
      EntersWait ⟨after, .thread, (), { after with thread := .waiting false }⟩ :=
    ⟨fun woken => by simp [houter], false, rfl⟩
  cases op with
  | free =>
    have houter : after.thread = .outer := by
      rw [rebootThread_free hstep, bdFreeSignal, RebootQueue.signal_thread_outer]
      exact not_not.mp hmissed
    refine ⟨_, hsleep houter, henters houter, ?_⟩
    rw [rebootThread_free hstep, bdFreeSignal, RebootQueue.signal_rebootState]
  | thread =>
    push Not at hmissed
    obtain ⟨hflag, hlooks, hempty⟩ := hmissed
    have hsection := rebootThread_thread hstep
    have hafter : after = bd.look := by
      unfold bdRestartThread at hsection
      unfold RebootQueue.looks at hlooks
      split at hsection <;> simp_all
    have houter : after.thread = .outer := by
      rw [hafter, RebootQueue.look_thread_outer]
      exact hempty
    refine ⟨_, hsleep houter, henters houter, ?_⟩
    rw [hafter, RebootQueue.look_rebootState]
    exact hflag
  | _ => exact absurd trivial hmissed

def freedAsleep : List (RebootOp Nat) := [.thread, .thread, .free, .thread, .thread]

/-- The thread is woken to finish, and waits again. -/
theorem shutdown_missed :
    ¬∀ (transits : List (Transit (RebootQueue Nat) (RebootOp Nat) Unit)) (bd : RebootQueue Nat),
      Run rebootThread RebootQueue.new transits bd →
        ∀ x ∈ transits, EntersWait x → x.before.rebootState = false := by
  have hrun : (rebootThread.exec RebootQueue.new freedAsleep).any
      (fun run => run.1.any fun x =>
        x.before.thread == .outer && x.after.thread == .waiting false && x.before.rebootState) =
          true := by
    decide +kernel
  obtain ⟨⟨transits, bd⟩, hexec, hmissed⟩ := (Option.any_eq_true _ _).mp hrun
  simp only [List.any_eq_true, Bool.and_eq_true, beq_iff_eq] at hmissed
  obtain ⟨x, hx, ⟨houter, hwaits⟩, hflag⟩ := hmissed
  intro hnever
  have henters : EntersWait x := ⟨fun woken => by simp [houter], false, hwaits⟩
  have hclear := hnever transits bd (Machine.exec_run hexec) x hx henters
  rw [hflag] at hclear
  contradiction

end Vmstated.Properties
