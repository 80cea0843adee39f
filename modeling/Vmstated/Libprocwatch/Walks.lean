import Mathlib.Tactic.IntervalCases
import Vmstated.Libprocwatch.Transitions

/-! Sequences of transitions. They follow the walks of the library: a hook
that does not succeed ends the sequence where it is. -/
namespace Vmstated.Libprocwatch
open Library

abbrev Hooks := Oracle VmState HookOutcome

abbrev hooksPass (hooks : Hooks) (n : Nat) (path : List VmState) : Bool :=
  Passes HookOutcome.good hooks n path

abbrev hookArrival (hooks : Hooks) (n : Nat) (start : VmState) (path : List VmState) : VmState :=
  arrival HookOutcome.good hooks n start path

abbrev hooksAsked (hooks : Hooks) (n : Nat) (path : List VmState) : Nat :=
  asked HookOutcome.good hooks n path

abbrev hooksMade (hooks : Hooks) (n : Nat) (path : List VmState) : Nat :=
  made HookOutcome.good hooks n path

def pathOk (start : VmState) : List VmState → Bool
  | [] => true
  | next :: path => edge start next && next != .init && pathOk next path

def Event.quiet : Event → Bool
  | .request .. | .hook .. => true
  | _ => false

def Event.starts : Event → Bool
  | .request .. | .hook .. | .launch .. => true
  | _ => false

def Event.stops : Event → Bool
  | .request .. | .hook .. | .kill .. => true
  | _ => false

def Event.exits : Event → Bool
  | .request .. | .hook .. | .onexit .. | .requestReboot .. => true
  | _ => false

/-- No request without a table entry. -/
def Event.found : Event → Bool
  | .request _ _ found => found
  | _ => true

def Event.failsIn (states : VmState → Bool) : Event → Bool
  | .hook state outcome => states state && !outcome.good
  | _ => false

abbrev Adds (kind : Event → Bool) (psv psv' : ProcessStateVm) : Prop :=
  ∃ events, psv'.os.trace = psv.os.trace ++ events ∧ ∀ e ∈ events, kind e = true

section
variable {kind kind' : Event → Bool} {psv psv' psv'' : ProcessStateVm}

theorem Adds.refl (kind : Event → Bool) (psv : ProcessStateVm) : Adds kind psv psv :=
  ⟨[], by simp, by simp⟩

theorem Adds.trans (h : Adds kind psv psv') (h' : Adds kind psv' psv'') : Adds kind psv psv'' := by
  obtain ⟨first, hfirst, hkind⟩ := h
  obtain ⟨second, hsecond, hkind'⟩ := h'
  refine ⟨first ++ second, ?_, ?_⟩
  · rw [hsecond, hfirst, List.append_assoc]
  · intro e he
    rcases List.mem_append.mp he with he | he
    · exact hkind e he
    · exact hkind' e he

theorem Adds.mono (h : Adds kind psv psv') (hle : ∀ e, kind e = true → kind' e = true) :
    Adds kind' psv psv' := by
  obtain ⟨events, htrace, hkind⟩ := h
  exact ⟨events, htrace, fun e he => hle e (hkind e he)⟩

theorem Adds.log (psv : ProcessStateVm) {event : Event} (hevent : kind event = true) :
    Adds kind psv (psv.log event) :=
  ⟨[event], rfl, by simpa using hevent⟩

theorem Adds.mem_before (h : Adds kind psv psv') {e : Event} (he : e ∈ psv'.os.trace)
    (hkind : kind e = false) : e ∈ psv.os.trace := by
  obtain ⟨events, htrace, hevents⟩ := h
  rw [htrace] at he
  rcases List.mem_append.mp he with he | he
  · exact he
  · rw [hevents e he] at hkind
    exact absurd hkind (by decide)

theorem Adds.mem_after (h : Adds kind psv psv') {e : Event} (he : e ∈ psv.os.trace) :
    e ∈ psv'.os.trace := by
  obtain ⟨events, htrace, _⟩ := h
  rw [htrace]
  exact List.mem_append_left events he

theorem Adds.filterMap {α : Type} {f : Event → Option α} (h : Adds kind psv psv')
    (hf : ∀ e, kind e = true → f e = none) :
    psv'.os.trace.filterMap f = psv.os.trace.filterMap f := by
  obtain ⟨events, htrace, hkind⟩ := h
  have hnone : events.filterMap f = [] := by
    rw [List.filterMap_eq_nil_iff]
    exact fun e he => hf e (hkind e he)
  rw [htrace, List.filterMap_append, hnone, List.append_nil]

end

/-- `psv'` comes from `psv` by transitions alone. -/
structure Quiet (psv psv' : ProcessStateVm) : Prop where
  processid : psv'.processid = psv.processid
  rmo : psv'.rmo = psv.rmo
  procs : psv'.os.procs = psv.os.procs
  trace : Adds Event.quiet psv psv'

theorem Quiet.refl (psv : ProcessStateVm) : Quiet psv psv :=
  ⟨rfl, rfl, rfl, .refl _ _⟩

theorem Quiet.trans {psv psv' psv'' : ProcessStateVm} (h : Quiet psv psv') (h' : Quiet psv' psv'') :
    Quiet psv psv'' :=
  ⟨h'.processid.trans h.processid, h'.rmo.trans h.rmo, h'.procs.trans h.procs,
    h.trace.trans h'.trace⟩

namespace ProcessStateVm

@[simp] theorem call_state (hooks : Hooks) (psv : ProcessStateVm) :
    (psv.call hooks).state = psv.state := rfl

@[simp] theorem call_hooks (hooks : Hooks) (psv : ProcessStateVm) :
    (psv.call hooks).os.hooks = hooks := rfl

@[simp] theorem call_trace (hooks : Hooks) (psv : ProcessStateVm) :
    (psv.call hooks).os.trace = [] := rfl

@[simp] theorem call_procs (hooks : Hooks) (psv : ProcessStateVm) :
    (psv.call hooks).os.procs = psv.os.procs := rfl

@[simp] theorem call_processid (hooks : Hooks) (psv : ProcessStateVm) :
    (psv.call hooks).processid = psv.processid := rfl

@[simp] theorem call_rmo (hooks : Hooks) (psv : ProcessStateVm) :
    (psv.call hooks).rmo = psv.rmo := rfl

@[simp] theorem missed_state (psv : ProcessStateVm) (target : VmState) :
    (psv.missed target).state = psv.state := rfl

@[simp] theorem missed_hooks (psv : ProcessStateVm) (target : VmState) :
    (psv.missed target).os.hooks = psv.os.hooks := rfl

@[simp] theorem hooked_state (psv : ProcessStateVm) (target : VmState) :
    (psv.hooked target).state = psv.state := rfl

@[simp] theorem hooked_hooks (psv : ProcessStateVm) (target : VmState) :
    (psv.hooked target).os.hooks = psv.os.hooks.drop 1 := rfl

@[simp] theorem entered_state (psv : ProcessStateVm) (target : VmState) :
    (psv.entered target).state = target := rfl

@[simp] theorem entered_hooks (psv : ProcessStateVm) (target : VmState) :
    (psv.entered target).os.hooks = psv.os.hooks.drop 1 := rfl

theorem quiet_missed (psv : ProcessStateVm) (target : VmState) : Quiet psv (psv.missed target) :=
  ⟨rfl, rfl, rfl, _, rfl, by simp [Event.quiet]⟩

theorem quiet_hooked (psv : ProcessStateVm) (target : VmState) : Quiet psv (psv.hooked target) :=
  ⟨rfl, rfl, rfl, _, rfl, by simp [Event.quiet]⟩

theorem quiet_entered (psv : ProcessStateVm) (target : VmState) : Quiet psv (psv.entered target) :=
  ⟨rfl, rfl, rfl, _, rfl, by simp [Event.quiet]⟩

/-- What a sequence of transitions along a path with table entries leaves. -/
def walk (psv : ProcessStateVm) : List VmState → ProcessStateVm
  | [] => psv
  | next :: path =>
    if (psv.os.hooks 0 next).good then (psv.entered next).walk path else psv.hooked next

theorem walk_state (psv : ProcessStateVm) (path : List VmState) :
    (psv.walk path).state = hookArrival psv.os.hooks 0 psv.state path := by
  induction path generalizing psv with
  | nil => rfl
  | cons next path ih =>
    simp only [walk, hookArrival, arrival]
    split
    · rw [ih, entered_hooks, entered_state, hookArrival, arrival_drop]
    · rfl

theorem walk_hooks (psv : ProcessStateVm) (path : List VmState) :
    (psv.walk path).os.hooks = psv.os.hooks.drop (hooksAsked psv.os.hooks 0 path) := by
  induction path generalizing psv with
  | nil => rfl
  | cons next path ih =>
    simp only [walk, hooksAsked, asked]
    split
    · rw [ih, entered_hooks, hooksAsked, asked_drop, Oracle.drop_drop, Nat.add_comm]
    · rfl

theorem quiet_walk (psv : ProcessStateVm) (path : List VmState) : Quiet psv (psv.walk path) := by
  induction path generalizing psv with
  | nil => exact Quiet.refl psv
  | cons next path ih =>
    rw [walk]
    split
    · exact (psv.quiet_entered next).trans (ih _)
    · exact psv.quiet_hooked next

theorem adds_walk {kind : Event → Bool} (hkind : ∀ e : Event, e.quiet = true → kind e = true)
    (psv : ProcessStateVm) (path : List VmState) : Adds kind psv (psv.walk path) :=
  (psv.quiet_walk path).trace.mono hkind

theorem walk_found (psv : ProcessStateVm) (path : List VmState) :
    Adds Event.found psv (psv.walk path) := by
  have hhooked (psv : ProcessStateVm) (target : VmState) :
      Adds Event.found psv (psv.hooked target) :=
    ⟨_, rfl, by simp [Event.found]⟩
  have hentered (psv : ProcessStateVm) (target : VmState) :
      Adds Event.found psv (psv.entered target) :=
    hhooked psv target
  induction path generalizing psv with
  | nil => exact .refl _ psv
  | cons next path ih =>
    rw [walk]
    split
    · exact (hentered psv next).trans (ih _)
    · exact hhooked psv next

theorem walk_succeeds (states : VmState → Bool) {psv : ProcessStateVm} {path : List VmState}
    (hpass : hooksPass psv.os.hooks 0 path = true) :
    Adds (fun e => !e.failsIn states) psv (psv.walk path) := by
  induction path generalizing psv with
  | nil => exact .refl _ psv
  | cons next path ih =>
    rw [hooksPass, passes_cons, Bool.and_eq_true] at hpass
    have hrest : hooksPass (psv.entered next).os.hooks 0 path = true := by
      rw [entered_hooks, hooksPass, passes_drop]
      exact hpass.2
    have hentered : Adds (fun e => !e.failsIn states) psv (psv.entered next) :=
      ⟨_, rfl, by simp [Event.failsIn, hpass.1]⟩
    rw [walk, if_pos hpass.1]
    exact hentered.trans (ih hrest)

theorem walk_fails_only {states : VmState → Bool} (psv : ProcessStateVm) {path : List VmState}
    (hstates : ∀ state ∈ path, states state = false) :
    Adds (fun e => !e.failsIn states) psv (psv.walk path) := by
  induction path generalizing psv with
  | nil => exact .refl _ psv
  | cons next path ih =>
    have hnext := hstates next List.mem_cons_self
    have hhooked : Adds (fun e => !e.failsIn states) psv (psv.hooked next) :=
      ⟨_, rfl, by simp [Event.failsIn, hnext]⟩
    have hentered : Adds (fun e => !e.failsIn states) psv (psv.entered next) := hhooked
    rw [walk]
    split
    · exact hentered.trans (ih _ fun state hstate => hstates state (List.mem_cons_of_mem _ hstate))
    · exact hhooked

theorem hooked_fails {states : VmState → Bool} {psv : ProcessStateVm} {target : VmState}
    (hbad : ¬(psv.os.hooks 0 target).good = true) (hstates : states target = true) :
    ∃ e ∈ (psv.hooked target).os.trace, e.failsIn states = true := by
  refine ⟨.hook target (psv.os.hooks 0 target), by simp [hooked], ?_⟩
  simp [Event.failsIn, hstates, hbad]

theorem walk_fails {states : VmState → Bool} {psv : ProcessStateVm} {path : List VmState}
    (hpass : hooksPass psv.os.hooks 0 path = false)
    (hstates : ∀ state ∈ path, states state = true) :
    ∃ e ∈ (psv.walk path).os.trace, e.failsIn states = true := by
  induction path generalizing psv with
  | nil => cases hpass
  | cons next path ih =>
    rw [walk]
    split
    · rename_i hgood
      rw [hooksPass, passes_cons, hgood, Bool.true_and] at hpass
      apply ih
      · rw [entered_hooks, hooksPass, passes_drop]
        exact hpass
      · exact fun state hstate => hstates state (List.mem_cons_of_mem _ hstate)
    · rename_i hbad
      exact hooked_fails hbad (hstates next List.mem_cons_self)

end ProcessStateVm

/-- No hook of one of these states failed. -/
def NoneFails (states : VmState → Bool) (psv : ProcessStateVm) : Prop :=
  ∀ e ∈ psv.os.trace, e.failsIn states = false

instance (states : VmState → Bool) (psv : ProcessStateVm) : Decidable (NoneFails states psv) :=
  inferInstanceAs (Decidable (∀ e ∈ psv.os.trace, e.failsIn states = false))

abbrev NoHookFails (psv : ProcessStateVm) : Prop := NoneFails (fun _ => true) psv

theorem NoneFails.before {states : VmState → Bool} {kind : Event → Bool} {psv psv' : ProcessStateVm}
    (h : NoneFails states psv') (hadds : Adds kind psv psv') : NoneFails states psv :=
  fun e he => h e (hadds.mem_after he)

theorem NoneFails.after {states : VmState → Bool} {psv psv' : ProcessStateVm}
    (h : NoneFails states psv) (hadds : Adds (fun e => !e.failsIn states) psv psv') :
    NoneFails states psv' := by
  obtain ⟨events, htrace, hevents⟩ := hadds
  intro e he
  rw [htrace] at he
  rcases List.mem_append.mp he with he | he
  · exact h e he
  · simpa using hevents e he

theorem NoneFails.not_fails {states : VmState → Bool} {psv : ProcessStateVm}
    (h : NoneFails states psv) :
    ¬∃ e ∈ psv.os.trace, e.failsIn states = true := by
  rintro ⟨e, he, hfails⟩
  rw [h e he] at hfails
  exact absurd hfails (by decide)

theorem NoneFails.walk_passes {states : VmState → Bool} {psv : ProcessStateVm} {path : List VmState}
    (h : NoneFails states (psv.walk path)) (hstates : ∀ state ∈ path, states state = true) :
    hooksPass psv.os.hooks 0 path = true := by
  by_contra hpass
  rw [Bool.not_eq_true] at hpass
  exact h.not_fails (ProcessStateVm.walk_fails hpass hstates)

theorem NoneFails.hooked_good {states : VmState → Bool} {psv : ProcessStateVm} {target : VmState}
    (h : NoneFails states (psv.hooked target)) (hstates : states target = true) :
    (psv.os.hooks 0 target).good = true := by
  by_contra hbad
  exact h.not_fails (ProcessStateVm.hooked_fails hbad hstates)

theorem psvTransitions_eq {psv : ProcessStateVm} {path : List VmState}
    (hpath : pathOk psv.state path = true) :
    psvTransitions path psv =
      (if hooksPass psv.os.hooks 0 path then 0 else -1, psv.walk path) := by
  induction path generalizing psv with
  | nil => rfl
  | cons next path ih =>
    simp only [pathOk, Bool.and_eq_true, bne_iff_ne] at hpath
    obtain ⟨⟨hedge, hinit⟩, hrest⟩ := hpath
    simp only [psvTransitions, bind_apply, psvTransitionto_eq hinit, hedge, ↓reduceIte, hooksPass,
      passes_cons, ProcessStateVm.walk]
    by_cases hgood : (psv.os.hooks 0 next).good = true
    · have hnext : psvTransitions path (psv.entered next) = _ := ih hrest
      simp only [hgood, ↓reduceIte, ne_eq, not_true_eq_false, hnext, ProcessStateVm.entered_hooks,
        hooksPass, passes_drop, Bool.true_and]
    · simp [hgood]

theorem pathOk_failureSequence (start : VmState) : pathOk start failureSequence = true := by
  cases start <;> rfl

theorem psvFailurestate_eq (psv : ProcessStateVm) :
    psvFailurestate psv =
      (if hooksPass psv.os.hooks 0 failureSequence then 0 else -1, psv.walk failureSequence) :=
  psvTransitions_eq (pathOk_failureSequence psv.state)

def failureReaches (hooks : Hooks) (n : Nat) : Bool :=
  3 ≤ hooksMade hooks n failureSequence

/-- From `state` the failure sequence ends in a state of `rest`: it gets to
`stopped`, or makes no move from such a state. -/
def failureRests (rest : VmState → Bool) (hooks : Hooks) (n : Nat) (state : VmState) : Bool :=
  failureReaches hooks n || hooksMade hooks n failureSequence == 0 && rest state

theorem rest_failureEnd {rest : VmState → Bool} (hstopped : rest .stopped = true)
    (hfailed : rest .failed = true) (hstorage : rest .stopStorage = false)
    (hnetwork : rest .stopNetwork = false) (hooks : Hooks) (n : Nat) (state : VmState) :
    rest (hookArrival hooks n state failureSequence) = failureRests rest hooks n state := by
  have hle : made HookOutcome.good hooks n failureSequence ≤ 4 := made_le_length _ _ _ _
  rw [hookArrival, arrival_eq_made]
  unfold failureRests failureReaches hooksMade
  generalize made HookOutcome.good hooks n failureSequence = k at hle ⊢
  interval_cases k
  · rfl
  · exact hstorage
  · exact hnetwork
  · exact hstopped
  · exact hfailed

theorem failureRests_drop (rest : VmState → Bool) (hooks : Hooks) (m n : Nat) (state : VmState) :
    failureRests rest (hooks.drop m) n state = failureRests rest hooks (n + m) state := by
  unfold failureRests failureReaches hooksMade
  rw [made_drop]

theorem failureRests_of_not {rest : VmState → Bool} {state : VmState} (h : rest state = false)
    (hooks : Hooks) (n : Nat) : failureRests rest hooks n state = failureReaches hooks n := by
  unfold failureRests
  rw [h, Bool.and_false, Bool.or_false]

end Vmstated.Libprocwatch
