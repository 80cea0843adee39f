import Mathlib.Data.List.Basic
import Mathlib.Tactic.Common

/-! Finite runs of a machine with inputs, outputs and partial steps. A run
keeps every transit it made, so that properties may speak about its history. -/
namespace Vmstated.Library

structure Machine (σ ι ω : Type) where
  step : σ → ι → Option (ω × σ)

structure Transit (σ ι ω : Type) where
  before : σ
  input : ι
  output : ω
  after : σ

variable {σ ι ω : Type} {m : Machine σ ι ω}

/-- `Run m s transits t`: from `s` the machine makes `transits`, oldest first,
and is then in `t`. -/
inductive Run (m : Machine σ ι ω) (s : σ) : List (Transit σ ι ω) → σ → Prop where
  | nil : Run m s [] s
  | snoc {transits : List (Transit σ ι ω)} {t u : σ} {i : ι} {o : ω}
      (run : Run m s transits t) (hstep : m.step t i = some (o, u)) :
      Run m s (transits ++ [⟨t, i, o, u⟩]) u

theorem Run.step_mem {s t : σ} {transits : List (Transit σ ι ω)} (run : Run m s transits t)
    {x : Transit σ ι ω} (hx : x ∈ transits) :
    m.step x.before x.input = some (x.output, x.after) := by
  induction run with
  | nil => cases hx
  | snoc _ hstep ih =>
    rcases List.mem_append.mp hx with h | h
    · exact ih h
    · rw [List.mem_singleton.mp h]
      exact hstep

/-- The invariant rule. A transit has to keep `P` only if it is `allowed`, and
the run has to make only such transits. -/
theorem Run.invariant {P : σ → Prop} {allowed : Transit σ ι ω → Prop} {s t : σ}
    {transits : List (Transit σ ι ω)} (run : Run m s transits t) (hinit : P s)
    (hkeep : ∀ x, P x.before → allowed x → m.step x.before x.input = some (x.output, x.after) →
      P x.after)
    (hallowed : ∀ x ∈ transits, allowed x) : P t := by
  induction run with
  | nil => exact hinit
  | @snoc transits v w i o run hstep ih =>
    have hv := ih fun x hx => hallowed x (List.mem_append_left _ hx)
    exact hkeep ⟨v, i, o, w⟩ hv (hallowed ⟨v, i, o, w⟩ (by simp)) hstep

theorem Run.split {s u : σ} {all : List (Transit σ ι ω)} (run : Run m s all u)
    {earlier later : List (Transit σ ι ω)} (hall : all = earlier ++ later) :
    ∃ t, Run m s earlier t ∧ Run m t later u := by
  induction run generalizing later with
  | nil =>
    obtain ⟨rfl, rfl⟩ := List.append_eq_nil_iff.mp hall.symm
    exact ⟨s, .nil, .nil⟩
  | @snoc transits v w i o run hstep ih =>
    rcases List.eq_nil_or_concat later with rfl | ⟨init, last, rfl⟩
    · refine ⟨w, ?_, .nil⟩
      rw [List.append_nil] at hall
      exact hall ▸ run.snoc hstep
    · rw [List.concat_eq_append, ← List.append_assoc] at hall
      rw [List.concat_eq_append]
      obtain ⟨hinit, hlast⟩ := List.append_inj' hall rfl
      obtain ⟨t, before, after⟩ := ih hinit
      refine ⟨t, before, ?_⟩
      rw [← List.singleton_inj.mp hlast]
      exact after.snoc hstep

theorem Run.eq_of_nil {s t : σ} {transits : List (Transit σ ι ω)} (run : Run m s transits t)
    (hnil : transits = []) : t = s := by
  cases run with
  | nil => rfl
  | snoc _ _ => simp at hnil

theorem Run.of_singleton {s u : σ} {x : Transit σ ι ω} (run : Run m s [x] u) :
    x.before = s ∧ x.after = u := by
  generalize hlist : [x] = transits at run
  cases run with
  | nil => cases hlist
  | @snoc transits v w i o run hstep =>
    cases transits with
    | nil =>
      cases List.singleton_inj.mp hlist
      exact ⟨run.eq_of_nil rfl, rfl⟩
    | cons y ys => simp at hlist

theorem Run.after_mid {s u : σ} {x : Transit σ ι ω} {earlier later : List (Transit σ ι ω)}
    (run : Run m s (earlier ++ x :: later) u) : Run m x.after later u := by
  obtain ⟨t, _, rest⟩ := run.split rfl
  have hcons : x :: later = [x] ++ later := rfl
  obtain ⟨v, first, rest⟩ := rest.split hcons
  rw [first.of_singleton.2]
  exact rest

theorem Run.before_mid {s u : σ} {x : Transit σ ι ω} {earlier later : List (Transit σ ι ω)}
    (run : Run m s (earlier ++ x :: later) u) : Run m s earlier x.before := by
  obtain ⟨t, before, rest⟩ := run.split rfl
  have hcons : x :: later = [x] ++ later := rfl
  obtain ⟨v, first, _⟩ := rest.split hcons
  rw [first.of_singleton.1]
  exact before

theorem Run.invariant_before {P : σ → Prop} {allowed : Transit σ ι ω → Prop} {s t : σ}
    {transits : List (Transit σ ι ω)} (run : Run m s transits t) (hinit : P s)
    (hkeep : ∀ x, P x.before → allowed x → m.step x.before x.input = some (x.output, x.after) →
      P x.after)
    (hallowed : ∀ x ∈ transits, allowed x) : ∀ x ∈ transits, P x.before := by
  intro x hx
  obtain ⟨earlier, later, rfl⟩ := List.append_of_mem hx
  apply run.before_mid.invariant hinit hkeep
  exact fun y hy => hallowed y (List.mem_append_left _ hy)

def Machine.exec (m : Machine σ ι ω) : σ → List ι → Option (List (Transit σ ι ω) × σ)
  | s, [] => some ([], s)
  | s, i :: inputs =>
    match m.step s i with
    | none => none
    | some (o, t) =>
      match m.exec t inputs with
      | none => none
      | some (transits, u) => some (⟨s, i, o, t⟩ :: transits, u)

theorem Machine.exec_cons {s u : σ} {i : ι} {inputs : List ι} {transits : List (Transit σ ι ω)}
    (h : m.exec s (i :: inputs) = some (transits, u)) :
    ∃ o t rest, m.step s i = some (o, t) ∧ m.exec t inputs = some (rest, u) ∧
      transits = ⟨s, i, o, t⟩ :: rest := by
  simp only [exec] at h
  split at h
  · contradiction
  · rename_i o t hstep
    split at h
    · contradiction
    · rename_i rest v hrest
      cases h
      exact ⟨o, t, rest, hstep, hrest, rfl⟩

theorem Machine.exec_of_cons {s t u : σ} {i : ι} {o : ω}
    {inputs : List ι} {rest : List (Transit σ ι ω)}
    (hstep : m.step s i = some (o, t)) (hrest : m.exec t inputs = some (rest, u)) :
    m.exec s (i :: inputs) = some (⟨s, i, o, t⟩ :: rest, u) := by
  rw [exec, hstep]
  dsimp only
  rw [hrest]

theorem Run.cons {s t u : σ} {i : ι} {o : ω} {transits : List (Transit σ ι ω)}
    (hstep : m.step s i = some (o, t)) (run : Run m t transits u) :
    Run m s (⟨s, i, o, t⟩ :: transits) u := by
  induction run with
  | nil =>
    have first := (Run.nil : Run m s [] s).snoc hstep
    exact first
  | snoc _ hlast ih => exact Run.snoc ih hlast

theorem Machine.exec_run {s u : σ} {inputs : List ι} {transits : List (Transit σ ι ω)}
    (h : m.exec s inputs = some (transits, u)) : Run m s transits u := by
  induction inputs generalizing s transits with
  | nil =>
    cases h
    exact .nil
  | cons i inputs ih =>
    obtain ⟨o, t, rest, hstep, hrest, rfl⟩ := exec_cons h
    exact Run.cons hstep (ih hrest)

theorem Machine.exec_inputs {s u : σ} {inputs : List ι} {transits : List (Transit σ ι ω)}
    (h : m.exec s inputs = some (transits, u)) : transits.map Transit.input = inputs := by
  induction inputs generalizing s transits with
  | nil =>
    cases h
    rfl
  | cons i inputs ih =>
    obtain ⟨o, t, rest, _, hrest, rfl⟩ := exec_cons h
    rw [List.map_cons, ih hrest]

end Vmstated.Library
