import Vmstated.Library.Machine

/-! A monitor reads a sequence of events and objects to some of them. Run
beside a machine it keeps what the machine's history tells about the next
event. -/
namespace Vmstated.Library

structure Monitor (ρ ε : Type) where
  next : ρ → ε → ρ
  allows : ρ → ε → Bool

namespace Monitor
variable {ρ ε : Type} (m : Monitor ρ ε)

def run (r : ρ) (events : List ε) : ρ := events.foldl m.next r

def accepts : ρ → List ε → Bool
  | _, [] => true
  | r, event :: events => m.allows r event && accepts (m.next r event) events

@[simp] theorem run_nil (r : ρ) : m.run r [] = r := rfl

@[simp] theorem run_cons (r : ρ) (event : ε) (events : List ε) :
    m.run r (event :: events) = m.run (m.next r event) events := rfl

@[simp] theorem accepts_nil (r : ρ) : m.accepts r [] = true := rfl

@[simp] theorem accepts_cons (r : ρ) (event : ε) (events : List ε) :
    m.accepts r (event :: events) = (m.allows r event && m.accepts (m.next r event) events) := rfl

@[simp] theorem run_append (r : ρ) (first second : List ε) :
    m.run r (first ++ second) = m.run (m.run r first) second := List.foldl_append

@[simp] theorem accepts_append (r : ρ) (first second : List ε) :
    m.accepts r (first ++ second) = (m.accepts r first && m.accepts (m.run r first) second) := by
  induction first generalizing r with
  | nil => simp
  | cons event events ih => simp [ih, Bool.and_assoc]

/-- Events the monitor has no eye for. -/
def Ignores (events : List ε) : Prop :=
  ∀ event ∈ events, ∀ r, m.next r event = r ∧ m.allows r event = true

theorem run_of_ignores {events : List ε} (h : m.Ignores events) (r : ρ) : m.run r events = r := by
  induction events generalizing r with
  | nil => rfl
  | cons event events ih =>
    rw [run_cons, (h event List.mem_cons_self r).1]
    exact ih (fun e he => h e (List.mem_cons_of_mem event he)) r

theorem accepts_of_ignores {events : List ε} (h : m.Ignores events) (r : ρ) :
    m.accepts r events = true := by
  induction events generalizing r with
  | nil => rfl
  | cons event events ih =>
    rw [accepts_cons, (h event List.mem_cons_self r).1, (h event List.mem_cons_self r).2,
      Bool.true_and]
    exact ih (fun e he => h e (List.mem_cons_of_mem event he)) r

end Monitor

/-- A machine and a monitor that reads what every step leaves. -/
def Machine.monitored {σ ι ω ρ ε : Type} (machine : Machine σ ι ω) (m : Monitor ρ ε)
    (events : σ → List ε) : Machine (σ × ρ) ι ω where
  step s i := (machine.step s.1 i).map fun result =>
    (result.1, result.2, m.run s.2 (events result.2))

theorem monitored_step {σ ι ω ρ ε : Type} {machine : Machine σ ι ω} {m : Monitor ρ ε}
    {events : σ → List ε} {s t : σ × ρ} {i : ι} {o : ω}
    (hstep : (machine.monitored m events).step s i = some (o, t)) :
    machine.step s.1 i = some (o, t.1) ∧ t.2 = m.run s.2 (events t.1) := by
  obtain ⟨⟨output, after⟩, hmachine, hresult⟩ := Option.map_eq_some_iff.mp hstep
  cases hresult
  exact ⟨hmachine, rfl⟩

end Vmstated.Library
