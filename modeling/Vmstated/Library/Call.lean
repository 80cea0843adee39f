import Mathlib.Order.Defs.Unbundled
import Mathlib.Tactic.Common

/-! A C function that reads and writes a structure is a `StateM` program over
that structure. Applying such a program to a state evaluates it; the lemmas
below push the application through the program text. -/
namespace Vmstated.Library

variable {σ τ α β : Type}

@[simp] theorem pure_apply (value : α) (s : σ) : (pure value : StateM σ α) s = (value, s) := rfl

@[simp] theorem bind_apply (first : StateM σ α) (next : α → StateM σ β) (s : σ) :
    (first >>= next) s = next (first s).1 (first s).2 := rfl

@[simp] theorem map_apply (f : α → β) (program : StateM σ α) (s : σ) :
    (f <$> program) s = (f (program s).1, (program s).2) := rfl

@[simp] theorem ite_apply_state (c : Prop) [Decidable c] (yes no : StateM σ α) (s : σ) :
    (if c then yes else no) s = if c then yes s else no s := by
  split <;> rfl

@[simp] theorem get_apply (s : σ) : (get : StateM σ σ) s = (s, s) := rfl

@[simp] theorem modify_apply (f : σ → σ) (s : σ) :
    (modify f : StateM σ PUnit) s = (⟨⟩, f s) := rfl

def Steps (r : σ → σ → Prop) (program : StateM σ α) : Prop := ∀ s, r s (program s).2

section
variable {r : σ → σ → Prop} [IsPreorder σ r]

theorem steps_pure (value : α) : Steps r (pure value : StateM σ α) := fun s => Std.Refl.refl s

theorem steps_get : Steps r (get : StateM σ σ) := fun s => Std.Refl.refl s

theorem Steps.bind {first : StateM σ α} {next : α → StateM σ β} (hfirst : Steps r first)
    (hnext : ∀ value, Steps r (next value)) : Steps r (first >>= next) :=
  fun s => IsTrans.trans _ _ _ (hfirst s) (hnext (first s).1 (first s).2)

end

theorem steps_modify {r : σ → σ → Prop} {f : σ → σ} (h : ∀ s, r s (f s)) :
    Steps r (modify f : StateM σ PUnit) := h

theorem Steps.ite {r : σ → σ → Prop} {c : Prop} [Decidable c] {yes no : StateM σ α}
    (hyes : Steps r yes) (hno : Steps r no) : Steps r (if c then yes else no) := by
  split
  · exact hyes
  · exact hno

/-- What a program returns, whatever state it starts in. -/
def Returns (p : α → Prop) (program : StateM σ α) : Prop := ∀ s, p (program s).1

namespace Returns
variable {p q : α → Prop}

theorem pure {a : α} (h : p a) : Returns p (Pure.pure a : StateM σ α) := fun _ => h

theorem bind {first : StateM σ β} {rest : β → StateM σ α} (h : ∀ b, Returns p (rest b)) :
    Returns p (first >>= rest) :=
  fun s => h (first s).1 (first s).2

theorem ite {c : Prop} [Decidable c] {yes no : StateM σ α}
    (hyes : Returns p yes) (hno : Returns p no) :
    Returns p (if c then yes else no) := by
  split
  · exact hyes
  · exact hno

theorem mono {program : StateM σ α} (h : Returns p program) (hpq : ∀ a, p a → q a) :
    Returns q program :=
  fun s => hpq _ (h s)

end Returns

/-- Run a program on the part of the state that `view` reads and `update`
writes back. -/
def focus (view : τ → σ) (update : τ → σ → τ) (program : StateM σ α) : StateM τ α :=
  fun t => ((program (view t)).1, update t (program (view t)).2)

@[simp] theorem focus_apply (view : τ → σ) (update : τ → σ → τ) (program : StateM σ α) (t : τ) :
    focus view update program t = ((program (view t)).1, update t (program (view t)).2) := rfl

end Vmstated.Library
