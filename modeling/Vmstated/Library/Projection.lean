import Vmstated.Library.Machine

/-! A machine that is seen through a part of its state, as another machine. -/
namespace Vmstated.Library

variable {σ ι ω τ κ υ : Type}

/-- `n` is a part of `m`: a step of `m` leaves what `view` shows, or is a step
of `n` there. -/
structure Part (m : Machine σ ι ω) (n : Machine τ κ υ) where
  view : σ → Option τ
  moves : Transit σ ι ω → Option (Transit τ κ υ)
  rests : ∀ x, m.step x.before x.input = some (x.output, x.after) → moves x = none →
    view x.after = view x.before
  steps : ∀ x y, m.step x.before x.input = some (x.output, x.after) → moves x = some y →
    view x.before = some y.before ∧ n.step y.before y.input = some (y.output, y.after) ∧
      view x.after = some y.after

namespace Part
variable {m : Machine σ ι ω} {n : Machine τ κ υ} (part : Part m n)

def transits (all : List (Transit σ ι ω)) : List (Transit τ κ υ) := all.filterMap part.moves

theorem transits_snoc (all : List (Transit σ ι ω)) (x : Transit σ ι ω) :
    part.transits (all ++ [x]) = part.transits all ++ (part.moves x).toList := by
  rw [transits, List.filterMap_append]
  rfl

theorem run {s t : σ} {all : List (Transit σ ι ω)} (run : Run m s all t)
    {a : τ} (hview : part.view s = some a) :
    ∃ b, part.view t = some b ∧ Run n a (part.transits all) b := by
  induction run with
  | nil => exact ⟨a, hview, Run.nil⟩
  | @snoc all u v i o _ hstep ih =>
    obtain ⟨b, hb, hpart⟩ := ih
    rw [transits_snoc]
    cases hmoves : part.moves ⟨u, i, o, v⟩ with
    | none =>
      rw [Option.toList_none, List.append_nil]
      exact ⟨b, (part.rests _ hstep hmoves).trans hb, hpart⟩
    | some y =>
      obtain ⟨hbefore, hmove, hafter⟩ := part.steps _ y hstep hmoves
      obtain rfl : b = y.before := Option.some.inj (hb.symm.trans hbefore)
      exact ⟨y.after, hafter, hpart.snoc hmove⟩

end Part

end Vmstated.Library
