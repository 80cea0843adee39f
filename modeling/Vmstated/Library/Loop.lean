import Mathlib.Tactic.Common

/-! A loop that need not come to an end. -/
namespace Vmstated.Library

section
variable {σ ρ : Type} (round : σ → Option (Option ρ × σ))

/-- At most `fuel` rounds. One that fails leaves nothing. -/
def loop : Nat → σ → Option (ρ × σ)
  | 0, _ => none
  | fuel + 1, s =>
    match round s with
    | none => none
    | some (some result, t) => some (result, t)
    | some (none, t) => loop fuel t

def Ends (s : σ) (result : ρ) (t : σ) : Prop := ∃ fuel, loop round fuel s = some (result, t)

variable {round} {s t u : σ} {result : ρ}

theorem Ends.of_result {value : ρ} (hround : round s = some (some value, t))
    (h : Ends round s result u) :
    result = value ∧ u = t := by
  obtain ⟨fuel, hloop⟩ := h
  cases fuel with
  | zero => exact absurd hloop (by simp [loop])
  | succ fuel =>
    rw [loop, hround] at hloop
    obtain ⟨rfl, rfl⟩ := Prod.mk.inj (Option.some.inj hloop)
    exact ⟨rfl, rfl⟩

theorem ends_of_result (hround : round s = some (some result, t)) : Ends round s result t := by
  refine ⟨1, ?_⟩
  rw [loop, hround]

theorem not_ends_of_failure (hround : round s = none) : ¬Ends round s result t := by
  rintro ⟨fuel, hloop⟩
  cases fuel with
  | zero => exact absurd hloop (by simp [loop])
  | succ fuel => exact absurd hloop (by simp [loop, hround])

/-- Every round goes on, and keeps what makes the next one go on. -/
theorem not_ends_of_invariant {I : σ → Prop}
    (hkeep : ∀ s, I s → ∃ t, round s = some (none, t) ∧ I t) (hs : I s) :
    ¬Ends round s result u := by
  rintro ⟨fuel, hloop⟩
  induction fuel generalizing s with
  | zero => exact absurd hloop (by simp [loop])
  | succ fuel ih =>
    obtain ⟨t, hround, ht⟩ := hkeep s hs
    rw [loop, hround] at hloop
    exact ih ht hloop

theorem not_ends_of_round {I : σ → Prop} (hkeep : ∀ s, I s → ∃ t, round s = some (none, t) ∧ I t)
    (hround : round s = some (none, t)) (ht : I t) : ¬Ends round s result u := by
  rintro ⟨fuel, hloop⟩
  cases fuel with
  | zero => exact absurd hloop (by simp [loop])
  | succ fuel =>
    rw [loop, hround] at hloop
    exact not_ends_of_invariant hkeep ht ⟨fuel, hloop⟩

/-! Rounds one after the other. -/

theorem loop_mono {fuel more : Nat} (hle : fuel ≤ more)
    (hloop : loop round fuel s = some (result, t)) :
    loop round more s = some (result, t) := by
  induction fuel generalizing more s with
  | zero => exact absurd hloop (by simp [loop])
  | succ fuel ih =>
    obtain ⟨more, rfl⟩ : ∃ rest, more = rest + 1 := ⟨more - 1, by omega⟩
    rw [loop] at hloop ⊢
    split at hloop
    · contradiction
    · exact hloop
    · exact ih (Nat.le_of_succ_le_succ hle) hloop

theorem Ends.unique {result' : ρ} (h : Ends round s result t) (h' : Ends round s result' u) :
    result = result' ∧ t = u := by
  obtain ⟨fuel, hloop⟩ := h
  obtain ⟨fuel', hloop'⟩ := h'
  have hmore := loop_mono (Nat.le_max_left fuel fuel') hloop
  have hmore' := loop_mono (Nat.le_max_right fuel fuel') hloop'
  exact Prod.mk.inj (Option.some.inj (hmore.symm.trans hmore'))

/-- A loop that does the same with states that are changed alike. -/
theorem Ends.map {change : σ → σ}
    (hround : ∀ s value t, round s = some (value, t) → round (change s) = some (value, change t))
    (h : Ends round s result t) : Ends round (change s) result (change t) := by
  obtain ⟨fuel, hloop⟩ := h
  refine ⟨fuel, ?_⟩
  induction fuel generalizing s with
  | zero => exact absurd hloop (by simp [loop])
  | succ fuel ih =>
    rw [loop] at hloop
    split at hloop
    · cases hloop
    · rename_i value after hs
      cases hloop
      rw [loop, hround _ _ _ hs]
    · rename_i after hs
      rw [loop, hround _ _ _ hs]
      exact ih hloop

theorem ends_of_round (hround : round s = some (none, t)) (h : Ends round t result u) :
    Ends round s result u := by
  obtain ⟨fuel, hloop⟩ := h
  refine ⟨fuel + 1, ?_⟩
  rw [loop, hround]
  exact hloop

end

@[elab_as_elim] theorem Ends.rounds {σ ρ : Type} {round : σ → Option (Option ρ × σ)}
    {motive : (s : σ) → (result : ρ) → (t : σ) → Ends round s result t → Prop}
    (last : ∀ {s t : σ} {result : ρ} (hround : round s = some (some result, t)),
      motive s result t (ends_of_result hround))
    (next : ∀ {s t u : σ} {result : ρ} (hround : round s =
      some (none, t)) (h : Ends round t result u),
      motive t result u h → motive s result u (ends_of_round hround h))
    {s : σ} {result : ρ} {t : σ} (h : Ends round s result t) : motive s result t h := by
  obtain ⟨fuel, hloop⟩ := h
  induction fuel generalizing s with
  | zero => exact absurd hloop (by simp [loop])
  | succ fuel ih =>
    have hrounds := hloop
    rw [loop] at hrounds
    split at hrounds
    · contradiction
    · rename_i value after hround
      obtain ⟨rfl, rfl⟩ := Prod.mk.inj (Option.some.inj hrounds)
      exact last hround
    · rename_i after hround
      exact next hround ⟨fuel, hrounds⟩ (ih hrounds)

end Vmstated.Library
