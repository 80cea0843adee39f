import Mathlib.Algebra.Ring.Nat
import Mathlib.Data.List.Basic
import Mathlib.Data.Set.Basic
import Mathlib.Order.Bounds.Defs
import Mathlib.Tactic.Common

/-! Strictly increasing lists of numbers, and the first number that is missing
in one. -/
namespace Vmstated.Library

/-- The walk beside the list that counts up from `start`. It does not look
behind the end of the list. -/
def firstGap (start : Nat) : List Nat → Option Nat
  | [] => none
  | x :: xs => if start ≠ x then some start else firstGap (start + 1) xs

def gaps (start : Nat) (xs : List Nat) : Set Nat := {i | start ≤ i ∧ i ∉ xs ∧ ∃ x ∈ xs, i < x}

variable {start : Nat} {xs : List Nat}

theorem firstGap_isLeast (hsorted : xs.Pairwise (· < ·)) (hstart : ∀ x ∈ xs, start ≤ x) {i : Nat}
    (h : firstGap start xs = some i) : IsLeast (gaps start xs) i := by
  induction xs generalizing start with
  | nil => cases h
  | cons x xs ih =>
    rw [List.pairwise_cons] at hsorted
    rw [firstGap] at h
    split at h
    · rename_i hne
      rw [← Option.some_inj.mp h]
      have hlt : start < x := lt_of_le_of_ne (hstart x List.mem_cons_self) hne
      refine ⟨⟨le_refl start, ?_, x, List.mem_cons_self, hlt⟩, fun j hj => hj.1⟩
      rw [List.mem_cons, not_or]
      exact ⟨hne, fun hmem => absurd (hsorted.1 start hmem) (by omega)⟩
    · rename_i heq
      have hsame : start = x := not_not.mp heq
      obtain ⟨⟨hle, hfree, y, hy, hlt⟩, hleast⟩ := ih hsorted.2
        (fun y hy => hsame ▸ hsorted.1 y hy) h
      refine ⟨⟨by omega, ?_, y, List.mem_cons_of_mem x hy, hlt⟩, ?_⟩
      · rw [List.mem_cons, not_or]
        exact ⟨by omega, hfree⟩
      · rintro j ⟨hj, hjfree, z, hz, hjz⟩
        rw [List.mem_cons, not_or] at hjfree
        apply hleast
        refine ⟨by omega, hjfree.2, ?_⟩
        rcases List.mem_cons.mp hz with rfl | hrest
        · omega
        · exact ⟨z, hrest, hjz⟩

theorem firstGap_eq_none (hsorted : xs.Pairwise (· < ·)) (hstart : ∀ x ∈ xs, start ≤ x) :
    firstGap start xs = none ↔ gaps start xs = ∅ := by
  constructor
  · intro h
    apply Set.eq_empty_of_forall_notMem
    induction xs generalizing start with
    | nil => exact fun i hi => absurd hi.2.2.choose_spec.1 List.not_mem_nil
    | cons x xs ih =>
      rw [List.pairwise_cons] at hsorted
      rw [firstGap] at h
      split at h
      · contradiction
      · rename_i heq
        have hsame : start = x := not_not.mp heq
        rintro j ⟨hj, hjfree, z, hz, hjz⟩
        rw [List.mem_cons, not_or] at hjfree
        have hnone := ih hsorted.2 (fun y hy => hsame ▸ hsorted.1 y hy) h j
        rcases List.mem_cons.mp hz with rfl | hrest
        · omega
        · exact hnone ⟨by omega, hjfree.2, z, hrest, hjz⟩
  · intro hempty
    cases h : firstGap start xs with
    | none => rfl
    | some i =>
      have hgap := (firstGap_isLeast hsorted hstart h).1
      rw [hempty] at hgap
      contradiction

theorem mem_of_no_gap (hnone : gaps start xs = ∅) {x i : Nat} (hx : x ∈ xs) (hi : start ≤ i)
    (hix : i ≤ x) : i ∈ xs := by
  by_contra hfree
  have hlt : i < x := lt_of_le_of_ne hix fun heq => hfree (heq ▸ hx)
  have hgap : i ∈ gaps start xs := ⟨hi, hfree, x, hx, hlt⟩
  rw [hnone] at hgap
  contradiction

end Vmstated.Library
