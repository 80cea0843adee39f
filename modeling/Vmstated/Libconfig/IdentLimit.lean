import Vmstated.Libconfig.IdentKeeperSpec

/-! A keeper whose maximum is the largest `uint64_t`: `ident_next` is never past
it, but goes back to zero. -/
namespace Vmstated.Libconfig
open Library

variable {Ctx : Type}

/-- The keeper of all identifiers but the largest one. -/
def IdentKeeper.lowered (ik : IdentKeeper Ctx) : IdentKeeper Ctx :=
  { ik with identMax := uint64Max - 1 }

/-- The largest identifier is live, and `ident_next` is zero. Without that one
it would be the largest identifier. -/
structure Topped (ik : IdentKeeper Ctx) : Prop where
  next : ik.identNext = 0
  top : ∃ top ∈ ik.reservations, top.ident = uint64Max ∧
    (∀ item ∈ ik.reservations, item.pointer = top.pointer → item = top) ∧
    Sound { tailqRemove top ik with identNext := uint64Max, identMax := uint64Max - 1 }

section
variable {ik : IdentKeeper Ctx} {ikr : IdentKeeperReservation}

theorem Sound.largest_free (h : Sound ik.lowered) : uint64Max ∉ ik.idents := by
  intro hlive
  have hle : uint64Max ≤ uint64Max - 1 := h.ident_le hlive
  exact absurd hle (by decide)

theorem Topped.largest_live (h : Topped ik) : uint64Max ∈ ik.idents := by
  obtain ⟨top, htop, hident, _⟩ := h.top
  exact hident ▸ mem_idents htop

theorem Sound.next_le (h : Sound ik.lowered) : ik.identNext ≤ uint64Max := by
  have hnext : ik.identNext ≤ uint64Max - 1 + 1 := h.next.2
  have hpos : 0 < uint64Max := by decide
  omega

/-! `ik_reserve` -/

theorem insertReservation_filter {items : List IdentKeeperReservation}
    (hpointer : ∀ item ∈ items, item.pointer ≠ ikr.pointer) :
    (insertReservation ikr items).filter (fun item => item.pointer ≠ ikr.pointer) = items := by
  induction items with
  | nil => simp [insertReservation]
  | cons first items ih =>
    have hitems := List.filter_eq_self.mpr fun item hitem => decide_eq_true (hpointer item hitem)
    rw [List.forall_mem_cons] at hpointer
    rw [insertReservation]
    split
    · rw [List.filter_cons, if_neg (by simp), hitems]
    · have hfirst : decide (first.pointer ≠ ikr.pointer) = true := decide_eq_true hpointer.1
      rw [List.filter_cons, if_pos hfirst, ih hpointer.2]

theorem ikNextIdentLocked_largest (hmax : ik.identMax = uint64Max) (hnext : ik.identNext < 2 ^ 64) :
    ikNextIdentLocked ik =
      ((ik.identNext, 0), { ik with identNext := (ik.identNext + 1) % 2 ^ 64 }) := by
  have hpow : (2 : Nat) ^ 64 = uint64Max + 1 := rfl
  exact if_pos (by omega)

theorem ikReserve_largest (hmax : ik.identMax = uint64Max)
    (hnext : ik.identNext < 2 ^ 64) (pointer : Nat) :
    (ikReserve pointer ik).1 = (some ⟨pointer, ik.reservationCounter, ik.identNext⟩, 0) ∧
      (ikReserve pointer ik).2.identNext = (ik.identNext + 1) % 2 ^ 64 := by
  rw [ikReserve_of_next (ikNextIdentLocked_largest hmax hnext)]
  exact ⟨rfl, rfl⟩

theorem Sound.reserve_below (h : Sound ik.lowered) (hmax : ik.identMax = uint64Max)
    (hnext : ik.identNext < uint64Max)
    {pointer : Nat} (hpointer : ∀ item ∈ ik.reservations, item.pointer ≠ pointer) :
    Sound (ikReserve pointer ik).2.lowered := by
  have hpow : (2 : Nat) ^ 64 = uint64Max + 1 := rfl
  have hleft : ik.lowered.identNext ≤ ik.lowered.identMax := by
    have hle : ik.identNext ≤ uint64Max - 1 := by omega
    exact hle
  have hnowrap : (ik.identNext + 1) % 2 ^ 64 = ik.identNext + 1 := Nat.mod_eq_of_lt (by omega)
  rw [ikReserve_of_next (ikNextIdentLocked_largest hmax (by omega)), hnowrap]
  exact (@Provides.insert _ _ _ ⟨pointer, ik.reservationCounter, ik.identNext⟩
    ((NextIdent.fresh hleft).provides h) hpointer _).1

theorem Sound.reserve_largest (h : Sound ik.lowered) (hmax : ik.identMax = uint64Max)
    (hnext : ik.identNext = uint64Max)
    {pointer : Nat} (hpointer : ∀ item ∈ ik.reservations, item.pointer ≠ pointer) :
    Topped (ikReserve pointer ik).2 := by
  have hpow : (2 : Nat) ^ 64 = uint64Max + 1 := rfl
  let top : IdentKeeperReservation := ⟨pointer, ik.reservationCounter, uint64Max⟩
  have hreserve : (ikReserve pointer ik).2 = ikInsertReservationLocked top { ik with
      reservationCounter := (ik.reservationCounter + 1) % 2 ^ 64, identNext := 0 } := by
    rw [ikReserve_of_next (ikNextIdentLocked_largest hmax (by omega)), hnext]
    rfl
  rw [hreserve]
  refine ⟨rfl, top, mem_insertReservation.mpr (Or.inl rfl), rfl, ?_, ?_⟩
  · intro item hitem hsame
    rcases mem_insertReservation.mp hitem with rfl | hold
    · rfl
    · exact absurd hsame (hpointer item hold)
  · unfold tailqRemove ikInsertReservationLocked
    dsimp only
    have hbounds : ik.identMin ≤ ik.identNext ∧ ik.identNext ≤ uint64Max - 1 + 1 := h.next
    have hheld : ∀ ident ∈ ik.idents, ik.identMin ≤ ident ∧ ident < ik.identNext := h.held
    rw [hnext] at hbounds hheld
    rw [insertReservation_filter hpointer]
    exact ⟨h.limit, hbounds, h.sorted, hheld, h.apart⟩

/-! `ik_dispose` -/

theorem ikDispose_lowered : (ikDispose ikr ik).lowered = ikDispose ikr ik.lowered := by
  have hnext : ik.lowered.identNext = ik.identNext := rfl
  unfold ikDispose
  rw [hnext]
  generalize (ik.identNext + uint64Max) % 2 ^ 64 = last
  dsimp only
  split <;> rfl

theorem Sound.dispose_lowered (h : Sound ik.lowered) (hlive : ikr ∈ ik.reservations) :
    Sound (ikDispose ikr ik).lowered := by
  rw [ikDispose_lowered]
  exact (h.dispose hlive).1

theorem tailqRemove_comm (other : IdentKeeperReservation) :
    tailqRemove ikr (tailqRemove other ik) = tailqRemove other (tailqRemove ikr ik) := by
  unfold tailqRemove
  dsimp only
  rw [List.filter_filter, List.filter_filter]
  simp only [Bool.and_comm]

theorem ikDispose_eq {last : Nat} (hlast : (ik.identNext + uint64Max) % 2 ^ 64 = last) :
    ikDispose ikr ik =
    if last = ikr.ident then { tailqRemove ikr ik with identNext := last }
    else tailqRemove ikr ik := by
  subst hlast
  rfl

theorem Topped.dispose (h : Topped ik) (hlive : ikr ∈ ik.reservations) :
    ((ikDispose ikr ik).identNext = uint64Max ∧ Sound (ikDispose ikr ik).lowered) ∨
      ((ikDispose ikr ik).identNext = 0 ∧ Topped (ikDispose ikr ik)) := by
  obtain ⟨top, htop, hident, hapart, hsound⟩ := h.top
  have hlast : (ik.identNext + uint64Max) % 2 ^ 64 = uint64Max := by
    rw [h.next, Nat.zero_add]
    exact Nat.mod_eq_of_lt uint64Max_lt
  by_cases hsame : ikr = top
  · subst hsame
    have hdispose : ikDispose ikr ik = { tailqRemove ikr ik with identNext := uint64Max } :=
      (ikDispose_eq hlast).trans (if_pos hident.symm)
    rw [hdispose]
    exact Or.inl ⟨rfl, hsound⟩
  · have hpointer : ikr.pointer ≠ top.pointer := fun heq => hsame (hapart ikr hlive heq)
    have hbelow : ikr.ident < uint64Max :=
      (hsound.held _ (mem_idents (mem_tailqRemove.mpr ⟨hlive, hpointer⟩))).2
    have hdispose : ikDispose ikr ik = tailqRemove ikr ik :=
      (ikDispose_eq hlast).trans (if_neg (Nat.ne_of_gt hbelow))
    rw [hdispose]
    refine Or.inr ⟨h.next, h.next, top, mem_tailqRemove.mpr ⟨htop, hpointer.symm⟩, hident, ?_, ?_⟩
    · exact fun item hitem heq => hapart item (mem_tailqRemove.mp hitem).1 heq
    · rw [tailqRemove_comm]
      exact hsound.removed ikr

end

end Vmstated.Libconfig
