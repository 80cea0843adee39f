import Mathlib.Data.List.Nodup
import Vmstated.Libconfig.IdentKeeper

/-! What a keeper keeps over its calls. -/
namespace Vmstated.Libconfig
open Library

variable {Ctx : Type}

def IdentKeeper.idents (ik : IdentKeeper Ctx) : List Nat :=
  ik.reservations.map IdentKeeperReservation.ident

/-- The identifiers are below `ident_next`, in increasing order. -/
structure Sound (ik : IdentKeeper Ctx) : Prop where
  limit : ik.identMax < uint64Max
  next : ik.identMin ≤ ik.identNext ∧ ik.identNext ≤ ik.identMax + 1
  sorted : ik.idents.Pairwise (· < ·)
  held : ∀ ident ∈ ik.idents, ik.identMin ≤ ident ∧ ident < ik.identNext
  apart : ∀ a ∈ ik.reservations, ∀ b ∈ ik.reservations, a.pointer = b.pointer → a = b

/-- `ident_next` is past the maximum only while that is live. -/
def MaxHeld (ik : IdentKeeper Ctx) : Prop :=
  ik.identNext = ik.identMax + 1 → ik.identMax ∈ ik.idents

/-- Each identifier of the range is live. -/
def Full (ik : IdentKeeper Ctx) : Prop :=
  ∀ ident, ik.identMin ≤ ident → ident ≤ ik.identMax → ident ∈ ik.idents

theorem uint64Max_lt : uint64Max < 2 ^ 64 := by decide

theorem mem_idents {ik : IdentKeeper Ctx} {ikr : IdentKeeperReservation}
    (hlive : ikr ∈ ik.reservations) :
    ikr.ident ∈ ik.idents := List.mem_map_of_mem hlive

/-! What no call changes. -/

structure SameRange (ik after : IdentKeeper Ctx) : Prop where
  identMin : after.identMin = ik.identMin
  identMax : after.identMax = ik.identMax
  checkIdent : after.checkIdent = ik.checkIdent

theorem SameRange.refl (ik : IdentKeeper Ctx) : SameRange ik ik := ⟨rfl, rfl, rfl⟩

theorem SameRange.trans {a b c : IdentKeeper Ctx} (hab : SameRange a b) (hbc : SameRange b c) :
    SameRange a c :=
  ⟨hbc.1.trans hab.1, hbc.2.trans hab.2, hbc.3.trans hab.3⟩

theorem ikNextIdentLocked_frame (ik : IdentKeeper Ctx) :
    SameRange ik (ikNextIdentLocked ik).2 ∧
      (ikNextIdentLocked ik).2.reservations = ik.reservations ∧
      (ik.identNext < 2 ^ 64 → (ikNextIdentLocked ik).2.identNext < 2 ^ 64) := by
  unfold ikNextIdentLocked
  split
  · exact ⟨⟨rfl, rfl, rfl⟩, rfl, fun _ => Nat.mod_lt _ (by decide)⟩
  · split
    · exact ⟨.refl ik, rfl, id⟩
    · exact ⟨.refl ik, rfl, id⟩

/-! What a call is. -/

inductive KeeperStep (ik : IdentKeeper Ctx) :
    KeeperCall Ctx → KeeperReply → IdentKeeper Ctx → Prop where
  | reserve {pointer : Nat}
      (hpointer : pointer ∉ ik.reservations.map IdentKeeperReservation.pointer) :
    KeeperStep ik (.reserve pointer)
      (.reserved (ikReserve pointer ik).1.1 (ikReserve pointer ik).1.2) (ikReserve pointer ik).2
  | dispose {ikr : IdentKeeperReservation} (hlive : ikr ∈ ik.reservations) :
    KeeperStep ik (.dispose ikr) .disposed (ikDispose ikr ik)
  | validate {ctx : Ctx} {ikr : IdentKeeperReservation} (hlive : ikr ∈ ik.reservations) :
    KeeperStep ik (.validate ctx ikr)
      (.validated (ikValidateReservation ctx ikr ik).1.1 (ikValidateReservation ctx ikr ik).1.2)
      (ikValidateReservation ctx ikr ik).2

theorem keeper_step {ik after : IdentKeeper Ctx} {call : KeeperCall Ctx} {reply : KeeperReply}
    (hstep : (keeper Ctx).step ik call = some (reply, after)) : KeeperStep ik call reply after := by
  cases call with
  | reserve pointer =>
    simp only [keeper] at hstep
    split at hstep
    · contradiction
    · rename_i hpointer
      cases hstep
      exact .reserve hpointer
  | dispose ikr =>
    simp only [keeper] at hstep
    split at hstep
    · rename_i hlive
      cases hstep
      exact .dispose hlive
    · contradiction
  | validate ctx ikr =>
    simp only [keeper] at hstep
    split at hstep
    · rename_i hlive
      cases hstep
      exact .validate hlive
    · contradiction

theorem keeper_step_frame {ik after : IdentKeeper Ctx} {call : KeeperCall Ctx} {reply : KeeperReply}
    (hstep : (keeper Ctx).step ik call = some (reply, after)) :
    SameRange ik after ∧ (ik.identNext < 2 ^ 64 → after.identNext < 2 ^ 64) := by
  have hnext (ik : IdentKeeper Ctx) := ikNextIdentLocked_frame ik
  cases keeper_step hstep with
  | reserve =>
    unfold ikReserve
    dsimp only
    split
    · exact ⟨(hnext ik).1, (hnext ik).2.2⟩
    · exact ⟨⟨(hnext ik).1.1, (hnext ik).1.2, (hnext ik).1.3⟩, (hnext ik).2.2⟩
  | dispose =>
    unfold ikDispose
    dsimp only
    split
    · exact ⟨⟨rfl, rfl, rfl⟩, fun _ => Nat.mod_lt _ (by decide)⟩
    · exact ⟨⟨rfl, rfl, rfl⟩, id⟩
  | @validate ctx ikr =>
    have hmoved := hnext (tailqRemove ikr ik)
    unfold ikValidateReservation
    split
    · exact ⟨.refl ik, id⟩
    · dsimp only
      split
      · exact ⟨⟨hmoved.1.1, hmoved.1.2, hmoved.1.3⟩, hmoved.2.2⟩
      · exact ⟨⟨hmoved.1.1, hmoved.1.2, hmoved.1.3⟩, hmoved.2.2⟩

/-! The list of reservations. -/

theorem ikFindGap_eq {start : Nat} {items : List IdentKeeperReservation}
    (hsmall : ∀ item ∈ items, item.ident < uint64Max) :
    ikFindGap start items = firstGap start (items.map IdentKeeperReservation.ident) := by
  induction items generalizing start with
  | nil => rfl
  | cons item items ih =>
    have hitem := hsmall item List.mem_cons_self
    have hlt := uint64Max_lt
    rw [ikFindGap, List.map_cons, firstGap]
    split
    · rfl
    · rename_i heq
      have hsame : start = item.ident := not_not.mp heq
      rw [Nat.mod_eq_of_lt (by omega)]
      exact ih fun other hother => hsmall other (List.mem_cons_of_mem item hother)

@[simp] theorem mem_insertReservation {ikr item : IdentKeeperReservation}
    {items : List IdentKeeperReservation} :
    item ∈ insertReservation ikr items ↔ item = ikr ∨ item ∈ items := by
  induction items with
  | nil => rw [insertReservation, List.mem_singleton, or_iff_left List.not_mem_nil]
  | cons first items ih =>
    rw [insertReservation]
    split
    · rw [List.mem_cons]
    · rw [List.mem_cons, ih, List.mem_cons, or_left_comm]

theorem insertReservation_sorted {ikr : IdentKeeperReservation}
    {items : List IdentKeeperReservation}
    (hsorted : (items.map IdentKeeperReservation.ident).Pairwise (· < ·))
    (hfree : ikr.ident ∉ items.map IdentKeeperReservation.ident) :
    ((insertReservation ikr items).map IdentKeeperReservation.ident).Pairwise (· < ·) := by
  induction items with
  | nil => exact List.pairwise_singleton _ _
  | cons first items ih =>
    rw [List.map_cons, List.pairwise_cons] at hsorted
    rw [List.map_cons, List.mem_cons, not_or] at hfree
    rw [insertReservation]
    split
    · rename_i hlt
      rw [List.map_cons, List.pairwise_cons, List.map_cons, List.pairwise_cons]
      refine ⟨?_, hsorted⟩
      intro ident hident
      rcases List.mem_cons.mp hident with rfl | hrest
      · exact hlt
      · exact lt_trans hlt (hsorted.1 ident hrest)
    · rename_i hnot
      rw [List.map_cons, List.pairwise_cons]
      refine ⟨?_, ih hsorted.2 hfree.2⟩
      intro ident hident
      obtain ⟨item, hitem, rfl⟩ := List.mem_map.mp hident
      rcases mem_insertReservation.mp hitem with rfl | hrest
      · have hne := hfree.1
        omega
      · exact hsorted.1 _ (List.mem_map_of_mem hrest)

/-! What is removed and what is inserted. -/

section
variable {ik : IdentKeeper Ctx} {ikr : IdentKeeperReservation}

@[simp] theorem mem_tailqRemove {item : IdentKeeperReservation} :
    item ∈ (tailqRemove ikr ik).reservations ↔
      item ∈ ik.reservations ∧ item.pointer ≠ ikr.pointer := by
  simp [tailqRemove]

theorem tailqRemove_idents_subset {ident : Nat} (h : ident ∈ (tailqRemove ikr ik).idents) :
    ident ∈ ik.idents := by
  obtain ⟨item, hitem, rfl⟩ := List.mem_map.mp h
  exact mem_idents (mem_tailqRemove.mp hitem).1

theorem Sound.eq_of_ident (h : Sound ik) {a b : IdentKeeperReservation} (ha : a ∈ ik.reservations)
    (hb : b ∈ ik.reservations) (hident : a.ident = b.ident) : a = b := by
  have hnodup : ik.idents.Nodup := h.sorted.imp fun hlt => Nat.ne_of_lt hlt
  exact List.inj_on_of_nodup_map hnodup ha hb hident

theorem Sound.mem_tailqRemove_idents (h : Sound ik) (hlive : ikr ∈ ik.reservations) {ident : Nat} :
    ident ∈ (tailqRemove ikr ik).idents ↔ ident ∈ ik.idents ∧ ident ≠ ikr.ident := by
  constructor
  · intro hident
    obtain ⟨item, hitem, rfl⟩ := List.mem_map.mp hident
    obtain ⟨hitem, hpointer⟩ := mem_tailqRemove.mp hitem
    refine ⟨mem_idents hitem, ?_⟩
    intro hsame
    rw [h.eq_of_ident hitem hlive hsame] at hpointer
    exact hpointer rfl
  · rintro ⟨hident, hne⟩
    obtain ⟨item, hitem, rfl⟩ := List.mem_map.mp hident
    apply mem_idents
    rw [mem_tailqRemove]
    refine ⟨hitem, ?_⟩
    intro hpointer
    rw [h.apart item hitem ikr hlive hpointer] at hne
    exact hne rfl

theorem Sound.removed (h : Sound ik) (ikr : IdentKeeperReservation) :
    Sound (tailqRemove ikr ik) where
  limit := h.limit
  next := h.next
  sorted := by
    have hsublist :=
      (ik.reservations.filter_sublist (p := fun item => item.pointer ≠ ikr.pointer)).map
        IdentKeeperReservation.ident
    exact h.sorted.sublist hsublist
  held ident hident := h.held ident (tailqRemove_idents_subset hident)
  apart a ha b hb := h.apart a (mem_tailqRemove.mp ha).1 b (mem_tailqRemove.mp hb).1

@[simp] theorem mem_ikInsert_idents {ident : Nat} :
    ident ∈ (ikInsertReservationLocked ikr ik).idents ↔ ident = ikr.ident ∨ ident ∈ ik.idents := by
  simp only [IdentKeeper.idents, ikInsertReservationLocked, List.mem_map, mem_insertReservation]
  constructor
  · rintro ⟨item, rfl | hitem, rfl⟩
    · exact Or.inl rfl
    · exact Or.inr ⟨item, hitem, rfl⟩
  · rintro (rfl | ⟨item, hitem, rfl⟩)
    · exact ⟨ikr, Or.inl rfl, rfl⟩
    · exact ⟨item, Or.inr hitem, rfl⟩

theorem Sound.insert (h : Sound ik) (hfree : ikr.ident ∉ ik.idents)
    (hrange : ik.identMin ≤ ikr.ident ∧ ikr.ident < ik.identNext)
    (hpointer : ∀ item ∈ ik.reservations, item.pointer ≠ ikr.pointer) :
    Sound (ikInsertReservationLocked ikr ik) where
  limit := h.limit
  next := h.next
  sorted := insertReservation_sorted h.sorted hfree
  held ident hident := by
    rcases mem_ikInsert_idents.mp hident with rfl | hold
    · exact hrange
    · exact h.held ident hold
  apart a ha b hb hsame := by
    rcases mem_insertReservation.mp ha with rfl | hold
    · rcases mem_insertReservation.mp hb with rfl | hother
      · rfl
      · exact absurd hsame.symm (hpointer b hother)
    · rcases mem_insertReservation.mp hb with rfl | hother
      · exact absurd hsame (hpointer a hold)
      · exact h.apart a hold b hother hsame

theorem Sound.ident_le (h : Sound ik) {ident : Nat} (hident : ident ∈ ik.idents) :
    ident ≤ ik.identMax := by
  have hheld := (h.held ident hident).2
  have hnext := h.next.2
  omega

end

/-! Where the next identifier comes from. -/

inductive NextIdent (ik : IdentKeeper Ctx) : (Nat × Nat) × IdentKeeper Ctx → Prop where
  | fresh (hleft : ik.identNext ≤ ik.identMax) :
    NextIdent ik ((ik.identNext, 0), { ik with identNext := ik.identNext + 1 })
  | gap (hpast : ik.identNext = ik.identMax + 1) {ident : Nat}
      (hgap : IsLeast (gaps ik.identMin ik.idents) ident) : NextIdent ik ((ident, 0), ik)
  | exhausted (hpast : ik.identNext = ik.identMax + 1) (hnone : gaps ik.identMin ik.idents = ∅) :
    NextIdent ik ((uint64Max, enoent), ik)

theorem Sound.nextIdent {ik : IdentKeeper Ctx} (h : Sound ik) :
    NextIdent ik (ikNextIdentLocked ik) := by
  have hlimit := h.limit
  have hmax := uint64Max_lt
  have hstart : ∀ ident ∈ ik.idents, ik.identMin ≤ ident :=
    fun ident hident => (h.held ident hident).1
  have hwalk : ikFindGap ik.identMin ik.reservations = firstGap ik.identMin ik.idents := by
    apply ikFindGap_eq
    intro item hitem
    have hle := h.ident_le (mem_idents hitem)
    omega
  unfold ikNextIdentLocked
  split
  · rename_i hleft
    rw [Nat.mod_eq_of_lt (by omega)]
    exact .fresh hleft
  · rename_i hpast
    have hnext := h.next.2
    have heq : ik.identNext = ik.identMax + 1 := by omega
    rw [hwalk]
    cases hfound : firstGap ik.identMin ik.idents with
    | some ident => exact .gap heq (firstGap_isLeast h.sorted hstart hfound)
    | none => exact .exhausted heq ((firstGap_eq_none h.sorted hstart).mp hfound)

structure Provides (ik : IdentKeeper Ctx) (ident : Nat) (after : IdentKeeper Ctx) : Prop where
  sound : Sound after
  reservations : after.reservations = ik.reservations
  range : SameRange ik after
  free : ident ∉ ik.idents
  bounds : ik.identMin ≤ ident ∧ ident ≤ ik.identMax
  below : ident < after.identNext
  held : MaxHeld ik → after.identNext = ik.identMax + 1 →
    ident = ik.identMax ∨ ik.identMax ∈ ik.idents

theorem NextIdent.provides {ik after : IdentKeeper Ctx} {ident : Nat} (h : Sound ik)
    (hnext : NextIdent ik ((ident, 0), after)) : Provides ik ident after := by
  have hbounds := h.next
  cases hnext with
  | fresh hleft =>
    have hfree : ik.identNext ∉ ik.idents := fun hident => absurd (h.held _ hident).2 (lt_irrefl _)
    refine ⟨⟨h.limit, ?_, h.sorted, ?_, h.apart⟩, rfl, ⟨rfl, rfl, rfl⟩, hfree, ⟨hbounds.1, hleft⟩,
      Nat.lt_succ_self _, fun _ hlast => Or.inl (Nat.succ.inj hlast)⟩
    · exact ⟨Nat.le_succ_of_le hbounds.1, Nat.succ_le_succ hleft⟩
    · intro ident hident
      exact ⟨(h.held ident hident).1, Nat.lt_succ_of_lt (h.held ident hident).2⟩
  | gap hpast hgap =>
    obtain ⟨⟨hle, hfree, top, htop, hlt⟩, _⟩ := hgap
    have hmax := h.ident_le htop
    exact ⟨h, rfl, .refl ik, hfree, ⟨hle, by omega⟩,
      by omega, fun hheld hlast => Or.inr (hheld hlast)⟩

section
variable {ik after : IdentKeeper Ctx} {ikr : IdentKeeperReservation}

theorem Provides.insert (h : Provides ik ikr.ident after)
    (hpointer : ∀ item ∈ ik.reservations, item.pointer ≠ ikr.pointer) (counter : Nat) :
    Sound (ikInsertReservationLocked ikr { after with reservationCounter := counter }) ∧
      (MaxHeld ik →
        MaxHeld (ikInsertReservationLocked ikr { after with reservationCounter := counter })) := by
  have hidents : after.idents = ik.idents :=
    congrArg (List.map IdentKeeperReservation.ident) h.reservations
  have hsound : Sound { after with reservationCounter := counter } :=
    ⟨h.sound.1, h.sound.2, h.sound.3, h.sound.4, h.sound.5⟩
  refine ⟨hsound.insert ?_ ?_ ?_, ?_⟩
  · exact hidents ▸ h.free
  · exact ⟨h.range.identMin.trans_le h.bounds.1, h.below⟩
  · exact fun item hitem => hpointer item (h.reservations ▸ hitem)
  · intro hheld hlast
    have hlast : after.identNext = ik.identMax + 1 :=
      hlast.trans (congrArg (· + 1) h.range.identMax)
    rw [mem_ikInsert_idents]
    have hcases := h.held hheld hlast
    rw [← h.range.identMax, ← hidents] at hcases
    exact hcases.imp Eq.symm id

/-! The calls. -/

theorem ikReserve_of_next {ident : Nat} (hnext : ikNextIdentLocked ik = ((ident, 0), after))
    (pointer : Nat) :
    ikReserve pointer ik = ((some ⟨pointer, after.reservationCounter, ident⟩, 0),
      ikInsertReservationLocked ⟨pointer, after.reservationCounter, ident⟩
        { after with reservationCounter := (after.reservationCounter + 1) % 2 ^ 64 }) := by
  unfold ikReserve
  rw [hnext]
  exact if_neg fun h => absurd h.2 (Nat.succ_ne_zero 1).symm

theorem ikReserve_of_exhausted (hnext : ikNextIdentLocked ik = ((uint64Max, enoent), after))
    (pointer : Nat) :
    ikReserve pointer ik = ((none, enoent), after) := by
  unfold ikReserve
  rw [hnext]
  exact if_pos ⟨rfl, rfl⟩

theorem Sound.reserve (h : Sound ik) {pointer : Nat}
    (hpointer : pointer ∉ ik.reservations.map IdentKeeperReservation.pointer) :
    Sound (ikReserve pointer ik).2 ∧ (MaxHeld ik → MaxHeld (ikReserve pointer ik).2) := by
  have hapart : ∀ item ∈ ik.reservations, item.pointer ≠ pointer := by
    rintro item hitem rfl
    exact hpointer (List.mem_map_of_mem hitem)
  have hcases := h.nextIdent
  generalize hnext : ikNextIdentLocked ik = next at hcases
  cases hcases with
  | fresh hleft =>
    rw [ikReserve_of_next hnext]
    exact ((NextIdent.fresh hleft).provides h).insert hapart _
  | gap hpast hgap =>
    rw [ikReserve_of_next hnext]
    exact ((NextIdent.gap hpast hgap).provides h).insert hapart _
  | exhausted =>
    rw [ikReserve_of_exhausted hnext]
    exact ⟨h, id⟩

theorem Sound.ikReserve_fails (h : Sound ik) (pointer : Nat) :
    (ikReserve pointer ik).1 = (none, enoent) ↔
      ik.identNext = ik.identMax + 1 ∧ gaps ik.identMin ik.idents = ∅ := by
  have hcases := h.nextIdent
  generalize hnext : ikNextIdentLocked ik = next at hcases
  cases hcases with
  | fresh hleft =>
    rw [ikReserve_of_next hnext]
    exact ⟨fun hnone => (by cases hnone), fun hfull => absurd hleft (by omega)⟩
  | gap hpast hgap =>
    rw [ikReserve_of_next hnext]
    refine ⟨fun hnone => (by cases hnone), fun hfull => ?_⟩
    have hmem := hgap.1
    rw [hfull.2] at hmem
    contradiction
  | exhausted hpast hnone =>
    rw [ikReserve_of_exhausted hnext]
    exact ⟨fun _ => ⟨hpast, hnone⟩, fun _ => rfl⟩

/-- While the maximum is held when it has to be, a failure is right. -/
theorem Sound.ikReserve_fails_iff (h : Sound ik) (hheld : MaxHeld ik) (pointer : Nat) :
    (ikReserve pointer ik).1 = (none, enoent) ↔ Full ik := by
  rw [h.ikReserve_fails]
  have hnext := h.next
  constructor
  · rintro ⟨hpast, hnone⟩ ident hmin hmax
    exact mem_of_no_gap hnone (hheld hpast) hmin hmax
  · intro hfull
    constructor
    · by_contra hleft
      have hlive := hfull ik.identNext hnext.1 (by omega)
      exact absurd (h.held _ hlive).2 (lt_irrefl _)
    · apply Set.eq_empty_of_forall_notMem
      rintro ident ⟨hmin, hfree, top, htop, hlt⟩
      have hmax := h.ident_le htop
      exact hfree (hfull ident hmin (by omega))

theorem Sound.dispose (h : Sound ik) (hlive : ikr ∈ ik.reservations) :
    Sound (ikDispose ikr ik) ∧ (MaxHeld ik → MaxHeld (ikDispose ikr ik)) := by
  have hremoved := h.removed ikr
  have hheld := h.held _ (mem_idents hlive)
  have hnext := h.next
  have hlimit := h.limit
  have hlt := uint64Max_lt
  have hlast : (ik.identNext + uint64Max) % 2 ^ 64 = ik.identNext - 1 := by
    have hpow : (2 : Nat) ^ 64 = uint64Max + 1 := rfl
    omega
  unfold ikDispose
  rw [hlast]
  dsimp only
  split
  · rename_i htop
    refine ⟨⟨hremoved.limit, ?_, hremoved.sorted, ?_, hremoved.apart⟩, ?_⟩
    · exact ⟨htop ▸ hheld.1, (Nat.sub_le ik.identNext 1).trans hnext.2⟩
    · intro ident hident
      obtain ⟨hident, hne⟩ := (h.mem_tailqRemove_idents hlive).mp hident
      have hbounds := h.held ident hident
      exact ⟨hbounds.1, by dsimp only; omega⟩
    · intro _ hpast
      have hpast : ik.identNext - 1 = ik.identMax + 1 := hpast
      omega
  · rename_i htop
    refine ⟨hremoved, ?_⟩
    intro hmax hpast
    have hpast : ik.identNext = ik.identMax + 1 := hpast
    rw [h.mem_tailqRemove_idents hlive]
    refine ⟨hmax hpast, ?_⟩
    intro hsame
    have hsame : ik.identMax = ikr.ident := hsame
    omega

section
variable {ctx : Ctx}

theorem ikValidate_of_accepts (haccepts : ik.accepts ctx ikr.ident = true) :
    ikValidateReservation ctx ikr ik = ((0, some ikr), ik) := by
  unfold ikValidateReservation
  rw [if_pos haccepts]

theorem ikValidate_of_next (haccepts : ¬ik.accepts ctx ikr.ident = true) {ident : Nat}
    (hnext : ikNextIdentLocked (tailqRemove ikr ik) = ((ident, 0), after))
    (hne : ident ≠ uint64Max) :
    ikValidateReservation ctx ikr ik =
      ((0, some { ikr with ident := ident }),
        ikInsertReservationLocked { ikr with ident := ident } after) := by
  unfold ikValidateReservation
  rw [if_neg haccepts, hnext]
  exact if_pos ⟨hne, rfl⟩

theorem ikValidate_of_max (haccepts : ¬ik.accepts ctx ikr.ident = true) {errno : Nat}
    (hnext : ikNextIdentLocked (tailqRemove ikr ik) = ((uint64Max, errno), after)) :
    ikValidateReservation ctx ikr ik = ((-1, none), after) := by
  unfold ikValidateReservation
  rw [if_neg haccepts, hnext]
  exact if_neg fun h => h.1 rfl

/-- A call that leaves the reservation of the maximum alone, or finds it valid. -/
def KeepsMax (ik : IdentKeeper Ctx) : KeeperCall Ctx → Prop
  | .validate ctx ikr => ikr.ident = ik.identMax → ik.accepts ctx ikr.ident = true
  | _ => True

theorem Sound.validate (h : Sound ik) (hlive : ikr ∈ ik.reservations) (ctx : Ctx) :
    Sound (ikValidateReservation ctx ikr ik).2 ∧
      (MaxHeld ik → KeepsMax ik (.validate ctx ikr) →
        MaxHeld (ikValidateReservation ctx ikr ik).2) := by
  by_cases haccepts : ik.accepts ctx ikr.ident = true
  · rw [ikValidate_of_accepts haccepts]
    exact ⟨h, fun hheld _ => hheld⟩
  · have hremoved := h.removed ikr
    have hheld (hheld : MaxHeld ik) (hkeeps : KeepsMax ik (.validate ctx ikr)) :
        MaxHeld (tailqRemove ikr ik) := by
      intro hpast
      have hlast := hheld hpast
      rw [h.mem_tailqRemove_idents hlive]
      exact ⟨hlast, fun hsame => haccepts (hkeeps hsame.symm)⟩
    have hapart : ∀ item ∈ (tailqRemove ikr ik).reservations, item.pointer ≠ ikr.pointer :=
      fun item hitem => (mem_tailqRemove.mp hitem).2
    have hcases := hremoved.nextIdent
    generalize hnext : ikNextIdentLocked (tailqRemove ikr ik) = next at hcases
    have hmoved {ident : Nat} {after : IdentKeeper Ctx}
        (hnext : ikNextIdentLocked (tailqRemove ikr ik) = ((ident, 0), after))
        (hprovides : Provides (tailqRemove ikr ik) ident after) :
        Sound (ikValidateReservation ctx ikr ik).2 ∧
          (MaxHeld ik → KeepsMax ik (.validate ctx ikr) →
            MaxHeld (ikValidateReservation ctx ikr ik).2) := by
      have hne : ident ≠ uint64Max :=
        Nat.ne_of_lt (lt_of_le_of_lt hprovides.bounds.2 hremoved.limit)
      obtain ⟨hsound, hmax⟩ := @Provides.insert _ _ _ { ikr with ident := ident } hprovides hapart
        after.reservationCounter
      rw [ikValidate_of_next haccepts hnext hne]
      exact ⟨hsound, fun hold hkeeps => hmax (hheld hold hkeeps)⟩
    cases hcases with
    | fresh hleft => exact hmoved hnext ((NextIdent.fresh hleft).provides hremoved)
    | gap hpast hgap => exact hmoved hnext ((NextIdent.gap hpast hgap).provides hremoved)
    | exhausted =>
      rw [ikValidate_of_max haccepts hnext]
      exact ⟨hremoved, hheld⟩

end

/-- What any call keeps. -/
theorem Sound.step (h : Sound ik) {call : KeeperCall Ctx} {reply : KeeperReply}
    (hstep : (keeper Ctx).step ik call = some (reply, after)) :
    Sound after ∧ (MaxHeld ik → KeepsMax ik call → MaxHeld after) := by
  cases keeper_step hstep with
  | reserve hpointer =>
    obtain ⟨hsound, hmax⟩ := h.reserve hpointer
    exact ⟨hsound, fun hheld _ => hmax hheld⟩
  | dispose hlive =>
    obtain ⟨hsound, hmax⟩ := h.dispose hlive
    exact ⟨hsound, fun hheld _ => hmax hheld⟩
  | @validate ctx ikr hlive => exact h.validate hlive ctx

end

/-! The maximum is lost once `ident_next` is past it and it is not live. -/

def Lost (ik : IdentKeeper Ctx) : Prop := ik.identNext = ik.identMax + 1 ∧ ik.identMax ∉ ik.idents

section
variable {ik after : IdentKeeper Ctx} {ikr : IdentKeeperReservation}

theorem Lost.insert (hlost : Lost ik) (h : Sound ik) {ident : Nat} (hident : ikr.ident = ident)
    (hnext : NextIdent ik ((ident, 0), after)) (counter : Nat) :
    Lost (ikInsertReservationLocked ikr { after with reservationCounter := counter }) := by
  have hpast := hlost.1
  cases hnext with
  | fresh hleft => omega
  | gap _ hgap =>
    refine ⟨hpast, ?_⟩
    obtain ⟨⟨_, _, top, htop, hlt⟩, _⟩ := hgap
    have hmax := h.ident_le htop
    intro hlive
    rcases mem_ikInsert_idents.mp hlive with hsame | hold
    · have hsame : ik.identMax = ikr.ident := hsame
      omega
    · exact hlost.2 hold

theorem Lost.reserve (hlost : Lost ik) (h : Sound ik) (pointer : Nat) :
    Lost (ikReserve pointer ik).2 := by
  have hcases := h.nextIdent
  generalize hnext : ikNextIdentLocked ik = next at hcases
  have hinsert {ident : Nat} {after : IdentKeeper Ctx} (hnext : NextIdent ik ((ident, 0), after)) :=
    @Lost.insert Ctx ik after ⟨pointer, after.reservationCounter, ident⟩ hlost h ident rfl hnext
  cases hcases with
  | fresh hleft =>
    rw [ikReserve_of_next hnext]
    exact hinsert (.fresh hleft) _
  | gap hpast hgap =>
    rw [ikReserve_of_next hnext]
    exact hinsert (.gap hpast hgap) _
  | exhausted =>
    rw [ikReserve_of_exhausted hnext]
    exact hlost

theorem Lost.dispose (hlost : Lost ik) (h : Sound ik) (hlive : ikr ∈ ik.reservations) :
    Lost (ikDispose ikr ik) := by
  obtain ⟨hpast, hfree⟩ := hlost
  have hlast : (ik.identNext + uint64Max) % 2 ^ 64 = ik.identMax := by
    have hlimit := h.limit
    have hpow : (2 : Nat) ^ 64 = uint64Max + 1 := rfl
    omega
  unfold ikDispose
  rw [hlast]
  dsimp only
  split
  · rename_i htop
    exact absurd (htop ▸ mem_idents hlive) hfree
  · exact ⟨hpast, fun hident => hfree (tailqRemove_idents_subset hident)⟩

theorem Lost.validate (hlost : Lost (tailqRemove ikr ik)) (h : Sound ik) {ctx : Ctx}
    (haccepts : ¬ik.accepts ctx ikr.ident = true) : Lost (ikValidateReservation ctx ikr ik).2 := by
  have hremoved := h.removed ikr
  have hcases := hremoved.nextIdent
  generalize hnext : ikNextIdentLocked (tailqRemove ikr ik) = next at hcases
  cases hcases with
  | fresh hleft => exact absurd hlost.1 (Nat.ne_of_lt (Nat.lt_succ_of_le hleft))
  | @gap hpast ident hgap =>
    have hne : ident ≠ uint64Max :=
      Nat.ne_of_lt
        (lt_of_le_of_lt ((NextIdent.gap hpast hgap).provides hremoved).bounds.2 hremoved.limit)
    rw [ikValidate_of_next haccepts hnext hne]
    exact @Lost.insert _ _ _ { ikr with ident := ident } hlost hremoved ident rfl
      (.gap hpast hgap) _
  | exhausted =>
    rw [ikValidate_of_max haccepts hnext]
    exact hlost

theorem Lost.step (hlost : Lost ik) (h : Sound ik) {call : KeeperCall Ctx} {reply : KeeperReply}
    (hstep : (keeper Ctx).step ik call = some (reply, after)) : Lost after := by
  cases keeper_step hstep with
  | @reserve pointer => exact hlost.reserve h pointer
  | dispose hlive => exact hlost.dispose h hlive
  | @validate ctx ikr =>
    by_cases haccepts : ik.accepts ctx ikr.ident = true
    · rw [ikValidate_of_accepts haccepts]
      exact hlost
    · have hremoved : Lost (tailqRemove ikr ik) :=
        ⟨hlost.1, fun hident => hlost.2 (tailqRemove_idents_subset hident)⟩
      exact hremoved.validate h haccepts

theorem Sound.loses (h : Sound ik) {call : KeeperCall Ctx} {reply : KeeperReply}
    (hstep : (keeper Ctx).step ik call = some (reply, after)) (hloses : ¬KeepsMax ik call) :
    Lost after := by
  cases keeper_step hstep with
  | reserve => exact absurd trivial hloses
  | dispose => exact absurd trivial hloses
  | @validate ctx ikr hlive =>
    obtain ⟨htop, haccepts⟩ := Classical.not_imp.mp hloses
    have hremoved : Lost (tailqRemove ikr ik) := by
      have hheld := (h.held _ (mem_idents hlive)).2
      have hnext := h.next.2
      refine ⟨?_, ?_⟩
      · have hpast : ik.identNext = ik.identMax + 1 := by omega
        exact hpast
      · rw [h.mem_tailqRemove_idents hlive]
        exact fun hmax => hmax.2 htop.symm
    exact hremoved.validate h haccepts

end

/-! Runs from a new keeper. -/

section
variable {identMin identMax : UInt64} {checkIdent : Option (Ctx → Nat → Bool)}
  {new ik : IdentKeeper Ctx}
  {transits : List (Transit (IdentKeeper Ctx) (KeeperCall Ctx) KeeperReply)}

theorem ikNew_eq (hnew : ikNew identMin identMax checkIdent = some new) :
    identMin ≤ identMax ∧
      new = ⟨identMin.toNat, identMax.toNat, 0, identMin.toNat, checkIdent, []⟩ := by
  unfold ikNew at hnew
  split at hnew
  · contradiction
  · rename_i hnot
    exact ⟨UInt64.not_lt.mp hnot, (Option.some_inj.mp hnew).symm⟩

theorem ikNew_sound (hnew : ikNew identMin identMax checkIdent = some new)
    (hmax : identMax.toNat < uint64Max) :
    Sound new ∧ MaxHeld new := by
  obtain ⟨hle, rfl⟩ := ikNew_eq hnew
  have hrange : identMin.toNat ≤ identMax.toNat := UInt64.le_iff_toNat_le.mp hle
  refine ⟨⟨hmax, ⟨le_refl _, Nat.le_succ_of_le hrange⟩, List.Pairwise.nil, ?_, ?_⟩, ?_⟩
  · exact fun ident hident => absurd hident List.not_mem_nil
  · exact fun a ha => absurd ha List.not_mem_nil
  · intro hpast
    have hpast : identMin.toNat = identMax.toNat + 1 := hpast
    omega

theorem frame_run (hnew : ikNew identMin identMax checkIdent = some new)
    (run : Run (keeper Ctx) new transits ik) :
    SameRange new ik ∧ ik.identNext < 2 ^ 64 := by
  apply @Run.invariant _ _ _ _ (fun ik => SameRange new ik ∧ ik.identNext < 2 ^ 64)
    (fun _ => True) _ _ _ run
  · obtain ⟨_, rfl⟩ := ikNew_eq hnew
    exact ⟨.refl _, identMin.toNat_lt⟩
  · rintro x ⟨hrange, hnext⟩ _ hstep
    obtain ⟨hsame, hbound⟩ := keeper_step_frame hstep
    exact ⟨hrange.trans hsame, hbound hnext⟩
  · exact fun _ _ => trivial

theorem sound_run (hnew : ikNew identMin identMax checkIdent = some new)
    (hmax : identMax.toNat < uint64Max) (run : Run (keeper Ctx) new transits ik) : Sound ik := by
  apply @Run.invariant _ _ _ _ Sound (fun _ => True) _ _ _ run (ikNew_sound hnew hmax).1
  · exact fun x hsound _ hstep => (hsound.step hstep).1
  · exact fun _ _ => trivial

theorem maxHeld_run (hnew : ikNew identMin identMax checkIdent = some new)
    (hmax : identMax.toNat < uint64Max)
    (run : Run (keeper Ctx) new transits ik) (hkeeps : ∀ x ∈ transits, KeepsMax x.before x.input) :
    MaxHeld ik := by
  have hboth :=
    @Run.invariant _ _ _ _ (fun ik => Sound ik ∧ MaxHeld ik) (fun x => KeepsMax x.before x.input)
      _ _ _ run (ikNew_sound hnew hmax) ?_ hkeeps
  · exact hboth.2
  · rintro x ⟨hsound, hheld⟩ hallowed hstep
    obtain ⟨hafter, hkeep⟩ := hsound.step hstep
    exact ⟨hafter, hkeep hheld hallowed⟩

/-- A call that does not keep the maximum loses it for the rest of the run. -/
theorem lost_run (hnew : ikNew identMin identMax checkIdent = some new)
    (hmax : identMax.toNat < uint64Max)
    (run : Run (keeper Ctx) new transits ik) (hloses : ∃ x ∈ transits, ¬KeepsMax x.before x.input) :
    Lost ik := by
  obtain ⟨x, hx, hloses⟩ := hloses
  have hstep := run.step_mem hx
  obtain ⟨earlier, later, rfl⟩ := List.append_of_mem hx
  have hsound := sound_run hnew hmax run.before_mid
  have hboth :=
    @Run.invariant _ _ _ _ (fun ik => Sound ik ∧ Lost ik) (fun _ => True) _ _ _ run.after_mid
      ⟨(hsound.step hstep).1, hsound.loses hstep hloses⟩ ?_ (fun _ _ => trivial)
  · exact hboth.2
  · rintro y ⟨hsound, hlost⟩ _ hstep
    exact ⟨(hsound.step hstep).1, hlost.step hsound hstep⟩

end

end Vmstated.Libconfig
