import Mathlib.Order.Bounds.Basic
import Vmstated.Libconfig.IdentKeeperSpec

/-! Reserved identifiers: which ones are given out, and when none is left. -/
namespace Vmstated.Properties
open Library Libconfig

variable {Ctx : Type} {identMin identMax : UInt64} {checkIdent : Option (Ctx → Nat → Bool)}
  {new ik : IdentKeeper Ctx}
  {transits : List (Transit (IdentKeeper Ctx) (KeeperCall Ctx) KeeperReply)}

/-- `ik_reserve` fails with `ENOENT`, whatever address it would have used. -/
def OutOfIdents (ik : IdentKeeper Ctx) : Prop :=
  ∀ pointer, (ikReserve pointer ik).1 = (none, enoent)

/-- Each identifier that the keeper was made for is live. -/
def AllLive (identMin identMax : UInt64) (ik : IdentKeeper Ctx) : Prop :=
  ∀ ident, identMin.toNat ≤ ident → ident ≤ identMax.toNat →
    ident ∈ ik.reservations.map IdentKeeperReservation.ident

theorem allLive_iff (hnew : ikNew identMin identMax checkIdent = some new)
    (run : Run (keeper Ctx) new transits ik) :
    AllLive identMin identMax ik ↔ Full ik := by
  have hrange := (frame_run hnew run).1
  obtain ⟨_, rfl⟩ := ikNew_eq hnew
  unfold AllLive Full
  rw [hrange.identMin, hrange.identMax]
  rfl

def allocates : KeeperCall Ctx → Bool
  | .reserve _ => true
  | .dispose _ => true
  | .validate _ _ => false

section
variable {ctx : Ctx} {ikr : IdentKeeperReservation}

/-- A reservation that may be used: its identifier is of the range, no other
one's, and accepted by the checker. -/
structure Valid (ctx : Ctx) (ikr : IdentKeeperReservation) (ik : IdentKeeper Ctx) : Prop where
  range : ik.identMin ≤ ikr.ident ∧ ikr.ident ≤ ik.identMax
  distinct : ∀ other ∈ ik.reservations, other.pointer ≠ ikr.pointer → other.ident ≠ ikr.ident
  accepted : ∀ check ∈ ik.checkIdent, check ctx ikr.ident = true

/-- `ik_validate_reservation` returns 0 only with a valid reservation. -/
def YieldsValid (ctx : Ctx) (ikr : IdentKeeperReservation) (ik : IdentKeeper Ctx) : Prop :=
  ∀ moved, (ikValidateReservation ctx ikr ik).1 = (0, some moved) →
    Valid ctx moved (ikValidateReservation ctx ikr ik).2

/-- What takes the place of an identifier: `ident_next`, or if that is past the
maximum, the least identifier missing below a live one. -/
def Replacement (ikr : IdentKeeperReservation) (ik : IdentKeeper Ctx) (ident : Nat) : Prop :=
  ident ≠ uint64Max ∧
    (ik.identNext ≤ ik.identMax ∧ ident = ik.identNext ∨
      ik.identMax < ik.identNext ∧ IsLeast (gaps ik.identMin (tailqRemove ikr ik).idents) ident)

/-- The identifier is found valid, or its replacement would be. -/
def Acceptable (ctx : Ctx) (ikr : IdentKeeperReservation) (ik : IdentKeeper Ctx) : Prop :=
  ik.accepts ctx ikr.ident = true ∨
    ∀ ident, Replacement ikr ik ident → ∀ check ∈ ik.checkIdent, check ctx ident = true

/-- An identifier of the range that is not live beside `ikr`. -/
def Fits (ikr : IdentKeeperReservation) (ik : IdentKeeper Ctx) (ident : Nat) : Prop :=
  (ik.identMin ≤ ident ∧ ident ≤ ik.identMax) ∧ ident ∉ (tailqRemove ikr ik).idents

/-- With the largest `uint64_t` as maximum, `ident_next` goes back to zero. -/
def Unwrapped (ctx : Ctx) (ikr : IdentKeeperReservation) (ik : IdentKeeper Ctx) : Prop :=
  if ik.accepts ctx ikr.ident then Fits ikr ik ikr.ident
  else ik.identNext = uint64Max ∨ Fits ikr ik ik.identNext

theorem distinct_iff {ident : Nat} :
    (∀ other ∈ ik.reservations, other.pointer ≠ ikr.pointer → other.ident ≠ ident) ↔
    ident ∉ (tailqRemove ikr ik).idents := by
  constructor
  · intro hdistinct hident
    obtain ⟨other, hother, rfl⟩ := List.mem_map.mp hident
    obtain ⟨hother, hpointer⟩ := mem_tailqRemove.mp hother
    exact hdistinct other hother hpointer rfl
  · rintro hfree other hother hpointer rfl
    exact hfree (mem_idents (mem_tailqRemove.mpr ⟨hother, hpointer⟩))

theorem yieldsValid_of_accepts (haccepts : ik.accepts ctx ikr.ident = true) :
    YieldsValid ctx ikr ik ↔ Fits ikr ik ikr.ident := by
  unfold YieldsValid
  rw [ikValidate_of_accepts haccepts]
  constructor
  · intro hvalid
    have hvalid := hvalid ikr rfl
    exact ⟨hvalid.range, distinct_iff.mp hvalid.distinct⟩
  · rintro hfits moved hmoved
    obtain rfl : ikr = moved := by simpa using hmoved
    refine ⟨hfits.1, distinct_iff.mpr hfits.2, ?_⟩
    intro check hcheck
    rw [IdentKeeper.accepts, hcheck] at haccepts
    exact haccepts

theorem yieldsValid_of_next (haccepts : ¬ik.accepts ctx ikr.ident = true)
    {ident : Nat} {after : IdentKeeper Ctx}
    (hnext : ikNextIdentLocked (tailqRemove ikr ik) = ((ident, 0), after))
    (hne : ident ≠ uint64Max) :
    YieldsValid ctx ikr ik ↔ Fits ikr ik ident ∧ ∀ check ∈ ik.checkIdent,
      check ctx ident = true := by
  obtain ⟨hrange, hreservations, -⟩ := ikNextIdentLocked_frame (tailqRemove ikr ik)
  rw [hnext] at hrange hreservations
  have hmin : after.identMin = ik.identMin := hrange.identMin
  have hmax : after.identMax = ik.identMax := hrange.identMax
  have hcheck : after.checkIdent = ik.checkIdent := hrange.checkIdent
  have hdistinct : (∀ other ∈ insertReservation { ikr with ident := ident } after.reservations,
      other.pointer ≠ ikr.pointer → other.ident ≠ ident) ↔ ident ∉ (tailqRemove ikr ik).idents := by
    rw [← distinct_iff, hreservations]
    constructor
    · intro hdistinct other hother hpointer
      exact hdistinct other
        (mem_insertReservation.mpr (Or.inr (mem_tailqRemove.mpr ⟨hother, hpointer⟩))) hpointer
    · intro hdistinct other hother hpointer
      rcases mem_insertReservation.mp hother with rfl | hold
      · exact absurd rfl hpointer
      · exact hdistinct other (mem_tailqRemove.mp hold).1 hpointer
  unfold YieldsValid
  rw [ikValidate_of_next haccepts hnext hne]
  constructor
  · intro hvalid
    have hvalid := hvalid _ rfl
    exact ⟨⟨hmin ▸ hmax ▸ hvalid.range, hdistinct.mp hvalid.distinct⟩, hcheck ▸ hvalid.accepted⟩
  · rintro ⟨hfits, hallowed⟩ moved hmoved
    obtain rfl : { ikr with ident := ident } = moved := by simpa using hmoved
    refine ⟨?_, hdistinct.mpr hfits.2, ?_⟩
    · exact ⟨hmin.trans_le hfits.1.1, hfits.1.2.trans_eq hmax.symm⟩
    · exact fun check hmem => hallowed check (hcheck ▸ hmem)

theorem yieldsValid_of_max (haccepts : ¬ik.accepts ctx ikr.ident = true)
    {errno : Nat} {after : IdentKeeper Ctx}
    (hnext : ikNextIdentLocked (tailqRemove ikr ik) = ((uint64Max, errno), after)) :
    YieldsValid ctx ikr ik := by
  unfold YieldsValid
  rw [ikValidate_of_max haccepts hnext]
  intro moved hmoved
  cases hmoved

theorem Sound.yields_iff (h : Sound ik) (hlive : ikr ∈ ik.reservations) :
    YieldsValid ctx ikr ik ↔ Acceptable ctx ikr ik := by
  have hnext := h.next
  by_cases haccepts : ik.accepts ctx ikr.ident = true
  · rw [yieldsValid_of_accepts haccepts]
    have hident := mem_idents hlive
    refine iff_of_true ⟨⟨(h.held _ hident).1, h.ident_le hident⟩, ?_⟩ (Or.inl haccepts)
    rw [h.mem_tailqRemove_idents hlive]
    exact fun hmem => hmem.2 rfl
  · have hremoved := h.removed ikr
    have hprovided {ident : Nat} {after : IdentKeeper Ctx}
        (hnext : ikNextIdentLocked (tailqRemove ikr ik) = ((ident, 0), after))
        (hcases : NextIdent (tailqRemove ikr ik) ((ident, 0), after)) :
        ident ≠ uint64Max ∧
          (YieldsValid ctx ikr ik ↔ ∀ check ∈ ik.checkIdent, check ctx ident = true) := by
      have hprovides := hcases.provides hremoved
      have hne : ident ≠ uint64Max :=
        Nat.ne_of_lt (lt_of_le_of_lt hprovides.bounds.2 hremoved.limit)
      refine ⟨hne, ?_⟩
      rw [yieldsValid_of_next haccepts hnext hne]
      exact and_iff_right ⟨hprovides.bounds, hprovides.free⟩
    unfold Acceptable
    rw [or_iff_right haccepts]
    have hcases := hremoved.nextIdent
    generalize hfound : ikNextIdentLocked (tailqRemove ikr ik) = found at hcases
    cases hcases with
    | fresh hleft =>
      obtain ⟨hne, hiff⟩ := hprovided hfound (.fresh hleft)
      rw [hiff]
      constructor
      · rintro hallowed ident ⟨_, ⟨_, rfl⟩ | ⟨hpast, _⟩⟩
        · exact hallowed
        · exact absurd hleft (Nat.not_le_of_lt hpast)
      · exact fun hall => hall ik.identNext ⟨hne, Or.inl ⟨hleft, rfl⟩⟩
    | @gap hpast ident hgap =>
      obtain ⟨hne, hiff⟩ :=
        hprovided hfound (@NextIdent.gap _ (tailqRemove ikr ik) hpast ident hgap)
      have hpast : ik.identNext = ik.identMax + 1 := hpast
      rw [hiff]
      constructor
      · rintro hallowed other ⟨_, ⟨hleft, _⟩ | ⟨_, hleast⟩⟩
        · omega
        · rw [hleast.unique hgap]
          exact hallowed
      · exact fun hall => hall ident ⟨hne, Or.inr ⟨by omega, hgap⟩⟩
    | exhausted hpast hnone =>
      have hpast : ik.identNext = ik.identMax + 1 := hpast
      have hnone : gaps ik.identMin (tailqRemove ikr ik).idents = ∅ := hnone
      refine iff_of_true (yieldsValid_of_max haccepts hfound) ?_
      rintro other ⟨_, ⟨hleft, _⟩ | ⟨_, hleast⟩⟩
      · omega
      · rw [hnone] at hleast
        exact absurd hleast.1 (Set.notMem_empty other)

theorem yieldsValid_iff_of_largest (hmax : ik.identMax = uint64Max)
    (hnext : ik.identNext < 2 ^ 64) :
    YieldsValid ctx ikr ik ↔ Acceptable ctx ikr ik ∧ Unwrapped ctx ikr ik := by
  have hpow : (2 : Nat) ^ 64 = uint64Max + 1 := rfl
  by_cases haccepts : ik.accepts ctx ikr.ident = true
  · rw [yieldsValid_of_accepts haccepts, Unwrapped, if_pos haccepts]
    exact (and_iff_right (Or.inl haccepts)).symm
  · have hleft : ik.identNext ≤ ik.identMax := by omega
    have hfound : ikNextIdentLocked (tailqRemove ikr ik) =
        ((ik.identNext, 0), { tailqRemove ikr ik with identNext := (ik.identNext + 1) % 2 ^ 64 }) :=
          if_pos hleft
    rw [Acceptable, or_iff_right haccepts, Unwrapped, if_neg haccepts]
    by_cases hlast : ik.identNext = uint64Max
    · rw [hlast] at hfound
      refine iff_of_true (yieldsValid_of_max haccepts hfound) ⟨?_, Or.inl hlast⟩
      rintro ident ⟨hne, ⟨_, rfl⟩ | ⟨hpast, _⟩⟩
      · exact absurd hlast hne
      · omega
    · rw [yieldsValid_of_next haccepts hfound hlast, or_iff_right hlast, and_comm]
      apply and_congr_left'
      constructor
      · rintro hallowed ident ⟨_, ⟨_, rfl⟩ | ⟨hpast, _⟩⟩
        · exact hallowed
        · omega
      · exact fun hall => hall ik.identNext ⟨hlast, Or.inl ⟨hleft, rfl⟩⟩

end

/-- The identifier that replaces one found invalid is not checked again. -/
theorem yieldsValid_iff (hnew : ikNew identMin identMax checkIdent = some new)
    (run : Run (keeper Ctx) new transits ik)
    {ikr : IdentKeeperReservation} (hlive : ikr ∈ ik.reservations) (ctx : Ctx) :
    YieldsValid ctx ikr ik ↔
      Acceptable ctx ikr ik ∧ (identMax.toNat = uint64Max → Unwrapped ctx ikr ik) := by
  obtain ⟨hrange, hnext⟩ := frame_run hnew run
  by_cases hlargest : identMax.toNat = uint64Max
  · have hmax : ik.identMax = uint64Max := by
      rw [hrange.identMax, (ikNew_eq hnew).2]
      exact hlargest
    rw [yieldsValid_iff_of_largest hmax hnext]
    exact and_congr_right' ⟨fun hunwrapped _ => hunwrapped, fun hunwrapped => hunwrapped hlargest⟩
  · have hlt := identMax.toNat_lt
    have hmax : identMax.toNat < uint64Max := by
      have hpow : (2 : Nat) ^ 64 = uint64Max + 1 := rfl
      omega
    rw [Sound.yields_iff (sound_run hnew hmax run) hlive]
    exact (and_iff_left fun hmax => absurd hmax hlargest).symm

theorem yieldsValid_two : ∃ (new ik : IdentKeeper Unit) (transits : List _),
    ikNew 1 2 (some fun _ ident => ident == 2) = some new ∧ Run (keeper Unit) new transits ik ∧
      YieldsValid () ⟨10, 0, 1⟩ ik := by
  have run :=
    @Machine.exec_run _ _ _ (keeper Unit) ⟨1, 2, 0, 1, some fun _ ident => ident == 2, []⟩ _
      [.reserve 10] _ rfl
  have hnew : @ikNew Unit 1 2 (some fun _ ident => ident == 2) = some ⟨1, 2, 0, 1, _, []⟩ := rfl
  refine ⟨_, _, _, hnew, run, (yieldsValid_iff hnew run List.mem_cons_self ()).mpr ⟨Or.inr ?_, ?_⟩⟩
  · rintro ident ⟨_, ⟨_, rfl⟩ | ⟨hpast, _⟩⟩ check hcheck
    · cases hcheck
      rfl
    · exact absurd hpast (by decide)
  · exact fun hlargest => absurd hlargest (by decide)

theorem not_yieldsValid : ¬∀ (identMin identMax : UInt64) (checkIdent : Option (Unit → Nat → Bool))
    (new ik : IdentKeeper Unit) (transits : List _) (ikr : IdentKeeperReservation),
    ikNew identMin identMax checkIdent = some new → Run (keeper Unit) new transits ik →
      ikr ∈ ik.reservations →
    YieldsValid () ikr ik := by
  intro hall
  have run := @Machine.exec_run _ _ _ (keeper Unit) ⟨1, 5, 0, 1, some fun _ _ => false, []⟩ _
    [.reserve 10] _ rfl
  have hvalid := hall 1 5 (some fun _ _ => false) _ _ _ ⟨10, 0, 1⟩ rfl run List.mem_cons_self _ rfl
  exact absurd (hvalid.accepted _ rfl) (by decide)

/-! Reserving after validations. -/

/-- When no identifier is found, all are live just if no validation took the
maximum away from the reservation that held it. -/
theorem outOfIdents_allLive_iff (hnew : ikNew identMin identMax checkIdent = some new)
    (hmax : identMax.toNat < uint64Max) (run : Run (keeper Ctx) new transits ik)
    (hfails : OutOfIdents ik) :
    AllLive identMin identMax ik ↔ ∀ x ∈ transits, KeepsMax x.before x.input := by
  have hsound := sound_run hnew hmax run
  rw [allLive_iff hnew run]
  constructor
  · intro hfull
    have hle : identMin.toNat ≤ identMax.toNat := UInt64.le_iff_toNat_le.mp (ikNew_eq hnew).1
    have hrange := (frame_run hnew run).1
    rw [(ikNew_eq hnew).2] at hrange
    have hmin : ik.identMin ≤ ik.identMax :=
      (hrange.identMin.trans_le hle).trans_eq hrange.identMax.symm
    by_contra hloses
    simp only [not_forall] at hloses
    obtain ⟨x, hx, hloses⟩ := hloses
    exact (lost_run hnew hmax run ⟨x, hx, hloses⟩).2 (hfull ik.identMax hmin (le_refl _))
  · intro hkeeps
    have hheld := maxHeld_run hnew hmax run hkeeps
    exact (hsound.ikReserve_fails_iff hheld 0).mp (hfails 0)

theorem outOfIdents_two : ∃ (new ik : IdentKeeper Unit) (transits : List _),
    ikNew 1 2 (some fun _ _ => true) = some new ∧ Run (keeper Unit) new transits ik ∧
      OutOfIdents ik ∧ AllLive 1 2 ik := by
  have run := @Machine.exec_run _ _ _ (keeper Unit) ⟨1, 2, 0, 1, some fun _ _ => true, []⟩ _
    [.reserve 10, .reserve 11, .validate () ⟨11, 1, 2⟩] _ rfl
  have hnew : @ikNew Unit 1 2 (some fun _ _ => true) = some ⟨1, 2, 0, 1, _, []⟩ := rfl
  refine ⟨_, _, _, hnew, run, fun _ => rfl,
    (outOfIdents_allLive_iff hnew (by decide) run fun _ => rfl).mpr ?_⟩
  intro x hx
  simp only [List.mem_cons, List.not_mem_nil, or_false] at hx
  rcases hx with rfl | rfl | rfl
  · trivial
  · trivial
  · exact fun _ => rfl

/-- One identifier, which is reserved, validated and then free. -/
theorem not_outOfIdents_allLive :
    ¬∀ (identMin identMax : UInt64) (checkIdent : Option (Unit → Nat → Bool))
    (new ik : IdentKeeper Unit) (transits : List _), ikNew identMin identMax checkIdent = some new →
    identMax.toNat < uint64Max → Run (keeper Unit) new transits ik → OutOfIdents ik →
    AllLive identMin identMax ik := by
  intro hall
  have run := @Machine.exec_run _ _ _ (keeper Unit) ⟨1, 1, 0, 1, none, []⟩ _
    [.reserve 10, .validate () ⟨10, 0, 1⟩] _ rfl
  have hlive := hall 1 1 none _ _ _ rfl (by decide) run (fun _ => rfl)
  exact absurd (hlive 1 (le_refl 1) (le_refl 1)) List.not_mem_nil

end Vmstated.Properties
