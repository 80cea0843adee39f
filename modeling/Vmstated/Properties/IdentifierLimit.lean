import Vmstated.Libconfig.IdentLimit
import Vmstated.Properties.Identifiers

/-! Which identifiers are handed out, up to the largest maximum. -/
namespace Vmstated.Properties
open Library Libconfig

variable {Ctx : Type} {identMin identMax : UInt64} {checkIdent : Option (Ctx → Nat → Bool)}
  {new ik : IdentKeeper Ctx}
  {transits : List (Transit (IdentKeeper Ctx) (KeeperCall Ctx) KeeperReply)}

def handedOut : KeeperReply → Option Nat
  | .reserved (some ikr) _ => some ikr.ident
  | _ => none

section
variable (identMin identMax : UInt64)
  (transits : List (Transit (IdentKeeper Ctx) (KeeperCall Ctx) KeeperReply))
  (x : Transit (IdentKeeper Ctx) (KeeperCall Ctx) KeeperReply)

def InRange : Prop :=
  ∀ x ∈ transits, ∀ ident ∈ handedOut x.output, identMin.toNat ≤ ident ∧ ident ≤ identMax.toNat

def Reserves : Prop := ∃ pointer, x.input = .reserve pointer

/-- The increment of `ident_next` in `ik_reserve` wraps. -/
def Wraps : Prop := Reserves x ∧ x.after.identNext < x.before.identNext

/-- An increment has wrapped, and `ident_next` is still what it became then. -/
def Wrapped : Prop :=
  ∃ earlier x later, transits = earlier ++ x :: later ∧ Wraps x ∧
    ∀ y ∈ later, y.after.identNext = y.before.identNext

def NeverWrapped : Prop :=
  ∀ earlier x later, transits = earlier ++ x :: later → Wrapped earlier →
    ∀ ident ∈ handedOut x.output, ident ≠ x.before.identNext

/-- The largest `uint64_t` is not live when `ik_reserve` is called. -/
def LargestFree : Prop := ∀ x ∈ transits, Reserves x → uint64Max ∉ x.before.idents

end

section
variable {x : Transit (IdentKeeper Ctx) (KeeperCall Ctx) KeeperReply}

theorem wrapped_snoc : Wrapped (transits ++ [x]) ↔
    Wraps x ∨ (Wrapped transits ∧ x.after.identNext = x.before.identNext) := by
  constructor
  · rintro ⟨earlier, y, later, hsplit, hwraps, hsame⟩
    rcases List.eq_nil_or_concat later with rfl | ⟨init, last, rfl⟩
    · obtain ⟨-, hlast⟩ := List.append_inj' hsplit rfl
      rw [List.singleton_inj.mp hlast]
      exact Or.inl hwraps
    · rw [List.concat_eq_append, ← List.cons_append, ← List.append_assoc] at hsplit
      rw [List.concat_eq_append, List.forall_mem_append, List.forall_mem_singleton] at hsame
      obtain ⟨htransits, hlast⟩ := List.append_inj' hsplit rfl
      rw [List.singleton_inj.mp hlast]
      exact Or.inr ⟨⟨earlier, y, init, htransits, hwraps, hsame.1⟩, hsame.2⟩
  · rintro (hwraps | ⟨⟨earlier, y, later, rfl, hwraps, hsame⟩, hlast⟩)
    · exact ⟨transits, x, [], rfl, hwraps, fun _ hmem => absurd hmem List.not_mem_nil⟩
    · refine ⟨earlier, y, later ++ [x], by rw [List.append_assoc, List.cons_append], hwraps, ?_⟩
      rw [List.forall_mem_append, List.forall_mem_singleton]
      exact ⟨hsame, hlast⟩

theorem not_wrapped_nil :
    ¬Wrapped ([] : List (Transit (IdentKeeper Ctx) (KeeperCall Ctx) KeeperReply)) := by
  rintro ⟨earlier, x, later, hsplit, -⟩
  simp at hsplit

theorem reserves_of_handedOut
    (hstep : (keeper Ctx).step x.before x.input = some (x.output, x.after)) {ident : Nat}
    (hout : ident ∈ handedOut x.output) : Reserves x := by
  obtain ⟨before, input, output, after⟩ := x
  have hkeeper : KeeperStep before input output after := keeper_step hstep
  cases hkeeper with
  | @reserve pointer hpointer => exact ⟨pointer, rfl⟩
  | dispose hlive => cases hout
  | validate hlive => cases hout

theorem reserve_step (hstep : (keeper Ctx).step x.before x.input = some (x.output, x.after))
    (hreserves : Reserves x) :
    ∃ pointer, (∀ item ∈ x.before.reservations, item.pointer ≠ pointer) ∧
      x.output = .reserved (ikReserve pointer x.before).1.1 (ikReserve pointer x.before).1.2 ∧
      x.after = (ikReserve pointer x.before).2 := by
  obtain ⟨before, input, output, after⟩ := x
  have hkeeper : KeeperStep before input output after := keeper_step hstep
  obtain ⟨pointer, rfl⟩ := hreserves
  cases hkeeper with
  | reserve hpointer =>
    refine ⟨pointer, ?_, rfl, rfl⟩
    rintro item hitem rfl
    exact hpointer (List.mem_map_of_mem hitem)

theorem dispose_step (hstep : (keeper Ctx).step x.before x.input = some (x.output, x.after))
    {ikr : IdentKeeperReservation} (hinput : x.input = .dispose ikr) :
    ikr ∈ x.before.reservations ∧ x.after = ikDispose ikr x.before := by
  obtain ⟨before, input, output, after⟩ := x
  have hkeeper : KeeperStep before input output after := keeper_step hstep
  obtain rfl : input = .dispose ikr := hinput
  cases hkeeper with
  | dispose hlive =>
    dsimp only
    exact ⟨hlive, rfl⟩

/-! Below the largest maximum. -/

theorem reserved_of_sound (h : Sound x.before)
    (hstep : (keeper Ctx).step x.before x.input = some (x.output, x.after)) :
    (∀ ident ∈ handedOut x.output, x.before.identMin ≤ ident ∧ ident ≤ x.before.identMax) ∧
      ¬Wraps x := by
  by_cases hreserves : Reserves x
  · obtain ⟨pointer, -, houtput, hafter⟩ := reserve_step hstep hreserves
    have hcases := h.nextIdent
    rw [Wraps, and_iff_right hreserves, houtput, hafter]
    generalize hnext : ikNextIdentLocked x.before = next at hcases
    cases hcases with
    | fresh hleft =>
      rw [ikReserve_of_next hnext]
      refine ⟨fun ident hout => ?_, fun hless => absurd hless (Nat.not_lt.mpr (Nat.le_succ _))⟩
      obtain rfl := Option.some.inj hout
      exact ((NextIdent.fresh hleft).provides h).bounds
    | gap hpast hgap =>
      rw [ikReserve_of_next hnext]
      refine ⟨fun ident hout => ?_, fun hless => absurd hless (lt_irrefl _)⟩
      obtain rfl := Option.some.inj hout
      exact ((NextIdent.gap hpast hgap).provides h).bounds
    | exhausted =>
      rw [ikReserve_of_exhausted hnext]
      exact ⟨fun ident hout => (nomatch hout), fun hless => absurd hless (lt_irrefl _)⟩
  · exact ⟨fun ident hout => absurd (reserves_of_handedOut hstep hout) hreserves,
      fun hwraps => hreserves hwraps.1⟩

end

theorem handsOut_of_lt (hnew : ikNew identMin identMax checkIdent = some new)
    (hmax : identMax.toNat < uint64Max) (run : Run (keeper Ctx) new transits ik) :
    (InRange identMin identMax transits ∧ NeverWrapped transits) ∧ LargestFree transits := by
  have hrange (x) (hx : x ∈ transits) : Sound x.before ∧ SameRange new x.before := by
    obtain ⟨earlier, later, rfl⟩ := List.append_of_mem hx
    exact ⟨sound_run hnew hmax run.before_mid, (frame_run hnew run.before_mid).1⟩
  obtain ⟨_, rfl⟩ := ikNew_eq hnew
  refine ⟨⟨?_, ?_⟩, ?_⟩
  · intro x hx ident hout
    obtain ⟨hsound, hsame⟩ := hrange x hx
    have hbounds := (reserved_of_sound hsound (run.step_mem hx)).1 ident hout
    rwa [hsame.identMin, hsame.identMax] at hbounds
  · rintro _ x later rfl ⟨earlier, y, between, rfl, hwraps, -⟩
    have hy : y ∈ (earlier ++ y :: between) ++ x :: later := by simp
    exact absurd hwraps (reserved_of_sound (hrange y hy).1 (run.step_mem hy)).2
  · intro x hx _ hlive
    obtain ⟨hsound, hsame⟩ := hrange x hx
    have hle := hsound.ident_le hlive
    rw [hsame.identMax] at hle
    exact absurd hle (Nat.not_le.mpr hmax)

/-! With the largest maximum. -/

/-- What a run keeps while the largest identifier is free at each reservation. -/
structure Climbing (transits : List (Transit (IdentKeeper Ctx) (KeeperCall Ctx) KeeperReply))
    (ik : IdentKeeper Ctx) :
    Prop where
  largest : ik.identMax = uint64Max
  state : (Sound ik.lowered ∧ ¬Wrapped transits) ∨ (Topped ik ∧ Wrapped transits)

section
variable {x : Transit (IdentKeeper Ctx) (KeeperCall Ctx) KeeperReply}

theorem Climbing.sound (h : Climbing transits ik) (hfree : uint64Max ∉ ik.idents) :
    Sound ik.lowered ∧ ¬Wrapped transits :=
      h.state.resolve_right fun htopped => hfree htopped.1.largest_live

theorem Climbing.next_lt (h : Climbing transits ik) : ik.identNext < 2 ^ 64 := by
  rcases h.state with ⟨hsound, -⟩ | ⟨htopped, -⟩
  · exact lt_of_le_of_lt hsound.next_le uint64Max_lt
  · rw [htopped.next]
    exact Nat.two_pow_pos 64

theorem Climbing.handedOut (h : Climbing transits x.before)
    (hstep : (keeper Ctx).step x.before x.input = some (x.output, x.after))
    (hreserves : Reserves x) :
    handedOut x.output = some x.before.identNext := by
  obtain ⟨pointer, -, houtput, -⟩ := reserve_step hstep hreserves
  rw [houtput, (ikReserve_largest h.largest h.next_lt pointer).1]
  rfl

theorem Climbing.reserve (h : Climbing transits x.before) (hfree : uint64Max ∉ x.before.idents)
    (hstep : (keeper Ctx).step x.before x.input = some (x.output, x.after))
    (hreserves : Reserves x) :
    Climbing (transits ++ [x]) x.after := by
  have hpow : (2 : Nat) ^ 64 = uint64Max + 1 := rfl
  obtain ⟨hsound, hwrapped⟩ := h.sound hfree
  have hnext := hsound.next_le
  obtain ⟨pointer, hpointer, -, hafter⟩ := reserve_step hstep hreserves
  have hincrement := (ikReserve_largest h.largest (by omega) pointer).2
  rw [← hafter] at hincrement
  refine ⟨(keeper_step_frame hstep).1.identMax.trans h.largest, ?_⟩
  rw [wrapped_snoc, Wraps, and_iff_right hreserves]
  by_cases hlast : x.before.identNext = uint64Max
  · refine Or.inr ⟨hafter ▸ hsound.reserve_largest h.largest hlast hpointer, Or.inl ?_⟩
    omega
  · refine Or.inl ⟨hafter ▸ hsound.reserve_below h.largest (by omega) hpointer, ?_⟩
    rintro (hless | ⟨hwrapped', -⟩)
    · omega
    · exact hwrapped hwrapped'

theorem Climbing.dispose (h : Climbing transits x.before)
    (hstep : (keeper Ctx).step x.before x.input = some (x.output, x.after))
    {ikr : IdentKeeperReservation}
    (hinput : x.input = .dispose ikr) : Climbing (transits ++ [x]) x.after := by
  refine ⟨(keeper_step_frame hstep).1.identMax.trans h.largest, ?_⟩
  have hwraps : ¬Wraps x := by
    rintro ⟨⟨pointer, hreserve⟩, -⟩
    rw [hinput] at hreserve
    cases hreserve
  obtain ⟨hlive, hafter⟩ := dispose_step hstep hinput
  rw [wrapped_snoc, or_iff_right hwraps, hafter]
  rcases h.state with ⟨hsound, hwrapped⟩ | ⟨htopped, hwrapped⟩
  · exact Or.inl ⟨hsound.dispose_lowered hlive, fun h => hwrapped h.1⟩
  · rw [htopped.next, and_iff_right hwrapped]
    rcases htopped.dispose hlive with ⟨hnext, hsound⟩ | ⟨hnext, htopped⟩
    · rw [hnext]
      exact Or.inl ⟨hsound, by decide⟩
    · exact Or.inr ⟨htopped, hnext⟩

end

theorem climbing_run (hnew : ikNew identMin identMax checkIdent = some new)
    (hmax : identMax.toNat = uint64Max)
    (run : Run (keeper Ctx) new transits ik) (hcalls : ∀ x ∈ transits, allocates x.input = true)
    (hfree : LargestFree transits) : Climbing transits ik := by
  induction run with
  | nil =>
    obtain ⟨hle, rfl⟩ := ikNew_eq hnew
    have hrange : identMin.toNat ≤ uint64Max := hmax ▸ UInt64.le_iff_toNat_le.mp hle
    have hlimit : uint64Max - 1 < uint64Max := by decide
    refine ⟨hmax,
      Or.inl ⟨⟨hlimit, ⟨le_refl _, hrange⟩, List.Pairwise.nil, ?_, ?_⟩, not_wrapped_nil⟩⟩
    · exact fun ident hident => absurd hident List.not_mem_nil
    · exact fun a ha => absurd ha List.not_mem_nil
  | @snoc transits t u i o run hstep ih =>
    rw [List.forall_mem_append, List.forall_mem_singleton] at hcalls
    rw [LargestFree, List.forall_mem_append, List.forall_mem_singleton] at hfree
    have hclimbing := ih hcalls.1 hfree.1
    cases i with
    | reserve pointer =>
      have hreserves : Reserves ⟨t, .reserve pointer, o, u⟩ := ⟨pointer, rfl⟩
      exact @Climbing.reserve _ transits ⟨t, .reserve pointer, o, u⟩ hclimbing
        (hfree.2 hreserves) hstep hreserves
    | dispose ikr =>
      exact @Climbing.dispose _ transits ⟨t, .dispose ikr, o, u⟩ hclimbing hstep ikr rfl
    | validate ctx ikr => exact absurd hcalls.2 (by simp [allocates])

theorem handsOut_iff_of_largest (hnew : ikNew identMin identMax checkIdent = some new)
    (hmax : identMax.toNat = uint64Max) (run : Run (keeper Ctx) new transits ik)
    (hcalls : ∀ x ∈ transits, allocates x.input = true) :
    InRange identMin identMax transits ∧ NeverWrapped transits ↔ LargestFree transits := by
  constructor
  · rintro ⟨-, hnever⟩
    induction run with
    | nil => exact fun _ hmem => absurd hmem List.not_mem_nil
    | @snoc transits t u i o run hstep ih =>
      rw [List.forall_mem_append, List.forall_mem_singleton] at hcalls
      have hfree := ih hcalls.1 fun earlier x later hsplit =>
        hnever earlier x (later ++ [⟨t, i, o, u⟩])
          (by rw [hsplit, List.append_assoc, List.cons_append])
      rw [LargestFree, List.forall_mem_append, List.forall_mem_singleton]
      refine ⟨hfree, ?_⟩
      intro hreserves hlive
      have hclimbing := climbing_run hnew hmax run hcalls.1 hfree
      rcases hclimbing.state with ⟨hsound, -⟩ | ⟨htopped, hwrapped⟩
      · exact hsound.largest_free hlive
      · have hout := @Climbing.handedOut _ transits ⟨t, i, o, u⟩ hclimbing hstep hreserves
        exact hnever transits ⟨t, i, o, u⟩ [] rfl hwrapped _ hout rfl
  · intro hfree
    have hbefore {earlier x later} (hsplit : transits = earlier ++ x :: later) {ident : Nat}
        (hout : ident ∈ handedOut x.output) : Reserves x ∧ Climbing earlier x.before ∧
          ident = x.before.identNext := by
      have hx : x ∈ transits := by simp [hsplit]
      have hstep := run.step_mem hx
      have hreserves := reserves_of_handedOut hstep hout
      subst hsplit
      have hclimbing :=
        climbing_run hnew hmax run.before_mid (fun y hy => hcalls y (List.mem_append_left _ hy))
          fun y hy => hfree y (List.mem_append_left _ hy)
      rw [hclimbing.handedOut hstep hreserves] at hout
      exact ⟨hreserves, hclimbing, (Option.some.inj hout).symm⟩
    constructor
    · intro x hx ident hout
      obtain ⟨earlier, later, hsplit⟩ := List.append_of_mem hx
      obtain ⟨hreserves, hclimbing, rfl⟩ := hbefore hsplit hout
      obtain ⟨hsound, -⟩ := hclimbing.sound (hfree x hx hreserves)
      subst hsplit
      have hmin : x.before.identMin = identMin.toNat := by
        rw [(frame_run hnew run.before_mid).1.identMin, (ikNew_eq hnew).2]
      exact ⟨hmin.symm.trans_le hsound.next.1, hmax ▸ hsound.next_le⟩
    · intro earlier x later hsplit hwrapped ident hout
      obtain ⟨hreserves, hclimbing, -⟩ := hbefore hsplit hout
      have hx : x ∈ transits := by simp [hsplit]
      exact absurd hwrapped (hclimbing.sound (hfree x hx hreserves)).2

/-- What is handed out is of the range and no wrapped `ident_next`, if the
largest `uint64_t` is never live when the next identifier is asked for. -/
theorem handsOut_iff (hnew : ikNew identMin identMax checkIdent = some new)
    (run : Run (keeper Ctx) new transits ik) (hcalls : ∀ x ∈ transits, allocates x.input = true) :
    InRange identMin identMax transits ∧ NeverWrapped transits ↔ LargestFree transits := by
  by_cases hlargest : identMax.toNat = uint64Max
  · exact handsOut_iff_of_largest hnew hlargest run hcalls
  · have hlt := identMax.toNat_lt
    have hpow : (2 : Nat) ^ 64 = uint64Max + 1 := rfl
    obtain ⟨hgood, hfree⟩ := handsOut_of_lt hnew (by omega) run
    exact iff_of_true hgood hfree

theorem handsOut_two : ∃ (new ik : IdentKeeper Unit) (transits : List _),
    ikNew 0xFFFFFFFFFFFFFFFE 0xFFFFFFFFFFFFFFFF none = some new ∧
      Run (keeper Unit) new transits ik ∧
      InRange 0xFFFFFFFFFFFFFFFE 0xFFFFFFFFFFFFFFFF transits ∧ NeverWrapped transits := by
  let new : IdentKeeper Unit :=
    ⟨0xFFFFFFFFFFFFFFFE, 0xFFFFFFFFFFFFFFFF, 0, 0xFFFFFFFFFFFFFFFE, none, []⟩
  have hnew : @ikNew Unit 0xFFFFFFFFFFFFFFFE 0xFFFFFFFFFFFFFFFF none = some new :=
    if_neg (by decide)
  have run := @Machine.exec_run _ _ _ (keeper Unit) new _
    [.reserve 10, .reserve 11] _ rfl
  have hgood := (handsOut_iff hnew run (by simp [allocates])).mpr ?_
  · exact ⟨_, _, _, hnew, run, hgood⟩
  · rintro x hx -
    rcases List.mem_pair.mp hx with rfl | rfl
    · decide
    · decide

theorem not_handsOut : ¬∀ (identMin identMax : UInt64) (checkIdent : Option (Unit → Nat → Bool))
    (new ik : IdentKeeper Unit) (transits : List _), ikNew identMin identMax checkIdent = some new →
    Run (keeper Unit) new transits ik → (∀ x ∈ transits, allocates x.input = true) →
    InRange identMin identMax transits ∧ NeverWrapped transits := by
  intro hall
  have run := @Machine.exec_run _ _ _ (keeper Unit)
    ⟨0xFFFFFFFFFFFFFFFF, 0xFFFFFFFFFFFFFFFF, 0, 0xFFFFFFFFFFFFFFFF, none, []⟩ _
      [.reserve 10, .reserve 11] _ rfl
  have hrange :=
    (hall 0xFFFFFFFFFFFFFFFF 0xFFFFFFFFFFFFFFFF none _ _ _ rfl run (by simp [allocates])).1
  have hzero := (hrange _ (List.mem_cons_of_mem _ List.mem_cons_self) 0 rfl).1
  exact absurd hzero (by decide)

end Vmstated.Properties
