import Vmstated.Library.FirstGap
import Vmstated.Library.Machine

/-! libconfig/ident_keeper.c: identifiers of a range, reserved one by one. The
mutex can be locked and allocations do not fail. -/
namespace Vmstated.Libconfig
open Library

structure IdentKeeperReservation where
  pointer : Nat
  reservationId : Nat
  ident : Nat
deriving DecidableEq, Repr

/-- `struct ident_keeper`. The checker sees what `ctx` points to at the time of
its call. -/
structure IdentKeeper (Ctx : Type) where
  identMin : Nat
  identMax : Nat
  reservationCounter : Nat
  identNext : Nat
  checkIdent : Option (Ctx → Nat → Bool)
  reservations : List IdentKeeperReservation

def uint64Max : Nat := 2 ^ 64 - 1

def enoent : Nat := 2

variable {Ctx : Type}

def ikNew (identMin identMax : UInt64) (checkIdent : Option (Ctx → Nat → Bool)) :
    Option (IdentKeeper Ctx) :=
  if identMin > identMax then none
  else some ⟨identMin.toNat, identMax.toNat, 0, identMin.toNat, checkIdent, []⟩

def ikFindGap (identStart : Nat) : List IdentKeeperReservation → Option Nat
  | [] => none
  | ikr :: rest => if identStart ≠ ikr.ident then some identStart
      else ikFindGap ((identStart + 1) % 2 ^ 64) rest

/-- The identifier and `errno`, which the callers cleared. -/
def ikNextIdentLocked (ik : IdentKeeper Ctx) : (Nat × Nat) × IdentKeeper Ctx :=
  if ik.identNext ≤ ik.identMax then ((ik.identNext, 0),
    { ik with identNext := (ik.identNext + 1) % 2 ^ 64 })
  else
    match ikFindGap ik.identMin ik.reservations with
    | some ident => ((ident, 0), ik)
    | none => ((uint64Max, enoent), ik)

def insertReservation (ikr : IdentKeeperReservation) :
    List IdentKeeperReservation → List IdentKeeperReservation
  | [] => [ikr]
  | item :: items => if item.ident > ikr.ident then ikr :: item :: items
      else item :: insertReservation ikr items

def ikInsertReservationLocked (ikr : IdentKeeperReservation) (ik : IdentKeeper Ctx) :
    IdentKeeper Ctx :=
  { ik with reservations := insertReservation ikr ik.reservations }

def tailqRemove (ikr : IdentKeeperReservation) (ik : IdentKeeper Ctx) : IdentKeeper Ctx :=
  { ik with reservations := ik.reservations.filter fun item => item.pointer ≠ ikr.pointer }

/-- The reservation, or `NULL`, and `errno`; `pointer` is what `malloc` gives. -/
def ikReserve (pointer : Nat) (ik : IdentKeeper Ctx) :
    (Option IdentKeeperReservation × Nat) × IdentKeeper Ctx :=
  let next := ikNextIdentLocked ik
  if next.1.1 = uint64Max ∧ next.1.2 = enoent then ((none, next.1.2), next.2)
  else
    let ikr := ⟨pointer, next.2.reservationCounter, next.1.1⟩
    ((some ikr, next.1.2), ikInsertReservationLocked ikr
      { next.2 with reservationCounter := (next.2.reservationCounter + 1) % 2 ^ 64 })

def ikDispose (ikr : IdentKeeperReservation) (ik : IdentKeeper Ctx) : IdentKeeper Ctx :=
  let last := (ik.identNext + uint64Max) % 2 ^ 64
  let ik := tailqRemove ikr ik
  if last = ikr.ident then { ik with identNext := last } else ik

/-- Whether `check_ident` is set and accepts the identifier. -/
def IdentKeeper.accepts (ik : IdentKeeper Ctx) (ctx : Ctx) (ident : Nat) : Bool :=
  match ik.checkIdent with
  | some check => check ctx ident
  | none => false

/-- The result, and the reservation as the call leaves it, if it is not freed. -/
def ikValidateReservation (ctx : Ctx) (ikr : IdentKeeperReservation) (ik : IdentKeeper Ctx) :
    (Int × Option IdentKeeperReservation) × IdentKeeper Ctx :=
  if ik.accepts ctx ikr.ident then ((0, some ikr), ik)
  else
    let next := ikNextIdentLocked (tailqRemove ikr ik)
    let ikr := { ikr with ident := next.1.1 }
    if next.1.1 ≠ uint64Max ∧
      next.1.2 = 0 then ((0, some ikr), ikInsertReservationLocked ikr next.2)
    else ((-1, none), next.2)

/-! Calls on reservations that are live. -/

inductive KeeperCall (Ctx : Type) where
  | reserve (pointer : Nat)
  | dispose (ikr : IdentKeeperReservation)
  | validate (ctx : Ctx) (ikr : IdentKeeperReservation)

inductive KeeperReply where
  | reserved (ikr : Option IdentKeeperReservation) (errno : Nat)
  | disposed
  | validated (result : Int) (ikr : Option IdentKeeperReservation)

/-- `malloc` gives an address that is not in use. -/
def keeper (Ctx : Type) : Machine (IdentKeeper Ctx) (KeeperCall Ctx) KeeperReply where
  step ik
    | .reserve pointer =>
      if pointer ∈ ik.reservations.map IdentKeeperReservation.pointer then none
      else some (.reserved (ikReserve pointer ik).1.1 (ikReserve pointer ik).1.2,
        (ikReserve pointer ik).2)
    | .dispose ikr => if ikr ∈ ik.reservations then some (.disposed, ikDispose ikr ik) else none
    | .validate ctx ikr =>
      if ikr ∈ ik.reservations then
        some
          (.validated (ikValidateReservation ctx ikr ik).1.1 (ikValidateReservation ctx ikr ik).1.2,
          (ikValidateReservation ctx ikr ik).2)
      else none

end Vmstated.Libconfig
