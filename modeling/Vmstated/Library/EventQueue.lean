import Mathlib.Logic.Function.Basic
import Mathlib.Tactic.Common

/-! The kernel's event queues: registrations that a program adds, enables and
disables, and of which it gets what happens. -/
namespace Vmstated.Library

inductive EventKey where
  /-- There is something to read from a descriptor, or its end. -/
  | read (fd : Nat)
  /-- The program triggers it itself. -/
  | user (ident : Nat)
  /-- A process exits. -/
  | proc (pid : Nat)
deriving DecidableEq, Repr

def EventKey.ident : EventKey → Nat
  | .read fd => fd
  | .user ident => ident
  | .proc pid => pid

structure Registration (υ : Type) where
  udata : υ
  enabled : Bool
deriving DecidableEq

structure EventQueue (υ : Type) where
  registrations : EventKey → Option (Registration υ)

namespace EventQueue
variable {υ : Type}

def new : EventQueue υ := ⟨fun _ => none⟩

/-- `EV_ADD`, which enables what is registered already. -/
def add (key : EventKey) (udata : υ) (events : EventQueue υ) : EventQueue υ :=
  ⟨Function.update events.registrations key (some ⟨udata, true⟩)⟩

/-- A change without `EV_ADD`: an error where there is nothing to change. -/
def change (key : EventKey) (udata : υ) (enabled : Bool) (events : EventQueue υ) :
    Option (EventQueue υ) :=
  match events.registrations key with
  | none => none
  | some _ => some ⟨Function.update events.registrations key (some ⟨udata, enabled⟩)⟩

/-- The descriptor is closed, or the event is delivered and was to be so once. -/
def remove (key : EventKey) (events : EventQueue υ) : EventQueue υ :=
  ⟨Function.update events.registrations key none⟩

def triggers (key : EventKey) (events : EventQueue υ) : Bool := (events.registrations key).isSome

section
variable {key other : EventKey} {udata : υ} {enabled : Bool} {events after : EventQueue υ}

@[simp] theorem new_registrations : (new : EventQueue υ).registrations key = none := rfl

@[simp] theorem add_self : (events.add key udata).registrations key = some ⟨udata, true⟩ :=
  Function.update_self ..

theorem add_other (h : other ≠ key) :
    (events.add key udata).registrations other = events.registrations other :=
  Function.update_of_ne h ..

@[simp] theorem remove_self : (events.remove key).registrations key = none :=
  Function.update_self ..

theorem remove_other (h : other ≠ key) :
    (events.remove key).registrations other = events.registrations other :=
  Function.update_of_ne h ..

theorem change_isSome :
    (events.change key udata enabled).isSome = (events.registrations key).isSome := by
  unfold change
  split <;> simp_all

theorem change_other (h : events.change key udata enabled = some after) (hother : other ≠ key) :
    after.registrations other = events.registrations other := by
  unfold change at h
  split at h
  · cases h
  · cases h
    exact Function.update_of_ne hother ..

end

end EventQueue

end Vmstated.Library
