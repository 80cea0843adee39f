import Mathlib.Data.List.Basic
import Mathlib.Logic.Function.Basic
import Mathlib.Tactic.Common

/-! A tail queue that is linked through its elements, so that no element can be
on it twice. -/
namespace Vmstated.Library

/-- `last` is the element whose link ends the queue; without one it is the head
of the queue that does. -/
structure TailQueue (α : Type) where
  first : Option α
  last : Option α
  next : α → Option α

namespace TailQueue
variable {α : Type}

def init (next : α → Option α) : TailQueue α := ⟨none, none, next⟩

def Chain (next : α → Option α) : Option α → List α → Prop
  | link, [] => link = none
  | link, x :: xs => link = some x ∧ Chain next (next x) xs

/-- The elements of the queue, in order. -/
structure Holds (queue : TailQueue α) (items : List α) : Prop where
  chain : Chain queue.next queue.first items
  last : queue.last = items.getLast?

theorem init_holds (next : α → Option α) : (init next).Holds [] := ⟨rfl, rfl⟩

section
variable {next : α → Option α} {link : Option α} {xs ys : List α}

theorem Chain.unique (hxs : Chain next link xs) (hys : Chain next link ys) : xs = ys := by
  induction xs generalizing link ys with
  | nil =>
    cases ys with
    | nil => rfl
    | cons y ys => exact absurd (hxs.symm.trans hys.1) (Option.some_ne_none y).symm
  | cons x xs ih =>
    cases ys with
    | nil => exact absurd (hxs.1.symm.trans hys) (Option.some_ne_none x)
    | cons y ys =>
      obtain rfl := Option.some.inj (hxs.1.symm.trans hys.1)
      rw [ih hxs.2 hys.2]

theorem Chain.drop (h : Chain next link (xs ++ ys)) : ∃ link', Chain next link' ys := by
  induction xs generalizing link with
  | nil => exact ⟨link, h⟩
  | cons x xs ih => exact ih h.2

theorem Chain.nodup (h : Chain next link xs) : xs.Nodup := by
  induction xs generalizing link with
  | nil => exact List.nodup_nil
  | cons x xs ih =>
    refine List.nodup_cons.mpr ⟨?_, ih h.2⟩
    intro hmem
    obtain ⟨before, after, rfl⟩ := List.append_of_mem hmem
    obtain ⟨link', hlater⟩ := h.2.drop
    have hagain : Chain next link (x :: after) := ⟨h.1, hlater.2⟩
    have hlength := congrArg List.length (h.unique hagain)
    simp only [List.length_cons, List.length_append] at hlength
    omega

variable [DecidableEq α]

theorem Chain.update (h : Chain next link xs) {x : α} (hx : x ∉ xs) (value : Option α) :
    Chain (Function.update next x value) link xs := by
  induction xs generalizing link with
  | nil => exact h
  | cons y ys ih =>
    rw [List.mem_cons, not_or] at hx
    refine ⟨h.1, ?_⟩
    rw [Function.update_of_ne (Ne.symm hx.1)]
    exact ih h.2 hx.2

theorem Chain.snoc (h : Chain next link xs) {last x : α}
    (hlast : xs.getLast? = some last) (hx : next x = none)
    (hmem : x ∉ xs) : Chain (Function.update next last (some x)) link (xs ++ [x]) := by
  induction xs generalizing link with
  | nil => cases hlast
  | cons y ys ih =>
    have hnodup := List.nodup_cons.mp h.nodup
    rw [List.mem_cons, not_or] at hmem
    refine ⟨h.1, ?_⟩
    cases ys with
    | nil =>
      obtain rfl : y = last := Option.some.inj hlast
      rw [Function.update_self]
      refine ⟨rfl, ?_⟩
      rw [Function.update_of_ne hmem.1]
      exact hx
    | cons z zs =>
      rw [List.getLast?_cons_cons] at hlast
      have hne : y ≠ last := by
        rintro rfl
        exact hnodup.1 (List.mem_of_getLast? hlast)
      rw [Function.update_of_ne hne]
      exact ih h.2 hlast hmem.2

end

def removeHead (queue : TailQueue α) : TailQueue α :=
  match queue.first with
  | none => queue
  | some x =>
    { queue with
      first := queue.next x
      last := if (queue.next x).isNone then none else queue.last }

theorem removeHead_holds {queue : TailQueue α} {x : α} {items : List α}
    (h : queue.Holds (x :: items)) :
    queue.removeHead.Holds items := by
  obtain ⟨hfirst, hrest⟩ := h.chain
  have hlast := h.last
  unfold removeHead
  rw [hfirst]
  cases items with
  | nil =>
    have hend : queue.next x = none := hrest
    exact ⟨hend, by simp [hend]⟩
  | cons y items =>
    rw [List.getLast?_cons_cons] at hlast
    exact ⟨hrest, by simp [hrest.1, hlast]⟩

variable [DecidableEq α] {queue : TailQueue α} {items : List α}

def insertTail (elm : α) (queue : TailQueue α) : TailQueue α :=
  let queue := { queue with next := Function.update queue.next elm none }
  let queue := match queue.last with
    | none => { queue with first := some elm }
    | some last => { queue with next := Function.update queue.next last (some elm) }
  { queue with last := some elm }

theorem insertTail_holds {elm : α} (h : queue.Holds items) (hfresh : elm ∉ items) :
    (queue.insertTail elm).Holds (items ++ [elm]) := by
  have hchain := h.chain.update hfresh none
  refine ⟨?_, ?_⟩
  · cases hlast : queue.last with
    | none =>
      have hitems : items = [] := List.getLast?_eq_none_iff.mp (h.last.symm.trans hlast)
      subst hitems
      simp [insertTail, hlast, Chain]
    | some last =>
      have hsnoc :=
        hchain.snoc (h.last.symm.trans hlast) (Function.update_self elm none queue.next) hfresh
      simpa [insertTail, hlast] using hsnoc
  · simp [insertTail]

/-- An element that is on the queue already loses the place it has. -/
theorem insertTail_holds_iff (elm : α) (h : queue.Holds items) :
    (queue.insertTail elm).Holds (items ++ [elm]) ↔ elm ∉ items := by
  refine ⟨?_, insertTail_holds h⟩
  intro hafter hmem
  have hnodup := hafter.chain.nodup
  rw [List.nodup_append] at hnodup
  exact hnodup.2.2 elm hmem elm (List.mem_singleton_self elm) rfl

end TailQueue

end Vmstated.Library
