import Vmstated.Library.TailQueue

/-! A list that is linked through its elements in both directions, so that an
element is removed without a walk. -/
namespace Vmstated.Library

/-- `prev` is the place of the link to an element: the head of the list, or the
link of another element. -/
structure LinkedList (α : Type) where
  first : Option α
  next : α → Option α
  prev : α → Option α

namespace LinkedList
variable {α : Type}

/-- `LIST_INIT`. What is in the links of an element is not known before it is
inserted. -/
def init (next prev : α → Option α) : LinkedList α := ⟨none, next, prev⟩

section
variable [DecidableEq α]

def link (place : Option α) (value : Option α) (list : LinkedList α) : LinkedList α :=
  match place with
  | none => { list with first := value }
  | some x => { list with next := Function.update list.next x value }

def place (element : Option α) (value : Option α) (list : LinkedList α) : LinkedList α :=
  match element with
  | none => list
  | some x => { list with prev := Function.update list.prev x value }

def insertHead (x : α) (list : LinkedList α) : LinkedList α :=
  let next := list.first
  ((list.link (some x) next).place next (some x)).link none (some x) |>.place (some x) none

/-- `LIST_REMOVE`. -/
def remove (x : α) (list : LinkedList α) : LinkedList α :=
  let placed := list.place (list.next x) (list.prev x)
  placed.link (list.prev x) (list.next x)

end

def Linked (list : LinkedList α) : Option α → Option α → List α → Prop
  | _, next, [] => next = none
  | prev, next, x :: xs =>
    next = some x ∧ list.prev x = prev ∧ list.Linked (some x) (list.next x) xs

/-- The elements of the list, in order. -/
def Holds (list : LinkedList α) (items : List α) : Prop := list.Linked none list.first items

section
variable {list after : LinkedList α} {prev next : Option α} {x y : α} {xs ys : List α}

theorem init_holds (next prev : α → Option α) : (init next prev).Holds [] := rfl

theorem Linked.chain (h : list.Linked prev next xs) : TailQueue.Chain list.next next xs := by
  induction xs generalizing prev next with
  | nil => exact h
  | cons x xs ih => exact ⟨h.1, ih h.2.2⟩

theorem Holds.nodup (h : list.Holds xs) : xs.Nodup := h.chain.nodup

theorem Holds.unique (hxs : list.Holds xs) (hys : list.Holds ys) : xs = ys :=
  hxs.chain.unique hys.chain

theorem Linked.congr (h : list.Linked prev next xs)
    (hsame : ∀ x ∈ xs, after.next x = list.next x ∧ after.prev x = list.prev x) :
    after.Linked prev next xs := by
  induction xs generalizing prev next with
  | nil => exact h
  | cons x xs ih =>
    obtain ⟨hnext, hprev⟩ := hsame x List.mem_cons_self
    refine ⟨h.1, hprev.trans h.2.1, ?_⟩
    rw [hnext]
    exact ih h.2.2 fun y hy => hsame y (List.mem_cons_of_mem x hy)

theorem Linked.apart (h : list.Linked prev next (xs ++ x :: ys)) (hprev : prev ≠ some x) :
    some x ≠ list.prev x ∧ some x ≠ list.next x := by
  have hnodup := h.chain.nodup
  induction xs generalizing prev next with
  | nil =>
    obtain ⟨-, hplace, hrest⟩ := h
    refine ⟨fun heq => hprev (hplace.symm.trans heq.symm), ?_⟩
    intro heq
    cases ys with
    | nil => exact Option.some_ne_none x (heq.trans hrest)
    | cons y ys =>
      cases Option.some.inj (heq.trans hrest.1)
      exact (List.nodup_cons.mp hnodup).1 List.mem_cons_self
  | cons z xs ih =>
    rw [List.cons_append] at hnodup
    have hfresh := List.nodup_cons.mp hnodup
    refine ih h.2.2 ?_ hfresh.2
    rintro ⟨⟩
    exact hfresh.1 (List.mem_append_right _ List.mem_cons_self)

theorem Linked.head (h : list.Linked prev next xs) : next = xs.head? := by
  cases xs with
  | nil => exact h
  | cons x xs => exact h.1

theorem Linked.drop (h : list.Linked prev next (xs ++ ys)) :
    ∃ prev next, list.Linked prev next ys := by
  induction xs generalizing prev next with
  | nil => exact ⟨prev, next, h⟩
  | cons x xs ih => exact ih h.2.2

variable [DecidableEq α]

@[simp] theorem link_prev (place value : Option α) : (list.link place value).prev = list.prev := by
  cases place <;> rfl

@[simp] theorem place_next (element value : Option α) :
    (list.place element value).next = list.next := by
  cases element <;> rfl

theorem link_next (hx : some x ≠ prev) (value : Option α) :
    (list.link prev value).next x = list.next x := by
  cases prev with
  | none => rfl
  | some y => exact Function.update_of_ne (fun h => hx (congrArg some h)) ..

theorem place_prev (hx : some x ≠ next) (value : Option α) :
    (list.place next value).prev x = list.prev x := by
  cases next with
  | none => rfl
  | some y => exact Function.update_of_ne (fun h => hx (congrArg some h)) ..

theorem Linked.place (h : list.Linked prev next xs) (value : Option α) :
    (list.place next value).Linked value next xs := by
  cases xs with
  | nil => exact h
  | cons x xs =>
    have hnodup := List.nodup_cons.mp h.chain.nodup
    obtain ⟨rfl, -, hrest⟩ := h
    refine ⟨rfl, Function.update_self .., ?_⟩
    rw [place_next]
    apply hrest.congr
    intro y hy
    have hne : some y ≠ some x := by
      rintro ⟨⟩
      exact hnodup.1 hy
    exact ⟨congrFun (place_next _ _) y, place_prev hne value⟩

theorem insertHead_holds (h : list.Holds xs) (hx : x ∉ xs) :
    (list.insertHead x).Holds (x :: xs) := by
  have hplaced : (list.place list.first (some x)).Linked (some x) list.first xs :=
    Linked.place h (some x)
  refine ⟨rfl, Function.update_self .., ?_⟩
  have hnext : (list.insertHead x).next x = list.first := by
    cases hlist : list.first <;> simp [insertHead, link, LinkedList.place, hlist]
  rw [hnext]
  apply hplaced.congr
  intro y hy
  have hne : y ≠ x := by
    rintro rfl
    exact hx hy
  cases hlist : list.first with
  | none => simp [insertHead, link, LinkedList.place, hlist, hne]
  | some z => simp [insertHead, link, LinkedList.place, hlist, hne]

theorem remove_next (hx : some y ≠ list.prev x) : (list.remove x).next y = list.next y := by
  rw [remove, link_next hx, place_next]

theorem remove_prev (hx : some y ≠ list.next x) : (list.remove x).prev y = list.prev y := by
  rw [remove, link_prev, place_prev hx]

/-- What is after an element takes its place. -/
theorem Linked.remove (h : list.Linked (some y) (some x) (x :: xs)) (hprev : list.prev x = some y)
    (hy : y ∉ x :: xs) :
    (list.remove x).Linked (some y) (list.next x) xs ∧ (list.remove x).next y = list.next x := by
  have hnodup := h.chain.nodup
  obtain ⟨-, -, hrest⟩ := h
  rw [List.mem_cons, not_or] at hy
  constructor
  · rw [LinkedList.remove, hprev]
    have hplaced := Linked.place hrest (some y)
    apply hplaced.congr
    intro z hz
    have hne : some z ≠ some y := by
      rintro ⟨⟩
      exact hy.2 hz
    exact ⟨link_next hne _, congrFun (link_prev _ _) z⟩
  · rw [LinkedList.remove, hprev]
    exact Function.update_self ..

theorem Linked.remove_later (h : list.Linked prev next (xs ++ y :: x :: ys))
    (hprev : list.prev x = some y)
    (hnext : list.next x = ys.head?) : (list.remove x).Linked prev next (xs ++ y :: ys) := by
  have hnodup := h.chain.nodup
  have hapart {z : α} {zs : List α} (hfresh : z ∉ zs) : some z ≠ zs.head? :=
    fun heq => hfresh (List.mem_of_head? heq.symm)
  induction xs generalizing prev next with
  | nil =>
    have hfresh := List.nodup_cons.mp hnodup
    obtain ⟨hfirst, hplace, hlater⟩ := h
    rw [hlater.1] at hlater
    obtain ⟨hrest, hlink⟩ := hlater.remove hprev hfresh.1
    have hne : some y ≠ list.next x := by
      rw [hnext]
      exact hapart fun hy => hfresh.1 (List.mem_cons_of_mem x hy)
    refine ⟨hfirst, (remove_prev hne).trans hplace, ?_⟩
    rw [hlink]
    exact hrest
  | cons z xs ih =>
    have hfresh := List.nodup_cons.mp hnodup
    have hbefore : some z ≠ list.prev x := by
      rw [hprev]
      rintro ⟨⟩
      exact hfresh.1 (List.mem_append_right _ List.mem_cons_self)
    have hafter : some z ≠ list.next x := by
      rw [hnext]
      exact hapart fun hz =>
        hfresh.1 (List.mem_append_right _ (List.mem_cons_of_mem y (List.mem_cons_of_mem x hz)))
    refine ⟨h.1, (remove_prev hafter).trans h.2.1, ?_⟩
    rw [remove_next hbefore]
    exact ih h.2.2 hfresh.2

theorem remove_holds (h : list.Holds (xs ++ x :: ys)) : (list.remove x).Holds (xs ++ ys) := by
  rcases List.eq_nil_or_concat xs with rfl | ⟨xs, y, rfl⟩
  · obtain ⟨-, hprev, hrest⟩ := h
    have hplaced := Linked.place hrest none
    unfold Holds
    rw [LinkedList.remove, hprev]
    exact hplaced.congr fun y _ => ⟨rfl, congrFun (link_prev _ _) y⟩
  · rw [List.concat_eq_append, List.append_assoc, List.singleton_append] at h ⊢
    obtain ⟨prev, next, hdrop⟩ := Linked.drop h
    have hprev : list.prev x = some y := hdrop.2.2.2.1
    have hlater := Linked.remove_later h hprev hdrop.2.2.2.2.head
    have hfirst : (list.remove x).first = list.first := by
      rw [LinkedList.remove, hprev]
      cases list.next x <;> rfl
    rw [Holds, hfirst]
    exact hlater

theorem removed_holds (h : list.Holds xs) (hx : x ∈ xs) :
    ∃ rest, (list.remove x).Holds rest ∧ ∀ y, y ∈ rest ↔ y ∈ xs ∧ y ≠ x := by
  obtain ⟨before, later, rfl⟩ := List.append_of_mem hx
  obtain ⟨-, hlater, hapart⟩ := List.nodup_append.mp h.nodup
  have hfresh : ¬(x ∈ before ∨ x ∈ later) := by
    rintro (hbefore | hmem)
    · exact hapart x hbefore x List.mem_cons_self rfl
    · exact (List.nodup_cons.mp hlater).1 hmem
  refine ⟨before ++ later, remove_holds h, ?_⟩
  intro y
  rw [List.mem_append, List.mem_append, List.mem_cons]
  constructor
  · intro hy
    refine ⟨hy.imp_right Or.inr, ?_⟩
    rintro rfl
    exact hfresh hy
  · rintro ⟨hy, hne⟩
    exact hy.imp_right fun hlater => hlater.resolve_left hne

/-- To remove an element that is off the list changes nothing, as long as its
own links are those that it had there. -/
theorem remove_again (h : list.Holds (xs ++ x :: ys)) :
    (list.remove x).remove x = list.remove x := by
  obtain ⟨hprev, hnext⟩ := Linked.apart h (Option.some_ne_none x).symm
  have hsame : (list.remove x).remove x =
      ((list.remove x).place (list.next x) (list.prev x)).link (list.prev x) (list.next x) := by
    rw [remove, remove_next hprev, remove_prev hnext]
  rw [hsame, remove]
  cases list.prev x <;> cases list.next x <;> simp [link, place]

end

end LinkedList

end Vmstated.Library
