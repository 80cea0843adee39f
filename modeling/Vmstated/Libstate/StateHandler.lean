import Vmstated.Library.Call

/-! libstate: a table-driven state handler. Node ids are values of `κ`; the
callbacks of a node act on the handler's context, of type `σ`. -/
namespace Vmstated.Libstate
open Library

structure NodeInfo (κ : Type) where
  id : κ
  name : String

/-- `on_enter` and `on_exit`: the node itself, the node at the other end of
the transition, and the latter's id once more. -/
abbrev Callback (κ σ : Type) := NodeInfo κ → NodeInfo κ → κ → StateM σ Int

structure StateNode (κ σ : Type) extends NodeInfo κ where
  onEnter : Option (Callback κ σ)
  onExit : Option (Callback κ σ)

/-- A table entry. Without `src` it applies in every state. -/
structure StateTransition (κ σ : Type) where
  src : Option (StateNode κ σ)
  dst : Option (StateNode κ σ)

structure StateHandler (κ σ : Type) where
  current : StateNode κ σ
  vec : List (StateTransition κ σ)

variable {κ σ : Type}

def runCallback (callback : Option (Callback κ σ)) (self other : NodeInfo κ) : StateM σ Int :=
  match callback with
  | none => pure 0
  | some f => f self other other.id

@[simp] theorem runCallback_none (self other : NodeInfo κ) (ctx : σ) :
    runCallback none self other ctx = (0, ctx) := rfl

@[simp] theorem runCallback_some (f : Callback κ σ) (self other : NodeInfo κ) (ctx : σ) :
    runCallback (some f) self other ctx = f self other other.id ctx := rfl

variable [DecidableEq κ]

def StateTransition.applies (transition : StateTransition κ σ) (current target : κ) : Bool :=
  (match transition.src with
    | some src => decide (src.id = current)
    | none => true) &&
  (match transition.dst with
    | some dst => decide (dst.id = target)
    | none => false)

def sthFindtransition (sth : StateHandler κ σ) (target : κ) : Option (StateTransition κ σ) :=
  sth.vec.find? (·.applies sth.current.id target)

def sthTransitionto (sth : StateHandler κ σ) (target : κ) :
    StateM σ (Int × StateHandler κ σ) := do
  match (sthFindtransition sth target).bind (·.dst) with
  | none => return (-1, sth)
  | some dst =>
    if (← runCallback sth.current.onExit sth.current.toNodeInfo dst.toNodeInfo) ≠ 0 then
      return (-1, sth)
    if (← runCallback dst.onEnter dst.toNodeInfo sth.current.toNodeInfo) ≠ 0 then
      return (-1, sth)
    return (0, { sth with current := dst })

def sthGetcurrentid (sth : StateHandler κ σ) : κ := sth.current.id

def sthLookupstate (vec : List (StateNode κ σ)) (id : κ) : Option Nat :=
  vec.findIdx? (decide <| ·.id = id)

theorem sthTransitionto_of_none {sth : StateHandler κ σ} {target : κ}
    (h : (sthFindtransition sth target).bind (·.dst) = none) (ctx : σ) :
    sthTransitionto sth target ctx = ((-1, sth), ctx) := by
  unfold sthTransitionto
  simp only [h, pure_apply]

theorem sthTransitionto_of_some {sth : StateHandler κ σ} {target : κ} {dst : StateNode κ σ}
    (h : (sthFindtransition sth target).bind (·.dst) = some dst)
    (hexit : sth.current.onExit = none) (ctx : σ) :
    sthTransitionto sth target ctx =
      let entered := runCallback dst.onEnter dst.toNodeInfo sth.current.toNodeInfo ctx
      if entered.1 = 0 then ((0, { sth with current := dst }), entered.2)
      else ((-1, sth), entered.2) := by
  unfold sthTransitionto
  simp only [h, hexit, bind_apply, runCallback_none, ne_eq, ↓reduceIte, ite_not,
    ite_apply_state, pure_apply]

end Vmstated.Libstate
