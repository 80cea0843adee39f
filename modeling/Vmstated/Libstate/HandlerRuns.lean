import Vmstated.Libstate.StateHandler
import Vmstated.Library.Machine
import Mathlib.Data.List.Nodup

/-! Requests to a state handler whose callbacks leave a log. -/
namespace Vmstated.Libstate
open Library

inductive CallbackKind where
  | onExit
  | onEnter
deriving DecidableEq, Repr

/-- A call of a callback: the node, the one at the other end, and the result. -/
structure Called (κ : Type) where
  kind : CallbackKind
  self : NodeInfo κ
  other : NodeInfo κ
  result : Int

section
variable {κ σ : Type}

def loggedCallback (kind : CallbackKind) (callback : Callback κ σ) :
    Callback κ (σ × List (Called κ)) :=
  fun self other id before =>
    let called := callback self other id before.1
    (called.1, called.2, before.2 ++ [⟨kind, self, other, called.1⟩])

def StateNode.logged (node : StateNode κ σ) : StateNode κ (σ × List (Called κ)) where
  id := node.id
  name := node.name
  onEnter := node.onEnter.map (loggedCallback .onEnter)
  onExit := node.onExit.map (loggedCallback .onExit)

def StateTransition.logged (transition : StateTransition κ σ) :
    StateTransition κ (σ × List (Called κ)) :=
  ⟨transition.src.map StateNode.logged, transition.dst.map StateNode.logged⟩

@[simp] theorem logged_toNodeInfo (node : StateNode κ σ) :
    node.logged.toNodeInfo = node.toNodeInfo := rfl

def callsOf (kind : CallbackKind) (callback : Option (Callback κ σ))
    (self other : NodeInfo κ) (ctx : σ) :
    List (Called κ) :=
  match callback with
  | none => []
  | some _ => [⟨kind, self, other, (runCallback callback self other ctx).1⟩]

theorem runCallback_logged (kind : CallbackKind) (callback : Option (Callback κ σ))
    (self other : NodeInfo κ) (ctx : σ) (log : List (Called κ)) :
    runCallback (callback.map (loggedCallback kind)) self other (ctx, log) =
      ((runCallback callback self other ctx).1, (runCallback callback self other ctx).2,
        log ++ callsOf kind callback self other ctx) := by
  cases callback with
  | none =>
    rw [callsOf, List.append_nil]
    rfl
  | some callback => rfl

/-! Leaving a node for the next one. -/

section
variable (current next : StateNode κ σ) (ctx : σ)

def exits : Int × σ := runCallback current.onExit current.toNodeInfo next.toNodeInfo ctx

def enters : Int × σ :=
  runCallback next.onEnter next.toNodeInfo current.toNodeInfo (exits current next ctx).2

def callsBetween : List (Called κ) :=
  callsOf .onExit current.onExit current.toNodeInfo next.toNodeInfo ctx ++
    if (exits current next ctx).1 = 0 then
      callsOf .onEnter next.onEnter next.toNodeInfo current.toNodeInfo (exits current next ctx).2
    else []

end

theorem exits_logged (current next : StateNode κ σ) (ctx : σ) (log : List (Called κ)) :
    exits current.logged next.logged (ctx, log) =
      ((exits current next ctx).1, (exits current next ctx).2,
      log ++ callsOf .onExit current.onExit current.toNodeInfo next.toNodeInfo ctx) :=
  runCallback_logged .onExit current.onExit current.toNodeInfo next.toNodeInfo ctx log

theorem enters_logged (current next : StateNode κ σ) (ctx : σ) (log : List (Called κ)) :
    enters current.logged next.logged (ctx, log) =
      ((enters current next ctx).1, (enters current next ctx).2,
      log ++ callsOf .onExit current.onExit current.toNodeInfo next.toNodeInfo ctx ++
        callsOf .onEnter next.onEnter next.toNodeInfo current.toNodeInfo
          (exits current next ctx).2) := by
  rw [enters, exits_logged]
  exact runCallback_logged .onEnter next.onEnter next.toNodeInfo current.toNodeInfo
    (exits current next ctx).2 _

variable [DecidableEq κ]

theorem applies_logged (transition : StateTransition κ σ) (current target : κ) :
    transition.logged.applies current target = transition.applies current target := by
  obtain ⟨src, dst⟩ := transition
  cases src <;> cases dst <;> rfl

/-- The table has an entry to the target, from the current node or from anywhere. -/
def Permits (vec : List (StateTransition κ σ)) (current target : κ) : Prop :=
  ∃ transition ∈ vec, (∃ dst ∈ transition.dst, dst.id = target) ∧ ∀ src ∈ transition.src,
    src.id = current

instance (vec : List (StateTransition κ σ)) (current target : κ) :
    Decidable (Permits vec current target) :=
  inferInstanceAs (Decidable (∃ transition ∈ vec, (∃ dst ∈ transition.dst, dst.id = target) ∧
    ∀ src ∈ transition.src, src.id = current))

theorem applies_iff {transition : StateTransition κ σ} {current target : κ} :
    transition.applies current target = true ↔
      (∃ dst ∈ transition.dst, dst.id = target) ∧ ∀ src ∈ transition.src, src.id = current := by
  obtain ⟨src, dst⟩ := transition
  cases src <;> cases dst <;> simp [StateTransition.applies, and_comm]

theorem sthFindtransition_dst (sth : StateHandler κ σ) (target : κ) :
    match (sthFindtransition sth target).bind (·.dst) with
    | none => ¬Permits sth.vec sth.current.id target
    | some dst => Permits sth.vec sth.current.id target ∧ dst.id = target ∧
        ∃ transition ∈ sth.vec, transition.dst = some dst := by
  unfold sthFindtransition
  cases hfind : sth.vec.find? (·.applies sth.current.id target) with
  | none =>
    rw [List.find?_eq_none] at hfind
    rintro ⟨transition, hmem, hdst, hsrc⟩
    exact hfind transition hmem (applies_iff.mpr ⟨hdst, hsrc⟩)
  | some transition =>
    have hmem := List.mem_of_find?_eq_some hfind
    obtain ⟨⟨dst, hdst, hid⟩, hsrc⟩ := applies_iff.mp (by simpa using List.find?_some hfind)
    have hsome : transition.dst = some dst := hdst
    dsimp only [Option.bind_some]
    rw [hsome]
    exact ⟨⟨transition, hmem, ⟨dst, hdst, hid⟩, hsrc⟩, hid, transition, hmem, hsome⟩

theorem sthFindtransition_logged (current : StateNode κ σ)
    (vec : List (StateTransition κ σ)) (target : κ) :
    (sthFindtransition ⟨current.logged, vec.map StateTransition.logged⟩ target).bind (·.dst) =
      ((sthFindtransition ⟨current, vec⟩ target).bind (·.dst)).map StateNode.logged := by
  have happlies :
      (fun transition : StateTransition κ σ => transition.logged.applies current.id target) =
      fun transition => transition.applies current.id target := by
    funext transition
    exact applies_logged transition current.id target
  have hid : current.logged.id = current.id := rfl
  unfold sthFindtransition
  dsimp only
  rw [List.find?_map, Function.comp_def, hid, happlies]
  cases vec.find? fun transition => transition.applies current.id target <;> rfl

theorem sthTransitionto_eq (sth : StateHandler κ σ) (target : κ) (ctx : σ) :
    sthTransitionto sth target ctx =
      match (sthFindtransition sth target).bind (·.dst) with
      | none => ((-1, sth), ctx)
      | some next =>
        if (exits sth.current next ctx).1 ≠ 0 then ((-1, sth), (exits sth.current next ctx).2)
        else if (enters sth.current next ctx).1 ≠
          0 then ((-1, sth), (enters sth.current next ctx).2)
        else ((0, { sth with current := next }), (enters sth.current next ctx).2) := by
  unfold sthTransitionto
  cases (sthFindtransition sth target).bind (·.dst) with
  | none => rfl
  | some next =>
    simp only [bind_apply, ite_apply_state, pure_apply, exits, enters]
    rfl

end

/-! Nodes and transitions between them. -/

structure StateGraph (κ σ : Type) where
  nodes : List (StateNode κ σ)
  unique : (nodes.map (·.id)).Nodup
  start : StateNode κ σ
  start_mem : start ∈ nodes
  vec : List (StateTransition κ σ)
  src_mem : ∀ transition ∈ vec, ∀ src ∈ transition.src, src ∈ nodes
  dst_mem : ∀ transition ∈ vec, ∀ dst ∈ transition.dst, dst ∈ nodes

structure Handled (κ σ : Type) where
  sth : StateHandler κ (σ × List (Called κ))
  ctx : σ
  log : List (Called κ)

section
variable {κ σ : Type}

def StateGraph.at (graph : StateGraph κ σ) (current : StateNode κ σ) :
    StateHandler κ (σ × List (Called κ)) :=
  ⟨current.logged, graph.vec.map StateTransition.logged⟩

def StateGraph.handled (graph : StateGraph κ σ) (ctx : σ) : Handled κ σ :=
  ⟨graph.at graph.start, ctx, []⟩

theorem StateGraph.eq_of_id (graph : StateGraph κ σ) {node other : StateNode κ σ}
    (hnode : node ∈ graph.nodes)
    (hother : other ∈ graph.nodes) (hid : node.id = other.id) : node = other :=
  List.inj_on_of_nodup_map graph.unique hnode hother hid

variable [DecidableEq κ]

def StateGraph.node (graph : StateGraph κ σ) (id : κ) : Option (StateNode κ σ) :=
  graph.nodes.find? (·.id = id)

theorem StateGraph.node_id (graph : StateGraph κ σ) {id : κ}
    {node : StateNode κ σ} (h : graph.node id = some node) :
    node.id = id := by
  simpa using List.find?_some h

theorem StateGraph.node_of_mem (graph : StateGraph κ σ)
    {node : StateNode κ σ} (hnode : node ∈ graph.nodes) :
    graph.node node.id = some node := by
  cases hfind : graph.node node.id with
  | none =>
    rw [StateGraph.node, List.find?_eq_none] at hfind
    exact absurd (decide_eq_true rfl) (hfind node hnode)
  | some other =>
    rw [graph.eq_of_id (List.mem_of_find?_eq_some hfind) hnode (graph.node_id hfind)]

/-- Requests, one after the other. -/
def handlerRequests (κ σ : Type) [DecidableEq κ] : Machine (Handled κ σ) κ Int where
  step s target :=
    let requested := sthTransitionto s.sth target (s.ctx, s.log)
    some (requested.1.1, ⟨requested.1.2, requested.2.1, requested.2.2⟩)

end

end Vmstated.Libstate
