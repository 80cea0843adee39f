import Vmstated.Libstate.HandlerRuns

/-! A state handler follows its graph. -/
namespace Vmstated.Properties
open Library Libstate

variable {κ σ : Type}

section
variable (graph : StateGraph κ σ) (current : StateNode κ σ)

/-- A request at the node `current`. -/
structure FollowsGraph (x : Transit (Handled κ σ) κ Int) : Prop where
  returns : x.output = 0 ↔ ∃ next ∈ graph.nodes,
    next.id = x.input ∧ Permits graph.vec current.id x.input ∧
    (exits current next x.before.ctx).1 = 0 ∧ (enters current next x.before.ctx).1 = 0
  stays : x.output ≠ 0 → x.after.sth.current = x.before.sth.current
  moves : x.output = 0 → ∃ next ∈ graph.nodes, next.id = x.input ∧ x.after.sth.current = next.logged

inductive RequestResult (ctx : σ) (target : κ) : Int → StateNode κ σ → List (Called κ) → Prop where
  | refused (hnone : ¬Permits graph.vec current.id target) : RequestResult ctx target
      (-1) current []
  | failed {next : StateNode κ σ} (hnext : next ∈ graph.nodes) (hid : next.id = target)
      (hpermits : Permits graph.vec current.id target)
      (hfails : ¬((exits current next ctx).1 = 0 ∧ (enters current next ctx).1 = 0)) :
      RequestResult ctx target (-1) current (callsBetween current next ctx)
  | moved {next : StateNode κ σ} (hnext : next ∈ graph.nodes) (hid : next.id = target)
      (hpermits : Permits graph.vec current.id target) (hexit : (exits current next ctx).1 = 0)
      (henter : (enters current next ctx).1 = 0) :
      RequestResult ctx target 0 next (callsBetween current next ctx)

end

section
variable {graph : StateGraph κ σ} {current next : StateNode κ σ} {calls : List (Called κ)}

theorem RequestResult.next_mem {ctx : σ} {target : κ} {output : Int}
    (h : RequestResult graph current ctx target output next calls)
    (hcurrent : current ∈ graph.nodes) :
    next ∈ graph.nodes := by
  cases h with
  | refused hnone => exact hcurrent
  | failed => exact hcurrent
  | moved hnext => exact hnext

/-- With unique ids the target can only be one node. -/
theorem RequestResult.follows {x : Transit (Handled κ σ) κ Int}
    (h : RequestResult graph current x.before.ctx x.input x.output next calls)
    (hbefore : x.before.sth = graph.at current) (hafter : x.after.sth = graph.at next) :
    FollowsGraph graph current x := by
  obtain ⟨before, target, output, after⟩ := x
  dsimp only at h hbefore hafter
  have hne : (-1 : Int) ≠ 0 := by decide
  cases h with
  | refused hnone =>
    refine ⟨iff_of_false hne ?_, fun _ => ?_, fun hzero => absurd hzero hne⟩
    · rintro ⟨-, -, -, hpermits, -⟩
      exact hnone hpermits
    · dsimp only
      rw [hbefore, hafter]
  | @failed target' hnext hid hpermits hfails =>
    refine ⟨iff_of_false hne ?_, fun _ => ?_, fun hzero => absurd hzero hne⟩
    · rintro ⟨other, hother, hsame, -, hgood⟩
      rw [graph.eq_of_id hother hnext (hsame.trans hid.symm)] at hgood
      exact hfails hgood
    · dsimp only
      rw [hbefore, hafter]
  | moved hnext hid hpermits hexit henter =>
    refine ⟨iff_of_true rfl ⟨next, hnext, hid, hpermits, hexit, henter⟩,
      fun hne => absurd rfl hne, fun _ => ?_⟩
    refine ⟨next, hnext, hid, ?_⟩
    dsimp only
    rw [hafter, StateGraph.at]

end

section
variable [DecidableEq κ] {graph : StateGraph κ σ} {current : StateNode κ σ}

def callsOfRequest (graph : StateGraph κ σ) (x : Transit (Handled κ σ) κ Int) : List (Called κ) :=
  match graph.node (sthGetcurrentid x.before.sth), graph.node x.input with
  | some current, some next =>
    if Permits graph.vec current.id next.id then callsBetween current next x.before.ctx else []
  | _, _ => []

theorem request_result {ctx : σ} {log : List (Called κ)}
    {target : κ} {output : Int} {after : Handled κ σ}
    (hstep : (handlerRequests κ σ).step ⟨graph.at current, ctx, log⟩ target =
      some (output, after)) :
    ∃ next calls, RequestResult graph current ctx target output next calls ∧
      after.sth = graph.at next ∧ after.log = log ++ calls := by
  obtain ⟨rfl, rfl⟩ := Prod.mk.inj (Option.some.inj hstep)
  have hdst := sthFindtransition_dst ⟨current, graph.vec⟩ target
  have hlogged := sthFindtransition_logged current graph.vec target
  rw [← StateGraph.at] at hlogged
  dsimp only
  rw [sthTransitionto_eq, hlogged]
  cases hfound : (sthFindtransition ⟨current, graph.vec⟩ target).bind (·.dst) with
  | none =>
    rw [hfound] at hdst
    exact ⟨current, [], .refused hdst, rfl, (List.append_nil log).symm⟩
  | some next =>
    rw [hfound] at hdst
    obtain ⟨hpermits, hid, transition, htransition, hsome⟩ := hdst
    have hnext := graph.dst_mem transition htransition next hsome
    have hcurrent : (graph.at current).current = current.logged := rfl
    dsimp only [Option.map_some]
    rw [hcurrent, exits_logged, enters_logged]
    dsimp only
    by_cases hexit : (exits current next ctx).1 = 0
    · rw [if_neg (not_not.mpr hexit)]
      by_cases henter : (enters current next ctx).1 = 0
      · rw [if_neg (not_not.mpr henter)]
        refine ⟨next, _, .moved hnext hid hpermits hexit henter, rfl, ?_⟩
        rw [callsBetween, if_pos hexit, List.append_assoc]
      · rw [if_pos henter]
        refine ⟨current, _, .failed hnext hid hpermits fun h => henter h.2, rfl, ?_⟩
        rw [callsBetween, if_pos hexit, List.append_assoc]
    · rw [if_pos hexit]
      refine ⟨current, _, .failed hnext hid hpermits fun h => hexit h.1, rfl, ?_⟩
      rw [callsBetween, if_neg hexit, List.append_nil]

theorem RequestResult.calls_eq {x : Transit (Handled κ σ) κ Int}
    {next : StateNode κ σ} {calls : List (Called κ)}
    (h : RequestResult graph current x.before.ctx x.input x.output next calls)
    (hcurrent : current ∈ graph.nodes)
    (hbefore : x.before.sth = graph.at current) : calls = callsOfRequest graph x := by
  obtain ⟨before, target, output, after⟩ := x
  dsimp only at h hbefore
  have hid : sthGetcurrentid before.sth = current.id := by rw [hbefore]; rfl
  rw [callsOfRequest, hid, graph.node_of_mem hcurrent]
  cases h with
  | refused hnone =>
    dsimp only
    cases hfind : graph.node target with
    | none => rfl
    | some next =>
      have hnext : next.id = target := graph.node_id hfind
      dsimp only
      rw [hnext, if_neg hnone]
  | @failed _ hnext hid hpermits =>
    rw [← hid] at hpermits ⊢
    rw [graph.node_of_mem hnext]
    exact (if_pos hpermits).symm
  | moved hnext hid hpermits =>
    rw [← hid] at hpermits ⊢
    rw [graph.node_of_mem hnext]
    exact (if_pos hpermits).symm

theorem handled_run {ctx : σ} {transits : List (Transit (Handled κ σ) κ Int)} {s : Handled κ σ}
    (run : Run (handlerRequests κ σ) (graph.handled ctx) transits s) :
    (∃ current ∈ graph.nodes, s.sth = graph.at current) ∧
      s.log = transits.flatMap (callsOfRequest graph) := by
  induction run with
  | nil => exact ⟨⟨graph.start, graph.start_mem, rfl⟩, rfl⟩
  | @snoc transits t u target output run hstep ih =>
    obtain ⟨⟨current, hcurrent, hat⟩, hlog⟩ := ih
    obtain ⟨sth, ctx, log⟩ := t
    obtain rfl : sth = graph.at current := hat
    obtain ⟨next, calls, hresult, hafter, hlonger⟩ := request_result hstep
    refine ⟨⟨next, hresult.next_mem hcurrent, hafter⟩, ?_⟩
    have hcalls :=
      @RequestResult.calls_eq _ _ _ graph current ⟨⟨graph.at current, ctx, log⟩, target, output, u⟩
        next calls hresult hcurrent rfl
    rw [List.flatMap_append, List.flatMap_singleton, ← hcalls, ← hlog]
    exact hlonger

/-- Every request follows the graph from the node where the handler stands, and
the log of the run is the calls that the graph prescribes. -/
theorem requests_follow {ctx : σ} {transits : List (Transit (Handled κ σ) κ Int)} {s : Handled κ σ}
    (run : Run (handlerRequests κ σ) (graph.handled ctx) transits s) :
    (∀ x ∈ transits, ∃ current ∈ graph.nodes, x.before.sth.current = current.logged ∧
      FollowsGraph graph current x) ∧ s.log = transits.flatMap (callsOfRequest graph) := by
  refine ⟨?_, (handled_run run).2⟩
  intro x hx
  obtain ⟨earlier, later, rfl⟩ := List.append_of_mem hx
  obtain ⟨⟨current, hcurrent, hat⟩, -⟩ := handled_run run.before_mid
  have hstep := run.step_mem hx
  obtain ⟨⟨sth, ctx, log⟩, target, output, after⟩ := x
  obtain rfl : sth = graph.at current := hat
  obtain ⟨next, calls, hresult, hafter, -⟩ := request_result hstep
  exact ⟨current, hcurrent, rfl, hresult.follows rfl hafter⟩

end

/-! The graph of the test, whose callbacks count their calls. -/

def nodeCounterIncr : Callback UInt64 Nat := fun _ _ _ funccalls => (0, funccalls + 1)

def countingNode (id : UInt64) (name : String) : StateNode UInt64 Nat :=
  ⟨⟨id, name⟩, some nodeCounterIncr, some nodeCounterIncr⟩

def simplerun : StateGraph UInt64 Nat where
  nodes := [countingNode 0 "Start node", countingNode 1 "Middle node", countingNode 2 "Ende node",
    countingNode 3 "Failure"]
  unique := by decide
  start := countingNode 0 "Start node"
  start_mem := List.mem_cons_self
  vec := [⟨some (countingNode 0 "Start node"), some (countingNode 1 "Middle node")⟩,
    ⟨some (countingNode 1 "Middle node"), some (countingNode 2 "Ende node")⟩,
    ⟨none, some (countingNode 3 "Failure")⟩]
  src_mem := by simp
  dst_mem := by simp

theorem requests_follow_simplerun : ∃ transits s,
    (handlerRequests UInt64 Nat).exec (simplerun.handled 0) [2, 1, 0, 2, 3] = some (transits, s) ∧
      transits.map Transit.output = [-1, 0, -1, 0, 0] ∧ s.ctx = 6 ∧
      (∀ x ∈ transits, ∃ current ∈ simplerun.nodes, x.before.sth.current = current.logged ∧
        FollowsGraph simplerun current x) ∧
          s.log = transits.flatMap (callsOfRequest simplerun) := by
  have run := @Machine.exec_run _ _ _ (handlerRequests UInt64 Nat)
      (simplerun.handled 0) _ [2, 1, 0, 2, 3] _ rfl
  exact ⟨_, _, rfl, by decide, by decide, requests_follow run⟩

end Vmstated.Properties
