import Vmstated.Libsocket.ReadEvents

/-! Stop-and-wait: a request arrives in one piece, after the replies to the
requests before it. -/
namespace Vmstated.Libsocket
open Library

structure Exchange where
  request : List UInt8
  listeners : List Listener

def serve (listeners : List Listener) : Nat → Client → Option (List Dispatch × Client)
  | 0, client => some ([], client)
  | rounds + 1, client =>
    if client.incoming.pending = [] then some ([], client)
    else
      match shAcceptHandlerThread listeners client.incoming.pending.length client with
      | none => none
      | some (dispatch, after) =>
        (serve listeners rounds after).map fun served => (dispatch.toList ++ served.1, served.2)

/-- Each event reads something, so there are no more events than bytes. -/
def exchange : Machine Client Exchange (List Dispatch) where
  step client x :=
    let arrived := client.incoming.pending ++ x.request
    serve x.listeners arrived.length { client with incoming := ⟨arrived, client.incoming.counts⟩ }

/-- A client between two requests. No call on its socket fails. -/
structure Quiet (client : Client) (left : List UInt8) : Prop where
  holds : ∃ tail, Holds client.shc left tail
  room : left.length < shcMaxtransportdata
  pending : client.incoming.pending = []
  incoming : Flowing client.incoming.counts
  outgoing : Flowing client.outgoing.counts

theorem received_length_le {queue : List UInt8} (hroom : queue.length < shcMaxtransportdata)
    (pending : List UInt8) :
    (queue ++ pending.take (min pending.length (shcMaxtransportdata - queue.length))).length ≤
      shcMaxtransportdata := by
  rw [List.length_append, List.length_take]
  omega

section
variable {listeners : List Listener} {client : Client} {queue tail : List UInt8}

theorem serve_succ (h : Holds client.shc queue tail) (hroom : queue.length < shcMaxtransportdata)
    (hflow : Flowing client.incoming.counts) (hout : Flowing client.outgoing.counts)
    (hpending : client.incoming.pending ≠ []) (hlt : client.incoming.pending.length < 2 ^ 63) :
    let count := min client.incoming.pending.length (shcMaxtransportdata - queue.length)
    ∃ dispatch after,
      Handled listeners client (queue ++ client.incoming.pending.take count) dispatch after ∧
      after.incoming.pending = client.incoming.pending.drop count ∧ Flowing after.incoming.counts ∧
      Flowing after.outgoing.counts ∧
      ∀ rounds, serve listeners (rounds + 1) client =
        (serve listeners rounds after).map fun served => (dispatch :: served.1, served.2) := by
  intro count
  obtain ⟨out, after, hhandler, houtgoing⟩ :=
    handler_enabled h hroom hflow hpending hlt hout listeners
  obtain ⟨dispatch, rfl, hhandled, hnext, hflows⟩ :=
    handler_handled h hroom hflow hpending hlt rfl hhandler
  refine ⟨dispatch, after, hhandled, hnext, hflows, houtgoing, ?_⟩
  intro rounds
  rw [serve, if_neg hpending, hhandler]
  rfl

theorem serve_of_nil (hpending : client.incoming.pending = []) (rounds : Nat) :
    serve listeners rounds client = some ([], client) := by
  cases rounds with
  | zero => rfl
  | succ rounds => rw [serve, if_pos hpending]

theorem serve_all {rounds : Nat} (h : Holds client.shc queue tail)
    (hroom : queue.length < shcMaxtransportdata)
    (hflow : Flowing client.incoming.counts) (hout : Flowing client.outgoing.counts)
    (hlt : client.incoming.pending.length < 2 ^ 63)
    (hrounds : client.incoming.pending.length ≤ rounds) :
    ∃ dispatches last left, serve listeners rounds client = some (dispatches, last) ∧
      Quiet last left ∧ (client.incoming.pending ≠ [] → dispatches ≠ []) := by
  induction rounds generalizing client queue tail with
  | zero =>
    have hnil : client.incoming.pending = [] := List.eq_nil_of_length_eq_zero (by omega)
    exact ⟨[], client, queue, rfl, ⟨⟨tail, h⟩, hroom, hnil, hflow, hout⟩,
      fun hne => absurd hnil hne⟩
  | succ rounds ih =>
    by_cases hpending : client.incoming.pending = []
    · exact ⟨[], client, queue, serve_of_nil hpending _, ⟨⟨tail, h⟩, hroom, hpending, hflow, hout⟩,
        fun hne => absurd hpending hne⟩
    · obtain ⟨dispatch, after, hhandled, hnext, hflows, houtgoing, hserve⟩ :=
        serve_succ h hroom hflow hout hpending hlt
      have hpos : 0 < client.incoming.pending.length := List.length_pos_iff.mpr hpending
      have hnextLength := congrArg List.length hnext
      rw [List.length_drop] at hnextLength
      obtain ⟨rest, hholds⟩ := hhandled.holds
      have hleft := leftOver_length_lt (received_length_le hroom client.incoming.pending)
      obtain ⟨dispatches, last, left, hserved, hquiet, _⟩ :=
        @ih after _ rest hholds hleft hflows houtgoing (by omega) (by omega)
      refine ⟨dispatch :: dispatches, last, left, ?_, hquiet, fun _ => List.cons_ne_nil _ _⟩
      rw [hserve, hserved]
      rfl

end

/-! One exchange of a client between two requests. -/

section
variable {client : Client} {left : List UInt8} (h : Quiet client left) (x : Exchange)
include h

theorem exchange_first (hne : x.request ≠ []) (hlt : x.request.length < 2 ^ 63) :
    let count := min x.request.length (shcMaxtransportdata - left.length)
    ∃ dispatch after tail,
      Handled x.listeners client (left ++ x.request.take count) dispatch after ∧
      Holds after.shc (leftOver (left ++ x.request.take count)) tail ∧
      (leftOver (left ++ x.request.take count)).length < shcMaxtransportdata ∧
      after.incoming.pending = x.request.drop count ∧ Flowing after.incoming.counts ∧
      Flowing after.outgoing.counts ∧
      exchange.step client x = (serve x.listeners (x.request.length - 1) after).map
        fun served => (dispatch :: served.1, served.2) := by
  intro count
  obtain ⟨tail, hholds⟩ := h.holds
  obtain ⟨rounds, hrounds⟩ : ∃ rounds, x.request.length = rounds + 1 :=
    ⟨x.request.length - 1, by have := List.length_pos_iff.mpr hne; omega⟩
  obtain ⟨dispatch, after, hhandled, hnext, hflows, houtgoing, hserve⟩ := @serve_succ x.listeners
    { client with incoming := ⟨x.request, client.incoming.counts⟩ }
      left tail hholds h.room h.incoming
    h.outgoing hne hlt
  obtain ⟨rest, hafter⟩ := hhandled.holds
  refine ⟨dispatch, after, rest, ⟨hhandled.hands, hhandled.holds, hhandled.replied⟩, hafter,
    leftOver_length_lt (received_length_le h.room x.request), hnext, hflows, houtgoing, ?_⟩
  simp only [exchange, h.pending, List.nil_append]
  rw [hrounds, hserve, Nat.add_sub_cancel]

theorem exchange_fits (hne : x.request ≠ [])
    (hfits : left.length + x.request.length ≤ shcMaxtransportdata) :
    ∃ dispatch after, exchange.step client x = some ([dispatch], after) ∧
      Handled x.listeners client (left ++ x.request) dispatch after ∧
      Quiet after (leftOver (left ++ x.request)) := by
  have hcount : min x.request.length (shcMaxtransportdata - left.length) = x.request.length := by
    omega
  have hlt : x.request.length < 2 ^ 63 := by
    unfold shcMaxtransportdata at hfits
    omega
  obtain ⟨dispatch, after, tail, hhandled, hholds, hroom, hnext, hflows, houtgoing, hstep⟩ :=
    exchange_first h x hne hlt
  rw [hcount, List.take_length] at hhandled hholds hroom
  rw [hcount, List.drop_length] at hnext
  rw [serve_of_nil hnext] at hstep
  exact ⟨dispatch, after, hstep, hhandled, ⟨tail, hholds⟩, hroom, hnext, hflows, houtgoing⟩

theorem exchange_long (hlt : x.request.length < 2 ^ 63)
    (hlong : shcMaxtransportdata < left.length + x.request.length) :
    ∃ dispatches after rest, exchange.step client x = some (dispatches, after) ∧ Quiet after rest ∧
      2 ≤ dispatches.length := by
  have hroom := h.room
  have hne : x.request ≠ [] := by
    rw [← List.length_pos_iff]
    omega
  obtain ⟨dispatch, after, tail, _, hholds, hless, hnext, hflows, houtgoing, hstep⟩ :=
    exchange_first h x hne hlt
  have hlength := congrArg List.length hnext
  rw [List.length_drop] at hlength
  obtain ⟨dispatches, last, rest, hserve, hquiet, hmore⟩ := @serve_all x.listeners after _ tail
    (x.request.length - 1) hholds hless hflows houtgoing (by omega) (by omega)
  have hcalled := hmore (by rw [← List.length_pos_iff]; omega)
  rw [hserve] at hstep
  refine ⟨dispatch :: dispatches, last, rest, hstep, hquiet, ?_⟩
  rw [List.length_cons]
  have hpos := List.length_pos_iff.mpr hcalled
  omega

end

end Vmstated.Libsocket
