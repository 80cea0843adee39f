import Vmstated.Libsocket.Framing
import Vmstated.Libsocket.Replies

/-! Read events on a connection. -/
namespace Vmstated.Libsocket
open Library

variable {listeners : List Listener}

theorem settleMessage_eq (parsedata : SocketCmdparsedata) (client : Client) :
    settleMessage listeners parsedata client =
      let called := callEach client.shc.dispatch listeners client.shc.src
      (replyResult called.1 called.2 client.outgoing).map fun replied =>
        ⟨(shcDropmessage parsedata { client.shc with src := replied.1 }).2,
          client.incoming, replied.2⟩ := by
  have hdropped (shc : SocketConnection) :
      orExit (shcDropmessage parsedata shc) = some (shcDropmessage parsedata shc).2 := by
    rw [orExit, if_pos (shcDropmessage_zero parsedata shc)]
  simp only [settleMessage, shCallListeners, hdropped, Option.pure_def]
  rw [Option.map_eq_bind]
  rfl

structure Handled (listeners : List Listener) (client : Client) (queue : List UInt8)
    (dispatch : Dispatch) (after : Client) : Prop where
  hands : Hands (framed queue).1 dispatch
  holds : ∃ tail, Holds after.shc (leftOver queue) tail
  replied : ∃ outgoing, ((framed queue).1 = queue → outgoing = client.outgoing) ∧
    replyResult (callEach dispatch listeners client.shc.src).1
      (callEach dispatch listeners client.shc.src).2 outgoing = some (after.shc.src, after.outgoing)

/-- A read event: what the buffer holds is read, parsed, answered and dropped. -/
theorem handler_eq {client : Client} {queue tail : List UInt8} (h : Holds client.shc queue tail)
    (hroom : queue.length < shcMaxtransportdata) (hflow : Flowing client.incoming.counts)
    (hpending : client.incoming.pending ≠ []) (hlt : client.incoming.pending.length < 2 ^ 63) :
    let count := min client.incoming.pending.length (shcMaxtransportdata - queue.length)
    ∃ read parsedata parsed counts, Flowing counts ∧ read.src = client.shc.src ∧
      Parsed read (queue ++ client.incoming.pending.take count) parsedata parsed ∧
      ∀ listeners, shAcceptHandlerThread listeners client.incoming.pending.length client =
        (replyError parsedata client.outgoing).bind fun outgoing =>
          (settleMessage listeners parsedata
            ⟨parsed, ⟨client.incoming.pending.drop count, counts⟩, outgoing⟩).map
            fun settled => (some parsed.dispatch, settled) := by
  have hpos : 0 < client.incoming.pending.length := List.length_pos_iff.mpr hpending
  intro count
  obtain ⟨counts, rest, hflows, hincoming, hread, hsrc⟩ := h.readData hflow hlt
  have hne : queue ++ client.incoming.pending.take count ≠ [] := by
    rw [← List.length_pos_iff, List.length_append, List.length_take]
    omega
  obtain ⟨parsedata, parsed, hparsed⟩ := hread.parsed hne
  refine ⟨_, parsedata, parsed, counts, hflows, hsrc, hparsed, ?_⟩
  intro listeners
  unfold shAcceptHandlerThread
  simp only [hincoming, hparsed.parsing, Option.bind_eq_bind, Option.bind_some]
  rw [if_neg (by simp), if_neg hparsed.errcode]
  simp only [Option.map_eq_bind]
  rfl

theorem handler_handled {client : Client} {queue tail : List UInt8}
    (h : Holds client.shc queue tail)
    (hroom : queue.length < shcMaxtransportdata) (hflow : Flowing client.incoming.counts)
    (hpending : client.incoming.pending ≠ []) (hlt : client.incoming.pending.length < 2 ^ 63)
    {ready : Nat} (hready : ready = client.incoming.pending.length)
    {out : Option Dispatch} {after : Client}
    (hhandler : shAcceptHandlerThread listeners ready client = some (out, after)) :
    let count := min client.incoming.pending.length (shcMaxtransportdata - queue.length)
    ∃ dispatch, out = some dispatch ∧
      Handled listeners client (queue ++ client.incoming.pending.take count) dispatch after ∧
      after.incoming.pending = client.incoming.pending.drop count ∧
        Flowing after.incoming.counts := by
  obtain ⟨read, parsedata, parsed, counts, hflows, hsrc, hparsed, heq⟩ :=
    handler_eq h hroom hflow hpending hlt
  obtain ⟨tail, hholds⟩ := hparsed.holds
  rw [hready, heq listeners] at hhandler
  obtain ⟨outgoing, herror, hsettled⟩ := Option.bind_eq_some_iff.mp hhandler
  obtain ⟨settled, hsettle, hout⟩ := Option.map_eq_some_iff.mp hsettled
  cases hout
  rw [settleMessage_eq] at hsettle
  obtain ⟨⟨src, last⟩, hreplied, rfl⟩ := Option.map_eq_some_iff.mp hsettle
  obtain ⟨dropped, hdropped⟩ := (hholds.with_src src).dropmessage parsedata
  refine ⟨parsed.dispatch, rfl, ⟨hholds.hands, ?_, outgoing, ?_, ?_⟩, rfl, hflows⟩
  · rw [hparsed.dropped]
    exact ⟨dropped, hdropped⟩
  · intro hquiet
    rw [replyError, if_neg (by simp [hparsed.quiet hquiet])] at herror
    exact (Option.some.inj herror).symm
  · dsimp only
    rw [shcDropmessage, shcDropbytes_src, ← hsrc, ← hparsed.src]
    exact hreplied

theorem handler_enabled {client : Client} {queue tail : List UInt8}
    (h : Holds client.shc queue tail)
    (hroom : queue.length < shcMaxtransportdata) (hflow : Flowing client.incoming.counts)
    (hpending : client.incoming.pending ≠ []) (hlt : client.incoming.pending.length < 2 ^ 63)
    (hout : Flowing client.outgoing.counts) (listeners : List Listener) :
    ∃ out after, shAcceptHandlerThread listeners client.incoming.pending.length client =
      some (out, after) ∧ Flowing after.outgoing.counts := by
  obtain ⟨read, parsedata, parsed, counts, _, _, _, heq⟩ := handler_eq h hroom hflow hpending hlt
  obtain ⟨outgoing, herror, hflows⟩ : ∃ outgoing,
      replyError parsedata client.outgoing = some outgoing ∧ Flowing outgoing.counts := by
    unfold replyError
    split
    · obtain ⟨counts, hflows, hmsg⟩ := shReplyMsg_of_flowing hout parsedata.errmsg
      rw [hmsg]
      exact ⟨_, rfl, hflows⟩
    · exact ⟨client.outgoing, rfl, hout⟩
  obtain ⟨src, last, hlast, _, _, hreply⟩ := replyResult_of_flowing hflows
    (callEach parsed.dispatch listeners parsed.src).1
      (callEach parsed.dispatch listeners parsed.src).2
  rw [heq listeners, herror, Option.bind_some, settleMessage_eq]
  dsimp only
  rw [hreply]
  exact ⟨_, _, rfl, hlast⟩

theorem leftOver_length_lt {queue : List UInt8} (h : queue.length ≤ shcMaxtransportdata) :
    (leftOver queue).length < shcMaxtransportdata := by
  have hpos : 0 < shcMaxtransportdata := by decide
  have hshort {rest : List UInt8} {count : Nat} (hrest : rest.length ≤ queue.length)
      (hcount : 0 < count) :
      (rest.drop count).length < shcMaxtransportdata := by
    rw [List.length_drop]
    omega
  unfold leftOver framed
  split
  · split
    · exact hshort (Nat.le_refl _) (by omega)
    · exact hshort (by simp) (by omega)
  · split
    · exact hshort (by simp) (by omega)
    · split
      · exact hshort (Nat.le_refl _) (by omega)
      · split
        · rw [List.drop_length]
          exact hpos
        · exact hshort (by simp) (by omega)

/-! The bytes that a client sends, cut by the read events. -/

structure ReadEvent where
  ready : Nat
  listeners : List Listener

def ReadEvent.count (event : ReadEvent) : Nat := min event.ready shcMaxtransportdata

/-- All that is still to come is pending; at a read event `ready` bytes of it
have arrived. -/
def server : Machine Client ReadEvent (Option Dispatch) where
  step client event :=
    if 0 < event.ready ∧ event.ready ≤ client.incoming.pending.length ∧ event.ready < 2 ^ 63 then
      let arrived := ⟨client.incoming.pending.take event.ready, client.incoming.counts⟩
      let coming := client.incoming.pending.drop event.ready
      (shAcceptHandlerThread event.listeners event.ready { client with incoming := arrived }).map
        fun handled =>
          (handled.1, { handled.2 with incoming :=
            ⟨handled.2.incoming.pending ++ coming, handled.2.incoming.counts⟩ })
    else none

theorem server_step {client after : Client} {queue tail : List UInt8}
    (h : Holds client.shc queue tail)
    (hroom : queue.length < shcMaxtransportdata) (hflow : Flowing client.incoming.counts)
    {event : ReadEvent} {out : Option Dispatch}
    (hstep : server.step client event = some (out, after)) :
    let count := min event.ready (shcMaxtransportdata - queue.length)
    0 < count ∧ count ≤ client.incoming.pending.length ∧
      ∃ dispatch tail, out = some dispatch ∧
        Hands (framed (queue ++ client.incoming.pending.take count)).1 dispatch ∧
        Holds after.shc (leftOver (queue ++ client.incoming.pending.take count)) tail ∧
        after.incoming.pending = client.incoming.pending.drop count ∧
          Flowing after.incoming.counts := by
  intro count
  simp only [server] at hstep
  split at hstep
  · rename_i hvalid
    obtain ⟨hpos, hle, hlt⟩ := hvalid
    obtain ⟨⟨handedOut, handled⟩, hhandler, heq⟩ := Option.map_eq_some_iff.mp hstep
    cases heq
    have harrived : (client.incoming.pending.take event.ready).length = event.ready := by
      rw [List.length_take]
      omega
    have hne : client.incoming.pending.take event.ready ≠ [] := by
      rw [← List.length_pos_iff, harrived]
      exact hpos
    obtain ⟨dispatch, hout, hhandled, hpending, hflows⟩ := @handler_handled event.listeners
      { client with incoming := ⟨client.incoming.pending.take event.ready, client.incoming.counts⟩ }
        queue tail
      h hroom hflow hne (by dsimp only; omega) event.ready harrived.symm handedOut handled hhandler
    dsimp only at hhandled hpending
    rw [harrived] at hhandled hpending
    have hcount : count ≤ event.ready := Nat.min_le_left _ _
    have htaken : (client.incoming.pending.take event.ready).take count =
        client.incoming.pending.take count := by
      rw [List.take_take, Nat.min_eq_left hcount]
    have hdropped : (client.incoming.pending.take event.ready).drop count ++
        client.incoming.pending.drop event.ready = client.incoming.pending.drop count := by
      rw [List.drop_take]
      have hsum : client.incoming.pending.drop event.ready =
          (client.incoming.pending.drop count).drop (event.ready - count) := by
        rw [List.drop_drop]
        congr 1
        omega
      rw [hsum, List.take_append_drop]
    have hhands := hhandled.hands
    obtain ⟨rest, hholds⟩ := hhandled.holds
    rw [htaken] at hhands hholds
    refine ⟨by omega, by omega, dispatch, rest, hout, hhands, hholds, ?_, hflows⟩
    dsimp only
    rw [hpending, hdropped]
  · contradiction

end Vmstated.Libsocket
