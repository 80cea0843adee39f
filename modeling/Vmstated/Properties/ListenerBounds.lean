import Vmstated.Libsocket.ReadEvents

/-! What `sh_call_listeners` makes of the buffer. -/
namespace Vmstated.Properties
open Library Libsocket

/-- The connection as `sh_call_listeners` finds it in a read event, if it is called. -/
def atListeners (bytesReady : Nat) (client : Client) : Option SocketConnection := do
  let (_, shc, _) := shReadData bytesReady client.shc client.incoming
  let (_, parsedata, shc) ← shTryCmdparsing shc .zeroed
  if parsedata.errcode = shWrnKeepreadnmore then none else some shc

theorem handler_dispatch {listeners : List Listener} {bytesReady : Nat} {client after : Client}
    {out : Option Dispatch}
    (h : shAcceptHandlerThread listeners bytesReady client = some (out, after)) :
    out = (atListeners bytesReady client).map SocketConnection.dispatch := by
  unfold shAcceptHandlerThread at h
  unfold atListeners
  generalize shReadData bytesReady client.shc client.incoming = read at h ⊢
  obtain ⟨_, shc, incoming⟩ := read
  obtain ⟨⟨result, parsedata, parsed⟩, hparsed, hrest⟩ := Option.bind_eq_some_iff.mp h
  dsimp only at hrest ⊢
  rw [hparsed, Option.bind_eq_bind, Option.bind_some]
  split at hrest
  · contradiction
  · split at hrest
    · rename_i hwait
      cases hrest
      rw [if_pos hwait]
      rfl
    · rename_i hcall
      obtain ⟨_, _, hsettled⟩ := Option.bind_eq_some_iff.mp hrest
      obtain ⟨_, _, hout⟩ := Option.bind_eq_some_iff.mp hsettled
      cases hout
      rw [if_neg hcall]
      rfl

/-- The connection that a read event brings to `sh_call_listeners`. -/
def calledWith (event : ReadEvent) (client : Client) : Option SocketConnection :=
  atListeners event.ready
    { client with incoming := ⟨client.incoming.pending.take event.ready, client.incoming.counts⟩ }

/-- The bytes that a read event leaves in the buffer. -/
def received (event : ReadEvent) (client : Client) : List UInt8 :=
  client.shc.buffer.take client.shc.bytesRead ++
    client.incoming.pending.take (min event.ready (shcMaxtransportdata - client.shc.bytesRead))

/-- The command ends inside the bytes that were read, and so do the data. -/
structure InsideBuffer (shc : SocketConnection) : Prop where
  terminated : strlen shc.buffer + 1 ≤ shc.bytesRead
  datalen : strlen shc.buffer + 1 + shc.dispatch.datalen ≤ shc.bytesRead
  bytesRead : shc.bytesRead ≤ shcMaxtransportdata

/-- What the parser leaves in the buffer has a zero byte in it: what is behind
an overlong command, or all of it if it is not given up for its data. -/
def Complete (queue : List UInt8) : Prop :=
  0 ∈ queue ∧
    if strlen queue > shCmdlen then 0 ∈ queue.drop (strlen queue + 2)
    else 0 ∈ queue.drop (strlen queue + 1) ∨ queue.length < shcMaxtransportdata

instance (queue : List UInt8) : Decidable (Complete queue) := inferInstanceAs (Decidable (_ ∧ _))

theorem complete_iff (queue : List UInt8) : Complete queue ↔ 0 ∈ (framed queue).1 := by
  unfold Complete
  by_cases hzero : 0 ∈ queue
  · by_cases hlong : strlen queue > shCmdlen
    · have hframed : (framed queue).1 = queue.drop (strlen queue + 2) := by
        simp only [framed, memchrZero_of_mem hzero, hlong, if_true]
      rw [if_pos hlong, hframed]
      exact and_iff_right hzero
    · rw [if_neg hlong, framed_of_mem hzero hlong, and_iff_right hzero]
      by_cases hend : 0 ∈ queue.drop (strlen queue + 1)
      · rw [memchrZero_of_mem hend]
        exact iff_of_true (Or.inl hend) hzero
      · rw [memchrZero_of_not_mem hend]
        dsimp only
        split
        · rename_i hroom
          exact iff_of_true (Or.inr hroom) hzero
        · rename_i hfull
          exact iff_of_false (fun h => h.elim hend hfull) List.not_mem_nil
  · refine iff_of_false (fun h => hzero h.1) ?_
    simp only [framed, memchrZero_of_not_mem hzero]
    split
    · exact hzero
    · exact List.not_mem_nil

theorem insideBuffer_iff {shc : SocketConnection} {queue tail : List UInt8}
    (h : Holds shc queue tail) :
    InsideBuffer shc ↔ 0 ∈ queue := by
  have hle := h.length_le
  have hhands := h.hands
  constructor
  · intro hinside
    by_contra hzero
    have hlong := hhands.unframed hzero
    have hdatalen := hinside.datalen
    rw [h.bytesRead] at hdatalen
    omega
  · intro hzero
    obtain ⟨data, hqueue⟩ := eq_cString_append hzero
    have hdispatch := hhands.message _ data hqueue (cString_ne_zero queue)
    have hlength := congrArg List.length hqueue
    rw [List.length_append, List.length_cons] at hlength
    have hstring : strlen shc.buffer = (cString queue).length := by
      rw [strlen, h.buffer, cString_append_of_mem hzero]
    refine ⟨?_, ?_, ?_⟩
    · rw [hstring, h.bytesRead]
      omega
    · rw [hstring, h.bytesRead, hdispatch]
      dsimp only
      omega
    · rw [h.bytesRead]
      exact hle

/-- A client whose buffer is a queue with room in it. -/
structure Ready (client : Client) : Prop where
  holds : ∃ tail, Holds client.shc (client.shc.buffer.take client.shc.bytesRead) tail
  room : client.shc.bytesRead < shcMaxtransportdata
  incoming : Flowing client.incoming.counts

theorem ready_of_holds {client : Client} {queue tail : List UInt8} (h : Holds client.shc queue tail)
    (hroom : queue.length < shcMaxtransportdata) (hflow : Flowing client.incoming.counts) :
    Ready client := by
  refine ⟨⟨tail, ?_⟩, ?_, hflow⟩
  · rw [h.take_bytesRead]
    exact h
  · rw [h.bytesRead]
    exact hroom

theorem ready_new {incoming : Source UInt8} (hflow : Flowing incoming.counts)
    (outgoing : Sink UInt8) :
    Ready ⟨shcNew, incoming, outgoing⟩ :=
  ready_of_holds (holds_zeroed srcNew) (by decide) hflow

section
variable {client : Client} (h : Ready client)
include h

theorem Ready.length :
    (client.shc.buffer.take client.shc.bytesRead).length = client.shc.bytesRead := by
  obtain ⟨tail, hholds⟩ := h.holds
  exact hholds.bytesRead.symm

theorem Ready.received_eq (event : ReadEvent) :
    received event client = client.shc.buffer.take client.shc.bytesRead ++
      client.incoming.pending.take
      (min event.ready
        (shcMaxtransportdata - (client.shc.buffer.take client.shc.bytesRead).length)) := by
  rw [h.length]
  rfl

theorem Ready.called {event : ReadEvent} (hpos : 0 < event.ready)
    (hle : event.ready ≤ client.incoming.pending.length) (hlt : event.ready < 2 ^ 63) :
    ∃ shc, calledWith event client = some shc ∧
      (InsideBuffer shc ↔ Complete (received event client)) := by
  obtain ⟨tail, hholds⟩ := h.holds
  have hlength := h.length
  have hroom := h.room
  have harrived : (client.incoming.pending.take event.ready).length = event.ready := by
    rw [List.length_take]
    omega
  obtain ⟨_, rest, _, _, hread, _⟩ := @Holds.readData _ _ _ hholds
    ⟨client.incoming.pending.take event.ready, client.incoming.counts⟩ h.incoming
      (by dsimp only; omega)
  dsimp only at hread
  rw [harrived, List.take_take, Nat.min_eq_left (Nat.min_le_left _ _), ← h.received_eq] at hread
  have hne : received event client ≠ [] := by
    rw [h.received_eq, ← List.length_pos_iff, List.length_append, hlength, List.length_take]
    omega
  obtain ⟨parsedata, parsed, hparsed⟩ := hread.parsed hne
  obtain ⟨left, hleft⟩ := hparsed.holds
  refine ⟨parsed, ?_, ?_⟩
  · unfold calledWith atListeners
    dsimp only
    rw [hparsed.parsing, Option.bind_eq_bind, Option.bind_some, if_neg hparsed.errcode]
  · rw [complete_iff]
    exact insideBuffer_iff hleft

theorem Ready.step {event : ReadEvent} {out : Option Dispatch} {after : Client}
    (hstep : server.step client event = some (out, after)) : Ready after := by
  obtain ⟨tail, hholds⟩ := h.holds
  have hlength := h.length
  have hroom := h.room
  obtain ⟨_, _, _, rest, _, _, hafter, _, hflows⟩ := server_step hholds (by omega) h.incoming hstep
  refine ready_of_holds hafter (leftOver_length_lt ?_) hflows
  have htaken := List.length_take_le
    (min event.ready (shcMaxtransportdata - (client.shc.buffer.take client.shc.bytesRead).length))
    client.incoming.pending
  rw [List.length_append]
  omega

end

/-- What a read event hands to the listeners is inside the buffer. -/
def Bounded (event : ReadEvent) (client : Client) : Prop :=
  ∀ shc, calledWith event client = some shc → InsideBuffer shc

theorem bounded_iff {client : Client} (h : Ready client)
    {event : ReadEvent} (hpos : 0 < event.ready)
    (hle : event.ready ≤ client.incoming.pending.length) (hlt : event.ready < 2 ^ 63) :
    Bounded event client ↔ Complete (received event client) := by
  obtain ⟨shc, hcalled, hinside⟩ := h.called hpos hle hlt
  rw [← hinside]
  constructor
  · exact fun hbounded => hbounded shc hcalled
  · intro hin called hsame
    rw [hcalled] at hsame
    cases hsame
    exact hin

/-- What a read event hands to the listeners, if anything, is made from that
connection. -/
theorem step_dispatch {client after : Client} {event : ReadEvent} {out : Option Dispatch}
    (hstep : server.step client event = some (out, after)) :
    out = (calledWith event client).map SocketConnection.dispatch := by
  simp only [server] at hstep
  split at hstep
  · obtain ⟨handled, hhandled, hout⟩ := Option.map_eq_some_iff.mp hstep
    obtain ⟨rfl, -⟩ := Prod.mk.inj hout
    exact handler_dispatch hhandled
  · contradiction

/-- The listeners of a run get what is made from the connections that come to
them. A run's events, and the next one, keep to the buffer just where what they
leave in it is complete. -/
theorem listeners_inside_iff (pending : List UInt8) {counts : Counts} (hflow : Flowing counts)
    (outgoing : Sink UInt8) {transits : List (Transit Client ReadEvent (Option Dispatch))}
    {client : Client}
    (run : Run server ⟨shcNew, ⟨pending, counts⟩, outgoing⟩ transits client) :
    (∀ x ∈ transits, x.output = (calledWith x.input x.before).map SocketConnection.dispatch) ∧
      ((∀ x ∈ transits, Bounded x.input x.before) ↔
        ∀ x ∈ transits, Complete (received x.input x.before)) ∧
      ∀ event : ReadEvent, 0 < event.ready → event.ready ≤ client.incoming.pending.length →
        event.ready < 2 ^ 63 → (Bounded event client ↔ Complete (received event client)) := by
  have hready {transits : List (Transit Client ReadEvent (Option Dispatch))} {client : Client}
      (run : Run server ⟨shcNew, ⟨pending, counts⟩, outgoing⟩ transits client) : Ready client := by
    have hall : ∀ x ∈ transits, True := fun _ _ => trivial
    apply run.invariant (ready_new hflow outgoing) _ hall
    intro x hx _ hstep
    exact hx.step hstep
  refine ⟨fun x hx => step_dispatch (run.step_mem hx), ?_, ?_⟩
  · apply forall₂_congr
    intro x hx
    obtain ⟨earlier, later, rfl⟩ := List.append_of_mem hx
    have hstep := run.step_mem hx
    simp only [server] at hstep
    split at hstep
    · rename_i hvalid
      exact bounded_iff (hready run.before_mid) hvalid.1 hvalid.2.1 hvalid.2.2
    · contradiction
  · intro event hpos hle hlt
    exact bounded_iff (hready run) hpos hle hlt

def sent (pending : List UInt8) : Client := ⟨shcNew, ⟨pending, pages⟩, ⟨[], pages⟩⟩

theorem listeners_inside_message : Bounded ⟨6, []⟩ (sent [65, 0, 66, 67, 68, 0]) := by
  have hnext :=
    (listeners_inside_iff [65, 0, 66, 67, 68, 0] pages_flowing ⟨[], pages⟩ .nil).2.2 ⟨6, []⟩
      (by decide) (by decide) (by decide)
  apply hnext.mpr
  decide

theorem listeners_outside_unframed :
    Run server (sent [83, 84, 65]) [] (sent [83, 84, 65]) ∧
      ¬Bounded ⟨3, []⟩ (sent [83, 84, 65]) := by
  have hready : Ready (sent [83, 84, 65]) := ready_new pages_flowing _
  refine ⟨.nil, ?_⟩
  rw [bounded_iff hready (by decide) (by decide) (by decide)]
  decide

end Vmstated.Properties
