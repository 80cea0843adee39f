import Vmstated.Libsocket.ReadEvents

/-! Messages and the read events that deliver them. -/
namespace Vmstated.Properties
open Library Libsocket

structure Message where
  cmd : List UInt8
  data : List UInt8
  cmd_ne : ∀ byte ∈ cmd, byte ≠ 0
  data_ne : ∀ byte ∈ data, byte ≠ 0
  short : cmd.length ≤ shCmdlen
  fits : cmd.length + data.length + 2 ≤ shcMaxtransportdata

def Message.bytes (message : Message) : List UInt8 := message.cmd ++ 0 :: (message.data ++ [0])

/-- What the listeners should be handed. -/
def Message.dispatch (message : Message) : Dispatch :=
  ⟨message.cmd, message.data ++ [0], message.data.length + 1⟩

section
variable {message : Message} {dispatch : Dispatch}

theorem Message.bytes_length (message : Message) :
    message.bytes.length = message.cmd.length + message.data.length + 2 := by
  simp only [bytes, List.length_append, List.length_cons, List.length_nil]
  omega

theorem Message.framed_bytes (message : Message) :
    framed message.bytes = (message.bytes, message.cmd.length + message.data.length + 2) := by
  rw [bytes, framed_of_short message.cmd_ne message.short, memchrZero_append message.data_ne]

theorem Message.leftOver_bytes (message : Message) : leftOver message.bytes = [] := by
  rw [leftOver, framed_bytes, List.drop_eq_nil_iff, bytes_length]

theorem Message.hands_bytes (h : Hands (framed message.bytes).1 dispatch) :
    dispatch = message.dispatch := by
  rw [framed_bytes] at h
  have hdispatch := h.message message.cmd (message.data ++ [0]) rfl message.cmd_ne
  rw [hdispatch, Message.dispatch, List.length_append, List.length_singleton]

theorem Message.hands_other {rest : List UInt8} {count : Nat}
    (hcount : count ≤ (message.bytes ++ rest).length) (hne : count ≠ message.bytes.length)
    (h : Hands (framed ((message.bytes ++ rest).take count)).1 dispatch) :
    dispatch ≠ message.dispatch := by
  have hfits := message.fits
  have hdatalen : message.dispatch.datalen = message.data.length + 1 := rfl
  rintro rfl
  have hframed : (framed ((message.bytes ++ rest).take count)).1 = message.bytes :=
    h.queue_eq (by omega)
  have hlength := congrArg List.length hframed
  rcases Nat.lt_or_ge count message.bytes.length with hless | hmore
  · have hle := framed_length_le ((message.bytes ++ rest).take count)
    rw [List.length_take] at hle
    omega
  · have hqueue : (message.bytes ++ rest).take count =
        message.cmd ++ 0 :: (message.data ++ [0] ++ rest.take (count - message.bytes.length)) := by
      rw [List.take_append, List.take_of_length_le hmore, bytes,
        List.append_assoc, List.cons_append]
    have hcounted := congrArg List.length hqueue
    rw [List.length_take, Nat.min_eq_left hcount] at hcounted
    rcases @framed_short_cases _ (message.data ++ [0] ++ rest.take (count - message.bytes.length))
      message.cmd_ne message.short with hkept | hdropped
    · rw [hqueue, hkept] at hlength
      omega
    · rw [hqueue, hdropped, message.bytes_length, List.length_nil] at hlength
      omega

end

/-- What the listeners were handed in a run. -/
def dispatches (transits : List (Transit Client ReadEvent (Option Dispatch))) : List Dispatch :=
  transits.filterMap Transit.output

theorem dispatches_iff {messages : List Message} {client after : Client} {tail : List UInt8}
    (h : Holds client.shc [] tail) (hflow : Flowing client.incoming.counts)
    (hpending : client.incoming.pending = messages.flatMap Message.bytes) {reads : List ReadEvent}
    {transits : List (Transit Client ReadEvent (Option Dispatch))}
    (hexec : server.exec client reads = some (transits, after))
    (hread : after.incoming.pending = []) :
    dispatches transits = messages.map Message.dispatch ↔
      reads.map ReadEvent.count = messages.map fun message => message.bytes.length := by
  induction messages generalizing client tail reads transits with
  | nil =>
    cases reads with
    | nil =>
      cases hexec
      simp [dispatches]
    | cons event reads =>
      obtain ⟨out, next, rest, hstep, _, _⟩ := Machine.exec_cons hexec
      obtain ⟨hpos, hle, _⟩ := server_step h (by decide) hflow hstep
      rw [hpending, List.flatMap_nil, List.length_nil] at hle
      omega
  | cons message messages ih =>
    rw [List.flatMap_cons] at hpending
    cases reads with
    | nil =>
      cases hexec
      have hlength := congrArg List.length (hpending.symm.trans hread)
      rw [List.length_append, message.bytes_length, List.length_nil] at hlength
      omega
    | cons event reads =>
      obtain ⟨out, next, rest, hstep, hrest, rfl⟩ := Machine.exec_cons hexec
      obtain ⟨hpos, hle, dispatch, tail, rfl, hhands, hholds, hnext, hflows⟩ :=
        server_step h (by decide) hflow hstep
      have hcount : min event.ready (shcMaxtransportdata - ([] : List UInt8).length) =
          ReadEvent.count event := rfl
      rw [hcount] at hle hhands hholds hnext
      rw [List.nil_append, hpending] at hhands hholds
      simp only [dispatches, List.filterMap_cons, List.map_cons, List.cons.injEq]
      by_cases hends : ReadEvent.count event = message.bytes.length
      · rw [hends, List.take_left] at hhands hholds
        rw [hends, hpending, List.drop_left] at hnext
        rw [message.leftOver_bytes] at hholds
        have hrest := ih hholds hflows hnext hrest
        rw [dispatches] at hrest
        rw [hrest, message.hands_bytes hhands, hends]
        simp
      · rw [hpending] at hle
        have hother := message.hands_other hle hends hhands
        constructor
        · rintro ⟨hsame, _⟩
          exact absurd hsame hother
        · rintro ⟨hsame, _⟩
          exact absurd hsame hends

/-- The listeners get the messages if each read event ends where a message
ends and begins where it begins. -/
theorem messages_framed_iff (messages : List Message) {counts : Counts} (hflow : Flowing counts)
    (outgoing : Sink UInt8) {reads : List ReadEvent}
    {transits : List (Transit Client ReadEvent (Option Dispatch))} {after : Client}
    (hexec : server.exec ⟨shcNew, ⟨messages.flatMap Message.bytes, counts⟩, outgoing⟩ reads =
      some (transits, after)) (hread : after.incoming.pending = []) :
    dispatches transits = messages.map Message.dispatch ↔
      reads.map ReadEvent.count = messages.map fun message => message.bytes.length :=
  dispatches_iff (holds_zeroed srcNew) hflow rfl hexec hread

def ping : Message where
  cmd := bhyv
  data := ascii "ping"
  cmd_ne := bhyv_ne_zero
  data_ne := List.forall_mem_ne'.mpr (by decide)
  short := bhyv_short
  fits := by decide

def twoPings : Client := ⟨shcNew, ⟨[ping, ping].flatMap Message.bytes, pages⟩, ⟨[], pages⟩⟩

theorem messages_framed_iff_pings :
    ∃ transits after, server.exec twoPings [⟨10, []⟩, ⟨10, []⟩] = some (transits, after) ∧
      after.incoming.pending = [] ∧ dispatches transits = [ping.dispatch, ping.dispatch] := by
  have hrun : (server.exec twoPings [⟨10, []⟩, ⟨10, []⟩]).any
      (fun run => run.2.incoming.pending == []) = true := by
    decide +kernel
  obtain ⟨⟨transits, after⟩, hexec, hread⟩ := (Option.any_eq_true _ _).mp hrun
  have hread := beq_iff_eq.mp hread
  refine ⟨transits, after, hexec, hread, ?_⟩
  exact (messages_framed_iff [ping, ping] pages_flowing ⟨[], pages⟩ hexec hread).mpr (by decide)

theorem messages_not_framed :
    ¬∀ (messages : List Message) (reads : List ReadEvent)
      (transits : List (Transit Client ReadEvent (Option Dispatch))) (after : Client),
      server.exec ⟨shcNew, ⟨messages.flatMap Message.bytes, pages⟩, ⟨[], pages⟩⟩ reads =
        some (transits, after) → after.incoming.pending = [] →
          dispatches transits = messages.map Message.dispatch := by
  have hrun : (server.exec ⟨shcNew, ⟨[ping].flatMap Message.bytes, pages⟩, ⟨[], pages⟩⟩
      [⟨4, []⟩, ⟨6, []⟩]).any
      (fun run => run.2.incoming.pending == [] && dispatches run.1 != [ping.dispatch]) = true := by
    decide +kernel
  obtain ⟨⟨transits, after⟩, hexec, hlost⟩ := (Option.any_eq_true _ _).mp hrun
  simp only [Bool.and_eq_true, beq_iff_eq, bne_iff_ne] at hlost
  intro hframed
  exact hlost.2 (hframed [ping] _ transits after hexec hlost.1)

end Vmstated.Properties
