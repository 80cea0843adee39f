import Vmstated.Properties.Chunking
import Vmstated.Properties.ReplyIsolation

/-! Messages with commands of any length, each in a read of its own. -/
namespace Vmstated.Properties
open Library Libsocket

structure AnyMessage where
  cmd : List UInt8
  data : List UInt8
  listeners : List Listener
  cmd_ne : ∀ byte ∈ cmd, byte ≠ 0
  data_ne : ∀ byte ∈ data, byte ≠ 0
  fits : cmd.length + data.length + 2 ≤ shcMaxtransportdata

def overlongReply (cmd : List UInt8) : List UInt8 :=
  cString (invalidCommand { shcNew with buffer := cmd } cmd.length) ++ [0]

section
variable (message : AnyMessage)

def AnyMessage.bytes : List UInt8 := message.cmd ++ 0 :: (message.data ++ [0])

def AnyMessage.exchange : Exchange := ⟨message.bytes, message.listeners⟩

def AnyMessage.dispatch : Dispatch := ⟨message.cmd, message.data ++ [0], message.data.length + 1⟩

/-- Only a valid message is handed on. -/
def AnyMessage.dispatches : List Dispatch :=
  if message.cmd.length ≤ shCmdlen then [message.dispatch] else []

def AnyMessage.reply (src : SocketReplyCollector) : List UInt8 :=
  if message.cmd.length ≤ shCmdlen then
    let called := callEach message.dispatch message.listeners src
    answer called.1 called.2.stored called.2.shortReply
  else overlongReply message.cmd

end

/-- What is to come of a message. -/
structure Served (message : AnyMessage) (x : Transit Client Exchange (List Dispatch)) : Prop where
  dispatches : x.output = message.dispatches
  reply : written x = message.reply x.before.shc.src

section
variable {message : AnyMessage} {client : Client} (h : Quiet client [])

def AnyMessage.valid (message : AnyMessage) (hshort : message.cmd.length ≤ shCmdlen) : Message :=
  ⟨message.cmd, message.data, message.cmd_ne, message.data_ne, hshort, message.fits⟩

theorem AnyMessage.bytes_fit (message : AnyMessage) :
    message.bytes ≠ [] ∧ message.bytes.length ≤ shcMaxtransportdata := by
  have hlength : message.bytes.length = message.cmd.length + message.data.length + 2 := by
    simp only [bytes, List.length_append, List.length_cons, List.length_nil]
    omega
  refine ⟨?_, hlength.trans_le message.fits⟩
  rw [← List.length_pos_iff]
  omega

include h

theorem message_exchanged (message : AnyMessage) :
    ∃ dispatch after, exchange.step client message.exchange = some ([dispatch], after) ∧
      Handled message.listeners client message.bytes dispatch after ∧
        Quiet after (leftOver message.bytes) := by
  obtain ⟨hne, hfits⟩ := message.bytes_fit
  exact exchange_fits h message.exchange hne (by rw [List.length_nil, Nat.zero_add]; exact hfits)

theorem valid_served (hshort : message.cmd.length ≤ shCmdlen) :
    ∃ out after, exchange.step client message.exchange = some (out, after) ∧ Quiet after [] ∧
      Served message ⟨client, message.exchange, out, after⟩ := by
  obtain ⟨dispatch, after, hstep, hhandled, hquiet⟩ := message_exchanged h message
  have hframed : framed message.bytes = (message.bytes, _) := (message.valid hshort).framed_bytes
  have hleft : leftOver message.bytes = [] := (message.valid hshort).leftOver_bytes
  have hdispatch : dispatch = message.dispatch := (message.valid hshort).hands_bytes hhandled.hands
  obtain ⟨outgoing, hsilent, hreplied⟩ := hhandled.replied
  have hsame : outgoing = client.outgoing := hsilent (by rw [hframed])
  rw [hleft] at hquiet
  rw [hsame, hdispatch] at hreplied
  obtain ⟨src, counts, _, _, _, hwrites⟩ := replyResult_of_flowing h.outgoing
    (callEach message.dispatch message.listeners client.shc.src).1
    (callEach message.dispatch message.listeners client.shc.src).2
  obtain ⟨_, hwritten⟩ := Prod.mk.inj (Option.some.inj (hreplied.symm.trans hwrites))
  refine ⟨_, after, hstep, hquiet, ?_, ?_⟩
  · rw [AnyMessage.dispatches, if_pos hshort, hdispatch]
  · rw [written, hwritten, List.drop_left, AnyMessage.reply, if_pos hshort]

theorem overlong_not_served (hlong : ¬message.cmd.length ≤ shCmdlen)
    {out : List Dispatch} {after : Client}
    (hstep : exchange.step client message.exchange = some (out, after)) :
    ¬Served message ⟨client, message.exchange, out, after⟩ := by
  intro hserved
  obtain ⟨dispatch, _, hexchanged, _, _⟩ := message_exchanged h message
  obtain ⟨hout, _⟩ := Prod.mk.inj (Option.some.inj (hstep.symm.trans hexchanged))
  have hnone : out = message.dispatches := hserved.dispatches
  rw [AnyMessage.dispatches, if_neg hlong] at hnone
  rw [hnone] at hout
  contradiction

end

theorem messages_served {messages : List AnyMessage} {client : Client} (h : Quiet client []) :
    (∃ transits after, exchange.exec client (messages.map AnyMessage.exchange) =
      some (transits, after) ∧
      List.Forall₂ Served messages transits) ↔
        ∀ message ∈ messages, message.cmd.length ≤ shCmdlen := by
  induction messages generalizing client with
  | nil => exact iff_of_true ⟨[], client, rfl, .nil⟩ fun _ hmessage =>
      absurd hmessage List.not_mem_nil
  | cons message messages ih =>
    rw [List.map_cons, List.forall_mem_cons]
    by_cases hshort : message.cmd.length ≤ shCmdlen
    · obtain ⟨out, next, hstep, hquiet, hserved⟩ := valid_served h hshort
      rw [← ih hquiet, and_iff_right hshort]
      constructor
      · rintro ⟨transits, after, hexec, hall⟩
        obtain ⟨_, _, rest, hstep', hrest, rfl⟩ := Machine.exec_cons hexec
        obtain ⟨rfl, rfl⟩ := Prod.mk.inj (Option.some.inj (hstep.symm.trans hstep'))
        exact ⟨rest, after, hrest, (List.forall₂_cons.mp hall).2⟩
      · rintro ⟨rest, after, hrest, hall⟩
        exact ⟨_, after, Machine.exec_of_cons hstep hrest, .cons hserved hall⟩
    · refine iff_of_false ?_ fun hboth => hshort hboth.1
      rintro ⟨transits, after, hexec, hall⟩
      obtain ⟨out, next, rest, hstep, _, rfl⟩ := Machine.exec_cons hexec
      exact overlong_not_served h hshort hstep (List.forall₂_cons.mp hall).1

/-- The replies and dispatches are those of the messages just where no command
is too long. -/
theorem messages_served_iff (messages : List AnyMessage) {incoming outgoing : Counts}
    (hincoming : Flowing incoming) (houtgoing : Flowing outgoing) :
    (∃ transits after, exchange.exec ⟨shcNew, ⟨[], incoming⟩, ⟨[], outgoing⟩⟩
        (messages.map AnyMessage.exchange) = some (transits, after) ∧
      List.Forall₂ Served messages transits) ↔
        ∀ message ∈ messages, message.cmd.length ≤ shCmdlen :=
  messages_served ⟨⟨_, holds_zeroed srcNew⟩, by decide, rfl, hincoming, houtgoing⟩

def bareMessage (cmd : List UInt8) (hcmd : ∀ byte ∈ cmd, byte ≠ 0)
    (hfits : cmd.length + 2 ≤ shcMaxtransportdata) :
    AnyMessage :=
  ⟨cmd, [], [], hcmd, fun _ hbyte => absurd hbyte List.not_mem_nil, hfits⟩

def directorMessage : AnyMessage := bareMessage bhyv bhyv_ne_zero (by decide)

theorem tooLong_ne_zero : ∀ byte ∈ ascii "TOOLONG", byte ≠ 0 := List.forall_mem_ne'.mpr (by decide)

def tooLongMessage : AnyMessage := bareMessage (ascii "TOOLONG") tooLong_ne_zero (by decide)

theorem messages_served_director : ∃ transits after,
    exchange.exec ⟨shcNew, ⟨[], pages⟩, ⟨[], pages⟩⟩
      [directorMessage.exchange, directorMessage.exchange] =
      some (transits, after) ∧ List.Forall₂ Served [directorMessage, directorMessage] transits := by
  apply (messages_served_iff [directorMessage, directorMessage] pages_flowing pages_flowing).mpr
  simp only [List.forall_mem_cons, List.not_mem_nil, false_implies, implies_true, and_true]
  exact ⟨bhyv_short, bhyv_short⟩

theorem messages_not_served : ¬∃ transits after,
    exchange.exec ⟨shcNew, ⟨[], pages⟩, ⟨[], pages⟩⟩
      [tooLongMessage.exchange, directorMessage.exchange] =
      some (transits, after) ∧ List.Forall₂ Served [tooLongMessage, directorMessage] transits := by
  have hquiet : Quiet ⟨shcNew, ⟨[], pages⟩, ⟨[], pages⟩⟩ [] :=
    ⟨⟨_, holds_zeroed srcNew⟩, by decide, rfl, pages_flowing, pages_flowing⟩
  intro hserved
  have hall := (@messages_served [tooLongMessage, directorMessage] _ hquiet).mp hserved
  exact absurd (hall tooLongMessage List.mem_cons_self) (by decide)

end Vmstated.Properties
