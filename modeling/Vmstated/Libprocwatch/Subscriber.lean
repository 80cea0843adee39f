import Vmstated.Libprocwatch.CommandHandler
import Vmstated.Libsocket.ReadEvents
import Vmstated.Libsocket.SendReceive

/-! vmstated/subscriber.c: the messages of clients reach the director. -/
namespace Vmstated.Libprocwatch
open Library Libcommand Libsocket

variable (nv : Libnv) (answers : CommandAnswers)

/-- The listener, with the director that is subscribed. What it returns does
not matter where `bd_recv_ondata` does not. -/
def vmsmsOnrecvData (bd : ConfiguredDirector) : Listener := fun dispatch src =>
  match bdRecvOndata nv answers dispatch.cmd dispatch.data bd src with
  | some (result, _, src) => (result, src)
  | none => (-1, src)

/-- The daemon as the other end of a new connection on which a request arrives
in one piece, and the director after it. -/
def vmstated (incoming outgoing : Counts) : OtherEnd ConfiguredDirector := fun request bd => do
  let (dispatch, client) ← shAcceptHandlerThread [vmsmsOnrecvData nv answers bd] request.length
    ⟨shcNew, ⟨request, incoming⟩, ⟨[], outgoing⟩⟩
  let dispatch ← dispatch
  let (_, bd, _) ← bdRecvOndata nv answers dispatch.cmd dispatch.data bd shcNew.src
  return (client.outgoing.written, bd)

/-- A request that is in the buffer as a whole. One without a second zero byte
must leave room for it. -/
def Arrives (data : List UInt8) : Prop :=
  bhyv.length + data.length + 1 < shcMaxtransportdata ∨
    bhyv.length + data.length + 1 = shcMaxtransportdata ∧ 0 ∈ data

variable {nv : Libnv} {answers : CommandAnswers} {data : List UInt8}

theorem Arrives.fits (h : Arrives data) : bhyv.length + data.length + 1 ≤ shcMaxtransportdata := by
  rcases h with hless | ⟨hfull, _⟩
  · exact Nat.le_of_lt hless
  · exact Nat.le_of_eq hfull

theorem Arrives.framed (h : Arrives data) : (framed (bhyv ++ 0 :: data)).1 = bhyv ++ 0 :: data := by
  have hlength : (bhyv ++ 0 :: data).length = bhyv.length + data.length + 1 := by
    rw [List.length_append, List.length_cons, Nat.add_assoc]
  rw [framed_of_short bhyv_ne_zero bhyv_short]
  by_cases hzero : 0 ∈ data
  · rw [memchrZero_of_mem hzero]
  · have hless : bhyv.length + data.length + 1 < shcMaxtransportdata :=
      h.resolve_right fun hfull => hzero hfull.2
    rw [memchrZero_of_not_mem hzero]
    dsimp only
    rw [if_pos (hlength.trans_lt hless)]

/-- The director gets what was packed, and the client gets what the director stored. -/
theorem vmstated_eq {incoming outgoing : Counts} (hincoming : Flowing incoming)
    (houtgoing : Flowing outgoing)
    (harrives : Arrives data) {bd after : ConfiguredDirector}
    {result : Int} {src : SocketReplyCollector}
    (hrecv : bdRecvOndata nv answers bhyv data bd srcNew = some (result, after, src)) :
    vmstated nv answers incoming outgoing (bhyv ++ 0 :: data) bd =
      some (answer result src.stored src.shortReply, after) := by
  have hlength : (bhyv ++ 0 :: data).length = bhyv.length + data.length + 1 := by
    rw [List.length_append, List.length_cons, Nat.add_assoc]
  have hfits := harrives.fits
  have hne : bhyv ++ 0 :: data ≠ [] := by simp
  have hlt : (bhyv ++ 0 :: data).length < 2 ^ 63 := by
    unfold shcMaxtransportdata at hfits
    omega
  have hcount : min (bhyv ++ 0 :: data).length (shcMaxtransportdata - ([] : List UInt8).length) =
      (bhyv ++ 0 :: data).length := by
    rw [List.length_nil, Nat.sub_zero]
    omega
  have hroom : ([] : List UInt8).length < shcMaxtransportdata := by decide
  obtain ⟨out, client, hhandler, _⟩ := @handler_enabled
    ⟨shcNew, ⟨bhyv ++ 0 :: data, incoming⟩, ⟨[], outgoing⟩⟩
      [] _ (holds_zeroed srcNew) hroom hincoming hne hlt
    houtgoing [vmsmsOnrecvData nv answers bd]
  obtain ⟨dispatch, rfl, hhandled, _⟩ :=
    handler_handled (holds_zeroed srcNew) hroom hincoming hne hlt rfl hhandler
  rw [hcount, List.nil_append, List.take_length] at hhandled
  have hdispatch : dispatch = ⟨bhyv, data, data.length⟩ :=
    hhandled.hands.message bhyv data harrives.framed bhyv_ne_zero
  have hcalled : callEach ⟨bhyv, data, data.length⟩ [vmsmsOnrecvData nv answers bd] srcNew =
      (result, src) := by
    simp only [callEach, vmsmsOnrecvData, hrecv]
    split <;> simp_all
  obtain ⟨sink, hsink, hreplied⟩ := hhandled.replied
  rw [hsink harrives.framed, hdispatch, shcNew, hcalled] at hreplied
  obtain ⟨_, counts, _, _, _, hanswer⟩ :=
    @replyResult_of_flowing ⟨[], outgoing⟩ houtgoing result src
  rw [hanswer] at hreplied
  have hwritten : client.outgoing.written = answer result src.stored src.shortReply := by
    rw [← (Prod.mk.inj (Option.some.inj hreplied)).2, List.nil_append]
  unfold vmstated
  rw [hhandler, hdispatch]
  simp only [Option.bind_eq_bind, Option.bind_some, shcNew, hrecv, hwritten]
  rfl

end Vmstated.Libprocwatch
