import Mathlib.Data.List.GetD
import Vmstated.Libsocket.SocketHandle

/-! libsocket/socket_connect.c: how a client sends a request. -/
namespace Vmstated.Libsocket
open Library

def sendbuf (command payload : List UInt8) : List UInt8 :=
  overlay (command.length + 1) payload
    (overlay 0 (snprintf shcMaxtransportdata (command ++ [0])) (zeros shcMaxtransportdata))

def sendMemory (command payload : List UInt8) (behind : Nat → UInt8) (i : Nat) : UInt8 :=
  if i < shcMaxtransportdata then (sendbuf command payload).getD i 0 else behind i

def bytesAt (memory : Nat → UInt8) (offset len : Nat) : List UInt8 :=
  (List.range len).map fun i => memory (offset + i)

structure WriteCall where
  offset : Nat
  len : Nat
  deriving DecidableEq

/-- The value that a call of `write` returns. -/
def doneWrite : Option Nat → Int
  | none => -1
  | some count => count

/-- The loop that sends, with the calls it makes. What it asks for depends on
the last write, not on all of them. Nothing if it takes more than so many rounds. -/
def sendLoop (memory : Nat → UInt8) (sendlen : Nat) :
    Nat → Nat → Nat → Sink UInt8 → Option (List WriteCall × Sink UInt8)
  | 0, _, _, _ => none
  | rounds + 1, bytesSent, bytesTotal, sink =>
    if sizeT (sendlen - bytesTotal) = 0 then some ([], sink)
    else
      let call : WriteCall := ⟨bytesTotal, sizeT (sendlen - bytesSent)⟩
      match sink.write (bytesAt memory call.offset call.len) with
      | (some 0, sink) => some ([call], sink)
      | (count, sink) =>
        (sendLoop memory sendlen rounds (sizeT (doneWrite count))
          (sizeT (bytesTotal + doneWrite count)) sink).map fun sent => (call :: sent.1, sent.2)

/-- From `sendlen` on to the end of the loop. The command is given without its
zero byte. -/
def sendRequest (rounds : Nat) (command payload : List UInt8)
    (behind : Nat → UInt8) (sink : Sink UInt8) :
    Option (Int × List WriteCall × Sink UInt8) :=
  let sendlen := command.length + payload.length + 1
  if sendlen > shcMaxtransportdata then some (-1, [], sink)
  else (sendLoop (sendMemory command payload behind) sendlen rounds 0 0 sink).map fun sent =>
    (0, sent)

def scSendDynamic (rounds : Nat) (command payload : List UInt8)
    (behind : Nat → UInt8) (sink : Sink UInt8) :
    Option (Int × List WriteCall × Sink UInt8) :=
  sendRequest rounds command payload behind sink

def scSendLen (rounds : Nat) (command payload : List UInt8)
    (behind : Nat → UInt8) (sink : Sink UInt8) :
    Option (Int × List WriteCall × Sink UInt8) :=
  sendRequest rounds command payload behind sink

/-! What is sent. -/

theorem bytesAt_length (memory : Nat → UInt8) (offset len : Nat) :
    (bytesAt memory offset len).length = len := by
  rw [bytesAt, List.length_map, List.length_range]

theorem bytesAt_take {memory : Nat → UInt8} {offset len count : Nat} (h : count ≤ len) :
    (bytesAt memory offset len).take count = bytesAt memory offset count := by
  rw [bytesAt, ← List.map_take, List.take_range, Nat.min_eq_left h]
  rfl

theorem bytesAt_add (memory : Nat → UInt8) (offset first second : Nat) :
    bytesAt memory offset first ++ bytesAt memory (offset + first) second =
      bytesAt memory offset (first + second) := by
  simp only [bytesAt, List.range_add, List.map_append, List.map_map,
    Function.comp_def, Nat.add_assoc]

section
variable {command payload : List UInt8}
  (hfits : command.length + payload.length + 1 ≤ shcMaxtransportdata)
include hfits

theorem printed_eq :
    overlay 0 (snprintf shcMaxtransportdata (command ++ [0])) (zeros shcMaxtransportdata) =
    command ++ zeros (shcMaxtransportdata - command.length) := by
  have hsize : shcMaxtransportdata = 1024 := rfl
  unfold snprintf overlay
  rw [List.take_zero, List.nil_append, Nat.zero_add, zeros, List.drop_replicate]
  rcases Nat.lt_or_ge (command.length + 1) shcMaxtransportdata with hroom | hfull
  · obtain ⟨rest, hrest⟩ : ∃ rest, shcMaxtransportdata - command.length = rest + 1 :=
      ⟨shcMaxtransportdata - command.length - 1, by omega⟩
    have hlength : (command ++ [0]).length = command.length + 1 := List.length_append
    rw [List.take_of_length_le (by omega), hlength, List.append_assoc,
      hrest, zeros, List.replicate_succ, List.singleton_append]
    congr 3
    omega
  · have hlength : command.length = shcMaxtransportdata - 1 := by omega
    rw [← hlength, List.take_left, zeros]

theorem sendbuf_eq : sendbuf command payload =
    command ++ 0 :: payload ++ zeros
      (shcMaxtransportdata - (command.length + payload.length + 1)) := by
  obtain ⟨rest, hrest⟩ : ∃ rest, shcMaxtransportdata - command.length = payload.length + rest + 1 :=
    ⟨shcMaxtransportdata - command.length - 1 - payload.length, by omega⟩
  have hzeros : zeros (shcMaxtransportdata - command.length) =
      [0] ++ zeros payload.length ++ zeros rest := by
    rw [hrest, zeros, zeros, zeros, List.replicate_succ, List.replicate_add,
      List.append_assoc, List.singleton_append]
  have hfront : (command ++ [0]).length = command.length + 1 := List.length_append
  have hbehind : shcMaxtransportdata - (command.length + payload.length + 1) = rest := by omega
  rw [sendbuf, printed_eq hfits, hzeros, ← hfront, ← List.append_assoc, ← List.append_assoc,
    overlay_append _ _ (zeros_length _).symm, hbehind, List.append_assoc command,
      List.singleton_append]

theorem sendMemory_request (behind : Nat → UInt8) :
    bytesAt (sendMemory command payload behind) 0 (command.length + payload.length + 1) =
      command ++ 0 :: payload := by
  have hlength : (command ++ 0 :: payload).length = command.length + payload.length + 1 := by
    rw [List.length_append, List.length_cons, Nat.add_assoc]
  apply List.ext_getElem
  · rw [bytesAt_length, hlength]
  · intro i hi hlt
    have hin : i < shcMaxtransportdata := by omega
    simp only [bytesAt, List.getElem_map, List.getElem_range, Nat.zero_add]
    rw [sendMemory, if_pos hin, sendbuf_eq hfits, List.getD_append _ _ _ _ hlt,
      List.getD_eq_getElem _ _ hlt]

end

theorem sendLoop_step {memory : Nat → UInt8} {sendlen bytesSent bytesTotal most : Nat}
    {sink : Sink UInt8}
    (hsize : sendlen ≤ shcMaxtransportdata) (hsent : bytesSent < sendlen)
    (htotal : bytesTotal < sendlen)
    (hcount : sink.counts 0 = some most) (hpos : 0 < most) (rounds : Nat) :
    let count := min most (sendlen - bytesSent)
    sendLoop memory sendlen (rounds + 1) bytesSent bytesTotal sink =
      (sendLoop memory sendlen rounds count (bytesTotal + count)
        ⟨sink.written ++ bytesAt memory bytesTotal count, sink.counts.rest⟩).map
          fun sent => (⟨bytesTotal, sendlen - bytesSent⟩ :: sent.1, sent.2) := by
  intro count
  have hremains : sizeT (sendlen - bytesTotal) ≠ 0 := by
    unfold shcMaxtransportdata at hsize
    unfold sizeT
    omega
  have hlen : sizeT (sendlen - bytesSent) = sendlen - bytesSent := by
    unfold shcMaxtransportdata at hsize
    unfold sizeT
    omega
  obtain ⟨less, hless⟩ : ∃ less, count = less + 1 := ⟨count - 1, by omega⟩
  have hwrite : sink.write (bytesAt memory bytesTotal (sendlen - bytesSent)) =
      (some (less + 1), ⟨sink.written ++ bytesAt memory bytesTotal count, sink.counts.rest⟩) := by
    unfold Sink.write
    rw [hcount]
    dsimp only
    rw [bytesAt_length, bytesAt_take (Nat.min_le_right _ _), ← hless]
  have hsum : sizeT (bytesTotal + count) = bytesTotal + count := by
    unfold shcMaxtransportdata at hsize
    unfold sizeT
    omega
  rw [sendLoop, if_neg hremains]
  dsimp only
  have hdone : sizeT (doneWrite (some (less + 1))) = count := by
    rw [hless]
    apply sizeT_of_nat
    unfold shcMaxtransportdata at hsize
    omega
  have hnext : sizeT (bytesTotal + doneWrite (some (less + 1))) = bytesTotal + count := by
    rw [← hsum, hless]
    rfl
  rw [hlen, hwrite]
  change (sendLoop memory sendlen rounds (sizeT (doneWrite (some (less + 1))))
    (sizeT (bytesTotal + doneWrite (some (less + 1)))) _).map _ = _
  rw [hdone, hnext]

theorem sendLoop_done (memory : Nat → UInt8) (sendlen rounds bytesSent : Nat) (sink : Sink UInt8) :
    sendLoop memory sendlen (rounds + 1) bytesSent sendlen sink = some ([], sink) := by
  rw [sendLoop, if_pos]
  rw [sub_self]
  rfl

end Vmstated.Libsocket
