import Vmstated.Libsocket.SendLoop
import Vmstated.Libsocket.SocketConnect

/-! libsocket/socket_connect.c: a request and its reply, as the client sees them. -/
namespace Vmstated.Libsocket
open Library

/-- How the calls on the socket of a client go. `behind` is the memory behind `sendbuf`. -/
structure ClientCalls where
  rounds : Nat
  writes : Counts
  reads : Counts
  behind : Nat → UInt8

/-- The other end: what it writes when all has arrived that the client wrote.
Nothing where it writes nothing, and the client waits for ever. -/
abbrev OtherEnd (σ : Type) := List UInt8 → StateT σ Option (List UInt8)

variable {σ : Type} (calls : ClientCalls) (peer : OtherEnd σ)

/-- The calls of `select` do not fail. -/
def scSendrecvDynamic (command data retbuffer : List UInt8) :
    StateT σ Option Received := fun s => do
  let (result, _, sink) ← scSendDynamic calls.rounds command data calls.behind ⟨[], calls.writes⟩
  if result ≠ 0 then return (⟨-1, retbuffer, none, none, ⟨[], calls.reads⟩⟩, s)
  else
    let (written, s) ← peer sink.written s
    let received ← scReceiveDynamic calls.rounds retbuffer ⟨written, calls.reads⟩
    return (received, s)

/-- Every call moves as much as the server's buffer holds, if there is as much. -/
def Roomy (counts : Counts) : Prop := ∀ i, ∃ most, counts i = some most ∧ shcMaxtransportdata ≤ most

theorem Roomy.rest {counts : Counts} (h : Roomy counts) : Roomy counts.rest := fun i => h (i + 1)

theorem pages_roomy : Roomy pages := fun _ => ⟨4096, rfl, by decide⟩

theorem scSendDynamic_roomy {command data : List UInt8}
    {rounds : Nat} (behind : Nat → UInt8) {counts : Counts}
    (hfits : command.length + data.length + 1 ≤ shcMaxtransportdata) (hroomy : Roomy counts) :
    ∃ sent after, scSendDynamic (rounds + 2) command data behind ⟨[], counts⟩ =
      some (0, sent, ⟨command ++ 0 :: data, after⟩) := by
  obtain ⟨most, hmost, hroom⟩ := hroomy 0
  have hstep :=
    @sendLoop_step (sendMemory command data behind) (command.length + data.length + 1) 0 0 most
    ⟨[], counts⟩ hfits (Nat.succ_pos _) (Nat.succ_pos _) hmost
      (Nat.lt_of_lt_of_le (by decide) hroom) (rounds + 1)
  dsimp only at hstep
  rw [Nat.sub_zero, Nat.min_eq_right (hfits.trans hroom), Nat.zero_add, sendLoop_done,
    sendMemory_request hfits behind] at hstep
  unfold scSendDynamic sendRequest
  rw [if_neg (Nat.not_lt.mpr hfits), hstep]
  exact ⟨_, _, rfl⟩

section
variable {text later retbuffer : List UInt8} {counts : Counts} {rounds : Nat}

theorem receiveText_roomy (hroomy : Roomy counts) (hshort : text.length + 5 ≤ shcMaxtransportdata)
    (hfits : text.length + 5 ≤ retbuffer.length) (hsize : retbuffer.length ≤ shcMaxtransportdata) :
    ∃ after, receiveText (rounds + 1) retbuffer ⟨text ++ [0], counts⟩ =
      some ⟨0, overlay 4 (text ++ [0]) retbuffer, none, none, ⟨[], after⟩⟩ := by
  obtain ⟨most, hmost, hroom⟩ := hroomy 0
  have hlen : (text ++ [0]).length = text.length + 1 := List.length_append
  have hask : sizeT ((retbuffer.length : Int) - 4) = retbuffer.length - 4 := by
    unfold shcMaxtransportdata at hsize
    unfold sizeT
    omega
  have hall : (text ++ [0]).length ≤ min most (retbuffer.length - 4) := by
    rw [hlen, Nat.le_min]
    omega
  have hread : Source.read (retbuffer.length - 4) ⟨text ++ [0], counts⟩ =
      (some (text ++ [0]), ⟨[], counts.rest⟩) := by
    simp only [Source.read, hmost, List.take_of_length_le hall, List.drop_eq_nil_of_le hall]
  have hends : 0 ∈ overlay 4 (text ++ [0]) retbuffer := by
    unfold overlay
    simp
  rw [receiveText, hask, hread]
  obtain ⟨byte, bytes, hbytes⟩ := List.exists_cons_of_length_pos (l := text ++ [0]) (by omega)
  rw [hbytes]
  dsimp only
  rw [← hbytes, Option.getD_some, memchrZero_of_mem hends, if_pos (Option.some_ne_none _)]
  exact ⟨_, rfl⟩

theorem tag_roomy (hroomy : Roomy counts) (hrounds : 4 < rounds)
    {first rest : List UInt8} (hfirst : first.length = 4) :
    Source.readInto false rounds 0 4 (zeros 5) ⟨first ++ rest, counts⟩ =
      some (4, first ++ [0], ⟨rest, counts.rest.rest⟩) := by
  obtain ⟨fewer, rfl⟩ : ∃ fewer, rounds = fewer + 2 := ⟨rounds - 2, by omega⟩
  obtain ⟨most, hmost, hroom⟩ := hroomy 0
  obtain ⟨again, hagain, _⟩ := hroomy 1
  have hfour : min most 4 = first.length := by
    rw [hfirst]
    exact Nat.min_eq_right (Nat.le_trans (by decide) hroom)
  have hread : Source.read 4 ⟨first ++ rest, counts⟩ = (some first, ⟨rest, counts.rest⟩) := by
    simp only [Source.read, hmost, hfour, List.take_left, List.drop_left]
  have hnothing : Source.read 0 ⟨rest, counts.rest⟩ = (some [], ⟨rest, counts.rest.rest⟩) := by
    simp [Source.read, Counts.rest, hagain]
  obtain ⟨a, b, c, d, rfl⟩ := List.length_eq_four.mp hfirst
  rw [Source.readInto, if_neg (by decide), hread]
  dsimp only
  have hdone : sizeT ((0 : Nat) + doneRead (some [a, b, c, d])) = 4 := rfl
  have hleft : sizeT ((4 : Nat) - doneRead (some [a, b, c, d])) = 0 := rfl
  rw [hdone, hleft, Source.readInto, if_neg (by decide), hnothing]
  rfl

theorem scReceiveDynamic_text (hroomy : Roomy counts) (htext : ∀ byte ∈ text, byte ≠ 0)
    (hlen : 4 ≤ text.length)
    (hplain : text.take 4 ≠ ascii "DATA") (hfits : text.length + 1 ≤ retbuffer.length)
    (hsize : retbuffer.length ≤ shcMaxtransportdata) (hrounds : 4 < rounds) :
    ∃ after, scReceiveDynamic rounds retbuffer ⟨text ++ [0], counts⟩ =
      some ⟨0, overlay 0 (text ++ [0]) retbuffer, none, none, ⟨[], after⟩⟩ := by
  obtain ⟨fewer, rfl⟩ : ∃ fewer, rounds = fewer + 1 := ⟨rounds - 1, by omega⟩
  have hfirst : (text.take 4).length = 4 := by
    rw [List.length_take]
    omega
  have hsplit : text ++ [0] = text.take 4 ++ (text.drop 4 ++ [0]) := by
    rw [← List.append_assoc, List.take_append_drop]
  have hcheck : cString (text.take 4 ++ [0]) = text.take 4 :=
    cString_append (fun byte hbyte => htext byte (List.mem_of_mem_take hbyte)) []
  have hlength : (overlay 0 (text.take 4) retbuffer).length = retbuffer.length :=
    overlay_length (by omega)
  obtain ⟨after, hrest⟩ :=
    @receiveText_roomy (text.drop 4) (overlay 0 (text.take 4) retbuffer) counts.rest.rest
    fewer hroomy.rest.rest (by rw [List.length_drop]; omega)
      (by rw [List.length_drop]; omega) (by omega)
  have hboth := overlay_overlay (text.take 4) (text.drop 4 ++ [0]) (Nat.zero_le retbuffer.length)
  rw [hfirst, Nat.zero_add, ← hsplit] at hboth
  refine ⟨after, ?_⟩
  unfold scReceiveDynamic
  rw [hsplit, tag_roomy hroomy hrounds hfirst, Option.bind_eq_bind, Option.bind_some]
  dsimp only
  rw [hcheck, if_pos hplain, List.take_left' hfirst, hrest, hboth, ← hsplit]

end

end Vmstated.Libsocket
