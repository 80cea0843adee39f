import Vmstated.Library.Bounds
import Vmstated.Libsocket.Framing

/-! The parser of socket_handle.c again, with every access to the buffer and
every sum and difference of lengths checked. Nothing comes back where an access
would leave the buffer, a length would wrap or the process would end. -/
namespace Vmstated.Libsocket
open Library

def dropbytesChecked (count : Nat) (shc : SocketConnection) : Option (Int × SocketConnection) :=
  if count = 0 then some (-1, shc)
  else if count = shcMaxtransportdata ∨ count ≥ shc.bytesRead then do
    let buffer ← store 0 (zeros shcMaxtransportdata) shc.buffer
    return (0, { shc with buffer, bytesRead := 0 })
  else do
    let moved ← minus shcMaxtransportdata count
    let temp ← load count moved shc.buffer
    let buffer ← store count (zeros moved) shc.buffer
    let buffer ← store 0 temp buffer
    let bytesRead ← minus shc.bytesRead count
    return (0, { shc with buffer, bytesRead })

def dropmessageChecked (parsedata : SocketCmdparsedata) (shc : SocketConnection) :
    Option (Int × SocketConnection) := do
  let message ← plus parsedata.cmdlen parsedata.datalen
  let skipBytes ← plus message 2
  dropbytesChecked skipBytes shc

def tryCmdparsingChecked (shc : SocketConnection) (parsedata : SocketCmdparsedata) :
    Option (Int × SocketCmdparsedata × SocketConnection) :=
  if shc.bytesRead = 0 then some (0, { parsedata with errcode := shWrnKeepreadnmore }, shc)
  else do
    let received ← load 0 shc.bytesRead shc.buffer
    match memchrZero received with
    | none =>
      if shc.bytesRead ≥ shcMaxtransportdata then do
        let (_, shc) ← dropbytesChecked shcMaxtransportdata shc
        return (0,
          { parsedata with errcode := shCmderrGarbagecmd, errmsg := ascii "Invalid input" }, shc)
      else return (0, parsedata, shc)
    | some cmdlen =>
      let parsedata := { parsedata with cmdlen }
      if cmdlen > shCmdlen then do
        -- the message quotes the command
        let _ ← loadString shc.buffer
        let parsedata :=
          { parsedata with errmsg := invalidCommand shc cmdlen, errcode := shCmderrInvalidcmd }
        let shc ← (dropmessageChecked parsedata shc).bind orExit
        return (0, parsedata, shc)
      else do
        let behind ← minus shcMaxtransportdata cmdlen
        let searched ← minus behind 1
        let data ← load (cmdlen + 1) searched shc.buffer
        match memchrZero data with
        | none =>
          if shc.bytesRead = shcMaxtransportdata then do
            let _ ← loadString shc.buffer
            let parsedata :=
              { parsedata with errmsg := dataTooLong shc, errcode := shCmderrDatatoolon }
            let shc ← (dropbytesChecked shcMaxtransportdata shc).bind orExit
            return (0, parsedata, shc)
          else return (0, { parsedata with errcode := shWrnKeepreadnmore }, shc)
        | some datalen => return (0, { parsedata with datalen }, shc)

/-- A connection whose buffer has its size, and does not claim to hold more. -/
structure Sized (shc : SocketConnection) : Prop where
  buffer : shc.buffer.length = shcMaxtransportdata
  bytesRead : shc.bytesRead ≤ shcMaxtransportdata

theorem sized_new : Sized shcNew := ⟨zeros_length _, Nat.zero_le _⟩

section
variable {shc : SocketConnection} (h : Sized shc)
include h

theorem Sized.dropbytesChecked (count : Nat) :
    dropbytesChecked count shc = some (shcDropbytes count shc) := by
  have hbuffer := h.buffer
  have hread := h.bytesRead
  unfold Libsocket.dropbytesChecked shcDropbytes
  split
  · rfl
  · split
    · have hall : overlay 0 (zeros shcMaxtransportdata) shc.buffer = zeros shcMaxtransportdata := by
        rw [overlay, zeros_length, Nat.zero_add, List.drop_eq_nil_of_le (by omega), List.take_zero,
          List.nil_append, List.append_nil]
      rw [store_eq (by rw [zeros_length]; omega), hall]
      rfl
    · rename_i hpart
      have htemp : ((shc.buffer.drop count).take (shcMaxtransportdata - count)).length =
          shcMaxtransportdata - count := by
        rw [List.length_take, List.length_drop, hbuffer, Nat.min_self]
      have hzeroed : (overlay count (zeros (shcMaxtransportdata - count)) shc.buffer).length =
          shcMaxtransportdata := by
        rw [overlay_length (by rw [zeros_length]; omega), hbuffer]
      simp only [Option.bind_eq_bind]
      rw [minus_eq (by omega), Option.bind_some, load_eq (by omega), Option.bind_some,
        store_eq (by rw [zeros_length]; omega), Option.bind_some,
          store_eq (by omega), Option.bind_some,
        minus_eq (by omega)]
      rfl

theorem Sized.dropmessageChecked {parsedata : SocketCmdparsedata}
    (hlengths : parsedata.cmdlen + parsedata.datalen + 2 < 2 ^ 64) :
    dropmessageChecked parsedata shc = some (shcDropmessage parsedata shc) := by
  unfold Libsocket.dropmessageChecked
  simp only [Option.bind_eq_bind]
  rw [plus_eq (by omega), Option.bind_some, plus_eq hlengths, Option.bind_some, h.dropbytesChecked]
  rfl

theorem Sized.dropbytes (count : Nat) : Sized (shcDropbytes count shc).2 := by
  have hbuffer := h.buffer
  have hread := h.bytesRead
  unfold shcDropbytes
  split
  · exact h
  · split
    · exact ⟨zeros_length _, Nat.zero_le _⟩
    · have hzeroed : (overlay count (zeros (shcMaxtransportdata - count)) shc.buffer).length =
          shcMaxtransportdata := by
        rw [overlay_length (by rw [zeros_length]; omega), hbuffer]
      refine ⟨?_, ?_⟩
      · rw [overlay_length (by rw [List.length_take, List.length_drop]; omega), hzeroed]
      · dsimp only
        omega

/-- No access of the parser leaves the buffer. -/
theorem Sized.tryCmdparsingChecked :
    tryCmdparsingChecked shc .zeroed = shTryCmdparsing shc .zeroed := by
  have hbuffer := h.buffer
  have hread := h.bytesRead
  have hsize : shcMaxtransportdata = 1024 := rfl
  unfold Libsocket.tryCmdparsingChecked shTryCmdparsing
  simp only [Option.bind_eq_bind, Option.map_eq_bind]
  split
  · rfl
  · rw [load_eq (by omega), Option.bind_some, List.drop_zero]
    cases hcommand : memchrZero (shc.buffer.take shc.bytesRead) with
    | none =>
      dsimp only
      rw [h.dropbytesChecked]
      rfl
    | some cmdlen =>
      have hlt := memchrZero_lt hcommand
      have hstring : 0 ∈ shc.buffer := List.mem_of_mem_take (memchrZero_mem hcommand)
      rw [List.length_take] at hlt
      dsimp only
      split
      · rw [loadString_eq hstring,
          h.dropmessageChecked (by dsimp only [SocketCmdparsedata.zeroed]; omega)]
        rfl
      · rw [minus_eq (by omega), Option.bind_some, minus_eq (by omega), Option.bind_some,
          load_eq (by omega), Option.bind_some]
        generalize memchrZero
          ((shc.buffer.drop (cmdlen + 1)).take (shcMaxtransportdata - cmdlen - 1)) = zerodata
        cases zerodata with
        | none =>
          rw [loadString_eq hstring, h.dropbytesChecked]
          rfl
        | some datalen => rfl

theorem Sized.bytesRead_dropbytes (count : Nat) :
    (shcDropbytes count shc).2.bytesRead = shc.bytesRead - count := by
  have hread := h.bytesRead
  unfold shcDropbytes
  split
  · rename_i hnone
    rw [hnone, Nat.sub_zero]
  · split
    · dsimp only
      omega
    · rfl

theorem Sized.dropbytes_getD {count : Nat} (hcount : 0 < count)
    (hless : count < shc.bytesRead) (i : Nat) :
    (shcDropbytes count shc).2.buffer.getD i 0 =
      if i < shcMaxtransportdata - count then shc.buffer.getD (count + i) 0
      else if i < count then shc.buffer.getD i 0 else 0 := by
  have hbuffer := h.buffer
  have hread := h.bytesRead
  have hzeros : (zeros (shcMaxtransportdata - count)).length = shcMaxtransportdata - count :=
    zeros_length _
  have htemp : ((shc.buffer.drop count).take (shcMaxtransportdata - count)).length =
      shcMaxtransportdata - count := by
    rw [List.length_take, List.length_drop, hbuffer, Nat.min_self]
  have hzeroed : (overlay count (zeros (shcMaxtransportdata - count)) shc.buffer).length =
      shcMaxtransportdata := by
    rw [overlay_length (by omega), hbuffer]
  have hafter : (shcDropbytes count shc).2.buffer =
      overlay 0 ((shc.buffer.drop count).take (shcMaxtransportdata - count))
        (overlay count (zeros (shcMaxtransportdata - count)) shc.buffer) := by
    unfold shcDropbytes
    rw [if_neg (by omega), if_neg (by omega)]
  rw [hafter, overlay_getD (by omega), htemp, Nat.zero_add]
  by_cases hmoved : i < shcMaxtransportdata - count
  · rw [if_pos ⟨Nat.zero_le i, hmoved⟩, if_pos hmoved, Nat.sub_zero, getD_take hmoved, getD_drop]
  · rw [if_neg (fun hin => hmoved hin.2), if_neg hmoved, overlay_getD (by omega), hzeros]
    by_cases hstale : i < count
    · rw [if_neg (by omega), if_pos hstale]
    · rw [if_neg hstale]
      split
      · exact getD_zeros _ _
      · exact List.getD_eq_default _ _ (by omega)

end

/-- How many bytes the parser itself drops. -/
def parserDrops (shc : SocketConnection) (parsedata : SocketCmdparsedata) : Nat :=
  if shc.bytesRead = 0 then 0
  else
    match memchrZero (shc.buffer.take shc.bytesRead) with
    | none => if shc.bytesRead ≥ shcMaxtransportdata then shcMaxtransportdata else 0
    | some cmdlen =>
      if cmdlen > shCmdlen then cmdlen + parsedata.datalen + 2
      else
        match memchrZero
          ((shc.buffer.drop (cmdlen + 1)).take (shcMaxtransportdata - cmdlen - 1)) with
        | none => if shc.bytesRead = shcMaxtransportdata then shcMaxtransportdata else 0
        | some _ => 0

theorem shcDropbytes_all (shc : SocketConnection) :
    (shcDropbytes shcMaxtransportdata shc).1 = 0 := by
  unfold shcDropbytes
  rw [if_neg (by decide), if_pos (Or.inl rfl)]

theorem Sized.parsed {shc : SocketConnection} (h : Sized shc) {parsedata : SocketCmdparsedata}
    (hcmdlen : parsedata.cmdlen ≤ shcMaxtransportdata)
    (hdatalen : parsedata.datalen ≤ shcMaxtransportdata) :
    ∃ parsed, shTryCmdparsing shc parsedata =
        some (0, parsed, (shcDropbytes (parserDrops shc parsedata) shc).2) ∧
      parsed.cmdlen ≤ shcMaxtransportdata ∧ parsed.datalen ≤ shcMaxtransportdata ∧
      (shc.bytesRead = 0 → parsed.errcode = shWrnKeepreadnmore) := by
  have hbuffer := h.buffer
  unfold shTryCmdparsing parserDrops
  split
  · exact ⟨_, rfl, hcmdlen, hdatalen, fun _ => rfl⟩
  · rename_i hread
    have hsome (errcode : Nat) : shc.bytesRead = 0 → errcode = shWrnKeepreadnmore :=
      fun hnone => absurd hnone hread
    cases hcommand : memchrZero (shc.buffer.take shc.bytesRead) with
    | none =>
      dsimp only
      split
      · exact ⟨_, rfl, hcmdlen, hdatalen, hsome _⟩
      · exact ⟨_, rfl, hcmdlen, hdatalen, hsome _⟩
    | some cmdlen =>
      have hlt := memchrZero_lt hcommand
      rw [List.length_take] at hlt
      dsimp only
      split
      · rw [orExit, if_pos (shcDropmessage_zero _ shc)]
        exact ⟨_, rfl, by dsimp only; omega, hdatalen, hsome _⟩
      · cases hdata : memchrZero
          ((shc.buffer.drop (cmdlen + 1)).take (shcMaxtransportdata - cmdlen - 1)) with
        | none =>
          dsimp only
          split
          · rw [orExit, if_pos (shcDropbytes_all shc)]
            exact ⟨_, rfl, by dsimp only; omega, hdatalen, hsome _⟩
          · exact ⟨_, rfl, by dsimp only; omega, hdatalen, hsome _⟩
        | some datalen =>
          have hend := memchrZero_lt hdata
          rw [List.length_take] at hend
          exact ⟨_, rfl, by dsimp only; omega, by dsimp only; omega, hsome _⟩

end Vmstated.Libsocket
