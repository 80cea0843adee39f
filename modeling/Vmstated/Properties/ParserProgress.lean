import Vmstated.Libsocket.BufferAccess

/-! Parsing what is in the buffer, message by message. -/
namespace Vmstated.Properties
open Library Libsocket

/-- What the handler does with the front of the buffer: it is parsed and,
unless more is to be read first, dropped. Nothing where a check or a call fails. -/
def parserStep (shc : SocketConnection) : Option (Nat × SocketConnection) := do
  let (result, parsedata, shc) ← tryCmdparsingChecked shc .zeroed
  if result ≠ 0 then none
  else if parsedata.errcode = shWrnKeepreadnmore then return (parsedata.errcode, shc)
  else
    let (result, shc) ← dropmessageChecked parsedata shc
    if result ≠ 0 then none else return (parsedata.errcode, shc)

def parserSteps : Nat → SocketConnection → Option SocketConnection
  | 0, shc => some shc
  | rounds + 1, shc => (parserStep shc).bind fun stepped => parserSteps rounds stepped.2

theorem parserStep_of_sized {shc : SocketConnection} (h : Sized shc) :
    ∃ errcode after, parserStep shc = some (errcode, after) ∧ Sized after ∧
      (errcode ≠ shWrnKeepreadnmore → after.bytesRead < shc.bytesRead) := by
  obtain ⟨parsed, hparsed, hcmdlen, hdatalen, hempty⟩ :=
    @Sized.parsed shc h .zeroed (Nat.zero_le _) (Nat.zero_le _)
  have hsized := h.dropbytes (parserDrops shc .zeroed)
  unfold parserStep
  rw [h.tryCmdparsingChecked, hparsed, Option.bind_eq_bind, Option.bind_some]
  dsimp only
  rw [if_neg (by decide)]
  split
  · rename_i hwait
    exact ⟨parsed.errcode, _, rfl, hsized, fun hmore => absurd hwait hmore⟩
  · rename_i hmore
    have hlengths : parsed.cmdlen + parsed.datalen + 2 < 2 ^ 64 := by
      unfold shcMaxtransportdata at hcmdlen hdatalen
      omega
    have hread : shc.bytesRead ≠ 0 := fun hnone => hmore (hempty hnone)
    rw [hsized.dropmessageChecked hlengths, Option.bind_eq_bind, Option.bind_some]
    rw [shcDropmessage_zero, if_neg (by decide)]
    refine ⟨parsed.errcode, _, rfl, hsized.dropbytes _, ?_⟩
    intro _
    rw [shcDropmessage, hsized.bytesRead_dropbytes, h.bytesRead_dropbytes]
    omega

theorem parserSteps_of_sized {shc : SocketConnection} (h : Sized shc) :
    ∃ rounds last after, rounds ≤ shc.bytesRead ∧ parserSteps rounds shc = some last ∧
      parserStep last = some (shWrnKeepreadnmore, after) := by
  generalize hcount : shc.bytesRead = count
  induction count using Nat.strong_induction_on generalizing shc with
  | _ count ih =>
    obtain ⟨errcode, after, hstep, hsized, hless⟩ := parserStep_of_sized h
    by_cases hwait : errcode = shWrnKeepreadnmore
    · rw [hwait] at hstep
      exact ⟨0, shc, after, Nat.zero_le _, rfl, hstep⟩
    · have hlt := hless hwait
      rw [hcount] at hlt
      obtain ⟨rounds, last, final, hle, hrounds, hlast⟩ := ih after.bytesRead hlt hsized rfl
      refine ⟨rounds + 1, last, final, by omega, ?_, hlast⟩
      rw [parserSteps, hstep, Option.bind_some]
      exact hrounds

/-- Whatever is in the buffer, the parser stays inside of it and empties it. -/
theorem parser_bounded_progress (shc : SocketConnection)
    (hbuffer : shc.buffer.length = shcMaxtransportdata)
    (hread : shc.bytesRead ≤ shcMaxtransportdata) :
    tryCmdparsingChecked shc .zeroed = shTryCmdparsing shc .zeroed ∧
      (∃ errcode after, parserStep shc = some (errcode, after) ∧
        after.bytesRead ≤ shcMaxtransportdata ∧
        (errcode ≠ shWrnKeepreadnmore → 0 < shc.bytesRead → after.bytesRead < shc.bytesRead)) ∧
      ∃ rounds last after, rounds ≤ shc.bytesRead ∧ parserSteps rounds shc = some last ∧
        parserStep last = some (shWrnKeepreadnmore, after) := by
  have hsized : Sized shc := ⟨hbuffer, hread⟩
  obtain ⟨errcode, after, hstep, hafter, hless⟩ := parserStep_of_sized hsized
  exact ⟨hsized.tryCmdparsingChecked,
    ⟨errcode, after, hstep, hafter.bytesRead, fun hmore _ => hless hmore⟩,
    parserSteps_of_sized hsized⟩

def oneMessage : SocketConnection := ⟨4, [65, 0, 66, 0] ++ zeros 1020, srcNew⟩

theorem oneMessage_parsed :
    ∃ rounds last after, rounds ≤ 4 ∧ parserSteps rounds oneMessage = some last ∧
      parserStep last = some (shWrnKeepreadnmore, after) := by
  have hbuffer : oneMessage.buffer.length = shcMaxtransportdata := by
    rw [oneMessage, List.length_append, zeros_length]
    rfl
  have hread : oneMessage.bytesRead ≤ shcMaxtransportdata := by decide
  exact (parser_bounded_progress oneMessage hbuffer hread).2.2

end Vmstated.Properties
