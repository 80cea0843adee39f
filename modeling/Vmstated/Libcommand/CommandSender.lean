import Vmstated.Libcommand.VmInfo
import Vmstated.Libsocket.SendReceive

/-! libcommand/command_sender.c: a command becomes a request. -/
namespace Vmstated.Libcommand
open Library Libsocket

/-- `struct bhyve_usercommand`. `reply` is a buffer of `replylen` bytes, and
`blob` is empty for `NULL`. -/
structure BhyveUsercommand where
  cmd : Option (List UInt8)
  vmname : Option (List UInt8)
  reply : List UInt8
  blob : List UInt8

/-- The pointer to a buffer. Without a zero byte in it there is no string. -/
def bufferPointer (buffer : List UInt8) : Pointer :=
  if 0 ∈ buffer then .string (cString buffer) else .wild

def BhyveUsercommand.memory (bcmd : BhyveUsercommand) : CStruct :=
  CStruct.zeroed
    |>.setPointer 0 (Pointer.ofOption bcmd.cmd)
    |>.setPointer 8 (Pointer.ofOption bcmd.vmname)
    |>.setPointer 24 (bufferPointer bcmd.reply)

variable (nv : Libnv)

def bcmdEncodenvlistCommand (bcmd : BhyveUsercommand) : Option (Int × nv.Nvlist) :=
  bcmdEncodenvlist nv bhyveCommandNv bcmd.memory nv.create

/-- With the function `send_dynamic`, which is there. -/
def bcsSendcmdRaw {σ : Type} (sendDynamic : List UInt8 → List UInt8 → StateT σ Option Received)
    (bcmd : BhyveUsercommand) : StateT σ Option (Int × BhyveUsercommand) := fun s => do
  let (encoded, nvl) ← bcmdEncodenvlistCommand nv bcmd
  if encoded ≠ 0 then return ((-1, bcmd), s)
  else
    let (received, s) ← sendDynamic (nv.pack nvl) bcmd.reply s
    return ((received.retcode,
      { bcmd with reply := received.retbuffer, blob := received.blobReply.getD bcmd.blob }), s)

/-! What the daemon finds in the request. -/

theorem ofOption_ne_wild (text : Option (List UInt8)) : Pointer.ofOption text ≠ .wild := by
  cases text <;> exact Pointer.noConfusion

/-- The value of a string that may be missing. -/
def itemOf : Option (List UInt8) → NvValue
  | none => .null
  | some text => .string text

theorem encodeItem_ofOption {mapping : ParserMapping} {buffer : CStruct}
    {text : Option (List UInt8)}
    (htype : mapping.valueType = .dynamicstring)
    (hpointer : buffer.pointers mapping.offset = Pointer.ofOption text) :
    encodeItem mapping buffer = some (itemOf text) := by
  unfold encodeItem
  rw [htype, hpointer]
  cases text <;> rfl

theorem bcmdEncodenvlistCommand_items {bcmd : BhyveUsercommand} (hreply : 0 ∈ bcmd.reply) :
    ∃ nvl, bcmdEncodenvlistCommand nv bcmd = some (0, nvl) ∧
      nv.get nvl (ascii "cmd") = some (itemOf bcmd.cmd) ∧
      nv.get nvl (ascii "vmname") = some (itemOf bcmd.vmname) ∧
      nv.get nvl (ascii "reply") = some (.string (cString bcmd.reply)) := by
  have hcmd : encodeItem ⟨0, .dynamicstring, 8, ascii "cmd"⟩ bcmd.memory = some (itemOf bcmd.cmd) :=
    encodeItem_ofOption rfl rfl
  have hvmname : encodeItem ⟨8, .dynamicstring, 8, ascii "vmname"⟩ bcmd.memory =
      some (itemOf bcmd.vmname) :=
    encodeItem_ofOption rfl rfl
  have hbuffer : encodeItem ⟨24, .dynamicstring, 8, ascii "reply"⟩ bcmd.memory =
      some (.string (cString bcmd.reply)) := by
    apply @encodeItem_ofOption _ _ (some (cString bcmd.reply)) rfl
    rw [BhyveUsercommand.memory, CStruct.setPointer_pointers,
      if_pos rfl, bufferPointer, if_pos hreply]
    rfl
  have hresult : encodeItem ⟨16, .uint32, 4, ascii "result"⟩ bcmd.memory ≠ none :=
    Option.some_ne_none _
  obtain ⟨nvl, hencode, hget, -⟩ :=
    @bcmdEncodenvlist_get nv bhyveCommandNv bcmd.memory nv.create (by decide)
      (fun mapping _ => nv.get_create mapping.varname) (by
        intro mapping hmapping
        simp only [bhyveCommandNv, List.mem_cons, List.not_mem_nil, or_false] at hmapping
        rcases hmapping with h | h | h | h
        · rw [h, hcmd]
          exact Option.some_ne_none _
        · rw [h, hvmname]
          exact Option.some_ne_none _
        · rw [h]
          exact hresult
        · rw [h, hbuffer]
          exact Option.some_ne_none _)
  refine ⟨nvl, hencode, ?_, ?_, ?_⟩
  · exact (hget ⟨0, .dynamicstring, 8, ascii "cmd"⟩ (by decide)).trans hcmd
  · exact (hget ⟨8, .dynamicstring, 8, ascii "vmname"⟩ (by decide)).trans hvmname
  · exact (hget ⟨24, .dynamicstring, 8, ascii "reply"⟩ (by decide)).trans hbuffer

end Vmstated.Libcommand
