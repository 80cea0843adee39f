import Vmstated.Libutils.TransmitCollect

/-! libsocket/reply_collector.c: what the listeners of a connection want to be
replied. Allocations do not fail. -/
namespace Vmstated.Libsocket
open Library Libutils

structure SocketReplyCollector where
  stc : SocketTransmissionCollector
  shortReply : Option (List UInt8)
  collectedBuffer : Option (List UInt8)

def srcNew : SocketReplyCollector := ⟨stcNew, none, none⟩

def SocketReplyCollector.stored (src : SocketReplyCollector) : List UInt8 := src.stc.items.flatten

def srcGetReply : StateM SocketReplyCollector (Option (List UInt8)) := fun src =>
  let count := stcGetbuffercount src.stc
  let bufferlen := stcGetbuffersize src.stc
  let buffer := List.replicate bufferlen 0
  let collected :=
    stcCollect src.stc buffer bufferlen (List.replicate count 0) (sizeofSizeT * count)
  let src := { src with collectedBuffer := some collected.2.1 }
  if collected.1 ≠ 0 then (none, src) else (some collected.2.1, src)

def srcShortReply (reply : List UInt8) : StateM SocketReplyCollector Int := fun src =>
  if src.shortReply ≠ none then (1, src)
  else (0, { src with shortReply := some (cString reply) })

def srcHasReply (src : SocketReplyCollector) : Bool := stcGetbuffersize src.stc != 0

/-- `src_has_short_reply` tells whether there is one. -/
def srcGetShortReply (src : SocketReplyCollector) : Option (List UInt8) := src.shortReply

def srcReply (buffer : List UInt8) : StateM SocketReplyCollector Int :=
  focus SocketReplyCollector.stc (fun src stc => { src with stc }) (stcStoreTransmit buffer)

variable (src : SocketReplyCollector)

@[simp] theorem srcReply_stored (buffer : List UInt8) :
    (srcReply buffer src).2.stored = src.stored ++ buffer := by
  simp only [srcReply, focus_apply, stcStoreTransmit, SocketReplyCollector.stored]
  by_cases hnil : buffer = []
  · subst hnil
    simp
  · have hlen : buffer.length ≠ 0 := by simpa using hnil
    simp [hlen]

@[simp] theorem srcReply_shortReply (buffer : List UInt8) :
    (srcReply buffer src).2.shortReply = src.shortReply := rfl

@[simp] theorem srcShortReply_stored (reply : List UInt8) :
    (srcShortReply reply src).2.stored = src.stored := by
  unfold srcShortReply
  split <;> rfl

@[simp] theorem srcShortReply_shortReply (reply : List UInt8) :
    (srcShortReply reply src).2.shortReply = src.shortReply.or (some (cString reply)) := by
  unfold srcShortReply
  cases hshort : src.shortReply with
  | none => simp
  | some short => simp [hshort]

@[simp] theorem srcGetReply_stored : (srcGetReply src).2.stored = src.stored := by
  unfold srcGetReply
  dsimp only
  split <;> rfl

@[simp] theorem srcGetReply_shortReply : (srcGetReply src).2.shortReply = src.shortReply := by
  unfold srcGetReply
  dsimp only
  split <;> rfl

theorem srcHasReply_iff : srcHasReply src = true ↔ src.stored ≠ [] := by
  rw [srcHasReply, bne_iff_ne, stcGetbuffersize_eq, SocketReplyCollector.stored,
    Ne, List.length_eq_zero_iff]

theorem srcGetReply_of_stored {src : SocketReplyCollector} (h : src.stored ≠ []) :
    (srcGetReply src).1 = some src.stored := by
  have hcollect := @stcCollect_exact src.stc h (List.replicate (stcGetbuffersize src.stc) 0)
    (List.replicate (stcGetbuffercount src.stc) 0) List.length_replicate List.length_replicate
  unfold srcGetReply
  dsimp only
  rw [hcollect]
  rfl

end Vmstated.Libsocket
