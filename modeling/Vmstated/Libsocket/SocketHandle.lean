import Vmstated.Library.Machine
import Vmstated.Library.Transfer
import Vmstated.Library.Decimal
import Vmstated.Libsocket.ReplyCollector

/-! libsocket/socket_handle.c: the server's side of a connection. -/
namespace Vmstated.Libsocket
open Library

def shcMaxtransportdata : Nat := 1024
def shCmdlen : Nat := 4
def shErrmsglen : Nat := 512

def bhyv : List UInt8 := ascii "BHYV"

theorem bhyv_ne_zero : ∀ byte ∈ bhyv, byte ≠ 0 := List.forall_mem_ne'.mpr (by decide)

theorem bhyv_short : bhyv.length ≤ shCmdlen := by decide

def shCmderrInvalidcmd : Nat := 1
def shCmderrGarbagecmd : Nat := 2
def shCmderrDatatoolon : Nat := 3
def shWrnKeepreadnmore : Nat := 172

structure SocketCmdparsedata where
  cmdlen : Nat
  datalen : Nat
  errmsg : List UInt8
  errcode : Nat

def SocketCmdparsedata.zeroed : SocketCmdparsedata := ⟨0, 0, [], 0⟩

/-- `struct socket_connection`, with a buffer of `shcMaxtransportdata` bytes. -/
structure SocketConnection where
  bytesRead : Nat
  buffer : List UInt8
  src : SocketReplyCollector

def shcNew : SocketConnection := ⟨0, zeros shcMaxtransportdata, srcNew⟩

def orExit {α : Type} (result : Int × α) : Option α :=
  if result.1 = 0 then some result.2 else none

/-- Where more than half of the buffer is dropped, the second `memcpy` does not
reach all that the first one left behind. -/
def shcDropbytes (count : Nat) : StateM SocketConnection Int := fun shc =>
  if count = 0 then (-1, shc)
  else if count = shcMaxtransportdata ∨ count ≥ shc.bytesRead then
    (0, { shc with buffer := zeros shcMaxtransportdata, bytesRead := 0 })
  else
    let temp := (shc.buffer.drop count).take (shcMaxtransportdata - count)
    let zeroed := overlay count (zeros (shcMaxtransportdata - count)) shc.buffer
    (0, { shc with buffer := overlay 0 temp zeroed, bytesRead := shc.bytesRead - count })

def shcDropmessage (parsedata : SocketCmdparsedata) : StateM SocketConnection Int :=
  shcDropbytes (parsedata.cmdlen + parsedata.datalen + 2)

/-! Reading. -/

structure ReadVars where
  bytesReady : Nat
  bytesRemaining : Nat
  toRead : Nat
  offset : Nat
  bytesRead : Nat
  buffer : List UInt8

/-- A write through a pointer into the buffer, or in front of it, where nothing is
shown. -/
def storeAt (offset : Nat) (bytes buffer : List UInt8) : List UInt8 :=
  if offset < 2 ^ 63 then overlay offset bytes buffer
  else overlay 0 (bytes.drop (2 ^ 64 - offset)) buffer

theorem storeAt_inside {offset : Nat} (h : offset < 2 ^ 63) (bytes buffer : List UInt8) :
    storeAt offset bytes buffer = overlay offset bytes buffer := if_pos h

/-- One round of the loop. A failed call counts as `-1` bytes, and `to_read` is
computed before `bytes_ready` is reduced. -/
def ReadVars.advance (vars : ReadVars) (bytes : Option (List UInt8)) : ReadVars :=
  let bytesRemaining := sizeT (vars.bytesRemaining - doneRead bytes)
  { bytesReady := sizeT (vars.bytesReady - doneRead bytes)
    bytesRemaining
    toRead := if vars.bytesReady > bytesRemaining then bytesRemaining else vars.bytesReady
    offset := sizeT (vars.offset + doneRead bytes)
    bytesRead := sizeT (vars.bytesRead + doneRead bytes)
    buffer := storeAt vars.offset (bytes.getD []) vars.buffer }

def readRounds : Nat → ReadVars → Source UInt8 → ReadVars × Source UInt8
  | 0, vars, source => (vars, source)
  | rounds + 1, vars, source =>
    if vars.bytesRemaining = 0 ∨ vars.bytesReady = 0 then (vars, source)
    else
      match source.read vars.toRead with
      | (some [], source) => (vars, source)
      | (bytes, source) => readRounds rounds (vars.advance bytes) source

/-- Calls that succeed fill the buffer in at most so many rounds. -/
def shReadData (bytesReady : Nat) (shc : SocketConnection) (source : Source UInt8) :
    Int × SocketConnection × Source UInt8 :=
  let bytesRemaining := sizeT (shcMaxtransportdata - shc.bytesRead)
  let toRead := if bytesReady > bytesRemaining then bytesRemaining else bytesReady
  let (vars, source) := readRounds shcMaxtransportdata
    ⟨bytesReady, bytesRemaining, toRead, shc.bytesRead, shc.bytesRead, shc.buffer⟩ source
  (0, { shc with bytesRead := vars.bytesRead, buffer := vars.buffer }, source)

/-! Parsing. -/

def invalidCommand (shc : SocketConnection) (cmdlen : Nat) : List UInt8 :=
  snprintf shErrmsglen (paddedDecimal 4 shCmderrInvalidcmd ++ ascii ": Invalid command \"" ++
    cString shc.buffer ++ ascii "\" is too long (" ++ decimal cmdlen ++ ascii " bytes)")

def dataTooLong (shc : SocketConnection) : List UInt8 :=
  snprintf shErrmsglen (paddedDecimal 4 shCmderrDatatoolon ++ ascii ": Data for command \"" ++
    cString shc.buffer ++ ascii "\" is too long")

/-- A command without its zero byte sets no error, also while bytes are missing. -/
def shTryCmdparsing (shc : SocketConnection) (parsedata : SocketCmdparsedata) :
    Option (Int × SocketCmdparsedata × SocketConnection) :=
  if shc.bytesRead = 0 then some (0, { parsedata with errcode := shWrnKeepreadnmore }, shc)
  else
    match memchrZero (shc.buffer.take shc.bytesRead) with
    | none =>
      if shc.bytesRead ≥ shcMaxtransportdata then
        let shc := (shcDropbytes shcMaxtransportdata shc).2
        some (0, { parsedata with errcode := shCmderrGarbagecmd, errmsg := ascii "Invalid input" },
          shc)
      else some (0, parsedata, shc)
    | some cmdlen =>
      let parsedata := { parsedata with cmdlen }
      if cmdlen > shCmdlen then
        let parsedata :=
          { parsedata with errmsg := invalidCommand shc cmdlen, errcode := shCmderrInvalidcmd }
        (orExit (shcDropmessage parsedata shc)).map fun shc => (0, parsedata, shc)
      else
        -- the search for the end of the data does not stop at `bytes_read`
        match memchrZero
          ((shc.buffer.drop (cmdlen + 1)).take (shcMaxtransportdata - cmdlen - 1)) with
        | none =>
          if shc.bytesRead = shcMaxtransportdata then
            let parsedata :=
              { parsedata with errmsg := dataTooLong shc, errcode := shCmderrDatatoolon }
            (orExit (shcDropbytes shcMaxtransportdata shc)).map fun shc => (0, parsedata, shc)
          else some (0, { parsedata with errcode := shWrnKeepreadnmore }, shc)
        | some datalen => some (0, { parsedata with datalen }, shc)

/-! Calling the listeners. -/

/-- What a listener is handed, besides the client's ids. -/
structure Dispatch where
  cmd : List UInt8
  data : List UInt8
  datalen : Nat
  deriving DecidableEq

def SocketConnection.dispatch (shc : SocketConnection) : Dispatch :=
  let cmdlen := strlen shc.buffer
  let datalen := sizeT (shc.bytesRead - cmdlen - 1)
  ⟨cString shc.buffer, (shc.buffer.drop (cmdlen + 1)).take datalen, datalen⟩

abbrev Listener := Dispatch → StateM SocketReplyCollector Int

def callEach (dispatch : Dispatch) :
    List Listener → SocketReplyCollector → Int × SocketReplyCollector
  | [], src => (0, src)
  | listener :: listeners, src =>
    let (retcode, src) := listener dispatch src
    if retcode ≠ 0 then (retcode, src) else callEach dispatch listeners src

def shCallListeners (listeners : List Listener) (shc : SocketConnection) : Int × SocketConnection :=
  let (retcode, src) := callEach shc.dispatch listeners shc.src
  (retcode, { shc with src })

/-! Replying. -/

def shReplyMsg (msg : List UInt8) : StateM (Sink UInt8) Int := fun sink =>
  let text := cString msg ++ [0]
  let (sentTotal, sink) := sink.writeAll text.length text
  (if sentTotal = text.length then 0 else -1, sink)

def shReplyGenericmsg (errcode : Int) : StateM (Sink UInt8) Int :=
  shReplyMsg (snprintf shcMaxtransportdata
    (paddedDecimal 4 errcode ++ ascii ": " ++ (if errcode = 0 then []
      else ascii "N") ++ ascii "OK"))

def shReplyShortmsg (errcode : Int) (msg : List UInt8) : StateM (Sink UInt8) Int :=
  shReplyMsg (snprintf shcMaxtransportdata (paddedDecimal 4 errcode ++ ascii ": " ++ msg))

def asLong (value : Nat) : Int :=
  if sizeT value < 2 ^ 63 then sizeT value else sizeT value - 2 ^ 64

def dataLine (bufferlen : Nat) : List UInt8 :=
  snprintf 128 (ascii "DATA " ++ paddedDecimal 0 (asLong bufferlen))

/-- The result, or nothing where an assertion fails. -/
def shReplyData (src : SocketReplyCollector) (sink : Sink UInt8) :
    Option (Int × SocketReplyCollector × Sink UInt8) :=
  match srcGetReply src with
  | (none, src) => some (-1, src, sink)
  | (some buffer, src) =>
    let text := dataLine buffer.length ++ [0]
    let (sentTotal, sink) := sink.writeAll text.length text
    if sentTotal ≠ text.length then none
    else
      let (sentTotal, sink) := sink.writeAll buffer.length buffer
      if sentTotal ≠ buffer.length then none else some (0, src, sink)

/-! The handler of a read event. -/

structure Client where
  shc : SocketConnection
  incoming : Source UInt8
  outgoing : Sink UInt8

def replyError (parsedata : SocketCmdparsedata) (sink : Sink UInt8) : Option (Sink UInt8) :=
  if parsedata.errcode ≠ 0 then orExit (shReplyMsg parsedata.errmsg sink) else some sink

def replyResult (result : Int) (src : SocketReplyCollector) (sink : Sink UInt8) :
    Option (SocketReplyCollector × Sink UInt8) :=
  if srcHasReply src = false then
    match srcGetShortReply src with
    | some short => (orExit (shReplyShortmsg result short sink)).map fun sink => (src, sink)
    | none => (orExit (shReplyGenericmsg result sink)).map fun sink => (src, sink)
  else (shReplyData src sink).map fun replied => replied.2

def settleMessage (listeners : List Listener) (parsedata : SocketCmdparsedata) (client : Client) :
    Option Client := do
  let (result, shc) := shCallListeners listeners client.shc
  let (src, outgoing) ← replyResult result shc.src client.outgoing
  let shc ← orExit (shcDropmessage parsedata { shc with src })
  return { client with shc, outgoing }

/-- The part of `sh_accept_handler_thread` for a client from which
`bytesReady` bytes can be read: what the listeners are handed, if they are
called. Nothing if the process ends. -/
def shAcceptHandlerThread (listeners : List Listener) (bytesReady : Nat) (client : Client) :
    Option (Option Dispatch × Client) := do
  let (_, shc, incoming) := shReadData bytesReady client.shc client.incoming
  let (result, parsedata, shc) ← shTryCmdparsing shc .zeroed
  if result ≠ 0 then none
  else if parsedata.errcode = shWrnKeepreadnmore
    then return (none, ⟨shc, incoming, client.outgoing⟩)
  else
    let outgoing ← replyError parsedata client.outgoing
    let settled ← settleMessage listeners parsedata ⟨shc, incoming, outgoing⟩
    return (some shc.dispatch, settled)

end Vmstated.Libsocket
