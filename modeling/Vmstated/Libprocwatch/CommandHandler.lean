import Vmstated.Libprocwatch.Director
import Vmstated.Libprocwatch.DirectorInfo
import Vmstated.Libsocket.SocketHandle

/-! bhyve_director.c: the handler that the director subscribes for the messages
of clients. The mutexes do not fail, and the reply manager is that of the
connection. -/
namespace Vmstated.Libprocwatch
open Library Libcommand Libsocket

/-! errno.h -/

def errnoEnoent : Int := 2
def errnoEinval : Int := 22

def bdErrUnknownvmname : Int := 162

/-- Whether the strings differ. There has to be a string. -/
def strcmp : Pointer → List UInt8 → Option Bool
  | .string text, other => some (text != other)
  | _, _ => none

/-- What the calls of a command meet. `errno` is what is found there where the
director did not set it. -/
structure CommandAnswers where
  hooks : Oracle VmState HookOutcome
  start : StartAnswers
  stop : StopAnswers
  errno : Int

/-- The place of the machine in `statelist`. -/
def bdGetvmbyname (bd : ConfiguredDirector) (name : List UInt8) : Option Nat :=
  bd.statelist.findIdx? fun vm => vm.config.name == name

/-- The local variables of the handler, with all that it changes. -/
structure Handling where
  result : Int
  errno : Int
  bd : ConfiguredDirector
  src : SocketReplyCollector

namespace Handling

variable (nv : Libnv) (answers : CommandAnswers) (vmname : Pointer) (handling : Handling)

/-- A function of the director that looks a machine up by its name. -/
def onNamed (unknown : Int) (call : StateM BhyveWatchedVm Int) : Option Handling :=
  match vmname with
  | .null => some { handling with result := -1, errno := errnoEinval }
  | .wild => none
  | .string name =>
    match bdGetvmbyname handling.bd name with
    | none => some { handling with result := unknown, errno := errnoEnoent }
    | some index => do
      let vm ← handling.bd.statelist[index]?
      let (result, bwv) := call (vm.bwv.call answers.hooks)
      return { handling with
        result, errno := answers.errno
        bd := { handling.bd with statelist := handling.bd.statelist.set index { vm with bwv } } }

def startvm : Option Handling :=
  onNamed answers vmname handling bdErrUnknownvmname (bdStartvm answers.start)

def stopvm : Option Handling := onNamed answers vmname handling (-1) (bdStopvm answers.stop)

def resetfailvm : Option Handling := onNamed answers vmname handling (-1) bdResetfailvm

def replyInfo : Option Handling := do
  let (result, src) ← bdReplyInfo nv handling.errno handling.bd handling.src
  return { handling with result, src }

def onCommand (cmd : Pointer) (name : List UInt8) (execute : Handling → Option Handling) :
    Option Handling := do
  if ← strcmp cmd name then return handling else execute handling

/-- The conditions follow each other, without `else`. -/
def execute (bcmd : CStruct) : Option Handling := do
  let cmd := bcmd.pointers 0
  let vmname := bcmd.pointers 8
  let handling ← handling.onCommand cmd (ascii "startvm") (startvm answers vmname)
  let handling ← handling.onCommand cmd (ascii "stopvm") (stopvm answers vmname)
  let handling ← handling.onCommand cmd (ascii "status") (replyInfo nv)
  handling.onCommand cmd (ascii "resetfail") (resetfailvm answers vmname)

end Handling

/-- The result, the director, and what is to be replied; nothing where the
program uses a string that is not there. -/
def bdRecvOndata (nv : Libnv) (answers : CommandAnswers)
    (cmd data : List UInt8) (bd : ConfiguredDirector)
    (src : SocketReplyCollector) : Option (Int × ConfiguredDirector × SocketReplyCollector) :=
  let bd := { bd with msgcount := bd.msgcount + 1 }
  if cmd ≠ bhyv then some (0, bd, src)
  else do
    let (failed, bcmd) ← bcmdParseNvlistcmd nv data .zeroed
    let handling ←
      if failed ≠ 0 then pure ⟨-1, answers.errno, bd, src⟩
      else Handling.execute nv answers ⟨0, answers.errno, bd, src⟩ bcmd
    let src :=
      if handling.result = bdErrUnknownvmname ∧ handling.errno = errnoEnoent then
        (srcShortReply (ascii "unknown vm") handling.src).2
      else handling.src
    return (handling.result, handling.bd, src)

end Vmstated.Libprocwatch
