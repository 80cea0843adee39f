import Vmstated.Libcommand.CommandSender

/-! vmstatedctl_main.c: the command line client. Allocations, `socket` and
`connect` do not fail. -/
namespace Vmstated.Vmstatedctl
open Library Libcommand Libsocket

def defaultBuffersize : Nat := 512

/-! errno.h -/

def errnoEinval : Int := 22

/-- How the program ends: its status, what it printed, and what it complained
about. There is no status here where it is whatever `errno` was left. -/
structure Ended where
  status : Option Int
  printed : List UInt8
  complaint : List UInt8
deriving DecidableEq

/-! The functions of the commands. `argv` is what is left of the arguments;
they are there, where a function uses one. -/

def cmdNamed (cmd : List UInt8) (argv : List (List UInt8)) (buc : BhyveUsercommand) :
    Option (Int × BhyveUsercommand) :=
  argv.head?.map fun vmname => (0, { buc with cmd := some cmd, vmname := some vmname })

def cmdStart : List (List UInt8) → BhyveUsercommand → Option (Int × BhyveUsercommand) :=
  cmdNamed (ascii "startvm")

def cmdStop : List (List UInt8) → BhyveUsercommand → Option (Int × BhyveUsercommand) :=
  cmdNamed (ascii "stopvm")

def cmdFailreset : List (List UInt8) → BhyveUsercommand → Option (Int × BhyveUsercommand) :=
  cmdNamed (ascii "resetfail")

def cmdStatus (_ : List (List UInt8)) (buc : BhyveUsercommand) : Option (Int × BhyveUsercommand) :=
  some (0, { buc with cmd := some (ascii "status"), vmname := none })

/-- `struct vmstatedctl_cmd`. -/
structure VmstatedctlCmd where
  command : List UInt8
  func : List (List UInt8) → BhyveUsercommand → Option (Int × BhyveUsercommand)
  requiresVmName : Bool

def commands : List VmstatedctlCmd :=
  [⟨ascii "start", cmdStart, true⟩,
   ⟨ascii "stop", cmdStop, true⟩,
   ⟨ascii "status", cmdStatus, false⟩,
   ⟨ascii "failreset", cmdFailreset, true⟩]

structure CommandVars where
  minargcount : Nat
  ptr : List (List UInt8)
  result : Int
  usrcmd : BhyveUsercommand
  foundCommand : Bool

/-- The loop goes on behind the command that it finds. -/
def findCommands (argc : Nat) (commandName : List UInt8) :
    List VmstatedctlCmd → CommandVars → Option (Except Ended CommandVars)
  | [], vars => some (.ok vars)
  | entry :: entries, vars =>
    if entry.command ≠ commandName then findCommands argc commandName entries vars
    else
      let minargcount := if entry.requiresVmName then vars.minargcount else 2
      if argc < minargcount then some (.error ⟨some errnoEinval, [], ascii "Missing arguments"⟩)
      else do
        let ptr := vars.ptr.drop 2
        let (result, usrcmd) ← entry.func ptr vars.usrcmd
        findCommands argc commandName entries ⟨minargcount, ptr, result, usrcmd, true⟩

def printUsage : Ended :=
  ⟨some 0, ascii "Usage: vmstatedctl [command] <vmname>\n\n" ++
    ascii "Following vm commands are supported and require a vmname parameter:\n" ++
    ascii " - start\n - stop\n - failreset\n\n" ++
    ascii "Following general commands are supported and do not require a vmname:\n" ++
    ascii " - status\n\n", []⟩

/-! The functions of the replies. -/

def newline : List UInt8 := [10]

def leftAligned (width : Nat) (text : Option (List UInt8)) : List UInt8 :=
  let text := text.getD (ascii "(null)")
  text ++ List.replicate (width - text.length) 32

def rightAligned (width : Nat) (text : List UInt8) : List UInt8 :=
  List.replicate (width - text.length) 32 ++ text

def cmdDefaultReply (buc : BhyveUsercommand) : List UInt8 × List UInt8 :=
  (cString buc.reply ++ newline, [])

def cmdPrintsep (sepchar : UInt8) : List UInt8 := List.replicate 79 sepchar ++ newline

def infoLine (bvi : BhyveVmInfo) : List UInt8 :=
  leftAligned 16 bvi.vmname ++ ascii "   " ++ rightAligned 4
    (bvmiGetStatestring bvi) ++ ascii " " ++ leftAligned 8 bvi.owner ++ newline

/-- What is printed, and the complaint; nothing where decoding does not come to
an end. There are as many infos as `vm_count` says where it succeeds. -/
def cmdStatusReply (nv : Libnv) (buc : BhyveUsercommand) : Option (List UInt8 × List UInt8) := do
  let (failed, bvmmi) ← bvmmiDecodebinary nv buc.blob
  if failed ≠ 0 then return ([], ascii "Failed to decode vm_info data")
  else
    let bvmmi ← bvmmi
    let header :=
      if bvmmi.vmCount ≠ 0 then
        leftAligned 16 (some (ascii "Name")) ++ ascii " " ++ leftAligned 6
          (some (ascii "Status")) ++ ascii " " ++ leftAligned 8 (some (ascii "Owner")) ++ newline
      else []
    return (ascii "vmstated running, managing " ++ decimal bvmmi.vmCount ++
      ascii " virtual machines\n" ++
      header ++ cmdPrintsep 61 ++ (bvmmi.vmInfos.map infoLine).flatten, [])

structure VmstatedctlReplyhandler where
  command : List UInt8
  func : BhyveUsercommand → Option (List UInt8 × List UInt8)

def replyHandler (nv : Libnv) : List VmstatedctlReplyhandler :=
  [⟨ascii "start", fun buc => some (cmdDefaultReply buc)⟩,
   ⟨ascii "stop", fun buc => some (cmdDefaultReply buc)⟩,
   ⟨ascii "status", cmdStatusReply nv⟩,
   ⟨ascii "failreset", fun buc => some (cmdDefaultReply buc)⟩]

def handleReply (commandName : List UInt8) (buc : BhyveUsercommand) :
    List VmstatedctlReplyhandler → Option (List UInt8 × List UInt8)
  | [] => some ([], [])
  | entry :: entries =>
    if entry.command ≠ commandName then handleReply commandName buc entries
    else do
      let (printed, complaint) ← entry.func buc
      let (more, complaints) ← handleReply commandName buc entries
      return (printed ++ more, complaint ++ complaints)

/-- `fresh` is what `malloc` leaves in the buffer for the reply. The result of a
reply handler is not looked at. -/
def main {σ : Type} (nv : Libnv) (calls : ClientCalls) (peer : OtherEnd σ) (fresh : List UInt8)
    (argv : List (List UInt8)) : StateT σ Option Ended := fun s => do
  if argv.length < 2 then return (printUsage, s)
  let commandName := argv.getD 1 []
  match ← findCommands argv.length commandName commands
    ⟨3, argv, 0, ⟨none, none, fresh, []⟩, false⟩ with
  | .error ended => return (ended, s)
  | .ok vars =>
    if !vars.foundCommand then
      return (⟨some 1, ascii "Unknown command: " ++ commandName ++ newline, []⟩, s)
    else if vars.result ≠ 0 then return (⟨some 0, [], []⟩, s)
    else
      let ((result, usrcmd), s) ← bcsSendcmdRaw nv (scSendrecvDynamic calls peer bhyv) vars.usrcmd s
      if result ≠ 0 then return (⟨none, [], ascii "Failed to transmit command"⟩, s)
      else
        let (printed, complaint) ← handleReply commandName usrcmd (replyHandler nv)
        return (⟨some 0, printed, complaint⟩, s)

end Vmstated.Vmstatedctl
