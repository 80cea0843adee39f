import Vmstated.Libconfig.ConfigCore
import Vmstated.Library.EventQueue
import Vmstated.Library.LinkedList
import Vmstated.Library.Machine
import Vmstated.Library.Processes
import Vmstated.Liblogging.LogDirector

/-! liblogging/log_director.c: redirectors and their clients, the descriptors
they keep, and the thread that waits for what is in the pipes. -/
namespace Vmstated.Liblogging
open Library Libconfig

/-- What a descriptor refers to. Pipes and log files have numbers in the order
in which they are made. -/
inductive LogFile where
  | readEnd (pipe : Nat)
  | writeEnd (pipe : Nat)
  | log (number : Nat)
  | other
deriving DecidableEq

/-- `struct log_director_redirector_client`; `readfd` and `writefd` are its
`pipefd`. -/
structure RedirectorClient where
  readfd : Nat
  writefd : Nat
  otherEndClosed : Bool
  thisAccepted : Bool
  closed : Bool
  ldr : Nat

structure Redirector where
  logname : List UInt8
  logfilefd : Nat
  clients : LinkedList Nat

/-- A log file as it was opened, by its path, and what is written through that
descriptor, which is as far as its offset has come. -/
structure Log where
  name : List UInt8
  written : List UInt8

/-- `struct log_director`, the memory of what it leads to by address, and what
the kernel knows. Files are those of different paths. -/
structure LogDirector where
  logDirectory : List UInt8
  events : EventQueue Nat
  redirects : LinkedList Nat
  redirectors : Nat → Option Redirector
  clients : Nat → Option RedirectorClient
  processes : Processes LogFile
  contents : Nat → List UInt8
  pipes : Nat
  logs : Nat → Log
  opened : Nat
  files : List UInt8 → List UInt8

/-- The pid of the daemon. -/
def daemon : Nat := 0

structure RedirectAnswers where
  address : Nat
  logfilefd : Nat

structure ClientAnswers where
  address : Option Nat
  pipefd : Option (Nat × Nat)
  registered : Bool
  lockOk : Bool

/-- How the calls for an event of a pipe go, and a number of rounds after which
the loops have ended. -/
structure LogAnswers where
  recv : RecvAnswers
  reads : Counts
  writes : Counts
  rounds : Nat

/-- What is moved from a pipe to a log. -/
structure Forwarded where
  ldr : Nat
  pipe : Nat
  bytes : List UInt8

def pipeCalls : Nat → Counts → List UInt8 → Option (List UInt8)
  | 0, counts, contents => (counts 0).map fun most => contents.take most
  | i + 1, counts, contents =>
    match counts 0 with
    | none => none
    | some most => pipeCalls i counts.rest (contents.drop most)

def ldNew (logDirectory : List UInt8) (links : Nat → Option Nat) : LogDirector where
  logDirectory
  events := .new
  redirects := .init links links
  redirectors _ := none
  clients _ := none
  processes :=
    let other := ⟨.other, false⟩
    ⟨AList.singleton daemon
      (((∅ : DescriptorTable LogFile).insert 2 other).insert 1 other |>.insert 0 other)⟩
  contents _ := []
  pipes := 0
  logs _ := ⟨[], []⟩
  opened := 0
  files _ := []

def logfileName (logDirectory logname : List UInt8) : List UInt8 :=
  snprintf pathMax (logDirectory ++ ascii "/" ++ logname ++ ascii ".log")

/-- A gap in front of the offset is filled with zeros. -/
def writeAt (offset : Nat) (bytes file : List UInt8) : List UInt8 :=
  overlay offset bytes (file ++ zeros (offset - file.length))

namespace LogDirector
variable (ld : LogDirector)

def fdOpened (fd : Nat) : Option LogFile := (ld.processes.opened daemon fd).map OpenFile.file

/-- `close`, which also takes the descriptor off the queue. -/
def close (fd : Nat) : LogDirector :=
  { ld with
    processes := ld.processes.close daemon fd
    events := ld.events.remove (.read fd) }

/-- `ldr_new` and `ld_register_redirect`, if all calls succeed. The file is
emptied, also where another redirector has it open. -/
def ldRegisterRedirect (logname : List UInt8) (answers : RedirectAnswers) : Option LogDirector :=
  if answers.address = 0 ∨ (ld.redirectors answers.address).isSome ∨
    (ld.fdOpened answers.logfilefd).isSome then none
  else
    let name := logfileName ld.logDirectory logname
    some { ld with
      processes := ld.processes.open daemon answers.logfilefd ⟨.log ld.opened, true⟩
      logs := Function.update ld.logs ld.opened ⟨name, []⟩
      opened := ld.opened + 1
      files := Function.update ld.files name []
      redirectors := Function.update ld.redirectors answers.address
        (some ⟨logname, answers.logfilefd, .init (fun _ => none) (fun _ => none)⟩)
      redirects := ld.redirects.insertHead answers.address }

def ldrNewclient (ldr : Nat) (answers : ClientAnswers) : Option (Option Nat × LogDirector) :=
  match ld.redirectors ldr, answers.address, answers.pipefd with
  | none, _, _ => none
  | some _, none, _ => some (none, ld)
  | some _, some _, none => some (none, ld)
  | some redirector, some address, some (readfd, writefd) =>
    if address = 0 ∨ (ld.clients address).isSome ∨ (ld.fdOpened readfd).isSome ∨
      (ld.fdOpened writefd).isSome ∨
        readfd = writefd then none
    -- both ends are closed again
    else if !answers.registered then some (none, { ld with pipes := ld.pipes + 1 })
    -- `ldrd_freeclient` removes what is on no list
    else if !answers.lockOk then none
    else
      some (some address, { ld with
        processes :=
          (ld.processes.open daemon readfd ⟨.readEnd ld.pipes, false⟩).open daemon writefd
            ⟨.writeEnd ld.pipes, false⟩
        pipes := ld.pipes + 1
        events := ld.events.add (.read readfd) address
        clients :=
          Function.update ld.clients address (some ⟨readfd, writefd, false, false, false, ldr⟩)
        redirectors := Function.update ld.redirectors ldr
          (some { redirector with clients := redirector.clients.insertHead address }) })

def ldrdAcceptRedirect (ldrd : Nat) : Option LogDirector :=
  match ld.clients ldrd with
  | none => none
  | some client =>
    if !client.thisAccepted then
      some { ld.close client.writefd with
        clients := Function.update ld.clients ldrd (some { client with thisAccepted := true }) }
    else some ld

def ldrdFreeclient (ldrd : Nat) : Option LogDirector :=
  match ld.clients ldrd with
  | none => none
  | some client =>
    match ld.redirectors client.ldr with
    | none => none
    | some redirector =>
      let ld := if !client.thisAccepted then ld.close client.writefd else ld
      let ld := if !client.closed then ld.close client.readfd else ld
      some { ld with
        redirectors := Function.update ld.redirectors client.ldr
          (some { redirector with clients := redirector.clients.remove ldrd })
        clients := Function.update ld.clients ldrd none }

def recvOndata (ldrd : Nat) (answers : LogAnswers) : Option (Option Forwarded × LogDirector) := do
  let client ← ld.clients ldrd
  let redirector ← ld.redirectors client.ldr
  match ld.fdOpened client.readfd, ld.fdOpened redirector.logfilefd with
  | some (.readEnd pipe), some (.log number) =>
    let contents := ld.contents pipe
    let log := ld.logs number
    match ldrRecvOndata answers.rounds answers.recv contents.length
      ⟨fun i => pipeCalls i answers.reads contents, []⟩ ⟨log.written, answers.writes⟩ with
    | none => none
    | some (_, pipeEnd, sink) =>
      some (some ⟨client.ldr, pipe, pipeEnd.delivered⟩, { ld with
        contents := Function.update ld.contents pipe (contents.drop pipeEnd.delivered.length)
        logs := Function.update ld.logs number { log with written := sink.written }
        files := Function.update ld.files log.name
          (writeAt log.written.length (sink.written.drop log.written.length) (ld.files log.name)) })
  | _, _ => none

def eof (pipe : Nat) : Bool := !ld.processes.refers (.writeEnd pipe)

def ldKqueueThread (fd : Nat) (answers : LogAnswers) : Option (Option Forwarded × LogDirector) :=
  match ld.events.registrations (.read fd), ld.fdOpened fd with
  | some ⟨ldrd, true⟩, some (.readEnd pipe) =>
    if ld.eof pipe then (ld.ldrdFreeclient ldrd).map fun ld => (none, ld)
    else if ld.contents pipe = [] then none
    else ld.recvOndata ldrd answers
  | _, _ => none

/-- `ld_thread_stop`, up to where it waits for the thread. -/
def ldThreadStop : Int := if ld.events.triggers (.user 0) then 0 else -1

def ldrFreeRound (ldr : Nat) (ld : LogDirector) : Option (Option Unit × LogDirector) :=
  match ld.redirectors ldr with
  | none => none
  | some redirector =>
    match redirector.clients.first with
    | none => some (some (), ld)
    | some ldrd =>
      -- `ldrd_freeclient` removes it once more
      let ld := { ld with
        redirectors := Function.update ld.redirectors ldr
          (some { redirector with clients := redirector.clients.remove ldrd }) }
      (ld.ldrdFreeclient ldrd).map fun ld => (none, ld)

def ldrFree (fuel ldr : Nat) : Option LogDirector :=
  match loop (ldrFreeRound ldr) fuel ld with
  | none => none
  | some (_, ld) => some { ld with redirectors := Function.update ld.redirectors ldr none }

def ldFreeRound (fuel : Nat) (ld : LogDirector) : Option (Option Unit × LogDirector) :=
  match ld.redirects.first with
  | none => some (some (), ld)
  | some ldr =>
    let ld := { ld with redirects := ld.redirects.remove ldr }
    (ld.ldrFree fuel ldr).map fun ld => (none, ld)

/-- `ld_free`, which goes on also where `ld_thread_stop` fails. The thread, which
then still runs, handles no event before it is done. -/
def ldFree (fuel : Nat) : Option LogDirector :=
  match loop (ldFreeRound fuel) fuel ld with
  | none => none
  | some (_, ld) => some { ld with events := .new }

end LogDirector

/-! The child of a launch. -/

/-- `ldrd_redirect_stdout` and `ldrd_redirect_stderr`, in a process of its own:
`otherEndClosed` is that of its copy of the client. -/
def ldrdRedirect (client : RedirectorClient) (pid fd : Nat)
    (otherEndClosed : Bool) (processes : Processes LogFile) :
    Bool × Processes LogFile :=
  if (processes.opened pid fd).isNone then (otherEndClosed, processes)
  else
    let processes := processes.close pid fd
    if otherEndClosed then (true, processes.dup2 pid client.writefd fd)
    else if (processes.opened pid client.readfd).isNone then (false, processes)
    else (true, (processes.close pid client.readfd).dup2 pid client.writefd fd)

def ldrdRedirectStdout (client : RedirectorClient) (pid : Nat) := ldrdRedirect client pid 1

def ldrdRedirectStderr (client : RedirectorClient) (pid : Nat) := ldrdRedirect client pid 2

/-- The child of `pd_launch_redirected`, up to its `execve`. -/
def launchedChild (client : Option RedirectorClient) (pid : Nat) (processes : Processes LogFile) :
    Processes LogFile :=
  match client with
  | none => processes.execve pid
  | some client =>
    let (otherEndClosed, processes) := ldrdRedirectStdout client pid client.otherEndClosed processes
    (ldrdRedirectStderr client pid otherEndClosed processes).2.execve pid

inductive LogOp where
  | register (logname : List UInt8) (answers : RedirectAnswers)
  | newclient (ldr : Nat) (answers : ClientAnswers)
  /-- `fork` in `pd_launch_redirected`. -/
  | launch (child : Nat) (ldrd : Option Nat)
  | acceptRedirect (ldrd : Nat)
  | write (pid fd : Nat) (bytes : List UInt8)
  | close (pid fd : Nat)
  | dup2 (pid old new : Nat)
  | fork (pid child : Nat)
  | exit (pid : Nat)
  /-- An event of the descriptor is delivered. -/
  | event (fd : Nat) (answers : LogAnswers)

/-- The threads of the daemon, and the processes that it launches. -/
def logDirector : Machine LogDirector LogOp (Option Forwarded) where
  step ld
    | .register logname answers => (ld.ldRegisterRedirect logname answers).map fun ld => (none, ld)
    | .newclient ldr answers => (ld.ldrNewclient ldr answers).map fun result => (none, result.2)
    | .launch child ldrd =>
      if (ld.processes.tables.lookup child).isSome then none
      else
        match ldrd with
        | none =>
          some (none,
            { ld with processes := launchedChild none child (ld.processes.fork daemon child) })
        | some ldrd =>
          match ld.clients ldrd with
          | none => none
          | some client =>
            some (none, { ld with processes := launchedChild (some client) child (ld.processes.fork daemon child) })
    | .acceptRedirect ldrd => (ld.ldrdAcceptRedirect ldrd).map fun ld => (none, ld)
    | .write pid fd bytes =>
      if pid = daemon then none
      else
        match ld.processes.opened pid fd with
        | some ⟨.writeEnd pipe, _⟩ =>
          some (none,
            { ld with contents := Function.update ld.contents pipe (ld.contents pipe ++ bytes) })
        | _ => none
    | .close pid fd =>
      if pid = daemon then none
      else some (none, { ld with processes := ld.processes.close pid fd })
    | .dup2 pid old new =>
      if pid = daemon then none
      else some (none, { ld with processes := ld.processes.dup2 pid old new })
    | .fork pid child =>
      if pid = daemon ∨ (ld.processes.tables.lookup child).isSome then none
      else some (none, { ld with processes := ld.processes.fork pid child })
    | .exit pid =>
      if pid = daemon then none
      else some (none, { ld with processes := ld.processes.exit pid })
    | .event fd answers => ld.ldKqueueThread fd answers

end Vmstated.Liblogging
