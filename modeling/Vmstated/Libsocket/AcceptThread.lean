import Vmstated.Library.EventQueue
import Vmstated.Libsocket.SocketHandle

/-! libsocket/socket_handle.c: the thread that waits for clients and for what
they send, from `sh_start` until it is told to stop. It joins the handler of an
event before it looks for the next one, so that an event is handled in one
step. Nothing is left where the process ends. -/
namespace Vmstated.Libsocket
open Library

def shEvtCmdShutdown : Nat := 0

structure ClientConnection where
  clientfd : Nat
  shc : SocketConnection

/-- The other end of a connection: what is sent from there and not yet read,
what arrived there, and whether it is closed. -/
structure Peer where
  incoming : Source UInt8
  outgoing : Sink UInt8
  closed : Bool

def Peer.none : Peer := ⟨⟨[], fun _ => some 0⟩, ⟨[], fun _ => some 0⟩, false⟩

/-- `struct socket_handle`, and what the kernel knows of it. Clients have
numbers in the order in which they connect, and connections the addresses of
their memory. -/
structure SocketHandle where
  socketfd : Nat
  events : EventQueue Nat
  connections : List Nat
  memory : Nat → Option ClientConnection
  /-- The clients at the other ends of open descriptors. -/
  sockets : Nat → Option Nat
  backlog : List Nat
  clients : Nat
  peers : Nat → Peer

structure EventAnswers where
  clientfd : Nat
  address : Nat
  listeners : List Listener

/-- `sh_new`. -/
def shNew (socketfd : Nat) : SocketHandle where
  socketfd := socketfd
  events := (EventQueue.new.add (.read socketfd) 0).add (.user shEvtCmdShutdown) 0
  connections := []
  memory _ := none
  sockets _ := none
  backlog := []
  clients := 0
  peers _ := .none

namespace SocketHandle
variable (sh : SocketHandle)

def ready : EventKey → Bool
  | .read fd =>
    if fd = sh.socketfd then !sh.backlog.isEmpty
    else match sh.sockets fd with
      | none => false
      | some client => (sh.peers client).closed || !(sh.peers client).incoming.pending.isEmpty
  | _ => false

def eof (fd : Nat) : Bool :=
  match sh.sockets fd with
  | none => false
  | some client => (sh.peers client).closed

/-- A new connection. The event of the handler is then that of the new
descriptor. -/
def accept (answers : EventAnswers) : Option SocketHandle :=
  match sh.backlog with
  | [] => none
  | client :: backlog =>
    -- the kernel hands out no open descriptor, and `malloc` no memory in use
    if answers.clientfd = sh.socketfd ∨ (sh.sockets answers.clientfd).isSome ∨
        answers.address = 0 ∨ (sh.memory answers.address).isSome then
      none
    else
      some { sh with
        backlog
        sockets := Function.update sh.sockets answers.clientfd (some client)
        memory := Function.update sh.memory answers.address (some ⟨answers.clientfd, shcNew⟩)
        connections := answers.address :: sh.connections
        events := sh.events.add (.read answers.clientfd) answers.address }

/-- `sh_disconnect_client`; `close` takes the descriptor off the queue. -/
def shDisconnectClient (address : Nat) : Option SocketHandle :=
  match sh.memory address with
  | none => none
  | some connection =>
    some { sh with
      connections := sh.connections.erase address
      sockets := Function.update sh.sockets connection.clientfd none
      events := sh.events.remove (.read connection.clientfd)
      memory := Function.update sh.memory address none }

def shReadClient (address : Nat) (listeners : List Listener) :
    Option (Option Dispatch × SocketHandle) :=
  match sh.memory address with
  | none => none
  | some connection =>
    match sh.sockets connection.clientfd with
    | none => none
    | some number =>
      let peer := sh.peers number
      match shAcceptHandlerThread listeners peer.incoming.pending.length
        ⟨connection.shc, peer.incoming, peer.outgoing⟩ with
      | none => none
      | some (dispatch, client) =>
        some (dispatch, { sh with
          memory := Function.update sh.memory address (some ⟨connection.clientfd, client.shc⟩)
          peers :=
            Function.update sh.peers number ⟨client.incoming, client.outgoing, peer.closed⟩ })

/-- The end of the handler, which has freed its record of the event and reads it once
more; it is taken to be intact. The handler goes on without the registration if the
descriptor is closed. -/
def reenable (fd udata : Nat) : Option SocketHandle :=
  match sh.events.change (.read fd) udata true with
  | some events => some { sh with events }
  | none => if (sh.sockets fd).isSome then none else some sh

def shHandlerThread (fd udata : Nat) (answers : EventAnswers) :
    Option (Option Dispatch × SocketHandle) :=
  if fd = sh.socketfd then do
    let sh ← sh.accept answers
    let sh ← sh.reenable answers.clientfd answers.address
    return (none, sh)
  else if sh.eof fd then do
    let sh ← if udata = 0 then some sh else sh.shDisconnectClient udata
    let sh ← sh.reenable fd udata
    return (none, sh)
  else if udata = 0 then do
    -- there is no connection to read for
    let sh ← reenable { sh with
      sockets := Function.update sh.sockets fd none
      events := sh.events.remove (.read fd) } fd udata
    return (none, sh)
  else do
    let (dispatch, sh) ← sh.shReadClient udata answers.listeners
    let sh ← sh.reenable fd udata
    return (dispatch, sh)

def shAcceptThread (fd : Nat) (answers : EventAnswers) : Option (Option Dispatch × SocketHandle) :=
  match sh.events.registrations (.read fd) with
  | some ⟨udata, true⟩ =>
    if sh.ready (.read fd) = false ∨ fd = shEvtCmdShutdown then none
    else do
      let events ← sh.events.change (.read fd) udata false
      shHandlerThread { sh with events } fd udata answers
  | _ => none

end SocketHandle

inductive SocketOp where
  | connect (incoming outgoing : Counts)
  | send (client : Nat) (bytes : List UInt8)
  | close (client : Nat)
  /-- An event of the descriptor is delivered. -/
  | event (fd : Nat) (answers : EventAnswers)

def acceptThread : Machine SocketHandle SocketOp (Option Dispatch) where
  step sh
    | .connect incoming outgoing =>
      some (none, { sh with
        backlog := sh.backlog ++ [sh.clients]
        clients := sh.clients + 1
        peers := Function.update sh.peers sh.clients ⟨⟨[], incoming⟩, ⟨[], outgoing⟩, false⟩ })
    | .send client bytes =>
      let peer := sh.peers client
      if sh.clients ≤ client ∨ peer.closed then none
      else
        some (none, { sh with
          peers := Function.update sh.peers client
            { peer with incoming := ⟨peer.incoming.pending ++ bytes, peer.incoming.counts⟩ } })
    | .close client =>
      if sh.clients ≤ client then none
      else
        some (none, { sh with
          peers := Function.update sh.peers client { sh.peers client with closed := true } })
    | .event fd answers => sh.shAcceptThread fd answers

end Vmstated.Libsocket
