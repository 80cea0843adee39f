import Vmstated.Libsocket.AcceptSpec

/-! libsocket/socket_handle.c: the server from `sh_start` to `sh_free`. The thread
that owns it and the accepting thread take turns: a step is what one of them does
between taking `sh->mtx` and giving it back. Mutexes do not fail. -/
namespace Vmstated.Libsocket
open Library

def shErrAlreadyrunnin : Int := 189
def shErrTisnotrunning : Int := 188
def shErrThreadstafail : Int := 183

/-- `state`, from the end of `sh_new` on. -/
inductive ServerState where
  | ready
  | started
  | running
  | stopping
  | stopped
deriving DecidableEq, Repr

inductive AcceptPc where
  | absent
  /-- Before its first lock. -/
  | entry
  | looping
  /-- It has been told to stop. -/
  | leaving
  /-- Before it looks whether the handlers are done. -/
  | draining
  | ended
  /-- With all of the process. -/
  | crashed
deriving DecidableEq, Repr

inductive OwnerPc where
  | outside
  /-- In `pthread_cond_wait` of `sh_start`, whether the thread was `created` or not;
  `woken` tells whether a wake-up is pending. -/
  | starting (created woken : Bool)
  /-- In `pthread_join` of `sh_stop`. -/
  | joining
  /-- Behind `sh_free`. -/
  | released
deriving DecidableEq, Repr

structure Server where
  sh : SocketHandle
  state : ServerState
  thread : AcceptPc
  owner : OwnerPc
  /-- The local variable of the accepting thread is not `NULL`. -/
  sct : Bool
  triggered : Bool
  /-- The file at `sockpath`. -/
  bound : Bool

inductive ServerOp where
  /-- `created` tells whether `pthread_create` succeeds. -/
  | shStart (created : Bool)
  /-- `pthread_cond_wait` returns for no reason. -/
  | spurious
  | wake
  /-- The next section of the accepting thread, up to the one that stops it. -/
  | thread
  /-- The thread looks whether the handlers are done, through the record of the last
  event. The handler has freed it; it may be `intact`. -/
  | drain (intact : Bool)
  /-- Of the clients, or an event of theirs. -/
  | socket (op : SocketOp)
  | shStop
  /-- The event that tells the thread to stop is delivered. -/
  | shutdown
  | join
  | shFree

namespace SocketHandle

/-- `shc_free`, which leaves the descriptor 0 open. The memory has to be there. -/
def shcFree (address : Nat) (sh : SocketHandle) : Option SocketHandle :=
  match sh.memory address with
  | none => none
  | some connection =>
    let sh := { sh with memory := Function.update sh.memory address none }
    if connection.clientfd = 0 then some sh
    else
      some { sh with
        sockets := Function.update sh.sockets connection.clientfd none
        events := sh.events.remove (.read connection.clientfd) }

def freeConnections : List Nat → SocketHandle → Option SocketHandle
  | [], sh => some sh
  | address :: rest, sh =>
    (shcFree address { sh with connections := rest }).bind (freeConnections rest)

/-- The queue and the listening descriptor are closed behind the connections. -/
def shFree (sh : SocketHandle) : Option SocketHandle :=
  (freeConnections sh.connections sh).map fun sh => { sh with backlog := [], events := .new }

end SocketHandle

def OwnerPc.signal : OwnerPc → OwnerPc
  | .starting created _ => .starting created true
  | owner => owner

def serverNew (socketfd : Nat) : Server :=
  ⟨shNew socketfd, .ready, .absent, .outside, false, false, true⟩

namespace Server
variable (server : Server)

/-- It also waits where the thread could not be created. -/
def shStart (created : Bool) : Option (Int × Server) :=
  if server.owner ≠ .outside then none
  else if server.state ≠ .ready then some (shErrAlreadyrunnin, server)
  else if created then
    some (0, { server with state := .started, thread := .entry, owner := .starting true false })
  else some (0, { server with owner := .starting false false })

def acceptSection : Option (Int × Server) :=
  match server.thread with
  | .entry =>
    some (0, { server with state := .running, thread := .looping, owner := server.owner.signal })
  | .leaving => some (0, { server with state := .stopped, thread := .draining })
  | _ => none

/-- The handlers were joined, and each of them has left the count of the threads. -/
def drain (intact : Bool) : Option (Int × Server) :=
  match server.thread with
  | .draining =>
    some (0, { server with thread := if server.sct && intact then .ended else .crashed })
  | _ => none

/-- Standard input stays open, so that no client has the descriptor 0, with which
the thread would stop. -/
def socketStep (op : SocketOp) : Option (Int × Server) :=
  match op with
  | .event fd answers =>
    if server.thread = .looping ∧ (fd = server.sh.socketfd → answers.clientfd ≠ 0) then
      (acceptThread.step server.sh op).map fun moved =>
        (0, { server with sh := moved.2, sct := true })
    else none
  | _ =>
    if server.owner = .released then none
    else (acceptThread.step server.sh op).map fun moved => (0, { server with sh := moved.2 })

/-- The process ends where there is no event to trigger. -/
def shStop : Option (Int × Server) :=
  if server.owner ≠ .outside then none
  else if server.state ≠ .running then some (shErrTisnotrunning, server)
  else if server.sh.events.triggers (.user shEvtCmdShutdown) then
    some (0, { server with state := .stopping, triggered := true, owner := .joining })
  else none

def shutdown : Option (Int × Server) :=
  match server.sh.events.registrations (.user shEvtCmdShutdown) with
  | some ⟨udata, true⟩ =>
    if server.triggered ∧ server.thread = .looping then
      (server.sh.events.change (.user shEvtCmdShutdown) udata false).map fun events =>
        (0, { server with sh := { server.sh with events }, thread := .leaving })
    else none
  | _ => none

/-- Nobody else may use the server any more. -/
def shFree : Option (Int × Server) :=
  if server.owner = .outside ∧ (server.thread = .absent ∨ server.thread = .ended) then
    server.sh.shFree.map fun sh => (0, { server with sh, owner := .released, bound := false })
  else none

end Server

def serverMachine : Machine Server ServerOp Int where
  step server op :=
    if server.thread = .crashed then none
    else
      match op with
      | .shStart created => server.shStart created
      | .spurious =>
        match server.owner with
        | .starting created _ => some (0, { server with owner := .starting created true })
        | _ => none
      | .wake =>
        match server.owner with
        | .starting created true =>
          some (if created then 0 else shErrThreadstafail, { server with owner := .outside })
        | _ => none
      | .thread => server.acceptSection
      | .drain intact => server.drain intact
      | .socket op => server.socketStep op
      | .shStop => server.shStop
      | .shutdown => server.shutdown
      | .join =>
        if server.owner = .joining ∧ server.thread =
          .ended then some (0, { server with owner := .outside }) else none
      | .shFree => server.shFree

inductive ServerStep (server : Server) : ServerOp → Server → Prop where
  | refused {op : ServerOp} (hop : ∀ inner, op ≠ .socket inner) : ServerStep server op server
  | started (howner : server.owner = .outside) (hstate : server.state = .ready) :
      ServerStep server (.shStart true)
        { server with state := .started, thread := .entry, owner := .starting true false }
  | uncreated (howner : server.owner = .outside) (hstate : server.state = .ready) :
      ServerStep server (.shStart false) { server with owner := .starting false false }
  | spurious {created woken : Bool} (howner : server.owner = .starting created woken) :
      ServerStep server .spurious { server with owner := .starting created true }
  | woken {created : Bool} (howner : server.owner = .starting created true) :
      ServerStep server .wake { server with owner := .outside }
  | running (hthread : server.thread = .entry) :
      ServerStep server .thread
        { server with state := .running, thread := .looping, owner := server.owner.signal }
  | stopped (hthread : server.thread = .leaving) :
      ServerStep server .thread { server with state := .stopped, thread := .draining }
  | drained {intact : Bool} (hthread : server.thread = .draining) :
      ServerStep server (.drain intact)
        { server with thread := if server.sct && intact then .ended else .crashed }
  | event {fd : Nat} {answers : EventAnswers} {dispatch : Option Dispatch} {sh : SocketHandle}
      (hthread : server.thread = .looping) (hclientfd : fd = server.sh.socketfd →
        answers.clientfd ≠ 0)
      (hevent : acceptThread.step server.sh (.event fd answers) = some (dispatch, sh)) :
      ServerStep server (.socket (.event fd answers)) { server with sh, sct := true }
  | client {op : SocketOp} {dispatch : Option Dispatch} {sh : SocketHandle}
      (howner : server.owner ≠ .released)
      (hop : ∀ fd answers, op ≠ .event fd answers)
        (hclient : acceptThread.step server.sh op = some (dispatch, sh)) :
      ServerStep server (.socket op) { server with sh }
  | stopping (howner : server.owner = .outside) (hstate : server.state = .running) :
      ServerStep server .shStop
        { server with state := .stopping, triggered := true, owner := .joining }
  | leaving {udata : Nat} {events : EventQueue Nat} (htriggered : server.triggered = true)
      (hthread : server.thread = .looping)
      (hevents : server.sh.events.change (.user shEvtCmdShutdown) udata false = some events) :
      ServerStep server .shutdown
        { server with sh := { server.sh with events }, thread := .leaving }
  | joined (howner : server.owner = .joining) (hthread : server.thread = .ended) :
      ServerStep server .join { server with owner := .outside }
  | freed {sh : SocketHandle} (howner : server.owner = .outside)
      (hthread : server.thread = .absent ∨ server.thread = .ended)
        (hfree : server.sh.shFree = some sh) :
      ServerStep server .shFree { server with sh, owner := .released, bound := false }

theorem serverMachine_step {server after : Server} {op : ServerOp} {output : Int}
    (hstep : serverMachine.step server op = some (output, after)) :
    server.thread ≠ .crashed ∧ ServerStep server op after := by
  simp only [serverMachine, Option.ite_none_left_eq_some] at hstep
  obtain ⟨halive, hstep⟩ := hstep
  refine ⟨halive, ?_⟩
  cases op with
  | shStart created =>
    simp only [Server.shStart, Option.ite_none_left_eq_some] at hstep
    obtain ⟨howner, hstep⟩ := hstep
    rw [not_not] at howner
    split at hstep
    · cases hstep
      exact .refused fun _ => ServerOp.noConfusion
    · rename_i hstate
      rw [not_not] at hstate
      cases created with
      | true =>
        cases hstep
        exact .started howner hstate
      | false =>
        cases hstep
        exact .uncreated howner hstate
  | spurious =>
    dsimp only at hstep
    split at hstep
    · rename_i howner
      cases hstep
      exact .spurious howner
    · cases hstep
  | wake =>
    dsimp only at hstep
    split at hstep
    · rename_i howner
      cases hstep
      exact .woken howner
    · cases hstep
  | thread =>
    simp only [Server.acceptSection] at hstep
    split at hstep
    · rename_i hthread
      cases hstep
      exact .running hthread
    · rename_i hthread
      cases hstep
      exact .stopped hthread
    · cases hstep
  | drain intact =>
    simp only [Server.drain] at hstep
    split at hstep
    · rename_i hthread
      cases hstep
      exact .drained hthread
    · cases hstep
  | socket op =>
    simp only [Server.socketStep] at hstep
    split at hstep
    · rw [Option.ite_none_right_eq_some] at hstep
      obtain ⟨⟨hthread, hclientfd⟩, hstep⟩ := hstep
      obtain ⟨⟨dispatch, sh⟩, hevent, hafter⟩ := Option.map_eq_some_iff.mp hstep
      cases hafter
      exact .event hthread hclientfd hevent
    · rename_i hop
      rw [Option.ite_none_left_eq_some] at hstep
      obtain ⟨howner, hstep⟩ := hstep
      obtain ⟨⟨dispatch, sh⟩, hclient, hafter⟩ := Option.map_eq_some_iff.mp hstep
      cases hafter
      exact .client howner hop hclient
  | shStop =>
    simp only [Server.shStop, Option.ite_none_left_eq_some] at hstep
    obtain ⟨howner, hstep⟩ := hstep
    rw [not_not] at howner
    split at hstep
    · cases hstep
      exact .refused fun _ => ServerOp.noConfusion
    · rename_i hstate
      rw [not_not] at hstate
      rw [Option.ite_none_right_eq_some] at hstep
      cases hstep.2
      exact .stopping howner hstate
  | shutdown =>
    simp only [Server.shutdown] at hstep
    split at hstep
    · rw [Option.ite_none_right_eq_some] at hstep
      obtain ⟨⟨htriggered, hthread⟩, hstep⟩ := hstep
      obtain ⟨events, hevents, hafter⟩ := Option.map_eq_some_iff.mp hstep
      cases hafter
      exact .leaving htriggered hthread hevents
    · cases hstep
  | join =>
    simp only [Option.ite_none_right_eq_some] at hstep
    obtain ⟨⟨howner, hthread⟩, hafter⟩ := hstep
    cases hafter
    exact .joined howner hthread
  | shFree =>
    simp only [Server.shFree, Option.ite_none_right_eq_some] at hstep
    obtain ⟨⟨howner, hthread⟩, hstep⟩ := hstep
    obtain ⟨sh, hfree, hafter⟩ := Option.map_eq_some_iff.mp hstep
    cases hafter
    exact .freed howner hthread hfree

end Vmstated.Libsocket
