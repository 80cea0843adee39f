import Vmstated.Libsocket.AcceptThread

/-! What the events of the accepting thread do. -/
namespace Vmstated.Libsocket
open Library

inductive EventResult (sh : SocketHandle) (fd : Nat) (answers : EventAnswers) :
    SocketHandle → Prop where
  | accepted {udata client : Nat} {backlog : List Nat} (hlistens : fd = sh.socketfd)
      (henabled : sh.events.registrations (.read fd) = some ⟨udata, true⟩)
      (hbacklog : sh.backlog = client :: backlog) (hother : answers.clientfd ≠ sh.socketfd)
      (hclosed : sh.sockets answers.clientfd = none) (haddress : answers.address ≠ 0)
      (hunused : sh.memory answers.address = none) :
      EventResult sh fd answers { sh with
        backlog
        sockets := Function.update sh.sockets answers.clientfd (some client)
        memory := Function.update sh.memory answers.address (some ⟨answers.clientfd, shcNew⟩)
        connections := answers.address :: sh.connections
        events := ⟨Function.update
          (Function.update sh.events.registrations (.read fd) (some ⟨udata, false⟩))
          (.read answers.clientfd) (some ⟨answers.address, true⟩)⟩ }
  | disconnected {udata : Nat} {connection : ClientConnection} (hlistens : fd ≠ sh.socketfd)
      (henabled : sh.events.registrations (.read fd) = some ⟨udata, true⟩)
      (hmemory : sh.memory udata = some connection) (heof : sh.eof fd = true) :
      EventResult sh fd answers { sh with
        connections := sh.connections.erase udata
        sockets := Function.update sh.sockets fd none
        events := sh.events.remove (.read fd)
        memory := Function.update sh.memory udata none }
  | read {udata number : Nat} {connection : ClientConnection}
      {client : Client} {dispatch : Option Dispatch}
      (hlistens : fd ≠ sh.socketfd)
        (henabled : sh.events.registrations (.read fd) = some ⟨udata, true⟩)
      (hmemory : sh.memory udata = some connection) (hsocket : sh.sockets fd = some number)
      (hhandler : shAcceptHandlerThread answers.listeners (sh.peers number).incoming.pending.length
        ⟨connection.shc, (sh.peers number).incoming, (sh.peers number).outgoing⟩ =
          some (dispatch, client)) :
      EventResult sh fd answers { sh with
        memory := Function.update sh.memory udata (some ⟨fd, client.shc⟩)
        peers := Function.update sh.peers number
          ⟨client.incoming, client.outgoing, (sh.peers number).closed⟩ }

section
variable {sh after : SocketHandle} {fd udata : Nat} {answers : EventAnswers}
  {dispatch : Option Dispatch}

theorem change_of_registered {events : EventQueue Nat} {key : EventKey}
    {registration : Registration Nat}
    (h : events.registrations key = some registration) (udata : Nat) (enabled : Bool) :
    events.change key udata enabled =
      some ⟨Function.update events.registrations key (some ⟨udata, enabled⟩)⟩ := by
  unfold EventQueue.change
  rw [h]

theorem accept_result (hlistens : fd = sh.socketfd)
    (henabled : sh.events.registrations (.read fd) = some ⟨udata, true⟩)
    (h : SocketHandle.shHandlerThread
      { sh with events := ⟨Function.update sh.events.registrations (.read fd) (some ⟨udata, false⟩)⟩ } fd udata answers =
        some (dispatch, after)) : EventResult sh fd answers after := by
  unfold SocketHandle.shHandlerThread at h
  rw [if_pos hlistens] at h
  simp only [Option.bind_eq_bind, Option.bind_eq_some_iff] at h
  obtain ⟨accepted, haccept, last, hreenable, hresult⟩ := h
  cases hresult
  unfold SocketHandle.accept at haccept
  dsimp only at haccept
  split at haccept
  · cases haccept
  · rename_i client backlog hbacklog
    split at haccept
    · cases haccept
    · rename_i hfresh
      rw [not_or, not_or, not_or, Option.not_isSome_iff_eq_none, Option.not_isSome_iff_eq_none]
        at hfresh
      obtain ⟨hother, hclosed, haddress, hunused⟩ := hfresh
      cases haccept
      unfold SocketHandle.reenable at hreenable
      dsimp only at hreenable
      rw [change_of_registered EventQueue.add_self] at hreenable
      cases hreenable
      have hresult :=
        EventResult.accepted hlistens henabled hbacklog hother hclosed haddress hunused
      simpa only [EventQueue.add, Function.update_idem] using hresult

theorem disconnect_result (hlistens : fd ≠ sh.socketfd)
    (henabled : sh.events.registrations (.read fd) = some ⟨udata, true⟩) (heof : sh.eof fd = true)
    (hudata : udata ≠ 0)
    (howned : ∀ connection, sh.memory udata = some connection → connection.clientfd = fd)
    (h : SocketHandle.shHandlerThread
      { sh with events := ⟨Function.update sh.events.registrations (.read fd) (some ⟨udata, false⟩)⟩ } fd udata answers =
        some (dispatch, after)) : EventResult sh fd answers after := by
  unfold SocketHandle.shHandlerThread at h
  have heof' : SocketHandle.eof
      { sh with events := ⟨Function.update sh.events.registrations (.read fd) (some ⟨udata, false⟩)⟩ } fd = true := heof
  rw [if_neg hlistens, if_pos heof', if_neg hudata] at h
  simp only [Option.bind_eq_bind, Option.bind_eq_some_iff] at h
  obtain ⟨left, hleft, last, hreenable, hresult⟩ := h
  cases hresult
  unfold SocketHandle.shDisconnectClient at hleft
  dsimp only at hleft
  split at hleft
  · cases hleft
  · rename_i connection hmemory
    obtain rfl := howned connection hmemory
    cases hleft
    unfold SocketHandle.reenable at hreenable
    have hgone (events : EventQueue Nat) : (events.remove (.read connection.clientfd)).change
        (.read connection.clientfd) udata true = none := by
      rw [← Option.not_isSome_iff_eq_none, EventQueue.change_isSome, EventQueue.remove_self]
      exact Bool.false_ne_true
    have hclosed : ¬(Function.update sh.sockets connection.clientfd
        none connection.clientfd).isSome = true := by
      rw [Function.update_self]
      exact Bool.false_ne_true
    dsimp only at hreenable
    rw [hgone] at hreenable
    dsimp only at hreenable
    rw [if_neg hclosed] at hreenable
    cases hreenable
    have hresult := @EventResult.disconnected sh connection.clientfd
        answers udata connection hlistens henabled hmemory heof
    simpa only [EventQueue.remove, Function.update_idem] using hresult

theorem read_result (hlistens : fd ≠ sh.socketfd)
    (henabled : sh.events.registrations (.read fd) = some ⟨udata, true⟩) (heof : sh.eof fd = false)
    (hudata : udata ≠ 0)
    (howned : ∀ connection, sh.memory udata = some connection → connection.clientfd = fd)
    (h : SocketHandle.shHandlerThread
      { sh with events := ⟨Function.update sh.events.registrations (.read fd) (some ⟨udata, false⟩)⟩ } fd udata answers =
        some (dispatch, after)) : EventResult sh fd answers after := by
  unfold SocketHandle.shHandlerThread at h
  have heof' : ¬SocketHandle.eof
      { sh with events := ⟨Function.update sh.events.registrations (.read fd) (some ⟨udata, false⟩)⟩ } fd = true := by
    rw [Bool.not_eq_true]
    exact heof
  rw [if_neg hlistens, if_neg heof', if_neg hudata] at h
  simp only [Option.bind_eq_bind, Option.bind_eq_some_iff] at h
  obtain ⟨⟨handed, mid⟩, hread, last, hreenable, hresult⟩ := h
  cases hresult
  unfold SocketHandle.shReadClient at hread
  dsimp only at hread
  split at hread
  · cases hread
  · rename_i connection hmemory
    obtain rfl := howned connection hmemory
    split at hread
    · cases hread
    · rename_i number hsocket
      split at hread
      · cases hread
      · rename_i told client hhandler
        cases hread
        unfold SocketHandle.reenable at hreenable
        dsimp only at hreenable
        rw [@change_of_registered _ _ ⟨udata, false⟩ (Function.update_self ..)] at hreenable
        cases hreenable
        have hsame :
            Function.update (Function.update sh.events.registrations (.read connection.clientfd)
            (some ⟨udata, false⟩)) (.read connection.clientfd) (some ⟨udata, true⟩) =
              sh.events.registrations := by
          rw [Function.update_idem, ← henabled, Function.update_eq_self]
        dsimp only
        rw [hsame]
        exact EventResult.read hlistens henabled hmemory hsocket hhandler

theorem shAcceptThread_result (h : sh.shAcceptThread fd answers = some (dispatch, after))
    (howned : ∀ udata, fd ≠ sh.socketfd → sh.events.registrations (.read fd) = some ⟨udata, true⟩ →
      udata ≠ 0 ∧ ∀ connection, sh.memory udata = some connection → connection.clientfd = fd) :
    EventResult sh fd answers after := by
  unfold SocketHandle.shAcceptThread at h
  split at h
  · rename_i udata henabled
    split at h
    · cases h
    · rw [change_of_registered henabled, Option.bind_eq_bind, Option.bind_some] at h
      by_cases hlistens : fd = sh.socketfd
      · exact accept_result hlistens henabled h
      · obtain ⟨hudata, hown⟩ := howned udata hlistens henabled
        cases heof : sh.eof fd with
        | true => exact disconnect_result hlistens henabled heof hudata hown h
        | false => exact read_result hlistens henabled heof hudata hown h
  · cases h

end

end Vmstated.Libsocket
