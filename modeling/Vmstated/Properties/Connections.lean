import Vmstated.Libsocket.AcceptSpec
import Mathlib.Data.List.Range

/-! The connections of the accepting thread, over whole runs. -/
namespace Vmstated.Properties
open Library Libsocket

/-- What is listed, what is allocated, what is registered and what is open
belong together. -/
structure Accounted (sh : SocketHandle) : Prop where
  listening : ∃ enabled, sh.events.registrations (.read sh.socketfd) = some ⟨0, enabled⟩
  nodup : sh.connections.Nodup
  live : ∀ address, address ∈ sh.connections ↔ (sh.memory address).isSome = true
  watched : ∀ address connection, sh.memory address = some connection →
    address ≠ 0 ∧ connection.clientfd ≠ sh.socketfd ∧
      sh.events.registrations (.read connection.clientfd) = some ⟨address, true⟩
  owned : ∀ fd registration, fd ≠ sh.socketfd →
    sh.events.registrations (.read fd) = some registration →
    ∃ connection, sh.memory registration.udata = some connection ∧ connection.clientfd = fd
  opened : ∀ fd, (sh.sockets fd).isSome = true ↔
    fd ≠ sh.socketfd ∧ (sh.events.registrations (.read fd)).isSome = true

section
variable {sh after : SocketHandle} {fd : Nat} {answers : EventAnswers}

theorem accounted_new (socketfd : Nat) : Accounted (shNew socketfd) := by
  have hread : (EventKey.read socketfd) ≠ .user shEvtCmdShutdown := EventKey.noConfusion
  have hnone (fd : Nat) (hfd : fd ≠ socketfd) :
      (shNew socketfd).events.registrations (.read fd) = none := by
    have hkey : EventKey.read fd ≠ .read socketfd := fun h => hfd (EventKey.read.inj h)
    exact (EventQueue.add_other EventKey.noConfusion).trans (EventQueue.add_other hkey)
  constructor
  case listening => exact ⟨true, (EventQueue.add_other hread).trans EventQueue.add_self⟩
  case nodup => exact List.nodup_nil
  case live =>
    intro address
    exact ⟨fun h => absurd h List.not_mem_nil, fun h => absurd h Bool.false_ne_true⟩
  case watched =>
    intro address connection hmemory
    cases hmemory
  case owned =>
    intro fd registration hfd hregistered
    rw [hnone fd hfd] at hregistered
    cases hregistered
  case opened =>
    intro fd
    constructor
    · intro h
      cases h
    · rintro ⟨hfd, h⟩
      rw [hnone fd hfd] at h
      cases h

theorem Accounted.clients (h : Accounted sh) (backlog : List Nat)
    (clients : Nat) (peers : Nat → Peer) :
    Accounted { sh with backlog, clients, peers } :=
  ⟨h.listening, h.nodup, h.live, h.watched, h.owned, h.opened⟩

theorem Accounted.event_owned (h : Accounted sh) :
    ∀ udata, fd ≠ sh.socketfd → sh.events.registrations (.read fd) = some ⟨udata, true⟩ →
      udata ≠ 0 ∧ ∀ connection, sh.memory udata = some connection → connection.clientfd = fd := by
  intro udata hfd henabled
  obtain ⟨connection, hmemory, hclient⟩ := h.owned fd _ hfd henabled
  have hwatched := h.watched _ _ hmemory
  refine ⟨hwatched.1, ?_⟩
  intro other hother
  rw [hmemory] at hother
  cases hother
  exact hclient

theorem accepted_accounted (h : Accounted sh) {udata client : Nat}
    {backlog : List Nat} (hlistens : fd = sh.socketfd)
    (henabled : sh.events.registrations (.read fd) = some ⟨udata, true⟩)
    (hother : answers.clientfd ≠ sh.socketfd) (hclosed : sh.sockets answers.clientfd = none)
    (haddress : answers.address ≠ 0) (hunused : sh.memory answers.address = none) :
    Accounted { sh with
      backlog
      sockets := Function.update sh.sockets answers.clientfd (some client)
      memory := Function.update sh.memory answers.address (some ⟨answers.clientfd, shcNew⟩)
      connections := answers.address :: sh.connections
      events :=
        ⟨Function.update (Function.update sh.events.registrations (.read fd) (some ⟨udata, false⟩))
          (.read answers.clientfd) (some ⟨answers.address, true⟩)⟩ } := by
  subst hlistens
  obtain ⟨enabled, hlistening⟩ := h.listening
  rw [henabled] at hlistening
  cases hlistening
  have hunlisted : answers.address ∉ sh.connections := by
    rw [h.live, hunused]
    exact Bool.false_ne_true
  have hfresh : sh.events.registrations (.read answers.clientfd) = none := by
    rw [← Option.not_isSome_iff_eq_none]
    intro hregistered
    have hopen := (h.opened answers.clientfd).mpr ⟨hother, hregistered⟩
    rw [hclosed] at hopen
    cases hopen
  have hkey : ∀ fd, fd ≠ answers.clientfd → EventKey.read fd ≠ .read answers.clientfd :=
    fun fd hfd heq => hfd (EventKey.read.inj heq)
  have hlisten : ∀ fd, fd ≠ sh.socketfd → EventKey.read fd ≠ .read sh.socketfd :=
    fun fd hfd heq => hfd (EventKey.read.inj heq)
  constructor
  case listening =>
    refine ⟨false, ?_⟩
    dsimp only
    rw [Function.update_of_ne (hkey _ hother.symm), Function.update_self]
  case nodup => exact List.nodup_cons.mpr ⟨hunlisted, h.nodup⟩
  case live =>
    intro address
    dsimp only
    rw [List.mem_cons]
    by_cases haddr : address = answers.address
    · rw [haddr, Function.update_self]
      exact ⟨fun _ => rfl, fun _ => Or.inl rfl⟩
    · rw [Function.update_of_ne haddr, ← h.live, or_iff_right haddr]
  case watched =>
    intro address connection hmemory
    dsimp only at hmemory ⊢
    by_cases haddr : address = answers.address
    · rw [haddr, Function.update_self] at hmemory
      cases hmemory
      rw [haddr]
      exact ⟨haddress, hother, Function.update_self ..⟩
    · rw [Function.update_of_ne haddr] at hmemory
      obtain ⟨hnonzero, hclient, hregistered⟩ := h.watched _ _ hmemory
      have hne : connection.clientfd ≠ answers.clientfd := by
        intro heq
        rw [heq, hfresh] at hregistered
        cases hregistered
      rw [Function.update_of_ne (hkey _ hne), Function.update_of_ne (hlisten _ hclient)]
      exact ⟨hnonzero, hclient, hregistered⟩
  case owned =>
    intro fd registration hfd hregistered
    dsimp only at hregistered hfd ⊢
    by_cases hclient : fd = answers.clientfd
    · rw [hclient, Function.update_self] at hregistered
      cases hregistered
      rw [Function.update_self]
      exact ⟨_, rfl, hclient.symm⟩
    · rw [Function.update_of_ne (hkey _ hclient), Function.update_of_ne (hlisten _ hfd)]
        at hregistered
      obtain ⟨connection, hmemory, howns⟩ := h.owned fd _ hfd hregistered
      have hne : registration.udata ≠ answers.address := by
        intro heq
        rw [heq, hunused] at hmemory
        cases hmemory
      rw [Function.update_of_ne hne]
      exact ⟨connection, hmemory, howns⟩
  case opened =>
    intro fd
    dsimp only
    by_cases hclient : fd = answers.clientfd
    · rw [hclient, Function.update_self, Function.update_self]
      exact ⟨fun _ => ⟨hother, rfl⟩, fun _ => rfl⟩
    · rw [Function.update_of_ne hclient, Function.update_of_ne (hkey _ hclient), h.opened]
      apply and_congr_right
      intro hfd
      rw [Function.update_of_ne (hlisten _ hfd)]

theorem disconnected_accounted (h : Accounted sh) {udata : Nat} (hlistens : fd ≠ sh.socketfd)
    (henabled : sh.events.registrations (.read fd) = some ⟨udata, true⟩) :
    Accounted { sh with
      connections := sh.connections.erase udata
      sockets := Function.update sh.sockets fd none
      events := sh.events.remove (.read fd)
      memory := Function.update sh.memory udata none } := by
  have hkey : ∀ other, other ≠ fd → EventKey.read other ≠ .read fd :=
    fun other hne heq => hne (EventKey.read.inj heq)
  constructor
  case listening =>
    obtain ⟨enabled, hlistening⟩ := h.listening
    exact ⟨enabled, (EventQueue.remove_other (hkey _ hlistens.symm)).trans hlistening⟩
  case nodup => exact h.nodup.erase udata
  case live =>
    intro address
    dsimp only
    rw [h.nodup.mem_erase_iff]
    by_cases haddr : address = udata
    · rw [haddr, Function.update_self]
      exact ⟨fun hmem => absurd rfl hmem.1, fun hsome => absurd hsome Bool.false_ne_true⟩
    · rw [Function.update_of_ne haddr, ← h.live, and_iff_right haddr]
  case watched =>
    intro address connection hmemory
    dsimp only at hmemory ⊢
    by_cases haddr : address = udata
    · rw [haddr, Function.update_self] at hmemory
      cases hmemory
    · rw [Function.update_of_ne haddr] at hmemory
      obtain ⟨hnonzero, hclient, hregistered⟩ := h.watched _ _ hmemory
      have hne : connection.clientfd ≠ fd := by
        intro heq
        rw [heq, henabled] at hregistered
        cases hregistered
        exact haddr rfl
      rw [EventQueue.remove_other (hkey _ hne)]
      exact ⟨hnonzero, hclient, hregistered⟩
  case owned =>
    intro other registration hother hregistered
    dsimp only at hregistered hother ⊢
    by_cases hsame : other = fd
    · rw [hsame, EventQueue.remove_self] at hregistered
      cases hregistered
    · rw [EventQueue.remove_other (hkey _ hsame)] at hregistered
      obtain ⟨connection, hmemory, howns⟩ := h.owned other _ hother hregistered
      have hne : registration.udata ≠ udata := by
        intro heq
        rw [heq] at hmemory
        obtain ⟨mine, hmine, hfd⟩ := h.owned fd _ hlistens henabled
        rw [hmemory] at hmine
        cases hmine
        exact hsame (howns.symm.trans hfd)
      rw [Function.update_of_ne hne]
      exact ⟨connection, hmemory, howns⟩
  case opened =>
    intro other
    dsimp only
    by_cases hsame : other = fd
    · rw [hsame, Function.update_self, EventQueue.remove_self]
      exact ⟨fun hsome => absurd hsome Bool.false_ne_true,
        fun hsome => absurd hsome.2 Bool.false_ne_true⟩
    · rw [Function.update_of_ne hsame, EventQueue.remove_other (hkey _ hsame), h.opened]

theorem read_accounted (h : Accounted sh) {udata : Nat}
    {connection : ClientConnection} {shc : SocketConnection}
    (hlistens : fd ≠ sh.socketfd)
    (henabled : sh.events.registrations (.read fd) = some ⟨udata, true⟩)
    (hmemory : sh.memory udata = some connection) (peers : Nat → Peer) :
    Accounted { sh with memory := Function.update sh.memory udata (some ⟨fd, shc⟩), peers } := by
  constructor
  case listening => exact h.listening
  case nodup => exact h.nodup
  case live =>
    intro address
    dsimp only
    rw [h.live]
    by_cases haddr : address = udata
    · rw [haddr, Function.update_self, hmemory]
      rfl
    · rw [Function.update_of_ne haddr]
  case watched =>
    intro address other hother
    dsimp only at hother ⊢
    by_cases haddr : address = udata
    · rw [haddr, Function.update_self] at hother
      cases hother
      rw [haddr]
      exact ⟨(h.event_owned udata hlistens henabled).1, hlistens, henabled⟩
    · rw [Function.update_of_ne haddr] at hother
      exact h.watched address other hother
  case owned =>
    intro other registration hother hregistered
    obtain ⟨owner, howner, howns⟩ := h.owned other registration hother hregistered
    dsimp only
    by_cases haddr : registration.udata = udata
    · rw [haddr, Function.update_self]
      rw [haddr] at howner
      exact ⟨_, rfl, ((h.event_owned udata hlistens henabled).2 owner howner).symm.trans howns⟩
    · rw [Function.update_of_ne haddr]
      exact ⟨owner, howner, howns⟩
  case opened => exact h.opened

theorem event_accounted (h : Accounted sh) (hresult : EventResult sh fd answers after) :
    Accounted after := by
  cases hresult with
  | accepted hlistens henabled _ hother hclosed haddress hunused =>
    exact accepted_accounted h hlistens henabled hother hclosed haddress hunused
  | disconnected hlistens henabled _ _ => exact disconnected_accounted h hlistens henabled
  | read hlistens henabled hmemory _ _ => exact read_accounted h hlistens henabled hmemory _

theorem accounted_step {op : SocketOp} {dispatch : Option Dispatch} (h : Accounted sh)
    (hstep : acceptThread.step sh op = some (dispatch, after)) : Accounted after := by
  cases op with
  | connect incoming outgoing =>
    cases hstep
    exact h.clients _ _ _
  | send client bytes =>
    simp only [acceptThread, Option.ite_none_left_eq_some] at hstep
    cases hstep.2
    exact h.clients _ _ _
  | close client =>
    simp only [acceptThread, Option.ite_none_left_eq_some] at hstep
    cases hstep.2
    exact h.clients _ _ _
  | event fd answers => exact event_accounted h (shAcceptThread_result hstep h.event_owned)

end

/-- In every state that a run reaches, the connections that are listed are those
whose memory is allocated; each of them is watched under its own address, by the
registration of its descriptor; and no other descriptor is watched or open. No
event leads to memory that was freed, and nothing is lost. -/
theorem connections_accounted {socketfd : Nat}
    {transits : List (Transit SocketHandle SocketOp (Option Dispatch))}
    {sh : SocketHandle} (run : Run acceptThread (shNew socketfd) transits sh) : Accounted sh := by
  induction run with
  | nil => exact accounted_new socketfd
  | snoc _ hstep ih => exact accounted_step ih hstep

def oneClient : List SocketOp :=
  [.connect pages pages, .event 3 ⟨5, 4096, []⟩, .send 0 [66, 72],
    .event 5 ⟨0, 0, []⟩, .close 0, .event 5 ⟨0, 0, []⟩]

theorem connections_accounted_oneClient :
    ∃ transits sh, acceptThread.exec (shNew 3) oneClient = some (transits, sh) ∧ Accounted sh := by
  have hrun : (acceptThread.exec (shNew 3) oneClient).isSome = true := by
    decide +kernel
  obtain ⟨⟨transits, sh⟩, hexec⟩ := Option.isSome_iff_exists.mp hrun
  exact ⟨transits, sh, hexec, connections_accounted (Machine.exec_run hexec)⟩

/-! Which clients are served. -/

/-- The first clients, so many, are accepted, and the rest wait. The listening
descriptor is watched until there is one. -/
structure Waiting (accepted : Nat) (sh : SocketHandle) : Prop where
  once : accepted ≤ 1
  arrived : accepted ≤ sh.clients
  backlog : sh.backlog = List.range' accepted (sh.clients - accepted)
  listening : sh.events.registrations (.read sh.socketfd) = some ⟨0, decide (accepted = 0)⟩
  served : ∀ fd number, sh.sockets fd = some number → number < accepted
  silent : ∀ client, accepted ≤ client → (sh.peers client).outgoing.written = []

section
variable {sh after : SocketHandle} {fd accepted : Nat} {answers : EventAnswers}

theorem waiting_new (socketfd : Nat) : Waiting 0 (shNew socketfd) := by
  have hread : (EventKey.read socketfd) ≠ .user shEvtCmdShutdown := EventKey.noConfusion
  constructor
  case once => exact Nat.zero_le 1
  case arrived => exact Nat.zero_le _
  case backlog => rfl
  case listening => exact (EventQueue.add_other hread).trans EventQueue.add_self
  case served =>
    intro fd number hnumber
    cases hnumber
  case silent =>
    intro client _
    rfl

theorem Waiting.connect (h : Waiting accepted sh) (incoming outgoing : Counts) :
    Waiting accepted { sh with
      backlog := sh.backlog ++ [sh.clients]
      clients := sh.clients + 1
      peers := Function.update sh.peers sh.clients ⟨⟨[], incoming⟩, ⟨[], outgoing⟩, false⟩ } := by
  constructor
  case once => exact h.once
  case arrived => exact Nat.le_succ_of_le h.arrived
  case backlog =>
    have harrived := h.arrived
    have hlast : accepted + 1 * (sh.clients - accepted) = sh.clients := by omega
    have hmore : sh.clients + 1 - accepted = sh.clients - accepted + 1 := by omega
    dsimp only
    rw [h.backlog, hmore, List.range'_concat, hlast]
  case listening => exact h.listening
  case served => exact h.served
  case silent =>
    intro client hclient
    dsimp only
    by_cases hnew : client = sh.clients
    · rw [hnew, Function.update_self]
    · rw [Function.update_of_ne hnew]
      exact h.silent client hclient

theorem Waiting.peer (h : Waiting accepted sh) {client : Nat} {peer : Peer}
    (hpeer : accepted ≤ client → peer.outgoing.written = (sh.peers client).outgoing.written) :
    Waiting accepted { sh with peers := Function.update sh.peers client peer } := by
  refine ⟨h.once, h.arrived, h.backlog, h.listening, h.served, ?_⟩
  intro other hother
  dsimp only
  by_cases hsame : other = client
  · subst hsame
    rw [Function.update_self, hpeer hother]
    exact h.silent other hother
  · rw [Function.update_of_ne hsame]
    exact h.silent other hother

theorem Waiting.event (h : Waiting accepted sh) (hresult : EventResult sh fd answers after) :
    ∃ accepted, Waiting accepted after := by
  have hkey : ∀ {fd other : Nat}, fd ≠ other → EventKey.read fd ≠ .read other :=
    fun hne heq => hne (EventKey.read.inj heq)
  cases hresult with
  | @accepted udata client backlog hlistens henabled hbacklog hother hclosed haddress hunused =>
    subst hlistens
    rw [h.listening] at henabled
    have hzero : accepted = 0 := by
      rw [Option.some.injEq, Registration.mk.injEq] at henabled
      exact of_decide_eq_true henabled.2
    subst hzero
    have hwaits := h.backlog
    rw [hbacklog, Nat.sub_zero] at hwaits
    -- the backlog begins with the first client
    obtain ⟨clients, hclients⟩ : ∃ clients, sh.clients = clients + 1 := by
      cases hcount : sh.clients with
      | zero =>
        rw [hcount] at hwaits
        cases hwaits
      | succ clients => exact ⟨clients, rfl⟩
    rw [hclients, List.range'_succ, List.cons.injEq] at hwaits
    obtain ⟨rfl, rfl⟩ := hwaits
    refine ⟨1, Nat.le_refl 1, ?_, ?_, ?_, ?_, ?_⟩
    · dsimp only
      omega
    · dsimp only
      rw [hclients, Nat.add_sub_cancel]
    · dsimp only
      rw [Function.update_of_ne (hkey hother.symm), Function.update_self]
      cases henabled
      rfl
    · intro fd number hnumber
      dsimp only at hnumber
      by_cases hfd : fd = answers.clientfd
      · rw [hfd, Function.update_self] at hnumber
        cases hnumber
        exact Nat.zero_lt_one
      · rw [Function.update_of_ne hfd] at hnumber
        exact Nat.lt_succ_of_lt (h.served fd number hnumber)
    · intro client _
      exact h.silent client (Nat.zero_le client)
  | disconnected hlistens henabled hmemory heof =>
    refine ⟨accepted, h.once, h.arrived, h.backlog, ?_, ?_, h.silent⟩
    · exact (EventQueue.remove_other (hkey hlistens.symm)).trans h.listening
    · intro other number hnumber
      dsimp only at hnumber
      by_cases hsame : other = fd
      · rw [hsame, Function.update_self] at hnumber
        cases hnumber
      · rw [Function.update_of_ne hsame] at hnumber
        exact h.served other number hnumber
  | @read udata number connection client dispatch hlistens henabled hmemory hsocket hhandler =>
    have hserved := h.served fd number hsocket
    have hpeer := @Waiting.peer sh accepted h number
        ⟨client.incoming, client.outgoing, (sh.peers number).closed⟩
      fun hle => absurd hserved (Nat.not_lt.mpr hle)
    exact ⟨accepted, hpeer.once, hpeer.arrived, hpeer.backlog,
      hpeer.listening, hpeer.served, hpeer.silent⟩

theorem waiting_step {op : SocketOp} {dispatch : Option Dispatch}
    (haccounted : Accounted sh) (h : Waiting accepted sh)
    (hstep : acceptThread.step sh op = some (dispatch, after)) :
    ∃ accepted, Waiting accepted after := by
  cases op with
  | connect incoming outgoing =>
    cases hstep
    exact ⟨accepted, h.connect incoming outgoing⟩
  | send client bytes =>
    simp only [acceptThread, Option.ite_none_left_eq_some] at hstep
    cases hstep.2
    exact ⟨accepted, h.peer fun _ => rfl⟩
  | close client =>
    simp only [acceptThread, Option.ite_none_left_eq_some] at hstep
    cases hstep.2
    exact ⟨accepted, h.peer fun _ => rfl⟩
  | event fd answers =>
    exact h.event (shAcceptThread_result hstep haccounted.event_owned)

theorem run_waiting {socketfd : Nat}
    {transits : List (Transit SocketHandle SocketOp (Option Dispatch))}
    (run : Run acceptThread (shNew socketfd) transits sh) :
    Accounted sh ∧ ∃ accepted, Waiting accepted sh := by
  induction run with
  | nil => exact ⟨accounted_new socketfd, 0, waiting_new socketfd⟩
  | snoc _ hstep ih =>
    obtain ⟨haccounted, accepted, hwaiting⟩ := ih
    exact ⟨accounted_step haccounted hstep, waiting_step haccounted hwaiting hstep⟩

end

/-- The registration of the listening descriptor is disabled for its first event,
and what the handler of that event enables is the registration of the new
client. So the thread accepts one client: all that come later are left in the
backlog, without an answer, also when the first is gone. -/
theorem later_clients_wait {socketfd : Nat}
    {transits : List (Transit SocketHandle SocketOp (Option Dispatch))}
    {sh : SocketHandle} (run : Run acceptThread (shNew socketfd) transits sh) :
    ∀ client, 0 < client → client < sh.clients →
      client ∈ sh.backlog ∧ (∀ fd, sh.sockets fd ≠ some client) ∧
        (sh.peers client).outgoing.written = [] := by
  obtain ⟨_, accepted, hwaiting⟩ := run_waiting run
  have honce := hwaiting.once
  intro client hpos hlt
  have hle : accepted ≤ client := by omega
  refine ⟨?_, ?_, hwaiting.silent client hle⟩
  · rw [hwaiting.backlog, List.mem_range'_1]
    omega
  · intro fd hsocket
    have hserved := hwaiting.served fd client hsocket
    omega

theorem later_clients_wait_twoClients : ∃ transits sh,
    acceptThread.exec (shNew 3) (oneClient ++ [.connect pages pages]) = some (transits, sh) ∧
      1 ∈ sh.backlog ∧ (∀ fd, sh.sockets fd ≠ some 1) ∧ (sh.peers 1).outgoing.written = [] := by
  have hrun : (acceptThread.exec (shNew 3) (oneClient ++ [.connect pages pages])).any
      (fun run => decide (1 < run.2.clients)) = true := by
    decide +kernel
  obtain ⟨⟨transits, sh⟩, hexec, hclients⟩ := (Option.any_eq_true _ _).mp hrun
  exact ⟨transits, sh, hexec,
    later_clients_wait (Machine.exec_run hexec) 1 Nat.one_pos (of_decide_eq_true hclients)⟩

end Vmstated.Properties
