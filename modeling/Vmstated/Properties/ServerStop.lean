import Vmstated.Libsocket.ServerStop
import Vmstated.Properties.Connections

/-! The server is told to stop, and freed. -/
namespace Vmstated.Properties
open Library Libsocket

/-- Nothing is listed, allocated, watched or open any more. -/
structure Closed (sh : SocketHandle) : Prop where
  connections : sh.connections = []
  memory : ∀ address, sh.memory address = none
  sockets : ∀ fd, sh.sockets fd = none
  events : ∀ key, sh.events.registrations key = none

/-- The state that goes with a place of the accepting thread. -/
def Suits (state : ServerState) : AcceptPc → Prop
  | .absent => state = .ready
  | .entry => state = .started
  | .looping => state = .running ∨ state = .stopping
  | .leaving => state = .stopping
  | .draining | .ended | .crashed => state = .stopped

/-- The invariant of the server. -/
structure Serving (server : Server) : Prop where
  accounted : server.owner ≠ .released → Accounted server.sh
  nonzero : server.owner ≠ .released → ∀ address connection,
    server.sh.memory address = some connection → connection.clientfd ≠ 0
  stoppable : server.owner ≠ .released → server.thread = .absent ∨
    server.thread = .entry ∨ server.thread = .looping →
    ∃ udata, server.sh.events.registrations (.user shEvtCmdShutdown) = some ⟨udata, true⟩
  suits : Suits server.state server.thread
  told : server.triggered = true ↔ server.state = .stopping ∨ server.state = .stopped
  heard : server.owner = .starting true false → server.thread = .entry
  absent : ∀ woken, server.owner = .starting false woken → server.thread = .absent
  joining : server.owner = .joining → server.triggered = true
  released : server.owner = .released → Closed server.sh ∧ server.bound = false

/-! The connections are closed one by one. -/

section
variable {sh after : SocketHandle}

theorem freeConnections_spec {addresses : List Nat} (hlisted : sh.connections = addresses)
    (hnodup : addresses.Nodup) (hlive : ∀ address ∈ addresses, (sh.memory address).isSome = true)
    (hnonzero : ∀ address connection, sh.memory address = some connection →
      connection.clientfd ≠ 0) :
    ∃ after, SocketHandle.freeConnections addresses sh = some after ∧ after.connections = [] ∧
      (∀ address, (after.memory address).isSome = true →
        (sh.memory address).isSome = true ∧ address ∉ addresses) ∧
      ∀ fd, (after.sockets fd).isSome = true → (sh.sockets fd).isSome = true ∧
        ∀ address ∈ addresses, ∀ connection, sh.memory address = some connection →
          connection.clientfd ≠ fd := by
  induction addresses generalizing sh with
  | nil =>
    refine ⟨sh, rfl, hlisted, ?_, ?_⟩
    · intro address hsome
      exact ⟨hsome, List.not_mem_nil⟩
    · intro fd hsome
      exact ⟨hsome, fun address haddress => absurd haddress List.not_mem_nil⟩
  | cons address rest ih =>
    obtain ⟨hnew, hrest⟩ := List.nodup_cons.mp hnodup
    rw [List.forall_mem_cons] at hlive
    obtain ⟨connection, hconnection⟩ := Option.isSome_iff_exists.mp hlive.1
    have hfirst : SocketHandle.shcFree address { sh with connections := rest } = some { sh with
        connections := rest
        sockets := Function.update sh.sockets connection.clientfd none
        events := sh.events.remove (.read connection.clientfd)
        memory := Function.update sh.memory address none } := by
      unfold SocketHandle.shcFree
      dsimp only
      rw [hconnection]
      dsimp only
      rw [if_neg (hnonzero address connection hconnection)]
    have hne : ∀ other ∈ rest, other ≠ address := fun other hother hsame => hnew (hsame ▸ hother)
    obtain ⟨after, hafter, hnone, hmemory, hsockets⟩ := @ih { sh with
        connections := rest
        sockets := Function.update sh.sockets connection.clientfd none
        events := sh.events.remove (.read connection.clientfd)
        memory := Function.update sh.memory address none } rfl hrest (by
      intro other hother
      dsimp only
      rw [Function.update_of_ne (hne other hother)]
      exact hlive.2 other hother) (by
      intro other found hfound
      dsimp only at hfound
      by_cases hother : other = address
      · rw [hother, Function.update_self] at hfound
        cases hfound
      · rw [Function.update_of_ne hother] at hfound
        exact hnonzero other found hfound)
    refine ⟨after, ?_, hnone, ?_, ?_⟩
    · rw [SocketHandle.freeConnections, hfirst, Option.bind_some]
      exact hafter
    · intro other hsome
      obtain ⟨hkept, hunlisted⟩ := hmemory other hsome
      dsimp only at hkept
      by_cases hother : other = address
      · rw [hother, Function.update_self] at hkept
        cases hkept
      · rw [Function.update_of_ne hother] at hkept
        rw [List.mem_cons, not_or]
        exact ⟨hkept, hother, hunlisted⟩
    · intro fd hsome
      obtain ⟨hkept, hothers⟩ := hsockets fd hsome
      dsimp only at hkept hothers
      by_cases hfd : fd = connection.clientfd
      · rw [hfd, Function.update_self] at hkept
        cases hkept
      · rw [Function.update_of_ne hfd] at hkept
        refine ⟨hkept, ?_⟩
        intro other hother found hfound
        rcases List.mem_cons.mp hother with rfl | hlater
        · rw [hconnection] at hfound
          cases hfound
          exact fun hsame => hfd hsame.symm
        · apply hothers other hlater found
          rw [Function.update_of_ne (hne other hlater)]
          exact hfound

theorem shFree_closes (haccounted : Accounted sh)
    (hnonzero : ∀ address connection, sh.memory address = some connection →
      connection.clientfd ≠ 0) :
    ∃ after, sh.shFree = some after ∧ Closed after := by
  obtain ⟨after, hfree, hnone, hmemory, hsockets⟩ :=
    @freeConnections_spec sh sh.connections rfl haccounted.nodup
      (fun address haddress => (haccounted.live address).mp haddress) hnonzero
  refine ⟨{ after with backlog := [], events := .new }, ?_, hnone, ?_, ?_, ?_⟩
  · rw [SocketHandle.shFree, hfree, Option.map_some]
  · intro address
    rw [← Option.not_isSome_iff_eq_none]
    intro hsome
    obtain ⟨hlive, hunlisted⟩ := hmemory address hsome
    exact hunlisted ((haccounted.live address).mpr hlive)
  · intro fd
    rw [← Option.not_isSome_iff_eq_none]
    intro hsome
    obtain ⟨hopen, hothers⟩ := hsockets fd hsome
    obtain ⟨hclient, hregistered⟩ := (haccounted.opened fd).mp hopen
    obtain ⟨registration, hregistration⟩ := Option.isSome_iff_exists.mp hregistered
    obtain ⟨connection, hconnection, hfd⟩ := haccounted.owned fd registration hclient hregistration
    have hlisted : registration.udata ∈ sh.connections :=
      (haccounted.live _).mpr (by rw [hconnection]; rfl)
    exact hothers _ hlisted connection hconnection hfd
  · intro key
    rfl

theorem user_kept {op : SocketOp} {dispatch : Option Dispatch} (haccounted : Accounted sh)
    (hstep : acceptThread.step sh op = some (dispatch, after)) (ident : Nat) :
    after.events.registrations (.user ident) = sh.events.registrations (.user ident) := by
  have hkey : ∀ fd, EventKey.user ident ≠ .read fd := fun fd => EventKey.noConfusion
  cases op with
  | connect incoming outgoing =>
    cases hstep
    rfl
  | send client bytes =>
    simp only [acceptThread, Option.ite_none_left_eq_some] at hstep
    cases hstep.2
    rfl
  | close client =>
    simp only [acceptThread, Option.ite_none_left_eq_some] at hstep
    cases hstep.2
    rfl
  | event fd answers =>
    cases shAcceptThread_result hstep haccounted.event_owned with
    | accepted _ _ _ _ _ _ _ =>
      dsimp only
      rw [Function.update_of_ne (hkey _), Function.update_of_ne (hkey _)]
    | disconnected _ _ _ _ => exact EventQueue.remove_other (hkey _)
    | read _ _ _ _ _ => rfl

theorem nonzero_kept {op : SocketOp} {dispatch : Option Dispatch} (haccounted : Accounted sh)
    (hclientfd : ∀ fd answers, op = .event fd answers → fd = sh.socketfd → answers.clientfd ≠ 0)
    (hstep : acceptThread.step sh op = some (dispatch, after))
    (hnonzero : ∀ address connection, sh.memory address = some connection → connection.clientfd ≠ 0)
    (address : Nat) (connection : ClientConnection)
    (hmemory : after.memory address = some connection) :
    connection.clientfd ≠ 0 := by
  cases op with
  | connect incoming outgoing =>
    cases hstep
    exact hnonzero address connection hmemory
  | send client bytes =>
    simp only [acceptThread, Option.ite_none_left_eq_some] at hstep
    cases hstep.2
    exact hnonzero address connection hmemory
  | close client =>
    simp only [acceptThread, Option.ite_none_left_eq_some] at hstep
    cases hstep.2
    exact hnonzero address connection hmemory
  | event fd answers =>
    cases shAcceptThread_result hstep haccounted.event_owned with
    | accepted hlistens _ _ _ _ _ _ =>
      dsimp only at hmemory
      by_cases haddress : address = answers.address
      · rw [haddress, Function.update_self] at hmemory
        cases hmemory
        exact hclientfd fd answers rfl hlistens
      · rw [Function.update_of_ne haddress] at hmemory
        exact hnonzero address connection hmemory
    | @disconnected udata _ _ _ _ _ =>
      dsimp only at hmemory
      by_cases haddress : address = udata
      · rw [haddress, Function.update_self] at hmemory
        cases hmemory
      · rw [Function.update_of_ne haddress] at hmemory
        exact hnonzero address connection hmemory
    | @read udata _ earlier _ _ hlistens henabled hfound _ _ =>
      dsimp only at hmemory
      by_cases haddress : address = udata
      · rw [haddress, Function.update_self] at hmemory
        cases hmemory
        obtain ⟨-, howned⟩ := haccounted.event_owned udata hlistens henabled
        rw [← howned earlier hfound]
        exact hnonzero udata earlier hfound
      · rw [Function.update_of_ne haddress] at hmemory
        exact hnonzero address connection hmemory

theorem Accounted.watching (h : Accounted sh) {events : EventQueue Nat}
    (hreads : ∀ fd, events.registrations (.read fd) = sh.events.registrations (.read fd)) :
    Accounted { sh with events } := by
  constructor
  case listening =>
    obtain ⟨enabled, hlistening⟩ := h.listening
    exact ⟨enabled, (hreads _).trans hlistening⟩
  case nodup => exact h.nodup
  case live => exact h.live
  case watched =>
    intro address connection hmemory
    dsimp only
    rw [hreads]
    exact h.watched address connection hmemory
  case owned =>
    intro fd registration hfd hregistered
    dsimp only at hregistered
    rw [hreads] at hregistered
    exact h.owned fd registration hfd hregistered
  case opened =>
    intro fd
    dsimp only
    rw [hreads]
    exact h.opened fd

end

/-! The invariant. -/

section
variable {server after : Server}

theorem serving_new (socketfd : Nat) : Serving (serverNew socketfd) where
  accounted _ := accounted_new socketfd
  nonzero _ address connection hmemory := absurd hmemory (Option.some_ne_none connection).symm
  stoppable _ _ := ⟨0, EventQueue.add_self⟩
  suits := rfl
  told := by simp [serverNew]
  heard howner := OwnerPc.noConfusion howner
  absent _ howner := OwnerPc.noConfusion howner
  joining howner := OwnerPc.noConfusion howner
  released howner := OwnerPc.noConfusion howner

theorem signal_ne (owner : OwnerPc) (created : Bool) : owner.signal ≠ .starting created false := by
  cases owner <;> simp [OwnerPc.signal]

theorem signal_eq_joining {owner : OwnerPc} : owner.signal = .joining ↔ owner = .joining := by
  cases owner <;> simp [OwnerPc.signal]

theorem signal_eq_released {owner : OwnerPc} : owner.signal = .released ↔ owner = .released := by
  cases owner <;> simp [OwnerPc.signal]

theorem signal_eq_starting {owner : OwnerPc} {created woken : Bool}
    (h : owner.signal = .starting created woken) :
    ∃ woken, owner = .starting created woken := by
  cases owner <;> simp_all [OwnerPc.signal]

theorem Serving.created (h : Serving server) (hthread : server.thread ≠ .absent) (woken : Bool) :
    server.owner ≠ .starting false woken := fun howner => hthread (h.absent woken howner)

theorem Serving.ready (h : Serving server) (hstate : server.state = .ready) :
    server.thread = .absent := by
  have hsuits := h.suits
  rw [hstate] at hsuits
  cases hthread : server.thread <;> simp [Suits, hthread] at hsuits ⊢

theorem Serving.owner_moves (h : Serving server) {owner : OwnerPc}
    (houtside : server.owner ≠ .released)
    (hnext : owner ≠ .released) (hheard : owner = .starting true false → server.thread = .entry)
    (habsent : ∀ woken, owner = .starting false woken → server.thread = .absent)
    (hjoining : owner = .joining → server.triggered = true) : Serving { server with owner } where
  accounted _ := h.accounted houtside
  nonzero _ := h.nonzero houtside
  stoppable _ := h.stoppable houtside
  suits := h.suits
  told := h.told
  heard := hheard
  absent := habsent
  joining := hjoining
  released hreleased := absurd hreleased hnext

theorem Serving.thread_moves (h : Serving server) {state : ServerState} {thread : AcceptPc}
    (hthread : server.thread = .leaving ∨ server.thread = .draining)
    (hnext : thread = .draining ∨ thread = .ended ∨ thread = .crashed) (hstate : state = .stopped) :
    Serving { server with state, thread } := by
  have htold : server.triggered = true := by
    have hsuits := h.suits
    rw [h.told]
    rcases hthread with hthread | hthread <;> rw [hthread] at hsuits
    · exact .inl hsuits
    · exact .inr hsuits
  constructor
  case accounted => exact h.accounted
  case nonzero => exact h.nonzero
  case stoppable =>
    intro _ hearly
    rcases hnext with rfl | rfl | rfl <;> simp at hearly
  case suits => rcases hnext with rfl | rfl | rfl <;> exact hstate
  case told => exact iff_of_true htold (.inr hstate)
  case heard =>
    intro howner
    have hentry := h.heard howner
    rcases hthread with hthread | hthread <;> simp [hthread] at hentry
  case absent =>
    intro woken howner
    exact absurd howner
      (h.created (by rcases hthread with hthread | hthread <;> simp [hthread]) woken)
  case joining => exact h.joining
  case released => exact h.released

theorem Serving.sockets_move (h : Serving server) {op : SocketOp}
    {dispatch : Option Dispatch} {sh : SocketHandle} (hunreleased : server.owner ≠ .released)
    (hclientfd : ∀ fd answers, op = .event fd answers → fd = server.sh.socketfd →
      answers.clientfd ≠ 0)
    (hmoved : acceptThread.step server.sh op = some (dispatch, sh)) (sct : Bool) :
    Serving { server with sh, sct } := by
  have haccounted := h.accounted hunreleased
  constructor
  case accounted => exact fun _ => accounted_step haccounted hmoved
  case nonzero => exact fun _ => nonzero_kept haccounted hclientfd hmoved (h.nonzero hunreleased)
  case stoppable =>
    intro _ hearly
    rw [user_kept haccounted hmoved]
    exact h.stoppable hunreleased hearly
  case suits => exact h.suits
  case told => exact h.told
  case heard => exact h.heard
  case absent => exact h.absent
  case joining => exact h.joining
  case released => exact fun hreleased => absurd hreleased hunreleased

theorem Serving.event_unreleased (h : Serving server) {fd : Nat} {answers : EventAnswers}
    (hevent : acceptThread.step server.sh (.event fd answers) ≠ none) :
    server.owner ≠ .released := by
  intro hreleased
  obtain ⟨hclosed, _⟩ := h.released hreleased
  apply hevent
  simp only [acceptThread, SocketHandle.shAcceptThread, hclosed.events]

theorem Serving.starts (h : Serving server) (howner : server.owner = .outside)
    (hstate : server.state = .ready) :
    Serving { server with state := .started, thread := .entry, owner := .starting true false } := by
  have houtside : server.owner ≠ .released := by simp [howner]
  have htold := h.told
  simp [hstate] at htold
  constructor
  case accounted => exact fun _ => h.accounted houtside
  case nonzero => exact fun _ => h.nonzero houtside
  case stoppable => exact fun _ _ => h.stoppable houtside (.inl (h.ready hstate))
  case suits => rfl
  case told => simp [htold]
  all_goals simp

theorem Serving.runs (h : Serving server) (hthread : server.thread = .entry) :
    Serving
      { server with state := .running, thread := .looping, owner := server.owner.signal } := by
  have hstate := h.suits
  rw [hthread] at hstate
  have htold := h.told
  rw [hstate] at htold
  have hunreleased (howner : server.owner.signal ≠ .released) : server.owner ≠ .released :=
    fun hreleased => howner (signal_eq_released.mpr hreleased)
  constructor
  case accounted => exact fun howner => h.accounted (hunreleased howner)
  case nonzero => exact fun howner => h.nonzero (hunreleased howner)
  case stoppable => exact fun howner _ => h.stoppable (hunreleased howner) (.inr (.inl hthread))
  case suits => exact .inl rfl
  case told => simpa using htold
  case heard => exact fun howner => absurd howner (signal_ne server.owner true)
  case absent =>
    intro woken howner
    obtain ⟨pending, hpending⟩ := signal_eq_starting howner
    exact absurd hpending (h.created (by simp [hthread]) pending)
  case joining => exact fun howner => h.joining (signal_eq_joining.mp howner)
  case released => exact fun howner => h.released (signal_eq_released.mp howner)

theorem Serving.stops (h : Serving server) (howner : server.owner = .outside)
    (hstate : server.state = .running) :
    Serving { server with state := .stopping, triggered := true, owner := .joining } := by
  have houtside : server.owner ≠ .released := by simp [howner]
  have hsuits := h.suits
  rw [hstate] at hsuits
  constructor
  case accounted => exact fun _ => h.accounted houtside
  case nonzero => exact fun _ => h.nonzero houtside
  case stoppable => exact fun _ => h.stoppable houtside
  case suits => cases hthread : server.thread <;> simp [Suits, hthread] at hsuits ⊢
  case told => simp
  all_goals simp

theorem Serving.leaves (h : Serving server) {udata : Nat} {events : EventQueue Nat}
    (htriggered : server.triggered = true) (hthread : server.thread = .looping)
    (hevents : server.sh.events.change (.user shEvtCmdShutdown) udata false = some events) :
    Serving { server with sh := { server.sh with events }, thread := .leaving } := by
  have hstate : server.state = .stopping := by
    have hsuits := h.suits
    rw [hthread] at hsuits
    rcases hsuits with hrunning | hstopping
    · simpa [hrunning] using h.told.mp htriggered
    · exact hstopping
  have hreads : ∀ fd, events.registrations (.read fd) = server.sh.events.registrations (.read fd) :=
    fun fd =>
      EventQueue.change_other hevents EventKey.noConfusion
  constructor
  case accounted => exact fun howner => (h.accounted howner).watching hreads
  case nonzero => exact h.nonzero
  case stoppable => simp
  case suits => exact hstate
  case told => exact h.told
  case heard =>
    intro howner
    have hentry := h.heard howner
    simp [hthread] at hentry
  case absent => exact fun woken howner => absurd howner (h.created (by simp [hthread]) woken)
  case joining => exact h.joining
  case released =>
    intro hreleased
    obtain ⟨hclosed, _⟩ := h.released hreleased
    simp [EventQueue.change, hclosed.events] at hevents

theorem Serving.frees (h : Serving server) {sh : SocketHandle} (howner : server.owner = .outside)
    (hfree : server.sh.shFree = some sh) :
    Serving { server with sh, owner := .released, bound := false } := by
  have houtside : server.owner ≠ .released := by simp [howner]
  obtain ⟨closed, hclosed, hempty⟩ := shFree_closes (h.accounted houtside) (h.nonzero houtside)
  rw [hfree] at hclosed
  cases hclosed
  exact ⟨by simp, by simp, by simp, h.suits, h.told, by simp, by simp, by simp, fun _ => ⟨hempty, rfl⟩⟩

theorem serving_step {op : ServerOp} (h : Serving server) (hstep : ServerStep server op after) :
    Serving after := by
  cases hstep with
  | refused _ => exact h
  | started howner hstate => exact h.starts howner hstate
  | uncreated howner hstate =>
    exact h.owner_moves (by simp [howner]) (by simp) (by simp) (fun _ _ => h.ready hstate) (by simp)
  | @spurious created woken howner =>
    refine h.owner_moves (by simp [howner]) (by simp) (by simp) ?_ (by simp)
    intro pending hpending
    cases hpending
    exact h.absent woken howner
  | woken howner => exact h.owner_moves (by simp [howner]) (by simp) (by simp) (by simp) (by simp)
  | running hthread => exact h.runs hthread
  | stopped hthread => exact h.thread_moves (.inl hthread) (.inl rfl) rfl
  | drained hthread =>
    have hstate := h.suits
    rw [hthread] at hstate
    refine h.thread_moves (.inr hthread) ?_ hstate
    split <;> simp
  | event _ hclientfd hevent =>
    have hunreleased := h.event_unreleased (by rw [hevent]; exact Option.some_ne_none _)
    refine h.sockets_move hunreleased ?_ hevent true
    intro fd answers hsame
    cases hsame
    exact hclientfd
  | client howner hop hclient =>
    exact h.sockets_move howner
      (fun fd answers hsame => absurd hsame (hop fd answers)) hclient server.sct
  | stopping howner hstate => exact h.stops howner hstate
  | leaving htriggered hthread hevents => exact h.leaves htriggered hthread hevents
  | joined howner _ =>
    exact h.owner_moves (by simp [howner]) (by simp) (by simp) (by simp) (by simp)
  | freed howner _ hfree => exact h.frees howner hfree

end

def EventHandled (transits : List (Transit Server ServerOp Int)) : Prop :=
  ∃ x ∈ transits, ∃ fd answers, x.input = .socket (.event fd answers)

theorem handled_snoc {transits : List (Transit Server ServerOp Int)}
    {x : Transit Server ServerOp Int} :
    EventHandled (transits ++ [x]) ↔ EventHandled transits ∨ ∃ fd answers,
      x.input = .socket (.event fd answers) := by
  simp [EventHandled, or_and_right, exists_or]

/-- What the thread has in `sct`, and what it does with it in the end. -/
structure KeepsSct (transits : List (Transit Server ServerOp Int)) (server : Server) : Prop where
  handled : server.sct = true ↔ EventHandled transits
  ended : server.thread = .ended → server.sct = true ∧
    ServerOp.drain true ∈ transits.map Transit.input
  crashed : server.thread = .crashed → server.sct = false ∨
    ServerOp.drain false ∈ transits.map Transit.input

section
variable {server after : Server} {transits : List (Transit Server ServerOp Int)}

theorem keepsSct_step {op : ServerOp} {output : Int} (h : KeepsSct transits server)
    (hstep : serverMachine.step server op = some (output, after)) :
    KeepsSct (transits ++ [⟨server, op, output, after⟩]) after := by
  obtain ⟨halive, hresult⟩ := serverMachine_step hstep
  have hinputs : (transits ++ [(⟨server, op, output, after⟩ : Transit Server ServerOp Int)]).map
      Transit.input = transits.map Transit.input ++ [op] := List.map_append
  have hquiet (hop : ∀ fd answers, op ≠ .socket (.event fd answers)) :
      server.sct = true ↔ EventHandled (transits ++ [⟨server, op, output, after⟩]) := by
    rw [handled_snoc, or_iff_left, h.handled]
    rintro ⟨fd, answers, hinput⟩
    exact hop fd answers hinput
  have hended (hthread : server.thread = .ended) :
      server.sct = true ∧ ServerOp.drain true ∈
        (transits ++ [(⟨server, op, output, after⟩ : Transit Server ServerOp Int)]).map
          Transit.input := by
    rw [hinputs]
    exact ⟨(h.ended hthread).1, List.mem_append_left _ (h.ended hthread).2⟩
  have hcrashed (hthread : server.thread = .crashed) : server.sct = false ∨
      ServerOp.drain false ∈
        (transits ++ [(⟨server, op, output, after⟩ : Transit Server ServerOp Int)]).map
        Transit.input := absurd hthread halive
  cases hresult with
  | refused hop => exact ⟨hquiet fun fd answers => hop (.event fd answers), hended, hcrashed⟩
  | event hthread _ hevent =>
    constructor
    case handled =>
      rw [handled_snoc]
      exact iff_of_true rfl (.inr ⟨_, _, rfl⟩)
    all_goals simp [hthread]
  | client _ hop _ =>
    exact ⟨hquiet fun fd answers hsame => hop fd answers (ServerOp.socket.inj hsame),
      hended, hcrashed⟩
  | @drained intact hthread =>
    have hlast : ServerOp.drain intact ∈ transits.map Transit.input ++ [ServerOp.drain intact] :=
      List.mem_append_right _ List.mem_cons_self
    rw [← hinputs] at hlast
    constructor
    case handled => exact hquiet (by simp)
    case ended =>
      intro hended
      dsimp only at hended
      split at hended
      · rename_i hgood
        rw [Bool.and_eq_true] at hgood
        obtain ⟨hsct, rfl⟩ := hgood
        exact ⟨hsct, hlast⟩
      · cases hended
    case crashed =>
      intro hcrashed
      dsimp only at hcrashed
      split at hcrashed
      · cases hcrashed
      · rename_i hbad
        cases intact with
        | false => exact .inr hlast
        | true =>
          rw [Bool.and_true, Bool.not_eq_true] at hbad
          exact .inl hbad
  | spurious _ | woken _ | stopping _ _ | joined _ _ | freed _ _ _ | uncreated _ _ =>
    exact ⟨hquiet (by simp), hended, hcrashed⟩
  | started _ _ | running _ | stopped _ | leaving _ _ _ =>
    exact ⟨hquiet (by simp), by simp, by simp⟩

theorem run_serving {socketfd : Nat}
    (run : Run serverMachine (serverNew socketfd) transits server) :
    Serving server ∧ KeepsSct transits server := by
  induction run with
  | nil =>
    refine ⟨serving_new socketfd, ?_, ?_, ?_⟩
    · simp [serverNew, EventHandled]
    · exact fun hthread => AcceptPc.noConfusion hthread
    · exact fun hthread => AcceptPc.noConfusion hthread
  | snoc _ hstep ih =>
    obtain ⟨hserving, hkeeps⟩ := ih
    exact ⟨serving_step hserving (serverMachine_step hstep).2, keepsSct_step hkeeps hstep⟩

/-- There is nobody to wake it. -/
theorem uncreated_step {op : ServerOp} (h : Serving server)
    (howner : server.owner = .starting false false)
    (hop : op ≠ .spurious) (hstep : ServerStep server op after) : after.owner = .starting false false := by
  have hthread := h.absent false howner
  cases hstep with
  | spurious _ => exact absurd rfl hop
  | running hentry =>
    rw [hthread] at hentry
    cases hentry
  | started houtside _ | uncreated houtside _ | stopping houtside _ | woken houtside | joined houtside _
  | freed houtside _ _ => simp [howner] at houtside
  | refused _ | stopped _ | drained _ | event _ _ _ | client _ _ _ | leaving _ _ _ => exact howner

theorem run_uncreated {last : Server} {later : List (Transit Server ServerOp Int)}
    (h : Serving server)
    (howner : server.owner = .starting false false) (run : Run serverMachine server later last)
    (hlater : ∀ x ∈ later, x.input ≠ .spurious) :
    Serving last ∧ last.owner = .starting false false := by
  induction run with
  | nil => exact ⟨h, howner⟩
  | snoc _ hstep ih =>
    obtain ⟨hserving, hwaits⟩ := ih fun x hx => hlater x (List.mem_append_left _ hx)
    have hresult := (serverMachine_step hstep).2
    have hop := hlater _ (List.mem_append_right _ List.mem_cons_self)
    exact ⟨serving_step hserving hresult, uncreated_step hserving hwaits hop hresult⟩

theorem Serving.joined (h : Serving server) (howner : server.owner = .joining) :
    server.thread = .looping ∧ server.shutdown.isSome = true ∨
      server.thread = .leaving ∨ server.thread = .draining ∨
      server.thread = .ended ∨ server.thread = .crashed := by
  have htriggered := h.joining howner
  have hstate := h.told.mp htriggered
  have hsuits := h.suits
  cases hthread : server.thread with
  | absent | entry =>
    rw [hthread] at hsuits
    simp [Suits] at hsuits
    simp [hsuits] at hstate
  | looping =>
    obtain ⟨udata, huser⟩ := h.stoppable (by simp [howner]) (.inr (.inr hthread))
    refine Or.inl ⟨rfl, ?_⟩
    unfold Server.shutdown
    rw [huser]
    dsimp only
    rw [if_pos ⟨htriggered, hthread⟩, Option.isSome_map, EventQueue.change_isSome, huser]
    rfl
  | leaving | draining | ended | crashed => simp

end

def idleServer : List ServerOp :=
  [.shStart true, .thread, .wake, .shStop, .shutdown, .thread, .drain true]

/-- The same with a client. The thread is created in the second attempt, after the
first has ended for no reason. -/
def servingOnce : List ServerOp :=
  [.shStart false, .spurious, .wake, .shStart true, .thread, .wake, .socket (.connect pages pages),
    .socket (.event 3 ⟨5, 4096, []⟩), .shStop, .shutdown, .thread, .drain true, .join, .shFree]

example : ((serverMachine.exec (serverNew 3) idleServer).map fun run => run.2.thread) =
    some .crashed := by
  decide +kernel

end Vmstated.Properties
