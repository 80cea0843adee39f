import Vmstated.Liblogging.Redirects

/-! What the memory, the descriptors, the registrations and the lists of the log
director have to do with each other. -/
namespace Vmstated.Liblogging
open Library

def LogDirector.Made (ld : LogDirector) : LogFile → Prop
  | .readEnd pipe => pipe < ld.pipes
  | .writeEnd pipe => pipe < ld.pipes
  | .log number => number < ld.opened
  | .other => True

structure Owned (ld : LogDirector) (address : Nat) (client : RedirectorClient)
    (pipe : Nat) : Prop where
  reads : ld.fdOpened client.readfd = some (.readEnd pipe)
  writes : client.thisAccepted = false → ld.fdOpened client.writefd = some (.writeEnd pipe)
  unclosed : client.closed = false
  watched : ld.events.registrations (.read client.readfd) = some ⟨address, true⟩

structure Redirected (ld : LogDirector) : Prop where
  alive : (ld.processes.tables.lookup daemon).isSome = true
  unstoppable : ld.events.registrations (.user 0) = none
  made : ∀ pid fd opened, ld.processes.opened pid fd = some opened → ld.Made opened.file
  single : ∀ fd fd' pipe, ld.fdOpened fd = some (.readEnd pipe) →
    ld.fdOpened fd' = some (.readEnd pipe) → fd = fd'
  owned : ∀ address client, ld.clients address = some client → ∃ pipe, Owned ld address client pipe
  read : ∀ fd pipe, ld.fdOpened fd = some (.readEnd pipe) →
    ∃ address client, ld.clients address = some client ∧ client.readfd = fd
  written : ∀ fd pipe, ld.fdOpened fd = some (.writeEnd pipe) →
    ∃ address client, ld.clients address = some client ∧ client.writefd = fd ∧
      client.thisAccepted = false
  watched : ∀ fd registration, ld.events.registrations (.read fd) = some registration →
    ∃ client, ld.clients registration.udata = some client ∧ client.readfd = fd
  listed : ∀ address client, ld.clients address = some client →
    (ld.redirectors client.ldr).isSome = true
  lists : ∀ ldr redirector, ld.redirectors ldr = some redirector →
    ∃ items, redirector.clients.Holds items ∧
    ∀ address, address ∈ items ↔ ∃ client, ld.clients address = some client ∧ client.ldr = ldr
  logged : ∀ ldr redirector, ld.redirectors ldr = some redirector →
    ∃ number, ld.fdOpened redirector.logfilefd = some (.log number)
  apart : ∀ ldr ldr' redirector redirector' number, ld.redirectors ldr = some redirector →
    ld.redirectors ldr' = some redirector' → ld.fdOpened redirector.logfilefd = some (.log number) →
    ld.fdOpened redirector'.logfilefd = some (.log number) → ldr = ldr'
  registered : ∃ items, ld.redirects.Holds items ∧ ∀ ldr, ldr ∈ items ↔
    (ld.redirectors ldr).isSome = true

section
variable {ld after : LogDirector} {fd fd' address ldrd ldr pipe : Nat} {client : RedirectorClient}

theorem fdOpened_close : (ld.close fd).fdOpened fd' = if fd' = fd then none
    else ld.fdOpened fd' := by
  unfold LogDirector.fdOpened LogDirector.close
  dsimp only
  rw [Processes.close_opened]
  by_cases hfd : fd' = fd
  · rw [if_pos ⟨rfl, hfd⟩, if_pos hfd]
    rfl
  · rw [if_neg fun h => hfd h.2, if_neg hfd]

theorem fdOpened_open (halive : (ld.processes.tables.lookup daemon).isSome = true)
    (file : OpenFile LogFile) :
    ((ld.processes.open daemon fd file).opened daemon fd').map OpenFile.file =
      if fd' = fd then some file.file else ld.fdOpened fd' := by
  obtain ⟨table, htable⟩ := Option.isSome_iff_exists.mp halive
  unfold LogDirector.fdOpened
  rw [Processes.open_opened, htable]
  by_cases hfd : fd' = fd
  · rw [if_pos ⟨rfl, hfd⟩, if_pos hfd]
    rfl
  · rw [if_neg fun h => hfd h.2, if_neg hfd]

theorem fdOpened_close_eq_some {file : LogFile} :
    (ld.close fd).fdOpened fd' = some file ↔ fd' ≠ fd ∧ ld.fdOpened fd' = some file := by
  rw [fdOpened_close, Option.ite_none_left_eq_some]

theorem fdOpened_open_eq_some (halive : (ld.processes.tables.lookup daemon).isSome = true)
    (hunused : ld.fdOpened fd = none) {file : OpenFile LogFile} {file' : LogFile} :
    ((ld.processes.open daemon fd file).opened daemon fd').map OpenFile.file = some file' ↔
      fd' = fd ∧ file' = file.file ∨ ld.fdOpened fd' = some file' := by
  rw [fdOpened_open halive]
  split
  · rename_i hfd
    rw [hfd, hunused, Option.some.injEq]
    exact ⟨fun h => .inl ⟨rfl, h.symm⟩, fun h => (h.resolve_right nofun).2.symm⟩
  · rename_i hfd
    exact ⟨Or.inr, fun h => h.resolve_left fun hboth => hfd hboth.1⟩

theorem Redirected.spared (h : Redirected ld) {processes : Processes LogFile}
    (hspares : Processes.Spares daemon ld.processes processes) :
    Redirected { ld with processes } := by
  have hopened (fd : Nat) : LogDirector.fdOpened { ld with processes } fd = ld.fdOpened fd :=
    congrArg (Option.map OpenFile.file) (hspares.opened fd)
  constructor
  case alive =>
    dsimp only
    rw [hspares.table]
    exact h.alive
  case unstoppable => exact h.unstoppable
  case made =>
    intro pid fd opened hafter
    obtain ⟨pid, fd, old, hbefore, hfile⟩ := hspares.opens_nothing pid fd opened hafter
    rw [← hfile]
    exact h.made pid fd old hbefore
  case single =>
    simp only [hopened]
    exact h.single
  case owned =>
    intro address client hclient
    obtain ⟨pipe, howned⟩ := h.owned address client hclient
    refine ⟨pipe, (hopened _).trans howned.reads, ?_, howned.unclosed, howned.watched⟩
    exact fun haccepted => (hopened _).trans (howned.writes haccepted)
  case read =>
    simp only [hopened]
    exact h.read
  case written =>
    simp only [hopened]
    exact h.written
  case watched => exact h.watched
  case listed => exact h.listed
  case lists => exact h.lists
  case logged =>
    simp only [hopened]
    exact h.logged
  case apart =>
    simp only [hopened]
    exact h.apart
  case registered => exact h.registered

theorem Redirected.moved (h : Redirected ld) (contents : Nat → List UInt8) (logs : Nat → Log)
    (files : List UInt8 → List UInt8) : Redirected { ld with contents, logs, files } :=
  ⟨h.alive, h.unstoppable, h.made, h.single,
    fun address client hclient =>
      have ⟨pipe, howned⟩ := h.owned address client hclient
      ⟨pipe, howned.reads, howned.writes, howned.unclosed, howned.watched⟩,
    h.read, h.written, h.watched, h.listed, h.lists, h.logged, h.apart, h.registered⟩

/-! The list of a redirector is changed. -/

theorem redirector_of_update {ldr' : Nat} {redirector changed : Redirector}
    {clients : LinkedList Nat} (hredirector : ld.redirectors ldr = some redirector)
    (hchanged : Function.update ld.redirectors ldr (some { redirector with clients }) ldr' =
      some changed) :
    ∃ before, ld.redirectors ldr' = some before ∧ before.logfilefd = changed.logfilefd ∧
      before.logname = changed.logname := by
  by_cases hldr : ldr' = ldr
  · rw [hldr, Function.update_self] at hchanged
    cases hchanged
    rw [hldr]
    exact ⟨redirector, hredirector, rfl, rfl⟩
  · rw [Function.update_of_ne hldr] at hchanged
    exact ⟨changed, hchanged, rfl, rfl⟩

theorem redirector_stays {ldr' : Nat} {redirector before : Redirector} {clients : LinkedList Nat}
    (hredirector : ld.redirectors ldr = some redirector)
    (hbefore : ld.redirectors ldr' = some before) :
    ∃ changed, Function.update ld.redirectors ldr (some { redirector with clients }) ldr' =
      some changed ∧ changed.logname = before.logname := by
  by_cases hldr : ldr' = ldr
  · rw [hldr, hredirector] at hbefore
    cases hbefore
    rw [hldr, Function.update_self]
    exact ⟨_, rfl, rfl⟩
  · rw [Function.update_of_ne hldr]
    exact ⟨before, hbefore, rfl⟩

theorem redirector_isSome_update {redirector : Redirector} {clients : LinkedList Nat}
    (hredirector : ld.redirectors ldr = some redirector) (ldr' : Nat) :
    (Function.update ld.redirectors ldr (some { redirector with clients }) ldr').isSome =
      (ld.redirectors ldr').isSome := by
  by_cases hldr : ldr' = ldr
  · rw [hldr, Function.update_self, hredirector]
    rfl
  · rw [Function.update_of_ne hldr]

section
variable {redirector : Redirector} {clients : LinkedList Nat} {ldr' ldr'' : Nat}
  {after after' : Redirector}

theorem Redirected.logged_update (h : Redirected ld)
    (hredirector : ld.redirectors ldr = some redirector)
    (hafter : Function.update ld.redirectors ldr (some { redirector with clients }) ldr' =
      some after) :
    ∃ number, ld.fdOpened after.logfilefd = some (.log number) := by
  obtain ⟨before, hbefore, hsame, -⟩ := redirector_of_update hredirector hafter
  rw [← hsame]
  exact h.logged ldr' before hbefore

theorem Redirected.apart_update (h : Redirected ld)
    (hredirector : ld.redirectors ldr = some redirector) {number : Nat}
    (hafter : Function.update ld.redirectors ldr (some { redirector with clients }) ldr' =
      some after)
    (hafter' : Function.update ld.redirectors ldr (some { redirector with clients }) ldr'' =
      some after')
    (hlog : ld.fdOpened after.logfilefd = some (.log number))
    (hlog' : ld.fdOpened after'.logfilefd = some (.log number)) : ldr' = ldr'' := by
  obtain ⟨before, hbefore, hsame, -⟩ := redirector_of_update hredirector hafter
  obtain ⟨before', hbefore', hsame', -⟩ := redirector_of_update hredirector hafter'
  rw [← hsame] at hlog
  rw [← hsame'] at hlog'
  exact h.apart ldr' ldr'' before before' number hbefore hbefore' hlog hlog'

theorem Redirected.registered_update (h : Redirected ld)
    (hredirector : ld.redirectors ldr = some redirector) :
    ∃ items, ld.redirects.Holds items ∧ ∀ ldr', ldr' ∈ items ↔
      (Function.update ld.redirectors ldr (some { redirector with clients }) ldr').isSome := by
  obtain ⟨items, hholds, hitems⟩ := h.registered
  refine ⟨items, hholds, ?_⟩
  intro ldr'
  rw [hitems, redirector_isSome_update hredirector]

end

theorem Redirected.made_fd (h : Redirected ld) {file : LogFile} (hfd : ld.fdOpened fd = some file) :
    ld.Made file := by
  obtain ⟨opened, hfound, rfl⟩ := Option.map_eq_some_iff.mp hfd
  exact h.made daemon fd opened hfound

/-! Accepting and freeing a client. -/

theorem Redirected.unwatched (h : Redirected ld) (hfd : ld.fdOpened fd = some (.writeEnd pipe)) :
    ld.events.registrations (.read fd) = none := by
  cases hregistered : ld.events.registrations (.read fd) with
  | none => rfl
  | some registration =>
    obtain ⟨client, hclient, rfl⟩ := h.watched fd registration hregistered
    obtain ⟨pipe', howned⟩ := h.owned _ client hclient
    cases hfd.symm.trans howned.reads

theorem Redirected.same_client (h : Redirected ld) {address' : Nat} {client' : RedirectorClient}
    (howned : Owned ld address client pipe) (howned' : Owned ld address' client' pipe) :
    address = address' := by
  have hfd := h.single _ _ pipe howned.reads howned'.reads
  have hwatched := howned.watched
  rw [hfd, howned'.watched] at hwatched
  cases hwatched
  rfl

theorem Made.close {file : LogFile} (h : ld.Made file) : (ld.close fd).Made file := by
  cases file <;> exact h

theorem opened_close {pid : Nat} {opened : OpenFile LogFile}
    (h : (ld.close fd).processes.opened pid fd' = some opened) :
    ld.processes.opened pid fd' = some opened := by
  unfold LogDirector.close at h
  dsimp only at h
  rw [Processes.close_opened] at h
  split at h
  · cases h
  · exact h

theorem alive_close (h : (ld.processes.tables.lookup daemon).isSome = true) :
    ((ld.close fd).processes.tables.lookup daemon).isSome = true := by
  obtain ⟨table, htable⟩ := Option.isSome_iff_exists.mp h
  simp [LogDirector.close, Processes.close, Processes.update, htable]

theorem client_of_accepted {client' : RedirectorClient} (hclient : ld.clients ldrd = some client)
    (hfound : Function.update ld.clients ldrd (some { client with thisAccepted := true }) address =
      some client') :
    ∃ old, ld.clients address = some old ∧ old.readfd = client'.readfd ∧
      old.writefd = client'.writefd ∧ old.closed = client'.closed ∧ old.ldr = client'.ldr ∧
      (client'.thisAccepted = false → old.thisAccepted = false ∧ address ≠ ldrd) := by
  by_cases haddress : address = ldrd
  · rw [haddress, Function.update_self] at hfound
    cases hfound
    rw [haddress]
    exact ⟨client, hclient, rfl, rfl, rfl, rfl,
      fun hfalse => absurd hfalse Bool.false_ne_true.symm⟩
  · rw [Function.update_of_ne haddress] at hfound
    exact ⟨client', hfound, rfl, rfl, rfl, rfl, fun hfalse => ⟨hfalse, haddress⟩⟩

theorem accepted_of_client {old : RedirectorClient} (hclient : ld.clients ldrd = some client)
    (hfound : ld.clients address = some old) :
    ∃ client', Function.update ld.clients ldrd
        (some { client with thisAccepted := true }) address = some client' ∧
      client'.readfd = old.readfd ∧ client'.ldr = old.ldr ∧ (address ≠ ldrd → client' = old) := by
  by_cases haddress : address = ldrd
  · rw [haddress, hclient] at hfound
    cases hfound
    rw [haddress, Function.update_self]
    exact ⟨_, rfl, rfl, rfl, fun hne => absurd rfl hne⟩
  · rw [Function.update_of_ne haddress]
    exact ⟨old, hfound, rfl, rfl, fun _ => rfl⟩

theorem accepted_redirected (h : Redirected ld) (hclient : ld.clients ldrd = some client)
    (haccepted : client.thisAccepted = false) : Redirected { ld.close client.writefd with
      clients := Function.update ld.clients ldrd (some { client with thisAccepted := true }) } := by
  obtain ⟨mine, hmine⟩ := h.owned ldrd client hclient
  have hwrites := hmine.writes haccepted
  have hopened (fd : Nat) (file : LogFile) : LogDirector.fdOpened { ld.close client.writefd with
      clients := Function.update ld.clients ldrd (some { client with thisAccepted := true }) } fd =
      some file ↔ fd ≠ client.writefd ∧ ld.fdOpened fd = some file := fdOpened_close_eq_some
  have hother {fd : Nat} {file : LogFile} (hfd : ld.fdOpened fd = some file)
      (hne : file ≠ .writeEnd mine) : fd ≠ client.writefd ∧ ld.fdOpened fd = some file := by
    refine ⟨?_, hfd⟩
    rintro rfl
    exact hne (Option.some.inj (hfd.symm.trans hwrites))
  have hevents {key : EventKey} : (ld.events.remove (.read client.writefd)).registrations key =
      ld.events.registrations key := by
    by_cases hkey : key = .read client.writefd
    · rw [hkey, EventQueue.remove_self, h.unwatched hwrites]
    · exact EventQueue.remove_other hkey
  constructor
  case alive => exact alive_close h.alive
  case unstoppable => exact hevents.trans h.unstoppable
  case made =>
    intro pid fd opened hafter
    have hmade := h.made pid fd opened (opened_close hafter)
    revert hmade
    cases opened.file <;> exact id
  case single =>
    simp only [hopened]
    exact fun fd fd' pipe hfd hfd' => h.single fd fd' pipe hfd.2 hfd'.2
  case owned =>
    intro address client' hfound
    obtain ⟨old, hold, hread, hwrite, hclosed, -, hpending⟩ := client_of_accepted hclient hfound
    obtain ⟨pipe, howned⟩ := h.owned address old hold
    refine ⟨pipe, ?_, ?_, hclosed.symm.trans howned.unclosed, ?_⟩
    · rw [hopened, ← hread]
      exact hother howned.reads LogFile.noConfusion
    · intro hfalse
      obtain ⟨hold_accepted, hne⟩ := hpending hfalse
      rw [hopened, ← hwrite]
      apply hother (howned.writes hold_accepted)
      rintro ⟨⟩
      exact hne (h.same_client howned hmine)
    · rw [← hread]
      exact hevents.trans howned.watched
  case read =>
    simp only [hopened]
    intro fd pipe hfd
    obtain ⟨address, old, hold, hread⟩ := h.read fd pipe hfd.2
    obtain ⟨client', hfound, hsame, -, -⟩ := accepted_of_client hclient hold
    exact ⟨address, client', hfound, hsame.trans hread⟩
  case written =>
    simp only [hopened]
    intro fd pipe hfd
    obtain ⟨address, old, hold, hwrite, hold_accepted⟩ := h.written fd pipe hfd.2
    obtain ⟨client', hfound, -, -, hsame⟩ := accepted_of_client hclient hold
    have hne : address ≠ ldrd := by
      rintro rfl
      rw [hclient] at hold
      cases hold
      exact hfd.1 hwrite.symm
    rw [hsame hne] at hfound
    exact ⟨address, old, hfound, hwrite, hold_accepted⟩
  case watched =>
    intro fd registration hregistered
    obtain ⟨old, hold, hread⟩ := h.watched fd registration (hevents.symm.trans hregistered)
    obtain ⟨client', hfound, hsame, -, -⟩ := accepted_of_client hclient hold
    exact ⟨client', hfound, hsame.trans hread⟩
  case listed =>
    intro address client' hfound
    obtain ⟨old, hold, -, -, -, hldr, -⟩ := client_of_accepted hclient hfound
    rw [← hldr]
    exact h.listed address old hold
  case lists =>
    intro ldr redirector hredirector
    obtain ⟨items, hholds, hitems⟩ := h.lists ldr redirector hredirector
    refine ⟨items, hholds, ?_⟩
    intro address
    rw [hitems]
    constructor
    · rintro ⟨old, hold, hldr⟩
      obtain ⟨client', hfound, -, hsame, -⟩ := accepted_of_client hclient hold
      exact ⟨client', hfound, hsame.trans hldr⟩
    · rintro ⟨client', hfound, hldr⟩
      obtain ⟨old, hold, -, -, -, hsame, -⟩ := client_of_accepted hclient hfound
      exact ⟨old, hold, hsame.trans hldr⟩
  case logged =>
    simp only [hopened]
    intro ldr redirector hredirector
    obtain ⟨number, hlog⟩ := h.logged ldr redirector hredirector
    exact ⟨number, hother hlog LogFile.noConfusion⟩
  case apart =>
    simp only [hopened]
    exact fun ldr ldr' redirector redirector' number hr hr' hlog hlog' =>
      h.apart ldr ldr' redirector redirector' number hr hr' hlog.2 hlog'.2
  case registered => exact h.registered

theorem client_of_freed {other : RedirectorClient}
    (hfound : Function.update ld.clients ldrd none address = some other) :
    ld.clients address = some other ∧ address ≠ ldrd := by
  by_cases haddress : address = ldrd
  · rw [haddress, Function.update_self] at hfound
    cases hfound
  · rw [Function.update_of_ne haddress] at hfound
    exact ⟨hfound, haddress⟩

theorem Redirected.readfd_ne (h : Redirected ld) {other : RedirectorClient}
    (hclient : ld.clients ldrd = some client) (hfound : ld.clients address = some other)
    (hne : address ≠ ldrd) : other.readfd ≠ client.readfd := by
  obtain ⟨mine, hmine⟩ := h.owned ldrd client hclient
  obtain ⟨pipe, howned⟩ := h.owned address other hfound
  intro heq
  have hwatched := howned.watched
  rw [heq, hmine.watched] at hwatched
  cases hwatched
  exact hne rfl

theorem Redirected.lists_freed (h : Redirected ld) (hclient : ld.clients ldrd = some client)
    {redirector changed : Redirector} (hredirector : ld.redirectors client.ldr = some redirector)
    (hchanged : Function.update ld.redirectors client.ldr
      (some { redirector with clients := redirector.clients.remove ldrd }) ldr = some changed) :
    ∃ items, changed.clients.Holds items ∧ ∀ address, address ∈ items ↔
      ∃ other, Function.update ld.clients ldrd none address = some other ∧ other.ldr = ldr := by
  by_cases hldr : ldr = client.ldr
  · obtain ⟨items, hholds, hitems⟩ := h.lists client.ldr redirector hredirector
    rw [hldr, Function.update_self] at hchanged
    cases hchanged
    obtain ⟨rest, hrest, hmem⟩ :=
      LinkedList.removed_holds hholds ((hitems ldrd).mpr ⟨client, hclient, rfl⟩)
    refine ⟨rest, hrest, ?_⟩
    intro address
    rw [hmem, hitems, hldr]
    constructor
    · rintro ⟨⟨other, hfound, hsame⟩, hne⟩
      exact ⟨other, (Function.update_of_ne hne ..).trans hfound, hsame⟩
    · rintro ⟨other, hfound, hsame⟩
      exact ⟨⟨other, (client_of_freed hfound).1, hsame⟩, (client_of_freed hfound).2⟩
  · rw [Function.update_of_ne hldr] at hchanged
    obtain ⟨items, hholds, hitems⟩ := h.lists ldr changed hchanged
    refine ⟨items, hholds, ?_⟩
    intro address
    rw [hitems]
    constructor
    · rintro ⟨other, hfound, hsame⟩
      have hne : address ≠ ldrd := by
        rintro rfl
        rw [hclient] at hfound
        cases hfound
        exact hldr hsame.symm
      exact ⟨other, (Function.update_of_ne hne ..).trans hfound, hsame⟩
    · rintro ⟨other, hfound, hsame⟩
      exact ⟨other, (client_of_freed hfound).1, hsame⟩

theorem freed_redirected (h : Redirected ld) (hclient : ld.clients ldrd = some client)
    (haccepted : client.thisAccepted = true) {redirector : Redirector}
    (hredirector : ld.redirectors client.ldr = some redirector) :
    Redirected { ld.close client.readfd with
      redirectors := Function.update ld.redirectors client.ldr
        (some { redirector with clients := redirector.clients.remove ldrd })
      clients := Function.update ld.clients ldrd none } := by
  obtain ⟨mine, hmine⟩ := h.owned ldrd client hclient
  have hopened (fd : Nat) (file : LogFile) : LogDirector.fdOpened { ld.close client.readfd with
      redirectors := Function.update ld.redirectors client.ldr
        (some { redirector with clients := redirector.clients.remove ldrd })
      clients := Function.update ld.clients ldrd none } fd =
      some file ↔ fd ≠ client.readfd ∧ ld.fdOpened fd = some file := fdOpened_close_eq_some
  have hother {fd : Nat} {file : LogFile} (hfd : ld.fdOpened fd = some file)
      (hne : file ≠ .readEnd mine) : fd ≠ client.readfd ∧ ld.fdOpened fd = some file := by
    refine ⟨?_, hfd⟩
    rintro rfl
    exact hne (Option.some.inj (hfd.symm.trans hmine.reads))
  have hkey {fd : Nat} (hne : fd ≠ client.readfd) : EventKey.read fd ≠ .read client.readfd :=
    fun heq => hne (EventKey.read.inj heq)
  have hstays {address : Nat} {other : RedirectorClient} (hfound : ld.clients address = some other)
      (hne : other.readfd ≠ client.readfd ∨ other.thisAccepted = false) :
      Function.update ld.clients ldrd none address = some other := by
    rw [Function.update_of_ne, hfound]
    rintro rfl
    rw [hclient] at hfound
    cases hfound
    rcases hne with hne | hfalse
    · exact hne rfl
    · rw [haccepted] at hfalse
      cases hfalse
  constructor
  case alive => exact alive_close h.alive
  case unstoppable => exact (EventQueue.remove_other EventKey.noConfusion).trans h.unstoppable
  case made =>
    intro pid fd opened hafter
    have hmade := h.made pid fd opened (opened_close hafter)
    revert hmade
    cases opened.file <;> exact id
  case single =>
    simp only [hopened]
    exact fun fd fd' pipe hfd hfd' => h.single fd fd' pipe hfd.2 hfd'.2
  case owned =>
    intro address other hfound
    obtain ⟨hbefore, hne⟩ := client_of_freed hfound
    obtain ⟨pipe, howned⟩ := h.owned address other hbefore
    have hfd := h.readfd_ne hclient hbefore hne
    refine ⟨pipe, (hopened _ _).mpr ⟨hfd, howned.reads⟩, ?_, howned.unclosed, ?_⟩
    · intro hfalse
      exact (hopened _ _).mpr (hother (howned.writes hfalse) LogFile.noConfusion)
    · exact (EventQueue.remove_other (hkey hfd)).trans howned.watched
  case read =>
    simp only [hopened]
    rintro fd pipe ⟨hne, hbefore⟩
    obtain ⟨address, other, hfound, rfl⟩ := h.read fd pipe hbefore
    exact ⟨address, other, hstays hfound (Or.inl hne), rfl⟩
  case written =>
    simp only [hopened]
    intro fd pipe hfd
    obtain ⟨address, other, hfound, hwrite, hfalse⟩ := h.written fd pipe hfd.2
    exact ⟨address, other, hstays hfound (Or.inr hfalse), hwrite, hfalse⟩
  case watched =>
    intro fd registration hregistered
    by_cases hfd : fd = client.readfd
    · rw [hfd] at hregistered
      cases (EventQueue.remove_self).symm.trans hregistered
    · have hbefore := (EventQueue.remove_other (hkey hfd)).symm.trans hregistered
      obtain ⟨other, hfound, rfl⟩ := h.watched fd registration hbefore
      exact ⟨other, hstays hfound (Or.inl hfd), rfl⟩
  case listed =>
    intro address other hfound
    dsimp only
    rw [redirector_isSome_update hredirector]
    exact h.listed address other (client_of_freed hfound).1
  case lists => exact fun ldr changed hchanged => h.lists_freed hclient hredirector hchanged
  case logged =>
    simp only [hopened]
    intro ldr changed hchanged
    obtain ⟨number, hlog⟩ := h.logged_update hredirector hchanged
    exact ⟨number, hother hlog LogFile.noConfusion⟩
  case apart =>
    simp only [hopened]
    exact fun ldr ldr' changed changed' number hchanged hchanged' hlog hlog' =>
      h.apart_update hredirector hchanged hchanged' hlog.2 hlog'.2
  case registered => exact h.registered_update hredirector

theorem ldrdFreeclient_redirected (h : Redirected ld)
    (hfree : ld.ldrdFreeclient ldrd = some after) :
    Redirected after := by
  unfold LogDirector.ldrdFreeclient at hfree
  split at hfree
  · cases hfree
  · rename_i client hclient
    obtain ⟨pipe, howned⟩ := h.owned ldrd client hclient
    obtain ⟨redirector, hredirector⟩ := Option.isSome_iff_exists.mp (h.listed ldrd client hclient)
    have hclosed := howned.unclosed
    rw [hredirector] at hfree
    simp only [hclosed, Bool.not_false, if_true] at hfree
    cases haccepted : client.thisAccepted with
    | true =>
      rw [haccepted] at hfree
      cases hfree
      exact freed_redirected h hclient haccepted hredirector
    | false =>
      -- as if it were accepted first
      have hfirst := accepted_redirected h hclient haccepted
      have hfreed := freed_redirected hfirst (Function.update_self ..) rfl hredirector
      rw [haccepted] at hfree
      cases hfree
      dsimp only at hfreed
      rw [Function.update_idem] at hfreed
      exact hfreed

theorem ldrdAcceptRedirect_redirected (h : Redirected ld)
    (haccept : ld.ldrdAcceptRedirect ldrd = some after) :
    Redirected after := by
  unfold LogDirector.ldrdAcceptRedirect at haccept
  split at haccept
  · cases haccept
  · rename_i client hclient
    cases haccepted : client.thisAccepted with
    | true =>
      rw [haccepted] at haccept
      cases haccept
      exact h
    | false =>
      rw [haccepted] at haccept
      cases haccept
      exact accepted_redirected h hclient haccepted

/-! New clients and redirectors. -/

theorem opened_open {pid : Nat} {file opened : OpenFile LogFile} {processes : Processes LogFile}
    (h : (processes.open daemon fd file).opened pid fd' = some opened) :
    processes.opened pid fd' = some opened ∨ opened = file := by
  rw [Processes.open_opened] at h
  split at h
  · rw [Option.map_eq_some_iff] at h
    obtain ⟨table, -, rfl⟩ := h
    exact Or.inr rfl
  · exact Or.inl h

theorem alive_open {processes : Processes LogFile}
    (h : (processes.tables.lookup daemon).isSome = true)
    (file : OpenFile LogFile) :
    ((processes.open daemon fd file).tables.lookup daemon).isSome = true := by
  obtain ⟨table, htable⟩ := Option.isSome_iff_exists.mp h
  simp [Processes.open, Processes.update, htable]

theorem made_succ {file : LogFile} (h : ld.Made file) (more : Nat) :
    LogDirector.Made { ld with pipes := ld.pipes + more } file := by
  cases file with
  | readEnd pipe => exact Nat.lt_add_right more h
  | writeEnd pipe => exact Nat.lt_add_right more h
  | log number => exact h
  | other => exact h

theorem Redirected.pipes_made (h : Redirected ld) (pipes : Nat) :
    Redirected { ld with pipes := ld.pipes + pipes } :=
  ⟨h.alive, h.unstoppable, fun pid fd opened hopened =>
    made_succ (h.made pid fd opened hopened) pipes, h.single, fun address client hclient =>
      have ⟨pipe, howned⟩ := h.owned address client hclient
      ⟨pipe, howned.reads, howned.writes, howned.unclosed, howned.watched⟩,
    h.read, h.written, h.watched, h.listed, h.lists, h.logged, h.apart, h.registered⟩

theorem newclient_opened (halive : (ld.processes.tables.lookup daemon).isSome = true)
    (readfd writefd fd : Nat) :
    (((ld.processes.open daemon readfd ⟨.readEnd ld.pipes, false⟩).open daemon writefd
      ⟨.writeEnd ld.pipes, false⟩).opened daemon fd).map OpenFile.file =
      if fd = writefd then some (.writeEnd ld.pipes)
      else if fd = readfd then some (.readEnd ld.pipes) else ld.fdOpened fd := by
  have hfirst := @fdOpened_open ld readfd fd halive ⟨.readEnd ld.pipes, false⟩
  have hsecond := @fdOpened_open
      { ld with processes := ld.processes.open daemon readfd ⟨.readEnd ld.pipes, false⟩ }
    writefd fd (alive_open halive _) ⟨.writeEnd ld.pipes, false⟩
  rw [hsecond, ← hfirst]
  rfl

theorem newclient_opened_eq_some (halive : (ld.processes.tables.lookup daemon).isSome = true)
    {readfd writefd : Nat} (hreadfd : ld.fdOpened readfd = none)
    (hwritefd : ld.fdOpened writefd = none) (hne : readfd ≠ writefd) {file : LogFile} :
    (((ld.processes.open daemon readfd ⟨.readEnd ld.pipes, false⟩).open daemon writefd
      ⟨.writeEnd ld.pipes, false⟩).opened daemon fd).map OpenFile.file = some file ↔
      fd = writefd ∧ file = .writeEnd ld.pipes ∨ fd = readfd ∧ file = .readEnd ld.pipes ∨
        ld.fdOpened fd = some file := by
  have hunused : LogDirector.fdOpened
      { ld with processes := ld.processes.open daemon readfd ⟨.readEnd ld.pipes, false⟩ } writefd =
      none := by
    refine (fdOpened_open halive _).trans ?_
    rw [if_neg hne.symm, hwritefd]
  rw [← @fdOpened_open_eq_some ld readfd fd halive hreadfd ⟨.readEnd ld.pipes, false⟩ file]
  exact fdOpened_open_eq_some (alive_open halive _) hunused

section
variable {redirector : Redirector} {added : RedirectorClient}

theorem Redirected.unread (h : Redirected ld) {readfd : Nat} (hreadfd : ld.fdOpened readfd = none)
    (hclient : ld.clients ldrd = some client) : client.readfd ≠ readfd := by
  obtain ⟨pipe, howned⟩ := h.owned ldrd client hclient
  intro heq
  have hreads := howned.reads
  rw [heq, hreadfd] at hreads
  cases hreads

theorem client_stays (hunused : ld.clients address = none) (hclient : ld.clients ldrd = some client) :
    Function.update ld.clients address (some added) ldrd = some client := by
  rw [Function.update_of_ne, hclient]
  rintro rfl
  rw [hunused] at hclient
  cases hclient

theorem Redirected.lists_added (h : Redirected ld) (hunused : ld.clients address = none)
    (hredirector : ld.redirectors added.ldr = some redirector) {changed : Redirector}
    (hchanged : Function.update ld.redirectors added.ldr
      (some { redirector with clients := redirector.clients.insertHead address }) ldr =
        some changed) :
    ∃ items, changed.clients.Holds items ∧ ∀ address', address' ∈ items ↔
      ∃ client, Function.update ld.clients address (some added) address' = some client ∧
        client.ldr = ldr := by
  by_cases hldr : ldr = added.ldr
  · obtain ⟨items, hholds, hitems⟩ := h.lists added.ldr redirector hredirector
    rw [hldr, Function.update_self] at hchanged
    cases hchanged
    have hfresh : address ∉ items := by
      rw [hitems, hunused]
      rintro ⟨client, hnone, -⟩
      cases hnone
    refine ⟨address :: items, LinkedList.insertHead_holds hholds hfresh, ?_⟩
    intro address'
    rw [List.mem_cons, hldr]
    by_cases haddress : address' = address
    · rw [haddress, Function.update_self]
      exact ⟨fun _ => ⟨_, rfl, rfl⟩, fun _ => Or.inl rfl⟩
    · rw [Function.update_of_ne haddress, or_iff_right haddress, hitems]
  · rw [Function.update_of_ne hldr] at hchanged
    obtain ⟨items, hholds, hitems⟩ := h.lists ldr changed hchanged
    refine ⟨items, hholds, ?_⟩
    intro address'
    rw [hitems]
    by_cases haddress : address' = address
    · rw [haddress, Function.update_self, hunused]
      constructor
      · rintro ⟨client', hnone, -⟩
        cases hnone
      · rintro ⟨client', hfound, hsame⟩
        cases hfound
        exact absurd hsame.symm hldr
    · rw [Function.update_of_ne haddress]

end

theorem newclient_redirected (h : Redirected ld) {redirector : Redirector} {readfd writefd : Nat}
    (hredirector : ld.redirectors ldr = some redirector) (hunused : ld.clients address = none)
    (hreadfd : ld.fdOpened readfd = none) (hwritefd : ld.fdOpened writefd = none)
    (hne : readfd ≠ writefd) :
    Redirected { ld with
      processes := (ld.processes.open daemon readfd ⟨.readEnd ld.pipes, false⟩).open daemon writefd
        ⟨.writeEnd ld.pipes, false⟩
      pipes := ld.pipes + 1
      events := ld.events.add (.read readfd) address
      clients :=
        Function.update ld.clients address (some ⟨readfd, writefd, false, false, false, ldr⟩)
      redirectors := Function.update ld.redirectors ldr
        (some { redirector with clients := redirector.clients.insertHead address }) } := by
  have hopened {fd : Nat} {file : LogFile} :=
    @newclient_opened_eq_some ld fd h.alive readfd writefd hreadfd hwritefd hne file
  -- the new pipe has a number of its own
  have hpipe {fd : Nat} : ld.fdOpened fd ≠ some (.readEnd ld.pipes) :=
    fun hfd => absurd (h.made_fd hfd) (Nat.lt_irrefl _)
  have hkey {fd : Nat} (hfd : fd ≠ readfd) : EventKey.read fd ≠ .read readfd :=
    fun heq => hfd (EventKey.read.inj heq)
  constructor
  case alive => exact alive_open (alive_open h.alive _) _
  case unstoppable => exact (EventQueue.add_other EventKey.noConfusion).trans h.unstoppable
  case made =>
    intro pid fd opened hafter
    rcases opened_open hafter with hfirst | rfl
    · rcases opened_open hfirst with hbefore | rfl
      · have hmade := made_succ (h.made pid fd opened hbefore) 1
        revert hmade
        cases opened.file <;> exact id
      · exact Nat.lt_succ_self _
    · exact Nat.lt_succ_self _
  case single =>
    unfold LogDirector.fdOpened
    simp only [hopened]
    rintro fd fd' pipe (⟨-, hfile⟩ | ⟨rfl, hfile⟩ | hbefore)
    · cases hfile
    · cases hfile
      rintro (⟨-, hfile⟩ | ⟨rfl, -⟩ | hbefore')
      · cases hfile
      · rfl
      · exact absurd hbefore' hpipe
    · rintro (⟨-, hfile⟩ | ⟨-, hfile⟩ | hbefore')
      · cases hfile
      · cases hfile
        exact absurd hbefore hpipe
      · exact h.single fd fd' pipe hbefore hbefore'
  case owned =>
    intro address' client' hfound
    dsimp only at hfound
    by_cases haddress : address' = address
    · rw [haddress, Function.update_self] at hfound
      cases hfound
      rw [haddress]
      exact ⟨ld.pipes, hopened.mpr (.inr (.inl ⟨rfl, rfl⟩)),
        fun _ => hopened.mpr (.inl ⟨rfl, rfl⟩), rfl, EventQueue.add_self⟩
    · rw [Function.update_of_ne haddress] at hfound
      obtain ⟨pipe, howned⟩ := h.owned address' client' hfound
      exact ⟨pipe, hopened.mpr (.inr (.inr howned.reads)),
        fun haccepted => hopened.mpr (.inr (.inr (howned.writes haccepted))), howned.unclosed,
        (EventQueue.add_other (hkey (h.unread hreadfd hfound))).trans howned.watched⟩
  case read =>
    unfold LogDirector.fdOpened
    simp only [hopened]
    rintro fd pipe (⟨-, hfile⟩ | ⟨rfl, -⟩ | hbefore)
    · cases hfile
    · exact ⟨address, _, Function.update_self .., rfl⟩
    · obtain ⟨address', client', hfound, hread⟩ := h.read fd pipe hbefore
      exact ⟨address', client', client_stays hunused hfound, hread⟩
  case written =>
    unfold LogDirector.fdOpened
    simp only [hopened]
    rintro fd pipe (⟨rfl, -⟩ | ⟨-, hfile⟩ | hbefore)
    · exact ⟨address, _, Function.update_self .., rfl, rfl⟩
    · cases hfile
    · obtain ⟨address', client', hfound, hwrite, haccepted⟩ := h.written fd pipe hbefore
      exact ⟨address', client', client_stays hunused hfound, hwrite, haccepted⟩
  case watched =>
    intro fd registration hregistered
    dsimp only at hregistered
    by_cases hfd : fd = readfd
    · rw [hfd, EventQueue.add_self] at hregistered
      cases hregistered
      rw [hfd]
      exact ⟨_, Function.update_self .., rfl⟩
    · rw [EventQueue.add_other (hkey hfd)] at hregistered
      obtain ⟨client', hfound, hread⟩ := h.watched fd registration hregistered
      exact ⟨client', client_stays hunused hfound, hread⟩
  case listed =>
    intro address' client' hfound
    dsimp only at hfound ⊢
    rw [redirector_isSome_update hredirector]
    by_cases haddress : address' = address
    · rw [haddress, Function.update_self] at hfound
      cases hfound
      exact Option.isSome_iff_exists.mpr ⟨redirector, hredirector⟩
    · rw [Function.update_of_ne haddress] at hfound
      exact h.listed address' client' hfound
  case lists => exact fun ldr' changed hchanged => h.lists_added hunused hredirector hchanged
  case logged =>
    unfold LogDirector.fdOpened
    simp only [hopened]
    intro ldr' changed hchanged
    obtain ⟨number, hlog⟩ := h.logged_update hredirector hchanged
    exact ⟨number, .inr (.inr hlog)⟩
  case apart =>
    unfold LogDirector.fdOpened
    simp only [hopened, reduceCtorEq, and_false, false_or]
    exact fun ldr' ldr'' changed changed' number hchanged hchanged' hlog hlog' =>
      h.apart_update hredirector hchanged hchanged' hlog hlog'
  case registered => exact h.registered_update hredirector

theorem Redirected.log_registered (h : Redirected ld) {registered changed : Redirector}
    {number : Nat} (hunused : ld.fdOpened registered.logfilefd = none)
    (hchanged : Function.update ld.redirectors address (some registered) ldr = some changed)
    (hlog : changed.logfilefd = registered.logfilefd ∧ LogFile.log number = .log ld.opened ∨
      ld.fdOpened changed.logfilefd = some (.log number)) :
    ldr = address ∧ number = ld.opened ∨ ld.redirectors ldr = some changed ∧
      ld.fdOpened changed.logfilefd = some (.log number) ∧ number < ld.opened := by
  by_cases hldr : ldr = address
  · rw [hldr, Function.update_self] at hchanged
    cases hchanged
    rw [hunused] at hlog
    exact .inl ⟨hldr, LogFile.log.inj (hlog.resolve_right nofun).2⟩
  · rw [Function.update_of_ne hldr] at hchanged
    rcases hlog with ⟨hsame, -⟩ | hlog
    · obtain ⟨old, hold⟩ := h.logged ldr changed hchanged
      rw [hsame, hunused] at hold
      cases hold
    · exact .inr ⟨hchanged, hlog, h.made_fd hlog⟩

theorem register_redirected (h : Redirected ld) {logname : List UInt8}
    {answers : RedirectAnswers} {logs : Nat → Log}
    {files : List UInt8 → List UInt8} {clients : LinkedList Nat}
    (hunused : ld.redirectors answers.address = none)
    (hlogfilefd : ld.fdOpened answers.logfilefd = none) (hclients : clients.Holds []) :
    Redirected { ld with
      processes := ld.processes.open daemon answers.logfilefd ⟨.log ld.opened, true⟩
      logs
      opened := ld.opened + 1
      files
      redirectors := Function.update ld.redirectors answers.address
        (some ⟨logname, answers.logfilefd, clients⟩)
      redirects := ld.redirects.insertHead answers.address } := by
  have hopened {fd : Nat} {file : LogFile} :=
    @fdOpened_open_eq_some ld answers.logfilefd fd h.alive hlogfilefd ⟨.log ld.opened, true⟩ file
  constructor
  case alive => exact alive_open h.alive _
  case unstoppable => exact h.unstoppable
  case made =>
    intro pid fd opened hafter
    rcases opened_open hafter with hbefore | rfl
    · have hold := h.made pid fd opened hbefore
      revert hold
      cases opened.file with
      | log number => exact fun hlt => Nat.lt_succ_of_lt hlt
      | _ => exact id
    · exact Nat.lt_succ_self _
  case single =>
    unfold LogDirector.fdOpened
    simp only [hopened, reduceCtorEq, and_false, false_or]
    exact h.single
  case owned =>
    intro address client hfound
    obtain ⟨pipe, howned⟩ := h.owned address client hfound
    exact ⟨pipe, hopened.mpr (.inr howned.reads),
      fun haccepted => hopened.mpr (.inr (howned.writes haccepted)), howned.unclosed,
      howned.watched⟩
  case read =>
    unfold LogDirector.fdOpened
    simp only [hopened, reduceCtorEq, and_false, false_or]
    exact h.read
  case written =>
    unfold LogDirector.fdOpened
    simp only [hopened, reduceCtorEq, and_false, false_or]
    exact h.written
  case watched => exact h.watched
  case listed =>
    intro address client hfound
    dsimp only
    by_cases hldr : client.ldr = answers.address
    · rw [hldr, Function.update_self]
      rfl
    · rw [Function.update_of_ne hldr]
      exact h.listed address client hfound
  case lists =>
    intro ldr changed hchanged
    dsimp only at hchanged ⊢
    by_cases hldr : ldr = answers.address
    · rw [hldr, Function.update_self] at hchanged
      cases hchanged
      refine ⟨[], hclients, ?_⟩
      intro address
      refine iff_of_false List.not_mem_nil ?_
      rintro ⟨client, hfound, hsame⟩
      have hlisted := h.listed address client hfound
      rw [hsame, hldr, hunused] at hlisted
      cases hlisted
    · rw [Function.update_of_ne hldr] at hchanged
      exact h.lists ldr changed hchanged
  case logged =>
    unfold LogDirector.fdOpened
    simp only [hopened]
    intro ldr changed hchanged
    by_cases hldr : ldr = answers.address
    · rw [hldr, Function.update_self] at hchanged
      cases hchanged
      exact ⟨ld.opened, .inl ⟨rfl, rfl⟩⟩
    · rw [Function.update_of_ne hldr] at hchanged
      obtain ⟨number, hlog⟩ := h.logged ldr changed hchanged
      exact ⟨number, .inr hlog⟩
  case apart =>
    unfold LogDirector.fdOpened
    simp only [hopened]
    intro ldr ldr' changed changed' number hchanged hchanged' hlog hlog'
    -- the new file has a number of its own
    rcases h.log_registered hlogfilefd hchanged hlog with ⟨hldr, hnumber⟩ | ⟨hbefore, hold, hlt⟩
    · rcases h.log_registered hlogfilefd hchanged' hlog' with ⟨hldr', -⟩ | ⟨-, -, hlt⟩
      · exact hldr.trans hldr'.symm
      · exact absurd hnumber (Nat.ne_of_lt hlt)
    · rcases h.log_registered hlogfilefd hchanged' hlog' with ⟨-, hnumber⟩ | ⟨hbefore', hold', -⟩
      · exact absurd hnumber (Nat.ne_of_lt hlt)
      · exact h.apart ldr ldr' changed changed' number hbefore hbefore' hold hold'
  case registered =>
    obtain ⟨items, hholds, hitems⟩ := h.registered
    have hfresh : answers.address ∉ items := by
      rw [hitems, hunused]
      exact Bool.false_ne_true
    refine ⟨answers.address :: items, LinkedList.insertHead_holds hholds hfresh, ?_⟩
    intro ldr
    dsimp only
    rw [List.mem_cons]
    by_cases hldr : ldr = answers.address
    · rw [hldr, Function.update_self]
      exact ⟨fun _ => rfl, fun _ => Or.inl rfl⟩
    · rw [Function.update_of_ne hldr, or_iff_right hldr, hitems]

end

theorem ldNew_redirected (logDirectory : List UInt8) (links : Nat → Option Nat) :
    Redirected (ldNew logDirectory links) := by
  have hopened {pid fd : Nat} {opened : OpenFile LogFile}
      (h : (ldNew logDirectory links).processes.opened pid fd = some opened) : opened.file =
        .other := by
    obtain ⟨table, htable, hlookup⟩ := Option.bind_eq_some_iff.mp h
    have hentry := AList.mem_lookup_iff.mp htable
    have hmem := AList.mem_lookup_iff.mp hlookup
    cases List.mem_singleton.mp hentry
    have hall :
        ∀ entry ∈ (((∅ : DescriptorTable LogFile).insert 2 ⟨.other, false⟩).insert 1 ⟨.other, false⟩
        |>.insert 0 ⟨.other, false⟩).entries, entry.2.file = .other := by
      decide
    exact hall _ hmem
  have hother {fd : Nat} {file : LogFile} (h : (ldNew logDirectory links).fdOpened fd = some file) :
      file = .other := by
    obtain ⟨opened, hfound, rfl⟩ := Option.map_eq_some_iff.mp h
    exact hopened hfound
  constructor
  case alive => rfl
  case unstoppable => rfl
  case made =>
    intro pid fd opened h
    rw [hopened h]
    exact trivial
  case single =>
    intro fd fd' pipe h
    cases hother h
  case owned =>
    intro address client h
    cases h
  case read =>
    intro fd pipe h
    cases hother h
  case written =>
    intro fd pipe h
    cases hother h
  case watched =>
    intro fd registration h
    cases h
  case listed =>
    intro address client h
    cases h
  case lists =>
    intro ldr redirector h
    cases h
  case logged =>
    intro ldr redirector h
    cases h
  case apart =>
    intro ldr ldr' redirector redirector' number h
    cases h
  case registered =>
    refine ⟨[], LinkedList.init_holds _ _, ?_⟩
    intro ldr
    exact iff_of_false List.not_mem_nil Bool.false_ne_true

end Vmstated.Liblogging
