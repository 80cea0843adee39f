import Vmstated.Liblogging.RedirectSpec

/-! What the steps of the log director keep. -/
namespace Vmstated.Liblogging
open Library

section
variable {processes : Processes LogFile} {client : RedirectorClient} {pid fd : Nat}

theorem spares_ldrdRedirect (hpid : pid ≠ daemon) (otherEndClosed : Bool) :
    Processes.Spares daemon processes (ldrdRedirect client pid fd otherEndClosed processes).2 := by
  have hclosed := @Processes.spares_close _ daemon pid fd processes hpid
  unfold ldrdRedirect
  dsimp only
  split
  · exact Processes.spares_refl
  · split
    · exact hclosed.trans (Processes.spares_dup2 hpid)
    · split
      · exact hclosed
      · exact (hclosed.trans (Processes.spares_close hpid)).trans (Processes.spares_dup2 hpid)

theorem spares_launchedChild (hpid : pid ≠ daemon) (client : Option RedirectorClient) :
    Processes.Spares daemon processes (launchedChild client pid (processes.fork daemon pid)) := by
  have hforked := @Processes.spares_fork _ daemon daemon pid processes hpid
  cases client with
  | none => exact hforked.trans (Processes.spares_execve hpid)
  | some client =>
    have hout := hforked.trans (@spares_ldrdRedirect _ client pid 1 hpid client.otherEndClosed)
    exact (hout.trans (spares_ldrdRedirect hpid _)).trans (Processes.spares_execve hpid)

end

/-! Descriptors are closed, and nothing is opened or written. -/

structure Closes (before after : LogDirector) : Prop where
  contents : after.contents = before.contents
  pipes : after.pipes = before.pipes
  opened : ∀ pid fd opened, after.processes.opened pid fd = some opened →
    before.processes.opened pid fd = some opened

section
variable {ld after : LogDirector} {ldrd : Nat}

theorem closes_accept (haccept : ld.ldrdAcceptRedirect ldrd = some after) : Closes ld after := by
  unfold LogDirector.ldrdAcceptRedirect at haccept
  split at haccept
  · cases haccept
  · split at haccept
    · cases haccept
      exact ⟨rfl, rfl, fun pid fd opened => opened_close⟩
    · cases haccept
      exact ⟨rfl, rfl, fun pid fd opened => id⟩

theorem closes_freeclient (hfree : ld.ldrdFreeclient ldrd = some after) : Closes ld after := by
  unfold LogDirector.ldrdFreeclient at hfree
  split at hfree
  · cases hfree
  · split at hfree
    · cases hfree
    · cases hfree
      split <;> split
      · exact ⟨rfl, rfl, fun pid fd opened h => opened_close (opened_close h)⟩
      · exact ⟨rfl, rfl, fun pid fd opened => opened_close⟩
      · exact ⟨rfl, rfl, fun pid fd opened => opened_close⟩
      · exact ⟨rfl, rfl, fun pid fd opened => id⟩

theorem freeclient_closes (hfree : ld.ldrdFreeclient ldrd = some after) {client : RedirectorClient}
    (hclient : ld.clients ldrd = some client) (hclosed : client.closed = false) :
    after.fdOpened client.readfd = none := by
  unfold LogDirector.ldrdFreeclient at hfree
  rw [hclient] at hfree
  dsimp only at hfree
  split at hfree
  · cases hfree
  · rw [hclosed] at hfree
    cases hfree
    exact fdOpened_close.trans (if_pos rfl)

end

inductive LogEvent (ld : LogDirector) (fd : Nat) (answers : LogAnswers) :
    Option Forwarded → LogDirector → Prop where
  | closed {ldrd pipe : Nat} {client : RedirectorClient} {after : LogDirector}
      (hclient : ld.clients ldrd = some client) (hfd : client.readfd = fd)
        (hpipe : ld.fdOpened fd = some (.readEnd pipe))
      (heof : ld.eof pipe = true)
        (hfree : ld.ldrdFreeclient ldrd = some after) : LogEvent ld fd answers none after
  | received {ldrd pipe number : Nat} {client : RedirectorClient}
      {redirector : Redirector} {result : Int}
      {pipeEnd : PipeEnd} {sink : Sink UInt8} (hclient : ld.clients ldrd = some client)
        (hfd : client.readfd = fd)
      (hpipe : ld.fdOpened fd = some (.readEnd pipe)) (hopen : ld.eof pipe = false)
      (hredirector : ld.redirectors client.ldr = some redirector)
      (hlog : ld.fdOpened redirector.logfilefd = some (.log number))
      (hrecv : ldrRecvOndata answers.rounds answers.recv (ld.contents pipe).length
        ⟨fun i => pipeCalls i answers.reads (ld.contents pipe), []⟩
          ⟨(ld.logs number).written, answers.writes⟩ = some (result, pipeEnd, sink)) :
      LogEvent ld fd answers (some ⟨client.ldr, pipe, pipeEnd.delivered⟩) { ld with
        contents :=
          Function.update ld.contents pipe ((ld.contents pipe).drop pipeEnd.delivered.length)
        logs := Function.update ld.logs number { ld.logs number with written := sink.written }
        files := Function.update ld.files (ld.logs number).name
          (writeAt (ld.logs number).written.length
            (sink.written.drop (ld.logs number).written.length) (ld.files (ld.logs number).name)) }

section
variable {ld after : LogDirector} {fd : Nat} {output : Option Forwarded}

theorem ldKqueueThread_event (h : Redirected ld) {answers : LogAnswers}
    (hevent : ld.ldKqueueThread fd answers = some (output, after)) :
    LogEvent ld fd answers output after := by
  unfold LogDirector.ldKqueueThread at hevent
  split at hevent
  · rename_i ldrd pipe hregistered hpipe
    obtain ⟨client, hclient, hfd⟩ := h.watched fd _ hregistered
    dsimp only at hclient
    split at hevent
    · rename_i heof
      rw [Option.map_eq_some_iff] at hevent
      obtain ⟨after, hfree, hsame⟩ := hevent
      cases hsame
      exact LogEvent.closed hclient hfd hpipe heof hfree
    · rename_i hopen
      split at hevent
      · cases hevent
      · unfold LogDirector.recvOndata at hevent
        simp only [Option.bind_eq_bind, Option.bind_eq_some_iff] at hevent
        obtain ⟨client', hclient', redirector, hredirector, hevent⟩ := hevent
        rw [hclient] at hclient'
        cases hclient'
        split at hevent
        · rename_i pipe' number hread hlog
          rw [hfd, hpipe] at hread
          cases hread
          split at hevent
          · cases hevent
          · rename_i result pipeEnd sink hrecv
            cases hevent
            rw [Bool.not_eq_true] at hopen
            exact LogEvent.received hclient hfd hpipe hopen hredirector hlog hrecv
        · cases hevent
  · cases hevent

theorem LogEvent.redirected (h : Redirected ld) {answers : LogAnswers}
    (hevent : LogEvent ld fd answers output after) :
    Redirected after := by
  cases hevent with
  | closed _ _ _ _ hfree => exact ldrdFreeclient_redirected h hfree
  | received => exact h.moved _ _ _

end

inductive LogStep (ld : LogDirector) : LogOp → Option Forwarded → LogDirector → Prop where
  | registered {logname : List UInt8} {answers : RedirectAnswers} {clients : LinkedList Nat}
      (hunused : ld.redirectors answers.address = none)
        (hlogfilefd : ld.fdOpened answers.logfilefd = none)
      (hclients : clients.Holds []) :
      LogStep ld (.register logname answers) none { ld with
        processes := ld.processes.open daemon answers.logfilefd ⟨.log ld.opened, true⟩
        logs := Function.update ld.logs ld.opened ⟨logfileName ld.logDirectory logname, []⟩
        opened := ld.opened + 1
        files := Function.update ld.files (logfileName ld.logDirectory logname) []
        redirectors := Function.update ld.redirectors answers.address
          (some ⟨logname, answers.logfilefd, clients⟩)
        redirects := ld.redirects.insertHead answers.address }
  | unconnected {ldr : Nat} {answers : ClientAnswers} (pipes : Nat) :
      LogStep ld (.newclient ldr answers) none { ld with pipes := ld.pipes + pipes }
  | connected {ldr address readfd writefd : Nat} {answers : ClientAnswers} {redirector : Redirector}
      (hredirector : ld.redirectors ldr = some redirector) (hunused : ld.clients address = none)
      (hreadfd : ld.fdOpened readfd = none) (hwritefd : ld.fdOpened writefd = none)
        (hne : readfd ≠ writefd) :
      LogStep ld (.newclient ldr answers) none { ld with
        processes :=
          (ld.processes.open daemon readfd ⟨.readEnd ld.pipes, false⟩).open daemon writefd
            ⟨.writeEnd ld.pipes, false⟩
        pipes := ld.pipes + 1
        events := ld.events.add (.read readfd) address
        clients :=
          Function.update ld.clients address (some ⟨readfd, writefd, false, false, false, ldr⟩)
        redirectors := Function.update ld.redirectors ldr
          (some { redirector with clients := redirector.clients.insertHead address }) }
  | accepted {ldrd : Nat} {after : LogDirector}
      (haccept : ld.ldrdAcceptRedirect ldrd = some after) :
      LogStep ld (.acceptRedirect ldrd) none after
  /-- Another process does something to its descriptors. -/
  | spared {op : LogOp} {processes : Processes LogFile}
      (hop : ∀ pid fd bytes, op ≠ .write pid fd bytes)
      (hspares : Processes.Spares daemon ld.processes processes) : LogStep ld op none
        { ld with processes }
  | written {pid fd pipe : Nat} {bytes : List UInt8} {closeOnExec : Bool}
      (hopened : ld.processes.opened pid fd = some ⟨.writeEnd pipe, closeOnExec⟩) :
      LogStep ld (.write pid fd bytes) none
        { ld with contents := Function.update ld.contents pipe (ld.contents pipe ++ bytes) }
  | event {fd : Nat} {answers : LogAnswers} {output : Option Forwarded} {after : LogDirector}
      (hevent : LogEvent ld fd answers output after) : LogStep ld (.event fd answers) output after

section
variable {ld after : LogDirector} {output : Option Forwarded} {op : LogOp}

theorem newclient_step {ldr : Nat} {answers : ClientAnswers} {result : Option Nat × LogDirector}
    (h : ld.ldrNewclient ldr answers = some result) :
    LogStep ld (.newclient ldr answers) none result.2 := by
  unfold LogDirector.ldrNewclient at h
  split at h
  · cases h
  · cases h
    exact LogStep.unconnected 0
  · cases h
    exact LogStep.unconnected 0
  · rename_i redirector address readfd writefd hredirector _ _
    rw [Option.ite_none_left_eq_some] at h
    obtain ⟨hfresh, h⟩ := h
    rw [not_or, not_or, not_or, not_or, Option.not_isSome_iff_eq_none,
      Option.not_isSome_iff_eq_none, Option.not_isSome_iff_eq_none] at hfresh
    split at h
    · cases h
      exact LogStep.unconnected 1
    · rw [Option.ite_none_left_eq_some] at h
      cases h.2
      exact LogStep.connected hredirector hfresh.2.1 hfresh.2.2.1 hfresh.2.2.2.1 hfresh.2.2.2.2

theorem logDirector_step (h : Redirected ld)
    (hstep : logDirector.step ld op = some (output, after)) :
    LogStep ld op output after := by
  cases op with
  | register logname answers =>
    simp only [logDirector, Option.map_eq_some_iff, LogDirector.ldRegisterRedirect,
      Option.ite_none_left_eq_some] at hstep
    obtain ⟨_, ⟨hfresh, hafter⟩, hsame⟩ := hstep
    rw [not_or, not_or, Option.not_isSome_iff_eq_none, Option.not_isSome_iff_eq_none] at hfresh
    cases hsame
    cases hafter
    exact LogStep.registered hfresh.2.1 hfresh.2.2 (LinkedList.init_holds _ _)
  | newclient ldr answers =>
    simp only [logDirector, Option.map_eq_some_iff] at hstep
    obtain ⟨result, hnew, hsame⟩ := hstep
    cases hsame
    exact newclient_step hnew
  | launch child ldrd =>
    simp only [logDirector, Option.ite_none_left_eq_some] at hstep
    obtain ⟨hfresh, hstep⟩ := hstep
    have hchild : child ≠ daemon := by
      rintro rfl
      exact hfresh h.alive
    cases ldrd with
    | none =>
      cases hstep
      exact LogStep.spared (fun _ _ _ => LogOp.noConfusion) (spares_launchedChild hchild none)
    | some ldrd =>
      dsimp only at hstep
      split at hstep
      · cases hstep
      · cases hstep
        exact LogStep.spared (fun _ _ _ => LogOp.noConfusion) (spares_launchedChild hchild (some _))
  | acceptRedirect ldrd =>
    simp only [logDirector, Option.map_eq_some_iff] at hstep
    obtain ⟨_, haccept, hsame⟩ := hstep
    cases hsame
    exact LogStep.accepted haccept
  | write pid fd bytes =>
    simp only [logDirector, Option.ite_none_left_eq_some] at hstep
    obtain ⟨-, hstep⟩ := hstep
    split at hstep
    · rename_i pipe closeOnExec hopened
      cases hstep
      exact LogStep.written hopened
    · cases hstep
  | close pid fd =>
    simp only [logDirector, Option.ite_none_left_eq_some] at hstep
    cases hstep.2
    exact LogStep.spared (fun _ _ _ => LogOp.noConfusion) (Processes.spares_close hstep.1)
  | dup2 pid old new =>
    simp only [logDirector, Option.ite_none_left_eq_some] at hstep
    cases hstep.2
    exact LogStep.spared (fun _ _ _ => LogOp.noConfusion) (Processes.spares_dup2 hstep.1)
  | fork pid child =>
    simp only [logDirector, Option.ite_none_left_eq_some, not_or] at hstep
    have hchild : child ≠ daemon := by
      rintro rfl
      exact hstep.1.2 h.alive
    cases hstep.2
    exact LogStep.spared (fun _ _ _ => LogOp.noConfusion) (Processes.spares_fork hchild)
  | exit pid =>
    simp only [logDirector, Option.ite_none_left_eq_some] at hstep
    cases hstep.2
    exact LogStep.spared (fun _ _ _ => LogOp.noConfusion) (Processes.spares_exit hstep.1)
  | event fd answers => exact LogStep.event (ldKqueueThread_event h hstep)

theorem LogStep.redirected (h : Redirected ld) (hstep : LogStep ld op output after) :
    Redirected after := by
  cases hstep with
  | registered hunused hlogfilefd hclients =>
    exact register_redirected h hunused hlogfilefd hclients
  | unconnected pipes => exact h.pipes_made pipes
  | connected hredirector hunused hreadfd hwritefd hne =>
    exact newclient_redirected h hredirector hunused hreadfd hwritefd hne
  | accepted haccept => exact ldrdAcceptRedirect_redirected h haccept
  | spared _ hspares => exact h.spared hspares
  | written => exact h.moved _ _ _
  | event hevent => exact hevent.redirected h

theorem run_redirected {logDirectory : List UInt8} {links : Nat → Option Nat}
    {transits : List (Transit LogDirector LogOp (Option Forwarded))}
    (run : Run logDirector (ldNew logDirectory links) transits ld) : Redirected ld := by
  induction run with
  | nil => exact ldNew_redirected logDirectory links
  | snoc _ hstep ih => exact (logDirector_step ih hstep).redirected ih

end

/-! What the other steps leave alone. -/

/-- No client gets another's pipe, and no log is written to. A file may be emptied
for a new redirector. -/
structure Quiet (before after : LogDirector) : Prop where
  pipes : before.pipes ≤ after.pipes
  directory : after.logDirectory = before.logDirectory
  clients : ∀ address client pipe, after.clients address = some client →
    after.fdOpened client.readfd = some (.readEnd pipe) → pipe < before.pipes →
    ∃ old, before.clients address = some old ∧ before.fdOpened old.readfd = some (.readEnd pipe) ∧
      old.ldr = client.ldr
  redirectors : ∀ ldr redirector, before.redirectors ldr = some redirector →
    ∃ later, after.redirectors ldr = some later ∧ later.logname = redirector.logname
  logs : ∀ ldr redirector number, after.redirectors ldr = some redirector →
    after.fdOpened redirector.logfilefd = some (.log number) →
    (∃ old, before.redirectors ldr = some old ∧ old.logname = redirector.logname ∧
      before.fdOpened old.logfilefd = some (.log number) ∧ after.logs number = before.logs number) ∨
    before.redirectors ldr = none ∧ after.logs number =
      ⟨logfileName after.logDirectory redirector.logname, []⟩ ∧
      after.files (logfileName after.logDirectory redirector.logname) = []
  files : ∀ path, after.files path = before.files path ∨ after.files path = [] ∧
    ∃ ldr redirector, before.redirectors ldr = none ∧ after.redirectors ldr = some redirector ∧
      logfileName after.logDirectory redirector.logname = path

theorem Quiet.fresh {ld after : LogDirector} (h : Quiet ld after)
    {ldr : Nat} (hnone : after.redirectors ldr = none) :
    ld.redirectors ldr = none := by
  cases hredirector : ld.redirectors ldr with
  | none => rfl
  | some redirector =>
    obtain ⟨later, hlater, -⟩ := h.redirectors ldr redirector hredirector
    rw [hnone] at hlater
    cases hlater

section
variable {ld after : LogDirector} {ldrd : Nat} {output : Option Forwarded}

theorem quiet_spared {processes : Processes LogFile}
    (hspares : Processes.Spares daemon ld.processes processes) :
    Quiet ld { ld with processes } := by
  have hopened (fd : Nat) : LogDirector.fdOpened { ld with processes } fd = ld.fdOpened fd :=
    congrArg (Option.map OpenFile.file) (hspares.opened fd)
  constructor
  case pipes => exact Nat.le_refl _
  case directory => rfl
  case clients =>
    intro address client pipe hclient hread _
    exact ⟨client, hclient, (hopened _).symm.trans hread, rfl⟩
  case redirectors => exact fun ldr redirector hredirector => ⟨redirector, hredirector, rfl⟩
  case logs =>
    intro ldr redirector number hredirector hlog
    exact Or.inl ⟨redirector, hredirector, rfl, (hopened _).symm.trans hlog, rfl⟩
  case files => exact fun path => Or.inl rfl

theorem quiet_same {pipes : Nat} (hpipes : ld.pipes ≤ pipes) (contents : Nat → List UInt8) :
    Quiet ld { ld with pipes, contents } :=
  ⟨hpipes, rfl, fun _ client _ hclient hread _ => ⟨client, hclient, hread, rfl⟩,
    fun _ redirector hredirector => ⟨redirector, hredirector, rfl⟩,
    fun _ redirector _ hredirector hlog => Or.inl ⟨redirector, hredirector, rfl, hlog, rfl⟩,
      fun _ => Or.inl rfl⟩

theorem quiet_refl : Quiet ld ld := quiet_same (Nat.le_refl _) _

theorem quiet_closed {fd : Nat} {clients : Nat → Option RedirectorClient}
    {redirectors : Nat → Option Redirector}
    (hclients : ∀ address client, clients address = some client →
      ∃ old, ld.clients address = some old ∧ old.readfd = client.readfd ∧ old.ldr = client.ldr)
    (hredirectors : ∀ ldr redirector, redirectors ldr = some redirector →
      ∃ old, ld.redirectors ldr = some old ∧ old.logfilefd = redirector.logfilefd ∧
        old.logname = redirector.logname)
    (hpresent : ∀ ldr redirector, ld.redirectors ldr = some redirector →
      ∃ later, redirectors ldr = some later ∧ later.logname = redirector.logname) :
    Quiet ld { ld.close fd with clients, redirectors } := by
  have hopened {fd' : Nat} {file : LogFile} (h : (ld.close fd).fdOpened fd' = some file) :
      ld.fdOpened fd' = some file := by
    rw [fdOpened_close] at h
    split at h
    · cases h
    · exact h
  constructor
  case pipes => exact Nat.le_refl _
  case directory => rfl
  case clients =>
    intro address client pipe hclient hread _
    obtain ⟨old, hold, hfd, hldr⟩ := hclients address client hclient
    refine ⟨old, hold, ?_, hldr⟩
    rw [hfd]
    exact hopened hread
  case redirectors => exact hpresent
  case logs =>
    intro ldr redirector number hredirector hlog
    obtain ⟨old, hold, hfd, hname⟩ := hredirectors ldr redirector hredirector
    refine Or.inl ⟨old, hold, hname, ?_, rfl⟩
    rw [hfd]
    exact hopened hlog
  case files => exact fun path => Or.inl rfl

theorem Quiet.trans {mid : LogDirector} (h : Quiet ld mid) (h' : Quiet mid after) :
    Quiet ld after := by
  constructor
  case pipes => exact h.pipes.trans h'.pipes
  case directory => exact h'.directory.trans h.directory
  case clients =>
    intro address client pipe hclient hread hpipe
    obtain ⟨middle, hmiddle, hopened, hldr⟩ :=
      h'.clients address client pipe hclient hread (hpipe.trans_le h.pipes)
    obtain ⟨old, hold, hopened', hldr'⟩ := h.clients address middle pipe hmiddle hopened hpipe
    exact ⟨old, hold, hopened', hldr'.trans hldr⟩
  case redirectors =>
    intro ldr redirector hredirector
    obtain ⟨middle, hmiddle, hname⟩ := h.redirectors ldr redirector hredirector
    obtain ⟨later, hlater, hname'⟩ := h'.redirectors ldr middle hmiddle
    exact ⟨later, hlater, hname'.trans hname⟩
  case logs =>
    intro ldr redirector number hredirector hlog
    rcases h'.logs ldr redirector number hredirector hlog
      with ⟨middle, hmiddle, hname, hopened, hsame⟩ | ⟨hnone, hnew⟩
    · rw [hsame]
      rcases h.logs ldr middle number hmiddle hopened
        with ⟨old, hold, hname', hbefore⟩ | ⟨hnone, hlogged, hempty⟩
      · exact Or.inl ⟨old, hold, hname'.trans hname, hbefore⟩
      · rw [← h'.directory, hname] at hlogged hempty
        refine Or.inr ⟨hnone, hlogged, ?_⟩
        rcases h'.files (logfileName after.logDirectory redirector.logname)
          with hkept | ⟨hcleared, -⟩
        · exact hkept.trans hempty
        · exact hcleared
    · exact Or.inr ⟨h.fresh hnone, hnew⟩
  case files =>
    intro path
    rcases h'.files path with hkept | ⟨hcleared, ldr, redirector, hnone, hfound, hpath⟩
    · rw [hkept]
      rcases h.files path with hbefore | ⟨hcleared, ldr, redirector, hnone, hfound, hpath⟩
      · exact Or.inl hbefore
      · obtain ⟨later, hlater, hname⟩ := h'.redirectors ldr redirector hfound
        refine Or.inr ⟨hcleared, ldr, later, hnone, hlater, ?_⟩
        rw [hname, h'.directory, hpath]
    · exact Or.inr ⟨hcleared, ldr, redirector, h.fresh hnone, hfound, hpath⟩

theorem quiet_close (fd : Nat) : Quiet ld (ld.close fd) :=
  quiet_closed (fun _ client hclient => ⟨client, hclient, rfl, rfl⟩)
    (fun _ redirector hredirector => ⟨redirector, hredirector, rfl, rfl⟩)
    fun _ redirector hredirector => ⟨redirector, hredirector, rfl⟩

theorem quiet_accept (haccept : ld.ldrdAcceptRedirect ldrd = some after) : Quiet ld after := by
  unfold LogDirector.ldrdAcceptRedirect at haccept
  split at haccept
  · cases haccept
  · rename_i client hclient
    split at haccept
    · cases haccept
      refine quiet_closed ?_ (fun _ redirector hredirector => ⟨redirector, hredirector, rfl, rfl⟩)
        fun _ redirector hredirector => ⟨redirector, hredirector, rfl⟩
      intro address other hother
      by_cases haddress : address = ldrd
      · rw [haddress, Function.update_self] at hother
        cases hother
        rw [haddress]
        exact ⟨client, hclient, rfl, rfl⟩
      · rw [Function.update_of_ne haddress] at hother
        exact ⟨other, hother, rfl, rfl⟩
    · cases haccept
      exact quiet_refl

theorem quiet_freeclient (h : Redirected ld) (hfree : ld.ldrdFreeclient ldrd = some after) :
    Quiet ld after := by
  unfold LogDirector.ldrdFreeclient at hfree
  split at hfree
  · cases hfree
  · rename_i client hclient
    obtain ⟨pipe, howned⟩ := h.owned ldrd client hclient
    obtain ⟨redirector, hredirector⟩ := Option.isSome_iff_exists.mp (h.listed ldrd client hclient)
    have hclosed := howned.unclosed
    rw [hredirector] at hfree
    simp only [hclosed, Bool.not_false, if_true] at hfree
    have hfreed (start : LogDirector)
        (hstart : start.clients = ld.clients ∧ start.redirectors = ld.redirectors) :
        Quiet start { start.close client.readfd with
          redirectors := Function.update ld.redirectors client.ldr
            (some { redirector with clients := redirector.clients.remove ldrd })
          clients := Function.update ld.clients ldrd none } := by
      apply quiet_closed
      · intro address other hother
        rw [hstart.1]
        by_cases haddress : address = ldrd
        · rw [haddress, Function.update_self] at hother
          cases hother
        · rw [Function.update_of_ne haddress] at hother
          exact ⟨other, hother, rfl, rfl⟩
      · intro ldr other hother
        rw [hstart.2]
        exact redirector_of_update hredirector hother
      · intro ldr before hbefore
        rw [hstart.2] at hbefore
        exact redirector_stays hredirector hbefore
    cases hfree
    cases client.thisAccepted with
    | true => exact hfreed ld ⟨rfl, rfl⟩
    | false =>
      exact (quiet_close client.writefd).trans (hfreed (ld.close client.writefd) ⟨rfl, rfl⟩)

theorem quiet_register (h : Redirected ld) {logname : List UInt8} {answers : RedirectAnswers}
    {clients : LinkedList Nat} (hunused : ld.redirectors answers.address = none)
    (hlogfilefd : ld.fdOpened answers.logfilefd = none) :
    Quiet ld { ld with
      processes := ld.processes.open daemon answers.logfilefd ⟨.log ld.opened, true⟩
      logs := Function.update ld.logs ld.opened ⟨logfileName ld.logDirectory logname, []⟩
      opened := ld.opened + 1
      files := Function.update ld.files (logfileName ld.logDirectory logname) []
      redirectors :=
        Function.update ld.redirectors answers.address (some ⟨logname, answers.logfilefd, clients⟩)
      redirects := ld.redirects.insertHead answers.address } := by
  have hopened : ∀ fd,
      ((ld.processes.open daemon answers.logfilefd ⟨.log ld.opened, true⟩).opened daemon fd).map
      OpenFile.file = if fd = answers.logfilefd then some (.log ld.opened) else ld.fdOpened fd :=
    fun fd => fdOpened_open h.alive _
  constructor
  case pipes => exact Nat.le_refl _
  case directory => rfl
  case clients =>
    intro address client pipe hclient hread _
    refine ⟨client, hclient, ?_, rfl⟩
    have hfile := (hopened _).symm.trans hread
    split at hfile
    · cases hfile
    · exact hfile
  case redirectors =>
    intro ldr redirector hredirector
    refine ⟨redirector, ?_, rfl⟩
    dsimp only
    rw [Function.update_of_ne, hredirector]
    rintro rfl
    rw [hunused] at hredirector
    cases hredirector
  case logs =>
    intro ldr redirector number hredirector hlog
    have hfile := (hopened _).symm.trans hlog
    dsimp only at hredirector
    by_cases hldr : ldr = answers.address
    · rw [hldr, Function.update_self] at hredirector
      cases hredirector
      rw [if_pos rfl] at hfile
      cases hfile
      refine Or.inr ⟨?_, ?_, ?_⟩
      · rw [hldr]
        exact hunused
      · exact Function.update_self ..
      · exact Function.update_self ..
    · rw [Function.update_of_ne hldr] at hredirector
      obtain ⟨old, hold⟩ := h.logged ldr redirector hredirector
      have hne : redirector.logfilefd ≠ answers.logfilefd := by
        intro heq
        rw [heq, hlogfilefd] at hold
        cases hold
      rw [if_neg hne] at hfile
      obtain ⟨opened, hfound, hmade⟩ := Option.map_eq_some_iff.mp hfile
      have hlt := h.made daemon _ opened hfound
      rw [hmade] at hlt
      exact Or.inl ⟨redirector, hredirector, rfl, hfile,
        Function.update_of_ne (Nat.ne_of_lt hlt) ..⟩
  case files =>
    intro path
    by_cases hpath : path = logfileName ld.logDirectory logname
    · rw [hpath]
      exact Or.inr ⟨Function.update_self .., answers.address,
        _, hunused, Function.update_self .., rfl⟩
    · exact Or.inl (Function.update_of_ne hpath ..)

theorem quiet_newclient (h : Redirected ld) {address ldr readfd writefd : Nat}
    {redirector : Redirector}
    {clients : LinkedList Nat} (hredirector : ld.redirectors ldr = some redirector) :
    Quiet ld { ld with
      processes := (ld.processes.open daemon readfd ⟨.readEnd ld.pipes, false⟩).open daemon writefd
        ⟨.writeEnd ld.pipes, false⟩
      pipes := ld.pipes + 1
      events := ld.events.add (.read readfd) address
      clients :=
        Function.update ld.clients address (some ⟨readfd, writefd, false, false, false, ldr⟩)
      redirectors := Function.update ld.redirectors ldr (some { redirector with clients }) } := by
  have hopened := newclient_opened h.alive readfd writefd
  constructor
  case pipes => exact Nat.le_succ _
  case directory => rfl
  case clients =>
    intro address' client pipe hclient hread hpipe
    have hfile := (hopened _).symm.trans hread
    have hold : ld.fdOpened client.readfd = some (.readEnd pipe) ∧ client.readfd ≠ readfd := by
      split at hfile
      · cases hfile
      · split at hfile
        · cases hfile
          exact absurd hpipe (Nat.lt_irrefl _)
        · rename_i hne
          exact ⟨hfile, hne⟩
    dsimp only at hclient
    rw [Function.update_of_ne] at hclient
    · exact ⟨client, hclient, hold.1, rfl⟩
    · rintro rfl
      rw [Function.update_self] at hclient
      cases hclient
      exact hold.2 rfl
  case redirectors => exact fun ldr' before hbefore => redirector_stays hredirector hbefore
  case logs =>
    intro ldr' after number hafter hlog
    have hfile := (hopened _).symm.trans hlog
    obtain ⟨old, hold, hsame, hname⟩ := redirector_of_update hredirector hafter
    refine Or.inl ⟨old, hold, hname, ?_, rfl⟩
    rw [hsame]
    split at hfile
    · cases hfile
    · split at hfile
      · cases hfile
      · exact hfile
  case files => exact fun path => Or.inl rfl

theorem LogStep.quiet {op : LogOp} (h : Redirected ld) (hstep : LogStep ld op output after) :
    output = none ∧ Quiet ld after ∨ ∃ fd answers,
      op = .event fd answers ∧ LogEvent ld fd answers output after := by
  cases hstep with
  | registered hunused hlogfilefd _ => exact Or.inl ⟨rfl, quiet_register h hunused hlogfilefd⟩
  | unconnected pipes => exact Or.inl ⟨rfl, quiet_same (Nat.le_add_right _ _) _⟩
  | connected hredirector _ _ _ _ => exact Or.inl ⟨rfl, quiet_newclient h hredirector⟩
  | accepted haccept => exact Or.inl ⟨rfl, quiet_accept haccept⟩
  | spared _ hspares => exact Or.inl ⟨rfl, quiet_spared hspares⟩
  | written => exact Or.inl ⟨rfl, quiet_same (Nat.le_refl _) _⟩
  | @event fd answers output after hevent => exact Or.inr ⟨fd, answers, rfl, hevent⟩

end

end Vmstated.Liblogging
