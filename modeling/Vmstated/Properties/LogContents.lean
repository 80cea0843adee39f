import Vmstated.Liblogging.RedirectSteps
import Vmstated.Properties.LogForwarding

/-! What becomes of what processes write: in every run, the contents of the log
files, and what is lost. -/
namespace Vmstated.Properties
open Library Liblogging

abbrev LogTransit := Transit LogDirector LogOp (Option Forwarded)

def writtenTo (pipe : Nat) (x : LogTransit) : List UInt8 :=
  match x.input with
  | .write pid fd bytes =>
    match x.before.processes.opened pid fd with
    | some ⟨.writeEnd other, _⟩ => if other = pipe then bytes else []
    | _ => []
  | _ => []

def forwardedFrom (pipe : Nat) (x : LogTransit) : List UInt8 :=
  match x.output with
  | none => []
  | some forwarded => if forwarded.pipe = pipe then forwarded.bytes else []

/-- What a step moves to the log of a redirector. -/
def forwardedTo (ldr : Nat) (x : LogTransit) : List UInt8 :=
  match x.output with
  | none => []
  | some forwarded => if forwarded.ldr = ldr then forwarded.bytes else []

def logPath (ld : LogDirector) (redirector : Redirector) : List UInt8 :=
  logfileName ld.logDirectory redirector.logname

/-- No other redirector has the path of this one's log. Their names are not
checked. -/
def Sole (ld : LogDirector) (ldr : Nat) (redirector : Redirector) : Prop :=
  ∀ other redirector', ld.redirectors other = some redirector' →
    logPath ld redirector' = logPath ld redirector → other = ldr

/-- The calls for an event succeed, and move something. -/
def Succeeds (op : LogOp) : Prop :=
  ∀ fd answers, op = .event fd answers → answers.recv.lockOk = true ∧ answers.recv.buffer ≠ none ∧
    Flowing answers.reads ∧ Flowing answers.writes

theorem writeAt_end (file bytes : List UInt8) : writeAt file.length bytes file = file ++ bytes := by
  have hdrop : file.drop (file.length + bytes.length) = [] :=
    List.drop_eq_nil_of_le (Nat.le_add_right _ _)
  rw [writeAt, Nat.sub_self, zeros, List.replicate_zero, List.append_nil,
    overlay, List.take_length, hdrop, List.append_nil]

theorem Sole.before {ld after : LogDirector} {ldr : Nat}
    {redirector old : Redirector} (h : Sole after ldr redirector)
    (hquiet : Quiet ld after) (hname : old.logname = redirector.logname) : Sole ld ldr old := by
  intro other redirector' hother hpath
  obtain ⟨later, hlater, hsame⟩ := hquiet.redirectors other redirector' hother
  apply h other later hlater
  rw [logPath, logPath, hsame, ← hname, hquiet.directory]
  exact hpath

/-! One event. -/

theorem pipeCalls_succ {counts : Counts} {most : Nat} (hfirst : counts 0 = some most)
    (contents : List UInt8) (i : Nat) :
    pipeCalls (i + 1) counts contents = pipeCalls i counts.rest (contents.drop most) := by
  rw [pipeCalls, hfirst]

theorem front_nothing (delivered contents : List UInt8) :
    ∃ k, delivered = delivered ++ contents.take k :=
  ⟨0, by rw [List.take_zero, List.append_nil]⟩

theorem read_front {s t : ReadState} {result : Unit}
    (h : Ends readRound s result t) {counts : Counts}
    {contents : List UInt8} (hcalls : s.pipe.calls = fun i => pipeCalls i counts contents)
    (htotal : contents.length ≤ s.total) :
    ∃ k, t.pipe.delivered = s.pipe.delivered ++ contents.take k := by
  induction h using Ends.rounds generalizing counts contents with
  | @last s t result hround =>
    by_cases hzero : s.total = 0
    · rw [readRound_done hzero] at hround
      cases hround
      exact front_nothing _ _
    · cases hcall : s.pipe.calls 0 with
      | none =>
        rw [readRound_failed hzero hcall] at hround
        cases hround
        exact front_nothing _ _
      | some found =>
        rw [readRound_found hzero hcall] at hround
        cases hround
  | @next s t u result hround h ih =>
    by_cases hzero : s.total = 0
    · rw [readRound_done hzero] at hround
      cases hround
    · cases hcall : s.pipe.calls 0 with
      | none =>
        rw [readRound_failed hzero hcall] at hround
        cases hround
      | some found =>
        rw [readRound_found hzero hcall] at hround
        have hfirst : pipeCalls 0 counts contents = some found :=
          (congrFun hcalls 0).symm.trans hcall
        rw [pipeCalls, Option.map_eq_some_iff] at hfirst
        obtain ⟨most, hmost, rfl⟩ := hfirst
        have hlength : ((contents.take most).take s.total).length = min most contents.length := by
          rw [List.length_take, List.length_take]
          omega
        have hwhole : (contents.take most).take s.total = contents.take most := by
          apply List.take_of_length_le
          rw [List.length_take]
          omega
        cases hround
        obtain ⟨k, hrest⟩ := @ih counts.rest (contents.drop most)
          (funext fun i => (congrFun hcalls (i + 1)).trans (pipeCalls_succ hmost contents i))
          (by dsimp only; rw [List.length_drop, hlength]; omega)
        refine ⟨most + k, ?_⟩
        rw [hrest]
        dsimp only
        rw [hwhole, List.append_assoc, ← List.take_add]

theorem pipe_delivers {counts : Counts} (hflow : Flowing counts) (contents : List UInt8) :
    Delivers (fun i => pipeCalls i counts contents) contents.length := by
  induction hlength : contents.length using Nat.strong_induction_on
    generalizing counts contents with
  | h n ih =>
    subst hlength
    cases contents with
    | nil => exact delivers_zero _
    | cons byte contents =>
      obtain ⟨most, hmost⟩ := hflow 0
      have hfirst : pipeCalls 0 counts (byte :: contents) = some (byte :: contents.take most) := by
        rw [pipeCalls, hmost]
        rfl
      have hrest : (fun i => pipeCalls (i + 1) counts (byte :: contents)) =
          fun i => pipeCalls i counts.rest (contents.drop most) := by
        funext i
        rw [pipeCalls_succ hmost]
        rfl
      rw [delivers_iff hfirst, hrest]
      have hleft : (byte :: contents).length - (byte :: contents.take most).length =
          (contents.drop most).length := by
        rw [List.length_cons, List.length_cons, List.length_take, List.length_drop]
        omega
      rw [hleft]
      exact ih _ (by rw [List.length_drop, List.length_cons]; omega) hflow.rest _ rfl

section
variable {fuel : Nat} {answers : RecvAnswers} {contents written : List UInt8}
  {reads writes : Counts} {result : Int} {pipeEnd : PipeEnd} {sink : Sink UInt8}

theorem recv_front
    (hcall : ldrRecvOndata fuel answers contents.length ⟨fun i => pipeCalls i reads contents, []⟩
      ⟨written, writes⟩ = some (result, pipeEnd, sink)) : ∃ k,
        pipeEnd.delivered = contents.take k := by
  have hfailed : ∃ k, ([] : List UInt8) = contents.take k := ⟨0, (List.take_zero).symm⟩
  cases hlock : answers.lockOk with
  | false =>
    rw [ldrRecvOndata, hlock] at hcall
    cases hcall
    exact hfailed
  | true =>
    cases hbuffer : answers.buffer with
    | none =>
      rw [ldrRecvOndata, hlock, hbuffer] at hcall
      cases hcall
      exact hfailed
    | some fresh =>
      obtain ⟨-, s, t, hreads, -, rfl, -⟩ := (recv_iff hlock hbuffer).mp ⟨fuel, hcall⟩
      obtain ⟨k, hdelivered⟩ := read_front hreads rfl (Nat.le_refl _)
      exact ⟨k, hdelivered⟩

theorem recv_all (hlock : answers.lockOk = true) (hbuffer : answers.buffer ≠ none)
    (hreads : Flowing reads) (hwrites : Flowing writes)
    (hcall : ldrRecvOndata fuel answers contents.length ⟨fun i => pipeCalls i reads contents, []⟩
      ⟨written, writes⟩ = some (result, pipeEnd, sink)) :
    pipeEnd.delivered = contents ∧ sink.written = written ++ contents := by
  obtain ⟨fresh, hfresh⟩ := Option.ne_none_iff_exists'.mp hbuffer
  have hdelivers := pipe_delivers hreads contents
  have hlossless :=
    (@forwards_iff_delivers answers contents.length ⟨fun i => pipeCalls i reads contents, []⟩
      ⟨written, writes⟩ fresh hwrites hlock hfresh).mpr hdelivers
  obtain ⟨fuel', result', after, logged, bytes, hother, hdelivered, hwritten⟩ := hlossless
  obtain ⟨-, s, t, hread, hwrite, rfl, rfl⟩ := (recv_iff hlock hfresh).mp ⟨fuel, hcall⟩
  obtain ⟨-, s', t', hread', hwrite', rfl, rfl⟩ := (recv_iff hlock hfresh).mp ⟨fuel', hother⟩
  obtain ⟨-, rfl⟩ := hread.unique hread'
  obtain ⟨-, rfl⟩ := hwrite.unique hwrite'
  obtain ⟨k, hfront⟩ := read_front hread rfl (Nat.le_refl _)
  obtain ⟨found, hfound⟩ := read_ended hread (by simp [readStart, freshBuffer_length])
  have hcount : found.length = contents.length := hfound.delivers.mpr hdelivers
  have hsame : found = contents.take k := hfound.delivered.symm.trans hfront
  have hwhole : contents.take k = contents := by
    rw [hsame, List.length_take] at hcount
    exact List.take_of_length_le (by omega)
  have hall : s.pipe.delivered = contents := hfront.trans hwhole
  refine ⟨hall, ?_⟩
  rw [hwritten, ← hall, hdelivered]
  rfl

end

/-! One step. -/

section
variable {ld after : LogDirector} {op : LogOp} {output : Option Forwarded}

theorem contents_step (hstep : LogStep ld op output after) (pipe : Nat) :
    ld.contents pipe ++ writtenTo pipe ⟨ld, op, output, after⟩ =
      forwardedFrom pipe ⟨ld, op, output, after⟩ ++ after.contents pipe := by
  cases hstep with
  | registered => exact List.append_nil _
  | unconnected => exact List.append_nil _
  | connected => exact List.append_nil _
  | accepted haccept =>
    rw [(closes_accept haccept).contents]
    exact List.append_nil _
  | @spared op processes hop hspares =>
    have hnothing : writtenTo pipe ⟨ld, op, none, { ld with processes }⟩ = [] := by
      unfold writtenTo
      dsimp only
      split
      · exact absurd rfl (hop _ _ _)
      · rfl
    rw [hnothing]
    exact List.append_nil _
  | @written pid fd other bytes closeOnExec hopened =>
    unfold writtenTo forwardedFrom
    dsimp only
    rw [hopened]
    dsimp only
    by_cases hpipe : other = pipe
    · rw [if_pos hpipe, ← hpipe, Function.update_self]
      rfl
    · rw [if_neg hpipe, Function.update_of_ne (Ne.symm hpipe)]
      exact List.append_nil _
  | event hevent =>
    have hnothing (fd : Nat) (answers : LogAnswers) :
        writtenTo pipe ⟨ld, .event fd answers, output, after⟩ = [] := rfl
    rw [hnothing, List.append_nil]
    cases hevent with
    | closed _ _ _ _ hfree =>
      rw [(closes_freeclient hfree).contents]
      rfl
    | @received ldrd other number client redirector result pipeEnd sink _ _ _ _ _ _ hrecv =>
      obtain ⟨k, hfront⟩ := recv_front hrecv
      unfold forwardedFrom
      dsimp only
      by_cases hpipe : other = pipe
      · have hdrop : (ld.contents other).drop pipeEnd.delivered.length =
          (ld.contents other).drop k := by
          rw [hfront, List.length_take]
          rcases Nat.le_total k (ld.contents other).length with hle | hle
          · rw [Nat.min_eq_left hle]
          · rw [Nat.min_eq_right hle, List.drop_length, List.drop_eq_nil_of_le hle]
        rw [if_pos hpipe, ← hpipe, Function.update_self, hdrop, hfront, List.take_append_drop]
      · rw [if_neg hpipe, Function.update_of_ne (Ne.symm hpipe)]
        rfl

structure Logged (transits : List LogTransit) (ld : LogDirector) : Prop where
  written : ∀ ldr redirector number, ld.redirectors ldr = some redirector →
    ld.fdOpened redirector.logfilefd = some (.log number) →
    (ld.logs number).written = transits.flatMap (forwardedTo ldr)
  named : ∀ ldr redirector number, ld.redirectors ldr = some redirector →
    ld.fdOpened redirector.logfilefd = some (.log number) →
      (ld.logs number).name = logPath ld redirector
  filed : ∀ ldr redirector number, ld.redirectors ldr = some redirector →
    ld.fdOpened redirector.logfilefd = some (.log number) → Sole ld ldr redirector →
    ld.files (logPath ld redirector) = (ld.logs number).written
  known : ∀ x ∈ transits, ∀ forwarded, x.output = some forwarded →
    (ld.redirectors forwarded.ldr).isSome = true ∧ forwarded.pipe < ld.pipes
  sources : ∀ x ∈ transits, ∀ forwarded, x.output = some forwarded → ∀ address client,
    ld.clients address = some client → ld.fdOpened client.readfd = some (.readEnd forwarded.pipe) →
    client.ldr = forwarded.ldr
  single : ∀ x ∈ transits, ∀ y ∈ transits, ∀ forwarded other, x.output = some forwarded →
    y.output = some other → forwarded.pipe = other.pipe → forwarded.ldr = other.ldr

theorem Logged.nothing {transits : List LogTransit} (h : Logged transits ld) {ldr : Nat}
    (hnone : ld.redirectors ldr = none) : transits.flatMap (forwardedTo ldr) = [] := by
  rw [List.flatMap_eq_nil_iff]
  intro x hx
  unfold forwardedTo
  split
  · rfl
  · rename_i forwarded houtput
    rw [if_neg]
    rintro rfl
    have hknown := (h.known x hx forwarded houtput).1
    rw [hnone] at hknown
    cases hknown

theorem Logged.quiet {transits : List LogTransit} (h : Logged transits ld)
    (hquiet : Quiet ld after) :
    Logged (transits ++ [⟨ld, op, none, after⟩]) after := by
  have hold {x : LogTransit} (hx : x ∈ transits ++ [⟨ld, op, none, after⟩]) {forwarded : Forwarded}
      (houtput : x.output = some forwarded) : x ∈ transits := by
    rcases List.mem_append.mp hx with hx | hx
    · exact hx
    · rw [List.mem_singleton.mp hx] at houtput
      cases houtput
  constructor
  case written =>
    intro ldr redirector number hredirector hlog
    rw [List.flatMap_append, List.flatMap_singleton, forwardedTo, List.append_nil]
    rcases hquiet.logs ldr redirector number hredirector hlog
      with ⟨old, hfound, -, hopened, hsame⟩ | ⟨hnone, hnew, -⟩
    · rw [hsame]
      exact h.written ldr old number hfound hopened
    · rw [hnew]
      exact (h.nothing hnone).symm
  case named =>
    intro ldr redirector number hredirector hlog
    rcases hquiet.logs ldr redirector number hredirector hlog
      with ⟨old, hfound, hname, hopened, hsame⟩ | ⟨-, hnew, -⟩
    · rw [hsame, h.named ldr old number hfound hopened, logPath, logPath, hname, hquiet.directory]
    · rw [hnew]
      rfl
  case filed =>
    intro ldr redirector number hredirector hlog hsole
    rcases hquiet.logs ldr redirector number hredirector hlog with
      ⟨old, hfound, hname, hopened, hsame⟩ | ⟨-, hnew, hempty⟩
    · have hpath : logPath ld old = logPath after redirector := by
        rw [logPath, logPath, hname, hquiet.directory]
      rw [hsame, ← h.filed ldr old number hfound hopened (hsole.before hquiet hname), hpath]
      -- a new redirector of this path would be another one
      rcases hquiet.files (logPath after redirector)
        with hkept | ⟨-, ldr', new, hnone, hnew, hshared⟩
      · exact hkept
      · rw [hsole ldr' new hnew hshared, hfound] at hnone
        cases hnone
    · rw [hnew]
      exact hempty
  case known =>
    intro x hx forwarded houtput
    obtain ⟨hknown, hpipe⟩ := h.known x (hold hx houtput) forwarded houtput
    obtain ⟨redirector, hredirector⟩ := Option.isSome_iff_exists.mp hknown
    obtain ⟨later, hlater, -⟩ := hquiet.redirectors _ redirector hredirector
    exact ⟨Option.isSome_iff_exists.mpr ⟨later, hlater⟩, hpipe.trans_le hquiet.pipes⟩
  case sources =>
    intro x hx forwarded houtput address client hclient hread
    have hpipe := (h.known x (hold hx houtput) forwarded houtput).2
    obtain ⟨old, hfound, hopened, hldr⟩ := hquiet.clients address client _ hclient hread hpipe
    rw [← hldr]
    exact h.sources x (hold hx houtput) forwarded houtput address old hfound hopened
  case single =>
    intro x hx y hy forwarded other hforwarded hother
    exact h.single x (hold hx hforwarded) y (hold hy hother) forwarded other hforwarded hother

theorem Logged.event {transits : List LogTransit} {fd : Nat}
    {answers : LogAnswers} (hredirected : Redirected ld)
    (h : Logged transits ld) (hsucceeds : Succeeds (.event fd answers))
    (hevent : LogEvent ld fd answers output after) :
    Logged (transits ++ [⟨ld, .event fd answers, output, after⟩]) after := by
  cases hevent with
  | closed _ _ _ _ hfree => exact h.quiet (quiet_freeclient hredirected hfree)
  | @received ldrd pipe number client redirector result pipeEnd
      sink hclient hfd hpipe _ hredirector hlog hrecv =>
    obtain ⟨hlock, hbuffer, hreads, hwrites⟩ := hsucceeds fd answers rfl
    obtain ⟨hdelivered, hsink⟩ := recv_all hlock hbuffer hreads hwrites hrecv
    rw [← hfd] at hpipe
    obtain ⟨mine, howned⟩ := hredirected.owned ldrd client hclient
    have hmine : mine = pipe :=
      LogFile.readEnd.inj (Option.some.inj (howned.reads.symm.trans hpipe))
    rw [hmine] at howned
    have hne {ldr number' : Nat} {other : Redirector} (hother : ld.redirectors ldr = some other)
        (hlog' : ld.fdOpened other.logfilefd = some (.log number'))
          (hldr : client.ldr ≠ ldr) : number' ≠ number := by
      rintro rfl
      exact hldr
        (hredirected.apart client.ldr ldr redirector other number' hredirector hother hlog hlog')
    constructor
    case written =>
      intro ldr other number' hother hlog'
      rw [List.flatMap_append, List.flatMap_singleton, forwardedTo,
        ← h.written ldr other number' hother hlog']
      dsimp only
      by_cases hldr : client.ldr = ldr
      · rw [← hldr, hredirector] at hother
        cases hother
        cases hlog.symm.trans hlog'
        rw [if_pos hldr, Function.update_self]
        dsimp only
        rw [hsink, hdelivered]
      · rw [if_neg hldr, Function.update_of_ne (hne hother hlog' hldr), List.append_nil]
    case named =>
      intro ldr other number' hother hlog'
      refine Eq.trans ?_ (h.named ldr other number' hother hlog')
      dsimp only
      by_cases hnumber : number' = number
      · rw [hnumber, Function.update_self]
      · rw [Function.update_of_ne hnumber]
    case filed =>
      intro ldr other number' hother hlog' hsole
      have hname := h.named client.ldr redirector number hredirector hlog
      have hfile := h.filed ldr other number' hother hlog' hsole
      dsimp only [logPath] at hfile ⊢
      by_cases hldr : client.ldr = ldr
      · rw [← hldr, hredirector] at hother
        cases hother
        cases hlog.symm.trans hlog'
        rw [Function.update_self, hname, logPath, Function.update_self,
          hfile, hsink, List.drop_left, writeAt_end]
      · have hpath : logfileName ld.logDirectory other.logname ≠ (ld.logs number).name := by
          intro heq
          rw [hname] at heq
          exact hldr (hsole client.ldr redirector hredirector heq.symm)
        rw [Function.update_of_ne hpath, Function.update_of_ne (hne hother hlog' hldr), hfile]
    case known =>
      intro x hx forwarded houtput
      rcases List.mem_append.mp hx with hx | hx
      · exact h.known x hx forwarded houtput
      · rw [List.mem_singleton.mp hx] at houtput
        cases houtput
        obtain ⟨opened, hopened, hfile⟩ := Option.map_eq_some_iff.mp hpipe
        have hmade := hredirected.made daemon _ opened hopened
        rw [hfile] at hmade
        exact ⟨Option.isSome_iff_exists.mpr ⟨redirector, hredirector⟩, hmade⟩
    case sources =>
      intro x hx forwarded houtput address other hother hread
      rcases List.mem_append.mp hx with hx | hx
      · exact h.sources x hx forwarded houtput address other hother hread
      · rw [List.mem_singleton.mp hx] at houtput
        cases houtput
        obtain ⟨theirs, howned'⟩ := hredirected.owned address other hother
        have htheirs : theirs = pipe :=
          LogFile.readEnd.inj (Option.some.inj (howned'.reads.symm.trans hread))
        rw [htheirs] at howned'
        have hsame := hredirected.same_client howned' howned
        rw [hsame] at hother
        cases hclient.symm.trans hother
        rfl
    case single =>
      intro x hx y hy forwarded other hforwarded hother hpipes
      have hlive {z : LogTransit} (hz : z ∈ transits) {earlier : Forwarded}
          (houtput : z.output = some earlier)
          (hsame : earlier.pipe = pipe) : client.ldr = earlier.ldr := by
        rw [← hsame] at hpipe
        exact h.sources z hz earlier houtput ldrd client hclient hpipe
      rcases List.mem_append.mp hx with hx | hx
      · rcases List.mem_append.mp hy with hy | hy
        · exact h.single x hx y hy forwarded other hforwarded hother hpipes
        · rw [List.mem_singleton.mp hy] at hother
          cases hother
          exact (hlive hx hforwarded hpipes).symm
      · rw [List.mem_singleton.mp hx] at hforwarded
        cases hforwarded
        rcases List.mem_append.mp hy with hy | hy
        · exact hlive hy hother hpipes.symm
        · rw [List.mem_singleton.mp hy] at hother
          cases hother
          rfl

end

section
variable {logDirectory : List UInt8} {links : Nat → Option Nat}
  {transits : List LogTransit} {ld : LogDirector}

theorem run_contents (run : Run logDirector (ldNew logDirectory links) transits ld) (pipe : Nat) :
    transits.flatMap (writtenTo pipe) = transits.flatMap (forwardedFrom pipe) ++
      ld.contents pipe := by
  induction run with
  | nil => rfl
  | @snoc transits mid after op output run hstep ih =>
    have hcontents := contents_step (logDirector_step (run_redirected run) hstep) pipe
    rw [List.flatMap_append, List.flatMap_append, List.flatMap_singleton,
      List.flatMap_singleton, ih, List.append_assoc, hcontents, List.append_assoc]

theorem run_logged (run : Run logDirector (ldNew logDirectory links) transits ld)
    (hsucceeds : ∀ x ∈ transits, Succeeds x.input) : Logged transits ld := by
  induction run with
  | nil =>
    constructor
    case written =>
      intro ldr redirector number hredirector
      cases hredirector
    case named =>
      intro ldr redirector number hredirector
      cases hredirector
    case filed =>
      intro ldr redirector number hredirector
      cases hredirector
    case known =>
      intro x hx
      cases hx
    case sources =>
      intro x hx
      cases hx
    case single =>
      intro x hx
      cases hx
  | @snoc transits mid after op output run hstep ih =>
    have hbefore := ih fun x hx => hsucceeds x (List.mem_append_left _ hx)
    have hlast := hsucceeds ⟨mid, op, output, after⟩ (List.mem_append_right _ List.mem_cons_self)
    have hredirected := run_redirected run
    rcases (logDirector_step hredirected hstep).quiet hredirected
      with ⟨rfl, hquiet⟩ | ⟨fd, answers, rfl, hevent⟩
    · exact hbefore.quiet hquiet
    · exact hbefore.event hredirected hlast hevent

end

/-- The file of a redirector that shares it with no other holds what was moved to
it, nothing twice and in this order: from each of its pipes the front of what was
written to that pipe, and what is not there is still in the pipe. No pipe is moved
to two logs. -/
theorem logs_hold {logDirectory : List UInt8} {links : Nat → Option Nat}
    {transits : List LogTransit} {ld : LogDirector}
    (run : Run logDirector (ldNew logDirectory links) transits ld)
    (hsucceeds : ∀ x ∈ transits, Succeeds x.input) :
    (∀ ldr redirector, ld.redirectors ldr = some redirector → Sole ld ldr redirector →
      ld.files (logPath ld redirector) = transits.flatMap (forwardedTo ldr)) ∧
    (∀ pipe, transits.flatMap (writtenTo pipe) =
      transits.flatMap (forwardedFrom pipe) ++ ld.contents pipe) ∧
    ∀ x ∈ transits, ∀ y ∈ transits, ∀ forwarded other, x.output = some forwarded →
      y.output = some other → forwarded.pipe = other.pipe → forwarded.ldr = other.ldr := by
  have hlogged := run_logged run hsucceeds
  refine ⟨?_, run_contents run, hlogged.single⟩
  intro ldr redirector hredirector hsole
  obtain ⟨number, hlog⟩ := (run_redirected run).logged ldr redirector hredirector
  rw [hlogged.filed ldr redirector number hredirector hlog hsole,
    hlogged.written ldr redirector number hredirector hlog]

def wholePages : LogAnswers := ⟨⟨true, some fun _ => 170⟩, pages, pages, 4⟩

/-- There are two logs. A process writes three bytes, of which the daemon moves one
before the process exits; the other two come too late. -/
def lateOutput : List LogOp :=
  [.register (ascii "a") ⟨100, 5⟩, .register (ascii "b") ⟨101, 8⟩,
    .newclient 100 ⟨some 200, some (6, 7), true, true⟩, .launch 9 (some 200),
    .acceptRedirect 200, .write 9 1 [97], .event 6 wholePages,
      .write 9 2 [98, 99], .exit 9, .event 6 wholePages]

theorem lateOutput_succeeds : ∀ op ∈ lateOutput, Succeeds op := by
  intro op hop fd answers hevent
  have hanswers : answers = wholePages := by
    subst hevent
    simp only [lateOutput, List.mem_cons, List.not_mem_nil,
      reduceCtorEq, LogOp.event.injEq, or_false, false_or] at hop
    rcases hop with ⟨-, rfl⟩ | ⟨-, rfl⟩ <;> rfl
  rw [hanswers]
  exact ⟨rfl, Option.some_ne_none _, pages_flowing, pages_flowing⟩

theorem logs_hold_lateOutput :
    ∃ (transits : List LogTransit) (ld : LogDirector) (redirector : Redirector),
    logDirector.exec (ldNew [] fun _ => none) lateOutput = some (transits, ld) ∧
      ld.redirectors 100 = some redirector ∧ logPath ld redirector = ascii "/a.log" ∧
      ld.files (logPath ld redirector) = [97] ∧
      ld.files (logPath ld redirector) = transits.flatMap (forwardedTo 100) := by
  have hrun : (logDirector.exec (ldNew [] fun _ => none) lateOutput).any (fun run =>
      run.2.redirects.first == some 101 && run.2.redirects.next 101 == some 100 &&
        run.2.redirects.next 100 == none &&
        (run.2.redirectors 101).any (logPath run.2 · == ascii "/b.log") &&
        (run.2.redirectors 100).any (logPath run.2 · == ascii "/a.log") &&
        run.2.files (ascii "/a.log") == [97]) = true := by
    decide +kernel
  obtain ⟨⟨transits, ld⟩, hexec, hstate⟩ := (Option.any_eq_true _ _).mp hrun
  simp only [Bool.and_eq_true, beq_iff_eq] at hstate
  obtain ⟨⟨⟨⟨⟨hfirst, hnext⟩, hlast⟩, hb⟩, ha⟩, hfile⟩ := hstate
  obtain ⟨redirector, hredirector, hpath⟩ := (Option.any_eq_true _ _).mp ha
  obtain ⟨second, hsecond, hother⟩ := (Option.any_eq_true _ _).mp hb
  rw [beq_iff_eq] at hpath hother
  have hrun := Machine.exec_run hexec
  have hsucceeds : ∀ x ∈ transits, Succeeds x.input := by
    intro x hx
    apply lateOutput_succeeds
    rw [← Machine.exec_inputs hexec]
    exact List.mem_map_of_mem hx
  obtain ⟨items, hholds, hitems⟩ := (run_redirected hrun).registered
  have hchain : TailQueue.Chain ld.redirects.next ld.redirects.first [101, 100] :=
    ⟨hfirst, hnext, hlast⟩
  have hboth : items = [101, 100] := hholds.chain.unique hchain
  have hsole : Sole ld 100 redirector := by
    intro ldr redirector' hfound hsame
    have hmem : ldr ∈ items := (hitems ldr).mpr (Option.isSome_iff_exists.mpr ⟨redirector', hfound⟩)
    rw [hboth, List.mem_cons, List.mem_singleton] at hmem
    rcases hmem with rfl | rfl
    · cases hsecond.symm.trans hfound
      rw [hother, hpath] at hsame
      exact absurd hsame (by decide)
    · rfl
  refine ⟨transits, ld, redirector, hexec, hredirector, hpath, ?_, ?_⟩
  · rw [hpath]
    exact hfile
  · exact (logs_hold hrun hsucceeds).1 100 redirector hredirector hsole

/-- A second redirector of the same name empties the file of the first. -/
example : (logDirector.exec (ldNew [] fun _ => none)
    [.register (ascii "a") ⟨100, 5⟩, .newclient 100 ⟨some 200, some (6, 7), true, true⟩,
      .launch 9 (some 200),
      .acceptRedirect 200, .write 9 1 [97], .event 6 wholePages,
        .register (ascii "a") ⟨101, 8⟩]).map
        (fun run => (run.1.flatMap (forwardedTo 100), run.2.files (ascii "/a.log"))) =
          some ([97], []) := by
  decide +kernel

/-! What was in the pipe at its end. -/

/-- Nobody can write to the pipe, and the daemon cannot read from it. -/
structure Abandoned (pipe : Nat) (contents : List UInt8) (ld : LogDirector) : Prop where
  made : pipe < ld.pipes
  unwritable : ∀ pid fd opened, ld.processes.opened pid fd = some opened →
    opened.file ≠ .writeEnd pipe
  unreadable : ∀ fd opened, ld.processes.opened daemon fd = some opened →
    opened.file ≠ .readEnd pipe
  kept : ld.contents pipe = contents

section
variable {ld after : LogDirector} {pipe : Nat} {contents : List UInt8}
  {op : LogOp} {output : Option Forwarded}

theorem Abandoned.closes (h : Abandoned pipe contents ld) (hcloses : Closes ld after) :
    Abandoned pipe contents after := by
  constructor
  · rw [hcloses.pipes]
    exact h.made
  · exact fun pid fd opened hopened =>
      h.unwritable pid fd opened (hcloses.opened pid fd opened hopened)
  · exact fun fd opened hopened => h.unreadable fd opened (hcloses.opened daemon fd opened hopened)
  · rw [hcloses.contents]
    exact h.kept

theorem Abandoned.step (h : Abandoned pipe contents ld) (hstep : LogStep ld op output after) :
    Abandoned pipe contents after := by
  cases hstep with
  | registered =>
    refine ⟨h.made, ?_, ?_, h.kept⟩
    · intro pid fd opened hopened
      rcases opened_open hopened with hbefore | rfl
      · exact h.unwritable pid fd opened hbefore
      · exact LogFile.noConfusion
    · intro fd opened hopened
      rcases opened_open hopened with hbefore | rfl
      · exact h.unreadable fd opened hbefore
      · exact LogFile.noConfusion
  | unconnected pipes => exact ⟨Nat.lt_add_right pipes h.made, h.unwritable, h.unreadable, h.kept⟩
  | connected =>
    have hne : ld.pipes ≠ pipe := (Nat.ne_of_lt h.made).symm
    refine ⟨Nat.lt_succ_of_lt h.made, ?_, ?_, h.kept⟩
    · intro pid fd opened hopened
      rcases opened_open hopened with hfirst | rfl
      · rcases opened_open hfirst with hbefore | rfl
        · exact h.unwritable pid fd opened hbefore
        · exact LogFile.noConfusion
      · exact fun heq => hne (LogFile.writeEnd.inj heq)
    · intro fd opened hopened
      rcases opened_open hopened with hfirst | rfl
      · rcases opened_open hfirst with hbefore | rfl
        · exact h.unreadable fd opened hbefore
        · exact fun heq => hne (LogFile.readEnd.inj heq)
      · exact LogFile.noConfusion
  | accepted haccept => exact h.closes (closes_accept haccept)
  | spared _ hspares =>
    refine ⟨h.made, ?_, ?_, h.kept⟩
    · intro pid fd opened hopened
      obtain ⟨pid', fd', old, hbefore, hfile⟩ := hspares.opens_nothing pid fd opened hopened
      rw [← hfile]
      exact h.unwritable pid' fd' old hbefore
    · intro fd opened hopened
      exact h.unreadable fd opened ((hspares.opened fd).symm.trans hopened)
  | @written pid fd other bytes closeOnExec hopened =>
    have hne : pipe ≠ other := by
      rintro rfl
      exact h.unwritable pid fd _ hopened rfl
    refine ⟨h.made, h.unwritable, h.unreadable, ?_⟩
    dsimp only
    rw [Function.update_of_ne hne]
    exact h.kept
  | event hevent =>
    cases hevent with
    | closed _ _ _ _ hfree => exact h.closes (closes_freeclient hfree)
    | @received ldrd other number client redirector result pipeEnd sink _ _ hpipe =>
      obtain ⟨opened, hopened, hfile⟩ := Option.map_eq_some_iff.mp hpipe
      have hne : pipe ≠ other := by
        rintro rfl
        exact h.unreadable _ opened hopened hfile
      refine ⟨h.made, h.unwritable, h.unreadable, ?_⟩
      dsimp only
      rw [Function.update_of_ne hne]
      exact h.kept

theorem abandoned_of_closed (h : Redirected ld) {fd : Nat} {answers : LogAnswers}
    (hevent : LogEvent ld fd answers none after) (hpipe : ld.fdOpened fd = some (.readEnd pipe)) :
    Abandoned pipe (ld.contents pipe) after := by
  cases hevent with
  | @closed ldrd mine client after hclient hfd hmine heof hfree =>
    cases hpipe.symm.trans hmine
    have hcloses := closes_freeclient hfree
    obtain ⟨opened, hopened, hfile⟩ := Option.map_eq_some_iff.mp hpipe
    have hmade := h.made daemon fd opened hopened
    rw [hfile] at hmade
    refine ⟨?_, ?_, ?_, congrFun hcloses.contents pipe⟩
    · rw [hcloses.pipes]
      exact hmade
    · rintro pid fd' ⟨file, closeOnExec⟩ hafter rfl
      have hrefers :=
        Processes.refers_iff.mpr ⟨pid, fd', closeOnExec, hcloses.opened pid fd' _ hafter⟩
      rw [LogDirector.eof, Bool.not_eq_true', hrefers] at heof
      cases heof
    · intro fd' opened' hafter hfile'
      have hreads : after.fdOpened fd' = some (.readEnd pipe) := by
        rw [LogDirector.fdOpened, hafter, ← hfile']
        rfl
      have hbefore : ld.fdOpened fd' = some (.readEnd pipe) := by
        rw [LogDirector.fdOpened, hcloses.opened daemon fd' opened' hafter, ← hfile']
        rfl
      obtain ⟨mine, howned⟩ := h.owned ldrd client hclient
      have hclosed := freeclient_closes hfree hclient howned.unclosed
      rw [hfd, ← h.single fd' fd pipe hbefore hpipe, hreads] at hclosed
      cases hclosed

theorem run_abandoned {start : LogDirector} {transits : List LogTransit}
    (run : Run logDirector start transits ld)
    (hstart : Redirected start) (h : Abandoned pipe contents start) :
    Redirected ld ∧ Abandoned pipe contents ld := by
  induction run with
  | nil => exact ⟨hstart, h⟩
  | snoc _ hstep ih =>
    have hlogstep := logDirector_step ih.1 hstep
    exact ⟨hlogstep.redirected ih.1, ih.2.step hlogstep⟩

end

/-- When the end of a pipe is reported, what is still in it is never moved to the
log: of all that processes write to the pipe, in the whole run, exactly this is
lost. -/
theorem lost_at_end {logDirectory : List UInt8} {links : Nat → Option Nat}
    {transits : List LogTransit} {ld : LogDirector}
    (run : Run logDirector (ldNew logDirectory links) transits ld)
    {x : LogTransit} (hx : x ∈ transits) {fd pipe : Nat}
    {answers : LogAnswers} (hevent : x.input = .event fd answers) (hend : x.output = none)
    (hpipe : x.before.fdOpened fd = some (.readEnd pipe)) :
    transits.flatMap (writtenTo pipe) = transits.flatMap (forwardedFrom pipe) ++
      x.before.contents pipe := by
  obtain ⟨earlier, later, rfl⟩ := List.append_of_mem hx
  have hredirected := run_redirected run.before_mid
  have hstep := run.step_mem hx
  rw [hevent, hend] at hstep
  have hclosed := ldKqueueThread_event hredirected hstep
  have habandoned := abandoned_of_closed hredirected hclosed hpipe
  have hlast := run_abandoned run.after_mid (hclosed.redirected hredirected) habandoned
  rw [run_contents run pipe, hlast.2.kept]

theorem lost_at_end_lateOutput : ∃ (transits : List LogTransit) (ld : LogDirector) (x : LogTransit),
    logDirector.exec (ldNew [] fun _ => none) lateOutput = some (transits, ld) ∧
      x.before.contents 0 = [98, 99] ∧
      transits.flatMap (writtenTo 0) = transits.flatMap (forwardedFrom 0) ++
        x.before.contents 0 := by
  have hrun : (logDirector.exec (ldNew [] fun _ => none) lateOutput).any
      (fun run => run.1.getLast?.any fun x =>
      x.before.contents 0 == [98, 99] && x.output.isNone && x.before.fdOpened 6 == some
        (.readEnd 0)) = true := by
    decide +kernel
  obtain ⟨⟨transits, ld⟩, hexec, hlast⟩ := (Option.any_eq_true _ _).mp hrun
  obtain ⟨x, hx, hall⟩ := (Option.any_eq_true _ _).mp hlast
  simp only [Bool.and_eq_true, beq_iff_eq, Option.isNone_iff_eq_none] at hall
  have hinput : transits.map Transit.input = lateOutput := Machine.exec_inputs hexec
  have hevent : x.input = .event 6 wholePages := by
    have hmap : (transits.map Transit.input).getLast? = some x.input := by
      rw [List.getLast?_map, hx, Option.map_some]
    rw [hinput] at hmap
    exact (Option.some.inj hmap).symm
  exact ⟨transits, ld, x, hexec, hall.1.1,
    lost_at_end (Machine.exec_run hexec) (List.mem_of_getLast? hx) hevent hall.1.2 hall.2⟩

end Vmstated.Properties
