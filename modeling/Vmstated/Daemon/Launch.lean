import Mathlib.Logic.Function.Basic
import Vmstated.Library.Machine

/-! vmstated/vmstated_main.c: the daemons of a host, from `main` to the end of
`run_program`, with the processes that launch them and the file that keeps a second
one away. A daemon is known by its pid, which no other gets. Its mutexes do not fail. -/
namespace Vmstated.Daemon
open Library

inductive ProcessPc where
  /-- Before the configurations are read. -/
  | loading
  /-- Before `setup_sighandler`. -/
  | signals
  /-- Before `write_pidfile`. -/
  | writing
  /-- In `vmstated_launch`, up to `bd_subscribe_commands`. -/
  | building
  /-- Before `sh_start`. -/
  | starting
  /-- Before `bd_runautostart`. -/
  | autostarting
  /-- Before the launcher is told. -/
  | telling
  /-- Before the signal mutex is locked. -/
  | locking
  | holding
  /-- In `pthread_cond_wait`; `woken` tells whether a wake-up is pending. -/
  | waiting (woken : Bool)
  /-- Behind it, with the mutex. -/
  | woken
  /-- Before `sh_stop`. -/
  | stopping
  /-- Before all is freed. -/
  | releasing
  /-- Behind `teardown_sighandler`. -/
  | leaving
  /-- `run_program` has returned. -/
  | returned (result : Int)
  /-- By `err`. -/
  | exited
  | killed
deriving DecidableEq, Repr

namespace ProcessPc

def alive : ProcessPc → Bool
  | returned _ | exited | killed => false
  | _ => true

def coming : ProcessPc → Bool
  | loading | signals | writing => true
  | _ => false

end ProcessPc

structure Process where
  pc : ProcessPc
  /-- A handler waits for the signal mutex, in another thread. -/
  blocked : Bool
  /-- `result` of `vmstated_launch` is -1. -/
  failed : Bool
  /-- The server has handled an event of a client. -/
  served : Bool
  /-- There is none in the foreground. It has a result once it has read one. -/
  launcher : Option (Option Int)
  pipe : List Int

def Process.new (foreground : Bool) : Process :=
  ⟨.loading, false, false, false, if foreground then none else some none, []⟩

namespace Process
variable (process : Process)

def tell (result : Int) : Process :=
  match process.launcher with
  | none => process
  | some _ => { process with pipe := process.pipe ++ [result] }

def vmstatedErr : Process := { process.tell (-1) with pc := .exited }

def mainThread (ok : Bool) : Option Process :=
  match process.pc with
  | .loading => some (if ok then { process with pc := .signals } else process.vmstatedErr)
  | .signals => some { process with pc := if ok then .writing else .exited }
  | .building => some (if ok then { process with pc := .starting } else process.vmstatedErr)
  | .starting => some (if ok then { process with pc := .autostarting }
      else { process with failed := true, pc := .releasing })
  | .autostarting => some { process with pc := .telling }
  | .telling =>
    -- in the foreground there is nothing to write
    some (if ok ∨ process.launcher = none then { process.tell 0 with pc := .locking }
      else { process with pc := .exited })
  | .locking => some { process with pc := .holding }
  | .holding => some { process with pc := .waiting process.blocked, blocked := false }
  | .waiting true => some { process with pc := .woken }
  | .woken => some { process with pc := .stopping, blocked := false }
  -- a server that never had an event crashes, and one that had may do so
  | .stopping => some { process with pc := if process.served && ok then .releasing else .killed }
  | .releasing =>
    some { (if process.failed then process.tell (-1) else process) with pc := .leaving }
  | _ => none

/-- `SIGTERM` or `SIGINT`. The thread that holds the mutex cannot lock it again. -/
def sigrecv (onMain : Bool) : Option Process :=
  match process.pc with
  | .loading | .signals | .leaving => some { process with pc := .killed }
  | .holding | .woken =>
    some (if onMain then { process with pc := .exited } else { process with blocked := true })
  | .waiting _ => some { process with pc := .waiting true }
  | .returned _ | .exited | .killed => none
  | _ => some process

/-- `pthread_cond_wait` returns for no reason. -/
def spurious : Option Process :=
  match process.pc with
  | .waiting _ => some { process with pc := .waiting true }
  | _ => none

def client : Option Process :=
  match process.pc with
  | .autostarting | .telling | .locking | .holding | .waiting _ | .woken | .stopping =>
    some { process with served := true }
  | _ => none

/-- The launcher reads, as soon as there is something. -/
def readPipe : Option Process :=
  match process.launcher, process.pipe with
  | some none, result :: pipe => some { process with launcher := some (some result), pipe }
  | _, _ => none

def written : List Int :=
  match process.launcher with
  | none => []
  | some result => result.toList ++ process.pipe

end Process

inductive Pidfile where
  | missing
  | empty
  | names (pid : Nat)
deriving DecidableEq, Repr

structure Host where
  processes : Nat → Option Process
  /-- The next pid. -/
  next : Nat
  pidfile : Pidfile

/-- What becomes of `write_pidfile`. -/
inductive PidfileOutcome where
  | notOpened
  | notWritten
  | written (chmod : Bool)
deriving DecidableEq, Repr

inductive HostOp where
  /-- `errno` is what `check_logdir` left. `reused` tells whether the pid in the
  file is now that of another program. -/
  | start (foreground : Bool) (errno : Int) (reused : Bool)
  | mainThread (pid : Nat) (ok : Bool)
  | writePidfile (pid : Nat) (outcome : PidfileOutcome)
  | unlinkPidfile (pid : Nat)
  | signal (pid : Nat) (onMain : Bool)
  | spurious (pid : Nat)
  | client (pid : Nat)
  | read (pid : Nat)

namespace Host

def onProcess (pid : Nat) (step : Process → Option Process) (host : Host) : Option Host := do
  let process ← host.processes pid
  let process ← step process
  return { host with processes := Function.update host.processes pid (some process) }

/-- `kill` with no signal succeeds. An empty file is read as 0, which is the own group. -/
def killed (reused : Bool) (host : Host) : Bool :=
  match host.pidfile with
  | .missing => false
  | .empty => true
  | .names pid => reused || (host.processes pid).any fun process => process.pc.alive

/-- `check_already_running`. A number is only believed if there was no error before. -/
def checkAlreadyRunning (errno : Int) (reused : Bool) (host : Host) : Bool :=
  errno == 0 && host.killed reused

def writePidfile (pid : Nat) (outcome : PidfileOutcome) (host : Host) : Option Host :=
  match host.processes pid with
  | none => none
  | some process =>
    if process.pc ≠ .writing then none
    else
      match outcome with
      | .notOpened => some
          { host with processes := Function.update host.processes pid (some process.vmstatedErr) }
      | .notWritten =>
        some { host with processes := Function.update host.processes pid (some process.vmstatedErr), pidfile := .empty }
      | .written chmod =>
        let process := if chmod then { process with pc := .building } else process.vmstatedErr
        some { host with processes := Function.update host.processes pid (some process), pidfile := .names pid }

def unlinkPidfile (pid : Nat) (host : Host) : Option Host :=
  match host.processes pid with
  | none => none
  | some process =>
    if process.pc ≠ .leaving then none
    else
      let process := { process with pc := .returned (if process.failed then -1 else 0) }
      some { host with processes := Function.update host.processes pid (some process), pidfile := .missing }

end Host

/-- The output is the exit status of a program that does not launch a daemon. -/
def hostMachine : Machine Host HostOp Int where
  step host op :=
    match op with
    | .start foreground errno reused =>
      if host.checkAlreadyRunning errno reused then some (1, host)
      else
        some (0, { host with
          processes := Function.update host.processes host.next (some (.new foreground)), next :=
            host.next + 1 })
    | .mainThread pid ok =>
      (host.onProcess pid fun process => process.mainThread ok).map (Prod.mk 0)
    | .writePidfile pid outcome => (host.writePidfile pid outcome).map (Prod.mk 0)
    | .unlinkPidfile pid => (host.unlinkPidfile pid).map (Prod.mk 0)
    | .signal pid onMain =>
      (host.onProcess pid fun process => process.sigrecv onMain).map (Prod.mk 0)
    | .spurious pid => (host.onProcess pid Process.spurious).map (Prod.mk 0)
    | .client pid => (host.onProcess pid Process.client).map (Prod.mk 0)
    | .read pid => (host.onProcess pid Process.readPipe).map (Prod.mk 0)

def hostNew : Host := ⟨fun _ => none, 1, .missing⟩

/-! What a step is. -/

inductive Next : ProcessPc → ProcessPc → Prop where
  | loaded : Next .loading .signals
  | handling : Next .signals .writing
  | built : Next .building .starting
  | started : Next .starting .autostarting
  | autostarted : Next .autostarting .telling
  | locked : Next .locking .holding
  | waits (woken : Bool) : Next .holding (.waiting woken)
  | wakes (woken : Bool) : Next (.waiting woken) (.waiting true)
  | wakened : Next (.waiting true) .woken
  | unlocked : Next .woken .stopping
  | stopped : Next .stopping .releasing

inductive ProcessStep (process : Process) : Process → Prop where
  | moves {pc : ProcessPc} {blocked served : Bool} (halive : process.pc.alive = true)
      (hnext : pc = process.pc ∨ Next process.pc pc) : ProcessStep process
        { process with pc, blocked, served }
  | fails (hpc : process.pc = .starting) : ProcessStep process
      { process with failed := true, pc := .releasing }
  | errs (hpc : process.pc = .loading ∨ process.pc = .building) :
      ProcessStep process process.vmstatedErr
  | tells (hpc : process.pc = .telling) : ProcessStep process { process.tell 0 with pc := .locking }
  | releases (hpc : process.pc = .releasing) :
      ProcessStep process
        { (if process.failed then process.tell (-1) else process) with pc := .leaving }
  | dies {pc : ProcessPc} (halive : process.pc.alive = true) (hpc : pc = .exited ∨ pc = .killed) :
      ProcessStep process { process with pc }
  | reads {result : Int} {pipe : List Int} (hlauncher : process.launcher = some none)
      (hpipe : process.pipe = result :: pipe) :
      ProcessStep process { process with launcher := some (some result), pipe }

section
variable {process after : Process}

theorem processStep_mainThread {ok : Bool} (h : process.mainThread ok = some after) :
    ProcessStep process after := by
  obtain ⟨pc, blocked, failed, served, launcher, pipe⟩ := process
  cases pc with
  | loading =>
    cases ok <;> cases h
    · exact .errs (.inl rfl)
    · exact .moves rfl (.inr .loaded)
  | signals =>
    cases ok <;> cases h
    · exact .dies rfl (.inl rfl)
    · exact .moves rfl (.inr .handling)
  | building =>
    cases ok <;> cases h
    · exact .errs (.inr rfl)
    · exact .moves rfl (.inr .built)
  | starting =>
    cases ok <;> cases h
    · exact .fails rfl
    · exact .moves rfl (.inr .started)
  | autostarting =>
    cases h
    exact .moves rfl (.inr .autostarted)
  | telling =>
    simp only [Process.mainThread, Option.some.injEq] at h
    split at h
    · rw [← h]
      exact .tells rfl
    · rw [← h]
      exact .dies rfl (.inl rfl)
  | locking =>
    cases h
    exact .moves rfl (.inr .locked)
  | holding =>
    cases h
    exact .moves rfl (.inr (.waits blocked))
  | waiting woken =>
    cases woken with
    | false => cases h
    | true =>
      cases h
      exact .moves rfl (.inr .wakened)
  | woken =>
    cases h
    exact .moves rfl (.inr .unlocked)
  | stopping =>
    simp only [Process.mainThread, Option.some.injEq] at h
    split at h
    · rw [← h]
      exact .moves rfl (.inr .stopped)
    · rw [← h]
      exact .dies rfl (.inr rfl)
  | releasing =>
    cases h
    exact .releases rfl
  | writing | leaving | returned _ | exited | killed => cases h

theorem processStep_sigrecv {onMain : Bool} (h : process.sigrecv onMain = some after) :
    ProcessStep process after := by
  obtain ⟨pc, blocked, failed, served, launcher, pipe⟩ := process
  cases pc with
  | loading | signals | leaving =>
    cases h
    exact .dies rfl (.inr rfl)
  | holding | woken =>
    cases onMain <;> cases h
    · exact .moves rfl (.inl rfl)
    · exact .dies rfl (.inl rfl)
  | waiting woken =>
    cases h
    exact .moves rfl (.inr (.wakes woken))
  | returned _ | exited | killed => cases h
  | _ =>
    cases h
    exact .moves rfl (.inl rfl)

theorem processStep_spurious (h : process.spurious = some after) : ProcessStep process after := by
  unfold Process.spurious at h
  split at h
  · rename_i woken hpc
    cases h
    exact .moves (by rw [hpc]; rfl) (.inr (hpc ▸ .wakes woken))
  · cases h

theorem processStep_client (h : process.client = some after) : ProcessStep process after := by
  obtain ⟨pc, blocked, failed, served, launcher, pipe⟩ := process
  cases pc with
  | autostarting | telling | locking | holding | waiting _ | woken | stopping =>
    cases h
    exact .moves rfl (.inl rfl)
  | _ => cases h

theorem processStep_readPipe (h : process.readPipe = some after) : ProcessStep process after := by
  unfold Process.readPipe at h
  split at h
  · rename_i hlauncher hpipe
    cases h
    exact .reads hlauncher hpipe
  · cases h

end

inductive HostStep (host : Host) : HostOp → Host → Prop where
  | refused {foreground : Bool} {errno : Int} {reused : Bool} : HostStep host
      (.start foreground errno reused) host
  | started {foreground : Bool} {errno : Int} {reused : Bool}
      (hfree : host.checkAlreadyRunning errno reused = false) :
      HostStep host (.start foreground errno reused) { host with
        processes := Function.update host.processes host.next (some (.new foreground)), next :=
          host.next + 1 }
  | moved {pid : Nat} {op : HostOp} {process after : Process}
      (hop : ∀ foreground errno reused, op ≠ .start foreground errno reused)
      (hprocess : host.processes pid = some process) (hstep : ProcessStep process after) :
      HostStep host op { host with processes := Function.update host.processes pid (some after) }
  | wrote {pid : Nat} {process : Process} {pidfile : Pidfile}
      (hprocess : host.processes pid = some process)
      (hpc : process.pc = .writing) (hpidfile : ∀ other, pidfile = .names other →
        host.pidfile = .names other ∨ other = pid)
      {outcome : PidfileOutcome} :
      HostStep host (.writePidfile pid outcome) { host with
        processes := Function.update host.processes pid (some process.vmstatedErr), pidfile }
  | named {pid : Nat} {process : Process} (hprocess : host.processes pid = some process)
      (hpc : process.pc = .writing) {outcome : PidfileOutcome} :
      HostStep host (.writePidfile pid outcome) { host with
        processes := Function.update host.processes pid (some { process with pc := .building }),
          pidfile := .names pid }
  | unlinked {pid : Nat} {process : Process} (hprocess : host.processes pid = some process)
      (hpc : process.pc = .leaving) :
      HostStep host (.unlinkPidfile pid) { host with
        processes := Function.update host.processes pid
          (some { process with pc := .returned (if process.failed then -1 else 0) })
        pidfile := .missing }

section
variable {host after : Host} {output : Int}

theorem onProcess_cases {pid : Nat} {step : Process → Option Process}
    (h : (host.onProcess pid step).map (Prod.mk (0 : Int)) = some (output, after)) :
    ∃ process moved, host.processes pid = some process ∧ step process = some moved ∧
      after = { host with processes := Function.update host.processes pid (some moved) } := by
  obtain ⟨found, hfound, hafter⟩ := Option.map_eq_some_iff.mp h
  cases hafter
  obtain ⟨process, hprocess, hrest⟩ := Option.bind_eq_some_iff.mp hfound
  obtain ⟨moved, hmoved, hresult⟩ := Option.bind_eq_some_iff.mp hrest
  cases hresult
  exact ⟨process, moved, hprocess, hmoved, rfl⟩

theorem hostMachine_step {op : HostOp} (hstep : hostMachine.step host op = some (output, after)) :
    HostStep host op after := by
  cases op with
  | start foreground errno reused =>
    simp only [hostMachine] at hstep
    split at hstep
    · cases hstep
      exact .refused
    · rename_i hfree
      cases hstep
      exact .started (Bool.not_eq_true _ ▸ hfree)
  | mainThread pid ok =>
    obtain ⟨process, moved, hprocess, hmoved, rfl⟩ := onProcess_cases hstep
    exact .moved (by simp) hprocess (processStep_mainThread hmoved)
  | signal pid onMain =>
    obtain ⟨process, moved, hprocess, hmoved, rfl⟩ := onProcess_cases hstep
    exact .moved (by simp) hprocess (processStep_sigrecv hmoved)
  | spurious pid =>
    obtain ⟨process, moved, hprocess, hmoved, rfl⟩ := onProcess_cases hstep
    exact .moved (by simp) hprocess (processStep_spurious hmoved)
  | client pid =>
    obtain ⟨process, moved, hprocess, hmoved, rfl⟩ := onProcess_cases hstep
    exact .moved (by simp) hprocess (processStep_client hmoved)
  | read pid =>
    obtain ⟨process, moved, hprocess, hmoved, rfl⟩ := onProcess_cases hstep
    exact .moved (by simp) hprocess (processStep_readPipe hmoved)
  | writePidfile pid outcome =>
    obtain ⟨found, hfound, hafter⟩ := Option.map_eq_some_iff.mp hstep
    cases hafter
    unfold Host.writePidfile at hfound
    split at hfound
    · cases hfound
    · rename_i process hprocess
      rw [Option.ite_none_left_eq_some, not_not] at hfound
      obtain ⟨hpc, hfound⟩ := hfound
      cases outcome with
      | notOpened =>
        cases hfound
        exact .wrote hprocess hpc fun other hother => .inl hother
      | notWritten =>
        cases hfound
        exact .wrote hprocess hpc fun other hother => Pidfile.noConfusion hother
      | written chmod =>
        cases chmod with
        | true =>
          cases hfound
          exact .named hprocess hpc
        | false =>
          cases hfound
          exact .wrote hprocess hpc fun other hother => .inr (Pidfile.names.inj hother).symm
  | unlinkPidfile pid =>
    obtain ⟨found, hfound, hafter⟩ := Option.map_eq_some_iff.mp hstep
    cases hafter
    unfold Host.unlinkPidfile at hfound
    split at hfound
    · cases hfound
    · rename_i process hprocess
      rw [Option.ite_none_left_eq_some, not_not] at hfound
      obtain ⟨hpc, hfound⟩ := hfound
      cases hfound
      exact .unlinked hprocess hpc

end

end Vmstated.Daemon
