import Vmstated.Daemon.Launch

/-! The daemons of a host: what their launchers are told, and how many there are. -/
namespace Vmstated.Properties
open Library Daemon

/-! One process. -/

section
variable (process : Process) (result : Int)

@[simp] theorem tell_pc : (process.tell result).pc = process.pc := by
  unfold Process.tell
  split <;> rfl

@[simp] theorem tell_launcher : (process.tell result).launcher = process.launcher := by
  unfold Process.tell
  split <;> rfl

@[simp] theorem tell_failed : (process.tell result).failed = process.failed := by
  unfold Process.tell
  split <;> rfl

theorem tell_written (hbackground : process.launcher ≠ none) :
    (process.tell result).written = process.written ++ [result] := by
  obtain ⟨launcher, hlauncher⟩ := Option.ne_none_iff_exists'.mp hbackground
  simp [Process.tell, Process.written, hlauncher]

end

section
variable {process after : Process}

theorem Next.pcs {pc pc' : ProcessPc} (hnext : Next pc pc') : pc'.coming = pc.coming := by
  cases hnext <;> rfl

theorem Next.ne_returned {pc pc' : ProcessPc} (hnext : Next pc pc') (result : Int) :
    pc' ≠ .returned result := by
  cases hnext <;> simp

theorem places_of_step (hstep : ProcessStep process after) :
    (process.pc.coming = false → after.pc.coming = false) ∧
      ∀ result, after.pc = .returned result → process.pc = .returned result := by
  cases hstep with
  | moves _ hnext =>
    rcases hnext with hsame | hnext
    · rw [hsame]
      exact ⟨id, fun _ => id⟩
    · refine ⟨fun hpast => (Next.pcs hnext).trans hpast, ?_⟩
      intro result hreturned
      exact absurd hreturned (Next.ne_returned hnext result)
  | dies _ hpc => rcases hpc with hpc | hpc <;> simp [hpc, ProcessPc.coming]
  | reads _ _ => exact ⟨id, fun _ => id⟩
  | errs _ => simp [Process.vmstatedErr, ProcessPc.coming]
  | fails _ | tells _ | releases _ => simp [ProcessPc.coming]

theorem dead_step (hstep : ProcessStep process after) (hdead : process.pc.alive = false) :
    process.pipe ≠ [] := by
  cases hstep with
  | moves halive _ => simp [hdead] at halive
  | dies halive _ => simp [hdead] at halive
  | fails hpc | tells hpc | releases hpc => simp [hpc, ProcessPc.alive] at hdead
  | errs hpc => rcases hpc with hpc | hpc <;> simp [hpc, ProcessPc.alive] at hdead
  | reads _ hpipe => simp [hpipe]

theorem alive_of_step (hstep : ProcessStep process after) (halive : after.pc.alive = true) :
    process.pc.alive = true ∧ after.pc.coming = process.pc.coming := by
  cases hstep with
  | moves hbefore hnext =>
    refine ⟨hbefore, ?_⟩
    rcases hnext with hsame | hnext
    · exact congrArg _ hsame
    · exact Next.pcs hnext
  | fails hpc => simp [hpc, ProcessPc.alive, ProcessPc.coming]
  | errs _ => cases halive
  | tells hpc => simp [hpc, ProcessPc.alive, ProcessPc.coming]
  | releases hpc => simp [hpc, ProcessPc.alive, ProcessPc.coming]
  | dies _ hpc => rcases hpc with hpc | hpc <;> simp [hpc, ProcessPc.alive] at halive
  | reads _ _ => exact ⟨halive, rfl⟩

end

/-! What the launcher is told. -/

/-- What a process has told before it gets to this place; nothing is sure of one
that did not get to the end. -/
def said (failed : Bool) : ProcessPc → Option (List Int)
  | .loading | .signals | .writing | .building | .starting | .autostarting | .telling => some []
  | .locking | .holding | .waiting _ | .woken | .stopping => some [0]
  | .releasing => some (if failed then [] else [0])
  | .leaving | .returned _ => some (if failed then [-1] else [0])
  | .exited | .killed => none

def ending : ProcessPc → Bool
  | .releasing | .leaving | .returned _ | .exited | .killed => true
  | _ => false

structure Told (process : Process) : Prop where
  once : process.written = [] ∨ process.written = [0] ∨ process.written = [-1]
  said : ∀ text, said process.failed process.pc = some text → process.written = text
  failed : process.failed = true → ending process.pc = true

section
variable {process after : Process}

theorem Next.said {pc pc' : ProcessPc} (hnext : Next pc pc') : said false pc' = said false pc := by
  cases hnext <;> rfl

theorem Next.ending {pc pc' : ProcessPc} (hnext : Next pc pc') : ending pc = false := by
  cases hnext <;> rfl

theorem Next.ne_locking {pc pc' : ProcessPc} (hnext : Next pc pc') : pc' ≠ .locking := by
  cases hnext <;> simp

theorem Told.unfailed (h : Told process) (hpc : ending process.pc = false) :
    process.failed = false := by
  rw [← Bool.not_eq_true]
  intro hfailed
  rw [h.failed hfailed] at hpc
  cases hpc

theorem Told.up (h : Told process) (hpc : process.pc = .locking) : 0 ∈ process.written := by
  have hwritten : process.written = [0] := h.said [0] (by rw [hpc]; rfl)
  rw [hwritten]
  exact List.mem_singleton_self 0

theorem Told.moves (h : Told process) {pc : ProcessPc} {blocked served : Bool}
    (hnext : pc = process.pc ∨ Next process.pc pc) : Told { process with pc, blocked, served } := by
  rcases hnext with hsame | hnext
  · rw [hsame]
    exact ⟨h.once, h.said, h.failed⟩
  · have hunfailed := h.unfailed (Next.ending hnext)
    refine ⟨h.once, ?_, ?_⟩
    · intro text htext
      apply h.said text
      rw [hunfailed, ← Next.said hnext, ← hunfailed]
      exact htext
    · intro hfailed
      rw [hunfailed] at hfailed
      cases hfailed

/-- What is told first is all that was told. -/
theorem told_tell (hwritten : process.written = []) (hbackground : process.launcher ≠ none)
    {result : Int} (hresult : result = 0 ∨ result = -1) {pc : ProcessPc}
    (hsaid : ∀ text, said process.failed pc = some text → text = [result])
    (hending : process.failed = true → ending pc = true) :
    Told { process.tell result with pc } ∧ (process.tell result).launcher ≠ none ∧
      ({ process.tell result with pc } : Process).written = [result] := by
  have htell := tell_written process result hbackground
  rw [hwritten] at htell
  have hafter : ({ process.tell result with pc } : Process).written = [result] := htell
  refine ⟨⟨?_, ?_, ?_⟩, (tell_launcher process result).symm ▸ hbackground, hafter⟩
  · rw [hafter]
    rcases hresult with rfl | rfl
    · exact .inr (.inl rfl)
    · exact .inr (.inr rfl)
  · intro text htext
    dsimp only at htext
    rw [tell_failed] at htext
    rw [hafter, hsaid text htext]
  · intro hfailed
    dsimp only at hfailed
    rw [tell_failed] at hfailed
    exact hending hfailed

/-- The launcher hears of a process that comes up, and of nothing else but a failure. -/
theorem told_step (hstep : ProcessStep process after) (hbackground : process.launcher ≠ none)
    (h : Told process) :
    Told after ∧ after.launcher ≠ none ∧
      (0 ∈ after.written ↔ 0 ∈ process.written ∨ after.pc = .locking) := by
  cases hstep with
  | @moves pc blocked served halive hnext =>
    refine ⟨h.moves hnext, hbackground, (or_iff_left_of_imp ?_).symm⟩
    intro hpc
    rcases hnext with hsame | hnext
    · exact h.up (hsame ▸ hpc)
    · exact absurd hpc (Next.ne_locking hnext)
  | fails hpc =>
    have hwritten : process.written = [] := h.said [] (by rw [hpc]; rfl)
    refine ⟨⟨h.once, ?_, fun _ => rfl⟩, hbackground, (or_iff_left (by simp)).symm⟩
    intro text htext
    cases htext
    exact hwritten
  | errs hpc =>
    have hwritten : process.written = [] :=
      h.said [] (by rcases hpc with hpc | hpc <;> rw [hpc] <;> rfl)
    obtain ⟨htold, hlauncher, hafter⟩ :=
      @told_tell process hwritten hbackground (-1) (.inr rfl) .exited (fun _ htext => by cases htext)
        fun _ => rfl
    refine ⟨htold, hlauncher, ?_⟩
    rw [hwritten, Process.vmstatedErr, hafter]
    simp
  | tells hpc =>
    have hwritten : process.written = [] := h.said [] (by rw [hpc]; rfl)
    obtain ⟨htold, hlauncher, hafter⟩ :=
      @told_tell process hwritten hbackground 0 (.inl rfl) .locking
        (fun _ htext => by cases htext; rfl)
        fun hfailed => by rw [h.unfailed (by rw [hpc]; rfl)] at hfailed; cases hfailed
    refine ⟨htold, hlauncher, ?_⟩
    rw [hafter]
    simp
  | releases hpc =>
    cases hfailed : process.failed with
    | false =>
      have hwritten : process.written = [0] := h.said [0] (by rw [hpc, hfailed]; rfl)
      refine ⟨⟨h.once, ?_, ?_⟩, hbackground, (or_iff_left (by simp)).symm⟩
      · intro text htext
        simp only [Bool.false_eq_true, if_false, hfailed] at htext
        cases htext
        exact hwritten
      · simp [hfailed]
    | true =>
      have hwritten : process.written = [] := h.said [] (by rw [hpc, hfailed]; rfl)
      obtain ⟨htold, hlauncher, hafter⟩ :=
        @told_tell process hwritten hbackground (-1) (.inr rfl) .leaving
          (fun _ htext => by rw [hfailed] at htext; cases htext; rfl) fun _ => rfl
      rw [if_pos rfl]
      refine ⟨htold, hlauncher, ?_⟩
      rw [hafter, hwritten]
      simp
  | @dies pc halive hpc =>
    refine ⟨⟨h.once, ?_, ?_⟩, hbackground, ?_⟩
    · intro text htext
      rcases hpc with hpc | hpc <;> rw [hpc] at htext <;> cases htext
    · intro _
      rcases hpc with hpc | hpc <;> rw [hpc] <;> rfl
    · refine (or_iff_left ?_).symm
      rcases hpc with hpc | hpc <;> simp [hpc]
  | @reads result pipe hlauncher hpipe =>
    have hwritten : ({ process with launcher := some (some result), pipe } : Process).written =
        process.written := by
      simp [Process.written, hlauncher, hpipe]
    refine ⟨⟨hwritten.symm ▸ h.once, ?_, h.failed⟩, by simp, ?_⟩
    · intro text htext
      exact hwritten.trans (h.said text htext)
    · rw [hwritten]
      exact (or_iff_left_of_imp h.up).symm

theorem told_named (hpc : process.pc = .writing) (h : Told process) :
    Told { process with pc := .building } := by
  have hwritten : process.written = [] := h.said [] (by rw [hpc]; rfl)
  have hfailed := h.unfailed (by rw [hpc]; rfl)
  refine ⟨h.once, ?_, ?_⟩
  · intro text htext
    cases htext
    exact hwritten
  · intro htrue
    rw [show process.failed = true from htrue] at hfailed
    cases hfailed

theorem background_of_step (hstep : ProcessStep process after)
    (hbackground : after.launcher ≠ none) :
    process.launcher ≠ none := by
  intro hnone
  cases hstep with
  | reads hlauncher _ =>
    rw [hnone] at hlauncher
    cases hlauncher
  | errs _ => exact hbackground ((tell_launcher _ _).trans hnone)
  | tells _ => exact hbackground ((tell_launcher _ _).trans hnone)
  | releases _ =>
    dsimp only at hbackground
    split at hbackground
    · exact hbackground ((tell_launcher _ _).trans hnone)
    · exact hbackground hnone
  | _ => exact hbackground hnone

theorem failing_step (hstep : ProcessStep process after) (hbackground : process.launcher ≠ none)
    (hfails : after.failed = true ∨ -1 ∈ after.written) :
    (process.failed = true ∨ -1 ∈ process.written) ∨ process.pc = .loading ∨
      process.pc = .building ∨ process.pc = .starting := by
  cases hstep with
  | moves _ _ | dies _ _ => exact .inl hfails
  | fails hpc => exact .inr (.inr (.inr hpc))
  | errs hpc => exact .inr (hpc.imp id .inl)
  | tells _ =>
    have hwritten : ({ process.tell 0 with pc := .locking } : Process).written =
        process.written ++ [0] :=
      tell_written process 0 hbackground
    rw [hwritten, List.mem_append] at hfails
    refine .inl (hfails.imp (fun hfailed => ?_) fun hmem => hmem.resolve_right (by decide))
    rwa [tell_failed] at hfailed
  | releases _ =>
    cases hfailed : process.failed with
    | true => exact .inl (.inl rfl)
    | false =>
      simp only [hfailed, Bool.false_eq_true, if_false, false_or] at hfails
      exact .inl (.inr hfails)
  | @reads result pipe hlauncher hpipe =>
    have hwritten : ({ process with launcher := some (some result), pipe } : Process).written =
        process.written := by
      simp [Process.written, hlauncher, hpipe]
    rw [hwritten] at hfails
    exact .inl hfails

theorem told_unlinked (hpc : process.pc = .leaving) (h : Told process) (result : Int) :
    Told { process with pc := .returned result } := by
  refine ⟨h.once, ?_, fun _ => rfl⟩
  intro text htext
  exact h.said text (by rw [hpc]; exact htext)

theorem told_wrote (hpc : process.pc = .writing) (hbackground : process.launcher ≠ none)
    (h : Told process) :
    Told process.vmstatedErr ∧ 0 ∉ process.vmstatedErr.written ∧ 0 ∉ process.written := by
  have hwritten : process.written = [] := h.said [] (by rw [hpc]; rfl)
  have hafter : process.vmstatedErr.written = [-1] := by
    have htell := tell_written process (-1) hbackground
    rw [hwritten] at htell
    exact htell
  refine ⟨⟨.inr (.inr hafter), ?_, fun _ => rfl⟩, ?_, ?_⟩
  · intro text htext
    cases htext
  · simp [hafter]
  · simp [hwritten]

end

/-! All processes of a host. -/

def placeOf (host : Host) (pid : Nat) : Option ProcessPc := (host.processes pid).map Process.pc

def Goes (transits : List (Transit Host HostOp Int)) (pid : Nat) (pc pc' : ProcessPc) : Prop :=
  ∃ x ∈ transits, placeOf x.before pid = some pc ∧ placeOf x.after pid = some pc'

/-- The listener was started, and `bd_runautostart` came to its end. -/
def CameUp (transits : List (Transit Host HostOp Int)) (pid : Nat) : Prop :=
  Goes transits pid .starting .autostarting ∧ Goes transits pid .autostarting .telling

def EndsUntold (transits : List (Transit Host HostOp Int)) (pid : Nat) : Prop :=
  ∃ pc, pc.alive = false ∧ Goes transits pid .telling pc

def Announced (transits : List (Transit Host HostOp Int)) (pid : Nat) : Prop :=
  ∃ x ∈ transits, placeOf x.after pid = some .locking

theorem announced_snoc {transits : List (Transit Host HostOp Int)}
    {x : Transit Host HostOp Int} {pid : Nat} :
    Announced (transits ++ [x]) pid ↔
      Announced transits pid ∨ (x.after.processes pid).map Process.pc = some .locking := by
  simp [Announced, placeOf, or_and_right, exists_or]

theorem goes_snoc {transits : List (Transit Host HostOp Int)}
    {x : Transit Host HostOp Int} {pid : Nat}
    {pc pc' : ProcessPc} : Goes (transits ++ [x]) pid pc pc' ↔
      Goes transits pid pc pc' ∨ placeOf x.before pid = some pc ∧
        placeOf x.after pid = some pc' := by
  simp [Goes, or_and_right, exists_or]

theorem endsUntold_snoc {transits : List (Transit Host HostOp Int)}
    {x : Transit Host HostOp Int} {pid : Nat} :
    EndsUntold (transits ++ [x]) pid ↔ EndsUntold transits pid ∨
      placeOf x.before pid = some .telling ∧ ∃ pc, pc.alive = false ∧
        placeOf x.after pid = some pc := by
  simp only [EndsUntold, goes_snoc, and_or_left, exists_or]
  apply or_congr_right
  constructor
  · rintro ⟨pc, hdead, hbefore, hafter⟩
    exact ⟨hbefore, pc, hdead, hafter⟩
  · rintro ⟨hbefore, pc, hdead, hafter⟩
    exact ⟨pc, hdead, hbefore, hafter⟩

structure Launched (transits : List (Transit Host HostOp Int)) (host : Host) : Prop where
  fresh : ∀ pid, host.next ≤ pid → host.processes pid = none ∧ ¬Announced transits pid
  told : ∀ pid process, host.processes pid = some process → process.launcher ≠ none →
    Told process ∧ (0 ∈ process.written ↔ Announced transits pid)

section
variable {transits : List (Transit Host HostOp Int)} {host after : Host}
  {op : HostOp} {output : Int}

theorem Launched.known (h : Launched transits host) {pid : Nat} {process : Process}
    (hprocess : host.processes pid = some process) : pid < host.next := by
  by_contra hlater
  rw [(h.fresh pid (Nat.le_of_not_lt hlater)).1] at hprocess
  cases hprocess

theorem Launched.update (h : Launched transits host) {pid : Nat}
    {process moved : Process} {pidfile : Pidfile}
    (hprocess : host.processes pid = some process)
    (hlauncher : moved.launcher ≠ none → process.launcher ≠ none)
    (htold : process.launcher ≠ none → Told process →
      Told moved ∧ (0 ∈ moved.written ↔ 0 ∈ process.written ∨ moved.pc = .locking)) :
    Launched (transits ++
      [⟨host, op, output, ⟨Function.update host.processes pid (some moved), host.next, pidfile⟩⟩])
      ⟨Function.update host.processes pid (some moved), host.next, pidfile⟩ := by
  have hlt := h.known hprocess
  constructor
  case fresh =>
    intro other hother
    dsimp only at hother
    obtain ⟨hnone, hdown⟩ := h.fresh other hother
    have hne : other ≠ pid := by omega
    have hafter : Function.update host.processes pid (some moved) other = none := by
      rw [Function.update_of_ne hne, hnone]
    refine ⟨hafter, ?_⟩
    rw [announced_snoc]
    dsimp only
    rw [hafter]
    simpa using hdown
  case told =>
    intro other found hfound hbackground
    dsimp only at hfound
    rw [announced_snoc]
    dsimp only
    by_cases hother : other = pid
    · subst hother
      rw [Function.update_self] at hfound ⊢
      cases hfound
      obtain ⟨hbefore, hzero⟩ := h.told other process hprocess (hlauncher hbackground)
      obtain ⟨hmoved, hwritten⟩ := htold (hlauncher hbackground) hbefore
      refine ⟨hmoved, ?_⟩
      rw [hwritten, hzero, Option.map_some, Option.some_inj]
    · rw [Function.update_of_ne hother] at hfound ⊢
      obtain ⟨hsame, hzero⟩ := h.told other found hfound hbackground
      refine ⟨hsame, ?_⟩
      rw [hfound, Option.map_some, Option.some_inj, ← hzero]
      exact (or_iff_left_of_imp hsame.up).symm

theorem launched_step (h : Launched transits host)
    (hstep : hostMachine.step host op = some (output, after)) :
    Launched (transits ++ [⟨host, op, output, after⟩]) after := by
  cases hostMachine_step hstep with
  | refused =>
    constructor
    case fresh =>
      intro pid hpid
      obtain ⟨hnone, hdown⟩ := h.fresh pid hpid
      rw [announced_snoc]
      simp [hnone, hdown]
    case told =>
      intro pid process hprocess hbackground
      obtain ⟨htold, hzero⟩ := h.told pid process hprocess hbackground
      refine ⟨htold, ?_⟩
      rw [announced_snoc, ← hzero]
      dsimp only
      rw [hprocess, Option.map_some, Option.some_inj]
      exact (or_iff_left_of_imp htold.up).symm
  | @started foreground errno reused hfree =>
    constructor
    case fresh =>
      intro pid hpid
      dsimp only at hpid
      obtain ⟨hnone, hdown⟩ := h.fresh pid (Nat.le_of_succ_le hpid)
      have hne : pid ≠ host.next := by omega
      rw [announced_snoc]
      dsimp only
      rw [Function.update_of_ne hne, hnone]
      simpa using hdown
    case told =>
      intro pid process hprocess hbackground
      dsimp only at hprocess
      rw [announced_snoc]
      dsimp only
      by_cases hpid : pid = host.next
      · rw [hpid, Function.update_self] at hprocess ⊢
        cases hprocess
        have hwritten : (Process.new foreground).written = [] := by
          cases foreground <;> rfl
        have hdown := (h.fresh host.next (Nat.le_refl _)).2
        refine ⟨⟨.inl hwritten, ?_, fun hfailed => Bool.noConfusion hfailed⟩, ?_⟩
        · intro text htext
          cases htext
          exact hwritten
        · rw [hwritten]
          simp [hdown, Process.new]
      · rw [Function.update_of_ne hpid] at hprocess ⊢
        obtain ⟨htold, hzero⟩ := h.told pid process hprocess hbackground
        refine ⟨htold, ?_⟩
        rw [hprocess, Option.map_some, Option.some_inj, ← hzero]
        exact (or_iff_left_of_imp htold.up).symm
  | moved _ hprocess hmoves =>
    apply h.update hprocess
    · exact background_of_step hmoves
    · intro hbackground hbefore
      obtain ⟨hlater, _, hwritten⟩ := told_step hmoves hbackground hbefore
      exact ⟨hlater, hwritten⟩
  | wrote hprocess hpc _ =>
    apply h.update hprocess
    · intro hafter hnone
      exact hafter ((tell_launcher _ _).trans hnone)
    · intro hbackground hbefore
      obtain ⟨hlater, hafter, hquiet⟩ := told_wrote hpc hbackground hbefore
      refine ⟨hlater, iff_of_false hafter ?_⟩
      rintro (hzero | hplace)
      · exact hquiet hzero
      · cases hplace
  | named hprocess hpc =>
    apply h.update hprocess
    · exact id
    · intro _ hbefore
      exact ⟨told_named hpc hbefore, (or_iff_left (by simp)).symm⟩
  | unlinked hprocess hpc =>
    apply h.update hprocess
    · exact id
    · intro _ hbefore
      exact ⟨told_unlinked hpc hbefore _, (or_iff_left (by simp)).symm⟩

theorem run_launched (run : Run hostMachine hostNew transits host) : Launched transits host := by
  induction run with
  | nil =>
    constructor
    · exact fun pid _ => ⟨rfl, by simp [Announced]⟩
    · intro pid process hprocess
      cases hprocess
  | snoc _ hstep ih => exact launched_step ih hstep

/-! The way up. -/

inductive PlaceStep : Option ProcessPc → Option ProcessPc → Prop where
  | same (place : Option ProcessPc) : PlaceStep place place
  | appears : PlaceStep none (some .loading)
  | next {pc pc' : ProcessPc} (hnext : Next pc pc') : PlaceStep (some pc) (some pc')
  | named : PlaceStep (some .writing) (some .building)
  | fails : PlaceStep (some .starting) (some .releasing)
  | tells : PlaceStep (some .telling) (some .locking)
  | releases : PlaceStep (some .releasing) (some .leaving)
  | unlinked (result : Int) : PlaceStep (some .leaving) (some (.returned result))
  | dies {pc pc' : ProcessPc} (halive : pc.alive = true) (hpc : pc' = .exited ∨ pc' = .killed) :
      PlaceStep (some pc) (some pc')

theorem place_of_step {process moved : Process} (hstep : ProcessStep process moved) :
    PlaceStep (some process.pc) (some moved.pc) := by
  cases hstep with
  | moves _ hnext =>
    rcases hnext with hsame | hnext
    · rw [hsame]
      exact .same _
    · exact .next hnext
  | fails hpc =>
    rw [hpc]
    exact .fails
  | errs hpc =>
    refine .dies ?_ (.inl rfl)
    rcases hpc with hpc | hpc <;> rw [hpc] <;> rfl
  | tells hpc =>
    rw [hpc]
    exact .tells
  | releases hpc =>
    rw [hpc]
    exact .releases
  | dies halive hpc => exact .dies halive hpc
  | reads _ _ => exact .same _

theorem place_of_host (hstep : HostStep host op after)
    (hfresh : host.processes host.next = none) (pid : Nat) :
    PlaceStep (placeOf host pid) (placeOf after pid) := by
  have hupdate {other : Nat} {process moved : Process} {pidfile : Pidfile}
      (hprocess : host.processes other = some process)
      (hmoved : PlaceStep (some process.pc) (some moved.pc)) : PlaceStep (placeOf host pid)
        (placeOf ⟨Function.update host.processes other (some moved), host.next, pidfile⟩ pid) := by
    unfold placeOf
    dsimp only
    by_cases hpid : pid = other
    · rw [hpid, hprocess, Function.update_self]
      exact hmoved
    · rw [Function.update_of_ne hpid]
      exact .same _
  cases hstep with
  | refused => exact .same _
  | started _ =>
    unfold placeOf
    dsimp only
    by_cases hpid : pid = host.next
    · rw [hpid, hfresh, Function.update_self]
      exact .appears
    · rw [Function.update_of_ne hpid]
      exact .same _
  | moved _ hprocess hmoves => exact hupdate hprocess (place_of_step hmoves)
  | wrote hprocess hpc _ => exact hupdate hprocess (.dies (by rw [hpc]; rfl) (.inl rfl))
  | named hprocess hpc =>
    apply hupdate hprocess
    rw [hpc]
    exact .named
  | unlinked hprocess hpc =>
    apply hupdate hprocess
    rw [hpc]
    exact .unlinked _

/-- What is behind a process at this place: whether it listened, came up, told its
launcher, or ended before. -/
def Climbed (listened up told untold : Prop) : Option ProcessPc → Prop
  | some .autostarting => listened ∧ ¬up ∧ ¬told ∧ ¬untold
  | some .telling => listened ∧ up ∧ ¬told ∧ ¬untold
  | some .locking | some .holding | some (.waiting _) | some .woken | some .stopping =>
    listened ∧ up ∧ told ∧ ¬untold
  | some .releasing | some .leaving | some (.returned _) | some .exited | some .killed =>
    told ↔ (listened ∧ up) ∧ ¬untold
  | _ => ¬listened ∧ ¬up ∧ ¬told ∧ ¬untold

theorem climbed_step {listened up told untold : Prop} {place place' : Option ProcessPc}
    (h : Climbed listened up told untold place) (hstep : PlaceStep place place') :
    Climbed (listened ∨ place = some .starting ∧ place' = some .autostarting)
      (up ∨ place = some .autostarting ∧ place' = some .telling) (told ∨ place' = some .locking)
      (untold ∨ place = some .telling ∧ ∃ pc, pc.alive = false ∧ place' = some pc) place' := by
  cases hstep with
  | same =>
    cases place with
    | none => simpa [Climbed] using h
    | some pc => cases pc <;> simp_all [Climbed, ProcessPc.alive]
  | next hnext => cases hnext <;> simp_all [Climbed, ProcessPc.alive]
  | @dies pc pc' halive hpc =>
    rcases hpc with rfl | rfl <;> cases pc <;> simp_all [Climbed, ProcessPc.alive]
  | appears | named | fails | tells | releases | unlinked _ => simp_all [Climbed, ProcessPc.alive]

/-- What is behind the processes of a host. A failure is none that came up. -/
structure Ascending (transits : List (Transit Host HostOp Int)) (host : Host) : Prop where
  climbed : ∀ pid, Climbed (Goes transits pid .starting .autostarting)
    (Goes transits pid .autostarting .telling)
    (Announced transits pid) (EndsUntold transits pid) (placeOf host pid)
  failed : ∀ pid process, host.processes pid = some process → process.launcher ≠ none →
    process.failed = true ∨ -1 ∈ process.written → ¬Goes transits pid .autostarting .telling

theorem failing_place (hstep : HostStep host op after)
    (hfresh : host.processes host.next = none) {pid : Nat}
    {process : Process} (hprocess : after.processes pid = some process)
    (hbackground : process.launcher ≠ none)
    (hfails : process.failed = true ∨ -1 ∈ process.written) :
    (∃ before, host.processes pid = some before ∧ before.launcher ≠ none ∧
      (before.failed = true ∨ -1 ∈ before.written)) ∨
    placeOf host pid = none ∨ placeOf host pid = some .loading ∨ placeOf host pid = some .writing ∨
      placeOf host pid = some .building ∨ placeOf host pid = some .starting := by
  have hupdate {other : Nat} {before moved : Process}
      (hbefore : host.processes other = some before)
      (hmoved : process = moved →
        (before.launcher ≠ none ∧ (before.failed = true ∨ -1 ∈ before.written)) ∨
        before.pc = .loading ∨ before.pc = .writing ∨ before.pc = .building ∨ before.pc = .starting)
      (hafter : Function.update host.processes other (some moved) pid = some process) :
      (∃ before, host.processes pid = some before ∧ before.launcher ≠ none ∧
        (before.failed = true ∨ -1 ∈ before.written)) ∨
      placeOf host pid = none ∨ placeOf host pid = some .loading ∨
        placeOf host pid = some .writing ∨
        placeOf host pid = some .building ∨ placeOf host pid = some .starting := by
    by_cases hpid : pid = other
    · rw [hpid, Function.update_self] at hafter
      rw [hpid, placeOf, hbefore]
      rcases hmoved (Option.some.inj hafter).symm with hfailing | hplace
      · exact .inl ⟨before, rfl, hfailing⟩
      · exact .inr (.inr (by simpa using hplace))
    · rw [Function.update_of_ne hpid] at hafter
      exact .inl ⟨process, hafter, hbackground, hfails⟩
  cases hstep with
  | refused => exact .inl ⟨process, hprocess, hbackground, hfails⟩
  | started _ =>
    dsimp only at hprocess
    by_cases hpid : pid = host.next
    · rw [hpid, placeOf, hfresh]
      exact .inr (.inl rfl)
    · rw [Function.update_of_ne hpid] at hprocess
      exact .inl ⟨process, hprocess, hbackground, hfails⟩
  | moved _ hbefore hmoves =>
    refine hupdate hbefore ?_ hprocess
    rintro rfl
    have hlauncher := background_of_step hmoves hbackground
    rcases failing_step hmoves hlauncher hfails with hfailing | hpc | hpc | hpc
    · exact .inl ⟨hlauncher, hfailing⟩
    · exact .inr (.inl hpc)
    · exact .inr (.inr (.inr (.inl hpc)))
    · exact .inr (.inr (.inr (.inr hpc)))
  | wrote hbefore hpc _ => exact hupdate hbefore (fun _ => .inr (.inr (.inl hpc))) hprocess
  | named hbefore hpc => exact hupdate hbefore (fun _ => .inr (.inr (.inl hpc))) hprocess
  | unlinked hbefore _ =>
    refine hupdate hbefore ?_ hprocess
    rintro rfl
    exact .inl ⟨hbackground, hfails⟩

theorem ascending_step (h : Ascending transits host) (hlaunched : Launched transits host)
    (hstep : hostMachine.step host op = some (output, after)) :
    Ascending (transits ++ [⟨host, op, output, after⟩]) after := by
  have hfresh := (hlaunched.fresh host.next (Nat.le_refl _)).1
  have hplaces := place_of_host (hostMachine_step hstep) hfresh
  constructor
  case climbed =>
    intro pid
    simp only [goes_snoc, announced_snoc, endsUntold_snoc]
    exact climbed_step (h.climbed pid) (hplaces pid)
  case failed =>
    intro pid process hprocess hbackground hfails
    rw [goes_snoc]
    rintro (hup | ⟨-, htelling⟩)
    · have hclimbed := h.climbed pid
      rcases failing_place (hostMachine_step hstep) hfresh hprocess hbackground hfails with
        ⟨before, hbefore, hlauncher, hfailing⟩ | hplace | hplace | hplace | hplace | hplace
      · exact h.failed pid before hbefore hlauncher hfailing hup
      all_goals
        rw [hplace] at hclimbed
        exact hclimbed.2.1 hup
    · obtain ⟨htold, -⟩ := (launched_step hlaunched hstep).told pid process hprocess hbackground
      have hpc : process.pc = .telling := by
        rw [placeOf, hprocess] at htelling
        exact Option.some.inj htelling
      have hwritten : process.written = [] := htold.said [] (by rw [hpc]; rfl)
      rw [hwritten, htold.unfailed (by rw [hpc]; rfl)] at hfails
      simp at hfails

theorem run_ascending (run : Run hostMachine hostNew transits host) : Ascending transits host := by
  induction run with
  | nil =>
    constructor
    · intro pid
      simp [Climbed, placeOf, hostNew, Goes, Announced, EndsUntold]
    · intro pid process hprocess
      cases hprocess
  | snoc run hstep ih => exact ascending_step ih (run_launched run) hstep

theorem Ascending.announced_iff (h : Ascending transits host) {pid : Nat} {process : Process}
    (hprocess : host.processes pid = some process) :
    Announced transits pid ↔ CameUp transits pid ∧ process.pc ≠ .telling ∧
      ¬EndsUntold transits pid := by
  have hclimbed := h.climbed pid
  unfold CameUp
  rw [placeOf, hprocess, Option.map_some] at hclimbed
  cases hpc : process.pc <;> simp_all [Climbed, and_assoc]

/-- A launcher with nothing to read is left alone. -/
theorem stuck_step {pid : Nat} {process : Process} (hprocess : host.processes pid = some process)
    (hknown : pid < host.next) (hdead : process.pc.alive = false) (hpipe : process.pipe = [])
    (hstep : hostMachine.step host op = some (output, after)) :
    after.processes pid = some process ∧ pid < after.next := by
  have hother {other : Nat} {found : Process} (hfound : host.processes other = some found)
      (hmoves : found.pc.alive = true ∨ found.pipe ≠ []) (moved : Process) :
      Function.update host.processes other (some moved) pid = some process := by
    rw [Function.update_of_ne, hprocess]
    intro hsame
    rw [← hsame, hprocess] at hfound
    cases hfound
    simp [hdead, hpipe] at hmoves
  cases hostMachine_step hstep with
  | refused => exact ⟨hprocess, hknown⟩
  | started _ =>
    refine ⟨?_, Nat.lt_succ_of_lt hknown⟩
    dsimp only
    rw [Function.update_of_ne (Nat.ne_of_lt hknown), hprocess]
  | @moved _ _ found _ _ hfound hmoves =>
    refine ⟨hother hfound ?_ _, hknown⟩
    cases halive : found.pc.alive with
    | true => exact .inl rfl
    | false => exact .inr (dead_step hmoves halive)
  | wrote hfound hpc _ => exact ⟨hother hfound (.inl (by rw [hpc]; rfl)) _, hknown⟩
  | named hfound hpc => exact ⟨hother hfound (.inl (by rw [hpc]; rfl)) _, hknown⟩
  | unlinked hfound hpc => exact ⟨hother hfound (.inl (by rw [hpc]; rfl)) _, hknown⟩

end

/-- The launcher of a daemon is told at most one result: 0 if the daemon has come up
and does not end on its way to tell so, and -1 only if it has not. It waits for ever
if the daemon ends without a word. -/
theorem launchers_told {transits : List (Transit Host HostOp Int)}
    {host : Host} (run : Run hostMachine hostNew transits host)
    {pid : Nat} {process : Process} (hprocess : host.processes pid = some process)
    (hbackground : process.launcher ≠ none) :
    (process.written = [] ∨ process.written = [0] ∨ process.written = [-1]) ∧
      (0 ∈ process.written ↔ CameUp transits pid ∧ process.pc ≠ .telling ∧
        ¬EndsUntold transits pid) ∧
      (-1 ∈ process.written → ¬CameUp transits pid) ∧
      (process.pc.alive = false → process.written = [] →
        ∀ later host', Run hostMachine host later host' → host'.processes pid = some process) := by
  have hlaunched := run_launched run
  have hascending := run_ascending run
  obtain ⟨htold, hzero⟩ := hlaunched.told pid process hprocess hbackground
  refine ⟨htold.once, hzero.trans (hascending.announced_iff hprocess), ?_, ?_⟩
  · intro hfails hup
    exact hascending.failed pid process hprocess hbackground (.inr hfails) hup.2
  intro hdead hwritten later host' hlater
  have hpipe : process.pipe = [] := by
    obtain ⟨launcher, hlauncher⟩ := Option.ne_none_iff_exists'.mp hbackground
    simp only [Process.written, hlauncher, List.append_eq_nil_iff] at hwritten
    exact hwritten.2
  have hstuck : host'.processes pid = some process ∧ pid < host'.next := by
    induction hlater with
    | nil => exact ⟨hprocess, hlaunched.known hprocess⟩
    | snoc _ hstep ih => exact stuck_step ih.1 ih.2 hdead hpipe hstep
  exact hstuck.1

/-- The first daemon is interrupted before it handles signals. The second comes up,
and keeps a third away. -/
def twoDaemons : List HostOp :=
  [.start false 0 false, .signal 1 true, .start false 0 false,
    .mainThread 2 true, .mainThread 2 true,
    .writePidfile 2 (.written true), .mainThread 2 true, .mainThread 2 true,
      .mainThread 2 true, .mainThread 2 true,
    .start false 0 false, .read 2, .mainThread 2 true, .mainThread 2 true]

theorem launchers_told_two :
    ∃ transits host, hostMachine.exec hostNew twoDaemons = some (transits, host) ∧
    CameUp transits 2 ∧ ∀ later host', Run hostMachine host later host' →
      host'.processes 1 = host.processes 1 := by
  have hrun : (hostMachine.exec hostNew twoDaemons).any (fun run =>
      (run.2.processes 1).any (fun process => process.launcher == some none &&
        !process.pc.alive && process.pipe.isEmpty) &&
        (run.2.processes 2).any fun process => process.launcher == some (some 0)) = true := by
    decide +kernel
  obtain ⟨⟨transits, host⟩, hexec, hends⟩ := (Option.any_eq_true _ _).mp hrun
  obtain ⟨hfirst, hsecond⟩ := (Bool.and_eq_true _ _).mp hends
  obtain ⟨lost, hlost, hleft⟩ := (Option.any_eq_true _ _).mp hfirst
  obtain ⟨process, hprocess, hlauncher⟩ := (Option.any_eq_true _ _).mp hsecond
  simp only [Bool.and_eq_true, beq_iff_eq, Bool.not_eq_true', List.isEmpty_iff] at hleft hlauncher
  obtain ⟨⟨hwaits, hdead⟩, hpipe⟩ := hleft
  refine ⟨transits, host, hexec, ?_, ?_⟩
  · refine ((launchers_told (Machine.exec_run hexec) hprocess (by simp [hlauncher])).2.1.mp ?_).1
    simp [Process.written, hlauncher]
  · intro later host' hlater
    rw [hlost]
    apply (launchers_told (Machine.exec_run hexec) hlost (by simp [hwaits])).2.2.2 hdead
    · simp [Process.written, hwaits, hpipe]
    · exact hlater

/-! One daemon. -/

/-- A daemon is started when no other is on its way to its pid file, and the
directory of the logs is there. -/
def Orderly (x : Transit Host HostOp Int) : Prop :=
  ∀ foreground errno reused, x.input = .start foreground errno reused →
    errno = 0 ∧ ∀ pid process, x.before.processes pid = some process → process.pc.coming = false

/-- Whom a pid file names. -/
structure Honest (host : Host) : Prop where
  fresh : ∀ pid, host.next ≤ pid → host.processes pid = none
  left : ∀ pid, host.pidfile = .names pid → ∃ process, host.processes pid = some process ∧
    process.pc.coming = false ∧ ∀ result, process.pc ≠ .returned result

structure Single (host : Host) : Prop where
  honest : Honest host
  one : ∀ pid other process found, host.processes pid = some process →
    host.processes other = some found →
    process.pc.alive = true → found.pc.alive = true → pid = other
  named : ∀ pid process, host.processes pid = some process →
    process.pc.alive = true → process.pc.coming = false → host.pidfile = .names pid

section
variable {transits : List (Transit Host HostOp Int)} {host after : Host}
  {op : HostOp} {output : Int}

theorem Single.update (h : Single host) {pid : Nat} {process moved : Process} {pidfile : Pidfile}
    (hprocess : host.processes pid = some process)
    (halive : moved.pc.alive = true → process.pc.alive = true)
    (hnamed : moved.pc.alive = true → moved.pc.coming = false → pidfile = .names pid)
    (hkept : process.pc.alive = false → pidfile = host.pidfile)
    (hleft : ∀ other, pidfile = .names other → (host.pidfile = .names other ∨ other = pid) ∧
      (other = pid → moved.pc.coming = false ∧ ∀ result, moved.pc ≠ .returned result)) :
    Single ⟨Function.update host.processes pid (some moved), host.next, pidfile⟩ := by
  have hcases {other : Nat} {found : Process}
      (hfound : Function.update host.processes pid (some moved) other = some found) :
      other = pid ∧ found = moved ∨ other ≠ pid ∧ host.processes other = some found := by
    by_cases hother : other = pid
    · rw [hother, Function.update_self] at hfound
      exact .inl ⟨hother, (Option.some.inj hfound).symm⟩
    · rw [Function.update_of_ne hother] at hfound
      exact .inr ⟨hother, hfound⟩
  constructor
  case honest =>
    constructor
    case fresh =>
      intro other hother
      have hnone := h.honest.fresh other hother
      have hne : other ≠ pid := by
        intro hsame
        rw [hsame, hprocess] at hnone
        cases hnone
      dsimp only
      rw [Function.update_of_ne hne, hnone]
    case left =>
      intro other hother
      dsimp only at hother ⊢
      obtain ⟨hfile, hmoved⟩ := hleft other hother
      by_cases hsame : other = pid
      · rw [hsame, Function.update_self]
        exact ⟨moved, rfl, hmoved hsame⟩
      · rw [Function.update_of_ne hsame]
        exact h.honest.left other (hfile.resolve_right hsame)
  case one =>
    intro first second process' found' hfirst hsecond hfirstAlive hsecondAlive
    rcases hcases hfirst with ⟨rfl, rfl⟩ | ⟨_, hold⟩
    · rcases hcases hsecond with ⟨rfl, _⟩ | ⟨_, hother⟩
      · rfl
      · exact h.one _ _ _ _ hprocess hother (halive hfirstAlive) hsecondAlive
    · rcases hcases hsecond with ⟨rfl, rfl⟩ | ⟨_, hother⟩
      · exact h.one _ _ _ _ hold hprocess hfirstAlive (halive hsecondAlive)
      · exact h.one _ _ _ _ hold hother hfirstAlive hsecondAlive
  case named =>
    intro other found hfound hfoundAlive hpast
    rcases hcases hfound with ⟨rfl, rfl⟩ | ⟨hne, hold⟩
    · exact hnamed hfoundAlive hpast
    · cases hdead : process.pc.alive with
      | true => exact absurd (h.one _ _ _ _ hold hprocess hfoundAlive hdead) hne
      | false =>
        have hfile := h.named other found hold hfoundAlive hpast
        dsimp only
        rw [hkept hdead, hfile]

theorem single_step (h : Single host) (horderly : Orderly ⟨host, op, output, after⟩)
    (hstep : hostMachine.step host op = some (output, after)) : Single after := by
  cases hostMachine_step hstep with
  | refused => exact h
  | @started foreground errno reused hfree =>
    obtain ⟨herrno, hnone⟩ := horderly foreground errno reused rfl
    -- who is alive is behind its pid file, which then keeps the new one away
    have hdead : ∀ pid process, host.processes pid = some process → process.pc.alive = false := by
      intro pid process hprocess
      rw [← Bool.not_eq_true]
      intro halive
      have hfile := h.named pid process hprocess halive (hnone pid process hprocess)
      simp [Host.checkAlreadyRunning, Host.killed, herrno, hfile, hprocess, halive] at hfree
    have hcases {other : Nat} {found : Process}
        (hfound : Function.update host.processes host.next (some (Process.new foreground)) other =
          some found)
        (halive : found.pc.alive = true) : other = host.next ∧ found = Process.new foreground := by
      by_cases hother : other = host.next
      · rw [hother, Function.update_self] at hfound
        exact ⟨hother, (Option.some.inj hfound).symm⟩
      · rw [Function.update_of_ne hother] at hfound
        rw [hdead other found hfound] at halive
        cases halive
    constructor
    case honest =>
      constructor
      case fresh =>
        intro pid hpid
        dsimp only at hpid ⊢
        rw [Function.update_of_ne (by omega)]
        exact h.honest.fresh pid (Nat.le_of_succ_le hpid)
      case left =>
        intro pid hfile
        obtain ⟨process, hprocess, hplace⟩ := h.honest.left pid hfile
        have hne : pid ≠ host.next := by
          intro hsame
          rw [hsame, h.honest.fresh host.next (Nat.le_refl _)] at hprocess
          cases hprocess
        dsimp only
        rw [Function.update_of_ne hne]
        exact ⟨process, hprocess, hplace⟩
    case one =>
      intro pid other process found hpid hother hpidAlive hotherAlive
      rw [(hcases hpid hpidAlive).1, (hcases hother hotherAlive).1]
    case named =>
      intro pid process hpid halive hpast
      rw [(hcases hpid halive).2] at hpast
      cases hpast
  | @moved pid _ process moved _ hprocess hmoves =>
    obtain ⟨hpast, hreturned⟩ := places_of_step hmoves
    apply h.update hprocess
    · exact fun halive => (alive_of_step hmoves halive).1
    · intro halive hbehind
      obtain ⟨hbefore, hsame⟩ := alive_of_step hmoves halive
      exact h.named pid process hprocess hbefore (hsame ▸ hbehind)
    · exact fun _ => rfl
    · intro other hfile
      refine ⟨.inl hfile, ?_⟩
      intro hsame
      obtain ⟨found, hfound, hplace, hstays⟩ := h.honest.left other hfile
      rw [hsame, hprocess] at hfound
      cases hfound
      exact ⟨hpast hplace, fun result hlast => hstays result (hreturned result hlast)⟩
  | wrote hprocess hpc hpidfile =>
    apply h.update hprocess
    · exact fun halive => Bool.noConfusion halive
    · exact fun halive => Bool.noConfusion halive
    · exact fun hdead => by simp [hpc, ProcessPc.alive] at hdead
    · intro other hfile
      exact ⟨hpidfile other hfile, fun _ => by simp [Process.vmstatedErr, ProcessPc.coming]⟩
  | named hprocess hpc =>
    apply h.update hprocess
    · exact fun _ => by rw [hpc]; rfl
    · exact fun _ _ => rfl
    · exact fun hdead => by simp [hpc, ProcessPc.alive] at hdead
    · intro other hfile
      exact ⟨.inr (Pidfile.names.inj hfile).symm, fun _ => by simp [ProcessPc.coming]⟩
  | unlinked hprocess hpc =>
    apply h.update hprocess
    · exact fun halive => Bool.noConfusion halive
    · exact fun halive => Bool.noConfusion halive
    · exact fun hdead => by simp [hpc, ProcessPc.alive] at hdead
    · exact fun other hfile => Pidfile.noConfusion hfile

theorem single_new : Single hostNew where
  honest := ⟨fun _ _ => rfl, fun pid hfile => Pidfile.noConfusion hfile⟩
  one pid other process found hpid := by cases hpid
  named pid process hpid := by cases hpid

/-- If daemons are started one after the other, there is never more than one
alive, and the pid file names it from the time it was written. The file that a
daemon leaves behind was not left by one that returned. -/
theorem one_daemon (run : Run hostMachine hostNew transits host)
    (horderly : ∀ x ∈ transits, Orderly x) :
    (∀ pid other process found, host.processes pid = some process →
      host.processes other = some found →
        process.pc.alive = true → found.pc.alive = true → pid = other) ∧
      (∀ pid process, host.processes pid = some process → process.pc.alive = true →
        process.pc.coming = false → host.pidfile = .names pid) ∧
      ∀ pid, host.pidfile = .names pid → ∃ process, host.processes pid = some process ∧
        ∀ result, process.pc ≠ .returned result := by
  have hsingle : Single host := run.invariant single_new (fun _ hbefore hallowed hstep =>
    single_step hbefore hallowed hstep) horderly
  refine ⟨hsingle.one, hsingle.named, ?_⟩
  intro pid hfile
  obtain ⟨process, hprocess, _, hstays⟩ := hsingle.honest.left pid hfile
  exact ⟨process, hprocess, hstays⟩

end

/-- Only pids that were given have to be looked at. -/
def startsAlone (x : Transit Host HostOp Int) : Bool :=
  match x.input with
  | .start _ errno _ =>
    errno == 0 && (List.range x.before.next).all fun pid =>
      (x.before.processes pid).all fun process => !process.pc.coming
  | _ => true

theorem orderly_of_startsAlone {transits : List (Transit Host HostOp Int)} {host : Host}
    (run : Run hostMachine hostNew transits host) {x : Transit Host HostOp Int} (hx : x ∈ transits)
    (halone : startsAlone x = true) : Orderly x := by
  intro foreground errno reused hinput
  simp only [startsAlone, hinput, Bool.and_eq_true, beq_iff_eq, List.all_eq_true, List.mem_range]
    at halone
  refine ⟨halone.1, ?_⟩
  intro pid process hprocess
  obtain ⟨earlier, later, rfl⟩ := List.append_of_mem hx
  have hnone := halone.2 pid ((run_launched run.before_mid).known hprocess)
  simpa [hprocess] using hnone

theorem one_daemon_two :
    ∃ transits host, hostMachine.exec hostNew twoDaemons = some (transits, host) ∧
    host.pidfile = .names 2 := by
  have hrun : (hostMachine.exec hostNew twoDaemons).any (fun run => run.1.all startsAlone &&
      (run.2.processes 2).any fun process => process.pc.alive && !process.pc.coming) = true := by
    decide +kernel
  obtain ⟨⟨transits, host⟩, hexec, hends⟩ := (Option.any_eq_true _ _).mp hrun
  obtain ⟨halone, hsecond⟩ := (Bool.and_eq_true _ _).mp hends
  obtain ⟨process, hprocess, hplace⟩ := (Option.any_eq_true _ _).mp hsecond
  simp only [Bool.and_eq_true, Bool.not_eq_true'] at hplace
  have run := Machine.exec_run hexec
  refine ⟨transits, host, hexec, ?_⟩
  apply (one_daemon run ?_).2.1 2 process hprocess hplace.1 hplace.2
  intro x hx
  exact orderly_of_startsAlone run hx (List.all_eq_true.mp halone x hx)

/-- The first has not written its pid file when the second looks for it. -/
example : ((hostMachine.exec hostNew [.start false 0 false, .start false 0 false]).map fun run =>
    [1, 2].map fun pid => (run.2.processes pid).map Process.pc) =
    some [some .loading, some .loading] := by
  decide +kernel

end Vmstated.Properties
