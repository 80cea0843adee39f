import Vmstated.Libprocwatch.CommandHandler
import Vmstated.Libprocwatch.ConfigStore
import Vmstated.Libprocwatch.Fleet

/-! bhyve_director.c: the director as its callers know it, who name the machines.
Several may have one name. -/
namespace Vmstated.Libprocwatch
open Library

structure NamedDirector where
  configs : List VmConfig
  bd : BhyveDirector
  /-- The machines that `bd_runautostart` has not come to. -/
  ahead : List VmConfig

inductive NamedOp where
  | startvm (name : CString) (hooks : Oracle VmState HookOutcome)
      (answers : StartAnswers) (request : RequestAnswers)
  | stopvm (name : CString) (hooks : Oracle VmState HookOutcome)
      (answers : StopAnswers) (request : RequestAnswers)
  | resetfailvm (name : CString) (hooks : Oracle VmState HookOutcome) (request : RequestAnswers)
  /-- A process of the machine at this place exits. -/
  | exits (place index : Nat) (request : RequestAnswers)
  | exitEvent (place index status : Nat) (hooks : Oracle VmState HookOutcome)
      (answers : ExitAnswers) (request : RequestAnswers)
  /-- The reboot thread calls `bd_startvm`. -/
  | restart (hooks : Oracle VmState HookOutcome) (answers : StartAnswers) (request : RequestAnswers)
  | thread
  | spurious
  /-- The next machine in `bd_runautostart`. -/
  | autostart (hooks : Oracle VmState HookOutcome) (answers : StartAnswers)
      (request : RequestAnswers)

namespace NamedDirector

def new (configs : List VmConfig) : NamedDirector where
  configs
  bd := bdNew (configs.map fun config => (config.maxrestart, config.maxrestarttime))
  ahead := configs

/-- The first machine of the name. -/
def getvmbyname (nd : NamedDirector) (name : CString) : Option Nat :=
  nd.configs.findIdx? fun config => config.name = name

def takenName (nd : NamedDirector) : Option CString :=
  match nd.bd.reboot.thread with
  | .taken index => nd.configs[index]?.map VmConfig.name
  | _ => none

def autostartName (nd : NamedDirector) : Option CString :=
  nd.ahead.head?.bind fun config => if config.autostart then some config.name else none

def perform (place : Nat) (op : Op) (request : RequestAnswers) (nd : NamedDirector) :
    Option (Int × NamedDirector) :=
  (nd.bd.perform place op request).map fun performed => (performed.1, { nd with bd := performed.2 })

def onNamed (unknown : Int) (name : CString) (op : Op) (request : RequestAnswers)
    (nd : NamedDirector) :
    Option (Int × NamedDirector) :=
  match nd.getvmbyname name with
  | none => some (unknown, nd)
  | some place => nd.perform place op request

def onFleet (input : DirectorOp) (nd : NamedDirector) : Option (Int × NamedDirector) :=
  (fleet.step nd.bd input).map fun moved => (moved.1, { nd with bd := moved.2 })

end NamedDirector

def namedDirector : Machine NamedDirector NamedOp Int where
  step nd input :=
    match input with
    | .startvm name hooks answers request =>
      nd.onNamed bdErrUnknownvmname name (.startvm hooks answers) request
    | .stopvm name hooks answers request => nd.onNamed (-1) name (.stopvm hooks answers) request
    | .resetfailvm name hooks request => nd.onNamed (-1) name (.resetfailvm hooks) request
    | .exits place index request => nd.perform place (.exits index) request
    | .exitEvent place index status hooks answers request =>
      nd.perform place (.exitEvent index status hooks answers) request
    | .restart hooks answers request => do
      let name ← nd.takenName
      let (output, nd) ← nd.onNamed bdErrUnknownvmname name (.startvm hooks answers) request
      let bd ← nd.bd.runThread
      return (output, { nd with bd })
    | .thread => nd.onFleet .thread
    | .spurious => nd.onFleet .spurious
    | .autostart hooks answers request =>
      match nd.ahead with
      | [] => none
      | _ :: ahead =>
        let later := { nd with ahead }
        match nd.autostartName with
        | none => some (0, later)
        | some name => later.onNamed bdErrUnknownvmname name (.startvm hooks answers) request

/-! What the fleet sees of it. -/

namespace NamedDirector

/-- The operation of the fleet behind an input; nothing for a machine that is
not known, or not to be started. -/
def resolve (nd : NamedDirector) : NamedOp → Option DirectorOp
  | .startvm name hooks answers request =>
    (nd.getvmbyname name).map fun place => .vm place (.startvm hooks answers) request
  | .stopvm name hooks answers request =>
    (nd.getvmbyname name).map fun place => .vm place (.stopvm hooks answers) request
  | .resetfailvm name hooks request =>
    (nd.getvmbyname name).map fun place => .vm place (.resetfailvm hooks) request
  | .exits place index request => some (.vm place (.exits index) request)
  | .exitEvent place index status hooks answers request =>
    some (.vm place (.exitEvent index status hooks answers) request)
  | .restart hooks answers request => some (.restart hooks answers request)
  | .thread => some .thread
  | .spurious => some .spurious
  | .autostart hooks answers request =>
    (nd.autostartName.bind nd.getvmbyname).map fun place => .vm place
    (.startvm hooks answers) request

def autostarted (nd : NamedDirector) : NamedOp → Option CString
  | .autostart _ _ _ => nd.autostartName
  | _ => none

def toStart (nd : NamedDirector) : List CString :=
  (nd.ahead.filter VmConfig.autostart).map VmConfig.name

end NamedDirector

def fleetTransit (x : Transit NamedDirector NamedOp Int) :
    Option (Transit BhyveDirector DirectorOp Int) :=
  (x.before.resolve x.input).map fun input => ⟨x.before.bd, input, x.output, x.after.bd⟩

def fleetTransits (transits : List (Transit NamedDirector NamedOp Int)) :
    List (Transit BhyveDirector DirectorOp Int) :=
  transits.filterMap fleetTransit

/-! Only the first machine of a name is ever found. -/

def First (configs : List VmConfig) (place : Nat) : Prop :=
  ∃ config, configs[place]? = some config ∧
    (configs.findIdx? fun other => other.name = config.name) = some place

/-- Machines that are not the first of their names are as `bd_new` made them,
and none of them is to be started by the reboot thread. -/
structure Led (nd : NamedDirector) : Prop where
  length : nd.bd.statelist.length = nd.configs.length
  waiting : ∀ place ∈ nd.bd.reboot.rebootlist, First nd.configs place
  taken : ∀ place, nd.bd.reboot.thread = .taken place → First nd.configs place
  others : ∀ place config, nd.configs[place]? = some config → ¬First nd.configs place →
    nd.bd.statelist[place]? = some (bwvNew config.maxrestart config.maxrestarttime true)

theorem new_led (configs : List VmConfig) : Led (.new configs) where
  length := by
    simp [NamedDirector.new, bdNew]
  waiting place hplace := absurd hplace List.not_mem_nil
  taken place htaken := by
    cases htaken
  others place config hconfig _ := by
    have hplace : configs[place]? = some config := hconfig
    simp [NamedDirector.new, bdNew, hplace]

section
variable {nd : NamedDirector} {bd' : BhyveDirector} {place : Nat}
  {op : Op} {request : RequestAnswers} {output : Int}

theorem getvmbyname_first {name : CString} (hfound : nd.getvmbyname name = some place) :
    First nd.configs place := by
  have hfind := hfound
  rw [NamedDirector.getvmbyname, List.findIdx?_eq_some_iff_getElem] at hfind
  obtain ⟨hlt, hname, _⟩ := hfind
  have hsame : nd.configs[place].name = name := of_decide_eq_true hname
  refine ⟨nd.configs[place], List.getElem?_eq_getElem hlt, ?_⟩
  rw [hsame]
  exact hfound

theorem Led.perform (hled : Led nd) (hfirst : First nd.configs place)
    (hperform : nd.bd.perform place op request = some (output, bd')) :
    Led { nd with bd := bd' } := by
  obtain ⟨bwv, bwv', _, _, hlist, hreboot⟩ := perform_cases hperform
  constructor
  case length =>
    show bd'.statelist.length = nd.configs.length
    rw [hlist, List.length_set]
    exact hled.length
  case waiting =>
    intro other hother
    dsimp only at hother ⊢
    rw [hreboot] at hother
    split at hother
    · exact hled.waiting other hother
    · rcases bdRequestreboot_mem hother with hwaits | hnew
      · exact hled.waiting other hwaits
      · rw [hnew]
        exact hfirst
  case taken =>
    intro other htaken
    dsimp only at htaken ⊢
    rw [hreboot] at htaken
    split at htaken
    · exact hled.taken other htaken
    · exact hled.taken other (bdRequestreboot_taken htaken)
  case others =>
    intro other config hconfig hlater
    dsimp only at hconfig hlater ⊢
    have hne : place ≠ other := fun hsame => hlater (hsame ▸ hfirst)
    rw [hlist, List.getElem?_set_ne hne]
    exact hled.others other config hconfig hlater

theorem Led.runThread (hled : Led nd) (hthread : nd.bd.runThread = some bd') :
    Led { nd with bd := bd' } := by
  obtain ⟨hlist, hsection⟩ := runThread_cases hthread
  constructor
  case length =>
    show bd'.statelist.length = nd.configs.length
    rw [hlist]
    exact hled.length
  case waiting =>
    intro other hother
    exact hled.waiting other ((bdRestartThread_rebootlist hsection).subset hother)
  case taken =>
    intro other htaken
    exact hled.waiting other (bdRestartThread_taken hsection htaken)
  case others =>
    intro other config hconfig hlater
    dsimp only at hconfig hlater ⊢
    rw [hlist]
    exact hled.others other config hconfig hlater

theorem Led.first_of_proc (hled : Led nd) {bwv : BhyveWatchedVm}
    (hbwv : nd.bd.statelist[place]? = some bwv)
    (hprocs : bwv.state.os.procs ≠ []) : First nd.configs place := by
  by_contra hlater
  have hlt : place < nd.configs.length := by
    rw [← hled.length]
    exact (List.getElem?_eq_some_iff.mp hbwv).1
  have hnew := hled.others place nd.configs[place] (List.getElem?_eq_getElem hlt) hlater
  rw [hbwv] at hnew
  obtain rfl := Option.some.inj hnew
  exact hprocs rfl

end

/-- What an input is for the fleet. -/
def Answers (nd : NamedDirector) (reached : Option DirectorOp)
    (output : Int) (nd' : NamedDirector) : Prop :=
  match reached with
  | none => nd'.bd = nd.bd
  | some input => fleet.step nd.bd input = some (output, nd'.bd)

section
variable {nd nd' : NamedDirector} {place : Nat} {op : Op}
  {request : RequestAnswers} {output unknown : Int} {name : CString}

theorem Led.congr (hled : Led nd) (hconfigs : nd'.configs = nd.configs) (hbd : nd'.bd = nd.bd) :
    Led nd' := by
  obtain ⟨configs, bd, ahead⟩ := nd
  obtain ⟨configs', bd', ahead'⟩ := nd'
  dsimp only at hconfigs hbd
  subst hconfigs hbd
  exact ⟨hled.length, hled.waiting, hled.taken, hled.others⟩

theorem perform_named (hperform : nd.perform place op request = some (output, nd')) :
    nd.bd.perform place op request = some (output, nd'.bd) ∧
      nd'.configs = nd.configs ∧ nd'.ahead = nd.ahead := by
  obtain ⟨⟨result, bd⟩, hmoved, hnamed⟩ := Option.map_eq_some_iff.mp hperform
  cases hnamed
  exact ⟨hmoved, rfl, rfl⟩

theorem perform_led (hled : Led nd) (hfirst : First nd.configs place)
    (hperform : nd.perform place op request = some (output, nd')) : Led nd' := by
  obtain ⟨hmoved, hconfigs, _⟩ := perform_named hperform
  exact (hled.perform hfirst hmoved).congr hconfigs rfl

theorem onNamed_cases (hled : Led nd)
    (hnamed : nd.onNamed unknown name op request = some (output, nd')) :
    Led nd' ∧ nd'.configs = nd.configs ∧ nd'.ahead = nd.ahead ∧
      Answers nd ((nd.getvmbyname name).map fun place => .vm place op request) output nd' := by
  unfold NamedDirector.onNamed at hnamed
  cases hfound : nd.getvmbyname name with
  | none =>
    rw [hfound] at hnamed
    cases hnamed
    exact ⟨hled, rfl, rfl, rfl⟩
  | some place =>
    rw [hfound] at hnamed
    obtain ⟨hmoved, hconfigs, hahead⟩ := perform_named hnamed
    exact ⟨perform_led hled (getvmbyname_first hfound) hnamed, hconfigs, hahead, hmoved⟩

theorem onFleet_cases {input : DirectorOp} (hled : Led nd)
    (hinput : ∀ hooks answers request, input ≠ .restart hooks answers request)
    (hvm : ∀ place op request, input ≠ .vm place op request)
    (hmoved : nd.onFleet input = some (output, nd')) :
    Led nd' ∧ nd'.configs = nd.configs ∧ nd'.ahead = nd.ahead ∧
      fleet.step nd.bd input = some (output, nd'.bd) := by
  obtain ⟨⟨result, bd⟩, hstep, hresult⟩ := Option.map_eq_some_iff.mp hmoved
  cases hresult
  refine ⟨?_, rfl, rfl, hstep⟩
  rcases fleet_cases hstep with ⟨place, op, request, mid, hop, _, _⟩ | ⟨_, hlist, hthread | hwoken⟩
  · cases input with
    | vm place op request => exact absurd rfl (hvm place op request)
    | restart hooks answers request => exact absurd rfl (hinput hooks answers request)
    | thread => cases hop
    | spurious => cases hop
  · exact (hled.runThread hthread.1).congr rfl rfl
  · constructor
    case length =>
      show bd.statelist.length = nd.configs.length
      rw [hlist]
      exact hled.length
    case waiting =>
      intro other hother
      dsimp only at hother ⊢
      rw [hwoken] at hother
      exact hled.waiting other hother
    case taken =>
      intro other htaken
      dsimp only at htaken
      rw [hwoken] at htaken
      cases htaken
    case others =>
      intro other config hconfig hlater
      dsimp only at hconfig hlater ⊢
      rw [hlist]
      exact hled.others other config hconfig hlater

/-- The reboot thread finds the machine that asked. -/
theorem Led.taken_found (hled : Led nd) (htaken : nd.bd.reboot.thread = .taken place) :
    ∃ name, nd.takenName = some name ∧ nd.getvmbyname name = some place := by
  obtain ⟨config, hconfig, hfirst⟩ := hled.taken place htaken
  refine ⟨config.name, ?_, hfirst⟩
  rw [NamedDirector.takenName, htaken]
  dsimp only
  rw [hconfig, Option.map_some]

theorem toStart_of_ahead (hahead : nd'.ahead = nd.ahead) : nd.toStart = nd'.toStart := by
  rw [NamedDirector.toStart, NamedDirector.toStart, hahead]

theorem namedDirector_step {input : NamedOp} (hled : Led nd)
    (hstep : namedDirector.step nd input = some (output, nd')) :
    Led nd' ∧ nd'.configs = nd.configs ∧ nd.toStart = (nd.autostarted input).toList ++ nd'.toStart ∧
      Answers nd (nd.resolve input) output nd' := by
  cases input with
  | startvm name hooks answers request =>
    obtain ⟨hlater, hconfigs, hahead, hfollows⟩ := onNamed_cases hled hstep
    exact ⟨hlater, hconfigs, toStart_of_ahead hahead, hfollows⟩
  | stopvm name hooks answers request =>
    obtain ⟨hlater, hconfigs, hahead, hfollows⟩ := onNamed_cases hled hstep
    exact ⟨hlater, hconfigs, toStart_of_ahead hahead, hfollows⟩
  | resetfailvm name hooks request =>
    obtain ⟨hlater, hconfigs, hahead, hfollows⟩ := onNamed_cases hled hstep
    exact ⟨hlater, hconfigs, toStart_of_ahead hahead, hfollows⟩
  | exits place index request =>
    obtain ⟨hmoved, hconfigs, hahead⟩ := perform_named hstep
    obtain ⟨bwv, bwv', hbwv, hexits, _, _⟩ := perform_cases hmoved
    obtain ⟨pid, watched, hproc, _⟩ := director_exits hexits
    have hprocs : bwv.state.os.procs ≠ [] := by
      intro hnone
      rw [hnone] at hproc
      cases hproc
    exact ⟨perform_led hled (hled.first_of_proc hbwv hprocs) hstep,
      hconfigs, toStart_of_ahead hahead, hmoved⟩
  | exitEvent place index status hooks answers request =>
    obtain ⟨hmoved, hconfigs, hahead⟩ := perform_named hstep
    obtain ⟨bwv, bwv', hbwv, hevent, _, _⟩ := perform_cases hmoved
    obtain ⟨pid, hproc, _⟩ := director_exitEvent hevent
    have hprocs : bwv.state.os.procs ≠ [] := by
      intro hnone
      rw [hnone] at hproc
      cases hproc
    exact ⟨perform_led hled (hled.first_of_proc hbwv hprocs) hstep,
      hconfigs, toStart_of_ahead hahead, hmoved⟩
  | restart hooks answers request =>
    obtain ⟨name, hname, hrest⟩ := Option.bind_eq_some_iff.mp hstep
    obtain ⟨⟨result, mid⟩, hnamed, hrest⟩ := Option.bind_eq_some_iff.mp hrest
    obtain ⟨bd, hthread, hresult⟩ := Option.bind_eq_some_iff.mp hrest
    cases hresult
    obtain ⟨place, htaken⟩ : ∃ place, nd.bd.reboot.thread = .taken place := by
      unfold NamedDirector.takenName at hname
      split at hname
      · exact ⟨_, ‹_›⟩
      · cases hname
    obtain ⟨name', hname', hfound⟩ := hled.taken_found htaken
    obtain rfl := Option.some.inj (hname.symm.trans hname')
    obtain ⟨hmid, hconfigs, hahead, hfollows⟩ := onNamed_cases hled hnamed
    rw [hfound] at hfollows
    refine ⟨hmid.runThread hthread, hconfigs, toStart_of_ahead hahead, ?_⟩
    have hperform : nd.bd.perform place (.startvm hooks answers) request = some (output, mid.bd) :=
      hfollows
    show fleet.step nd.bd (.restart hooks answers request) = some (output, bd)
    simp only [fleet]
    rw [htaken]
    dsimp only
    rw [hperform, Option.bind_eq_bind, Option.bind_some]
    dsimp only
    rw [hthread]
    rfl
  | thread =>
    obtain ⟨hlater, hconfigs, hahead, hfollows⟩ := onFleet_cases hled (by simp) (by simp) hstep
    exact ⟨hlater, hconfigs, toStart_of_ahead hahead, hfollows⟩
  | spurious =>
    obtain ⟨hlater, hconfigs, hahead, hfollows⟩ := onFleet_cases hled (by simp) (by simp) hstep
    exact ⟨hlater, hconfigs, toStart_of_ahead hahead, hfollows⟩
  | autostart hooks answers request =>
    simp only [namedDirector] at hstep
    split at hstep
    · contradiction
    rename_i config ahead hahead
    have hnext : nd.autostartName = if config.autostart then some config.name else none := by
      rw [NamedDirector.autostartName, hahead, List.head?_cons, Option.bind_some]
    have htoStart : nd.toStart = nd.autostartName.toList ++
        (ahead.filter VmConfig.autostart).map VmConfig.name := by
      rw [NamedDirector.toStart, hahead, hnext]
      cases hflag : config.autostart <;> simp [hflag]
    cases hname : nd.autostartName with
    | none =>
      rw [hname] at hstep htoStart
      cases hstep
      refine ⟨hled.congr rfl rfl, rfl, ?_, ?_⟩
      · rw [NamedDirector.autostarted, hname]
        exact htoStart
      · rw [NamedDirector.resolve, hname]
        rfl
    | some name =>
      rw [hname] at hstep htoStart
      have hsame : Led { nd with ahead } := hled.congr rfl rfl
      obtain ⟨hlater, hconfigs, hrest, hfollows⟩ := onNamed_cases hsame hstep
      refine ⟨hlater, hconfigs, ?_, ?_⟩
      · rw [NamedDirector.autostarted, hname, htoStart]
        exact congrArg _ (toStart_of_ahead hrest)
      · rw [NamedDirector.resolve, hname]
        exact hfollows

end

/-! Runs. -/

section
variable {nd nd' : NamedDirector} {transits : List (Transit NamedDirector NamedOp Int)}

theorem named_run (hled : Led nd) (run : Run namedDirector nd transits nd') :
    Led nd' ∧ nd'.configs = nd.configs ∧ Run fleet nd.bd (fleetTransits transits) nd'.bd := by
  induction run with
  | nil => exact ⟨hled, rfl, .nil⟩
  | @snoc transits mid later input output _ hstep ih =>
    obtain ⟨hmid, hmidConfigs, hmidRun⟩ := ih
    obtain ⟨hlater, hconfigs, _, hfollows⟩ := namedDirector_step hmid hstep
    refine ⟨hlater, hconfigs.trans hmidConfigs, ?_⟩
    rw [fleetTransits, List.filterMap_append, ← fleetTransits]
    cases hreached : mid.resolve input with
    | none =>
      have hquiet : fleetTransit ⟨mid, input, output, later⟩ = none := by
        simp [fleetTransit, hreached]
      rw [hreached] at hfollows
      rw [List.filterMap_cons_none hquiet, List.filterMap_nil, List.append_nil]
      have hsame : later.bd = mid.bd := hfollows
      rw [hsame]
      exact hmidRun
    | some reached =>
      have hmoves : fleetTransit ⟨mid, input, output, later⟩ =
          some ⟨mid.bd, reached, output, later.bd⟩ := by
        simp [fleetTransit, hreached]
      rw [hreached] at hfollows
      rw [List.filterMap_cons_some hmoves, List.filterMap_nil]
      exact hmidRun.snoc hfollows

theorem autostarts_run (hled : Led nd) (run : Run namedDirector nd transits nd') :
    nd.toStart = (transits.filterMap fun x => x.before.autostarted x.input) ++ nd'.toStart := by
  induction run with
  | nil => rfl
  | @snoc transits mid later input output before hstep ih =>
    obtain ⟨_, _, hstarted, _⟩ := namedDirector_step (named_run hled before).1 hstep
    rw [ih, hstarted, List.filterMap_append, List.append_assoc]
    rfl

end

end Vmstated.Libprocwatch
