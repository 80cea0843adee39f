import Vmstated.Libprocwatch.NamedDirector
import Vmstated.Libprocwatch.StoreSpec
import Vmstated.Properties.MachineRuns

/-! From the files of a directory to the machines of the director, and to what
becomes of them in a run of the daemon. -/
namespace Vmstated.Properties
open Library Libprocwatch

section
variable {ucl : Libucl}

/-- The daemon starts if the directory can be opened and closed and one of the
files is accepted. Its machines are then the sections of all files, in the order
of the directory and of each file, although two lists are built from behind. -/
theorem directory_loaded (files : ConfigFiles ucl) (searchpath : CString)
    (statelist : List ConfigStruct) :
    Loads files searchpath statelist ↔
      ∃ entries, files.opendir searchpath = some entries ∧ files.closedir = 0 ∧
        (∃ path ∈ configPaths searchpath entries, (files.file path).isSome) ∧
        List.Forall₂ Parses (allSections files searchpath entries) statelist := by
  constructor
  · intro hloads
    exact hloads.parsed
  · intro hloaded
    obtain ⟨entries, hopen, hclose, hfound, hparsed⟩ := hloaded
    exact loads_of_parsed hopen hclose hfound hparsed

end

/-! Files of two machines. -/

def dbEntries : List Dirent :=
  [⟨literal ".", 4⟩, ⟨literal "first", 4⟩, ⟨literal "notes", 8⟩, ⟨literal "second", 4⟩]

def dbSection (autostart : Bool) (maxrestart : Int) : UclTree :=
  .node (some (literal "db")) [.leaf (some (literal "autostart")) (.boolean autostart),
    .leaf (some Setting.maxrestart.varname) (.int maxrestart),
      .leaf (some Setting.maxrestarttime.varname) (.int 60)]

def dbFiles : ConfigFiles ucltrees where
  opendir _ := some dbEntries
  closedir := 0
  file path :=
    if path = literal "conf/first/config" then some (some (.node none [dbSection true 1]))
    else if path = literal "conf/second/config" then some (some (.node none [dbSection false 3]))
    else none

def dbList : List ConfigStruct :=
  (allSections dbFiles (literal "conf") dbEntries).filterMap fun entry =>
    parseSection ucltrees entry.1 entry.2

def dbConfigs : List VmConfig := [⟨literal "db", true, 1, 60⟩, ⟨literal "db", false, 3, 60⟩]

theorem loads_db : Loads dbFiles (literal "conf") dbList := by
  have hfound : (configPaths (literal "conf") dbEntries).any
      (fun path => (dbFiles.file path).isSome) = true := by
    decide +kernel
  have hsections : ((allSections dbFiles (literal "conf") dbEntries).all fun entry =>
      (parseSection ucltrees entry.1 entry.2).isSome) = true := by
    decide +kernel
  apply loads_of_parsed rfl rfl (List.any_eq_true.mp hfound)
  apply parses_filterMap
  intro entry hentry
  exact Option.isSome_iff_ne_none.mp (List.all_eq_true.mp hsections entry hentry)

theorem knows_db : Knows dbList dbConfigs := by
  unfold Knows
  decide +kernel

/-- The first of the two is started with the daemon, and twice more by a client, each
time after its process has failed. -/
def dbStarts : List NamedOp :=
  [.autostart (fun _ _ => .absent) (startWith 100 10) ⟨true, true, true⟩,
    .exits 0 0 ⟨true, true, true⟩,
    .exitEvent 0 0 256 (fun _ _ => .absent) ⟨true, true, true⟩ ⟨true, true, true⟩,
    .startvm (literal "db") (fun _ _ => .absent) (startWith 130 11) ⟨true, true, true⟩,
    .autostart (fun _ _ => .absent) (startWith 130 12) ⟨true, true, true⟩,
      .exits 0 0 ⟨true, true, true⟩,
    .exitEvent 0 0 256 (fun _ _ => .absent) ⟨true, true, true⟩ ⟨true, true, true⟩,
    .startvm (literal "cache") (fun _ _ => .absent) (startWith 150 13) ⟨true, true, true⟩,
    .startvm (literal "db") (fun _ _ => .absent) (startWith 200 14) ⟨true, true, true⟩]

theorem dbStarts_exec :
    ∃ transits nd, namedDirector.exec (.new dbConfigs) dbStarts = some (transits, nd) ∧
    (fleetClocks (fleetTransits transits)).Pairwise (· ≤ ·) ∧
      launchStamps (machineRun 0 (fleetTransits transits)) = [100, 130, 200] := by
  have hrun : (namedDirector.exec (.new dbConfigs) dbStarts).any
      (fun run => decide ((fleetClocks (fleetTransits run.1)).Pairwise (· ≤ ·)) &&
        launchStamps (machineRun 0 (fleetTransits run.1)) == [100, 130, 200]) = true := by
    decide +kernel
  obtain ⟨⟨transits, nd⟩, hexec, hall⟩ := (Option.any_eq_true _ _).mp hrun
  simp only [Bool.and_eq_true, decide_eq_true_eq, beq_iff_eq] at hall
  exact ⟨transits, nd, hexec, hall⟩

/-! Runs by names. -/

/-- Whatever the names are, a run by names is one of the fleet, without the
commands for names that no machine has. A machine that is not the first of its
name stays as it was made, and the reboot thread starts the machine that asked. -/
theorem named_runs {configs : List VmConfig} {transits : List (Transit NamedDirector NamedOp Int)}
    {nd : NamedDirector} (run : Run namedDirector (.new configs) transits nd) :
    Run fleet (bdNew (configs.map fun config => (config.maxrestart, config.maxrestarttime)))
      (fleetTransits transits)
        nd.bd ∧
      (∀ place config, configs[place]? = some config → ¬First configs place →
        nd.bd.statelist[place]? = some (bwvNew config.maxrestart config.maxrestarttime true)) ∧
      ∀ place, nd.bd.reboot.thread = .taken place →
        ∃ name, nd.takenName = some name ∧ nd.getvmbyname name = some place := by
  obtain ⟨hled, hconfigs, hrun⟩ := named_run (new_led configs) run
  refine ⟨hrun, ?_, fun place htaken => hled.taken_found htaken⟩
  have hothers := hled.others
  rw [hconfigs] at hothers
  exact hothers

theorem named_runs_db :
    ∃ transits nd, namedDirector.exec (.new dbConfigs) dbStarts = some (transits, nd) ∧
    nd.bd.statelist[1]? = some (bwvNew 3 60 true) := by
  obtain ⟨transits, nd, hexec, _⟩ := dbStarts_exec
  refine ⟨transits, nd, hexec,
    (named_runs (Machine.exec_run hexec)).2.1 1 ⟨literal "db", false, 3, 60⟩ rfl ?_⟩
  rintro ⟨config, hconfig, hfirst⟩
  obtain rfl := Option.some.inj hconfig
  exact absurd hfirst (by decide)

section
variable {ucl : Libucl} {files : ConfigFiles ucl} {searchpath : CString}
  {statelist : List ConfigStruct} {configs : List VmConfig}
  {transits : List (Transit NamedDirector NamedOp Int)} {nd : NamedDirector}

/-- Whatever clients do in between, the machines whose sections say so are
started once each, by their names and in the order of the files. -/
theorem autostart_in_order (hloads : Loads files searchpath statelist)
    (hknown : Knows statelist configs) (run : Run namedDirector (.new configs) transits nd) :
    ∃ entries, files.opendir searchpath = some entries ∧
      (transits.filterMap fun x => x.before.autostarted x.input) ++ nd.toStart =
        (((allSections files searchpath entries).zip configs).filter fun pair =>
          flagOf pair.1.2 (ascii "autostart")).map fun pair => pair.2.name := by
  obtain ⟨entries, hopen, _, _, hparsed⟩ := hloads.parsed
  refine ⟨entries, hopen, ?_⟩
  rw [← autostarts_run (new_led configs) run, ← autostart_sections (configures hparsed hknown)]
  rfl

end

theorem autostart_in_order_db :
    ∃ transits nd, namedDirector.exec (.new dbConfigs) dbStarts = some (transits, nd) ∧
    (transits.filterMap fun x => x.before.autostarted x.input) ++ nd.toStart = [literal "db"] := by
  obtain ⟨transits, nd, hexec, _⟩ := dbStarts_exec
  obtain ⟨entries, hopen, hstarted⟩ :=
    @autostart_in_order ucltrees dbFiles (literal "conf") dbList dbConfigs
      transits nd loads_db knows_db (Machine.exec_run hexec)
  obtain rfl := Option.some.inj hopen
  refine ⟨transits, nd, hexec, hstarted.trans ?_⟩
  decide +kernel

section
variable {ucl : Libucl} {files : ConfigFiles ucl} {searchpath : CString}
  {statelist : List ConfigStruct} {configs : List VmConfig}
  {transits : List (Transit NamedDirector NamedOp Int)} {nd : NamedDirector}

/-- A machine is not launched more often than its section in the files allows,
if the clock does not go back. -/
theorem configured_launches_spaced (hloads : Loads files searchpath statelist)
    (hknown : Knows statelist configs)
    (run : Run namedDirector (.new configs) transits nd)
    (hclock : (fleetClocks (fleetTransits transits)).Pairwise (· ≤ ·))
    {entries : List Dirent} (hopen : files.opendir searchpath = some entries)
    {place : Nat} {path : CString}
    {cur : ucl.Object}
    (hsection : (allSections files searchpath entries)[place]? = some (path, cur))
    (hmax : numberOf cur (ascii "maxrestart") 4 < 2 ^ 32 - 1) :
    Spaced (numberOf cur (ascii "maxrestart") 4)
      (Int.bmod (numberOf cur (ascii "maxrestarttime") 8) (2 ^ 64))
      (launchStamps (machineRun place (fleetTransits transits))) := by
  obtain ⟨entries', hentries, _, _, hparsed⟩ := hloads.parsed
  obtain rfl := Option.some.inj (hopen.symm.trans hentries)
  obtain ⟨_, _, hrun⟩ := named_run (new_led configs) run
  have hconfigures := configures hparsed hknown
  have hlt : place < configs.length := by
    rw [← hconfigures.length_eq]
    exact (List.getElem?_eq_some_iff.mp hsection).1
  obtain ⟨hplace, hcur⟩ := List.getElem?_eq_some_iff.mp hsection
  have hsays := hconfigures.get hplace hlt
  rw [List.get_eq_getElem, hcur, List.get_eq_getElem] at hsays
  obtain ⟨_, hmaxrestart, htime⟩ := hsays
  have hconfig : (configs.map fun config => (config.maxrestart, config.maxrestarttime))[place]? =
      some (configs[place].maxrestart, configs[place].maxrestarttime) := by
    rw [List.getElem?_map, List.getElem?_eq_getElem hlt, Option.map_some]
  obtain ⟨bwv, _, hown⟩ := (fleetMachine place).run hrun (bdNew_machine hconfig)
  rw [← hmaxrestart] at hmax ⊢
  rw [← htime]
  have hlimited :=
    run_limited hown hmax (hclock.sublist (clocks_machineRun place (fleetTransits transits)))
  exact hlimited.spaced.sublist (List.filter_sublist.flatMap _)

end

theorem configured_launches_spaced_db : ∃ transits nd,
    namedDirector.exec (.new dbConfigs) dbStarts = some (transits, nd) ∧
      launchStamps (machineRun 0 (fleetTransits transits)) = [100, 130, 200] ∧
      Spaced 1 60 (launchStamps (machineRun 0 (fleetTransits transits))) := by
  obtain ⟨transits, nd, hexec, hclock, hstamps⟩ := dbStarts_exec
  have hmaxrestart : @numberOf ucltrees (dbSection true 1) (ascii "maxrestart") 4 = 1 := by
    decide +kernel
  have htime : Int.bmod (@numberOf ucltrees (dbSection true 1) (ascii "maxrestarttime") 8)
      (2 ^ 64) = 60 := by
    decide +kernel
  have hspaced :=
    @configured_launches_spaced ucltrees dbFiles (literal "conf") dbList dbConfigs transits nd
    loads_db knows_db (Machine.exec_run hexec) hclock dbEntries rfl 0 (literal "conf/first/config")
    (dbSection true 1) rfl (by rw [hmaxrestart]; decide)
  rw [hmaxrestart, htime] at hspaced
  exact ⟨transits, nd, hexec, hstamps, hspaced⟩

end Vmstated.Properties
