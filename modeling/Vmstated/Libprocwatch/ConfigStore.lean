import Vmstated.Library.Loop
import Vmstated.Libprocwatch.BhyveConfig

/-! libprocwatch/bhyve_config.c: the configurations of a directory, and the list
that the director makes of them. Allocations do not fail, and the path of the
directory fits into its array. -/
namespace Vmstated.Libprocwatch
open Library

structure Dirent where
  dName : CString
  dType : UInt8

def dtDir : UInt8 := 4

structure ConfigFiles (ucl : Libucl) where
  /-- What `readdir` gives until `NULL`, in a directory that can be opened. -/
  opendir : CString → Option (List Dirent)
  closedir : Int
  /-- What the parser makes of a file, if it accepts it: its root. -/
  file : CString → Option (Option ucl.Object)

structure BhyveConfigurationStore where
  searchpath : CString
  configs : List ConfigStruct

def bcsNew (searchpath : CString) : BhyveConfigurationStore := ⟨searchpath, []⟩

def joinPath (path name : CString) : CString :=
  ⟨path.val ++ ascii "/" ++ name.val, by
    have hslash : 0 ∉ ascii "/" := by decide
    simp [path.property, name.property, hslash]⟩

def configname : CString := literal "config"

section
variable {ucl : Libucl} (files : ConfigFiles ucl)

def bcsParseconfdir (path : CString) (configs : List ConfigStruct) :
    Option (Int × List ConfigStruct) :=
  let configpath := joinPath path configname
  bcsParseucl ucl configpath (files.file configpath) configs

/-- The loop over the entries. A bit of the type is asked for, which other types have too. -/
def bcsWalkEntries (searchpath : CString) :
    List Dirent → Bool × List ConfigStruct → Option (Bool × List ConfigStruct)
  | [], walked => some walked
  | de :: entries, (foundOne, configs) =>
    if de.dName.val.headD 0 = 46 then bcsWalkEntries searchpath entries (foundOne, configs)
    else if dtDir &&& de.dType ≠ 0 then do
      let (result, configs) ← bcsParseconfdir files (joinPath searchpath de.dName) configs
      bcsWalkEntries searchpath entries (foundOne || result == 0, configs)
    else bcsWalkEntries searchpath entries (foundOne, configs)

/-- The result is that of `||`. -/
def bcsWalkdir (bcs : BhyveConfigurationStore) : Option (Int × BhyveConfigurationStore) :=
  match files.opendir bcs.searchpath with
  | none => some (1, bcs)
  | some entries => do
    let (foundOne, configs) ← bcsWalkEntries files bcs.searchpath entries (false, bcs.configs)
    let result := if foundOne then 0 else -1
    return (if files.closedir ≠ 0 ∨ result ≠ 0 then 1 else 0, { bcs with configs })

end

/-! The iterator, and the loop of `bd_new`. -/

/-- `current` is what is on the list from there on; nothing for `NULL`. -/
structure BhyveConfigurationIterator where
  current : List ConfigStruct
  bcs : List ConfigStruct

def bcsIterateConfigs (bcs : BhyveConfigurationStore) : BhyveConfigurationIterator :=
  ⟨[], bcs.configs⟩

def bciGetconfig (bci : BhyveConfigurationIterator) : Option ConfigStruct := bci.current.head?

/-- Behind the end it begins again. -/
def bciNext (bci : BhyveConfigurationIterator) : Bool × BhyveConfigurationIterator :=
  match bci.current with
  | [] => (!bci.bcs.isEmpty, { bci with current := bci.bcs })
  | _ :: rest => (!rest.isEmpty, { bci with current := rest })

/-- One round of the loop, with the configurations of the machines on `statelist`. -/
def bdNewRound : BhyveConfigurationIterator × List ConfigStruct →
    Option (Option Unit × BhyveConfigurationIterator × List ConfigStruct)
  | (bci, statelist) =>
    match bciNext bci with
    | (false, bci) => some (some (), (bci, statelist))
    | (true, bci) => (bciGetconfig bci).map fun bc => (none, (bci, bc :: statelist))

def Watches (bcs : BhyveConfigurationStore) (statelist : List ConfigStruct) : Prop :=
  ∃ bci, Ends bdNewRound (bcsIterateConfigs bcs, []) () (bci, statelist)

/-! What the director reads of a configuration. -/

structure VmConfig where
  name : CString
  autostart : Bool
  maxrestart : UInt32
  maxrestarttime : Int
deriving DecidableEq

def vmConfig (bc : ConfigStruct) : Option VmConfig := do
  let name ← bcGetName bc
  let maxrestart ← bcGetMaxrestart bc
  let maxrestarttime ← bcGetMaxrestarttime bc
  return ⟨name, bcGetAutostart bc, .ofNat maxrestart, maxrestarttime⟩

end Vmstated.Libprocwatch
