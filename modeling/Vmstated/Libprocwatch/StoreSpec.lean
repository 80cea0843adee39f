import Vmstated.Libprocwatch.ConfigStore
import Vmstated.Libprocwatch.UclSpec
import Vmstated.Libprocwatch.UclTable

/-! What becomes of the files of a directory: the list of the director, and
what is in each of its configurations. -/
namespace Vmstated.Libprocwatch
open Library Libcommand

theorem bdNewRound_ends (bcs rest : List ConfigStruct) (bc : ConfigStruct)
    (statelist : List ConfigStruct) :
    Ends bdNewRound (⟨bc :: rest, bcs⟩, statelist) () (⟨[], bcs⟩, rest.reverse ++ statelist) := by
  induction rest generalizing bc statelist with
  | nil => exact ends_of_result rfl
  | cons next rest ih =>
    have hround : bdNewRound (⟨bc :: next :: rest, bcs⟩, statelist) =
      some (none, (⟨next :: rest, bcs⟩, next :: statelist)) := rfl
    rw [List.reverse_cons, List.append_assoc]
    exact ends_of_round hround (ih next (next :: statelist))

/-- The list is turned around once more. -/
theorem watches_iff {bcs : BhyveConfigurationStore} {statelist : List ConfigStruct} :
    Watches bcs statelist ↔ statelist = bcs.configs.reverse := by
  obtain ⟨searchpath, configs⟩ := bcs
  have hends : Ends bdNewRound (bcsIterateConfigs ⟨searchpath, configs⟩, [])
      () (⟨[], configs⟩, configs.reverse) := by
    cases configs with
    | nil => exact ends_of_result rfl
    | cons bc rest =>
      have hround : bdNewRound (bcsIterateConfigs ⟨searchpath, bc :: rest⟩, []) =
        some (none, (⟨bc :: rest, bc :: rest⟩, [bc])) := rfl
      rw [List.reverse_cons]
      exact ends_of_round hround (bdNewRound_ends (bc :: rest) rest bc [bc])
  constructor
  · intro hwatches
    obtain ⟨bci, h⟩ := hwatches
    exact (Prod.mk.inj (h.unique hends).2).2
  · intro hlist
    rw [hlist]
    exact ⟨_, hends⟩

/-! What the files of the directory say. -/

section
variable {ucl : Libucl} (files : ConfigFiles ucl)

def Dirent.Searched (de : Dirent) : Prop := de.dName.val.headD 0 ≠ 46 ∧ dtDir &&& de.dType ≠ 0

instance (de : Dirent) : Decidable de.Searched := inferInstanceAs (Decidable (_ ∧ _))

def configPath (searchpath : CString) (de : Dirent) : CString :=
  joinPath (joinPath searchpath de.dName) configname

def configPaths (searchpath : CString) (entries : List Dirent) : List CString :=
  (entries.filter fun de => de.Searched).map (configPath searchpath)

def sectionsOf (path : CString) : List (CString × ucl.Object) :=
  match files.file path with
  | some (some root) => (ucl.iterate root).map fun cur => (path, cur)
  | _ => []

def allSections (searchpath : CString) (entries : List Dirent) : List (CString × ucl.Object) :=
  (configPaths searchpath entries).flatMap (sectionsOf files)

def Parses (entry : CString × ucl.Object) (bc : ConfigStruct) : Prop :=
  parseSection ucl entry.1 entry.2 = some bc

variable {files}

theorem parses_filterMap {sections : List (CString × ucl.Object)}
    (hsections : ∀ entry ∈ sections, parseSection ucl entry.1 entry.2 ≠ none) :
    List.Forall₂ Parses sections
      (sections.filterMap fun entry => parseSection ucl entry.1 entry.2) := by
  induction sections with
  | nil => exact .nil
  | cons entry sections ih =>
    rw [List.forall_mem_cons] at hsections
    obtain ⟨bc, hbc⟩ := Option.ne_none_iff_exists'.mp hsections.1
    rw [List.filterMap_cons, hbc]
    exact .cons hbc (ih hsections.2)

theorem bcsParseucl_sections {path : CString} {parsed : List ConfigStruct}
    (hparsed : List.Forall₂ Parses (sectionsOf files path) parsed) (configs : List ConfigStruct) :
    bcsParseucl ucl path (files.file path) configs =
      some (if (files.file path).isSome then 0 else -1, parsed.reverse ++ configs) := by
  rw [sectionsOf] at hparsed
  cases hfile : files.file path with
  | none =>
    rw [hfile] at hparsed
    cases hparsed
    rfl
  | some root =>
    rw [hfile] at hparsed
    cases root with
    | none =>
      cases hparsed
      rfl
    | some root =>
      have hsections := List.forall₂_map_left_iff.mp hparsed
      rw [bcsParseucl, parseSections_eq hsections]
      rfl

theorem configPaths_cons {searchpath : CString} {de : Dirent}
    (hsearched : de.Searched) (entries : List Dirent) :
    configPaths searchpath (de :: entries) =
      configPath searchpath de :: configPaths searchpath entries := by
  simp [configPaths, hsearched]

theorem configPaths_skipped {searchpath : CString} {de : Dirent}
    (hskipped : ¬de.Searched) (entries : List Dirent) :
    configPaths searchpath (de :: entries) = configPaths searchpath entries := by
  simp [configPaths, hskipped]

theorem bcsWalkEntries_sections {searchpath : CString} {entries : List Dirent}
    (hsections : ∀ entry ∈ allSections files searchpath entries,
      parseSection ucl entry.1 entry.2 ≠ none)
    (foundOne : Bool) (configs : List ConfigStruct) :
    ∃ parsed, List.Forall₂ Parses (allSections files searchpath entries) parsed ∧
      bcsWalkEntries files searchpath entries (foundOne, configs) =
        some (foundOne || (configPaths searchpath entries).any fun path => (files.file path).isSome,
          parsed.reverse ++ configs) := by
  induction entries generalizing foundOne configs with
  | nil =>
    refine ⟨[], .nil, ?_⟩
    simp [bcsWalkEntries, configPaths]
  | cons de entries ih =>
    rw [bcsWalkEntries]
    by_cases hsearched : de.Searched
    · rw [allSections, configPaths_cons hsearched, List.flatMap_cons,
        ← allSections, List.forall_mem_append] at hsections
      have hfirst := parses_filterMap hsections.1
      generalize (sectionsOf files (configPath searchpath de)).filterMap
        (fun entry => parseSection ucl entry.1 entry.2) = first at hfirst
      have hfile := bcsParseucl_sections hfirst configs
      obtain ⟨rest, hrest, hwalk⟩ := ih hsections.2
        (foundOne || (files.file (configPath searchpath de)).isSome) (first.reverse ++ configs)
      refine ⟨first ++ rest, ?_, ?_⟩
      · rw [allSections, configPaths_cons hsearched, List.flatMap_cons]
        exact List.rel_append hfirst hrest
      · rw [if_neg hsearched.1, if_pos hsearched.2, bcsParseconfdir]
        dsimp only
        rw [← configPath, hfile, Option.bind_eq_bind, Option.bind_some]
        dsimp only
        have hfound :
            ((if (files.file (configPath searchpath de)).isSome then 0 else -1 : Int) == 0) =
            (files.file (configPath searchpath de)).isSome := by
          cases (files.file (configPath searchpath de)).isSome <;> rfl
        rw [hfound, hwalk, configPaths_cons hsearched, List.any_cons,
          List.reverse_append, List.append_assoc, Bool.or_assoc]
    · rw [allSections, configPaths_skipped hsearched, ← allSections] at hsections
      obtain ⟨parsed, hparsed, hwalk⟩ := ih hsections foundOne configs
      refine ⟨parsed, ?_, ?_⟩
      · rw [allSections, configPaths_skipped hsearched]
        exact hparsed
      · rw [configPaths_skipped hsearched, ← hwalk]
        split
        · rfl
        · rename_i hdot
          exact if_neg fun htype => hsearched ⟨hdot, htype⟩

/-! A walk that ends has read all of the sections. -/

theorem parseSections_some {path : CString} {sections : List ucl.Object}
    {configs after : List ConfigStruct}
    (hparse : parseSections ucl path sections configs = some after) :
    ∀ cur ∈ sections, parseSection ucl path cur ≠ none := by
  induction sections generalizing configs with
  | nil => exact fun cur hcur => absurd hcur List.not_mem_nil
  | cons first sections ih =>
    obtain ⟨bc, hbc, hrest⟩ := Option.bind_eq_some_iff.mp hparse
    rw [List.forall_mem_cons]
    refine ⟨?_, ih hrest⟩
    rw [hbc]
    exact Option.some_ne_none bc

theorem bcsParseucl_some {path : CString} {configs : List ConfigStruct}
    {parsed : Int × List ConfigStruct}
    (hparse : bcsParseucl ucl path (files.file path) configs = some parsed) :
    ∀ entry ∈ sectionsOf files path, parseSection ucl entry.1 entry.2 ≠ none := by
  rw [sectionsOf]
  split
  · rename_i root hfile
    rw [hfile] at hparse
    obtain ⟨after, hsections, _⟩ := Option.map_eq_some_iff.mp hparse
    rw [List.forall_mem_map]
    exact parseSections_some hsections
  · exact fun entry hentry => absurd hentry List.not_mem_nil

theorem bcsWalkEntries_some {searchpath : CString} {entries : List Dirent}
    {walked after : Bool × List ConfigStruct}
    (hwalk : bcsWalkEntries files searchpath entries walked = some after) :
    ∀ entry ∈ allSections files searchpath entries, parseSection ucl entry.1 entry.2 ≠ none := by
  induction entries generalizing walked with
  | nil => exact fun entry hentry => absurd hentry List.not_mem_nil
  | cons de entries ih =>
    obtain ⟨foundOne, configs⟩ := walked
    rw [bcsWalkEntries] at hwalk
    by_cases hsearched : de.Searched
    · rw [if_neg hsearched.1, if_pos hsearched.2] at hwalk
      obtain ⟨⟨result, parsed⟩, hfile, hrest⟩ := Option.bind_eq_some_iff.mp hwalk
      rw [allSections, configPaths_cons hsearched, List.flatMap_cons,
        ← allSections, List.forall_mem_append]
      exact ⟨bcsParseucl_some hfile, ih hrest⟩
    · rw [allSections, configPaths_skipped hsearched, ← allSections]
      split at hwalk
      · exact ih hwalk
      · rename_i hdot
        rw [if_neg fun htype => hsearched ⟨hdot, htype⟩] at hwalk
        exact ih hwalk

theorem parses_unique {sections : List (CString × ucl.Object)} {parsed others : List ConfigStruct}
    (hparsed : List.Forall₂ Parses sections parsed)
    (hothers : List.Forall₂ Parses sections others) : parsed = others := by
  apply List.right_unique_forall₂' _ hparsed hothers
  intro entry bc other hbc hother
  exact Option.some.inj (hbc.symm.trans hother)

theorem parses_some {sections : List (CString × ucl.Object)} {parsed : List ConfigStruct}
    (hparsed : List.Forall₂ Parses sections parsed) :
    ∀ entry ∈ sections, parseSection ucl entry.1 entry.2 ≠ none := by
  induction hparsed with
  | nil => exact fun entry hentry => absurd hentry List.not_mem_nil
  | cons hfirst _ ih =>
    rw [List.forall_mem_cons]
    refine ⟨?_, ih⟩
    rw [hfirst]
    exact Option.some_ne_none _

/-- The daemon goes on with these machines. -/
def Loads (files : ConfigFiles ucl) (searchpath : CString) (statelist : List ConfigStruct) : Prop :=
  ∃ bcs, bcsWalkdir files (bcsNew searchpath) = some (0, bcs) ∧ Watches bcs statelist

theorem Loads.parsed {searchpath : CString} {statelist : List ConfigStruct}
    (hloads : Loads files searchpath statelist) :
    ∃ entries, files.opendir searchpath = some entries ∧ files.closedir = 0 ∧
      (∃ path ∈ configPaths searchpath entries, (files.file path).isSome) ∧
      List.Forall₂ Parses (allSections files searchpath entries) statelist := by
  obtain ⟨bcs, hwalkdir, hwatches⟩ := hloads
  unfold bcsWalkdir bcsNew at hwalkdir
  dsimp only at hwalkdir
  cases hopen : files.opendir searchpath with
  | none =>
    rw [hopen] at hwalkdir
    cases hwalkdir
  | some entries =>
    rw [hopen] at hwalkdir
    obtain ⟨⟨foundOne, configs⟩, hwalk, hresult⟩ := Option.bind_eq_some_iff.mp hwalkdir
    obtain ⟨parsed, hparsed, hwalked⟩ :=
      bcsWalkEntries_sections (bcsWalkEntries_some hwalk) false []
    rw [hwalk, List.append_nil, Bool.false_or] at hwalked
    obtain ⟨rfl, rfl⟩ := Prod.mk.inj (Option.some.inj hwalked)
    obtain ⟨hcode, rfl⟩ := Prod.mk.inj (Option.some.inj hresult)
    have hlist := watches_iff.mp hwatches
    dsimp only at hlist
    rw [List.reverse_reverse] at hlist
    rw [hlist]
    refine ⟨entries, rfl, ?_, ?_, hparsed⟩
    · by_contra hclose
      rw [if_pos (Or.inl hclose)] at hcode
      cases hcode
    · rw [← List.any_eq_true]
      by_contra hnone
      rw [Bool.not_eq_true] at hnone
      simp [hnone] at hcode

theorem loads_of_parsed {searchpath : CString} {statelist : List ConfigStruct}
    {entries : List Dirent}
    (hopen : files.opendir searchpath = some entries) (hclose : files.closedir = 0)
    (hfound : ∃ path ∈ configPaths searchpath entries, (files.file path).isSome)
    (hparsed : List.Forall₂ Parses (allSections files searchpath entries) statelist) :
    Loads files searchpath statelist := by
  obtain ⟨others, hothers, hwalk⟩ := bcsWalkEntries_sections (parses_some hparsed) false []
  obtain rfl := parses_unique hparsed hothers
  refine ⟨⟨searchpath, statelist.reverse⟩, ?_, ?_⟩
  · rw [bcsWalkdir, bcsNew]
    dsimp only
    rw [hopen]
    dsimp only
    rw [hwalk, List.append_nil, Bool.false_or, List.any_eq_true.mpr hfound,
      Option.bind_eq_bind, Option.bind_some]
    simp [hclose]
  · exact watches_iff.mpr (List.reverse_reverse statelist).symm

end

/-! What is in a configuration. -/

section
variable {ucl : Libucl} {σ : Type} {mappings : List ParserMapping}

theorem parseItem_some {mapping : ParserMapping} {cur : ucl.Object} {ctx after : CStruct}
    (hparse : parseItem ucl mapping cur ctx = some after) :
    after = storeEntry ucl ctx (mapping, cur) := by
  unfold parseItem at hparse
  unfold storeEntry
  cases htype : mapping.valueType with
  | fixedstring =>
    rw [htype] at hparse
    cases htext : ucl.tostring cur with
    | none => simp [htext] at hparse
    | some text =>
      simp only [htext, Option.some.injEq] at hparse
      exact hparse.symm
  | dynamicstring =>
    rw [htype] at hparse
    dsimp only at hparse
    split at hparse
    · contradiction
    · cases htext : ucl.tostring cur <;> simp only [htext, Option.some.injEq] at hparse <;>
        exact hparse.symm
  | _ =>
    rw [htype] at hparse
    exact (Option.some.inj hparse).symm

theorem parsed_fields {subparsers : List (BhyveUclparserItem ucl σ)}
    {objects : List ucl.Object} {fields after : CStruct} {rest others : σ}
    (hparse : bupGenericParsefromucl ucl mappings subparsers objects (fields, rest) =
      some (after, others)) :
    after = (mappedEntries ucl mappings objects).foldl (storeEntry ucl) fields := by
  induction objects generalizing fields rest with
  | nil =>
    cases hparse
    rfl
  | cons cur objects ih =>
    rw [bupGenericParsefromucl] at hparse
    rw [mappedEntries, List.filterMap_cons]
    cases hfind : bupFindmapping mappings (ucl.key cur) with
    | some mapping =>
      rw [hfind] at hparse
      obtain ⟨stored, hitem, hrest⟩ := Option.bind_eq_some_iff.mp hparse
      have hlater := ih hrest
      rw [parseItem_some hitem] at hlater
      exact hlater
    | none =>
      rw [hfind] at hparse
      dsimp only at hparse
      split at hparse
      · obtain ⟨parsed, _, hrest⟩ := Option.bind_eq_some_iff.mp hparse
        exact ih hrest
      · exact ih hparse

end

section
variable {ucl : Libucl}

/-- The number under a name: that of the last entry, in the bytes of its field. -/
def numberOf (cur : ucl.Object) (name : List UInt8) (width : Nat) : Nat :=
  ((entriesOf ucl (ucl.iterate cur) name).getLast?.map fun entry =>
    lowBytes width (ucl.toint entry)).getD 0

def flagOf (cur : ucl.Object) (name : List UInt8) : Bool :=
  ((entriesOf ucl (ucl.iterate cur) name).getLast?.map ucl.toboolean).getD false

def maxrestartRow : ParserMapping := ⟨3112, .uint32, 4, ascii "maxrestart"⟩
def maxrestarttimeRow : ParserMapping := ⟨3120, .uint64, 8, ascii "maxrestarttime"⟩
def autostartRow : ParserMapping := ⟨3136, .boolean, 1, ascii "autostart"⟩

theorem parses_field {path : CString} {cur : ucl.Object}
    {bc : ConfigStruct} (hparses : Parses (path, cur) bc)
    {mapping : ParserMapping} (hmapping : mapping ∈ bcNvlist2config)
    (hplace : 1024 ≤ mapping.offset)
    (hpath : mapping.region.Apart ⟨3184, 8⟩) :
    CStruct.Agree mapping.region bc.fields
      (((entriesOf ucl (ucl.iterate cur) mapping.varname).getLast?.map fun entry =>
        storeEntry ucl .zeroed (mapping, entry)).getD .zeroed) := by
  rw [Parses, parseSection] at hparses
  dsimp only at hparses
  split at hparses
  · contradiction
  rename_i tag htag
  obtain ⟨parsed, hparsed, hbc⟩ := Option.map_eq_some_iff.mp hparses
  obtain ⟨⟨fields, consoles⟩, hfields, hparts⟩ := Option.map_eq_some_iff.mp hparsed
  have hfield := @parsed_field ucl bcNvlist2config (ucl.iterate cur)
      (taggedConfig tag).fields (by decide) (by decide)
    mapping hmapping
  rw [← parsed_fields hfields] at hfield
  have hzeroed : CStruct.Agree mapping.region (taggedConfig tag).fields .zeroed :=
    taggedConfig_agree tag hplace
  have hstored :=
    (CStruct.frame_setPointer parsed.fields 3184 (Nat.succ_pos 7) (.string path.val)).agree hpath
  rw [← hbc]
  rw [← hparts] at hstored ⊢
  refine hstored.trans (hfield.trans ?_)
  cases (entriesOf ucl (ucl.iterate cur) mapping.varname).getLast? with
  | none => exact hzeroed
  | some entry => exact agree_storeEntry hzeroed

variable {path : CString} {cur : ucl.Object} {bc : ConfigStruct}

theorem parses_maxrestart (hparses : Parses (path, cur) bc) :
    bcGetMaxrestart bc = some (numberOf cur (ascii "maxrestart") 4) := by
  have hfield :=
    @parses_field ucl path cur bc hparses maxrestartRow (by decide) (by decide) (by decide)
  rw [bcGetMaxrestart, numberOf]
  cases hlast : (entriesOf ucl (ucl.iterate cur) (ascii "maxrestart")).getLast? with
  | none =>
    rw [maxrestartRow, hlast] at hfield
    exact getNumber_zeroed (by decide) hfield
  | some entry =>
    rw [maxrestartRow, hlast] at hfield
    exact @getNumber_written 3112 4 .zeroed bc _ (by decide) rfl hfield

theorem parses_maxrestarttime (hparses : Parses (path, cur) bc) :
    bcGetMaxrestarttime bc =
      some (Int.bmod (numberOf cur (ascii "maxrestarttime") 8) (2 ^ 64)) := by
  have hfield :=
    @parses_field ucl path cur bc hparses maxrestarttimeRow (by decide) (by decide) (by decide)
  have hnumber : getNumber 3120 bc 8 = some (numberOf cur (ascii "maxrestarttime") 8) := by
    rw [numberOf]
    cases hlast : (entriesOf ucl (ucl.iterate cur) (ascii "maxrestarttime")).getLast? with
    | none =>
      rw [maxrestarttimeRow, hlast] at hfield
      exact getNumber_zeroed (by decide) hfield
    | some entry =>
      rw [maxrestarttimeRow, hlast] at hfield
      exact @getNumber_written 3120 8 .zeroed bc _ (by decide) rfl hfield
  rw [bcGetMaxrestarttime, hnumber, Option.map_some]

theorem parses_autostart (hparses : Parses (path, cur) bc) :
    bcGetAutostart bc = flagOf cur (ascii "autostart") := by
  have hfield :=
    @parses_field ucl path cur bc hparses autostartRow (by decide) (by decide) (by decide)
  have hread := hfield.readNumber (le_refl _) (le_refl _)
  rw [bcGetAutostart, getFlag, flagOf]
  rw [autostartRow] at hread
  dsimp only [ParserMapping.region] at hread
  rw [hread]
  cases hlast : (entriesOf ucl (ucl.iterate cur) (ascii "autostart")).getLast? with
  | none => rfl
  | some entry =>
    have hsmall : (ucl.toboolean entry).toNat < 256 ^ 1 :=
      Nat.lt_of_le_of_lt (Bool.toNat_le _) (by decide)
    have hwritten := CStruct.readNumber_writeNumber_self .zeroed 3136 hsmall
    rw [Option.map_some, Option.getD_some, Option.map_some, Option.getD_some, storeEntry, hwritten]
    cases ucl.toboolean entry <;> rfl

theorem parses_vmConfig (hparses : Parses (path, cur) bc)
    {config : VmConfig} (hconfig : vmConfig bc = some config) :
    config.autostart = flagOf cur (ascii "autostart") ∧
      config.maxrestart.toNat = numberOf cur (ascii "maxrestart") 4 ∧
      config.maxrestarttime = Int.bmod (numberOf cur (ascii "maxrestarttime") 8) (2 ^ 64) := by
  rw [vmConfig, parses_maxrestart hparses, parses_maxrestarttime hparses, parses_autostart hparses]
    at hconfig
  obtain ⟨name, _, hrest⟩ := Option.bind_eq_some_iff.mp hconfig
  rw [Option.bind_eq_bind, Option.bind_some, Option.bind_eq_bind, Option.bind_some] at hrest
  obtain rfl := Option.some.inj hrest
  have hsmall : numberOf cur (ascii "maxrestart") 4 < 256 ^ 4 := by
    rw [numberOf]
    cases (entriesOf ucl (ucl.iterate cur) (ascii "maxrestart")).getLast? with
    | none => exact Nat.pow_pos (by decide)
    | some entry => exact lowBytes_lt 4 (ucl.toint entry)
  have hsize : 256 ^ 4 = UInt32.size := by decide
  rw [hsize] at hsmall
  refine ⟨rfl, UInt32.toNat_ofNat_of_lt' hsmall, ?_⟩
  dsimp only

def Knows (statelist : List ConfigStruct) (configs : List VmConfig) : Prop :=
  List.Forall₂ (fun bc config => vmConfig bc = some config) statelist configs

def Configures (entry : CString × ucl.Object) (config : VmConfig) : Prop :=
  config.autostart = flagOf entry.2 (ascii "autostart") ∧
    config.maxrestart.toNat = numberOf entry.2 (ascii "maxrestart") 4 ∧
    config.maxrestarttime = Int.bmod (numberOf entry.2 (ascii "maxrestarttime") 8) (2 ^ 64)

theorem configures {sections : List (CString × ucl.Object)}
    {statelist : List ConfigStruct} {configs : List VmConfig}
    (hparsed : List.Forall₂ Parses sections statelist) (hknown : Knows statelist configs) :
    List.Forall₂ Configures sections configs := by
  unfold Knows at hknown
  induction hparsed generalizing configs with
  | nil =>
    cases hknown
    exact .nil
  | cons hfirst _ ih =>
    cases hknown with
    | cons hconfig hrest => exact .cons (parses_vmConfig hfirst hconfig) (ih hrest)

theorem autostart_sections {sections : List (CString × ucl.Object)} {configs : List VmConfig}
    (hconfigures : List.Forall₂ Configures sections configs) :
    (configs.filter VmConfig.autostart).map VmConfig.name =
      ((sections.zip configs).filter fun pair => flagOf pair.1.2 (ascii "autostart")).map
        fun pair => pair.2.name := by
  induction hconfigures with
  | nil => rfl
  | cons hfirst _ ih =>
    rw [List.zip_cons_cons, List.filter_cons, List.filter_cons, hfirst.1]
    dsimp only
    split
    · rw [List.map_cons, List.map_cons, ih]
    · exact ih

end

end Vmstated.Libprocwatch
