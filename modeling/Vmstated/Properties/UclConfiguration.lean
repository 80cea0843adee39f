import Vmstated.Libprocwatch.UclSpec

/-! Which sections the getters give back as they were written. -/
namespace Vmstated.Properties
open Library Libprocwatch

/-- The defaults that the manual page promises. -/
def defaultOf (tag : CString) : Setting → Option UclValue
  | .name => some (.string tag)
  | .maxrestart => some (.int 3)
  | .maxrestarttime => some (.int 30)
  | _ => none

/-- What is set is read back, and for the rest its default. -/
def Honours (conf : UclSection) (bc : ConfigStruct) : Prop :=
  (∀ entry ∈ conf.entries, entry.1.get bc = some entry.2) ∧
    ∀ setting ∉ conf.entries.map Prod.fst, ∀ value ∈ defaultOf conf.tag setting,
      setting.get bc = some value

/-- Neither default of a restart is needed, nobody counts processors, and the
name fits, or goes on as the path does that is behind it. -/
structure Supported (conf : UclSection) : Prop where
  maxrestart : .maxrestart ∈ conf.entries.map Prod.fst
  maxrestarttime : .maxrestarttime ∈ conf.entries.map Prod.fst
  cpus : ∀ value, (.cpus, value) ∈ conf.entries → value = .int 0
  cores : ∀ value, (.cores, value) ∈ conf.entries → value = .int 0
  tag : .name ∈ conf.entries.map Prod.fst ∨ conf.tag.val.length < 1024 ∨
    conf.tag.val.drop 1024 = conf.configfileText

section
variable {conf : UclSection} {configfile : CString}

theorem get_maxrestart_of_not_mem (habsent : Setting.maxrestart ∉ conf.entries.map Prod.fst) :
    Setting.maxrestart.get (conf.stored configfile) = some (.int 0) := by
  have hrow : Setting.maxrestart.row = some ⟨3112, .uint32, 4, ascii "maxrestart"⟩ := rfl
  have hnumber : bcGetMaxrestart (conf.stored configfile) = some 0 :=
    number_of_not_mem configfile habsent hrow rfl (by decide) (by decide)
  rw [Setting.get, hnumber]
  rfl

theorem get_maxrestarttime_of_not_mem
    (habsent : Setting.maxrestarttime ∉ conf.entries.map Prod.fst) :
    Setting.maxrestarttime.get (conf.stored configfile) = some (.int 0) := by
  have hrow : Setting.maxrestarttime.row = some ⟨3120, .uint64, 8, ascii "maxrestarttime"⟩ := rfl
  have hnumber : getNumber 3120 (conf.stored configfile) 8 = some 0 :=
    number_of_not_mem configfile habsent hrow rfl (by decide) (by decide)
  rw [Setting.get, bcGetMaxrestarttime, hnumber]
  rfl

theorem supported_of_honours (hhonours : Honours conf (conf.stored configfile)) :
    Supported conf := by
  obtain ⟨hset, hdefault⟩ := hhonours
  constructor
  case maxrestart =>
    by_contra habsent
    have hget := hdefault _ habsent (.int 3) rfl
    rw [get_maxrestart_of_not_mem habsent] at hget
    exact absurd hget (by decide)
  case maxrestarttime =>
    by_contra habsent
    have hget := hdefault _ habsent (.int 30) rfl
    rw [get_maxrestarttime_of_not_mem habsent] at hget
    exact absurd hget (by decide)
  case cpus =>
    intro value hentry
    have hget := hset _ hentry
    rw [get_cpus] at hget
    exact (Option.some_inj.mp hget).symm
  case cores =>
    intro value hentry
    have hget := hset _ hentry
    rw [get_cores] at hget
    exact (Option.some_inj.mp hget).symm
  case tag =>
    rw [or_iff_not_imp_left]
    intro habsent
    have hget := hdefault _ habsent (.string conf.tag) rfl
    exact (bcGetName_of_not_mem configfile habsent).mp (Setting.get_name.mp hget)

theorem honours_of_supported (hsupported : Supported conf) (configfile : CString) :
    Honours conf (conf.stored configfile) := by
  constructor
  · rintro ⟨setting, value⟩ hentry
    by_cases hcpus : setting = .cpus
    · subst hcpus
      rw [get_cpus, hsupported.cpus value hentry]
    · by_cases hcores : setting = .cores
      · subst hcores
        rw [get_cores, hsupported.cores value hentry]
      · exact get_of_mem configfile hentry hcpus hcores
  · intro setting habsent value hvalue
    cases setting
    case name =>
      obtain rfl := Option.some_inj.mp hvalue
      have htag := hsupported.tag.resolve_left habsent
      exact Setting.get_name.mpr ((bcGetName_of_not_mem configfile habsent).mpr htag)
    case maxrestart => exact absurd hsupported.maxrestart habsent
    case maxrestarttime => exact absurd hsupported.maxrestarttime habsent
    all_goals exact absurd hvalue (Option.not_mem_none value)

end

/-- A section of the variables of the manual page, at any place in a file with
others that can be read. -/
theorem honours_iff {ucl : Libucl} {root cur : ucl.Object}
    {front rest : List ucl.Object} {conf : UclSection}
    {configfile : CString} (configs : List ConfigStruct)
    (hroot : ucl.iterate root = front ++ cur :: rest)
    (hdelivers : Delivers ucl cur conf)
    (hothers : ∀ other ∈ front ++ rest, parseSection ucl configfile other ≠ none) :
    ∃ bc before after, bcsParseucl ucl configfile (some (some root)) configs =
        some (0, after ++ bc :: before ++ configs) ∧
      before.length = front.length ∧ after.length = rest.length ∧
        (Honours conf bc ↔ Supported conf) := by
  rw [List.forall_mem_append] at hothers
  obtain ⟨before, hbefore⟩ := exists_parsed hothers.1
  obtain ⟨after, hafter⟩ := exists_parsed hothers.2
  have hcur := parseSection_of_delivers hdelivers configfile
  refine ⟨conf.stored configfile, before.reverse, after.reverse, ?_, ?_, ?_, ?_⟩
  · rw [bcsParseucl, hroot]
    rw [parseSections_eq (List.rel_append hbefore (.cons hcur hafter)),
      Option.map_some, List.reverse_append, List.reverse_cons, List.append_assoc after.reverse]
    rfl
  · rw [List.length_reverse, hbefore.length_eq]
  · rw [List.length_reverse, hafter.length_eq]
  · exact ⟨supported_of_honours, fun hsupported => honours_of_supported hsupported configfile⟩

def configObject (conf : UclSection) : UclTree :=
  .node (some conf.tag) (conf.entries.map fun entry => .leaf (some entry.1.varname) entry.2)

def rootObject (conf : UclSection) : UclTree := .node none [configObject conf]

theorem delivers_configObject (conf : UclSection) : Delivers ucltrees (configObject conf) conf := by
  refine ⟨rfl, ?_⟩
  apply List.forall₂_map_left_iff.mpr
  rw [List.forall₂_same]
  exact fun _ _ => ⟨rfl, rfl⟩

def restartsConfig : UclSection where
  tag := literal "web"
  entries := [(.memory, .int 1024), (.maxrestarttime, .int 60), (.maxrestart, .int 5)]
  distinct := by decide
  fits := by simp [Setting.Fits, Setting.kind, FieldKind.Fits]

theorem honours_restarts :
    ∃ bc, bcsParseucl ucltrees (literal "config") (some (some (rootObject restartsConfig))) [] =
    some (0, [bc]) ∧ Honours restartsConfig bc := by
  obtain ⟨bc, before, after, hparsed, hbefore, hafter, hhonours⟩ :=
    @honours_iff ucltrees (rootObject restartsConfig) (configObject restartsConfig)
      [] [] restartsConfig
      (literal "config") [] rfl (delivers_configObject restartsConfig) (by simp)
  obtain rfl := List.length_eq_zero_iff.mp hbefore
  obtain rfl := List.length_eq_zero_iff.mp hafter
  refine ⟨bc, hparsed, hhonours.mpr ⟨by decide, by decide, ?_, ?_, ?_⟩⟩
  · intro value hentry
    simp [restartsConfig] at hentry
  · intro value hentry
    simp [restartsConfig] at hentry
  · exact Or.inr (Or.inl (by decide))

def plainConfig : UclSection where
  tag := literal "web"
  entries := []
  distinct := List.nodup_nil
  fits := by simp

theorem not_honours : Delivers ucltrees (configObject plainConfig) plainConfig ∧
    ∃ bc, bcsParseucl ucltrees (literal "config") (some (some (rootObject plainConfig))) [] =
      some (0, [bc]) ∧ ¬Honours plainConfig bc := by
  have hdelivers := delivers_configObject plainConfig
  refine ⟨hdelivers, plainConfig.stored (literal "config"), ?_, ?_⟩
  · have hcur := parseSection_of_delivers hdelivers (literal "config")
    exact congrArg (Option.map (Prod.mk 0)) (parseSections_eq (.cons hcur .nil) [])
  · intro hhonours
    exact absurd (supported_of_honours hhonours).maxrestart List.not_mem_nil

end Vmstated.Properties
