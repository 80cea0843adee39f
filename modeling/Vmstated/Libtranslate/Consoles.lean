import Vmstated.Libprocwatch.UclTable
import Vmstated.Libtranslate.TranslateSpec

/-! Consoles from the file to the ports of a machine. -/
namespace Vmstated.Libtranslate
open Library Libcommand Libconfig Libprocwatch

/-! What the file says. -/

section
variable (ucl : Libucl) (cur : ucl.Object)

def lastEntry (name : List UInt8) : Option ucl.Object :=
  (entriesOf ucl (ucl.iterate cur) name).getLast?

/-- A console: its name is the tag, if it does not say otherwise, and it is
enabled then. -/
def consoleOf : BhyveConfigurationConsole where
  name := ((lastEntry ucl cur (ascii "name")).map ucl.tostring).getD (ucl.key cur)
  enabled := ((lastEntry ucl cur (ascii "enabled")).map ucl.toboolean).getD true
  backend := ((lastEntry ucl cur (ascii "backend")).map ucl.tostring).getD none

end

structure ConsoleBlock (ucl : Libucl) where
  object : ucl.Object
  tagged : ∀ cur ∈ ucl.iterate object, ucl.key cur ≠ none

def ConsoleBlock.consoles {ucl : Libucl} (block : ConsoleBlock ucl) :
    List BhyveConfigurationConsole :=
  (ucl.iterate block.object).map (consoleOf ucl)

/-! What the getters read. -/

def pointerText : Pointer → Option CString
  | .string text => if h : 0 ∉ text then some ⟨text, h⟩ else none
  | _ => none

/-- `bcc_get_name`, `bcc_get_enabled` and `bcc_get_backend`. -/
def readConsole (bcc : CStruct) : BhyveConfigurationConsole :=
  ⟨pointerText (bcc.pointers 0), bcc.readNumber 8 1 ≠ 0, pointerText (bcc.pointers 16)⟩

def readConsoles (consoles : Option (List CStruct)) : List BhyveConfigurationConsole :=
  (consoles.getD []).map readConsole

theorem pointerText_textPointer (text : Option CString) :
    pointerText (textPointer text) = text := by
  cases text with
  | none => rfl
  | some text => exact dif_pos text.property

/-! Parsing. -/

section
variable {ucl : Libucl}

theorem bccNew_pointer (tag : CString) : ∃ bcc, bccNew (some tag) true = some bcc ∧ Tame bcc ∧
    bcc.pointers 0 = .string tag.val ∧ bcc.readNumber 8 1 = 1 ∧ bcc.pointers 16 = .null := by
  refine ⟨_, rfl, ?_, rfl, ?_, rfl⟩
  · exact tame_setPointer tame_zeroed 0 Pointer.noConfusion
  · exact CStruct.readNumber_writeNumber_self _ _ (by decide)

theorem bcConsole2config_names : (bcConsole2config.map ParserMapping.varname).Nodup := by decide

theorem bcConsole2config_apart : bcConsole2config.Pairwise fun a b => a.region.Apart b.region := by
  decide

theorem readConsole_parsed {cur : ucl.Object} {tag : CString}
    (htag : ucl.key cur = some tag) {bcc after : CStruct}
    (hname : bcc.pointers 0 = .string tag.val) (henabled : bcc.readNumber 8 1 = 1)
    (hbackend : bcc.pointers 16 = .null)
    (hfields : ∀ mapping ∈ bcConsole2config, CStruct.Agree mapping.region after
      (((lastEntry ucl cur mapping.varname).map fun entry =>
        storeEntry ucl bcc (mapping, entry)).getD bcc)) :
    readConsole after = consoleOf ucl cur := by
  simp only [bcConsole2config, List.forall_mem_cons] at hfields
  obtain ⟨hafterName, hafterEnabled, hafterBackend, -⟩ := hfields
  have hpointer := hafterName.pointer (Nat.succ_pos 7)
  have hflag := hafterEnabled.readNumber (le_refl _) (le_refl _)
  have hother := hafterBackend.pointer (Nat.succ_pos 7)
  dsimp only [ParserMapping.region] at hpointer hflag hother
  rw [readConsole, consoleOf, hpointer, hflag, hother]
  congr 1
  · cases lastEntry ucl cur (ascii "name") with
    | none =>
      rw [Option.map_none, Option.getD_none, hname, htag]
      exact pointerText_textPointer (some tag)
    | some entry => exact pointerText_textPointer (ucl.tostring entry)
  · cases lastEntry ucl cur (ascii "enabled") with
    | none =>
      rw [Option.map_none, Option.getD_none, henabled]
      rfl
    | some entry =>
      have hstored :
          (storeEntry ucl bcc (⟨8, .boolean, 1, ascii "enabled"⟩, entry)).readNumber 8 1 =
          (ucl.toboolean entry).toNat :=
        CStruct.readNumber_writeNumber_self _ _ (Nat.lt_of_lt_of_le (Bool.toNat_lt _) (by decide))
      rw [Option.map_some, Option.getD_some, hstored, Option.map_some, Option.getD_some]
      cases ucl.toboolean entry <;> rfl
  · cases lastEntry ucl cur (ascii "backend") with
    | none =>
      rw [Option.map_none, Option.getD_none, hbackend]
      rfl
    | some entry => exact pointerText_textPointer (ucl.tostring entry)

theorem bufParseConsole_tagged {cur : ucl.Object} {tag : CString} (htag : ucl.key cur = some tag)
    (bccl : List CStruct) :
    ∃ bcc, bufParseConsole ucl (some tag) cur bccl = some (0, bcc :: bccl) ∧
      readConsole bcc = consoleOf ucl cur := by
  obtain ⟨bcc, hnew, htame, hname, henabled, hbackend⟩ := bccNew_pointer tag
  have hparse :=
    @parse_mappedEntries ucl Unit bcConsole2config (ucl.iterate cur) bcc (owned_of_tame htame _)
      (fun _ _ mapping hfind htype => by
        have hnone : ∀ mapping ∈ bcConsole2config, mapping.valueType ≠ .fixedstring := by decide
        exact absurd htype (hnone mapping (mem_of_bupFindmapping hfind))) ()
  refine ⟨(mappedEntries ucl bcConsole2config (ucl.iterate cur)).foldl (storeEntry ucl) bcc, ?_, ?_⟩
  · rw [bufParseConsole, hnew]
    dsimp only
    rw [hparse, Option.map_some]
  · exact readConsole_parsed htag hname henabled hbackend
      fun mapping hmapping => parsed_field bcConsole2config_names bcConsole2config_apart hmapping

theorem bupParselist_tagged {objects : List ucl.Object}
    (htags : ∀ cur ∈ objects, ucl.key cur ≠ none) (bccl : List CStruct) :
    ∃ consoles, bupParselistfromucl ucl (bufParseConsole ucl) objects bccl =
      some (0, consoles ++ bccl) ∧
      consoles.map readConsole = (objects.map (consoleOf ucl)).reverse := by
  induction objects generalizing bccl with
  | nil => exact ⟨[], rfl, rfl⟩
  | cons cur objects ih =>
    rw [List.forall_mem_cons] at htags
    obtain ⟨tag, htag⟩ := Option.ne_none_iff_exists'.mp htags.1
    obtain ⟨bcc, hfirst, hread⟩ := bufParseConsole_tagged htag bccl
    obtain ⟨consoles, hrest, hall⟩ := ih htags.2 (bcc :: bccl)
    refine ⟨consoles ++ [bcc], ?_, ?_⟩
    · rw [bupParselistfromucl, htag, hfirst, List.append_assoc]
      exact hrest
    · rw [List.map_append, hall, List.map_cons, List.map_nil,
        hread, List.map_cons, List.reverse_cons]

theorem readConsoles_parsed (block : ConsoleBlock ucl) (consoles : Option (List CStruct)) :
    ∃ parsed, bufParseConsoleList ucl block.object consoles = some parsed ∧
      readConsoles parsed = block.consoles.reverse := by
  obtain ⟨bccl, hparse, hread⟩ := bupParselist_tagged block.tagged []
  refine ⟨some bccl, ?_, hread⟩
  rw [bufParseConsoleList, hparse, Option.map_some, List.append_nil]
  rfl

end

/-! The ports. -/

/-- The array holds the text, with its end. -/
def Holds {n : Nat} (array : CharArray n) (text : List UInt8) : Prop :=
  0 ∈ array.bytes ∧ cString array.bytes = text

theorem holds_strncpy {n : Nat} {copied : CString} {text : List UInt8} :
    Holds (strncpy n copied) text ↔ copied.val.length < n ∧ copied.val = text := by
  unfold Holds
  rw [zero_mem_strncpy]
  refine and_congr_right fun hlt => ?_
  have hstring := cString_strncpy_of_lt hlt []
  rw [List.append_nil] at hstring
  rw [hstring]

def backendOf (bcc : BhyveConfigurationConsole) : List UInt8 :=
  (bcc.backend.map Subtype.val).getD []

structure ConsoleFits (bcc : BhyveConfigurationConsole) : Prop where
  name : ∃ name, bcc.name = some name ∧ name.val.length < bpcNameMax
  backend : (backendOf bcc).length < pathMax

theorem holds_backend {bcc : BhyveConfigurationConsole} {text : List UInt8} :
    Holds (comportOf (some bcc)).backend text ↔
      (backendOf bcc).length < pathMax ∧ backendOf bcc = text := by
  obtain ⟨name, enabled, backend⟩ := bcc
  cases backend with
  | none =>
    have hempty := @holds_strncpy pathMax ⟨[], List.not_mem_nil⟩ text
    rw [strncpy_nil] at hempty
    exact hempty
  | some backend => exact holds_strncpy

/-- What the port of a console should be. -/
def Carries (port : BhyveParametersComport) : Option BhyveConfigurationConsole → Prop
  | none => port.enabled = false
  | some bcc =>
    port.enabled = bcc.enabled ∧ (∃ name, bcc.name = some name ∧ Holds port.portname name.val) ∧
      Holds port.backend (backendOf bcc)

def consoleTexts (bcc : BhyveConfigurationConsole) : Option CString × List UInt8 :=
  (bcc.name, backendOf bcc)

theorem carries_comportOf {given bcc : BhyveConfigurationConsole} (hname : given.name ≠ none) :
    Carries (comportOf (some given)) (some bcc) ↔
      bcc.enabled = true ∧ ConsoleFits given ∧ consoleTexts given = consoleTexts bcc := by
  obtain ⟨name, hgiven⟩ := Option.ne_none_iff_exists'.mp hname
  have hport : (comportOf (some given)).portname = strncpy bpcNameMax name := by
    rw [comportOf, hgiven]; rfl
  rw [Carries, holds_backend, hport]
  constructor
  · rintro ⟨henabled, ⟨other, hother, hholds⟩, hfits, hbackend⟩
    obtain ⟨hlt, hsame⟩ := holds_strncpy.mp hholds
    refine ⟨henabled.symm, ⟨⟨name, hgiven, hlt⟩, hfits⟩, Prod.ext ?_ hbackend⟩
    exact hgiven.trans ((congrArg some (Subtype.ext hsame)).trans hother.symm)
  · rintro ⟨henabled, ⟨⟨found, hfound, hlt⟩, hfits⟩, htexts⟩
    obtain ⟨hnames, hbackends⟩ := Prod.mk.inj htexts
    obtain rfl : name = found := Option.some.inj (hgiven.symm.trans hfound)
    exact ⟨henabled.symm, ⟨name, hnames.symm.trans hgiven, holds_strncpy.mpr ⟨hlt, rfl⟩⟩,
      hfits, hbackends⟩

end Vmstated.Libtranslate
