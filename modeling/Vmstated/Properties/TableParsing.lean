import Vmstated.Libprocwatch.UclSpec
import Vmstated.Libprocwatch.DaemonConfig

/-! Parsing by any table, and the settings of the daemon. -/
namespace Vmstated.Properties
open Library Libcommand Libprocwatch

section
variable {ucl : Libucl} {mappings : List ParserMapping}
  {objects reordered : List ucl.Object} {ctx : CStruct}

/-- An entry under a name of the table is a string where the field is an array. -/
def StringsForArrays (ucl : Libucl) (mappings : List ParserMapping)
    (objects : List ucl.Object) : Prop :=
  ∀ cur ∈ objects, ∀ mapping ∈ mappings, (ucl.key cur).map Subtype.val = some mapping.varname →
    mapping.valueType = .fixedstring → ucl.tostring cur ≠ none

theorem StringsForArrays.stringy (h : StringsForArrays ucl mappings objects)
    (hdistinct : (mappings.map ParserMapping.varname).Nodup) :
    ∀ cur ∈ objects, ∀ mapping ∈ bupFindmapping mappings (ucl.key cur),
      Stringy ucl mapping cur := by
  intro cur hcur mapping hfind
  have hmapping := mem_of_bupFindmapping hfind
  exact h cur hcur mapping hmapping ((bupFindmapping_eq_some hdistinct hmapping _).mp hfind)

theorem parsed_reordered (hdistinct : (mappings.map ParserMapping.varname).Nodup)
    (hapart : mappings.Pairwise fun a b => a.region.Apart b.region)
    (hsame : ∀ name, entriesOf ucl reordered name = entriesOf ucl objects name) :
    (mappedEntries ucl mappings reordered).foldl (storeEntry ucl) ctx =
      (mappedEntries ucl mappings objects).foldl (storeEntry ucl) ctx := by
  apply CStruct.eq_of_places
  intro i
  by_cases hi : ∃ mapping ∈ mappings, mapping.region.Has i
  · obtain ⟨mapping, hmapping, hhas⟩ := hi
    have hfield := @parsed_field ucl mappings objects ctx hdistinct hapart mapping hmapping
    have hother := @parsed_field ucl mappings reordered ctx hdistinct hapart mapping hmapping
    rw [hsame] at hother
    exact (hother.trans hfield.symm) i hhas
  · have hnone : ∀ mapping ∈ mappings, ¬mapping.region.Has i :=
      fun mapping hmapping hhas => hi ⟨mapping, hmapping, hhas⟩
    have hfield := @parsed_outside ucl mappings objects ctx i hnone
    have hother := @parsed_outside ucl mappings reordered ctx i hnone
    exact ⟨hother.1.trans hfield.1.symm, hother.2.trans hfield.2.symm⟩

end

/-- The parser gets to the end, that is, it returns 0. Each field of the table
then holds the conversion of the last entry under its name, if there is one, and
all else is as before, in whatever order the entries of different names are. -/
theorem table_parsed (ucl : Libucl) {σ : Type} {mappings : List ParserMapping}
    {objects : List ucl.Object}
    {ctx : CStruct} (hdistinct : (mappings.map ParserMapping.varname).Nodup)
    (hapart : mappings.Pairwise fun a b => a.region.Apart b.region) (howned : Owned mappings ctx)
    (hstrings : StringsForArrays ucl mappings objects) (rest : σ) :
    ∃ after, bupGenericParsefromucl ucl mappings [] objects (ctx, rest) = some (after, rest) ∧
      (∀ mapping ∈ mappings,
        match (entriesOf ucl objects mapping.varname).getLast? with
        | some cur => HoldsEntry ucl mapping cur after
        | none => CStruct.Agree mapping.region after ctx) ∧
      (∀ i, (∀ mapping ∈ mappings, ¬mapping.region.Has i) →
        after.bytes i = ctx.bytes i ∧ after.pointers i = ctx.pointers i) ∧
      ∀ reordered, (∀ name, entriesOf ucl reordered name = entriesOf ucl objects name) →
        bupGenericParsefromucl ucl mappings [] reordered (ctx, rest) = some (after, rest) := by
  refine ⟨(mappedEntries ucl mappings objects).foldl (storeEntry ucl) ctx,
    parse_mappedEntries howned (hstrings.stringy hdistinct) rest, ?_, fun i hi =>
      parsed_outside hi, ?_⟩
  · intro mapping hmapping
    have hfield := @parsed_field ucl mappings objects ctx hdistinct hapart mapping hmapping
    cases hlast : (entriesOf ucl objects mapping.varname).getLast? with
    | none =>
      rw [hlast] at hfield
      exact hfield
    | some cur =>
      rw [hlast] at hfield
      obtain ⟨hcur, hname⟩ := List.mem_filter.mp (List.mem_of_getLast? hlast)
      exact holdsEntry_of_agree
        (hstrings cur hcur mapping hmapping (of_decide_eq_true hname)) hfield
  · intro reordered hsame
    have hmembers : StringsForArrays ucl mappings reordered := by
      intro cur hcur mapping hmapping hname
      have hentry : cur ∈ entriesOf ucl reordered mapping.varname :=
        List.mem_filter.mpr ⟨hcur, decide_eq_true hname⟩
      rw [hsame] at hentry
      exact hstrings cur (List.mem_filter.mp hentry).1 mapping hmapping hname
    rw [← parsed_reordered hdistinct hapart hsame]
    exact parse_mappedEntries howned (hmembers.stringy hdistinct) rest

def twiceNamed : List ucltrees.Object :=
  [.leaf (some Setting.name.varname) (.string ⟨ascii "earlier", by decide⟩),
    .leaf (some Setting.os.varname) (.int 14),
    .leaf (some Setting.name.varname) (.string ⟨ascii "later", by decide⟩)]

theorem stringsForArrays_twiceNamed : StringsForArrays ucltrees bcNvlist2config twiceNamed := by
  have hos : ∀ mapping ∈ bcNvlist2config, some (ascii "os") = some mapping.varname →
      mapping.valueType ≠ .fixedstring := by decide
  refine List.forall_mem_cons.mpr
    ⟨?_, List.forall_mem_cons.mpr ⟨?_, List.forall_mem_cons.mpr ⟨?_, ?_⟩⟩⟩
  · exact fun _ _ _ _ => Option.some_ne_none _
  · exact fun mapping hmapping hname htype => absurd htype (hos mapping hmapping hname)
  · exact fun _ _ _ _ => Option.some_ne_none _
  · exact fun _ hnone => absurd hnone List.not_mem_nil

theorem table_parsed_twice : ∃ after,
    bupGenericParsefromucl ucltrees bcNvlist2config [] twiceNamed (CStruct.zeroed, ()) =
      some (after, ()) ∧
      after.readBytes 0 1024 = (strncpy 1024 ⟨ascii "later", by decide⟩).bytes ∧
        after.pointers 3072 = .null := by
  obtain ⟨after, hparse, hfields, -, -⟩ :=
    @table_parsed ucltrees Unit bcNvlist2config twiceNamed CStruct.zeroed
      (by decide) (by decide) (owned_of_tame tame_zeroed _) stringsForArrays_twiceNamed ()
  have hname := hfields ⟨0, .fixedstring, 1024, ascii "name"⟩ (by decide)
  have hos := hfields ⟨3072, .dynamicstring, 8, ascii "os"⟩ (by decide)
  exact ⟨after, hparse, (Option.some_inj.mp hname).symm, hos⟩

/-- The last `vmstated` section of a file counts. Each field holds what is left
there of the last value under its name, or zero. -/
theorem daemon_settings (ucl : Libucl) {objects : List ucl.Object}
    (hkeys : ∀ cur ∈ objects, ucl.key cur ≠ none) (dc : CStruct) :
    ∃ after, dconfParseucl ucl objects dc = some after ∧
      match (entriesOf ucl objects (ascii "vmstated")).getLast? with
      | none => after = dc
      | some confobj => ∀ mapping ∈ dconfNvlist2config,
        after.readNumber mapping.offset 8 = dconfSetting ucl .zeroed confobj mapping := by
  induction objects generalizing dc with
  | nil => exact ⟨dc, rfl, rfl⟩
  | cons cur objects ih =>
    obtain ⟨hkey, hkeys⟩ := List.forall_mem_cons.mp hkeys
    obtain ⟨configname, hkey⟩ := Option.ne_none_iff_exists'.mp hkey
    rw [dconfParseucl, hkey, Option.bind_some]
    by_cases hname : configname.val = ascii "vmstated"
    · obtain ⟨parsed, hparsed, hfields⟩ := dconfParsefromucl_eq ucl .zeroed cur
      obtain ⟨after, hafter, hlast⟩ := ih hkeys parsed
      have hentries : entriesOf ucl (cur :: objects) (ascii "vmstated") =
          cur :: entriesOf ucl objects (ascii "vmstated") := by
        simp [entriesOf, hkey, hname]
      rw [if_neg (not_not.mpr hname), hparsed, Option.bind_some, hentries, List.getLast?_cons]
      refine ⟨after, hafter, ?_⟩
      cases hsection : (entriesOf ucl objects (ascii "vmstated")).getLast? with
      | some confobj =>
        rw [hsection] at hlast
        exact hlast
      | none =>
        rw [hsection] at hlast
        subst hlast
        intro mapping hmapping
        rw [hfields mapping hmapping, CStruct.readNumber_zeroed,
          Nat.mul_zero, Nat.add_zero, Option.getD_none]
    · have hentries : entriesOf ucl (cur :: objects) (ascii "vmstated") =
          entriesOf ucl objects (ascii "vmstated") := by
        simp [entriesOf, hkey, hname]
      rw [if_pos hname, hentries]
      exact ih hkeys dc

end Vmstated.Properties
