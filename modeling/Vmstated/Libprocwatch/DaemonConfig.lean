import Vmstated.Libprocwatch.UclTable

/-! libprocwatch/daemon_config.c: the settings of the daemon itself. -/
namespace Vmstated.Libprocwatch
open Library Libcommand

/-- The rows take half of the fields of `struct daemon_config`, each a `size_t`. -/
def dconfNvlist2config : List ParserMapping :=
  [⟨0, .uint32, 4, ascii "tap_min"⟩, ⟨8, .uint32, 4, ascii "tap_max"⟩,
    ⟨16, .uint32, 4, ascii "nmdm_min"⟩, ⟨24, .uint32, 4, ascii "nmdm_max"⟩]

def dconfParsefromucl (ucl : Libucl) (dc : CStruct) (confobj : ucl.Object) : Option CStruct :=
  (bupGenericParsefromucl ucl dconfNvlist2config ([] : List (BhyveUclparserItem ucl Unit))
    (ucl.iterate confobj) (dc, ())).map Prod.fst

/-- The sections of a file, one after the other. `strcmp` reads the key. -/
def dconfParseucl (ucl : Libucl) : List ucl.Object → CStruct → Option CStruct
  | [], dc => some dc
  | cur :: objects, dc =>
    (ucl.key cur).bind fun configname =>
      if configname.val ≠ ascii "vmstated" then dconfParseucl ucl objects dc
      else (dconfParsefromucl ucl .zeroed cur).bind (dconfParseucl ucl objects)

theorem dconfNvlist2config_names : (dconfNvlist2config.map ParserMapping.varname).Nodup := by decide

theorem dconfNvlist2config_apart :
    dconfNvlist2config.Pairwise fun a b => a.region.Apart b.region := by decide

theorem dconfNvlist2config_upper : ∀ mapping ∈ dconfNvlist2config, mapping.valueType = .uint32 ∧
    ∀ other ∈ dconfNvlist2config, Region.Apart ⟨mapping.offset + 4, 4⟩ other.region := by decide

section
variable (ucl : Libucl) (dc : CStruct) (confobj : ucl.Object)

/-- What is left of the last value under the name, or of the old one. -/
def dconfSetting (mapping : ParserMapping) : Nat :=
  match (entriesOf ucl (ucl.iterate confobj) mapping.varname).getLast? with
  | some cur => lowBytes 4 (ucl.toint cur)
  | none => dc.readNumber mapping.offset 4

theorem dconfParsefromucl_eq :
    ∃ after, dconfParsefromucl ucl dc confobj = some after ∧ ∀ mapping ∈ dconfNvlist2config,
      after.readNumber mapping.offset 8 =
        dconfSetting ucl dc confobj mapping + 2 ^ 32 * dc.readNumber (mapping.offset + 4) 4 := by
  have howned : Owned dconfNvlist2config dc := by
    intro mapping hmapping htype
    rw [(dconfNvlist2config_upper mapping hmapping).1] at htype
    cases htype
  have hparse := @parse_mappedEntries ucl Unit dconfNvlist2config (ucl.iterate confobj) dc howned
    (fun cur _ mapping hfind htype => by
      rw [(dconfNvlist2config_upper mapping (mem_of_bupFindmapping hfind)).1] at htype
      cases htype) ()
  refine ⟨(mappedEntries ucl dconfNvlist2config (ucl.iterate confobj)).foldl (storeEntry ucl) dc,
    ?_, ?_⟩
  · rw [dconfParsefromucl, hparse, Option.map_some]
  · intro mapping hmapping
    obtain ⟨htype, hupper⟩ := dconfNvlist2config_upper mapping hmapping
    have hkept := @CStruct.agree_foldl ⟨mapping.offset + 4, 4⟩ (ParserMapping × ucl.Object)
      (fun entry => entry.1.region) (storeEntry ucl) frame_storeEntry
      (mappedEntries ucl dconfNvlist2config (ucl.iterate confobj))
      (fun entry hentry => hupper entry.1 (mem_mappedEntries hentry).1) dc
    have hfield :=
      @parsed_field ucl dconfNvlist2config (ucl.iterate confobj) dc dconfNvlist2config_names
        dconfNvlist2config_apart mapping hmapping
    have hregion : mapping.region = ⟨mapping.offset, 4⟩ := by rw [ParserMapping.region, htype]
    rw [hregion] at hfield
    rw [CStruct.readNumber_add _ mapping.offset 4 4, hkept.readNumber (le_refl _) (le_refl _),
      hfield.readNumber (le_refl _) (le_refl _), dconfSetting]
    congr 1
    cases (entriesOf ucl (ucl.iterate confobj) mapping.varname).getLast? with
    | none => rfl
    | some cur =>
      rw [Option.map_some, Option.getD_some, storeEntry, htype]
      exact CStruct.readNumber_writeNumber_self _ _ (lowBytes_lt 4 _)

end

end Vmstated.Libprocwatch
