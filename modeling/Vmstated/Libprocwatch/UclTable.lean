import Vmstated.Libprocwatch.UclParser

/-! What the table parser stores: of several entries for a field, the last. -/
namespace Vmstated.Libprocwatch
open Library Libcommand

section
variable (ucl : Libucl)

/-- What is no string for `libucl` is `NULL`. -/
def textPointer : Option CString → Pointer
  | none => .null
  | some text => .string text.val

/-- The field with the value of one entry. -/
def storeEntry (ctx : CStruct) (entry : ParserMapping × ucl.Object) : CStruct :=
  match entry.1.valueType with
  | .fixedstring =>
    ctx.writeBytes entry.1.offset
      (strncpy entry.1.size ((ucl.tostring entry.2).getD ⟨[], List.not_mem_nil⟩)).bytes
  | .dynamicstring => ctx.setPointer entry.1.offset (textPointer (ucl.tostring entry.2))
  | .uint64 => ctx.writeNumber entry.1.offset 8 (lowBytes 8 (ucl.toint entry.2))
  | .uint32 => ctx.writeNumber entry.1.offset 4 (lowBytes 4 (ucl.toint entry.2))
  | .uint16 => ctx.writeNumber entry.1.offset 2 (lowBytes 2 (ucl.toint entry.2))
  | .boolean => ctx.writeNumber entry.1.offset 1 (ucl.toboolean entry.2).toNat

def Stringy (mapping : ParserMapping) (cur : ucl.Object) : Prop :=
  mapping.valueType = .fixedstring → ucl.tostring cur ≠ none

def HoldsEntry (mapping : ParserMapping) (cur : ucl.Object) (ctx : CStruct) : Prop :=
  match mapping.valueType with
  | .fixedstring => (ucl.tostring cur).map (fun text => (strncpy mapping.size text).bytes) =
      some (ctx.readBytes mapping.offset mapping.size)
  | .dynamicstring => ctx.pointers mapping.offset = textPointer (ucl.tostring cur)
  | .uint64 => ctx.readNumber mapping.offset 8 = lowBytes 8 (ucl.toint cur)
  | .uint32 => ctx.readNumber mapping.offset 4 = lowBytes 4 (ucl.toint cur)
  | .uint16 => ctx.readNumber mapping.offset 2 = lowBytes 2 (ucl.toint cur)
  | .boolean => ctx.readNumber mapping.offset 1 = (ucl.toboolean cur).toNat

def entriesOf (objects : List ucl.Object) (name : List UInt8) : List ucl.Object :=
  objects.filter fun cur => (ucl.key cur).map Subtype.val = some name

def mappedEntries (mappings : List ParserMapping) (objects : List ucl.Object) :
    List (ParserMapping × ucl.Object) :=
  objects.filterMap fun cur => (bupFindmapping mappings (ucl.key cur)).map fun mapping =>
    (mapping, cur)

end

section
variable {ucl : Libucl} {mapping : ParserMapping} {cur : ucl.Object} {ctx : CStruct}

theorem parseItem_storeEntry
    (hpointer : mapping.valueType = .dynamicstring → ctx.pointers mapping.offset ≠ .wild)
    (hstring : Stringy ucl mapping cur) :
    parseItem ucl mapping cur ctx = some (storeEntry ucl ctx (mapping, cur)) := by
  unfold parseItem storeEntry
  cases htype : mapping.valueType with
  | fixedstring =>
    obtain ⟨text, htext⟩ := Option.ne_none_iff_exists'.mp (hstring htype)
    rw [htext]
    rfl
  | dynamicstring =>
    dsimp only
    rw [if_neg (hpointer htype)]
    cases ucl.tostring cur <;> rfl
  | _ => rfl

theorem frame_storeEntry (ctx : CStruct) (entry : ParserMapping × ucl.Object) :
    CStruct.Frame entry.1.region (storeEntry ucl ctx entry) ctx := by
  obtain ⟨mapping, cur⟩ := entry
  unfold storeEntry ParserMapping.region
  cases mapping.valueType with
  | fixedstring =>
    have hframe := CStruct.frame_writeBytes ctx mapping.offset
      (strncpy mapping.size ((ucl.tostring cur).getD ⟨[], List.not_mem_nil⟩)).bytes
    rw [(strncpy mapping.size _).length_eq] at hframe
    exact hframe
  | dynamicstring => exact CStruct.frame_setPointer _ _ (Nat.succ_pos 7) _
  | _ => exact CStruct.frame_writeNumber _ _ _ _

theorem owned_storeEntry {mappings : List ParserMapping} (howned : Owned mappings ctx)
    (entry : ParserMapping × ucl.Object) : Owned mappings (storeEntry ucl ctx entry) := by
  intro other hother hdynamic
  have hold := howned other hother hdynamic
  unfold storeEntry
  cases entry.1.valueType with
  | dynamicstring =>
    rw [CStruct.setPointer_pointers]
    split
    · cases ucl.tostring entry.2 <;> exact Pointer.noConfusion
    · exact hold
  | _ => exact hold

theorem agree_storeEntry {other : CStruct} (h : CStruct.Agree mapping.region ctx other) :
    CStruct.Agree mapping.region (storeEntry ucl ctx (mapping, cur))
      (storeEntry ucl other (mapping, cur)) := by
  unfold storeEntry
  unfold ParserMapping.region at *
  cases htype : mapping.valueType with
  | fixedstring =>
    rw [htype] at h
    dsimp only at h ⊢
    have hlength :=
      (strncpy mapping.size ((ucl.tostring cur).getD ⟨[], List.not_mem_nil⟩)).length_eq
    generalize (strncpy mapping.size ((ucl.tostring cur).getD ⟨[], List.not_mem_nil⟩)).bytes = bytes
      at *
    rw [← hlength] at h ⊢
    exact h.writeBytes
  | dynamicstring =>
    rw [htype] at h
    exact h.setPointer _
  | _ =>
    rw [htype] at h
    exact h.writeNumber _

theorem storeEntry_storeEntry (ctx : CStruct) (mapping : ParserMapping) (cur next : ucl.Object) :
    storeEntry ucl (storeEntry ucl ctx (mapping, cur)) (mapping, next) =
      storeEntry ucl ctx (mapping, next) := by
  unfold storeEntry
  cases mapping.valueType with
  | fixedstring =>
    apply CStruct.writeBytes_writeBytes
    rw [(strncpy mapping.size _).length_eq, (strncpy mapping.size _).length_eq]
  | dynamicstring => exact CStruct.setPointer_setPointer _ _ _ _
  | _ => exact CStruct.writeNumber_writeNumber _ _ _ _ _

theorem holdsEntry_of_agree {after : CStruct} (hstring : Stringy ucl mapping cur)
    (h : CStruct.Agree mapping.region after (storeEntry ucl ctx (mapping, cur))) :
    HoldsEntry ucl mapping cur after := by
  unfold HoldsEntry
  unfold storeEntry ParserMapping.region at h
  cases htype : mapping.valueType with
  | fixedstring =>
    rw [htype] at h
    dsimp only at h ⊢
    obtain ⟨text, htext⟩ := Option.ne_none_iff_exists'.mp (hstring htype)
    have hread := CStruct.readBytes_writeBytes ctx mapping.offset (strncpy mapping.size text).bytes
    rw [(strncpy mapping.size text).length_eq] at hread
    rw [h.readBytes (le_refl _) (le_refl _), htext, Option.getD_some, hread, Option.map_some]
  | dynamicstring =>
    rw [htype] at h
    exact (h.pointer (Nat.succ_pos 7)).trans (if_pos rfl)
  | boolean =>
    rw [htype] at h
    dsimp only
    rw [h.readNumber (le_refl _) (le_refl _)]
    exact CStruct.readNumber_writeNumber_self _ _ (Nat.lt_of_lt_of_le (Bool.toNat_lt _) (by decide))
  | _ =>
    rw [htype] at h
    dsimp only
    rw [h.readNumber (le_refl _) (le_refl _)]
    exact CStruct.readNumber_writeNumber_self _ _ (lowBytes_lt _ _)

end

/-! The whole object. -/

section
variable {ucl : Libucl} {σ : Type} {mappings : List ParserMapping}
  {objects : List ucl.Object} {ctx : CStruct}

theorem mem_of_bupFindmapping {mapping : ParserMapping} {key : Option CString}
    (h : bupFindmapping mappings key = some mapping) : mapping ∈ mappings := by
  obtain ⟨name, -, hfound⟩ := Option.bind_eq_some_iff.mp h
  exact List.mem_of_find?_eq_some hfound

theorem parse_mappedEntries (howned : Owned mappings ctx)
    (hstrings : ∀ cur ∈ objects, ∀ mapping ∈ bupFindmapping mappings (ucl.key cur),
      Stringy ucl mapping cur)
    (rest : σ) :
    bupGenericParsefromucl ucl mappings [] objects (ctx, rest) =
      some ((mappedEntries ucl mappings objects).foldl (storeEntry ucl) ctx, rest) := by
  induction objects generalizing ctx with
  | nil => rfl
  | cons cur objects ih =>
    rw [List.forall_mem_cons] at hstrings
    rw [bupGenericParsefromucl, mappedEntries, List.filterMap_cons]
    cases hfind : bupFindmapping mappings (ucl.key cur) with
    | none =>
      have hsub : bupFindSubparser ([] : List (BhyveUclparserItem ucl σ)) (ucl.key cur) = none := by
        cases ucl.key cur <;> rfl
      dsimp only [Option.map_none]
      rw [hsub]
      exact ih howned hstrings.2
    | some mapping =>
      have hmapping := mem_of_bupFindmapping hfind
      dsimp only [Option.map_some]
      rw [parseItem_storeEntry (howned mapping hmapping) (hstrings.1 mapping hfind),
        Option.bind_some, List.foldl_cons]
      exact ih (owned_storeEntry howned _) hstrings.2

theorem bupFindmapping_eq_some (hdistinct : (mappings.map ParserMapping.varname).Nodup)
    {mapping : ParserMapping} (hmapping : mapping ∈ mappings) (key : Option CString) :
    bupFindmapping mappings key = some mapping ↔ key.map Subtype.val = some mapping.varname := by
  cases key with
  | none => exact iff_of_false (fun h => nomatch h) (fun h => nomatch h)
  | some name =>
    rw [bupFindmapping, Option.bind_some, Option.map_some, Option.some_inj]
    constructor
    · intro hfind
      have hvarname := List.find?_some hfind
      exact (of_decide_eq_true hvarname).symm
    · intro hname
      have hsome : (mappings.find? fun other => decide (other.varname = name.val)).isSome := by
        rw [List.find?_isSome]
        exact ⟨mapping, hmapping, decide_eq_true hname.symm⟩
      obtain ⟨found, hfound⟩ := Option.isSome_iff_exists.mp hsome
      have hvarname := List.find?_some hfound
      have hsame : found.varname = mapping.varname := (of_decide_eq_true hvarname).trans hname
      rw [hfound, List.inj_on_of_nodup_map hdistinct
        (List.mem_of_find?_eq_some hfound) hmapping hsame]

theorem mappedEntries_filter (hdistinct : (mappings.map ParserMapping.varname).Nodup)
    {mapping : ParserMapping} (hmapping : mapping ∈ mappings) :
    (mappedEntries ucl mappings objects).filter (fun entry => decide (entry.1 = mapping)) =
      (entriesOf ucl objects mapping.varname).map fun cur => (mapping, cur) := by
  induction objects with
  | nil => rfl
  | cons cur objects ih =>
    unfold mappedEntries entriesOf at *
    have hfind := bupFindmapping_eq_some hdistinct hmapping (ucl.key cur)
    rw [List.filterMap_cons]
    by_cases hname : (ucl.key cur).map Subtype.val = some mapping.varname
    · have hkept : decide ((ucl.key cur).map Subtype.val = some mapping.varname) = true :=
        decide_eq_true hname
      rw [hfind.mpr hname, List.filter_cons, if_pos hkept, List.map_cons, ← ih]
      exact List.filter_cons_of_pos (decide_eq_true rfl)
    · have hdropped : ¬decide ((ucl.key cur).map Subtype.val = some mapping.varname) = true := by
        rw [decide_eq_true_eq]
        exact hname
      rw [List.filter_cons, if_neg hdropped, ← ih]
      cases hfound : bupFindmapping mappings (ucl.key cur) with
      | none => rfl
      | some other =>
        have hother : ¬decide (other = mapping) = true := by
          rw [decide_eq_true_eq]
          rintro rfl
          exact hname (hfind.mp hfound)
        exact List.filter_cons_of_neg hother

theorem mem_mappedEntries {entry : ParserMapping × ucl.Object}
    (h : entry ∈ mappedEntries ucl mappings objects) :
    entry.1 ∈ mappings ∧ bupFindmapping mappings (ucl.key entry.2) = some entry.1 := by
  obtain ⟨cur, -, hcur⟩ := List.mem_filterMap.mp h
  obtain ⟨mapping, hfind, rfl⟩ := Option.map_eq_some_iff.mp hcur
  exact ⟨mem_of_bupFindmapping hfind, hfind⟩

theorem pairwise_apart (hapart : mappings.Pairwise fun a b => a.region.Apart b.region)
    {mapping other : ParserMapping}
    (hmapping : mapping ∈ mappings) (hother : other ∈ mappings) (hne : other ≠ mapping) :
    mapping.region.Apart other.region := by
  have hsymm : Std.Symm fun a b : ParserMapping => a.region.Apart b.region := ⟨fun _ _ h => h.symm⟩
  exact hapart.forall hmapping hother hne.symm

theorem parsed_field (hdistinct : (mappings.map ParserMapping.varname).Nodup)
    (hapart : mappings.Pairwise fun a b => a.region.Apart b.region) {mapping : ParserMapping}
    (hmapping : mapping ∈ mappings) :
    CStruct.Agree mapping.region ((mappedEntries ucl mappings objects).foldl (storeEntry ucl) ctx)
      (((entriesOf ucl objects mapping.varname).getLast?.map fun cur =>
        storeEntry ucl ctx (mapping, cur)).getD ctx) := by
  have hlast := @CStruct.agree_foldl_last mapping.region (ParserMapping × ucl.Object)
      (fun entry => entry.1.region)
    (storeEntry ucl) frame_storeEntry (mappedEntries ucl mappings objects)
    (fun entry => decide (entry.1 = mapping)) ?_ ?_ ?_ ctx
  · rw [mappedEntries_filter hdistinct hmapping, List.getLast?_map, Option.map_map] at hlast
    exact hlast
  · intro entry hentry hother
    obtain ⟨hmem, -⟩ := mem_mappedEntries hentry
    exact pairwise_apart hapart hmapping hmem (of_decide_eq_false hother)
  · rintro s ⟨first, cur⟩ ⟨second, next⟩ hfirst hsecond
    obtain rfl := of_decide_eq_true hfirst
    obtain rfl := of_decide_eq_true hsecond
    rw [storeEntry_storeEntry]
    exact CStruct.Agree.refl _ _
  · rintro s t ⟨own, cur⟩ hown hagree
    obtain rfl := of_decide_eq_true hown
    exact agree_storeEntry hagree

theorem parsed_outside {i : Nat} (hi : ∀ mapping ∈ mappings, ¬mapping.region.Has i) :
    ((mappedEntries ucl mappings objects).foldl (storeEntry ucl) ctx).bytes i = ctx.bytes i ∧
      ((mappedEntries ucl mappings objects).foldl (storeEntry ucl) ctx).pointers i =
        ctx.pointers i := by
  have hapart : ∀ entry ∈ mappedEntries ucl mappings objects, Region.Apart ⟨i, 1⟩ entry.1.region :=
    fun entry hentry => Region.apart_of_not_has (hi entry.1 (mem_mappedEntries hentry).1)
  exact CStruct.agree_foldl frame_storeEntry hapart ctx i ⟨le_refl i, Nat.lt_succ_self i⟩

end

end Vmstated.Libprocwatch
