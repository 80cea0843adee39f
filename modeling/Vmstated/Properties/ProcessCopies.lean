import Vmstated.Libprocwatch.ProcessDef

/-! Process definitions as copies of what they are made from. -/
namespace Vmstated.Properties
open Library Libconfig Libprocwatch

def IsText (memory : List UInt8) (text : CString) : Prop := 0 ∈ memory ∧ cString memory = text.val

/-- An array of strings, and `NULL` behind them. -/
def IsArgv (procargs : List (Option (List UInt8))) (args : List CString) : Prop :=
  ∃ entries, procargs = entries ++ [none] ∧
    List.Forall₂ (fun entry arg => ∃ memory, entry = some memory ∧ IsText memory arg) entries args

section
variable {γ : Type} (name procpath : CString) (description : Option CString) (args : List CString)

structure CopiesDefinition (pd : ProcessDef γ) : Prop where
  name : IsText pd.name.bytes name
  description : Option.Rel IsText pd.description description
  procpath : IsText pd.procpath.bytes procpath
  procargs : ∃ procargs, pd.procargs = some procargs ∧ IsArgv procargs args

end

section
variable {text : CString} {args : List CString}

theorem isText_append (byte : UInt8) : IsText (text.val ++ [byte]) text ↔ byte = 0 := by
  constructor
  · rintro ⟨hzero, -⟩
    rcases List.mem_append.mp hzero with htext | hbyte
    · exact absurd htext text.property
    · exact (List.mem_singleton.mp hbyte).symm
  · rintro rfl
    exact ⟨List.mem_append_right _ (List.mem_singleton_self 0), cString_append text.ne_zero []⟩

theorem isText_strncpy {n : Nat} (hfits : text.val.length < n) :
    IsText (strncpy n text).bytes text := by
  have hstring := cString_strncpy_of_lt hfits []
  rw [List.append_nil] at hstring
  exact ⟨zero_mem_strncpy.mpr hfits, hstring⟩

theorem isText_zeroed {n : Nat} (hn : 0 < n) :
    IsText (CharArray.zeroed n).bytes text ↔ text.val = [] := by
  have hstring := cString_zeroed hn []
  rw [List.append_nil] at hstring
  have hzero : 0 ∈ (CharArray.zeroed n).bytes := List.mem_replicate.mpr ⟨hn.ne', rfl⟩
  rw [IsText, and_iff_right hzero, hstring]
  exact eq_comm

theorem isArgv_cons {memory : Option (List UInt8)} {procargs : List (Option (List UInt8))}
    {arg : CString} :
    IsArgv (memory :: procargs) (arg :: args) ↔
      (∃ bytes, memory = some bytes ∧ IsText bytes arg) ∧ IsArgv procargs args := by
  constructor
  · rintro ⟨entries, hsplit, hcopies⟩
    cases hcopies with
    | cons hfirst hrest =>
      obtain ⟨rfl, hprocargs⟩ := List.cons.inj hsplit
      exact ⟨hfirst, _, hprocargs, hrest⟩
  · rintro ⟨hfirst, entries, rfl, hrest⟩
    exact ⟨memory :: entries, rfl, .cons hfirst hrest⟩

theorem isArgv_argsMemory (args : List CString) (fresh : Nat → Nat → UInt8) :
    IsArgv (argsMemory args fresh) args ↔ ∀ i (h : i < args.length),
      fresh i args[i].val.length = 0 := by
  induction args generalizing fresh with
  | nil => exact iff_of_true ⟨[], rfl, .nil⟩ fun i h => absurd h (Nat.not_lt_zero i)
  | cons arg args ih =>
    rw [argsMemory, isArgv_cons, ih]
    constructor
    · rintro ⟨⟨bytes, hbytes, htext⟩, hrest⟩ i h
      obtain rfl := Option.some.inj hbytes
      cases i with
      | zero => exact (isText_append _).mp htext
      | succ i => exact hrest i (Nat.lt_of_succ_lt_succ h)
    · intro hall
      exact ⟨⟨_, rfl, (isText_append _).mpr (hall 0 (Nat.succ_pos _))⟩,
        fun i h => hall (i + 1) (Nat.succ_lt_succ h)⟩

end

section
variable {γ : Type} {name procpath : CString} {description : Option CString}
  {args : List CString} {ctx : γ}

def allocatedBefore (description : Option CString) : Nat := if description.isSome then 3 else 2

theorem pdNewArgs_eq (pd : ProcessDef γ) (args : List CString) (fresh : Nat → Nat → UInt8) :
    pdNewArgs pd procpath (some args) ctx (.ofFresh fresh) = some { pd with
      procpath := strncpy pathMax procpath, procargs :=
        some (argsMemory args fun i => fresh (i + 1)),
      ctx := some ctx } := by
  have hcopied := copyArgs_eq args [] fun i => fresh (i + 1)
  rw [List.length_nil, List.nil_append, List.nil_append] at hcopied
  rw [pdNewArgs, Heap.ofFresh_zero, Heap.ofFresh_rest]
  dsimp only
  rw [hcopied, Option.map_some]

theorem pdNew_eq (fresh : Nat → Nat → UInt8) :
    pdNew (some name) description (some procpath) (some args) ctx (.ofFresh fresh) = some
      ⟨.zeroed pathMax, description.map (fun text => text.val ++ [0]), strncpy pathMax procpath,
        some (argsMemory args fun i => fresh (allocatedBefore description + i)), some ctx⟩ := by
  cases description with
  | none =>
    have hshift : (fun i => fresh (allocatedBefore none + i)) = fun i => fresh (i + 2) := by
      funext i
      exact congrArg fresh (Nat.add_comm 2 i)
    simp only [pdNew, Heap.ofFresh_zero, Heap.ofFresh_rest, pdNewArgs_eq, hshift]
    rfl
  | some description =>
    have hshift : (fun i => fresh (allocatedBefore (some description) + i)) = fun i =>
        fresh (i + 3) := by
      funext i
      exact congrArg fresh (Nat.add_comm 3 i)
    simp only [pdNew, Heap.ofFresh_zero, Heap.ofFresh_rest, pdNewArgs_eq, hshift,
      strncpyTo_whole description (memoryOf_length _ _)]
    rfl

/-- The definition is a copy only if the name is empty, and the memory of each
argument happens to end with a zero byte. -/
theorem copiesDefinition_iff (hprocpath : procpath.val.length < pathMax)
    (fresh : Nat → Nat → UInt8) :
    (∃ pd, pdNew (some name) description (some procpath) (some args) ctx
      (.ofFresh fresh) = some pd ∧ CopiesDefinition name procpath description args pd) ↔
      name.val = [] ∧ ∀ i (h : i < args.length),
        fresh (allocatedBefore description + i) args[i].val.length = 0 := by
  have hsize : 0 < pathMax := Nat.two_pow_pos 10
  rw [pdNew_eq, ← isArgv_argsMemory args fun i => fresh (allocatedBefore description + i),
    ← isText_zeroed hsize]
  constructor
  · rintro ⟨pd, hnew, hcopies⟩
    obtain rfl := Option.some.inj hnew
    obtain ⟨procargs, hsome, hargv⟩ := hcopies.procargs
    obtain rfl := Option.some.inj hsome
    exact ⟨hcopies.name, hargv⟩
  · rintro ⟨hname, hargv⟩
    refine ⟨_, rfl, hname, ?_, isText_strncpy hprocpath, _, rfl, hargv⟩
    cases description with
    | none => exact .none
    | some text => exact .some ((isText_append 0).mpr rfl)

end

theorem copiesDefinition_nameless : ∃ pd,
    pdNew (some ⟨[], zero_not_mem_nil⟩) none (some (literal "/bin/sh"))
      (some [literal "-c"]) () (.ofFresh fun _ _ => 0)
      = some pd ∧ CopiesDefinition ⟨[], zero_not_mem_nil⟩ (literal "/bin/sh") none
        [literal "-c"] pd :=
  (copiesDefinition_iff (by decide) fun _ _ => 0).mpr ⟨rfl, fun _ _ => rfl⟩

theorem not_copiesDefinition :
    ¬∀ (name procpath : CString) (description : Option CString) (args : List CString)
    (fresh : Nat → Nat → UInt8), name.val.length < pathMax → procpath.val.length < pathMax → ∃ pd,
    pdNew (some name) description (some procpath) (some args) () (.ofFresh fresh) = some pd ∧
      CopiesDefinition name procpath description args pd := by
  intro hall
  obtain ⟨pd, hnew, hcopies⟩ := hall (literal "user script") (literal "/bin/true")
    (some (literal "run when state changes")) [literal "/bin/true"]
      (fun _ _ => 0) (by decide) (by decide)
  rw [pdNew_eq] at hnew
  obtain rfl := Option.some.inj hnew
  have hname := (isText_zeroed (Nat.two_pow_pos 10)).mp hcopies.name
  exact absurd hname (by decide)

end Vmstated.Properties
