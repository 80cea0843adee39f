import Vmstated.Libconfig.ConfigCore

/-! libprocwatch/process_def.c: `pd_new`, on memory that holds anything. -/
namespace Vmstated.Libprocwatch
open Library Libconfig

abbrev Heap := Nat → Option (Nat → UInt8)

def Heap.rest (heap : Heap) : Heap := fun i => heap (i + 1)

def Heap.ofFresh (fresh : Nat → Nat → UInt8) : Heap := fun i => some (fresh i)

@[simp] theorem Heap.ofFresh_zero (fresh : Nat → Nat → UInt8) :
    Heap.ofFresh fresh 0 = some (fresh 0) := rfl

@[simp] theorem Heap.ofFresh_rest (fresh : Nat → Nat → UInt8) :
    (Heap.ofFresh fresh).rest = Heap.ofFresh fun i => fresh (i + 1) := rfl

def memoryOf (size : Nat) (fresh : Nat → UInt8) : List UInt8 := (List.range size).map fresh

/-- `strncpy` of `n` bytes to memory that may be larger. -/
def strncpyTo (n : Nat) (text : CString) (memory : List UInt8) : List UInt8 :=
  overlay 0 (strncpy n text).bytes memory

structure ProcessDef (γ : Type) where
  name : CharArray pathMax
  description : Option (List UInt8)
  procpath : CharArray pathMax
  procargs : Option (List (Option (List UInt8)))
  ctx : Option γ

section
variable {γ : Type}

/-- As `malloc` returns it. Nobody looks at the pointers then. -/
def ProcessDef.ofMemory (fresh : Nat → UInt8) : ProcessDef γ where
  name := ⟨memoryOf pathMax fresh, by simp [memoryOf]⟩
  description := none
  procpath := ⟨memoryOf pathMax fun i => fresh (pathMax + 8 + i), by simp [memoryOf]⟩
  procargs := none
  ctx := none

def ProcessDef.bzero (_pd : ProcessDef γ) : ProcessDef γ :=
  ⟨.zeroed pathMax, none, .zeroed pathMax, none, none⟩

def copyArgs : List CString → Nat → List (Option (List UInt8)) →
    Heap → Option (List (Option (List UInt8)))
  | [], _, procargs, _ => some procargs
  | arg :: args, counter, procargs, heap =>
    let arglen := arg.val.length
    match heap 0 with
    | none => none
    | some fresh =>
      let copied := strncpyTo arglen arg (memoryOf (arglen + 1) fresh)
      copyArgs args (counter + 1) (procargs.set counter (some copied)) heap.rest

/-- From the copy of the path on. The array is cleared when it is allocated. -/
def pdNewArgs (pd : ProcessDef γ) (procpath : CString) (procargs : Option (List CString))
    (ctx : γ) (heap : Heap) :
    Option (ProcessDef γ) :=
  let pd := { pd with procpath := strncpy pathMax procpath }
  match procargs with
  | none => some { pd with ctx := some ctx }
  | some args =>
    match heap 0 with
    | none => none
    | some _ =>
      (copyArgs args 0 (List.replicate (args.length + 1) none) heap.rest).map fun procargs =>
        { pd with procargs := some procargs, ctx := some ctx }

/-- Nothing is returned for `NULL`. The structure is cleared after the name has
been copied to it. -/
def pdNew (name description procpath : Option CString) (procargs : Option (List CString))
    (ctx : γ) (heap : Heap) :
    Option (ProcessDef γ) :=
  match name, procpath, heap 0 with
  | some name, some procpath, some fresh =>
    let pd : ProcessDef γ := ProcessDef.ofMemory fresh
    let pd := { pd with name := strncpy pathMax name }
    let pd := pd.bzero
    match description with
    | none => pdNewArgs pd procpath procargs ctx heap.rest
    | some description =>
      let desclen := description.val.length + 1
      match heap.rest 0 with
      | none => none
      | some fresh =>
        let copied := strncpyTo desclen description (memoryOf desclen fresh)
        pdNewArgs { pd with description := some copied } procpath procargs ctx heap.rest.rest
  | _, _, _ => none

/-! What is in the copies. -/

theorem memoryOf_length (size : Nat) (fresh : Nat → UInt8) :
    (memoryOf size fresh).length = size := by
  rw [memoryOf, List.length_map, List.length_range]

theorem memoryOf_succ (size : Nat) (fresh : Nat → UInt8) :
    memoryOf (size + 1) fresh = memoryOf size fresh ++ [fresh size] := by
  rw [memoryOf, List.range_succ, List.map_append, List.map_singleton, memoryOf]

theorem strncpyTo_whole (text : CString) {memory : List UInt8}
    (h : memory.length = text.val.length + 1) :
    strncpyTo (text.val.length + 1) text memory = text.val ++ [0] := by
  have hbytes : (strncpy (text.val.length + 1) text).bytes = text.val ++ [0] := by
    rw [strncpy_bytes, List.take_of_length_le (Nat.le_succ _), Nat.add_sub_cancel_left]
    rfl
  rw [strncpyTo, hbytes, overlay, List.take_zero, List.nil_append, Nat.zero_add, List.length_append,
    List.length_singleton, List.drop_eq_nil_of_le (Nat.le_of_eq h), List.append_nil]

theorem strncpyTo_arg (arg : CString) (fresh : Nat → UInt8) :
    strncpyTo arg.val.length arg (memoryOf (arg.val.length + 1) fresh) =
      arg.val ++ [fresh arg.val.length] := by
  have hbytes : (strncpy arg.val.length arg).bytes = arg.val := by
    rw [strncpy_bytes, List.take_length, Nat.sub_self]
    exact List.append_nil _
  have hcopied := overlay_append [] [fresh arg.val.length]
    (show arg.val.length = (memoryOf arg.val.length fresh).length from (memoryOf_length _ _).symm)
  rw [strncpyTo, hbytes, memoryOf_succ]
  simpa using hcopied

def argsMemory : List CString → (Nat → Nat → UInt8) → List (Option (List UInt8))
  | [], _ => [none]
  | arg :: args, fresh =>
    some (arg.val ++ [fresh 0 arg.val.length]) :: argsMemory args fun i => fresh (i + 1)

theorem copyArgs_eq (args : List CString) (front : List (Option (List UInt8)))
    (fresh : Nat → Nat → UInt8) :
    copyArgs args front.length (front ++ List.replicate (args.length + 1) none) (.ofFresh fresh) =
      some (front ++ argsMemory args fresh) := by
  induction args generalizing front fresh with
  | nil => rfl
  | cons arg args ih =>
    have hset (copied : Option (List UInt8)) :
        (front ++ List.replicate ((arg :: args).length + 1) none).set front.length copied =
          (front ++ [copied]) ++ List.replicate (args.length + 1) none := by
      rw [List.length_cons, List.replicate_succ]
      simp
    have hnext := ih (front ++ [some (arg.val ++ [fresh 0 arg.val.length])]) fun i => fresh (i + 1)
    rw [List.length_append, List.length_singleton] at hnext
    rw [copyArgs, Heap.ofFresh_zero, Heap.ofFresh_rest]
    dsimp only
    rw [strncpyTo_arg, hset]
    exact hnext.trans (congrArg some (List.append_assoc _ _ _))

end

end Vmstated.Libprocwatch
