import Mathlib.Data.List.DropRight
import Vmstated.Library.Bounds
import Vmstated.Library.Directory
import Vmstated.Libtranslate.ParamTranslateCore

/-! bhyve_director.c: `bwv_linkconsoles`. Where nothing is in its way, `symlink`
does not fail. -/
namespace Vmstated.Libprocwatch
open Library Libconfig
open Libtranslate (BhyveConfigurationConsole bcclGetConsolebyidx)

inductive FileEntry where
  | file
  | symlink (target : List UInt8)
deriving DecidableEq

/-- Different paths lead to different entries. -/
abbrev FileSystem := Directory (List UInt8) FileEntry

def unlink (path : List UInt8) (fs : FileSystem) : Int × FileSystem :=
  match fs.remove path with
  | none => (-1, fs)
  | some fs => (0, fs)

def symlink (target path : List UInt8) (fs : FileSystem) : Int × FileSystem :=
  match fs.add path (.symlink target) with
  | none => (-1, fs)
  | some fs => (0, fs)

structure BackingFile where
  path : CString
  fits : path.val.length < pathMax
  slash : 47 ∈ path.val

def strrchr (byte : UInt8) (text : List UInt8) : Option Nat :=
  (text.reverse.findIdx? (· == byte)).map fun i => text.length - 1 - i

def toUpper (byte : UInt8) : UInt8 := if 97 ≤ byte && byte ≤ 122 then byte - 32 else byte

theorem toUpper_eq_iff (byte : UInt8) :
    (toUpper byte = 65 ↔ byte = 65 ∨ byte = 97) ∧ (toUpper byte = 66 ↔ byte = 66 ∨ byte = 98) := by
  unfold toUpper
  grind

def swapEnd (backendName : List UInt8) : List UInt8 :=
  let nameLen := backendName.length
  let last := toUpper (backendName.getD (nameLen - 1) 0)
  if last = 65 then backendName.set (nameLen - 1) 66
  else if last = 66 then backendName.set (nameLen - 1) 65
  else backendName

/-- Nothing is returned where the copy is from `NULL`, where it has no end in
the array, or where the byte before an empty name is read. -/
def backendName (backend : Option CString) : Option (List UInt8) :=
  match backend with
  | none => none
  | some backend =>
    (loadString (strncpy pathMax backend).bytes).bind fun backendName =>
      if backendName = [] then none else some (swapEnd backendName)

def clearFilename (path : List UInt8) : List UInt8 :=
  match strrchr 47 path with
  | none => path
  | some i => path.take (i + 1)

/-- The name gets what room is left. -/
def linkPath (file : BackingFile) (name : CString) : List UInt8 :=
  let linkPath := clearFilename file.path.val
  let nameLen := pathMax - linkPath.length - 1
  linkPath ++ name.val.take nameLen

def linkConsole (file : BackingFile) (link : Bool) (bcc : BhyveConfigurationConsole)
    (fs : FileSystem) :
    Option (Int × FileSystem) :=
  if link then
    match backendName bcc.backend, bcc.name with
    | some target, some name =>
      let (_, fs) := unlink (linkPath file name) fs
      some (symlink target (linkPath file name) fs)
    | _, _ => none
  else
    match bcc.name with
    | some name => some (unlink (linkPath file name) fs)
    | none => none

def linkConsoles (file : BackingFile) (bccl : List BhyveConfigurationConsole) (link : Bool) :
    List Nat → FileSystem → Option (Int × FileSystem)
  | [], fs => some (0, fs)
  | counter :: counters, fs =>
    match bcclGetConsolebyidx bccl counter with
    | none => linkConsoles file bccl link counters fs
    | some bcc =>
      match linkConsole file link bcc fs with
      | some (0, fs) => linkConsoles file bccl link counters fs
      | stopped => stopped

def bwvLinkconsoles (file : BackingFile) (bccl : List BhyveConfigurationConsole)
    (link : Bool) (fs : FileSystem) :
    Option (Int × FileSystem) :=
  linkConsoles file bccl link (List.range bccl.length) fs

/-! The consoles that are reached. -/

def linkEach (file : BackingFile) (link : Bool) : List BhyveConfigurationConsole → FileSystem →
    Option (Int × FileSystem)
  | [], fs => some (0, fs)
  | bcc :: bccs, fs =>
    match linkConsole file link bcc fs with
    | some (0, fs) => linkEach file link bccs fs
    | stopped => stopped

section
variable {file : BackingFile} {bccl bccs : List BhyveConfigurationConsole} {fs : FileSystem}

theorem linkConsoles_eq (link : Bool) (counters : List Nat) (fs : FileSystem) :
    linkConsoles file bccl link counters fs = linkEach file link
      (counters.filterMap (bcclGetConsolebyidx bccl)) fs := by
  induction counters generalizing fs with
  | nil => rfl
  | cons counter counters ih =>
    rw [linkConsoles, List.filterMap_cons]
    cases bcclGetConsolebyidx bccl counter with
    | none => exact ih fs
    | some bcc =>
      dsimp only
      rw [linkEach]
      split
      · exact ih _
      · rfl

theorem filterMap_range {α : Type} (items : List α) (limit : Nat) :
    (List.range items.length).filterMap (fun i => if limit ≤ i then none else items[i]?) =
      items.take limit := by
  induction items generalizing limit with
  | nil => rw [List.take_nil, List.length_nil, List.range_zero, List.filterMap_nil]
  | cons item items ih =>
    rw [List.length_cons, List.range_succ_eq_map, List.filterMap_cons, List.filterMap_map]
    cases limit with
    | zero => simp
    | succ limit =>
      have hrest := ih limit
      simp only [Function.comp_def, Nat.succ_eq_add_one, Nat.add_le_add_iff_right,
        List.getElem?_cons_succ]
      rw [if_neg (Nat.not_succ_le_zero limit), List.getElem?_cons_zero, hrest, List.take_succ_cons]

/-- The index has a limit of its own: there are never more than five. -/
theorem bwvLinkconsoles_eq (link : Bool) (fs : FileSystem) :
    bwvLinkconsoles file bccl link fs = linkEach file link (bccl.take 5) fs := by
  have hreached : bcclGetConsolebyidx bccl = fun i => if 5 ≤ i then none else bccl[i]? := rfl
  rw [bwvLinkconsoles, linkConsoles_eq, hreached, filterMap_range]

/-! What a console is linked to, and where. -/

def linkOf (file : BackingFile) (bcc : BhyveConfigurationConsole) :
    Option (List UInt8 × List UInt8) :=
  match backendName bcc.backend, bcc.name with
  | some target, some name => some (linkPath file name, target)
  | _, _ => none

def linkEntries (links : List (List UInt8 × List UInt8)) : List (List UInt8 × FileEntry) :=
  links.map fun link => (link.1, .symlink link.2)

theorem linkConsole_link (bcc : BhyveConfigurationConsole) (fs : FileSystem) :
    linkConsole file true bcc fs =
      (linkOf file bcc).map fun link =>
        (0, Function.update fs link.1 (some (.symlink link.2))) := by
  unfold linkConsole linkOf
  rw [if_pos rfl]
  split
  · rename_i target name _ _
    have hunlinked : (unlink (linkPath file name) fs).2 =
        (fs.remove (linkPath file name)).getD fs := by
      unfold unlink
      cases fs.remove (linkPath file name) <;> rfl
    have hreplaced := fs.replace_eq (linkPath file name) (.symlink target)
    rw [Directory.replace, ← hunlinked] at hreplaced
    dsimp only
    rw [symlink, hreplaced]
    rfl
  · rfl

theorem linkEach_link {links : List (List UInt8 × List UInt8)}
    (hlinks : List.Forall₂ (fun bcc link => linkOf file bcc = some link) bccs links)
    (fs : FileSystem) :
    linkEach file true bccs fs = some (0, Directory.replaceAll (linkEntries links) fs) := by
  induction hlinks generalizing fs with
  | nil => rfl
  | cons hlink _ ih =>
    rw [linkEach, linkConsole_link, hlink]
    exact ih _

theorem linkEach_link_exists {result : Int × FileSystem}
    (h : linkEach file true bccs fs = some result) :
    ∃ links, List.Forall₂ (fun bcc link => linkOf file bcc = some link) bccs links := by
  induction bccs generalizing fs with
  | nil => exact ⟨[], .nil⟩
  | cons bcc bccs ih =>
    rw [linkEach, linkConsole_link] at h
    cases hlink : linkOf file bcc with
    | none =>
      rw [hlink] at h
      cases h
    | some link =>
      rw [hlink] at h
      obtain ⟨links, hlinks⟩ := ih h
      exact ⟨link :: links, .cons hlink hlinks⟩

theorem linkConsole_unlink {bcc : BhyveConfigurationConsole} {link : List UInt8 × List UInt8}
    (hlink : linkOf file bcc = some link) (fs : FileSystem) :
    linkConsole file false bcc fs = some (unlink link.1 fs) := by
  unfold linkOf at hlink
  split at hlink
  · rename_i target name _ hname
    obtain rfl := Option.some.inj hlink
    rw [linkConsole, hname]
    rfl
  · contradiction

theorem linkEach_unlink {links : List (List UInt8 × List UInt8)}
    (hlinks : List.Forall₂ (fun bcc link => linkOf file bcc = some link) bccs links)
    (fs : FileSystem) :
    ∃ result, linkEach file false bccs fs =
      some (result, Directory.removeAll (links.map Prod.fst) fs) := by
  induction hlinks generalizing fs with
  | nil => exact ⟨0, rfl⟩
  | @cons bcc link bccs links hlink _ ih =>
    rw [linkEach, linkConsole_unlink hlink, List.map_cons, Directory.removeAll, unlink]
    cases fs.remove link.1 with
    | none => exact ⟨-1, rfl⟩
    | some fs => exact ih fs

end

/-! The path of a link. -/

theorem strrchr_append {byte : UInt8} (front : List UInt8)
    {rest : List UInt8} (hrest : byte ∉ rest) :
    strrchr byte (front ++ byte :: rest) = some front.length := by
  have hnone : rest.reverse.findIdx? (· == byte) = none := by
    rw [List.findIdx?_eq_none_iff]
    intro other hother
    have hne : other ≠ byte := fun heq => hrest (heq ▸ List.mem_reverse.mp hother)
    simpa using hne
  have hfound : (front ++ byte :: rest).reverse.findIdx? (· == byte) = some rest.length := by
    rw [List.reverse_append, List.reverse_cons, List.append_assoc, List.findIdx?_append, hnone]
    simp [List.findIdx?_cons]
  rw [strrchr, hfound, Option.map_some, List.length_append, List.length_cons]
  congr 1
  omega

theorem clearFilename_append (front : List UInt8) {rest : List UInt8} (hrest : 47 ∉ rest) :
    clearFilename (front ++ 47 :: rest) = front ++ [47] := by
  have htake : (front ++ 47 :: rest).take (front.length + 1) = front ++ [47] := by
    rw [List.take_length_add_append]
    rfl
  rw [clearFilename, strrchr_append front hrest]
  exact htake

theorem BackingFile.path_eq (file : BackingFile) :
    ∃ front rest, file.path.val = front ++ 47 :: rest ∧ 47 ∉ rest := by
  obtain ⟨rest, front, hreverse, hrest⟩ :=
    List.eq_append_cons_of_mem (List.mem_reverse.mpr file.slash)
  have hpath := congrArg List.reverse hreverse
  rw [List.reverse_reverse, List.reverse_append, List.reverse_cons, List.append_assoc] at hpath
  exact ⟨front.reverse, rest.reverse, hpath, fun hmem => hrest (List.mem_reverse.mp hmem)⟩

theorem linkPath_length (file : BackingFile) (name : CString) :
    (linkPath file name).length < pathMax := by
  obtain ⟨front, rest, hpath, hrest⟩ := file.path_eq
  have hfits := file.fits
  rw [hpath, List.length_append, List.length_cons] at hfits
  rw [linkPath, hpath, clearFilename_append front hrest]
  simp only [List.length_append, List.length_take, List.length_singleton]
  omega

theorem linkPath_eq {file : BackingFile} {name : CString}
    (hfits : (clearFilename file.path.val ++ name.val).length < pathMax) :
    linkPath file name = clearFilename file.path.val ++ name.val := by
  rw [List.length_append] at hfits
  rw [linkPath, List.take_of_length_le (by omega)]

end Vmstated.Libprocwatch
