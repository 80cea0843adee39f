import Mathlib.Data.List.TakeWhile
import Mathlib.Tactic.Common

/-! Texts made of lines, some of which assign a value to a key. -/
namespace Vmstated.Library

section
variable {α : Type} [DecidableEq α] (nl eq : α)

/-- `key=value`; the key ends where the sign is first found. -/
def assignment (line : List α) : Option (List α × List α) :=
  if eq ∈ line then some (line.takeWhile (· ≠ eq), (line.dropWhile (· ≠ eq)).tail) else none

/-- Lines without the sign assign nothing. -/
def assignments (text : List α) : List (List α × List α) :=
  (text.splitOn nl).filterMap (assignment eq)

def firstLine (text : List α) : List α := text.takeWhile (· ≠ nl)

def laterLines (text : List α) : List α := (text.dropWhile (· ≠ nl)).tail

theorem assignments_append (front rest : List α) :
    assignments nl eq (front ++ nl :: rest) = assignments nl eq front ++
      assignments nl eq rest := by
  unfold assignments
  rw [List.splitOn_append_cons_self, List.filterMap_append]

@[simp] theorem assignments_nil : assignments nl eq [] = [] := rfl

variable {nl eq}

theorem eq_firstLine_append {text : List α} (h : nl ∈ text) :
    text = firstLine nl text ++ nl :: laterLines nl text := by
  have hsplit := List.takeWhile_append_dropWhile (p := (· ≠ nl)) (l := text)
  have hne : text.dropWhile (· ≠ nl) ≠ [] := by
    intro hnil
    rw [List.dropWhile_eq_nil_iff] at hnil
    exact absurd (hnil nl h) (by simp)
  have hhead : (text.dropWhile (· ≠ nl)).head hne = nl := by
    simpa using List.head_dropWhile_not (· ≠ nl) hne
  conv_lhs => rw [← hsplit, ← List.cons_head_tail hne, hhead]
  rfl

theorem not_mem_firstLine (text : List α) : nl ∉ firstLine nl text := by
  intro hmem
  have h := List.mem_takeWhile_imp hmem
  simp at h

theorem firstLine_of_not_mem {text : List α} (h : nl ∉ text) : firstLine nl text = text := by
  unfold firstLine
  rw [List.takeWhile_eq_self_iff]
  intro x hx
  have hne : x ≠ nl := fun heq => h (heq ▸ hx)
  simpa using hne

theorem laterLines_of_not_mem {text : List α} (h : nl ∉ text) : laterLines nl text = [] := by
  have hdrop : text.dropWhile (· ≠ nl) = [] := by
    rw [List.dropWhile_eq_nil_iff]
    intro x hx
    have hne : x ≠ nl := fun heq => h (heq ▸ hx)
    simpa using hne
  rw [laterLines, hdrop, List.tail_nil]

/-- A text is read back as one line only if it is one. -/
theorem firstLine_eq_self_iff {text : List α} : firstLine nl text = text ↔ nl ∉ text := by
  constructor
  · intro h
    rw [← h]
    exact not_mem_firstLine text
  · exact firstLine_of_not_mem

theorem assignment_pair {key : List α} (hkey : eq ∉ key) (value : List α) :
    assignment eq (key ++ eq :: value) = some (key, value) := by
  have htake : ∀ x ∈ key, decide (x ≠ eq) = true := by
    intro x hx
    have hne : x ≠ eq := fun heq => hkey (heq ▸ hx)
    simpa using hne
  unfold assignment
  rw [if_pos (by simp), List.takeWhile_append_of_pos htake, List.dropWhile_append_of_pos htake]
  simp

/-- A value brings the lines after its first one along. -/
theorem assignments_pair (hne : nl ≠ eq) {key : List α}
    (hline : nl ∉ key) (hkey : eq ∉ key) (value : List α) :
    assignments nl eq (key ++ eq :: value) =
      (key, firstLine nl value) :: assignments nl eq (laterLines nl value) := by
  have hone {rest : List α} (hrest : nl ∉ rest) :
      assignments nl eq (key ++ eq :: rest) = [(key, rest)] := by
    have hmem : nl ∉ key ++ eq :: rest := by simp [hline, hne, hrest]
    rw [assignments, List.splitOn_eq_singleton hmem, List.filterMap_cons, assignment_pair hkey]
    rfl
  by_cases hvalue : nl ∈ value
  · have hsplit : key ++ eq :: value = (key ++ eq :: firstLine nl value) ++
      nl :: laterLines nl value := by
      rw [List.append_assoc, List.cons_append, ← eq_firstLine_append hvalue]
    rw [hsplit, assignments_append, hone (not_mem_firstLine value)]
    rfl
  · rw [hone hvalue, firstLine_of_not_mem hvalue, laterLines_of_not_mem hvalue]
    rfl

theorem assignments_lines (lines : List (List α)) :
    assignments nl eq (lines.flatMap fun line => line ++ [nl]) =
      lines.flatMap (assignments nl eq) := by
  induction lines with
  | nil => rfl
  | cons line lines ih =>
    rw [List.flatMap_cons, List.append_assoc, List.singleton_append,
      assignments_append, ih, List.flatMap_cons]

end

/-! The last assignment wins. -/

section
variable {κ ν : Type} [DecidableEq κ]

def lastValue (key : κ) : List (κ × ν) → Option ν
  | [] => none
  | pair :: pairs => (lastValue key pairs).or (if pair.1 = key then some pair.2 else none)

variable {key : κ} {pairs : List (κ × ν)}

theorem lastValue_append (front rest : List (κ × ν)) :
    lastValue key (front ++ rest) = (lastValue key rest).or (lastValue key front) := by
  induction front with
  | nil => rw [List.nil_append, lastValue, Option.or_none]
  | cons pair front ih => rw [List.cons_append, lastValue, ih, lastValue, Option.or_assoc]

theorem lastValue_eq_none : (∀ pair ∈ pairs, pair.1 ≠ key) → lastValue key pairs = none := by
  intro h
  induction pairs with
  | nil => rfl
  | cons pair pairs ih =>
    rw [lastValue, ih fun other hother => h other (List.mem_cons_of_mem pair hother),
      if_neg (h pair List.mem_cons_self)]
    rfl

end

/-! Lines that are added in front of the ones before: the first one counts. -/

section
variable {α : Type} [DecidableEq α] (nl eq : α)

/-- What the line for an entry assigns to the key. -/
def entryValue (key : List α) (entry : List α × List α) : Option (List α) :=
  (lastValue key (assignments nl eq (laterLines nl entry.2))).or
    (if entry.1 = key then some (firstLine nl entry.2) else none)

def firstSet (key : List α) (entries : List (List α × List α)) : Option (List α) :=
  entries.foldr (fun entry rest => (entryValue nl eq key entry).or rest) none

variable {nl eq} {key : List α}

@[simp] theorem firstSet_nil : firstSet nl eq key [] = none := rfl

@[simp] theorem firstSet_cons (entry : List α × List α) (entries : List (List α × List α)) :
    firstSet nl eq key (entry :: entries) = (entryValue nl eq key entry).or
      (firstSet nl eq key entries) := rfl

@[simp] theorem firstSet_append (entries more : List (List α × List α)) :
    firstSet nl eq key (entries ++ more) = (firstSet nl eq key entries).or
      (firstSet nl eq key more) := by
  induction entries with
  | nil => rw [List.nil_append, firstSet_nil, Option.none_or]
  | cons entry entries ih =>
    rw [List.cons_append, firstSet_cons, ih, firstSet_cons, Option.or_assoc]

theorem entryValue_of_not_mem (name : List α) {value : List α} (hvalue : nl ∉ value) :
    entryValue nl eq key (name, value) = if name = key then some value else none := by
  rw [entryValue, laterLines_of_not_mem hvalue, firstLine_of_not_mem hvalue, assignments_nil]
  rfl

theorem entryValue_of_ne {name : List α} (hname : name ≠ key) (value : List α) :
    entryValue nl eq key (name, value) = lastValue key
      (assignments nl eq (laterLines nl value)) := by
  rw [entryValue, if_neg hname, Option.or_none]

theorem lastValue_assignment (hne : nl ≠ eq) {entry : List α × List α} (hline : nl ∉ entry.1)
    (hkey : eq ∉ entry.1) : lastValue key (assignments nl eq (entry.1 ++ eq :: entry.2)) =
      entryValue nl eq key entry := by
  rw [assignments_pair hne hline hkey, lastValue]
  rfl

theorem lastValue_reverse (hne : nl ≠ eq) {entries : List (List α × List α)}
    (hkeys : ∀ entry ∈ entries, nl ∉ entry.1 ∧ eq ∉ entry.1) :
    lastValue key
      ((entries.map fun entry => entry.1 ++ eq :: entry.2).reverse.flatMap (assignments nl eq)) =
      firstSet nl eq key entries := by
  induction entries with
  | nil => rfl
  | cons entry entries ih =>
    rw [List.forall_mem_cons] at hkeys
    rw [List.map_cons, List.reverse_cons, List.flatMap_append, lastValue_append, ih hkeys.2,
      List.flatMap_singleton, lastValue_assignment hne hkeys.1.1 hkeys.1.2, firstSet_cons]

end

end Vmstated.Library
