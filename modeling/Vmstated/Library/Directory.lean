import Mathlib.Data.List.Nodup
import Mathlib.Logic.Function.Basic
import Vmstated.Library.Assignments

/-! A directory whose entries are replaced one after the other, and then removed
one after the other, until one is missing. -/
namespace Vmstated.Library

abbrev Directory (κ ν : Type) := κ → Option ν

namespace Directory
variable {κ ν : Type} [DecidableEq κ]

/-- There has to be an entry. -/
def remove (directory : Directory κ ν) (key : κ) : Option (Directory κ ν) :=
  if (directory key).isSome then some (Function.update directory key none) else none

/-- There must not be an entry yet. -/
def add (directory : Directory κ ν) (key : κ) (value : ν) : Option (Directory κ ν) :=
  if (directory key).isSome then none else some (Function.update directory key (some value))

def replace (directory : Directory κ ν) (key : κ) (value : ν) : Option (Directory κ ν) :=
  ((directory.remove key).getD directory).add key value

def replaceAll (entries : List (κ × ν)) (directory : Directory κ ν) : Directory κ ν :=
  entries.foldl (fun directory entry => Function.update directory entry.1 (some entry.2)) directory

/-- It ends at the first key without an entry. -/
def removeAll : List κ → Directory κ ν → Directory κ ν
  | [], directory => directory
  | key :: keys, directory =>
    match directory.remove key with
    | none => directory
    | some directory => removeAll keys directory

variable {directory : Directory κ ν} {key : κ} {keys : List κ}

theorem remove_of_missing (h : directory key = none) : directory.remove key = none := by
  rw [remove, h]
  exact if_neg Bool.false_ne_true

theorem remove_of_present (h : directory key ≠ none) :
    directory.remove key = some (Function.update directory key none) :=
  if_pos (Option.isSome_iff_ne_none.mpr h)

theorem replace_eq (directory : Directory κ ν) (key : κ) (value : ν) :
    directory.replace key value = some (Function.update directory key (some value)) := by
  rw [replace]
  by_cases hpresent : directory key = none
  · rw [remove_of_missing hpresent, Option.getD_none, add, hpresent]
    exact if_neg Bool.false_ne_true
  · rw [remove_of_present hpresent, Option.getD_some, add,
      Function.update_self, Function.update_idem]
    exact if_neg Bool.false_ne_true

theorem replaceAll_apply (entries : List (κ × ν)) (directory : Directory κ ν) (key : κ) :
    replaceAll entries directory key = (lastValue key entries).or (directory key) := by
  induction entries generalizing directory with
  | nil => rfl
  | cons entry entries ih =>
    have hrest := ih (Function.update directory entry.1 (some entry.2))
    rw [replaceAll, List.foldl_cons]
    rw [replaceAll] at hrest
    rw [hrest, lastValue, Option.or_assoc]
    congr 1
    by_cases hkey : entry.1 = key
    · rw [← hkey, Function.update_self, if_pos rfl, Option.some_or]
    · rw [Function.update_of_ne (Ne.symm hkey), if_neg hkey, Option.none_or]

theorem mem_of_lastValue {entries : List (κ × ν)} {value : ν}
    (h : lastValue key entries = some value) :
    (key, value) ∈ entries := by
  induction entries with
  | nil => cases h
  | cons entry entries ih =>
    rw [lastValue] at h
    rcases Option.or_eq_some_iff.mp h with hlater | ⟨-, hfirst⟩
    · exact List.mem_cons_of_mem entry (ih hlater)
    · obtain ⟨hkey, hvalue⟩ := Option.ite_none_right_eq_some.mp hfirst
      rw [← hkey, ← Option.some.inj hvalue]
      exact List.mem_cons_self

theorem lastValue_map {μ : Type} (f : ν → μ) (entries : List (κ × ν)) :
    lastValue key (entries.map fun entry => (entry.1, f entry.2)) =
      (lastValue key entries).map f := by
  induction entries with
  | nil => rfl
  | cons entry entries ih =>
    rw [List.map_cons, lastValue, ih, lastValue, Option.map_or]
    split <;> rfl

theorem removeAll_of_missing (h : directory key = none) : removeAll keys directory key = none := by
  induction keys generalizing directory with
  | nil => exact h
  | cons other keys ih =>
    by_cases hpresent : directory other = none
    · rw [removeAll, remove_of_missing hpresent]
      exact h
    · rw [removeAll, remove_of_present hpresent]
      apply ih
      rcases eq_or_ne key other with rfl | hne
      · exact Function.update_self _ _ _
      · rw [Function.update_of_ne hne, h]

theorem removeAll_fresh {fresh rest : List κ} (hnodup : fresh.Nodup)
    (hpresent : ∀ key ∈ fresh, directory key ≠ none) :
    ∀ key ∈ fresh, removeAll (fresh ++ rest) directory key = none := by
  induction fresh generalizing directory with
  | nil => exact fun key hkey => absurd hkey List.not_mem_nil
  | cons first fresh ih =>
    rw [List.nodup_cons] at hnodup
    rw [List.cons_append, removeAll, remove_of_present (hpresent first List.mem_cons_self)]
    dsimp only
    have hlater : ∀ key ∈ fresh, Function.update directory first none key ≠ none := by
      intro key hkey
      rw [Function.update_of_ne (ne_of_mem_of_not_mem hkey hnodup.1)]
      exact hpresent key (List.mem_cons_of_mem first hkey)
    intro key hkey
    rcases List.mem_cons.mp hkey with rfl | hrest
    · exact removeAll_of_missing (Function.update_self _ _ _)
    · exact ih hnodup.2 hlater key hrest

theorem removeAll_split (keys : List κ) (directory : Directory κ ν) :
    ∃ fresh rest, keys = fresh ++ rest ∧ fresh.Nodup ∧ (∀ key ∈ fresh, directory key ≠ none) ∧
      ∀ key ∉ fresh, removeAll keys directory key = directory key := by
  induction keys generalizing directory with
  | nil => exact ⟨[], [], rfl, List.nodup_nil, by simp, fun _ _ => rfl⟩
  | cons first keys ih =>
    by_cases hfirst : directory first = none
    · refine ⟨[], first :: keys, rfl, List.nodup_nil, by simp, fun key _ => ?_⟩
      rw [removeAll, remove_of_missing hfirst]
    · obtain ⟨fresh, rest, hkeys, hnodup, hpresent, hkept⟩ :=
        ih (Function.update directory first none)
      have hnew : first ∉ fresh := fun hmem => hpresent first hmem (Function.update_self _ _ _)
      refine ⟨first :: fresh, rest,
        by rw [hkeys, List.cons_append], List.nodup_cons.mpr ⟨hnew, hnodup⟩, ?_, ?_⟩
      · refine List.forall_mem_cons.mpr ⟨hfirst, fun key hkey => ?_⟩
        have hlater := hpresent key hkey
        rwa [Function.update_of_ne (ne_of_mem_of_not_mem hkey hnew)] at hlater
      · intro key hkey
        rw [List.mem_cons, not_or] at hkey
        rw [removeAll, remove_of_present hfirst]
        exact (hkept key hkey.2).trans (Function.update_of_ne hkey.1 _ _)

/-- All keys are gone only if, from the first repeated one on, there are none
that did not come before. -/
theorem removeAll_iff (hpresent : ∀ key ∈ keys, directory key ≠ none) :
    (∀ key ∈ keys, removeAll keys directory key = none) ↔
      ∃ fresh rest, keys = fresh ++ rest ∧ fresh.Nodup ∧ rest ⊆ fresh := by
  constructor
  · intro hgone
    obtain ⟨fresh, rest, hkeys, hnodup, -, hkept⟩ := removeAll_split keys directory
    refine ⟨fresh, rest, hkeys, hnodup, fun key hrest => ?_⟩
    by_contra hnew
    have hmem : key ∈ keys := hkeys ▸ List.mem_append_right fresh hrest
    exact hpresent key hmem ((hkept key hnew).symm.trans (hgone key hmem))
  · rintro ⟨fresh, rest, rfl, hnodup, hsubset⟩ key hkey
    apply removeAll_fresh hnodup fun key hkey => hpresent key (List.mem_append_left rest hkey)
    exact (List.mem_append.mp hkey).elim id fun hrest => hsubset hrest

end Directory

end Vmstated.Library
