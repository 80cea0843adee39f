import Mathlib.Data.List.AList
import Mathlib.Tactic.Common

/-! Processes, and the descriptors by which they refer to open files. -/
namespace Vmstated.Library

structure OpenFile (φ : Type) where
  file : φ
  closeOnExec : Bool

abbrev DescriptorTable (φ : Type) := AList fun _ : Nat => OpenFile φ

structure Processes (φ : Type) where
  tables : AList fun _ : Nat => DescriptorTable φ

namespace Processes
variable {φ : Type}

def opened (pid fd : Nat) (processes : Processes φ) : Option (OpenFile φ) :=
  (processes.tables.lookup pid).bind fun table => table.lookup fd

/-- Some process has a descriptor of the file. -/
def refers [DecidableEq φ] (file : φ) (processes : Processes φ) : Bool :=
  processes.tables.entries.any fun process => process.2.entries.any fun entry => entry.2.file = file

def update (pid : Nat) (change : DescriptorTable φ → DescriptorTable φ) (processes : Processes φ) :
    Processes φ :=
  match processes.tables.lookup pid with
  | none => processes
  | some table => ⟨processes.tables.insert pid (change table)⟩

def «open» (pid fd : Nat) (opened : OpenFile φ) : Processes φ → Processes φ :=
  update pid (AList.insert fd opened)

def close (pid fd : Nat) : Processes φ → Processes φ := update pid (AList.erase fd)

def dup2 (pid old new : Nat) (processes : Processes φ) : Processes φ :=
  match processes.opened pid old with
  | none => processes
  | some opened => processes.open pid new ⟨opened.file, false⟩

/-- The child has the descriptors of its parent. -/
def fork (pid child : Nat) (processes : Processes φ) : Processes φ :=
  match processes.tables.lookup pid with
  | none => processes
  | some table => ⟨processes.tables.insert child table⟩

def execve (pid : Nat) : Processes φ → Processes φ :=
  update pid fun table =>
    ⟨table.entries.filter fun entry => !entry.2.closeOnExec,
      table.nodupKeys.sublist List.filter_sublist⟩

def exit (pid : Nat) (processes : Processes φ) : Processes φ := ⟨processes.tables.erase pid⟩

section
variable {processes : Processes φ} {pid other fd fd' : Nat}

theorem refers_iff [DecidableEq φ] {file : φ} : processes.refers file = true ↔
    ∃ pid fd closeOnExec, processes.opened pid fd = some ⟨file, closeOnExec⟩ := by
  simp only [refers, List.any_eq_true, decide_eq_true_eq,
    Sigma.exists, opened, Option.bind_eq_some_iff]
  constructor
  · rintro ⟨pid, table, htable, fd, ⟨file', closeOnExec⟩, hopened, rfl⟩
    exact ⟨pid, fd, closeOnExec, table, AList.mem_lookup_iff.mpr htable,
      AList.mem_lookup_iff.mpr hopened⟩
  · rintro ⟨pid, fd, closeOnExec, table, htable, hopened⟩
    exact ⟨pid, table, AList.mem_lookup_iff.mp htable, fd, _, AList.mem_lookup_iff.mp hopened, rfl⟩

theorem update_other (hother : other ≠ pid) (change : DescriptorTable φ → DescriptorTable φ) :
    (processes.update pid change).opened other fd = processes.opened other fd := by
  unfold update
  split
  · rfl
  · unfold opened
    dsimp only
    rw [AList.lookup_insert_ne hother]

theorem update_self (change : DescriptorTable φ → DescriptorTable φ) :
    (processes.update pid change).opened pid fd =
      (processes.tables.lookup pid).bind fun table => (change table).lookup fd := by
  unfold update
  split
  · rename_i hnone
    rw [opened, hnone]
    rfl
  · rename_i table htable
    rw [opened, htable]
    dsimp only
    rw [AList.lookup_insert]
    rfl

theorem close_opened : (processes.close pid fd).opened other fd' =
    if other = pid ∧ fd' = fd then none else processes.opened other fd' := by
  unfold close
  by_cases hother : other = pid
  · subst hother
    rw [update_self]
    by_cases hfd : fd' = fd
    · subst hfd
      rw [if_pos ⟨rfl, rfl⟩]
      cases processes.tables.lookup other with
      | none => rfl
      | some table => exact AList.lookup_erase ..
    · rw [if_neg fun h => hfd h.2, opened]
      congr
      funext table
      exact AList.lookup_erase_ne hfd
  · rw [update_other hother, if_neg fun h => hother h.1]

theorem open_opened {file : OpenFile φ} : (processes.open pid fd file).opened other fd' =
    if other = pid ∧ fd' = fd then (processes.tables.lookup pid).map (fun _ => file)
    else processes.opened other fd' := by
  unfold «open»
  by_cases hother : other = pid
  · subst hother
    rw [update_self]
    by_cases hfd : fd' = fd
    · subst hfd
      rw [if_pos ⟨rfl, rfl⟩]
      cases processes.tables.lookup other with
      | none => rfl
      | some table => exact AList.lookup_insert ..
    · rw [if_neg fun h => hfd h.2, opened]
      congr
      funext table
      exact AList.lookup_insert_ne hfd
  · rw [update_other hother, if_neg fun h => hother h.1]

theorem exit_opened : (processes.exit pid).opened other fd = if other = pid then none
    else processes.opened other fd := by
  unfold exit opened
  by_cases hother : other = pid
  · subst hother
    rw [if_pos rfl, AList.lookup_erase]
    rfl
  · rw [if_neg hother, AList.lookup_erase_ne hother]

end

/-! What leaves a process alone, and opens nothing. -/

structure Spares (pid : Nat) (before after : Processes φ) : Prop where
  table : after.tables.lookup pid = before.tables.lookup pid
  opens_nothing : ∀ other fd opened, after.opened other fd = some opened →
    ∃ other fd old, before.opened other fd = some old ∧ old.file = opened.file

section
variable {pid other child fd old new : Nat} {before mid after processes : Processes φ}

theorem Spares.opened (h : Spares pid before after) (fd : Nat) :
    after.opened pid fd = before.opened pid fd := by
  unfold Processes.opened
  rw [h.table]

theorem spares_refl : Spares pid before before :=
  ⟨rfl, fun other fd opened hopened => ⟨other, fd, opened, hopened, rfl⟩⟩

theorem Spares.trans (h : Spares pid before mid) (h' : Spares pid mid after) :
    Spares pid before after := by
  refine ⟨h'.table.trans h.table, ?_⟩
  intro other fd opened hopened
  obtain ⟨other, fd, old, hmid, hfile⟩ := h'.opens_nothing other fd opened hopened
  obtain ⟨other, fd, older, hbefore, hfile'⟩ := h.opens_nothing other fd old hmid
  exact ⟨other, fd, older, hbefore, hfile'.trans hfile⟩

theorem Spares.refers [DecidableEq φ] (h : Spares pid before after)
    {file : φ} (hafter : after.refers file = true) :
    before.refers file = true := by
  rw [refers_iff] at hafter ⊢
  obtain ⟨other, fd, closeOnExec, hopened⟩ := hafter
  obtain ⟨other, fd, ⟨file', closeOnExec'⟩, hbefore, rfl⟩ := h.opens_nothing other fd _ hopened
  exact ⟨other, fd, closeOnExec', hbefore⟩

theorem spares_update (hother : other ≠ pid) {change : DescriptorTable φ → DescriptorTable φ}
    (hchange : ∀ table fd opened, (change table).lookup fd = some opened →
      ∃ fd old, table.lookup fd = some old ∧ old.file = opened.file) :
    Spares pid processes (processes.update other change) := by
  constructor
  · unfold update
    split
    · rfl
    · exact AList.lookup_insert_ne hother.symm
  · intro third fd opened hopened
    by_cases hthird : third = other
    · subst hthird
      rw [update_self, Option.bind_eq_some_iff] at hopened
      obtain ⟨table, htable, hlookup⟩ := hopened
      obtain ⟨fd, old, hold, hfile⟩ := hchange table fd opened hlookup
      refine ⟨third, fd, old, ?_, hfile⟩
      rw [Processes.opened, htable]
      exact hold
    · rw [update_other hthird] at hopened
      exact ⟨third, fd, opened, hopened, rfl⟩

theorem spares_close (hother : other ≠ pid) : Spares pid processes (processes.close other fd) := by
  apply spares_update hother
  intro table fd' opened hopened
  by_cases hfd : fd' = fd
  · rw [hfd, AList.lookup_erase] at hopened
    cases hopened
  · rw [AList.lookup_erase_ne hfd] at hopened
    exact ⟨fd', opened, hopened, rfl⟩

theorem spares_execve (hother : other ≠ pid) : Spares pid processes (processes.execve other) := by
  apply spares_update hother
  intro table fd opened hopened
  have hmem := AList.mem_lookup_iff.mp hopened
  exact ⟨fd, opened, AList.mem_lookup_iff.mpr (List.mem_filter.mp hmem).1, rfl⟩

theorem spares_dup2 (hother : other ≠ pid) :
    Spares pid processes (processes.dup2 other old new) := by
  unfold dup2
  split
  · exact spares_refl
  · rename_i opened hopened
    constructor
    · unfold «open» update
      split
      · rfl
      · exact AList.lookup_insert_ne hother.symm
    · intro third fd after hafter
      rw [open_opened] at hafter
      split at hafter
      · rename_i hsame
        rw [Option.map_eq_some_iff] at hafter
        obtain ⟨table, -, rfl⟩ := hafter
        exact ⟨other, old, opened, hopened, rfl⟩
      · exact ⟨third, fd, after, hafter, rfl⟩

theorem spares_fork (hchild : child ≠ pid) : Spares pid processes (processes.fork other child) := by
  unfold fork
  split
  · exact spares_refl
  · rename_i table htable
    constructor
    · exact AList.lookup_insert_ne hchild.symm
    · intro third fd opened hopened
      unfold Processes.opened at hopened ⊢
      by_cases hthird : third = child
      · rw [hthird, AList.lookup_insert] at hopened
        refine ⟨other, fd, opened, ?_, rfl⟩
        rw [htable]
        exact hopened
      · rw [AList.lookup_insert_ne hthird] at hopened
        exact ⟨third, fd, opened, hopened, rfl⟩

theorem spares_exit (hother : other ≠ pid) : Spares pid processes (processes.exit other) := by
  constructor
  · exact AList.lookup_erase_ne hother.symm
  · intro third fd opened hopened
    rw [exit_opened] at hopened
    split at hopened
    · cases hopened
    · exact ⟨third, fd, opened, hopened, rfl⟩

end

end Processes

end Vmstated.Library
