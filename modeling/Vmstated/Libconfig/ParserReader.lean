import Vmstated.Library.Loop
import Vmstated.Library.MappedFile

/-! libconfig/parser_reader.c: the lines of a configuration file. -/
namespace Vmstated.Libconfig
open Library

abbrev Heap := Nat → (size : Nat) → Option (Vector UInt8 size)

/-- `struct parser_reader`, as the lines need it. -/
structure ParserReader where
  memory : List UInt8

/-- The result of `mmap` is not compared with `MAP_FAILED`, which it is for an
empty file. There is nothing to read there. -/
def prNew (content : List UInt8) : ParserReader := ⟨content ++ zeros (padding content)⟩

/-- `strchr`, for a byte other than zero. Nothing is left of a search that gets
to the end of the memory. -/
def strchr (byte : UInt8) : List UInt8 → Option (Option Nat)
  | [] => none
  | front :: memory =>
    if front = byte then some (some 0)
    else if front = 0 then some none
    else (strchr byte memory).map fun found => found.map (· + 1)

def prParsekeyval (_key _value : List UInt8) : Int := 0

section
variable (heap : Heap)

def prParseline (mallocs : Nat) (line : List UInt8) : Int × Nat :=
  if 61 ∈ line then
    let key := line.takeWhile (· ≠ 61)
    let value := (line.dropWhile (· ≠ 61)).tail
    if heap mallocs (key.length + 1) = none ∨ heap (mallocs + 1) (value.length + 2) =
      none then (-1, mallocs + 2)
    else (prParsekeyval key value, mallocs + 2)
  else (-1, mallocs)

/-- The variables of `pr_parsefile`, with the memory from `start` on, and the
lines that `pr_parseline` was called with. -/
structure ParseLoop where
  start : List UInt8
  linebuf : Option (List UInt8)
  linebufLen : Nat
  mallocs : Nat
  calls : List (List UInt8)

def copyLine (length : Nat) (s : ParseLoop) : Option ParseLoop :=
  match s.linebuf with
  | none => none
  | some linebuf =>
    if length < linebuf.length then
      some { s with linebuf := some (overlay 0 (s.start.take length ++ [0]) linebuf) }
    else none

def parseBuffer (length : Nat) (linebuf : List UInt8) (s : ParseLoop) :
    Option (Option Int × ParseLoop) :=
  if 0 ∉ linebuf then none
  else
    let parsed := prParseline heap s.mallocs (cString linebuf)
    let s :=
      { s with linebuf := some linebuf, mallocs := parsed.2, calls := s.calls ++ [cString linebuf] }
    if parsed.1 ≠ 0 then some (some (-1), s)
    else (copyLine length s).map fun s => (none, s)

/-- `start` stays where it is until there is no newline. -/
def parseRound (s : ParseLoop) : Option (Option Int × ParseLoop) :=
  match strchr 10 s.start with
  | none => none
  | some none => some (some 0, s)
  | some (some length) =>
    if length > s.linebufLen then
      let s' := { s with linebufLen := length * 2, mallocs := s.mallocs + 1 }
      match heap s.mallocs (length * 2) with
      | none => some (some (-1), { s' with linebuf := none })
      | some linebuf => parseBuffer heap length linebuf.toList s'
    else (copyLine length s).map fun s => (none, s)

end

def ParserReader.parseStart (pr : ParserReader) : ParseLoop := ⟨pr.memory, none, 0, 0, []⟩

def PrParsefile (heap : Heap) (pr : ParserReader) (result : Int)
    (calls : List (List UInt8)) : Prop :=
  ∃ s, Ends (parseRound heap) pr.parseStart result s ∧ s.calls = calls

/-! The search. -/

section
variable {memory line rest : List UInt8} {byte : UInt8}

theorem strchr_found (hline : byte ∉ line) (hzero : 0 ∉ line) :
    strchr byte (line ++ byte :: rest) = some (some line.length) := by
  induction line with
  | nil => rw [List.nil_append, strchr, if_pos rfl, List.length_nil]
  | cons front line ih =>
    rw [List.mem_cons, not_or] at hline hzero
    rw [List.cons_append, strchr, if_neg (Ne.symm hline.1),
      if_neg (Ne.symm hzero.1), ih hline.2 hzero.2, List.length_cons]
    rfl

theorem strchr_null (hbyte : byte ≠ 0) (hmem : 0 ∈ memory) (hnone : byte ∉ cString memory) :
    strchr byte memory = some none := by
  induction memory with
  | nil => exact absurd hmem List.not_mem_nil
  | cons front memory ih =>
    by_cases hzero : front = 0
    · subst hzero
      rw [strchr, if_neg (Ne.symm hbyte), if_pos rfl]
    · have hstring : cString (front :: memory) = front :: cString memory := by simp [cString, hzero]
      rw [hstring, List.mem_cons, not_or] at hnone
      have hrest : 0 ∈ memory := (List.mem_cons.mp hmem).resolve_left (Ne.symm hzero)
      rw [strchr, if_neg (Ne.symm hnone.1), if_neg hzero, ih hrest hnone.2]
      rfl

theorem strchr_outside (hzero : 0 ∉ memory) (hnone : byte ∉ memory) :
    strchr byte memory = none := by
  induction memory with
  | nil => rfl
  | cons front memory ih =>
    rw [List.mem_cons, not_or] at hzero hnone
    rw [strchr, if_neg (Ne.symm hnone.1), if_neg (Ne.symm hzero.1), ih hzero.2 hnone.2]
    rfl

end

/-! The lines of the file, and the first round. -/

section
variable {heap : Heap} {s t : ParseLoop} {line : List UInt8}

/-- A buffer with room for the line at `start`. -/
structure Filled (line : List UInt8) (s : ParseLoop) : Prop where
  start : strchr 10 s.start = some (some line.length)
  len : line.length ≤ s.linebufLen
  linebuf : ∃ linebuf, s.linebuf = some linebuf ∧ line.length < linebuf.length

theorem copyLine_filled (h : Filled line s) :
    ∃ t, copyLine line.length s = some t ∧ Filled line t := by
  obtain ⟨linebuf, hlinebuf, hlength⟩ := h.linebuf
  let written := s.start.take line.length ++ [0]
  have hfits : written.length ≤ line.length + 1 := by
    have htake := List.length_take_le line.length s.start
    rw [List.length_append, List.length_singleton]
    omega
  have hcopy : copyLine line.length s =
      some { s with linebuf := some (overlay 0 written linebuf) } := by
    rw [copyLine, hlinebuf]
    exact if_pos hlength
  have hroom : line.length < (overlay 0 written linebuf).length := by
    rw [overlay_length (by omega)]
    exact hlength
  exact ⟨_, hcopy, h.start, h.len, _, rfl, hroom⟩

/-- Each round copies the same line again. -/
theorem parseRound_filled (h : Filled line s) :
    ∃ t, parseRound heap s = some (none, t) ∧ Filled line t := by
  obtain ⟨t, hcopy, hfilled⟩ := copyLine_filled h
  refine ⟨t, ?_, hfilled⟩
  rw [parseRound, h.start]
  dsimp only
  rw [if_neg (Nat.not_lt.mpr h.len), hcopy]
  rfl

end

end Vmstated.Libconfig
