import Vmstated.Libconfig.ParserReader
import Vmstated.Library.Assignments

/-! Which lines of a file are parsed. -/
namespace Vmstated.Properties
open Library Libconfig

/-- The texts that a newline ends. -/
def linesOf (content : List UInt8) : List (List UInt8) := (content.splitOn 10).dropLast

def ParsesLines (heap : Heap) (content : List UInt8) : Prop :=
  ∃ result, PrParsefile heap (prNew content) result (linesOf content)

def Unbroken (content : List UInt8) : Prop :=
  10 ∉ content ∧ (0 ∈ content ∨ content.length % 4096 ≠ 0)

def Refused (heap : Heap) (mallocs : Nat) (line : List UInt8) : Prop :=
  61 ∈ line → heap mallocs ((line.takeWhile (· ≠ 61)).length + 1) = none ∨
    heap (mallocs + 1) ((line.dropWhile (· ≠ 61)).tail.length + 2) = none

/-- One line, which the new buffer happens to hold before it is copied there. -/
structure Foreseen (heap : Heap) (line rest : List UInt8) : Prop where
  nonempty : line ≠ []
  one : 10 ∉ rest
  buffer : ∃ linebuf, heap 0 (line.length * 2) = some linebuf ∧
    0 ∈ linebuf.toList ∧ cString linebuf.toList = line
  refused : Refused heap 1 line

section
variable {heap : Heap} {content line rest : List UInt8}

/-! The lines. -/

theorem linesOf_unbroken (h : 10 ∉ content) : linesOf content = [] := by
  rw [linesOf, List.splitOn_eq_singleton h]
  rfl

theorem linesOf_line (hline : 10 ∉ line) : linesOf (line ++ 10 :: rest) = line :: linesOf rest := by
  rw [linesOf, List.splitOn_append_cons_self, List.splitOn_eq_singleton hline,
    List.singleton_append, List.dropLast_cons_of_ne_nil (List.splitOn_ne_nil 10 rest), linesOf]

theorem exists_line (h : 10 ∈ cString content) :
    ∃ line rest, content = line ++ 10 :: rest ∧ 10 ∉ line ∧ 0 ∉ line := by
  obtain ⟨more, hmore⟩ : cString content <+: content := List.takeWhile_prefix _
  have hsplit := eq_firstLine_append h
  refine ⟨firstLine 10 (cString content), laterLines 10 (cString content) ++ more,
    ?_, not_mem_firstLine _, ?_⟩
  · conv_lhs => rw [← hmore, hsplit]
    rw [List.append_assoc, List.cons_append]
  · intro hzero
    have hstring : 0 ∈ cString content := by
      rw [hsplit]
      exact List.mem_append_left _ hzero
    exact cString_ne_zero content 0 hstring rfl

theorem linesOf_eq_nil : linesOf content = [] ↔ 10 ∉ content := by
  by_cases h : 10 ∈ content
  · rw [eq_firstLine_append h, linesOf_line (not_mem_firstLine content)]
    exact iff_of_false (List.cons_ne_nil _ _) (by simp)
  · exact iff_of_true (linesOf_unbroken h) h

/-! The rounds. -/

theorem prParseline_refused (mallocs : Nat) :
    (prParseline heap mallocs line).1 ≠ 0 ↔ Refused heap mallocs line := by
  unfold prParseline Refused
  split
  · rename_i hassigns
    rw [forall_prop_of_true hassigns]
    dsimp only
    split <;> simp_all [prParsekeyval]
  · rename_i hassigns
    exact iff_of_true (show ¬(-1 : Int) = 0 by decide) (fun h => absurd h hassigns)

theorem parsesLines_of_result {result : Int} {s : ParseLoop}
    (hround : parseRound heap (prNew content).parseStart = some (some result, s)) :
    ParsesLines heap content ↔ s.calls = linesOf content := by
  constructor
  · rintro ⟨_, t, hends, hcalls⟩
    obtain ⟨-, rfl⟩ := hends.of_result hround
    exact hcalls
  · exact fun hcalls => ⟨result, s, ends_of_result hround, hcalls⟩

theorem not_parsesLines_of_failure (hround : parseRound heap (prNew content).parseStart = none) :
    ¬ParsesLines heap content := by
  rintro ⟨_, _, hends, -⟩
  exact not_ends_of_failure hround hends

theorem parsesLines_of_unbroken (h : 10 ∉ cString content) :
    ParsesLines heap content ↔ Unbroken content := by
  by_cases hzero : 0 ∈ content ∨ content.length % 4096 ≠ 0
  · have hsearch : strchr 10 (content ++ zeros (padding content)) = some none := by
      apply strchr_null (by decide) (mem_padded.mpr hzero)
      rwa [cString_padded_base]
    have hround : parseRound heap (prNew content).parseStart =
        some (some 0, (prNew content).parseStart) := by
      rw [parseRound, ParserReader.parseStart, prNew]
      dsimp only
      rw [hsearch]
    rw [parsesLines_of_result hround, Unbroken, and_iff_left hzero, ← linesOf_eq_nil]
    exact eq_comm
  · have hpadded := mem_padded.not.mpr hzero
    have hnone : 10 ∉ content ++ zeros (padding content) := by
      rw [← cString_eq_self hpadded, cString_padded_base]
      exact h
    have hround : parseRound heap (prNew content).parseStart = none := by
      rw [parseRound, ParserReader.parseStart, prNew]
      dsimp only
      rw [strchr_outside hpadded hnone]
    exact iff_of_false (not_parsesLines_of_failure hround) fun hunbroken => hzero hunbroken.2

section
variable (hcontent : content = line ++ 10 :: rest) (hnewline : 10 ∉ line) (hzero : 0 ∉ line)
include hcontent hnewline hzero

theorem strchr_line : strchr 10 (prNew content).parseStart.start = some (some line.length) := by
  rw [ParserReader.parseStart, prNew, hcontent, List.append_assoc, List.cons_append]
  exact strchr_found hnewline hzero

theorem line_nonempty (hparses : ParsesLines heap content) : line ≠ [] := by
  rintro rfl
  refine not_parsesLines_of_failure ?_ hparses
  rw [parseRound, strchr_line hcontent hnewline hzero]
  rfl

theorem line_buffer (hparses : ParsesLines heap content) : heap 0 (line.length * 2) ≠ none := by
  intro hnone
  have hlength := List.length_pos_iff.mpr (line_nonempty hcontent hnewline hzero hparses)
  have hround : parseRound heap (prNew content).parseStart =
      some (some (-1),
        { (prNew content).parseStart with linebufLen := line.length * 2, mallocs := 1 }) := by
    rw [parseRound, strchr_line hcontent hnewline hzero]
    refine (if_pos hlength).trans ?_
    dsimp only [ParserReader.parseStart]
    rw [hnone]
  rw [parsesLines_of_result hround, hcontent, linesOf_line hnewline] at hparses
  exact List.cons_ne_nil _ _ hparses.symm

theorem parsesLines_of_buffer (hne : line ≠ []) {linebuf : Vector UInt8 (line.length * 2)}
    (hbuffer : heap 0 (line.length * 2) = some linebuf) : ParsesLines heap content ↔
      0 ∈ linebuf.toList ∧ Refused heap 1 (cString linebuf.toList) ∧
        cString linebuf.toList = line ∧ 10 ∉ rest := by
  have hlength : 0 < line.length := List.length_pos_iff.mpr hne
  let allocated : ParseLoop :=
    { (prNew content).parseStart with linebufLen := line.length * 2, mallocs := 1 }
  let parsed : ParseLoop := { allocated with
    linebuf := some linebuf.toList
    mallocs := (prParseline heap 1 (cString linebuf.toList)).2
    calls := [cString linebuf.toList] }
  have hround : parseRound heap (prNew content).parseStart =
      parseBuffer heap line.length linebuf.toList allocated := by
    rw [parseRound, strchr_line hcontent hnewline hzero]
    refine (if_pos hlength).trans ?_
    dsimp only [ParserReader.parseStart]
    rw [hbuffer]
    rfl
  by_cases hend : 0 ∈ linebuf.toList
  · rw [parseBuffer, if_neg (not_not.mpr hend)] at hround
    rw [and_iff_right hend]
    by_cases hrefused : Refused heap 1 (cString linebuf.toList)
    · have hresult : parseRound heap (prNew content).parseStart = some (some (-1), parsed) :=
        hround.trans (if_pos ((prParseline_refused 1).mpr hrefused))
      rw [and_iff_right hrefused, parsesLines_of_result hresult,
        hcontent, linesOf_line hnewline, List.cons.injEq, ← linesOf_eq_nil]
      exact and_congr_right fun _ => eq_comm
    · have hagain : parseRound heap (prNew content).parseStart =
          (copyLine line.length parsed).map fun s => (none, s) :=
        hround.trans (if_neg ((prParseline_refused 1).not.mpr hrefused))
      have hroom : line.length < linebuf.toList.length := by
        rw [Vector.length_toList]
        omega
      have hfilled : Filled line parsed :=
        ⟨strchr_line hcontent hnewline hzero, Nat.le_mul_of_pos_right _ (by decide), _, rfl, hroom⟩
      obtain ⟨t, hcopy, ht⟩ := copyLine_filled hfilled
      rw [hcopy] at hagain
      refine iff_of_false ?_ (fun h => hrefused h.1)
      rintro ⟨_, u, hends, -⟩
      exact not_ends_of_round (fun s hs => parseRound_filled hs) hagain ht hends
  · rw [parseBuffer, if_pos hend] at hround
    exact iff_of_false (not_parsesLines_of_failure hround) fun h => hend h.1

theorem parsesLines_of_line : ParsesLines heap content ↔ Foreseen heap line rest := by
  constructor
  · intro hparses
    have hne := line_nonempty hcontent hnewline hzero hparses
    obtain ⟨linebuf, hbuffer⟩ :=
      Option.ne_none_iff_exists'.mp (line_buffer hcontent hnewline hzero hparses)
    obtain ⟨hend, hrefused, htext, hone⟩ :=
      (parsesLines_of_buffer hcontent hnewline hzero hne hbuffer).mp hparses
    rw [htext] at hrefused
    exact ⟨hne, hone, ⟨linebuf, hbuffer, hend, htext⟩, hrefused⟩
  · rintro ⟨hne, hone, ⟨linebuf, hbuffer, hend, htext⟩, hrefused⟩
    rw [← htext] at hrefused
    exact (parsesLines_of_buffer hcontent hnewline hzero hne hbuffer).mpr
      ⟨hend, hrefused, htext, hone⟩

end

end

/-- There is no line, or the one line is refused before it is read. -/
theorem parsesLines_iff (heap : Heap) (content : List UInt8) : ParsesLines heap content ↔
    Unbroken content ∨
      ∃ line rest, content = line ++ 10 :: rest ∧ 10 ∉ line ∧
        0 ∉ line ∧ Foreseen heap line rest := by
  by_cases hbroken : 10 ∈ cString content
  · have hmem : 10 ∈ content := (List.takeWhile_prefix _).subset hbroken
    rw [or_iff_right fun hunbroken : Unbroken content => hunbroken.1 hmem]
    constructor
    · intro hparses
      obtain ⟨line, rest, hcontent, hnewline, hzero⟩ := exists_line hbroken
      exact ⟨line, rest, hcontent, hnewline, hzero,
        (parsesLines_of_line hcontent hnewline hzero).mp hparses⟩
    · rintro ⟨line, rest, hcontent, hnewline, hzero, hforeseen⟩
      exact (parsesLines_of_line hcontent hnewline hzero).mpr hforeseen
  · rw [parsesLines_of_unbroken hbroken]
    refine (or_iff_left ?_).symm
    rintro ⟨line, rest, rfl, -, hzero, -⟩
    rw [cString_append_of_not_mem hzero, List.mem_append, not_or] at hbroken
    exact hbroken.2 List.mem_cons_self

theorem not_parsesLines : ¬∀ (heap : Heap) (content : List UInt8), ParsesLines heap content := by
  intro hall
  have hparses := hall (fun _ size => some (Vector.replicate size 0)) (ascii "a=1\nb=2\n")
  have hcontent : ascii "a=1\nb=2\n" = ascii "a=1" ++ 10 :: ascii "b=2\n" := by decide
  rw [parsesLines_of_line hcontent (by decide) (by decide)] at hparses
  exact absurd hparses.one (by decide)

end Vmstated.Properties
