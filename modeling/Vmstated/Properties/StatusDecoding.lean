import Vmstated.Libcommand.VmInfoFaults

/-! Status data that comes from anywhere. -/
namespace Vmstated.Properties
open Library Libcommand

section
variable (nv : Libnv) (nvl : nv.Nvlist)

/-- All pieces are there, as many lengths as `vm_count` says, and each record
is inside the binary. -/
def Consistent : Prop :=
  ∃ count lengths buffer, nv.get nvl (ascii "vm_count") = some (.number count) ∧
    nv.get nvl (ascii "vm_infos.lengths") = some (.numberArray lengths) ∧
    nv.get nvl (ascii "vm_infos") = some (.binary buffer) ∧
    lengths.length = count.toNat ∧ ∀ k < lengths.length, Inside buffer lengths k

/-- What is inconsistent is an error, and no record is read outside the binary. -/
structure DecodesRobustly : Prop where
  refused : ¬Consistent nv nvl → ∃ bvmmi, bvmmiDecodenvlist nv nvl = some (-1, bvmmi)
  inside : bvmmiDecodenvlistChecked nv nvl ≠ .error .outside

/-- The assertions hold, of which the sum is modulo `2 ^ 64`, and a record that is
inside is no list. -/
def StopsInside : Prop :=
  ∃ lengths buffer, nv.get nvl (ascii "vm_infos.lengths") = some (.numberArray lengths) ∧
    nv.get nvl (ascii "vm_infos") = some (.binary buffer) ∧
    lengths.length = vmCountOf nv nvl ∧ sizeT (lengths.map UInt64.toNat).sum = buffer.length ∧
    ∃ k < lengths.length, Inside buffer lengths k ∧ nv.unpack (recordAt buffer lengths k) = none

end

variable {nv : Libnv} {nvl : nv.Nvlist}

theorem bvmmiDecodenvlist_eq_some {decoded : Int × BhyveVmManagerInfo} :
    bvmmiDecodenvlist nv nvl = some decoded ↔ bvmmiDecodenvlistChecked nv nvl = .ok decoded := by
  rw [← bvmmiDecodenvlistChecked_toOption]
  cases bvmmiDecodenvlistChecked nv nvl with
  | error fault => exact iff_of_false (fun h => nomatch h) (fun h => nomatch h)
  | ok other => exact ⟨fun h => congrArg Except.ok (Option.some.inj h),
      fun h => congrArg some (Except.ok.inj h)⟩

theorem bvmmiDecodenvlistChecked_unnumbered
    (hnone : ∀ lengths, nv.get nvl (ascii "vm_infos.lengths") ≠ some (.numberArray lengths)) :
    ∃ bvmmi, bvmmiDecodenvlistChecked nv nvl = .ok (-1, bvmmi) := by
  obtain ⟨msgcount, hdecode⟩ := bvmmiDecodenvlistChecked_eq nv nvl
  rw [hdecode]
  split
  · rename_i lengths hlengths
    exact absurd hlengths (hnone lengths)
  · exact ⟨_, rfl⟩

theorem length_of_sizeT {buffer : List UInt8} {value : Int} (h : sizeT value = buffer.length) :
    buffer.length < 2 ^ 64 := by
  have hnonneg := Int.emod_nonneg value (by decide : (2 : Int) ^ 64 ≠ 0)
  have hlt := Int.emod_lt_of_pos value (by decide : (0 : Int) < 2 ^ 64)
  rw [← h, sizeT]
  omega

theorem bvmmiDecodenvlistChecked_failed {lengths : List UInt64}
    (hlengths : nv.get nvl (ascii "vm_infos.lengths") = some (.numberArray lengths)) :
    (∃ bvmmi, bvmmiDecodenvlistChecked nv nvl = .ok (-1, bvmmi)) ↔ StopsInside nv nvl := by
  obtain ⟨msgcount, hdecode⟩ := bvmmiDecodenvlistChecked_eq nv nvl
  rw [hlengths] at hdecode
  dsimp only at hdecode
  rw [hdecode]
  constructor
  · rintro ⟨bvmmi, hresult⟩
    split at hresult
    · cases hresult
    · rename_i hcount
      split at hresult
      · rename_i buffer hbuffer
        split at hresult
        · cases hresult
        · rename_i hsum
          rw [not_not] at hcount hsum
          have hfailed : ∃ infos, unpackInfosChecked nv buffer lengths 0 = .ok (-1, infos) := by
            cases hunpack : unpackInfosChecked nv buffer lengths 0 with
            | error fault =>
              rw [hunpack] at hresult
              cases hresult
            | ok decoded =>
              rw [hunpack] at hresult
              obtain ⟨hneg, -⟩ := Prod.mk.inj (Except.ok.inj hresult)
              exact ⟨decoded.2, congrArg Except.ok (Prod.ext hneg rfl)⟩
          exact ⟨lengths, buffer, hlengths, hbuffer, hcount, hsum,
            (unpackInfosChecked_failed nv (length_of_sizeT hsum) lengths
              (Nat.zero_le _)).mp hfailed⟩
      · cases hresult
  · rintro ⟨other, buffer, hother, hbuffer, hcount, hsum, hrecord⟩
    obtain rfl : lengths = other := by
      rw [hlengths] at hother
      injection hother with hvalue
      injection hvalue
    obtain ⟨infos, hunpack⟩ :=
      (unpackInfosChecked_failed nv (length_of_sizeT hsum) lengths (Nat.zero_le _)).mpr hrecord
    rw [if_neg (not_not.mpr hcount), hbuffer]
    dsimp only
    rw [if_neg (not_not.mpr hsum), hunpack]
    exact ⟨_, rfl⟩

theorem not_outside_of_consistent (h : Consistent nv nvl) :
    bvmmiDecodenvlistChecked nv nvl ≠ .error .outside := by
  obtain ⟨count, lengths, buffer, -, hlengths, hbuffer, -, hinside⟩ := h
  obtain ⟨msgcount, hdecode⟩ := bvmmiDecodenvlistChecked_eq nv nvl
  rw [hdecode, hlengths, hbuffer]
  dsimp only
  split
  · exact fun hfault => nomatch hfault
  · split
    · exact fun hfault => nomatch hfault
    · rename_i hsum
      rw [not_not] at hsum
      obtain ⟨decoded, hunpack⟩ :=
        unpackInfosChecked_inside nv (length_of_sizeT hsum) lengths (Nat.zero_le _) hinside
      rw [hunpack]
      exact fun hfault => nomatch hfault

/-- Decoding is robust for a list without lengths, for a consistent one, and
for one with a record that is no list before the first one outside. -/
theorem decodesRobustly_iff (nv : Libnv) (nvl : nv.Nvlist) :
    DecodesRobustly nv nvl ↔
      (∀ lengths, nv.get nvl (ascii "vm_infos.lengths") ≠ some (.numberArray lengths)) ∨
        Consistent nv nvl ∨ StopsInside nv nvl := by
  constructor
  · intro h
    by_cases hlengths : ∀ lengths, nv.get nvl (ascii "vm_infos.lengths") ≠
      some (.numberArray lengths)
    · exact Or.inl hlengths
    · obtain ⟨lengths, hlengths⟩ := not_forall_not.mp hlengths
      by_cases hconsistent : Consistent nv nvl
      · exact Or.inr (Or.inl hconsistent)
      · obtain ⟨bvmmi, hrefused⟩ := h.refused hconsistent
        have hchecked := bvmmiDecodenvlist_eq_some.mp hrefused
        exact Or.inr (Or.inr ((bvmmiDecodenvlistChecked_failed hlengths).mp ⟨bvmmi, hchecked⟩))
  · have hfailed (h : ∃ bvmmi, bvmmiDecodenvlistChecked nv nvl = .ok (-1, bvmmi)) :
      DecodesRobustly nv nvl := by
      obtain ⟨bvmmi, hresult⟩ := h
      refine ⟨fun _ => ⟨bvmmi, bvmmiDecodenvlist_eq_some.mpr hresult⟩, ?_⟩
      rw [hresult]
      exact fun hfault => nomatch hfault
    rintro (hnone | hconsistent | hstops)
    · exact hfailed (bvmmiDecodenvlistChecked_unnumbered hnone)
    · exact ⟨fun hnot => absurd hconsistent hnot, not_outside_of_consistent hconsistent⟩
    · obtain ⟨lengths, _, hlengths, _⟩ := id hstops
      exact hfailed ((bvmmiDecodenvlistChecked_failed hlengths).mpr hstops)

/-- Two lengths whose sum wraps around to the one byte that is there. -/
def wrappedStatus : nvpacked.Nvlist :=
  [(ascii "vm_count", .number 2), (ascii "vm_infos.lengths", .numberArray [0xFFFFFFFFFFFFFFFF, 2]),
   (ascii "vm_infos", .binary [0])]

/-- The first record is read beyond the binary. -/
theorem not_decodesRobustly : ¬DecodesRobustly nvpacked wrappedStatus := by
  intro h
  obtain ⟨msgcount, hdecode⟩ := bvmmiDecodenvlistChecked_eq nvpacked wrappedStatus
  have hlengths : nvpacked.get wrappedStatus (ascii "vm_infos.lengths") =
      some (.numberArray [0xFFFFFFFFFFFFFFFF, 2]) := by
    decide
  have hbuffer : nvpacked.get wrappedStatus (ascii "vm_infos") = some (.binary [0]) := by decide
  have hcount : vmCountOf nvpacked wrappedStatus = 2 := by decide
  have hsum : sizeT (([0xFFFFFFFFFFFFFFFF, 2] : List UInt64).map UInt64.toNat).sum = 1 := by decide
  rw [hlengths] at hdecode
  dsimp only at hdecode
  rw [hcount, if_neg (by decide), hbuffer] at hdecode
  dsimp only at hdecode
  rw [hsum, if_neg (by decide), unpackInfosChecked, if_pos (by decide)] at hdecode
  exact h.inside hdecode

end Vmstated.Properties
