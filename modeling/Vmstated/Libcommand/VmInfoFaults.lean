import Vmstated.Libcommand.VmInfoSpec

/-! The ways in which `bvmmi_decodenvlist` ends other than with a result. -/
namespace Vmstated.Libcommand
open Library

inductive DecodeFault where
  | assertion
  /-- libnv aborts when asked for an item that is not there. -/
  | missing
  /-- A record is read outside the binary. -/
  | outside
  | wildPointer
deriving DecidableEq, Repr

variable (nv : Libnv)

def unpackInfosChecked (buffer : List UInt8) :
    List UInt64 → Nat → Except DecodeFault (Int × List BhyveVmInfo)
  | [], _ => .ok (0, [])
  | length :: lengths, offset =>
    if buffer.length < offset + length.toNat then .error .outside
    else
      match nv.unpack ((buffer.drop offset).take length.toNat) with
      | none => .ok (-1, [])
      | some itemnvl =>
        match bvmiDecodenvlist nv itemnvl .zeroed with
        | none => .error .wildPointer
        | some (decoded, bvi) =>
          if decoded ≠ 0 then .ok (-1, [])
          else
            match unpackInfosChecked buffer lengths (sizeT (offset + length.toNat)) with
            | .error fault => .error fault
            | .ok (result, infos) => .ok (result, .ofMemory bvi :: infos)

def bvmmiDecodenvlistChecked (nvl : nv.Nvlist) : Except DecodeFault (Int × BhyveVmManagerInfo) :=
  match bcmdDecodenvlist nv vminfo2nvlist .zeroed nvl with
  | none => .error .wildPointer
  | some (decoded, s) =>
    let vmCount := s.readNumber 8 8
    let msgcount := (UInt64.ofNat (s.readNumber 16 8)).toInt64
    if decoded ≠ 0 then .ok (-1, ⟨[], vmCount, msgcount⟩)
    else
      match nv.get nvl (ascii "vm_infos.lengths") with
      | some (.numberArray lengths) =>
        if lengths.length ≠ vmCount then .error .assertion
        else
          match nv.get nvl (ascii "vm_infos") with
          | some (.binary buffer) =>
            if sizeT (lengths.map UInt64.toNat).sum ≠ buffer.length then .error .assertion
            else
              match unpackInfosChecked nv buffer lengths 0 with
              | .error fault => .error fault
              | .ok (result, infos) => .ok (result, ⟨infos, vmCount, msgcount⟩)
          | _ => .error .missing
      | _ => .ok (-1, ⟨[], vmCount, msgcount⟩)

/-! Apart from the name of the fault it is the same function. -/

theorem unpackInfosChecked_toOption (buffer : List UInt8) (lengths : List UInt64) (offset : Nat) :
    (unpackInfosChecked nv buffer lengths offset).toOption =
      unpackInfos nv buffer lengths offset := by
  induction lengths generalizing offset with
  | nil => rfl
  | cons length lengths ih =>
    rw [unpackInfosChecked, unpackInfos, ← ih]
    split
    · rfl
    · cases nv.unpack ((buffer.drop offset).take length.toNat) with
      | none => rfl
      | some itemnvl =>
        dsimp only
        cases bvmiDecodenvlist nv itemnvl .zeroed with
        | none => rfl
        | some decoded =>
          rw [Option.bind_eq_bind, Option.bind_some]
          dsimp only
          split
          · rfl
          · cases unpackInfosChecked nv buffer lengths (sizeT (offset + length.toNat)) <;> rfl

theorem bvmmiDecodenvlistChecked_toOption (nvl : nv.Nvlist) :
    (bvmmiDecodenvlistChecked nv nvl).toOption = bvmmiDecodenvlist nv nvl := by
  unfold bvmmiDecodenvlistChecked bvmmiDecodenvlist
  simp only [← unpackInfosChecked_toOption]
  cases bcmdDecodenvlist nv vminfo2nvlist .zeroed nvl with
  | none => rfl
  | some decoded =>
    rw [Option.bind_eq_bind, Option.bind_some]
    dsimp only
    split
    · rfl
    · rcases nv.get nvl (ascii "vm_infos.lengths") with _ | _ | _ | _ | _ | _ | lengths
      any_goals rfl
      dsimp only
      split
      · rfl
      · rcases nv.get nvl (ascii "vm_infos") with _ | _ | _ | _ | _ | buffer | _
        any_goals rfl
        dsimp only
        split
        · rfl
        · cases unpackInfosChecked nv buffer lengths 0 <;> rfl

/-! Decoding into zeros. -/

theorem decodeItem_tame {mapping : ParserMapping} {buffer : CStruct}
    (htame : Tame buffer) (value : Option NvValue) :
    ∃ decoded, decodeItem mapping value buffer = some decoded ∧ Tame decoded := by
  by_cases htype : mapping.valueType = .dynamicstring
  · exact ⟨_, decodeItem_dynamicstring value htype (htame mapping.offset),
      tame_setPointer htame mapping.offset (stringPointer_ne_wild value)⟩
  · obtain ⟨decoded, hdecode, hpointers⟩ := decodeItem_pointers value htype
    exact ⟨decoded, hdecode, fun offset => hpointers ▸ htame offset⟩

theorem decodeItems_tame (items : List (ParserMapping × Option NvValue))
    {buffer : CStruct} (htame : Tame buffer) :
    ∃ decoded, decodeItems items buffer = some decoded ∧ Tame decoded := by
  induction items generalizing buffer with
  | nil => exact ⟨buffer, rfl, htame⟩
  | cons item items ih =>
    obtain ⟨decoded, hdecode, hnext⟩ := @decodeItem_tame item.1 _ htame item.2
    rw [decodeItems, hdecode, Option.bind_some]
    exact ih hnext

theorem bvmiDecodenvlist_zeroed (itemnvl : nv.Nvlist) :
    ∃ bvi, bvmiDecodenvlist nv itemnvl .zeroed = some (0, bvi) := by
  obtain ⟨bvi, hdecode, -⟩ := decodeItems_tame
    (vminfoitem2nvlist.map fun mapping => (mapping, nv.get itemnvl mapping.varname)) tame_zeroed
  refine ⟨bvi, ?_⟩
  rw [bvmiDecodenvlist, bcmdDecodenvlist_eq, hdecode, Option.map_some]

def vmCountOf (nvl : nv.Nvlist) : Nat :=
  match nv.get nvl (ascii "vm_count") with
  | some (.number value) => value.toNat % 2 ^ 32
  | _ => 0

theorem bcmdDecodenvlist_vminfo (nvl : nv.Nvlist) :
    ∃ s, bcmdDecodenvlist nv vminfo2nvlist .zeroed nvl = some (0, s) ∧
      s.readNumber 8 8 = vmCountOf nv nvl := by
  obtain ⟨counted, hcount, hlow⟩ : ∃ counted,
      decodeItem ⟨8, .uint32, 4, ascii "vm_count"⟩ (nv.get nvl (ascii "vm_count")) .zeroed =
        some counted ∧ counted.readNumber 8 8 = vmCountOf nv nvl := by
    unfold vmCountOf
    rcases nv.get nvl (ascii "vm_count") with _ | _ | _ | value | _ | _ | _
    case some.number =>
      have hlow := CStruct.zeroed.readNumber_writeNumber 8 value.toNat (by decide : 0 + 4 ≤ 4)
      refine ⟨_, rfl, ?_⟩
      rw [CStruct.readNumber_add _ 8 4 4, hlow,
        CStruct.readNumber_writeNumber_of_disjoint _ _ (by decide),
        CStruct.readNumber_zeroed, Nat.mul_zero, Nat.add_zero, Nat.pow_zero, Nat.div_one]
      rfl
    all_goals exact ⟨_, rfl, CStruct.readNumber_zeroed 8 8⟩
  obtain ⟨s, hmsgcount, hkept⟩ : ∃ s,
      decodeItem ⟨16, .uint64, 8, ascii "msgcount"⟩ (nv.get nvl (ascii "msgcount")) counted =
        some s ∧ s.readNumber 8 8 = counted.readNumber 8 8 := by
    rcases nv.get nvl (ascii "msgcount") with _ | _ | _ | value | _ | _ | _
    case some.number => exact ⟨_, rfl, CStruct.readNumber_writeNumber_of_disjoint _ _ (by decide)⟩
    all_goals exact ⟨counted, rfl, rfl⟩
  refine ⟨s, ?_, hkept.trans hlow⟩
  rw [vminfo2nvlist, bcmdDecodenvlist, hcount, Option.bind_some,
    bcmdDecodenvlist, hmsgcount, Option.bind_some, bcmdDecodenvlist]

/-! The loop over the records. -/

def recordStart (lengths : List UInt64) (k : Nat) : Nat := ((lengths.take k).map UInt64.toNat).sum

def recordAt (buffer : List UInt8) (lengths : List UInt64) (k : Nat) : List UInt8 :=
  (buffer.drop (recordStart lengths k)).take (recordStart lengths (k + 1) - recordStart lengths k)

theorem recordStart_succ (length : UInt64) (lengths : List UInt64) (k : Nat) :
    recordStart (length :: lengths) (k + 1) = length.toNat + recordStart lengths k := by
  rw [recordStart, List.take_succ_cons, List.map_cons, List.sum_cons, recordStart]

theorem recordAt_zero (buffer : List UInt8) (length : UInt64) (lengths : List UInt64) :
    recordAt buffer (length :: lengths) 0 = buffer.take length.toNat := by
  rw [recordAt, recordStart_succ]
  rfl

theorem recordAt_succ (buffer : List UInt8) (length : UInt64) (lengths : List UInt64) (k : Nat) :
    recordAt buffer (length :: lengths) (k + 1) =
      recordAt (buffer.drop length.toNat) lengths k := by
  rw [recordAt, recordStart_succ, recordStart_succ, Nat.add_sub_add_left, ← List.drop_drop]
  rfl

/-- Record `k` is inside the binary, as those before it then are. -/
def Inside (buffer : List UInt8) (lengths : List UInt64) (k : Nat) : Prop :=
  recordStart lengths (k + 1) ≤ buffer.length

instance (buffer : List UInt8) (lengths : List UInt64) (k : Nat) :
    Decidable (Inside buffer lengths k) :=
  inferInstanceAs (Decidable (_ ≤ _))

theorem inside_zero {buffer : List UInt8} {length : UInt64} {lengths : List UInt64} :
    Inside buffer (length :: lengths) 0 ↔ length.toNat ≤ buffer.length := by
  rw [Inside, recordStart_succ]
  rfl

theorem inside_succ {buffer : List UInt8} {length : UInt64} {lengths : List UInt64} {k : Nat} :
    Inside buffer (length :: lengths) (k + 1) ↔
      length.toNat ≤ buffer.length ∧ Inside (buffer.drop length.toNat) lengths k := by
  rw [Inside, Inside, recordStart_succ, List.length_drop]
  have hnonneg : length.toNat ≤ buffer.length ∨ buffer.length < length.toNat := le_or_gt _ _
  omega

section
variable (buffer : List UInt8) (length : UInt64) (lengths : List UInt64) (offset : Nat)

theorem unpackInfosChecked_cons (hmemory : buffer.length < 2 ^ 64)
    (hinside : length.toNat ≤ (buffer.drop offset).length) (hoffset : offset ≤ buffer.length) :
    unpackInfosChecked nv buffer (length :: lengths) offset =
      match nv.unpack ((buffer.drop offset).take length.toNat) with
      | none => .ok (-1, [])
      | some itemnvl => do
        let (result, infos) ← unpackInfosChecked nv buffer lengths (offset + length.toNat)
        return (result,
          .ofMemory ((bvmiDecodenvlist nv itemnvl .zeroed).getD (0, .zeroed)).2 :: infos) := by
  rw [List.length_drop] at hinside
  have hnext : sizeT (offset + length.toNat) = offset + length.toNat := by
    rw [← Int.natCast_add, sizeT_of_nat (by omega)]
  rw [unpackInfosChecked, if_neg (by omega), hnext]
  cases nv.unpack ((buffer.drop offset).take length.toNat) with
  | none => rfl
  | some itemnvl =>
    obtain ⟨bvi, hdecode⟩ := bvmiDecodenvlist_zeroed nv itemnvl
    dsimp only
    rw [hdecode]
    dsimp only
    rw [if_neg (by decide)]
    cases unpackInfosChecked nv buffer lengths (offset + length.toNat) <;> rfl

end

/-- A record that is inside and that is no list. -/
def HasBadRecord (buffer : List UInt8) (lengths : List UInt64) : Prop :=
  ∃ k < lengths.length, Inside buffer lengths k ∧ nv.unpack (recordAt buffer lengths k) = none

theorem hasBadRecord_cons {buffer : List UInt8} {length : UInt64} {lengths : List UInt64} :
    HasBadRecord nv buffer (length :: lengths) ↔ length.toNat ≤ buffer.length ∧
      (nv.unpack (buffer.take length.toNat) = none ∨
        HasBadRecord nv (buffer.drop length.toNat) lengths) := by
  constructor
  · rintro ⟨k, hk, hin, hnone⟩
    cases k with
    | zero =>
      rw [recordAt_zero] at hnone
      exact ⟨inside_zero.mp hin, Or.inl hnone⟩
    | succ k =>
      rw [recordAt_succ] at hnone
      exact ⟨(inside_succ.mp hin).1,
        Or.inr ⟨k, Nat.lt_of_succ_lt_succ hk, (inside_succ.mp hin).2, hnone⟩⟩
  · rintro ⟨hinside, hnone | ⟨k, hk, hin, hnone⟩⟩
    · refine ⟨0, Nat.succ_pos _, inside_zero.mpr hinside, ?_⟩
      rw [recordAt_zero]
      exact hnone
    · refine ⟨k + 1, Nat.succ_lt_succ hk, inside_succ.mpr ⟨hinside, hin⟩, ?_⟩
      rw [recordAt_succ]
      exact hnone

theorem failed_cons {α ε : Type} {decoded : Except ε (Int × List α)} {info : α} :
    (∃ infos, (do
      let (result, infos) ← decoded
      return (result, info :: infos)) = .ok (-1, infos)) ↔ ∃ infos, decoded = .ok (-1, infos) := by
  cases decoded with
  | error fault => exact iff_of_false (fun ⟨_, h⟩ => nomatch h) (fun ⟨_, h⟩ => nomatch h)
  | ok decoded =>
    obtain ⟨result, infos⟩ := decoded
    constructor
    · rintro ⟨_, h⟩
      exact ⟨infos, congrArg Except.ok (Prod.ext (Prod.mk.inj (Except.ok.inj h)).1 rfl)⟩
    · rintro ⟨_, h⟩
      exact ⟨_, congrArg Except.ok (Prod.ext (Prod.mk.inj (Except.ok.inj h)).1 rfl)⟩

theorem unpackInfosChecked_failed {buffer : List UInt8} (hmemory : buffer.length < 2 ^ 64)
    (lengths : List UInt64) {offset : Nat} (hoffset : offset ≤ buffer.length) :
    (∃ infos, unpackInfosChecked nv buffer lengths offset = .ok (-1, infos)) ↔
      HasBadRecord nv (buffer.drop offset) lengths := by
  induction lengths generalizing offset with
  | nil =>
    refine iff_of_false ?_ ?_
    · rintro ⟨infos, hresult⟩
      cases hresult
    · rintro ⟨k, hk, -⟩
      exact absurd hk (Nat.not_lt_zero k)
  | cons length lengths ih =>
    rw [hasBadRecord_cons]
    by_cases hinside : length.toNat ≤ (buffer.drop offset).length
    · have hnext : offset + length.toNat ≤ buffer.length := by
        rw [List.length_drop] at hinside
        omega
      rw [and_iff_right hinside,
        unpackInfosChecked_cons nv buffer length lengths offset hmemory hinside hoffset]
      cases hunpack : nv.unpack ((buffer.drop offset).take length.toNat) with
      | none => exact iff_of_true ⟨_, rfl⟩ (Or.inl rfl)
      | some itemnvl =>
        rw [or_iff_right (Option.some_ne_none itemnvl), List.drop_drop, ← ih hnext]
        exact failed_cons
    · refine iff_of_false ?_ (fun h => hinside h.1)
      rintro ⟨infos, hresult⟩
      rw [List.length_drop] at hinside
      rw [unpackInfosChecked, if_pos (by omega)] at hresult
      cases hresult

theorem unpackInfosChecked_inside {buffer : List UInt8} (hmemory : buffer.length < 2 ^ 64)
    (lengths : List UInt64) {offset : Nat} (hoffset : offset ≤ buffer.length)
    (hinside : ∀ k < lengths.length, Inside (buffer.drop offset) lengths k) :
    ∃ decoded, unpackInfosChecked nv buffer lengths offset = .ok decoded := by
  induction lengths generalizing offset with
  | nil => exact ⟨_, rfl⟩
  | cons length lengths ih =>
    have hfirst := inside_zero.mp (hinside 0 (Nat.succ_pos _))
    rw [unpackInfosChecked_cons nv buffer length lengths offset hmemory hfirst hoffset]
    cases nv.unpack ((buffer.drop offset).take length.toNat) with
    | none => exact ⟨_, rfl⟩
    | some itemnvl =>
      obtain ⟨decoded, hrest⟩ := @ih (offset + length.toNat)
        (by rw [List.length_drop] at hfirst; omega)
        (fun k hk => by
          rw [← List.drop_drop]
          exact (inside_succ.mp (hinside (k + 1) (Nat.succ_lt_succ hk))).2)
      dsimp only
      rw [hrest]
      exact ⟨_, rfl⟩

theorem bvmmiDecodenvlistChecked_eq (nvl : nv.Nvlist) :
    ∃ msgcount, bvmmiDecodenvlistChecked nv nvl =
      match nv.get nvl (ascii "vm_infos.lengths") with
      | some (.numberArray lengths) =>
        if lengths.length ≠ vmCountOf nv nvl then .error .assertion
        else
          match nv.get nvl (ascii "vm_infos") with
          | some (.binary buffer) =>
            if sizeT (lengths.map UInt64.toNat).sum ≠ buffer.length then .error .assertion
            else
              (unpackInfosChecked nv buffer lengths 0).map fun decoded =>
                (decoded.1, ⟨decoded.2, vmCountOf nv nvl, msgcount⟩)
          | _ => .error .missing
      | _ => .ok (-1, ⟨[], vmCountOf nv nvl, msgcount⟩) := by
  obtain ⟨s, hdecode, hcount⟩ := bcmdDecodenvlist_vminfo nv nvl
  refine ⟨(UInt64.ofNat (s.readNumber 16 8)).toInt64, ?_⟩
  unfold bvmmiDecodenvlistChecked
  rw [hdecode]
  dsimp only
  rw [if_neg (by decide), hcount]
  rcases nv.get nvl (ascii "vm_infos.lengths") with _ | _ | _ | _ | _ | _ | lengths
  any_goals rfl
  rcases nv.get nvl (ascii "vm_infos") with _ | _ | _ | _ | _ | buffer | _
  any_goals rfl
  dsimp only
  cases unpackInfosChecked nv buffer lengths 0 <;> rfl

end Vmstated.Libcommand
