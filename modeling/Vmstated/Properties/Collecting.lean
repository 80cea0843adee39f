import Mathlib.Data.List.SplitLengths
import Vmstated.Libutils.CollectorMemory

/-! Buffers that come out of a collector as they were put in. -/
namespace Vmstated.Properties
open Library Libutils

structure StoreCall where
  buffer : List UInt8
  answers : ItemAnswers

namespace StoreCall

def perform (call : StoreCall) (space : AddressSpace (2 ^ 64)) (stc : MemoryCollector) :
    Option (Int × AddressSpace (2 ^ 64) × MemoryCollector) :=
  stc.storeTransmit (some call.buffer) (UInt64.ofNat call.buffer.length) call.answers space

def allocate (call : StoreCall) (space : AddressSpace (2 ^ 64)) : Option (AddressSpace (2 ^ 64)) :=
  call.answers.allocate call.buffer.length space

end StoreCall

def storeAll : List StoreCall → AddressSpace (2 ^ 64) → MemoryCollector →
    Option (List Int × AddressSpace (2 ^ 64) × MemoryCollector)
  | [], space, stc => some ([], space, stc)
  | call :: calls, space, stc =>
    (call.perform space stc).bind fun (result, space, stc) =>
      (storeAll calls space stc).map fun (results, after) => (result :: results, after)

def AllocationsSucceed : List StoreCall → AddressSpace (2 ^ 64) → Prop
  | [], _ => True
  | call :: calls, space =>
    if call.buffer = [] then AllocationsSucceed calls space
    else ∃ after, call.allocate space = some after ∧ AllocationsSucceed calls after

def storedBuffers (calls : List StoreCall) : List (List UInt8) :=
  (calls.map StoreCall.buffer).filter (· ≠ [])

/-- Both are there, not empty, and large enough. -/
structure HasRoom (stored : List (List UInt8)) (args : CollectArgs) : Prop where
  buffer : args.buffer ≠ none ∧ args.bufferlen ≠ 0
  bufferLens : args.bufferLens ≠ none ∧ args.bufferLenslen ≠ 0
  bytes : (stored.flatten.length : Int) ≤ args.bufferlen.toInt
  count : stored.length * sizeofSizeT ≤ args.bufferLenslen.toNat

/-- The buffer begins with the stored ones, and the lengths tell where to cut it. -/
def HandsBack (stored : List (List UInt8)) (collected : Collected) : Prop :=
  ∃ buffer lens, collected.buffer = some buffer ∧ collected.bufferLens = some lens ∧
    stored.flatten <+: buffer ∧
      ((lens.take stored.length).map UInt64.toNat).splitLengths buffer = stored

structure Collects (stored : List (List UInt8)) (args : CollectArgs)
    (collected : Collected) : Prop where
  succeeds : collected.result = 0 ↔ HasRoom stored args
  handsBack : collected.result = 0 → HandsBack stored collected
  untouched : collected.result ≠ 0 →
    collected.result = -1 ∧ collected.buffer = args.buffer ∧ collected.bufferLens = args.bufferLens

section
variable {space after : AddressSpace (2 ^ 64)} {stc : MemoryCollector}

/-! Storing. -/

theorem perform_empty {call : StoreCall} (hempty : call.buffer = []) :
    call.perform space stc = some (-1, space, stc) := by
  obtain ⟨buffer, answers⟩ := call
  obtain rfl : buffer = [] := hempty
  rfl

theorem perform_stored {call : StoreCall} (hfree : stc.held = false) (hne : call.buffer ≠ [])
    (hsize : call.buffer.length < 2 ^ 64) (hallocate : call.allocate space = some after) :
    ∃ stc', call.perform space stc = some (0, after, stc') ∧ stc'.held = false ∧
      stc'.buffers = stc.buffers ++ [call.buffer] := by
  obtain ⟨stc', hstore, hheld, hcollector⟩ := MemoryCollector.storeTransmit_refines hfree hsize
    (by rw [if_neg hne]; exact hallocate)
  rw [stcStoreTransmit_of_ne hne] at hstore hcollector
  exact ⟨stc', hstore, hheld, congrArg SocketTransmissionCollector.items hcollector⟩

theorem allocate_used {call : StoreCall} (hallocate : call.allocate space = some after) :
    after.used = space.used + sizeofCollectorItem + call.buffer.length := by
  obtain ⟨withItem, hitem, hbuffer⟩ := Option.bind_eq_some_iff.mp hallocate
  rw [AddressSpace.malloc_used hbuffer, AddressSpace.malloc_used hitem]

theorem storeAll_cons {call : StoreCall} {calls : List StoreCall}
    {result : Int} {results : List Int}
    {next : AddressSpace (2 ^ 64) × MemoryCollector}
    {last : AddressSpace (2 ^ 64) × MemoryCollector}
    (hcall : call.perform space stc = some (result, next))
    (hrest : storeAll calls next.1 next.2 = some (results, last)) :
    storeAll (call :: calls) space stc = some (result :: results, last) := by
  rw [storeAll, hcall, Option.bind_some]
  dsimp only
  rw [hrest, Option.map_some]

theorem storeAll_eq {calls : List StoreCall} (hfree : stc.held = false)
    (hsize : (calls.map StoreCall.buffer).flatten.length < 2 ^ 63)
    (hallocate : AllocationsSucceed calls space) :
    ∃ after stc', storeAll calls space stc =
      some (calls.map fun call => if call.buffer = [] then -1 else 0,
        after, stc') ∧
      stc'.held = false ∧ stc'.buffers = stc.buffers ++ storedBuffers calls ∧
      space.used + (storedBuffers calls).length * sizeofCollectorItem ≤ after.used := by
  induction calls generalizing space stc with
  | nil =>
    exact ⟨space, stc, rfl, hfree, (List.append_nil _).symm, Nat.le_of_eq (by simp [storedBuffers])⟩
  | cons call calls ih =>
    rw [List.map_cons, List.flatten_cons, List.length_append] at hsize
    unfold AllocationsSucceed at hallocate
    by_cases hempty : call.buffer = []
    · rw [if_pos hempty] at hallocate
      obtain ⟨last, stc', hrest, hheld, hbuffers, hused⟩ := ih hfree (by omega) hallocate
      have hstored : storedBuffers (call :: calls) = storedBuffers calls := by
        simp [storedBuffers, hempty]
      refine ⟨last, stc', ?_, hheld, hstored ▸ hbuffers, hstored ▸ hused⟩
      rw [List.map_cons, if_pos hempty]
      exact storeAll_cons (perform_empty hempty) hrest
    · rw [if_neg hempty] at hallocate
      obtain ⟨next, hnext, hallocate⟩ := hallocate
      obtain ⟨stc₁, hperform, hfirst, happended⟩ := perform_stored hfree hempty (by omega) hnext
      obtain ⟨last, stc', hrest, hheld, hbuffers, hused⟩ := ih hfirst (by omega) hallocate
      have hstored : storedBuffers (call :: calls) = call.buffer :: storedBuffers calls := by
        simp [storedBuffers, hempty]
      refine ⟨last, stc', ?_, hheld, ?_, ?_⟩
      · rw [List.map_cons, if_neg hempty]
        exact storeAll_cons hperform hrest
      · rw [hbuffers, happended, hstored, List.append_assoc, List.singleton_append]
      · rw [allocate_used hnext] at hused
        rw [hstored, List.length_cons, Nat.succ_mul]
        omega

theorem storedBuffers_length_le (calls : List StoreCall) :
    (storedBuffers calls).flatten.length ≤ (calls.map StoreCall.buffer).flatten.length :=
  (List.filter_sublist.flatten).length_le

/-! Collecting. -/

theorem collects_failed {stored : List (List UInt8)} {args : CollectArgs}
    (hroom : ¬HasRoom stored args)
    (errno : Option CollectErrno) :
    Collects stored args ⟨-1, errno, args.buffer, args.bufferLens⟩ :=
  have hresult : (-1 : Int) ≠ 0 := by decide
  ⟨iff_of_false hresult hroom, fun hzero => absurd hzero hresult, fun _ => ⟨rfl, rfl, rfl⟩⟩

theorem splitLengths_flatten (parts : List (List UInt8)) (rest : List UInt8) :
    (parts.map List.length).splitLengths (parts.flatten ++ rest) = parts := by
  induction parts with
  | nil => rfl
  | cons part parts ih =>
    rw [List.map_cons, List.splitLengths_cons, List.flatten_cons,
      List.append_assoc, List.take_left, List.drop_left, ih]

/-- The front of the memory is written, or nothing is. -/
theorem collects_of_shows {stc : MemoryCollector} {args : CollectArgs} {collected : Collected}
    {buffer : List UInt8} {lens : List UInt64} (hbuffer : args.buffer = some buffer)
    (hlens : args.bufferLens = some lens)
    (hshows : collected.Shows
      (stcCollect stc.collector buffer args.bufferlen.toInt (lens.map UInt64.toNat)
      args.bufferLenslen.toNat)) : Collects stc.buffers args collected := by
  have htotal : stcGetbuffersize stc.collector = stc.buffers.flatten.length := stcGetbuffersize_eq _
  have hnonzero : (args.bufferlen.toInt ≠ 0 ∧ args.bufferLenslen.toNat ≠ 0) ↔
      (args.bufferlen ≠ 0 ∧ args.bufferLenslen ≠ 0) :=
    and_congr (not_congr (@Int64.toInt_inj _ 0)) (not_congr (@UInt64.toNat_inj _ 0))
  by_cases hroom : HasRoom stc.buffers args
  · have hlensFit := args.lens_fit lens hlens
    have hnumber : stc.buffers.length ≤ args.bufferLenslen.toNat / sizeofSizeT :=
      (Nat.le_div_iff_mul_le (by decide : 0 < sizeofSizeT)).mpr hroom.count
    have hcount : sizeofSizeT * stcGetbuffercount stc.collector ≤ args.bufferLenslen.toNat :=
      Nat.mul_comm _ _ ▸ hroom.count
    rw [stcCollect_room (hnonzero.mpr ⟨hroom.buffer.2, hroom.bufferLens.2⟩)
      (by rw [htotal]; exact hroom.bytes)
      (args.buffer_fits buffer hbuffer) hcount
        (by rw [List.length_map]; exact hnumber.trans hlensFit)] at hshows
    refine ⟨iff_of_true hshows.result hroom, fun _ => ?_, fun hne => absurd hshows.result hne⟩
    obtain ⟨copiedLens, hcopiedLens, hnumbers⟩ := Option.map_eq_some_iff.mp hshows.bufferLens
    refine ⟨_, copiedLens, hshows.buffer, hcopiedLens, List.prefix_append _ _, ?_⟩
    have htake : (copiedLens.take stc.buffers.length).map UInt64.toNat =
        stc.buffers.map List.length := by
      rw [List.map_take, hnumbers]
      exact List.take_left' (List.length_map _)
    rw [htake]
    exact splitLengths_flatten stc.buffers _
  · rw [stcCollect_small fun hall => hroom ⟨⟨by simp [hbuffer], (hnonzero.mp hall.1).1⟩,
      ⟨by simp [hlens], (hnonzero.mp hall.1).2⟩, htotal ▸ hall.2.1, Nat.mul_comm _ _ ▸ hall.2.2⟩]
        at hshows
    have hkept : collected.bufferLens = args.bufferLens := by
      obtain ⟨keptLens, hkept, hnumbers⟩ := Option.map_eq_some_iff.mp hshows.bufferLens
      rw [hkept, hlens]
      exact congrArg some (List.map_injective_iff.mpr (fun _ _ => UInt64.toNat_inj.mp) hnumbers)
    have hresult : collected.result ≠ 0 := by
      rw [hshows.result]
      exact (by decide : (-1 : Int) ≠ 0)
    exact ⟨iff_of_false hresult hroom, fun hzero => absurd hzero hresult,
      fun _ => ⟨hshows.result, hshows.buffer.trans hbuffer.symm, hkept⟩⟩

theorem collect_collects (hfree : stc.held = false) (hsize : stc.buffers.flatten.length < 2 ^ 63)
    (hcount : stc.buffers.length * sizeofCollectorItem ≤ 2 ^ 64) (args : CollectArgs) :
    ∃ collected stc', stc.collect args = some (collected, stc') ∧
      Collects stc.buffers args collected := by
  have hlength : stc.buffers.length = stc.items.length := List.length_map _
  have hitems : sizeofSizeT * stc.items.length < 2 ^ 64 := by
    rw [hlength] at hcount
    simp only [sizeofCollectorItem, sizeofSizeT] at hcount ⊢
    omega
  cases hbuffer : args.buffer with
  | none =>
    refine ⟨_, stc, ?_, collects_failed (fun hroom => hroom.buffer.1 hbuffer) none⟩
    rw [MemoryCollector.collect, hbuffer]
  | some buffer =>
    cases hlens : args.bufferLens with
    | none =>
      refine ⟨_, stc, ?_, collects_failed (fun hroom => hroom.bufferLens.1 hlens) none⟩
      rw [MemoryCollector.collect, hbuffer, hlens]
    | some lens =>
      obtain ⟨collected, hcollect, hshows⟩ :=
        MemoryCollector.collect_refines hfree hsize hitems hbuffer hlens
      exact ⟨collected, stc, hcollect, collects_of_shows hbuffer hlens hshows⟩

/-- Whatever is stored in a new collector is collected, if and only if there is
room for it. -/
theorem collects_stored {calls : List StoreCall}
    (hsize : (calls.map StoreCall.buffer).flatten.length < 2 ^ 63)
    (hallocate : AllocationsSucceed calls space) (args : CollectArgs) :
    ∃ after stc, storeAll calls space .new =
      some (calls.map fun call => if call.buffer = [] then -1 else 0,
        after, stc) ∧
      ∃ collected stc', stc.collect args = some (collected, stc') ∧
        Collects (storedBuffers calls) args collected := by
  obtain ⟨after, stc, hstored, hfree, hbuffers, hused⟩ :=
    @storeAll_eq space .new calls rfl hsize hallocate
  have hnone : MemoryCollector.new.buffers = [] :=
    congrArg SocketTransmissionCollector.items MemoryCollector.new_refines
  rw [hnone, List.nil_append] at hbuffers
  have hlimit := after.used_le
  refine ⟨after, stc, hstored, ?_⟩
  rw [← hbuffers] at hused ⊢
  refine collect_collects hfree ?_ (by omega) args
  rw [hbuffers]
  exact Nat.lt_of_le_of_lt (storedBuffers_length_le calls) hsize

end

theorem collects_stored_two : ∃ after stc,
    storeAll [⟨[97, 98, 99], some 4096, some 4120⟩, ⟨[], none, none⟩,
      ⟨[100, 101, 102, 0], some 8192, some 8216⟩] (.empty _) .new = some ([0, -1, 0], after, stc) ∧
    ∃ collected stc', stc.collect ⟨some (zeros 8), 8, some [0, 0], 16, by decide, by decide⟩ =
        some (collected, stc') ∧
      Collects [[97, 98, 99], [100, 101, 102, 0]]
        ⟨some (zeros 8), 8, some [0, 0], 16, by decide, by decide⟩ collected :=
  @collects_stored (.empty _)
    [⟨[97, 98, 99], some 4096, some 4120⟩, ⟨[], none, none⟩,
      ⟨[100, 101, 102, 0], some 8192, some 8216⟩]
    (by decide) ⟨_, rfl, _, rfl, trivial⟩ _

end Vmstated.Properties
