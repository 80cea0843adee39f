import Mathlib.Data.List.GetD
import Vmstated.Library.CStruct

/-! Regions of a C structure: what a write changes, and what it leaves alone. -/
namespace Vmstated.Library

structure Region where
  offset : Nat
  width : Nat

namespace Region

def Has (r : Region) (i : Nat) : Prop := r.offset ≤ i ∧ i < r.offset + r.width

def Apart (r r' : Region) : Prop := r.offset + r.width ≤ r'.offset ∨ r'.offset + r'.width ≤ r.offset

instance (r r' : Region) : Decidable (r.Apart r') := inferInstanceAs (Decidable (_ ∨ _))

theorem Apart.symm {r r' : Region} (h : r.Apart r') : r'.Apart r := Or.symm h

theorem Apart.not_has {r r' : Region} (h : r.Apart r') {i : Nat} (hi : r.Has i) : ¬r'.Has i := by
  unfold Apart Has at *
  omega

theorem apart_of_not_has {r : Region} {i : Nat} (hi : ¬r.Has i) : Apart ⟨i, 1⟩ r := by
  unfold Apart Has at *
  dsimp only
  omega

end Region

namespace CStruct

/-- Both structures have the same in the region. -/
def Agree (r : Region) (s t : CStruct) : Prop :=
  ∀ i, r.Has i → s.bytes i = t.bytes i ∧ s.pointers i = t.pointers i

/-- Both structures have the same everywhere else. -/
def Frame (r : Region) (s t : CStruct) : Prop :=
  ∀ i, ¬r.Has i → s.bytes i = t.bytes i ∧ s.pointers i = t.pointers i

variable {r : Region} {s t u : CStruct} {offset width : Nat}

theorem Agree.refl (r : Region) (s : CStruct) : Agree r s s := fun _ _ => ⟨rfl, rfl⟩

theorem Agree.symm (h : Agree r s t) : Agree r t s := fun i hi => ⟨(h i hi).1.symm, (h i hi).2.symm⟩

theorem Agree.trans (h : Agree r s t) (h' : Agree r t u) : Agree r s u :=
  fun i hi => ⟨(h i hi).1.trans (h' i hi).1, (h i hi).2.trans (h' i hi).2⟩

theorem Frame.refl (r : Region) (s : CStruct) : Frame r s s := fun _ _ => ⟨rfl, rfl⟩

theorem Frame.agree (h : Frame r s t) {r' : Region} (hapart : r'.Apart r) : Agree r' s t :=
  fun i hi => h i (hapart.not_has hi)

/-! Reading. -/

theorem Agree.readNumber (h : Agree r s t) (hle : r.offset ≤ offset)
    (hend : offset + width ≤ r.offset + r.width) :
    s.readNumber offset width = t.readNumber offset width := by
  induction width generalizing offset with
  | zero => rfl
  | succ width ih =>
    have hbyte := (h offset ⟨hle, by omega⟩).1
    rw [CStruct.readNumber, CStruct.readNumber, hbyte, ih (by omega) (by omega)]

theorem Agree.readBytes (h : Agree r s t) (hle : r.offset ≤ offset)
    (hend : offset + width ≤ r.offset + r.width) :
    s.readBytes offset width = t.readBytes offset width := by
  apply List.map_congr_left
  intro i hi
  have hlt := List.mem_range.mp hi
  exact (h (offset + i) ⟨by omega, by omega⟩).1

theorem Agree.pointer (h : Agree r s t) (hwidth : 0 < r.width) :
    s.pointers r.offset = t.pointers r.offset :=
  (h r.offset ⟨le_refl _, by omega⟩).2

/-! Writing. -/

theorem frame_writeNumber (s : CStruct) (offset width value : Nat) :
    Frame ⟨offset, width⟩ (s.writeNumber offset width value) s := by
  intro i hi
  refine ⟨?_, rfl⟩
  unfold writeNumber
  exact if_neg hi

theorem frame_writeBytes (s : CStruct) (offset : Nat) (bytes : List UInt8) :
    Frame ⟨offset, bytes.length⟩ (s.writeBytes offset bytes) s := by
  intro i hi
  unfold Region.Has at hi
  refine ⟨?_, rfl⟩
  simp only [writeBytes]
  split
  · rw [List.getD_eq_default _ _ (by dsimp only at hi; omega)]
  · rfl

theorem frame_setPointer (s : CStruct) (offset : Nat) {width : Nat}
    (hwidth : 0 < width) (pointer : Pointer) :
    Frame ⟨offset, width⟩ (s.setPointer offset pointer) s := by
  intro i hi
  unfold Region.Has at hi
  refine ⟨rfl, ?_⟩
  rw [setPointer_pointers, if_neg (by dsimp only at hi; omega)]

theorem Agree.writeNumber (h : Agree ⟨offset, width⟩ s t) (value : Nat) :
    Agree ⟨offset, width⟩ (s.writeNumber offset width value)
      (t.writeNumber offset width value) := by
  intro i hi
  refine ⟨?_, (h i hi).2⟩
  have hin : offset ≤ i ∧ i < offset + width := hi
  unfold CStruct.writeNumber
  dsimp only
  rw [if_pos hin, if_pos hin]

theorem Agree.writeBytes {bytes : List UInt8} (h : Agree ⟨offset, bytes.length⟩ s t) :
    Agree ⟨offset, bytes.length⟩ (s.writeBytes offset bytes) (t.writeBytes offset bytes) := by
  intro i hi
  refine ⟨?_, (h i hi).2⟩
  have hbyte := (h i hi).1
  unfold CStruct.writeBytes
  dsimp only
  rw [hbyte]

theorem Agree.setPointer (h : Agree r s t) (pointer : Pointer) :
    Agree r (s.setPointer offset pointer) (t.setPointer offset pointer) := by
  intro i hi
  refine ⟨(h i hi).1, ?_⟩
  rw [setPointer_pointers, setPointer_pointers, (h i hi).2]

theorem readBytes_add (s : CStruct) (offset front rest : Nat) :
    s.readBytes offset (front + rest) = s.readBytes offset front ++
      s.readBytes (offset + front) rest := by
  rw [CStruct.readBytes, List.range_add, List.map_append,
    List.map_map, CStruct.readBytes, CStruct.readBytes]
  congr 2
  funext i
  exact congrArg s.bytes (Nat.add_assoc offset front i).symm

theorem readBytes_writeBytes (s : CStruct) (offset : Nat) (bytes : List UInt8) :
    (s.writeBytes offset bytes).readBytes offset bytes.length = bytes := by
  apply List.ext_getElem
  · rw [CStruct.readBytes, List.length_map, List.length_range]
  · intro i hi hlt
    simp only [CStruct.readBytes, CStruct.writeBytes, List.getElem_map, List.getElem_range]
    rw [if_pos (Nat.le_add_right _ _), Nat.add_sub_cancel_left, List.getD_eq_getElem _ _ hlt]

/-! Writing twice. -/

theorem writeNumber_writeNumber (s : CStruct) (offset width first second : Nat) :
    (s.writeNumber offset width first).writeNumber offset width second =
      s.writeNumber offset width second := by
  unfold writeNumber
  congr 1
  funext i
  dsimp only
  split <;> rfl

theorem writeBytes_writeBytes (s : CStruct) (offset : Nat) {first second : List UInt8}
    (h : first.length = second.length) :
    (s.writeBytes offset first).writeBytes offset second = s.writeBytes offset second := by
  unfold writeBytes
  congr 1
  funext i
  dsimp only
  split
  · by_cases hi : i - offset < second.length
    · rw [List.getD_eq_getElem _ _ hi, List.getD_eq_getElem _ _ hi]
    · rw [List.getD_eq_default _ _ (by omega), List.getD_eq_default _ _ (by omega),
        List.getD_eq_default _ _ (by omega)]
  · rfl

theorem setPointer_setPointer (s : CStruct) (offset : Nat) (first second : Pointer) :
    (s.setPointer offset first).setPointer offset second = s.setPointer offset second := by
  unfold setPointer
  congr 1
  funext i
  dsimp only
  split <;> rfl

/-! A list of writes, each to a region of its own. -/

section
variable {ι : Type} {region : ι → Region} {write : CStruct → ι → CStruct}
variable (hframe : ∀ s i, Frame (region i) (write s i) s)
include hframe

theorem agree_foldl {items : List ι} (hapart : ∀ i ∈ items, r.Apart (region i)) (s : CStruct) :
    Agree r (items.foldl write s) s := by
  induction items generalizing s with
  | nil => exact Agree.refl r s
  | cons i items ih =>
    have hrest := ih (fun j hj => hapart j (List.mem_cons_of_mem i hj)) (write s i)
    exact hrest.trans ((hframe s i).agree (hapart i List.mem_cons_self))

theorem agree_foldl_of_mem {items : List ι}
    (hapart : items.Pairwise fun i j => (region i).Apart (region j))
    (s : CStruct) : ∀ i ∈ items, ∃ t, Agree (region i) t s ∧
    Agree (region i) (items.foldl write s) (write t i) := by
  induction items generalizing s with
  | nil => exact fun i hi => absurd hi List.not_mem_nil
  | cons first items ih =>
    rw [List.pairwise_cons] at hapart
    intro i hi
    rcases List.mem_cons.mp hi with rfl | hrest
    · exact ⟨s, Agree.refl _ s, agree_foldl hframe hapart.1 (write s i)⟩
    · obtain ⟨t, hbefore, hafter⟩ := ih hapart.2 (write s first) i hrest
      exact ⟨t, hbefore.trans ((hframe s first).agree (hapart.1 i hrest).symm), hafter⟩

/-- Of the writes to a region the last one counts, if it does not depend on
those before it. -/
theorem agree_foldl_last {items : List ι} {own : ι → Bool}
    (hothers : ∀ i ∈ items, own i = false → r.Apart (region i))
    (hover : ∀ s i j, own i → own j → Agree r (write (write s i) j) (write s j))
    (hcongr : ∀ s t j, own j → Agree r s t → Agree r (write s j) (write t j)) (s : CStruct) :
    Agree r (items.foldl write s) (((items.filter own).getLast?.map (write s)).getD s) := by
  induction items generalizing s with
  | nil => exact Agree.refl r s
  | cons i items ih =>
    have hrest := ih (fun j hj => hothers j (List.mem_cons_of_mem i hj)) (write s i)
    have hlast (j : ι) (hj : (items.filter own).getLast? = some j) : own j :=
      (List.mem_filter.mp (List.mem_of_getLast? hj)).2
    rw [List.foldl_cons]
    cases hown : own i with
    | true =>
      rw [List.filter_cons_of_pos hown, List.getLast?_cons, Option.map_some, Option.getD_some]
      cases hfound : (items.filter own).getLast? with
      | none =>
        rw [hfound] at hrest
        exact hrest
      | some j =>
        rw [hfound] at hrest
        exact hrest.trans (hover s i j hown (hlast j hfound))
    | false =>
      have hkept : Agree r (write s i) s := (hframe s i).agree (hothers i List.mem_cons_self hown)
      rw [List.filter_cons_of_neg (by rw [hown]; exact Bool.false_ne_true)]
      cases hfound : (items.filter own).getLast? with
      | none =>
        rw [hfound] at hrest
        exact hrest.trans hkept
      | some j =>
        rw [hfound] at hrest
        exact hrest.trans (hcongr _ _ j (hlast j hfound) hkept)

end

theorem eq_of_places (h : ∀ i, s.bytes i = t.bytes i ∧ s.pointers i = t.pointers i) : s = t := by
  obtain ⟨bytes, pointers⟩ := s
  obtain ⟨bytes', pointers'⟩ := t
  congr 1
  · exact funext fun i => (h i).1
  · exact funext fun i => (h i).2

end CStruct

end Vmstated.Library
