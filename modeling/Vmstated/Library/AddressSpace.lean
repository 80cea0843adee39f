import Mathlib.Algebra.BigOperators.Group.List.Basic
import Mathlib.Order.Interval.Finset.Nat
import Vmstated.Library.Region

/-! Memory that is handed out from a bounded space of addresses. However it is
chosen, no more of it is in use than there are addresses. -/
namespace Vmstated.Library

def Region.places (r : Region) : Finset Nat := Finset.Ico r.offset (r.offset + r.width)

theorem Region.card_places (r : Region) : r.places.card = r.width := by
  rw [places, Nat.card_Ico, Nat.add_sub_cancel_left]

theorem Region.mem_places {r : Region} {i : Nat} : i ∈ r.places ↔ r.Has i := Finset.mem_Ico

/-- The blocks in use, none of which overlap. -/
structure AddressSpace (limit : Nat) where
  blocks : List Region
  inside : ∀ block ∈ blocks, block.offset + block.width ≤ limit
  apart : blocks.Pairwise Region.Apart

namespace AddressSpace
variable {limit : Nat}

def empty (limit : Nat) : AddressSpace limit := ⟨[], by simp, .nil⟩

def used (space : AddressSpace limit) : Nat := (space.blocks.map Region.width).sum

def Free (space : AddressSpace limit) (block : Region) : Prop :=
  block.offset + block.width ≤ limit ∧ ∀ other ∈ space.blocks, block.Apart other

instance (space : AddressSpace limit) (block : Region) : Decidable (space.Free block) :=
  inferInstanceAs (Decidable (_ ∧ _))

/-- The answer is an address, or none for `NULL`. Only free memory is handed out. -/
def malloc (space : AddressSpace limit) (size : Nat) (answer : Option Nat) :
    Option (AddressSpace limit) :=
  match answer with
  | none => none
  | some address =>
    if hfree : space.Free ⟨address, size⟩ then
      some ⟨⟨address, size⟩ :: space.blocks, List.forall_mem_cons.mpr ⟨hfree.1, space.inside⟩,
        List.pairwise_cons.mpr ⟨hfree.2, space.apart⟩⟩
    else none

theorem malloc_used {space after : AddressSpace limit} {size : Nat} {answer : Option Nat}
    (h : space.malloc size answer = some after) : after.used = space.used + size := by
  unfold malloc at h
  split at h
  · contradiction
  · split at h
    · obtain rfl := Option.some.inj h
      exact Nat.add_comm _ _
    · contradiction

def places : List Region → Finset Nat
  | [] => ∅
  | block :: blocks => block.places ∪ places blocks

theorem mem_places {blocks : List Region} {i : Nat} :
    i ∈ places blocks ↔ ∃ block ∈ blocks, block.Has i := by
  induction blocks with
  | nil => simp [places]
  | cons block blocks ih =>
    rw [places, Finset.mem_union, Region.mem_places, ih, List.exists_mem_cons_iff]

theorem card_places {blocks : List Region} (hapart : blocks.Pairwise Region.Apart) :
    (places blocks).card = (blocks.map Region.width).sum := by
  induction hapart with
  | nil => rfl
  | @cons block blocks hblock _ ih =>
    have hdisjoint : Disjoint block.places (places blocks) := by
      rw [Finset.disjoint_left]
      intro i hi hrest
      obtain ⟨other, hother, hhas⟩ := mem_places.mp hrest
      exact (hblock other hother).not_has (Region.mem_places.mp hi) hhas
    rw [places, Finset.card_union_of_disjoint hdisjoint, ih,
      Region.card_places, List.map_cons, List.sum_cons]

theorem used_le (space : AddressSpace limit) : space.used ≤ limit := by
  have hsubset : places space.blocks ⊆ Finset.range limit := by
    intro i hi
    obtain ⟨block, hblock, hhas⟩ := mem_places.mp hi
    exact Finset.mem_range.mpr (Nat.lt_of_lt_of_le hhas.2 (space.inside block hblock))
  have hcard := Finset.card_le_card hsubset
  rwa [card_places space.apart, Finset.card_range] at hcard

end AddressSpace

end Vmstated.Library
