import Vmstated.Libcommand.VmInfoSpec
import Vmstated.Libprocwatch.DirectorInfo

/-! What a client learns from a status. -/
namespace Vmstated.Properties
open Library Libcommand Libprocwatch Libsocket Libutils

section
variable (nv : Libnv) (errno : Int) (bd : ConfiguredDirector) (src : SocketReplyCollector)

/-- The director answers with a blob that the client decodes into the record of
each machine and the number of messages. -/
def Informed : Prop :=
  ∃ buffer, bdReplyInfo nv errno bd src =
    some (0, { src with stc := ⟨src.stc.items ++ [buffer]⟩ }) ∧ bvmmiDecodebinary nv buffer =
      some
        (0, some ⟨bd.statelist.map ConfiguredVm.record, bd.statelist.length, bd.msgcount.toInt64⟩)

/-- The reply without machines: `stc_collect` refuses an empty buffer. -/
theorem bdReplyInfo_nil (hnil : bd.statelist = []) :
    bdReplyInfo nv errno bd src = some (-1, src) := by
  unfold bdReplyInfo
  by_cases herrno : errno = 0
  · rw [bdGetinfo_eq (Or.inr herrno), hnil, List.map_nil, List.length_nil]
    dsimp only
    rw [bvmmiEncodebinary_nil]
    rfl
  · have hnone : bdGetinfo errno bd = none := by
      unfold bdGetinfo bdCountvms
      exact if_pos ⟨List.length_eq_zero_iff.mpr hnil, herrno⟩
    rw [hnone]

theorem bdReplyInfo_of_ne (hne : bd.statelist ≠ []) :
    ∃ buffer, bdReplyInfo nv errno bd src =
      some (0, { src with stc := ⟨src.stc.items ++ [buffer]⟩ }) ∧
      (2 ^ 32 ≤ bd.statelist.length → bvmmiDecodebinary nv buffer = none) ∧
      (bd.statelist.length < 2 ^ 32 →
        (packedInfos nv (bd.statelist.map ConfiguredVm.record)).length < 2 ^ 64 →
        bvmmiDecodebinary nv buffer =
          some (0, some ⟨bd.statelist.map ConfiguredVm.record, bd.statelist.length,
            bd.msgcount.toInt64⟩)) := by
  have hrecords : bd.statelist.map ConfiguredVm.record ≠ [] := by
    rw [Ne, List.map_eq_nil_iff]
    exact hne
  have hencode :=
    bvmmiEncodebinary_eq nv (bd.statelist.map ConfiguredVm.record) bd.msgcount.toInt64 hrecords
  rw [List.length_map] at hencode
  obtain ⟨buffer, hbuffer, hfull, hdecode⟩ := hencode
  refine ⟨buffer, ?_, hdecode⟩
  unfold bdReplyInfo
  rw [bdGetinfo_eq (Or.inl hne)]
  dsimp only
  rw [hbuffer, Option.bind_eq_bind, Option.bind_some]
  dsimp only
  rw [if_neg (by decide), Option.getD_some, srcReply, focus_apply, stcStoreTransmit_of_ne hfull]
  rfl

end

/-- A client is informed of one to `2 ^ 32 - 1` machines. What is packed of them
is in memory all at once. -/
theorem informed_iff (nv : Libnv) (errno : Int) (bd : ConfiguredDirector)
    (src : SocketReplyCollector)
    (hmemory : (packedInfos nv (bd.statelist.map ConfiguredVm.record)).length < 2 ^ 64) :
    Informed nv errno bd src ↔ 0 < bd.statelist.length ∧ bd.statelist.length < 2 ^ 32 := by
  constructor
  · rintro ⟨buffer, hreply, hdecode⟩
    have hne : bd.statelist ≠ [] := by
      intro hnil
      rw [bdReplyInfo_nil nv errno bd src hnil] at hreply
      cases hreply
    refine ⟨List.length_pos_iff.mpr hne, ?_⟩
    obtain ⟨answer, hanswer, hmany, _⟩ := bdReplyInfo_of_ne nv errno bd src hne
    have hsame : answer = buffer := by
      rw [hanswer] at hreply
      simpa using hreply
    by_contra hlimit
    rw [← hsame, hmany (by omega)] at hdecode
    cases hdecode
  · rintro ⟨hpos, hfew⟩
    obtain ⟨buffer, hreply, _, hdecode⟩ :=
      bdReplyInfo_of_ne nv errno bd src (List.length_pos_iff.mp hpos)
    exact ⟨buffer, hreply, hdecode hfew hmemory⟩

def oneVm : ConfiguredDirector :=
  ⟨[⟨⟨[97], none, none, none, none, none⟩, bwvNew 3 60 true⟩], 1⟩

theorem informed_one :
    (packedInfos nvpacked (oneVm.statelist.map ConfiguredVm.record)).length < 2 ^ 64 ∧
    Informed nvpacked 0 oneVm srcNew := by
  have hmemory : (packedInfos nvpacked (oneVm.statelist.map ConfiguredVm.record)).length <
      2 ^ 64 := by
    decide +kernel
  exact ⟨hmemory, (informed_iff nvpacked 0 oneVm srcNew hmemory).mpr (by decide)⟩

theorem not_informed : ¬Informed nvpacked 0 ⟨[], 0⟩ srcNew := by
  rintro ⟨buffer, hreply, _⟩
  rw [bdReplyInfo_nil nvpacked 0 ⟨[], 0⟩ srcNew rfl] at hreply
  cases hreply

end Vmstated.Properties
