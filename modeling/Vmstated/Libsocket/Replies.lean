import Vmstated.Libsocket.SocketHandle

/-! What the server writes where no `write` fails. -/
namespace Vmstated.Libsocket
open Library

/-- The line for a result, with a short reply in the place of OK and NOK. -/
def textReply (result : Int) (short : Option (List UInt8)) : List UInt8 :=
  cString (snprintf shcMaxtransportdata (paddedDecimal 4 result ++ ascii ": " ++
    short.getD ((if result = 0 then [] else ascii "N") ++ ascii "OK"))) ++ [0]

def dataReply (blob : List UInt8) : List UInt8 := dataLine blob.length ++ 0 :: blob

def answer (result : Int) (stored : List UInt8) (short : Option (List UInt8)) : List UInt8 :=
  if stored = [] then textReply result short else dataReply stored

theorem dataLine_ne_zero (bufferlen : Nat) : ∀ byte ∈ dataLine bufferlen, byte ≠ 0 := by
  intro byte hbyte
  rcases List.mem_append.mp (List.mem_of_mem_take hbyte) with htag | hnumber
  · have hplain : ∀ byte ∈ ascii "DATA ", byte ≠ 0 := List.forall_mem_ne'.mpr (by decide)
    exact hplain byte htag
  · rintro rfl
    rcases paddedDecimal_plain _ _ _ hnumber with hdigit | hminus
    · exact absurd hdigit (by decide)
    · exact absurd hminus (by decide)

theorem dataReply_inj {left right : List UInt8} (h : dataReply left = dataReply right) :
    left = right :=
  (append_zero_inj (dataLine_ne_zero _) (dataLine_ne_zero _) h).2

/-- A line begins with its number, and a blob is announced by a word. -/
theorem textReply_ne_dataReply (result : Int) (short : Option (List UInt8)) (blob : List UInt8) :
    textReply result short ≠ dataReply blob := by
  obtain ⟨first, digits, hnumber⟩ := List.exists_cons_of_ne_nil (paddedDecimal_ne_nil 4 result)
  have hplain := paddedDecimal_plain 4 result first (by rw [hnumber]; exact List.mem_cons_self)
  have hfirst : first ≠ 0 ∧ first ≠ 68 := by
    constructor <;> rintro rfl <;> revert hplain <;> decide
  have htext : (textReply result short).head? = some first := by
    unfold textReply snprintf shcMaxtransportdata
    rw [hnumber, List.cons_append, List.cons_append, List.take_succ_cons, cString,
      List.takeWhile_cons_of_pos (by simpa using hfirst.1)]
    rfl
  have hdata : (dataReply blob).head? = some 68 := rfl
  intro hsame
  rw [hsame, hdata] at htext
  exact hfirst.2 (Option.some.inj htext).symm

/-- What was stored before spoils a reply, and a short reply may. -/
theorem answer_append_eq_iff (result : Int) (before own : List UInt8)
    (first short : Option (List UInt8)) :
    answer result (before ++ own) first = answer result own short ↔
      before = [] ∧ (own ≠ [] ∨ textReply result first = textReply result short) := by
  unfold answer
  by_cases hown : own = []
  · subst hown
    rw [List.append_nil, if_pos rfl]
    by_cases hbefore : before = []
    · simp [hbefore]
    · rw [if_neg hbefore]
      constructor
      · intro hsame
        exact absurd hsame.symm (textReply_ne_dataReply _ _ _)
      · intro hboth
        exact absurd hboth.1 hbefore
  · have hne : before ++ own ≠ [] := by simp [hown]
    rw [if_neg hne, if_neg hown]
    constructor
    · intro hsame
      exact ⟨List.append_left_eq_self.mp (dataReply_inj hsame), Or.inl hown⟩
    · rintro ⟨rfl, _⟩
      rfl

section
variable {sink : Sink UInt8} (hflow : Flowing sink.counts)
include hflow

theorem shReplyMsg_of_flowing (msg : List UInt8) :
    ∃ counts, Flowing counts ∧
      shReplyMsg msg sink = (0, ⟨sink.written ++ (cString msg ++ [0]), counts⟩) := by
  obtain ⟨counts, hflows, hall⟩ :=
    Sink.writeAll_of_flowing hflow (Nat.le_refl (cString msg ++ [0]).length)
  refine ⟨counts, hflows, ?_⟩
  simp only [shReplyMsg, hall, if_true]

theorem shReplyData_of_flowing {src : SocketReplyCollector} (hstored : src.stored ≠ []) :
    ∃ counts, Flowing counts ∧ shReplyData src sink =
      some (0, (srcGetReply src).2, ⟨sink.written ++ dataReply src.stored, counts⟩) := by
  obtain ⟨counts, hflows, hline⟩ :=
    Sink.writeAll_of_flowing hflow (Nat.le_refl (dataLine src.stored.length ++ [0]).length)
  obtain ⟨last, hlast, hblob⟩ := @Sink.writeAll_of_flowing _
    ⟨sink.written ++ (dataLine src.stored.length ++ [0]), counts⟩ _ _ hflows
      (Nat.le_refl src.stored.length)
  refine ⟨last, hlast, ?_⟩
  have hreply : srcGetReply src = (some src.stored, (srcGetReply src).2) :=
    Prod.ext (srcGetReply_of_stored hstored) rfl
  unfold shReplyData
  rw [hreply]
  dsimp only
  rw [hline]
  dsimp only
  rw [hblob, if_neg (not_not.mpr rfl)]
  dsimp only
  rw [if_neg (not_not.mpr rfl), dataReply, List.append_assoc,
    List.append_assoc, List.singleton_append]

theorem replyResult_of_flowing (result : Int) (src : SocketReplyCollector) :
    ∃ after counts, Flowing counts ∧ after.stored = src.stored ∧ after.shortReply = src.shortReply ∧
      replyResult result src sink =
        some (after, ⟨sink.written ++ answer result src.stored src.shortReply, counts⟩) := by
  by_cases hstored : src.stored = []
  · have hnone : srcHasReply src = false := by
      rw [← Bool.not_eq_true, srcHasReply_iff]
      exact not_not.mpr hstored
    have hline : ∃ counts, Flowing counts ∧ replyResult result src sink =
        some (src, ⟨sink.written ++ textReply result src.shortReply, counts⟩) := by
      unfold replyResult srcGetShortReply
      rw [if_pos hnone]
      cases hshort : src.shortReply with
      | none =>
        obtain ⟨counts, hflows, hmsg⟩ := shReplyMsg_of_flowing hflow (snprintf shcMaxtransportdata
          (paddedDecimal 4 result ++ ascii ": " ++ (if result = 0 then []
            else ascii "N") ++ ascii "OK"))
        have htext : textReply result none = cString (snprintf shcMaxtransportdata
            (paddedDecimal 4 result ++ ascii ": " ++ (if result = 0 then [] else ascii "N") ++
              ascii "OK")) ++ [0] := by
          simp only [textReply, Option.getD_none, List.append_assoc]
        refine ⟨counts, hflows, ?_⟩
        dsimp only
        rw [shReplyGenericmsg, hmsg, orExit, if_pos rfl, htext]
        rfl
      | some short =>
        obtain ⟨counts, hflows, hmsg⟩ := shReplyMsg_of_flowing hflow (snprintf shcMaxtransportdata
          (paddedDecimal 4 result ++ ascii ": " ++ short))
        refine ⟨counts, hflows, ?_⟩
        dsimp only
        rw [shReplyShortmsg, hmsg, orExit, if_pos rfl, textReply, Option.getD_some]
        rfl
    obtain ⟨counts, hflows, hreply⟩ := hline
    refine ⟨src, counts, hflows, rfl, rfl, ?_⟩
    rw [hreply, answer, if_pos hstored]
  · have hsome : ¬srcHasReply src = false := by
      rw [Bool.not_eq_false, srcHasReply_iff]
      exact hstored
    obtain ⟨counts, hflows, hdata⟩ := shReplyData_of_flowing hflow hstored
    refine ⟨(srcGetReply src).2, counts, hflows, srcGetReply_stored src,
      srcGetReply_shortReply src, ?_⟩
    rw [replyResult, if_neg hsome, hdata, answer, if_neg hstored]
    rfl

end

end Vmstated.Libsocket
