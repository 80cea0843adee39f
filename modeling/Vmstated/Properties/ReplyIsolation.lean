import Vmstated.Properties.RequestIsolation

/-! Replies on one connection. -/
namespace Vmstated.Properties
open Library Libsocket

/-- What a listener may do with the reply collector. -/
inductive SrcCall where
  | reply (buffer : List UInt8)
  | shortReply (text : List UInt8)

def SrcCall.make : SrcCall → SocketReplyCollector → SocketReplyCollector
  | .reply buffer, src => (srcReply buffer src).2
  | .shortReply text, src => (srcShortReply text src).2

def SrcCall.buffer : SrcCall → List UInt8
  | .reply buffer => buffer
  | .shortReply _ => []

def SrcCall.text : SrcCall → Option (List UInt8)
  | .reply _ => none
  | .shortReply text => some (cString text)

/-- The behaviour of one listener for one request. -/
structure Behaviour where
  calls : List SrcCall
  retcode : Int

def Behaviour.listener (behaviour : Behaviour) : Listener := fun _ src =>
  (behaviour.retcode, behaviour.calls.foldl (fun src call => call.make src) src)

/-- The calls made for a request, and its result: no listener is called after
one that returns an error. -/
def called : List Behaviour → List SrcCall × Int
  | [] => ([], 0)
  | behaviour :: behaviours =>
    if behaviour.retcode ≠ 0 then (behaviour.calls, behaviour.retcode)
    else (behaviour.calls ++ (called behaviours).1, (called behaviours).2)

/-- A request in a message of its own: its data ends with the request, or with
a zero byte that is the last one. -/
structure Question extends Request where
  behaviours : List Behaviour
  asks : listeners = behaviours.map Behaviour.listener
  ends : cmd.length + payload.length + 1 < shcMaxtransportdata ∨ 0 ∈ payload
  whole : payload.length ≤ strlen payload + 1

section
variable (question : Question)

def Question.calls : List SrcCall := (called question.behaviours).1

def Question.retcode : Int := (called question.behaviours).2

def Question.stored : List UInt8 := question.calls.flatMap SrcCall.buffer

def Question.text : Option (List UInt8) := question.calls.findSome? SrcCall.text

/-- The reply that the request's own calls determine. -/
def Question.reply : List UInt8 := answer question.retcode question.stored question.text

end

/-- No request before stored a buffer, and the first short reply set before,
if there is one, does not show. -/
def Undisturbed (before : List Question) (question : Question) : Prop :=
  before.flatMap Question.stored = [] ∧
    (question.stored ≠ [] ∨
      textReply question.retcode ((before.findSome? Question.text).or question.text) =
        textReply question.retcode question.text)

instance (before : List Question) (question : Question) : Decidable (Undisturbed before question) :=
  inferInstanceAs (Decidable (_ ∧ _))

/-! What calls leave in the collector. -/

theorem SrcCall.make_stored (call : SrcCall) (src : SocketReplyCollector) :
    (call.make src).stored = src.stored ++ call.buffer := by
  cases call with
  | reply buffer => exact srcReply_stored src buffer
  | shortReply text => rw [make, srcShortReply_stored, buffer, List.append_nil]

theorem SrcCall.make_shortReply (call : SrcCall) (src : SocketReplyCollector) :
    (call.make src).shortReply = src.shortReply.or call.text := by
  cases call with
  | reply buffer => rw [make, srcReply_shortReply, text, Option.or_none]
  | shortReply text => exact srcShortReply_shortReply src text

theorem calls_stored (calls : List SrcCall) (src : SocketReplyCollector) :
    (calls.foldl (fun src call => call.make src) src).stored =
      src.stored ++ calls.flatMap SrcCall.buffer := by
  induction calls generalizing src with
  | nil => simp
  | cons call calls ih =>
    rw [List.foldl_cons, ih, call.make_stored, List.flatMap_cons, List.append_assoc]

theorem calls_shortReply (calls : List SrcCall) (src : SocketReplyCollector) :
    (calls.foldl (fun src call => call.make src) src).shortReply =
      src.shortReply.or (calls.findSome? SrcCall.text) := by
  induction calls generalizing src with
  | nil => simp
  | cons call calls ih =>
    rw [List.foldl_cons, ih, call.make_shortReply, List.findSome?_cons, Option.or_assoc]
    cases call.text <;> rfl

theorem callEach_behaviours (dispatch : Dispatch) (behaviours : List Behaviour)
    (src : SocketReplyCollector) :
    callEach dispatch (behaviours.map Behaviour.listener) src =
      ((called behaviours).2, (called behaviours).1.foldl (fun src call => call.make src) src) := by
  induction behaviours generalizing src with
  | nil => rfl
  | cons behaviour behaviours ih =>
    simp only [List.map_cons, callEach, called, Behaviour.listener]
    split
    · rfl
    · rw [ih, List.foldl_append]

/-! What the server writes. -/

def written (x : Transit Client Exchange (List Dispatch)) : List UInt8 :=
  x.after.outgoing.written.drop x.before.outgoing.written.length

theorem question_answered (question : Question) {client : Client} (h : Quiet client []) :
    ∃ dispatch after, exchange.step client question.exchange = some ([dispatch], after) ∧
      Quiet after [] ∧ after.shc.src.stored = client.shc.src.stored ++ question.stored ∧
      after.shc.src.shortReply = client.shc.src.shortReply.or question.text ∧
      after.outgoing.written = client.outgoing.written ++ answer question.retcode
        (client.shc.src.stored ++ question.stored)
          (client.shc.src.shortReply.or question.text) := by
  have hbytes := question.bytes_length
  have halone : question.bytes.length < shcMaxtransportdata ∨ 0 ∈ question.payload := by
    rw [hbytes]
    exact question.ends
  obtain ⟨dispatch, after, hstep, hhandled, hquiet⟩ :=
    exchange_fits h question.exchange question.bytes_ne_nil (by
      have hfits := question.fits
      simp only [Request.exchange, List.length_nil]
      omega)
  obtain ⟨outgoing, hsilent, hreplied⟩ := hhandled.replied
  rw [List.nil_append] at hquiet hsilent
  have hsame : outgoing = client.outgoing := hsilent ((framed_alone question.toRequest).mpr halone)
  have hleft : leftOver question.exchange.request = [] := by
    have hdropped := leftOver_alone question.toRequest halone
    rw [List.drop_eq_nil_of_le question.whole] at hdropped
    exact hdropped
  have hlisteners : question.exchange.listeners = question.behaviours.map Behaviour.listener :=
    question.asks
  rw [hlisteners, callEach_behaviours, hsame] at hreplied
  have hstored := calls_stored question.calls client.shc.src
  have hshort := calls_shortReply question.calls client.shc.src
  obtain ⟨src, counts, _, hsrcStored, hsrcShort, hwrites⟩ :=
    replyResult_of_flowing h.outgoing question.retcode
      (question.calls.foldl (fun src call => call.make src) client.shc.src)
  obtain ⟨rfl, hwritten⟩ := Prod.mk.inj (Option.some.inj (hreplied.symm.trans hwrites))
  rw [hstored, hshort] at hwritten
  rw [hleft] at hquiet
  refine ⟨dispatch, after, hstep, hquiet, hsrcStored.trans hstored, hsrcShort.trans hshort, ?_⟩
  rw [hwritten]
  rfl

theorem forall_split_cons {α : Type} {first : α} {rest : List α} {p : List α → α → Prop} :
    (∀ before x after, first :: rest = before ++ x :: after → p before x) ↔
      p [] first ∧ ∀ before x after, rest = before ++ x :: after → p (first :: before) x := by
  constructor
  · intro h
    refine ⟨h [] first rest rfl, ?_⟩
    rintro before x after rfl
    exact h (first :: before) x after rfl
  · rintro ⟨hfirst, hrest⟩ before x after hsplit
    cases before with
    | nil =>
      cases hsplit
      exact hfirst
    | cons y before =>
      obtain ⟨rfl, hrest'⟩ := List.cons.inj hsplit
      exact hrest before x after hrest'

theorem questions_answered {questions before : List Question}
    {client : Client} (h : Quiet client [])
    (hstored : client.shc.src.stored = before.flatMap Question.stored)
    (hshort : client.shc.src.shortReply = before.findSome? Question.text) :
    ∃ transits after,
      exchange.exec client (questions.map fun question => question.exchange) =
        some (transits, after) ∧
      (transits.map written = questions.map Question.reply ↔
        ∀ earlier question later, questions = earlier ++ question :: later →
          Undisturbed (before ++ earlier) question) := by
  induction questions generalizing before client with
  | nil => exact ⟨[], client, rfl, by simp⟩
  | cons question questions ih =>
    obtain ⟨dispatch, next, hstep, hquiet, hnextStored, hnextShort, hwritten⟩ :=
      question_answered question h
    rw [hstored] at hnextStored hwritten
    rw [hshort] at hnextShort hwritten
    obtain ⟨rest, after, hexec, hiff⟩ := @ih (before ++ [question]) next hquiet
      (by rw [hnextStored, List.flatMap_append, List.flatMap_singleton])
      (by rw [hnextShort, List.findSome?_append, List.findSome?_singleton])
    refine ⟨_, after, Machine.exec_of_cons hstep hexec, ?_⟩
    have hfirst : written ⟨client, question.exchange, [dispatch], next⟩ = question.reply ↔
        Undisturbed before question := by
      rw [written, hwritten, List.drop_left]
      exact answer_append_eq_iff _ _ _ _ _
    rw [List.map_cons, List.map_cons, List.cons.injEq, hfirst, hiff, forall_split_cons]
    simp only [List.append_nil, List.append_assoc, List.singleton_append]

/-- On a new connection each reply is the one that the request's own calls
determine if no request is disturbed by those before it. -/
theorem replies_isolated_iff (questions : List Question) {incoming outgoing : Counts}
    (hincoming : Flowing incoming) (houtgoing : Flowing outgoing) :
    ∃ transits after,
      exchange.exec ⟨shcNew, ⟨[], incoming⟩, ⟨[], outgoing⟩⟩
        (questions.map fun question => question.exchange) = some (transits, after) ∧
      (transits.map written = questions.map Question.reply ↔
        ∀ before question after, questions = before ++ question :: after →
          Undisturbed before question) := by
  have hnew : Quiet ⟨shcNew, ⟨[], incoming⟩, ⟨[], outgoing⟩⟩ [] :=
    ⟨⟨_, holds_zeroed srcNew⟩, by decide, rfl, hincoming, houtgoing⟩
  exact @questions_answered questions [] _ hnew rfl rfl

def status (calls : List SrcCall) : Question where
  cmd := bhyv
  payload := ascii "status"
  behaviours := [⟨calls, 0⟩]
  listeners := [Behaviour.listener ⟨calls, 0⟩]
  cmd_ne := bhyv_ne_zero
  short := bhyv_short
  fits := textRequest.fits
  asks := rfl
  ends := by decide
  whole := by decide

theorem replies_isolated_iff_last :
    ∃ transits after,
      exchange.exec ⟨shcNew, ⟨[], pages⟩, ⟨[], pages⟩⟩
        [(status []).exchange, (status [.reply [7]]).exchange] = some (transits, after) ∧
      transits.map written = [(status []).reply, (status [.reply [7]]).reply] := by
  obtain ⟨transits, after, hexec, hiff⟩ :=
    replies_isolated_iff [status [], status [.reply [7]]] pages_flowing pages_flowing
  refine ⟨transits, after, hexec, hiff.mpr ?_⟩
  rw [forall_split_cons, forall_split_cons]
  refine ⟨by decide +kernel, by decide +kernel, ?_⟩
  simp

/-- The blob for the first request is the reply to the second one as well. -/
theorem replies_not_isolated :
    ¬∀ questions : List Question, ∃ transits after,
      exchange.exec ⟨shcNew, ⟨[], pages⟩, ⟨[], pages⟩⟩
        (questions.map fun question => question.exchange) =
        some (transits, after) ∧ transits.map written = questions.map Question.reply := by
  have hrun : (exchange.exec ⟨shcNew, ⟨[], pages⟩, ⟨[], pages⟩⟩
      [(status [.reply [7]]).exchange, (status []).exchange]).any
        (fun run => run.1.map written != [(status [.reply [7]]).reply, (status []).reply]) =
          true := by
    decide +kernel
  obtain ⟨⟨transits, after⟩, hexec, hother⟩ := (Option.any_eq_true _ _).mp hrun
  intro hisolated
  obtain ⟨run, last, hrun, hreplies⟩ := hisolated [status [.reply [7]], status []]
  cases hexec.symm.trans hrun
  exact bne_iff_ne.mp hother hreplies

end Vmstated.Properties
