import Mathlib.Algebra.Order.Group.Defs
import Mathlib.Algebra.Order.Sub.Basic
import Mathlib.Data.List.Basic
import Mathlib.Data.List.TakeWhile
import Mathlib.Tactic.Common

/-! A log of timestamps that forgets what is older than a window, and the
limiter it supports: an event is recorded only while at most `limit` recorded
events lie in the window that ends now. -/
namespace Vmstated.Library

section
variable {τ : Type} [LinearOrder τ]

/-- Drop the leading timestamps before the deadline. -/
def prune (deadline : τ) (log : List τ) : List τ :=
  log.dropWhile (· < deadline)

def recordedSince (deadline : τ) (history : List τ) : List τ :=
  history.filter (deadline ≤ ·)

theorem prune_suffix (deadline : τ) (log : List τ) : prune deadline log <:+ log :=
  List.dropWhile_suffix _

theorem prune_getLast? {deadline last : τ} {log : List τ} (hlast : log.getLast? = some last)
    (hrecent : deadline ≤ last) : (prune deadline log).getLast? = some last := by
  have hne : prune deadline log ≠ [] := by
    intro hnil
    have hbefore := List.dropWhile_eq_nil_iff.mp hnil last (List.mem_of_getLast? hlast)
    exact absurd (of_decide_eq_true hbefore) (not_lt.mpr hrecent)
  obtain ⟨dropped, hsplit⟩ := prune_suffix deadline log
  rw [← hsplit, List.getLast?_append_of_ne_nil dropped hne] at hlast
  exact hlast

theorem prune_eq_nil {deadline last : τ} {log : List τ} (hsorted : log.Pairwise (· ≤ ·))
    (hlast : log.getLast? = some last) (hold : last < deadline) : prune deadline log = [] := by
  obtain ⟨older, rfl⟩ := List.getLast?_eq_some_iff.mp hlast
  obtain ⟨-, -, hbefore⟩ := List.pairwise_append.mp hsorted
  refine List.dropWhile_eq_nil_iff.mpr fun t ht => decide_eq_true ?_
  rcases List.mem_append.mp ht with holder | hnewest
  · exact (hbefore t holder last (List.mem_singleton.mpr rfl)).trans_lt hold
  · rw [List.mem_singleton.mp hnewest]
    exact hold

end

variable {τ : Type} [AddCommGroup τ] [LinearOrder τ]

/-- `log` is what is left of `history` when everything it lost is older than
the window of length `span` that ends at `clock`. -/
def Remembers (span clock : τ) (history log : List τ) : Prop :=
  ∃ forgotten, history = forgotten ++ log ∧ ∀ t ∈ forgotten, t < clock - span

/-- Any `limit + 2` recorded events are spread over more than `span`. -/
def Spaced (limit : Nat) (span : τ) (history : List τ) : Prop :=
  ∀ events : List τ, events.Sublist history → events.length = limit + 2 →
    ∃ first ∈ events, ∃ last ∈ events, span < last - first

theorem remembers_nil (span clock : τ) : Remembers span clock [] [] :=
  ⟨[], rfl, by simp⟩

theorem Remembers.record {span clock : τ} {history log : List τ}
    (h : Remembers span clock history log) (t : τ) :
    Remembers span clock (history ++ [t]) (log ++ [t]) := by
  obtain ⟨forgotten, rfl, hold⟩ := h
  exact ⟨forgotten, by rw [List.append_assoc], hold⟩

theorem Remembers.recordedSince_le {span clock : τ} {history log : List τ}
    (h : Remembers span clock history log) :
    (recordedSince (clock - span) history).length ≤ log.length := by
  obtain ⟨forgotten, rfl, hold⟩ := h
  have hnone : forgotten.filter (clock - span ≤ ·) = [] := by
    rw [List.filter_eq_nil_iff]
    intro t ht
    rw [decide_eq_true_eq, not_le]
    exact hold t ht
  rw [recordedSince, List.filter_append, hnone, List.nil_append]
  exact List.length_filter_le _ _

theorem spaced_nil (limit : Nat) (span : τ) : Spaced limit span [] := by
  intro events hsub hlength
  rw [List.sublist_nil.mp hsub] at hlength
  simp at hlength

theorem Spaced.sublist {limit : Nat} {span : τ} {history part : List τ}
    (h : Spaced limit span history) (hpart : part.Sublist history) : Spaced limit span part :=
  fun events hsub hlength => h events (hsub.trans hpart) hlength

variable [IsOrderedAddMonoid τ]

theorem Remembers.advance {span clock now : τ} {history log : List τ}
    (h : Remembers span clock history log) (hclock : clock ≤ now) :
    Remembers span now history log := by
  obtain ⟨forgotten, hsplit, hold⟩ := h
  exact ⟨forgotten, hsplit, fun t ht => (hold t ht).trans_le (sub_le_sub_right hclock span)⟩

theorem Remembers.prune {span clock now : τ} {history log : List τ}
    (h : Remembers span clock history log) (hclock : clock ≤ now) :
    Remembers span now history (prune (now - span) log) := by
  obtain ⟨forgotten, rfl, hold⟩ := h.advance hclock
  refine ⟨forgotten ++ log.takeWhile (· < now - span), ?_, ?_⟩
  · rw [List.append_assoc, Library.prune, List.takeWhile_append_dropWhile]
  · intro t ht
    rcases List.mem_append.mp ht with ht | ht
    · exact hold t ht
    · have hbefore := List.mem_takeWhile_imp ht
      exact of_decide_eq_true hbefore

/-- Recording keeps the spacing when at most `limit` events lie in the window
and the new timestamp is not before the reading the window was taken at. -/
theorem Spaced.record {limit : Nat} {span now t : τ} {history : List τ}
    (h : Spaced limit span history)
    (hfew : (recordedSince (now - span) history).length ≤ limit) (hnow : now ≤ t) :
    Spaced limit span (history ++ [t]) := by
  intro events hsub hlength
  obtain ⟨older, newest, rfl, holder, hnewest⟩ := List.sublist_append_iff.mp hsub
  rcases List.sublist_singleton.mp hnewest with rfl | rfl
  · rw [List.append_nil] at hlength ⊢
    exact h older holder hlength
  · by_contra hnone
    simp only [not_exists, not_and, not_lt] at hnone
    have hwindow : ∀ a ∈ older, now - span ≤ a := by
      intro a ha
      have hspan := hnone a (List.mem_append_left _ ha) t (by simp)
      exact (sub_le_sub_right hnow span).trans (sub_le_comm.mp hspan)
    have hkept : older.Sublist (recordedSince (now - span) history) := by
      rw [← List.filter_eq_self.mpr fun a ha => decide_eq_true (hwindow a ha)]
      exact holder.filter _
    have hcount := hkept.length_le
    simp only [List.length_append, List.length_singleton] at hlength
    omega

end Vmstated.Library
