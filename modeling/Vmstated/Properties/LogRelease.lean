import Vmstated.Liblogging.RedirectSteps

/-! What is released when the log director is freed. -/
namespace Vmstated.Properties
open Library Liblogging

section
variable {ld after : LogDirector} {ldr ldrd : Nat} {redirector : Redirector}

structure Emptied (ldr : Nat) (ld after : LogDirector) : Prop where
  redirected : Redirected after
  redirects : after.redirects = ld.redirects
  others : ∀ other, other ≠ ldr → after.redirectors other = ld.redirectors other
  logs : ∀ fd number, ld.fdOpened fd = some (.log number) → after.fdOpened fd = some (.log number)

theorem Emptied.trans {mid : LogDirector} (h : Emptied ldr ld mid) (h' : Emptied ldr mid after) :
    Emptied ldr ld after :=
  ⟨h'.redirected, h'.redirects.trans h.redirects,
    fun other hother => (h'.others other hother).trans (h.others other hother),
    fun fd number hlog => h'.logs fd number (h.logs fd number hlog)⟩

theorem log_stays {fd fd' number : Nat} (hfd : ld.fdOpened fd ≠ some (.log number))
    (hlog : ld.fdOpened fd' = some (.log number)) :
    (ld.close fd).fdOpened fd' = some (.log number) := by
  rw [fdOpened_close, if_neg, hlog]
  rintro rfl
  exact hfd hlog

theorem freeclient_succeeds (h : Redirected ld) {client : RedirectorClient}
    (hclient : ld.clients ldrd = some client)
    (hredirector : ld.redirectors client.ldr = some redirector) :
    ∃ after, ld.ldrdFreeclient ldrd = some after ∧
      Emptied client.ldr ld after ∧
      after.redirectors client.ldr =
        some { redirector with clients := redirector.clients.remove ldrd } := by
  obtain ⟨pipe, howned⟩ := h.owned ldrd client hclient
  have hsucceeds : ∃ start : LogDirector, ld.ldrdFreeclient ldrd = some { start with
      redirectors := Function.update ld.redirectors client.ldr
        (some { redirector with clients := redirector.clients.remove ldrd })
      clients := Function.update ld.clients ldrd none } ∧ start.redirects = ld.redirects ∧
      ∀ fd number, ld.fdOpened fd = some (.log number) →
        start.fdOpened fd = some (.log number) := by
    unfold LogDirector.ldrdFreeclient
    rw [hclient]
    dsimp only
    rw [hredirector, howned.unclosed]
    cases haccepted : client.thisAccepted with
    | true =>
      refine ⟨ld.close client.readfd, rfl, rfl, fun fd number => log_stays ?_⟩
      rw [howned.reads]
      exact fun heq => LogFile.noConfusion (Option.some.inj heq)
    | false =>
      refine ⟨(ld.close client.writefd).close client.readfd, rfl, rfl, fun fd number hlog => ?_⟩
      have hwrites := howned.writes haccepted
      refine log_stays ?_ (log_stays ?_ hlog)
      · rw [fdOpened_close]
        split
        · exact Option.some_ne_none _ |>.symm
        · rw [howned.reads]
          exact fun heq => LogFile.noConfusion (Option.some.inj heq)
      · rw [hwrites]
        exact fun heq => LogFile.noConfusion (Option.some.inj heq)
  obtain ⟨start, hfree, hredirects, hlogs⟩ := hsucceeds
  have hredirected := ldrdFreeclient_redirected h hfree
  refine ⟨_, hfree, ⟨hredirected, hredirects, ?_, ?_⟩, Function.update_self ..⟩
  · intro other hother
    exact Function.update_of_ne hother ..
  · intro fd number hlog
    exact hlogs fd number hlog

theorem ldrFreeRound_freeclient (h : Redirected ld)
    (hredirector : ld.redirectors ldr = some redirector)
    {items : List Nat} (hholds : redirector.clients.Holds (ldrd :: items)) :
    LogDirector.ldrFreeRound ldr ld = (ld.ldrdFreeclient ldrd).map fun after => (none, after) := by
  obtain ⟨items', hholds', hitems⟩ := h.lists ldr redirector hredirector
  have hsame := LinkedList.Holds.unique hholds hholds'
  obtain ⟨client, hclient, hldr⟩ := (hitems ldrd).mp (hsame ▸ List.mem_cons_self)
  have hagain : (redirector.clients.remove ldrd).remove ldrd = redirector.clients.remove ldrd :=
    @LinkedList.remove_again _ _ _ [] _ _ hholds
  subst hldr
  unfold LogDirector.ldrFreeRound LogDirector.ldrdFreeclient
  rw [hredirector]
  dsimp only
  rw [hholds.1]
  dsimp only
  rw [hclient]
  dsimp only
  rw [Function.update_self, hredirector]
  dsimp only
  rw [hagain]
  cases client.thisAccepted <;> cases client.closed <;> simp [LogDirector.close]

theorem ldrFree_rounds {items : List Nat} (h : Redirected ld)
    (hredirector : ld.redirectors ldr = some redirector)
    (hholds : redirector.clients.Holds items) :
    ∃ after, Ends (LogDirector.ldrFreeRound ldr) ld () after ∧
      Emptied ldr ld after ∧ ∃ left, after.redirectors ldr = some left ∧ left.clients.Holds [] := by
  induction items generalizing ld redirector with
  | nil =>
    have hround : LogDirector.ldrFreeRound ldr ld = some (some (), ld) := by
      have hfirst : redirector.clients.first = none := hholds
      unfold LogDirector.ldrFreeRound
      rw [hredirector]
      dsimp only
      rw [hfirst]
    exact ⟨ld, ends_of_result hround, ⟨h, rfl, fun _ _ => rfl, fun _ _ => id⟩,
      redirector, hredirector, hholds⟩
  | cons ldrd items ih =>
    obtain ⟨items', hholds', hitems⟩ := h.lists ldr redirector hredirector
    have hsame := LinkedList.Holds.unique hholds hholds'
    obtain ⟨client, hclient, rfl⟩ := (hitems ldrd).mp (hsame ▸ List.mem_cons_self)
    obtain ⟨mid, hfree, hemptied, hleft⟩ := freeclient_succeeds h hclient hredirector
    have hround := ldrFreeRound_freeclient h hredirector hholds
    rw [hfree] at hround
    have hrest : (redirector.clients.remove ldrd).Holds items :=
      @LinkedList.remove_holds _ _ _ [] _ _ hholds
    obtain ⟨after, hends, hafter, left⟩ := ih hemptied.redirected hleft hrest
    exact ⟨after, ends_of_round hround hends, hemptied.trans hafter, left⟩

theorem ldrFreeRound_redirects (redirects : LinkedList Nat)
    (s : LogDirector) (value : Option Unit) (t : LogDirector)
    (hround : LogDirector.ldrFreeRound ldr s = some (value, t)) :
    LogDirector.ldrFreeRound ldr { s with redirects } = some (value, { t with redirects }) := by
  unfold LogDirector.ldrFreeRound at hround ⊢
  cases hredirector : s.redirectors ldr with
  | none =>
    rw [hredirector] at hround
    cases hround
  | some redirector =>
    rw [hredirector] at hround
    dsimp only at hround ⊢
    cases hfirst : redirector.clients.first with
    | none =>
      rw [hfirst] at hround
      cases hround
      rfl
    | some ldrd =>
      rw [hfirst] at hround
      dsimp only at hround ⊢
      unfold LogDirector.ldrdFreeclient at hround ⊢
      cases hclient : s.clients ldrd with
      | none =>
        rw [hclient] at hround
        cases hround
      | some client =>
        rw [hclient] at hround
        dsimp only at hround ⊢
        cases hother : Function.update s.redirectors ldr
            (some { redirector with clients := redirector.clients.remove ldrd }) client.ldr with
        | none =>
          rw [hother] at hround
          cases hround
        | some other =>
          rw [hother] at hround
          cases hround
          cases client.thisAccepted <;> cases client.closed <;> rfl

theorem without_redirector (h : Redirected ld) {items : List Nat}
    (hredirector : ld.redirectors ldr = some redirector)
    (hempty : redirector.clients.Holds []) (hholds : ld.redirects.Holds (ldr :: items)) :
    Redirected { ld with
      redirects := ld.redirects.remove ldr
      redirectors := Function.update ld.redirectors ldr none } := by
  have hbefore {other : Nat} {r : Redirector}
      (hr : Function.update ld.redirectors ldr none other = some r) :
      other ≠ ldr ∧ ld.redirectors other = some r := by
    by_cases hother : other = ldr
    · rw [hother, Function.update_self] at hr
      cases hr
    · rw [Function.update_of_ne hother] at hr
      exact ⟨hother, hr⟩
  obtain ⟨items', hholds', hitems⟩ := h.registered
  have hsame := LinkedList.Holds.unique hholds hholds'
  refine ⟨h.alive, h.unstoppable, fun pid fd opened hopened => ?_,
    h.single, fun address client hclient => ?_, h.read, h.written, h.watched, ?_, ?_, ?_, ?_, ?_⟩
  · have hmade := h.made pid fd opened hopened
    revert hmade
    cases opened.file <;> exact id
  · obtain ⟨pipe, howned⟩ := h.owned address client hclient
    exact ⟨pipe, howned.reads, howned.writes, howned.unclosed, howned.watched⟩
  · intro address client hclient
    dsimp only
    rw [Function.update_of_ne]
    · exact h.listed address client hclient
    · rintro rfl
      obtain ⟨items'', hholds'', hclients⟩ := h.lists client.ldr redirector hredirector
      have hnone := LinkedList.Holds.unique hempty hholds''
      rw [← hnone] at hclients
      exact absurd ((hclients address).mpr ⟨client, hclient, rfl⟩) List.not_mem_nil
  · exact fun other r hr => h.lists other r (hbefore hr).2
  · exact fun other r hr => h.logged other r (hbefore hr).2
  · exact fun other other' r r' number hr hr' =>
      h.apart other other' r r' number (hbefore hr).2 (hbefore hr').2
  · have hnodup := List.nodup_cons.mp (LinkedList.Holds.nodup hholds)
    refine ⟨items, @LinkedList.remove_holds _ _ _ [] _ _ hholds, ?_⟩
    intro other
    dsimp only
    by_cases hother : other = ldr
    · rw [hother, Function.update_self]
      exact iff_of_false hnodup.1 Bool.false_ne_true
    · rw [Function.update_of_ne hother, ← hitems, ← hsame, List.mem_cons, or_iff_right hother]

theorem ldFree_rounds {items : List Nat} (h : Redirected ld) (hholds : ld.redirects.Holds items) :
    ∃ after n,
      (∀ fuel ≥ n, ∀ rounds ≥ n, loop (LogDirector.ldFreeRound fuel) rounds ld = some ((), after)) ∧
      Redirected after ∧ after.redirects.Holds [] ∧
      ∀ fd number, ld.fdOpened fd = some (.log number) →
        after.fdOpened fd = some (.log number) := by
  induction items generalizing ld with
  | nil =>
    refine ⟨ld, 1, ?_, h, hholds, fun _ _ => id⟩
    intro fuel _ rounds hrounds
    obtain ⟨rounds, rfl⟩ := Nat.exists_eq_add_of_le' hrounds
    have hfirst : ld.redirects.first = none := hholds
    rw [loop, LogDirector.ldFreeRound, hfirst]
  | cons ldr items ih =>
    obtain ⟨items', hholds', hitems⟩ := h.registered
    have hsame := LinkedList.Holds.unique hholds hholds'
    obtain ⟨redirector, hredirector⟩ :=
      Option.isSome_iff_exists.mp ((hitems ldr).mp (hsame ▸ List.mem_cons_self))
    obtain ⟨clients, hclients, -⟩ := h.lists ldr redirector hredirector
    obtain ⟨mid, hends, hemptied, left, hleft, hempty⟩ := ldrFree_rounds h hredirector hclients
    obtain ⟨enough, hloop⟩ := hends.map (ldrFreeRound_redirects (ld.redirects.remove ldr))
    have hmid := hemptied.redirects
    have hwithout := without_redirector hemptied.redirected hleft hempty (hmid ▸ hholds)
    obtain ⟨after, n, hrounds, hafter, hnone, hlogs⟩ := ih hwithout
      (hmid ▸ @LinkedList.remove_holds _ _ _ [] _ _ hholds)
    refine ⟨after, max enough n + 1, ?_, hafter, hnone,
      fun fd number hlog => hlogs fd number (hemptied.logs fd number hlog)⟩
    intro fuel hfuel rounds hmore
    obtain ⟨rounds, rfl⟩ := Nat.exists_eq_add_of_le' (Nat.le_trans (Nat.le_add_left 1 _) hmore)
    have hround : LogDirector.ldFreeRound fuel ld = some (none, { mid with
        redirects := mid.redirects.remove ldr
        redirectors := Function.update mid.redirectors ldr none }) := by
      unfold LogDirector.ldFreeRound
      rw [hholds.1]
      dsimp only
      rw [LogDirector.ldrFree, loop_mono (by omega) hloop, hmid]
      rfl
    rw [loop, hround]
    exact hrounds fuel (by omega) rounds (by omega)

end

/-- In every state that a run reaches, the thread cannot be told to stop; and
when the log director is freed nevertheless, each of the redirectors and of
their clients is freed, and of their descriptors the ends of the pipes are
closed, but not the log files. -/
theorem ldFree_releases {logDirectory : List UInt8} {links : Nat → Option Nat}
    {transits : List (Transit LogDirector LogOp (Option Forwarded))} {ld : LogDirector}
    (run : Run logDirector (ldNew logDirectory links) transits ld) :
    ld.ldThreadStop = -1 ∧ ∃ after enough, (∀ fuel ≥ enough, ld.ldFree fuel = some after) ∧
      (∀ ldr, after.redirectors ldr = none) ∧ (∀ address, after.clients address = none) ∧
      (∀ fd pipe, after.fdOpened fd ≠ some (.readEnd pipe) ∧
        after.fdOpened fd ≠ some (.writeEnd pipe)) ∧
      ∀ ldr redirector, ld.redirectors ldr = some redirector →
        ∃ number, after.fdOpened redirector.logfilefd = some (.log number) := by
  have h := run_redirected run
  obtain ⟨items, hholds, -⟩ := h.registered
  obtain ⟨after, enough, hrounds, hafter, hempty, hlogs⟩ := ldFree_rounds h hholds
  have hredirectors (ldr : Nat) : after.redirectors ldr = none := by
    obtain ⟨items', hholds', hitems⟩ := hafter.registered
    have hnone := LinkedList.Holds.unique hempty hholds'
    rw [← Option.not_isSome_iff_eq_none, ← hitems, ← hnone]
    exact List.not_mem_nil
  have hclients (address : Nat) : after.clients address = none := by
    cases hclient : after.clients address with
    | none => rfl
    | some client =>
      have hlisted := hafter.listed address client hclient
      rw [hredirectors] at hlisted
      cases hlisted
  refine ⟨?_, { after with events := .new }, enough, ?_, hredirectors, hclients, ?_, ?_⟩
  · rw [LogDirector.ldThreadStop, EventQueue.triggers, h.unstoppable]
    rfl
  · intro fuel hfuel
    rw [LogDirector.ldFree, hrounds fuel hfuel fuel hfuel]
  · intro fd pipe
    constructor
    · intro hfd
      obtain ⟨address, client, hclient, -⟩ := hafter.read fd pipe hfd
      rw [hclients] at hclient
      cases hclient
    · intro hfd
      obtain ⟨address, client, hclient, -⟩ := hafter.written fd pipe hfd
      rw [hclients] at hclient
      cases hclient
  · intro ldr redirector hredirector
    obtain ⟨number, hlog⟩ := h.logged ldr redirector hredirector
    exact ⟨number, hlogs _ number hlog⟩

def oneRedirect : List LogOp :=
  [.register (ascii "a") ⟨100, 5⟩, .newclient 100 ⟨some 200, some (6, 7), true, true⟩]

theorem ldFree_releases_oneRedirect : ∃ transits ld after fuel,
    logDirector.exec (ldNew [] fun _ => none) oneRedirect = some (transits, ld) ∧
      ld.fdOpened 7 = some (.writeEnd 0) ∧
      ld.ldThreadStop = -1 ∧ ld.ldFree fuel = some after ∧
        after.fdOpened 7 ≠ some (.writeEnd 0) := by
  have hrun : (logDirector.exec (ldNew [] fun _ => none) oneRedirect).any
      (fun run => run.2.fdOpened 7 == some (.writeEnd 0)) = true := by
    decide +kernel
  obtain ⟨⟨transits, ld⟩, hexec, hopened⟩ := (Option.any_eq_true _ _).mp hrun
  obtain ⟨hstop, after, enough, hfree, -, -, hclosed, -⟩ := ldFree_releases (Machine.exec_run hexec)
  exact ⟨transits, ld, after, enough, hexec, beq_iff_eq.mp hopened,
    hstop, hfree enough (Nat.le_refl _), (hclosed 7 0).2⟩

end Vmstated.Properties
