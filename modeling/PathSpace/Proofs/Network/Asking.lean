import PathSpace.Proofs.Network.Gathered
import PathSpace.Proofs.Network.Orderly
/-!
# Those who wait for answers

If queries are sent one at a time, and each is given up before the next one is sent, then at
most one listener waits for replies, and no answer to an earlier query can reach it: its
handle was not given out before.

## Key results

- `Asking`: who waits for replies
- `Asking.query`: once a query has been sent, its listener waits, and it alone
-/

namespace PathSpace

namespace Network

variable {n n' : Network} {q : Query} {waiting : List (SessionId × Handle)}
  {queries queries' : SessionId → Nat} {s : SessionId} {h : Handle}

/-- Nobody waits for replies but under the given handles.  No handle was given out twice, and
the counters have not gone further than there were queries. -/
structure Asking (waiting : List (SessionId × Handle)) (queries : SessionId → Nat)
    (n : Network) : Prop where
  only : ∀ s h l, (n.board s).replies.entries.find? h = some l → (s, h) ∈ waiting
  capacity : ∀ s, (n.board s).replies.capacity = HandleTable.defaultCapacity
  next_le : ∀ s, (n.board s).replies.next ≤ queries s
  asked : ∀ q, .query q ∈ n.router.queue →
    q.querier < n.router.nextSession ∧ q.handle < (n.board q.querier).replies.next

namespace Asking

/-- What is kept up while nobody asks. -/
theorem within (ha : Asking waiting queries n) (hb : ∀ s, (n'.board s).Within (n.board s))
    (hn : n.router.nextSession ≤ n'.router.nextSession)
    (hq : ∀ q, .query q ∈ n'.router.queue → .query q ∈ n.router.queue)
    (hle : ∀ s, queries s ≤ queries' s) : Asking waiting queries' n' where
  only s h l hl := ha.only s h l ((hb s).replies_find h l hl)
  capacity s := (hb s).replies_capacity.trans (ha.capacity s)
  next_le s := by
    rw [(hb s).replies_next]
    exact Nat.le_trans (ha.next_le s) (hle s)
  asked q hmem := by
    obtain ⟨hlt, hh⟩ := ha.asked q (hq q hmem)
    exact ⟨Nat.lt_of_lt_of_le hlt hn, (hb _).replies_next.symm ▸ hh⟩

theorem keeps (ha : Asking waiting queries n) (hk : Keeps n n')
    (hq : ∀ q, .query q ∈ n'.router.queue → .query q ∈ n.router.queue) :
    Asking waiting queries n' :=
  ha.within hk.board (Nat.le_of_eq hk.nextSession.symm) hq fun _ => Nat.le_refl _

/-- The listener that waited is gone. -/
theorem released (ha : Asking [(s, h)] queries n)
    (hnone : (n.board s).replies.entries.find? h = none) : Asking [] queries n where
  only s' h' l hl := by
    obtain ⟨rfl, rfl⟩ := Prod.mk.inj (List.mem_singleton.1 (ha.only s' h' l hl))
    rw [hnone] at hl
    cases hl
  capacity := ha.capacity
  next_le := ha.next_le
  asked := ha.asked

theorem find?_eq_none (ha : Asking waiting queries n) (hnot : (s, h) ∉ waiting) :
    (n.board s).replies.entries.find? h = none := by
  cases hf : (n.board s).replies.entries.find? h with
  | none => rfl
  | some l => exact absurd (ha.only s h l hf) hnot

end Asking

/-! ## Asking -/

private theorem board_withReplies (n : Network) (s : SessionId)
    (t : HandleTable (ReplyListener Surroundings Effect)) (s' : SessionId) :
    (Session.withTable n .replies s t).board s' =
      if s' = s then { n.board s with replies := t } else n.board s' :=
  board_setBoard n s s' _

private theorem Spares.withReplies (n : Network) (s : SessionId)
    (t : HandleTable (ReplyListener Surroundings Effect)) :
    Spares n (Session.withTable n .replies s t) :=
  (Calm.setBoard n s (b := { n.board s with replies := t }) rfl).spares

/-- A failure of the router uses up what was arranged, at most. -/
private theorem Spares.withFailure (n : Network) (failure : Option ArrangedFailure) :
    Spares n (Session.withRouter n { n.router with failure }) :=
  { Spares.refl n with }

/-- A query was sent.  It is the last job, its listener waits, and nothing else has changed that
gets could notice. -/
structure Sent (s : SessionId) (sel : Selector) (queries : SessionId → Nat)
    (l : Surroundings → ReplyEvent → Script Effect) (n : Network) (p : PendingQuery)
    (n' : Network) : Prop where
  queue : n'.router.queue = n.router.queue ++
    [.query (n.router.queryOf s sel.path sel.optionalPart p.handle)]
  storages : n'.router.storages = n.router.storages
  around : n'.around = n.around
  stores : ∀ s', (n'.board s').storages = (n.board s').storages
  listener : (n'.board s).replies.entries.find? p.handle = some ⟨p.token, l⟩
  asking : Asking [(s, p.handle)] queries n'
  earlier : ∀ q, .query q ∈ n.router.queue → ¬(q.querier = s ∧ q.handle = p.handle)

/-- A listener for replies comes, and one that is there goes. -/
private theorem Asking.withReplies (ha : Asking [] queries n) (s : SessionId)
    {t : HandleTable (ReplyListener Surroundings Effect)}
    (hcapacity : t.capacity = HandleTable.defaultCapacity)
    (hnext : (n.board s).replies.next ≤ t.next) (hnext' : t.next ≤ queries' s)
    (hle : ∀ s, queries s ≤ queries' s)
    (honly : ∀ h l, t.entries.find? h = some l → (s, h) ∈ waiting) :
    Asking waiting queries' (Session.withTable n .replies s t) where
  only s' h' l hl := by
    rw [board_withReplies] at hl
    split at hl
    · next heq => exact heq ▸ honly h' l hl
    · exact absurd (ha.only s' h' l hl) List.not_mem_nil
  capacity s' := by
    rw [board_withReplies]
    split
    · exact hcapacity
    · exact ha.capacity s'
  next_le s' := by
    rw [board_withReplies]
    split
    · next heq => exact heq ▸ hnext'
    · exact Nat.le_trans (ha.next_le s') (hle s')
  -- earlier queries have handles below the counter, wherever that is now
  asked q hq := by
    obtain ⟨hlt, hh⟩ := ha.asked q hq
    refine ⟨hlt, ?_⟩
    rw [board_withReplies]
    split
    · next heq => exact Nat.lt_of_lt_of_le (heq ▸ hh) hnext
    · exact hh

/-- A query in a plain network asks storages only. -/
private theorem Plain.isPlain_queryOf (hp : Plain n) (s : SessionId)
    (expression optionalPart : String)
    (h : Handle) : (Job.query (n.router.queryOf s expression optionalPart h)).isPlain = true := by
  simp [Job.isPlain, Router.queryOf, Router.sourcesFor, hp.evals]

/-- A new listener gets a handle that is on no query. -/
private theorem Asking.parked (ha : Asking [] queries n) (s : SessionId)
    {l : ReplyListener Surroundings Effect} {t : HandleTable (ReplyListener Surroundings Effect)}
    (hreg : (n.board s).replies.register l = .ok (h, t)) (hle : ∀ s, queries s ≤ queries' s)
    (hmore : queries s + 1 ≤ queries' s) (hfew : queries' s < HandleTable.defaultCapacity) :
    Asking [(s, h)] queries' (Session.withTable n .replies s t) ∧
      h = (n.board s).replies.next ∧ h < t.next ∧ t.entries.find? h = some l := by
  -- nobody waits, so the handle at the counter is free
  have hround : (n.board s).replies.InFirstRound := fun h l hl =>
    absurd (ha.only s h l hl) List.not_mem_nil
  have hcount : (n.board s).replies.next + 1 ≤ queries' s :=
    Nat.le_trans (Nat.succ_le_succ (ha.next_le s)) hmore
  have hroom : (n.board s).replies.next + 1 < (n.board s).replies.capacity := by
    rw [ha.capacity]
    exact Nat.lt_of_le_of_lt hcount hfew
  obtain ⟨t', hok, -, hnext, hcapacity, hfind⟩ := hround.register hroom l
  obtain ⟨rfl, rfl⟩ := Prod.mk.inj (Except.ok.inj (hok.symm.trans hreg))
  refine ⟨?_, rfl, hnext.symm ▸ Nat.lt_succ_self _, (hfind _).trans (if_pos rfl)⟩
  refine ha.withReplies s (hcapacity.trans (ha.capacity s)) (hnext.symm ▸ Nat.le_succ _)
    (hnext.symm ▸ hcount) hle fun h' l' hl' => ?_
  rw [hfind, ha.find?_eq_none List.not_mem_nil] at hl'
  split at hl'
  · next heq => exact heq ▸ List.mem_singleton_self _
  · cases hl'

/-- A query is sent under a new handle. -/
private theorem Asking.sent (ha : Asking [] queries n) (s : SessionId)
    (hs : s < n.router.nextSession)
    (sel : Selector) {l : ReplyListener Surroundings Effect}
    {t : HandleTable (ReplyListener Surroundings Effect)}
    (hreg : (n.board s).replies.register l = .ok (h, t)) (hle : ∀ s, queries s ≤ queries' s)
    (hmore : queries s + 1 ≤ queries' s) (hfew : queries' s < HandleTable.defaultCapacity) :
    Sent s sel queries' l.call n ⟨h, l.token⟩ (Session.withRouter
      (Session.withTable n .replies s t)
      { n.router with queue :=
          n.router.queue ++ [.query (n.router.queryOf s sel.path sel.optionalPart h)] }) := by
  obtain ⟨hparked, hh, hlt, hfind⟩ := ha.parked s hreg hle hmore hfew
  refine ⟨rfl, rfl, rfl, ?_, ?_, { hparked with asked := ?_ }, ?_⟩
  · intro s'
    rw [Session.withRouter_board, board_withReplies]
    split
    · next heq => rw [heq]
    · rfl
  · rw [Session.withRouter_board, board_withReplies, if_pos rfl]
    exact hfind
  · intro q hq
    rcases List.mem_append.1 hq with hq | hq
    · exact hparked.asked q hq
    · obtain rfl := Job.query.inj (List.mem_singleton.1 hq)
      refine ⟨hs, ?_⟩
      rw [Session.withRouter_board, board_withReplies]
      exact (if_pos rfl).symm ▸ hlt
  · -- earlier queries have handles below the counter, and this one has the one at it
    rintro q hq ⟨rfl, rfl⟩
    exact Nat.lt_irrefl _ (hh ▸ (ha.asked q hq).2)

/-- A listener for replies is taken back. -/
private theorem Asking.take (ha : Asking [(s, h)] queries n) :
    Asking [] queries (Session.take .replies s h n) := by
  have hboard : ∀ s', (Session.take .replies s h n).board s' =
      if s' = s then { n.board s with replies := (n.board s).replies.remove h }
      else n.board s' := board_withReplies n s _
  -- one pending query less, and nothing else
  have hwithin : ∀ s', ((Session.take .replies s h n).board s').Within (n.board s') := by
    intro s'
    rw [hboard]
    split
    · next heq => exact heq ▸ (n.board s).within_remove h
    · exact .refl _
  refine (ha.within hwithin (Nat.le_refl _) (fun _ hq => hq) fun _ => Nat.le_refl _).released ?_
  rw [hboard, if_pos rfl]
  exact (HandleTable.find?_remove _ h h).trans (if_pos rfl)

/-- A query is sent, or refused. -/
theorem Asking.query (ha : Asking [] queries n) (ho : Orderly n) (s : SessionId) (sel : Selector)
    (l : Surroundings → ReplyEvent → Script Effect) (hle : ∀ s, queries s ≤ queries' s)
    (hmore : queries s + 1 ≤ queries' s) (hfew : queries' s < HandleTable.defaultCapacity) :
    (∃ p n', (Session.query s sel l).run n = (.ok p, n') ∧ Spares n n' ∧
        Sent s sel queries' l n p n') ∨
      ∃ e n', (Session.query s sel l).run n = (.error e, n') ∧ Spares n n' ∧
        Asking [] queries' n' := by
  -- the network with the next token, which is what the listener is parked in
  have ha₀ : Asking [] queries { n with tokens := n.tokens + 1 } := { ha with }
  have hs₀ : Spares n { n with tokens := n.tokens + 1 } := { Spares.refl n with }
  have hop : ∀ h, Router.EndsIn (Router.query s sel.path sel.optionalPart h) n.router fun r =>
      r = { n.router with queue :=
        n.router.queue ++ [.query (n.router.queryOf s sel.path sel.optionalPart h)] } := fun h =>
    .of_cases (Router.query_cases s sel.path sel.optionalPart h n.router) rfl
  rw [Session.query_run]
  rcases Session.declare_cases .replies s "Query" sel.path ⟨n.tokens, l⟩
    (Router.query s sel.path sel.optionalPart) { n with tokens := n.tokens + 1 } with
    ⟨h, t, r, hopen, hreg, hok, hrun⟩ | ⟨h, t, fault, r, e, -, hreg, herr, hrun⟩ | ⟨e, hrun⟩
  · obtain rfl := (hop h).of_run_ok hok
    refine .inl ⟨⟨h, n.tokens⟩, _, by rw [hrun]; rfl, ?_, ?_⟩
    · refine { hs₀.trans (Spares.withReplies _ s t) with jobs := fun hp job hjob => ?_ }
      rcases List.mem_append.1 hjob with hjob | hjob
      · exact hp.jobs job hjob
      · obtain rfl := List.mem_singleton.1 hjob
        exact hp.isPlain_queryOf s _ _ h
    · have hsent := ha₀.sent s (ho.lt_of_open hopen) sel hreg hle hmore hfew
      exact { hsent with }
  · obtain ⟨failure, rfl⟩ := (hop h).of_run_error herr
    refine .inr ⟨e, _, by rw [hrun]; rfl, ?_, ?_⟩
    · exact ((hs₀.trans (.withReplies _ s t)).trans (.withFailure _ failure)).trans
        (.withReplies _ s _)
    · obtain ⟨hparked, -⟩ := ha₀.parked s hreg hle hmore hfew
      have hfailed : Asking [(s, h)] queries' (Session.withRouter
          (Session.withTable { n with tokens := n.tokens + 1 } .replies s t)
          { n.router with failure }) := { hparked with }
      exact hfailed.take
  · refine .inr ⟨e, _, by rw [hrun]; rfl, hs₀, ?_⟩
    exact ha₀.within (fun _ => .refl _) (Nat.le_refl _) (fun _ hq => hq) hle

end Network

end PathSpace
