import PathSpace.Proofs.Network.Asking
import PathSpace.Proofs.Network.Workspaces
/-!
# Gets from memory storages

A get is behind all jobs that were there before it.  When its query is delivered, all that was
written before has been put into the stores, and if the get succeeds, its result is gathered
from these.

## Key results

- `Plain.settle_query`: the jobs are done and then, if the limit allows, the query is answered
- `Answered`: what a get that succeeds has gathered
- `Resting.get_cases`: after a get, whether it succeeded or not, nobody waits for replies
-/

namespace PathSpace

namespace Network

variable {n n' : Network} {q : Query} {log before : List Event}
  {queries queries' : SessionId → Nat} {s : SessionId} {h : Handle} {id : GatheringId}
  {policy : MissingTimestamp}

/-- A query was delivered behind all jobs that were there before it, and answered. -/
structure Reached (policy : MissingTimestamp) (id : GatheringId) (q : Query) (before : List Event)
    (n : Network) (log : List Event) (m : Network) (log' : List Event) (n' : Network) : Prop where
  delivered : Delivered before [.query q] n log m
  concluded : Concluded policy id q (m.popped []) log' n'
  asked : log' = (m.popped []).askAllLog q q.sources

/-- The jobs in front of a query are done and then, if the limit allows and its session is
there, the query is answered. -/
theorem Plain.settle_query (hp : Plain n) (hr : Remembers before n) {jobs : List Job}
    (hq : n.router.queue = jobs ++ [.query q]) (hw : Waits n q (some (id, policy)))
    (hjobs : ∀ q', .query q' ∈ jobs → Waits n q' none) (hg : n.gatherings.find? id = some {})
    (limit : Nat) :
    (∃ rest, rest <:+ n.router.queue ∧
        Delivered before rest n (settleLog limit n) (Network.settle limit n)) ∨
      ∃ k log', settleLog limit n = settleLog k n ++ log' ∧
        Reached policy id q before n (settleLog k n) (Network.settle k n) log'
          (Network.settle limit n) := by
  rcases Nat.lt_or_ge jobs.length limit with hlimit | hlimit
  · obtain ⟨limit, rfl⟩ := Nat.exists_eq_add_of_lt hlimit
    have hfront := hp.settle hr hq hjobs (Nat.le_refl jobs.length)
    rw [List.drop_length, List.nil_append] at hfront
    obtain ⟨hsettle, hsettleLog⟩ := settle_add jobs.length (limit + 1) n
    obtain ⟨hnext, hnextLog⟩ := settle_of_queue limit hfront.queue
    obtain ⟨hdeliver, hdeliverLog⟩ := deliverNext_of_queue hfront.queue
    have hpop := hfront.plain.popped hfront.queue
    rw [Nat.add_assoc, hsettle, hsettleLog, hnext, hnextLog, hdeliver, hdeliverLog]
    unfold deliver deliverLog
    dsimp only
    cases halive : ((Network.settle jobs.length n).popped []).isAlive q.querier with
    | false =>
      obtain ⟨hrest, hrestLog⟩ :=
        settle_of_empty (n := (Network.settle jobs.length n).popped []) limit rfl
      have hgone : Delivered (before ++ settleLog jobs.length n) [] (Network.settle jobs.length n)
          [] ((Network.settle jobs.length n).popped []) :=
        .of_still hpop hfront.remembers (.refl _) rfl (fun _ _ => rfl)
          fun e he => absurd he List.not_mem_nil
      rw [if_neg Bool.false_ne_true, if_neg Bool.false_ne_true, hrest, hrestLog]
      exact .inl ⟨[], List.nil_suffix, hfront.trans hgone⟩
    | true =>
      have hwait : Waits ((Network.settle jobs.length n).popped []) q (some (id, policy)) :=
        hw.of_board (hfront.board q.querier)
      have hconcluded := hpop.askAll_concluded hwait (hfront.gatherings ▸ hg)
        (hfront.plain.kind_of_query (hfront.queue ▸ List.mem_singleton_self _))
      obtain ⟨hrest, hrestLog⟩ := settle_of_empty limit hconcluded.queue
      rw [if_pos rfl, if_pos rfl, hrest, hrestLog, List.append_nil]
      exact .inr ⟨jobs.length, _, rfl, hfront, hconcluded, rfl⟩
  · -- the limit is reached in front of the query
    refine .inl ⟨jobs.drop limit ++ [.query q], ?_, hp.settle hr hq hjobs hlimit⟩
    rw [hq]
    exact List.suffix_append_self_iff.2 (List.drop_suffix limit jobs)

/-! ## Gets -/

/-- Only memory storages are declared, their stores hold what they have heard, and nobody waits
for replies. -/
structure Resting (queries : SessionId → Nat) (log : List Event) (n : Network) : Prop where
  plain : Plain n
  remembers : Remembers log n
  asking : Asking [] queries n

/-- A get has begun. -/
structure Begun (w : Workspace) (sel : Selector) (queries : SessionId → Nat) (n : Network)
    (g : Workspace.PendingGet) (n' : Network) : Prop extends
    Sent w.session (w.absoluteSelector sel) queries
      (Workspace.gatherListener g.gathering w.settings.missingTimestamp) n g.query n' where
  spares : Spares n n'
  gathering : n'.gatherings.find? g.gathering = some {}
  series : g.series = (w.absoluteSelector sel).isForSeries

/-- A get begins, or its query is refused. -/
private theorem Asking.beginGet (ha : Asking [] queries n) (ho : Orderly n) (w : Workspace)
    (sel : Selector) (hle : ∀ s, queries s ≤ queries' s)
    (hmore : queries w.session + 1 ≤ queries' w.session)
    (hfew : queries' w.session < HandleTable.defaultCapacity) :
    (∃ g n', (w.beginGet sel).run n = (.ok g, n') ∧ Begun w sel queries' n g n') ∨
      ∃ e n', (w.beginGet sel).run n = (.error e, n') ∧ Spares n n' ∧ Asking [] queries' n' := by
  have hquery := ha.query ho w.session (w.absoluteSelector sel)
    (Workspace.gatherListener n.nextGathering w.settings.missingTimestamp) hle hmore hfew
  rcases w.beginGet_cases sel n with ⟨p, m, hq, hbegin⟩ | ⟨e, m, hq, hbegin⟩
  -- the query went through, so the get begins
  · rcases hquery with ⟨p', m', hq', hspares, hsent⟩ | ⟨e, m', hq', -⟩
    · obtain ⟨hp, rfl⟩ := Prod.mk.inj (hq.symm.trans hq')
      obtain rfl := Except.ok.inj hp
      refine .inl ⟨_, _, hbegin, ?_⟩
      exact {
        queue := hsent.queue
        storages := hsent.storages
        around := hsent.around
        stores := hsent.stores
        listener := hsent.listener
        asking := { hsent.asking with }
        earlier := hsent.earlier
        spares := { hspares with }
        gathering := SortedMap.find?_insert_self _ _ _
        series := rfl }
    · rw [hq] at hq'
      cases hq'
  · rcases hquery with ⟨p, m', hq', -⟩ | ⟨e', m', hq', hspares, hasking⟩
    · rw [hq] at hq'
      cases hq'
    · obtain ⟨-, rfl⟩ := Prod.mk.inj (hq.symm.trans hq')
      exact .inr ⟨e, m, hbegin, hspares, hasking⟩

namespace Begun

variable {w : Workspace} {sel : Selector} {g : Workspace.PendingGet}

/-- The query of the get. -/
theorem waits (hb : Begun w sel queries n g n') :
    Waits n' (n.router.queryOf w.session (w.absoluteSelector sel).path
      (w.absoluteSelector sel).optionalPart g.query.handle)
      (some (g.gathering, w.settings.missingTimestamp)) := by
  have hlistener := hb.listener
  unfold Waits Router.queryOf
  dsimp only
  rw [hlistener]
  rfl

/-- Nobody waits for the answers to earlier queries. -/
private theorem unwaited (hb : Begun w sel queries n g n') :
    ∀ q, .query q ∈ n.router.queue → Waits n' q none := by
  intro q hq
  have hnot : (q.querier, q.handle) ∉ [(w.session, g.query.handle)] := by
    intro hmem
    exact hb.earlier q hq (Prod.mk.inj (List.mem_singleton.1 hmem))
  rw [Waits, hb.asking.find?_eq_none hnot]
  rfl

/-- A get that is given up releases its listener. -/
private theorem abandon (hb : Begun w sel queries n g n') {m : Network} (hk : Keeps n' m)
    (hboard : ∀ s, m.board s = n'.board s)
    (hq : ∀ q, .query q ∈ m.router.queue → .query q ∈ n'.router.queue) :
    Asking [] queries (w.abandonGet g m) ∧ Spares m (w.abandonGet g m) := by
  have hlistener : (m.board w.session).replies.entries.find? g.query.handle =
      some ⟨g.query.token, Workspace.gatherListener g.gathering w.settings.missingTimestamp⟩ := by
    rw [hboard]
    exact hb.listener
  have hwithin := (m.board w.session).settleReply_within g.query.handle g.query.token
  have hcancel : Asking [(w.session, g.query.handle)] queries
      (Session.cancelQuery w.session g.query m).2 :=
    (hb.asking.keeps hk hq).keeps (Keeps.setBoard m w.session hwithin) fun _ hmem => hmem
  -- the listener is still the one of the get, so its handle is given up
  have hnone : ((Session.cancelQuery w.session g.query m).2.board w.session).replies.entries.find?
      g.query.handle = none := by
    rw [Session.cancelQuery, board_setBoard_self]
    refine Switchboard.find?_settleReply fun l hl => ?_
    rw [hlistener] at hl
    cases hl
    rfl
  have hspares : Spares m (Session.cancelQuery w.session g.query m).2 :=
    (Calm.setBoard m w.session hwithin.storages).spares
  exact ⟨{ hcancel.released hnone with }, { hspares with }⟩

end Begun

/-- A get that has begun succeeds: `k` deliveries do all that was to be done before, the next
one answers the query, and the result is what was gathered. -/
structure Answered (w : Workspace) (limit : Nat) (sel : Selector) (queries : SessionId → Nat)
    (before : List Event) (n : Network) (g : Workspace.PendingGet) (n₁ : Network) (k : Nat)
    (log' : List Event) : Prop where
  begin_run : (w.beginGet sel).run n = (.ok g, n₁)
  begun : Begun w sel queries n g n₁
  log_eq : Operation.log (.get w limit sel) n = settleLog k n₁ ++ log'
  reached : Reached w.settings.missingTimestamp g.gathering
    (n.router.queryOf w.session (w.absoluteSelector sel).path (w.absoluteSelector sel).optionalPart
      g.query.handle)
    before n₁ (settleLog k n₁) (settle k n₁) log' (settle limit n₁)
  get_run : (w.get limit sel).run n =
    (.ok ((Aggregator.empty.pushAll ((reported log').filterMap
        (·.datum? (settle k n₁).around w.settings.missingTimestamp))).finish
          (w.absoluteSelector sel).isForSeries),
      { settle limit n₁ with gatherings := (settle limit n₁).gatherings.erase g.gathering })

namespace Begun

variable {w : Workspace} {sel : Selector} {g : Workspace.PendingGet} {n₁ : Network} {limit : Nat}

/-- A get that has begun is settled and concluded. -/
private theorem get_eq (limit : Nat) (hbegin : (w.beginGet sel).run n = (.ok g, n₁)) :
    Operation.log (.get w limit sel) n = settleLog limit n₁ ∧
      (w.get limit sel).run n = (w.concludeGet sel g).run (settle limit n₁) := by
  constructor
  · simp only [Operation.log, hbegin]
  · rw [w.get_run, hbegin]

/-- The limit is reached, or the session is gone, before the query is answered. -/
private theorem unanswered (hb : Begun w sel queries n g n₁)
    (hbegin : (w.beginGet sel).run n = (.ok g, n₁)) {rest : List Job}
    (hsuffix : rest <:+ n₁.router.queue)
    (hd : Delivered before rest n₁ (settleLog limit n₁) (settle limit n₁)) :
    Resting queries (before ++ Operation.log (.get w limit sel) n) ((w.get limit sel).run n).2 ∧
      (∀ e ∈ Operation.log (.get w limit sel) n, e.isQuiet = true) ∧
      ∃ e, ((w.get limit sel).run n).1 = .error e := by
  obtain ⟨hlog, hget⟩ := get_eq limit hbegin
  obtain ⟨hasking, hspares⟩ := hb.abandon (evolves_settle limit n₁).keeps hd.board fun q hq =>
    hsuffix.subset (hd.queue ▸ hq)
  -- the last event has not come, so nothing concludes the gathering
  have hgathering : (settle limit n₁).gatherings.find? g.gathering = some {} := by
    rw [hd.gatherings]
    exact hb.gathering
  rcases w.concludeGet_cases sel g (settle limit n₁) with
    ⟨aggregator, hfind, -⟩ | ⟨e, -, hconclude⟩
  · rw [hgathering] at hfind
    cases hfind
  · rw [hlog, hget, hconclude]
    exact ⟨⟨hd.plain.spares hspares, hd.remembers.spares hspares, hasking⟩, hd.quiet, e, rfl⟩

/-- The query is answered. -/
private theorem answered (hb : Begun w sel queries n g n₁)
    (hbegin : (w.beginGet sel).run n = (.ok g, n₁)) {k : Nat} {log' : List Event}
    (hsplit : settleLog limit n₁ = settleLog k n₁ ++ log')
    (hreached : Reached w.settings.missingTimestamp g.gathering
      (n.router.queryOf w.session (w.absoluteSelector sel).path
        (w.absoluteSelector sel).optionalPart g.query.handle)
      before n₁ (settleLog k n₁) (settle k n₁) log' (settle limit n₁)) :
    Resting queries (before ++ Operation.log (.get w limit sel) n) ((w.get limit sel).run n).2 ∧
      (∀ e ∈ Operation.log (.get w limit sel) n, e.isQuiet = true) ∧
      Answered w limit sel queries before n g n₁ k log' := by
  obtain ⟨hlog, hget⟩ := get_eq limit hbegin
  obtain ⟨hdelivered, hconcluded, -⟩ := id hreached
  rcases w.concludeGet_cases sel g (settle limit n₁) with
    ⟨aggregator, hfind, hconclude⟩ | ⟨e, hfind, -⟩
  · rw [hconcluded.gathering] at hfind
    cases hfind
    rw [hb.series] at hconclude
    refine ⟨?_, ?_, hbegin, hb, hlog.trans hsplit, hreached, hget.trans hconclude⟩
    · have hpop := hdelivered.plain.popped hdelivered.queue
      have hempty : (settle limit n₁).router.queue = [] := hconcluded.queue
      -- nobody waits: the one listener that did was released with the last reply
      have hasking := (hb.asking.keeps (evolves_settle limit n₁).keeps fun q hq =>
        absurd (hempty ▸ hq) List.not_mem_nil).released hconcluded.released
      have hrpop : Remembers (before ++ settleLog k n₁) ((settle k n₁).popped []) :=
        hdelivered.remembers
      have hremembers := (hrpop.calm hconcluded.toCalm).append
        fun s h => heardBy_of_inner hconcluded.inner s h
      rw [hget, hconclude, hlog, hsplit, ← List.append_assoc]
      exact ⟨{ hpop.calm hconcluded.toCalm with }, hremembers, { hasking with }⟩
    · rw [hlog, hsplit]
      exact List.forall_mem_append.2 ⟨hdelivered.quiet, hconcluded.quiet⟩
  · exact absurd hconcluded.gathering (hfind _)

end Begun

/-- A network in which nobody waits stays so. -/
theorem Resting.get_cases (hn : Resting queries before n) (ho : Orderly n) (w : Workspace)
    (limit : Nat) (sel : Selector) (hle : ∀ s, queries s ≤ queries' s)
    (hmore : queries w.session + 1 ≤ queries' w.session)
    (hfew : queries' w.session < HandleTable.defaultCapacity) :
    Resting queries' (before ++ Operation.log (.get w limit sel) n) ((w.get limit sel).run n).2 ∧
      (∀ e ∈ Operation.log (.get w limit sel) n, e.isQuiet = true) ∧
      ((∃ e, ((w.get limit sel).run n).1 = .error e) ∨
        ∃ g n₁ k log', Answered w limit sel queries' before n g n₁ k log') := by
  rcases hn.asking.beginGet ho w sel hle hmore hfew with
    ⟨g, n₁, hbegin, hbegun⟩ | ⟨e, n₁, hbegin, hspares, hasking⟩
  · have hp := hn.plain.spares hbegun.spares
    -- the limit is reached before the answer is complete, or it is not
    rcases hp.settle_query (hn.remembers.spares hbegun.spares) hbegun.queue hbegun.waits
      hbegun.unwaited hbegun.gathering limit with
      ⟨rest, hsuffix, hdelivered⟩ | ⟨k, log', hsplit, hreached⟩
    · obtain ⟨hresting, hquiet, herr⟩ := hbegun.unanswered hbegin hsuffix hdelivered
      exact ⟨hresting, hquiet, .inl herr⟩
    · obtain ⟨hresting, hquiet, hanswered⟩ := hbegun.answered hbegin hsplit hreached
      exact ⟨hresting, hquiet, .inr ⟨g, n₁, k, log', hanswered⟩⟩
  · have hlog : Operation.log (.get w limit sel) n = [] := by
      simp only [Operation.log, hbegin]
    have hget : (w.get limit sel).run n = (.error e, n₁) := by
      rw [w.get_run, hbegin]
    rw [hlog, hget, List.append_nil]
    refine ⟨⟨hn.plain.spares hspares, hn.remembers.spares hspares, hasking⟩, ?_, .inl ⟨e, rfl⟩⟩
    exact fun e he => absurd he List.not_mem_nil

end Network

end PathSpace
