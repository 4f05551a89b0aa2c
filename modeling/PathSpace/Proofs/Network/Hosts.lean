import PathSpace.Proofs.Network.Runs
import PathSpace.Proofs.Network.Seat
/-!
# Sessions that are held

A session is let go by those who hold it, and by nothing else.  What comes to a session that
is held is never missed.

## Key results

- `HeldAt.of_run`: a session that is held was held all the time
- `not_missed_runLog`: nothing that comes to it is missed
-/

namespace PathSpace

open PathSpace.Computation
open Text (Bytes)

/-- Whether an event is one that a call to a listener or an answer to a query brings about. -/
def Event.isInner : Event → Bool
  | .ticked .. | .wrote .. | .told .. => true
  | _ => false

/-- What is heard, written, asked or answered is not missed by anybody. -/
private theorem Event.not_missed_of_isInner {e : Event} {a : Audience} {s : SessionId}
    (h : e.isInner = true) : e.isMissed a s = false := by
  cases e with
  | ticked | wrote | told => rfl
  | _ => cases h

namespace Network

variable {n n' : Network} {α : Type} {s : SessionId} {a : Audience}

/-! ## Operations let no session go -/

namespace SameHosts

/-- The router may change without the sessions. -/
private theorem withRouter (n : Network) (r : Router) :
    SameHosts n (Session.withRouter n r) := .of_eq rfl

/-- A table of a session may change without the session being let go. -/
private theorem withTable (n : Network) (tray : Tray α) (s : SessionId) (t : HandleTable α) :
    SameHosts n (Session.withTable n tray s t) :=
  .setBoard n s _

/-- To declare lets no session go. -/
private theorem declare (tray : Tray α) (s : SessionId) (operation resource : String) (listener : α)
    (op : Handle → Routing Unit) (n : Network) :
    SameHosts n ((Session.declare tray s operation resource listener op).run n).2 := by
  rcases Session.declare_cases tray s operation resource listener op n with
    ⟨h, t, r, -, -, -, hrun⟩ | ⟨h, t, fault, r, e, -, -, -, hrun⟩ | ⟨e, hrun⟩
  -- declared: the listener is parked, and the router knows of it
  · rw [hrun]
    exact (withTable n tray s t).trans (withRouter _ r)
  · rw [hrun]
    -- refused: it is taken out again
    exact ((withTable n tray s t).trans (withRouter _ r)).trans (withTable _ tray s _)
  · rw [hrun]
    exact .refl n

/-- To undeclare lets no session go. -/
private theorem undeclare (tray : Tray α) (s : SessionId) (operation resource : String) (h : Handle)
    (op : Routing Unit) (n : Network) :
    SameHosts n ((Session.undeclare tray s operation resource h op).run n).2 := by
  rcases Session.undeclare_cases tray s operation resource h op n with
    ⟨r, -, -, hrun⟩ | ⟨fault, r, e, -, hrun⟩ | ⟨e, hrun⟩
  · rw [hrun]
    exact (withRouter n r).trans (withTable _ tray s _)
  · rw [hrun]
    exact withRouter n r
  · rw [hrun]
    exact .refl n

/-- A call that only asks the router lets no session go. -/
private theorem asked {act : Action Unit} {op : Routing Unit} (hact : Session.Asked op act n) :
    SameHosts n (act.run n).2 := by
  cases hact with
  | done r _ hrun =>
    rw [hrun]
    exact withRouter n r
  | refused fault r e _ hrun =>
    rw [hrun]
    exact withRouter n r
  | untried e hrun =>
    rw [hrun]
    exact .refl n

/-- A workspace that writes lets no session go. -/
private theorem workspaceWrite (w : Workspace) (p : Path) (payload : Bytes) (e : Encoding)
    (kind : ChangeKind) (n : Network) : SameHosts n ((w.write p payload e kind).run n).2 := by
  rw [w.write_run]
  cases w.absolutePath p with
  | ok path => exact asked (Session.write_cases w.session path payload e kind n)
  | error err => exact .refl n

/-- To send a query lets no session go. -/
private theorem query (s : SessionId) (sel : Selector)
    (l : Surroundings → ReplyEvent → Script Effect)
    (n : Network) : SameHosts n ((Session.query s sel l).run n).2 := by
  have hnext : SameHosts n { n with tokens := n.tokens + 1 } := .of_eq rfl
  rw [Session.query_run]
  exact hnext.trans (declare _ s _ _ _ _ _)

/-- The first half of a get lets no session go. -/
theorem beginGet (w : Workspace) (sel : Selector) (n : Network) :
    SameHosts n ((w.beginGet sel).run n).2 := by
  have hquery := query w.session (w.absoluteSelector sel)
    (Workspace.gatherListener n.nextGathering w.settings.missingTimestamp) n
  rcases w.beginGet_cases sel n with ⟨query, m, hq, hbegin⟩ | ⟨e, m, hq, hbegin⟩
  · rw [hq] at hquery
    rw [hbegin]
    exact hquery.trans (.of_eq rfl)
  · rw [hq] at hquery
    rw [hbegin]
    exact hquery

/-- The second half of a get lets no session go. -/
private theorem concludeGet (w : Workspace) (sel : Selector) (g : Workspace.PendingGet)
    (n : Network) :
    SameHosts n ((w.concludeGet sel g).run n).2 := by
  rcases w.concludeGet_cases sel g n with ⟨aggregator, -, hconclude⟩ | ⟨e, -, hconclude⟩
  · rw [hconclude]
    exact .of_eq rfl
  · rw [hconclude]
    exact (SameHosts.setBoard _ _ _).trans (.of_eq rfl)

/-- A get lets no session go, whatever it delivers in between. -/
private theorem get (w : Workspace) (limit : Nat) (sel : Selector) (n : Network) :
    SameHosts n ((w.get limit sel).run n).2 := by
  have hbegin := beginGet w sel n
  rw [w.get_run]
  generalize (w.beginGet sel).run n = outcome at hbegin ⊢
  rcases outcome with ⟨e | g, m⟩
  · exact hbegin
  · exact (hbegin.trans (evolves_settle limit m).keeps.toSameHosts).trans (concludeGet w sel g _)

/-- To declare a storage lets no session go. -/
private theorem declareStorage (s : SessionId) (sel : Selector)
    (l : StorageListener Surroundings Effect)
    (n : Network) : SameHosts n ((Session.declareStorage s sel l).run n).2 := by
  rw [Session.declareStorage, run_bind_pure]
  exact declare _ s _ _ _ _ n

/-- To declare a storage in memory lets no session go. -/
private theorem declareMemory (s : SessionId) (sel : Selector) (n : Network) :
    SameHosts n ((MemoryStorage.declare s sel).run n).2 := by
  have hnext : SameHosts n { n with nextStore := n.nextStore + 1 } := .of_eq rfl
  rw [MemoryStorage.declare_run]
  exact hnext.trans (declareStorage s sel _ _)

/-- To open a session lets no other go. -/
private theorem openSession (locator : Option String) (properties : Properties) (n : Network) :
    SameHosts n ((Session.openSession locator properties).run n).2 := by
  rcases Session.openSession_cases locator properties n with hrun | ⟨failure, e, hrun⟩
  · rw [hrun]
    exact (withRouter n _).trans (.setBoard _ _ _)
  · rw [hrun]
    exact withRouter n _

/-- To declare a subscriber lets no session go. -/
private theorem declareSubscriber (s : SessionId) (sel : Selector) (mode : SubMode)
    (l : DataListener Surroundings Effect) (n : Network) :
    SameHosts n ((Session.declareSubscriber s sel mode l).run n).2 := by
  rw [Session.declareSubscriber, run_bind_pure]
  exact declare _ s _ _ _ _ n

/-- Nobody lets a session go but those who hold it. -/
private theorem run (op : Operation) (hop : ∀ sessions workspaces, op ≠ .letGo sessions workspaces)
    (n : Network) : SameHosts n (op.run n) := by
  -- only letting go itself is excluded
  cases op with
  | showWall | failNext | stampReplies => exact .of_eq rfl
  | letGo sessions workspaces => exact absurd rfl (hop sessions workspaces)
  | deliver => exact n.evolves_deliverNext.keeps.toSameHosts
  | answerParked i replies => exact (n.evolves_answerParked i replies).keeps.toSameHosts
  | openSession locator properties => exact openSession locator properties n
  | close s => exact asked (Session.close_cases s n)
  | write s path payload e kind => exact asked (Session.write_cases s path payload e kind n)
  | declareSubscriber s sel mode l => exact declareSubscriber s sel mode l n
  | undeclareSubscriber s sub => exact undeclare _ s _ _ _ _ n
  | pull s sub => exact asked (Session.pull_cases s sub n)
  | declareStorage s sel l => exact declareStorage s sel l n
  | undeclareStorage s storage => exact undeclare _ s _ _ _ _ n
  | declareMemory s sel => exact declareMemory s sel n
  | declareEval s path l =>
    change SameHosts n ((Session.declareEval s path l).run n).2
    rw [Session.declareEval, run_bind_pure]
    exact declare _ s _ _ _ _ n
  | undeclareEval s eval => exact undeclare _ s _ _ _ _ n
  | query s sel l => exact query s sel l n
  | cancelQuery s q => exact .setBoard n s _
  | put w p v => exact workspaceWrite w p v.encode v.encoding .put n
  | update w p v => exact workspaceWrite w p v.encode v.encoding .update n
  | remove w p => exact workspaceWrite w p [] .raw .remove n
  | get w limit sel => exact get w limit sel n
  | subscribe w sel l =>
    change SameHosts n ((w.subscribe sel l).run n).2
    rw [w.subscribe_run]
    exact declareSubscriber w.session _ .push _ n
  | unsubscribe w k =>
    change SameHosts n ((w.unsubscribe k).run n).2
    rw [w.unsubscribe_run]
    cases w.subscriptions.find? k with
    | none => exact .refl n
    | some sub => exact undeclare _ w.session _ _ _ _ n

end SameHosts

/-! ## Sessions that are held -/

/-- Nobody has let a session go. -/
def HeldAt (s : SessionId) (n : Network) : Prop := (n.hosts.find? s).all (·.held) = true

/-- What lets no session go leaves a held session held. -/
theorem HeldAt.same (h : HeldAt s n) (hs : SameHosts n n') : HeldAt s n' :=
  (hs.held s).trans h

/-- A session that ever had listeners and was not let go is alive. -/
private theorem HeldAt.isAlive (h : HeldAt s n) (hnext : 0 < (a.tray.table (n.board s)).next) :
    n.isAlive s = true := by
  unfold HeldAt at h
  cases hf : n.hosts.find? s with
  | none =>
    -- without a host the session never had a listener
    have hboard : n.board s = {} := by rw [board, hf]; rfl
    rw [hboard] at hnext
    cases a <;> exact absurd hnext (Nat.lt_irrefl 0)
  | some host =>
    rw [hf] at h
    have hheld : host.held = true := h
    rw [Network.isAlive, hf, Option.any_some, hheld, Bool.true_or]

/-- A session that is held after sessions were let go was held before. -/
private theorem HeldAt.of_letGo {sessions : List SessionId}
    {workspaces : SortedMap WorkspaceId SessionId}
    (h : HeldAt s (n.letGo sessions workspaces)) : HeldAt s n := by
  unfold HeldAt Network.letGo keepOnly at h
  dsimp only at h
  rw [SortedMap.find?_mapValues] at h
  unfold HeldAt
  -- a session that does not exist counts as held
  cases hf : n.hosts.find? s with
  | none => rfl
  | some host =>
    rw [hf] at h
    have hmem : s ∈ sessions.filter fun s => (n.hosts.find? s).any (·.held) := by simpa using h
    have hheld := (List.mem_filter.1 hmem).2
    rw [hf] at hheld
    exact hheld

/-- A session that is held was held all the time. -/
theorem HeldAt.of_run {op : Operation} (h : HeldAt s (op.run n)) : HeldAt s n := by
  by_cases hgo : ∃ sessions workspaces, op = .letGo sessions workspaces
  · obtain ⟨sessions, workspaces, rfl⟩ := hgo
    exact h.of_letGo
  · have hsame :=
      SameHosts.run op (fun sessions workspaces heq => hgo ⟨sessions, workspaces, heq⟩) n
    exact (hsame.held s).symm.trans h

/-- Whoever is held at the end of a run was held all along. -/
private theorem HeldAt.of_runAll {ops : List Operation} (h : HeldAt s (n.runAll ops)) :
    HeldAt s n := by
  induction ops generalizing n with
  | nil => exact h
  | cons op rest ih => exact (ih h).of_run

/-- A session is held as long as nobody lets any session go. -/
theorem HeldAt.runAll {ops : List Operation} (h : HeldAt s n)
    (hops : ∀ op ∈ ops, ∀ sessions workspaces, op ≠ .letGo sessions workspaces) :
    HeldAt s (n.runAll ops) := by
  induction ops generalizing n with
  | nil => exact h
  | cons op rest ih =>
    obtain ⟨hop, hrest⟩ := List.forall_mem_cons.1 hops
    exact ih (h.same (SameHosts.run op hop n)) hrest

/-! ## What a call brings about -/

/-- All that an effect brings about is a write. -/
private theorem written_performLog (n : Network) (effect : Effect) :
    ∀ e ∈ n.performLog effect, e.written?.isSome = true := by
  intro e he
  cases effect with
  | publish workspace path value =>
    unfold performLog at he
    dsimp only at he
    split at he
    · split at he
      · obtain rfl := List.mem_singleton.1 he
        rfl
      · cases he
    · cases he
  | _ => cases he

/-- All that a list of effects brings about are writes. -/
private theorem written_effectsLog (n : Network) (effects : List Effect) :
    ∀ e ∈ n.effectsLog effects, e.written?.isSome = true := by
  induction effects generalizing n with
  | nil => intro e he; cases he
  | cons effect rest ih =>
    exact List.forall_mem_append.2 ⟨n.written_performLog effect, ih (n.perform effect)⟩

/-- A call to a listener brings about nothing but writes. -/
theorem written_absorbLog (n : Network) (s : SessionId) (r : Reaction Surroundings Effect) :
    ∀ e ∈ n.absorbLog s r, e.written?.isSome = true :=
  written_effectsLog _ r.effects

/-- What follows from a listener's reaction is missed by nobody. -/
private theorem inner_absorbLog (n : Network) (s : SessionId) (r : Reaction Surroundings Effect) :
    ∀ e ∈ n.absorbLog s r, e.isInner = true := by
  intro e he
  have hwritten := n.written_absorbLog s r e he
  cases e with
  | wrote => rfl
  | _ => cases hwritten

/-- What follows from an event of a query is missed by nobody. -/
private theorem inner_reportLog (n : Network) (q : Query) (event : ReplyEvent) :
    ∀ e ∈ n.reportLog q event, e.isInner = true :=
  List.forall_mem_cons.2 ⟨rfl, n.inner_absorbLog _ _⟩

/-- What follows from the time stamp of a reply is missed by nobody. -/
private theorem inner_stampLog (n : Network) (q : Query) (sample : Sample) :
    ∀ e ∈ n.stampLog q sample, e.isInner = true := by
  intro e he
  unfold stampLog at he
  split at he
  · obtain rfl := List.mem_singleton.1 he
    rfl
  · cases he

/-- What follows from the replies of a source is missed by nobody. -/
private theorem inner_repliesLog (q : Query) (kind : SourceKind) (n : Network)
    (replies : List Sample) :
    ∀ e ∈ repliesLog q kind n replies, e.isInner = true := by
  induction replies generalizing n with
  | nil => intro e he; cases he
  | cons reply rest ih =>
    exact List.forall_mem_append.2
      ⟨List.forall_mem_append.2 ⟨n.inner_stampLog q reply, inner_reportLog _ q _⟩, ih _⟩

/-- What follows from the replies and the end of a source is missed by nobody. -/
private theorem inner_reportSourceLog (n : Network) (q : Query) (source : Source)
    (replies : List Sample) : ∀ e ∈ n.reportSourceLog q source replies, e.isInner = true :=
  List.forall_mem_append.2 ⟨inner_repliesLog q source.kind n replies, inner_reportLog _ q _⟩

/-- What follows from asking sources is missed by nobody. -/
theorem inner_askAllLog (n : Network) (q : Query) (sources : List Source) :
    ∀ e ∈ n.askAllLog q sources, e.isInner = true := by
  induction sources generalizing n with
  | nil => exact n.inner_reportLog q .replyFinal
  | cons source rest ih =>
    unfold askAllLog
    dsimp only
    refine List.forall_mem_append.2 ⟨n.inner_absorbLog _ _, ?_⟩
    -- if the source keeps its sender, the others are not asked yet
    split
    · intro e he
      cases he
    · exact List.forall_mem_append.2 ⟨inner_reportSourceLog _ q source _, ih _⟩

/-- What follows from an answer to a kept query is missed by nobody. -/
private theorem inner_resumeLog (n : Network) (p : ParkedQuery) (replies : List Sample) :
    ∀ e ∈ n.resumeLog p replies, e.isInner = true :=
  List.forall_mem_append.2 ⟨n.inner_reportSourceLog p.query p.source replies, inner_askAllLog _ _ _⟩

/-! ## What comes to a session that is held -/

/-- In particular it is not missed by this one. -/
private theorem not_missed_of_inner {log : List Event} (h : ∀ e ∈ log, e.isInner = true) :
    ∀ e ∈ log, e.isMissed a s = false :=
  fun e he => Event.not_missed_of_isInner (h e he)

/-- To bring a sample is only to miss it where the session is gone. -/
private theorem not_missed_bringLog (n : Network) (b : Audience) (s' : SessionId) (h : Handle)
    (sample : Sample) (listener : Option (DataListener Surroundings Effect))
    (r : Reaction Surroundings Effect) (halive : b = a → s' = s → n.isAlive s' = true) :
    ∀ e ∈ n.bringLog b s' h sample listener r, e.isMissed a s = false := by
  unfold bringLog
  split
  · refine List.forall_mem_cons.2 ⟨?_, not_missed_of_inner (n.inner_absorbLog s' r)⟩
    cases listener <;> rfl
  · next hgone =>
    refine List.forall_mem_singleton.2 ?_
    rw [Event.isMissed, Bool.and_eq_false_iff, beq_eq_false_iff_ne, beq_eq_false_iff_ne]
    -- what another audience misses is not missed here
    by_cases hb : b = a
    · exact .inr fun hs => hgone (halive hb hs)
    · exact .inl hb

/-- What comes next is not missed by a session that is held. -/
private theorem not_missed_deliverNextLog {log : List Event} (hheld : HeldAt s n)
    (htidy : Desk.Tidy a log (n.desk a)) : ∀ e ∈ n.deliverNextLog, e.isMissed a s = false := by
  -- whoever a job is for has a listener behind the counter, so the session was opened
  have halive : ∀ j ∈ (n.desk a).jobs, j.1 = s → n.isAlive s = true := by
    rintro j hj rfl
    exact hheld.isAlive (a := a) (Nat.lt_of_le_of_lt (Nat.zero_le _) (htidy.jobs_lt j hj))
  unfold deliverNextLog
  cases hq : n.router.queue with
  | nil => intro e he; cases he
  | cons job rest =>
    have hjob : ∀ j, a.job? job = some j → j ∈ (n.desk a).jobs := by
      intro j hj
      rw [desk, hq, Audience.jobs, List.filterMap_cons, hj]
      exact List.mem_cons_self
    cases job with
    | subscriber s' h sample =>
      refine not_missed_bringLog _ _ s' h sample _ _ ?_
      rintro rfl rfl
      exact halive _ (hjob _ rfl) rfl
    | storage s' h sample =>
      refine not_missed_bringLog _ _ s' h sample _ _ ?_
      rintro rfl rfl
      exact halive _ (hjob _ rfl) rfl
    | query q =>
      unfold deliverLog
      dsimp only
      split
      · exact not_missed_of_inner (inner_askAllLog _ q q.sources)
      · intro e he
        cases he

/-- Nothing that the queue brings is missed by a session that is held. -/
theorem not_missed_settleLog {log : List Event} (limit : Nat) (hheld : HeldAt s n)
    (htidy : Desk.Tidy a log (n.desk a))
    (hfew : Desk.FewDeclarations a (log ++ settleLog limit n)) :
    ∀ e ∈ settleLog limit n, e.isMissed a s = false := by
  induction limit generalizing n log with
  | zero => intro e he; cases he
  | succ limit ih =>
    unfold settleLog at hfew ⊢
    cases hempty : n.router.queue.isEmpty with
    | true => intro e he; cases he
    | false =>
      rw [hempty, if_neg Bool.false_ne_true, ← List.append_assoc] at hfew
      rw [if_neg Bool.false_ne_true]
      -- the desk stays tidy under what came first, so the induction goes on from there
      have hnext := htidy.moves n.goes_deliverNext (hfew.of_prefix (List.prefix_append _ _))
      exact List.forall_mem_append.2 ⟨not_missed_deliverNextLog hheld htidy,
        ih (hheld.same n.evolves_deliverNext.keeps.toSameHosts) hnext hfew⟩

/-- A call that is refused adds nothing that could be missed. -/
private theorem not_missed_okLog {β : Type} {events : List Event}
    (h : ∀ e ∈ events, e.isMissed a s = false) (result : Except Error β) :
    ∀ e ∈ Operation.okLog events result, e.isMissed a s = false := by
  cases result with
  | ok _ => exact h
  | error _ => intro e he; cases he

/-- To declare is to miss nothing. -/
private theorem not_missed_declareLog (b : Audience) (s' : SessionId) (expression : String)
    (mode : SubMode) (l : DataListener Surroundings Effect) (result : Except Error Handle) :
    ∀ e ∈ Operation.declareLog b s' expression mode l result, e.isMissed a s = false := by
  cases result <;> exact List.forall_mem_singleton.2 rfl

/-- To write is to miss nothing. -/
private theorem not_missed_writeLog (w : Workspace) (p : Path) (payload : Bytes)
    (encoding : Encoding)
    (kind : ChangeKind) (n : Network) :
    ∀ e ∈ Operation.writeLog w p payload encoding kind n, e.isMissed a s = false := by
  unfold Operation.writeLog
  split
  · exact List.forall_mem_singleton.2 rfl
  · intro e he
    cases he

/-- Nothing that an operation brings about is missed by a session that is held. -/
private theorem not_missed_log {log : List Event} (hheld : HeldAt s n)
    (htidy : Desk.Tidy a log (n.desk a)) (op : Operation)
    (hfew : Desk.FewDeclarations a (log ++ op.log n)) :
    ∀ e ∈ op.log n, e.isMissed a s = false := by
  cases op with
  | deliver => exact not_missed_deliverNextLog hheld htidy
  | answerParked i replies =>
    simp only [Operation.log, answerParkedLog]
    split
    · exact not_missed_of_inner (inner_resumeLog _ _ replies)
    · intro e he
      cases he
  | get w limit sel =>
    have hbegin := goes_beginGet (b := a) w sel n
    have hsame := SameHosts.beginGet w sel n
    simp only [Operation.log] at hfew ⊢
    generalize (w.beginGet sel).run n = outcome at hbegin hsame hfew ⊢
    rcases outcome with ⟨e | g, m⟩
    · intro e he
      cases he
    · -- up to here nothing was heard, so the desk that the queue starts from is tidy as well
      have hm := htidy.moves hbegin
        (by simpa using hfew.of_prefix (List.prefix_append _ _))
      rw [List.append_nil] at hm
      exact not_missed_settleLog limit (hheld.same hsame) hm hfew
  | close | undeclareSubscriber | pull | undeclareStorage =>
    exact not_missed_okLog (List.forall_mem_singleton.2 rfl) _
  | write => exact not_missed_okLog (List.forall_mem_singleton.2 rfl) _
  | declareSubscriber | declareStorage | declareMemory | subscribe =>
    exact not_missed_declareLog _ _ _ _ _ _
  | put | update | remove => exact not_missed_writeLog _ _ _ _ _ n
  | unsubscribe w k =>
    simp only [Operation.log]
    split
    · exact not_missed_okLog (List.forall_mem_singleton.2 rfl) _
    · intro e he
      cases he
  | _ => intro e he; cases he

/-- Nothing that comes to a session is missed unless somebody lets it go. -/
theorem not_missed_runLog {log : List Event} (horderly : Orderly n)
    (htidy : Desk.Tidy a log (n.desk a)) {ops : List Operation} (hheld : HeldAt s (n.runAll ops))
    (hfew : Desk.FewDeclarations a (log ++ n.runLog ops)) :
    ∀ e ∈ n.runLog ops, e.isMissed a s = false := by
  induction ops generalizing n log with
  | nil => intro e he; cases he
  | cons op rest ih =>
    unfold runLog at hfew ⊢
    rw [← List.append_assoc] at hfew
    have hfew₁ : Desk.FewDeclarations a (log ++ op.log n) :=
      hfew.of_prefix (List.prefix_append _ _)
    have hheld₁ : HeldAt s (op.run n) := HeldAt.of_runAll hheld
    exact List.forall_mem_append.2 ⟨not_missed_log hheld₁.of_run htidy op hfew₁,
      ih (horderly.run op) (htidy.moves (goes_run horderly op) hfew₁) hheld hfew⟩

end Network

end PathSpace
