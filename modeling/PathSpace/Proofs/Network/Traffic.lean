import PathSpace.Proofs.Network.Sessions
/-!
# Replies that come while queries are given up

The dispatch of a reply looks a listener up, calls it and, after the last event, gives the handle
up.  Each of these is done in one go.  Between them others may register queries, dispatch replies
and give queries up, the listener that is being called among them, so that the handle may be with
another query when the dispatch comes back from its listener.

A query has its slot as long as its own listener is found under its handle.  An event carries a
handle and nothing else of its query, so an event of a former owner of a handle is one for
whoever has the handle when the event is looked up.  A last event that comes late in this way
takes the slot of a query that has heard nothing yet.

## Key results

- `Takes`: what is done in one go, in terms of the operations of `HandleTable` and `Switchboard`
- `run_of_reply`, `takes_cancelQuery`, `takes_park`: these are the steps of what sessions do
- `Takes.awaits_iff`: which queries have their slots after a step
- `settled_of_run`: a slot is released at most once, by giving its query up or after a last event
  that went to its listener, be that the query's own or one of a former owner of the handle
- `slot_released_by_late_event`: the latter does happen, but not if no handle is reused too early
-/

namespace PathSpace

variable {σ ε : Type}

/-! ## Slots -/

namespace Switchboard

/-- The query has its slot: the listener under its handle is its own. -/
def Awaits (b : Switchboard σ ε) (q : PendingQuery) : Prop :=
  ∃ listener, b.replies.entries.find? q.handle = some listener ∧ listener.token = q.token

/-- The end of the dispatch of an event, once its listener was called: after the last event the
handle is given up if it still is that of the listener.  Tells whether it was. -/
def concludeReply (b : Switchboard σ ε) (h : Handle) (listener : ReplyListener σ ε)
    (event : ReplyEvent) : Bool × Switchboard σ ε :=
  if event.isFinal then b.settleReply h listener.token else (false, b)

variable {b : Switchboard σ ε}

/-- A settlement releases a slot exactly if the query awaits in it. -/
private theorem settleReply_released_iff (b : Switchboard σ ε) (q : PendingQuery) :
    (b.settleReply q.handle q.token).1 = true ↔ b.Awaits q := by
  unfold settleReply HandleTable.releaseIf Awaits
  cases b.replies.entries.find? q.handle with
  | none => simp
  | some listener => by_cases ht : listener.token = q.token <;> simp [ht]

/-- All entries stay but that of the listener with the token. -/
private theorem find?_settleReply_iff {h h' : Handle} {token : Nat} {listener : ReplyListener σ ε} :
    (b.settleReply h token).2.replies.entries.find? h' = some listener ↔
      b.replies.entries.find? h' = some listener ∧ ¬ (h' = h ∧ listener.token = token) := by
  unfold settleReply HandleTable.releaseIf
  -- the slot is empty, or has a listener with some token
  cases hf : b.replies.entries.find? h with
  | none =>
    constructor
    · intro hl
      exact ⟨hl, fun heq => by simp_all⟩
    · exact And.left
  | some found =>
    -- only a listener with the token of the query is released
    by_cases ht : found.token = token
    · simp only [ht, beq_self_eq_true, if_true, HandleTable.find?_remove]
      by_cases hh : h' = h
      · subst hh
        simp only [if_true, reduceCtorEq, hf, Option.some.injEq, true_and, false_iff, not_and,
          not_not]
        rintro rfl
        exact ht
      · simp [hh]
    · have hne : (found.token == token) = false := by simpa using ht
      simp only [hne, Bool.false_eq_true, if_false]
      constructor
      · intro hl
        refine ⟨hl, fun ⟨heq, htoken⟩ => ht ?_⟩
        subst heq
        rw [hf, Option.some.injEq] at hl
        rw [hl, htoken]
      · exact And.left

/-- After a settlement the others still await. -/
private theorem awaits_settleReply_iff (b : Switchboard σ ε) (q q' : PendingQuery) :
    (b.settleReply q.handle q.token).2.Awaits q' ↔ b.Awaits q' ∧ q' ≠ q := by
  have hne : ∀ listener : ReplyListener σ ε, listener.token = q'.token →
      (¬ (q'.handle = q.handle ∧ listener.token = q.token) ↔ q' ≠ q) := by
    intro listener ht
    obtain ⟨h, token⟩ := q
    obtain ⟨h', token'⟩ := q'
    simp_all
  constructor
  · rintro ⟨listener, hl, ht⟩
    obtain ⟨hl, hother⟩ := find?_settleReply_iff.1 hl
    exact ⟨⟨listener, hl, ht⟩, (hne listener ht).1 hother⟩
  · rintro ⟨⟨listener, hl, ht⟩, hq⟩
    exact ⟨listener, find?_settleReply_iff.2 ⟨hl, (hne listener ht).2 hq⟩, ht⟩

/-- After a registration the new query awaits, besides those that did. -/
private theorem awaits_register_iff {listener : ReplyListener σ ε} {h : Handle}
    {table : HandleTable (ReplyListener σ ε)} (hreg : b.replies.register listener = .ok (h, table))
    {q : PendingQuery} :
    Awaits { b with replies := table } q ↔ q = ⟨h, listener.token⟩ ∨ b.Awaits q := by
  have hparks := HandleTable.parks_of_register hreg
  obtain ⟨h', token⟩ := q
  unfold Awaits
  simp only [hparks.find?, PendingQuery.mk.injEq]
  by_cases hh : h' = h
  · subst hh
    simp [hparks.free, eq_comm]
  · simp [hh]

end Switchboard

/-! ## Steps -/

/-- The dispatch of an event, from the lookup of its listener on. -/
structure Dispatch (σ ε : Type) where
  /-- The query whose event it is. -/
  query : PendingQuery
  event : ReplyEvent
  /-- The listener that was found under the handle. -/
  listener : ReplyListener σ ε
  /-- Whether the listener was called. -/
  called : Bool := false

/-- The listeners of a session while queries and replies come and go. -/
structure Traffic (σ ε : Type) where
  board : Switchboard σ ε
  /-- The queries that were registered, the newest first. -/
  queries : List PendingQuery := []
  /-- The dispatches that are under way. -/
  dispatches : List (Dispatch σ ε) := []

namespace Traffic

/-- What is done in one go, and what came of it. -/
inductive Turn (σ ε : Type) where
  /-- A query was registered. -/
  | register (q : PendingQuery)
  /-- There was no handle for a query. -/
  | refuse
  /-- An event of a query was looked up; without a listener its dispatch is over. -/
  | lookup (q : PendingQuery) (event : ReplyEvent) (listener : Option (ReplyListener σ ε))
  /-- The listener that was found was called, and failed or did not. -/
  | call (q : PendingQuery) (event : ReplyEvent) (listener : ReplyListener σ ε) (failed : Bool)
  /-- The dispatch ended after the call, and released the slot or did not. -/
  | conclude (q : PendingQuery) (event : ReplyEvent) (listener : ReplyListener σ ε)
    (released : Bool)
  /-- A query was given up, with the answer whether that released its slot. -/
  | cancel (q : PendingQuery) (released : Bool)

/-- A session with no queries so far and room for `capacity` of them. -/
def start (capacity : Nat) : Traffic σ ε where
  board := { replies := .ofCapacity "reply" capacity }

variable {t t' t'' : Traffic σ ε} {turn : Turn σ ε} {q : PendingQuery} {event : ReplyEvent}
  {listener : ReplyListener σ ε} {d : Dispatch σ ε}

/-- What can be done in one go.  Every query has a listener of its own; whatever that does to the
handles when it is called is done in further steps. -/
inductive Takes : Traffic σ ε → Turn σ ε → Traffic σ ε → Prop
  | register {t : Traffic σ ε} {listener : ReplyListener σ ε} {h : Handle}
    {table : HandleTable (ReplyListener σ ε)} (hnew : ∀ q ∈ t.queries, q.token ≠ listener.token)
    (hreg : t.board.replies.register listener = .ok (h, table)) :
    Takes t (.register ⟨h, listener.token⟩)
      { t with
        board := { t.board with replies := table }
        queries := ⟨h, listener.token⟩ :: t.queries }
  | refuse {t : Traffic σ ε} {listener : ReplyListener σ ε} {fault : HandleFault}
    (hreg : t.board.replies.register listener = .error fault) : Takes t .refuse t
  | lookup {t : Traffic σ ε} {q : PendingQuery} {listener : ReplyListener σ ε}
    (event : ReplyEvent) (hq : q ∈ t.queries)
    (hl : t.board.replies.lookup q.handle = .ok listener) :
    Takes t (.lookup q event (some listener))
      { t with dispatches := { query := q, event, listener } :: t.dispatches }
  | miss {t : Traffic σ ε} {q : PendingQuery} {fault : HandleFault} (event : ReplyEvent)
    (hq : q ∈ t.queries) (hl : t.board.replies.lookup q.handle = .error fault) :
    Takes t (.lookup q event none) t
  | call {t : Traffic σ ε} {q : PendingQuery} {event : ReplyEvent} {listener : ReplyListener σ ε}
    {before after : List (Dispatch σ ε)} (around : σ)
    (hd : t.dispatches = before ++ ⟨q, event, listener, false⟩ :: after) :
    Takes t (.call q event listener (listener.call around event).faults)
      { t with dispatches := before ++ ⟨q, event, listener, true⟩ :: after }
  | conclude {t : Traffic σ ε} {q : PendingQuery} {event : ReplyEvent}
    {listener : ReplyListener σ ε} {before after : List (Dispatch σ ε)}
    (hd : t.dispatches = before ++ ⟨q, event, listener, true⟩ :: after) :
    Takes t (.conclude q event listener (t.board.concludeReply q.handle listener event).1)
      { t with
        board := (t.board.concludeReply q.handle listener event).2
        dispatches := before ++ after }
  | cancel {t : Traffic σ ε} {q : PendingQuery} (hq : q ∈ t.queries) :
    Takes t (.cancel q (t.board.settleReply q.handle q.token).1)
      { t with board := (t.board.settleReply q.handle q.token).2 }

/-- A step of a run. -/
structure Step (σ ε : Type) where
  before : Traffic σ ε
  turn : Turn σ ε
  after : Traffic σ ε

/-- Steps one after the other, whoever takes them. -/
inductive Run : Traffic σ ε → List (Step σ ε) → Traffic σ ε → Prop
  | nil (t : Traffic σ ε) : Run t [] t
  | cons {t t' t'' : Traffic σ ε} {turn : Turn σ ε} {steps : List (Step σ ε)}
    (step : Takes t turn t') (rest : Run t' steps t'') : Run t (⟨t, turn, t'⟩ :: steps) t''

namespace Turn

/-- The query whose slot a turn releases if the query has it. -/
def aim? : Turn σ ε → Option PendingQuery
  | .cancel q _ => some q
  | .conclude q event listener _ => if event.isFinal then some ⟨q.handle, listener.token⟩ else none
  | .register _ | .refuse | .lookup .. | .call .. => none

/-- Whether a turn says that it released a slot. -/
def released : Turn σ ε → Bool
  | .cancel _ released | .conclude _ _ _ released => released
  | .register _ | .refuse | .lookup .. | .call .. => false

/-- The query whose event a turn dispatches. -/
def dispatched? : Turn σ ε → Option PendingQuery
  | .lookup q .. | .call q .. | .conclude q .. => some q
  | .register _ | .refuse | .cancel .. => none

/-- The event that a turn dispatches. -/
def event? : Turn σ ε → Option ReplyEvent
  | .lookup _ event _ | .call _ event .. | .conclude _ event .. => some event
  | .register _ | .refuse | .cancel .. => none

/-- The query whose last event comes with a turn; every dispatch begins with its lookup. -/
def lastOf? : Turn σ ε → Option PendingQuery
  | .lookup q event _ => if event.isFinal then some q else none
  | .register _ | .refuse | .call .. | .conclude .. | .cancel .. => none

end Turn

/-! ## What sessions do -/

/-- A dispatch that nothing comes between takes steps of its own only. -/
theorem run_of_reply (around : σ) (hq : q ∈ t.queries) (event : ReplyEvent)
    (hquiet : ∀ listener, t.board.replies.lookup q.handle = .ok listener →
      ∀ handles, .release handles ∉ (listener.call around event).acts) :
    ∃ steps, Run t steps { t with board := (t.board.reply around q.handle event).board } ∧
      ∀ s ∈ steps, s.turn.dispatched? = some q := by
  cases hl : t.board.replies.lookup q.handle with
  | error fault =>
    have hboard : (t.board.reply around q.handle event).board = t.board := by
      simp [Switchboard.reply, hl, Reaction.unheard]
    rw [hboard]
    exact ⟨_, .cons (.miss event hq hl) (.nil t), by simp [Turn.dispatched?]⟩
  | ok listener =>
    have hcall := Reaction.ofScript_board .reply t.board (hquiet listener hl)
    have hboard : (t.board.reply around q.handle event).board =
        (t.board.concludeReply q.handle listener event).2 := by
      unfold Switchboard.reply Switchboard.concludeReply
      rw [hl]
      cases event.isFinal with
      | true => simp [hcall]
      | false => simp [hcall]
    rw [hboard]
    -- looked up, called and concluded, with nothing in between
    let found : Traffic σ ε := { t with dispatches := ⟨q, event, listener, false⟩ :: t.dispatches }
    let called : Traffic σ ε := { t with dispatches := ⟨q, event, listener, true⟩ :: t.dispatches }
    have hlookup : Takes t _ found := .lookup event hq hl
    have hcalled : Takes found _ called :=
      @Takes.call _ _ found q event listener [] t.dispatches around rfl
    have hconclude : Takes called _
        { t with board := (t.board.concludeReply q.handle listener event).2 } :=
      @Takes.conclude _ _ called q event listener [] t.dispatches rfl
    exact ⟨_, .cons hlookup (.cons hcalled (.cons hconclude (.nil _))), by simp [Turn.dispatched?]⟩

section Sessions

variable {s : SessionId} {n n' : Network} {t : Traffic Surroundings Effect}

/-- To give a query of a session up is one step. -/
theorem takes_cancelQuery (ht : t.board = n.board s) (hq : q ∈ t.queries) :
    Takes t (.cancel q (Session.cancelQuery s q n).1)
      { t with board := (Session.cancelQuery s q n).2.board s } := by
  have hcancelled : (Session.cancelQuery s q n).1 = (t.board.settleReply q.handle q.token).1 := by
    rw [ht]
    rfl
  have hboard : (Session.cancelQuery s q n).2.board s =
      (t.board.settleReply q.handle q.token).2 := by
    rw [ht]
    exact Network.board_setBoard_self n s _
  rw [hcancelled, hboard]
  exact .cancel hq

/-- To park the listener of a query is one step. -/
theorem takes_park {listener : ReplyListener Surroundings Effect} {h : Handle}
    (ht : t.board = n.board s) (hnew : ∀ q ∈ t.queries, q.token ≠ listener.token)
    (hpark : (Session.park .replies s listener).run n = (.ok h, n')) :
    Takes t (.register ⟨h, listener.token⟩)
      { t with board := n'.board s, queries := ⟨h, listener.token⟩ :: t.queries } := by
  rw [Session.park_run] at hpark
  split at hpark
  · cases hpark
  · next h' table hreg =>
    obtain ⟨hok, rfl⟩ := Prod.mk.inj hpark
    obtain rfl := Except.ok.inj hok
    -- of the network only the table of the session has changed
    have hboard : (Session.withTable n .replies s table).board s =
        { t.board with replies := table } := by
      rw [ht]
      exact Network.board_setBoard_self n s _
    rw [hboard]
    exact .register hnew (by rw [ht]; exact hreg)

end Sessions

/-! ## What a step does -/

namespace Takes

/-- The slots after a step: a registered query has one, and the query that is aimed at has none. -/
theorem awaits_iff (step : Takes t turn t') :
    t'.board.Awaits q ↔ turn = .register q ∨ t.board.Awaits q ∧ turn.aim? ≠ some q := by
  cases step with
  | register _ hreg =>
    rw [Switchboard.awaits_register_iff hreg]
    simp [Turn.aim?, eq_comm]
  | refuse | lookup | miss | call => simp [Turn.aim?]
  | @conclude q' event listener before after hd =>
    cases hfinal : event.isFinal with
    | false => simp [Switchboard.concludeReply, Turn.aim?, hfinal]
    | true =>
      have hsettle := t.board.awaits_settleReply_iff ⟨q'.handle, listener.token⟩ q
      simp only [Switchboard.concludeReply, Turn.aim?, hfinal, if_true, hsettle]
      simp [eq_comm]
  | cancel =>
    rw [Switchboard.awaits_settleReply_iff]
    simp [Turn.aim?, eq_comm]

/-- A turn says that it released a slot exactly if the query that it aims at had one. -/
private theorem released_iff (step : Takes t turn t') :
    turn.released = true ↔ ∃ q, turn.aim? = some q ∧ t.board.Awaits q := by
  cases step with
  | register | refuse | lookup | miss | call => simp [Turn.released, Turn.aim?]
  | @conclude q' event listener before after hd =>
    cases hfinal : event.isFinal with
    | false => simp [Switchboard.concludeReply, Turn.released, Turn.aim?, hfinal]
    | true =>
      have hsettle := t.board.settleReply_released_iff ⟨q'.handle, listener.token⟩
      simp [Switchboard.concludeReply, Turn.released, Turn.aim?, hfinal, hsettle]
  | cancel => simp [Turn.released, Turn.aim?, Switchboard.settleReply_released_iff]

/-- A query that was sent stays one that was sent. -/
private theorem mem_queries (step : Takes t turn t') (hq : q ∈ t.queries) : q ∈ t'.queries := by
  cases step with
  | register => exact List.mem_cons_of_mem _ hq
  | refuse | lookup | miss | call | conclude | cancel => exact hq

/-- A query that was registered before is not registered now. -/
private theorem ne_register (step : Takes t turn t') (hq : q ∈ t.queries) : turn ≠ .register q := by
  rintro rfl
  cases step with
  | register hnew _ => exact hnew _ hq rfl

/-- A query that has lost its slot does not get one again. -/
private theorem not_awaits (step : Takes t turn t') (hq : q ∈ t.queries) (h : ¬ t.board.Awaits q) :
    ¬ t'.board.Awaits q := by
  rw [step.awaits_iff]
  rintro (heq | ⟨hawaits, -⟩)
  · exact step.ne_register hq heq
  · exact h hawaits

/-- A dispatch that is under way was so before, or its listener has been found just now. -/
private theorem dispatch_cases (step : Takes t turn t') (hd : d ∈ t'.dispatches) :
    (∃ d' ∈ t.dispatches, d'.query = d.query ∧ d'.listener = d.listener) ∨
      turn.dispatched? = some d.query ∧ d.query ∈ t.queries ∧
        t.board.replies.entries.find? d.query.handle = some d.listener := by
  cases step with
  | register | refuse | miss | cancel => exact .inl ⟨d, hd, rfl, rfl⟩
  | lookup event hq hl =>
    -- the dispatch is the one that was just begun, or an older one
    rcases List.mem_cons.1 hd with rfl | hd
    · exact .inr ⟨rfl, hq, HandleTable.find?_of_lookup hl⟩
    · exact .inl ⟨d, hd, rfl, rfl⟩
  | @call q event listener before after around hbefore =>
    rw [hbefore]
    rcases List.mem_append.1 hd with hd | hd
    · exact .inl ⟨d, List.mem_append_left _ hd, rfl, rfl⟩
    · rcases List.mem_cons.1 hd with rfl | hd
      · exact .inl ⟨⟨q, event, listener, false⟩, by simp, rfl, rfl⟩
      · exact .inl ⟨d, by simp [hd], rfl, rfl⟩
  | conclude hbefore =>
    rw [hbefore]
    rcases List.mem_append.1 hd with hd | hd
    · exact .inl ⟨d, List.mem_append_left _ hd, rfl, rfl⟩
    · exact .inl ⟨d, by simp [hd], rfl, rfl⟩

end Takes

/-! ## What steps preserve -/

/-- Whoever has a handle got it last, and whoever was found under a handle had it. -/
structure Sound (t : Traffic σ ε) : Prop where
  /-- The listener under a handle is that of the last query that was given the handle. -/
  owner : ∀ h listener, t.board.replies.entries.find? h = some listener →
    t.queries.find? (·.handle = h) = some ⟨h, listener.token⟩
  /-- Only events of queries are dispatched. -/
  query_mem : ∀ d ∈ t.dispatches, d.query ∈ t.queries
  /-- Only listeners of queries are found. -/
  listener_mem : ∀ d ∈ t.dispatches, ⟨d.query.handle, d.listener.token⟩ ∈ t.queries
  /-- A query whose event has found another listener has lost its slot. -/
  found : ∀ d ∈ t.dispatches, d.listener.token = d.query.token ∨ ¬ t.board.Awaits d.query

/-- The listener in a slot is that of a query that was sent. -/
private theorem Sound.mem_of_find? (ht : t.Sound) {h : Handle}
    (hl : t.board.replies.entries.find? h = some listener) : ⟨h, listener.token⟩ ∈ t.queries :=
  List.mem_of_find?_eq_some (ht.owner h listener hl)

/-- A query that awaits was sent. -/
private theorem Sound.mem_of_awaits (ht : t.Sound) (hq : t.board.Awaits q) : q ∈ t.queries := by
  obtain ⟨listener, hl, htoken⟩ := hq
  have hmem := ht.mem_of_find? hl
  rwa [htoken] at hmem

/-- At first there are neither queries nor dispatches. -/
private theorem sound_start (capacity : Nat) : (start capacity : Traffic σ ε).Sound where
  owner h listener hl := by cases hl
  query_mem d hd := by cases hd
  listener_mem d hd := by cases hd
  found d hd := by cases hd

/-- Only the last query that was given a handle has its listener there. -/
private theorem Sound.owner_takes (ht : t.Sound) (step : Takes t turn t') {h : Handle}
    (hl : t'.board.replies.entries.find? h = some listener) :
    t'.queries.find? (·.handle = h) = some ⟨h, listener.token⟩ := by
  cases step with
  | @register _ h' table hnew hreg =>
    -- the handle was free, so that its new owner takes it from nobody
    have hparks := HandleTable.parks_of_register hreg
    dsimp only at hl ⊢
    rw [hparks.find?] at hl
    by_cases hh : h = h'
    · subst hh
      simp_all
    · rw [if_neg hh] at hl
      simp [Ne.symm hh, ht.owner h listener hl]
  | refuse | lookup | miss | call => exact ht.owner h listener hl
  | conclude =>
    refine ht.owner h listener ?_
    unfold Switchboard.concludeReply at hl
    split at hl
    · exact (Switchboard.find?_settleReply_iff.1 hl).1
    · exact hl
  | cancel => exact ht.owner h listener (Switchboard.find?_settleReply_iff.1 hl).1

/-- Every step keeps the traffic sound. -/
private theorem Sound.takes (ht : t.Sound) (step : Takes t turn t') : t'.Sound where
  owner _ _ hl := ht.owner_takes step hl
  query_mem d hd := by
    rcases step.dispatch_cases hd with ⟨d', hd', hquery, -⟩ | ⟨-, hq, -⟩
    · exact step.mem_queries (hquery ▸ ht.query_mem d' hd')
    · exact step.mem_queries hq
  listener_mem d hd := by
    rcases step.dispatch_cases hd with ⟨d', hd', hquery, hlistener⟩ | ⟨-, -, hl⟩
    · exact step.mem_queries (hquery ▸ hlistener ▸ ht.listener_mem d' hd')
    · exact step.mem_queries (ht.mem_of_find? hl)
  found d hd := by
    rcases step.dispatch_cases hd with ⟨d', hd', hquery, hlistener⟩ | ⟨-, hq, hl⟩
    · rw [← hquery, ← hlistener]
      exact (ht.found d' hd').imp_right (step.not_awaits (ht.query_mem d' hd'))
    · by_cases htoken : d.listener.token = d.query.token
      · exact .inl htoken
      · -- the listener in the slot is the one that was found, and that is not the query's own
        refine .inr (step.not_awaits hq fun ⟨listener', hl', htoken'⟩ => htoken ?_)
        have hsame : some d.listener = some listener' := hl.symm.trans hl'
        rw [Option.some.inj hsame, htoken']

/-! ## Orderly releases -/

namespace Step

/-- The query loses its slot. -/
def Releases (s : Step σ ε) (q : PendingQuery) : Prop :=
  s.before.board.Awaits q ∧ ¬ s.after.board.Awaits q

/-- A query has been given up, or the dispatch is over of a last event that was its own or went to
its listener. -/
def Completes (s : Step σ ε) (q : PendingQuery) : Prop :=
  match s.turn with
  | .cancel q' _ => q' = q
  | .lookup q' event none => event.isFinal ∧ q' = q
  | .conclude q' event listener _ =>
    event.isFinal ∧ (q' = q ∨ (⟨q'.handle, listener.token⟩ : PendingQuery) = q)
  | .register _ | .refuse | .lookup _ _ (some _) | .call .. => False

end Step

/-- Something of the dispatch of an event of the query is still to come. -/
def InFlight (q : PendingQuery) (later : List (Step σ ε)) : Prop :=
  ∃ s ∈ later, s.turn.dispatched? = some q

/-- No handle is given out again while an event of a query that had it is in flight. -/
def NoEarlyReuse : List (Step σ ε) → Prop
  | [] => True
  | s :: later =>
    (∀ q, s.turn = .register q → ∀ q' ∈ s.before.queries, q'.handle = q.handle →
      ¬ InFlight q' later) ∧ NoEarlyReuse later

/-- No query is sent its last event more than once. -/
def SentOnce (steps : List (Step σ ε)) : Prop :=
  ((steps.map (·.turn)).filterMap Turn.lastOf?).Nodup

/-- A slot is released by giving its query up or after the last event of that very query. -/
def ReleasedByOwn (steps : List (Step σ ε)) : Prop :=
  ∀ s ∈ steps, ∀ q, s.Releases q →
    s.turn = .cancel q true ∨
      ∃ event listener, s.turn = .conclude q event listener true ∧ event.isFinal

/-- The slots of queries are released in an orderly way in a run. -/
structure Settled (steps : List (Step σ ε)) : Prop where
  /-- No slot is released twice. -/
  once : ∀ q, steps.Pairwise fun s s' => s.Releases q → ¬ s'.Releases q
  /-- A slot is released by giving its query up or by the dispatch of a last event for its
  handle that went to its listener, whether that failed or not.  The event is that of `q'`, which
  may be a former owner of the handle. -/
  released_by : ∀ s ∈ steps, ∀ q, s.Releases q →
    s.turn = .cancel q true ∨
      ∃ q' event listener, s.turn = .conclude q' event listener true ∧ event.isFinal ∧
        q'.handle = q.handle ∧ listener.token = q.token
  /-- Whoever gives a query up is told whether that released its slot. -/
  cancel_tells : ∀ s ∈ steps, ∀ q released, s.turn = .cancel q released →
    (released = true ↔ s.Releases q)
  /-- Once its query is completed, a listener is not in its slot any more. -/
  gone : ∀ earlier s later, steps = earlier ++ s :: later → ∀ q, s.Completes q →
    ∀ s' ∈ s :: later, ¬ s'.after.board.Awaits q
  /-- The dispatch of an event that is not the last one leaves all slots alone. -/
  not_last : ∀ s ∈ steps, ∀ event, s.turn.event? = some event → event.isFinal = false →
    s.after.board = s.before.board
  /-- To give a query up does not touch the slot of another one. -/
  cancel_spares : ∀ s ∈ steps, ∀ q released, s.turn = .cancel q released →
    ∀ q', q' ≠ q → s.before.board.Awaits q' → s.after.board.Awaits q'
  /-- Nor does the end of a dispatch touch a slot that has another listener by now. -/
  conclude_spares : ∀ s ∈ steps, ∀ q event listener released,
    s.turn = .conclude q event listener released →
    ∀ q', q'.token ≠ listener.token → s.before.board.Awaits q' → s.after.board.Awaits q'
  /-- If handles are not reused too early, only a query's own listener is called with its
  events. -/
  own_listener : NoEarlyReuse steps → ∀ s ∈ steps, ∀ q event listener failed,
    s.turn = .call q event listener failed → listener.token = q.token
  /-- Then the last event that releases a slot is that of the query which had it. -/
  own_release : NoEarlyReuse steps → ReleasedByOwn steps

/-! ## Runs -/

/-- A query loses its slot exactly if it is aimed at. -/
private theorem Takes.releases_iff (step : Takes t turn t') :
    (⟨t, turn, t'⟩ : Step σ ε).Releases q ↔ t.board.Awaits q ∧ turn.aim? = some q := by
  unfold Step.Releases
  dsimp only
  rw [step.awaits_iff]
  -- a query that is registered just now is not released by the same step
  constructor
  · rintro ⟨hawaits, hnot⟩
    refine ⟨hawaits, ?_⟩
    by_contra haim
    exact hnot (.inr ⟨hawaits, haim⟩)
  · rintro ⟨hawaits, haim⟩
    refine ⟨hawaits, ?_⟩
    rintro (rfl | ⟨-, hne⟩)
    · simp [Turn.aim?] at haim
    · exact hne haim

/-- The answer to whoever gives a query up. -/
private theorem Takes.cancel_tells {released : Bool} (step : Takes t (.cancel q released) t') :
    released = true ↔ (⟨t, .cancel q released, t'⟩ : Step σ ε).Releases q := by
  have htells : released = true ↔ t.board.Awaits q := by
    simpa [Turn.aim?, Turn.released] using step.released_iff
  rw [htells, step.releases_iff]
  simp [Turn.aim?]

/-- Whatever is released is released by the query that gives it up or after a last event. -/
private theorem Takes.released_by (step : Takes t turn t')
    (hreleases : (⟨t, turn, t'⟩ : Step σ ε).Releases q) :
    turn = .cancel q true ∨
      ∃ q' event listener, turn = .conclude q' event listener true ∧ event.isFinal ∧
        q'.handle = q.handle ∧ listener.token = q.token := by
  obtain ⟨hawaits, haim⟩ := step.releases_iff.1 hreleases
  have hreleased := step.released_iff.2 ⟨q, haim, hawaits⟩
  -- only two kinds of turns aim at a query at all
  cases turn with
  | register | refuse | lookup | call => simp [Turn.aim?] at haim
  | cancel q' released =>
    left
    simp_all [Turn.aim?, Turn.released]
  | conclude q' event listener released =>
    right
    obtain rfl : released = true := hreleased
    cases hfinal : event.isFinal with
    | false => simp [Turn.aim?, hfinal] at haim
    | true =>
      have hq : (⟨q'.handle, listener.token⟩ : PendingQuery) = q := by
        simpa [Turn.aim?, hfinal] using haim
      exact ⟨q', event, listener, rfl, hfinal, by rw [← hq], by rw [← hq]⟩

/-- An event that is not the last one leaves the board as it is. -/
private theorem Takes.board_of_not_last (step : Takes t turn t') (hevent : turn.event? = some event)
    (hlast : event.isFinal = false) : t'.board = t.board := by
  cases step with
  | register | refuse | cancel => cases hevent
  | lookup | miss | call => rfl
  | conclude =>
    obtain rfl := Option.some.inj hevent
    simp [Switchboard.concludeReply, hlast]

/-- Only the dispatches that are under way call listeners and end. -/
private theorem Takes.mem_dispatches (step : Takes t turn t') {flag : Bool}
    (hturn : turn = .call q event listener flag ∨ turn = .conclude q event listener flag) :
    ∃ d ∈ t.dispatches, d.query = q ∧ d.listener = listener := by
  cases step with
  | register | refuse | lookup | miss | cancel => simp at hturn
  | @call q' event' listener' before after around hd =>
    have hsame : q' = q ∧ event' = event ∧ listener' = listener := by simp_all
    obtain ⟨rfl, rfl, rfl⟩ := hsame
    exact ⟨⟨q', event', listener', false⟩, by simp [hd], rfl, rfl⟩
  | @conclude q' event' listener' before after hd =>
    have hsame : q' = q ∧ event' = event ∧ listener' = listener := by simp_all
    obtain ⟨rfl, rfl, rfl⟩ := hsame
    exact ⟨⟨q', event', listener', true⟩, by simp [hd], rfl, rfl⟩

/-- When a query is completed, it is a query that was registered, and it has no slot. -/
private theorem Takes.gone_of_completes (step : Takes t turn t') (ht : t.Sound)
    (hq : (⟨t, turn, t'⟩ : Step σ ε).Completes q) : q ∈ t.queries ∧ ¬ t'.board.Awaits q := by
  have hafter := step.awaits_iff (q := q)
  cases step with
  | register | refuse | lookup | call => exact hq.elim
  | @miss q' fault event hmem hl =>
    obtain ⟨-, rfl⟩ := hq
    refine ⟨hmem, fun ⟨listener, hf, _⟩ => ?_⟩
    rw [HandleTable.find?_of_lookup_error hl] at hf
    cases hf
  | cancel hmem =>
    obtain rfl := hq
    exact ⟨hmem, by simp [hafter, Turn.aim?]⟩
  | @conclude q' event listener before after hd =>
    have hdispatch : (⟨q', event, listener, true⟩ : Dispatch σ ε) ∈ t.dispatches := by simp [hd]
    obtain ⟨hfinal, hq⟩ := hq
    -- the listener that was called is not in the slot any more
    have hcalled : ∀ q'', (⟨q'.handle, listener.token⟩ : PendingQuery) = q'' →
        Turn.aim? (.conclude q' event listener
          (t.board.concludeReply q'.handle listener event).1) = some q'' := by
      rintro q'' rfl
      simp [Turn.aim?, hfinal]
    rcases hq with rfl | rfl
    · refine ⟨ht.query_mem _ hdispatch, ?_⟩
      rw [hafter]
      rintro (heq | ⟨hawaits, haim⟩)
      · cases heq
      · rcases ht.found _ hdispatch with htoken | hnot
        · refine haim (hcalled _ ?_)
          obtain ⟨h, token⟩ := q'
          dsimp only at htoken
          rw [htoken]
        · exact hnot hawaits
    · exact ⟨ht.listener_mem _ hdispatch, by simp [hafter, hcalled _ rfl]⟩

namespace Run

variable {steps earlier later : List (Step σ ε)} {s : Step σ ε}

/-- A run can be cut at each of its steps. -/
private theorem split (run : Run t (earlier ++ s :: later) t') (ht : t.Sound) :
    s.before.Sound ∧ Takes s.before s.turn s.after ∧ Run s.after later t' := by
  induction earlier generalizing t with
  | nil =>
    cases run with
    | cons step rest => exact ⟨ht, step, rest⟩
  | cons first earlier ih =>
    cases run with
    | cons step rest => exact ih rest (ht.takes step)

/-- Before each step of a run the traffic is sound. -/
private theorem of_mem (run : Run t steps t') (ht : t.Sound) (hs : s ∈ steps) :
    s.before.Sound ∧ Takes s.before s.turn s.after := by
  obtain ⟨earlier, later, rfl⟩ := List.append_of_mem hs
  obtain ⟨hbefore, step, -⟩ := run.split ht
  exact ⟨hbefore, step⟩

/-- A query that has lost its slot never gets one again. -/
private theorem never_again (run : Run t steps t') (hq : q ∈ t.queries) (h : ¬ t.board.Awaits q) :
    ∀ s ∈ steps, ¬ s.before.board.Awaits q ∧ ¬ s.after.board.Awaits q := by
  induction run with
  | nil => simp
  | cons step rest ih =>
    have hafter := step.not_awaits hq h
    intro s hs
    rcases List.mem_cons.1 hs with rfl | hs
    · exact ⟨h, hafter⟩
    · exact ih (step.mem_queries hq) hafter s hs

/-- A slot is released once for a query, if at all. -/
private theorem releases_once (run : Run t steps t') (ht : t.Sound) (q : PendingQuery) :
    steps.Pairwise fun s s' => s.Releases q → ¬ s'.Releases q := by
  induction run with
  | nil => exact .nil
  | cons step rest ih =>
    refine List.pairwise_cons.2 ⟨fun s' hs' hreleases hagain => ?_, ih (ht.takes step)⟩
    have hmem := step.mem_queries (ht.mem_of_awaits hreleases.1)
    exact (rest.never_again hmem hreleases.2 s' hs').1 hagain.1

/-- If handles are not reused too early, every dispatch has found the listener of its own query:
as long as events of a query are in flight, the query is the last one that was given its
handle. -/
private theorem own_dispatches (run : Run t steps t') (ht : t.Sound) (hreuse : NoEarlyReuse steps)
    (hlast : ∀ q ∈ t.queries, InFlight q steps →
      t.queries.find? (·.handle = q.handle) = some q)
    (hown : ∀ d ∈ t.dispatches, d.listener.token = d.query.token) :
    ∀ s ∈ steps, ∀ d ∈ s.before.dispatches, d.listener.token = d.query.token := by
  induction run with
  | nil => simp
  | @cons t t' t'' turn steps step rest ih =>
    obtain ⟨hregister, hreuse⟩ := hreuse
    have hlast' : ∀ q ∈ t'.queries, InFlight q steps →
        t'.queries.find? (·.handle = q.handle) = some q := by
      intro q hq hflight
      have hflight' : InFlight q (⟨t, turn, t'⟩ :: steps) := by
        obtain ⟨s, hs, hdispatched⟩ := hflight
        exact ⟨s, List.mem_cons_of_mem _ hs, hdispatched⟩
      cases step with
      | @register listener h table hnew hreg =>
        rcases List.mem_cons.1 hq with rfl | hq
        · simp
        · -- the handle of `q` is not the one that was given out just now
          have hne : h ≠ q.handle := fun heq => hregister _ rfl q hq heq.symm hflight
          simp [hne, hlast q hq hflight']
      | refuse | lookup | miss | call | conclude | cancel => exact hlast q hq hflight'
    have hown' : ∀ d ∈ t'.dispatches, d.listener.token = d.query.token := by
      intro d hd
      rcases step.dispatch_cases hd with ⟨d', hd', hquery, hlistener⟩ | ⟨hturn, hq, hl⟩
      · rw [← hquery, ← hlistener]
        exact hown d' hd'
      · -- what was found under the handle is the listener of the last query that got it
        have howner := ht.owner _ _ hl
        rw [hlast d.query hq ⟨_, List.mem_cons_self, hturn⟩, Option.some.injEq] at howner
        exact congrArg PendingQuery.token howner.symm
    intro s hs
    rcases List.mem_cons.1 hs with rfl | hs
    · exact hown
    · exact ih (ht.takes step) hreuse hlast' hown' s hs

end Run

/-- Whatever is done between the steps of a dispatch, the slot of a query is released at most once:
by giving the query up, or by the dispatch of a last event for its handle that found its listener
there.  That event may be another query's, which had the handle before (`lateEvent`).  If no handle
is reused while events of a former owner are in flight, it is the query's own, and a listener is
called with the events of its own query alone.  Neither how many events a query is sent nor how
often its listener fails makes a difference. -/
theorem settled_of_run {capacity : Nat} {steps : List (Step σ ε)} {t : Traffic σ ε}
    (run : Run (start capacity) steps t) : Settled steps := by
  have hstart : (start capacity : Traffic σ ε).Sound := sound_start capacity
  have hown := fun hreuse => run.own_dispatches hstart hreuse (by simp [start]) (by simp [start])
  constructor
  case once => exact run.releases_once hstart
  case released_by =>
    intro s hs q hreleases
    obtain ⟨-, step⟩ := run.of_mem hstart hs
    exact step.released_by hreleases
  case cancel_tells =>
    rintro ⟨before, turn, after⟩ hs q released rfl
    obtain ⟨-, step⟩ := run.of_mem hstart hs
    exact step.cancel_tells
  case gone =>
    intro earlier s later heq q hcompletes s' hs'
    subst heq
    obtain ⟨hsound, step, rest⟩ := run.split hstart
    obtain ⟨hmem, hnot⟩ := step.gone_of_completes hsound hcompletes
    rcases List.mem_cons.1 hs' with rfl | hs'
    · exact hnot
    · exact (rest.never_again (step.mem_queries hmem) hnot s' hs').2
  case not_last =>
    intro s hs event hevent hlast
    obtain ⟨-, step⟩ := run.of_mem hstart hs
    exact step.board_of_not_last hevent hlast
  case cancel_spares =>
    intro s hs q released hturn q' hne hawaits
    obtain ⟨-, step⟩ := run.of_mem hstart hs
    have haim : s.turn.aim? ≠ some q' := by simpa [hturn, Turn.aim?] using Ne.symm hne
    exact step.awaits_iff.2 (.inr ⟨hawaits, haim⟩)
  case conclude_spares =>
    intro s hs q event listener released hturn q' hne hawaits
    obtain ⟨-, step⟩ := run.of_mem hstart hs
    have haim : s.turn.aim? ≠ some q' := by
      rw [hturn, Turn.aim?]
      split
      · rintro heq
        exact hne (congrArg PendingQuery.token (Option.some.inj heq)).symm
      · simp
    exact step.awaits_iff.2 (.inr ⟨hawaits, haim⟩)
  case own_listener =>
    intro hreuse s hs q event listener failed hturn
    obtain ⟨-, step⟩ := run.of_mem hstart hs
    obtain ⟨d, hd, rfl, rfl⟩ := step.mem_dispatches (.inl hturn)
    exact hown hreuse s hs d hd
  case own_release =>
    intro hreuse s hs q hreleases
    obtain ⟨-, step⟩ := run.of_mem hstart hs
    rcases step.released_by hreleases with
      hcancel | ⟨q', event, listener, hturn, hfinal, hhandle, htoken⟩
    · exact .inl hcancel
    · obtain ⟨d, hd, rfl, rfl⟩ := step.mem_dispatches (.inr hturn)
      -- the listener in the slot is that of the query whose event was dispatched
      have hown' := hown hreuse s hs d hd
      obtain rfl : d.query = q := by
        obtain ⟨h, token⟩ := q
        obtain ⟨⟨h', token'⟩, _, _, _⟩ := d
        simp_all
      exact .inr ⟨event, d.listener, hturn, hfinal⟩

/-- A listener that fails whatever it hears. -/
def failing (token : Nat) : ReplyListener Unit Empty := ⟨token, fun _ _ => { faults := true }⟩

/-- A query gets the only handle while the listener of its former owner, which was given up, is
about to be called. -/
def race : List (Turn Unit Empty) :=
  [.register ⟨0, 0⟩, .lookup ⟨0, 0⟩ .replyFinal (some (failing 0)), .cancel ⟨0, 0⟩ true,
    .register ⟨0, 1⟩, .call ⟨0, 0⟩ .replyFinal (failing 0) true,
    .conclude ⟨0, 0⟩ .replyFinal (failing 0) false]

/-- A query gets the only handle when its former owner has heard its last event, and is given up
while its own listener is about to be called. -/
def succession : List (Turn Unit Empty) :=
  [.register ⟨0, 0⟩, .lookup ⟨0, 0⟩ .storageFinal (some (failing 0)),
    .call ⟨0, 0⟩ .storageFinal (failing 0) true, .conclude ⟨0, 0⟩ .storageFinal (failing 0) false,
    .lookup ⟨0, 0⟩ .replyFinal (some (failing 0)), .call ⟨0, 0⟩ .replyFinal (failing 0) true,
    .conclude ⟨0, 0⟩ .replyFinal (failing 0) true, .register ⟨0, 1⟩,
    .lookup ⟨0, 1⟩ .replyFinal (some (failing 1)), .cancel ⟨0, 1⟩ true,
    .call ⟨0, 1⟩ .replyFinal (failing 1) true, .conclude ⟨0, 1⟩ .replyFinal (failing 1) false]

/-- A query gets the only handle of one that was given up while its last event was on the way.  The
event finds the listener of the new owner, which then loses its slot, though it was not given up
and no event of its own has come. -/
def lateEvent : List (Turn Unit Empty) :=
  [.register ⟨0, 0⟩, .cancel ⟨0, 0⟩ true, .register ⟨0, 1⟩,
    .lookup ⟨0, 0⟩ .replyFinal (some (failing 1)), .call ⟨0, 0⟩ .replyFinal (failing 1) true,
    .conclude ⟨0, 0⟩ .replyFinal (failing 1) true]

/-- The race is a run. -/
private theorem run_of_race : ∃ steps t, Run (start 1) steps t ∧ steps.map (·.turn) = race ∧
    t.board.Awaits ⟨0, 1⟩ := by
  refine ⟨_, _,
    .cons (@Takes.register _ _ _ (failing 0) _ _ (by simp [start]) rfl) <|
    .cons (.lookup .replyFinal List.mem_cons_self rfl) <|
    .cons (.cancel List.mem_cons_self) <|
    .cons (@Takes.register _ _ _ (failing 1) _ _ (by simp [start, failing]) rfl) <|
    .cons (@Takes.call _ _ _ _ _ _ [] [] () rfl) <|
    .cons (@Takes.conclude _ _ _ _ _ _ [] [] rfl) <| .nil _, rfl, ⟨failing 1, rfl, rfl⟩⟩

/-- The succession is a run, in which no handle is used again too early. -/
private theorem run_of_succession :
    ∃ steps t, Run (start 1) steps t ∧ steps.map (·.turn) = succession ∧
    NoEarlyReuse steps := by
  refine ⟨_, _,
    .cons (@Takes.register _ _ _ (failing 0) _ _ (by simp [start]) rfl) <|
    .cons (.lookup .storageFinal List.mem_cons_self rfl) <|
    .cons (@Takes.call _ _ _ _ _ _ [] [] () rfl) <|
    .cons (@Takes.conclude _ _ _ _ _ _ [] [] rfl) <|
    .cons (.lookup .replyFinal List.mem_cons_self rfl) <|
    .cons (@Takes.call _ _ _ _ _ _ [] [] () rfl) <|
    .cons (@Takes.conclude _ _ _ _ _ _ [] [] rfl) <|
    .cons (@Takes.register _ _ _ (failing 1) _ _ (by simp [start, failing]) rfl) <|
    .cons (.lookup .replyFinal List.mem_cons_self rfl) <|
    .cons (.cancel List.mem_cons_self) <|
    .cons (@Takes.call _ _ _ _ _ _ [] [] () rfl) <|
    .cons (@Takes.conclude _ _ _ _ _ _ [] [] rfl) <| .nil _, rfl, ?_⟩
  -- the second query gets the handle when nothing of the first one is to come
  simp [NoEarlyReuse, InFlight, Turn.dispatched?, start, failing]

/-- The late event is part of a run. -/
private theorem run_of_lateEvent :
    ∃ steps t, Run (start 1) steps t ∧ steps.map (·.turn) = lateEvent := by
  refine ⟨_, _,
    .cons (@Takes.register _ _ _ (failing 0) _ _ (by simp [start]) rfl) <|
    .cons (.cancel List.mem_cons_self) <|
    .cons (@Takes.register _ _ _ (failing 1) _ _ (by simp [start, failing]) rfl) <|
    .cons (.lookup .replyFinal (List.mem_cons_of_mem _ List.mem_cons_self) rfl) <|
    .cons (@Takes.call _ _ _ _ _ _ [] [] () rfl) <|
    .cons (@Takes.conclude _ _ _ _ _ _ [] [] rfl) <| .nil _, rfl⟩

/-- The query that won the race keeps its slot, and those that succeed each other hear their own
events. -/
theorem settled_of_race_and_succession :
    (∃ steps t, Run (start 1) steps t ∧ steps.map (·.turn) = race ∧ Settled steps ∧
      t.board.Awaits ⟨0, 1⟩) ∧
    ∃ steps t, Run (start 1) steps t ∧ steps.map (·.turn) = succession ∧ Settled steps ∧
      ∀ s ∈ steps, ∀ q event listener failed, s.turn = .call q event listener failed →
        listener.token = q.token := by
  obtain ⟨steps, t, run, hrace, hawaits⟩ := run_of_race
  obtain ⟨steps', t', run', hsuccession, hreuse⟩ := run_of_succession
  have hsettled' := settled_of_run run'
  exact ⟨⟨steps, t, run, hrace, settled_of_run run, hawaits⟩,
    ⟨steps', t', run', hsuccession, hsettled', hsettled'.own_listener hreuse⟩⟩

/-- Although every query is sent one last event at most, a slot may be released by that of another
query. -/
theorem slot_released_by_late_event :
    ∃ steps t, Run (start 1) steps t ∧ steps.map (·.turn) = lateEvent ∧ SentOnce steps ∧
      ¬ ReleasedByOwn steps := by
  obtain ⟨steps, t, run, hturns⟩ := run_of_lateEvent
  refine ⟨steps, t, run, hturns, ?_, ?_⟩
  · rw [SentOnce, hturns]
    decide
  · intro hown
    have hmem : .conclude ⟨0, 0⟩ .replyFinal (failing 1) true ∈ steps.map (·.turn) := by
      rw [hturns]
      simp [lateEvent]
    obtain ⟨s, hs, hturn⟩ := List.mem_map.1 hmem
    obtain ⟨-, step⟩ := run.of_mem (sound_start 1) hs
    -- the end of this dispatch aims at the new owner of the handle, and hits it
    obtain ⟨q, haim, hawaits⟩ := step.released_iff.1 (by rw [hturn]; rfl)
    obtain rfl : q = ⟨0, 1⟩ := by
      rw [hturn] at haim
      exact (Option.some.inj haim).symm
    rcases hown s hs _ (step.releases_iff.2 ⟨hawaits, haim⟩) with
      hcancel | ⟨event, listener, hconclude, -⟩
    · rw [hturn] at hcancel
      cases hcancel
    · rw [hturn] at hconclude
      cases hconclude

end Traffic

end PathSpace
