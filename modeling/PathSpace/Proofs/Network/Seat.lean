import PathSpace.Proofs.Network.Desk
import Mathlib.Data.List.DropRight
/-!
# Seats

A seat is the part of a desk that belongs to one handle: its listener, its declaration and
the samples on their way to it.  What a listener has heard, what is on its way to it and what
waits to be pulled always make up the writes that concern it.

## Key results

- `Desk.Move.seat`: what a move on a desk does to a seat whose handle was given out before
- `Seat.Tracked.step`: every move keeps account of what the listener has heard
- `Desk.tracked_of_moves`: so does every run
-/

namespace PathSpace

namespace Event

/-- Whether an event ends the declaration of a handle. -/
def ends (a : Audience) (s : SessionId) (h : Handle) : Event → Bool
  | .undeclared a' s' h' => a' == a && s' == s && h' == h
  | .closed s' => s' == s
  | _ => false

/-- The sample with which the listener of a handle was called. -/
def heard? (a : Audience) (s : SessionId) (h : Handle) : Event → Option Sample
  | .heard a' s' h' sample _ => if a' = a ∧ s' = s ∧ h' = h then some sample else none
  | _ => none

/-- Whether what waited for a handle was sent. -/
def isPull (a : Audience) (s : SessionId) (h : Handle) : Event → Bool
  | .pulled s' h' => a == .subscribers && s' == s && h' == h
  | _ => false

/-- Whether a sample came to a session that was gone. -/
def isMissed (a : Audience) (s : SessionId) : Event → Bool
  | .missed a' s' .. => a' == a && s' == s
  | _ => false

/-- Whether an event has to do with a handle. -/
def regards (a : Audience) (s : SessionId) (h : Handle) : Event → Bool
  | .wrote .. => true
  | .unheard a' s' h' _ | .missed a' s' h' _ => a' == a && s' == s && h' == h
  | e => e.ends a s h || e.isPull a s h || (e.heard? a s h).isSome

end Event

/-- The writes that concern an expression. -/
def writesFor (expression : String) (log : List Event) : List Sample :=
  (writes log).filter fun x => Wildcard.meet expression x.path

/-- The samples with which the listener of a handle was called. -/
def heardBy (a : Audience) (s : SessionId) (h : Handle) (log : List Event) : List Sample :=
  log.filterMap (·.heard? a s h)

/-- The writes that concern a handle, until its declaration ends; `log` starts with the
declaration. -/
def due (a : Audience) (s : SessionId) (h : Handle) (expression : String) (log : List Event) :
    List Sample :=
  writesFor expression (log.takeWhile fun e => !e.ends a s h)

/-- What happened up to the last time that what waited for a handle was sent. -/
def uptoPull (a : Audience) (s : SessionId) (h : Handle) (log : List Event) : List Event :=
  log.rdropWhile fun e => !e.isPull a s h

/-- What has been sent to a handle so far. -/
def sent (a : Audience) (s : SessionId) (h : Handle) (expression : String) :
    SubMode → List Event → List Sample
  | .push, log => writesFor expression log
  | .pull, log => writesFor expression (uptoPull a s h log)

section logs

variable {a : Audience} {s : SessionId} {h : Handle} {expression : String} {mode : SubMode}
  {log : List Event} {e : Event}

/-- What is no write adds nothing for anybody. -/
private theorem writesFor_snoc_of_none (he : e.written? = none) :
    writesFor expression (log ++ [e]) = writesFor expression log := by
  rw [writesFor, writes, List.filterMap_append, List.filterMap_cons, he]
  simp [writesFor, writes]

/-- A write adds its sample for those whom it concerns. -/
private theorem writesFor_snoc_wrote (clock : Clock) (wall : Instant) (sample : Sample) :
    writesFor expression (log ++ [.wrote clock wall sample]) =
      writesFor expression log ++
        if Wildcard.meet expression sample.path then [sample] else [] := by
  rw [writesFor, writes, List.filterMap_append, List.filter_append]
  simp [writesFor, writes, Event.written?, List.filter_cons]

/-- A listener has heard one sample more after an event that is a call of it. -/
theorem heardBy_snoc :
    heardBy a s h (log ++ [e]) = heardBy a s h log ++ (e.heard? a s h).toList := by
  rw [heardBy, List.filterMap_append]
  cases he : e.heard? a s h <;> simp [heardBy, he]

/-- As long as a subscriber is there, all writes are due to it. -/
theorem due_of_not_ended (hlog : ∀ e ∈ log, e.ends a s h = false) :
    due a s h expression log = writesFor expression log := by
  rw [due, List.takeWhile_eq_self_iff.2]
  intro e he
  rw [hlog e he]
  rfl

/-- When a subscriber goes, what was due to it is all that has been written so far. -/
private theorem due_snoc_ends (hlog : ∀ e ∈ log, e.ends a s h = false) (he : e.ends a s h = true) :
    due a s h expression (log ++ [e]) = writesFor expression log := by
  rw [due, List.takeWhile_append_of_pos, List.takeWhile_cons_of_neg, List.append_nil]
  · simp [he]
  · intro e he
    rw [hlog e he]
    rfl

/-- Nothing more becomes due to a subscriber that has gone. -/
private theorem due_snoc_of_ended (hlog : ∃ e ∈ log, e.ends a s h = true) :
    due a s h expression (log ++ [e]) = due a s h expression log := by
  obtain ⟨e', he', hends⟩ := hlog
  rw [due, List.takeWhile_append, if_neg]
  · rfl
  · intro hlen
    -- otherwise the log would be taken as a whole, the end included
    have hself := (List.takeWhile_sublist _).eq_of_length hlen
    have := List.takeWhile_eq_self_iff.1 hself e' he'
    simp [hends] at this

/-- With a pull a subscriber is sent all that has been written for it. -/
private theorem sent_snoc_pull (hp : e.isPull a s h = true) :
    sent a s h expression .pull (log ++ [e]) = writesFor expression log := by
  have he : e.written? = none := by
    cases e with
    | wrote => cases hp
    | _ => rfl
  rw [sent, uptoPull, List.rdropWhile_concat_neg _ _ _ (by simp [hp]), writesFor_snoc_of_none he]

/-- Without a pull a subscriber that pulls is sent nothing. -/
private theorem sent_pull_snoc_of_ne (hp : e.isPull a s h = false) :
    sent a s h expression .pull (log ++ [e]) = sent a s h expression .pull log := by
  rw [sent, uptoPull, List.rdropWhile_concat_pos _ _ _ (by simp [hp])]
  rfl

/-- What is neither a write nor a pull sends nothing to anybody. -/
private theorem sent_snoc_of_none (he : e.written? = none) (hp : e.isPull a s h = false) :
    sent a s h expression mode (log ++ [e]) = sent a s h expression mode log := by
  cases mode with
  | push => exact writesFor_snoc_of_none he
  | pull => exact sent_pull_snoc_of_ne hp

/-- Everything that was sent was written. -/
private theorem sent_prefix : sent a s h expression mode log <+: writesFor expression log := by
  cases mode with
  | push => exact List.prefix_refl _
  | pull => exact ((List.rdropWhile_prefix _ _).filterMap _).filter _

end logs

/-! ## Moves -/

/-- What belongs to one handle. -/
structure Seat (α : Type) where
  listener : Option α
  declared : List SubscriberDeclaration
  /-- The samples on their way, in order. -/
  queued : List Sample

namespace Seat

variable {α : Type}

/-- What can happen to a seat. -/
inductive Move (a : Audience) (hears : α → DataListener Surroundings Effect) (s : SessionId)
    (h : Handle) : Seat α → Event → Seat α → Prop
  | quiet {x : Seat α} {e : Event} (he : e.regards a s h = false) : Move a hears s h x e x
  | write (x : Seat α) (clock : Clock) (wall : Instant) (sample : Sample) :
    Move a hears s h x (.wrote clock wall sample)
      { x with
        declared := x.declared.map (Router.keepPending sample)
        queued := x.queued ++ (Desk.jobsFor x.declared sample).map (·.2.2) }
  | undeclare (x : Seat α) :
    Move a hears s h x (.undeclared a s h) { x with listener := none, declared := [] }
  | close (x : Seat α) : Move a hears s h x (.closed s) { x with declared := [] }
  | pull {x : Seat α} {y : SubscriberDeclaration} (ha : a = .subscribers)
    (hy : x.declared.head? = some y) :
    Move a hears s h x (.pulled s h)
      { x with
        declared := Router.changeFirst s h (fun y => { y with pending := [] }) x.declared
        queued := x.queued ++ y.pending }
  | hear {x : Seat α} {listener : α} {sample : Sample} {rest : List Sample}
    (around : Surroundings) (hl : x.listener = some listener) (hq : x.queued = sample :: rest) :
    Move a hears s h x (.heard a s h sample (hears listener around sample))
      { x with queued := rest }
  | skip {x : Seat α} {sample : Sample} {rest : List Sample} (hl : x.listener = none)
    (hq : x.queued = sample :: rest) :
    Move a hears s h x (.unheard a s h sample) { x with queued := rest }
  | miss {x : Seat α} {sample : Sample} {rest : List Sample} (hq : x.queued = sample :: rest) :
    Move a hears s h x (.missed a s h sample) { x with queued := rest }

end Seat

namespace Desk

variable {α : Type} {a : Audience} {hears : α → DataListener Surroundings Effect} {d d' : Desk α}
  {e : Event} {log : List Event} {s : SessionId} {h : Handle}

/-- The samples on their way to a handle. -/
def queuedFor (s : SessionId) (h : Handle) (jobs : List (SessionId × Handle × Sample)) :
    List Sample :=
  (jobs.filter fun j => j.1 == s && j.2.1 == h).map (·.2.2)

/-- The part of a desk that belongs to a handle. -/
def seat (d : Desk α) (s : SessionId) (h : Handle) : Seat α where
  listener := (d.table s).entries.find? h
  declared := d.declared.filter (·.isOf s h)
  queued := queuedFor s h d.jobs

/-- What is queued for a subscriber in two queues, one behind the other. -/
private theorem queuedFor_append (jobs jobs' : List (SessionId × Handle × Sample)) :
    queuedFor s h (jobs ++ jobs') = queuedFor s h jobs ++ queuedFor s h jobs' := by
  rw [queuedFor, List.filter_append, List.map_append]
  rfl

/-- The first job of a queue is for a subscriber, or it is not. -/
private theorem queuedFor_cons (s' : SessionId) (h' : Handle) (sample : Sample)
    (jobs : List (SessionId × Handle × Sample)) :
    queuedFor s h ((s', h', sample) :: jobs) =
      if s' = s ∧ h' = h then sample :: queuedFor s h jobs else queuedFor s h jobs := by
  rw [queuedFor, List.filter_cons]
  by_cases hs : s' = s ∧ h' = h
  · simp [hs, queuedFor]
  · rw [if_neg hs, if_neg (by simpa using hs)]
    rfl

/-- The jobs that a write causes for a handle are those for its declarations. -/
private theorem queuedFor_jobsFor (declared : List SubscriberDeclaration) (sample : Sample) :
    queuedFor s h (jobsFor declared sample) =
      (jobsFor (declared.filter (·.isOf s h)) sample).map (·.2.2) := by
  rw [queuedFor, jobsFor, jobsFor, List.filter_map, List.filter_filter, List.filter_filter]
  congr 2
  refine List.filter_congr fun x _ => ?_
  simp only [Function.comp_apply, Declaration.isOf, Bool.and_comm]

/-- A subscriber that keeps a sample is the one it was. -/
private theorem keepPending_isOf (sample : Sample) (x : SubscriberDeclaration) :
    (Router.keepPending sample x).isOf s h = x.isOf s h := by
  unfold Router.keepPending
  split <;> rfl

/-- A declaration is that of a subscriber if session and handle agree. -/
private theorem isOf_iff (x : Declaration) : x.isOf s h = true ↔ x.session = s ∧ x.handle = h := by
  simp [Declaration.isOf]

/-- A declaration under one handle is not one under another. -/
private theorem isOf_eq_false {s' : SessionId} {h' : Handle} {x : Declaration}
    (hne : ¬(s' = s ∧ h' = h)) (hx : x.isOf s' h' = true) : x.isOf s h = false := by
  rw [Bool.eq_false_iff]
  intro hof
  rw [isOf_iff] at hx hof
  exact hne ⟨hx.1.symm.trans hof.1, hx.2.symm.trans hof.2⟩

/-- Taking what waits for another handle leaves the declarations of this one. -/
private theorem filter_changeFirst_of_ne {s' : SessionId} {h' : Handle} (hne : ¬(s' = s ∧ h' = h))
    (l : List SubscriberDeclaration) :
    (Router.changeFirst s' h' (fun x => { x with pending := [] }) l).filter (·.isOf s h) =
      l.filter (·.isOf s h) := by
  induction l with
  | nil => rfl
  | cons x rest ih =>
    rw [Router.changeFirst]
    split
    · -- the declaration that is changed is filtered out on both sides
      next hx =>
      have hx' : x.isOf s h = false := isOf_eq_false hne hx
      rw [List.filter_cons_of_neg (by simpa using hx'), List.filter_cons_of_neg]
      simpa [Declaration.isOf] using hx'
    · rw [List.filter_cons, List.filter_cons, ih]

/-- To change the first declaration of a subscriber is to change the first of those that it has. -/
private theorem filter_changeFirst_self (l : List SubscriberDeclaration) :
    (Router.changeFirst s h (fun x => { x with pending := [] }) l).filter (·.isOf s h) =
      Router.changeFirst s h (fun x => { x with pending := [] }) (l.filter (·.isOf s h)) := by
  induction l with
  | nil => rfl
  | cons x rest ih =>
    rw [Router.changeFirst]
    -- the induction stops at the declaration that is changed
    cases hx : x.isOf s h with
    | true =>
      have hx' : ({ x with pending := [] } : SubscriberDeclaration).isOf s h = true := hx
      rw [if_pos rfl, List.filter_cons, List.filter_cons, if_pos hx', if_pos hx,
        Router.changeFirst, if_pos hx]
    | false => simp only [hx, Bool.false_eq_true, if_false, List.filter_cons, ih]

/-- A subscriber does not see the clock. -/
private theorem seat_clock (d : Desk α) (clock : Clock) :
    ({ d with clock } : Desk α).seat s h = d.seat s h := rfl

/-- The job that is taken from the queue was the next one of its subscriber. -/
private theorem queuedFor_of_eq {sample : Sample} {rest : List (SessionId × Handle × Sample)}
    (hj : d.jobs = (s, h, sample) :: rest) :
    (d.seat s h).queued = sample :: queuedFor s h rest := by
  rw [seat, hj, queuedFor_cons, if_pos ⟨rfl, rfl⟩]

/-- A job for another handle is none of this one's business. -/
private theorem seat_of_jobs_eq (d : Desk α) {s' : SessionId} {h' : Handle} {sample : Sample}
    {rest : List (SessionId × Handle × Sample)} (hj : d.jobs = (s', h', sample) :: rest)
    (hne : ¬(s' = s ∧ h' = h)) : ({ d with jobs := rest } : Desk α).seat s h = d.seat s h := by
  unfold seat
  rw [hj, queuedFor_cons, if_neg hne]

/-! ### Seats and what is done to a desk -/

/-- A write does to each seat what it does to the declarations in it. -/
private theorem seat_accept (d : Desk α) (wall : Instant) (sample : Sample) :
    (d.accept wall sample).seat s h =
      { d.seat s h with
        declared := (d.seat s h).declared.map (Router.keepPending sample)
        queued := (d.seat s h).queued ++
          (jobsFor (d.seat s h).declared sample).map (·.2.2) } := by
  -- it is the same to filter before samples are kept and afterwards
  have hmap : (d.declared.map (Router.keepPending sample)).filter (·.isOf s h) =
      (d.declared.filter (·.isOf s h)).map (Router.keepPending sample) := by
    rw [List.filter_map]
    congr 2
    funext x
    exact keepPending_isOf sample x
  rw [seat, accept_table, accept_declared, accept_jobs, hmap, queuedFor_append, queuedFor_jobsFor]
  rfl

/-- Other listeners of a session leave a seat alone if its handle stands for the same one. -/
private theorem seat_setTable (d : Desk α) {s' : SessionId} {t : HandleTable α}
    (ht : s' = s → t.entries.find? h = (d.table s').entries.find? h) :
    (d.setTable s' t).seat s h = d.seat s h := by
  unfold seat
  congr 1
  rw [setTable_table]
  split
  · next heq => rw [ht heq.symm, heq]
  · rfl

/-- A declaration under another handle leaves a seat alone. -/
private theorem seat_declare (d : Desk α) {s' : SessionId} {t : HandleTable α}
    {x : SubscriberDeclaration}
    (ht : s' = s → t.entries.find? h = (d.table s').entries.find? h) (hx : x.isOf s h = false) :
    ({ d.setTable s' t with declared := d.declared ++ [x] } : Desk α).seat s h = d.seat s h := by
  rw [← d.seat_setTable ht]
  unfold seat
  congr 1
  rw [List.filter_append, List.filter_cons_of_neg (by simp [hx])]
  exact List.append_nil _

/-- Declarations that go, but none under its handle, leave a seat alone. -/
private theorem seat_filter_of_forall (d : Desk α) {p : SubscriberDeclaration → Bool}
    (hp : ∀ x, x.isOf s h = true → p x = true) :
    ({ d with declared := d.declared.filter p } : Desk α).seat s h = d.seat s h := by
  unfold seat
  congr 1
  rw [List.filter_filter]
  refine List.filter_congr fun x _ => ?_
  cases hx : x.isOf s h with
  | false => rfl
  | true => rw [hp x hx]; rfl

/-- Declarations that go, and with them all under its handle, leave an empty seat. -/
private theorem seat_filter_of_forall_not (d : Desk α) {p : SubscriberDeclaration → Bool}
    (hp : ∀ x, x.isOf s h = true → p x = false) :
    ({ d with declared := d.declared.filter p } : Desk α).seat s h =
      { d.seat s h with declared := [] } := by
  unfold seat
  congr 1
  rw [List.filter_filter, List.filter_eq_nil_iff]
  intro x _ hx
  rw [Bool.and_eq_true] at hx
  exact absurd hx.2 (by simp [hp x hx.1])

/-- A listener that is taken back leaves its own seat empty. -/
private theorem seat_undeclare_self (d : Desk α) :
    ({ d.setTable s ((d.table s).remove h) with
      declared := d.declared.filter fun x => !x.isOf s h } : Desk α).seat s h =
      { d.seat s h with listener := none, declared := [] } := by
  refine (seat_filter_of_forall_not (d.setTable s ((d.table s).remove h)) (by simp)).trans ?_
  simp only [seat, setTable_table, if_true, HandleTable.find?_remove]
  rfl

/-- A subscriber sees nothing of another one that is taken back. -/
private theorem seat_undeclare_of_ne (d : Desk α) {s' : SessionId} {h' : Handle}
    (hne : ¬(s' = s ∧ h' = h)) :
    ({ d.setTable s' ((d.table s').remove h') with
      declared := d.declared.filter fun x => !x.isOf s' h' } : Desk α).seat s h = d.seat s h := by
  -- neither its declarations nor its listener are those that go
  refine (seat_filter_of_forall (d.setTable s' ((d.table s').remove h')) ?_).trans
    (d.seat_setTable ?_)
  · intro x hx
    have hx' : x.isOf s' h' = false := isOf_eq_false (fun heq => hne ⟨heq.1.symm, heq.2.symm⟩) hx
    rw [hx']
    rfl
  · intro hs
    rw [HandleTable.find?_remove, if_neg fun hh => hne ⟨hs, hh.symm⟩]

/-- Sending what waits for a handle moves it, within the seat, onto the way. -/
private theorem seat_pull_self (d : Desk α) (pending : List Sample) :
    ({ d with
      declared := Router.changeFirst s h (fun x => { x with pending := [] }) d.declared
      jobs := d.jobs ++ pending.map fun sample => (s, h, sample) } : Desk α).seat s h =
      { d.seat s h with
        declared := Router.changeFirst s h (fun x => { x with pending := [] })
          (d.seat s h).declared
        queued := (d.seat s h).queued ++ pending } := by
  -- all that waited is queued for the one who pulls
  have hqueued : queuedFor s h (pending.map fun sample => (s, h, sample)) = pending := by
    rw [queuedFor, List.filter_map, List.map_map, List.filter_eq_self.2 (by simp)]
    exact List.map_id _
  unfold seat
  rw [filter_changeFirst_self, queuedFor_append, hqueued]

/-- A subscriber sees nothing of another one that pulls. -/
private theorem seat_pull_of_ne (d : Desk α) {s' : SessionId} {h' : Handle}
    (hne : ¬(s' = s ∧ h' = h))
    (pending : List Sample) :
    ({ d with
      declared := Router.changeFirst s' h' (fun x => { x with pending := [] }) d.declared
      jobs := d.jobs ++ pending.map fun sample => (s', h', sample) } : Desk α).seat s h =
      d.seat s h := by
  -- what waited for the other one is queued for the other one
  have hqueued : queuedFor s h (pending.map fun sample => (s', h', sample)) = [] := by
    rw [queuedFor, List.filter_map, List.map_map, List.filter_eq_nil_iff.2]
    · rfl
    · intro _ _
      simpa using hne
  unfold seat
  rw [filter_changeFirst_of_ne hne, queuedFor_append, hqueued, List.append_nil]

/-- What a move on a desk does to a seat whose handle was given out before. -/
theorem Move.seat (m : Move a hears d e d') (htidy : Tidy a log d)
    (hfew : FewDeclarations a (log ++ [e])) (hlt : h < (d.table s).next) :
    Seat.Move a hears s h (d.seat s h) e (d'.seat s h) := by
  -- a new handle is the one at the counter, and that of the seat is behind it
  have hnew : ∀ s', s' = s → h ≠ (d.table s').next := by
    rintro s' rfl
    exact Nat.ne_of_lt hlt
  cases m with
  | other he =>
    refine .quiet ?_
    cases e with
    | pulled => simp_all [Event.concerns, Event.regards, Event.ends, Event.isPull, Event.heard?]
    | _ => simp_all [Event.concerns, Event.regards, Event.ends, Event.isPull, Event.heard?]
  | tick wall =>
    rw [d.seat_clock (d.clock.now wall).2]
    exact .quiet rfl
  | refuse => exact .quiet rfl
  | write =>
    rw [seat_accept]
    exact .write _ _ _ _
  | @declare s' k t l expression mode hreg =>
    obtain ⟨rfl, -, -, -, -, hfind⟩ := htidy.register (by simp [Event.isDeclaration]) hfew hreg
    have hof : ({ session := s', handle := (d.table s').next, expression, mode } :
        SubscriberDeclaration).isOf s h = false := by
      rw [Bool.eq_false_iff, ne_eq, isOf_iff]
      exact fun heq => hnew s' heq.1 heq.2.symm
    rw [d.seat_declare (fun hs => by rw [hfind, if_neg (hnew s' hs)]) hof]
    exact .quiet rfl
  | @reserve s' k t l hreg =>
    obtain ⟨rfl, -, -, -, -, hfind⟩ := htidy.register (by simp [Event.isDeclaration]) hfew hreg
    rw [d.seat_setTable fun hs => by
      rw [HandleTable.find?_remove, if_neg (hnew s' hs), hfind, if_neg (hnew s' hs)]]
    exact .quiet rfl
  | undeclare s' k =>
    by_cases heq : s' = s ∧ k = h
    · obtain ⟨rfl, rfl⟩ := heq
      rw [seat_undeclare_self]
      exact .undeclare _
    · rw [d.seat_undeclare_of_ne heq]
      exact .quiet (by simpa [Event.regards, Event.ends, Event.isPull, Event.heard?] using heq)
  | close s' =>
    by_cases heq : s' = s
    · subst heq
      rw [d.seat_filter_of_forall_not fun x hx => by simp [((isOf_iff _).1 hx).1]]
      exact .close _
    · rw [d.seat_filter_of_forall fun x hx => by
        simpa [((isOf_iff _).1 hx).1] using fun hs => heq hs.symm]
      exact .quiet (by simp [Event.regards, Event.ends, Event.isPull, Event.heard?, heq])
  | @pull s' k x ha hx =>
    by_cases heq : s' = s ∧ k = h
    · obtain ⟨rfl, rfl⟩ := heq
      rw [seat_pull_self]
      exact .pull ha (by rw [← hx, seat, List.head?_filter])
    · rw [d.seat_pull_of_ne heq]
      refine .quiet ?_
      have hne : ¬((s' == s && k == h) = true) := by simpa using heq
      simp_all [Event.regards, Event.ends, Event.isPull, Event.heard?]
  | @hear s' k sample rest l around _ hj hl =>
    by_cases heq : s' = s ∧ k = h
    · obtain ⟨rfl, rfl⟩ := heq
      exact .hear around hl (queuedFor_of_eq hj)
    · rw [d.seat_of_jobs_eq hj heq]
      exact .quiet (by simp [Event.regards, Event.ends, Event.isPull, Event.heard?, heq])
  | @skip s' k sample rest hj hl =>
    by_cases heq : s' = s ∧ k = h
    · obtain ⟨rfl, rfl⟩ := heq
      exact .skip hl (queuedFor_of_eq hj)
    · rw [d.seat_of_jobs_eq hj heq]
      exact .quiet (by simpa [Event.regards] using heq)
  | @miss s' k sample rest hj =>
    by_cases heq : s' = s ∧ k = h
    · obtain ⟨rfl, rfl⟩ := heq
      exact .miss (queuedFor_of_eq hj)
    · rw [d.seat_of_jobs_eq hj heq]
      exact .quiet (by simpa [Event.regards] using heq)

end Desk

/-! ## Accounts -/

namespace Seat

variable {α : Type} {a : Audience} {hears : α → DataListener Surroundings Effect} {s : SessionId}
  {h : Handle} {expression : String} {mode : SubMode} {listener : α} {log : List Event}
  {e : Event} {x x' : Seat α}

/-- The listener is declared.  What it has heard and what is on its way to it was sent, and
what was sent and what waits to be pulled was written. -/
structure Open (a : Audience) (s : SessionId) (h : Handle) (expression : String) (mode : SubMode)
    (listener : α) (log : List Event) (x : Seat α) : Prop where
  not_ended : ∀ e ∈ log, e.ends a s h = false
  listener_eq : x.listener = some listener
  declared_eq : ∃ pending,
    x.declared = [{ session := s, handle := h, expression, mode, pending }] ∧
      sent a s h expression mode log ++ pending = writesFor expression log
  heard_eq : heardBy a s h log ++ x.queued = sent a s h expression mode log

/-- The session was closed.  What is still on its way reaches the listener. -/
structure Shut (a : Audience) (s : SessionId) (h : Handle) (expression : String) (listener : α)
    (log : List Event) (x : Seat α) : Prop where
  ended : ∃ e ∈ log, e.ends a s h = true
  not_undeclared : .undeclared a s h ∉ log
  listener_eq : x.listener = some listener
  declared_eq : x.declared = []
  heard_prefix : heardBy a s h log ++ x.queued <+: due a s h expression log

/-- The declaration was taken back.  The listener hears nothing from then on. -/
structure Gone (a : Audience) (s : SessionId) (h : Handle) (expression : String)
    (log : List Event) (x : Seat α) : Prop where
  ended : ∃ e ∈ log, e.ends a s h = true
  listener_eq : x.listener = none
  declared_eq : x.declared = []
  heard_prefix : heardBy a s h log <+: due a s h expression log
  nothing_after : ∀ before after, log = before ++ .undeclared a s h :: after →
    heardBy a s h after = []

/-- What has become of a listener since it was declared; `log` starts behind its declaration. -/
inductive Tracked (a : Audience) (s : SessionId) (h : Handle) (expression : String)
    (mode : SubMode) (listener : α) (log : List Event) (x : Seat α) : Prop
  | isOpen (hx : Open a s h expression mode listener log x)
  | isShut (hx : Shut a s h expression listener log x)
  | isGone (hx : Gone a s h expression log x)

/-- An event that does not regard a handle. -/
private theorem written?_of_not_regards (he : e.regards a s h = false) : e.written? = none := by
  cases e with
  | wrote => cases he
  | _ => rfl

/-- What does not regard a subscriber does not end it, is no pull of it and no call of its listener.
-/
private theorem of_not_regards (he : e.regards a s h = false) :
    e.ends a s h = false ∧ e.isPull a s h = false ∧ e.heard? a s h = none := by
  cases e <;> simp_all [Event.regards, Event.ends, Event.isPull, Event.heard?]

/-- A subscriber that was there and is not ended is there still. -/
private theorem forall_snoc_not_ended (hlog : ∀ e ∈ log, e.ends a s h = false)
    (he : e.ends a s h = false) : ∀ e' ∈ log ++ [e], e'.ends a s h = false := by
  intro e' he'
  rcases List.mem_append.1 he' with he' | he'
  · exact hlog e' he'
  · exact List.mem_singleton.1 he' ▸ he

/-- An event that is not the last one happened before the last one. -/
private theorem eq_of_snoc_eq {u last : Event} {before rest : List Event}
    (heq : log ++ [e] = before ++ u :: rest.concat last) :
    log = before ++ u :: rest ∧ e = last := by
  have hinj : log = before ++ u :: rest ∧ [e] = [last] :=
    List.append_inj' (by simpa using heq) rfl
  simpa using hinj

/-- A subscriber that has gone does not come back. -/
private theorem exists_snoc_ended (hlog : ∃ e ∈ log, e.ends a s h = true) :
    ∃ e' ∈ log ++ [e], e'.ends a s h = true := by
  obtain ⟨e', he', hends⟩ := hlog
  exact ⟨e', List.mem_append_left _ he', hends⟩

namespace Open

/-- What does not regard a subscriber leaves its account as it is. -/
private theorem quiet (hx : Open a s h expression mode listener log x)
    (he : e.regards a s h = false) :
    Open a s h expression mode listener (log ++ [e]) x := by
  obtain ⟨hends, hpull, hheard⟩ := of_not_regards he
  have hw := written?_of_not_regards he
  -- what was sent and what was heard have not changed, so the sums are those of before
  constructor
  · exact forall_snoc_not_ended hx.not_ended hends
  · exact hx.listener_eq
  · rw [sent_snoc_of_none hw hpull, writesFor_snoc_of_none hw]
    exact hx.declared_eq
  · rw [heardBy_snoc, hheard, sent_snoc_of_none hw hpull]
    simpa using hx.heard_eq

/-- A write goes to a subscriber that is pushed to, or waits for one that pulls. -/
private theorem write (hx : Open a s h expression mode listener log x) (clock : Clock)
    (wall : Instant)
    (sample : Sample) :
    Open a s h expression mode listener (log ++ [.wrote clock wall sample])
      { x with
        declared := x.declared.map (Router.keepPending sample)
        queued := x.queued ++ (Desk.jobsFor x.declared sample).map (·.2.2) } := by
  obtain ⟨pending, hdeclared, hsent⟩ := hx.declared_eq
  have hheard := hx.heard_eq
  have hends : (Event.wrote clock wall sample).ends a s h = false := rfl
  have hpull : (Event.wrote clock wall sample).isPull a s h = false := rfl
  have hsnoc : heardBy a s h (log ++ [.wrote clock wall sample]) = heardBy a s h log := by
    rw [heardBy_snoc]
    exact List.append_nil _
  refine ⟨forall_snoc_not_ended hx.not_ended hends, hx.listener_eq, ?_, ?_⟩
  · rw [hdeclared]
    cases mode with
    | push =>
      -- what is pushed never waits
      have hpending : pending = [] := by simpa [sent] using hsent
      exact ⟨[], by simp [Router.keepPending, hpending], by simp [sent]⟩
    | pull =>
      rw [sent_pull_snoc_of_ne hpull, writesFor_snoc_wrote, ← hsent]
      cases hm : Wildcard.meet expression sample.path with
      | true => exact ⟨pending ++ [sample], by simp [Router.keepPending, hm], by simp⟩
      | false => exact ⟨pending, by simp [Router.keepPending, hm], by simp⟩
  · rw [hsnoc, hdeclared, ← List.append_assoc, hheard]
    cases mode with
    | push =>
      cases hm : Wildcard.meet expression sample.path with
      | true => simp [sent, writesFor_snoc_wrote, Desk.jobsFor, hm]
      | false => simp [sent, writesFor_snoc_wrote, Desk.jobsFor, hm]
    | pull =>
      rw [sent_pull_snoc_of_ne hpull]
      simp [Desk.jobsFor]

/-- The listener has heard a part of what was written. -/
private theorem heard_prefix (hx : Open a s h expression mode listener log x) :
    heardBy a s h log ++ x.queued <+: writesFor expression log := by
  rw [hx.heard_eq]
  exact sent_prefix

/-- A subscriber that is taken back has heard a part of what was due, and hears nothing any more. -/
private theorem undeclare (hx : Open a s h expression mode listener log x) :
    Gone a s h expression (log ++ [.undeclared a s h])
      ({ x with listener := none, declared := [] } : Seat α) := by
  have hends : (Event.undeclared a s h).ends a s h = true := by simp [Event.ends]
  refine ⟨⟨_, List.mem_append_right _ List.mem_cons_self, hends⟩, rfl, rfl, ?_, ?_⟩
  · rw [due_snoc_ends hx.not_ended hends, heardBy_snoc]
    simpa [Event.heard?] using (List.prefix_append _ _).trans hx.heard_prefix
  · -- the subscriber was there until now, so nothing came after its end
    intro before after heq
    rcases List.eq_nil_or_concat after with rfl | ⟨rest, last, rfl⟩
    · rfl
    · have hmem : Event.undeclared a s h ∈ log := by
        rw [(eq_of_snoc_eq heq).1]
        simp
      rw [hx.not_ended _ hmem] at hends
      cases hends

/-- When its session is closed, a subscriber is sent nothing more, but may still hear what it was
sent. -/
private theorem close (hx : Open a s h expression mode listener log x) :
    Shut a s h expression listener (log ++ [.closed s]) { x with declared := [] } := by
  have hends : (Event.closed s).ends a s h = true := by simp [Event.ends]
  refine ⟨⟨_, List.mem_append_right _ List.mem_cons_self, hends⟩, ?_, hx.listener_eq, rfl, ?_⟩
  · -- until now it was there, and closing is no taking back
    intro hmem
    rcases List.mem_append.1 hmem with hmem | hmem
    · simpa [Event.ends] using hx.not_ended _ hmem
    · simp at hmem
  · rw [due_snoc_ends hx.not_ended hends, heardBy_snoc]
    simpa [Event.heard?] using hx.heard_prefix

/-- What waited for a subscriber that pulls is sent to it. -/
private theorem pull (hx : Open a s h expression mode listener log x) (ha : a = .subscribers)
    {y : SubscriberDeclaration} (hy : x.declared.head? = some y) :
    Open a s h expression mode listener (log ++ [.pulled s h])
      { x with
        declared := Router.changeFirst s h (fun y => { y with pending := [] }) x.declared
        queued := x.queued ++ y.pending } := by
  obtain ⟨pending, hdeclared, hsent⟩ := hx.declared_eq
  have hpull : (Event.pulled s h).isPull a s h = true := by simp [Event.isPull, ha]
  -- whichever the mode, all has been sent that was written
  have hsent' : sent a s h expression mode (log ++ [.pulled s h]) = writesFor expression log := by
    cases mode with
    | push => exact writesFor_snoc_of_none rfl
    | pull => exact sent_snoc_pull hpull
  rw [hdeclared, List.head?_cons, Option.some.injEq] at hy
  -- what waited is now queued, and nothing waits
  subst hy
  refine ⟨forall_snoc_not_ended hx.not_ended rfl, hx.listener_eq, ⟨[], ?_, ?_⟩, ?_⟩
  · rw [hdeclared]
    simp [Router.changeFirst, Declaration.isOf]
  · rw [hsent', writesFor_snoc_of_none rfl, List.append_nil]
  · rw [hsent', ← hsent, ← hx.heard_eq, heardBy_snoc]
    simp [Event.heard?]

/-- What the listener is called with was the next of what it was sent. -/
private theorem hear (hx : Open a s h expression mode listener log x) {sample : Sample}
    {rest : List Sample} (script : Script Effect) (hq : x.queued = sample :: rest) :
    Open a s h expression mode listener (log ++ [.heard a s h sample script])
      { x with queued := rest } := by
  have hsent : sent a s h expression mode (log ++ [.heard a s h sample script]) =
      sent a s h expression mode log := sent_snoc_of_none rfl rfl
  refine ⟨forall_snoc_not_ended hx.not_ended rfl, hx.listener_eq, ?_, ?_⟩
  · rw [hsent, writesFor_snoc_of_none rfl]
    exact hx.declared_eq
  · -- the sample has gone from the queue to what was heard
    rw [hsent, ← hx.heard_eq, heardBy_snoc, hq]
    simp [Event.heard?]

end Open

namespace Shut

/-- Nothing is sent any more, whatever happens. -/
private theorem snoc (hx : Shut a s h expression listener log x) {e : Event}
    (he : e ≠ .undeclared a s h) (hl : x'.listener = x.listener) (hd : x'.declared = [])
    (hq : (e.heard? a s h).toList ++ x'.queued <+: x.queued) :
    Shut a s h expression listener (log ++ [e]) x' := by
  refine ⟨exists_snoc_ended hx.ended, ?_, hl.trans hx.listener_eq, hd, ?_⟩
  · intro hmem
    rcases List.mem_append.1 hmem with hmem | hmem
    · exact hx.not_undeclared hmem
    · exact he (List.mem_singleton.1 hmem).symm
  · rw [due_snoc_of_ended hx.ended, heardBy_snoc, List.append_assoc]
    exact ((List.prefix_append_right_inj _).2 hq).trans hx.heard_prefix

/-- A subscriber of a closed session that is taken back hears nothing any more. -/
private theorem undeclare (hx : Shut a s h expression listener log x) :
    Gone a s h expression (log ++ [.undeclared a s h])
      ({ x with listener := none, declared := [] } : Seat α) := by
  refine ⟨exists_snoc_ended hx.ended, rfl, rfl, ?_, ?_⟩
  · rw [due_snoc_of_ended hx.ended, heardBy_snoc]
    simpa [Event.heard?] using (List.prefix_append _ _).trans hx.heard_prefix
  · intro before after heq
    rcases List.eq_nil_or_concat after with rfl | ⟨rest, last, rfl⟩
    · rfl
    · exact absurd (by rw [(eq_of_snoc_eq heq).1]; simp) hx.not_undeclared

end Shut

/-- A listener that is gone hears nothing, whatever happens. -/
private theorem Gone.snoc (hx : Gone a s h expression log x) {e : Event}
    (he : e.heard? a s h = none)
    (hl : x'.listener = none) (hd : x'.declared = []) :
    Gone a s h expression (log ++ [e]) x' := by
  refine ⟨exists_snoc_ended hx.ended, hl, hd, ?_, ?_⟩
  · rw [due_snoc_of_ended hx.ended, heardBy_snoc, he]
    simpa using hx.heard_prefix
  · intro before after heq
    -- the end lies in the log of before, unless the log ends with it
    rcases List.eq_nil_or_concat after with rfl | ⟨rest, last, rfl⟩
    · rfl
    · obtain ⟨hinit, rfl⟩ := eq_of_snoc_eq heq
      rw [List.concat_eq_append, heardBy_snoc, he, hx.nothing_after before rest hinit]
      rfl

/-- Every move keeps account of what the listener has heard. -/
theorem Tracked.step (hx : Tracked a s h expression mode listener log x)
    (m : Move a hears s h x e x') (hmiss : e.isMissed a s = false) :
    Tracked a s h expression mode listener (log ++ [e]) x' := by
  cases hx with
  | isOpen hx =>
    cases m with
    | quiet he => exact .isOpen (hx.quiet he)
    | write clock wall sample => exact .isOpen (hx.write clock wall sample)
    | undeclare => exact .isGone hx.undeclare
    | close => exact .isShut hx.close
    | pull ha hy => exact .isOpen (hx.pull ha hy)
    | hear around hl hq => exact .isOpen (hx.hear _ hq)
    | skip hl => exact absurd (hl.symm.trans hx.listener_eq) (by simp)
    | miss => simp [Event.isMissed] at hmiss
  | isShut hx =>
    -- nothing is added to what is on its way any more, but what is there is still heard
    cases m with
    | quiet he =>
      refine .isShut (hx.snoc ?_ rfl hx.declared_eq ?_)
      · rintro rfl
        simp [Event.regards, Event.ends] at he
      · rw [(of_not_regards he).2.2]
        exact List.prefix_refl _
    | write clock wall sample =>
      refine .isShut (hx.snoc (by simp) rfl (by rw [hx.declared_eq]; rfl) ?_)
      rw [hx.declared_eq]
      exact (List.append_nil _ ▸ List.prefix_refl _)
    | undeclare => exact .isGone hx.undeclare
    | close => exact .isShut (hx.snoc (by simp) rfl rfl (List.prefix_refl _))
    | pull ha hy => simp [hx.declared_eq] at hy
    | hear around hl hq =>
      refine .isShut (hx.snoc (by simp) rfl hx.declared_eq ?_)
      rw [hq]
      simp [Event.heard?]
    | skip hl => exact absurd (hl.symm.trans hx.listener_eq) (by simp)
    | miss => simp [Event.isMissed] at hmiss
  | isGone hx =>
    cases m with
    | quiet he => exact .isGone (hx.snoc (of_not_regards he).2.2 hx.listener_eq hx.declared_eq)
    | write => exact .isGone (hx.snoc rfl hx.listener_eq (by rw [hx.declared_eq]; rfl))
    | undeclare | close => exact .isGone (hx.snoc rfl (by first | rfl | exact hx.listener_eq) rfl)
    | pull ha hy => simp [hx.declared_eq] at hy
    | hear around hl => exact absurd (hx.listener_eq.symm.trans hl) (by simp)
    | skip | miss => exact .isGone (hx.snoc rfl hx.listener_eq hx.declared_eq)

/-- The listener that is called is the one that was declared. -/
private theorem Tracked.eq_of_listener (hx : Tracked a s h expression mode listener log x) {l : α}
    (hl : x.listener = some l) : l = listener := by
  cases hx with
  | isOpen hx | isShut hx => simpa [hl] using hx.listener_eq
  | isGone hx => simp [hx.listener_eq] at hl

namespace Tracked

/-- The listener has heard a part of what it was due, in order. -/
theorem heard_prefix (hx : Tracked a s h expression mode listener log x) :
    heardBy a s h log <+: due a s h expression log := by
  cases hx with
  | isOpen hx =>
    rw [due_of_not_ended hx.not_ended]
    exact (List.prefix_append _ _).trans hx.heard_prefix
  | isShut hx => exact (List.prefix_append _ _).trans hx.heard_prefix
  | isGone hx => exact hx.heard_prefix

/-- A listener that is still declared and to which nothing is on its way has heard all that
was sent to it. -/
theorem heard_eq_sent (hx : Tracked a s h expression mode listener log x) (hq : x.queued = [])
    (hends : ∀ e ∈ log, e.ends a s h = false) :
    heardBy a s h log = sent a s h expression mode log := by
  cases hx with
  | isOpen hx => rw [← hx.heard_eq, hq, List.append_nil]
  | isShut hx | isGone hx =>
    obtain ⟨e, he, hend⟩ := hx.ended
    exact absurd (hends e he) (by simp [hend])

/-- A listener that was taken back hears nothing any more. -/
theorem nothing_after (hx : Tracked a s h expression mode listener log x)
    {before after : List Event} (heq : log = before ++ .undeclared a s h :: after) :
    heardBy a s h after = [] := by
  have hmem : Event.undeclared a s h ∈ log := by
    rw [heq]
    exact List.mem_append_right _ List.mem_cons_self
  cases hx with
  | isOpen hx => exact absurd (hx.not_ended _ hmem) (by simp [Event.ends])
  | isShut hx => exact absurd hmem hx.not_undeclared
  | isGone hx => exact hx.nothing_after before after heq

end Tracked

end Seat

namespace Desk

variable {α : Type} {a : Audience} {hears : α → DataListener Surroundings Effect}
  {start d d' : Desk α} {e : Event} {before after log : List Event} {s : SessionId} {h : Handle}
  {expression : String} {mode : SubMode} {listener : α}

/-- A handle that is just given out has a seat of its own. -/
private theorem open_of_declare {t : HandleTable α} (htidy : Tidy a log d)
    (hfew : FewDeclarations a (log ++ [.declared a s h expression mode (hears listener)]))
    (ht : (d.table s).register listener = .ok (h, t)) :
    Seat.Open a s h expression mode listener []
      (({ d.setTable s t with
        declared := d.declared ++ [{ session := s, handle := h, expression, mode }] } :
          Desk α).seat s h) := by
  obtain ⟨rfl, -, -, -, -, hfind⟩ := htidy.register (by simp [Event.isDeclaration]) hfew ht
  -- nothing has the handle at the counter yet, neither a declaration nor a job
  have hnone : d.declared.filter (·.isOf s (d.table s).next) = [] := by
    rw [List.filter_eq_nil_iff]
    intro x hx hof
    obtain ⟨rfl, hh⟩ := (isOf_iff _).1 hof
    exact absurd (htidy.declared_lt x hx) (by rw [hh]; exact Nat.lt_irrefl _)
  have hqueued : queuedFor s (d.table s).next d.jobs = [] := by
    rw [queuedFor, List.filter_eq_nil_iff.2, List.map_nil]
    intro j hj hof
    simp only [Bool.and_eq_true, beq_iff_eq] at hof
    obtain ⟨rfl, hh⟩ := hof
    exact absurd (htidy.jobs_lt j hj) (by rw [hh]; exact Nat.lt_irrefl _)
  refine ⟨by simp, ?_, ⟨[], ?_, ?_⟩, ?_⟩
  · simp only [seat, setTable_table, if_true, hfind]
  · simp only [seat, List.filter_append, hnone, List.nil_append]
    simp [Declaration.isOf]
  · cases mode <;> rfl
  · change [] ++ queuedFor s (d.table s).next d.jobs = _
    rw [hqueued]
    cases mode <;> rfl

/-- Somebody was declared, and that was not taken back since. -/
def Stands (a : Audience) (log : List Event) (x : SubscriberDeclaration) : Prop :=
  ∃ before does after,
    log = before ++ .declared a x.session x.handle x.expression x.mode does :: after ∧
    ∀ e ∈ after, e.ends a x.session x.handle = false

/-- A declaration stays in force through whatever does not end it. -/
private theorem Stands.snoc {x : SubscriberDeclaration} (hx : Stands a log x)
    (he : e.ends a x.session x.handle = false) : Stands a (log ++ [e]) x := by
  obtain ⟨before, does, after, rfl, hafter⟩ := hx
  exact ⟨before, does, after ++ [e], by simp, Seat.forall_snoc_not_ended hafter he⟩

/-- Whoever is declared was declared at some time, and that was not taken back since. -/
theorem stands_of_moves (hmoves : Moves a hears start log d) (hstart : start.declared = [])
    {x : SubscriberDeclaration} (hx : x ∈ d.declared) : Stands a log x := by
  refine hmoves.invariant (P := fun log d => ∀ x ∈ d.declared, Stands a log x) []
    (by rw [hstart]; simp) ?_ x hx
  -- the induction is on the moves, and asks for every declaration of the desk at once
  rintro done d₁ e d₂ - - hd m
  cases m with
  | other he =>
    intro x hx
    refine (hd x hx).snoc ?_
    cases e <;> simp_all [Event.concerns, Event.ends]
  | tick | refuse | reserve | hear | skip | miss => exact fun x hx => (hd x hx).snoc rfl
  | write =>
    intro x hx
    obtain ⟨y, hy, rfl⟩ := List.mem_map.1 hx
    unfold Router.keepPending
    split <;> exact (hd y hy).snoc rfl
  | @declare s k t listener expression mode ht =>
    intro x hx
    rcases List.mem_append.1 hx with hx | hx
    · exact (hd x hx).snoc rfl
    · obtain rfl := List.mem_singleton.1 hx
      exact ⟨done, hears listener, [], rfl, by simp⟩
  | undeclare s k =>
    intro x hx
    obtain ⟨hmem, hof⟩ := List.mem_filter.1 hx
    refine (hd x hmem).snoc ?_
    rw [Bool.not_eq_true', Bool.eq_false_iff, ne_eq, isOf_iff] at hof
    have hne : ¬(s = x.session ∧ k = x.handle) := fun heq => hof ⟨heq.1.symm, heq.2.symm⟩
    simpa [Event.ends] using hne
  | close s =>
    intro x hx
    obtain ⟨hmem, hne⟩ := List.mem_filter.1 hx
    refine (hd x hmem).snoc ?_
    have hne : s ≠ x.session := fun heq => by simp [heq] at hne
    simpa [Event.ends] using hne
  | pull ha hy =>
    intro x hx
    obtain ⟨z, hz, rfl | rfl⟩ := exists_of_mem_changeFirst hx
    · exact (hd x hz).snoc rfl
    · exact (hd z hz).snoc rfl

/-- Before a handle is given out, nobody is called under it. -/
private theorem heardBy_eq_nil_of_register {t : HandleTable α} (hmoves : Moves a hears start log d)
    (hstart : Tidy a [] start) (he : e.isDeclaration a s = true)
    (hfew : FewDeclarations a (log ++ [e]))
    (ht : (d.table s).register listener = .ok (h, t)) : heardBy a s h log = [] := by
  have hfew' : FewDeclarations a log := hfew.of_prefix (List.prefix_append _ _)
  obtain ⟨rfl, -⟩ := (hstart.moves hmoves hfew').register he hfew ht
  -- all handles that were heard under lie below the one that is given out
  refine List.filterMap_eq_nil_iff.2 fun e hmem => ?_
  cases e with
  | heard a' s' h' sample script =>
    refine if_neg ?_
    rintro ⟨rfl, rfl, hh⟩
    exact Nat.lt_irrefl _ (hh ▸ heard_lt_of_moves hmoves hstart hfew' hmem)
  | _ => rfl

/-- What holds of a listener at every moment after it was declared: `before` is what happened up
to then, and `log` what happened since. -/
structure Follows (a : Audience) (hears : α → DataListener Surroundings Effect)
    (codecs : CodecTable) (s : SessionId) (h : Handle) (expression : String) (mode : SubMode)
    (listener : α) (before log : List Event) (d : Desk α) : Prop where
  tidy : Tidy a (before ++ log) d
  /-- The handle stays behind the counter, so that nobody else gets the seat. -/
  lt_next : h < (d.table s).next
  tracked : Seat.Tracked a s h expression mode listener log (d.seat s h)
  codecs_eq : d.codecs = codecs
  scripts : ∀ sample script, .heard a s h sample script ∈ log →
    ∃ around, around.codecs = codecs ∧ script = hears listener around sample

/-- An account that is followed goes on with every move. -/
private theorem Follows.step {codecs : CodecTable}
    (hd : Follows a hears codecs s h expression mode listener before log d)
    (m : Move a hears d e d') (hfew : FewDeclarations a (before ++ log ++ [e]))
    (hmiss : e.isMissed a s = false) :
    Follows a hears codecs s h expression mode listener before (log ++ [e]) d' := by
  obtain ⟨htidy, hle⟩ := hd.tidy.step m hfew
  refine ⟨by rwa [← List.append_assoc], Nat.lt_of_lt_of_le hd.lt_next (hle s),
    hd.tracked.step (m.seat hd.tidy hfew hd.lt_next) hmiss, m.codecs_eq.trans hd.codecs_eq, ?_⟩
  intro sample script hmem
  -- a call of this move was made by the listener that was declared
  rcases List.mem_append.1 hmem with hmem | hmem
  · exact hd.scripts sample script hmem
  · obtain rfl := List.mem_singleton.1 hmem
    obtain ⟨l, around, hl, hc, rfl⟩ := m.script_eq
    exact ⟨around, hc.trans hd.codecs_eq, by rw [hd.tracked.eq_of_listener hl]⟩

/-- An account that is followed goes on through a run. -/
private theorem Follows.moves {codecs : CodecTable} {log' : List Event}
    (hd : Follows a hears codecs s h expression mode listener before log d)
    (ms : Moves a hears d log' d') (hfew : FewDeclarations a (before ++ log ++ log'))
    (hmiss : ∀ e ∈ log', e.isMissed a s = false) :
    Follows a hears codecs s h expression mode listener before (log ++ log') d' := by
  induction ms generalizing log with
  | nil => simpa using hd
  | @cons d₁ d₂ d₃ e rest m _ ih =>
    -- the bound on declarations is one for the whole log
    have hcut : before ++ log ++ e :: rest = before ++ log ++ [e] ++ rest := by simp
    rw [hcut] at hfew
    have hnext := hd.step m (hfew.of_prefix (List.prefix_append _ _))
      (hmiss e List.mem_cons_self)
    rw [List.append_cons]
    exact ih hnext (by rwa [← List.append_assoc]) fun e he => hmiss e (List.mem_cons_of_mem _ he)

/-- Every run keeps account of what each listener has heard since it was declared, and each
listener has done with it what it does. -/
theorem tracked_of_moves {does : DataListener Surroundings Effect}
    (hmoves : Moves a hears start (before ++ .declared a s h expression mode does :: after) d)
    (hstart : Tidy a [] start)
    (hfew : FewDeclarations a (before ++ .declared a s h expression mode does :: after))
    (hmiss : ∀ e ∈ after, e.isMissed a s = false) :
    ∃ listener, hears listener = does ∧ heardBy a s h before = [] ∧
      Seat.Tracked a s h expression mode listener after (d.seat s h) ∧
      ∀ sample script, .heard a s h sample script ∈ after →
        ∃ around, around.codecs = start.codecs ∧ script = does around sample := by
  obtain ⟨d₁, hbefore, hrest⟩ := hmoves.split
  have htidy : Tidy a before d₁ := hstart.moves hbefore (hfew.of_prefix (List.prefix_append _ _))
  rw [List.append_cons] at hfew
  -- the moves fall into those before the declaration, the declaration, and those behind
  cases hrest with
  | cons m hafter =>
  cases m with
  | other he => simp [Event.concerns] at he
  | @declare _ _ t listener _ _ ht =>
    have hfew₁ : FewDeclarations a
        (before ++ [.declared a s h expression mode (hears listener)]) :=
      hfew.of_prefix (List.prefix_append _ _)
    have hlt : h < t.next := by
      obtain ⟨rfl, -, hn, -⟩ := htidy.register (by simp [Event.isDeclaration]) hfew₁ ht
      exact hn ▸ Nat.lt_succ_self _
    have hdeclared : Follows a hears start.codecs s h expression mode listener
        (before ++ [.declared a s h expression mode (hears listener)]) [] _ :=
      { tidy := by
          rw [List.append_nil]
          exact (htidy.step (.declare expression mode ht) hfew₁).1
        lt_next := by simpa [setTable_table] using hlt
        tracked := .isOpen (open_of_declare htidy hfew₁ ht)
        codecs_eq := hbefore.codecs_eq
        scripts := by simp }
    have hd := hdeclared.moves hafter (by rwa [List.append_nil]) hmiss
    -- nothing was heard under this handle before, so the account begins with nothing
    exact ⟨listener, rfl, heardBy_eq_nil_of_register hbefore hstart
      (by simp [Event.isDeclaration]) hfew₁ ht, hd.tracked, hd.scripts⟩

end Desk

end PathSpace
