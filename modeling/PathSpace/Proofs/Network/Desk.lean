import PathSpace.Proofs.Datum.Samples
import PathSpace.Proofs.Listening.HandleTable
import PathSpace.Proofs.Network.Events
import PathSpace.Proofs.Time.Clock
/-!
# Desks

A desk is what a network looks like to one audience: who of it is declared, which samples
are on their way to it, the listeners of each session, the clock that stamps the writes, and
the codecs by which payloads are read.
All that can happen to a desk are the moves below, each together with one event.

## Key results

- `Move`, `Moves`: what can happen to a desk, and any number of moves
- `Tidy.moves`: as long as the handles have not come round, no handle is given out twice
- `stamped_of_moves`: as long as the clock has room, later writes have later timestamps
-/

namespace PathSpace

namespace Event

/-- Whether an event has to do with an audience. -/
def concerns (a : Audience) : Event → Bool
  | .ticked .. | .wrote .. | .closed _ => true
  | .declared a' .. | .refused a' _ | .undeclared a' .. | .heard a' .. | .unheard a' ..
  | .missed a' .. => a' == a
  | .pulled .. => a == .subscribers
  | .told .. => false

/-- Whether somebody in a session was to be declared. -/
def isDeclaration (a : Audience) (s : SessionId) : Event → Bool
  | .declared a' s' .. | .refused a' s' => a' == a && s' == s
  | _ => false

/-- If the clock was read, it had not reached the last time that there is. -/
def InTime : Event → Prop
  | .ticked clock _ | .wrote clock _ _ => clock.last.toNat + 1 < 2 ^ 64
  | _ => True

instance (e : Event) : Decidable e.InTime :=
  match e with
  | .ticked clock _ | .wrote clock _ _ =>
    inferInstanceAs (Decidable (clock.last.toNat + 1 < 2 ^ 64))
  | .declared .. | .refused .. | .undeclared .. | .closed .. | .pulled .. | .heard ..
  | .unheard .. | .missed .. | .told .. => inferInstanceAs (Decidable True)

/-- The sample that was written. -/
def written? : Event → Option Sample
  | .wrote _ _ sample => some sample
  | _ => none

end Event

/-- What was written, in order. -/
def writes (log : List Event) : List Sample := log.filterMap Event.written?

/-- What a network looks like to one audience. -/
structure Desk (α : Type) where
  declared : List SubscriberDeclaration
  /-- The samples on their way, each with the session and the handle that it goes to. -/
  jobs : List (SessionId × Handle × Sample)
  clock : Clock
  codecs : CodecTable
  table : SessionId → HandleTable α

namespace Desk

variable {α : Type}

/-- The desk with other listeners for one session. -/
def setTable (d : Desk α) (s : SessionId) (t : HandleTable α) : Desk α :=
  { d with table := fun s' => if s' = s then t else d.table s' }

/-- The jobs that a write causes. -/
def jobsFor (declared : List SubscriberDeclaration) (sample : Sample) :
    List (SessionId × Handle × Sample) :=
  (declared.filter fun x => x.mode == .push && Wildcard.meet x.expression sample.path).map
    fun x => (x.session, x.handle, sample)

/-- The desk after a write. -/
def accept (d : Desk α) (wall : Instant) (sample : Sample) : Desk α :=
  { d with
    declared := d.declared.map (Router.keepPending sample)
    jobs := d.jobs ++ jobsFor d.declared sample
    clock := (d.clock.now wall).2 }

theorem accept_declared (d : Desk α) (wall : Instant) (sample : Sample) :
    (d.accept wall sample).declared = d.declared.map (Router.keepPending sample) := rfl

theorem accept_jobs (d : Desk α) (wall : Instant) (sample : Sample) :
    (d.accept wall sample).jobs = d.jobs ++ jobsFor d.declared sample := rfl

theorem accept_table (d : Desk α) (wall : Instant) (sample : Sample) :
    (d.accept wall sample).table = d.table := rfl

/-- What can happen to a desk. -/
inductive Move (a : Audience) (hears : α → DataListener Surroundings Effect) :
    Desk α → Event → Desk α → Prop
  | other {d : Desk α} {e : Event} (he : e.concerns a = false) : Move a hears d e d
  | tick (d : Desk α) (wall : Instant) :
    Move a hears d (.ticked d.clock wall) { d with clock := (d.clock.now wall).2 }
  | write {d : Desk α} {wall : Instant} {sample : Sample}
    (hs : sample.info.timestamp = some (d.clock.now wall).1) :
    Move a hears d (.wrote d.clock wall sample) (d.accept wall sample)
  | declare {d : Desk α} {s : SessionId} {h : Handle} {t : HandleTable α} {listener : α}
    (expression : String) (mode : SubMode) (ht : (d.table s).register listener = .ok (h, t)) :
    Move a hears d (.declared a s h expression mode (hears listener))
      { d.setTable s t with
        declared := d.declared ++ [{ session := s, handle := h, expression, mode }] }
  | refuse (d : Desk α) (s : SessionId) : Move a hears d (.refused a s) d
  | reserve {d : Desk α} {s : SessionId} {h : Handle} {t : HandleTable α} {listener : α}
    (ht : (d.table s).register listener = .ok (h, t)) :
    Move a hears d (.refused a s) (d.setTable s (t.remove h))
  | undeclare (d : Desk α) (s : SessionId) (h : Handle) :
    Move a hears d (.undeclared a s h)
      { d.setTable s ((d.table s).remove h) with
        declared := d.declared.filter fun x => !x.isOf s h }
  | close (d : Desk α) (s : SessionId) :
    Move a hears d (.closed s) { d with declared := d.declared.filter (·.session != s) }
  | pull {d : Desk α} {s : SessionId} {h : Handle} {x : SubscriberDeclaration}
    (ha : a = .subscribers) (hx : d.declared.find? (·.isOf s h) = some x) :
    Move a hears d (.pulled s h)
      { d with
        declared := Router.changeFirst s h (fun x => { x with pending := [] }) d.declared
        jobs := d.jobs ++ x.pending.map fun sample => (s, h, sample) }
  | hear {d : Desk α} {s : SessionId} {h : Handle} {sample : Sample}
    {rest : List (SessionId × Handle × Sample)} {listener : α}
    (around : Surroundings) (hc : around.codecs = d.codecs) (hj : d.jobs = (s, h, sample) :: rest)
    (hl : (d.table s).entries.find? h = some listener) :
    Move a hears d (.heard a s h sample (hears listener around sample)) { d with jobs := rest }
  | skip {d : Desk α} {s : SessionId} {h : Handle} {sample : Sample}
    {rest : List (SessionId × Handle × Sample)} (hj : d.jobs = (s, h, sample) :: rest)
    (hl : (d.table s).entries.find? h = none) :
    Move a hears d (.unheard a s h sample) { d with jobs := rest }
  | miss {d : Desk α} {s : SessionId} {h : Handle} {sample : Sample}
    {rest : List (SessionId × Handle × Sample)} (hj : d.jobs = (s, h, sample) :: rest) :
    Move a hears d (.missed a s h sample) { d with jobs := rest }

/-- Any number of moves, with their events in order. -/
inductive Moves (a : Audience) (hears : α → DataListener Surroundings Effect) :
    Desk α → List Event → Desk α → Prop
  | nil (d : Desk α) : Moves a hears d [] d
  | cons {d d' d'' : Desk α} {e : Event} {log : List Event} (m : Move a hears d e d')
    (ms : Moves a hears d' log d'') : Moves a hears d (e :: log) d''

variable {a : Audience} {hears : α → DataListener Surroundings Effect} {d d' d'' : Desk α}
  {e : Event} {log log' : List Event}

namespace Move

/-- No move changes the codecs. -/
theorem codecs_eq (m : Move a hears d e d') : d'.codecs = d.codecs := by
  cases m <;> rfl

/-- Whoever is called with a sample is the listener that has the handle. -/
theorem script_eq {s : SessionId} {h : Handle} {sample : Sample} {script : Script Effect}
    (m : Move a hears d (.heard a s h sample script) d') :
    ∃ listener around, (d.table s).entries.find? h = some listener ∧
      around.codecs = d.codecs ∧ script = hears listener around sample := by
  cases m with
  | other he => simp [Event.concerns] at he
  | hear around hc _ hl => exact ⟨_, around, hl, hc, rfl⟩

end Move

namespace Moves

theorem single (m : Move a hears d e d') : Moves a hears d [e] d' := .cons m (.nil d')

/-- Moves after moves. -/
theorem append (h : Moves a hears d log d') (h' : Moves a hears d' log' d'') :
    Moves a hears d (log ++ log') d'' := by
  induction h with
  | nil => exact h'
  | cons m _ ih => exact .cons m (ih h')

/-- Whatever happened up to some moment also was a number of moves. -/
theorem split {log₁ log₂ : List Event} (h : Moves a hears d (log₁ ++ log₂) d'') :
    ∃ d', Moves a hears d log₁ d' ∧ Moves a hears d' log₂ d'' := by
  induction log₁ generalizing d with
  | nil => exact ⟨d, .nil d, h⟩
  | cons e rest ih =>
    cases h with
    | cons m ms =>
      obtain ⟨d', h₁, h₂⟩ := ih ms
      exact ⟨d', .cons m h₁, h₂⟩

/-- Nothing changes how payloads are read. -/
theorem codecs_eq (h : Moves a hears d log d') : d'.codecs = d.codecs := by
  induction h with
  | nil => rfl
  | cons m _ ih => exact ih.trans m.codecs_eq

/-- What the events of a log hold of one after the other, a property of logs and desks, holds
in the end. -/
theorem invariant {P : List Event → Desk α → Prop} (before : List Event)
    (h : Moves a hears d log d') (hstart : P before d)
    (hstep : ∀ done d₁ e d₂, done ++ [e] <+: before ++ log → before <+: done → P done d₁ →
      Move a hears d₁ e d₂ → P (done ++ [e]) d₂) :
    P (before ++ log) d' := by
  induction h generalizing before with
  | nil => simpa using hstart
  | @cons d₁ d₂ d₃ e rest m _ ih =>
    have hcut : before ++ e :: rest = before ++ [e] ++ rest := by simp
    have hP : P (before ++ [e]) d₂ :=
      hstep before d₁ e d₂ (by rw [hcut]; exact List.prefix_append _ _) (List.prefix_refl _)
        hstart m
    rw [hcut]
    refine ih (before ++ [e]) hP fun done d₁ e' d₂ hpre hle hd hm => ?_
    exact hstep done d₁ e' d₂ (by rwa [hcut])
      ((List.prefix_append _ _).trans hle) hd hm

end Moves

/-! ## Handles -/

/-- Whoever stays declared when what waits for one is taken was declared before. -/
theorem exists_of_mem_changeFirst {s : SessionId} {h : Handle} {y : SubscriberDeclaration}
    {l : List SubscriberDeclaration}
    (hy : y ∈ Router.changeFirst s h (fun x => { x with pending := [] }) l) :
    ∃ z ∈ l, y = z ∨ y = { z with pending := [] } := by
  induction l with
  | nil => cases hy
  | cons x rest ih =>
    -- the first of the handle is changed, the others are as they were
    rw [Router.changeFirst] at hy
    split at hy
    · rcases List.mem_cons.1 hy with rfl | hy
      · exact ⟨x, List.mem_cons_self, .inr rfl⟩
      · exact ⟨y, List.mem_cons_of_mem _ hy, .inl rfl⟩
    · rcases List.mem_cons.1 hy with rfl | hy
      · exact ⟨y, List.mem_cons_self, .inl rfl⟩
      · obtain ⟨z, hz, hsame⟩ := ih hy
        exact ⟨z, List.mem_cons_of_mem _ hz, hsame⟩

theorem setTable_table (d : Desk α) (s s' : SessionId) (t : HandleTable α) :
    (d.setTable s t).table s' = if s' = s then t else d.table s' := rfl

/-- A counter that does not go back in the one session goes back in none. -/
private theorem next_le_setTable {s : SessionId} {t : HandleTable α}
    (hle : (d.table s).next ≤ t.next)
    (s' : SessionId) : (d.table s').next ≤ ((d.setTable s t).table s').next := by
  rw [setTable_table]
  split
  · next heq => exact heq ▸ hle
  · exact Nat.le_refl _

/-- No handle has been given out twice: all of them, declared or on a job, are behind the
counters, and these have not gone further than there were declarations. -/
structure Tidy (a : Audience) (log : List Event) (d : Desk α) : Prop where
  firstRound : ∀ s, (d.table s).InFirstRound
  capacity : ∀ s, (d.table s).capacity = HandleTable.defaultCapacity
  next_le : ∀ s, (d.table s).next ≤ log.countP (·.isDeclaration a s)
  declared_lt : ∀ x ∈ d.declared, x.handle < (d.table x.session).next
  jobs_lt : ∀ j ∈ d.jobs, j.2.1 < (d.table j.1).next

/-- A log with fewer declarations than there are handles. -/
def FewDeclarations (a : Audience) (log : List Event) : Prop :=
  ∀ s, log.countP (·.isDeclaration a s) < HandleTable.defaultCapacity

/-- In a part of the log there are no more declarations. -/
theorem FewDeclarations.of_prefix (h : FewDeclarations a log) (hpre : log' <+: log) :
    FewDeclarations a log' :=
  fun s => Nat.lt_of_le_of_lt hpre.sublist.countP_le (h s)

namespace Tidy

/-- One event more leaves room for the handles given out so far. -/
private theorem next_le_snoc (h : Tidy a log d) (e : Event) (s : SessionId) :
    (d.table s).next ≤ (log ++ [e]).countP (·.isDeclaration a s) := by
  have := h.next_le s
  rw [List.countP_append]
  exact Nat.le_add_right_of_le this

/-- Nothing but declarations and jobs changed, and the handles on them were known before. -/
private theorem of_table_eq (h : Tidy a log d) (e : Event) (ht : d'.table = d.table)
    (hd : ∀ x ∈ d'.declared, x.handle < (d.table x.session).next)
    (hj : ∀ j ∈ d'.jobs, j.2.1 < (d.table j.1).next) : Tidy a (log ++ [e]) d' where
  firstRound s := ht ▸ h.firstRound s
  capacity s := ht ▸ h.capacity s
  next_le s := ht ▸ h.next_le_snoc e s
  declared_lt x hx := ht ▸ hd x hx
  jobs_lt j hj' := ht ▸ hj j hj'

/-- The table of one session is replaced by one whose counter has not gone back. -/
private theorem setTable (h : Tidy a log d) {s : SessionId} {t : HandleTable α}
    (ht : t.InFirstRound)
    (hc : t.capacity = HandleTable.defaultCapacity) (hn : (d.table s).next ≤ t.next)
    (hle : t.next ≤ (log ++ [e]).countP (·.isDeclaration a s)) :
    Tidy a (log ++ [e]) (d.setTable s t) where
  -- for the session itself the new table counts, for the others the old ones
  firstRound s' := by
    rw [setTable_table]
    split
    · exact ht
    · exact h.firstRound s'
  capacity s' := by
    rw [setTable_table]
    split
    · exact hc
    · exact h.capacity s'
  next_le s' := by
    rw [setTable_table]
    split
    · next heq => exact heq ▸ hle
    · exact h.next_le_snoc e s'
  declared_lt x hx := by
    rw [setTable_table]
    split
    · next heq => exact Nat.lt_of_lt_of_le (h.declared_lt x hx) (heq ▸ hn)
    · exact h.declared_lt x hx
  jobs_lt j hj := by
    rw [setTable_table]
    split
    · next heq => exact Nat.lt_of_lt_of_le (h.jobs_lt j hj) (heq ▸ hn)
    · exact h.jobs_lt j hj

/-- A listener that is parked gets the handle at the counter. -/
theorem register (h : Tidy a log d) {s : SessionId} {t : HandleTable α} {l : α} {k : Handle}
    (he : e.isDeclaration a s = true) (hfew : FewDeclarations a (log ++ [e]))
    (hreg : (d.table s).register l = .ok (k, t)) :
    k = (d.table s).next ∧ t.InFirstRound ∧ t.next = (d.table s).next + 1 ∧
      t.capacity = HandleTable.defaultCapacity ∧
      t.next ≤ (log ++ [e]).countP (·.isDeclaration a s) ∧
      ∀ h, t.entries.find? h = if h = k then some l else (d.table s).entries.find? h := by
  have hcount : (log ++ [e]).countP (·.isDeclaration a s) =
      log.countP (·.isDeclaration a s) + 1 := by
    rw [List.countP_append, List.countP_singleton, if_pos he]
  have hnext : (d.table s).next + 1 ≤ (log ++ [e]).countP (·.isDeclaration a s) := by
    rw [hcount]
    exact Nat.succ_le_succ (h.next_le s)
  -- few declarations leave room in the table
  have hroom : (d.table s).next + 1 < (d.table s).capacity := by
    rw [h.capacity s]
    exact Nat.lt_of_le_of_lt hnext (hfew s)
  obtain ⟨t', ht', hround, hn, hc, hfind⟩ := (h.firstRound s).register hroom l
  rw [ht', Except.ok.injEq, Prod.mk.injEq] at hreg
  obtain ⟨rfl, rfl⟩ := hreg
  exact ⟨rfl, hround, hn, hc.trans (h.capacity s), hn ▸ hnext, hfind⟩

/-- No move brings a handle back. -/
theorem step (h : Tidy a log d) (m : Move a hears d e d') (hfew : FewDeclarations a (log ++ [e])) :
    Tidy a (log ++ [e]) d' ∧ ∀ s, (d.table s).next ≤ (d'.table s).next := by
  cases m with
  | other | tick | refuse =>
    exact ⟨h.of_table_eq _ rfl h.declared_lt h.jobs_lt, fun _ => Nat.le_refl _⟩
  | @write wall sample _ =>
    refine ⟨h.of_table_eq _ rfl ?_ ?_, fun _ => Nat.le_refl _⟩
    · intro x hx
      obtain ⟨y, hy, rfl⟩ := List.mem_map.1 hx
      unfold Router.keepPending
      split <;> exact h.declared_lt y hy
    · intro j hj
      rcases List.mem_append.1 hj with hj | hj
      · exact h.jobs_lt j hj
      · obtain ⟨y, hy, rfl⟩ := List.mem_map.1 hj
        exact h.declared_lt y (List.mem_filter.1 hy).1
  | @declare s k t l expression mode hreg =>
    obtain ⟨rfl, hround, hn, hc, hle, -⟩ :=
      h.register (by simp [Event.isDeclaration]) hfew hreg
    have hle' : (d.table s).next ≤ t.next := hn ▸ Nat.le_succ _
    have hset := h.setTable hround hc hle' hle
    refine ⟨{ hset with declared_lt := fun x hx => ?_ }, next_le_setTable hle'⟩
    rcases List.mem_append.1 hx with hx | hx
    · exact hset.declared_lt x hx
    · obtain rfl := List.mem_singleton.1 hx
      simp only [setTable_table, if_true, hn]
      exact Nat.lt_succ_self _
  | @reserve s k t l hreg =>
    obtain ⟨rfl, hround, hn, hc, hle, -⟩ :=
      h.register (by simp [Event.isDeclaration]) hfew hreg
    have hle' : (d.table s).next ≤ t.next := hn ▸ Nat.le_succ _
    -- the handle is free again, but the counter has gone on
    exact ⟨h.setTable (hround.remove _) hc hle' hle, next_le_setTable hle'⟩
  | undeclare s k =>
    have hset : Tidy a (log ++ [.undeclared a s k]) (d.setTable s ((d.table s).remove k)) :=
      h.setTable ((h.firstRound s).remove k) (h.capacity s) (Nat.le_refl _) (h.next_le_snoc _ s)
    exact ⟨{ hset with declared_lt := fun x hx => hset.declared_lt x (List.mem_filter.1 hx).1 },
      next_le_setTable (Nat.le_refl _)⟩
  | close s =>
    exact ⟨h.of_table_eq _ rfl (fun x hx => h.declared_lt x (List.mem_filter.1 hx).1) h.jobs_lt,
      fun _ => Nat.le_refl _⟩
  | @pull s k x ha hx =>
    have hxd := List.mem_of_find?_eq_some hx
    have hof := List.find?_some hx
    simp only [Declaration.isOf, Bool.and_eq_true, beq_iff_eq] at hof
    refine ⟨h.of_table_eq _ rfl ?_ ?_, fun _ => Nat.le_refl _⟩
    · intro y hy
      obtain ⟨z, hz, rfl | rfl⟩ := exists_of_mem_changeFirst hy
      · exact h.declared_lt y hz
      · exact h.declared_lt z hz
    · intro j hj
      rcases List.mem_append.1 hj with hj | hj
      · exact h.jobs_lt j hj
      · obtain ⟨sample, -, rfl⟩ := List.mem_map.1 hj
        have hlt := h.declared_lt x hxd
        rwa [hof.1, hof.2] at hlt
  | @hear _ _ _ rest _ _ _ hj _ | @skip _ _ _ rest hj _ | @miss _ _ _ rest hj =>
    refine ⟨h.of_table_eq _ rfl h.declared_lt fun j hj' => h.jobs_lt j ?_, fun _ => Nat.le_refl _⟩
    rw [hj]
    exact List.mem_cons_of_mem _ hj'

end Tidy

/-! ## Timestamps -/

/-- All writes carry timestamps, which increase and are not ahead of the clock. -/
structure Stamped (log : List Event) (d : Desk α) : Prop where
  stamps : ∀ x ∈ writes log, ∃ t, x.info.timestamp = some t ∧ t.time ≤ d.clock.last
  increasing : (writes log).Pairwise Sample.Earlier

namespace Stamped

/-- Nothing was written, and the clock has not gone back. -/
private theorem of_last_le (h : Stamped log d) (he : e.written? = none)
    (hle : d.clock.last ≤ d'.clock.last) : Stamped (log ++ [e]) d' := by
  have hw : writes (log ++ [e]) = writes log := by
    rw [writes, List.filterMap_append, List.filterMap_cons, he]
    exact List.append_nil _
  constructor
  · intro x hx
    rw [hw] at hx
    obtain ⟨t, ht, hlast⟩ := h.stamps x hx
    exact ⟨t, ht, UInt64.le_trans hlast hle⟩
  · rw [hw]
    exact h.increasing

/-- A write gets a later timestamp than all writes before it. -/
private theorem write (h : Stamped log d) {wall : Instant} {sample : Sample}
    (hs : sample.info.timestamp = some (d.clock.now wall).1)
    (htime : (Event.wrote d.clock wall sample).InTime) :
    Stamped (log ++ [.wrote d.clock wall sample]) (d.accept wall sample) := by
  -- the stamp is later than the last tick, and no earlier stamp is later than that
  have hlt : d.clock.last < (d.clock.now wall).1.time := Clock.lt_now htime wall
  have hlast : (d.accept wall sample).clock.last = (d.clock.now wall).1.time :=
    d.clock.now_last wall
  have hw : writes (log ++ [.wrote d.clock wall sample]) = writes log ++ [sample] :=
    List.filterMap_append
  constructor
  · intro x hx
    rw [hw] at hx
    rw [hlast]
    rcases List.mem_append.1 hx with hx | hx
    · obtain ⟨t, ht, hle⟩ := h.stamps x hx
      exact ⟨t, ht, UInt64.le_of_lt (UInt64.lt_of_le_of_lt hle hlt)⟩
    · obtain rfl := List.mem_singleton.1 hx
      exact ⟨_, hs, UInt64.le_refl _⟩
  · rw [hw]
    refine List.pairwise_append.2 ⟨h.increasing, List.pairwise_singleton _ _, ?_⟩
    intro x hx y hy
    obtain rfl := List.mem_singleton.1 hy
    obtain ⟨t, ht, hle⟩ := h.stamps x hx
    exact ⟨t, _, ht, hs, Timestamp.before_of_time_lt (UInt64.lt_of_le_of_lt hle hlt)⟩

/-- As long as the clock has room, later writes have later timestamps. -/
private theorem step (h : Stamped log d) (m : Move a hears d e d') (htime : e.InTime) :
    Stamped (log ++ [e]) d' := by
  cases m with
  | other he =>
    refine h.of_last_le ?_ (UInt64.le_refl _)
    cases e with
    | wrote => cases he
    | _ => rfl
  -- the clock goes on, so what has a stamp has an earlier one
  | tick wall =>
    refine h.of_last_le rfl ?_
    rw [Clock.now_last]
    exact UInt64.le_of_lt (Clock.lt_now htime wall)
  | write hs => exact h.write hs htime
  | declare | refuse | reserve | undeclare | close | pull | hear | skip | miss =>
    exact h.of_last_le rfl (UInt64.le_refl _)

end Stamped

/-! ## Runs -/

/-- A tidy desk stays tidy, as long as there are few declarations. -/
theorem Tidy.moves {before : List Event} (hd : Tidy a before d) (h : Moves a hears d log d')
    (hfew : FewDeclarations a (before ++ log)) : Tidy a (before ++ log) d' := by
  refine h.invariant (P := fun log d => Tidy a log d) before hd ?_
  intro done d₁ e d₂ hpre _ htidy hm
  exact (htidy.step hm (hfew.of_prefix hpre)).1

/-- Whoever was called had a handle that was given out. -/
theorem heard_lt_of_moves (h : Moves a hears d log d') (hd : Tidy a [] d)
    (hfew : FewDeclarations a log) {s : SessionId} {k : Handle} {sample : Sample}
    {script : Script Effect} (hmem : .heard a s k sample script ∈ log) :
    k < (d'.table s).next := by
  -- whoever has heard something has a handle below the counter, and the counter does not go back
  have hinv := h.invariant (P := fun log d => Tidy a log d ∧ ∀ s k sample script,
    .heard a s k sample script ∈ log → k < (d.table s).next) [] ⟨hd, by simp⟩ ?_
  · exact hinv.2 s k sample script hmem
  · rintro done d₁ e d₂ hpre - ⟨htidy, hheard⟩ hm
    obtain ⟨htidy', hle⟩ := htidy.step hm (hfew.of_prefix hpre)
    refine ⟨htidy', fun s k sample script hmem => ?_⟩
    rcases List.mem_append.1 hmem with hmem | hmem
    · exact Nat.lt_of_lt_of_le (hheard s k sample script hmem) (hle s)
    · obtain rfl := List.mem_singleton.1 hmem
      cases hm with
      | other he => simp [Event.concerns] at he
      | hear around hc hj hl =>
        have hlt := htidy.jobs_lt _ (hj ▸ List.mem_cons_self)
        exact hlt

/-- All that is written in time has stamps that grow. -/
theorem stamped_of_moves (h : Moves a hears d log d') (htime : ∀ e ∈ log, e.InTime) :
    Stamped log d' := by
  have hstart : Stamped [] d := ⟨fun x hx => absurd hx List.not_mem_nil, .nil⟩
  refine h.invariant (P := fun log d => Stamped log d) [] hstart ?_
  intro done d₁ e d₂ hpre _ hstamped hm
  exact hstamped.step hm (htime e (hpre.subset (by simp)))

end Desk

end PathSpace
