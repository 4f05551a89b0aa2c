import PathSpace.Proofs.Gathering.Aggregator
import PathSpace.Proofs.Network.Plain
/-!
# What is gathered from memory storages

Memory storages answer at once, from their stores.  A listener that gathers ends up with all
data that can be read from their answers.

## Key results

- `find?_foldl_gathered`: a gathering after any number of events
- `Plain.answersTo_eq`: all storages answer, each from its store
- `Plain.askAll_concluded`: a query is delivered whose answer is gathered
-/

namespace PathSpace

/-- The datum that is gathered from an event. -/
def ReplyEvent.datum? (around : Surroundings) (policy : MissingTimestamp) (event : ReplyEvent) :
    Option Data :=
  event.sample?.bind fun y => (Data.ofReply around.codecs policy around.wall y).toOption

namespace Network

variable {n n' : Network} {q : Query} {source : Source} {log : List Event}
  {around : Surroundings} {policy : MissingTimestamp} {id : GatheringId}
  {gatherings : SortedMap GatheringId Gathering} {g : Gathering}

/-! ## Gatherings -/

theorem find?_gathered (hg : gatherings.find? id = some g) (event : ReplyEvent) :
    (gathered around (some (id, policy)) gatherings event).find? id =
      some ⟨g.aggregator.pushAll (event.datum? around policy).toList,
        g.concluded || event.isFinal⟩ := by
  simp only [gathered, hg]
  -- a reply that can be read is pushed, the last event concludes, the others change nothing
  cases event with
  | storageData y | evalData y =>
    simp only [ReplyEvent.datum?, ReplyEvent.sample?, Option.bind_some]
    cases Data.ofReply around.codecs policy around.wall y with
    | ok d =>
      dsimp only
      rw [SortedMap.find?_insert_self]
      exact congrArg (fun b => some (Gathering.mk _ b)) (Bool.or_false _).symm
    | error reason =>
      dsimp only
      rw [hg]
      exact congrArg (fun b => some (Gathering.mk _ b)) (Bool.or_false _).symm
  | storageFinal | evalFinal =>
    dsimp only
    rw [hg]
    exact congrArg (fun b => some (Gathering.mk _ b)) (Bool.or_false _).symm
  | replyFinal =>
    dsimp only
    rw [SortedMap.find?_insert_self]
    exact congrArg (fun b => some (Gathering.mk _ b)) (Bool.or_true _).symm

/-- A gathering has all data that could be read, and ends with the last event. -/
theorem find?_foldl_gathered (hg : gatherings.find? id = some g) (events : List ReplyEvent) :
    (events.foldl (gathered around (some (id, policy))) gatherings).find? id =
      some ⟨g.aggregator.pushAll (events.filterMap (·.datum? around policy)),
        g.concluded || events.any (·.isFinal)⟩ := by
  induction events generalizing gatherings g with
  | nil => rw [List.foldl_nil, hg, List.any_nil, Bool.or_false]; rfl
  | cons event rest ih =>
    rw [List.foldl_cons, ih (find?_gathered hg event), List.filterMap_eq_flatMap_toList,
      List.filterMap_eq_flatMap_toList, List.flatMap_cons, List.any_cons, Bool.or_assoc]
    exact congrArg (fun a => some (Gathering.mk a _)) List.foldl_append.symm

/-- Of the pieces of an answer, the replies can be read. -/
theorem datum?_pieces (around : Surroundings) (policy : MissingTimestamp)
    (answers : List (Source × List Sample)) :
    (answers.flatMap Source.pieces ++ [ReplyEvent.replyFinal]).filterMap
        (·.datum? around policy) =
      answers.flatMap fun answer => answer.2.filterMap fun y =>
        (Data.ofReply around.codecs policy around.wall y).toOption := by
  -- the end of a source is no datum
  have hpieces : ∀ answer : Source × List Sample,
      (Source.pieces answer).filterMap (·.datum? around policy) = answer.2.filterMap fun y =>
        (Data.ofReply around.codecs policy around.wall y).toOption := by
    rintro ⟨⟨kind, s, h⟩, replies⟩
    rw [Source.pieces, List.filterMap_append, List.filterMap_map]
    cases kind <;> exact List.append_nil _
  rw [List.filterMap_append, List.filterMap_flatMap]
  simp only [hpieces]
  exact List.append_nil _

/-- Replies that have timestamps are passed on as they are. -/
theorem carried_eq {stamping : Bool} {answers carried : List (Source × List Sample)}
    (h : List.Forall₂ (Carried stamping log) answers carried)
    (hstamped : ∀ answer ∈ answers, ∀ y ∈ answer.2, y.info.timestamp.isSome = true) :
    carried = answers := by
  induction h with
  | nil => rfl
  | @cons answer first answers carried hfirst hrest ih =>
    obtain ⟨hthis, hothers⟩ := List.forall_mem_cons.1 hstamped
    obtain ⟨hsource, hpassed⟩ := hfirst
    -- only a reply without a timestamp is changed on its way
    have hreplies : ∀ {replies passed : List Sample},
        List.Forall₂ (Passed stamping log) replies passed →
        (∀ y ∈ replies, y.info.timestamp.isSome = true) → passed = replies := by
      intro replies passed hp hs
      induction hp with
      | nil => rfl
      | cons hy _ ih =>
        obtain ⟨hsome, hs⟩ := List.forall_mem_cons.1 hs
        cases hy with
        | own => rw [ih hs]
        | stamped clock wall hnone =>
          rw [Option.isSome_iff_ne_none] at hsome
          simp [hsome] at hnone
    rw [ih hothers, Prod.ext hsource (hreplies hpassed hthis)]

/-! ## Answers -/

/-- Nothing is answered where there are no listeners. -/
private theorem answerOf_of_no_listeners (hb : n.board source.session = {}) (q : Query) :
    n.answerOf q source = some [] := by
  unfold answerOf scriptOf
  rw [hb]
  cases source.kind <;> split <;> first | rfl | (next h => split at h <;> cases h)

/-- A session with listeners is held if nobody has let it go. -/
private theorem any_held_of_board_ne {s : SessionId} (hb : n.board s ≠ {}) :
    (n.hosts.find? s).any (·.held) = (n.hosts.find? s).all (·.held) := by
  cases hf : n.hosts.find? s with
  | none =>
    refine absurd ?_ hb
    rw [board, hf]
    rfl
  | some host => rfl

/-- What a source answers does not depend on what changes nothing. -/
private theorem Still.answerOf_eq (h : Still n n') (q : Query) (source : Source) :
    n'.answerOf q source = n.answerOf q source := by
  by_cases hb : n.board source.session = {}
  · rw [answerOf_of_no_listeners hb, answerOf_of_no_listeners ((h.board _).trans hb)]
  · have hheld : (n'.hosts.find? source.session).any (·.held) =
        (n.hosts.find? source.session).any (·.held) := by
      rw [any_held_of_board_ne hb, any_held_of_board_ne ((h.board _).symm ▸ hb)]
      exact h.held source.session
    unfold answerOf scriptOf Network.isAlive
    rw [hheld, h.parked, h.board, h.around]

/-- Every storage that is asked answers at once. -/
theorem Plain.answersTo_eq (hp : Plain n) {w : Option (GatheringId × MissingTimestamp)}
    (hw : Waits n q w) {sources : List Source} (hk : ∀ source ∈ sources, source.kind = .storage) :
    answersTo q n sources = sources.map (fun source => (source, (n.answerOf q source).getD [])) ∧
      parkedBy q n sources = none := by
  induction sources generalizing n with
  | nil => exact ⟨rfl, rfl⟩
  | cons source rest ih =>
    obtain ⟨hfirst, hrest⟩ := List.forall_mem_cons.1 hk
    obtain ⟨replies, hanswer⟩ := hp.exists_answer hfirst q
    have hreports := hp.reports_first hw hfirst replies
    obtain ⟨hothers, hparked⟩ :=
      ih (hp.calm hreports.toCalm) (hw.still hreports.toStill) hrest
    -- what one source is told does not change what the others answer
    have hsame : ∀ other, ((n.asked q source).reportSource q source replies).answerOf q other =
        n.answerOf q other := hreports.toStill.answerOf_eq q
    rw [answersTo, parkedBy, hanswer, List.map_cons, hanswer]
    simp only [hothers, hparked, hsame, Option.getD_some]
    exact ⟨trivial, trivial⟩

/-- A memory storage whose session is held answers from its store. -/
theorem Stores.answerOf_eq {store : StoreId} (hs : n.Stores source.session source.handle store)
    (hk : source.kind = .storage) (hheld : HeldAt source.session n) (q : Query) :
    n.answerOf q source = some ((n.memory store).answer q.expression) := by
  have hb : n.board source.session ≠ {} := by
    intro hb
    rw [Stores, hb] at hs
    cases hs
  -- a session with a storage is not gone while it is held
  have halive : n.isAlive source.session = true := by
    rw [Network.isAlive, any_held_of_board_ne hb, hheld, Bool.true_or]
  unfold answerOf scriptOf
  rw [halive, Bool.true_or, if_pos rfl, hk]
  dsimp only
  rw [hs]
  rfl

/-! ## Delivery -/

/-- A query whose answer is gathered was delivered. -/
structure Concluded (policy : MissingTimestamp) (id : GatheringId) (q : Query) (n : Network)
    (log : List Event) (n' : Network) : Prop extends Calm n n' where
  gathering : n'.gatherings.find? id =
    some ⟨Aggregator.empty.pushAll ((reported log).filterMap (·.datum? n.around policy)), true⟩
  released : (n'.board q.querier).replies.entries.find? q.handle = none
  quiet : ∀ e ∈ log, e.isQuiet = true
  inner : ∀ e ∈ log, e.isInner = true

/-- All storages are asked, and their answers are gathered. -/
theorem Plain.askAll_concluded (hp : Plain n) (hw : Waits n q (some (id, policy)))
    (hg : n.gatherings.find? id = some {}) {sources : List Source}
    (hk : ∀ source ∈ sources, source.kind = .storage) :
    Concluded policy id q n (n.askAllLog q sources) (n.askAll q sources) := by
  obtain ⟨m, log, hall, hask, hasklog⟩ := hp.exists_reports hw hk
  have hwm := hw.still hall.toStill
  have hinner := n.inner_askAllLog q sources
  rw [hasklog] at hinner
  rw [hask, hasklog]
  refine { hall.toStill.toCalm.trans (hwm.calm .replyFinal) with
    gathering := ?_, released := ?_, quiet := ?_, inner := hinner }
  -- the last event adds no datum, but concludes the get
  · have hlast : [ReplyEvent.replyFinal].filterMap (·.datum? n.around policy) = [] := rfl
    rw [hwm.report_gatherings, hall.gatherings, hall.around,
      find?_gathered (find?_foldl_gathered hg _), reported_append, reported_reportLog,
      List.filterMap_append, hlast, List.append_nil]
    exact congrArg (fun b => some (Gathering.mk _ b)) (Bool.or_true _)
  · have hwaiting := m.waiting_report_final q
    exact Option.map_eq_none_iff.1 hwaiting
  · rw [hwm.reportLog]
    exact List.forall_mem_append.2 ⟨hall.quiet, List.forall_mem_singleton.2 rfl⟩

end Network

end PathSpace
