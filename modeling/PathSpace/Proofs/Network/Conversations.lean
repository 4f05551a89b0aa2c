import PathSpace.Proofs.Listening.Answers
import PathSpace.Proofs.Network.Evolution
import PathSpace.Proofs.Network.Hosts
import PathSpace.Proofs.Network.Subscriptions
/-!
# Conversations

A query asks its sources one after the other.  If one of them keeps its sender, the query is
parked, and it goes on whenever the sender is used, whatever has happened in between.  Whoever
asked hears all replies, source by source, and in the end that there are no more.

## Key results

- `answerOf`: what a source answers, whatever its listener does
- `Conversation`: all that a query goes through
- `received_of_query`: what is heard by whoever asked
-/

namespace PathSpace

namespace Event

/-- The piece of an answer that was reported. -/
def reported? : Event → Option ReplyEvent
  | .told _ _ _ event => some event
  | _ => none

/-- The piece of an answer that was reported to the listener with a token. -/
def received? (t : Nat) : Event → Option ReplyEvent
  | .told _ _ token event => if token = some t then some event else none
  | _ => none

/-- If a piece of an answer was reported, the listener with a token was there to be told. -/
def Tells (t : Nat) : Event → Prop
  | .told _ _ token _ => token = some t
  | _ => True

instance (t : Nat) (e : Event) : Decidable (e.Tells t) :=
  match e with
  | .told _ _ token _ => inferInstanceAs (Decidable (token = some t))
  | .ticked .. | .wrote .. | .declared .. | .refused .. | .undeclared .. | .closed ..
  | .pulled .. | .heard .. | .unheard .. | .missed .. => inferInstanceAs (Decidable True)

end Event

/-- All pieces of answers that were reported, in order. -/
def reported (log : List Event) : List ReplyEvent := log.filterMap Event.reported?

/-- All that the listener with a token was told, in order. -/
def received (t : Nat) (log : List Event) : List ReplyEvent := log.filterMap (Event.received? t)

/-- What is reported in one log after the other. -/
theorem reported_append (log log' : List Event) :
    reported (log ++ log') = reported log ++ reported log' :=
  List.filterMap_append

/-- A reply as it is passed on: with its own timestamp or, if it has none and replies are to
have one, with a reading of the clock of the router. -/
inductive Passed (stamping : Bool) (log : List Event) : Sample → Sample → Prop
  | own {sample : Sample} (h : (stamping && sample.info.timestamp.isNone) = false) :
    Passed stamping log sample sample
  | stamped {sample : Sample} (clock : Clock) (wall : Instant)
    (h : (stamping && sample.info.timestamp.isNone) = true) (hlog : .ticked clock wall ∈ log) :
    Passed stamping log sample
      { sample with info := { sample.info with timestamp := some (clock.now wall).1 } }

/-- The replies of one source as they are passed on. -/
def Carried (stamping : Bool) (log : List Event) (answer carried : Source × List Sample) : Prop :=
  carried.1 = answer.1 ∧ List.Forall₂ (Passed stamping log) answer.2 carried.2

/-- What is reported of the replies of a source: each of them, and that there are no more. -/
def Source.pieces (carried : Source × List Sample) : List ReplyEvent :=
  carried.2.map carried.1.kind.dataEvent ++ [carried.1.kind.finalEvent]

/-- What was passed on in a part of the log was passed on in the log. -/
theorem Passed.mono {stamping : Bool} {log log' : List Event} {x y : Sample}
    (h : Passed stamping log x y) (hlog : log ⊆ log') : Passed stamping log' x y := by
  cases h with
  | own h => exact .own h
  | stamped clock wall h hmem => exact .stamped clock wall h (hlog hmem)

/-- What was carried in a part of the log was carried in the log. -/
theorem Carried.mono {stamping : Bool} {log log' : List Event} {x y : Source × List Sample}
    (h : Carried stamping log x y) (hlog : log ⊆ log') : Carried stamping log' x y :=
  ⟨h.1, h.2.imp fun _ _ hp => hp.mono hlog⟩

namespace Network

variable {n m m' : Network} {q : Query} {source : Source} {rest : List Source}

/-! ## What sources answer -/

/-- What the listener of a source does when a query reaches it.  It does not reach a listener
that was taken back, nor one in a session that is gone. -/
def scriptOf (n : Network) (q : Query) (source : Source) : Option (Script Effect) :=
  if n.isAlive source.session || source.session == q.querier then
    match source.kind with
    | .storage => ((n.board source.session).storages.entries.find? source.handle).map fun l =>
        l.query n.around q.expression q.optionalPart
    | .eval => ((n.board source.session).evals.entries.find? source.handle).map fun l =>
        l n.around q.expression q.optionalPart
  else none

/-- What a source answers, or nothing yet if it keeps its sender. -/
def answerOf (n : Network) (q : Query) (source : Source) : Option (List Sample) :=
  match n.scriptOf q source with
  | some script => script.outcome
  | none => some []

/-- The sender of a source holds its answer, or is kept. -/
theorem ask_sender (n : Network) (q : Query) (source : Source) :
    (n.ask q source).sender =
      match n.answerOf q source with
      | some replies => ⟨false, [replies]⟩
      | none => {} := by
  unfold ask answerOf scriptOf
  dsimp only
  split
  · cases source.kind with
    | storage =>
      unfold Switchboard.storageQuery HandleTable.lookup
      dsimp only
      cases (n.board source.session).storages.entries.find? source.handle with
      | none => rfl
      | some l => exact Reaction.ofScript_sender _ _ _
    | eval =>
      unfold Switchboard.evalQuery HandleTable.lookup
      dsimp only
      cases (n.board source.session).evals.entries.find? source.handle with
      | none => rfl
      | some l => exact Reaction.ofScript_sender _ _ _
  · rfl

/-- The network once a source has been asked. -/
def asked (n : Network) (q : Query) (source : Source) : Network :=
  n.absorb source.session (n.ask q source)

/-- What happens when a source is asked. -/
def askedLog (n : Network) (q : Query) (source : Source) : List Event :=
  n.absorbLog source.session (n.ask q source)

/-- A source that answers is reported, and then the others are asked. -/
theorem askAll_cons_of_some {replies : List Sample} (h : n.answerOf q source = some replies) :
    n.askAll q (source :: rest) =
      ((n.asked q source).reportSource q source replies).askAll q rest := by
  have hsender := n.ask_sender q source
  rw [h] at hsender
  rw [askAll]
  simp only [hsender, RepliesSender.replies_of_one]
  rfl

/-- A source that answers is reported, and then the others are asked. -/
theorem askAllLog_cons_of_some {replies : List Sample} (h : n.answerOf q source = some replies) :
    n.askAllLog q (source :: rest) =
      n.askedLog q source ++ ((n.asked q source).reportSourceLog q source replies ++
        ((n.asked q source).reportSource q source replies).askAllLog q rest) := by
  have hsender := n.ask_sender q source
  rw [h] at hsender
  rw [askAllLog]
  simp only [hsender, RepliesSender.replies_of_one]
  rfl

/-- A source that keeps its sender is asked, and nothing follows. -/
private theorem askAllLog_cons_of_none (h : n.answerOf q source = none) :
    n.askAllLog q (source :: rest) = n.askedLog q source := by
  have hsender := n.ask_sender q source
  rw [h] at hsender
  rw [askAllLog]
  simp only [hsender]
  exact List.append_nil _

/-- What sources answer that are asked in order, until one of them keeps its sender. -/
def answersTo (q : Query) : Network → List Source → List (Source × List Sample)
  | _, [] => []
  | n, source :: rest =>
    match n.answerOf q source with
    | some replies =>
      (source, replies) :: answersTo q ((n.asked q source).reportSource q source replies) rest
    | none => []

/-- The query that is parked when sources are asked in order, if one of them keeps its
sender. -/
def parkedBy (q : Query) : Network → List Source → Option ParkedQuery
  | _, [] => none
  | n, source :: rest =>
    match n.answerOf q source with
    | some replies => parkedBy q ((n.asked q source).reportSource q source replies) rest
    | none => some ⟨{ q with sources := rest }, source⟩

/-- The sources that have not answered when a query is parked, if it is. -/
def outstanding : Option ParkedQuery → List Source
  | some p => p.source :: p.query.sources
  | none => []

/-- Every source has answered, or is the one that keeps its sender, or is still to be asked. -/
private theorem sources_eq (n : Network) (q : Query) (sources : List Source) :
    (answersTo q n sources).map (·.1) ++ outstanding (parkedBy q n sources) = sources := by
  induction sources generalizing n with
  | nil => rfl
  | cons source rest ih =>
    rw [answersTo, parkedBy]
    cases n.answerOf q source with
    | some replies => exact congrArg (source :: ·) (ih _)
    | none => rfl

/-- A parked query is the query that was asked, but for the sources. -/
private theorem parkedBy_query {p : ParkedQuery} {sources : List Source}
    (h : parkedBy q n sources = some p) : p.query = { q with sources := p.query.sources } := by
  induction sources generalizing n with
  | nil => cases h
  | cons source rest ih =>
    rw [parkedBy] at h
    split at h
    · exact ih h
    · cases h
      rfl

/-! ## What calls leave alone -/

/-- What is gathered does not change the hosts. -/
private theorem changeGathering_hosts (n : Network) (id : GatheringId) (f : Gathering → Gathering) :
    (n.changeGathering id f).hosts = n.hosts := by
  unfold changeGathering
  split <;> rfl

/-- An effect changes no listener. -/
private theorem perform_hosts (n : Network) (e : Effect) : (n.perform e).hosts = n.hosts := by
  cases e with
  | note | remember | record | drop => rfl
  | gather | conclude => exact n.changeGathering_hosts _ _
  | publish workspace path value =>
    unfold perform
    dsimp only
    split <;> rfl

/-- Effects do not change the hosts. -/
private theorem effects_hosts (n : Network) (effects : List Effect) :
    (effects.foldl perform n).hosts = n.hosts := by
  induction effects generalizing n with
  | nil => rfl
  | cons e rest ih => rw [List.foldl_cons, ih, perform_hosts]

/-- A reaction changes the board of its own session only. -/
theorem absorb_board (n : Network) (s : SessionId) (r : Reaction Surroundings Effect)
    (s' : SessionId) : (n.absorb s r).board s' = if s' = s then r.board else n.board s' := by
  rw [← board_setBoard]
  unfold board
  exact congrArg (fun hosts => ((hosts.find? s').map Host.board).getD {})
    (effects_hosts (n.setBoard s r.board) r.effects)

/-! ## What is reported -/

/-- Nothing of what a listener does is a report. -/
private theorem reported_absorbLog (n : Network) (s : SessionId)
    (r : Reaction Surroundings Effect) :
    reported (n.absorbLog s r) = [] := by
  refine List.filterMap_eq_nil_iff.2 fun e he => ?_
  have hwritten := n.written_absorbLog s r e he
  cases e with
  | wrote => rfl
  | _ => cases hwritten

/-- The report of an event is one report. -/
theorem reported_reportLog (n : Network) (q : Query) (event : ReplyEvent) :
    reported (n.reportLog q event) = [event] := by
  have habsorb := n.reported_absorbLog q.querier
    ((n.board q.querier).reply n.around q.handle event)
  rw [reported, reportLog, List.filterMap_cons]
  exact congrArg (event :: ·) habsorb

/-- Each reply of a source is reported, with the timestamp that it has or gets. -/
private theorem reported_repliesLog (q : Query) (kind : SourceKind) (n : Network)
    (replies : List Sample) :
    ∃ carried, List.Forall₂ (Passed q.stamping (repliesLog q kind n replies)) replies carried ∧
      reported (repliesLog q kind n replies) = carried.map kind.dataEvent := by
  induction replies generalizing n with
  | nil => exact ⟨[], .nil, rfl⟩
  | cons reply rest ih =>
    obtain ⟨carried, hpassed, hreported⟩ := ih (reportReply q kind n reply)
    have hstamp : reported (n.stampLog q reply) = [] := by
      unfold stampLog
      split <;> rfl
    have hfirst : Passed q.stamping (repliesLog q kind n (reply :: rest)) reply
        (n.stampReply q reply).1 := by
      cases h : q.stamping && reply.info.timestamp.isNone with
      | true =>
        rw [stampReply_of_missing h]
        refine .stamped n.router.clock n.around.wall h ?_
        -- the log begins with the reading of the clock
        rw [repliesLog, reportReplyLog, stampLog, h]
        exact List.mem_cons_self
      | false =>
        rw [stampReply_of_not_missing h]
        exact .own h
    refine ⟨(n.stampReply q reply).1 :: carried, .cons hfirst ?_, ?_⟩
    · exact hpassed.imp fun _ _ hp => hp.mono (List.subset_append_right _ _)
    · rw [repliesLog, reported_append, hreported, reportReplyLog, reported_append, hstamp,
        reported_reportLog]
      rfl

/-- All replies of a source are reported, and then that there are no more. -/
private theorem reported_reportSourceLog (n : Network) (q : Query) (source : Source)
    (replies : List Sample) :
    ∃ carried, Carried q.stamping (n.reportSourceLog q source replies) (source, replies) carried ∧
      reported (n.reportSourceLog q source replies) = Source.pieces carried := by
  obtain ⟨carried, hpassed, hreported⟩ := reported_repliesLog q source.kind n replies
  refine ⟨(source, carried), ⟨rfl, ?_⟩, ?_⟩
  · exact hpassed.imp fun _ _ hp => hp.mono (List.subset_append_left _ _)
  · rw [reportSourceLog, reported_append, hreported, reported_reportLog]
    rfl

/-- What is reported of all sources that have answered, and in the end that all have. -/
theorem reported_askAllLog (n : Network) (q : Query) (sources : List Source) :
    ∃ carried, List.Forall₂ (Carried q.stamping (n.askAllLog q sources)) (answersTo q n sources)
        carried ∧
      reported (n.askAllLog q sources) = carried.flatMap Source.pieces ++
        if (parkedBy q n sources).isSome then [] else [.replyFinal] := by
  induction sources generalizing n with
  | nil => exact ⟨[], .nil, n.reported_reportLog q .replyFinal⟩
  | cons source rest ih =>
    have hasked : reported (n.askedLog q source) = [] := n.reported_absorbLog _ _
    rw [answersTo, parkedBy]
    cases h : n.answerOf q source with
    | none =>
      -- the sender is kept, and with it all that this source and the later ones would say
      refine ⟨[], .nil, ?_⟩
      rw [askAllLog_cons_of_none h, hasked]
      rfl
    | some replies =>
      obtain ⟨first, hfirst, hreported⟩ :=
        (n.asked q source).reported_reportSourceLog q source replies
      obtain ⟨others, hothers, hrest⟩ := ih ((n.asked q source).reportSource q source replies)
      rw [askAllLog_cons_of_some h]
      refine ⟨first :: others, .cons ?_ ?_, ?_⟩
      · exact hfirst.mono fun e he =>
          List.mem_append_right _ (List.mem_append_left _ he)
      · exact hothers.imp fun _ _ hc => hc.mono fun e he =>
          List.mem_append_right _ (List.mem_append_right _ he)
      · rw [reported_append, reported_append, hasked, hreported, hrest, List.flatMap_cons,
          List.nil_append, List.append_assoc]

/-! ## The end of an answer -/

/-- Once the last event is reported, nobody waits under the handle. -/
theorem waiting_report_final (n : Network) (q : Query) :
    (n.report q .replyFinal).waiting q.querier q.handle = none := by
  rw [waiting, report, absorb_board, if_pos rfl, Switchboard.find?_reply_final]
  rfl

/-- When no source has kept its sender, nobody waits for the query any more. -/
private theorem waiting_askAll {sources : List Source} (h : parkedBy q n sources = none) :
    (n.askAll q sources).waiting q.querier q.handle = none := by
  induction sources generalizing n with
  | nil => exact n.waiting_report_final q
  | cons source rest ih =>
    rw [parkedBy] at h
    -- a source that keeps its sender would be parked
    cases hanswer : n.answerOf q source with
    | none => simp only [hanswer, reduceCtorEq] at h
    | some replies =>
      simp only [hanswer] at h
      rw [askAll_cons_of_some hanswer]
      exact ih h

/-! ## Conversations -/

/-- How a query goes on from when it is parked, if it is.  Anything may have happened to the
network before the sender is used. -/
inductive GoesOn : Network → Option ParkedQuery → List (Source × List Sample) → List Event →
    Network → Prop
  | ended (n : Network) : GoesOn n none [] [] n
  | resumed {m m' : Network} {p : ParkedQuery} {answers : List (Source × List Sample)}
    {log : List Event} (n : Network) (replies : List Sample)
    (rest : GoesOn (m.resume p replies)
      (parkedBy p.query (m.reportSource p.query p.source replies) p.query.sources) answers log m') :
    GoesOn n (some p)
      ((p.source, replies) ::
        (answersTo p.query (m.reportSource p.query p.source replies) p.query.sources ++ answers))
      (m.resumeLog p replies ++ log) m'

/-- All that a query goes through once it is delivered to a session that is alive: what its
sources answer, what happens while they are asked, and the network in the end. -/
inductive Conversation (m : Network) (q : Query) : List (Source × List Sample) → List Event →
    Network → Prop
  | intro {m' : Network} {answers : List (Source × List Sample)} {log : List Event}
    (halive : m.isAlive q.querier = true)
    (rest : GoesOn (m.deliver (.query q)) (parkedBy q m q.sources) answers log m') :
    Conversation m q (answersTo q m q.sources ++ answers) (m.deliverLog (.query q) ++ log) m'

namespace GoesOn

variable {p : Option ParkedQuery} {answers : List (Source × List Sample)} {log : List Event}

/-- The sources that were still to be asked are those that have answered in the end. -/
private theorem sources_eq (c : GoesOn n p answers log m') :
    answers.map (·.1) = outstanding p := by
  induction c with
  | ended => rfl
  | @resumed m _ p answers _ _ replies _ ih =>
    rw [List.map_cons, List.map_append, ih, Network.sources_eq]
    rfl

/-- What is reported from then on. -/
private theorem reported_eq (c : GoesOn n p answers log m')
    (hp : ∀ p', p = some p' → p'.query = { q with sources := p'.query.sources }) :
    ∃ carried, List.Forall₂ (Carried q.stamping log) answers carried ∧
      reported log = carried.flatMap Source.pieces ++ if p.isSome then [.replyFinal] else [] := by
  induction c with
  | ended => exact ⟨[], .nil, rfl⟩
  | @resumed m _ p answers log _ replies rest ih =>
    have hstamping : p.query.stamping = q.stamping := by rw [hp p rfl]
    obtain ⟨first, hfirst, hreported⟩ := m.reported_reportSourceLog p.query p.source replies
    obtain ⟨next, hnext, hasked⟩ := reported_askAllLog
      (m.reportSource p.query p.source replies) p.query p.query.sources
    obtain ⟨last, hlast, hrest⟩ := ih fun p' hp' => by
      rw [parkedBy_query hp', hp p rfl]
    rw [hstamping] at hfirst hnext
    have hsub : ∀ {log₁ : List Event}, log₁ ⊆ m.resumeLog p replies →
        log₁ ⊆ m.resumeLog p replies ++ log := fun h =>
      List.Subset.trans h (List.subset_append_left _ _)
    refine ⟨first :: (next ++ last), .cons ?_ (List.rel_append ?_ ?_), ?_⟩
    · exact hfirst.mono (hsub (List.subset_append_left _ _))
    · exact hnext.imp fun _ _ hc => hc.mono (hsub (List.subset_append_right _ _))
    · exact hlast.imp fun _ _ hc => hc.mono (List.subset_append_right _ _)
    · rw [resumeLog, reported_append, reported_append, hreported, hasked, hrest,
        List.flatMap_cons, List.flatMap_append]
      cases hparked :
          parkedBy p.query (m.reportSource p.query p.source replies) p.query.sources with
      | some p' => simp
      | none =>
        -- the query is not parked again, so nobody answers any more
        rw [hparked] at rest
        cases rest
        cases hlast
        simp

/-- In the end nobody waits for the answer any more. -/
private theorem waiting_eq (c : GoesOn n p answers log m')
    (hp : ∀ p', p = some p' → p'.query = { q with sources := p'.query.sources })
    (hn : p = none → n.waiting q.querier q.handle = none) :
    m'.waiting q.querier q.handle = none := by
  induction c with
  | ended => exact hn rfl
  | @resumed m _ p answers log _ replies _ ih =>
    refine ih (fun p' hp' => by rw [parkedBy_query hp', hp p rfl]) fun hnone => ?_
    have hwaiting := waiting_askAll hnone
    rw [hp p rfl] at hwaiting
    rw [resume, hp p rfl]
    exact hwaiting

/-- A query whose senders are all used at some time comes to its end. -/
private theorem exists_of_later (later : ParkedQuery → Network × List Sample) (n : Network)
    (p : Option ParkedQuery) : ∃ answers log m', GoesOn n p answers log m' := by
  -- each time a sender is used, fewer sources are outstanding
  induction hlen : (outstanding p).length using Nat.strong_induction_on generalizing n p with
  | _ k ih =>
    cases p with
    | none => exact ⟨_, _, _, .ended n⟩
    | some p =>
      obtain ⟨m, replies⟩ := later p
      have hsources := Network.sources_eq (m.reportSource p.query p.source replies) p.query
        p.query.sources
      have hlt : (outstanding (parkedBy p.query (m.reportSource p.query p.source replies)
          p.query.sources)).length < k := by
        have hlength := congrArg List.length hsources
        rw [List.length_append] at hlength
        rw [← hlen, outstanding, List.length_cons]
        omega
      obtain ⟨answers, log, m', c⟩ := ih _ hlt (m.resume p replies) _ rfl
      exact ⟨_, _, _, .resumed n replies c⟩

end GoesOn

namespace Conversation

variable {answers : List (Source × List Sample)} {log : List Event}

/-- Every source has answered in the end, in the order of the query. -/
private theorem sources_eq (c : Conversation m q answers log m') :
    answers.map (·.1) = q.sources := by
  obtain ⟨halive, rest⟩ := c
  rw [List.map_append, rest.sources_eq, Network.sources_eq]

/-- All that is reported. -/
private theorem reported_eq (c : Conversation m q answers log m') :
    ∃ carried, List.Forall₂ (Carried q.stamping log) answers carried ∧
      reported log = carried.flatMap Source.pieces ++ [.replyFinal] := by
  obtain @⟨m', answers, log, halive, rest⟩ := c
  have hlog : m.deliverLog (.query q) = m.askAllLog q q.sources := if_pos halive
  obtain ⟨first, hfirst, hasked⟩ := m.reported_askAllLog q q.sources
  obtain ⟨last, hlast, hrest⟩ := rest.reported_eq fun _ hp => parkedBy_query hp
  rw [hlog]
  refine ⟨first ++ last, List.rel_append ?_ ?_, ?_⟩
  · exact hfirst.imp fun _ _ hc => hc.mono (List.subset_append_left _ _)
  · exact hlast.imp fun _ _ hc => hc.mono (List.subset_append_right _ _)
  -- if nothing was parked, the first part is all there is, and ends with the last event
  · rw [reported_append, hasked, hrest, List.flatMap_append]
    cases hparked : parkedBy q m q.sources with
    | some p => simp
    | none =>
      rw [hparked] at rest
      cases rest
      cases hlast
      simp

private theorem waiting_eq (c : Conversation m q answers log m') :
    m'.waiting q.querier q.handle = none := by
  obtain ⟨halive, rest⟩ := c
  refine rest.waiting_eq (fun _ hp => parkedBy_query hp) fun hnone => ?_
  have hdeliver : m.deliver (.query q) = m.askAll q q.sources := if_pos halive
  rw [hdeliver]
  exact waiting_askAll hnone

/-- A query that is delivered to a session that is alive comes to its end if all senders that
are kept are used at some time, in whatever state the network is then. -/
theorem exists_of_later (halive : m.isAlive q.querier = true)
    (later : ParkedQuery → Network × List Sample) :
    ∃ answers log m', Conversation m q answers log m' := by
  obtain ⟨answers, log, m', c⟩ := GoesOn.exists_of_later later (m.deliver (.query q))
    (parkedBy q m q.sources)
  exact ⟨_, _, _, .intro halive c⟩

end Conversation

/-- A listener that had the handle all the time was told all that was reported. -/
private theorem received_eq_reported {t : Nat} {log : List Event} (h : ∀ e ∈ log, e.Tells t) :
    received t log = reported log := by
  refine List.filterMap_congr fun e he => ?_
  cases e with
  | told s k token event =>
    have htoken : token = some t := h _ he
    rw [Event.received?, Event.reported?, if_pos htoken]
  | _ => rfl

/-- Whoever asks is told every reply of every storage that the query concerns, in the order of
the declarations and each storage's end after its replies, then the same of the evals, and in
the end that there are no more.  It has to keep the handle of its query until then. -/
theorem received_of_query {r r' : Router} {s : SessionId} {expression optionalPart : String}
    {h : Handle} (hasked : (Router.query s expression optionalPart h).run r = (.ok (), r')) :
    ∃ q : Query, r' = { r with queue := r.queue ++ [.query q] } ∧
      q.querier = s ∧ q.handle = h ∧ q.expression = expression ∧
      q.optionalPart = optionalPart ∧ q.stamping = r.stampReplies ∧
      q.sources = Router.sourcesFor .storage expression r.storages ++
        Router.sourcesFor .eval expression r.evals ∧
      ∀ (m m' : Network) (answers : List (Source × List Sample)) (log : List Event) (t : Nat),
        Conversation m q answers log m' → (∀ e ∈ log, e.Tells t) →
        answers.map (·.1) = q.sources ∧
        (∃ carried, List.Forall₂ (Carried q.stamping log) answers carried ∧
          received t log = carried.flatMap Source.pieces ++ [.replyFinal]) ∧
        m'.waiting s h = none := by
  rcases Router.query_cases s expression optionalPart h r with hok | ⟨fault, failure, herr⟩
  · rw [hasked, Prod.mk.injEq] at hok
    refine ⟨_, hok.2, rfl, rfl, rfl, rfl, rfl, rfl, ?_⟩
    intro m m' answers log t c htold
    -- what the querier receives is what is reported for the query
    rw [received_eq_reported htold]
    exact ⟨c.sources_eq, c.reported_eq, c.waiting_eq⟩
  · rw [hasked, Prod.mk.injEq] at herr
    cases herr.1

/-! ### A short conversation -/

/-- A session with a storage that answers at once, an eval that keeps its sender, and somebody
who waits for the answer to a query. -/
def shortTalk : Network :=
  (start ⟨0⟩ .zero {}).runAll
    [.openSession none ∅,
      .declareStorage 0 leafSelector
        ⟨fun _ _ => {}, fun _ _ _ => { acts := [.answer [⟨"a/b", [1], {}⟩, ⟨"a/c", [2], {}⟩]] }⟩,
      .declareEval 0 leafPath fun _ _ _ => { acts := [.retain], faults := true },
      .query 0 leafSelector fun _ _ => {}]

/-- One storage and one eval answer a query between them. -/
theorem received_in_shortTalk : ∃ answers log m',
    Conversation shortTalk (shortTalk.router.queryOf 0 "a/*" "" 0) answers log m' ∧
      received 0 log ≠ [] ∧ answers.map (·.1) = [⟨.storage, 0, 0⟩, ⟨.eval, 0, 0⟩] := by
  have hasked : (Router.query 0 "a/*" "" 0).run shortTalk.router =
      (.ok (), { shortTalk.router with
        queue :=
          shortTalk.router.queue ++ [.query (shortTalk.router.queryOf 0 "a/*" "" 0)] }) := rfl
  obtain ⟨⟨querier, handle, expression, optionalPart, stamping, sources⟩, -, hquerier, hhandle,
    hexpression, hoptional, hstamping, hsources, htold⟩ := received_of_query hasked
  dsimp only at hquerier hhandle hexpression hoptional hstamping hsources
  subst hquerier hhandle hexpression hoptional hstamping hsources
  -- the eval uses its sender when nothing else has happened
  have c : Conversation shortTalk (shortTalk.router.queryOf 0 "a/*" "" 0) _ _ _ :=
    .intro (by decide) (.resumed
      (m := shortTalk.deliver (.query (shortTalk.router.queryOf 0 "a/*" "" 0))) _
      [⟨"a/b", [3], {}⟩] (.ended _))
  obtain ⟨hanswers, ⟨carried, -, hreceived⟩, -⟩ := htold _ _ _ _ 0 c (by decide)
  refine ⟨_, _, _, c, ?_, hanswers⟩
  rw [hreceived]
  exact List.append_ne_nil_of_right_ne_nil _ (List.cons_ne_nil _ _)

end Network

end PathSpace
