import PathSpace.Proofs.Network.Conversations
/-!
# Calls that change nothing for anyone else

A listener that only answers, notes, gathers or leaves things out changes nothing that another
listener could see.

## Key results

- `Calm`, `Still`: nothing has changed but clocks, notes, counters and gatherings
- `Waits.reaction`, `Waits.reply`: what comes of an event that is gathered, or that nobody waits for
- `Reports`: some events were reported, and nothing else has happened
-/

namespace PathSpace

/-- Whether an event is one with which nobody is declared or taken back and nothing is
written. -/
def Event.isQuiet : Event → Bool
  | .ticked .. | .heard .. | .unheard .. | .missed .. | .told .. => true
  | .wrote .. | .declared .. | .refused .. | .undeclared .. | .closed .. | .pulled .. => false

/-- Whether an effect changes nothing that listeners can look at. -/
def Effect.isStill : Effect → Bool
  | .note .. | .gather .. | .conclude .. | .drop .. => true
  | .remember .. | .record .. | .publish .. => false

namespace Network

variable {n n' n'' : Network} {q : Query}

/-- Nothing has changed but the clock of the router, notes, counters, gatherings, and maybe
those who wait for replies. -/
structure Calm (n n' : Network) : Prop extends SameHosts n n' where
  around : n'.around = n.around
  parked : n'.parked = n.parked
  nextStore : n'.nextStore = n.nextStore
  queue : n'.router.queue = n.router.queue
  subscribers : n'.router.subscribers = n.router.subscribers
  storages : n'.router.storages = n.router.storages
  evals : n'.router.evals = n.router.evals
  nextSession : n'.router.nextSession = n.router.nextSession
  stores : ∀ s, (n'.board s).storages = (n.board s).storages

/-- No listener has changed either. -/
structure Still (n n' : Network) : Prop extends Calm n n' where
  board : ∀ s, n'.board s = n.board s

namespace Calm

theorem refl (n : Network) : Calm n n where
  toSameHosts := .refl n
  around := rfl
  parked := rfl
  nextStore := rfl
  queue := rfl
  subscribers := rfl
  storages := rfl
  evals := rfl
  nextSession := rfl
  stores _ := rfl

theorem trans (h : Calm n n') (h' : Calm n' n'') : Calm n n'' where
  toSameHosts := h.toSameHosts.trans h'.toSameHosts
  around := h'.around.trans h.around
  parked := h'.parked.trans h.parked
  nextStore := h'.nextStore.trans h.nextStore
  queue := h'.queue.trans h.queue
  subscribers := h'.subscribers.trans h.subscribers
  storages := h'.storages.trans h.storages
  evals := h'.evals.trans h.evals
  nextSession := h'.nextSession.trans h.nextSession
  stores s := (h'.stores s).trans (h.stores s)

/-- To set a board with the same storages is calm. -/
theorem setBoard (n : Network) (s : SessionId) {b : Board}
    (hb : b.storages = (n.board s).storages) : Calm n (n.setBoard s b) :=
  { Calm.refl n with
    toSameHosts := .setBoard n s _
    stores := fun s' => by
      rw [board_setBoard]
      split
      · next heq => rw [hb, heq]
      · rfl }

/-- To change what is gathered is calm. -/
private theorem changeGathering (n : Network) (id : GatheringId) (f : Gathering → Gathering) :
    Calm n (n.changeGathering id f) := by
  unfold Network.changeGathering
  split
  · exact { Calm.refl n with }
  · exact .refl n

/-- A still effect is calm. -/
private theorem perform (n : Network) {e : Effect} (he : e.isStill = true) :
    Calm n (n.perform e) := by
  cases e with
  | note | drop => exact { Calm.refl n with }
  | gather | conclude => exact .changeGathering n _ _
  | remember | record | publish => cases he

/-- Still effects are calm, one after the other. -/
private theorem effects (n : Network) {effects : List Effect}
    (he : ∀ e ∈ effects, e.isStill = true) :
    Calm n (effects.foldl Network.perform n) := by
  induction effects generalizing n with
  | nil => exact .refl n
  | cons e rest ih =>
    obtain ⟨hfirst, hrest⟩ := List.forall_mem_cons.1 he
    exact (Calm.perform n hfirst).trans (ih _ hrest)

/-- A call to a listener that changes nothing that others could see. -/
private theorem absorb (n : Network) (s : SessionId) {r : Reaction Surroundings Effect}
    (hb : r.board.storages = (n.board s).storages) (he : ∀ e ∈ r.effects, e.isStill = true) :
    Calm n (n.absorb s r) := by
  have heffects := (Calm.setBoard n s hb).trans (Calm.effects (n.setBoard s r.board) he)
  exact heffects.trans { Calm.refl _ with }

end Calm

namespace Still

theorem refl (n : Network) : Still n n := { Calm.refl n with board := fun _ => rfl }

theorem trans (h : Still n n') (h' : Still n' n'') : Still n n'' :=
  { h.toCalm.trans h'.toCalm with board := fun s => (h'.board s).trans (h.board s) }

/-- To advance the clock is still. -/
private theorem ticked (n : Network) (clock : Clock) :
    Still n (Session.withRouter n { n.router with clock }) :=
  { Still.refl n with }

/-- A call to a listener that changes nothing. -/
theorem absorb (n : Network) (s : SessionId) {r : Reaction Surroundings Effect}
    (hb : r.board = n.board s) (he : ∀ e ∈ r.effects, e.isStill = true) :
    Still n (n.absorb s r) := by
  refine { Calm.absorb n s (by rw [hb]) he with board := fun s' => ?_ }
  rw [absorb_board, hb]
  split
  · next heq => rw [heq]
  · rfl

end Still

/-- Nothing is written by effects that change nothing. -/
private theorem effectsLog_of_still (n : Network) {effects : List Effect}
    (he : ∀ e ∈ effects, e.isStill = true) : n.effectsLog effects = [] := by
  induction effects generalizing n with
  | nil => rfl
  | cons e rest ih =>
    obtain ⟨hfirst, hrest⟩ := List.forall_mem_cons.1 he
    have hperform : n.performLog e = [] := by
      cases e with
      | publish => cases hfirst
      | _ => rfl
    rw [effectsLog, hperform, ih _ hrest]
    rfl

/-- A reaction with still effects brings about no event. -/
theorem absorbLog_of_still (n : Network) (s : SessionId) {r : Reaction Surroundings Effect}
    (he : ∀ e ∈ r.effects, e.isStill = true) : n.absorbLog s r = [] :=
  effectsLog_of_still _ he

/-- What a reaction changes of the gatherings comes from its effects. -/
theorem absorb_gatherings (n : Network) (s : SessionId) (r : Reaction Surroundings Effect) :
    (n.absorb s r).gatherings = (r.effects.foldl perform (n.setBoard s r.board)).gatherings := rfl

/-! ## Gathering -/

/-- What becomes of the gatherings when an event is reported to a listener that gathers, or to
nobody. -/
def gathered (around : Surroundings) (w : Option (GatheringId × MissingTimestamp))
    (gatherings : SortedMap GatheringId Gathering) (event : ReplyEvent) :
    SortedMap GatheringId Gathering :=
  match w with
  | none => gatherings
  | some (id, policy) =>
    match gatherings.find? id with
    | none => gatherings
    | some g =>
      match event with
      | .storageData sample | .evalData sample =>
        match Data.ofReply around.codecs policy around.wall sample with
        | .ok data => gatherings.insert id { g with aggregator := g.aggregator.push data }
        | .error _ => gatherings
      | .storageFinal | .evalFinal => gatherings
      | .replyFinal => gatherings.insert id { g with concluded := true }

/-- Who waits for the answer to a query: a listener that gathers, or nobody. -/
def Waits (n : Network) (q : Query) (w : Option (GatheringId × MissingTimestamp)) : Prop :=
  ((n.board q.querier).replies.entries.find? q.handle).map (·.call) =
    w.map fun g => Workspace.gatherListener g.1 g.2

variable {w : Option (GatheringId × MissingTimestamp)}

/-- Who waits for a query is read off the board of the querier. -/
theorem Waits.of_board (hw : Waits n q w) (h : n'.board q.querier = n.board q.querier) :
    Waits n' q w := by
  rw [Waits, h]
  exact hw

/-- After a still step the same gathering waits. -/
theorem Waits.still (hw : Waits n q w) (h : Still n n') : Waits n' q w := hw.of_board (h.board _)

/-- To change a gathering is to replace it, if there is one of that name. -/
private theorem changeGathering_gatherings (n : Network) (id : GatheringId)
    (f : Gathering → Gathering) :
    (n.changeGathering id f).gatherings =
      match n.gatherings.find? id with
      | some g => n.gatherings.insert id (f g)
      | none => n.gatherings := by
  rw [changeGathering]
  cases n.gatherings.find? id <;> rfl

/-- What a listener that gathers does when it hears an event. -/
def gatherEffects (id : GatheringId) (policy : MissingTimestamp) (around : Surroundings) :
    ReplyEvent → List Effect
  | .storageData sample | .evalData sample =>
    match Data.ofReply around.codecs policy around.wall sample with
    | .ok data => [.gather id data]
    | .error reason => [.drop reason]
  | .storageFinal | .evalFinal => []
  | .replyFinal => [.conclude id]

/-- The listener of a get does nothing but its effects. -/
private theorem gatherListener_eq (id : GatheringId) (policy : MissingTimestamp)
    (around : Surroundings)
    (event : ReplyEvent) :
    Workspace.gatherListener id policy around event =
      { acts := (gatherEffects id policy around event).map .effect } := by
  unfold Workspace.gatherListener gatherEffects
  cases event with
  | storageData sample | evalData sample =>
    dsimp only
    cases Data.ofReply around.codecs policy around.wall sample <;> rfl
  | storageFinal | evalFinal | replyFinal => rfl

/-- A listener that gathers acts on its gathering only. -/
private theorem still_gatherEffects (id : GatheringId) (policy : MissingTimestamp)
    (around : Surroundings)
    (event : ReplyEvent) : ∀ e ∈ gatherEffects id policy around event, e.isStill = true := by
  unfold gatherEffects
  cases event with
  | storageData sample | evalData sample =>
    dsimp only
    cases Data.ofReply around.codecs policy around.wall sample <;>
      exact List.forall_mem_singleton.2 rfl
  | storageFinal | evalFinal => exact fun e he => absurd he List.not_mem_nil
  | replyFinal => exact List.forall_mem_singleton.2 rfl

/-- The effects of the listener gather the event. -/
private theorem gatherings_gatherEffects (id : GatheringId) (policy : MissingTimestamp)
    (around : Surroundings) (event : ReplyEvent) (m : Network) :
    ((gatherEffects id policy around event).foldl perform m).gatherings =
      gathered around (some (id, policy)) m.gatherings event := by
  unfold gatherEffects gathered
  -- a datum is decoded first; an end of a source is only counted
  cases event with
  | storageData sample | evalData sample =>
    dsimp only
    cases Data.ofReply around.codecs policy around.wall sample with
    | ok data =>
      rw [List.foldl_cons, List.foldl_nil, perform, changeGathering_gatherings]
      cases m.gatherings.find? id <;> rfl
    | error reason =>
      dsimp only
      cases m.gatherings.find? id <;> rfl
  | storageFinal | evalFinal =>
    dsimp only
    cases m.gatherings.find? id <;> rfl
  | replyFinal =>
    dsimp only
    rw [List.foldl_cons, List.foldl_nil, perform, changeGathering_gatherings]
    cases m.gatherings.find? id <;> rfl

/-- A script of effects does these, leaves the listeners alone and does not fail. -/
private theorem ofScript_effects (kind : ListenerKind) (b : Board) (effects : List Effect) :
    (Reaction.ofScript kind b { acts := effects.map .effect }).board = b ∧
      (Reaction.ofScript kind b { acts := effects.map .effect }).effects = effects ∧
      (Reaction.ofScript kind b { acts := effects.map .effect }).faults = [] := by
  have hfold : ∀ r : Reaction Surroundings Effect,
      ((effects.map Act.effect).foldl Reaction.add r).board = r.board ∧
        ((effects.map Act.effect).foldl Reaction.add r).effects = r.effects ++ effects ∧
        ((effects.map Act.effect).foldl Reaction.add r).faults = r.faults := by
    -- the reaction that is added to is general, so that the induction goes through
    induction effects with
    | nil => intro r; exact ⟨rfl, (List.append_nil _).symm, rfl⟩
    | cons e rest ih =>
      intro r
      obtain ⟨hboard, heffects, hfaults⟩ := ih (r.add (.effect e))
      refine ⟨hboard, heffects.trans ?_, hfaults⟩
      exact List.append_assoc r.effects [e] rest
  exact hfold { board := b }

/-- In particular a script of one effect. -/
theorem ofScript_effect (kind : ListenerKind) (b : Board) (e : Effect) :
    (Reaction.ofScript kind b { acts := [.effect e] }).board = b ∧
      (Reaction.ofScript kind b { acts := [.effect e] }).effects = [e] :=
  (ofScript_effects kind b [e]).imp id And.left

/-- The effects of reporting an event to a listener that gathers, or to nobody.  Nothing fails,
and the listeners stay as they are if the event is not the last one. -/
theorem Waits.reaction (hw : Waits n q w) (event : ReplyEvent) :
    ((n.board q.querier).reply n.around q.handle event).effects =
        (w.map fun g => gatherEffects g.1 g.2 n.around event).getD [] ∧
      ((n.board q.querier).reply n.around q.handle event).faults = [] ∧
      (event.isFinal = false →
        ((n.board q.querier).reply n.around q.handle event).board = n.board q.querier) := by
  unfold Waits at hw
  unfold Switchboard.reply HandleTable.lookup
  -- without a listener nobody waits; with one it is that of the gathering
  cases hl : (n.board q.querier).replies.entries.find? q.handle with
  | none =>
    have hnone : w = none := by
      rw [hl] at hw
      exact Option.map_eq_none_iff.1 hw.symm
    rw [hnone]
    exact ⟨rfl, rfl, fun _ => rfl⟩
  | some l =>
    rw [hl, Option.map_some] at hw
    obtain ⟨⟨id, policy⟩, rfl, hcall⟩ := Option.map_eq_some_iff.1 hw.symm
    obtain ⟨hboard, heffects, hfaults⟩ :=
      ofScript_effects .reply (n.board q.querier) (gatherEffects id policy n.around event)
    simp only [← hcall, gatherListener_eq]
    -- only the last event of a query takes the listener off the board
    split
    · next hfinal => exact ⟨heffects, hfaults, fun hf => absurd hfinal (by simp [hf])⟩
    · exact ⟨heffects, hfaults, fun _ => hboard⟩

/-- What comes of reporting an event to a listener that gathers, or to nobody. -/
theorem Waits.reply (hw : Waits n q w) (event : ReplyEvent) :
    (∀ e ∈ ((n.board q.querier).reply n.around q.handle event).effects, e.isStill = true) ∧
      (event.isFinal = false →
        ((n.board q.querier).reply n.around q.handle event).board = n.board q.querier) ∧
      ∀ m : Network, (((n.board q.querier).reply n.around q.handle event).effects.foldl perform
        m).gatherings = gathered n.around w m.gatherings event := by
  obtain ⟨heffects, -, hboard⟩ := hw.reaction event
  rw [heffects]
  cases w with
  | none => exact ⟨fun e he => absurd he List.not_mem_nil, hboard, fun _ => rfl⟩
  | some g =>
    exact ⟨still_gatherEffects g.1 g.2 n.around event, hboard,
      gatherings_gatherEffects g.1 g.2 n.around event⟩

/-- An event is gathered, and maybe nobody waits any more. -/
theorem Waits.calm (hw : Waits n q w) (event : ReplyEvent) : Calm n (n.report q event) :=
  .absorb n q.querier (Switchboard.reply_within _ _ _ _).storages (hw.reply event).1

/-- An event that is not the last one is gathered, and nothing else changes. -/
theorem Waits.report (hw : Waits n q w) {event : ReplyEvent} (hf : event.isFinal = false) :
    Still n (n.report q event) := by
  obtain ⟨hstill, hboard, -⟩ := hw.reply event
  exact .absorb n q.querier (hboard hf) hstill

/-- An event that is reported is gathered by whoever waits. -/
theorem Waits.report_gatherings (hw : Waits n q w) (event : ReplyEvent) :
    (n.report q event).gatherings = gathered n.around w n.gatherings event := by
  obtain ⟨-, -, hgathered⟩ := hw.reply event
  rw [Network.report, absorb_gatherings]
  exact hgathered _

/-- An event that is reported is told to the querier, and nothing follows. -/
theorem Waits.reportLog (hw : Waits n q w) (event : ReplyEvent) :
    n.reportLog q event =
      [.told q.querier q.handle (n.waiting q.querier q.handle) event] := by
  rw [Network.reportLog, absorbLog_of_still n q.querier (hw.reply event).1]

/-! ## Answers that are gathered -/

/-- A reply is not the last event. -/
private theorem dataEvent_not_final (kind : SourceKind) (sample : Sample) :
    (kind.dataEvent sample).isFinal = false := by
  cases kind <;> rfl

/-- The end of one source is not the last event. -/
private theorem finalEvent_not_final (kind : SourceKind) : kind.finalEvent.isFinal = false := by
  cases kind <;> rfl

/-- To stamp a reply is still, and leaves the gatherings alone. -/
private theorem still_stampReply (n : Network) (q : Query) (sample : Sample) :
    Still n (n.stampReply q sample).2 ∧ (n.stampReply q sample).2.gatherings = n.gatherings := by
  cases h : q.stamping && sample.info.timestamp.isNone with
  | true =>
    rw [stampReply_of_missing h]
    exact ⟨.ticked n _, Session.withRouter_gatherings n _⟩
  | false =>
    rw [stampReply_of_not_missing h]
    exact ⟨.refl n, rfl⟩

/-- Some events are reported to a listener that gathers, or to nobody, and nothing else
happens. -/
structure Reports (w : Option (GatheringId × MissingTimestamp)) (n : Network) (log : List Event)
    (n' : Network) : Prop extends Still n n' where
  gatherings : n'.gatherings = (reported log).foldl (gathered n.around w) n.gatherings
  quiet : ∀ e ∈ log, e.isQuiet = true

/-- One report after another. -/
theorem Reports.append {log log' : List Event} (h : Reports w n log n')
    (h' : Reports w n' log' n'') : Reports w n (log ++ log') n'' where
  toStill := h.toStill.trans h'.toStill
  gatherings := by
    rw [reported_append, List.foldl_append, ← h.gatherings, h'.gatherings, h.around]
  quiet := List.forall_mem_append.2 ⟨h.quiet, h'.quiet⟩

/-- An event that is not the last is reported. -/
private theorem Waits.reports (hw : Waits n q w) {event : ReplyEvent} (hf : event.isFinal = false) :
    Reports w n (n.reportLog q event) (n.report q event) where
  toStill := hw.report hf
  gatherings := by
    rw [hw.report_gatherings, reported_reportLog]
    rfl
  quiet := by
    rw [hw.reportLog]
    exact List.forall_mem_singleton.2 rfl

/-- Nobody hears what is reported for a handle under which nobody waits. -/
theorem reports_unwaited (hw : Waits n q none) (event : ReplyEvent) :
    Reports none n (n.reportLog q event) (n.report q event) := by
  have hnone : (n.board q.querier).replies.entries.find? q.handle = none :=
    Option.map_eq_none_iff.1 hw
  have hboard : ((n.board q.querier).reply n.around q.handle event).board = n.board q.querier := by
    rw [Switchboard.reply, HandleTable.lookup, hnone]
    rfl
  refine { Still.absorb n q.querier hboard (hw.reply event).1 with gatherings := ?_, quiet := ?_ }
  · rw [hw.report_gatherings, reported_reportLog]
    rfl
  · rw [hw.reportLog]
    exact List.forall_mem_singleton.2 rfl

/-- A reply is stamped and reported. -/
private theorem Waits.reports_reply (hw : Waits n q w) (kind : SourceKind) (sample : Sample) :
    Reports w n (reportReplyLog q kind n sample) (reportReply q kind n sample) := by
  obtain ⟨hstamp, hgatherings⟩ := n.still_stampReply q sample
  have hreported : reported (n.stampLog q sample) = [] := by
    unfold stampLog
    split <;> rfl
  -- the stamp is no event that is gathered, it only advances the clock
  have hticked : Reports w n (n.stampLog q sample) (n.stampReply q sample).2 := by
    refine { hstamp with gatherings := ?_, quiet := ?_ }
    · rw [hgatherings, hreported]
      rfl
    · unfold stampLog
      split
      · exact List.forall_mem_singleton.2 rfl
      · intro e he
        cases he
  exact hticked.append ((hw.still hstamp).reports (dataEvent_not_final kind _))

/-- The replies of a source are reported, and then its end. -/
theorem Waits.reports_source (hw : Waits n q w) (source : Source) (replies : List Sample) :
    Reports w n (n.reportSourceLog q source replies) (n.reportSource q source replies) := by
  have hreplies : Reports w n (repliesLog q source.kind n replies)
      (replies.foldl (reportReply q source.kind) n) := by
    induction replies generalizing n with
    | nil => exact { Still.refl n with gatherings := rfl, quiet := by intro e he; cases he }
    | cons reply rest ih =>
      have hfirst := hw.reports_reply source.kind reply
      exact hfirst.append (ih (hw.still hfirst.toStill))
  exact hreplies.append ((hw.still hreplies.toStill).reports (finalEvent_not_final source.kind))

end Network

end PathSpace
