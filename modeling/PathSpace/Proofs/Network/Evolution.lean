import PathSpace.Proofs.Network.Events
import PathSpace.Proofs.Network.Sessions
import Mathlib.Logic.Relation
/-!
# How a network goes on by itself

Between two operations of its clients a network does nothing but a few small things: it
takes jobs from the queue, calls listeners, carries their effects out and parks queries.
What none of these does, no delivery does either.

## Key results

- `Step`, `Evolves`: the small things, and any number of them
- `evolves_deliverNext`, `evolves_settle`, `evolves_answerParked`: deliveries are no more
- `Evolves.keeps`: what stays as it was
-/

namespace PathSpace.Network

variable {n n' n'' : Network}

/-- A small thing that a network does by itself. -/
inductive Step : Network → Network → Prop
  | board (n : Network) (s : SessionId) (b : Board) (h : b.Within (n.board s)) :
    Step n (n.setBoard s b)
  | effect (n : Network) (e : Effect) : Step n (n.perform e)
  | count (n : Network) (counters : Counters) : Step n { n with counters }
  | tick (n : Network) : Step n (Session.withRouter n (n.router.ticked n.around.wall))
  | park (n : Network) (parked : List ParkedQuery) : Step n { n with parked }
  | pop (n : Network) (queue : List Job) : Step n (Session.withRouter n { n.router with queue })

/-- Any number of small things. -/
abbrev Evolves : Network → Network → Prop := Relation.ReflTransGen Step

/-! ## Deliveries -/

/-- The effects of a reaction are steps. -/
private theorem evolves_effects (n : Network) (effects : List Effect) :
    Evolves n (effects.foldl perform n) := by
  induction effects generalizing n with
  | nil => exact .refl
  | cons e rest ih => exact .head (.effect n e) (ih (n.perform e))

/-- What follows from a reaction are steps: the board, the effects, and the count of the faults. -/
private theorem evolves_absorb (n : Network) (s : SessionId) {r : Reaction Surroundings Effect}
    (hr : r.board.Within (n.board s)) : Evolves n (n.absorb s r) :=
  .head (.board n s r.board hr) (.tail (evolves_effects _ r.effects) (.count _ _))

/-- To report an event of a query is made of steps. -/
private theorem evolves_report (n : Network) (q : Query) (event : ReplyEvent) :
    Evolves n (n.report q event) :=
  n.evolves_absorb q.querier (Switchboard.reply_within _ _ _ _)

/-- A reply without a timestamp is given the reading of the clock, if it is to have one. -/
theorem stampReply_of_missing {q : Query} {sample : Sample}
    (h : (q.stamping && sample.info.timestamp.isNone) = true) :
    n.stampReply q sample =
      ({ sample with info :=
          { sample.info with timestamp := some (n.router.clock.now n.around.wall).1 } },
        Session.withRouter n (n.router.ticked n.around.wall)) := by
  rw [stampReply, if_pos h]
  unfold Router.ticked
  -- the reading is a variable here, so that nobody computes with it
  generalize n.router.clock.now n.around.wall = reading
  rfl

/-- Any other reply stays as it is. -/
theorem stampReply_of_not_missing {q : Query} {sample : Sample}
    (h : (q.stamping && sample.info.timestamp.isNone) = false) :
    n.stampReply q sample = (sample, n) := by
  rw [stampReply, h]
  rfl

/-- To stamp a reply is a step, or none. -/
private theorem evolves_stampReply (n : Network) (q : Query) (sample : Sample) :
    Evolves n (n.stampReply q sample).2 := by
  cases h : q.stamping && sample.info.timestamp.isNone with
  | true =>
    rw [stampReply_of_missing h]
    exact .single (.tick n)
  | false =>
    rw [stampReply_of_not_missing h]

/-- To stamp and report a reply is made of steps. -/
private theorem evolves_reportReply (q : Query) (kind : SourceKind) (n : Network)
    (sample : Sample) :
    Evolves n (reportReply q kind n sample) :=
  (n.evolves_stampReply q sample).trans (evolves_report _ q _)

/-- To report the replies of a source is made of steps. -/
private theorem evolves_replies (q : Query) (kind : SourceKind) (n : Network)
    (replies : List Sample) :
    Evolves n (replies.foldl (reportReply q kind) n) := by
  induction replies generalizing n with
  | nil => exact .refl
  | cons reply rest ih => exact (evolves_reportReply q kind n reply).trans (ih _)

/-- To report the replies of a source and its end is made of steps. -/
private theorem evolves_reportSource (n : Network) (q : Query) (source : Source)
    (replies : List Sample) :
    Evolves n (n.reportSource q source replies) :=
  (evolves_replies q source.kind n replies).trans (evolves_report _ q _)

/-- To ask the sources of a query is made of steps. -/
private theorem evolves_askAll (n : Network) (q : Query) (sources : List Source) :
    Evolves n (n.askAll q sources) := by
  induction sources generalizing n with
  | nil => exact n.evolves_report q .replyFinal
  | cons source rest ih =>
    have hask := n.evolves_absorb source.session (n.ask_within q source)
    unfold askAll
    dsimp only
    -- a source that keeps the query parks it, and the others have to wait
    split
    · exact hask.tail (.park _ _)
    · exact hask.trans ((evolves_reportSource _ q source _).trans (ih _))

/-- To go on with a parked query is made of steps. -/
private theorem evolves_resume (n : Network) (p : ParkedQuery) (replies : List Sample) :
    Evolves n (n.resume p replies) :=
  (n.evolves_reportSource p.query p.source replies).trans (evolves_askAll _ p.query _)

/-- Every delivery is made of steps. -/
private theorem evolves_deliver (n : Network) (job : Job) : Evolves n (n.deliver job) := by
  -- a session that is gone gets nothing, and nothing happens
  cases job with
  | subscriber s h sample =>
    unfold deliver
    dsimp only
    split
    · exact n.evolves_absorb s (Switchboard.data_within _ _ _ _)
    · exact .refl
  | storage s h sample =>
    unfold deliver
    dsimp only
    split
    · exact n.evolves_absorb s (Switchboard.storageData_within _ _ _ _)
    · exact .refl
  | query q =>
    unfold deliver
    dsimp only
    split
    · exact n.evolves_askAll q q.sources
    · exact .refl

/-- To deliver what comes next is made of steps. -/
theorem evolves_deliverNext (n : Network) : Evolves n n.deliverNext := by
  unfold deliverNext
  split
  · exact .refl
  · next job rest _ => exact .head (.pop n rest) (evolves_deliver _ job)

/-- To deliver up to a number of times is made of steps. -/
theorem evolves_settle (limit : Nat) (n : Network) : Evolves n (settle limit n) := by
  induction limit generalizing n with
  | zero => exact .refl
  | succ limit ih =>
    unfold settle
    split
    · exact .refl
    · exact n.evolves_deliverNext.trans (ih _)

/-- To answer a parked query is made of steps. -/
theorem evolves_answerParked (n : Network) (i : Nat) (replies : List Sample) :
    Evolves n (n.answerParked i replies) := by
  unfold answerParked
  split
  · next p _ => exact .head (.park n (n.parked.eraseIdx i)) (evolves_resume _ p replies)
  · exact .refl

/-! ## What stays -/

/-- No session was let go, and none that was gone has come back. -/
structure SameHosts (n n' : Network) : Prop where
  held : ∀ s, (n'.hosts.find? s).all (·.held) = (n.hosts.find? s).all (·.held)

namespace SameHosts

theorem refl (n : Network) : SameHosts n n := ⟨fun _ => rfl⟩

theorem trans (h : SameHosts n n') (h' : SameHosts n' n'') : SameHosts n n'' :=
  ⟨fun s => (h'.held s).trans (h.held s)⟩

theorem of_eq (h : n'.hosts = n.hosts) : SameHosts n n' :=
  ⟨fun _ => by rw [h]⟩

/-- A session with other listeners is held as before; a new one is held. -/
theorem setBoard (n : Network) (s : SessionId) (b : Board) : SameHosts n (n.setBoard s b) := by
  unfold Network.setBoard
  constructor
  intro s'
  dsimp only
  rw [SortedMap.find?_alter]
  split
  · next heq =>
    rw [heq]
    cases n.hosts.find? s <;> rfl
  · rfl

end SameHosts

/-- Nothing was declared or taken back, no session was opened or closed, and no listener was
added; of the listeners at most some that wait for replies are gone. -/
structure Keeps (n n' : Network) : Prop extends SameHosts n n' where
  links : n'.router.links = n.router.links
  nextSession : n'.router.nextSession = n.router.nextSession
  subscribers : n'.router.subscribers.map (·.toDeclaration) =
    n.router.subscribers.map (·.toDeclaration)
  storages : n'.router.storages = n.router.storages
  evals : n'.router.evals = n.router.evals
  board : ∀ s, (n'.board s).Within (n.board s)
  wall : n'.around.wall = n.around.wall
  codecs : n'.around.codecs = n.around.codecs
  nextStore : n'.nextStore = n.nextStore

theorem Keeps.refl (n : Network) : Keeps n n where
  toSameHosts := .refl n
  links := rfl
  nextSession := rfl
  subscribers := rfl
  storages := rfl
  evals := rfl
  board _ := .refl _
  wall := rfl
  codecs := rfl
  nextStore := rfl

theorem Keeps.trans (h : Keeps n n') (h' : Keeps n' n'') : Keeps n n'' where
  toSameHosts := h.toSameHosts.trans h'.toSameHosts
  links := h'.links.trans h.links
  nextSession := h'.nextSession.trans h.nextSession
  subscribers := h'.subscribers.trans h.subscribers
  storages := h'.storages.trans h.storages
  evals := h'.evals.trans h.evals
  board s := (h'.board s).trans (h.board s)
  wall := h'.wall.trans h.wall
  codecs := h'.codecs.trans h.codecs
  nextStore := h'.nextStore.trans h.nextStore

/-- A board may change within what it was. -/
theorem Keeps.setBoard (n : Network) (s : SessionId) {b : Board} (h : b.Within (n.board s)) :
    Keeps n (n.setBoard s b) where
  toSameHosts := .setBoard n s b
  links := rfl
  nextSession := rfl
  subscribers := rfl
  storages := rfl
  evals := rfl
  board s' := by
    rw [board_setBoard]
    split
    · next heq => exact heq ▸ h
    · exact .refl _
  wall := rfl
  codecs := rfl
  nextStore := rfl

/-- A router that only wrote, ticked or delivered. -/
theorem Keeps.withRouter (n : Network) {r : Router} (hl : r.links = n.router.links)
    (hn : r.nextSession = n.router.nextSession)
    (hd : r.subscribers.map (·.toDeclaration) = n.router.subscribers.map (·.toDeclaration))
    (hs : r.storages = n.router.storages) (he : r.evals = n.router.evals) :
    Keeps n (Session.withRouter n r) :=
  { Keeps.refl n with
    links := hl, nextSession := hn, subscribers := hd, storages := hs, evals := he }

/-- The clock may advance. -/
private theorem Keeps.ticked (n : Network) (clock : Clock) :
    Keeps n (Session.withRouter n { n.router with clock }) :=
  .withRouter n rfl rfl rfl rfl rfl

/-- A sample may be passed on, and kept for those who pull. -/
private theorem Keeps.written (n : Network) (clock : Clock) (sample : Sample) :
    Keeps n (Session.withRouter n (Router.routed { n.router with clock } sample)) :=
  .withRouter n rfl rfl (Router.map_keepPending sample n.router.subscribers) rfl rfl

/-- What is gathered may change. -/
private theorem Keeps.changeGathering (n : Network) (id : GatheringId) (f : Gathering → Gathering) :
    Keeps n (n.changeGathering id f) := by
  unfold Network.changeGathering
  split
  · exact { Keeps.refl n with }
  · exact .refl n

/-- Every effect keeps the registrations. -/
private theorem Keeps.perform (n : Network) (e : Effect) : Keeps n (n.perform e) := by
  cases e with
  | note | remember | record | drop => exact { Keeps.refl n with }
  | gather | conclude => exact .changeGathering n _ _
  | publish workspace path value =>
    -- a workspace that was let go publishes nothing
    cases hw : n.workspaces.find? workspace with
    | none => simpa only [Network.perform, hw] using .refl n
    | some s =>
      rcases Router.write_cases s n.around.wall path.text value.encode value.encoding .put n.router
        with hok | ⟨fault, failure, herr⟩
      · simp only [Network.perform, hw, route, hok]
        exact .written n _ _
      · simp only [Network.perform, hw, route, herr]
        exact .withRouter n rfl rfl rfl rfl rfl

/-- Every step keeps the registrations. -/
private theorem Step.keeps (h : Step n n') : Keeps n n' := by
  cases h with
  | board s b hb => exact .setBoard n s hb
  | effect e => exact .perform n e
  | count | park => exact { Keeps.refl n with }
  | tick => exact .ticked n _
  | pop => exact .withRouter n rfl rfl rfl rfl rfl

/-- Any number of steps keeps the registrations. -/
theorem Evolves.keeps (h : Evolves n n') : Keeps n n' := by
  induction h with
  | refl => exact .refl n
  | tail _ hstep ih => exact ih.trans hstep.keeps

end PathSpace.Network
