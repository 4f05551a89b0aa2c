import PathSpace.Network.Basic
/-! # Delivery

Jobs are delivered one at a time, in the order of the queue.  A query asks its sources
one after the other and reports to the listener of the query: every reply, then the end
of the source, and when all have answered, the end of the query.  A source may keep its
sender; then the query is parked until the sender is used.

* `Network.deliverNext` takes the first job from the queue;
* `Network.settle` goes on until the queue is empty;
* `Network.releaseParked` uses the senders that were kept.
-/

namespace PathSpace

namespace Network

/-- Reports an event to the listener of a query. -/
def report (n : Network) (q : Query) (event : ReplyEvent) : Network :=
  n.absorb q.querier ((n.board q.querier).reply n.around q.handle event)

/-- Gives a reply the timestamp that it lacks, if the query is to have it. -/
def stampReply (n : Network) (q : Query) (sample : Sample) : Sample × Network :=
  if q.stamping && sample.info.timestamp.isNone then
    let (stamp, clock) := n.router.clock.now n.around.wall
    ({ sample with info := { sample.info with timestamp := some stamp } },
      { n with router := { n.router with clock } })
  else (sample, n)

/-- Reports one reply of a source. -/
def reportReply (q : Query) (kind : SourceKind) (n : Network) (sample : Sample) : Network :=
  let (sample, n) := n.stampReply q sample
  n.report q (kind.dataEvent sample)

/-- Reports all that a source has answered. -/
def reportSource (n : Network) (q : Query) (source : Source) (replies : List Sample) : Network :=
  (replies.foldl (reportReply q source.kind) n).report q source.kind.finalEvent

/-- Asks one source.  Nothing is answered for a session that is gone. -/
def ask (n : Network) (q : Query) (source : Source) : Reaction Surroundings Effect :=
  let board := n.board source.session
  -- a query under way is not among the parked ones, yet it keeps its own session alive
  if n.isAlive source.session || source.session == q.querier then
    match source.kind with
    | .storage => board.storageQuery n.around source.handle q.expression q.optionalPart
    | .eval => board.evalQuery n.around source.handle q.expression q.optionalPart
  else .unheard board

/-- Asks sources in order, until one keeps its sender or all have answered. -/
def askAll (n : Network) (q : Query) : List Source → Network
  | [] => n.report q .replyFinal
  | source :: rest =>
    let reaction := n.ask q source
    -- what the source did comes before its replies are reported
    let n := n.absorb source.session reaction
    if reaction.sender.armed then
      { n with parked := n.parked ++ [⟨{ q with sources := rest }, source⟩] }
    else askAll (n.reportSource q source reaction.sender.replies) q rest

/-- Goes on with a parked query once its source has answered. -/
def resume (n : Network) (p : ParkedQuery) (replies : List Sample) : Network :=
  (n.reportSource p.query p.source replies).askAll p.query p.query.sources

/-- Delivers a job. -/
def deliver (n : Network) : Job → Network
  | .subscriber s h sample =>
    if n.isAlive s then n.absorb s ((n.board s).data n.around h sample) else n
  | .storage s h sample =>
    if n.isAlive s then n.absorb s ((n.board s).storageData n.around h sample) else n
  | .query q => if n.isAlive q.querier then n.askAll q q.sources else n

/-- Delivers the first job of the queue. -/
def deliverNext (n : Network) : Network :=
  match n.router.queue with
  | [] => n
  -- taken off first, since a listener that writes adds to the queue
  | job :: rest => { n with router := { n.router with queue := rest } }.deliver job

/-- Delivers jobs until the queue is empty, but no more than `limit`. -/
def settle : (limit : Nat) → Network → Network
  | 0, n => n
  | limit + 1, n => if n.router.queue.isEmpty then n else settle limit n.deliverNext

/-- Uses the kept senders of the first `count` parked queries. -/
def releaseFirst (replies : List Sample) : (count : Nat) → Network → Network
  | 0, n => n
  | count + 1, n =>
    match n.parked with
    | [] => n
    | p :: rest => releaseFirst replies count ({ n with parked := rest }.resume p replies)

/-- Uses all kept senders; gives their number. -/
def releaseParked (n : Network) (replies : List Sample) : Nat × Network :=
  -- a query that goes on may be parked again; its new sender stays unused
  (n.parked.length, releaseFirst replies n.parked.length n)

end Network

end PathSpace
