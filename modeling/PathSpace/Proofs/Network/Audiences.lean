import PathSpace.Proofs.Network.Desk
import PathSpace.Proofs.Network.Evolution
/-!
# The desks of a network

Whatever a network does, each of its audiences sees a number of moves of its desk, and these
go with what happens meanwhile.

## Key results

- `Goes`: what one audience sees
- `goes_absorb`, `goes_askAll`, `goes_deliverNext`: calls, answers and deliveries
- `goes_settle`, `goes_answerParked`: the queue, and queries that were parked
-/

namespace PathSpace

open Text (Bytes)

namespace Audience

/-- The listeners of an audience. -/
def Listener : Audience → Type
  | .subscribers => DataListener Surroundings Effect
  | .storages => StorageListener Surroundings Effect

/-- Where the listeners of an audience are kept. -/
def tray : (a : Audience) → Tray a.Listener
  | .subscribers => .subscribers
  | .storages => .storages

/-- What a listener does with a sample. -/
def hears : (a : Audience) → a.Listener → DataListener Surroundings Effect
  | .subscribers => id
  | .storages => StorageListener.data

/-- Who of an audience is declared; storages are pushed to. -/
def declared : Audience → Router → List SubscriberDeclaration
  | .subscribers, r => r.subscribers
  | .storages, r => r.storages.map fun d => { toDeclaration := d, mode := .push }

/-- What a job brings to an audience. -/
def job? : Audience → Job → Option (SessionId × Handle × Sample)
  | .subscribers, .subscriber s h sample => some (s, h, sample)
  | .storages, .storage s h sample => some (s, h, sample)
  | _, _ => none

/-- The jobs for an audience. -/
def jobs (a : Audience) (queue : List Job) : List (SessionId × Handle × Sample) :=
  queue.filterMap a.job?

/-- What is on the way to an audience, in a queue that is put together of two. -/
theorem jobs_append (a : Audience) (queue queue' : List Job) :
    a.jobs (queue ++ queue') = a.jobs queue ++ a.jobs queue' :=
  List.filterMap_append

/-- A table that was put on a board is found there. -/
theorem tray_table_replace (a : Audience) (b : Board) (t : HandleTable a.Listener) :
    a.tray.table (a.tray.replace b t) = t := by
  cases a <;> rfl

/-- Within a board the tables of the audiences are the same. -/
theorem tray_table_of_within (a : Audience) {b' b : Board} (h : b'.Within b) :
    a.tray.table b' = a.tray.table b := by
  cases a with
  | subscribers => exact h.subscribers
  | storages => exact h.storages

/-- The jobs for an audience that a write causes. -/
private theorem jobs_writeJobs (a : Audience) (r : Router) (sample : Sample) :
    a.jobs (r.writeJobs sample) = Desk.jobsFor (a.declared r) sample := by
  rw [jobs, Router.writeJobs, List.filterMap_append, List.filterMap_map, List.filterMap_map]
  -- of the two halves of the list only one is meant for this audience
  cases a with
  | subscribers =>
    have hnone : ∀ ds : List Declaration, ds.filterMap
        (job? .subscribers ∘ fun d => .storage d.session d.handle sample) = [] :=
      fun ds => List.filterMap_eq_nil_iff.2 fun _ _ => rfl
    rw [hnone, List.append_nil]
    exact congrFun List.filterMap_eq_map _
  | storages =>
    have hnone : ∀ ds : List SubscriberDeclaration, ds.filterMap
        (job? .storages ∘ fun d => .subscriber d.session d.handle sample) = [] :=
      fun ds => List.filterMap_eq_nil_iff.2 fun _ _ => rfl
    rw [hnone, List.nil_append, Desk.jobsFor, declared, List.filter_map, List.map_map]
    exact congrFun List.filterMap_eq_map _

/-- What is declared does not depend on the clock. -/
private theorem declared_withClock (a : Audience) (r : Router) (clock : Clock) :
    a.declared { r with clock } = a.declared r := by
  cases a <;> rfl

/-- A sample that is passed on is kept for those who pull, and changes no declaration else. -/
private theorem declared_routed (a : Audience) (r : Router) (sample : Sample) :
    a.declared (r.routed sample) = (a.declared r).map (Router.keepPending sample) := by
  cases a with
  | subscribers => rfl
  | storages =>
    rw [declared, declared, List.map_map]
    rfl

end Audience

namespace Network

variable {n n' : Network} {a : Audience}

/-- What a network looks like to an audience. -/
def desk (n : Network) (a : Audience) : Desk a.Listener where
  declared := a.declared n.router
  jobs := a.jobs n.router.queue
  clock := n.router.clock
  codecs := n.around.codecs
  table := fun s => a.tray.table (n.board s)

/-- What an audience sees of the way from one network to another. -/
def Goes (a : Audience) (n : Network) (log : List Event) (n' : Network) : Prop :=
  Desk.Moves a a.hears (n.desk a) log (n'.desk a)

theorem Goes.of_eq (h : n'.desk a = n.desk a) : Goes a n [] n' := by
  rw [Goes, h]
  exact .nil _

theorem Goes.trans {n'' : Network} {log log' : List Event} (h : Goes a n log n')
    (h' : Goes a n' log' n'') : Goes a n (log ++ log') n'' :=
  h.append h'

/-- Events that do not concern an audience leave its desk alone. -/
theorem Goes.of_not_concerns {log : List Event} (h : Goes a n [] n')
    (hlog : ∀ e ∈ log, e.concerns a = false) : Goes a n log n' := by
  induction log with
  | nil => exact h
  | cons e rest ih =>
    obtain ⟨he, hrest⟩ := List.forall_mem_cons.1 hlog
    exact .cons (.other he) (ih hrest)

/-- Only the desk counts for where the moves go. -/
theorem Goes.of_desk_eq {n'' : Network} {log : List Event} (h : Goes a n log n')
    (h' : n''.desk a = n'.desk a) : Goes a n log n'' := by
  rw [Goes, h']
  exact h

/-- Two networks with the same router and the same tables look the same. -/
theorem desk_eq (hr : n'.router = n.router) (hc : n'.around.codecs = n.around.codecs)
    (ht : ∀ s, a.tray.table (n'.board s) = a.tray.table (n.board s)) : n'.desk a = n.desk a := by
  rw [desk, desk, hr, hc]
  congr 1
  exact funext ht

/-- To set a board within what it was leaves the desk alone. -/
theorem desk_setBoard (n : Network) (s : SessionId) {b : Board} (h : b.Within (n.board s)) :
    (n.setBoard s b).desk a = n.desk a := by
  refine desk_eq rfl rfl fun s' => ?_
  rw [board_setBoard]
  split
  · next heq => rw [a.tray_table_of_within h, heq]
  · rfl

/-- An operation that the router refuses is not seen. -/
theorem desk_withFailure (n : Network) (failure : Option ArrangedFailure) :
    (Session.withRouter n { n.router with failure }).desk a = n.desk a := by
  cases a <;> rfl

/-- When the clock of the router advances, that of the desk does. -/
private theorem desk_withClock (n : Network) (clock : Clock) :
    (Session.withRouter n { n.router with clock }).desk a = { n.desk a with clock } := by
  cases a <;> rfl

/-! ## Writing -/

/-- An accepted write is one move. -/
theorem goes_routed (n : Network) (path : String) (payload : Bytes) (e : Encoding)
    (kind : ChangeKind) :
    Goes a n (n.acceptedLog path payload e kind)
      (Session.withRouter n ((n.router.ticked n.around.wall).routed
        (n.router.stamped n.around.wall path payload e kind))) := by
  have hdesk : (Session.withRouter n ((n.router.ticked n.around.wall).routed
      (n.router.stamped n.around.wall path payload e kind))).desk a =
      (n.desk a).accept n.around.wall (n.router.stamped n.around.wall path payload e kind) := by
    have hclock := a.declared_withClock n.router (n.router.clock.now n.around.wall).2
    rw [desk, Session.withRouter_router, a.declared_routed, Router.ticked, hclock, Router.routed,
      a.jobs_append, a.jobs_writeJobs, hclock]
    rfl
  rw [Goes, hdesk]
  exact .single (.write rfl)

/-! ## Calls of listeners -/

/-- What is gathered is not on the desk. -/
private theorem desk_changeGathering (n : Network) (id : GatheringId) (f : Gathering → Gathering) :
    (n.changeGathering id f).desk a = n.desk a := by
  unfold changeGathering
  split <;> rfl

/-- Every effect is a number of moves: only what is published makes one. -/
private theorem goes_perform (n : Network) (e : Effect) :
    Goes a n (n.performLog e) (n.perform e) := by
  cases e with
  | note | remember | record | drop => exact .of_eq rfl
  | gather id data => exact .of_eq (n.desk_changeGathering id _)
  | conclude id => exact .of_eq (n.desk_changeGathering id _)
  | publish workspace path value =>
    cases hw : n.workspaces.find? workspace with
    | none => simpa only [performLog, perform, hw] using .of_eq rfl
    | some s =>
      -- the write is passed on, or refused without a move
      rcases Router.write_cases s n.around.wall path.text value.encode value.encoding .put n.router
        with hok | ⟨fault, failure, herr⟩
      · simp only [performLog, perform, hw, route, hok]
        exact n.goes_routed path.text value.encode value.encoding .put
      · simp only [performLog, perform, hw, route, herr]
        exact .of_eq (n.desk_withFailure failure)

/-- The effects of a reaction are a number of moves. -/
private theorem goes_effects (n : Network) (effects : List Effect) :
    Goes a n (n.effectsLog effects) (effects.foldl perform n) := by
  induction effects generalizing n with
  | nil => exact .of_eq rfl
  | cons e rest ih => exact (n.goes_perform e).trans (ih (n.perform e))

/-- What comes of a call to a listener. -/
theorem goes_absorb (n : Network) (s : SessionId) (r : Reaction Surroundings Effect)
    (hr : r.board.Within (n.board s)) : Goes a n (n.absorbLog s r) (n.absorb s r) := by
  have hset : Goes a n [] (n.setBoard s r.board) := .of_eq (n.desk_setBoard s hr)
  exact (hset.trans ((n.setBoard s r.board).goes_effects r.effects)).of_desk_eq rfl

/-! ## Answers -/

/-- To report an event of a query is a number of moves. -/
private theorem goes_report (n : Network) (q : Query) (event : ReplyEvent) :
    Goes a n (n.reportLog q event) (n.report q event) := by
  have htold : Goes a n
      [.told q.querier q.handle (n.waiting q.querier q.handle) event] n := .single (.other rfl)
  exact htold.trans (n.goes_absorb q.querier _ (Switchboard.reply_within _ _ _ _))

/-- To stamp a reply is one tick of the clock, or nothing. -/
private theorem goes_stampReply (n : Network) (q : Query) (sample : Sample) :
    Goes a n (n.stampLog q sample) (n.stampReply q sample).2 := by
  cases hmissing : q.stamping && sample.info.timestamp.isNone with
  | false =>
    rw [stampLog, stampReply, hmissing]
    exact .of_eq rfl
  | true =>
    rw [stampLog, hmissing, stampReply_of_missing hmissing, Goes, Router.ticked, desk_withClock]
    exact .single (.tick (n.desk a) n.around.wall)

/-- To stamp and report a reply is a number of moves. -/
private theorem goes_reportReply (q : Query) (kind : SourceKind) (n : Network) (sample : Sample) :
    Goes a n (reportReplyLog q kind n sample) (reportReply q kind n sample) :=
  (n.goes_stampReply q sample).trans (goes_report _ q _)

/-- To report the replies of a source is a number of moves. -/
private theorem goes_replies (q : Query) (kind : SourceKind) (n : Network) (replies : List Sample) :
    Goes a n (repliesLog q kind n replies) (replies.foldl (reportReply q kind) n) := by
  induction replies generalizing n with
  | nil => exact .of_eq rfl
  | cons reply rest ih => exact (goes_reportReply q kind n reply).trans (ih _)

/-- To report the replies of a source and its end is a number of moves. -/
private theorem goes_reportSource (n : Network) (q : Query) (source : Source)
    (replies : List Sample) :
    Goes a n (n.reportSourceLog q source replies) (n.reportSource q source replies) :=
  (goes_replies q source.kind n replies).trans (goes_report _ q _)

/-- To ask the sources of a query is a number of moves. -/
theorem goes_askAll (n : Network) (q : Query) (sources : List Source) :
    Goes a n (n.askAllLog q sources) (n.askAll q sources) := by
  induction sources generalizing n with
  | nil => exact n.goes_report q .replyFinal
  | cons source rest ih =>
    have hask := n.goes_absorb (a := a) source.session _ (n.ask_within q source)
    unfold askAllLog askAll
    dsimp only
    split
    · rw [List.append_nil]
      exact hask.of_desk_eq rfl
    · exact hask.trans ((goes_reportSource _ q source _).trans (ih _))

/-- To go on with a parked query is a number of moves. -/
private theorem goes_resume (n : Network) (p : ParkedQuery) (replies : List Sample) :
    Goes a n (n.resumeLog p replies) (n.resume p replies) :=
  (n.goes_reportSource p.query p.source replies).trans (goes_askAll _ p.query p.query.sources)

/-! ## Delivery -/

/-- The network once the first job is taken from the queue. -/
def popped (n : Network) (rest : List Job) : Network :=
  Session.withRouter n { n.router with queue := rest }

/-- What has been taken out of the queue is no longer on the way. -/
private theorem desk_popped (n : Network) (rest : List Job) :
    (n.popped rest).desk a = { n.desk a with jobs := a.jobs rest } := by
  cases a <;> rfl

/-- A job for somebody else is taken from the queue. -/
theorem desk_popped_of_none {job : Job} {rest : List Job} (hq : n.router.queue = job :: rest)
    (hj : a.job? job = none) : (n.popped rest).desk a = n.desk a := by
  have hjobs : (n.desk a).jobs = a.jobs rest := by
    rw [desk, hq, Audience.jobs, List.filterMap_cons, hj]
    rfl
  rw [desk_popped, ← hjobs]

/-- A sample is brought to a listener of the audience. -/
private theorem goes_bring {s : SessionId} {h : Handle} {sample : Sample} {job : Job}
    {rest : List Job}
    (hq : n.router.queue = job :: rest) (hj : a.job? job = some (s, h, sample))
    {r : Reaction Surroundings Effect} (hr : r.board.Within (n.board s)) :
    Goes a n
      ((n.popped rest).bringLog a s h sample
        (((a.tray.table (n.board s)).entries.find? h).map a.hears) r)
      (if (n.popped rest).isAlive s then (n.popped rest).absorb s r else n.popped rest) := by
  have hjobs : (n.desk a).jobs = (s, h, sample) :: a.jobs rest := by
    rw [desk, hq, Audience.jobs, List.filterMap_cons, hj]
    rfl
  have habsorb := (n.popped rest).goes_absorb (a := a) s r hr
  unfold bringLog
  -- a session that is gone misses the sample
  cases (n.popped rest).isAlive s with
  | false =>
    simp only [Bool.false_eq_true, if_false]
    rw [Goes, desk_popped]
    exact .single (.miss hjobs)
  | true =>
    simp only [if_true]
    -- without a listener nothing is heard, and the sample is lost
    cases hl : (a.tray.table (n.board s)).entries.find? h with
    | none =>
      rw [Goes, desk_popped] at habsorb
      exact .cons (.skip hjobs hl) habsorb
    | some listener =>
      rw [Goes, desk_popped] at habsorb
      exact .cons (.hear n.around rfl hjobs hl) habsorb

/-- A sample is brought to somebody of another audience. -/
private theorem goes_bring_other {b : Audience} (hb : b ≠ a) {s : SessionId} {h : Handle}
    {sample : Sample} {job : Job} {rest : List Job} (hq : n.router.queue = job :: rest)
    (hj : a.job? job = none) {r : Reaction Surroundings Effect} (hr : r.board.Within (n.board s))
    (listener : Option (DataListener Surroundings Effect)) :
    Goes a n ((n.popped rest).bringLog b s h sample listener r)
      (if (n.popped rest).isAlive s then (n.popped rest).absorb s r else n.popped rest) := by
  have habsorb := (n.popped rest).goes_absorb (a := a) s r hr
  have hb' : (b == a) = false := by simpa using hb
  rw [Goes, desk_popped_of_none hq hj] at habsorb
  unfold bringLog
  -- whatever becomes of it, it does not concern this audience
  cases (n.popped rest).isAlive s with
  | false =>
    simp only [Bool.false_eq_true, if_false]
    rw [Goes, desk_popped_of_none hq hj]
    exact .single (.other (by simpa [Event.concerns] using hb))
  | true =>
    simp only [if_true]
    cases listener with
    | none => exact .cons (.other hb') habsorb
    | some listener => exact .cons (.other hb') habsorb

/-- To deliver what comes next is a number of moves. -/
theorem goes_deliverNext (n : Network) : Goes a n n.deliverNextLog n.deliverNext := by
  unfold deliverNextLog deliverNext
  cases hq : n.router.queue with
  | nil => exact .of_eq rfl
  | cons job rest =>
    dsimp only
    -- what is brought to one audience is nothing to the other
    cases job with
    | subscriber s h sample =>
      have hr := Switchboard.data_within (n.board s) n.around h sample
      cases a with
      | subscribers =>
        have hsame : ((n.board s).subscribers.entries.find? h).map Audience.subscribers.hears =
            (n.board s).subscribers.entries.find? h := Option.map_id_apply
        have hgoes := goes_bring (a := .subscribers) hq rfl hr
        change Goes .subscribers n ((n.popped rest).bringLog .subscribers s h sample
          (((n.board s).subscribers.entries.find? h).map Audience.subscribers.hears) _) _ at hgoes
        rwa [hsame] at hgoes
      | storages => exact goes_bring_other (by simp) hq rfl hr _
    | storage s h sample =>
      have hr := Switchboard.storageData_within (n.board s) n.around h sample
      cases a with
      | subscribers => exact goes_bring_other (by simp) hq rfl hr _
      | storages => exact goes_bring (a := .storages) hq rfl hr
    | query q =>
      have hpopped : (n.popped rest).desk a = n.desk a :=
        desk_popped_of_none hq (by cases a <;> rfl)
      have hask := (n.popped rest).goes_askAll (a := a) q q.sources
      change Goes a n (if (n.popped rest).isAlive q.querier then _ else _)
        (if (n.popped rest).isAlive q.querier then _ else _)
      cases (n.popped rest).isAlive q.querier with
      | false => exact .of_eq hpopped
      | true =>
        rw [Goes, hpopped] at hask
        exact hask

/-- To deliver up to a number of times is a number of moves. -/
theorem goes_settle (limit : Nat) (n : Network) :
    Goes a n (settleLog limit n) (settle limit n) := by
  induction limit generalizing n with
  | zero => exact .of_eq rfl
  | succ limit ih =>
    unfold settleLog settle
    split
    · exact .of_eq rfl
    · exact n.goes_deliverNext.trans (ih _)

/-- To answer a parked query is a number of moves. -/
theorem goes_answerParked (n : Network) (i : Nat) (replies : List Sample) :
    Goes a n (n.answerParkedLog i replies) (n.answerParked i replies) := by
  unfold answerParkedLog answerParked
  split
  · next p _ =>
    exact goes_resume { n with parked := n.parked.eraseIdx i } p replies
  · exact .of_eq rfl

end Network

end PathSpace
