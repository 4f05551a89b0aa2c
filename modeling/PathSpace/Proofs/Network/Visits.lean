import PathSpace.Proofs.Network.Evolution
import PathSpace.Proofs.Network.Sites
import PathSpace.Proofs.Routing.Failures
/-!
# Who meets an arranged failure

A `Visit` is one operation that got as far as the router's check for arranged failures.  Most
calls of clients make one visit or none.  A delivery makes one for each write of a listener,
and a get makes one of its own and then those of the deliveries that it waits for.

Beside each function by which a network goes on stands the list of the visits meanwhile.  The
lists only watch.

## Key results

- `Visit`, `Spends`: a visit, and a number of visits that meet what the ones before have left
- `Spends.of_arranged`: the first visits meet an arranged failure, and no other does
- `deliverNextVisits`, `settleVisits`, `answerParkedVisits`: the visits of listeners
- `spends_deliverNext`, `spends_settle`, `spends_answerParked`: they meet what is left
-/

namespace PathSpace

open PathSpace.Computation PathSpace.Router
open Text (Bytes)

/-! ## Visits -/

/-- An operation at the router. -/
structure Visit where
  /-- What the client calls the operation. -/
  operation : String
  /-- What the operation is about. -/
  resource : String
  /-- The router before the operation. -/
  found : Router
  /-- The router after the operation. -/
  left : Router
  answer : Except TransportFault Unit

namespace Visit

/-- The visit of an operation to a router. -/
def of {α : Type} (operation resource : String) (op : Routing α) (r : Router) : Visit where
  operation := operation
  resource := resource
  found := r
  left := (op.run r).2
  answer := (op.run r).1.map fun _ => ()

/-- A visitor fails with the arranged failure, uses it up by one and changes nothing else; if
none is arranged, it does not fail in that way. -/
structure Met (v : Visit) : Prop where
  spent : v.left.failure = spend v.found.failure
  fails : ∀ f, v.found.failure = some f → v.answer = .error (.failed f.code f.name) ∧
    v.left = { v.found with failure := spend v.found.failure }
  unharmed : v.found.failure = none → ∀ code name, v.answer ≠ .error (.failed code name)

/-- A call that meets the router's failures makes a visit that was met. -/
private theorem met_of {α : Type} {op : Routing α} {r : Router} (h : Meets op r)
    (operation resource : String) : (of operation resource op r).Met where
  spent := h.spent
  fails f hf := by
    have hrun := h.fails f hf
    rw [of]
    dsimp only
    rw [hrun]
    exact ⟨rfl, rfl⟩
  unharmed hnone code name herr :=
    h.unharmed hnone code name (error_of_map herr)

end Visit

/-- A number of visits, each of which meets what the ones before it have left of an arranged
failure. -/
inductive Spends : Option ArrangedFailure → List Visit → Option ArrangedFailure → Prop
  | nil (failure : Option ArrangedFailure) : Spends failure [] failure
  | cons {v : Visit} {visits : List Visit} {failure : Option ArrangedFailure} (hmet : v.Met)
      (hrest : Spends v.left.failure visits failure) :
    Spends v.found.failure (v :: visits) failure

namespace Spends

variable {f f' f'' : Option ArrangedFailure} {visits visits' : List Visit}

/-- One list of visits after another. -/
theorem append (h : Spends f visits f') (h' : Spends f' visits' f'') :
    Spends f (visits ++ visits') f'' := by
  induction h with
  | nil => exact h'
  | cons hmet _ ih => exact .cons hmet (ih h')

theorem of_eq (h : f' = f) : Spends f [] f' := h ▸ .nil f

/-- An operation that meets what is arranged makes one visit. -/
theorem single {α : Type} {op : Routing α} {r : Router} (h : Meets op r)
    (operation resource : String) :
    Spends r.failure [.of operation resource op r] (op.run r).2.failure :=
  .cons (Visit.met_of h operation resource) (.nil _)

/-- The first visit finds all that is arranged. -/
theorem head {v : Visit} (h : Spends f (v :: visits) f') : v.Met ∧ v.found.failure = f := by
  cases h with
  | cons hmet _ => exact ⟨hmet, rfl⟩

/-- Of an arranged failure each visit finds as many as the visits before it have left. -/
theorem of_arranged {count : Nat} {code : Int32} {name : String}
    (h : Spends (arranged count code name) visits f') :
    (∀ i v, visits[i]? = some v → v.Met ∧ v.found.failure = arranged (count - i) code name) ∧
      f' = arranged (count - visits.length) code name := by
  generalize hf : arranged count code name = f at h
  -- the induction is on the visits, and `count` is what the first of them finds
  induction h generalizing count with
  | nil => exact ⟨nofun, hf.symm⟩
  | @cons v visits f' hmet hrest ih =>
    have hleft : arranged (count - 1) code name = v.left.failure := by
      rw [hmet.spent, ← hf, spend_arranged]
    obtain ⟨hvisits, hlast⟩ := ih hleft
    refine ⟨fun i w hw => ?_, ?_⟩
    · cases i with
      | zero =>
        obtain rfl := Option.some.inj hw
        exact ⟨hmet, hf.symm⟩
      | succ i =>
        have hi : count - 1 - i = count - (i + 1) := by omega
        have hw' : visits[i]? = some w := by simpa using hw
        rw [← hi]
        exact hvisits i w hw'
    · have hlength : count - 1 - visits.length = count - (visits.length + 1) := by omega
      rw [hlast, hlength, List.length_cons]

end Spends

namespace Network

/-- The visit that an operation makes for a session, if the session is open. -/
def visit (n : Network) (s : SessionId) (operation resource : String) (op : Routing Unit) :
    Option Visit :=
  if Session.isClosed n s then none else some (.of operation resource op n.router)

/-- The visit that a write of a session makes. -/
def writeVisit (n : Network) (s : SessionId) (path : Path) (payload : Bytes) (e : Encoding)
    (kind : ChangeKind) : Option Visit :=
  n.visit s "Write" path.text (Router.write s n.around.wall path.text payload e kind)

/-! ## Visits of listeners -/

/-- The visit that an effect makes. -/
def performVisit (n : Network) : Effect → Option Visit
  | .publish workspace path value =>
    match n.workspaces.find? workspace with
    | some s => n.writeVisit s path value.encode value.encoding .put
    | none => none
  | _ => none

/-- The visits that effects make which are carried out one after the other. -/
def effectsVisits : Network → List Effect → List Visit
  | _, [] => []
  | n, e :: rest => (n.performVisit e).toList ++ effectsVisits (n.perform e) rest

/-- The visits that a call to a listener makes. -/
def absorbVisits (n : Network) (s : SessionId) (r : Reaction Surroundings Effect) : List Visit :=
  (n.setBoard s r.board).effectsVisits r.effects

/-- The visits that the listener of a query makes when an event is reported to it. -/
def reportVisits (n : Network) (q : Query) (event : ReplyEvent) : List Visit :=
  n.absorbVisits q.querier ((n.board q.querier).reply n.around q.handle event)

/-- The visits that the listener of a query makes when it hears the replies of a source. -/
def repliesVisits (q : Query) (kind : SourceKind) : Network → List Sample → List Visit
  | _, [] => []
  | n, reply :: rest =>
    (n.stampReply q reply).2.reportVisits q (kind.dataEvent (n.stampReply q reply).1) ++
      repliesVisits q kind (reportReply q kind n reply) rest

/-- The visits that the listener of a query makes when it hears all that a source has
answered. -/
def reportSourceVisits (n : Network) (q : Query) (source : Source) (replies : List Sample) :
    List Visit :=
  repliesVisits q source.kind n replies ++
    (replies.foldl (reportReply q source.kind) n).reportVisits q source.kind.finalEvent

/-- The visits that are made when sources are asked in order. -/
def askAllVisits (n : Network) (q : Query) : List Source → List Visit
  | [] => n.reportVisits q .replyFinal
  | source :: rest =>
    let reaction := n.ask q source
    let asked := n.absorb source.session reaction
    n.absorbVisits source.session reaction ++
      if reaction.sender.armed then []
      else asked.reportSourceVisits q source reaction.sender.replies ++
        askAllVisits (asked.reportSource q source reaction.sender.replies) q rest

/-- The visits that are made when the source of a parked query has answered. -/
def resumeVisits (n : Network) (p : ParkedQuery) (replies : List Sample) : List Visit :=
  n.reportSourceVisits p.query p.source replies ++
    (n.reportSource p.query p.source replies).askAllVisits p.query p.query.sources

/-- The visits that are made when a job is delivered. -/
def deliverVisits (n : Network) : Job → List Visit
  | .subscriber s h sample =>
    if n.isAlive s then n.absorbVisits s ((n.board s).data n.around h sample) else []
  | .storage s h sample =>
    if n.isAlive s then n.absorbVisits s ((n.board s).storageData n.around h sample) else []
  | .query q => if n.isAlive q.querier then n.askAllVisits q q.sources else []

/-- The visits that are made when the first job of the queue is delivered. -/
def deliverNextVisits (n : Network) : List Visit :=
  match n.router.queue with
  | [] => []
  | job :: rest => { n with router := { n.router with queue := rest } }.deliverVisits job

/-- The visits that are made when jobs are delivered, but no more than `limit`. -/
def settleVisits : (limit : Nat) → Network → List Visit
  | 0, _ => []
  | limit + 1, n =>
    if n.router.queue.isEmpty then [] else n.deliverNextVisits ++ settleVisits limit n.deliverNext

/-- The visits that are made when a kept sender is used. -/
def answerParkedVisits (n : Network) (i : Nat) (replies : List Sample) : List Visit :=
  match n.parked[i]? with
  | some p => { n with parked := n.parked.eraseIdx i }.resumeVisits p replies
  | none => []

variable {n : Network} {s : SessionId}

/-- An operation of an open session meets what is arranged, and one of a closed session does
not change the router. -/
structure Checks (op : Routing Unit) (s : SessionId) (r : Router) : Prop where
  meets : r.isClosed s = false → Meets op r
  closed : r.isClosed s = true → op.run r = (.error .closed, r)

/-- A write looks at the failures if its session is open, and else not at the router. -/
private theorem checks_write (s : SessionId) (wall : Instant) (path : String) (payload : Bytes)
    (e : Encoding) (kind : ChangeKind) (r : Router) :
    Checks (Router.write s wall path payload e kind) s r :=
  ⟨fun hopen => meets_write hopen wall path payload e kind, fun hclosed => closed_run _ hclosed⟩

/-- What is routed makes one visit, if the session is open. -/
private theorem spends_route {op : Routing Unit} (hop : Checks op s n.router)
    (operation resource : String) :
    Spends n.router.failure (n.visit s operation resource op).toList
      (op.run n.router).2.failure := by
  unfold visit
  cases hclosed : Session.isClosed n s with
  | true =>
    have hrun := hop.closed hclosed
    simp only [if_true, Option.toList_none]
    exact .of_eq (by rw [hrun])
  | false =>
    simp only [Bool.false_eq_true, if_false, Option.toList_some]
    exact .single (hop.meets hclosed) operation resource

/-- An effect makes a visit if it publishes something. -/
private theorem spends_perform (n : Network) (e : Effect) :
    Spends n.router.failure (n.performVisit e).toList (n.perform e).router.failure := by
  cases e with
  | note | remember | record | drop => exact .nil _
  | gather id data =>
    refine .of_eq ?_
    simp only [perform, changeGathering]
    split <;> rfl
  | conclude id =>
    refine .of_eq ?_
    simp only [perform, changeGathering]
    split <;> rfl
  | publish workspace path value =>
    -- a workspace that was let go publishes nothing
    cases hw : n.workspaces.find? workspace with
    | none =>
      simp only [performVisit, perform, hw]
      exact .nil _
    | some s =>
      simp only [performVisit, writeVisit, perform, hw, route]
      exact spends_route (checks_write ..) "Write" path.text

/-- Effects make their visits one after the other. -/
private theorem spends_effects (n : Network) (effects : List Effect) :
    Spends n.router.failure (n.effectsVisits effects)
      (effects.foldl perform n).router.failure := by
  induction effects generalizing n with
  | nil => exact .nil _
  | cons e rest ih => exact (n.spends_perform e).append (ih (n.perform e))

/-- A reaction makes the visits of its effects. -/
private theorem spends_absorb (n : Network) (s : SessionId) (r : Reaction Surroundings Effect) :
    Spends n.router.failure (n.absorbVisits s r) (n.absorb s r).router.failure :=
  spends_effects (n.setBoard s r.board) r.effects

/-- To report an event makes the visits of the reaction to it. -/
private theorem spends_report (n : Network) (q : Query) (event : ReplyEvent) :
    Spends n.router.failure (n.reportVisits q event) (n.report q event).router.failure :=
  n.spends_absorb q.querier _

/-- To stamp a reply uses no failure up. -/
private theorem stampReply_failure (n : Network) (q : Query) (sample : Sample) :
    (n.stampReply q sample).2.router.failure = n.router.failure := by
  cases h : q.stamping && sample.info.timestamp.isNone with
  | true =>
    rw [stampReply_of_missing h]
    exact n.router.ticked_failure _
  | false => rw [stampReply_of_not_missing h]

/-- The replies of a source make the visits of the reactions to them. -/
private theorem spends_replies (q : Query) (kind : SourceKind) (n : Network)
    (replies : List Sample) :
    Spends n.router.failure (repliesVisits q kind n replies)
      (replies.foldl (reportReply q kind) n).router.failure := by
  induction replies generalizing n with
  | nil => exact .nil _
  | cons reply rest ih =>
    have hreport := spends_report (n.stampReply q reply).2 q
      (kind.dataEvent (n.stampReply q reply).1)
    rw [stampReply_failure] at hreport
    exact hreport.append (ih (reportReply q kind n reply))

/-- The replies of a source and its end make the visits of the reactions to them. -/
private theorem spends_reportSource (n : Network) (q : Query) (source : Source)
    (replies : List Sample) :
    Spends n.router.failure (n.reportSourceVisits q source replies)
      (n.reportSource q source replies).router.failure :=
  (spends_replies q source.kind n replies).append (spends_report _ q _)

/-- To ask sources makes the visits of their reactions and of those of the querier. -/
private theorem spends_askAll (n : Network) (q : Query) (sources : List Source) :
    Spends n.router.failure (n.askAllVisits q sources) (n.askAll q sources).router.failure := by
  induction sources generalizing n with
  | nil => exact n.spends_report q .replyFinal
  | cons source rest ih =>
    have hask := n.spends_absorb source.session (n.ask q source)
    unfold askAllVisits askAll
    dsimp only
    -- a source that keeps the query makes no visit beyond its reaction
    split
    · rw [List.append_nil]
      exact hask
    · exact hask.append ((spends_reportSource _ q source _).append (ih _))

/-- To go on with a parked query makes the visits of the answer and of the sources that follow. -/
private theorem spends_resume (n : Network) (p : ParkedQuery) (replies : List Sample) :
    Spends n.router.failure (n.resumeVisits p replies) (n.resume p replies).router.failure :=
  (n.spends_reportSource p.query p.source replies).append (spends_askAll _ p.query _)

/-- A delivery makes the visits of the reaction to it. -/
private theorem spends_deliver (n : Network) (job : Job) :
    Spends n.router.failure (n.deliverVisits job) (n.deliver job).router.failure := by
  -- a session that is gone makes no visit
  cases job with
  | subscriber s h sample =>
    unfold deliverVisits deliver
    dsimp only
    split
    · exact n.spends_absorb s _
    · exact .nil _
  | storage s h sample =>
    unfold deliverVisits deliver
    dsimp only
    split
    · exact n.spends_absorb s _
    · exact .nil _
  | query q =>
    unfold deliverVisits deliver
    dsimp only
    split
    · exact n.spends_askAll q q.sources
    · exact .nil _

/-- To deliver what comes next makes its visits. -/
theorem spends_deliverNext (n : Network) :
    Spends n.router.failure n.deliverNextVisits n.deliverNext.router.failure := by
  cases hqueue : n.router.queue with
  | nil =>
    simp only [deliverNextVisits, deliverNext, hqueue]
    exact .nil _
  | cons job rest =>
    simp only [deliverNextVisits, deliverNext, hqueue]
    -- that the job has been taken from the queue has nothing to do with failures
    exact spends_deliver { n with router := { n.router with queue := rest } } job

/-- To deliver up to a number of times makes all the visits on the way. -/
theorem spends_settle (limit : Nat) (n : Network) :
    Spends n.router.failure (settleVisits limit n) (settle limit n).router.failure := by
  induction limit generalizing n with
  | zero => exact .nil _
  | succ limit ih =>
    unfold settleVisits settle
    split
    · exact .nil _
    · exact n.spends_deliverNext.append (ih _)

/-- To answer a parked query makes its visits. -/
theorem spends_answerParked (n : Network) (i : Nat) (replies : List Sample) :
    Spends n.router.failure (n.answerParkedVisits i replies)
      (n.answerParked i replies).router.failure := by
  cases hparked : n.parked[i]? with
  | none =>
    simp only [answerParkedVisits, answerParked, hparked]
    exact .nil _
  | some p =>
    simp only [answerParkedVisits, answerParked, hparked]
    exact spends_resume { n with parked := n.parked.eraseIdx i } p replies

end Network

end PathSpace
