import PathSpace.Proofs.Fault.Computation
import PathSpace.Proofs.Listening.Stage
import Mathlib.Data.List.Count
/-!
# Failures that stay where they are

A run of a switchboard is put beside the run of the same steps in which whoever fails returns
instead.

## Key results

- `Reaction.ofScript_unfailing`: a failure changes nothing in a reaction but what is counted
- `Stage.step_unfailing`, `Stage.run_unfailing`: nor does it in a step and in a run
- `Stage.faults_contained`: the two runs differ in their counters only, and the counters of the
  first run tell how many calls and how many units of work have failed
-/

namespace PathSpace

variable {σ ε ρ ν : Type}

/-! ## Returning instead of failing -/

/-- The kind under which the failure of a unit of work is counted. -/
def Act.contained? : Act ε → Option ListenerKind
  | .contained kind => some kind
  | .effect _ | .answer _ | .retain | .release _ => none

namespace Script

/-- The script that returns where this one or one of its units of work fails. -/
def unfailing (s : Script ε) : Script ε := ⟨s.acts.filter (·.contained?.isNone), false⟩

/-- The kinds of the units of work that fail. -/
def failedUnits (s : Script ε) : List ListenerKind := s.acts.filterMap Act.contained?

end Script

/-- The listener that returns where this one fails. -/
def DataListener.unfailing (l : DataListener σ ε) : DataListener σ ε :=
  fun around sample => (l around sample).unfailing

@[inherit_doc DataListener.unfailing]
def QueryListener.unfailing (l : QueryListener σ ε) : QueryListener σ ε :=
  fun around expression optionalPart => (l around expression optionalPart).unfailing

@[inherit_doc DataListener.unfailing]
def StorageListener.unfailing (l : StorageListener σ ε) : StorageListener σ ε where
  data := DataListener.unfailing l.data
  query := QueryListener.unfailing l.query

@[inherit_doc DataListener.unfailing]
def ReplyListener.unfailing (l : ReplyListener σ ε) : ReplyListener σ ε where
  token := l.token
  call around event := (l.call around event).unfailing

namespace Switchboard

/-- The switchboard whose listeners return where these fail. -/
def unfailing (b : Switchboard σ ε) : Switchboard σ ε where
  subscribers := b.subscribers.map DataListener.unfailing
  storages := b.storages.map StorageListener.unfailing
  evals := b.evals.map QueryListener.unfailing
  replies := b.replies.map ReplyListener.unfailing

@[inherit_doc DataListener.unfailing]
def Listener.unfailing : Listener σ ε → Listener σ ε
  | .subscriber l => .subscriber (DataListener.unfailing l)
  | .storage l => .storage l.unfailing
  | .eval l => .eval (QueryListener.unfailing l)
  | .reply l => .reply l.unfailing

/-- The same call of a listener that returns. -/
def Call.unfailing (c : Call σ ε) : Call σ ε where
  listener := c.listener.unfailing
  message := c.message
  script := c.script.unfailing

end Switchboard

/-! ## One call -/

namespace Reaction

/-- What is left of a reaction when nothing has failed. -/
def unfailing (r : Reaction σ ε) : Reaction σ ε :=
  { r with board := r.board.unfailing, faults := [] }

/-- Listeners are let go the same when none of them fails. -/
private theorem foldl_remove_unfailing (handles : List Handle)
    (t : HandleTable (ReplyListener σ ε)) :
    handles.foldl HandleTable.remove (t.map ReplyListener.unfailing) =
      (handles.foldl HandleTable.remove t).map ReplyListener.unfailing := by
  induction handles generalizing t with
  | nil => rfl
  | cons h rest ih => rw [List.foldl_cons, List.foldl_cons, HandleTable.remove_map, ih]

/-- An act that cannot fail does the same when no other fails. -/
private theorem add_unfailing {act : Act ε} (hact : act.contained? = none) (r : Reaction σ ε) :
    r.unfailing.add act = (r.add act).unfailing := by
  cases act with
  | effect | answer | retain => rfl
  | release handles =>
    dsimp only [add, unfailing, Switchboard.unfailing]
    rw [foldl_remove_unfailing]
  | contained => cases hact

/-- The failure of a unit of work is counted, and that is all. -/
private theorem add_of_contained {act : Act ε} {kind : ListenerKind}
    (hact : act.contained? = some kind)
    (r : Reaction σ ε) : r.add act = { r with faults := r.faults ++ [kind] } := by
  cases act with
  | contained => rw [← Option.some.inj hact]; rfl
  | effect | answer | retain | release => cases hact

/-- Acts without those that were contained do the same when none fails. -/
private theorem foldl_add_unfailing (acts : List (Act ε)) (r : Reaction σ ε) :
    (acts.filter (·.contained?.isNone)).foldl add r.unfailing =
      (acts.foldl add r).unfailing := by
  induction acts generalizing r with
  | nil => rfl
  | cons act rest ih =>
    cases hact : act.contained? with
    | none =>
      rw [List.filter_cons_of_pos (by rw [hact]; rfl), List.foldl_cons, List.foldl_cons,
        add_unfailing hact, ih]
    | some kind =>
      -- the act is left out; where it is done, it adds a fault that nobody looks at
      rw [List.filter_cons_of_neg (by simp [hact]), List.foldl_cons, ← ih,
        add_of_contained hact]
      rfl

/-- The faults are those of the acts that were contained, in order. -/
private theorem foldl_add_faults (acts : List (Act ε)) (r : Reaction σ ε) :
    (acts.foldl add r).faults = r.faults ++ acts.filterMap Act.contained? := by
  induction acts generalizing r with
  | nil => exact (List.append_nil _).symm
  | cons act rest ih =>
    rw [List.foldl_cons, ih]
    cases act with
    | effect | answer | retain | release => rfl
    | contained kind => exact List.append_assoc r.faults [kind] _

/-- A failure changes nothing but what is counted. -/
theorem ofScript_unfailing (kind : ListenerKind) (b : Switchboard σ ε) (s : Script ε) :
    ofScript kind b.unfailing s.unfailing = (ofScript kind b s).unfailing := by
  have hfold := foldl_add_unfailing s.acts ({ board := b } : Reaction σ ε)
  have hfresh : ({ board := b.unfailing } : Reaction σ ε) =
      ({ board := b } : Reaction σ ε).unfailing := rfl
  dsimp only [ofScript, Script.unfailing]
  rw [hfresh, hfold]
  rfl

/-- What is counted are the units of work that fail and the failure of the listener. -/
private theorem ofScript_faults (kind : ListenerKind) (b : Switchboard σ ε) (s : Script ε) :
    (ofScript kind b s).faults = s.failedUnits ++ if s.faults then [kind] else [] := by
  have hfold := foldl_add_faults s.acts ({ board := b } : Reaction σ ε)
  dsimp only [ofScript]
  rw [hfold, List.nil_append]
  cases s.faults with
  | true => rfl
  | false => exact (List.append_nil _).symm

end Reaction

/-! ## One step -/

namespace Switchboard

/-- A listener is registered the same when it does not fail. -/
private theorem register_unfailing (b : Switchboard σ ε) (l : Listener σ ε) :
    b.unfailing.register l.unfailing = (b.register l).map fun r => (r.1, r.2.unfailing) := by
  cases l with
  | subscriber | storage | eval | reply =>
    dsimp only [register, Listener.unfailing, unfailing]
    rw [HandleTable.register_map, Computation.map_map, Computation.map_map]

/-- A listener is let go the same when it does not fail. -/
private theorem release_unfailing (b : Switchboard σ ε) (table : Drill.Table) (h : Handle) :
    b.unfailing.release table h =
      (b.release table h).map fun r => (r.1.unfailing, r.2.unfailing) := by
  cases table with
  | subscriber | storage | eval | reply =>
    dsimp only [release, unfailing]
    rw [HandleTable.release_map, Computation.map_map, Computation.map_map]
    rfl

/-- The handles are the same when no listener fails. -/
private theorem handles_unfailing (b : Switchboard σ ε) : b.unfailing.handles = b.handles := by
  funext table
  cases table with
  | subscriber | storage | eval | reply => exact HandleTable.handles_map _ _

/-- The same listener is called, only that it does not fail. -/
private theorem call?_unfailing (b : Switchboard σ ε) (around : σ) (message : Message) :
    b.unfailing.call? around message = (b.call? around message).map Call.unfailing := by
  cases message with
  | data | storageData | storageQuery | evalQuery | reply =>
    dsimp only [call?, unfailing]
    rw [HandleTable.find?_map, Option.map_map, Option.map_map]
    rfl

/-- A call is settled the same when it does not fail. -/
private theorem settle_unfailing (c : Call σ ε) (b : Switchboard σ ε) :
    c.unfailing.settle b.unfailing = (c.settle b).unfailing := by
  obtain ⟨listener, message, script⟩ := c
  cases listener with
  | subscriber | storage | eval => rfl
  | reply l =>
    cases message with
    | data | storageData | storageQuery | evalQuery => rfl
    | reply h event =>
      dsimp only [Call.settle, Call.unfailing, Listener.unfailing]
      split
      · dsimp only [settleReply, unfailing]
        -- the listener that returns is known by the token of the one that fails
        have htoken : ∀ l' : ReplyListener σ ε,
            (l'.unfailing.token == l.unfailing.token) = (l'.token == l.token) := fun _ => rfl
        rw [HandleTable.releaseIf_map ReplyListener.unfailing b.replies h htoken]
      · rfl

/-- Failing listeners do no harm to a dispatch. -/
private theorem dispatch_unfailing (b : Switchboard σ ε) (around : σ) (message : Message) :
    b.unfailing.dispatch around message = (b.dispatch around message).unfailing := by
  rw [dispatch_eq, dispatch_eq, call?_unfailing]
  cases b.call? around message with
  | none => rfl
  | some c =>
    have hreaction := Reaction.ofScript_unfailing message.kind b c.script
    dsimp only [Option.map_some, Call.unfailing]
    rw [hreaction]
    exact congrArg (fun board => { Reaction.ofScript message.kind b c.script with
      board := board, faults := [] }) (settle_unfailing c _)

end Switchboard

namespace Stage

/-- The stage with listeners that return. -/
def unfailing (s : Stage ρ ν) : Stage ρ ν := { s with board := s.board.unfailing }

/-- The step with a listener that returns. -/
def Step.unfailing : Step ρ ν → Step ρ ν
  | .register l => .register l.unfailing
  | .release table h => .release table h
  | .dispatch around message => .dispatch around message

/-- The same with a listener that returns. -/
def Returned.unfailing : Returned ρ ν → Returned ρ ν
  | .listener l => .listener l.unfailing
  | .handle h => .handle h
  | .fault f => .fault f
  | .nothing => .nothing

/-- What would have come of a step had nobody failed. -/
def Result.unfailing (r : Result ρ ν) : Result ρ ν where
  returned := r.returned.unfailing
  call := r.call.map Switchboard.Call.unfailing
  sender := r.sender
  faults := []
  after := r.after.unfailing

/-- A listener sees the same when the others do not fail. -/
private theorem sight_unfailing (s : Stage ρ ν) (around : ρ) :
    s.unfailing.sight around = s.sight around :=
  congrArg (Sight.mk around s.noted) s.board.handles_unfailing

/-- A deed is the same when no listener fails. -/
private theorem perform_unfailing (s : Stage ρ ν) (deed : Deed ν) :
    s.unfailing.perform deed = (s.perform deed).unfailing := by
  cases deed with
  | note n => rfl
  | release table h =>
    dsimp only [perform, unfailing]
    rw [Switchboard.release_unfailing]
    cases s.board.release table h with
    | ok r => rfl
    | error f => rfl

/-- Deeds are the same when no listener fails. -/
private theorem foldl_perform_unfailing (s : Stage ρ ν) (deeds : List (Deed ν)) :
    deeds.foldl perform s.unfailing = (deeds.foldl perform s).unfailing := by
  induction deeds generalizing s with
  | nil => rfl
  | cons deed rest ih => rw [List.foldl_cons, List.foldl_cons, perform_unfailing, ih]

/-- A failure in a step changes nothing but what is counted. -/
theorem step_unfailing (s : Stage ρ ν) (a : Step ρ ν) :
    s.unfailing.step a.unfailing = (s.step a).unfailing := by
  cases a with
  | register l =>
    dsimp only [step, Step.unfailing, unfailing]
    rw [Switchboard.register_unfailing]
    cases s.board.register l with
    | ok r => rfl
    | error f => rfl
  | release table h =>
    dsimp only [step, Step.unfailing, unfailing]
    rw [Switchboard.release_unfailing]
    cases s.board.release table h with
    | ok r => rfl
    | error f => rfl
  | dispatch around message =>
    have hdispatch := s.board.dispatch_unfailing (s.sight around) message
    have hcall := s.board.call?_unfailing (s.sight around) message
    have hdeeds := foldl_perform_unfailing
      { s with board := (s.board.dispatch (s.sight around) message).board }
      (s.board.dispatch (s.sight around) message).effects
    dsimp only [step, Step.unfailing]
    -- the listener sees the same, so it does the same until it fails
    rw [sight_unfailing]
    dsimp only [unfailing] at hdeeds ⊢
    rw [hdispatch, hcall]
    dsimp only [Reaction.unfailing, Result.unfailing, Returned.unfailing, unfailing]
    rw [hdeeds]

/-! ## All steps -/

/-- A run is the same when no listener fails, but for the faults that it counts. -/
theorem run_unfailing (s : Stage ρ ν) (steps : List (Step ρ ν)) :
    s.unfailing.run (steps.map Step.unfailing) = (s.run steps).map Result.unfailing := by
  induction steps generalizing s with
  | nil => rfl
  | cons a rest ih =>
    rw [List.map_cons, run, run, List.map_cons, step_unfailing]
    exact congrArg _ (ih (s.step a).after)

namespace Result

/-- Whether a listener was called for something and has failed. -/
def failed (kind : ListenerKind) (r : Result ρ ν) : Bool :=
  r.call.any fun c => c.script.faults && c.message.kind == kind

/-- The kinds of the units of work that were started and fail. -/
def failedUnits (r : Result ρ ν) : List ListenerKind :=
  match r.call with
  | some c => c.script.failedUnits
  | none => []

/-- Two steps that differ in nothing but failures: the same listener is called with the same
message, does the same and is answered for in the same way, the same is returned and noted, and
the same listeners are left under the same handles. -/
structure AlikeButForFaults (r r' : Result ρ ν) : Prop where
  call : r'.call = r.call.map Switchboard.Call.unfailing
  sender : r'.sender = r.sender
  returned : r'.returned = r.returned.unfailing
  noted : r'.after.noted = r.after.noted
  board : r'.after.board = r.after.board.unfailing
  faults : r'.faults = []

/-- A result is that of the run without failures, but for the faults. -/
private theorem alikeButForFaults (r : Result ρ ν) : AlikeButForFaults r r.unfailing :=
  ⟨rfl, rfl, rfl, rfl, rfl, rfl⟩

end Result

/-- What a step counts are the call that fails and the units of work that fail. -/
private theorem step_faults (s : Stage ρ ν) (a : Step ρ ν) (kind : ListenerKind) :
    (s.step a).faults.count kind =
      ((s.step a).failed kind).toNat + (s.step a).failedUnits.count kind := by
  cases a with
  | register l =>
    dsimp only [step]
    cases s.board.register l with
    | ok r => rfl
    | error f => rfl
  | release table h =>
    dsimp only [step]
    cases s.board.release table h with
    | ok r => rfl
    | error f => rfl
  | dispatch around message =>
    dsimp only [step, Result.failed, Result.failedUnits]
    rw [Switchboard.dispatch_eq]
    cases hcall : s.board.call? (s.sight around) message with
    | none => rfl
    | some c =>
      dsimp only [Option.any_some]
      -- the failures of its units of work are counted first, and then its own
      rw [Reaction.ofScript_faults, List.count_append, Nat.add_comm,
        Switchboard.message_of_call? hcall]
      cases c.script.faults with
      | false => rfl
      | true =>
        rw [if_pos rfl, List.count_singleton, Bool.true_and]
        cases message.kind == kind with
        | true => rfl
        | false => rfl

/-- The faults of a run are the calls that failed and the units of work that failed. -/
private theorem run_faults (s : Stage ρ ν) (steps : List (Step ρ ν)) (kind : ListenerKind) :
    ((s.run steps).flatMap (·.faults)).count kind =
      (s.run steps).countP (·.failed kind) +
        ((s.run steps).flatMap (·.failedUnits)).count kind := by
  induction steps generalizing s with
  | nil => rfl
  | cons a rest ih =>
    rw [run, List.flatMap_cons, List.flatMap_cons, List.count_append, List.count_append,
      List.countP_cons, step_faults, ih]
    -- the first step counts as one if its call failed
    cases (s.step a).failed kind with
    | true =>
      rw [Bool.toNat_true, if_pos rfl]
      omega
    | false =>
      rw [Bool.toNat_false, if_neg Bool.false_ne_true]
      omega

/-- The counter of a kind of listener counts the faults of this kind. -/
private theorem count_counters (results : List (Result ρ ν)) (kind : ListenerKind) :
    (counters results).count (.listenerFault kind) =
      (results.flatMap (·.faults)).count kind := by
  have hinj : Function.Injective Incident.listenerFault := fun _ _ => Incident.listenerFault.inj
  have hincidents : (counters results).incidents =
      (results.flatMap (·.faults)).map Incident.listenerFault := List.map_flatMap.symm
  rw [Counters.count, hincidents, List.count_map_of_injective _ _ hinj]

/-- Whoever fails in the course of a run might as well have returned: the same listeners are
called with the same messages, the same is answered, noted and returned, and after every step the
same listeners are parked under the same handles.  Only the counters tell the difference.  In the
end they hold, for each kind, how many calls have failed, besides the units of work that failed
by themselves; where everybody returns they hold nothing. -/
theorem faults_contained (s : Stage ρ ν) (steps : List (Step ρ ν)) :
    List.Forall₂ Result.AlikeButForFaults (s.run steps)
        (s.unfailing.run (steps.map Step.unfailing)) ∧
      ∀ kind : ListenerKind,
        (counters (s.run steps)).count (.listenerFault kind) =
            (s.run steps).countP (·.failed kind) +
              ((s.run steps).flatMap (·.failedUnits)).count kind ∧
          (counters (s.unfailing.run (steps.map Step.unfailing))).count (.listenerFault kind) =
            0 := by
  rw [run_unfailing]
  refine ⟨?_, fun kind => ⟨?_, ?_⟩⟩
  · rw [List.forall₂_map_right_iff]
    exact List.forall₂_same.2 fun r _ => r.alikeButForFaults
  · rw [count_counters, run_faults]
  · have hnone : ((s.run steps).map Result.unfailing).flatMap (·.faults) = [] := by
      rw [List.flatMap_map]
      exact List.flatMap_eq_nil_iff.2 fun r _ => rfl
    rw [count_counters, hnone, List.count_nil]

/-- The listener of a query fails at the last event; it is counted, and its handle is free. -/
example :
    let listener : ReplyListener (Sight Unit Nat) (Deed Nat) :=
      ⟨0, fun sight _ => ⟨[.effect (.note sight.noted.length)], true⟩⟩
    let steps := [.register (.reply listener), .dispatch () (.reply 0 .evalFinal),
      .dispatch () (.reply 0 .replyFinal), .dispatch () (.reply 0 .replyFinal)]
    (run { board := {} } steps).map
        (fun r => (r.faults, r.after.noted, r.after.board.replies.handles)) =
      [([], [], [0]), ([.reply], [0], [0]), ([.reply], [0, 1], []), ([], [0, 1], [])] := by
  rfl

end Stage

end PathSpace
