import PathSpace.Proofs.Listening.Answers
import PathSpace.Routing.Query
/-!
# A sender that passes from hand to hand

A listener that keeps its sender may hand it on to a job of its own, which may hand it on
again.  A job runs within the call or as a unit of work of its own.  Wherever the sender goes,
the first who answers with it has answered the query, and the first who lets it go unused has
answered with nothing.

## Key results

- `Script.uses`: what becomes of a sender in the hands of a script
- `OneAnswer`: a sender answers once, with what the first one who uses it or lets it go says
- `Switchboard.sender_answers_once`: so does the sender of every query
-/

namespace PathSpace

variable {σ ε : Type}

/-! ## Hands -/

/-- What an act does with a sender. -/
def Act.uses : Act ε → RepliesSender → RepliesSender
  | .answer replies, sender => sender.send replies
  | .effect _, sender | .retain, sender | .release _, sender | .contained _, sender => sender

namespace Script

/-- What becomes of a sender in the hands of a script: it is dropped at the end unless it is
kept. -/
def uses (s : Script ε) (sender : RepliesSender) : RepliesSender :=
  let used := s.acts.foldl (fun sender act => act.uses sender) sender
  if s.keeps then used else used.drop

/-- Whether a script leaves its sender unused in the hands of somebody else. -/
def HandsOn (s : Script ε) : Prop := s.answer? = none ∧ s.keeps = true

private theorem outcome_eq_none_iff (s : Script ε) : s.outcome = none ↔ s.HandsOn := by
  unfold outcome HandsOn
  cases s.answer? with
  | some replies => simp
  | none => cases s.keeps <;> simp

/-- A sender that was used no longer changes, whatever is done with it. -/
private theorem uses_of_not_armed (s : Script ε) {sender : RepliesSender}
    (h : sender.armed = false) :
    s.uses sender = sender := by
  -- a sender that was used up stays so under every act
  have hacts : ∀ acts : List (Act ε),
      acts.foldl (fun sender act => act.uses sender) sender = sender := by
    intro acts
    induction acts with
    | nil => rfl
    | cons act rest ih =>
      have hact : act.uses sender = sender := by
        cases act with
        | answer replies => exact RepliesSender.send_of_not_armed h replies
        | effect | retain | release | contained => rfl
      rw [List.foldl_cons, hact, ih]
  unfold uses
  dsimp only
  rw [hacts]
  split
  · rfl
  · exact RepliesSender.send_of_not_armed h []

end Script

namespace Reaction

private theorem foldl_add_sender_eq_uses (acts : List (Act ε)) (r : Reaction σ ε) :
    (acts.foldl add r).sender = acts.foldl (fun sender act => act.uses sender) r.sender := by
  induction acts generalizing r with
  | nil => rfl
  | cons act rest ih =>
    have hact : (r.add act).sender = act.uses r.sender := by
      cases act <;> rfl
    rw [List.foldl_cons, List.foldl_cons, ih, hact]

/-- A listener that is called has the sender in its hands first. -/
private theorem ofScript_sender_eq_uses (kind : ListenerKind) (b : Switchboard σ ε) (s : Script ε) :
    (ofScript kind b s).sender = s.uses {} := by
  have hsender := foldl_add_sender_eq_uses s.acts ({ board := b } : Reaction σ ε)
  have hretained := foldl_add_retained s.acts ({ board := b } : Reaction σ ε)
  unfold ofScript Script.uses Script.keeps
  dsimp only
  rw [hsender, hretained, Bool.false_or]

end Reaction

/-- In the hands of a script a new sender is used or dropped, or it is handed on as it is. -/
private theorem Script.uses_new (s : Script ε) :
    s.uses {} =
      match s.outcome with
      | some replies => ⟨false, [replies]⟩
      | none => {} := by
  -- a call to a listener shows what any script does
  have huses := Reaction.ofScript_sender_eq_uses .eval ({} : Switchboard Unit ε) s
  have hsender := Reaction.ofScript_sender .eval ({} : Switchboard Unit ε) s
  refine huses.symm.trans (hsender.trans ?_)
  cases s.outcome <;> rfl

/-! ## Errands -/

/-- A job that has the sender of a query, and where it runs. -/
structure Errand (ε : Type) where
  mode : DeliveryMode
  kind : ListenerKind
  job : Script ε

/-- What is done with a sender on an errand. -/
def Errand.uses (e : Errand ε) (sender : RepliesSender) : RepliesSender :=
  (e.mode.run e.kind e.job).uses sender

/-- Where a job runs does not matter to its sender. -/
private theorem Errand.uses_eq (e : Errand ε) (sender : RepliesSender) :
    e.uses sender = e.job.uses sender := by
  obtain ⟨mode, kind, acts, faults⟩ := e
  cases mode with
  | inline => rfl
  | detached =>
    cases faults with
    | false => rfl
    | true =>
      -- only the failure that is counted is new
      simp [Errand.uses, DeliveryMode.run, Script.uses, Script.keeps, Act.uses, Act.isRetain]

/-! ## One answer -/

/-- A sender that was in the hands of some scripts, one after the other, has answered at most
once: with what the first one says who does not hand it on. -/
structure OneAnswer (hands : List (Script ε)) (sender : RepliesSender) : Prop where
  at_most_once : sender.calls.length ≤ 1
  /-- While everybody hands it on, the answer is still to come. -/
  pending : (∀ s ∈ hands, s.HandsOn) → sender.calls = []
  /-- The first who answers has answered the query, even if it fails later. -/
  answered : ∀ before s after replies, hands = before ++ s :: after →
    (∀ s' ∈ before, s'.HandsOn) → s.answer? = some replies → sender.calls = [replies]
  /-- The first who lets it go without an answer has answered with nothing. -/
  dropped : ∀ before s after, hands = before ++ s :: after →
    (∀ s' ∈ before, s'.HandsOn) → s.answer? = none → s.keeps = false → sender.calls = [[]]

/-- What becomes of a new sender in the hands of scripts, one after the other. -/
private theorem foldl_uses_new (hands : List (Script ε)) :
    hands.foldl (fun sender s => s.uses sender) {} =
      match hands.findSome? Script.outcome with
      | some replies => ⟨false, [replies]⟩
      | none => {} := by
  induction hands with
  | nil => rfl
  | cons s rest ih =>
    rw [List.foldl_cons, s.uses_new, List.findSome?_cons]
    cases s.outcome with
    | none => exact ih
    | some replies =>
      -- the first that answers or drops the sender decides; the others find it used
      clear ih
      induction rest with
      | nil => rfl
      | cons s' rest ih => rw [List.foldl_cons, s'.uses_of_not_armed rfl, ih]

/-- The first script that does not hand the sender on is the one that counts. -/
private theorem findSome?_outcome_eq {before after : List (Script ε)} {s : Script ε}
    (hbefore : ∀ s' ∈ before, s'.HandsOn) {replies : List Sample}
    (h : s.outcome = some replies) :
    (before ++ s :: after).findSome? Script.outcome = some replies := by
  have hnone : before.findSome? Script.outcome = none :=
    List.findSome?_eq_none_iff.2 fun s' hs' => s'.outcome_eq_none_iff.2 (hbefore s' hs')
  rw [List.findSome?_append, hnone, Option.none_or, List.findSome?_cons, h]

/-- A sender gives one answer, whatever hands it goes through. -/
private theorem oneAnswer_new (hands : List (Script ε)) :
    OneAnswer hands (hands.foldl (fun sender s => s.uses sender) {}) where
  at_most_once := by
    rw [foldl_uses_new]
    cases hands.findSome? Script.outcome with
    | none => exact Nat.zero_le 1
    | some replies => exact Nat.le_refl 1
  pending h := by
    have hnone : hands.findSome? Script.outcome = none :=
      List.findSome?_eq_none_iff.2 fun s hs => s.outcome_eq_none_iff.2 (h s hs)
    rw [foldl_uses_new, hnone]
  answered before s after replies heq hbefore hs := by
    have hout : s.outcome = some replies := by rw [Script.outcome, hs]
    rw [foldl_uses_new, heq, findSome?_outcome_eq hbefore hout]
  dropped before s after heq hbefore hs hkeeps := by
    have hout : s.outcome = some [] := by
      rw [Script.outcome, hs, hkeeps]
      rfl
    rw [foldl_uses_new, heq, findSome?_outcome_eq hbefore hout]

/-! ## Queries -/

namespace Switchboard

/-- Asks a storage or an eval. -/
def query (b : Switchboard σ ε) (kind : SourceKind) (around : σ) (h : Handle)
    (expression optionalPart : String) : Reaction σ ε :=
  match kind with
  | .storage => b.storageQuery around h expression optionalPart
  | .eval => b.evalQuery around h expression optionalPart

/-- What the listener of a handle does that is asked, if there is one. -/
def asked? (b : Switchboard σ ε) (kind : SourceKind) (around : σ) (h : Handle)
    (expression optionalPart : String) : Option (Script ε) :=
  match kind with
  | .storage =>
    (b.storages.entries.find? h).map fun l => l.query around expression optionalPart
  | .eval => (b.evals.entries.find? h).map fun l => l around expression optionalPart

/-- The sender of a query is in the hands of the listener, if there is one. -/
private theorem query_sender (b : Switchboard σ ε) (kind : SourceKind) (around : σ) (h : Handle)
    (expression optionalPart : String) :
    (b.query kind around h expression optionalPart).sender =
      match b.asked? kind around h expression optionalPart with
      | some script => script.uses {}
      | none => ⟨false, [[]]⟩ := by
  unfold query asked?
  cases kind with
  | storage =>
    unfold storageQuery HandleTable.lookup
    dsimp only
    cases b.storages.entries.find? h with
    | none => rfl
    | some l => exact Reaction.ofScript_sender_eq_uses _ _ _
  | eval =>
    unfold evalQuery HandleTable.lookup
    dsimp only
    cases b.evals.entries.find? h with
    | none => rfl
    | some l => exact Reaction.ofScript_sender_eq_uses _ _ _

/-- Whoever is asked, and whatever is done with the sender on however many errands, within the
call or as units of work of their own: the query is answered once.  Without a listener it is
answered at once, with nothing. -/
theorem sender_answers_once (b : Switchboard σ ε) (kind : SourceKind) (around : σ) (h : Handle)
    (expression optionalPart : String) (errands : List (Errand ε)) :
    match b.asked? kind around h expression optionalPart with
    | some script =>
      OneAnswer (script :: errands.map (·.job))
        (errands.foldl (fun sender e => e.uses sender)
          (b.query kind around h expression optionalPart).sender)
    | none =>
      (b.query kind around h expression optionalPart).sender.calls = [[]] ∧
        errands.foldl (fun sender e => e.uses sender)
            (b.query kind around h expression optionalPart).sender =
          (b.query kind around h expression optionalPart).sender := by
  have herrands : ∀ sender : RepliesSender,
      errands.foldl (fun sender e => e.uses sender) sender =
        (errands.map (·.job)).foldl (fun sender s => s.uses sender) sender := by
    intro sender
    rw [List.foldl_map]
    simp only [Errand.uses_eq]
  have hsender := b.query_sender kind around h expression optionalPart
  cases hasked : b.asked? kind around h expression optionalPart with
  | some script =>
    rw [hasked] at hsender
    dsimp only at hsender ⊢
    rw [herrands, hsender]
    exact oneAnswer_new (script :: errands.map (·.job))
  | none =>
    rw [hasked] at hsender
    dsimp only at hsender ⊢
    rw [hsender]
    refine ⟨rfl, ?_⟩
    -- nobody was called: the sender was dropped, and later uses come to nothing
    rw [herrands]
    induction errands.map (·.job) with
    | nil => rfl
    | cons s rest ih => rw [List.foldl_cons, s.uses_of_not_armed rfl, ih]

end Switchboard

end PathSpace
