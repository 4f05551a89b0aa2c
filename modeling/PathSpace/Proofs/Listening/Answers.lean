import PathSpace.Listening.Switchboard
/-!
# What becomes of the sender of a query

A listener that is asked may answer several times, keep the sender, give up or fail.  The
first answer counts; a listener that does not answer and does not keep the sender has
answered with nothing.

## Key results

- `Script.outcome`: what the query gets from a listener
- `Reaction.ofScript_sender`: the sender ends up accordingly
-/

namespace PathSpace

variable {σ ε : Type}

/-- The replies that an act gives, if it is an answer. -/
def Act.answer? : Act ε → Option (List Sample)
  | .answer replies => some replies
  | _ => none

/-- Whether an act keeps the sender. -/
def Act.isRetain : Act ε → Bool
  | .retain => true
  | _ => false

namespace Script

/-- The first answer that a listener gives. -/
def answer? (s : Script ε) : Option (List Sample) := s.acts.findSome? Act.answer?

/-- Whether a listener keeps the sender for later. -/
def keeps (s : Script ε) : Bool := s.acts.any Act.isRetain

/-- What a query gets from a listener, or nothing yet if the listener keeps the sender unused.
Whether the listener fails does not matter. -/
def outcome (s : Script ε) : Option (List Sample) :=
  match s.answer? with
  | some replies => some replies
  | none => if s.keeps then none else some []

end Script

/-- A sender that was used no longer changes. -/
theorem RepliesSender.send_of_not_armed {sender : RepliesSender} (h : sender.armed = false)
    (replies : List Sample) : sender.send replies = sender := by
  rw [send, h]
  rfl

theorem RepliesSender.replies_of_one (armed : Bool) (replies : List Sample) :
    RepliesSender.replies ⟨armed, [replies]⟩ = replies :=
  List.append_nil replies

namespace Reaction

theorem foldl_add_retained (acts : List (Act ε)) (r : Reaction σ ε) :
    (acts.foldl add r).retained = (r.retained || acts.any Act.isRetain) := by
  induction acts generalizing r with
  | nil => simp
  | cons act rest ih =>
    rw [List.foldl_cons, ih, List.any_cons]
    cases act <;> simp [add, Act.isRetain]

private theorem foldl_add_sender_of_used (acts : List (Act ε)) {r : Reaction σ ε}
    (h : r.sender.armed = false) : (acts.foldl add r).sender = r.sender := by
  induction acts generalizing r with
  | nil => rfl
  | cons act rest ih =>
    have hadd : (r.add act).sender = r.sender := by
      cases act with
      | answer replies => exact RepliesSender.send_of_not_armed h replies
      | effect | retain | release | contained => rfl
    rw [List.foldl_cons, ih (hadd ▸ h), hadd]

/-- The first answer counts. -/
private theorem foldl_add_sender (acts : List (Act ε)) {r : Reaction σ ε} (h : r.sender = {}) :
    (acts.foldl add r).sender =
      match acts.findSome? Act.answer? with
      | some replies => ⟨false, [replies]⟩
      | none => {} := by
  induction acts generalizing r with
  | nil => exact h
  | cons act rest ih =>
    rw [List.foldl_cons, List.findSome?_cons]
    cases act with
    | answer replies =>
      have hsent : (r.add (.answer replies)).sender = ⟨false, [replies]⟩ := by
        change r.sender.send replies = _
        rw [h]
        rfl
      rw [foldl_add_sender_of_used rest (by rw [hsent]), hsent]
      rfl
    | effect | retain | release | contained => exact ih h

/-- What becomes of the sender of a query. -/
theorem ofScript_sender (kind : ListenerKind) (b : Switchboard σ ε) (s : Script ε) :
    (ofScript kind b s).sender =
      match s.outcome with
      | some replies => ⟨false, [replies]⟩
      | none => {} := by
  have hsender := foldl_add_sender s.acts (r := ({ board := b } : Reaction σ ε)) rfl
  have hretained := foldl_add_retained s.acts ({ board := b } : Reaction σ ε)
  unfold ofScript Script.outcome Script.answer? Script.keeps
  dsimp only
  rw [hsender, hretained, Bool.false_or]
  cases s.acts.findSome? Act.answer? with
  | some replies => cases s.acts.any Act.isRetain <;> rfl
  | none => cases s.acts.any Act.isRetain <;> rfl

end Reaction

end PathSpace
