import PathSpace.Network.Delivery
import PathSpace.Proofs.Listening.HandleTable
/-!
# What a call to a listener leaves of the listeners

A listener that is called acts on the world around and may give up queries of its own
session.  Nothing it does adds a listener, and nothing takes a subscriber, a storage or an
eval away.

## Key results

- `Switchboard.Within`: what can become of the listeners of a session by a call
- `data_within`, `reply_within` and the others: every call keeps to it
- `board_setBoard`: the listeners of a session after those of another are replaced
-/

namespace PathSpace

variable {σ ε : Type}

/-! ## Switchboards -/

namespace Switchboard

/-- All listeners of `b'` are listeners of `b`, and at most some that wait for replies are
missing. -/
structure Within (b' b : Switchboard σ ε) : Prop where
  subscribers : b'.subscribers = b.subscribers
  storages : b'.storages = b.storages
  evals : b'.evals = b.evals
  replies_next : b'.replies.next = b.replies.next
  replies_capacity : b'.replies.capacity = b.replies.capacity
  replies_find : ∀ h listener, b'.replies.entries.find? h = some listener →
    b.replies.entries.find? h = some listener

theorem Within.refl (b : Switchboard σ ε) : b.Within b :=
  ⟨rfl, rfl, rfl, rfl, rfl, fun _ _ h => h⟩

theorem Within.trans {b₁ b₂ b₃ : Switchboard σ ε} (h₁ : b₁.Within b₂) (h₂ : b₂.Within b₃) :
    b₁.Within b₃ where
  subscribers := h₁.subscribers.trans h₂.subscribers
  storages := h₁.storages.trans h₂.storages
  evals := h₁.evals.trans h₂.evals
  replies_next := h₁.replies_next.trans h₂.replies_next
  replies_capacity := h₁.replies_capacity.trans h₂.replies_capacity
  replies_find h listener hf := h₂.replies_find h listener (h₁.replies_find h listener hf)

/-- Replies may be given up. -/
theorem within_remove (b : Switchboard σ ε) (h : Handle) :
    { b with replies := b.replies.remove h }.Within b where
  subscribers := rfl
  storages := rfl
  evals := rfl
  replies_next := rfl
  replies_capacity := rfl
  replies_find h' listener hf := by
    dsimp only at hf
    rw [HandleTable.find?_remove] at hf
    split at hf
    · cases hf
    · exact hf

/-- A board may let pending queries go. -/
theorem within_foldl_remove (handles : List Handle) (b : Switchboard σ ε) :
    { b with replies := handles.foldl HandleTable.remove b.replies }.Within b := by
  induction handles generalizing b with
  | nil => exact .refl b
  | cons h rest ih => exact (ih { b with replies := b.replies.remove h }).trans (b.within_remove h)

/-- A board may settle a reply. -/
theorem settleReply_within (b : Switchboard σ ε) (h : Handle) (token : Nat) :
    (b.settleReply h token).2.Within b := by
  unfold settleReply HandleTable.releaseIf
  cases b.replies.entries.find? h with
  | none => exact .refl b
  | some listener =>
    cases hl : listener.token == token with
    | true => simpa only [hl, if_true] using b.within_remove h
    | false => simpa only [hl, Bool.false_eq_true, if_false] using .refl b

end Switchboard

namespace Reaction

open Switchboard

/-- An act leaves the board within what it was. -/
theorem add_within (r : Reaction σ ε) (act : Act ε) : (r.add act).board.Within r.board := by
  cases act with
  | release handles => exact within_foldl_remove handles r.board
  | effect | answer | retain | contained => exact .refl r.board

/-- Acts leave the board within what it was. -/
theorem foldl_add_within (acts : List (Act ε)) (r : Reaction σ ε) :
    (acts.foldl add r).board.Within r.board := by
  induction acts generalizing r with
  | nil => exact .refl r.board
  | cons act rest ih => exact (ih (r.add act)).trans (r.add_within act)

/-- A listener that gives no queries up leaves all listeners where they are. -/
theorem ofScript_board (kind : ListenerKind) (b : Switchboard σ ε) {s : Script ε}
    (hs : ∀ handles, .release handles ∉ s.acts) : (ofScript kind b s).board = b := by
  -- the acts are added to a reaction that has come about already, so the induction is over any
  have hacts : ∀ (acts : List (Act ε)) (r : Reaction σ ε), (∀ handles, .release handles ∉ acts) →
      (acts.foldl add r).board = r.board := by
    intro acts
    induction acts with
    | nil => intros; rfl
    | cons act rest ih =>
      intro r hacts
      have hact : (r.add act).board = r.board := by
        cases act with
        | release handles => exact absurd List.mem_cons_self (hacts handles)
        | effect | answer | retain | contained => rfl
      have hrest := ih (r.add act) fun handles hmem => hacts handles (List.mem_cons_of_mem _ hmem)
      rw [List.foldl_cons, hrest, hact]
  exact hacts s.acts { board := b } hs

/-- A script leaves the board within what it was. -/
theorem ofScript_within (kind : ListenerKind) (b : Switchboard σ ε) (s : Script ε) :
    (ofScript kind b s).board.Within b :=
  foldl_add_within s.acts { board := b }

end Reaction

namespace Switchboard

open Reaction

/-- A subscriber that hears a sample leaves the board within what it was. -/
theorem data_within (b : Switchboard σ ε) (around : σ) (h : Handle) (sample : Sample) :
    (b.data around h sample).board.Within b := by
  unfold data
  split
  · exact ofScript_within _ b _
  · exact .refl b

/-- A storage that hears a sample leaves the board within what it was. -/
theorem storageData_within (b : Switchboard σ ε) (around : σ) (h : Handle) (sample : Sample) :
    (b.storageData around h sample).board.Within b := by
  unfold storageData
  split
  · exact ofScript_within _ b _
  · exact .refl b

/-- A storage that is asked leaves the board within what it was. -/
theorem storageQuery_within (b : Switchboard σ ε) (around : σ) (h : Handle) (e o : String) :
    (b.storageQuery around h e o).board.Within b := by
  unfold storageQuery
  split
  · exact ofScript_within _ b _
  · exact .refl b

/-- An eval that is asked leaves the board within what it was. -/
theorem evalQuery_within (b : Switchboard σ ε) (around : σ) (h : Handle) (e o : String) :
    (b.evalQuery around h e o).board.Within b := by
  unfold evalQuery
  split
  · exact ofScript_within _ b _
  · exact .refl b

/-- A querier that hears an event leaves the board within what it was. -/
theorem reply_within (b : Switchboard σ ε) (around : σ) (h : Handle) (event : ReplyEvent) :
    (b.reply around h event).board.Within b := by
  unfold reply
  split
  · next listener _ =>
    dsimp only
    split
    · exact (settleReply_within _ h listener.token).trans (ofScript_within _ b _)
    · exact ofScript_within _ b _
  · exact .refl b

/-- A handle that is given up is free if it was that of the listener with the token. -/
theorem find?_settleReply {b : Switchboard σ ε} {h : Handle} {token : Nat}
    (htoken : ∀ listener, b.replies.entries.find? h = some listener → listener.token = token) :
    (b.settleReply h token).2.replies.entries.find? h = none := by
  unfold settleReply HandleTable.releaseIf
  cases hl : b.replies.entries.find? h with
  | none => exact hl
  | some listener =>
    simp only [htoken listener hl, beq_self_eq_true, if_true, HandleTable.find?_remove]

/-- After the last event nobody has the handle of the query. -/
theorem find?_reply_final (b : Switchboard σ ε) (around : σ) (h : Handle) :
    (b.reply around h .replyFinal).board.replies.entries.find? h = none := by
  unfold reply HandleTable.lookup
  cases hl : b.replies.entries.find? h with
  | none => exact hl
  | some listener =>
    have hwithin := ofScript_within .reply b (listener.call around .replyFinal)
    have hfinal : ReplyEvent.replyFinal.isFinal = true := rfl
    simp only [hfinal, if_true]
    refine find?_settleReply fun listener' hl' => ?_
    -- the listener that is still there is the one that was called
    have hsame := hwithin.replies_find h listener' hl'
    rw [hl, Option.some.injEq] at hsame
    rw [hsame]

end Switchboard

/-! ## Networks -/

namespace Network

/-- The board of one session is set, the others are as they were. -/
theorem board_setBoard (n : Network) (s s' : SessionId) (b : Board) :
    (n.setBoard s b).board s' = if s' = s then b else n.board s' := by
  unfold board setBoard
  rw [SortedMap.find?_alter]
  split <;> rfl

/-- The board that was set is there. -/
@[simp] theorem board_setBoard_self (n : Network) (s : SessionId) (b : Board) :
    (n.setBoard s b).board s = b := by
  rw [board_setBoard, if_pos rfl]

/-- A source that is asked leaves its board within what it was. -/
theorem ask_within (n : Network) (q : Query) (source : Source) :
    (n.ask q source).board.Within (n.board source.session) := by
  unfold ask
  dsimp only
  split
  · cases source.kind with
    | storage => exact Switchboard.storageQuery_within _ _ _ _ _
    | eval => exact Switchboard.evalQuery_within _ _ _ _ _
  · exact .refl _

end Network

end PathSpace
