import PathSpace.Network.Workspace
import PathSpace.Proofs.Datum.Samples
/-!
# One sample, read twice

A sample may reach a workspace as the reply to a query, and as news for a subscriber.  Both are
read on their own, with checks of their own.  Where a sample has a timestamp and sets a value, the
two readings are one: the change is the datum with the kind of the write, and what cannot be read
fails the same check first.

## Key results

- `Change.ofSample_eq_map_ofReply`: the change is made of the datum
- `Workspace.sharesReading_of_stamped`: what a get gathers, a subscriber is told, and what one of
  them leaves out, both leave out and count under the same reason
-/

namespace PathSpace

namespace Sample

/-- A sample that sets a value: its kind is that of a put or of an update, or is not given. -/
def SetsValue (x : Sample) : Prop :=
  x.info.kind = none ∨ x.info.kind = some ChangeKind.put.toByte ∨
    x.info.kind = some ChangeKind.update.toByte

private theorem SetsValue.exists_readKind {x : Sample} (h : x.SetsValue) :
    ∃ kind, x.readKind = .ok kind ∧ kind ≠ .remove := by
  unfold readKind
  rcases h with h | h | h
  · exact ⟨.put, by rw [h], by decide⟩
  · exact ⟨.put, by rw [h]; rfl, by decide⟩
  · exact ⟨.update, by rw [h]; rfl, by decide⟩

end Sample

/-- The change that a datum is for a subscriber. -/
def Data.toChange (kind : ChangeKind) (d : Data) : Change :=
  ⟨d.path, kind, some d.timestamp, some d.value⟩

/-- The change that is read in a stamped sample is made of the datum that is read in it. -/
theorem Change.ofSample_eq_map_ofReply {x : Sample} {t : Timestamp} {kind : ChangeKind}
    (ht : x.info.timestamp = some t) (hkind : x.readKind = .ok kind) (hne : kind ≠ .remove)
    (codecs : CodecTable) (policy : MissingTimestamp) (wall : Instant) :
    Change.ofSample codecs x = (Data.ofReply codecs policy wall x).map (Data.toChange kind) := by
  unfold Change.ofSample Data.ofReply
  rw [hkind, ht]
  -- the path is checked before the kind, and the kind passes, so the value comes second
  cases x.readPath with
  | error reason => rfl
  | ok path =>
    cases kind with
    | remove => exact absurd rfl hne
    | put | update =>
      cases x.readValue codecs with
      | error reason => rfl
      | ok value => rfl

namespace Workspace

/-- The script of a listener that leaves a sample out, and counts it. -/
def leavesOut (reason : DropReason) : Script Effect := { acts := [.effect (.drop reason)] }

/-- A get and a subscriber make the same of a sample. -/
structure SharesReading (around : Surroundings) (policy : MissingTimestamp) (x : Sample) :
    Prop where
  /-- What is a datum for a get is a change for a subscriber, and the other way round. -/
  datum : ∀ p v t, Data.ofReply around.codecs policy around.wall x = .ok ⟨p, v, t⟩ ↔
    ∃ kind, Change.ofSample around.codecs x = .ok ⟨p, kind, some t, some v⟩
  /-- What one of them leaves out, the other leaves out for the same reason. -/
  dropped : ∀ reason, Data.ofReply around.codecs policy around.wall x = .error reason ↔
    Change.ofSample around.codecs x = .error reason
  /-- All listeners count it under that reason, and do nothing else. -/
  counted : ∀ reason, Data.ofReply around.codecs policy around.wall x = .error reason →
    (∀ id, gatherListener id policy around (.storageData x) = leavesOut reason ∧
      gatherListener id policy around (.evalData x) = leavesOut reason) ∧
    ∀ delivery listener, changeListener delivery listener around x = leavesOut reason

/-- A stamped sample that sets a value is the same for a get and for a subscriber, whatever
decoders there are and whatever is done about missing timestamps. -/
theorem sharesReading_of_stamped (around : Surroundings) (policy : MissingTimestamp) {x : Sample}
    (hstamped : x.isStamped = true) (hsets : x.SetsValue) : SharesReading around policy x := by
  obtain ⟨t, ht⟩ := Option.isSome_iff_exists.1 hstamped
  obtain ⟨kind, hkind, hne⟩ := hsets.exists_readKind
  have hmap := Change.ofSample_eq_map_ofReply ht hkind hne around.codecs policy around.wall
  refine ⟨fun p v u => ?_, fun reason => ?_, fun reason herror => ⟨fun id => ?_, fun d l => ?_⟩⟩
  · rw [hmap]
    cases Data.ofReply around.codecs policy around.wall x with
    | error reason => simp [Except.map]
    | ok d =>
      constructor
      · intro h
        cases h
        exact ⟨kind, rfl⟩
      · rintro ⟨kind', h⟩
        cases h
        rfl
  · rw [hmap]
    cases Data.ofReply around.codecs policy around.wall x with
    | error reason' => simp [Except.map]
    | ok d => simp [Except.map]
  · simp [gatherListener, herror, leavesOut]
  · simp [changeListener, hmap, herror, Except.map, leavesOut]

/-- An update of a text that is no UTF-8, and one under a path that is none. -/
theorem sharesReading_of_unreadable :
    let around : Surroundings := { wall := ⟨5⟩, codecs := .builtIn }
    let garbled : Sample := ⟨"/a", [0xff], ⟨some ⟨1, .zero⟩, some .string, some 1⟩⟩
    let astray : Sample := ⟨"/a?", [0xff], ⟨some ⟨2, .zero⟩, some .string, none⟩⟩
    Change.ofSample .builtIn garbled = .error .decode ∧
      Change.ofSample .builtIn astray = .error .invalidPath ∧
      SharesReading around .reject garbled ∧ SharesReading around .synthesize astray := by
  refine ⟨by decide, by decide, ?_, ?_⟩
  · exact sharesReading_of_stamped _ _ rfl (.inr (.inr rfl))
  · exact sharesReading_of_stamped _ _ rfl (.inl rfl)

end Workspace

end PathSpace
