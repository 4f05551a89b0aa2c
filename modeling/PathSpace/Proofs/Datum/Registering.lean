import PathSpace.Datum.Extension
import PathSpace.Proofs.Collections.SortedMap
/-!
# The decoder that was registered first

A decoder that is in place stays in place.  So after any number of calls the decoder of an
encoding is the one that the table had in the beginning or, if it had none, the first one of all
that somebody tried to register.

## Key results

- `Call.run`, `answers`: calls to a table and what they give back
- `first?`, `Call.answerBy`: what they give back by what was registered first
- `find?_after`: the decoder that is in place after a number of calls
- `answers_of_first`: every call goes by the first registration, and one that is refused might as
  well not have been made
-/

namespace PathSpace.CodecTable

open Text (Bytes)

/-! ## Calls -/

/-- A call to a table. -/
inductive Call where
  | register (e : Encoding) (d : Decoder)
  | contains (e : Encoding)
  | decode (e : Encoding) (payload : Bytes)

/-- What a call gives back. -/
inductive Answer where
  | registered (result : Except Error Unit)
  | flag (b : Bool)
  | decoded (result : Except DecodeFault Value)

/-- Calls a table; a decoder that is refused leaves it as it is. -/
def Call.run (t : CodecTable) : Call → Answer × CodecTable
  | .register e d =>
    match t.register e d with
    | .ok t' => (.registered (.ok ()), t')
    | .error refusal => (.registered (.error refusal), t)
  | .contains e => (.flag (t.contains e), t)
  | .decode e payload => (.decoded (t.decode e payload), t)

/-- The answers to calls that are made one after the other. -/
def answers (t : CodecTable) : List Call → List Answer
  | [] => []
  | call :: rest => (call.run t).1 :: answers (call.run t).2 rest

/-- The table after a number of calls. -/
def after (t : CodecTable) (calls : List Call) : CodecTable :=
  calls.foldl (fun t call => (call.run t).2) t

/-! ## First registrations -/

/-- The decoder that a call tries to register for an encoding. -/
def Call.offered? (e : Encoding) : Call → Option Decoder
  | .register e' d => if e' = e then some d else none
  | .contains _ | .decode .. => none

/-- The decoder that was in place for an encoding in the beginning, or else the first one that
calls have tried to register. -/
def first? (t : CodecTable) (calls : List Call) (e : Encoding) : Option Decoder :=
  (t.decoders.find? e).or (calls.findSome? (·.offered? e))

/-- What a call gives back if these decoders are in place. -/
def Call.answerBy (inPlace : Encoding → Option Decoder) : Call → Answer
  | .register e _ =>
    .registered (if (inPlace e).isSome then .error (.registrationConflict e) else .ok ())
  | .contains e => .flag (inPlace e).isSome
  | .decode e payload =>
    .decoded <|
      match inPlace e with
      | none => .error (.unknownEncoding e)
      | some d => d payload

/-! ## One call -/

private theorem register_eq (t : CodecTable) (e : Encoding) (d : Decoder) :
    t.register e d =
      if (t.decoders.find? e).isSome then .error (.registrationConflict e)
      else .ok ⟨t.decoders.insert e d⟩ := by
  rw [register, contains, SortedMap.contains_eq_isSome]

/-- A call goes by the decoders that are in place. -/
private theorem Call.run_answer (t : CodecTable) (call : Call) :
    (call.run t).1 = call.answerBy t.decoders.find? := by
  cases call with
  | register e d =>
    rw [run, register_eq, answerBy]
    cases (t.decoders.find? e).isSome <;> rfl
  | contains e => rw [run, answerBy, CodecTable.contains, SortedMap.contains_eq_isSome]
  | decode e payload => rfl

/-- A decoder is taken only where there is none. -/
private theorem Call.find?_run (t : CodecTable) (call : Call) (e : Encoding) :
    (call.run t).2.decoders.find? e = (t.decoders.find? e).or (call.offered? e) := by
  -- only a registration can add a decoder
  cases call with
  | contains | decode => exact (Option.or_none).symm
  | register e' d =>
    rw [run, register_eq, offered?]
    cases hfind : t.decoders.find? e' with
    | some d' =>
      by_cases he : e' = e
      · simp [← he, hfind]
      · simp [he]
    | none =>
      by_cases he : e' = e
      · simp [← he, hfind, SortedMap.find?_insert]
      · simp [he, Ne.symm he, SortedMap.find?_insert]

/-- A call that is refused leaves the table as it is. -/
private theorem Call.run_of_refused {t : CodecTable} {call : Call} {refusal : Error}
    (h : (call.run t).1 = .registered (.error refusal)) : (call.run t).2 = t := by
  cases call with
  | contains | decode => rfl
  | register e d =>
    rw [run] at h ⊢
    cases hregister : t.register e d with
    | error refusal' => rfl
    | ok t' =>
      rw [hregister] at h
      cases h

/-! ## Any number of calls -/

private theorem first?_cons (t : CodecTable) (call : Call) (calls : List Call) :
    t.first? (call :: calls) = (call.run t).2.first? calls := by
  funext e
  rw [first?, first?, Call.find?_run, Option.or_assoc, List.findSome?_cons]
  cases call.offered? e <;> rfl

/-- The decoder that is in place is the one that came first. -/
theorem find?_after (t : CodecTable) (calls : List Call) :
    (t.after calls).decoders.find? = t.first? calls := by
  induction calls generalizing t with
  | nil =>
    funext e
    exact (Option.or_none).symm
  | cons call rest ih => rw [first?_cons, ← ih]; rfl

private theorem answers_eq (t : CodecTable) (calls : List Call) :
    t.answers calls = calls.mapIdx fun i call => call.answerBy (t.first? (calls.take i)) := by
  induction calls generalizing t with
  | nil => rfl
  | cons call rest ih =>
    rw [answers, ih, List.mapIdx_cons, Call.run_answer, ← find?_after t ((call :: rest).take 0)]
    simp only [List.take_succ_cons, first?_cons]
    rfl

/-- Without a call that is refused the others are answered in the same way. -/
private theorem answers_eraseIdx {t : CodecTable} {calls : List Call} {i : Nat} {refusal : Error}
    (h : (t.answers calls)[i]? = some (.registered (.error refusal))) :
    t.answers (calls.eraseIdx i) = (t.answers calls).eraseIdx i := by
  induction calls generalizing t i with
  | nil => cases h
  | cons call rest ih =>
    rw [answers] at h ⊢
    cases i with
    | zero =>
      have hrefused : (call.run t).1 = .registered (.error refusal) := Option.some.inj h
      rw [List.eraseIdx_cons_zero, List.eraseIdx_cons_zero, Call.run_of_refused hrefused]
    | succ i => rw [List.eraseIdx_cons_succ, List.eraseIdx_cons_succ, answers, ih h]

/-- Whatever a table had in the beginning, and whatever decoders are registered and used in which
order: each call goes by the decoders that came first, and without a call that is refused all
others are answered in the same way. -/
theorem answers_of_first (t : CodecTable) (calls : List Call) :
    t.answers calls =
        calls.mapIdx (fun i call => call.answerBy (t.first? (calls.take i))) ∧
      ∀ i refusal, (t.answers calls)[i]? = some (.registered (.error refusal)) →
        t.answers (calls.eraseIdx i) = (t.answers calls).eraseIdx i :=
  ⟨t.answers_eq calls, fun _ _ => answers_eraseIdx⟩

/-- Calls with a decoder for a built-in encoding, and two decoders for another one. -/
def contestedCalls : List Call :=
  [.register .string .size, .decode 0x20 [1, 2], .register 0x20 (.reversed 0x20),
    .register 0x20 .refusing, .decode .string [104, 105], .decode 0x20 [1, 2]]

/-- Two registrations are refused, and one of them can be left out. -/
theorem answers_of_contestedCalls :
    builtIn.answers contestedCalls =
        [.registered (.error (.registrationConflict Encoding.string)),
          .decoded (.error (.unknownEncoding 0x20)), .registered (.ok ()),
          .registered (.error (.registrationConflict 0x20)),
          .decoded (.ok (.string "hi")), .decoded (.ok (.custom 0x20 [2, 1]))] ∧
      (builtIn.answers contestedCalls)[3]? =
        some (.registered (.error (.registrationConflict 0x20))) ∧
      builtIn.answers (contestedCalls.eraseIdx 3) =
        (builtIn.answers contestedCalls).eraseIdx 3 := by
  have hrefused : (builtIn.answers contestedCalls)[3]? =
      some (.registered (.error (.registrationConflict 0x20))) := rfl
  exact ⟨rfl, hrefused, (answers_of_first builtIn contestedCalls).2 3 _ hrefused⟩

end PathSpace.CodecTable
