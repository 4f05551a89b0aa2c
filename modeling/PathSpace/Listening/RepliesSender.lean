import PathSpace.Datum.Sample
/-! # Answering once

Whoever is asked gets a `RepliesSender`.  The first use of it answers; whatever is done
with it later has no effect.  A sender that is dropped unused answers with nothing, so
whoever asked always hears an answer.
-/

namespace PathSpace

/-- A one-time answer. -/
structure RepliesSender where
  /-- Whether the answer is still to come. -/
  armed : Bool := true
  /-- The answers that were heard. -/
  calls : List (List Sample) := []

namespace RepliesSender

/-- Whether nothing has been answered yet. -/
def unsent (s : RepliesSender) : Bool := s.calls.isEmpty

/-- Answers, unless that was done before. -/
def send (s : RepliesSender) (replies : List Sample) : RepliesSender :=
  if s.armed then ⟨false, s.calls ++ [replies]⟩ else s

/-- Gives the sender up. -/
def drop (s : RepliesSender) : RepliesSender := s.send []

/-- All replies that were heard. -/
def replies (s : RepliesSender) : List Sample := s.calls.flatten

end RepliesSender

end PathSpace
