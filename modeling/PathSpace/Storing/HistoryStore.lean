import PathSpace.Address.Wildcard
import PathSpace.Datum.Sample
/-! # A storage that forgets nothing -/

namespace PathSpace

/-- All samples in the order of their arrival. -/
structure HistoryStore where
  samples : List Sample := []

namespace HistoryStore

/-- Takes a sample in. -/
def store (h : HistoryStore) (sample : Sample) : HistoryStore := ⟨h.samples ++ [sample]⟩

/-- The samples whose paths an expression stands for. -/
def answer (h : HistoryStore) (expression : String) : List Sample :=
  h.samples.filter fun s => Wildcard.meet expression s.path

end HistoryStore

end PathSpace
