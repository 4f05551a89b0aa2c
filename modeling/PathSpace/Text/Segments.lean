/-! # Finding pieces of a text

A text is cut at a character by `List.splitOn`, and `List.isPrefixOf?` takes its start off.
`afterFirst` and `cutAround` find a piece anywhere, `cutAt` finds a character.
-/

namespace PathSpace.Text

/-- What is taken from the start of a list while a condition holds meets the condition. -/
theorem of_mem_takeWhile {α : Type} {p : α → Bool} {l : List α} {a : α}
    (h : a ∈ l.takeWhile p) : p a = true :=
  List.all_eq_true.1 List.all_takeWhile a h

/-- The rest of `text` after the leftmost occurrence of `part`. -/
def afterFirst (part : List Char) : List Char → Option (List Char)
  | [] => part.isPrefixOf? []
  | c :: rest =>
    match part.isPrefixOf? (c :: rest) with
    | some tail => some tail
    | none => afterFirst part rest

/-- Whether `part` occurs in `text`. -/
def occursIn (part text : List Char) : Bool := (afterFirst part text).isSome

/-- The text before and after the leftmost occurrence of `part`. -/
def cutAround (part : List Char) : List Char → Option (List Char × List Char)
  | [] => (part.isPrefixOf? []).map ([], ·)
  | c :: rest =>
    match part.isPrefixOf? (c :: rest) with
    | some tail => some ([], tail)
    | none => (cutAround part rest).map fun (a, b) => (c :: a, b)

/-- The text before and after the first occurrence of `sep`. -/
def cutAt (sep : Char) : List Char → Option (List Char × List Char)
  | [] => none
  | c :: rest =>
    if c = sep then some ([], rest) else (cutAt sep rest).map fun (a, b) => (c :: a, b)

end PathSpace.Text
