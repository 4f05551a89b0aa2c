import PathSpace.Text.Segments
/-! # Wildcards in path expressions

An expression is cut at its slashes into segments.  The segment `**` stands for any
number of segments, none included, and inside every other segment each `*` stands for
any text.  Two expressions *meet* if they stand for a common path.

* `Wildcard.globMatches` holds a segment against a text without stars;
* `Wildcard.segmentsMeet` holds two segments against each other;
* `Wildcard.meet` holds two expressions against each other.
-/

namespace PathSpace.Wildcard

/-- A piece of an expression between two slashes. -/
abbrev Segment := List Char

/-- The segment that stands for any number of segments. -/
def anyNumber : Segment := ['*', '*']

/-- The segments of an expression. -/
def segments (expression : String) : List Segment := expression.toList.splitOn '/'

/-! ## One segment against one segment -/

/-- Whether `text` holds the pieces in order and apart, the last of them at its end. -/
def piecesMatch : List (List Char) → List Char → Bool
  | [], text => text.isEmpty
  | [last], text => last.isSuffixOf text
  | piece :: pieces, text =>
    -- the first place leaves the most text to the pieces behind
    match Text.afterFirst piece text with
    | some rest => piecesMatch pieces rest
    | none => false

/-- Whether `text` arises from `pattern` by putting some text in place of each star. -/
def globMatches (pattern text : Segment) : Bool :=
  match pattern.splitOn '*' with
  | [] => false
  | first :: pieces =>
    match first.isPrefixOf? text with
    | some rest => piecesMatch pieces rest
    | none => false

/-- What stands before the first star. -/
def fixedStart (pattern : Segment) : List Char := pattern.takeWhile (· != '*')

/-- What stands behind the last star. -/
def fixedEnd (pattern : Segment) : List Char := (pattern.reverse.takeWhile (· != '*')).reverse

/-- Whether the fixed parts at both ends of two patterns agree as far as both go. -/
def endsAgree (a b : Segment) : Bool :=
  ((fixedStart a).isPrefixOf (fixedStart b) || (fixedStart b).isPrefixOf (fixedStart a)) &&
  ((fixedEnd a).isSuffixOf (fixedEnd b) || (fixedEnd b).isSuffixOf (fixedEnd a))

/-- Whether two segments other than `**` stand for a common text. -/
def segmentsMeet (a b : Segment) : Bool :=
  match a.contains '*', b.contains '*' with
  | false, false => a == b
  | true, false => globMatches a b
  | false, true => globMatches b a
  | true, true => endsAgree a b

/-! ## One list of segments against another

For a fixed list `b`, a row holds one truth value for each suffix of `b`, the whole list
first.  The row of `a` tells which suffixes of `b` meet `a`. -/

/-- The row of the empty list. -/
def emptyRow : List Segment → List Bool
  | [] => [true]
  | y :: ys =>
    let right := emptyRow ys
    (y == anyNumber && right.headD false) :: right

/-- The row of `x :: a`, given the row of `a`. -/
def nextRow (x : Segment) : (b : List Segment) → (row : List Bool) → List Bool
  | [], row => [x == anyNumber && row.headD false]
  | y :: ys, row =>
    let right := nextRow x ys row.tail
    let here :=
      -- a `**` of either list stands for nothing, or for the first segment of the other list too
      if x == anyNumber || y == anyNumber then row.headD false || right.headD false
      else segmentsMeet x y && row.tail.headD false
    here :: right

/-- Whether two lists of segments stand for a common list of texts. -/
def listsMeet (a b : List Segment) : Bool :=
  (a.foldr (fun x row => nextRow x b row) (emptyRow b)).headD false

/-- Whether two expressions stand for a common path. -/
def meet (a b : String) : Bool := listsMeet (segments a) (segments b)

end PathSpace.Wildcard
