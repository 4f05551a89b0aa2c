import PathSpace.Unicode.Property
import PathSpace.Unicode.Recent
/-! # Classes of characters

What a character is, as texts and expressions ask for it.  ASCII is told at once; the rest is
looked up in tables.
-/

namespace PathSpace.Text

open Unicode

/-- Whether a character is alphabetic. -/
def isAlphabetic (c : Char) : Bool :=
  if c.toNat < 128 then c.isAlpha else alphabetic.contains c || recentAlphabetic.contains c

/-- Whether a character is alphabetic or a number. -/
def isAlphanumeric (c : Char) : Bool :=
  if c.toNat < 128 then c.isAlphanum
  else isAlphabetic c || numbers.contains c || recentNumbers.contains c

/-- Whether a character has a case. -/
def isCased (c : Char) : Bool :=
  if c.toNat < 128 then c.isAlpha
  else (cased.contains c && !formerlyCased.contains c) || recentCased.contains c

/-- Whether a character is passed over when the case of a neighbour is looked for: marks, and
punctuation that stands inside words. -/
def isCaseIgnorable (c : Char) : Bool :=
  if c.toNat < 128 then ['\'', '.', ':', '^', '\x60'].contains c
  else caseIgnorable.contains c || recentCaseIgnorable.contains c

/-- The decimal digits. -/
def digits : CharSet := category ["nd"]

/-- The characters of words: letters, marks, digits and what connects them. -/
def wordChars : CharSet :=
  ((alphabetic.union marks).union (category ["nd", "pc"])).union (.range 0x200c 0x200d)

/-- Whether a character of ASCII may stand in a word. -/
def isAsciiWordChar (c : Char) : Bool := c.isAlphanum || c == '_'

/-- Whether a character may stand in a word. -/
def isWordChar (c : Char) : Bool :=
  if c.toNat < 128 then isAsciiWordChar c else wordChars.contains c

example : isWordChar '_' = true ∧ isWordChar '-' = false := by decide

end PathSpace.Text
