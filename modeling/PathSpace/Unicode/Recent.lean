import PathSpace.Text.CharSet
/-! # Recent characters

The tables of properties have the characters of version 16.0.  The sets here have what
version 17.0 adds to some of them, for the functions on texts, which know it.
-/

namespace PathSpace.Unicode

/-- New characters that are alphabetic. -/
def recentAlphabetic : CharSet := .ofTable
  "88F C5C CDC A7CE-A7CF A7D2 A7D4 A7F1 10940-10959 10EC5-10EC7 10EFA-10EFB 11B60-11B67
  11DB0-11DDB 16EA0-16EB8 16EBB-16ED3 16FF2-16FF6 187F8-187FF 18D09-18D1E 18D80-18DF2
  1E6C0-1E6DE 1E6E0-1E6F5 1E6FE-1E6FF 2B73A-2B73F 2CEA2-2CEAD 323B0-33479"

/-- New characters that are numbers. -/
def recentNumbers : CharSet := .ofTable "11DE0-11DE9"

/-- New characters that have a case. -/
def recentCased : CharSet := .ofTable "A7CE-A7CF A7D2 A7D4 A7F1 16EA0-16EB8 16EBB-16ED3"

/-- The characters that no longer have a case. -/
def formerlyCased : CharSet := .ofTable "295"

/-- New characters that are passed over when the case of a neighbour is looked for. -/
def recentCaseIgnorable : CharSet := .ofTable
  "1ACF-1ADD 1AE0-1AEB A7F1 10EC5 10EFA-10EFB 11B60 11B62-11B64 11B66 11DD9 16FF2-16FF3 1E6E3
  1E6E6 1E6EE-1E6EF 1E6F5 1E6FF"

end PathSpace.Unicode
