import PathSpace.Unicode.Property
/-! # Boundaries in text

Three properties classify characters for finding the boundaries between what a reader takes
for one character (`graphemeBreaks`), between words (`wordBreaks`) and between sentences
(`sentenceBreaks`).  Characters of no class are left out.
-/

namespace PathSpace.Unicode

/-- The characters that continue what is before them. -/
def extending : CharSet := graphemeExtend.union (.range 0x1f3fb 0x1f3ff)

/-- The syllables of two letters, which are the first of every twenty-eight syllables. -/
def openSyllables : CharSet :=
  .ofRanges ((List.range 399).map fun k => (0xac00 + 28 * k, 0xac00 + 28 * k))

/-- Spacing marks that stand for themselves. -/
def freeMarks : CharSet := .ofTable
  "102B-102C 1038 1062-1064 1067-106D 1083 1087-108C 108F 109A-109C 1A61 1A63-1A64 AA7B AA7D
  11720-11721"

/-- The classes of `Grapheme_Cluster_Break`. -/
def graphemeBreaks : List NamedSet := [
  ⟨["cr"], .range 0xd 0xd⟩,
  ⟨["lf"], .range 0xa 0xa⟩,
  ⟨["cn", "control"],
    ((((category ["zl", "zp", "cc", "cf"]).union (unassigned.inter defaultIgnorable)).diff
      graphemeExtend).diff prependedMarks).diff (.ofTable "A D 200C-200D")⟩,
  ⟨["ex", "extend"], extending⟩,
  ⟨["zwj"], .range 0x200d 0x200d⟩,
  ⟨["sm", "spacingmark"],
    (((category ["mc"]).diff extending).diff freeMarks).union (.ofTable "E33 EB3")⟩,
  ⟨["pp", "prepend"], .ofTable
    "600-605 6DD 70F 890-891 8E2 D4E 110BD 110CD 111C2-111C3 113D1 1193F 11941 11A3A 11A84-11A89
    11D46 11F02"⟩,
  ⟨["ri", "regionalindicator"], .ofTable
    "1F1E6-1F1FF"⟩,
  ⟨["l"], .ofTable
    "1100-115F A960-A97C"⟩,
  ⟨["v"], .ofTable
    "1160-11A7 D7B0-D7C6 16D63 16D67-16D6A"⟩,
  ⟨["t"], .ofTable
    "11A8-11FF D7CB-D7FB"⟩,
  ⟨["lv"], openSyllables⟩,
  ⟨["lvt"], (CharSet.range 0xac00 0xd7a3).diff openSyllables⟩]

/-- The characters that continue a word or a sentence. -/
def wordExtending : CharSet := extending.union (category ["mc"])

/-- Letters of scripts that are written without blanks between words. -/
def unspaced : CharSet := .ofTable
  "E01-E30 E32-E33 E40-E46 E81-E82 E84 E86-E8A E8C-EA3 EA5 EA7-EB0 EB2-EB3 EBD EC0-EC4 EC6 EDC-EDF
  1000-102A 103F 1050-1055 105A-105D 1061 1065-1066 106E-1070 1075-1081 108E 1780-17B3 17D7 17DC
  1950-196D 1970-1974 1980-19AB 19B0-19C9 1A20-1A54 1AA7 3041-3096 309D-309F A9E0-A9E4 A9E6-A9EF
  A9FA-A9FE AA60-AA76 AA7A AA7E-AAAF AAB1 AAB5-AAB6 AAB9-AABD AAC0 AAC2 AADB-AADD 11700-1171A
  11740-11746 1B001-1B11F 1B132 1B150-1B152"

/-- Letters of `Word_Break` that are not alphabetic. -/
def moreLetters : CharSet := .ofTable
  "2C2-2C5 2D2-2D7 2DE-2DF 2E5-2EB 2ED 2EF-2FF 55A-55C 55E 58A 5F3 A708-A716 A720-A721 A789-A78A
  AB5B"

/-- The class `Katakana`. -/
def katakana : CharSet := .ofTable
  "3031-3035 309B-309C 30A0-30FA 30FC-30FF 31F0-31FF 32D0-32FE 3300-3357 FF66-FF9D 1AFF0-1AFF3
  1AFF5-1AFFB 1AFFD-1AFFE 1B000 1B120-1B122 1B155 1B164-1B167"

/-- The class `Hebrew_Letter`. -/
def hebrewLetters : CharSet := .ofTable
  "5D0-5EA 5EF-5F2 FB1D FB1F-FB28 FB2A-FB36 FB38-FB3C FB3E FB40-FB41 FB43-FB44 FB46-FB4F"

/-- The class `Numeric`. -/
def numeric : CharSet := (category ["nd"]).union (.single '\u066b')

/-- The classes of `Word_Break`. -/
def wordBreaks : List NamedSet := [
  ⟨["le", "aletter"],
    (((((alphabetic.diff wordExtending).diff
      ((NamedSet.find? properties "ideographic").getD .empty)).diff katakana).diff
        hebrewLetters).diff (numeric.union unspaced)).union moreLetters⟩,
  ⟨["cr"], .range 0xd 0xd⟩,
  ⟨["lf"], .range 0xa 0xa⟩,
  ⟨["extend"], wordExtending⟩,
  ⟨["fo", "format"],
    (category ["cf"]).diff (.ofTable "200B-200D E0020-E007F")⟩,
  ⟨["hl", "hebrewletter"], hebrewLetters⟩,
  ⟨["ka", "katakana"], katakana⟩,
  ⟨["nu", "numeric"], numeric⟩,
  ⟨["zwj"], .range 0x200d 0x200d⟩,
  ⟨["dq", "doublequote"], .ofTable
    "22"⟩,
  ⟨["ex", "extendnumlet"], .ofTable
    "5F 202F 203F-2040 2054 FE33-FE34 FE4D-FE4F FF3F"⟩,
  ⟨["ml", "midletter"], .ofTable
    "3A B7 387 55F 5F4 2027 FE13 FE55 FF1A"⟩,
  ⟨["mn", "midnum"], .ofTable
    "2C 3B 37E 589 60C-60D 66C 7F8 2044 FE10 FE14 FE50 FE54 FF0C FF1B"⟩,
  ⟨["mb", "midnumlet"], .ofTable
    "2E 2018-2019 2024 FE52 FF07 FF0E"⟩,
  ⟨["nl", "newline"], .ofTable
    "B-C 85 2028-2029"⟩,
  ⟨["ri", "regionalindicator"], .ofTable
    "1F1E6-1F1FF"⟩,
  ⟨["sq", "singlequote"], .ofTable
    "27"⟩,
  ⟨["wsegspace"], .ofTable
    "20 1680 2000-2006 2008-200A 205F 3000"⟩]

/-- The letters that begin no new sentence. -/
def sentenceLower : CharSet :=
  (lowercase.diff wordExtending).diff (.ofTable "10D0-10FA 10FD-10FF")

/-- The letters that may begin a new sentence. -/
def sentenceUpper : CharSet :=
  (uppercase.union (category ["lt"])).diff (.ofTable "1C90-1CBA 1CBD-1CBF")

/-- The class `ATerm`. -/
def fullStops : CharSet := .ofTable
  "2E 2024 FE52 FF0E"

/-- The classes of `Sentence_Break`. -/
def sentenceBreaks : List NamedSet := [
  ⟨["at", "aterm"], fullStops⟩,
  ⟨["st", "sterm"], ((NamedSet.find? properties "sentenceterminal").getD .empty).diff fullStops⟩,
  ⟨["cr"], .range 0xd 0xd⟩,
  ⟨["lf"], .range 0xa 0xa⟩,
  ⟨["ex", "extend"], (graphemeExtend.union (category ["mc"])).union (.range 0x200d 0x200d)⟩,
  ⟨["fo", "format"], (category ["cf"]).diff (.ofTable "200C-200D E0020-E007F")⟩,
  ⟨["lo", "lower"], sentenceLower⟩,
  ⟨["up", "upper"], sentenceUpper⟩,
  ⟨["le", "oletter"],
    (((alphabetic.union (.single '\u05f3')).diff wordExtending).diff sentenceLower).diff
      sentenceUpper⟩,
  ⟨["nu", "numeric"], (category ["nd"]).union (.range 0x66b 0x66c)⟩,
  ⟨["cl", "close"], .ofTable
    "22 27-29 5B 5D 7B 7D AB BB F3A-F3D 169B-169C 2018-201F 2039-203A 2045-2046 207D-207E 208D-208E
    2308-230B 2329-232A 275B-2760 2768-2775 27C5-27C6 27E6-27EF 2983-2998 29D8-29DB 29FC-29FD
    2E00-2E0D 2E1C-2E1D 2E20-2E29 2E42 2E55-2E5C 3008-3011 3014-301B 301D-301F FD3E-FD3F FE17-FE18
    FE35-FE44 FE47-FE48 FE59-FE5E FF08-FF09 FF3B FF3D FF5B FF5D FF5F-FF60 FF62-FF63 1F676-1F678"⟩,
  ⟨["sc", "scontinue"], .ofTable
    "2C-2D 3A-3B 37E 55D 60C-60D 7F8 1802 1808 2013-2014 3001 FE10-FE11 FE13-FE14 FE31-FE32
    FE50-FE51 FE54-FE55 FE58 FE63 FF0C-FF0D FF1A-FF1B FF64"⟩,
  ⟨["se", "sep"], .ofTable
    "85 2028-2029"⟩,
  ⟨["sp"], .ofTable
    "9 B-C 20 A0 1680 2000-200A 202F 205F 3000"⟩]

end PathSpace.Unicode
