import PathSpace.Unicode.Script
/-! # Script extensions

A character of the scripts `Common` or `Inherited` may be used with a few scripts only.  The
extension of a script has its own characters and those that it borrows; `Common` and
`Inherited` keep the characters that no script borrows.
-/

namespace PathSpace.Unicode

/-- The characters that a script uses besides its own. -/
def borrowed : List (String × CharSet) := [
  ("adlm", .ofTable
    "61F 640 204F 2E41"),
  ("arab", .ofTable
    "60C 61B 61F 640 64B-655 670 204F 2E41 FD3E-FD3F 102E0-102FB"),
  ("armn", .ofTable
    "308"),
  ("avst", .ofTable
    "B7 2E30-2E31"),
  ("beng", .ofTable
    "2BC 951-952 964-965 1CD0 1CD2 1CD5-1CD6 1CD8 1CE1 1CEA 1CED 1CF2 1CF5-1CF7 A8F1"),
  ("bopo", .ofTable
    "2C7 2C9-2CB 2D9 3001-3003 3008-3011 3013-301F 302A-302D 3030 3037 30FB FE45-FE46 FF61-FF65"),
  ("bugi", .ofTable
    "A9CF"),
  ("buhd", .ofTable
    "1735-1736"),
  ("cari", .ofTable
    "B7 205A 205D 2E31"),
  ("aghb", .ofTable
    "304 331 35E"),
  ("cakm", .ofTable
    "9E6-9EF 1040-1049"),
  ("cher", .ofTable
    "300-302 304 30B-30C 323-324 330-331"),
  ("copt", .ofTable
    "B7 300 304-305 307 374-375 2E17 102E0-102FB"),
  ("cprt", .ofTable
    "10100-10102 10107-10133 10137-1013F"),
  ("cpmn", .ofTable
    "10100-10101"),
  ("cyrl", .ofTable
    "2BC 300-302 304:308 30B 311 485-486 1DF8 2E43"),
  ("deva", .ofTable
    "2BC 951-952 964-965 1CD0-1CF6 1CF8-1CF9 20F0 A830-A839"),
  ("dogr", .ofTable
    "964-96F A830-A839"),
  ("dupl", .ofTable
    "B7 307-308 30A 323-324 2E3C 1BCA0-1BCA3"),
  ("elba", .ofTable
    "B7 305"),
  ("ethi", .ofTable
    "30E"),
  ("gara", .ofTable
    "60C 61B 61F"),
  ("geor", .ofTable
    "B7 589 10FB 205A 2E31"),
  ("glag", .ofTable
    "B7 303 305 484 487 589 10FB 205A 2E43 A66F"),
  ("goth", .ofTable
    "B7 304-305 308 331"),
  ("gran", .ofTable
    "951-952 964-965 BE6-BF3 1CD0 1CD2-1CD3 1CF2-1CF4 1CF8-1CF9 20F0 1133B 11FD0-11FD1 11FD3"),
  ("grek", .ofTable
    "B7 300-301 304:308 313 342 345 374 1DC0-1DC1 205D"),
  ("gujr", .ofTable
    "951-952 964-965 A830-A839"),
  ("gong", .ofTable
    "B7 964-965"),
  ("guru", .ofTable
    "951-952 964-965 A830-A839"),
  ("gukh", .ofTable
    "965"),
  ("hani", .ofTable
    "B7 2FF0-2FFF 3001-3003 3006 3008-3011 3013-301F 302A-302D 3030 3037 303C-303F 30FB 3190-319F
    31C0-31E5 31EF 3220-3247 3280-32B0 32C0-32CB 32FF 3358-3370 337B-337F 33E0-33FE A700-A707
    FE45-FE46 FF61-FF65 1D360-1D371 1F250-1F251"),
  ("hang", .ofTable
    "3001-3003 3008-3011 3013-301F 3030 3037 30FB FE45-FE46 FF61-FF65"),
  ("rohg", .ofTable
    "60C 61B 61F 640 6D4"),
  ("hano", .ofTable
    "1735-1736"),
  ("hebr", .ofTable
    "307-308"),
  ("hira", .ofTable
    "3001-3003 3008-3011 3013-301F 3030-3035 3037 303C-303D 3099-309C 30A0 30FB-30FC FE45-FE46
    FF61-FF65 FF70 FF9E-FF9F"),
  ("java", .ofTable
    "A9CF"),
  ("kthi", .ofTable
    "966-96F 2E31 A830-A839"),
  ("knda", .ofTable
    "951-952 964-965 1CD0 1CD2-1CD3 1CDA 1CF2 1CF4 A830-A835"),
  ("kana", .ofTable
    "305 323 3001-3003 3008-3011 3013-301F 3030-3035 3037 303C-303D 3099-309C 30A0 30FB-30FC
    FE45-FE46 FF61-FF65 FF70 FF9E-FF9F"),
  ("kali", .ofTable
    "A92E"),
  ("khoj", .ofTable
    "AE6-AEF A830-A839"),
  ("sind", .ofTable
    "964-965 A830-A839"),
  ("latn", .ofTable
    "B7 2BC 2C7 2C9-2CB 2CD 2D7 2D9 300-30E 310-311 313 323-325 32D-32E 330-331 358 35E 363-36F
    485-486 951-952 10FB 1DF8 202F 20F0 2E17 A700-A707 A92E"),
  ("limb", .ofTable
    "965"),
  ("lina", .ofTable
    "10107-10133"),
  ("linb", .ofTable
    "10100-10102 10107-10133 10137-1013F"),
  ("lisu", .ofTable
    "2BC 2CD 300A-300B"),
  ("lyci", .ofTable
    "205A"),
  ("lydi", .ofTable
    "B7 2E31"),
  ("mahj", .ofTable
    "B7 964-96F A830-A839"),
  ("mlym", .ofTable
    "951-952 964-965 1CDA 1CF2 A830-A832"),
  ("mand", .ofTable
    "640"),
  ("mani", .ofTable
    "640"),
  ("gonm", .ofTable
    "964-965"),
  ("mero", .ofTable
    "205D"),
  ("modi", .ofTable
    "A830-A839"),
  ("mong", .ofTable
    "1802-1803 1805 202F 3001-3002 3008-300B"),
  ("mult", .ofTable
    "A66-A6F"),
  ("mymr", .ofTable
    "A92E"),
  ("nand", .ofTable
    "951 964-965 CE6-CEF 1CE9 1CF2 1CFA A830-A835"),
  ("newa", .ofTable
    "951-952 1CD5 1CD7-1CD8 1CE2 1CE9:1CED"),
  ("nkoo", .ofTable
    "60C 61B 61F FD3E-FD3F"),
  ("onao", .ofTable
    "964-965"),
  ("hung", .ofTable
    "205A 205D 2E31 2E41"),
  ("perm", .ofTable
    "B7 300 306-308 313 483"),
  ("orkh", .ofTable
    "205A 2E30"),
  ("ougr", .ofTable
    "640 10AF2"),
  ("orya", .ofTable
    "951-952 964-965 1CDA 1CF2"),
  ("osge", .ofTable
    "301 304 30B 358"),
  ("phag", .ofTable
    "1802-1803 1805 202F 3002"),
  ("phlp", .ofTable
    "640"),
  ("runr", .ofTable
    "16EB-16ED"),
  ("samr", .ofTable
    "2E31"),
  ("shrd", .ofTable
    "951 1CD7 1CD9 1CDC-1CDD 1CE0 1CEA 1CED A830-A835 A838"),
  ("shaw", .ofTable
    "B7"),
  ("sinh", .ofTable
    "964-965 1CF2"),
  ("sogd", .ofTable
    "640"),
  ("sunu", .ofTable
    "300-301 303 30D 310 32D 331"),
  ("sylo", .ofTable
    "964-965 9E6-9EF"),
  ("syrc", .ofTable
    "303-304 307-308 30A 323-325 32D-32E 330-331 60C 61B-61C 61F 640 64B-655 670 1DF8 1DFA"),
  ("tglg", .ofTable
    "1735-1736"),
  ("tagb", .ofTable
    "1735-1736"),
  ("tale", .ofTable
    "300-301 307-308 30C 1040-1049"),
  ("takr", .ofTable
    "964-965 A830-A839"),
  ("taml", .ofTable
    "951-952 964-965 1CDA A8F3 11301 11303 1133B-1133C"),
  ("tang", .ofTable
    "2FF0-2FFF 31EF"),
  ("telu", .ofTable
    "951-952 964-965 1CD5-1CD6 1CD8 1CDA 1CF2"),
  ("thaa", .ofTable
    "60C 61B-61C 61F 660-669 FDF2 FDFD"),
  ("thai", .ofTable
    "2BC 2D7 303 331"),
  ("tibt", .ofTable
    "3008-300B"),
  ("tfng", .ofTable
    "302 304 306-309 323"),
  ("tirh", .ofTable
    "951-952 964-965 1CD5 1CE2 1CF2 A830-A839"),
  ("todr", .ofTable
    "301 304 307 311 313 35E"),
  ("toto", .ofTable
    "2BC"),
  ("tutg", .ofTable
    "CE6-CEF 1CF2 1CF4 A830-A835 A8F1"),
  ("yezi", .ofTable
    "60C 61B 61F 660-669"),
  ("yiii", .ofTable
    "3001-3002 3008-3011 3014-301B 30FB FF61-FF65")]

/-- All characters that some script borrows. -/
def allBorrowed : CharSet := .unions (borrowed.map (·.2))

/-- The characters that are used with each script. -/
def scriptExtensions : List NamedSet :=
  scripts.map fun s =>
    let own :=
      if s.names.contains "common" || s.names.contains "inherited" then s.members.diff allBorrowed
      else s.members
    { s with members := own.union (.unions ((borrowed.filter (s.names.contains ·.1)).map (·.2))) }

end PathSpace.Unicode
