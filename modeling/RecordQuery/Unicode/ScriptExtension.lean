import RecordQuery.Unicode.Script

/-!
# Script extensions

Some code points are used with several scripts.  `scriptAdditions` lists, under the first name of
a script, the code points that are used with it although their own script is another one.  What
is listed under any script counts as neither common nor inherited any more.
-/

namespace RecordQuery.Unicode

/-- Further code points of scripts. -/
def scriptAdditions : List (String × CodePointSet) :=
  [("adlm", .ofText "61F 640 204F 2E41"),
    ("aghb", .ofText "304 331 35E"),
    ("arab", .ofText "60C 61B 61F 640 64B-655 670 204F 2E41 FD3E-FD3F 102E0-102FB"),
    ("armn", .ofText "308"),
    ("avst", .ofText "B7 2E30-2E31"),
    ("beng", .ofText "2BC 951-952 964-965 1CD0 1CD2 1CD5-1CD6 1CD8 1CE1 1CEA 1CED 1CF2 1CF5-1CF7 A8F1"),
    ("bopo", .ofText "2C7 2C9-2CB 2D9 3001-3003 3008-3011 3013-301F 302A-302D 3030 3037 30FB FE45-FE46 FF61-FF65"),
    ("bugi", .ofText "A9CF"),
    ("buhd", .ofText "1735-1736"),
    ("cakm", .ofText "9E6-9EF 1040-1049"),
    ("cari", .ofText "B7 205A 205D 2E31"),
    ("cher", .ofText "300-302 304 30B-30C 323-324 330-331"),
    ("copt", .ofText "B7 300 304-305 307 374-375 2E17 102E0-102FB"),
    ("cpmn", .ofText "10100-10101"),
    ("cprt", .ofText "10100-10102 10107-10133 10137-1013F"),
    ("cyrl", .ofText "2BC 300-302 304-308/2 30B 311 485-486 1DF8 2E43"),
    ("deva", .ofText "2BC 951-952 964-965 1CD0-1CF6 1CF8-1CF9 20F0 A830-A839"),
    ("dogr", .ofText "964-96F A830-A839"),
    ("dupl", .ofText "B7 307-308 30A 323-324 2E3C 1BCA0-1BCA3"),
    ("elba", .ofText "B7 305"),
    ("ethi", .ofText "30E"),
    ("gara", .ofText "60C 61B 61F"),
    ("geor", .ofText "B7 589 10FB 205A 2E31"),
    ("glag", .ofText "B7 303 305 484 487 589 10FB 205A 2E43 A66F"),
    ("gong", .ofText "B7 964-965"),
    ("gonm", .ofText "964-965"),
    ("goth", .ofText "B7 304-305 308 331"),
    ("gran", .ofText "951-952 964-965 BE6-BF3 1CD0 1CD2-1CD3 1CF2-1CF4 1CF8-1CF9 20F0 1133B 11FD0-11FD1 11FD3"),
    ("grek", .ofText "B7 300-301 304-308/2 313 342 345 374 1DC0-1DC1 205D"),
    ("gujr", .ofText "951-952 964-965 A830-A839"),
    ("gukh", .ofText "965"),
    ("guru", .ofText "951-952 964-965 A830-A839"),
    ("hang", .ofText "3001-3003 3008-3011 3013-301F 3030 3037 30FB FE45-FE46 FF61-FF65"),
    ("hani", .ofText "B7 2FF0-2FFF 3001-3003 3006 3008-3011 3013-301F 302A-302D 3030 3037 303C-303F 30FB
      3190-319F 31C0-31E5 31EF 3220-3247 3280-32B0 32C0-32CB 32FF 3358-3370 337B-337F 33E0-33FE
      A700-A707 FE45-FE46 FF61-FF65 1D360-1D371 1F250-1F251"),
    ("hano", .ofText "1735-1736"),
    ("hebr", .ofText "307-308"),
    ("hira", .ofText "3001-3003 3008-3011 3013-301F 3030-3035 3037 303C-303D 3099-309C 30A0 30FB-30FC FE45-FE46
      FF61-FF65 FF70 FF9E-FF9F"),
    ("hung", .ofText "205A 205D 2E31 2E41"),
    ("java", .ofText "A9CF"),
    ("kali", .ofText "A92E"),
    ("kana", .ofText "305 323 3001-3003 3008-3011 3013-301F 3030-3035 3037 303C-303D 3099-309C 30A0 30FB-30FC
      FE45-FE46 FF61-FF65 FF70 FF9E-FF9F"),
    ("khoj", .ofText "AE6-AEF A830-A839"),
    ("knda", .ofText "951-952 964-965 1CD0 1CD2-1CD3 1CDA 1CF2 1CF4 A830-A835"),
    ("kthi", .ofText "966-96F 2E31 A830-A839"),
    ("latn", .ofText "B7 2BC 2C7 2C9-2CB 2CD 2D7 2D9 300-30E 310-311 313 320 323-325 32D-32E 330-331 358 35E
      363-36F 485-486 951-952 10FB 1DF8 202F 20F0 2E17 A700-A707 A92E"),
    ("limb", .ofText "965"),
    ("lina", .ofText "10107-10133"),
    ("linb", .ofText "10100-10102 10107-10133 10137-1013F"),
    ("lisu", .ofText "2BC 2CD 300A-300B"),
    ("lyci", .ofText "205A"),
    ("lydi", .ofText "B7 2E31"),
    ("mahj", .ofText "B7 964-96F A830-A839"),
    ("mand", .ofText "640"),
    ("mani", .ofText "640"),
    ("mero", .ofText "205D"),
    ("mlym", .ofText "951-952 964-965 1CDA 1CF2 A830-A832"),
    ("modi", .ofText "A830-A839"),
    ("mong", .ofText "1802-1803 1805 202F 3001-3002 3008-300B"),
    ("mult", .ofText "A66-A6F"),
    ("mymr", .ofText "A92E"),
    ("nand", .ofText "964-965 CE6-CEF 1CE9 1CF2 1CFA A830-A835"),
    ("nkoo", .ofText "60C 61B 61F FD3E-FD3F"),
    ("onao", .ofText "964-965"),
    ("orkh", .ofText "205A 2E30"),
    ("orya", .ofText "951-952 964-965 1CDA 1CF2"),
    ("osge", .ofText "301 304 30B 358"),
    ("ougr", .ofText "640 10AF2"),
    ("perm", .ofText "B7 300 306-308 313 483"),
    ("phag", .ofText "1802-1803 1805 202F 3002"),
    ("phlp", .ofText "640"),
    ("rohg", .ofText "60C 61B 61F 640 6D4"),
    ("runr", .ofText "16EB-16ED"),
    ("samr", .ofText "2E31"),
    ("shaw", .ofText "B7"),
    ("shrd", .ofText "951 1CD7 1CD9 1CDC-1CDD 1CE0 A830-A835 A838"),
    ("sind", .ofText "964-965 A830-A839"),
    ("sinh", .ofText "964-965 1CF2"),
    ("sogd", .ofText "640"),
    ("sunu", .ofText "300-301 303 30D 310 32D 331"),
    ("sylo", .ofText "964-965 9E6-9EF"),
    ("syrc", .ofText "303-304 307-308 30A 320 323-325 32D-32E 330 60C 61B-61C 61F 640 64B-655 670 1DF8 1DFA"),
    ("tagb", .ofText "1735-1736"),
    ("takr", .ofText "964-965 A830-A839"),
    ("tale", .ofText "300-301 307-308 30C 1040-1049"),
    ("taml", .ofText "951-952 964-965 1CDA A8F3 11301 11303 1133B-1133C"),
    ("tang", .ofText "2FF0-2FFF 31EF"),
    ("telu", .ofText "951-952 964-965 1CDA 1CF2"),
    ("tfng", .ofText "302 304 306-309 323"),
    ("tglg", .ofText "1735-1736"),
    ("thaa", .ofText "60C 61B-61C 61F 660-669 FDF2 FDFD"),
    ("thai", .ofText "2BC 2D7 303 331"),
    ("tibt", .ofText "3008-300B"),
    ("tirh", .ofText "951-952 964-965 1CF2 A830-A839"),
    ("todr", .ofText "301 304 307 311 313 35E"),
    ("toto", .ofText "2BC"),
    ("tutg", .ofText "CE6-CEF 1CF2 1CF4 A830-A835 A8F1"),
    ("yezi", .ofText "60C 61B 61F 660-669"),
    ("yiii", .ofText "3001-3002 3008-3011 3014-301B 30FB FF61-FF65")]

/-- All code points that are used with a script which is not their own. -/
def allScriptAdditions : CodePointSet := .unions (scriptAdditions.map Prod.snd)

/-- The code points that are used with the script of an entry. -/
def withExtensions (names : String) (own : CodePointSet) : CodePointSet :=
  match (names.splitOn " ").head? with
  | some "zyyy" | some "zinh" => own.diff allScriptAdditions
  | some name =>
    match scriptAdditions.find? (fun e => e.1 == name) with
    | some (_, more) => own.union more
    | none => own
  | none => own

/-- The scripts with all code points that are used with them. -/
def scriptExtensions : List (String × CodePointSet) :=
  scripts.map fun e => (e.1, withExtensions e.1 e.2)

end RecordQuery.Unicode
