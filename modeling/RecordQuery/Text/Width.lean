import RecordQuery.Unicode.Newer

/-!
# Columns

How many columns of a terminal a character takes, each character by itself: none for what is
not shown or is drawn over its neighbour, two for the wide characters of East Asia and for
emoji, one for nearly all others.  The tables are in the state of version 18 of the standard.

* `width` — the columns of a character;
* `columns` — the columns of a text.
-/

namespace RecordQuery.Text

/-- Characters of two columns, among them code points that are kept for further pictographs. -/
def wide : CodePointSet := .ofText
  "1100-115F 17A4 231A-231B 2329-232A 23E9-23EC 23F0 23F3 25FD-25FE 2614-2615 2630-2637
    2648-2653 267F 268A-268F 2693 26A1 26AA-26AB 26BD-26BE 26C4-26C5 26CE 26D4 26EA 26F2-26F3
    26F5 26FA 26FD 2705 270A-270B 2728 274C 274E 2753-2755 2757 2795-2797 27B0 27BF 2B1B-2B1C
    2B50 2B55 2E80-2E99 2E9B-2EF3 2F00-2FD5 2FF0-303E 3041-3096 3099-30FF 3105-312F 3131-318E
    3190-31E5 31EF-321E 3220-3247 3250-A48C A490-A4C6 A960-A97C AC00-D7A3 F900-FAFF FE10-FE19
    FE30-FE52 FE54-FE66 FE68-FE6B FF01-FF60 FFE0-FFE6 16FE0-16FE4 16FF0-16FF6 17000-18CDA
    18CFF-18D20 18D80-18DF2 18E00-19191 191A0-191D2 1AFF0-1AFF3 1AFF5-1AFFB 1AFFD-1AFFE
    1B000-1B128 1B132 1B150-1B152 1B155 1B164-1B168 1B170-1B2FB 1D300-1D356 1D360-1D376 1F004
    1F094-1F09F 1F0AF-1F0B0 1F0C0 1F0CF-1F0D0 1F0F6-1F0FF 1F18E 1F191-1F19A 1F1AE-1F1E5
    1F200-1F320 1F32D-1F335 1F337-1F37C 1F37E-1F393 1F3A0-1F3CA 1F3CF-1F3D3 1F3E0-1F3F0 1F3F4
    1F3F8-1F43E 1F440 1F442-1F4FC 1F4FF-1F53D 1F54B-1F54E 1F550-1F567 1F57A 1F595-1F596 1F5A4
    1F5FB-1F64F 1F680-1F6C5 1F6CC 1F6D0-1F6D2 1F6D5-1F6DF 1F6EB-1F6EF 1F6F4-1F6FF 1F7DA-1F7FF
    1F80C-1F80F 1F848-1F84F 1F85A-1F85F 1F888-1F88F 1F8AE-1F8AF 1F8BC-1F8BF 1F8C2-1F8CF
    1F8D9-1F8FF 1F90C-1F93A 1F93C-1F945 1F947-1F9FF 1FA58-1FA5F 1FA6E-1FAFF 20000-2FFFD
    30000-3FFFD"

/-- Vowels and final consonants that are drawn into the syllable before them, and marks that are
drawn into the character after them. -/
def joined : CodePointSet := .ofText
  "1160-11FF D7B0-D7C6 D7CB-D7FB D4E 111C2-111C3 113D1 1193F 11941 11A3A 11A84-11A89 11D46
    11F02 605 70F 890-891 8E2 A8FA"

/-- The newest marks that extend the character before them. -/
def newestMarks : CodePointSet := .ofText
  "5C9 B53-B54 1AF0 10ECB 10EF0-10EF9 11DF0 1D127-1D128 1D250 1D25B-1D25C 1D25F 1D280-1D281"

/-- Characters that extend the one before them and are drawn in a column of their own. -/
def setApart : CodePointSet := .ofText "2D7F FF9E-FF9F"

/-- Characters of no column. -/
def widthless : CodePointSet := .unions
  [Unicode.defaultIgnorable, Unicode.Newer.graphemeExtend.diff setApart, joined, newestMarks,
    .range 0 0x1F, .range 0x7F 0x9F]

/-- The columns of a character.  A filler of a whole syllable and an abbreviation of three
letters come before the rules. -/
def width (c : Char) : Nat :=
  if c.toNat = 0x115F then 2
  else if c.toNat = 0x17D8 then 3
  else if widthless.has c then 0
  else if wide.has c then 2
  else 1

/-- The columns of a text. -/
def columns (cs : List Char) : Nat := cs.foldr (fun c rest => width c + rest) 0

end RecordQuery.Text
