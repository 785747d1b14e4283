import RecordQuery.Unicode.Property

/-!
# Newer characters

Patterns know the characters of version 16 of the standard.  What is done to texts and what may
stand in the name of a group follow version 17: the tables here say what it added to the
properties that are needed for that.
-/

namespace RecordQuery.Unicode.Newer

/-- Characters that have a case.  One that was counted among them is no longer. -/
def cased : CodePointSet :=
  (Unicode.cased.diff (.singleton 0x295)).union (.ofText
    "A7CE-A7CF A7D2 A7D4 A7F1 16EA0-16EB8 16EBB-16ED3")

/-- Characters that are passed over when the case of the text around them is asked for. -/
def caseIgnorable : CodePointSet := Unicode.caseIgnorable.union (.ofText
  "1ACF-1ADD 1AE0-1AEB A7F1 10EC5 10EFA-10EFB 11B60 11B62-11B64 11B66 11DD9 16FF2-16FF3 1E6E3
    1E6E6 1E6EE-1E6EF 1E6F5 1E6FF")

/-- Alphabetic characters. -/
def alphabetic : CodePointSet := Unicode.alphabetic.union (.ofText
  "88F C5C CDC A7CE-A7CF A7D2 A7D4 A7F1 10940-10959 10EC5-10EC7 10EFA-10EFB 11B60-11B67
    11DB0-11DDB 16EA0-16EB8 16EBB-16ED3 16FF2-16FF6 187F8-187FF 18D09-18D1E 18D80-18DF2
    1E6C0-1E6DE 1E6E0-1E6F5 1E6FE-1E6FF 2B73A-2B73F 2CEA2-2CEAD 323B0-33479")

/-- Numbers. -/
def number : CodePointSet := Unicode.number.union (.ofText "11DE0-11DE9 16FF4-16FF6")

/-- Characters that extend the one before them. -/
def graphemeExtend : CodePointSet := Unicode.graphemeExtend.union (.ofText
  "1ACF-1ADD 1AE0-1AEB 10EFA-10EFB 11B60 11B62-11B64 11B66 1E6E3 1E6E6 1E6EE-1E6EF 1E6F5")

end RecordQuery.Unicode.Newer
