import Telemetry.Unicode.Property

/-!
# Characters of the latest version

Property queries are answered from version 16 of the Unicode Character Database. The names of groups
and the display of texts go by version 17, which assigned more characters and left the properties
used here of all others as they were.
-/

namespace Telemetry.Unicode

/-- Alphabetic characters that version 17 added. -/
def addedAlphabetic : CodePoints := .ofTable
  "88F C5C CDC A7CE..A7CF A7D2 A7D4 A7F1 10940..10959 10EC5..10EC7 10EFA..10EFB 11B60..11B67
    11DB0..11DDB 16EA0..16EB8 16EBB..16ED3 16FF2..16FF6 187F8..187FF 18D09..18D1E 18D80..18DF2
    1E6C0..1E6DE 1E6E0..1E6F5 1E6FE..1E6FF 2B73A..2B73F 2CEA2..2CEAD 323B0..33479"

/-- Numbers that version 17 added. -/
def addedNumbers : CodePoints := .ofTable "11DE0..11DE9 16FF4..16FF6"

/-- Characters that version 17 added and that can be seen by themselves. -/
def addedVisible : CodePoints := .ofTable
  "88F C5C CDC 20C1 2B96 A7CE..A7CF A7D2 A7D4 A7F1 FBC3..FBD2 FD90..FD91 FDC8..FDCE 10940..10959
    10EC5..10EC7 10ED0..10ED8 11B61 11B65 11B67 11DB0..11DDB 11DE0..11DE9 16EA0..16EB8
    16EBB..16ED3 16FF2..16FF6 187F8..187FF 18D09..18D1E 18D80..18DF2 1CCFA..1CCFC 1CEBA..1CED0
    1CEE0..1CEF0 1E6C0..1E6DE 1E6E0..1E6E2 1E6E4..1E6E5 1E6E7..1E6ED 1E6F0..1E6F4 1E6FE..1E6FF
    1F6D8 1F777..1F77A 1F8D0..1F8D8 1FA54..1FA57 1FA8A 1FA8E 1FAC8 1FACD 1FAEA 1FAEF 1FBFA
    2B73A..2B73F 2CEA2..2CEAD 323B0..33479"

/-- The characters that are alphabetic in the latest version. -/
def latestAlphabetic : CodePoints := alphabetic.union addedAlphabetic

/-- The characters that are alphabetic or numbers in the latest version. -/
def latestAlphanumeric : CodePoints :=
  .unions [latestAlphabetic, GeneralCategory.membersOf GeneralCategory.numbers, addedNumbers]

/-- The fillers of Hangul syllables, letters that show nothing. -/
def hangulFillers : CodePoints := .ofTable "115F..1160 3164 FFA0"

/-- The narrow voicing marks of Katakana, which extend other characters but take up room. -/
def katakanaVoicingMarks : CodePoints := .ofTable "FF9E..FF9F"

/-- The characters that cannot be seen by themselves in the latest version: those that extend the
character before them, fillers, controls, format characters, private and unassigned ones, and
blanks. -/
def unseen : CodePoints :=
  ((CodePoints.unions [graphemeExtend, hangulFillers, unassigned,
    GeneralCategory.membersOf (GeneralCategory.assignedOthers ++ GeneralCategory.separators)]).diff
      addedVisible).diff katakanaVoicingMarks

end Telemetry.Unicode
