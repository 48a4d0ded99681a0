import Telemetry.Unicode.CodePoints

/-!
# General categories of the Unicode Character Database

Every assigned scalar value has one of the categories below. A code point in none of them is
unassigned, and a grouping such as `letter` is the union of its members, so neither has a table.
-/

namespace Telemetry.Unicode

/-- The general categories that have members among scalar values, unassigned excepted. -/
inductive GeneralCategory where
  | uppercaseLetter | lowercaseLetter | titlecaseLetter | modifierLetter | otherLetter
  | nonspacingMark | spacingMark | enclosingMark | decimalNumber | letterNumber | otherNumber
  | connectorPunctuation | dashPunctuation | openPunctuation | closePunctuation
  | initialPunctuation | finalPunctuation | otherPunctuation | mathSymbol | currencySymbol
  | modifierSymbol | otherSymbol | spaceSeparator | lineSeparator | paragraphSeparator | control
  | format | privateUse
  deriving DecidableEq, Repr

namespace GeneralCategory

/-- The members of a category, in the notation of `CodePoints.ofTable`. -/
def table : GeneralCategory → String
  | .uppercaseLetter =>
    "41..5A C0..D6 D8..DE 100..136/2 139..147/2 14A..176/2 178..179 17B 17D 181..182 184 186..187
      189..18B 18E..191 193..194 196..198 19C..19D 19F..1A0 1A2 1A4 1A6..1A7 1A9 1AC 1AE..1AF
      1B1..1B3 1B5 1B7..1B8 1BC 1C4..1CD/3 1CF..1DB/2 1DE..1EE/2 1F1 1F4 1F6..1F8 1FA..232/2
      23A..23B 23D..23E 241 243..246 248..24E/2 370 372 376 37F 386 388..38A 38C 38E..38F 391..3A1
      3A3..3AB 3CF 3D2..3D4 3D8..3EE/2 3F4 3F7 3F9..3FA 3FD..42F 460..480/2 48A..4BE/2 4C0..4C1
      4C3..4CD/2 4D0..52E/2 531..556 10A0..10C5 10C7 10CD 13A0..13F5 1C89 1C90..1CBA 1CBD..1CBF
      1E00..1E94/2 1E9E..1EFE/2 1F08..1F0F 1F18..1F1D 1F28..1F2F 1F38..1F3F 1F48..1F4D
      1F59..1F5F/2 1F68..1F6F 1FB8..1FBB 1FC8..1FCB 1FD8..1FDB 1FE8..1FEC 1FF8..1FFB 2102 2107
      210B..210D 2110..2112 2115 2119..211D 2124..2128/2 212A..212D 2130..2133 213E..213F 2145
      2183 2C00..2C2F 2C60 2C62..2C64 2C67..2C6B/2 2C6D..2C70 2C72 2C75 2C7E..2C80 2C82..2CE2/2
      2CEB 2CED 2CF2 A640..A66C/2 A680..A69A/2 A722..A72E/2 A732..A76E/2 A779 A77B A77D..A77E
      A780..A786/2 A78B A78D A790 A792 A796..A7A8/2 A7AA..A7AE A7B0..A7B4 A7B6..A7C2/2 A7C4..A7C7
      A7C9 A7CB..A7CC A7D0 A7D6..A7DC/2 A7F5 FF21..FF3A 10400..10427 104B0..104D3 10570..1057A
      1057C..1058A 1058C..10592 10594..10595 10C80..10CB2 10D50..10D65 118A0..118BF 16E40..16E5F
      1D400..1D419 1D434..1D44D 1D468..1D481 1D49C 1D49E..1D49F 1D4A2 1D4A5..1D4A6 1D4A9..1D4AC
      1D4AE..1D4B5 1D4D0..1D4E9 1D504..1D505 1D507..1D50A 1D50D..1D514 1D516..1D51C 1D538..1D539
      1D53B..1D53E 1D540..1D544 1D546 1D54A..1D550 1D56C..1D585 1D5A0..1D5B9 1D5D4..1D5ED
      1D608..1D621 1D63C..1D655 1D670..1D689 1D6A8..1D6C0 1D6E2..1D6FA 1D71C..1D734 1D756..1D76E
      1D790..1D7A8 1D7CA 1E900..1E921"
  | .lowercaseLetter =>
    "61..7A B5 DF..F6 F8..FF 101..135/2 137..138 13A..146/2 148..149 14B..177/2 17A 17C 17E..180
      183 185 188 18C..18D 192 195 199..19B 19E 1A1..1A5/2 1A8 1AA..1AB 1AD 1B0 1B4 1B6 1B9..1BA
      1BD..1BF 1C6..1CC/3 1CE..1DA/2 1DC..1DD 1DF..1ED/2 1EF..1F0 1F3 1F5 1F9..231/2 233..239 23C
      23F..240 242 247..24D/2 24F..293 295..2AF 371 373 377 37B..37D 390 3AC..3CE 3D0..3D1
      3D5..3D7 3D9..3ED/2 3EF..3F3 3F5 3F8 3FB..3FC 430..45F 461..481/2 48B..4BF/2 4C2..4CC/2
      4CE..4CF 4D1..52F/2 560..588 10D0..10FA 10FD..10FF 13F8..13FD 1C80..1C88 1C8A 1D00..1D2B
      1D6B..1D77 1D79..1D9A 1E01..1E93/2 1E95..1E9D 1E9F..1EFD/2 1EFF..1F07 1F10..1F15 1F20..1F27
      1F30..1F37 1F40..1F45 1F50..1F57 1F60..1F67 1F70..1F7D 1F80..1F87 1F90..1F97 1FA0..1FA7
      1FB0..1FB4 1FB6..1FB7 1FBE 1FC2..1FC4 1FC6..1FC7 1FD0..1FD3 1FD6..1FD7 1FE0..1FE7 1FF2..1FF4
      1FF6..1FF7 210A 210E..210F 2113 212F..2139/5 213C..213D 2146..2149 214E 2184 2C30..2C5F 2C61
      2C65..2C66 2C68..2C6C/2 2C71 2C73..2C74 2C76..2C7B 2C81..2CE1/2 2CE3..2CE4 2CEC 2CEE 2CF3
      2D00..2D25 2D27 2D2D A641..A66D/2 A681..A69B/2 A723..A72D/2 A72F..A731 A733..A76F/2
      A771..A778 A77A A77C A77F..A787/2 A78C A78E A791 A793..A795 A797..A7A9/2 A7AF A7B5..A7C3/2
      A7C8 A7CA A7CD A7D1..A7DB/2 A7F6 A7FA AB30..AB5A AB60..AB68 AB70..ABBF FB00..FB06 FB13..FB17
      FF41..FF5A 10428..1044F 104D8..104FB 10597..105A1 105A3..105B1 105B3..105B9 105BB..105BC
      10CC0..10CF2 10D70..10D85 118C0..118DF 16E60..16E7F 1D41A..1D433 1D44E..1D454 1D456..1D467
      1D482..1D49B 1D4B6..1D4B9 1D4BB 1D4BD..1D4C3 1D4C5..1D4CF 1D4EA..1D503 1D51E..1D537
      1D552..1D56B 1D586..1D59F 1D5BA..1D5D3 1D5EE..1D607 1D622..1D63B 1D656..1D66F 1D68A..1D6A5
      1D6C2..1D6DA 1D6DC..1D6E1 1D6FC..1D714 1D716..1D71B 1D736..1D74E 1D750..1D755 1D770..1D788
      1D78A..1D78F 1D7AA..1D7C2 1D7C4..1D7C9 1D7CB 1DF00..1DF09 1DF0B..1DF1E 1DF25..1DF2A
      1E922..1E943"
  | .titlecaseLetter =>
    "1C5..1CB/3 1F2 1F88..1F8F 1F98..1F9F 1FA8..1FAF 1FBC 1FCC 1FFC"
  | .modifierLetter =>
    "2B0..2C1 2C6..2D1 2E0..2E4 2EC 2EE 374 37A 559 640 6E5..6E6 7F4..7F5 7FA 81A 824 828 8C9 971
      E46 EC6 10FC 17D7 1843 1AA7 1C78..1C7D 1D2C..1D6A 1D78 1D9B..1DBF 2071 207F 2090..209C
      2C7C..2C7D 2D6F 2E2F 3005 3031..3035 303B 309D..309E 30FC..30FE A015 A4F8..A4FD A60C A67F
      A69C..A69D A717..A71F A770 A788 A7F2..A7F4 A7F8..A7F9 A9CF A9E6 AA70 AADD AAF3..AAF4
      AB5C..AB5F AB69 FF70 FF9E..FF9F 10780..10785 10787..107B0 107B2..107BA 10D4E 10D6F
      16B40..16B43 16D40..16D42 16D6B..16D6C 16F93..16F9F 16FE0..16FE1 16FE3 1AFF0..1AFF3
      1AFF5..1AFFB 1AFFD..1AFFE 1E030..1E06D 1E137..1E13D 1E4EB 1E94B"
  | .otherLetter =>
    "AA BA 1BB 1C0..1C3 294 5D0..5EA 5EF..5F2 620..63F 641..64A 66E..66F 671..6D3 6D5 6EE..6EF
      6FA..6FC 6FF 710 712..72F 74D..7A5 7B1 7CA..7EA 800..815 840..858 860..86A 870..887 889..88E
      8A0..8C8 904..939 93D 950 958..961 972..980 985..98C 98F..990 993..9A8 9AA..9B0 9B2 9B6..9B9
      9BD 9CE 9DC..9DD 9DF..9E1 9F0..9F1 9FC A05..A0A A0F..A10 A13..A28 A2A..A30 A32..A33 A35..A36
      A38..A39 A59..A5C A5E A72..A74 A85..A8D A8F..A91 A93..AA8 AAA..AB0 AB2..AB3 AB5..AB9 ABD AD0
      AE0..AE1 AF9 B05..B0C B0F..B10 B13..B28 B2A..B30 B32..B33 B35..B39 B3D B5C..B5D B5F..B61 B71
      B83 B85..B8A B8E..B90 B92..B95 B99..B9A B9C B9E..B9F BA3..BA4 BA8..BAA BAE..BB9 BD0 C05..C0C
      C0E..C10 C12..C28 C2A..C39 C3D C58..C5A C5D C60..C61 C80 C85..C8C C8E..C90 C92..CA8 CAA..CB3
      CB5..CB9 CBD CDD..CDE CE0..CE1 CF1..CF2 D04..D0C D0E..D10 D12..D3A D3D D4E D54..D56 D5F..D61
      D7A..D7F D85..D96 D9A..DB1 DB3..DBB DBD DC0..DC6 E01..E30 E32..E33 E40..E45 E81..E82 E84
      E86..E8A E8C..EA3 EA5 EA7..EB0 EB2..EB3 EBD EC0..EC4 EDC..EDF F00 F40..F47 F49..F6C F88..F8C
      1000..102A 103F 1050..1055 105A..105D 1061 1065..1066 106E..1070 1075..1081 108E 1100..1248
      124A..124D 1250..1256 1258 125A..125D 1260..1288 128A..128D 1290..12B0 12B2..12B5 12B8..12BE
      12C0 12C2..12C5 12C8..12D6 12D8..1310 1312..1315 1318..135A 1380..138F 1401..166C 166F..167F
      1681..169A 16A0..16EA 16F1..16F8 1700..1711 171F..1731 1740..1751 1760..176C 176E..1770
      1780..17B3 17DC 1820..1842 1844..1878 1880..1884 1887..18A8 18AA 18B0..18F5 1900..191E
      1950..196D 1970..1974 1980..19AB 19B0..19C9 1A00..1A16 1A20..1A54 1B05..1B33 1B45..1B4C
      1B83..1BA0 1BAE..1BAF 1BBA..1BE5 1C00..1C23 1C4D..1C4F 1C5A..1C77 1CE9..1CEC 1CEE..1CF3
      1CF5..1CF6 1CFA 2135..2138 2D30..2D67 2D80..2D96 2DA0..2DA6 2DA8..2DAE 2DB0..2DB6 2DB8..2DBE
      2DC0..2DC6 2DC8..2DCE 2DD0..2DD6 2DD8..2DDE 3006 303C 3041..3096 309F 30A1..30FA 30FF
      3105..312F 3131..318E 31A0..31BF 31F0..31FF 3400..4DBF 4E00..A014 A016..A48C A4D0..A4F7
      A500..A60B A610..A61F A62A..A62B A66E A6A0..A6E5 A78F A7F7 A7FB..A801 A803..A805 A807..A80A
      A80C..A822 A840..A873 A882..A8B3 A8F2..A8F7 A8FB A8FD..A8FE A90A..A925 A930..A946 A960..A97C
      A984..A9B2 A9E0..A9E4 A9E7..A9EF A9FA..A9FE AA00..AA28 AA40..AA42 AA44..AA4B AA60..AA6F
      AA71..AA76 AA7A AA7E..AAAF AAB1 AAB5..AAB6 AAB9..AABD AAC0 AAC2 AADB..AADC AAE0..AAEA AAF2
      AB01..AB06 AB09..AB0E AB11..AB16 AB20..AB26 AB28..AB2E ABC0..ABE2 AC00..D7A3 D7B0..D7C6
      D7CB..D7FB F900..FA6D FA70..FAD9 FB1D FB1F..FB28 FB2A..FB36 FB38..FB3C FB3E FB40..FB41
      FB43..FB44 FB46..FBB1 FBD3..FD3D FD50..FD8F FD92..FDC7 FDF0..FDFB FE70..FE74 FE76..FEFC
      FF66..FF6F FF71..FF9D FFA0..FFBE FFC2..FFC7 FFCA..FFCF FFD2..FFD7 FFDA..FFDC 10000..1000B
      1000D..10026 10028..1003A 1003C..1003D 1003F..1004D 10050..1005D 10080..100FA 10280..1029C
      102A0..102D0 10300..1031F 1032D..10340 10342..10349 10350..10375 10380..1039D 103A0..103C3
      103C8..103CF 10450..1049D 10500..10527 10530..10563 105C0..105F3 10600..10736 10740..10755
      10760..10767 10800..10805 10808 1080A..10835 10837..10838 1083C 1083F..10855 10860..10876
      10880..1089E 108E0..108F2 108F4..108F5 10900..10915 10920..10939 10980..109B7 109BE..109BF
      10A00 10A10..10A13 10A15..10A17 10A19..10A35 10A60..10A7C 10A80..10A9C 10AC0..10AC7
      10AC9..10AE4 10B00..10B35 10B40..10B55 10B60..10B72 10B80..10B91 10C00..10C48 10D00..10D23
      10D4A..10D4D 10D4F 10E80..10EA9 10EB0..10EB1 10EC2..10EC4 10F00..10F1C 10F27 10F30..10F45
      10F70..10F81 10FB0..10FC4 10FE0..10FF6 11003..11037 11071..11072 11075 11083..110AF
      110D0..110E8 11103..11126 11144 11147 11150..11172 11176 11183..111B2 111C1..111C4 111DA
      111DC 11200..11211 11213..1122B 1123F..11240 11280..11286 11288 1128A..1128D 1128F..1129D
      1129F..112A8 112B0..112DE 11305..1130C 1130F..11310 11313..11328 1132A..11330 11332..11333
      11335..11339 1133D 11350 1135D..11361 11380..11389 1138B 1138E 11390..113B5 113B7 113D1
      113D3 11400..11434 11447..1144A 1145F..11461 11480..114AF 114C4..114C5 114C7 11580..115AE
      115D8..115DB 11600..1162F 11644 11680..116AA 116B8 11700..1171A 11740..11746 11800..1182B
      118FF..11906 11909 1190C..11913 11915..11916 11918..1192F 1193F 11941 119A0..119A7
      119AA..119D0 119E1 119E3 11A00 11A0B..11A32 11A3A 11A50 11A5C..11A89 11A9D 11AB0..11AF8
      11BC0..11BE0 11C00..11C08 11C0A..11C2E 11C40 11C72..11C8F 11D00..11D06 11D08..11D09
      11D0B..11D30 11D46 11D60..11D65 11D67..11D68 11D6A..11D89 11D98 11EE0..11EF2 11F02
      11F04..11F10 11F12..11F33 11FB0 12000..12399 12480..12543 12F90..12FF0 13000..1342F
      13441..13446 13460..143FA 14400..14646 16100..1611D 16800..16A38 16A40..16A5E 16A70..16ABE
      16AD0..16AED 16B00..16B2F 16B63..16B77 16B7D..16B8F 16D43..16D6A 16F00..16F4A 16F50
      17000..187F7 18800..18CD5 18CFF..18D08 1B000..1B122 1B132 1B150..1B152 1B155 1B164..1B167
      1B170..1B2FB 1BC00..1BC6A 1BC70..1BC7C 1BC80..1BC88 1BC90..1BC99 1DF0A 1E100..1E12C 1E14E
      1E290..1E2AD 1E2C0..1E2EB 1E4D0..1E4EA 1E5D0..1E5ED 1E5F0 1E7E0..1E7E6 1E7E8..1E7EB
      1E7ED..1E7EE 1E7F0..1E7FE 1E800..1E8C4 1EE00..1EE03 1EE05..1EE1F 1EE21..1EE22 1EE24 1EE27
      1EE29..1EE32 1EE34..1EE37 1EE39 1EE3B 1EE42 1EE47..1EE4B/2 1EE4D..1EE4F 1EE51..1EE52 1EE54
      1EE57..1EE5F/2 1EE61..1EE62 1EE64 1EE67..1EE6A 1EE6C..1EE72 1EE74..1EE77 1EE79..1EE7C 1EE7E
      1EE80..1EE89 1EE8B..1EE9B 1EEA1..1EEA3 1EEA5..1EEA9 1EEAB..1EEBB 20000..2A6DF 2A700..2B739
      2B740..2B81D 2B820..2CEA1 2CEB0..2EBE0 2EBF0..2EE5D 2F800..2FA1D 30000..3134A 31350..323AF"
  | .nonspacingMark =>
    "300..36F 483..487 591..5BD 5BF 5C1..5C2 5C4..5C5 5C7 610..61A 64B..65F 670 6D6..6DC 6DF..6E4
      6E7..6E8 6EA..6ED 711 730..74A 7A6..7B0 7EB..7F3 7FD 816..819 81B..823 825..827 829..82D
      859..85B 897..89F 8CA..8E1 8E3..902 93A 93C 941..948 94D 951..957 962..963 981 9BC 9C1..9C4
      9CD 9E2..9E3 9FE A01..A02 A3C A41..A42 A47..A48 A4B..A4D A51 A70..A71 A75 A81..A82 ABC
      AC1..AC5 AC7..AC8 ACD AE2..AE3 AFA..AFF B01 B3C B3F B41..B44 B4D B55..B56 B62..B63 B82 BC0
      BCD C00 C04 C3C C3E..C40 C46..C48 C4A..C4D C55..C56 C62..C63 C81 CBC CBF CC6 CCC..CCD
      CE2..CE3 D00..D01 D3B..D3C D41..D44 D4D D62..D63 D81 DCA DD2..DD4 DD6 E31 E34..E3A E47..E4E
      EB1 EB4..EBC EC8..ECE F18..F19 F35..F39/2 F71..F7E F80..F84 F86..F87 F8D..F97 F99..FBC FC6
      102D..1030 1032..1037 1039..103A 103D..103E 1058..1059 105E..1060 1071..1074 1082 1085..1086
      108D 109D 135D..135F 1712..1714 1732..1733 1752..1753 1772..1773 17B4..17B5 17B7..17BD 17C6
      17C9..17D3 17DD 180B..180D 180F 1885..1886 18A9 1920..1922 1927..1928 1932 1939..193B
      1A17..1A18 1A1B 1A56 1A58..1A5E 1A60 1A62 1A65..1A6C 1A73..1A7C 1A7F 1AB0..1ABD 1ABF..1ACE
      1B00..1B03 1B34 1B36..1B3A 1B3C 1B42 1B6B..1B73 1B80..1B81 1BA2..1BA5 1BA8..1BA9 1BAB..1BAD
      1BE6 1BE8..1BE9 1BED 1BEF..1BF1 1C2C..1C33 1C36..1C37 1CD0..1CD2 1CD4..1CE0 1CE2..1CE8 1CED
      1CF4 1CF8..1CF9 1DC0..1DFF 20D0..20DC 20E1 20E5..20F0 2CEF..2CF1 2D7F 2DE0..2DFF 302A..302D
      3099..309A A66F A674..A67D A69E..A69F A6F0..A6F1 A802 A806 A80B A825..A826 A82C A8C4..A8C5
      A8E0..A8F1 A8FF A926..A92D A947..A951 A980..A982 A9B3 A9B6..A9B9 A9BC..A9BD A9E5 AA29..AA2E
      AA31..AA32 AA35..AA36 AA43 AA4C AA7C AAB0 AAB2..AAB4 AAB7..AAB8 AABE..AABF AAC1 AAEC..AAED
      AAF6 ABE5 ABE8 ABED FB1E FE00..FE0F FE20..FE2F 101FD 102E0 10376..1037A 10A01..10A03
      10A05..10A06 10A0C..10A0F 10A38..10A3A 10A3F 10AE5..10AE6 10D24..10D27 10D69..10D6D
      10EAB..10EAC 10EFC..10EFF 10F46..10F50 10F82..10F85 11001 11038..11046 11070 11073..11074
      1107F..11081 110B3..110B6 110B9..110BA 110C2 11100..11102 11127..1112B 1112D..11134 11173
      11180..11181 111B6..111BE 111C9..111CC 111CF 1122F..11231 11234 11236..11237 1123E 11241
      112DF 112E3..112EA 11300..11301 1133B..1133C 11340 11366..1136C 11370..11374 113BB..113C0
      113CE..113D2/2 113E1..113E2 11438..1143F 11442..11444 11446 1145E 114B3..114B8 114BA
      114BF..114C0 114C2..114C3 115B2..115B5 115BC..115BD 115BF..115C0 115DC..115DD 11633..1163A
      1163D 1163F..11640 116AB 116AD 116B0..116B5 116B7 1171D 1171F 11722..11725 11727..1172B
      1182F..11837 11839..1183A 1193B..1193C 1193E 11943 119D4..119D7 119DA..119DB 119E0
      11A01..11A0A 11A33..11A38 11A3B..11A3E 11A47 11A51..11A56 11A59..11A5B 11A8A..11A96
      11A98..11A99 11C30..11C36 11C38..11C3D 11C3F 11C92..11CA7 11CAA..11CB0 11CB2..11CB3
      11CB5..11CB6 11D31..11D36 11D3A 11D3C..11D3D 11D3F..11D45 11D47 11D90..11D91 11D95 11D97
      11EF3..11EF4 11F00..11F01 11F36..11F3A 11F40 11F42 11F5A 13440 13447..13455 1611E..16129
      1612D..1612F 16AF0..16AF4 16B30..16B36 16F4F 16F8F..16F92 16FE4 1BC9D..1BC9E 1CF00..1CF2D
      1CF30..1CF46 1D167..1D169 1D17B..1D182 1D185..1D18B 1D1AA..1D1AD 1D242..1D244 1DA00..1DA36
      1DA3B..1DA6C 1DA75 1DA84 1DA9B..1DA9F 1DAA1..1DAAF 1E000..1E006 1E008..1E018 1E01B..1E021
      1E023..1E024 1E026..1E02A 1E08F 1E130..1E136 1E2AE 1E2EC..1E2EF 1E4EC..1E4EF 1E5EE..1E5EF
      1E8D0..1E8D6 1E944..1E94A E0100..E01EF"
  | .spacingMark =>
    "903 93B 93E..940 949..94C 94E..94F 982..983 9BE..9C0 9C7..9C8 9CB..9CC 9D7 A03 A3E..A40 A83
      ABE..AC0 AC9 ACB..ACC B02..B03 B3E B40 B47..B48 B4B..B4C B57 BBE..BBF BC1..BC2 BC6..BC8
      BCA..BCC BD7 C01..C03 C41..C44 C82..C83 CBE CC0..CC4 CC7..CC8 CCA..CCB CD5..CD6 CF3 D02..D03
      D3E..D40 D46..D48 D4A..D4C D57 D82..D83 DCF..DD1 DD8..DDF DF2..DF3 F3E..F3F F7F 102B..102C
      1031 1038 103B..103C 1056..1057 1062..1064 1067..106D 1083..1084 1087..108C 108F 109A..109C
      1715 1734 17B6 17BE..17C5 17C7..17C8 1923..1926 1929..192B 1930..1931 1933..1938 1A19..1A1A
      1A55 1A57 1A61 1A63..1A64 1A6D..1A72 1B04 1B35 1B3B 1B3D..1B41 1B43..1B44 1B82 1BA1
      1BA6..1BA7 1BAA 1BE7 1BEA..1BEC 1BEE 1BF2..1BF3 1C24..1C2B 1C34..1C35 1CE1 1CF7 302E..302F
      A823..A824 A827 A880..A881 A8B4..A8C3 A952..A953 A983 A9B4..A9B5 A9BA..A9BB A9BE..A9C0
      AA2F..AA30 AA33..AA34 AA4D AA7B AA7D AAEB AAEE..AAEF AAF5 ABE3..ABE4 ABE6..ABE7 ABE9..ABEA
      ABEC 11000 11002 11082 110B0..110B2 110B7..110B8 1112C 11145..11146 11182 111B3..111B5
      111BF..111C0 111CE 1122C..1122E 11232..11233 11235 112E0..112E2 11302..11303 1133E..1133F
      11341..11344 11347..11348 1134B..1134D 11357 11362..11363 113B8..113BA 113C2 113C5
      113C7..113CA 113CC..113CD 113CF 11435..11437 11440..11441 11445 114B0..114B2 114B9
      114BB..114BE 114C1 115AF..115B1 115B8..115BB 115BE 11630..11632 1163B..1163C 1163E 116AC
      116AE..116AF 116B6 1171E 11720..11721 11726 1182C..1182E 11838 11930..11935 11937..11938
      1193D 11940 11942 119D1..119D3 119DC..119DF 119E4 11A39 11A57..11A58 11A97 11C2F 11C3E 11CA9
      11CB1 11CB4 11D8A..11D8E 11D93..11D94 11D96 11EF5..11EF6 11F03 11F34..11F35 11F3E..11F3F
      11F41 1612A..1612C 16F51..16F87 16FF0..16FF1 1D165..1D166 1D16D..1D172"
  | .enclosingMark =>
    "488..489 1ABE 20DD..20E0 20E2..20E4 A670..A672"
  | .decimalNumber =>
    "30..39 660..669 6F0..6F9 7C0..7C9 966..96F 9E6..9EF A66..A6F AE6..AEF B66..B6F BE6..BEF
      C66..C6F CE6..CEF D66..D6F DE6..DEF E50..E59 ED0..ED9 F20..F29 1040..1049 1090..1099
      17E0..17E9 1810..1819 1946..194F 19D0..19D9 1A80..1A89 1A90..1A99 1B50..1B59 1BB0..1BB9
      1C40..1C49 1C50..1C59 A620..A629 A8D0..A8D9 A900..A909 A9D0..A9D9 A9F0..A9F9 AA50..AA59
      ABF0..ABF9 FF10..FF19 104A0..104A9 10D30..10D39 10D40..10D49 11066..1106F 110F0..110F9
      11136..1113F 111D0..111D9 112F0..112F9 11450..11459 114D0..114D9 11650..11659 116C0..116C9
      116D0..116E3 11730..11739 118E0..118E9 11950..11959 11BF0..11BF9 11C50..11C59 11D50..11D59
      11DA0..11DA9 11F50..11F59 16130..16139 16A60..16A69 16AC0..16AC9 16B50..16B59 16D70..16D79
      1CCF0..1CCF9 1D7CE..1D7FF 1E140..1E149 1E2F0..1E2F9 1E4F0..1E4F9 1E5F1..1E5FA 1E950..1E959
      1FBF0..1FBF9"
  | .letterNumber =>
    "16EE..16F0 2160..2182 2185..2188 3007 3021..3029 3038..303A A6E6..A6EF 10140..10174 10341
      1034A 103D1..103D5 12400..1246E"
  | .otherNumber =>
    "B2..B3 B9 BC..BE 9F4..9F9 B72..B77 BF0..BF2 C78..C7E D58..D5E D70..D78 F2A..F33 1369..137C
      17F0..17F9 19DA 2070 2074..2079 2080..2089 2150..215F 2189 2460..249B 24EA..24FF 2776..2793
      2CFD 3192..3195 3220..3229 3248..324F 3251..325F 3280..3289 32B1..32BF A830..A835
      10107..10133 10175..10178 1018A..1018B 102E1..102FB 10320..10323 10858..1085F 10879..1087F
      108A7..108AF 108FB..108FF 10916..1091B 109BC..109BD 109C0..109CF 109D2..109FF 10A40..10A48
      10A7D..10A7E 10A9D..10A9F 10AEB..10AEF 10B58..10B5F 10B78..10B7F 10BA9..10BAF 10CFA..10CFF
      10E60..10E7E 10F1D..10F26 10F51..10F54 10FC5..10FCB 11052..11065 111E1..111F4 1173A..1173B
      118EA..118F2 11C5A..11C6C 11FC0..11FD4 16B5B..16B61 16E80..16E96 1D2C0..1D2D3 1D2E0..1D2F3
      1D360..1D378 1E8C7..1E8CF 1EC71..1ECAB 1ECAD..1ECAF 1ECB1..1ECB4 1ED01..1ED2D 1ED2F..1ED3D
      1F100..1F10C"
  | .connectorPunctuation =>
    "5F 203F..2040 2054 FE33..FE34 FE4D..FE4F FF3F"
  | .dashPunctuation =>
    "2D 58A 5BE 1400 1806 2010..2015 2E17 2E1A 2E3A..2E3B 2E40 2E5D 301C 3030 30A0 FE31..FE32 FE58
      FE63 FF0D 10D6E 10EAD"
  | .openPunctuation =>
    "28 5B 7B F3A F3C 169B 201A 201E 2045 207D 208D 2308 230A 2329 2768..2774/2 27C5 27E6..27EE/2
      2983..2997/2 29D8 29DA 29FC 2E22..2E28/2 2E42 2E55..2E5B/2 3008..3010/2 3014..301A/2 301D
      FD3F FE17 FE35..FE43/2 FE47 FE59..FE5D/2 FF08 FF3B FF5B FF5F FF62"
  | .closePunctuation =>
    "29 5D 7D F3B F3D 169C 2046 207E 208E 2309 230B 232A 2769..2775/2 27C6 27E7..27EF/2
      2984..2998/2 29D9 29DB 29FD 2E23..2E29/2 2E56..2E5C/2 3009..3011/2 3015..301B/2 301E..301F
      FD3E FE18 FE36..FE44/2 FE48 FE5A..FE5E/2 FF09 FF3D FF5D..FF63/3"
  | .initialPunctuation =>
    "AB 2018 201B..201C 201F 2039 2E02 2E04 2E09 2E0C 2E1C 2E20"
  | .finalPunctuation =>
    "BB 2019 201D 203A 2E03 2E05 2E0A 2E0D 2E1D 2E21"
  | .otherPunctuation =>
    "21..23 25..27 2A 2C 2E..2F 3A..3B 3F..40 5C A1 A7 B6..B7 BF 37E 387 55A..55F 589 5C0..5C6/3
      5F3..5F4 609..60A 60C..60D 61B 61D..61F 66A..66D 6D4 700..70D 7F7..7F9 830..83E 85E 964..965
      970 9FD A76 AF0 C77 C84 DF4 E4F E5A..E5B F04..F12 F14 F85 FD0..FD4 FD9..FDA 104A..104F 10FB
      1360..1368 166E 16EB..16ED 1735..1736 17D4..17D6 17D8..17DA 1800..1805 1807..180A 1944..1945
      1A1E..1A1F 1AA0..1AA6 1AA8..1AAD 1B4E..1B4F 1B5A..1B60 1B7D..1B7F 1BFC..1BFF 1C3B..1C3F
      1C7E..1C7F 1CC0..1CC7 1CD3 2016..2017 2020..2027 2030..2038 203B..203E 2041..2043 2047..2051
      2053 2055..205E 2CF9..2CFC 2CFE..2CFF 2D70 2E00..2E01 2E06..2E08 2E0B 2E0E..2E16 2E18..2E19
      2E1B 2E1E..2E1F 2E2A..2E2E 2E30..2E39 2E3C..2E3F 2E41 2E43..2E4F 2E52..2E54 3001..3003 303D
      30FB A4FE..A4FF A60D..A60F A673 A67E A6F2..A6F7 A874..A877 A8CE..A8CF A8F8..A8FA A8FC
      A92E..A92F A95F A9C1..A9CD A9DE..A9DF AA5C..AA5F AADE..AADF AAF0..AAF1 ABEB FE10..FE16 FE19
      FE30 FE45..FE46 FE49..FE4C FE50..FE52 FE54..FE57 FE5F..FE61 FE68 FE6A..FE6B FF01..FF03
      FF05..FF07 FF0A FF0C FF0E..FF0F FF1A..FF1B FF1F..FF20 FF3C FF61 FF64..FF65 10100..10102
      1039F 103D0 1056F 10857 1091F 1093F 10A50..10A58 10A7F 10AF0..10AF6 10B39..10B3F
      10B99..10B9C 10F55..10F59 10F86..10F89 11047..1104D 110BB..110BC 110BE..110C1 11140..11143
      11174..11175 111C5..111C8 111CD 111DB 111DD..111DF 11238..1123D 112A9 113D4..113D5
      113D7..113D8 1144B..1144F 1145A..1145B 1145D 114C6 115C1..115D7 11641..11643 11660..1166C
      116B9 1173C..1173E 1183B 11944..11946 119E2 11A3F..11A46 11A9A..11A9C 11A9E..11AA2
      11B00..11B09 11BE1 11C41..11C45 11C70..11C71 11EF7..11EF8 11F43..11F4F 11FFF 12470..12474
      12FF1..12FF2 16A6E..16A6F 16AF5 16B37..16B3B 16B44 16D6D..16D6F 16E97..16E9A 16FE2 1BC9F
      1DA87..1DA8B 1E5FF 1E95E..1E95F"
  | .mathSymbol =>
    "2B 3C..3E 7C 7E AC B1 D7 F7 3F6 606..608 2044 2052 207A..207C 208A..208C 2118 2140..2144 214B
      2190..2194 219A..219B 21A0..21A6/3 21AE 21CE..21CF 21D2 21D4 21F4..22FF 2320..2321 237C
      239B..23B3 23DC..23E1 25B7 25C1 25F8..25FF 266F 27C0..27C4 27C7..27E5 27F0..27FF 2900..2982
      2999..29D7 29DC..29FB 29FE..2AFF 2B30..2B44 2B47..2B4C FB29 FE62 FE64..FE66 FF0B FF1C..FF1E
      FF5C FF5E FFE2 FFE9..FFEC 10D8E..10D8F 1D6C1 1D6DB 1D6FB 1D715 1D735 1D74F 1D76F 1D789 1D7A9
      1D7C3 1EEF0..1EEF1"
  | .currencySymbol =>
    "24 A2..A5 58F 60B 7FE..7FF 9F2..9F3 9FB AF1 BF9 E3F 17DB 20A0..20C0 A838 FDFC FE69 FF04
      FFE0..FFE1 FFE5..FFE6 11FDD..11FE0 1E2FF 1ECB0"
  | .modifierSymbol =>
    "5E 60 A8 AF B4 B8 2C2..2C5 2D2..2DF 2E5..2EB 2ED 2EF..2FF 375 384..385 888 1FBD 1FBF..1FC1
      1FCD..1FCF 1FDD..1FDF 1FED..1FEF 1FFD..1FFE 309B..309C A700..A716 A720..A721 A789..A78A AB5B
      AB6A..AB6B FBB2..FBC2 FF3E FF40 FFE3 1F3FB..1F3FF"
  | .otherSymbol =>
    "A6 A9 AE B0 482 58D..58E 60E..60F 6DE 6E9 6FD..6FE 7F6 9FA B70 BF3..BF8 BFA C7F D4F D79
      F01..F03 F13 F15..F17 F1A..F1F F34..F38/2 FBE..FC5 FC7..FCC FCE..FCF FD5..FD8 109E..109F
      1390..1399 166D 1940 19DE..19FF 1B61..1B6A 1B74..1B7C 2100..2101 2103..2106 2108..2109 2114
      2116..2117 211E..2123 2125..2129/2 212E 213A..213B 214A 214C..214D 214F 218A..218B
      2195..2199 219C..219F 21A1..21A2 21A4..21A5 21A7..21AD 21AF..21CD 21D0..21D1 21D3 21D5..21F3
      2300..2307 230C..231F 2322..2328 232B..237B 237D..239A 23B4..23DB 23E2..2429 2440..244A
      249C..24E9 2500..25B6 25B8..25C0 25C2..25F7 2600..266E 2670..2767 2794..27BF 2800..28FF
      2B00..2B2F 2B45..2B46 2B4D..2B73 2B76..2B95 2B97..2BFF 2CE5..2CEA 2E50..2E51 2E80..2E99
      2E9B..2EF3 2F00..2FD5 2FF0..2FFF 3004 3012..3013 3020 3036..3037 303E..303F 3190..3191
      3196..319F 31C0..31E5 31EF 3200..321E 322A..3247 3250 3260..327F 328A..32B0 32C0..33FF
      4DC0..4DFF A490..A4C6 A828..A82B A836..A837 A839 AA77..AA79 FD40..FD4F FDCF FDFD..FDFF FFE4
      FFE8 FFED..FFEE FFFC..FFFD 10137..1013F 10179..10189 1018C..1018E 10190..1019C 101A0
      101D0..101FC 10877..10878 10AC8 1173F 11FD5..11FDC 11FE1..11FF1 16B3C..16B3F 16B45 1BC9C
      1CC00..1CCEF 1CD00..1CEB3 1CF50..1CFC3 1D000..1D0F5 1D100..1D126 1D129..1D164 1D16A..1D16C
      1D183..1D184 1D18C..1D1A9 1D1AE..1D1EA 1D200..1D241 1D245 1D300..1D356 1D800..1D9FF
      1DA37..1DA3A 1DA6D..1DA74 1DA76..1DA83 1DA85..1DA86 1E14F 1ECAC 1ED2E 1F000..1F02B
      1F030..1F093 1F0A0..1F0AE 1F0B1..1F0BF 1F0C1..1F0CF 1F0D1..1F0F5 1F10D..1F1AD 1F1E6..1F202
      1F210..1F23B 1F240..1F248 1F250..1F251 1F260..1F265 1F300..1F3FA 1F400..1F6D7 1F6DC..1F6EC
      1F6F0..1F6FC 1F700..1F776 1F77B..1F7D9 1F7E0..1F7EB 1F7F0 1F800..1F80B 1F810..1F847
      1F850..1F859 1F860..1F887 1F890..1F8AD 1F8B0..1F8BB 1F8C0..1F8C1 1F900..1FA53 1FA60..1FA6D
      1FA70..1FA7C 1FA80..1FA89 1FA8F..1FAC6 1FACE..1FADC 1FADF..1FAE9 1FAF0..1FAF8 1FB00..1FB92
      1FB94..1FBEF"
  | .spaceSeparator =>
    "20 A0 1680 2000..200A 202F 205F 3000"
  | .lineSeparator =>
    "2028"
  | .paragraphSeparator =>
    "2029"
  | .control =>
    "0..1F 7F..9F"
  | .format =>
    "AD 600..605 61C 6DD 70F 890..891 8E2 180E 200B..200F 202A..202E 2060..2064 2066..206F FEFF
      FFF9..FFFB 110BD 110CD 13430..1343F 1BCA0..1BCA3 1D173..1D17A E0001 E0020..E007F"
  | .privateUse =>
    "E000..F8FF F0000..FFFFD 100000..10FFFD"

/-- The code points of a category. -/
def members (g : GeneralCategory) : CodePoints := .ofTable g.table

/-- Every category, in the order of the database's major classes. -/
def all : List GeneralCategory :=
  [.uppercaseLetter, .lowercaseLetter, .titlecaseLetter, .modifierLetter, .otherLetter,
    .nonspacingMark, .spacingMark, .enclosingMark, .decimalNumber, .letterNumber, .otherNumber,
    .connectorPunctuation, .dashPunctuation, .openPunctuation, .closePunctuation,
    .initialPunctuation, .finalPunctuation, .otherPunctuation, .mathSymbol, .currencySymbol,
    .modifierSymbol, .otherSymbol, .spaceSeparator, .lineSeparator, .paragraphSeparator,
    .control, .format, .privateUse]

end GeneralCategory

end Telemetry.Unicode
