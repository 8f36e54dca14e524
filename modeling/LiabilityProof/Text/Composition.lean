import LiabilityProof.Text.Folding

/-!
# Letters and their marks

A mark belongs to the letter before it, and marks of different classes to different places of it, so
that their order says nothing. `ordered` brings the marks of a letter into the order of their
classes, those of one class as they stand, and `composed` puts letters and marks together to the
characters that hold both. A mark is put to its letter across other marks if those have lower
classes and none of its own.

The table of classes writes a code point, or the first and the last of several, and the class; the
table of characters writes a mark, and the letters that it goes with, each with the character that
holds both.
-/

namespace LiabilityProof

namespace Text

/-- The classes of marks as they are written. -/
def classLines : List String :=
  ["300-314:230 315:232 316-319:220 31A:232 31B:216 31C-320:220 321-322:202 323-326:220",
   "327-328:202 329-333:220 334-338:1 339-33C:220 33D-344:230 345:240 346:230 347-349:220",
   "34A-34C:230 34D-34E:220 350-352:230 353-356:220 357:230 358:232 359-35A:220 35B:230 35C:233",
   "35D-35E:234 35F:233 360-361:234 362:233 363-36F:230 483-487:230 591:220 592-595:230 596:220",
   "597-599:230 59A:222 59B:220 59C-5A1:230 5A2-5A7:220 5A8-5A9:230 5AA:220 5AB-5AC:230 5AD:222",
   "5AE:228 5AF:230 5B0:10 5B1:11 5B2:12 5B3:13 5B4:14 5B5:15 5B6:16 5B7:17 5B8:18 5B9-5BA:19",
   "5BB:20 5BC:21 5BD:22 5BF:23 5C1:24 5C2:25 5C4:230 5C5:220 5C7:18 610-617:230 618:30 619:31",
   "61A:32 64B:27 64C:28 64D:29 64E:30 64F:31 650:32 651:33 652:34 653-654:230 655-656:220",
   "657-65B:230 65C:220 65D-65E:230 65F:220 670:35 6D6-6DC:230 6DF-6E2:230 6E3:220 6E4:230",
   "6E7-6E8:230 6EA:220 6EB-6EC:230 6ED:220 711:36 730:230 731:220 732-733:230 734:220",
   "735-736:230 737-739:220 73A:230 73B-73C:220 73D:230 73E:220 73F-741:230 742:220 743:230",
   "744:220 745:230 746:220 747:230 748:220 749-74A:230 7EB-7F1:230 7F2:220 7F3:230 7FD:220",
   "816-819:230 81B-823:230 825-827:230 829-82D:230 859-85B:220 898:230 899-89B:220 89C-89F:230",
   "8CA-8CE:230 8CF-8D3:220 8D4-8E1:230 8E3:220 8E4-8E5:230 8E6:220 8E7-8E8:230 8E9:220",
   "8EA-8EC:230 8ED-8EF:220 8F0:27 8F1:28 8F2:29 8F3-8F5:230 8F6:220 8F7-8F8:230 8F9-8FA:220",
   "8FB-8FF:230 93C:7 94D:9 951:230 952:220 953-954:230 9BC:7 9CD:9 9FE:230 A3C:7 A4D:9 ABC:7",
   "ACD:9 B3C:7 B4D:9 BCD:9 C3C:7 C4D:9 C55:84 C56:91 CBC:7 CCD:9 D3B-D3C:9 D4D:9 DCA:9",
   "E38-E39:103 E3A:9 E48-E4B:107 EB8-EB9:118 EBA:9 EC8-ECB:122 F18-F19:220 F35:220 F37:220",
   "F39:216 F71:129 F72:130 F74:132 F7A-F7D:130 F80:130 F82-F83:230 F84:9 F86-F87:230 FC6:220",
   "1037:7 1039-103A:9 108D:220 135D-135F:230 1714-1715:9 1734:9 17D2:9 17DD:230 18A9:228",
   "1939:222 193A:230 193B:220 1A17:230 1A18:220 1A60:9 1A75-1A7C:230 1A7F:220 1AB0-1AB4:230",
   "1AB5-1ABA:220 1ABB-1ABC:230 1ABD:220 1ABF-1AC0:220 1AC1-1AC2:230 1AC3-1AC4:220 1AC5-1AC9:230",
   "1ACA:220 1ACB-1ACE:230 1B34:7 1B44:9 1B6B:230 1B6C:220 1B6D-1B73:230 1BAA-1BAB:9 1BE6:7",
   "1BF2-1BF3:9 1C37:7 1CD0-1CD2:230 1CD4:1 1CD5-1CD9:220 1CDA-1CDB:230 1CDC-1CDF:220 1CE0:230",
   "1CE2-1CE8:1 1CED:220 1CF4:230 1CF8-1CF9:230 1DC0-1DC1:230 1DC2:220 1DC3-1DC9:230 1DCA:220",
   "1DCB-1DCC:230 1DCD:234 1DCE:214 1DCF:220 1DD0:202 1DD1-1DF5:230 1DF6:232 1DF7-1DF8:228",
   "1DF9:220 1DFA:218 1DFB:230 1DFC:233 1DFD:220 1DFE:230 1DFF:220 20D0-20D1:230 20D2-20D3:1",
   "20D4-20D7:230 20D8-20DA:1 20DB-20DC:230 20E1:230 20E5-20E6:1 20E7:230 20E8:220 20E9:230",
   "20EA-20EB:1 20EC-20EF:220 20F0:230 2CEF-2CF1:230 2D7F:9 2DE0-2DFF:230 302A:218 302B:228",
   "302C:232 302D:222 302E-302F:224 3099-309A:8 A66F:230 A674-A67D:230 A69E-A69F:230",
   "A6F0-A6F1:230 A806:9 A82C:9 A8C4:9 A8E0-A8F1:230 A92B-A92D:220 A953:9 A9B3:7 A9C0:9 AAB0:230",
   "AAB2-AAB3:230 AAB4:220 AAB7-AAB8:230 AABE-AABF:230 AAC1:230 AAF6:9 ABED:9 FB1E:26",
   "FE20-FE26:230 FE27-FE2D:220 FE2E-FE2F:230 101FD:220 102E0:220 10376-1037A:230 10A0D:220",
   "10A0F:230 10A38:230 10A39:1 10A3A:220 10A3F:9 10AE5:230 10AE6:220 10D24-10D27:230",
   "10EAB-10EAC:230 10F46-10F47:220 10F48-10F4A:230 10F4B:220 10F4C:230 10F4D-10F50:220 10F82:230",
   "10F83:220 10F84:230 10F85:220 11046:9 11070:9 1107F:9 110B9:9 110BA:7 11100-11102:230",
   "11133-11134:9 11173:7 111C0:9 111CA:7 11235:9 11236:7 112E9:7 112EA:9 1133B-1133C:7 1134D:9",
   "11366-1136C:230 11370-11374:230 11442:9 11446:7 1145E:230 114C2:9 114C3:7 115BF:9 115C0:7",
   "1163F:9 116B6:9 116B7:7 1172B:9 11839:9 1183A:7 1193D-1193E:9 11943:7 119E0:9 11A34:9 11A47:9",
   "11A99:9 11C3F:9 11D42:7 11D44-11D45:9 11D97:9 16AF0-16AF4:1 16B30-16B36:230 16FF0-16FF1:6",
   "1BC9E:1 1D165-1D166:216 1D167-1D169:1 1D16D:226 1D16E-1D172:216 1D17B-1D182:220",
   "1D185-1D189:230 1D18A-1D18B:220 1D1AA-1D1AD:230 1D242-1D244:230 1E000-1E006:230",
   "1E008-1E018:230 1E01B-1E021:230 1E023-1E024:230 1E026-1E02A:230 1E130-1E136:230 1E2AE:230",
   "1E2EC-1E2EF:230 1E8D0-1E8D6:220 1E944-1E949:230 1E94A:7"]

/-- The characters that hold a letter and a mark, as they are written. -/
def pairLines : List String :=
  ["300:61.E0,65.E8,69.EC,6E.1F9,6F.F2,75.F9,77.1E81,79.1EF3,E2.1EA7,EA.1EC1,F4.1ED3,FC.1DC",
   "300:103.1EB1,113.1E15,14D.1E51,1A1.1EDD,1B0.1EEB,3B1.1F70,3B5.1F72,3B7.1F74,3B9.1F76",
   "300:3BF.1F78,3C5.1F7A,3C9.1F7C,3CA.1FD2,3CB.1FE2,435.450,438.45D,1F00.1F02,1F01.1F03",
   "300:1F10.1F12,1F11.1F13,1F20.1F22,1F21.1F23,1F30.1F32,1F31.1F33,1F40.1F42,1F41.1F43",
   "300:1F50.1F52,1F51.1F53,1F60.1F62,1F61.1F63",
   "301:61.E1,63.107,65.E9,67.1F5,69.ED,6B.1E31,6C.13A,6D.1E3F,6E.144,6F.F3,70.1E55,72.155",
   "301:73.15B,75.FA,77.1E83,79.FD,7A.17A,E2.1EA5,E5.1FB,E6.1FD,E7.1E09,EA.1EBF,EF.1E2F",
   "301:F4.1ED1,F5.1E4D,F8.1FF,FC.1D8,103.1EAF,113.1E17,14D.1E53,169.1E79,1A1.1EDB,1B0.1EE9",
   "301:3B1.3AC,3B5.3AD,3B7.3AE,3B9.3AF,3BF.3CC,3C5.3CD,3C9.3CE,3CA.390,3CB.3B0,433.453",
   "301:43A.45C,1F00.1F04,1F01.1F05,1F10.1F14,1F11.1F15,1F20.1F24,1F21.1F25,1F30.1F34",
   "301:1F31.1F35,1F40.1F44,1F41.1F45,1F50.1F54,1F51.1F55,1F60.1F64,1F61.1F65",
   "302:61.E2,63.109,65.EA,67.11D,68.125,69.EE,6A.135,6F.F4,73.15D,75.FB,77.175,79.177,7A.1E91",
   "302:1EA1.1EAD,1EB9.1EC7,1ECD.1ED9",
   "303:61.E3,65.1EBD,69.129,6E.F1,6F.F5,75.169,76.1E7D,79.1EF9,E2.1EAB,EA.1EC5,F4.1ED7",
   "303:103.1EB5,1A1.1EE1,1B0.1EEF",
   "304:61.101,65.113,67.1E21,69.12B,6F.14D,75.16B,79.233,E4.1DF,E6.1E3,F5.22D,F6.22B,FC.1D6",
   "304:1EB.1ED,227.1E1,22F.231,3B1.1FB1,3B9.1FD1,3C5.1FE1,438.4E3,443.4EF,1E37.1E39,1E5B.1E5D",
   "306:61.103,65.115,67.11F,69.12D,6F.14F,75.16D,229.1E1D,3B1.1FB0,3B9.1FD0,3C5.1FE0,430.4D1",
   "306:435.4D7,436.4C2,438.439,443.45E,1EA1.1EB7",
   "307:61.227,62.1E03,63.10B,64.1E0B,65.117,66.1E1F,67.121,68.1E23,6D.1E41,6E.1E45,6F.22F",
   "307:70.1E57,72.1E59,73.1E61,74.1E6B,77.1E87,78.1E8B,79.1E8F,7A.17C,15B.1E65,161.1E67",
   "307:1E63.1E69",
   "308:61.E4,65.EB,68.1E27,69.EF,6F.F6,74.1E97,75.FC,77.1E85,78.1E8D,79.FF,F5.1E4F,16B.1E7B",
   "308:3B9.3CA,3C5.3CB,430.4D3,435.451,436.4DD,437.4DF,438.4E5,43E.4E7,443.4F1,447.4F5",
   "308:44B.4F9,44D.4ED,456.457,4D9.4DB,4E9.4EB",
   "309:61.1EA3,65.1EBB,69.1EC9,6F.1ECF,75.1EE7,79.1EF7,E2.1EA9,EA.1EC3,F4.1ED5,103.1EB3",
   "309:1A1.1EDF,1B0.1EED 30A:61.E5,75.16F,77.1E98,79.1E99 30B:6F.151,75.171,443.4F3",
   "30C:61.1CE,63.10D,64.10F,65.11B,67.1E7,68.21F,69.1D0,6A.1F0,6B.1E9,6C.13E,6E.148,6F.1D2",
   "30C:72.159,73.161,74.165,75.1D4,7A.17E,FC.1DA,292.1EF",
   "30F:61.201,65.205,69.209,6F.20D,72.211,75.215,475.477",
   "311:61.203,65.207,69.20B,6F.20F,72.213,75.217",
   "313:3B1.1F00,3B5.1F10,3B7.1F20,3B9.1F30,3BF.1F40,3C1.1FE4,3C5.1F50,3C9.1F60",
   "314:3B1.1F01,3B5.1F11,3B7.1F21,3B9.1F31,3BF.1F41,3C1.1FE5,3C5.1F51,3C9.1F61 31B:6F.1A1,75.1B0",
   "323:61.1EA1,62.1E05,64.1E0D,65.1EB9,68.1E25,69.1ECB,6B.1E33,6C.1E37,6D.1E43,6E.1E47",
   "323:6F.1ECD,72.1E5B,73.1E63,74.1E6D,75.1EE5,76.1E7F,77.1E89,79.1EF5,7A.1E93,1A1.1EE3",
   "323:1B0.1EF1 324:75.1E73 325:61.1E01 326:73.219,74.21B",
   "327:63.E7,64.1E11,65.229,67.123,68.1E29,6B.137,6C.13C,6E.146,72.157,73.15F,74.163",
   "328:61.105,65.119,69.12F,6F.1EB,75.173 32D:64.1E13,65.1E19,6C.1E3D,6E.1E4B,74.1E71,75.1E77",
   "32E:68.1E2B 330:65.1E1B,69.1E2D,75.1E75",
   "331:62.1E07,64.1E0F,68.1E96,6B.1E35,6C.1E3B,6E.1E49,72.1E5F,74.1E6F,7A.1E95",
   "338:3C.226E,3D.2260,3E.226F,2190.219A,2192.219B,2194.21AE,21D0.21CD,21D2.21CF,21D4.21CE",
   "338:2203.2204,2208.2209,220B.220C,2223.2224,2225.2226,223C.2241,2243.2244,2245.2247",
   "338:2248.2249,224D.226D,2261.2262,2264.2270,2265.2271,2272.2274,2273.2275,2276.2278",
   "338:2277.2279,227A.2280,227B.2281,227C.22E0,227D.22E1,2282.2284,2283.2285,2286.2288",
   "338:2287.2289,2291.22E2,2292.22E3,22A2.22AC,22A8.22AD,22A9.22AE,22AB.22AF,22B2.22EA",
   "338:22B3.22EB,22B4.22EC,22B5.22ED",
   "342:3B1.1FB6,3B7.1FC6,3B9.1FD6,3C5.1FE6,3C9.1FF6,3CA.1FD7,3CB.1FE7,1F00.1F06,1F01.1F07",
   "342:1F20.1F26,1F21.1F27,1F30.1F36,1F31.1F37,1F50.1F56,1F51.1F57,1F60.1F66,1F61.1F67",
   "653:627.622 654:627.623,648.624,64A.626,6C1.6C2,6D2.6D3,6D5.6C0 655:627.625",
   "93C:928.929,930.931,933.934 9BE:9C7.9CB 9D7:9C7.9CC B3E:B47.B4B B56:B47.B48 B57:B47.B4C",
   "BBE:BC6.BCA,BC7.BCB BD7:B92.B94,BC6.BCC C56:C46.C48 CC2:CC6.CCA CD5:CBF.CC0,CC6.CC7,CCA.CCB",
   "CD6:CC6.CC8 D3E:D46.D4A,D47.D4B D57:D46.D4C DCA:DD9.DDA,DDC.DDD DCF:DD9.DDC DDF:DD9.DDE",
   "102E:1025.1026",
   "1B35:1B05.1B06,1B07.1B08,1B09.1B0A,1B0B.1B0C,1B0D.1B0E,1B11.1B12,1B3A.1B3B,1B3C.1B3D",
   "1B35:1B3E.1B40,1B3F.1B41,1B42.1B43",
   "3099:3046.3094,304B.304C,304D.304E,304F.3050,3051.3052,3053.3054,3055.3056,3057.3058",
   "3099:3059.305A,305B.305C,305D.305E,305F.3060,3061.3062,3064.3065,3066.3067,3068.3069",
   "3099:306F.3070,3072.3073,3075.3076,3078.3079,307B.307C,309D.309E,30A6.30F4,30AB.30AC",
   "3099:30AD.30AE,30AF.30B0,30B1.30B2,30B3.30B4,30B5.30B6,30B7.30B8,30B9.30BA,30BB.30BC",
   "3099:30BD.30BE,30BF.30C0,30C1.30C2,30C4.30C5,30C6.30C7,30C8.30C9,30CF.30D0,30D2.30D3",
   "3099:30D5.30D6,30D8.30D9,30DB.30DC,30EF.30F7,30F0.30F8,30F1.30F9,30F2.30FA,30FD.30FE",
   "309A:306F.3071,3072.3074,3075.3077,3078.307A,307B.307D,30CF.30D1,30D2.30D4,30D5.30D7",
   "309A:30D8.30DA,30DB.30DD 110BA:11099.1109A,1109B.1109C,110A5.110AB",
   "11127:11131.1112E,11132.1112F 1133E:11347.1134B 11357:11347.1134C 114B0:114B9.114BC",
   "114BA:114B9.114BB 114BD:114B9.114BE 115AF:115B8.115BA,115B9.115BB 11930:11935.11938"]

/-- The code points of some marks, the first and the last, and their class. -/
def readClass (cs : List Char) : Nat × Nat × Nat :=
  let (range, number) := cut ':' cs
  let (first, last) := cut '-' range
  (codePoint first, codePoint (last.getD first),
    ofDigits 10 ((number.getD []).filterMap (digitValue? 10)))

/-- The table of classes. -/
def classes : List (Nat × Nat × Nat) :=
  classLines.flatMap fun line => (parts ' ' line.toList).map readClass

/-- The class of a character; zero for what is no mark. -/
def markClass (c : Char) : Nat :=
  match classes.find? fun r => decide (r.1 ≤ c.toNat) && decide (c.toNat ≤ r.2.1) with
  | some (_, _, number) => number
  | none => 0

/-- A mark, and letters with the characters that hold both. -/
def readMark (cs : List Char) : Nat × List (Nat × Nat) :=
  let (mark, rest) := cut ':' cs
  (codePoint mark, (parts ',' (rest.getD [])).map fun pair =>
    let (letter, both) := cut '.' pair
    (codePoint letter, codePoint (both.getD [])))

/-- The table of characters that hold a letter and a mark. -/
def pairs : List (Nat × List (Nat × Nat)) :=
  pairLines.flatMap fun line => (parts ' ' line.toList).map readMark

/-- The syllable of Hangul that a letter and a vowel, or a syllable and a last letter, make. -/
def joinedSyllable? (a b : Nat) : Option Nat :=
  if 0x1100 ≤ a ∧ a < 0x1113 ∧ 0x1161 ≤ b ∧ b < 0x1176 then
    some (0xAC00 + ((a - 0x1100) * 21 + (b - 0x1161)) * 28)
  else if 0xAC00 ≤ a ∧ a ≤ 0xD7A3 ∧ (a - 0xAC00) % 28 = 0 ∧ 0x11A7 < b ∧ b < 0x11C3 then
    some (a + (b - 0x11A7))
  else none

/-- The character that holds a letter and a mark. -/
def pair? (letter mark : Char) : Option Char :=
  let (a, b) := (letter.toNat, mark.toNat)
  match joinedSyllable? a b with
  | some both => some (Char.ofNat both)
  | none =>
    (pairs.findSome? fun row =>
      if row.1 = b then (row.2.find? fun p => p.1 = a).map Prod.snd else none).map Char.ofNat

/-- A text with a character put in front of it, behind the marks of lower classes if it is a
mark. -/
def place (c : Char) : List Char → List Char
  | [] => [c]
  | d :: rest =>
    if markClass d ≠ 0 ∧ markClass d < markClass c then d :: place c rest else c :: d :: rest

/-- The text with the marks of every letter in the order of their classes. -/
def ordered (cs : List Char) : List Char := cs.foldr place []

/-- The text put together from a letter on: `passed` are the marks behind it that stand alone,
last one first, and `last` is the class of the last of them. -/
def composedFrom (letter : Char) (passed : List Char) (last : Nat) : List Char → List Char
  | [] => letter :: passed.reverse
  | c :: rest =>
    let number := markClass c
    match (if passed.isEmpty || decide (last < number) then pair? letter c else none) with
    | some both => composedFrom both passed last rest
    | none =>
      if number = 0 then letter :: passed.reverse ++ composedFrom c [] 0 rest
      else composedFrom letter (c :: passed) number rest

/-- The text put together. -/
def composed : List Char → List Char
  | [] => []
  | c :: rest => if markClass c = 0 then composedFrom c [] 0 rest else c :: composed rest

end Text

end LiabilityProof
