namespace NoteVault.Pattern

-- The scripts, each with its names and the characters that belong to it alone,
-- written like the general categories.
def scriptTable : List (String × List String) := [
  ("adlm adlam", [
    "1E900+4B 4+9 4+1"]),
  ("ahom", [
    "11700+1A 2+E 4+16"]),
  ("hluw anatolianhieroglyphs", [
    "14400+246"]),
  ("arab arabic", [
    "600+4 1+5 1+D 1+2 1+1F 1+9 B+19 1+6B 1+21 50+2F F0+21 5+4A 1+1C F250+1ED 2+8F 20+F 70+4 1+86",
    "F63+1E 43+5 8+8 21+5 DF00+3 1+1A 1+1 1 2 1+9 1+3 1 1 6 4 1 1 1+2 1+1 1 2 1 1 1 1 1+1 1 2+3",
    "1+6 1+3 1+3 1 1+9 1+10 5+2 1+4 1+10 34+1"]),
  ("armn armenian", [
    "531+25 2+31 2+2 F583+4"]),
  ("avst avestan", [
    "10B00+35 3+6"]),
  ("bali balinese", [
    "1B00+4C 1+31"]),
  ("bamu bamum", [
    "A6A0+57 C108+238"]),
  ("bass bassavah", [
    "16AD0+1D 2+5"]),
  ("batk batak", [
    "1BC0+33 8+3"]),
  ("beng bengali", [
    "980+3 1+7 2+1 2+15 1+6 1 3+3 2+8 2+1 2+3 8 4+1 1+4 2+18"]),
  ("berf beriaerfe", [
    "16EA0+18 2+18"]),
  ("bhks bhaiksuki", [
    "11C00+8 1+2C 1+D A+1C"]),
  ("bopo bopomofo", [
    "2EA+1 2E19+2A 70+1F"]),
  ("brah brahmi", [
    "11000+4D 4+23 9"]),
  ("brai braille", [
    "2800+FF"]),
  ("bugi buginese", [
    "1A00+1B 2+1"]),
  ("buhd buhid", [
    "1740+13"]),
  ("cans canadianaboriginal", [
    "1400+27F 230+45 101BA+F"]),
  ("cari carian", [
    "102A0+30"]),
  ("aghb caucasianalbanian", [
    "10530+33 B"]),
  ("cakm chakma", [
    "11100+34 1+11"]),
  ("cham", [
    "AA00+36 9+D 2+9 2+3"]),
  ("cher cherokee", [
    "13A0+55 2+5 9772+4F"]),
  ("chrs chorasmian", [
    "10FB0+1B"]),
  ("zyyy common", [
    "0+40 1A+5 1A+2E 1+E 1+4 17 1F 1C1+26 5+4 2+13 74 9 6 1 27D 6 E 3 20 9C 204 81+1 4D9 195+3",
    "122 5EF+2 47+1 CB+1 1 4CD D 7+3 1+5 1+2 2 305+B 2+56 1+A 3+A 1+E 11+21 3E+25 1+2 2+5 1+1A",
    "1+10 29+2 4+299 16+A 15+39F 100+273 2+89 200+5D 192+14 1 1+18 F+7 4+3 5B+1 3 5A+1 93+F 20+25",
    "9 30+3F 1F+50 2F 58+A7 19C0+3F 5900+21 66+2 A5+9 F4 A0 18B E+1 51D2+1 D0+9 16+22 1+12 1+3 93",
    "1+1F 1A+5 1A+A A 2D+1 40+6 1+6 A+4 102+2 4+2C 3+8 50+C 33+2C E4+1A B9A4+3 F5C+FC 3+1B3 6+16",
    "F+10 5F+73 3C+F5 A+26 2+3D 3+10 8+1 7+1D 4+3C D5+13 C+13 C+56 9+18 87+54 1+46 1+1 2 2+1 2+3",
    "1+B 1 1+6 1+40 1+3 2+7 1+6 1+1B 1+3 1+4 1 3+6 1+153 2+123 2+31 1471+43 4C+3C 2C2+2B 4+63 C+E",
    "2+E 1+E 1+24 A+AD 38+19 1+1 D+2B 4+8 7+1 E+5 9A+3D8 3+10 3+C 3+D9 6+B 4 F+B 4+37 8+9 6+27",
    "8+1D 2+B 4+1 E+8 27+157 8+D 2+C 3+A 3+38 1 4+F 2+B 4+9 7+92 1+66 C0406 1E+5F"]),
  ("copt coptic qaac", [
    "3E2+D 2890+73 5+6"]),
  ("xsux cuneiform", [
    "12000+399 66+6E 1+4 B+C3"]),
  ("cprt cypriot", [
    "10800+5 2 1+2B 1+1 3 2"]),
  ("cpmn cyprominoan", [
    "12F90+62"]),
  ("cyrl cyrillic", [
    "400+84 2+A8 1750+A A0 4C 1067+1F 7840+5F 578E+1 E200+3D 21"]),
  ("dsrt deseret", [
    "10400+4F"]),
  ("deva devanagari", [
    "900+50 4+E 2+19 9F60+1F 7200+9"]),
  ("diak divesakuru", [
    "11900+6 2 2+7 1+1 1+1D 1+1 2+B 9+9"]),
  ("dogr dogra", [
    "11800+3B"]),
  ("dupl duployan", [
    "1BC00+6A 5+C 3+8 7+9 2+3"]),
  ("egyp egyptianhieroglyphs", [
    "13000+455 A+F9A"]),
  ("elba elbasan", [
    "10500+27"]),
  ("elym elymaic", [
    "10FE0+16"]),
  ("ethi ethiopic", [
    "1200+48 1+3 2+6 1 1+3 2+28 1+3 2+20 1+3 2+6 1 1+3 2+E 1+38 1+3 2+42 2+1F 3+19 19E6+16 9+6",
    "1+6 1+6 1+6 1+6 1+6 1+6 1+6 7D22+5 2+5 2+5 9+6 1+6 13CB1+6 1+3 1+1 1+E"]),
  ("gara garay", [
    "10D40+25 3+1C 8+1"]),
  ("geor georgian", [
    "10A0+25 1 5 2+2A 1+3 B90+2A 2+2 1040+25 1 5"]),
  ("glag glagolitic", [
    "2C00+5F 1B3A0+6 1+10 2+6 1+1 1+4"]),
  ("goth gothic", [
    "10330+1A"]),
  ("gran grantha", [
    "11300+3 1+7 2+1 2+15 1+6 1+1 1+4 2+8 2+1 2+2 2 6 5+6 2+6 3+4"]),
  ("grek greek", [
    "370+3 1+2 2+3 1 4 1 1+2 1 1+13 1+3E E+F 1926+4 32+4 4+4 54 140+15 2+5 2+25 2+5 2+7 1 1 1",
    "1+1E 2+34 1+E 1+D 2+5 1+12 2+2 1+8 127 8A3E 55DA+4E 11 D05F+45"]),
  ("gujr gujarati", [
    "A81+2 1+8 1+2 1+15 1+6 1+1 1+4 2+9 1+2 1+2 2 F+3 2+B 7+6"]),
  ("gong gunjalagondi", [
    "11D60+5 1+1 1+24 1+1 1+5 7+9"]),
  ("guru gurmukhi", [
    "A01+2 1+5 4+1 2+15 1+6 1+1 1+1 1+1 2 1+4 4+1 2+2 3 7+3 1 7+10"]),
  ("gukh gurungkhema", [
    "16100+39"]),
  ("hani han", [
    "2E80+19 1+58 C+D5 2F 1 19+8 E+3 3C4+19BF 40+51FF 5900+16D 2+69 7508+1 C+6 9009+A6DF 20+111D",
    "2+168D 2+1D30 F+26D 9A2+21D 5E2+134A 5+2129"]),
  ("hang hangul", [
    "1100+FF 1E2E+1 101+5D 71+1E 41+1E 76E1+1C 283+2BA3 C+16 4+30 27A4+1E 3+5 2+5 2+5 2+2"]),
  ("rohg hanifirohingya", [
    "10D00+27 8+9"]),
  ("hano hanunoo", [
    "1720+14"]),
  ("hatr hatran", [
    "108E0+12 1+1 5+4"]),
  ("hebr hebrew", [
    "591+36 8+1A 4+5 F528+19 1+4 1 1+1 1+1 1+9"]),
  ("hira hiragana", [
    "3041+55 6+2 17F61+11E 12 1D+2 40AD"]),
  ("armi imperialaramaic", [
    "10840+15 1+8"]),
  ("zinh inherited qaai", [
    "300+6F 115+1 1C4+A 1A 2E0+3 115B+2D 2+B 1E4+2 1+C 1+6 4 6 3+1 C6+3F 20C+1 C2+20 F39+3 6B+1",
    "CD65+F 10+D 3CF E2 105A BBC4+2D 2+16 220+2 11+7 2+6 1E+3 C2F52+EF"]),
  ("phli inscriptionalpahlavi", [
    "10B60+12 5+7"]),
  ("prti inscriptionalparthian", [
    "10B40+15 2+7"]),
  ("java javanese", [
    "A980+4D 2+9 4+1"]),
  ("kthi kaithi", [
    "11080+42 A"]),
  ("knda kannada", [
    "C80+C 1+2 1+16 1+9 1+4 2+8 1+2 1+3 7+1 5+2 1+3 2+9 1+2"]),
  ("kana katakana", [
    "30A1+59 2+2 F0+F D0+2E 1+57 CC0E+9 1+2C B052+3 1+6 1+1 1 11F+2 32 E+3"]),
  ("kawi", [
    "11F00+10 1+28 3+1C"]),
  ("kali kayahli", [
    "A900+2D 1"]),
  ("khar kharoshthi", [
    "10A00+3 1+1 5+7 1+2 1+1C 2+2 4+9 7+8"]),
  ("kits khitansmallscript", [
    "16FE4 1B1B+1D5 29"]),
  ("khmr khmer", [
    "1780+5D 2+9 6+9 1E6+1F"]),
  ("khoj khojki", [
    "11200+11 1+2E"]),
  ("sind khudawadi", [
    "112B0+3A 5+9"]),
  ("krai kiratrai", [
    "16D40+39"]),
  ("laoo lao", [
    "E81+1 1 1+4 1+17 1 1+16 2+4 1 1+6 1+9 2+3"]),
  ("latn latin", [
    "41+19 6+19 2F F 5+16 1+1E 1+1C0 27+4 1A1B+25 6+30 5+3 5+C 1+45 41+FF 171 D 10+C 8D+1 6 1B",
    "11+28 AD7+1F 7AA2+65 3+51 14+E 330+2A 1+8 1+3 4F96+6 41A+19 6+19 825+5 1+29 1+8 D745+1E 6+5"]),
  ("lepc lepcha", [
    "1C00+37 3+E 3+2"]),
  ("limb limbu", [
    "1900+1E 1+B 4+B 4 3+B"]),
  ("lina lineara", [
    "10600+136 9+15 A+7"]),
  ("linb linearb", [
    "10000+B 1+19 1+12 1+1 1+E 2+D 22+7A"]),
  ("lisu", [
    "A4D0+2F 7AB0"]),
  ("lyci lycian", [
    "10280+1C"]),
  ("lydi lydian", [
    "10920+19 5"]),
  ("mahj mahajani", [
    "11150+26"]),
  ("maka makasar", [
    "11EE0+18"]),
  ("mlym malayalam", [
    "D00+C 1+2 1+32 1+2 1+5 4+F 2+19"]),
  ("mand mandaic", [
    "840+1B 2"]),
  ("mani manichaean", [
    "10AC0+26 4+B"]),
  ("marc marchen", [
    "11C70+1F 2+15 1+D"]),
  ("gonm masaramgondi", [
    "11D00+6 1+1 1+2B 3 1+1 1+8 8+9"]),
  ("medf medefaidrin", [
    "16E40+5A"]),
  ("mtei meeteimayek", [
    "AAE0+16 C9+2D 2+9"]),
  ("mend mendekikakui", [
    "1E800+C4 2+F"]),
  ("merc meroiticcursive", [
    "109A0+17 4+13 2+2D"]),
  ("mero meroitichieroglyphs", [
    "10980+1F"]),
  ("plrd miao", [
    "16F00+4A 4+38 7+10"]),
  ("modi", [
    "11600+44 B+9"]),
  ("mong mongolian", [
    "1800+1 2 1+13 6+58 7+2A FDB5+C"]),
  ("mroo mro", [
    "16A40+1E 1+9 4+1"]),
  ("mult multani", [
    "11280+6 1 1+3 1+E 1+A"]),
  ("mymr myanmar", [
    "1000+9F 9940+1E 61+1F 6C50+13"]),
  ("nbat nabataean", [
    "10880+1E 8+8"]),
  ("nagm nagmundari", [
    "1E4D0+29"]),
  ("nand nandinagari", [
    "119A0+7 2+2D 2+A"]),
  ("talu newtailue", [
    "1980+2B 4+19 6+A 3+1"]),
  ("newa", [
    "11400+5B 1+4"]),
  ("nkoo nko", [
    "7C0+3A 2+2"]),
  ("nshu nushu", [
    "16FE1 418E+18B"]),
  ("hmnp nyiakengpuachuehmong", [
    "1E100+2C 3+D 2+9 4+1"]),
  ("ogam ogham", [
    "1680+1C"]),
  ("olck olchiki", [
    "1C50+2F"]),
  ("onao olonal", [
    "1E5D0+2A 4"]),
  ("hung oldhungarian", [
    "10C80+32 D+32 7+5"]),
  ("ital olditalic", [
    "10300+23 9+2"]),
  ("narb oldnortharabian", [
    "10A80+1F"]),
  ("perm oldpermic", [
    "10350+2A"]),
  ("xpeo oldpersian", [
    "103A0+23 4+D"]),
  ("sogo oldsogdian", [
    "10F00+27"]),
  ("sarb oldsoutharabian", [
    "10A60+1F"]),
  ("orkh oldturkic", [
    "10C00+48"]),
  ("ougr olduyghur", [
    "10F70+19"]),
  ("orya oriya", [
    "B01+2 1+7 2+1 2+15 1+6 1+1 1+4 2+8 2+1 2+2 7+2 4+1 1+4 2+11"]),
  ("osge osage", [
    "104B0+23 4+23"]),
  ("osma osmanya", [
    "10480+1D 2+9"]),
  ("hmng pahawhhmong", [
    "16B00+45 A+9 1+6 1+14 5+12"]),
  ("palm palmyrene", [
    "10860+1F"]),
  ("pauc paucinhau", [
    "11AC0+38"]),
  ("phag phagspa", [
    "A840+37"]),
  ("phnx phoenician", [
    "10900+1B 3"]),
  ("phlp psalterpahlavi", [
    "10B80+11 7+3 C+6"]),
  ("rjng rejang", [
    "A930+23 B"]),
  ("runr runic", [
    "16A0+4A 3+A"]),
  ("samr samaritan", [
    "800+2D 2+E"]),
  ("saur saurashtra", [
    "A880+45 8+B"]),
  ("shrd sharada", [
    "11180+5F 980+7"]),
  ("shaw shavian", [
    "10450+2F"]),
  ("sidd siddham", [
    "11580+35 2+25"]),
  ("sidt sidetic", [
    "10940+19"]),
  ("sgnw signwriting", [
    "1D800+28B F+4 1+E"]),
  ("sinh sinhala", [
    "D81+2 1+11 3+17 1+8 1 2+6 3 4+5 1 1+7 6+9 2+2 103EC+13"]),
  ("sogd sogdian", [
    "10F30+29"]),
  ("sora sorasompeng", [
    "110D0+18 7+9"]),
  ("soyo soyombo", [
    "11A50+52"]),
  ("sund sundanese", [
    "1B80+3F 100+7"]),
  ("sunu sunuwar", [
    "11BC0+21 E+9"]),
  ("sylo sylotinagri", [
    "A800+2C"]),
  ("syrc syriac", [
    "700+D 1+3B 2+2 110+A"]),
  ("tglg tagalog", [
    "1700+15 9"]),
  ("tagb tagbanwa", [
    "1760+C 1+2 1+1"]),
  ("tale taile", [
    "1950+1D 2+4"]),
  ("lana taitham", [
    "1A20+3E 1+1C 2+A 6+9 6+D"]),
  ("tavt taiviet", [
    "AA80+42 18+4"]),
  ("tayo taiyo", [
    "1E6C0+1E 1+15 8+1"]),
  ("takr takri", [
    "11680+39 6+9"]),
  ("taml tamil", [
    "B82+1 1+5 3+2 1+3 3+1 1 1+1 3+1 3+2 3+B 4+4 3+2 1+3 2 6 E+14 113C5+31 D"]),
  ("tnsa tangsa", [
    "16A70+4E 1+9"]),
  ("tang tangut", [
    "16FE0 1F+1AFF 200+1E 61+72"]),
  ("telu telugu", [
    "C00+C 1+2 1+16 1+F 2+8 1+2 1+3 7+1 1+2 1+1 2+3 2+9 7+8"]),
  ("thaa thaana", [
    "780+31"]),
  ("thai", [
    "E01+39 5+1B"]),
  ("tibt tibetan", [
    "F00+47 1+23 4+26 1+23 1+E 1+6 4+1"]),
  ("tfng tifinagh", [
    "2D30+37 7+1 E"]),
  ("tirh tirhuta", [
    "11480+47 8+9"]),
  ("todr todhri", [
    "105C0+33"]),
  ("tols tolongsiki", [
    "11DB0+2B 4+9"]),
  ("toto", [
    "1E290+1E"]),
  ("tutg tulutigalari", [
    "11380+9 1 2 1+25 1+9 1 2 1+3 1+9 1+1 8+1"]),
  ("ugar ugaritic", [
    "10380+1D 1"]),
  ("vaii vai", [
    "A500+12B"]),
  ("vith vithkuqi", [
    "10570+A 1+E 1+6 1+1 1+A 1+E 1+6 1+1"]),
  ("wcho wancho", [
    "1E2C0+39 5"]),
  ("wara warangciti", [
    "118A0+52 C"]),
  ("yezi yezidi", [
    "10E80+29 1+2 2+1"]),
  ("yiii yi", [
    "A000+48C 3+36"]),
  ("zanb zanabazarsquare", [
    "11A00+47"])
]

-- The scripts whose extensions differ: the characters that are used in them.
def scriptExtensionTable : List (String × List String) := [
  ("adlm adlam", [
    "61F 20 1A0E DF1 1BABE+4B 4+9 4+1"]),
  ("arab arabic", [
    "600+4 1+D6 1+21 50+2F F0+21 5+4A 1+1C 174F DF1 CD0E+27F 20+F 70+4 1+86 3E3+1B B64+1E 43+5",
    "8+8 21+5 DF00+3 1+1A 1+1 1 2 1+9 1+3 1 1 6 4 1 1 1+2 1+1 1 2 1 1 1 1 1+1 1 2+3 1+6 1+3 1+3 1",
    "1+9 1+10 5+2 1+4 1+10 34+1"]),
  ("armn armenian", [
    "308 228+25 2+31 2+2 F583+4"]),
  ("avst avestan", [
    "B7 2D78+1 DCCE+35 3+6"]),
  ("beng bengali", [
    "2BC 694+1 11+1 1A+3 1+7 2+1 2+15 1+6 1 3+3 2+8 2+1 2+3 8 4+1 1+4 2+18 12D1 1 2+1 1 8 8 2 4",
    "2+2 8BF9"]),
  ("bopo bopomofo", [
    "2C7 1+2 D 10+1 2D15+2 4+9 1+C A+3 2 6 C3 9+2A 70+1F CC85+1 11A+4"]),
  ("bugi buginese", [
    "1A00+1B 2+1 8FAF"]),
  ("buhd buhid", [
    "1735+1 9+13"]),
  ("cari carian", [
    "B7 1FA2 2 DD3 D46E+30"]),
  ("aghb caucasianalbanian", [
    "304 2C 2C 101D1+33 B"]),
  ("cakm chakma", [
    "9E6+9 650+9 100B6+34 1+11"]),
  ("cher cherokee", [
    "300+2 1 6+1 16+1 B+1 106E+55 2+5 9772+4F"]),
  ("zyyy common", [
    "0+40 1A+5 1A+2E 1+B 1+1 1+4 17 1F 1C1+2 1+9 1 3 1+8 1 1+5 5+4 2+13 7E 6 1 27D D7 204 55C",
    "195+3 1027+B 2+20 1+1E 1+9 1+1 1+6 1+A 3+A 1+E 11+21 3E+25 1+2 2+5 1+1A 1+10 29+2 4+299 16+A",
    "15+39F 100+273 2+89 200+16 1+17 2+9 1+3 1 1+19 1A2 3 D D 15 211+17 1F 31+E C+3 A1+9 5+5F 1F",
    "19C0+3F 5908+19 66+2 3D0 E+1 52A4+9 16+14 2+B 1+12 1+3 93 1+1F 1A+5 1A+5 7F+6 1+6 A+4 192+C",
    "33+2C CA03+FC 3+1B3 6+16 F+10 5F+73 3C+F5 A+26 2+3D 3+10 8+1 7+1D 4+3C D5+13 C+13 C+56 1B+6",
    "87+54 1+46 1+1 2 2+1 2+3 1+B 1 1+6 1+40 1+3 2+7 1+6 1+1B 1+3 1+4 1 3+6 1+153 2+123 2+31",
    "1471+43 4C+3C 2C2+2B 4+63 C+E 2+E 1+E 1+24 A+AD 38+19 1+1 D+2B 4+8 17+5 9A+3D8 3+10 3+C 3+D9",
    "6+B 4 F+B 4+37 8+9 6+27 8+1D 2+B 4+1 E+8 27+157 8+D 2+C 3+A 3+38 1 4+F 2+B 4+9 7+92 1+66",
    "C0406 1E+5F"]),
  ("copt coptic qaac", [
    "B7 248 3+1 1 6C+1 6C+D 2890+73 5+6 117 D4C8+1B"]),
  ("cprt cypriot", [
    "10100+2 4+2C 3+8 6C0+5 2 1+2B 1+1 3 2"]),
  ("cpmn cyprominoan", [
    "10100+1 2E8E+62"]),
  ("cyrl cyrillic", [
    "2BC 43+2 1 1 1 2 5 EE+12F 1750+A A0 4C 7F FE7+1F 43 77FC+5F 578E+1 E200+3D 21"]),
  ("deva devanagari", [
    "2BC 643+52 2+2A 1350+26 1+1 3F6 873F+9 A6+1F 7200+9"]),
  ("dogr dogra", [
    "964+B 9EC0+9 6FC6+3B"]),
  ("dupl duployan", [
    "B7 24F+1 1 18+1 2B17 18DC3+6A 5+C 3+8 7+9 2+7"]),
  ("elba elbasan", [
    "B7 24D 101FA+27"]),
  ("ethi ethiopic", [
    "30E EF1+48 1+3 2+6 1 1+3 2+28 1+3 2+20 1+3 2+6 1 1+3 2+E 1+38 1+3 2+42 2+1F 3+19 19E6+16 9+6",
    "1+6 1+6 1+6 1+6 1+6 1+6 1+6 7D22+5 2+5 2+5 9+6 1+6 13CB1+6 1+3 1+1 1+E"]),
  ("gara garay", [
    "60C E 3 10720+25 3+1C 8+1"]),
  ("geor georgian", [
    "B7 4D1 B16+25 1 5 2+2F B90+2A 2+2 39A CA5+25 1 5 103"]),
  ("glag glagolitic", [
    "B7 24B 1 17E 2 101 B71 F5E BA5+5F 1E3 782B 13990+6 1+10 2+6 1+1 1+4"]),
  ("goth gothic", [
    "B7 24C+1 2 28 FFFE+1A"]),
  ("gran grantha", [
    "951+1 11+1 280+D 10DC 1+1 1E+2 3+1 3F6 F20F+3 1+7 2+1 2+15 1+6 1+1 1+4 1+9 2+1 2+2 2 6 5+6",
    "2+6 3+4 C5B+1 1"]),
  ("grek greek", [
    "B7 248+1 2 1 1 A 2E 2 2A+7 2+3 1 4 1 1+2 1 1+13 1+3E E+F 1926+4 32+4 4+4 54+2 13E+15 2+5",
    "2+25 2+5 2+7 1 1 1 1+1E 2+34 1+E 1+D 2+5 1+12 2+2 1+8 5E C8 8A3E 55DA+4E 11 D05F+45"]),
  ("gujr gujarati", [
    "951+1 11+1 11B+2 1+8 1+2 1+15 1+6 1+1 1+4 2+9 1+2 1+2 2 F+3 2+B 7+6 9D30+9"]),
  ("gong gunjalagondi", [
    "B7 8AC+1 113FA+5 1+1 1+24 1+1 1+5 7+9"]),
  ("guru gurmukhi", [
    "951+1 11+1 9B+2 1+5 4+1 2+15 1+6 1+1 1+1 1+1 2 1+4 4+1 2+2 3 7+3 1 7+10 9DB9+9"]),
  ("gukh gurungkhema", [
    "965 1579A+39"]),
  ("hani han", [
    "B7 2DC8+19 1+58 C+D5 1A+F 1+2 1+C 1+C 1+C 2 6+8 BB 94+F 20+25 9 30+27 38+30 F+B 33 58+18 A+4",
    "60+1E 1+19BF 40+51FF 700+7 51F8+16D 2+69 36B+1 11A+4 707C+1 C+6 6369+11 1EDE+1 DAE+A6DF",
    "20+111D 2+168D 2+1D30 F+26D 9A2+21D 5E2+134A 5+2129"]),
  ("hang hangul", [
    "1100+FF 1E01+2 4+9 1+C E+2 6 C3 35+5D 71+1E 41+1E 76E1+1C 283+2BA3 C+16 4+30 2649+1 11A+4",
    "3A+1E 3+5 2+5 2+5 2+2"]),
  ("rohg hanifirohingya", [
    "60C E 3 20 93 1062B+27 8+9"]),
  ("hano hanunoo", [
    "1720+16"]),
  ("hebr hebrew", [
    "307+1 288+36 8+1A 4+5 F528+19 1+4 1 1+1 1+1 1+9"]),
  ("hira hiragana", [
    "3001+2 4+9 1+C 10+5 1 4+1 3+55 2+7 5A+1 CD48+1 11A+4 A 2D+1 B061+11E 12 1D+2 40AD"]),
  ("zinh inherited qaai", [
    "30F 2 1+E 3+6 2 2+F 1+1 1+11 1+4 1+3 5F0+1 115B+2D 2+B 2D6+35 1 1+4 20C+1 C2+1F DD10+F 10+D",
    "3CF CD02+2D 2+16 220+2 11+7 2+6 1E+3 C2F52+EF"]),
  ("java javanese", [
    "A980+4D 1+A 4+1"]),
  ("kthi kaithi", [
    "966+9 24C1 79FE+9 6846+42 A"]),
  ("knda kannada", [
    "951+1 11+1 31A+C 1+2 1+16 1+9 1+4 2+8 1+2 1+3 7+1 5+2 1+3 2+9 1+2 FDC 1+1 6 17 1 8B3B+5"]),
  ("kana katakana", [
    "305 1D 2CDD+2 4+9 1+C 10+5 1 4+1 5B+3 3+5F F0+F D0+2E 1+57 CAED+1 11A+3E B050+3 1+6 1+1 1",
    "11F+2 32 E+3"]),
  ("kali kayahli", [
    "A900+2F"]),
  ("khoj khojki", [
    "AE6+9 9D40+9 69C6+11 1+2E"]),
  ("sind khudawadi", [
    "964+1 9ECA+9 6A76+3A 5+9"]),
  ("latn latin", [
    "41+19 6+19 2F C 2 5+16 1+1E 1+1C0 3 A 1+2 1 9 1 6+4 1B+E 1+1 1 F+2 7+1 1+1 26 5 4+C 115+1",
    "4CA+1 7A8 C04+25 6+30 5+3 5+C 1+45 39 7+FF 12F 41 D 10+C 53 39+1 6 1B 11+28 AD7+1F 197",
    "78E8+7 1A+65 3+51 14+E 12E 201+2A 1+8 1+3 4F96+6 41A+19 6+19 825+5 1+29 1+8 D745+1E 6+5"]),
  ("limb limbu", [
    "965 F9A+1E 1+B 4+B 4 3+B"]),
  ("lina lineara", [
    "10107+2C 4CC+136 9+15 A+7"]),
  ("linb linearb", [
    "10000+B 1+19 1+12 1+1 1+E 2+D 22+7A 5+2 4+2C 3+8"]),
  ("lisu", [
    "2BC 10 2D3C+1 74C4+2F 7AB0"]),
  ("lyci lycian", [
    "205A E225+1C"]),
  ("lydi lydian", [
    "B7 2D79 DAEE+19 5"]),
  ("mahj mahajani", [
    "B7 8AC+B 9EC0+9 6916+26"]),
  ("mlym malayalam", [
    "951+1 11+1 39A+C 1+2 1+32 1+2 1+5 4+F 2+19 F5A 17 8B3D+2"]),
  ("mand mandaic", [
    "640 1FF+1B 2"]),
  ("mani manichaean", [
    "640 1047F+26 4+B"]),
  ("gonm masaramgondi", [
    "964+1 1139A+6 1+1 1+2B 3 1+1 1+8 8+9"]),
  ("mero meroitichieroglyphs", [
    "205D E922+1F"]),
  ("modi", [
    "A830+9 6DC6+44 B+9"]),
  ("mong mongolian", [
    "1800+19 6+58 7+2A 784 FD1+1 5+3 E654+C"]),
  ("mult multani", [
    "A66+9 10810+6 1 1+3 1+E 1+A"]),
  ("mymr myanmar", [
    "1000+9F 988E B1+1E 61+1F 6C50+13"]),
  ("nand nandinagari", [
    "951 12+1 380+9 FF9 8 7 8B35+5 716A+7 2+2D 2+A"]),
  ("newa", [
    "951+1 1382 1+1 9 6 1 1 F712+5B 1+4"]),
  ("nkoo nko", [
    "60C E 3 1A0+3A 2+2 F53E+1"]),
  ("onao olonal", [
    "964+1 1DC6A+2A 4"]),
  ("hung oldhungarian", [
    "205A 2 DD3 F DE3E+32 D+32 7+5"]),
  ("perm oldpermic", [
    "B7 248 5+2 A 16F FECC+2A"]),
  ("orkh oldturkic", [
    "205A DD5 DDCF+48"]),
  ("ougr olduyghur", [
    "640 104B1 47D+19"]),
  ("orya oriya", [
    "951+1 11+1 19B+2 1+7 2+1 2+15 1+6 1+1 1+4 2+8 2+1 2+2 7+2 4+1 1+4 2+11 1162 17"]),
  ("osge osage", [
    "301 2 6 4C 10157+23 4+23"]),
  ("phag phagspa", [
    "1802+1 1 829 FD2 783D+37"]),
  ("phlp psalterpahlavi", [
    "640 1053F+11 7+3 C+6"]),
  ("runr runic", [
    "16A0+58"]),
  ("samr samaritan", [
    "800+2D 2+E 25F2"]),
  ("shrd sharada", [
    "951 1385 1 2+1 2 9 2 8B42+5 2 6947+5F 980+7"]),
  ("shaw shavian", [
    "B7 10398+2F"]),
  ("sinh sinhala", [
    "964+1 41B+2 1+11 3+17 1+8 1 2+6 3 4+5 1 1+7 6+9 2+2 EFD F4EE+13"]),
  ("sogd sogdian", [
    "640 108EF+29"]),
  ("sunu sunuwar", [
    "300+1 1 9 2 1C 3 1188E+21 E+9"]),
  ("sylo sylotinagri", [
    "964+1 80+9 9E10+2C"]),
  ("syrc syriac", [
    "303+1 2+1 1 18+2 7+1 1+1 2DA E+1 2 20 A+A 1A 8F+D 1+3B 2+2 110+A 158D 1"]),
  ("tglg tagalog", [
    "1700+15 9 15+1"]),
  ("tagb tagbanwa", [
    "1735+1 29+C 1+2 1+1"]),
  ("tale taile", [
    "300+1 5+1 3 D33+9 906+1D 2+4"]),
  ("takr takri", [
    "964+1 9ECA+9 6E46+39 6+9"]),
  ("taml tamil", [
    "951+1 11+1 21C+1 1+5 3+2 1+3 3+1 1 1+1 3+1 3+2 3+B 4+4 3+2 1+3 2 6 E+14 10DF 8C18 6A0D 1",
    "37+1 C83+31 D"]),
  ("tang tangut", [
    "2FF0+F 1EF 13DF0 1F+1AFF 200+1E 61+72"]),
  ("telu telugu", [
    "951+1 11+1 29A+C 1+2 1+16 1+F 2+8 1+2 1+3 7+1 1+2 1+1 2+3 2+9 7+8 1055+1 1 1 17"]),
  ("thaa thaana", [
    "60C E+1 2 40+9 116+31 F640 A"]),
  ("thai", [
    "2BC 1A 2B 2D ACF+39 5+1B"]),
  ("tibt tibetan", [
    "F00+47 1+23 4+26 1+23 1+E 1+6 4+1 202D+3"]),
  ("tfng tifinagh", [
    "302 1 1+3 19 2A0C+37 7+1 E"]),
  ("tirh tirhuta", [
    "951+1 11+1 136F C F 8B3D+9 6C46+47 8+9"]),
  ("todr todhri", [
    "301 2 2 9 1 4A 10261+33"]),
  ("toto", [
    "2BC 1DFD3+1E"]),
  ("tutg tulutigalari", [
    "CE6+9 1002 1 8B3B+5 BB 6A8E+9 1 2 1+25 1+9 1 2 1+3 1+9 1+1 8+1"]),
  ("yezi yezidi", [
    "60C E 3 40+9 10816+29 1+2 2+1"]),
  ("yiii yi", [
    "3001+1 5+9 2+7 DF 6F04+48C 3+36 5A9A+4"])
]

end NoteVault.Pattern
