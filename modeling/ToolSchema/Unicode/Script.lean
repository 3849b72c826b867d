import ToolSchema.Unicode.Ranges

/-!
# Scripts

Every assigned character belongs to one script, or is common to many, or inherits its script from
the character before it.
-/

namespace ToolSchema.Unicode

/-- The scripts with their names in lower case without separators. -/
def scripts : List (List String × Ranges) :=
  [(["adlm", "adlam"], ofRows
    ["2olc 23 5 9 5 1"]),
   (["aghb", "caucasianalbanian"], ofRows
    ["1flc 1f c 0"]),
   (["ahom"], ofRows
    ["1j40 q 3 e 5 m"]),
   (["arab", "arabic"], ofRows
    ["16o 4 2 5 2 d 2 2 2 v 2 9 c p 2 2z 2 x 29 1b 6p u 2 1 6 22 2 s 1bv5 36 h a2 3 27 3 1h 8 0",
     "x f 35 4 2 3q 31g u 1w 2 1k 3 181t 3 2 q 2 1 2 0 3 0 2 9 2 3 2 0 2 0 7 0 5 0 2 0 2 0 2 2",
     "2 1 2 0 3 0 2 0 2 0 2 0 2 0 2 1 2 0 3 3 2 6 2 3 2 3 2 0 2 9 2 g 6 2 2 4 2 g 1h 1"]),
   (["armi", "imperialaramaic"], ofRows
    ["1g74 l 2 8"]),
   (["armn", "armenian"], ofRows
    ["10x 11 3 1d 3 2 1chw 4"]),
   (["avst", "avestan"], ofRows
    ["1gqo 1h 4 6"]),
   (["bali", "balinese"], ofRows
    ["5c0 24 2 1d"]),
   (["bamu", "bamum"], ofRows
    ["www 2f 124p fs"]),
   (["bass", "bassavah"], ofRows
    ["1zo0 t 3 5"]),
   (["batk", "batak"], ofRows
    ["5hc 1f 9 3"]),
   (["beng", "bengali"], ofRows
    ["1vk 3 2 7 3 1 3 l 2 6 2 0 4 3 3 8 3 1 3 3 9 0 5 1 2 4 3 o"]),
   (["bhks", "bhaiksuki"], ofRows
    ["1k3k 8 2 18 2 d b s"]),
   (["bopo", "bopomofo"], ofRows
    ["kq 1 93u 16 35 v"]),
   (["brah", "brahmi"], ofRows
    ["1hq8 25 5 z a 0"]),
   (["brai", "braille"], ofRows
    ["7wg 73"]),
   (["bugi", "buginese"], ofRows
    ["54w r 3 1"]),
   (["buhd", "buhid"], ofRows
    ["4lc j"]),
   (["cakm", "chakma"], ofRows
    ["1hxc 1g 2 h"]),
   (["cans", "canadianaboriginal"], ofRows
    ["3y8 hr fl 1x 1ewr f"]),
   (["cari", "carian"], ofRows
    ["1f34 1c"]),
   (["cham"], ofRows
    ["xkw 1i a d 3 9 3 3"]),
   (["cher", "cherokee"], ofRows
    ["3vk 2d 3 5 twz 27"]),
   (["chrs", "chorasmian"], ofRows
    ["1ho0 r"]),
   (["copt", "coptic", "qaac"], ofRows
    ["rm d 80h 37 6 6"]),
   (["cpmn", "cyprominoan"], ofRows
    ["1nyo 2q"]),
   (["cprt", "cypriot"], ofRows
    ["1g5c 5 3 0 2 17 2 1 4 0 3 0"]),
   (["cyrl", "cyrillic"], ofRows
    ["sg 3o 3 4o 4lt a 4h 0 25 0 38o v nr5 2n han 1 18n5 1p y 0"]),
   (["deva", "devanagari"], ofRows
    ["1s0 28 5 e 3 p vhd v mip 9"]),
   (["diak", "divesakuru"], ofRows
    ["1ji8 6 3 0 3 7 2 1 2 t 2 1 3 b a 9"]),
   (["dogr", "dogra"], ofRows
    ["1jb4 1n"]),
   (["dsrt", "deseret"], ofRows
    ["1fcw 27"]),
   (["dupl", "duployan"], ofRows
    ["2fpc 2y 6 c 4 8 8 9 3 3"]),
   (["egyp", "egyptianhieroglyphs"], ofRows
    ["1o1s ut b 32y"]),
   (["elba", "elbasan"], ofRows
    ["1fk0 13"]),
   (["elym", "elymaic"], ofRows
    ["1hpc m"]),
   (["ethi", "ethiopic"], ofRows
    ["3k0 20 2 3 3 6 2 0 2 3 3 14 2 3 3 w 2 3 3 6 2 0 2 3 3 e 2 1k 2 3 3 1u 3 v 4 p 547 m a 6",
     "2 6 2 6 2 6 2 6 2 6 2 6 2 6 opv 5 3 5 3 5 a 6 2 6 1qk2 6 2 3 2 1 2 e"]),
   (["geor", "georgian"], ofRows
    ["3a8 11 2 0 6 0 3 16 2 3 2a9 16 3 2 37l 11 2 0 6 0"]),
   (["glag", "glagolitic"], ofRows
    ["8ow 2n 2e1t 6 2 g 3 6 2 1 2 4"]),
   (["gong", "gunjalagondi"], ofRows
    ["1kdc 5 2 1 2 10 2 1 2 5 8 9"]),
   (["gonm", "masaramgondi"], ofRows
    ["1kao 6 2 1 2 17 4 0 2 1 2 8 9 9"]),
   (["goth", "gothic"], ofRows
    ["1f74 q"]),
   (["gran", "grantha"], ofRows
    ["1ibk 3 2 7 3 1 3 l 2 6 2 1 2 4 3 8 3 1 3 2 3 0 7 0 6 6 3 6 4 4"]),
   (["grek", "greek"], ofRows
    ["og 3 2 2 3 3 2 0 5 0 2 0 2 2 2 0 2 j 2 1q f f 4yv 4 1f 4 5 4 2d 0 8x l 3 5 3 11 3 5 3 7",
     "2 0 2 0 2 0 2 u 3 1g 2 e 2 d 3 5 2 i 3 2 2 8 88 0 rb3 0 gyj 26 i 0 155s 1x"]),
   (["gujr", "gujarati"], ofRows
    ["22p 2 2 8 2 2 2 l 2 6 2 1 2 4 3 9 2 2 2 2 3 0 g 3 3 b 8 6"]),
   (["guru", "gurmukhi"], ofRows
    ["1z5 2 2 5 5 1 3 l 2 6 2 1 2 1 2 1 3 0 2 4 5 1 3 2 4 0 8 3 2 0 8 g"]),
   (["hang", "hangul"], ofRows
    ["3cw 73 5yn 1 76 2l 36 u 1u u nhe s hw 8mb d m 5 1c 7tx u 4 5 3 5 3 5 3 2"]),
   (["hani", "han"], ofRows
    ["96o p 2 2g d 5x 1c 0 2 0 q 8 f 3 qt 533 1t g73 hkx a5 3 2x n49 1 d 1 sgf wyn x 37d 7 65",
     "3 4g1 f 5rk g h9 1wj f1 15v 3t6 6 38f"]),
   (["hano", "hanunoo"], ofRows
    ["4kg k"]),
   (["hatr", "hatran"], ofRows
    ["1gbk i 2 1 6 4"]),
   (["hebr", "hebrew"], ofRows
    ["13l 1i 9 q 5 5 1cfd p 2 4 2 0 2 1 2 1 2 9"]),
   (["hira", "hiragana"], ofRows
    ["9j5 2d 7 2 23qa 7y j 0 u 2 cry 0"]),
   (["hluw", "anatolianhieroglyphs"], ofRows
    ["1s00 g6"]),
   (["hmng", "pahawhhmong"], ofRows
    ["1zpc 1x b 9 2 6 2 k 6 i"]),
   (["hmnp", "nyiakengpuachuehmong"], ofRows
    ["2n0g 18 4 d 3 9 5 1"]),
   (["hung", "oldhungarian"], ofRows
    ["1h1c 1e e 1e 8 5"]),
   (["ital", "olditalic"], ofRows
    ["1f5s z a 2"]),
   (["java", "javanese"], ofRows
    ["xhc 25 3 9 5 1"]),
   (["kali", "kayahli"], ofRows
    ["xds 19 2 0"]),
   (["kana", "katakana"], ofRows
    ["9lt 2h 3 2 6p f 5t 1a 2 2f 14b3 9 2 18 ytv 3 2 6 2 1 2 0 80 2 1f 0 f 3"]),
   (["kawi"], ofRows
    ["1kow g 2 14 4 s"]),
   (["khar", "kharoshthi"], ofRows
    ["1gjk 3 2 1 6 7 2 2 2 s 3 2 5 9 8 8"]),
   (["khmr", "khmer"], ofRows
    ["4n4 2l 3 9 7 9 dj v"]),
   (["khoj", "khojki"], ofRows
    ["1i4g h 2 1a"]),
   (["kits", "khitansmallscript"], ofRows
    ["20o4 0 5cs d1 16 0"]),
   (["knda", "kannada"], ofRows
    ["2gw c 2 2 2 m 2 9 2 4 3 8 2 2 2 3 8 1 7 1 2 3 3 9 2 2"]),
   (["kthi", "kaithi"], ofRows
    ["1hts 1u b 0"]),
   (["lana", "taitham"], ofRows
    ["55s 1q 2 s 3 a 7 9 7 d"]),
   (["laoo", "lao"], ofRows
    ["2v5 1 2 0 2 4 2 n 2 0 2 m 3 4 2 0 2 6 2 9 3 3"]),
   (["latn", "latin"], ofRows
    ["1t p 7 p 1c 0 g 0 6 m 2 u 2 cg 14 4 55o 11 7 1c 6 3 6 c 2 1x 1u 73 aa 0 e 0 h c 3y 1 7 0",
     "s 0 i 14 254 v o83 2t 4 1u 3 1 2 0 2 7 m d mp 16 2 8 2 3 fpz 6 t7 p 7 p 1ly 5 2 15 2 8",
     "16iu u 7 5"]),
   (["lepc", "lepcha"], ofRows
    ["5j4 1j 4 e 4 2"]),
   (["limb", "limbu"], ofRows
    ["4xs u 2 b 5 b 5 0 4 b"]),
   (["lina", "lineara"], ofRows
    ["1fr4 8m a l b 7"]),
   (["linb", "linearb"], ofRows
    ["1ekg b 2 p 2 i 2 1 2 e 3 d z 3e"]),
   (["lisu"], ofRows
    ["wk0 1b o8h 0"]),
   (["lyci", "lycian"], ofRows
    ["1f28 s"]),
   (["lydi", "lydian"], ofRows
    ["1gdc p 6 0"]),
   (["mahj", "mahajani"], ofRows
    ["1hzk 12"]),
   (["maka", "makasar"], ofRows
    ["1ko0 o"]),
   (["mand", "mandaic"], ofRows
    ["1mo r 3 0"]),
   (["mani", "manichaean"], ofRows
    ["1gow 12 5 b"]),
   (["marc", "marchen"], ofRows
    ["1k6o v 3 l 2 d"]),
   (["medf", "medefaidrin"], ofRows
    ["20cg 2i"]),
   (["mend", "mendekikakui"], ofRows
    ["2oe8 5g 3 f"]),
   (["merc", "meroiticcursive"], ofRows
    ["1ggw n 5 j 3 19"]),
   (["mero", "meroitichieroglyphs"], ofRows
    ["1gg0 v"]),
   (["mlym", "malayalam"], ofRows
    ["2kg c 2 2 2 1e 2 2 2 5 5 f 3 p"]),
   (["modi"], ofRows
    ["1iww 1w c 9"]),
   (["mong", "mongolian"], ofRows
    ["4qo 1 3 0 2 j 7 2g 8 16 1e46 c"]),
   (["mroo", "mro"], ofRows
    ["1zk0 u 2 9 5 1"]),
   (["mtei", "meeteimayek"], ofRows
    ["xr4 m 5m 19 3 9"]),
   (["mult", "multani"], ofRows
    ["1i80 6 2 0 2 3 2 e 2 a"]),
   (["mymr", "myanmar"], ofRows
    ["35s 4f u9t u 2q v le9 j"]),
   (["nagm", "nagmundari"], ofRows
    ["2nrk 15"]),
   (["nand", "nandinagari"], ofRows
    ["1jmo 7 3 19 3 a"]),
   (["narb", "oldnortharabian"], ofRows
    ["1gn4 v"]),
   (["nbat", "nabataean"], ofRows
    ["1g8w u 9 8"]),
   (["newa"], ofRows
    ["1iio 2j 2 4"]),
   (["nkoo", "nko"], ofRows
    ["1j4 1m 3 2"]),
   (["nshu", "nushu"], ofRows
    ["20o1 0 cy7 az"]),
   (["ogam", "ogham"], ofRows
    ["4g0 s"]),
   (["olck", "olchiki"], ofRows
    ["5lc 1b"]),
   (["orkh", "oldturkic"], ofRows
    ["1gxs 20"]),
   (["orya", "oriya"], ofRows
    ["269 2 2 7 3 1 3 l 2 6 2 1 2 4 3 8 3 1 3 2 8 2 5 1 2 4 3 h"]),
   (["osge", "osage"], ofRows
    ["1fhs z 5 z"]),
   (["osma", "osmanya"], ofRows
    ["1fgg t 3 9"]),
   (["ougr", "olduyghur"], ofRows
    ["1hm8 p"]),
   (["palm", "palmyrene"], ofRows
    ["1g80 v"]),
   (["pauc", "paucinhau"], ofRows
    ["1juo 1k"]),
   (["perm", "oldpermic"], ofRows
    ["1f80 16"]),
   (["phag", "phagspa"], ofRows
    ["x8g 1j"]),
   (["phli", "inscriptionalpahlavi"], ofRows
    ["1gtc i 6 7"]),
   (["phlp", "psalterpahlavi"], ofRows
    ["1gu8 h 8 3 d 6"]),
   (["phnx", "phoenician"], ofRows
    ["1gcg r 4 0"]),
   (["plrd", "miao"], ofRows
    ["20hs 22 5 1k 8 g"]),
   (["prti", "inscriptionalparthian"], ofRows
    ["1gsg l 3 7"]),
   (["rjng", "rejang"], ofRows
    ["xf4 z c 0"]),
   (["rohg", "hanifirohingya"], ofRows
    ["1h4w 13 9 9"]),
   (["runr", "runic"], ofRows
    ["4gw 22 4 a"]),
   (["samr", "samaritan"], ofRows
    ["1kw 19 3 e"]),
   (["sarb", "oldsoutharabian"], ofRows
    ["1gm8 v"]),
   (["saur", "saurashtra"], ofRows
    ["xa8 1x 9 b"]),
   (["sgnw", "signwriting"], ofRows
    ["2l8g i3 g 4 2 e"]),
   (["shaw", "shavian"], ofRows
    ["1ff4 1b"]),
   (["shrd", "sharada"], ofRows
    ["1i0w 2n"]),
   (["sidd", "siddham"], ofRows
    ["1itc 1h 3 11"]),
   (["sind", "khudawadi"], ofRows
    ["1i9c 1m 6 9"]),
   (["sinh", "sinhala"], ofRows
    ["2o1 2 2 h 4 n 2 8 2 0 3 6 4 0 5 5 2 0 2 7 7 9 3 2 1fcd j"]),
   (["sogd", "sogdian"], ofRows
    ["1hkg 15"]),
   (["sogo", "oldsogdian"], ofRows
    ["1hj4 13"]),
   (["sora", "sorasompeng"], ofRows
    ["1hw0 o 8 9"]),
   (["soyo", "soyombo"], ofRows
    ["1jrk 2a"]),
   (["sund", "sundanese"], ofRows
    ["5fk 1r 75 7"]),
   (["sylo", "sylotinagri"], ofRows
    ["x6o 18"]),
   (["syrc", "syriac"], ofRows
    ["1ds d 2 1n 3 2 7l a"]),
   (["tagb", "tagbanwa"], ofRows
    ["4m8 c 2 2 2 1"]),
   (["takr", "takri"], ofRows
    ["1j0g 1l 7 9"]),
   (["tale", "taile"], ofRows
    ["500 t 3 4"]),
   (["talu", "newtailue"], ofRows
    ["51c 17 5 p 7 a 4 1"]),
   (["taml", "tamil"], ofRows
    ["29u 1 2 5 4 2 2 3 4 1 2 0 2 1 4 1 4 2 4 b 5 4 4 2 2 3 3 0 7 0 f k 1ih2 1d e 0"]),
   (["tang", "tangut"], ofRows
    ["20o0 0 w 4qf 9 lb e9 8"]),
   (["tavt", "taiviet"], ofRows
    ["xog 1u p 4"]),
   (["telu", "telugu"], ofRows
    ["2dc c 2 2 2 m 2 f 3 8 2 2 2 3 8 1 2 2 3 0 3 3 3 9 8 8"]),
   (["tfng", "tifinagh"], ofRows
    ["8xc 1j 8 1 f 0"]),
   (["tglg", "tagalog"], ofRows
    ["4jk l a 0"]),
   (["thaa", "thaana"], ofRows
    ["1hc 1d"]),
   (["thai"], ofRows
    ["2rl 1l 6 r"]),
   (["tibt", "tibetan"], ofRows
    ["2yo 1z 2 z 5 12 2 z 2 e 2 6 5 1"]),
   (["tirh", "tirhuta"], ofRows
    ["1im8 1z 9 9"]),
   (["tnsa", "tangsa"], ofRows
    ["1zlc 26 2 9"]),
   (["toto"], ofRows
    ["2nbk u"]),
   (["ugar", "ugaritic"], ofRows
    ["1f9c t 2 0"]),
   (["vaii", "vai"], ofRows
    ["wlc 8b"]),
   (["vith", "vithkuqi"], ofRows
    ["1fn4 a 2 e 2 6 2 1 2 a 2 e 2 6 2 1"]),
   (["wara", "warangciti"], ofRows
    ["1jfk 2a d 0"]),
   (["wcho", "wancho"], ofRows
    ["2ncw 1l 6 0"]),
   (["xpeo", "oldpersian"], ofRows
    ["1fa8 z 5 d"]),
   (["xsux", "cuneiform"], ofRows
    ["1kw0 pl 2v 32 2 4 c 5f"]),
   (["yezi", "yezidi"], ofRows
    ["1hfk 15 2 2 3 1"]),
   (["yiii", "yi"], ofRows
    ["vls wc 4 1i"]),
   (["zanb", "zanabazarsquare"], ofRows
    ["1jpc 1z"]),
   (["zinh", "inherited", "qaai"], ofRows
    ["lc 33 7q 1 cl a r 0 kh 3 3fg u ea 2 2 c 2 6 5 0 7 0 4 1 5j 1r el 1 5f w 30a 3 30 1 14km f",
     "h d r4 0 6b 0 38b 0 1139 19 3 m f5 2 i 7 3 6 v 3 h45v 6n"]),
   (["zyyy", "common"], ofRows
    ["0 1s r 5 r 1a 2 e 2 4 o 0 w 0 ci 12 6 4 3 j 39 0 a 0 7 0 2 0 hq 0 7 0 f 0 4 0 x 0 4d 0",
     "ed 0 3m 1 yi 0 ba 3 83 0 168 2 20 1 5o 1 2 0 y6 0 e 0 8 3 2 5 2 2 3 0 li b 3 2e 2 a 4 a",
     "2 e i w 1s 11 2 2 3 5 2 q 2 g 16 2 5 ih n a m pr 75 hf 3 v 2 2w e9 2l b7 k 2 0 2 o g 7",
     "5 3 2k 1 4 0 2j 1 44 f x 11 a 0 1d 1r w 28 1c 0 2h 4n 535 1r hkx x 2v 2 4m 9 6t 0 4h 0",
     "b0 0 f 1 g5v 1 5t 9 n y 2 i 2 3 44 0 2 v r 5 r a b 0 1a 1 1t 6 2 6 b 4 77 2 5 18 4 8 29 c",
     "1g 18 6d q 10o5 3 319 6x 7 c3 4d 37 1p 6t b 12 3 1p 4 g 9 1 8 t 5 1o 5y j d j d 2e a o",
     "3s 2c 2 1y 2 1 3 0 3 1 3 3 2 b 2 0 2 6 2 1s 2 3 3 7 2 6 2 r 2 3 2 4 2 0 4 6 2 9f 3 83",
     "3 1d 41e 1v 25 1o jn 17 5 2r d e 3 e 2 e 2 10 b 4t 1l p 2 1 e 17 5 8 8 1 f 5 4b rb 5 g",
     "4 c 4 3a 5 2m 7 b 5 0 g b 5 1j 9 9 7 13 9 t 3 b 5 1 1r 9f d d 3 c 4 9 6 1j 8 e 3 a 7 8",
     "8 42 2 2t gvm0 0 v 2n"]),
   (["gara", "garay"], ofRows
    ["1h6o 11 4 s 9 1"]),
   (["gukh", "gurungkhema"], ofRows
    ["1xq8 1l"]),
   (["krai", "kiratrai"], ofRows
    ["205c 1l"]),
   (["onao", "olonal"], ofRows
    ["2nyo 16 5 0"]),
   (["sunu", "sunuwar"], ofRows
    ["1k1s x f 9"]),
   (["todr", "todhri"], ofRows
    ["1fpc 1f"]),
   (["tutg", "tulutigalari"], ofRows
    ["1if4 9 2 0 3 0 2 11 2 9 2 0 3 0 2 3 2 9 2 1 9 1"])]

def script? (name : String) : Option Ranges :=
  (scripts.find? fun entry ↦ entry.1.contains name).map Prod.snd

end ToolSchema.Unicode
