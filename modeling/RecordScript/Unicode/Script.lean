import RecordScript.Unicode.RangeTable

/-!
# Scripts

The script of every character, and the names by which patterns refer to scripts. A script is known
by its code of four letters.
-/

namespace RecordScript.Unicode

/-- The code of each script with its longer names. -/
def scriptNames : List (String × List String) := [
  ("Adlm", ["Adlam"]), ("Ahom", ["Ahom"]), ("Hluw", ["Anatolian_Hieroglyphs"]),
  ("Arab", ["Arabic"]), ("Armn", ["Armenian"]), ("Avst", ["Avestan"]), ("Bali", ["Balinese"]),
  ("Bamu", ["Bamum"]), ("Bass", ["Bassa_Vah"]), ("Batk", ["Batak"]), ("Beng", ["Bengali"]),
  ("Berf", ["Beria_Erfe"]), ("Bhks", ["Bhaiksuki"]), ("Bopo", ["Bopomofo"]),
  ("Brah", ["Brahmi"]), ("Brai", ["Braille"]), ("Bugi", ["Buginese"]), ("Buhd", ["Buhid"]),
  ("Cans", ["Canadian_Aboriginal"]), ("Cari", ["Carian"]), ("Aghb", ["Caucasian_Albanian"]),
  ("Cakm", ["Chakma"]), ("Cham", ["Cham"]), ("Cher", ["Cherokee"]), ("Chrs", ["Chorasmian"]),
  ("Zyyy", ["Common"]), ("Copt", ["Coptic", "Qaac"]), ("Xsux", ["Cuneiform"]),
  ("Cprt", ["Cypriot"]), ("Cpmn", ["Cypro_Minoan"]), ("Cyrl", ["Cyrillic"]),
  ("Dsrt", ["Deseret"]), ("Deva", ["Devanagari"]), ("Diak", ["Dives_Akuru"]),
  ("Dogr", ["Dogra"]), ("Dupl", ["Duployan"]), ("Egyp", ["Egyptian_Hieroglyphs"]),
  ("Elba", ["Elbasan"]), ("Elym", ["Elymaic"]), ("Ethi", ["Ethiopic"]), ("Gara", ["Garay"]),
  ("Geor", ["Georgian"]), ("Glag", ["Glagolitic"]), ("Goth", ["Gothic"]), ("Gran", ["Grantha"]),
  ("Grek", ["Greek"]), ("Gujr", ["Gujarati"]), ("Gong", ["Gunjala_Gondi"]),
  ("Guru", ["Gurmukhi"]), ("Gukh", ["Gurung_Khema"]), ("Hani", ["Han"]), ("Hang", ["Hangul"]),
  ("Rohg", ["Hanifi_Rohingya"]), ("Hano", ["Hanunoo"]), ("Hatr", ["Hatran"]),
  ("Hebr", ["Hebrew"]), ("Hira", ["Hiragana"]), ("Armi", ["Imperial_Aramaic"]),
  ("Zinh", ["Inherited", "Qaai"]), ("Phli", ["Inscriptional_Pahlavi"]),
  ("Prti", ["Inscriptional_Parthian"]), ("Java", ["Javanese"]), ("Kthi", ["Kaithi"]),
  ("Knda", ["Kannada"]), ("Kana", ["Katakana"]), ("Kawi", ["Kawi"]), ("Kali", ["Kayah_Li"]),
  ("Khar", ["Kharoshthi"]), ("Kits", ["Khitan_Small_Script"]), ("Khmr", ["Khmer"]),
  ("Khoj", ["Khojki"]), ("Sind", ["Khudawadi"]), ("Krai", ["Kirat_Rai"]), ("Laoo", ["Lao"]),
  ("Latn", ["Latin"]), ("Lepc", ["Lepcha"]), ("Limb", ["Limbu"]), ("Lina", ["Linear_A"]),
  ("Linb", ["Linear_B"]), ("Lisu", ["Lisu"]), ("Lyci", ["Lycian"]), ("Lydi", ["Lydian"]),
  ("Mahj", ["Mahajani"]), ("Maka", ["Makasar"]), ("Mlym", ["Malayalam"]), ("Mand", ["Mandaic"]),
  ("Mani", ["Manichaean"]), ("Marc", ["Marchen"]), ("Gonm", ["Masaram_Gondi"]),
  ("Medf", ["Medefaidrin"]), ("Mtei", ["Meetei_Mayek"]), ("Mend", ["Mende_Kikakui"]),
  ("Merc", ["Meroitic_Cursive"]), ("Mero", ["Meroitic_Hieroglyphs"]), ("Plrd", ["Miao"]),
  ("Modi", ["Modi"]), ("Mong", ["Mongolian"]), ("Mroo", ["Mro"]), ("Mult", ["Multani"]),
  ("Mymr", ["Myanmar"]), ("Nbat", ["Nabataean"]), ("Nagm", ["Nag_Mundari"]),
  ("Nand", ["Nandinagari"]), ("Talu", ["New_Tai_Lue"]), ("Newa", ["Newa"]), ("Nkoo", ["Nko"]),
  ("Nshu", ["Nushu"]), ("Hmnp", ["Nyiakeng_Puachue_Hmong"]), ("Ogam", ["Ogham"]),
  ("Olck", ["Ol_Chiki"]), ("Onao", ["Ol_Onal"]), ("Hung", ["Old_Hungarian"]),
  ("Ital", ["Old_Italic"]), ("Narb", ["Old_North_Arabian"]), ("Perm", ["Old_Permic"]),
  ("Xpeo", ["Old_Persian"]), ("Sogo", ["Old_Sogdian"]), ("Sarb", ["Old_South_Arabian"]),
  ("Orkh", ["Old_Turkic"]), ("Ougr", ["Old_Uyghur"]), ("Orya", ["Oriya"]), ("Osge", ["Osage"]),
  ("Osma", ["Osmanya"]), ("Hmng", ["Pahawh_Hmong"]), ("Palm", ["Palmyrene"]),
  ("Pauc", ["Pau_Cin_Hau"]), ("Phag", ["Phags_Pa"]), ("Phnx", ["Phoenician"]),
  ("Phlp", ["Psalter_Pahlavi"]), ("Rjng", ["Rejang"]), ("Runr", ["Runic"]),
  ("Samr", ["Samaritan"]), ("Saur", ["Saurashtra"]), ("Shrd", ["Sharada"]),
  ("Shaw", ["Shavian"]), ("Sidd", ["Siddham"]), ("Sidt", ["Sidetic"]), ("Sgnw", ["SignWriting"]),
  ("Sinh", ["Sinhala"]), ("Sogd", ["Sogdian"]), ("Sora", ["Sora_Sompeng"]),
  ("Soyo", ["Soyombo"]), ("Sund", ["Sundanese"]), ("Sunu", ["Sunuwar"]),
  ("Sylo", ["Syloti_Nagri"]), ("Syrc", ["Syriac"]), ("Tglg", ["Tagalog"]),
  ("Tagb", ["Tagbanwa"]), ("Tale", ["Tai_Le"]), ("Lana", ["Tai_Tham"]), ("Tavt", ["Tai_Viet"]),
  ("Tayo", ["Tai_Yo"]), ("Takr", ["Takri"]), ("Taml", ["Tamil"]), ("Tnsa", ["Tangsa"]),
  ("Tang", ["Tangut"]), ("Telu", ["Telugu"]), ("Thaa", ["Thaana"]), ("Thai", ["Thai"]),
  ("Tibt", ["Tibetan"]), ("Tfng", ["Tifinagh"]), ("Tirh", ["Tirhuta"]), ("Todr", ["Todhri"]),
  ("Tols", ["Tolong_Siki"]), ("Toto", ["Toto"]), ("Tutg", ["Tulu_Tigalari"]),
  ("Ugar", ["Ugaritic"]), ("Vaii", ["Vai"]), ("Vith", ["Vithkuqi"]), ("Wcho", ["Wancho"]),
  ("Wara", ["Warang_Citi"]), ("Yezi", ["Yezidi"]), ("Yiii", ["Yi"]),
  ("Zanb", ["Zanabazar_Square"]), ("Zzzz", ["Unknown"])]

set_option maxRecDepth 60000 in
/-- The first code point of each run of characters of one script, with the code of the script. -/
def scriptRuns : Array (Nat × String) := #[
  (0x0000, "Zyyy"), (0x0041, "Latn"), (0x005B, "Zyyy"), (0x0061, "Latn"), (0x007B, "Zyyy"),
  (0x00AA, "Latn"), (0x00AB, "Zyyy"), (0x00BA, "Latn"), (0x00BB, "Zyyy"), (0x00C0, "Latn"),
  (0x00D7, "Zyyy"), (0x00D8, "Latn"), (0x00F7, "Zyyy"), (0x00F8, "Latn"), (0x02B9, "Zyyy"),
  (0x02E0, "Latn"), (0x02E5, "Zyyy"), (0x02EA, "Bopo"), (0x02EC, "Zyyy"), (0x0300, "Zinh"),
  (0x0370, "Grek"), (0x0374, "Zyyy"), (0x0375, "Grek"), (0x0378, "Zzzz"), (0x037A, "Grek"),
  (0x037E, "Zyyy"), (0x037F, "Grek"), (0x0380, "Zzzz"), (0x0384, "Grek"), (0x0385, "Zyyy"),
  (0x0386, "Grek"), (0x0387, "Zyyy"), (0x0388, "Grek"), (0x038B, "Zzzz"), (0x038C, "Grek"),
  (0x038D, "Zzzz"), (0x038E, "Grek"), (0x03A2, "Zzzz"), (0x03A3, "Grek"), (0x03E2, "Copt"),
  (0x03F0, "Grek"), (0x0400, "Cyrl"), (0x0485, "Zinh"), (0x0487, "Cyrl"), (0x0530, "Zzzz"),
  (0x0531, "Armn"), (0x0557, "Zzzz"), (0x0559, "Armn"), (0x058B, "Zzzz"), (0x058D, "Armn"),
  (0x0590, "Zzzz"), (0x0591, "Hebr"), (0x05C8, "Zzzz"), (0x05D0, "Hebr"), (0x05EB, "Zzzz"),
  (0x05EF, "Hebr"), (0x05F5, "Zzzz"), (0x0600, "Arab"), (0x0605, "Zyyy"), (0x0606, "Arab"),
  (0x060C, "Zyyy"), (0x060D, "Arab"), (0x061B, "Zyyy"), (0x061C, "Arab"), (0x061F, "Zyyy"),
  (0x0620, "Arab"), (0x0640, "Zyyy"), (0x0641, "Arab"), (0x064B, "Zinh"), (0x0656, "Arab"),
  (0x0670, "Zinh"), (0x0671, "Arab"), (0x06DD, "Zyyy"), (0x06DE, "Arab"), (0x0700, "Syrc"),
  (0x070E, "Zzzz"), (0x070F, "Syrc"), (0x074B, "Zzzz"), (0x074D, "Syrc"), (0x0750, "Arab"),
  (0x0780, "Thaa"), (0x07B2, "Zzzz"), (0x07C0, "Nkoo"), (0x07FB, "Zzzz"), (0x07FD, "Nkoo"),
  (0x0800, "Samr"), (0x082E, "Zzzz"), (0x0830, "Samr"), (0x083F, "Zzzz"), (0x0840, "Mand"),
  (0x085C, "Zzzz"), (0x085E, "Mand"), (0x085F, "Zzzz"), (0x0860, "Syrc"), (0x086B, "Zzzz"),
  (0x0870, "Arab"), (0x0892, "Zzzz"), (0x0897, "Arab"), (0x08E2, "Zyyy"), (0x08E3, "Arab"),
  (0x0900, "Deva"), (0x0951, "Zinh"), (0x0955, "Deva"), (0x0964, "Zyyy"), (0x0966, "Deva"),
  (0x0980, "Beng"), (0x0984, "Zzzz"), (0x0985, "Beng"), (0x098D, "Zzzz"), (0x098F, "Beng"),
  (0x0991, "Zzzz"), (0x0993, "Beng"), (0x09A9, "Zzzz"), (0x09AA, "Beng"), (0x09B1, "Zzzz"),
  (0x09B2, "Beng"), (0x09B3, "Zzzz"), (0x09B6, "Beng"), (0x09BA, "Zzzz"), (0x09BC, "Beng"),
  (0x09C5, "Zzzz"), (0x09C7, "Beng"), (0x09C9, "Zzzz"), (0x09CB, "Beng"), (0x09CF, "Zzzz"),
  (0x09D7, "Beng"), (0x09D8, "Zzzz"), (0x09DC, "Beng"), (0x09DE, "Zzzz"), (0x09DF, "Beng"),
  (0x09E4, "Zzzz"), (0x09E6, "Beng"), (0x09FF, "Zzzz"), (0x0A01, "Guru"), (0x0A04, "Zzzz"),
  (0x0A05, "Guru"), (0x0A0B, "Zzzz"), (0x0A0F, "Guru"), (0x0A11, "Zzzz"), (0x0A13, "Guru"),
  (0x0A29, "Zzzz"), (0x0A2A, "Guru"), (0x0A31, "Zzzz"), (0x0A32, "Guru"), (0x0A34, "Zzzz"),
  (0x0A35, "Guru"), (0x0A37, "Zzzz"), (0x0A38, "Guru"), (0x0A3A, "Zzzz"), (0x0A3C, "Guru"),
  (0x0A3D, "Zzzz"), (0x0A3E, "Guru"), (0x0A43, "Zzzz"), (0x0A47, "Guru"), (0x0A49, "Zzzz"),
  (0x0A4B, "Guru"), (0x0A4E, "Zzzz"), (0x0A51, "Guru"), (0x0A52, "Zzzz"), (0x0A59, "Guru"),
  (0x0A5D, "Zzzz"), (0x0A5E, "Guru"), (0x0A5F, "Zzzz"), (0x0A66, "Guru"), (0x0A77, "Zzzz"),
  (0x0A81, "Gujr"), (0x0A84, "Zzzz"), (0x0A85, "Gujr"), (0x0A8E, "Zzzz"), (0x0A8F, "Gujr"),
  (0x0A92, "Zzzz"), (0x0A93, "Gujr"), (0x0AA9, "Zzzz"), (0x0AAA, "Gujr"), (0x0AB1, "Zzzz"),
  (0x0AB2, "Gujr"), (0x0AB4, "Zzzz"), (0x0AB5, "Gujr"), (0x0ABA, "Zzzz"), (0x0ABC, "Gujr"),
  (0x0AC6, "Zzzz"), (0x0AC7, "Gujr"), (0x0ACA, "Zzzz"), (0x0ACB, "Gujr"), (0x0ACE, "Zzzz"),
  (0x0AD0, "Gujr"), (0x0AD1, "Zzzz"), (0x0AE0, "Gujr"), (0x0AE4, "Zzzz"), (0x0AE6, "Gujr"),
  (0x0AF2, "Zzzz"), (0x0AF9, "Gujr"), (0x0B00, "Zzzz"), (0x0B01, "Orya"), (0x0B04, "Zzzz"),
  (0x0B05, "Orya"), (0x0B0D, "Zzzz"), (0x0B0F, "Orya"), (0x0B11, "Zzzz"), (0x0B13, "Orya"),
  (0x0B29, "Zzzz"), (0x0B2A, "Orya"), (0x0B31, "Zzzz"), (0x0B32, "Orya"), (0x0B34, "Zzzz"),
  (0x0B35, "Orya"), (0x0B3A, "Zzzz"), (0x0B3C, "Orya"), (0x0B45, "Zzzz"), (0x0B47, "Orya"),
  (0x0B49, "Zzzz"), (0x0B4B, "Orya"), (0x0B4E, "Zzzz"), (0x0B55, "Orya"), (0x0B58, "Zzzz"),
  (0x0B5C, "Orya"), (0x0B5E, "Zzzz"), (0x0B5F, "Orya"), (0x0B64, "Zzzz"), (0x0B66, "Orya"),
  (0x0B78, "Zzzz"), (0x0B82, "Taml"), (0x0B84, "Zzzz"), (0x0B85, "Taml"), (0x0B8B, "Zzzz"),
  (0x0B8E, "Taml"), (0x0B91, "Zzzz"), (0x0B92, "Taml"), (0x0B96, "Zzzz"), (0x0B99, "Taml"),
  (0x0B9B, "Zzzz"), (0x0B9C, "Taml"), (0x0B9D, "Zzzz"), (0x0B9E, "Taml"), (0x0BA0, "Zzzz"),
  (0x0BA3, "Taml"), (0x0BA5, "Zzzz"), (0x0BA8, "Taml"), (0x0BAB, "Zzzz"), (0x0BAE, "Taml"),
  (0x0BBA, "Zzzz"), (0x0BBE, "Taml"), (0x0BC3, "Zzzz"), (0x0BC6, "Taml"), (0x0BC9, "Zzzz"),
  (0x0BCA, "Taml"), (0x0BCE, "Zzzz"), (0x0BD0, "Taml"), (0x0BD1, "Zzzz"), (0x0BD7, "Taml"),
  (0x0BD8, "Zzzz"), (0x0BE6, "Taml"), (0x0BFB, "Zzzz"), (0x0C00, "Telu"), (0x0C0D, "Zzzz"),
  (0x0C0E, "Telu"), (0x0C11, "Zzzz"), (0x0C12, "Telu"), (0x0C29, "Zzzz"), (0x0C2A, "Telu"),
  (0x0C3A, "Zzzz"), (0x0C3C, "Telu"), (0x0C45, "Zzzz"), (0x0C46, "Telu"), (0x0C49, "Zzzz"),
  (0x0C4A, "Telu"), (0x0C4E, "Zzzz"), (0x0C55, "Telu"), (0x0C57, "Zzzz"), (0x0C58, "Telu"),
  (0x0C5B, "Zzzz"), (0x0C5C, "Telu"), (0x0C5E, "Zzzz"), (0x0C60, "Telu"), (0x0C64, "Zzzz"),
  (0x0C66, "Telu"), (0x0C70, "Zzzz"), (0x0C77, "Telu"), (0x0C80, "Knda"), (0x0C8D, "Zzzz"),
  (0x0C8E, "Knda"), (0x0C91, "Zzzz"), (0x0C92, "Knda"), (0x0CA9, "Zzzz"), (0x0CAA, "Knda"),
  (0x0CB4, "Zzzz"), (0x0CB5, "Knda"), (0x0CBA, "Zzzz"), (0x0CBC, "Knda"), (0x0CC5, "Zzzz"),
  (0x0CC6, "Knda"), (0x0CC9, "Zzzz"), (0x0CCA, "Knda"), (0x0CCE, "Zzzz"), (0x0CD5, "Knda"),
  (0x0CD7, "Zzzz"), (0x0CDC, "Knda"), (0x0CDF, "Zzzz"), (0x0CE0, "Knda"), (0x0CE4, "Zzzz"),
  (0x0CE6, "Knda"), (0x0CF0, "Zzzz"), (0x0CF1, "Knda"), (0x0CF4, "Zzzz"), (0x0D00, "Mlym"),
  (0x0D0D, "Zzzz"), (0x0D0E, "Mlym"), (0x0D11, "Zzzz"), (0x0D12, "Mlym"), (0x0D45, "Zzzz"),
  (0x0D46, "Mlym"), (0x0D49, "Zzzz"), (0x0D4A, "Mlym"), (0x0D50, "Zzzz"), (0x0D54, "Mlym"),
  (0x0D64, "Zzzz"), (0x0D66, "Mlym"), (0x0D80, "Zzzz"), (0x0D81, "Sinh"), (0x0D84, "Zzzz"),
  (0x0D85, "Sinh"), (0x0D97, "Zzzz"), (0x0D9A, "Sinh"), (0x0DB2, "Zzzz"), (0x0DB3, "Sinh"),
  (0x0DBC, "Zzzz"), (0x0DBD, "Sinh"), (0x0DBE, "Zzzz"), (0x0DC0, "Sinh"), (0x0DC7, "Zzzz"),
  (0x0DCA, "Sinh"), (0x0DCB, "Zzzz"), (0x0DCF, "Sinh"), (0x0DD5, "Zzzz"), (0x0DD6, "Sinh"),
  (0x0DD7, "Zzzz"), (0x0DD8, "Sinh"), (0x0DE0, "Zzzz"), (0x0DE6, "Sinh"), (0x0DF0, "Zzzz"),
  (0x0DF2, "Sinh"), (0x0DF5, "Zzzz"), (0x0E01, "Thai"), (0x0E3B, "Zzzz"), (0x0E3F, "Zyyy"),
  (0x0E40, "Thai"), (0x0E5C, "Zzzz"), (0x0E81, "Laoo"), (0x0E83, "Zzzz"), (0x0E84, "Laoo"),
  (0x0E85, "Zzzz"), (0x0E86, "Laoo"), (0x0E8B, "Zzzz"), (0x0E8C, "Laoo"), (0x0EA4, "Zzzz"),
  (0x0EA5, "Laoo"), (0x0EA6, "Zzzz"), (0x0EA7, "Laoo"), (0x0EBE, "Zzzz"), (0x0EC0, "Laoo"),
  (0x0EC5, "Zzzz"), (0x0EC6, "Laoo"), (0x0EC7, "Zzzz"), (0x0EC8, "Laoo"), (0x0ECF, "Zzzz"),
  (0x0ED0, "Laoo"), (0x0EDA, "Zzzz"), (0x0EDC, "Laoo"), (0x0EE0, "Zzzz"), (0x0F00, "Tibt"),
  (0x0F48, "Zzzz"), (0x0F49, "Tibt"), (0x0F6D, "Zzzz"), (0x0F71, "Tibt"), (0x0F98, "Zzzz"),
  (0x0F99, "Tibt"), (0x0FBD, "Zzzz"), (0x0FBE, "Tibt"), (0x0FCD, "Zzzz"), (0x0FCE, "Tibt"),
  (0x0FD5, "Zyyy"), (0x0FD9, "Tibt"), (0x0FDB, "Zzzz"), (0x1000, "Mymr"), (0x10A0, "Geor"),
  (0x10C6, "Zzzz"), (0x10C7, "Geor"), (0x10C8, "Zzzz"), (0x10CD, "Geor"), (0x10CE, "Zzzz"),
  (0x10D0, "Geor"), (0x10FB, "Zyyy"), (0x10FC, "Geor"), (0x1100, "Hang"), (0x1200, "Ethi"),
  (0x1249, "Zzzz"), (0x124A, "Ethi"), (0x124E, "Zzzz"), (0x1250, "Ethi"), (0x1257, "Zzzz"),
  (0x1258, "Ethi"), (0x1259, "Zzzz"), (0x125A, "Ethi"), (0x125E, "Zzzz"), (0x1260, "Ethi"),
  (0x1289, "Zzzz"), (0x128A, "Ethi"), (0x128E, "Zzzz"), (0x1290, "Ethi"), (0x12B1, "Zzzz"),
  (0x12B2, "Ethi"), (0x12B6, "Zzzz"), (0x12B8, "Ethi"), (0x12BF, "Zzzz"), (0x12C0, "Ethi"),
  (0x12C1, "Zzzz"), (0x12C2, "Ethi"), (0x12C6, "Zzzz"), (0x12C8, "Ethi"), (0x12D7, "Zzzz"),
  (0x12D8, "Ethi"), (0x1311, "Zzzz"), (0x1312, "Ethi"), (0x1316, "Zzzz"), (0x1318, "Ethi"),
  (0x135B, "Zzzz"), (0x135D, "Ethi"), (0x137D, "Zzzz"), (0x1380, "Ethi"), (0x139A, "Zzzz"),
  (0x13A0, "Cher"), (0x13F6, "Zzzz"), (0x13F8, "Cher"), (0x13FE, "Zzzz"), (0x1400, "Cans"),
  (0x1680, "Ogam"), (0x169D, "Zzzz"), (0x16A0, "Runr"), (0x16EB, "Zyyy"), (0x16EE, "Runr"),
  (0x16F9, "Zzzz"), (0x1700, "Tglg"), (0x1716, "Zzzz"), (0x171F, "Tglg"), (0x1720, "Hano"),
  (0x1735, "Zyyy"), (0x1737, "Zzzz"), (0x1740, "Buhd"), (0x1754, "Zzzz"), (0x1760, "Tagb"),
  (0x176D, "Zzzz"), (0x176E, "Tagb"), (0x1771, "Zzzz"), (0x1772, "Tagb"), (0x1774, "Zzzz"),
  (0x1780, "Khmr"), (0x17DE, "Zzzz"), (0x17E0, "Khmr"), (0x17EA, "Zzzz"), (0x17F0, "Khmr"),
  (0x17FA, "Zzzz"), (0x1800, "Mong"), (0x1802, "Zyyy"), (0x1804, "Mong"), (0x1805, "Zyyy"),
  (0x1806, "Mong"), (0x181A, "Zzzz"), (0x1820, "Mong"), (0x1879, "Zzzz"), (0x1880, "Mong"),
  (0x18AB, "Zzzz"), (0x18B0, "Cans"), (0x18F6, "Zzzz"), (0x1900, "Limb"), (0x191F, "Zzzz"),
  (0x1920, "Limb"), (0x192C, "Zzzz"), (0x1930, "Limb"), (0x193C, "Zzzz"), (0x1940, "Limb"),
  (0x1941, "Zzzz"), (0x1944, "Limb"), (0x1950, "Tale"), (0x196E, "Zzzz"), (0x1970, "Tale"),
  (0x1975, "Zzzz"), (0x1980, "Talu"), (0x19AC, "Zzzz"), (0x19B0, "Talu"), (0x19CA, "Zzzz"),
  (0x19D0, "Talu"), (0x19DB, "Zzzz"), (0x19DE, "Talu"), (0x19E0, "Khmr"), (0x1A00, "Bugi"),
  (0x1A1C, "Zzzz"), (0x1A1E, "Bugi"), (0x1A20, "Lana"), (0x1A5F, "Zzzz"), (0x1A60, "Lana"),
  (0x1A7D, "Zzzz"), (0x1A7F, "Lana"), (0x1A8A, "Zzzz"), (0x1A90, "Lana"), (0x1A9A, "Zzzz"),
  (0x1AA0, "Lana"), (0x1AAE, "Zzzz"), (0x1AB0, "Zinh"), (0x1ADE, "Zzzz"), (0x1AE0, "Zinh"),
  (0x1AEC, "Zzzz"), (0x1B00, "Bali"), (0x1B4D, "Zzzz"), (0x1B4E, "Bali"), (0x1B80, "Sund"),
  (0x1BC0, "Batk"), (0x1BF4, "Zzzz"), (0x1BFC, "Batk"), (0x1C00, "Lepc"), (0x1C38, "Zzzz"),
  (0x1C3B, "Lepc"), (0x1C4A, "Zzzz"), (0x1C4D, "Lepc"), (0x1C50, "Olck"), (0x1C80, "Cyrl"),
  (0x1C8B, "Zzzz"), (0x1C90, "Geor"), (0x1CBB, "Zzzz"), (0x1CBD, "Geor"), (0x1CC0, "Sund"),
  (0x1CC8, "Zzzz"), (0x1CD0, "Zinh"), (0x1CD3, "Zyyy"), (0x1CD4, "Zinh"), (0x1CE1, "Zyyy"),
  (0x1CE2, "Zinh"), (0x1CE9, "Zyyy"), (0x1CED, "Zinh"), (0x1CEE, "Zyyy"), (0x1CF4, "Zinh"),
  (0x1CF5, "Zyyy"), (0x1CF8, "Zinh"), (0x1CFA, "Zyyy"), (0x1CFB, "Zzzz"), (0x1D00, "Latn"),
  (0x1D26, "Grek"), (0x1D2B, "Cyrl"), (0x1D2C, "Latn"), (0x1D5D, "Grek"), (0x1D62, "Latn"),
  (0x1D66, "Grek"), (0x1D6B, "Latn"), (0x1D78, "Cyrl"), (0x1D79, "Latn"), (0x1DBF, "Grek"),
  (0x1DC0, "Zinh"), (0x1E00, "Latn"), (0x1F00, "Grek"), (0x1F16, "Zzzz"), (0x1F18, "Grek"),
  (0x1F1E, "Zzzz"), (0x1F20, "Grek"), (0x1F46, "Zzzz"), (0x1F48, "Grek"), (0x1F4E, "Zzzz"),
  (0x1F50, "Grek"), (0x1F58, "Zzzz"), (0x1F59, "Grek"), (0x1F5A, "Zzzz"), (0x1F5B, "Grek"),
  (0x1F5C, "Zzzz"), (0x1F5D, "Grek"), (0x1F5E, "Zzzz"), (0x1F5F, "Grek"), (0x1F7E, "Zzzz"),
  (0x1F80, "Grek"), (0x1FB5, "Zzzz"), (0x1FB6, "Grek"), (0x1FC5, "Zzzz"), (0x1FC6, "Grek"),
  (0x1FD4, "Zzzz"), (0x1FD6, "Grek"), (0x1FDC, "Zzzz"), (0x1FDD, "Grek"), (0x1FF0, "Zzzz"),
  (0x1FF2, "Grek"), (0x1FF5, "Zzzz"), (0x1FF6, "Grek"), (0x1FFF, "Zzzz"), (0x2000, "Zyyy"),
  (0x200C, "Zinh"), (0x200E, "Zyyy"), (0x2065, "Zzzz"), (0x2066, "Zyyy"), (0x2071, "Latn"),
  (0x2072, "Zzzz"), (0x2074, "Zyyy"), (0x207F, "Latn"), (0x2080, "Zyyy"), (0x208F, "Zzzz"),
  (0x2090, "Latn"), (0x209D, "Zzzz"), (0x20A0, "Zyyy"), (0x20C2, "Zzzz"), (0x20D0, "Zinh"),
  (0x20F1, "Zzzz"), (0x2100, "Zyyy"), (0x2126, "Grek"), (0x2127, "Zyyy"), (0x212A, "Latn"),
  (0x212C, "Zyyy"), (0x2132, "Latn"), (0x2133, "Zyyy"), (0x214E, "Latn"), (0x214F, "Zyyy"),
  (0x2160, "Latn"), (0x2189, "Zyyy"), (0x218C, "Zzzz"), (0x2190, "Zyyy"), (0x242A, "Zzzz"),
  (0x2440, "Zyyy"), (0x244B, "Zzzz"), (0x2460, "Zyyy"), (0x2800, "Brai"), (0x2900, "Zyyy"),
  (0x2B74, "Zzzz"), (0x2B76, "Zyyy"), (0x2C00, "Glag"), (0x2C60, "Latn"), (0x2C80, "Copt"),
  (0x2CF4, "Zzzz"), (0x2CF9, "Copt"), (0x2D00, "Geor"), (0x2D26, "Zzzz"), (0x2D27, "Geor"),
  (0x2D28, "Zzzz"), (0x2D2D, "Geor"), (0x2D2E, "Zzzz"), (0x2D30, "Tfng"), (0x2D68, "Zzzz"),
  (0x2D6F, "Tfng"), (0x2D71, "Zzzz"), (0x2D7F, "Tfng"), (0x2D80, "Ethi"), (0x2D97, "Zzzz"),
  (0x2DA0, "Ethi"), (0x2DA7, "Zzzz"), (0x2DA8, "Ethi"), (0x2DAF, "Zzzz"), (0x2DB0, "Ethi"),
  (0x2DB7, "Zzzz"), (0x2DB8, "Ethi"), (0x2DBF, "Zzzz"), (0x2DC0, "Ethi"), (0x2DC7, "Zzzz"),
  (0x2DC8, "Ethi"), (0x2DCF, "Zzzz"), (0x2DD0, "Ethi"), (0x2DD7, "Zzzz"), (0x2DD8, "Ethi"),
  (0x2DDF, "Zzzz"), (0x2DE0, "Cyrl"), (0x2E00, "Zyyy"), (0x2E5E, "Zzzz"), (0x2E80, "Hani"),
  (0x2E9A, "Zzzz"), (0x2E9B, "Hani"), (0x2EF4, "Zzzz"), (0x2F00, "Hani"), (0x2FD6, "Zzzz"),
  (0x2FF0, "Zyyy"), (0x3005, "Hani"), (0x3006, "Zyyy"), (0x3007, "Hani"), (0x3008, "Zyyy"),
  (0x3021, "Hani"), (0x302A, "Zinh"), (0x302E, "Hang"), (0x3030, "Zyyy"), (0x3038, "Hani"),
  (0x303C, "Zyyy"), (0x3040, "Zzzz"), (0x3041, "Hira"), (0x3097, "Zzzz"), (0x3099, "Zinh"),
  (0x309B, "Zyyy"), (0x309D, "Hira"), (0x30A0, "Zyyy"), (0x30A1, "Kana"), (0x30FB, "Zyyy"),
  (0x30FD, "Kana"), (0x3100, "Zzzz"), (0x3105, "Bopo"), (0x3130, "Zzzz"), (0x3131, "Hang"),
  (0x318F, "Zzzz"), (0x3190, "Zyyy"), (0x31A0, "Bopo"), (0x31C0, "Zyyy"), (0x31E6, "Zzzz"),
  (0x31EF, "Zyyy"), (0x31F0, "Kana"), (0x3200, "Hang"), (0x321F, "Zzzz"), (0x3220, "Zyyy"),
  (0x3260, "Hang"), (0x327F, "Zyyy"), (0x32D0, "Kana"), (0x32FF, "Zyyy"), (0x3300, "Kana"),
  (0x3358, "Zyyy"), (0x3400, "Hani"), (0x4DC0, "Zyyy"), (0x4E00, "Hani"), (0xA000, "Yiii"),
  (0xA48D, "Zzzz"), (0xA490, "Yiii"), (0xA4C7, "Zzzz"), (0xA4D0, "Lisu"), (0xA500, "Vaii"),
  (0xA62C, "Zzzz"), (0xA640, "Cyrl"), (0xA6A0, "Bamu"), (0xA6F8, "Zzzz"), (0xA700, "Zyyy"),
  (0xA722, "Latn"), (0xA788, "Zyyy"), (0xA78B, "Latn"), (0xA7DD, "Zzzz"), (0xA7F1, "Latn"),
  (0xA800, "Sylo"), (0xA82D, "Zzzz"), (0xA830, "Zyyy"), (0xA83A, "Zzzz"), (0xA840, "Phag"),
  (0xA878, "Zzzz"), (0xA880, "Saur"), (0xA8C6, "Zzzz"), (0xA8CE, "Saur"), (0xA8DA, "Zzzz"),
  (0xA8E0, "Deva"), (0xA900, "Kali"), (0xA92E, "Zyyy"), (0xA92F, "Kali"), (0xA930, "Rjng"),
  (0xA954, "Zzzz"), (0xA95F, "Rjng"), (0xA960, "Hang"), (0xA97D, "Zzzz"), (0xA980, "Java"),
  (0xA9CE, "Zzzz"), (0xA9CF, "Zyyy"), (0xA9D0, "Java"), (0xA9DA, "Zzzz"), (0xA9DE, "Java"),
  (0xA9E0, "Mymr"), (0xA9FF, "Zzzz"), (0xAA00, "Cham"), (0xAA37, "Zzzz"), (0xAA40, "Cham"),
  (0xAA4E, "Zzzz"), (0xAA50, "Cham"), (0xAA5A, "Zzzz"), (0xAA5C, "Cham"), (0xAA60, "Mymr"),
  (0xAA80, "Tavt"), (0xAAC3, "Zzzz"), (0xAADB, "Tavt"), (0xAAE0, "Mtei"), (0xAAF7, "Zzzz"),
  (0xAB01, "Ethi"), (0xAB07, "Zzzz"), (0xAB09, "Ethi"), (0xAB0F, "Zzzz"), (0xAB11, "Ethi"),
  (0xAB17, "Zzzz"), (0xAB20, "Ethi"), (0xAB27, "Zzzz"), (0xAB28, "Ethi"), (0xAB2F, "Zzzz"),
  (0xAB30, "Latn"), (0xAB5B, "Zyyy"), (0xAB5C, "Latn"), (0xAB65, "Grek"), (0xAB66, "Latn"),
  (0xAB6A, "Zyyy"), (0xAB6C, "Zzzz"), (0xAB70, "Cher"), (0xABC0, "Mtei"), (0xABEE, "Zzzz"),
  (0xABF0, "Mtei"), (0xABFA, "Zzzz"), (0xAC00, "Hang"), (0xD7A4, "Zzzz"), (0xD7B0, "Hang"),
  (0xD7C7, "Zzzz"), (0xD7CB, "Hang"), (0xD7FC, "Zzzz"), (0xF900, "Hani"), (0xFA6E, "Zzzz"),
  (0xFA70, "Hani"), (0xFADA, "Zzzz"), (0xFB00, "Latn"), (0xFB07, "Zzzz"), (0xFB13, "Armn"),
  (0xFB18, "Zzzz"), (0xFB1D, "Hebr"), (0xFB37, "Zzzz"), (0xFB38, "Hebr"), (0xFB3D, "Zzzz"),
  (0xFB3E, "Hebr"), (0xFB3F, "Zzzz"), (0xFB40, "Hebr"), (0xFB42, "Zzzz"), (0xFB43, "Hebr"),
  (0xFB45, "Zzzz"), (0xFB46, "Hebr"), (0xFB50, "Arab"), (0xFD3E, "Zyyy"), (0xFD40, "Arab"),
  (0xFDD0, "Zzzz"), (0xFDF0, "Arab"), (0xFE00, "Zinh"), (0xFE10, "Zyyy"), (0xFE1A, "Zzzz"),
  (0xFE20, "Zinh"), (0xFE2E, "Cyrl"), (0xFE30, "Zyyy"), (0xFE53, "Zzzz"), (0xFE54, "Zyyy"),
  (0xFE67, "Zzzz"), (0xFE68, "Zyyy"), (0xFE6C, "Zzzz"), (0xFE70, "Arab"), (0xFE75, "Zzzz"),
  (0xFE76, "Arab"), (0xFEFD, "Zzzz"), (0xFEFF, "Zyyy"), (0xFF00, "Zzzz"), (0xFF01, "Zyyy"),
  (0xFF21, "Latn"), (0xFF3B, "Zyyy"), (0xFF41, "Latn"), (0xFF5B, "Zyyy"), (0xFF66, "Kana"),
  (0xFF70, "Zyyy"), (0xFF71, "Kana"), (0xFF9E, "Zyyy"), (0xFFA0, "Hang"), (0xFFBF, "Zzzz"),
  (0xFFC2, "Hang"), (0xFFC8, "Zzzz"), (0xFFCA, "Hang"), (0xFFD0, "Zzzz"), (0xFFD2, "Hang"),
  (0xFFD8, "Zzzz"), (0xFFDA, "Hang"), (0xFFDD, "Zzzz"), (0xFFE0, "Zyyy"), (0xFFE7, "Zzzz"),
  (0xFFE8, "Zyyy"), (0xFFEF, "Zzzz"), (0xFFF9, "Zyyy"), (0xFFFE, "Zzzz"), (0x10000, "Linb"),
  (0x1000C, "Zzzz"), (0x1000D, "Linb"), (0x10027, "Zzzz"), (0x10028, "Linb"), (0x1003B, "Zzzz"),
  (0x1003C, "Linb"), (0x1003E, "Zzzz"), (0x1003F, "Linb"), (0x1004E, "Zzzz"), (0x10050, "Linb"),
  (0x1005E, "Zzzz"), (0x10080, "Linb"), (0x100FB, "Zzzz"), (0x10100, "Zyyy"), (0x10103, "Zzzz"),
  (0x10107, "Zyyy"), (0x10134, "Zzzz"), (0x10137, "Zyyy"), (0x10140, "Grek"), (0x1018F, "Zzzz"),
  (0x10190, "Zyyy"), (0x1019D, "Zzzz"), (0x101A0, "Grek"), (0x101A1, "Zzzz"), (0x101D0, "Zyyy"),
  (0x101FD, "Zinh"), (0x101FE, "Zzzz"), (0x10280, "Lyci"), (0x1029D, "Zzzz"), (0x102A0, "Cari"),
  (0x102D1, "Zzzz"), (0x102E0, "Zinh"), (0x102E1, "Zyyy"), (0x102FC, "Zzzz"), (0x10300, "Ital"),
  (0x10324, "Zzzz"), (0x1032D, "Ital"), (0x10330, "Goth"), (0x1034B, "Zzzz"), (0x10350, "Perm"),
  (0x1037B, "Zzzz"), (0x10380, "Ugar"), (0x1039E, "Zzzz"), (0x1039F, "Ugar"), (0x103A0, "Xpeo"),
  (0x103C4, "Zzzz"), (0x103C8, "Xpeo"), (0x103D6, "Zzzz"), (0x10400, "Dsrt"), (0x10450, "Shaw"),
  (0x10480, "Osma"), (0x1049E, "Zzzz"), (0x104A0, "Osma"), (0x104AA, "Zzzz"), (0x104B0, "Osge"),
  (0x104D4, "Zzzz"), (0x104D8, "Osge"), (0x104FC, "Zzzz"), (0x10500, "Elba"), (0x10528, "Zzzz"),
  (0x10530, "Aghb"), (0x10564, "Zzzz"), (0x1056F, "Aghb"), (0x10570, "Vith"), (0x1057B, "Zzzz"),
  (0x1057C, "Vith"), (0x1058B, "Zzzz"), (0x1058C, "Vith"), (0x10593, "Zzzz"), (0x10594, "Vith"),
  (0x10596, "Zzzz"), (0x10597, "Vith"), (0x105A2, "Zzzz"), (0x105A3, "Vith"), (0x105B2, "Zzzz"),
  (0x105B3, "Vith"), (0x105BA, "Zzzz"), (0x105BB, "Vith"), (0x105BD, "Zzzz"), (0x105C0, "Todr"),
  (0x105F4, "Zzzz"), (0x10600, "Lina"), (0x10737, "Zzzz"), (0x10740, "Lina"), (0x10756, "Zzzz"),
  (0x10760, "Lina"), (0x10768, "Zzzz"), (0x10780, "Latn"), (0x10786, "Zzzz"), (0x10787, "Latn"),
  (0x107B1, "Zzzz"), (0x107B2, "Latn"), (0x107BB, "Zzzz"), (0x10800, "Cprt"), (0x10806, "Zzzz"),
  (0x10808, "Cprt"), (0x10809, "Zzzz"), (0x1080A, "Cprt"), (0x10836, "Zzzz"), (0x10837, "Cprt"),
  (0x10839, "Zzzz"), (0x1083C, "Cprt"), (0x1083D, "Zzzz"), (0x1083F, "Cprt"), (0x10840, "Armi"),
  (0x10856, "Zzzz"), (0x10857, "Armi"), (0x10860, "Palm"), (0x10880, "Nbat"), (0x1089F, "Zzzz"),
  (0x108A7, "Nbat"), (0x108B0, "Zzzz"), (0x108E0, "Hatr"), (0x108F3, "Zzzz"), (0x108F4, "Hatr"),
  (0x108F6, "Zzzz"), (0x108FB, "Hatr"), (0x10900, "Phnx"), (0x1091C, "Zzzz"), (0x1091F, "Phnx"),
  (0x10920, "Lydi"), (0x1093A, "Zzzz"), (0x1093F, "Lydi"), (0x10940, "Sidt"), (0x1095A, "Zzzz"),
  (0x10980, "Mero"), (0x109A0, "Merc"), (0x109B8, "Zzzz"), (0x109BC, "Merc"), (0x109D0, "Zzzz"),
  (0x109D2, "Merc"), (0x10A00, "Khar"), (0x10A04, "Zzzz"), (0x10A05, "Khar"), (0x10A07, "Zzzz"),
  (0x10A0C, "Khar"), (0x10A14, "Zzzz"), (0x10A15, "Khar"), (0x10A18, "Zzzz"), (0x10A19, "Khar"),
  (0x10A36, "Zzzz"), (0x10A38, "Khar"), (0x10A3B, "Zzzz"), (0x10A3F, "Khar"), (0x10A49, "Zzzz"),
  (0x10A50, "Khar"), (0x10A59, "Zzzz"), (0x10A60, "Sarb"), (0x10A80, "Narb"), (0x10AA0, "Zzzz"),
  (0x10AC0, "Mani"), (0x10AE7, "Zzzz"), (0x10AEB, "Mani"), (0x10AF7, "Zzzz"), (0x10B00, "Avst"),
  (0x10B36, "Zzzz"), (0x10B39, "Avst"), (0x10B40, "Prti"), (0x10B56, "Zzzz"), (0x10B58, "Prti"),
  (0x10B60, "Phli"), (0x10B73, "Zzzz"), (0x10B78, "Phli"), (0x10B80, "Phlp"), (0x10B92, "Zzzz"),
  (0x10B99, "Phlp"), (0x10B9D, "Zzzz"), (0x10BA9, "Phlp"), (0x10BB0, "Zzzz"), (0x10C00, "Orkh"),
  (0x10C49, "Zzzz"), (0x10C80, "Hung"), (0x10CB3, "Zzzz"), (0x10CC0, "Hung"), (0x10CF3, "Zzzz"),
  (0x10CFA, "Hung"), (0x10D00, "Rohg"), (0x10D28, "Zzzz"), (0x10D30, "Rohg"), (0x10D3A, "Zzzz"),
  (0x10D40, "Gara"), (0x10D66, "Zzzz"), (0x10D69, "Gara"), (0x10D86, "Zzzz"), (0x10D8E, "Gara"),
  (0x10D90, "Zzzz"), (0x10E60, "Arab"), (0x10E7F, "Zzzz"), (0x10E80, "Yezi"), (0x10EAA, "Zzzz"),
  (0x10EAB, "Yezi"), (0x10EAE, "Zzzz"), (0x10EB0, "Yezi"), (0x10EB2, "Zzzz"), (0x10EC2, "Arab"),
  (0x10EC8, "Zzzz"), (0x10ED0, "Arab"), (0x10ED9, "Zzzz"), (0x10EFA, "Arab"), (0x10F00, "Sogo"),
  (0x10F28, "Zzzz"), (0x10F30, "Sogd"), (0x10F5A, "Zzzz"), (0x10F70, "Ougr"), (0x10F8A, "Zzzz"),
  (0x10FB0, "Chrs"), (0x10FCC, "Zzzz"), (0x10FE0, "Elym"), (0x10FF7, "Zzzz"), (0x11000, "Brah"),
  (0x1104E, "Zzzz"), (0x11052, "Brah"), (0x11076, "Zzzz"), (0x1107F, "Brah"), (0x11080, "Kthi"),
  (0x110C3, "Zzzz"), (0x110CD, "Kthi"), (0x110CE, "Zzzz"), (0x110D0, "Sora"), (0x110E9, "Zzzz"),
  (0x110F0, "Sora"), (0x110FA, "Zzzz"), (0x11100, "Cakm"), (0x11135, "Zzzz"), (0x11136, "Cakm"),
  (0x11148, "Zzzz"), (0x11150, "Mahj"), (0x11177, "Zzzz"), (0x11180, "Shrd"), (0x111E0, "Zzzz"),
  (0x111E1, "Sinh"), (0x111F5, "Zzzz"), (0x11200, "Khoj"), (0x11212, "Zzzz"), (0x11213, "Khoj"),
  (0x11242, "Zzzz"), (0x11280, "Mult"), (0x11287, "Zzzz"), (0x11288, "Mult"), (0x11289, "Zzzz"),
  (0x1128A, "Mult"), (0x1128E, "Zzzz"), (0x1128F, "Mult"), (0x1129E, "Zzzz"), (0x1129F, "Mult"),
  (0x112AA, "Zzzz"), (0x112B0, "Sind"), (0x112EB, "Zzzz"), (0x112F0, "Sind"), (0x112FA, "Zzzz"),
  (0x11300, "Gran"), (0x11304, "Zzzz"), (0x11305, "Gran"), (0x1130D, "Zzzz"), (0x1130F, "Gran"),
  (0x11311, "Zzzz"), (0x11313, "Gran"), (0x11329, "Zzzz"), (0x1132A, "Gran"), (0x11331, "Zzzz"),
  (0x11332, "Gran"), (0x11334, "Zzzz"), (0x11335, "Gran"), (0x1133A, "Zzzz"), (0x1133B, "Zinh"),
  (0x1133C, "Gran"), (0x11345, "Zzzz"), (0x11347, "Gran"), (0x11349, "Zzzz"), (0x1134B, "Gran"),
  (0x1134E, "Zzzz"), (0x11350, "Gran"), (0x11351, "Zzzz"), (0x11357, "Gran"), (0x11358, "Zzzz"),
  (0x1135D, "Gran"), (0x11364, "Zzzz"), (0x11366, "Gran"), (0x1136D, "Zzzz"), (0x11370, "Gran"),
  (0x11375, "Zzzz"), (0x11380, "Tutg"), (0x1138A, "Zzzz"), (0x1138B, "Tutg"), (0x1138C, "Zzzz"),
  (0x1138E, "Tutg"), (0x1138F, "Zzzz"), (0x11390, "Tutg"), (0x113B6, "Zzzz"), (0x113B7, "Tutg"),
  (0x113C1, "Zzzz"), (0x113C2, "Tutg"), (0x113C3, "Zzzz"), (0x113C5, "Tutg"), (0x113C6, "Zzzz"),
  (0x113C7, "Tutg"), (0x113CB, "Zzzz"), (0x113CC, "Tutg"), (0x113D6, "Zzzz"), (0x113D7, "Tutg"),
  (0x113D9, "Zzzz"), (0x113E1, "Tutg"), (0x113E3, "Zzzz"), (0x11400, "Newa"), (0x1145C, "Zzzz"),
  (0x1145D, "Newa"), (0x11462, "Zzzz"), (0x11480, "Tirh"), (0x114C8, "Zzzz"), (0x114D0, "Tirh"),
  (0x114DA, "Zzzz"), (0x11580, "Sidd"), (0x115B6, "Zzzz"), (0x115B8, "Sidd"), (0x115DE, "Zzzz"),
  (0x11600, "Modi"), (0x11645, "Zzzz"), (0x11650, "Modi"), (0x1165A, "Zzzz"), (0x11660, "Mong"),
  (0x1166D, "Zzzz"), (0x11680, "Takr"), (0x116BA, "Zzzz"), (0x116C0, "Takr"), (0x116CA, "Zzzz"),
  (0x116D0, "Mymr"), (0x116E4, "Zzzz"), (0x11700, "Ahom"), (0x1171B, "Zzzz"), (0x1171D, "Ahom"),
  (0x1172C, "Zzzz"), (0x11730, "Ahom"), (0x11747, "Zzzz"), (0x11800, "Dogr"), (0x1183C, "Zzzz"),
  (0x118A0, "Wara"), (0x118F3, "Zzzz"), (0x118FF, "Wara"), (0x11900, "Diak"), (0x11907, "Zzzz"),
  (0x11909, "Diak"), (0x1190A, "Zzzz"), (0x1190C, "Diak"), (0x11914, "Zzzz"), (0x11915, "Diak"),
  (0x11917, "Zzzz"), (0x11918, "Diak"), (0x11936, "Zzzz"), (0x11937, "Diak"), (0x11939, "Zzzz"),
  (0x1193B, "Diak"), (0x11947, "Zzzz"), (0x11950, "Diak"), (0x1195A, "Zzzz"), (0x119A0, "Nand"),
  (0x119A8, "Zzzz"), (0x119AA, "Nand"), (0x119D8, "Zzzz"), (0x119DA, "Nand"), (0x119E5, "Zzzz"),
  (0x11A00, "Zanb"), (0x11A48, "Zzzz"), (0x11A50, "Soyo"), (0x11AA3, "Zzzz"), (0x11AB0, "Cans"),
  (0x11AC0, "Pauc"), (0x11AF9, "Zzzz"), (0x11B00, "Deva"), (0x11B0A, "Zzzz"), (0x11B60, "Shrd"),
  (0x11B68, "Zzzz"), (0x11BC0, "Sunu"), (0x11BE2, "Zzzz"), (0x11BF0, "Sunu"), (0x11BFA, "Zzzz"),
  (0x11C00, "Bhks"), (0x11C09, "Zzzz"), (0x11C0A, "Bhks"), (0x11C37, "Zzzz"), (0x11C38, "Bhks"),
  (0x11C46, "Zzzz"), (0x11C50, "Bhks"), (0x11C6D, "Zzzz"), (0x11C70, "Marc"), (0x11C90, "Zzzz"),
  (0x11C92, "Marc"), (0x11CA8, "Zzzz"), (0x11CA9, "Marc"), (0x11CB7, "Zzzz"), (0x11D00, "Gonm"),
  (0x11D07, "Zzzz"), (0x11D08, "Gonm"), (0x11D0A, "Zzzz"), (0x11D0B, "Gonm"), (0x11D37, "Zzzz"),
  (0x11D3A, "Gonm"), (0x11D3B, "Zzzz"), (0x11D3C, "Gonm"), (0x11D3E, "Zzzz"), (0x11D3F, "Gonm"),
  (0x11D48, "Zzzz"), (0x11D50, "Gonm"), (0x11D5A, "Zzzz"), (0x11D60, "Gong"), (0x11D66, "Zzzz"),
  (0x11D67, "Gong"), (0x11D69, "Zzzz"), (0x11D6A, "Gong"), (0x11D8F, "Zzzz"), (0x11D90, "Gong"),
  (0x11D92, "Zzzz"), (0x11D93, "Gong"), (0x11D99, "Zzzz"), (0x11DA0, "Gong"), (0x11DAA, "Zzzz"),
  (0x11DB0, "Tols"), (0x11DDC, "Zzzz"), (0x11DE0, "Tols"), (0x11DEA, "Zzzz"), (0x11EE0, "Maka"),
  (0x11EF9, "Zzzz"), (0x11F00, "Kawi"), (0x11F11, "Zzzz"), (0x11F12, "Kawi"), (0x11F3B, "Zzzz"),
  (0x11F3E, "Kawi"), (0x11F5B, "Zzzz"), (0x11FB0, "Lisu"), (0x11FB1, "Zzzz"), (0x11FC0, "Taml"),
  (0x11FF2, "Zzzz"), (0x11FFF, "Taml"), (0x12000, "Xsux"), (0x1239A, "Zzzz"), (0x12400, "Xsux"),
  (0x1246F, "Zzzz"), (0x12470, "Xsux"), (0x12475, "Zzzz"), (0x12480, "Xsux"), (0x12544, "Zzzz"),
  (0x12F90, "Cpmn"), (0x12FF3, "Zzzz"), (0x13000, "Egyp"), (0x13456, "Zzzz"), (0x13460, "Egyp"),
  (0x143FB, "Zzzz"), (0x14400, "Hluw"), (0x14647, "Zzzz"), (0x16100, "Gukh"), (0x1613A, "Zzzz"),
  (0x16800, "Bamu"), (0x16A39, "Zzzz"), (0x16A40, "Mroo"), (0x16A5F, "Zzzz"), (0x16A60, "Mroo"),
  (0x16A6A, "Zzzz"), (0x16A6E, "Mroo"), (0x16A70, "Tnsa"), (0x16ABF, "Zzzz"), (0x16AC0, "Tnsa"),
  (0x16ACA, "Zzzz"), (0x16AD0, "Bass"), (0x16AEE, "Zzzz"), (0x16AF0, "Bass"), (0x16AF6, "Zzzz"),
  (0x16B00, "Hmng"), (0x16B46, "Zzzz"), (0x16B50, "Hmng"), (0x16B5A, "Zzzz"), (0x16B5B, "Hmng"),
  (0x16B62, "Zzzz"), (0x16B63, "Hmng"), (0x16B78, "Zzzz"), (0x16B7D, "Hmng"), (0x16B90, "Zzzz"),
  (0x16D40, "Krai"), (0x16D7A, "Zzzz"), (0x16E40, "Medf"), (0x16E9B, "Zzzz"), (0x16EA0, "Berf"),
  (0x16EB9, "Zzzz"), (0x16EBB, "Berf"), (0x16ED4, "Zzzz"), (0x16F00, "Plrd"), (0x16F4B, "Zzzz"),
  (0x16F4F, "Plrd"), (0x16F88, "Zzzz"), (0x16F8F, "Plrd"), (0x16FA0, "Zzzz"), (0x16FE0, "Tang"),
  (0x16FE1, "Nshu"), (0x16FE2, "Hani"), (0x16FE4, "Kits"), (0x16FE5, "Zzzz"), (0x16FF0, "Hani"),
  (0x16FF7, "Zzzz"), (0x17000, "Tang"), (0x18B00, "Kits"), (0x18CD6, "Zzzz"), (0x18CFF, "Kits"),
  (0x18D00, "Tang"), (0x18D1F, "Zzzz"), (0x18D80, "Tang"), (0x18DF3, "Zzzz"), (0x1AFF0, "Kana"),
  (0x1AFF4, "Zzzz"), (0x1AFF5, "Kana"), (0x1AFFC, "Zzzz"), (0x1AFFD, "Kana"), (0x1AFFF, "Zzzz"),
  (0x1B000, "Kana"), (0x1B001, "Hira"), (0x1B120, "Kana"), (0x1B123, "Zzzz"), (0x1B132, "Hira"),
  (0x1B133, "Zzzz"), (0x1B150, "Hira"), (0x1B153, "Zzzz"), (0x1B155, "Kana"), (0x1B156, "Zzzz"),
  (0x1B164, "Kana"), (0x1B168, "Zzzz"), (0x1B170, "Nshu"), (0x1B2FC, "Zzzz"), (0x1BC00, "Dupl"),
  (0x1BC6B, "Zzzz"), (0x1BC70, "Dupl"), (0x1BC7D, "Zzzz"), (0x1BC80, "Dupl"), (0x1BC89, "Zzzz"),
  (0x1BC90, "Dupl"), (0x1BC9A, "Zzzz"), (0x1BC9C, "Dupl"), (0x1BCA0, "Zyyy"), (0x1BCA4, "Zzzz"),
  (0x1CC00, "Zyyy"), (0x1CCFD, "Zzzz"), (0x1CD00, "Zyyy"), (0x1CEB4, "Zzzz"), (0x1CEBA, "Zyyy"),
  (0x1CED1, "Zzzz"), (0x1CEE0, "Zyyy"), (0x1CEF1, "Zzzz"), (0x1CF00, "Zinh"), (0x1CF2E, "Zzzz"),
  (0x1CF30, "Zinh"), (0x1CF47, "Zzzz"), (0x1CF50, "Zyyy"), (0x1CFC4, "Zzzz"), (0x1D000, "Zyyy"),
  (0x1D0F6, "Zzzz"), (0x1D100, "Zyyy"), (0x1D127, "Zzzz"), (0x1D129, "Zyyy"), (0x1D167, "Zinh"),
  (0x1D16A, "Zyyy"), (0x1D17B, "Zinh"), (0x1D183, "Zyyy"), (0x1D185, "Zinh"), (0x1D18C, "Zyyy"),
  (0x1D1AA, "Zinh"), (0x1D1AE, "Zyyy"), (0x1D1EB, "Zzzz"), (0x1D200, "Grek"), (0x1D246, "Zzzz"),
  (0x1D2C0, "Zyyy"), (0x1D2D4, "Zzzz"), (0x1D2E0, "Zyyy"), (0x1D2F4, "Zzzz"), (0x1D300, "Zyyy"),
  (0x1D357, "Zzzz"), (0x1D360, "Zyyy"), (0x1D379, "Zzzz"), (0x1D400, "Zyyy"), (0x1D455, "Zzzz"),
  (0x1D456, "Zyyy"), (0x1D49D, "Zzzz"), (0x1D49E, "Zyyy"), (0x1D4A0, "Zzzz"), (0x1D4A2, "Zyyy"),
  (0x1D4A3, "Zzzz"), (0x1D4A5, "Zyyy"), (0x1D4A7, "Zzzz"), (0x1D4A9, "Zyyy"), (0x1D4AD, "Zzzz"),
  (0x1D4AE, "Zyyy"), (0x1D4BA, "Zzzz"), (0x1D4BB, "Zyyy"), (0x1D4BC, "Zzzz"), (0x1D4BD, "Zyyy"),
  (0x1D4C4, "Zzzz"), (0x1D4C5, "Zyyy"), (0x1D506, "Zzzz"), (0x1D507, "Zyyy"), (0x1D50B, "Zzzz"),
  (0x1D50D, "Zyyy"), (0x1D515, "Zzzz"), (0x1D516, "Zyyy"), (0x1D51D, "Zzzz"), (0x1D51E, "Zyyy"),
  (0x1D53A, "Zzzz"), (0x1D53B, "Zyyy"), (0x1D53F, "Zzzz"), (0x1D540, "Zyyy"), (0x1D545, "Zzzz"),
  (0x1D546, "Zyyy"), (0x1D547, "Zzzz"), (0x1D54A, "Zyyy"), (0x1D551, "Zzzz"), (0x1D552, "Zyyy"),
  (0x1D6A6, "Zzzz"), (0x1D6A8, "Zyyy"), (0x1D7CC, "Zzzz"), (0x1D7CE, "Zyyy"), (0x1D800, "Sgnw"),
  (0x1DA8C, "Zzzz"), (0x1DA9B, "Sgnw"), (0x1DAA0, "Zzzz"), (0x1DAA1, "Sgnw"), (0x1DAB0, "Zzzz"),
  (0x1DF00, "Latn"), (0x1DF1F, "Zzzz"), (0x1DF25, "Latn"), (0x1DF2B, "Zzzz"), (0x1E000, "Glag"),
  (0x1E007, "Zzzz"), (0x1E008, "Glag"), (0x1E019, "Zzzz"), (0x1E01B, "Glag"), (0x1E022, "Zzzz"),
  (0x1E023, "Glag"), (0x1E025, "Zzzz"), (0x1E026, "Glag"), (0x1E02B, "Zzzz"), (0x1E030, "Cyrl"),
  (0x1E06E, "Zzzz"), (0x1E08F, "Cyrl"), (0x1E090, "Zzzz"), (0x1E100, "Hmnp"), (0x1E12D, "Zzzz"),
  (0x1E130, "Hmnp"), (0x1E13E, "Zzzz"), (0x1E140, "Hmnp"), (0x1E14A, "Zzzz"), (0x1E14E, "Hmnp"),
  (0x1E150, "Zzzz"), (0x1E290, "Toto"), (0x1E2AF, "Zzzz"), (0x1E2C0, "Wcho"), (0x1E2FA, "Zzzz"),
  (0x1E2FF, "Wcho"), (0x1E300, "Zzzz"), (0x1E4D0, "Nagm"), (0x1E4FA, "Zzzz"), (0x1E5D0, "Onao"),
  (0x1E5FB, "Zzzz"), (0x1E5FF, "Onao"), (0x1E600, "Zzzz"), (0x1E6C0, "Tayo"), (0x1E6DF, "Zzzz"),
  (0x1E6E0, "Tayo"), (0x1E6F6, "Zzzz"), (0x1E6FE, "Tayo"), (0x1E700, "Zzzz"), (0x1E7E0, "Ethi"),
  (0x1E7E7, "Zzzz"), (0x1E7E8, "Ethi"), (0x1E7EC, "Zzzz"), (0x1E7ED, "Ethi"), (0x1E7EF, "Zzzz"),
  (0x1E7F0, "Ethi"), (0x1E7FF, "Zzzz"), (0x1E800, "Mend"), (0x1E8C5, "Zzzz"), (0x1E8C7, "Mend"),
  (0x1E8D7, "Zzzz"), (0x1E900, "Adlm"), (0x1E94C, "Zzzz"), (0x1E950, "Adlm"), (0x1E95A, "Zzzz"),
  (0x1E95E, "Adlm"), (0x1E960, "Zzzz"), (0x1EC71, "Zyyy"), (0x1ECB5, "Zzzz"), (0x1ED01, "Zyyy"),
  (0x1ED3E, "Zzzz"), (0x1EE00, "Arab"), (0x1EE04, "Zzzz"), (0x1EE05, "Arab"), (0x1EE20, "Zzzz"),
  (0x1EE21, "Arab"), (0x1EE23, "Zzzz"), (0x1EE24, "Arab"), (0x1EE25, "Zzzz"), (0x1EE27, "Arab"),
  (0x1EE28, "Zzzz"), (0x1EE29, "Arab"), (0x1EE33, "Zzzz"), (0x1EE34, "Arab"), (0x1EE38, "Zzzz"),
  (0x1EE39, "Arab"), (0x1EE3A, "Zzzz"), (0x1EE3B, "Arab"), (0x1EE3C, "Zzzz"), (0x1EE42, "Arab"),
  (0x1EE43, "Zzzz"), (0x1EE47, "Arab"), (0x1EE48, "Zzzz"), (0x1EE49, "Arab"), (0x1EE4A, "Zzzz"),
  (0x1EE4B, "Arab"), (0x1EE4C, "Zzzz"), (0x1EE4D, "Arab"), (0x1EE50, "Zzzz"), (0x1EE51, "Arab"),
  (0x1EE53, "Zzzz"), (0x1EE54, "Arab"), (0x1EE55, "Zzzz"), (0x1EE57, "Arab"), (0x1EE58, "Zzzz"),
  (0x1EE59, "Arab"), (0x1EE5A, "Zzzz"), (0x1EE5B, "Arab"), (0x1EE5C, "Zzzz"), (0x1EE5D, "Arab"),
  (0x1EE5E, "Zzzz"), (0x1EE5F, "Arab"), (0x1EE60, "Zzzz"), (0x1EE61, "Arab"), (0x1EE63, "Zzzz"),
  (0x1EE64, "Arab"), (0x1EE65, "Zzzz"), (0x1EE67, "Arab"), (0x1EE6B, "Zzzz"), (0x1EE6C, "Arab"),
  (0x1EE73, "Zzzz"), (0x1EE74, "Arab"), (0x1EE78, "Zzzz"), (0x1EE79, "Arab"), (0x1EE7D, "Zzzz"),
  (0x1EE7E, "Arab"), (0x1EE7F, "Zzzz"), (0x1EE80, "Arab"), (0x1EE8A, "Zzzz"), (0x1EE8B, "Arab"),
  (0x1EE9C, "Zzzz"), (0x1EEA1, "Arab"), (0x1EEA4, "Zzzz"), (0x1EEA5, "Arab"), (0x1EEAA, "Zzzz"),
  (0x1EEAB, "Arab"), (0x1EEBC, "Zzzz"), (0x1EEF0, "Arab"), (0x1EEF2, "Zzzz"), (0x1F000, "Zyyy"),
  (0x1F02C, "Zzzz"), (0x1F030, "Zyyy"), (0x1F094, "Zzzz"), (0x1F0A0, "Zyyy"), (0x1F0AF, "Zzzz"),
  (0x1F0B1, "Zyyy"), (0x1F0C0, "Zzzz"), (0x1F0C1, "Zyyy"), (0x1F0D0, "Zzzz"), (0x1F0D1, "Zyyy"),
  (0x1F0F6, "Zzzz"), (0x1F100, "Zyyy"), (0x1F1AE, "Zzzz"), (0x1F1E6, "Zyyy"), (0x1F200, "Hira"),
  (0x1F201, "Zyyy"), (0x1F203, "Zzzz"), (0x1F210, "Zyyy"), (0x1F23C, "Zzzz"), (0x1F240, "Zyyy"),
  (0x1F249, "Zzzz"), (0x1F250, "Zyyy"), (0x1F252, "Zzzz"), (0x1F260, "Zyyy"), (0x1F266, "Zzzz"),
  (0x1F300, "Zyyy"), (0x1F6D9, "Zzzz"), (0x1F6DC, "Zyyy"), (0x1F6ED, "Zzzz"), (0x1F6F0, "Zyyy"),
  (0x1F6FD, "Zzzz"), (0x1F700, "Zyyy"), (0x1F7DA, "Zzzz"), (0x1F7E0, "Zyyy"), (0x1F7EC, "Zzzz"),
  (0x1F7F0, "Zyyy"), (0x1F7F1, "Zzzz"), (0x1F800, "Zyyy"), (0x1F80C, "Zzzz"), (0x1F810, "Zyyy"),
  (0x1F848, "Zzzz"), (0x1F850, "Zyyy"), (0x1F85A, "Zzzz"), (0x1F860, "Zyyy"), (0x1F888, "Zzzz"),
  (0x1F890, "Zyyy"), (0x1F8AE, "Zzzz"), (0x1F8B0, "Zyyy"), (0x1F8BC, "Zzzz"), (0x1F8C0, "Zyyy"),
  (0x1F8C2, "Zzzz"), (0x1F8D0, "Zyyy"), (0x1F8D9, "Zzzz"), (0x1F900, "Zyyy"), (0x1FA58, "Zzzz"),
  (0x1FA60, "Zyyy"), (0x1FA6E, "Zzzz"), (0x1FA70, "Zyyy"), (0x1FA7D, "Zzzz"), (0x1FA80, "Zyyy"),
  (0x1FA8B, "Zzzz"), (0x1FA8E, "Zyyy"), (0x1FAC7, "Zzzz"), (0x1FAC8, "Zyyy"), (0x1FAC9, "Zzzz"),
  (0x1FACD, "Zyyy"), (0x1FADD, "Zzzz"), (0x1FADF, "Zyyy"), (0x1FAEB, "Zzzz"), (0x1FAEF, "Zyyy"),
  (0x1FAF9, "Zzzz"), (0x1FB00, "Zyyy"), (0x1FB93, "Zzzz"), (0x1FB94, "Zyyy"), (0x1FBFB, "Zzzz"),
  (0x20000, "Hani"), (0x2A6E0, "Zzzz"), (0x2A700, "Hani"), (0x2B81E, "Zzzz"), (0x2B820, "Hani"),
  (0x2CEAE, "Zzzz"), (0x2CEB0, "Hani"), (0x2EBE1, "Zzzz"), (0x2EBF0, "Hani"), (0x2EE5E, "Zzzz"),
  (0x2F800, "Hani"), (0x2FA1E, "Zzzz"), (0x30000, "Hani"), (0x3134B, "Zzzz"), (0x31350, "Hani"),
  (0x3347A, "Zzzz"), (0xE0001, "Zyyy"), (0xE0002, "Zzzz"), (0xE0020, "Zyyy"), (0xE0080, "Zzzz"),
  (0xE0100, "Zinh"), (0xE01F0, "Zzzz")]

/-- The code of the script of a character. -/
def script (c : Char) : String := (valueInRuns scriptRuns c.toNat).getD "Zzzz"

end RecordScript.Unicode
