import FormEditor.Unicode.Table

/-! The code points that are used with a script and have another one of their own, by the names of the script. Most
of them are common to many scripts or take theirs from the character before them. -/

namespace FormEditor.Unicode

/-- The code points that scripts are extended by. -/
def scriptExtensions : List (List String × Table) :=
  [(["adlam", "adlm"], [(0x61F, 0x61F, 1), (0x640, 0x640, 1), (0x204F, 0x204F, 1), (0x2E41, 0x2E41, 1)]),
    (["arabic", "arab"],
     [(0x60C, 0x60C, 1), (0x61B, 0x61B, 1), (0x61F, 0x61F, 1), (0x640, 0x640, 1), (0x64B, 0x655, 1),
      (0x670, 0x670, 1), (0x204F, 0x204F, 1), (0x2E41, 0x2E41, 1), (0xFD3E, 0xFD3F, 1),
      (0x102E0, 0x102FB, 1)]),
    (["armenian", "armn"], [(0x308, 0x308, 1)]),
    (["avestan", "avst"], [(0xB7, 0xB7, 1), (0x2E30, 0x2E31, 1)]),
    (["bengali", "beng"],
     [(0x2BC, 0x2BC, 1), (0x951, 0x952, 1), (0x964, 0x965, 1), (0x1CD0, 0x1CD2, 2), (0x1CD5, 0x1CD6, 1),
      (0x1CD8, 0x1CD8, 1), (0x1CE1, 0x1CE1, 1), (0x1CEA, 0x1CEA, 1), (0x1CED, 0x1CED, 1),
      (0x1CF2, 0x1CF2, 1), (0x1CF5, 0x1CF7, 1), (0xA8F1, 0xA8F1, 1)]),
    (["bopomofo", "bopo"],
     [(0x2C7, 0x2C9, 2), (0x2CA, 0x2CB, 1), (0x2D9, 0x2D9, 1), (0x3001, 0x3003, 1), (0x3008, 0x3011, 1),
      (0x3013, 0x301F, 1), (0x302A, 0x302D, 1), (0x3030, 0x3030, 1), (0x3037, 0x3037, 1),
      (0x30FB, 0x30FB, 1), (0xFE45, 0xFE46, 1), (0xFF61, 0xFF65, 1)]),
    (["buginese", "bugi"], [(0xA9CF, 0xA9CF, 1)]),
    (["buhid", "buhd"], [(0x1735, 0x1736, 1)]),
    (["carian", "cari"],
     [(0xB7, 0xB7, 1), (0x205A, 0x205A, 1), (0x205D, 0x205D, 1), (0x2E31, 0x2E31, 1)]),
    (["caucasianalbanian", "aghb"], [(0x304, 0x304, 1), (0x331, 0x331, 1), (0x35E, 0x35E, 1)]),
    (["chakma", "cakm"], [(0x9E6, 0x9EF, 1), (0x1040, 0x1049, 1)]),
    (["cherokee", "cher"],
     [(0x300, 0x302, 1), (0x304, 0x304, 1), (0x30B, 0x30C, 1), (0x323, 0x324, 1), (0x330, 0x331, 1)]),
    (["coptic", "copt", "qaac"],
     [(0xB7, 0xB7, 1), (0x300, 0x300, 1), (0x304, 0x305, 1), (0x307, 0x307, 1), (0x374, 0x375, 1),
      (0x2E17, 0x2E17, 1), (0x102E0, 0x102FB, 1)]),
    (["cypriot", "cprt"], [(0x10100, 0x10102, 1), (0x10107, 0x10133, 1), (0x10137, 0x1013F, 1)]),
    (["cyprominoan", "cpmn"], [(0x10100, 0x10101, 1)]),
    (["cyrillic", "cyrl"],
     [(0x2BC, 0x2BC, 1), (0x300, 0x302, 1), (0x304, 0x308, 2), (0x30B, 0x30B, 1), (0x311, 0x311, 1),
      (0x485, 0x486, 1), (0x1DF8, 0x1DF8, 1), (0x2E43, 0x2E43, 1)]),
    (["devanagari", "deva"],
     [(0x2BC, 0x2BC, 1), (0x951, 0x952, 1), (0x964, 0x965, 1), (0x1CD0, 0x1CF6, 1), (0x1CF8, 0x1CF9, 1),
      (0x20F0, 0x20F0, 1), (0xA830, 0xA839, 1)]),
    (["dogra", "dogr"], [(0x964, 0x96F, 1), (0xA830, 0xA839, 1)]),
    (["duployan", "dupl"],
     [(0xB7, 0xB7, 1), (0x307, 0x308, 1), (0x30A, 0x30A, 1), (0x323, 0x324, 1), (0x2E3C, 0x2E3C, 1),
      (0x1BCA0, 0x1BCA3, 1)]),
    (["elbasan", "elba"], [(0xB7, 0xB7, 1), (0x305, 0x305, 1)]),
    (["ethiopic", "ethi"], [(0x30E, 0x30E, 1)]),
    (["garay", "gara"], [(0x60C, 0x60C, 1), (0x61B, 0x61B, 1), (0x61F, 0x61F, 1)]),
    (["georgian", "geor"],
     [(0xB7, 0xB7, 1), (0x589, 0x589, 1), (0x10FB, 0x10FB, 1), (0x205A, 0x205A, 1), (0x2E31, 0x2E31, 1)]),
    (["glagolitic", "glag"],
     [(0xB7, 0xB7, 1), (0x303, 0x305, 2), (0x484, 0x484, 1), (0x487, 0x487, 1), (0x589, 0x589, 1),
      (0x10FB, 0x10FB, 1), (0x205A, 0x205A, 1), (0x2E43, 0x2E43, 1), (0xA66F, 0xA66F, 1)]),
    (["gothic", "goth"], [(0xB7, 0xB7, 1), (0x304, 0x305, 1), (0x308, 0x308, 1), (0x331, 0x331, 1)]),
    (["grantha", "gran"],
     [(0x951, 0x952, 1), (0x964, 0x965, 1), (0xBE6, 0xBF3, 1), (0x1CD0, 0x1CD2, 2), (0x1CD3, 0x1CD3, 1),
      (0x1CF2, 0x1CF4, 1), (0x1CF8, 0x1CF9, 1), (0x20F0, 0x20F0, 1), (0x1133B, 0x1133B, 1),
      (0x11FD0, 0x11FD1, 1), (0x11FD3, 0x11FD3, 1)]),
    (["greek", "grek"],
     [(0xB7, 0xB7, 1), (0x300, 0x301, 1), (0x304, 0x308, 2), (0x313, 0x313, 1), (0x342, 0x342, 1),
      (0x345, 0x345, 1), (0x374, 0x374, 1), (0x1DC0, 0x1DC1, 1), (0x205D, 0x205D, 1)]),
    (["gujarati", "gujr"], [(0x951, 0x952, 1), (0x964, 0x965, 1), (0xA830, 0xA839, 1)]),
    (["gunjalagondi", "gong"], [(0xB7, 0xB7, 1), (0x964, 0x965, 1)]),
    (["gurmukhi", "guru"], [(0x951, 0x952, 1), (0x964, 0x965, 1), (0xA830, 0xA839, 1)]),
    (["gurungkhema", "gukh"], [(0x965, 0x965, 1)]),
    (["han", "hani"],
     [(0xB7, 0xB7, 1), (0x2FF0, 0x2FFF, 1), (0x3001, 0x3003, 1), (0x3006, 0x3008, 2),
      (0x3009, 0x3011, 1), (0x3013, 0x301F, 1), (0x302A, 0x302D, 1), (0x3030, 0x3030, 1),
      (0x3037, 0x3037, 1), (0x303C, 0x303F, 1), (0x30FB, 0x30FB, 1), (0x3190, 0x319F, 1),
      (0x31C0, 0x31E5, 1), (0x31EF, 0x31EF, 1), (0x3220, 0x3247, 1), (0x3280, 0x32B0, 1),
      (0x32C0, 0x32CB, 1), (0x32FF, 0x32FF, 1), (0x3358, 0x3370, 1), (0x337B, 0x337F, 1),
      (0x33E0, 0x33FE, 1), (0xA700, 0xA707, 1), (0xFE45, 0xFE46, 1), (0xFF61, 0xFF65, 1),
      (0x1D360, 0x1D371, 1), (0x1F250, 0x1F251, 1)]),
    (["hangul", "hang"],
     [(0x3001, 0x3003, 1), (0x3008, 0x3011, 1), (0x3013, 0x301F, 1), (0x3030, 0x3030, 1),
      (0x3037, 0x3037, 1), (0x30FB, 0x30FB, 1), (0xFE45, 0xFE46, 1), (0xFF61, 0xFF65, 1)]),
    (["hanifirohingya", "rohg"],
     [(0x60C, 0x60C, 1), (0x61B, 0x61B, 1), (0x61F, 0x61F, 1), (0x640, 0x640, 1), (0x6D4, 0x6D4, 1)]),
    (["hanunoo", "hano"], [(0x1735, 0x1736, 1)]),
    (["hebrew", "hebr"], [(0x307, 0x308, 1)]),
    (["hiragana", "hira"],
     [(0x3001, 0x3003, 1), (0x3008, 0x3011, 1), (0x3013, 0x301F, 1), (0x3030, 0x3035, 1),
      (0x3037, 0x3037, 1), (0x303C, 0x303D, 1), (0x3099, 0x309C, 1), (0x30A0, 0x30A0, 1),
      (0x30FB, 0x30FC, 1), (0xFE45, 0xFE46, 1), (0xFF61, 0xFF65, 1), (0xFF70, 0xFF70, 1),
      (0xFF9E, 0xFF9F, 1)]),
    (["javanese", "java"], [(0xA9CF, 0xA9CF, 1)]),
    (["kaithi", "kthi"], [(0x966, 0x96F, 1), (0x2E31, 0x2E31, 1), (0xA830, 0xA839, 1)]),
    (["kannada", "knda"],
     [(0x951, 0x952, 1), (0x964, 0x965, 1), (0x1CD0, 0x1CD2, 2), (0x1CD3, 0x1CD3, 1),
      (0x1CDA, 0x1CDA, 1), (0x1CF2, 0x1CF4, 2), (0xA830, 0xA835, 1)]),
    (["katakana", "kana"],
     [(0x305, 0x305, 1), (0x323, 0x323, 1), (0x3001, 0x3003, 1), (0x3008, 0x3011, 1),
      (0x3013, 0x301F, 1), (0x3030, 0x3035, 1), (0x3037, 0x3037, 1), (0x303C, 0x303D, 1),
      (0x3099, 0x309C, 1), (0x30A0, 0x30A0, 1), (0x30FB, 0x30FC, 1), (0xFE45, 0xFE46, 1),
      (0xFF61, 0xFF65, 1), (0xFF70, 0xFF70, 1), (0xFF9E, 0xFF9F, 1)]),
    (["kayahli", "kali"], [(0xA92E, 0xA92E, 1)]),
    (["khojki", "khoj"], [(0xAE6, 0xAEF, 1), (0xA830, 0xA839, 1)]),
    (["khudawadi", "sind"], [(0x964, 0x965, 1), (0xA830, 0xA839, 1)]),
    (["latin", "latn"],
     [(0xB7, 0xB7, 1), (0x2BC, 0x2BC, 1), (0x2C7, 0x2C9, 2), (0x2CA, 0x2CB, 1), (0x2CD, 0x2CD, 1),
      (0x2D7, 0x2D9, 2), (0x300, 0x30E, 1), (0x310, 0x311, 1), (0x313, 0x313, 1), (0x323, 0x325, 1),
      (0x32D, 0x32E, 1), (0x330, 0x331, 1), (0x358, 0x358, 1), (0x35E, 0x35E, 1), (0x363, 0x36F, 1),
      (0x485, 0x486, 1), (0x951, 0x952, 1), (0x10FB, 0x10FB, 1), (0x1DF8, 0x1DF8, 1),
      (0x202F, 0x202F, 1), (0x20F0, 0x20F0, 1), (0x2E17, 0x2E17, 1), (0xA700, 0xA707, 1),
      (0xA92E, 0xA92E, 1)]),
    (["limbu", "limb"], [(0x965, 0x965, 1)]),
    (["lineara", "lina"], [(0x10107, 0x10133, 1)]),
    (["linearb", "linb"], [(0x10100, 0x10102, 1), (0x10107, 0x10133, 1), (0x10137, 0x1013F, 1)]),
    (["lisu"], [(0x2BC, 0x2BC, 1), (0x2CD, 0x2CD, 1), (0x300A, 0x300B, 1)]),
    (["lycian", "lyci"], [(0x205A, 0x205A, 1)]),
    (["lydian", "lydi"], [(0xB7, 0xB7, 1), (0x2E31, 0x2E31, 1)]),
    (["mahajani", "mahj"], [(0xB7, 0xB7, 1), (0x964, 0x96F, 1), (0xA830, 0xA839, 1)]),
    (["malayalam", "mlym"],
     [(0x951, 0x952, 1), (0x964, 0x965, 1), (0x1CDA, 0x1CDA, 1), (0x1CF2, 0x1CF2, 1),
      (0xA830, 0xA832, 1)]),
    (["mandaic", "mand"], [(0x640, 0x640, 1)]),
    (["manichaean", "mani"], [(0x640, 0x640, 1)]),
    (["masaramgondi", "gonm"], [(0x964, 0x965, 1)]),
    (["meroitichieroglyphs", "mero"], [(0x205D, 0x205D, 1)]),
    (["modi"], [(0xA830, 0xA839, 1)]),
    (["mongolian", "mong"],
     [(0x1802, 0x1803, 1), (0x1805, 0x1805, 1), (0x202F, 0x202F, 1), (0x3001, 0x3002, 1),
      (0x3008, 0x300B, 1)]),
    (["multani", "mult"], [(0xA66, 0xA6F, 1)]),
    (["myanmar", "mymr"], [(0xA92E, 0xA92E, 1)]),
    (["nandinagari", "nand"],
     [(0x951, 0x951, 1), (0x964, 0x965, 1), (0xCE6, 0xCEF, 1), (0x1CE9, 0x1CE9, 1), (0x1CF2, 0x1CF2, 1),
      (0x1CFA, 0x1CFA, 1), (0xA830, 0xA835, 1)]),
    (["newa"],
     [(0x951, 0x952, 1), (0x1CD5, 0x1CD7, 2), (0x1CD8, 0x1CD8, 1), (0x1CE2, 0x1CE2, 1),
      (0x1CE9, 0x1CED, 2)]),
    (["nko", "nkoo"], [(0x60C, 0x60C, 1), (0x61B, 0x61B, 1), (0x61F, 0x61F, 1), (0xFD3E, 0xFD3F, 1)]),
    (["oldhungarian", "hung"],
     [(0x205A, 0x205A, 1), (0x205D, 0x205D, 1), (0x2E31, 0x2E31, 1), (0x2E41, 0x2E41, 1)]),
    (["oldpermic", "perm"],
     [(0xB7, 0xB7, 1), (0x300, 0x300, 1), (0x306, 0x308, 1), (0x313, 0x313, 1), (0x483, 0x483, 1)]),
    (["oldturkic", "orkh"], [(0x205A, 0x205A, 1), (0x2E30, 0x2E30, 1)]),
    (["olduyghur", "ougr"], [(0x640, 0x640, 1), (0x10AF2, 0x10AF2, 1)]),
    (["olonal", "onao"], [(0x964, 0x965, 1)]),
    (["oriya", "orya"],
     [(0x951, 0x952, 1), (0x964, 0x965, 1), (0x1CDA, 0x1CDA, 1), (0x1CF2, 0x1CF2, 1)]),
    (["osage", "osge"], [(0x301, 0x301, 1), (0x304, 0x304, 1), (0x30B, 0x30B, 1), (0x358, 0x358, 1)]),
    (["phagspa", "phag"],
     [(0x1802, 0x1803, 1), (0x1805, 0x1805, 1), (0x202F, 0x202F, 1), (0x3002, 0x3002, 1)]),
    (["psalterpahlavi", "phlp"], [(0x640, 0x640, 1)]),
    (["runic", "runr"], [(0x16EB, 0x16ED, 1)]),
    (["samaritan", "samr"], [(0x2E31, 0x2E31, 1)]),
    (["sharada", "shrd"],
     [(0x951, 0x951, 1), (0x1CD7, 0x1CD9, 2), (0x1CDC, 0x1CDD, 1), (0x1CE0, 0x1CE0, 1),
      (0x1CEA, 0x1CEA, 1), (0x1CED, 0x1CED, 1), (0xA830, 0xA835, 1), (0xA838, 0xA838, 1)]),
    (["shavian", "shaw"], [(0xB7, 0xB7, 1)]),
    (["sinhala", "sinh"], [(0x964, 0x965, 1), (0x1CF2, 0x1CF2, 1)]),
    (["sogdian", "sogd"], [(0x640, 0x640, 1)]),
    (["sunuwar", "sunu"],
     [(0x300, 0x301, 1), (0x303, 0x303, 1), (0x30D, 0x30D, 1), (0x310, 0x310, 1), (0x32D, 0x32D, 1),
      (0x331, 0x331, 1)]),
    (["sylotinagri", "sylo"], [(0x964, 0x965, 1), (0x9E6, 0x9EF, 1)]),
    (["syriac", "syrc"],
     [(0x303, 0x304, 1), (0x307, 0x308, 1), (0x30A, 0x30A, 1), (0x323, 0x325, 1), (0x32D, 0x32E, 1),
      (0x330, 0x331, 1), (0x60C, 0x60C, 1), (0x61B, 0x61C, 1), (0x61F, 0x61F, 1), (0x640, 0x640, 1),
      (0x64B, 0x655, 1), (0x670, 0x670, 1), (0x1DF8, 0x1DFA, 2)]),
    (["tagalog", "tglg"], [(0x1735, 0x1736, 1)]),
    (["tagbanwa", "tagb"], [(0x1735, 0x1736, 1)]),
    (["taile", "tale"], [(0x300, 0x301, 1), (0x307, 0x308, 1), (0x30C, 0x30C, 1), (0x1040, 0x1049, 1)]),
    (["takri", "takr"], [(0x964, 0x965, 1), (0xA830, 0xA839, 1)]),
    (["tamil", "taml"],
     [(0x951, 0x952, 1), (0x964, 0x965, 1), (0x1CDA, 0x1CDA, 1), (0xA8F3, 0xA8F3, 1),
      (0x11301, 0x11303, 2), (0x1133B, 0x1133C, 1)]),
    (["tangut", "tang"], [(0x2FF0, 0x2FFF, 1), (0x31EF, 0x31EF, 1)]),
    (["telugu", "telu"],
     [(0x951, 0x952, 1), (0x964, 0x965, 1), (0x1CD5, 0x1CD6, 1), (0x1CD8, 0x1CDA, 2),
      (0x1CF2, 0x1CF2, 1)]),
    (["thaana", "thaa"],
     [(0x60C, 0x60C, 1), (0x61B, 0x61C, 1), (0x61F, 0x61F, 1), (0x660, 0x669, 1), (0xFDF2, 0xFDF2, 1),
      (0xFDFD, 0xFDFD, 1)]),
    (["thai"], [(0x2BC, 0x2BC, 1), (0x2D7, 0x2D7, 1), (0x303, 0x303, 1), (0x331, 0x331, 1)]),
    (["tibetan", "tibt"], [(0x3008, 0x300B, 1)]),
    (["tifinagh", "tfng"], [(0x302, 0x306, 2), (0x307, 0x309, 1), (0x323, 0x323, 1)]),
    (["tirhuta", "tirh"],
     [(0x951, 0x952, 1), (0x964, 0x965, 1), (0x1CD5, 0x1CD5, 1), (0x1CE2, 0x1CE2, 1),
      (0x1CF2, 0x1CF2, 1), (0xA830, 0xA839, 1)]),
    (["todhri", "todr"],
     [(0x301, 0x301, 1), (0x304, 0x304, 1), (0x307, 0x307, 1), (0x311, 0x313, 2), (0x35E, 0x35E, 1)]),
    (["toto"], [(0x2BC, 0x2BC, 1)]),
    (["tulutigalari", "tutg"],
     [(0xCE6, 0xCEF, 1), (0x1CF2, 0x1CF4, 2), (0xA830, 0xA835, 1), (0xA8F1, 0xA8F1, 1)]),
    (["yezidi", "yezi"], [(0x60C, 0x60C, 1), (0x61B, 0x61B, 1), (0x61F, 0x61F, 1), (0x660, 0x669, 1)]),
    (["yi", "yiii"],
     [(0x3001, 0x3002, 1), (0x3008, 0x3011, 1), (0x3014, 0x301B, 1), (0x30FB, 0x30FB, 1),
      (0xFF61, 0xFF65, 1)])]

end FormEditor.Unicode
