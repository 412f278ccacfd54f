import ControlQuery.Unicode.CodeRange

/-!
# Punctuation

The code points of punctuation, by category.
-/

namespace ControlQuery.Unicode.GeneralCategory

/-- The code points of connector punctuation (Pc). -/
def connectorPunctuationRanges : List CodeRange :=
  [
    ⟨0x5f, 0x5f⟩, ⟨0x203f, 0x2040⟩, ⟨0x2054, 0x2054⟩, ⟨0xfe33, 0xfe34⟩, ⟨0xfe4d, 0xfe4f⟩,
    ⟨0xff3f, 0xff3f⟩
  ]

/-- The code points of dashes (Pd). -/
def dashPunctuationRanges : List CodeRange :=
  [
    ⟨0x2d, 0x2d⟩, ⟨0x58a, 0x58a⟩, ⟨0x5be, 0x5be⟩, ⟨0x1400, 0x1400⟩, ⟨0x1806, 0x1806⟩,
    ⟨0x2010, 0x2015⟩, ⟨0x2e17, 0x2e17⟩, ⟨0x2e1a, 0x2e1a⟩, ⟨0x2e3a, 0x2e3b⟩, ⟨0x2e40, 0x2e40⟩,
    ⟨0x2e5d, 0x2e5d⟩, ⟨0x301c, 0x301c⟩, ⟨0x3030, 0x3030⟩, ⟨0x30a0, 0x30a0⟩, ⟨0xfe31, 0xfe32⟩,
    ⟨0xfe58, 0xfe58⟩, ⟨0xfe63, 0xfe63⟩, ⟨0xff0d, 0xff0d⟩, ⟨0x10d6e, 0x10d6e⟩, ⟨0x10ead, 0x10ead⟩
  ]

/-- The code points of opening punctuation (Ps). -/
def openPunctuationRanges : List CodeRange :=
  [
    ⟨0x28, 0x28⟩, ⟨0x5b, 0x5b⟩, ⟨0x7b, 0x7b⟩, ⟨0xf3a, 0xf3a⟩, ⟨0xf3c, 0xf3c⟩, ⟨0x169b, 0x169b⟩,
    ⟨0x201a, 0x201a⟩, ⟨0x201e, 0x201e⟩, ⟨0x2045, 0x2045⟩, ⟨0x207d, 0x207d⟩, ⟨0x208d, 0x208d⟩,
    ⟨0x2308, 0x2308⟩, ⟨0x230a, 0x230a⟩, ⟨0x2329, 0x2329⟩, ⟨0x2768, 0x2768⟩, ⟨0x276a, 0x276a⟩,
    ⟨0x276c, 0x276c⟩, ⟨0x276e, 0x276e⟩, ⟨0x2770, 0x2770⟩, ⟨0x2772, 0x2772⟩, ⟨0x2774, 0x2774⟩,
    ⟨0x27c5, 0x27c5⟩, ⟨0x27e6, 0x27e6⟩, ⟨0x27e8, 0x27e8⟩, ⟨0x27ea, 0x27ea⟩, ⟨0x27ec, 0x27ec⟩,
    ⟨0x27ee, 0x27ee⟩, ⟨0x2983, 0x2983⟩, ⟨0x2985, 0x2985⟩, ⟨0x2987, 0x2987⟩, ⟨0x2989, 0x2989⟩,
    ⟨0x298b, 0x298b⟩, ⟨0x298d, 0x298d⟩, ⟨0x298f, 0x298f⟩, ⟨0x2991, 0x2991⟩, ⟨0x2993, 0x2993⟩,
    ⟨0x2995, 0x2995⟩, ⟨0x2997, 0x2997⟩, ⟨0x29d8, 0x29d8⟩, ⟨0x29da, 0x29da⟩, ⟨0x29fc, 0x29fc⟩,
    ⟨0x2e22, 0x2e22⟩, ⟨0x2e24, 0x2e24⟩, ⟨0x2e26, 0x2e26⟩, ⟨0x2e28, 0x2e28⟩, ⟨0x2e42, 0x2e42⟩,
    ⟨0x2e55, 0x2e55⟩, ⟨0x2e57, 0x2e57⟩, ⟨0x2e59, 0x2e59⟩, ⟨0x2e5b, 0x2e5b⟩, ⟨0x3008, 0x3008⟩,
    ⟨0x300a, 0x300a⟩, ⟨0x300c, 0x300c⟩, ⟨0x300e, 0x300e⟩, ⟨0x3010, 0x3010⟩, ⟨0x3014, 0x3014⟩,
    ⟨0x3016, 0x3016⟩, ⟨0x3018, 0x3018⟩, ⟨0x301a, 0x301a⟩, ⟨0x301d, 0x301d⟩, ⟨0xfd3f, 0xfd3f⟩,
    ⟨0xfe17, 0xfe17⟩, ⟨0xfe35, 0xfe35⟩, ⟨0xfe37, 0xfe37⟩, ⟨0xfe39, 0xfe39⟩, ⟨0xfe3b, 0xfe3b⟩,
    ⟨0xfe3d, 0xfe3d⟩, ⟨0xfe3f, 0xfe3f⟩, ⟨0xfe41, 0xfe41⟩, ⟨0xfe43, 0xfe43⟩, ⟨0xfe47, 0xfe47⟩,
    ⟨0xfe59, 0xfe59⟩, ⟨0xfe5b, 0xfe5b⟩, ⟨0xfe5d, 0xfe5d⟩, ⟨0xff08, 0xff08⟩, ⟨0xff3b, 0xff3b⟩,
    ⟨0xff5b, 0xff5b⟩, ⟨0xff5f, 0xff5f⟩, ⟨0xff62, 0xff62⟩
  ]

/-- The code points of closing punctuation (Pe). -/
def closePunctuationRanges : List CodeRange :=
  [
    ⟨0x29, 0x29⟩, ⟨0x5d, 0x5d⟩, ⟨0x7d, 0x7d⟩, ⟨0xf3b, 0xf3b⟩, ⟨0xf3d, 0xf3d⟩, ⟨0x169c, 0x169c⟩,
    ⟨0x2046, 0x2046⟩, ⟨0x207e, 0x207e⟩, ⟨0x208e, 0x208e⟩, ⟨0x2309, 0x2309⟩, ⟨0x230b, 0x230b⟩,
    ⟨0x232a, 0x232a⟩, ⟨0x2769, 0x2769⟩, ⟨0x276b, 0x276b⟩, ⟨0x276d, 0x276d⟩, ⟨0x276f, 0x276f⟩,
    ⟨0x2771, 0x2771⟩, ⟨0x2773, 0x2773⟩, ⟨0x2775, 0x2775⟩, ⟨0x27c6, 0x27c6⟩, ⟨0x27e7, 0x27e7⟩,
    ⟨0x27e9, 0x27e9⟩, ⟨0x27eb, 0x27eb⟩, ⟨0x27ed, 0x27ed⟩, ⟨0x27ef, 0x27ef⟩, ⟨0x2984, 0x2984⟩,
    ⟨0x2986, 0x2986⟩, ⟨0x2988, 0x2988⟩, ⟨0x298a, 0x298a⟩, ⟨0x298c, 0x298c⟩, ⟨0x298e, 0x298e⟩,
    ⟨0x2990, 0x2990⟩, ⟨0x2992, 0x2992⟩, ⟨0x2994, 0x2994⟩, ⟨0x2996, 0x2996⟩, ⟨0x2998, 0x2998⟩,
    ⟨0x29d9, 0x29d9⟩, ⟨0x29db, 0x29db⟩, ⟨0x29fd, 0x29fd⟩, ⟨0x2e23, 0x2e23⟩, ⟨0x2e25, 0x2e25⟩,
    ⟨0x2e27, 0x2e27⟩, ⟨0x2e29, 0x2e29⟩, ⟨0x2e56, 0x2e56⟩, ⟨0x2e58, 0x2e58⟩, ⟨0x2e5a, 0x2e5a⟩,
    ⟨0x2e5c, 0x2e5c⟩, ⟨0x3009, 0x3009⟩, ⟨0x300b, 0x300b⟩, ⟨0x300d, 0x300d⟩, ⟨0x300f, 0x300f⟩,
    ⟨0x3011, 0x3011⟩, ⟨0x3015, 0x3015⟩, ⟨0x3017, 0x3017⟩, ⟨0x3019, 0x3019⟩, ⟨0x301b, 0x301b⟩,
    ⟨0x301e, 0x301f⟩, ⟨0xfd3e, 0xfd3e⟩, ⟨0xfe18, 0xfe18⟩, ⟨0xfe36, 0xfe36⟩, ⟨0xfe38, 0xfe38⟩,
    ⟨0xfe3a, 0xfe3a⟩, ⟨0xfe3c, 0xfe3c⟩, ⟨0xfe3e, 0xfe3e⟩, ⟨0xfe40, 0xfe40⟩, ⟨0xfe42, 0xfe42⟩,
    ⟨0xfe44, 0xfe44⟩, ⟨0xfe48, 0xfe48⟩, ⟨0xfe5a, 0xfe5a⟩, ⟨0xfe5c, 0xfe5c⟩, ⟨0xfe5e, 0xfe5e⟩,
    ⟨0xff09, 0xff09⟩, ⟨0xff3d, 0xff3d⟩, ⟨0xff5d, 0xff5d⟩, ⟨0xff60, 0xff60⟩, ⟨0xff63, 0xff63⟩
  ]

/-- The code points of opening quotation marks (Pi). -/
def initialPunctuationRanges : List CodeRange :=
  [
    ⟨0xab, 0xab⟩, ⟨0x2018, 0x2018⟩, ⟨0x201b, 0x201c⟩, ⟨0x201f, 0x201f⟩, ⟨0x2039, 0x2039⟩,
    ⟨0x2e02, 0x2e02⟩, ⟨0x2e04, 0x2e04⟩, ⟨0x2e09, 0x2e09⟩, ⟨0x2e0c, 0x2e0c⟩, ⟨0x2e1c, 0x2e1c⟩,
    ⟨0x2e20, 0x2e20⟩
  ]

/-- The code points of closing quotation marks (Pf). -/
def finalPunctuationRanges : List CodeRange :=
  [
    ⟨0xbb, 0xbb⟩, ⟨0x2019, 0x2019⟩, ⟨0x201d, 0x201d⟩, ⟨0x203a, 0x203a⟩, ⟨0x2e03, 0x2e03⟩,
    ⟨0x2e05, 0x2e05⟩, ⟨0x2e0a, 0x2e0a⟩, ⟨0x2e0d, 0x2e0d⟩, ⟨0x2e1d, 0x2e1d⟩, ⟨0x2e21, 0x2e21⟩
  ]

/-- The code points of other punctuation (Po). -/
def otherPunctuationRanges : List CodeRange :=
  [
    ⟨0x21, 0x23⟩, ⟨0x25, 0x27⟩, ⟨0x2a, 0x2a⟩, ⟨0x2c, 0x2c⟩, ⟨0x2e, 0x2f⟩, ⟨0x3a, 0x3b⟩,
    ⟨0x3f, 0x40⟩, ⟨0x5c, 0x5c⟩, ⟨0xa1, 0xa1⟩, ⟨0xa7, 0xa7⟩, ⟨0xb6, 0xb7⟩, ⟨0xbf, 0xbf⟩,
    ⟨0x37e, 0x37e⟩, ⟨0x387, 0x387⟩, ⟨0x55a, 0x55f⟩, ⟨0x589, 0x589⟩, ⟨0x5c0, 0x5c0⟩, ⟨0x5c3, 0x5c3⟩,
    ⟨0x5c6, 0x5c6⟩, ⟨0x5f3, 0x5f4⟩, ⟨0x609, 0x60a⟩, ⟨0x60c, 0x60d⟩, ⟨0x61b, 0x61b⟩, ⟨0x61d, 0x61f⟩,
    ⟨0x66a, 0x66d⟩, ⟨0x6d4, 0x6d4⟩, ⟨0x700, 0x70d⟩, ⟨0x7f7, 0x7f9⟩, ⟨0x830, 0x83e⟩, ⟨0x85e, 0x85e⟩,
    ⟨0x964, 0x965⟩, ⟨0x970, 0x970⟩, ⟨0x9fd, 0x9fd⟩, ⟨0xa76, 0xa76⟩, ⟨0xaf0, 0xaf0⟩, ⟨0xc77, 0xc77⟩,
    ⟨0xc84, 0xc84⟩, ⟨0xdf4, 0xdf4⟩, ⟨0xe4f, 0xe4f⟩, ⟨0xe5a, 0xe5b⟩, ⟨0xf04, 0xf12⟩, ⟨0xf14, 0xf14⟩,
    ⟨0xf85, 0xf85⟩, ⟨0xfd0, 0xfd4⟩, ⟨0xfd9, 0xfda⟩, ⟨0x104a, 0x104f⟩, ⟨0x10fb, 0x10fb⟩,
    ⟨0x1360, 0x1368⟩, ⟨0x166e, 0x166e⟩, ⟨0x16eb, 0x16ed⟩, ⟨0x1735, 0x1736⟩, ⟨0x17d4, 0x17d6⟩,
    ⟨0x17d8, 0x17da⟩, ⟨0x1800, 0x1805⟩, ⟨0x1807, 0x180a⟩, ⟨0x1944, 0x1945⟩, ⟨0x1a1e, 0x1a1f⟩,
    ⟨0x1aa0, 0x1aa6⟩, ⟨0x1aa8, 0x1aad⟩, ⟨0x1b4e, 0x1b4f⟩, ⟨0x1b5a, 0x1b60⟩, ⟨0x1b7d, 0x1b7f⟩,
    ⟨0x1bfc, 0x1bff⟩, ⟨0x1c3b, 0x1c3f⟩, ⟨0x1c7e, 0x1c7f⟩, ⟨0x1cc0, 0x1cc7⟩, ⟨0x1cd3, 0x1cd3⟩,
    ⟨0x2016, 0x2017⟩, ⟨0x2020, 0x2027⟩, ⟨0x2030, 0x2038⟩, ⟨0x203b, 0x203e⟩, ⟨0x2041, 0x2043⟩,
    ⟨0x2047, 0x2051⟩, ⟨0x2053, 0x2053⟩, ⟨0x2055, 0x205e⟩, ⟨0x2cf9, 0x2cfc⟩, ⟨0x2cfe, 0x2cff⟩,
    ⟨0x2d70, 0x2d70⟩, ⟨0x2e00, 0x2e01⟩, ⟨0x2e06, 0x2e08⟩, ⟨0x2e0b, 0x2e0b⟩, ⟨0x2e0e, 0x2e16⟩,
    ⟨0x2e18, 0x2e19⟩, ⟨0x2e1b, 0x2e1b⟩, ⟨0x2e1e, 0x2e1f⟩, ⟨0x2e2a, 0x2e2e⟩, ⟨0x2e30, 0x2e39⟩,
    ⟨0x2e3c, 0x2e3f⟩, ⟨0x2e41, 0x2e41⟩, ⟨0x2e43, 0x2e4f⟩, ⟨0x2e52, 0x2e54⟩, ⟨0x3001, 0x3003⟩,
    ⟨0x303d, 0x303d⟩, ⟨0x30fb, 0x30fb⟩, ⟨0xa4fe, 0xa4ff⟩, ⟨0xa60d, 0xa60f⟩, ⟨0xa673, 0xa673⟩,
    ⟨0xa67e, 0xa67e⟩, ⟨0xa6f2, 0xa6f7⟩, ⟨0xa874, 0xa877⟩, ⟨0xa8ce, 0xa8cf⟩, ⟨0xa8f8, 0xa8fa⟩,
    ⟨0xa8fc, 0xa8fc⟩, ⟨0xa92e, 0xa92f⟩, ⟨0xa95f, 0xa95f⟩, ⟨0xa9c1, 0xa9cd⟩, ⟨0xa9de, 0xa9df⟩,
    ⟨0xaa5c, 0xaa5f⟩, ⟨0xaade, 0xaadf⟩, ⟨0xaaf0, 0xaaf1⟩, ⟨0xabeb, 0xabeb⟩, ⟨0xfe10, 0xfe16⟩,
    ⟨0xfe19, 0xfe19⟩, ⟨0xfe30, 0xfe30⟩, ⟨0xfe45, 0xfe46⟩, ⟨0xfe49, 0xfe4c⟩, ⟨0xfe50, 0xfe52⟩,
    ⟨0xfe54, 0xfe57⟩, ⟨0xfe5f, 0xfe61⟩, ⟨0xfe68, 0xfe68⟩, ⟨0xfe6a, 0xfe6b⟩, ⟨0xff01, 0xff03⟩,
    ⟨0xff05, 0xff07⟩, ⟨0xff0a, 0xff0a⟩, ⟨0xff0c, 0xff0c⟩, ⟨0xff0e, 0xff0f⟩, ⟨0xff1a, 0xff1b⟩,
    ⟨0xff1f, 0xff20⟩, ⟨0xff3c, 0xff3c⟩, ⟨0xff61, 0xff61⟩, ⟨0xff64, 0xff65⟩, ⟨0x10100, 0x10102⟩,
    ⟨0x1039f, 0x1039f⟩, ⟨0x103d0, 0x103d0⟩, ⟨0x1056f, 0x1056f⟩, ⟨0x10857, 0x10857⟩,
    ⟨0x1091f, 0x1091f⟩, ⟨0x1093f, 0x1093f⟩, ⟨0x10a50, 0x10a58⟩, ⟨0x10a7f, 0x10a7f⟩,
    ⟨0x10af0, 0x10af6⟩, ⟨0x10b39, 0x10b3f⟩, ⟨0x10b99, 0x10b9c⟩, ⟨0x10ed0, 0x10ed0⟩,
    ⟨0x10f55, 0x10f59⟩, ⟨0x10f86, 0x10f89⟩, ⟨0x11047, 0x1104d⟩, ⟨0x110bb, 0x110bc⟩,
    ⟨0x110be, 0x110c1⟩, ⟨0x11140, 0x11143⟩, ⟨0x11174, 0x11175⟩, ⟨0x111c5, 0x111c8⟩,
    ⟨0x111cd, 0x111cd⟩, ⟨0x111db, 0x111db⟩, ⟨0x111dd, 0x111df⟩, ⟨0x11238, 0x1123d⟩,
    ⟨0x112a9, 0x112a9⟩, ⟨0x113d4, 0x113d5⟩, ⟨0x113d7, 0x113d8⟩, ⟨0x1144b, 0x1144f⟩,
    ⟨0x1145a, 0x1145b⟩, ⟨0x1145d, 0x1145d⟩, ⟨0x114c6, 0x114c6⟩, ⟨0x115c1, 0x115d7⟩,
    ⟨0x11641, 0x11643⟩, ⟨0x11660, 0x1166c⟩, ⟨0x116b9, 0x116b9⟩, ⟨0x1173c, 0x1173e⟩,
    ⟨0x1183b, 0x1183b⟩, ⟨0x11944, 0x11946⟩, ⟨0x119e2, 0x119e2⟩, ⟨0x11a3f, 0x11a46⟩,
    ⟨0x11a9a, 0x11a9c⟩, ⟨0x11a9e, 0x11aa2⟩, ⟨0x11b00, 0x11b09⟩, ⟨0x11be1, 0x11be1⟩,
    ⟨0x11c41, 0x11c45⟩, ⟨0x11c70, 0x11c71⟩, ⟨0x11ef7, 0x11ef8⟩, ⟨0x11f43, 0x11f4f⟩,
    ⟨0x11fff, 0x11fff⟩, ⟨0x12470, 0x12474⟩, ⟨0x12ff1, 0x12ff2⟩, ⟨0x16a6e, 0x16a6f⟩,
    ⟨0x16af5, 0x16af5⟩, ⟨0x16b37, 0x16b3b⟩, ⟨0x16b44, 0x16b44⟩, ⟨0x16d6d, 0x16d6f⟩,
    ⟨0x16e97, 0x16e9a⟩, ⟨0x16fe2, 0x16fe2⟩, ⟨0x1bc9f, 0x1bc9f⟩, ⟨0x1da87, 0x1da8b⟩,
    ⟨0x1e5ff, 0x1e5ff⟩, ⟨0x1e95e, 0x1e95f⟩
  ]

end ControlQuery.Unicode.GeneralCategory
