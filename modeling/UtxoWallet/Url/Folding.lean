import UtxoWallet.Text.Classes
import UtxoWallet.Text.Pieces
import UtxoWallet.Url.Punycode

/-! # Characters of a domain name that stand for others

Case, width and style do not tell two names apart: a capital stands for its small letter, a wide
letter for the usual one, and a sign for the text it is short for.
-/

namespace UtxoWallet.Url.Folding

/-- Characters that go for nothing. -/
def ignoredRanges : List (Nat × Nat) :=
  [(0xAD, 0xAD), (0x34F, 0x34F), (0x115F, 0x1160), (0x17B4, 0x17B5), (0x180B, 0x180F),
   (0x200B, 0x200B), (0x2060, 0x2064), (0x206A, 0x206F), (0x3164, 0x3164), (0xFE00, 0xFE0F),
   (0xFEFF, 0xFEFF), (0xFFA0, 0xFFA0), (0x1BCA0, 0x1BCA3), (0x1D173, 0x1D17A), (0xE0100, 0xE01EF)]

/-- Rows of letters, and where the letters start for which they stand. -/
def rows : List (Nat × Nat × Nat) :=
  [(0xC0, 0xD6, 0xE0), (0xD8, 0xDE, 0xF8), (0x391, 0x3A1, 0x3B1), (0x3A3, 0x3AB, 0x3C3),
   (0x400, 0x40F, 0x450), (0x410, 0x42F, 0x430), (0x531, 0x556, 0x561), (0x10A0, 0x10C5, 0x2D00),
   (0x13F8, 0x13FD, 0x13F0), (0x1C90, 0x1CBA, 0x10D0), (0x1D33, 0x1D3A, 0x67),
   (0x1DAE, 0x1DB1, 0x272), (0x1F08, 0x1F0F, 0x1F00), (0x1F18, 0x1F1D, 0x1F10),
   (0x1F28, 0x1F2F, 0x1F20), (0x1F38, 0x1F3F, 0x1F30), (0x1F48, 0x1F4D, 0x1F40),
   (0x1F68, 0x1F6F, 0x1F60), (0x2074, 0x2079, 0x34), (0x2080, 0x2089, 0x30), (0x2096, 0x2099, 0x6B),
   (0x2135, 0x2138, 0x5D0), (0x2460, 0x2468, 0x31), (0x24B6, 0x24CF, 0x61), (0x24D0, 0x24E9, 0x61),
   (0x2C00, 0x2C2F, 0x2C30), (0x313A, 0x313F, 0x11B0), (0x3145, 0x314E, 0x1109),
   (0x314F, 0x3163, 0x1161), (0x3178, 0x317C, 0x112B), (0x3269, 0x326D, 0x110E),
   (0x32E4, 0x32E9, 0x30CA), (0x32EE, 0x32F2, 0x30DE), (0x32F5, 0x32FA, 0x30E8),
   (0x32FB, 0x32FE, 0x30EF), (0xAB70, 0xABBF, 0x13A0), (0xFE41, 0xFE44, 0x300C),
   (0xFF01, 0xFF20, 0x21), (0xFF21, 0xFF3A, 0x61), (0xFF3B, 0xFF5E, 0x5B), (0xFF85, 0xFF8A, 0x30CA),
   (0xFF8F, 0xFF93, 0x30DE), (0xFF96, 0xFF9B, 0x30E8), (0xFFAA, 0xFFAF, 0x11B0),
   (0xFFB5, 0xFFBE, 0x1109), (0xFFC2, 0xFFC7, 0x1161), (0xFFCA, 0xFFCF, 0x1167),
   (0xFFD2, 0xFFD7, 0x116D), (0xFFE9, 0xFFEC, 0x2190), (0x10400, 0x10427, 0x10428),
   (0x104B0, 0x104D3, 0x104D8), (0x10570, 0x1057A, 0x10597), (0x1057C, 0x1058A, 0x105A3),
   (0x1058C, 0x10592, 0x105B3), (0x10C80, 0x10CB2, 0x10CC0), (0x10D50, 0x10D65, 0x10D70),
   (0x118A0, 0x118BF, 0x118C0), (0x16E40, 0x16E5F, 0x16E60), (0x16EA0, 0x16EB8, 0x16EBB),
   (0x1CCD6, 0x1CCEF, 0x61), (0x1CCF0, 0x1CCF9, 0x30), (0x1D400, 0x1D419, 0x61),
   (0x1D41A, 0x1D433, 0x61), (0x1D434, 0x1D44D, 0x61), (0x1D44E, 0x1D454, 0x61),
   (0x1D456, 0x1D467, 0x69), (0x1D468, 0x1D481, 0x61), (0x1D482, 0x1D49B, 0x61),
   (0x1D4A9, 0x1D4AC, 0x6E), (0x1D4AE, 0x1D4B5, 0x73), (0x1D4B6, 0x1D4B9, 0x61),
   (0x1D4BD, 0x1D4C3, 0x68), (0x1D4C5, 0x1D4CF, 0x70), (0x1D4D0, 0x1D4E9, 0x61),
   (0x1D4EA, 0x1D503, 0x61), (0x1D507, 0x1D50A, 0x64), (0x1D50D, 0x1D514, 0x6A),
   (0x1D516, 0x1D51C, 0x73), (0x1D51E, 0x1D537, 0x61), (0x1D53B, 0x1D53E, 0x64),
   (0x1D540, 0x1D544, 0x69), (0x1D54A, 0x1D550, 0x73), (0x1D552, 0x1D56B, 0x61),
   (0x1D56C, 0x1D585, 0x61), (0x1D586, 0x1D59F, 0x61), (0x1D5A0, 0x1D5B9, 0x61),
   (0x1D5BA, 0x1D5D3, 0x61), (0x1D5D4, 0x1D5ED, 0x61), (0x1D5EE, 0x1D607, 0x61),
   (0x1D608, 0x1D621, 0x61), (0x1D622, 0x1D63B, 0x61), (0x1D63C, 0x1D655, 0x61),
   (0x1D656, 0x1D66F, 0x61), (0x1D670, 0x1D689, 0x61), (0x1D68A, 0x1D6A3, 0x61),
   (0x1D6A8, 0x1D6B8, 0x3B1), (0x1D6BA, 0x1D6C0, 0x3C3), (0x1D6C2, 0x1D6D2, 0x3B1),
   (0x1D6D4, 0x1D6DA, 0x3C3), (0x1D6E2, 0x1D6F2, 0x3B1), (0x1D6F4, 0x1D6FA, 0x3C3),
   (0x1D6FC, 0x1D70C, 0x3B1), (0x1D70E, 0x1D714, 0x3C3), (0x1D71C, 0x1D72C, 0x3B1),
   (0x1D72E, 0x1D734, 0x3C3), (0x1D736, 0x1D746, 0x3B1), (0x1D748, 0x1D74E, 0x3C3),
   (0x1D756, 0x1D766, 0x3B1), (0x1D768, 0x1D76E, 0x3C3), (0x1D770, 0x1D780, 0x3B1),
   (0x1D782, 0x1D788, 0x3C3), (0x1D790, 0x1D7A0, 0x3B1), (0x1D7A2, 0x1D7A8, 0x3C3),
   (0x1D7AA, 0x1D7BA, 0x3B1), (0x1D7BC, 0x1D7C2, 0x3C3), (0x1D7CE, 0x1D7D7, 0x30),
   (0x1D7D8, 0x1D7E1, 0x30), (0x1D7E2, 0x1D7EB, 0x30), (0x1D7EC, 0x1D7F5, 0x30),
   (0x1D7F6, 0x1D7FF, 0x30), (0x1E030, 0x1E038, 0x430), (0x1E03C, 0x1E046, 0x43E),
   (0x1E051, 0x1E059, 0x430), (0x1E05F, 0x1E064, 0x443), (0x1E900, 0x1E921, 0x1E922),
   (0x1EE0A, 0x1EE0D, 0x643), (0x1EE2A, 0x1EE2D, 0x643), (0x1F130, 0x1F149, 0x61),
   (0x1FBF0, 0x1FBF9, 0x30)]

/-- Rows of forms of one letter, and the letter. -/
def forms : List (Nat × Nat × Nat) :=
  [(0x2000, 0x200A, 0x20), (0x210B, 0x210E, 0x68), (0x211B, 0x211D, 0x72), (0xFB50, 0xFB51, 0x671),
   (0xFB52, 0xFB55, 0x67B), (0xFB56, 0xFB59, 0x67E), (0xFB5A, 0xFB5D, 0x680),
   (0xFB5E, 0xFB61, 0x67A), (0xFB62, 0xFB65, 0x67F), (0xFB66, 0xFB69, 0x679),
   (0xFB6A, 0xFB6D, 0x6A4), (0xFB6E, 0xFB71, 0x6A6), (0xFB72, 0xFB75, 0x684),
   (0xFB76, 0xFB79, 0x683), (0xFB7A, 0xFB7D, 0x686), (0xFB7E, 0xFB81, 0x687),
   (0xFB82, 0xFB83, 0x68D), (0xFB84, 0xFB85, 0x68C), (0xFB86, 0xFB87, 0x68E),
   (0xFB88, 0xFB89, 0x688), (0xFB8A, 0xFB8B, 0x698), (0xFB8C, 0xFB8D, 0x691),
   (0xFB8E, 0xFB91, 0x6A9), (0xFB92, 0xFB95, 0x6AF), (0xFB96, 0xFB99, 0x6B3),
   (0xFB9A, 0xFB9D, 0x6B1), (0xFB9E, 0xFB9F, 0x6BA), (0xFBA0, 0xFBA3, 0x6BB),
   (0xFBA4, 0xFBA5, 0x6C0), (0xFBA6, 0xFBA9, 0x6C1), (0xFBAA, 0xFBAD, 0x6BE),
   (0xFBAE, 0xFBAF, 0x6D2), (0xFBB0, 0xFBB1, 0x6D3), (0xFBD3, 0xFBD6, 0x6AD),
   (0xFBD7, 0xFBD8, 0x6C7), (0xFBD9, 0xFBDA, 0x6C6), (0xFBDB, 0xFBDC, 0x6C8),
   (0xFBDE, 0xFBDF, 0x6CB), (0xFBE0, 0xFBE1, 0x6C5), (0xFBE2, 0xFBE3, 0x6C9),
   (0xFBE4, 0xFBE7, 0x6D0), (0xFBE8, 0xFBE9, 0x649), (0xFBFC, 0xFBFF, 0x6CC),
   (0xFE33, 0xFE34, 0x5F), (0xFE4D, 0xFE4F, 0x5F), (0xFE81, 0xFE82, 0x622), (0xFE83, 0xFE84, 0x623),
   (0xFE85, 0xFE86, 0x624), (0xFE87, 0xFE88, 0x625), (0xFE89, 0xFE8C, 0x626),
   (0xFE8D, 0xFE8E, 0x627), (0xFE8F, 0xFE92, 0x628), (0xFE93, 0xFE94, 0x629),
   (0xFE95, 0xFE98, 0x62A), (0xFE99, 0xFE9C, 0x62B), (0xFE9D, 0xFEA0, 0x62C),
   (0xFEA1, 0xFEA4, 0x62D), (0xFEA5, 0xFEA8, 0x62E), (0xFEA9, 0xFEAA, 0x62F),
   (0xFEAB, 0xFEAC, 0x630), (0xFEAD, 0xFEAE, 0x631), (0xFEAF, 0xFEB0, 0x632),
   (0xFEB1, 0xFEB4, 0x633), (0xFEB5, 0xFEB8, 0x634), (0xFEB9, 0xFEBC, 0x635),
   (0xFEBD, 0xFEC0, 0x636), (0xFEC1, 0xFEC4, 0x637), (0xFEC5, 0xFEC8, 0x638),
   (0xFEC9, 0xFECC, 0x639), (0xFECD, 0xFED0, 0x63A), (0xFED1, 0xFED4, 0x641),
   (0xFED5, 0xFED8, 0x642), (0xFED9, 0xFEDC, 0x643), (0xFEDD, 0xFEE0, 0x644),
   (0xFEE1, 0xFEE4, 0x645), (0xFEE5, 0xFEE8, 0x646), (0xFEE9, 0xFEEC, 0x647),
   (0xFEED, 0xFEEE, 0x648), (0xFEEF, 0xFEF0, 0x649), (0xFEF1, 0xFEF4, 0x64A),
   (0x2F831, 0x2F833, 0x537F)]

/-- Rows in which every other letter, from the first to the last, stands for the one behind it. -/
def alternating : List (Nat × Nat) :=
  [(0x100, 0x12E), (0x134, 0x136), (0x139, 0x13D), (0x141, 0x147), (0x14A, 0x176), (0x179, 0x17D),
   (0x182, 0x184), (0x1A0, 0x1A4), (0x1B3, 0x1B5), (0x1CD, 0x1DB), (0x1DE, 0x1EE), (0x1F8, 0x21E),
   (0x222, 0x232), (0x246, 0x24E), (0x370, 0x372), (0x3D8, 0x3EE), (0x460, 0x480), (0x48A, 0x4BE),
   (0x4C1, 0x4CD), (0x4D0, 0x52E), (0x1E00, 0x1E94), (0x1EA0, 0x1EFE), (0x2C67, 0x2C6B),
   (0x2C80, 0x2CE2), (0x2CEB, 0x2CED), (0xA640, 0xA66C), (0xA680, 0xA69A), (0xA722, 0xA72E),
   (0xA732, 0xA76E), (0xA779, 0xA77B), (0xA77E, 0xA786), (0xA790, 0xA792), (0xA796, 0xA7A8),
   (0xA7B4, 0xA7C2), (0xA7C7, 0xA7C9), (0xA7CC, 0xA7DA)]

/-- Single letters that stand for another. -/
def singles : List (Nat × Nat) :=
  [(0xA0, 0x20), (0x178, 0xFF), (0x17F, 0x73), (0x181, 0x253), (0x1B7, 0x292), (0x1B8, 0x1B9),
   (0x1BC, 0x1BD), (0x220, 0x19E), (0x374, 0x2B9), (0x376, 0x377), (0x37E, 0x3B), (0x37F, 0x3F3),
   (0x4C0, 0x4CF), (0xF0C, 0xF0B), (0x10C7, 0x2D27), (0x10CD, 0x2D2D), (0x10FC, 0x10DC),
   (0x1D78, 0x43D), (0x1FD3, 0x390), (0x1FE3, 0x3B0), (0x2011, 0x2010), (0x202F, 0x20),
   (0x205F, 0x20), (0x2070, 0x30), (0x2071, 0x69), (0x2183, 0x2184), (0x2329, 0x3008),
   (0x232A, 0x3009), (0x24EA, 0x30), (0x2CF2, 0x2CF3), (0x2D6F, 0x2D61), (0x2E9F, 0x6BCD),
   (0x2EF3, 0x9F9F), (0x3000, 0x20), (0x3002, 0x2E), (0x32F3, 0x30E4), (0x32F4, 0x30E6),
   (0xA69C, 0x44A), (0xA69D, 0x44C), (0xA770, 0xA76F), (0xA77D, 0x1D79), (0xA78B, 0xA78C),
   (0xA78D, 0x265), (0xA7CB, 0x264), (0xA7DC, 0x19B), (0xAB69, 0x28D), (0xFF94, 0x30E4),
   (0xFF95, 0x30E6), (0xFFED, 0x25A0), (0xFFEE, 0x25CB), (0x10594, 0x105BB), (0x10595, 0x105BC),
   (0x1D4BB, 0x66), (0x1D504, 0x61), (0x1D505, 0x62), (0x1D538, 0x61), (0x1D539, 0x62),
   (0x1D546, 0x6F), (0x1D6A4, 0x131), (0x1D6A5, 0x237), (0x1D6B9, 0x3B8), (0x1D6C1, 0x2207),
   (0x1D6D3, 0x3C3), (0x1D6F3, 0x3B8), (0x1D6FB, 0x2207), (0x1D70D, 0x3C3), (0x1D72D, 0x3B8),
   (0x1D735, 0x2207), (0x1D747, 0x3C3), (0x1D767, 0x3B8), (0x1D76F, 0x2207), (0x1D781, 0x3C3),
   (0x1D7A1, 0x3B8), (0x1D7A9, 0x2207), (0x1D7BB, 0x3C3), (0x1EE42, 0x62C), (0x1F250, 0x5F97),
   (0x1F251, 0x53EF)]

/-- Rows of characters, and the texts for which they stand, with bars between them. A character with
no text is not of the row. -/
def texts : List (Nat × Nat × String) :=
  [(0xA8, 0xAA, " \u0308||a"),
   (0xAF, 0xBE, " \u0304|||2|3| \u0301|μ||| \u0327|1|o||1\u20444|1\u20442|3\u20444"),
   (0x130, 0x133, "i\u0307||ij|ij"), (0x13F, 0x140, "l\u00b7|l\u00b7"), (0x149, 0x149, "ʼn"),
   (0x186, 0x198, "ɔ|ƈ||ɖ|ɗ|ƌ|||ǝ|ə|ɛ|ƒ||ɠ|ɣ||ɩ|ɨ|ƙ"), (0x19C, 0x19F, "ɯ|ɲ||ɵ"),
   (0x1A6, 0x1B2, "ʀ|ƨ||ʃ|||ƭ||ʈ|ư||ʊ|ʋ"), (0x1C4, 0x1CC, "dž|dž|dž|lj|lj|lj|nj|nj|nj"),
   (0x1F1, 0x1F7, "dz|dz|dz|ǵ||ƕ|ƿ"), (0x23A, 0x245, "ⱥ|ȼ||ƚ|ⱦ|||ɂ||ƀ|ʉ|ʌ"),
   (0x2B0, 0x2B8, "h|ɦ|j|r|ɹ|ɻ|ʁ|w|y"),
   (0x2D8, 0x2E4, " \u0306| \u0307| \u030a| \u0328| \u0303| \u030b|||ɣ|l|s|x|ʕ"),
   (0x340, 0x345, "\u0300|\u0301||\u0313|\u0308\u0301|ι"), (0x37A, 0x37A, " ι"),
   (0x384, 0x38F, " \u0301| \u0308\u0301|ά|\u00b7|έ|ή|ί||ό||ύ|ώ"),
   (0x3CF, 0x3D6, "ϗ|β|θ|υ|ύ|ϋ|φ|π"), (0x3F0, 0x3FF, "κ|ρ|σ||θ|ε||ϸ||σ|ϻ|||ͻ|ͼ|ͽ"),
   (0x587, 0x587, "եւ"), (0x675, 0x678, "\u0627\u0674|\u0648\u0674|\u06c7\u0674|\u064a\u0674"),
   (0x958, 0x95F, "क\u093c|ख\u093c|ग\u093c|ज\u093c|ड\u093c|ढ\u093c|फ\u093c|य\u093c"),
   (0x9DC, 0x9DF, "ড\u09bc|ঢ\u09bc||য\u09bc"), (0xA33, 0xA36, "ਲ\u0a3c|||ਸ\u0a3c"),
   (0xA59, 0xA5E, "ਖ\u0a3c|ਗ\u0a3c|ਜ\u0a3c|||ਫ\u0a3c"), (0xB5C, 0xB5D, "ଡ\u0b3c|ଢ\u0b3c"),
   (0xE33, 0xE33, "\u0e4dา"), (0xEB3, 0xEB3, "\u0ecdາ"), (0xEDC, 0xEDD, "ຫນ|ຫມ"),
   (0xF43, 0xF43, "ག\u0fb7"), (0xF4D, 0xF4D, "ཌ\u0fb7"), (0xF52, 0xF52, "ད\u0fb7"),
   (0xF57, 0xF57, "བ\u0fb7"), (0xF5C, 0xF5C, "ཛ\u0fb7"), (0xF69, 0xF69, "ཀ\u0fb5"),
   (0xF73, 0xF78, "\u0f71\u0f72||\u0f71\u0f74|\u0fb2\u0f80|\u0fb2\u0f71\u0f80|\u0fb3\u0f80"),
   (0xF79, 0xF79, "\u0fb3\u0f71\u0f80"), (0xF81, 0xF81, "\u0f71\u0f80"),
   (0xF93, 0xF93, "\u0f92\u0fb7"), (0xF9D, 0xF9D, "\u0f9c\u0fb7"), (0xFA2, 0xFA2, "\u0fa1\u0fb7"),
   (0xFA7, 0xFA7, "\u0fa6\u0fb7"), (0xFAC, 0xFAC, "\u0fab\u0fb7"), (0xFB9, 0xFB9, "\u0f90\u0fb5"),
   (0x1C80, 0x1C89, "в|д|о|с|т|т|ъ|ѣ|ꙋ|ᲊ"), (0x1CBD, 0x1CBF, "ჽ|ჾ|ჿ"),
   (0x1D2C, 0x1D32, "a|æ|b||d|e|ǝ"),
   (0x1D3C, 0x1D61, "o|ȣ|p|r|t|u|w|a|ɐ|ɑ|ᴂ|b|d|e|ə|ɛ|ɜ|g||k|m|ŋ|o|ɔ|ᴖ|ᴗ|p|t|u|ᴝ|ɯ|v|ᴥ|β|γ|δ|φ|χ"),
   (0x1D62, 0x1D6A, "i|r|u|v|β|γ|ρ|φ|χ"), (0x1D9B, 0x1DAD, "ɒ|c|ɕ|ð|ɜ|f|ɟ|ɡ|ɥ|ɨ|ɩ|ɪ|ᵻ|ʝ|ɭ|ᶅ|ʟ|ɱ|ɰ"),
   (0x1DB2, 0x1DBF, "ɸ|ʂ|ʃ|ƫ|ʉ|ʊ|ᴜ|ʋ|ʌ|z|ʐ|ʑ|ʒ|θ"), (0x1E9A, 0x1E9E, "aʾ|ṡ|||ß"),
   (0x1F59, 0x1F5F, "ὑ||ὓ||ὕ||ὗ"),
   (0x1F71, 0x1F91, "ά||έ||ή||ί||ό||ύ||ώ|||ἀι|ἁι|ἂι|ἃι|ἄι|ἅι|ἆι|ἇι|ἀι|ἁι|ἂι|ἃι|ἄι|ἅι|ἆι|ἇι|ἠι|ἡι"),
   (0x1F92, 0x1FAA, "ἢι|ἣι|ἤι|ἥι|ἦι|ἧι|ἠι|ἡι|ἢι|ἣι|ἤι|ἥι|ἦι|ἧι|ὠι|ὡι|ὢι|ὣι|ὤι|ὥι|ὦι|ὧι|ὠι|ὡι|ὢι"),
   (0x1FAB, 0x1FC0, "ὣι|ὤι|ὥι|ὦι|ὧι|||ὰι|αι|άι|||ᾶι|ᾰ|ᾱ|ὰ|ά|αι| \u0313|ι| \u0313| \u0342"),
   (0x1FC1, 0x1FCE, " \u0308\u0342|ὴι|ηι|ήι|||ῆι|ὲ|έ|ὴ|ή|ηι| \u0313\u0300| \u0313\u0301"),
   (0x1FCF, 0x1FCF, " \u0313\u0342"),
   (0x1FD8, 0x1FDF, "ῐ|ῑ|ὶ|ί|| \u0314\u0300| \u0314\u0301| \u0314\u0342"),
   (0x1FE8, 0x1FFD, "ῠ|ῡ|ὺ|ύ|ῥ| \u0308\u0300| \u0308\u0301|`|||ὼι|ωι|ώι|||ῶι|ὸ|ό|ὼ|ώ|ωι| \u0301"),
   (0x1FFE, 0x1FFE, " \u0314"), (0x2017, 0x2017, " \u0333"), (0x2033, 0x2037, "′′|′′′||‵‵|‵‵‵"),
   (0x203C, 0x203E, "!!|| \u0305"), (0x2047, 0x2049, "??|?!|!?"), (0x2057, 0x2057, "′′′′"),
   (0x207A, 0x207F, "+|−|=|(|)|n"), (0x208A, 0x2095, "+|−|=|(|)||a|e|o|x|ə|h"),
   (0x209A, 0x209C, "p|s|t"), (0x20A8, 0x20A8, "rs"),
   (0x2100, 0x210A, "a/c|a/s|c|°c||c/o|c/u|ɛ||°f|g"), (0x210F, 0x211A, "ħ|i|i|l|l||n|no|||p|q"),
   (0x2120, 0x2134, "sm|tel|tm||z||ω||z||k|å|b|c||e|e|f|ⅎ|m|o"),
   (0x2139, 0x2140, "i||fax|π|γ|γ|π|∑"), (0x2145, 0x2149, "d|d|e|i|j"),
   (0x2150, 0x2157, "1\u20447|1\u20449|1\u204410|1\u20443|2\u20443|1\u20445|2\u20445|3\u20445"),
   (0x2158, 0x2161, "4\u20445|1\u20446|5\u20446|1\u20448|3\u20448|5\u20448|7\u20448|1\u2044|i|ii"),
   (0x2162, 0x217A, "iii|iv|v|vi|vii|viii|ix|x|xi|xii|l|c|d|m|i|ii|iii|iv|v|vi|vii|viii|ix|x|xi"),
   (0x217B, 0x217F, "xii|l|c|d|m"), (0x2189, 0x2189, "0\u20443"),
   (0x222C, 0x2230, "∫∫|∫∫∫||∮∮|∮∮∮"),
   (0x2469, 0x247D, "10|11|12|13|14|15|16|17|18|19|20|(1)|(2)|(3)|(4)|(5)|(6)|(7)|(8)|(9)|(10)"),
   (0x247E, 0x2487, "(11)|(12)|(13)|(14)|(15)|(16)|(17)|(18)|(19)|(20)"),
   (0x249C, 0x24AE, "(a)|(b)|(c)|(d)|(e)|(f)|(g)|(h)|(i)|(j)|(k)|(l)|(m)|(n)|(o)|(p)|(q)|(r)|(s)"),
   (0x24AF, 0x24B5, "(t)|(u)|(v)|(w)|(x)|(y)|(z)"), (0x2A0C, 0x2A0C, "∫∫∫∫"),
   (0x2A74, 0x2A76, "::=|==|==="), (0x2ADC, 0x2ADC, "⫝\u0338"), (0x2C60, 0x2C64, "ⱡ||ɫ|ᵽ|ɽ"),
   (0x2C6D, 0x2C75, "ɑ|ɱ|ɐ|ɒ||ⱳ|||ⱶ"), (0x2C7C, 0x2C7F, "j|v|ȿ|ɀ"),
   (0x2F00, 0x2F25, "一|丨|丶|丿|乙|亅|二|亠|人|儿|入|八|冂|冖|冫|几|凵|刀|力|勹|匕|匚|匸|十|卜|卩|厂|厶|又|口|囗|土|士|夂|夊|夕|大|女"),
   (0x2F26, 0x2F4B, "子|宀|寸|小|尢|尸|屮|山|巛|工|己|巾|干|幺|广|廴|廾|弋|弓|彐|彡|彳|心|戈|戶|手|支|攴|文|斗|斤|方|无|日|曰|月|木|欠"),
   (0x2F4C, 0x2F71, "止|歹|殳|毋|比|毛|氏|气|水|火|爪|父|爻|爿|片|牙|牛|犬|玄|玉|瓜|瓦|甘|生|用|田|疋|疒|癶|白|皮|皿|目|矛|矢|石|示|禸"),
   (0x2F72, 0x2F97, "禾|穴|立|竹|米|糸|缶|网|羊|羽|老|而|耒|耳|聿|肉|臣|自|至|臼|舌|舛|舟|艮|色|艸|虍|虫|血|行|衣|襾|見|角|言|谷|豆|豕"),
   (0x2F98, 0x2FBD, "豸|貝|赤|走|足|身|車|辛|辰|辵|邑|酉|釆|里|金|長|門|阜|隶|隹|雨|靑|非|面|革|韋|韭|音|頁|風|飛|食|首|香|馬|骨|高|髟"),
   (0x2FBE, 0x2FD5, "鬥|鬯|鬲|鬼|魚|鳥|鹵|鹿|麥|麻|黃|黍|黑|黹|黽|鼎|鼓|鼠|鼻|齊|齒|龍|龜|龠"),
   (0x3036, 0x303A, "〒||十|卄|卅"), (0x309B, 0x309F, " \u3099| \u309a|||より"), (0x30FF, 0x30FF, "コト"),
   (0x3131, 0x3139, "\u1100|\u1101|\u11aa|\u1102|\u11ac|\u11ad|\u1103|\u1104|\u1105"),
   (0x3140, 0x3144, "\u111a|\u1106|\u1107|\u1108|\u1121"),
   (0x3165, 0x316E, "\u1114|\u1115|\u11c7|\u11c8|\u11cc|\u11ce|\u11d3|\u11d7|\u11d9|\u111c"),
   (0x316F, 0x3177, "\u11dd|\u11df|\u111d|\u111e|\u1120|\u1122|\u1123|\u1127|\u1129"),
   (0x317D, 0x3186, "\u1132|\u1136|\u1140|\u1147|\u114c|\u11f1|\u11f2|\u1157|\u1158|\u1159"),
   (0x3187, 0x318E, "\u1184|\u1185|\u1188|\u1191|\u1192|\u1194|\u119e|\u11a1"),
   (0x3192, 0x319F, "一|二|三|四|上|中|下|甲|乙|丙|丁|天|地|人"),
   (0x3200, 0x3207, "(\u1100)|(\u1102)|(\u1103)|(\u1105)|(\u1106)|(\u1107)|(\u1109)|(\u110b)"),
   (0x3208, 0x3212, "(\u110c)|(\u110e)|(\u110f)|(\u1110)|(\u1111)|(\u1112)|(가)|(나)|(다)|(라)|(마)"),
   (0x3213, 0x3225, "(바)|(사)|(아)|(자)|(차)|(카)|(타)|(파)|(하)|(주)|(오전)|(오후)||(一)|(二)|(三)|(四)|(五)|(六)"),
   (0x3226, 0x3238, "(七)|(八)|(九)|(十)|(月)|(火)|(水)|(木)|(金)|(土)|(日)|(株)|(有)|(社)|(名)|(特)|(財)|(祝)|(労)"),
   (0x3239, 0x3247, "(代)|(呼)|(学)|(監)|(企)|(資)|(協)|(祭)|(休)|(自)|(至)|問|幼|文|箏"),
   (0x3250, 0x3262, "pte|21|22|23|24|25|26|27|28|29|30|31|32|33|34|35|\u1100|\u1102|\u1103"),
   (0x3263, 0x3268, "\u1105|\u1106|\u1107|\u1109|\u110b|\u110c"),
   (0x326E, 0x3292, "가|나|다|라|마|바|사|아|자|차|카|타|파|하|참고|주의|우||一|二|三|四|五|六|七|八|九|十|月|火|水|木|金|土|日|株|有"),
   (0x3293, 0x32B5, "社|名|特|財|祝|労|秘|男|女|適|優|印|注|項|休|写|正|上|中|下|左|右|医|宗|学|監|企|資|協|夜|36|37|38|39|40"),
   (0x32B6, 0x32CD, "41|42|43|44|45|46|47|48|49|50|1月|2月|3月|4月|5月|6月|7月|8月|9月|10月|11月|12月|hg|erg"),
   (0x32CE, 0x32E3, "ev|ltd|ア|イ|ウ|エ|オ|カ|キ|ク|ケ|コ|サ|シ|ス|セ|ソ|タ|チ|ツ|テ|ト"), (0x32EA, 0x32ED, "ヒ|フ|ヘ|ホ"),
   (0x32FF, 0x330F, "令和|アパート|アルファ|アンペア|アール|イニング|インチ|ウォン|エスクード|エーカー|オンス|オーム|カイリ|カラット|カロリー|ガロン|ガンマ"),
   (0x3310, 0x331F, "ギガ|ギニー|キュリー|ギルダー|キロ|キログラム|キロメートル|キロワット|グラム|グラムトン|クルゼイロ|クローネ|ケース|コルナ|コーポ|サイクル"),
   (0x3320, 0x3331, "サンチーム|シリング|センチ|セント|ダース|デシ|ドル|トン|ナノ|ノット|ハイツ|パーセント|パーツ|バーレル|ピアストル|ピクル|ピコ|ビル"),
   (0x3332, 0x3342, "ファラッド|フィート|ブッシェル|フラン|ヘクタール|ペソ|ペニヒ|ヘルツ|ペンス|ページ|ベータ|ポイント|ボルト|ホン|ポンド|ホール|ホーン"),
   (0x3343, 0x3353, "マイクロ|マイル|マッハ|マルク|マンション|ミクロン|ミリ|ミリバール|メガ|メガトン|メートル|ヤード|ヤール|ユアン|リットル|リラ|ルピー"),
   (0x3354, 0x3368, "ルーブル|レム|レントゲン|ワット|0点|1点|2点|3点|4点|5点|6点|7点|8点|9点|10点|11点|12点|13点|14点|15点|16点"),
   (0x3369, 0x337D, "17点|18点|19点|20点|21点|22点|23点|24点|hpa|da|au|bar|ov|pc|dm|dm2|dm3|iu|平成|昭和|大正"),
   (0x337E, 0x3393, "明治|株式会社|pa|na|μa|ma|ka|kb|mb|gb|cal|kcal|pf|nf|μf|μg|mg|kg|hz|khz|mhz|ghz"),
   (0x3394, 0x33A9, "thz|μl|ml|dl|kl|fm|nm|μm|mm|cm|km|mm2|cm2|m2|km2|mm3|cm3|m3|km3|m∕s|m∕s2|pa"),
   (0x33AA, 0x33BF, "kpa|mpa|gpa|rad|rad∕s|rad∕s2|ps|ns|μs|ms|pv|nv|μv|mv|kv|mv|pw|nw|μw|mw|kw|mw"),
   (0x33C0, 0x33D7, "kω|mω||bq|cc|cd|c∕kg||db|gy|ha|hp|in|kk|km|kt|lm|ln|log|lx|mb|mil|mol|ph"),
   (0x33D9, 0x33EE, "ppm|pr|sr|sv|wb|v∕m|a∕m|1日|2日|3日|4日|5日|6日|7日|8日|9日|10日|11日|12日|13日|14日|15日"),
   (0x33EF, 0x33FF, "16日|17日|18日|19日|20日|21日|22日|23日|24日|25日|26日|27日|28日|29日|30日|31日|gal"),
   (0xA7AA, 0xA7B3, "ɦ|ɜ|ɡ|ɬ|ɪ||ʞ|ʇ|ʝ|ꭓ"), (0xA7C4, 0xA7C6, "ꞔ|ʂ|ᶎ"),
   (0xA7F1, 0xA7F9, "s|c|f|q|ꟶ|||ħ|œ"), (0xAB5C, 0xAB5F, "ꜧ|ꬷ|ɫ|ꭒ"),
   (0xF900, 0xF925, "豈|更|車|賈|滑|串|句|龜|龜|契|金|喇|奈|懶|癩|羅|蘿|螺|裸|邏|樂|洛|烙|珞|落|酪|駱|亂|卵|欄|爛|蘭|鸞|嵐|濫|藍|襤|拉"),
   (0xF926, 0xF94B, "臘|蠟|廊|朗|浪|狼|郎|來|冷|勞|擄|櫓|爐|盧|老|蘆|虜|路|露|魯|鷺|碌|祿|綠|菉|錄|鹿|論|壟|弄|籠|聾|牢|磊|賂|雷|壘|屢"),
   (0xF94C, 0xF971, "樓|淚|漏|累|縷|陋|勒|肋|凜|凌|稜|綾|菱|陵|讀|拏|樂|諾|丹|寧|怒|率|異|北|磻|便|復|不|泌|數|索|參|塞|省|葉|說|殺|辰"),
   (0xF972, 0xF997, "沈|拾|若|掠|略|亮|兩|凉|梁|糧|良|諒|量|勵|呂|女|廬|旅|濾|礪|閭|驪|麗|黎|力|曆|歷|轢|年|憐|戀|撚|漣|煉|璉|秊|練|聯"),
   (0xF998, 0xF9BD, "輦|蓮|連|鍊|列|劣|咽|烈|裂|說|廉|念|捻|殮|簾|獵|令|囹|寧|嶺|怜|玲|瑩|羚|聆|鈴|零|靈|領|例|禮|醴|隸|惡|了|僚|寮|尿"),
   (0xF9BE, 0xF9E3, "料|樂|燎|療|蓼|遼|龍|暈|阮|劉|杻|柳|流|溜|琉|留|硫|紐|類|六|戮|陸|倫|崙|淪|輪|律|慄|栗|率|隆|利|吏|履|易|李|梨|泥"),
   (0xF9E4, 0xFA09, "理|痢|罹|裏|裡|里|離|匿|溺|吝|燐|璘|藺|隣|鱗|麟|林|淋|臨|立|笠|粒|狀|炙|識|什|茶|刺|切|度|拓|糖|宅|洞|暴|輻|行|降"),
   (0xFA0A, 0xFA26, "見|廓|兀|嗀|||塚||晴|||凞|猪|益|礼|神|祥|福|靖|精|羽||蘒||諸|||逸|都"),
   (0xFA2A, 0xFA4F, "飯|飼|館|鶴|郞|隷|侮|僧|免|勉|勤|卑|喝|嘆|器|塀|墨|層|屮|悔|慨|憎|懲|敏|既|暑|梅|海|渚|漢|煮|爫|琢|碑|社|祉|祈|祐"),
   (0xFA50, 0xFA76, "祖|祝|禍|禎|穀|突|節|練|縉|繁|署|者|臭|艹|艹|著|褐|視|謁|謹|賓|贈|辶|逸|難|響|頻|恵|𤋮|舘|||並|况|全|侀|充|冀|勇"),
   (0xFA77, 0xFA9C, "勺|喝|啕|喙|嗢|塚|墳|奄|奔|婢|嬨|廒|廙|彩|徭|惘|慎|愈|憎|慠|懲|戴|揄|搜|摒|敖|晴|朗|望|杖|歹|殺|流|滛|滋|漢|瀞|煮"),
   (0xFA9D, 0xFAC2, "瞧|爵|犯|猪|瑱|甆|画|瘝|瘟|益|盛|直|睊|着|磌|窱|節|类|絛|練|缾|者|荒|華|蝹|襁|覆|視|調|諸|請|謁|諾|諭|謹|變|贈|輸"),
   (0xFAC3, 0xFAD9, "遲|醙|鉶|陼|難|靖|韛|響|頋|頻|鬒|龜|𢡊|𢡄|𣏕|㮝|䀘|䀹|𥉉|𥳐|𧻓|齃|龎"),
   (0xFB00, 0xFB06, "ff|fi|fl|ffi|ffl|st|st"), (0xFB13, 0xFB17, "մն|մե|մի|վն|մխ"),
   (0xFB1D, 0xFB26, "\u05d9\u05b4||\u05f2\u05b7|\u05e2|\u05d0|\u05d3|\u05d4|\u05db|\u05dc|\u05dd"),
   (0xFB27, 0xFB2C, "\u05e8|\u05ea|+|\u05e9\u05c1|\u05e9\u05c2|\u05e9\u05bc\u05c1"),
   (0xFB2D, 0xFB31, "\u05e9\u05bc\u05c2|\u05d0\u05b7|\u05d0\u05b8|\u05d0\u05bc|\u05d1\u05bc"),
   (0xFB32, 0xFB36, "\u05d2\u05bc|\u05d3\u05bc|\u05d4\u05bc|\u05d5\u05bc|\u05d6\u05bc"),
   (0xFB38, 0xFB3C, "\u05d8\u05bc|\u05d9\u05bc|\u05da\u05bc|\u05db\u05bc|\u05dc\u05bc"),
   (0xFB3E, 0xFB44, "\u05de\u05bc||\u05e0\u05bc|\u05e1\u05bc||\u05e3\u05bc|\u05e4\u05bc"),
   (0xFB46, 0xFB4A, "\u05e6\u05bc|\u05e7\u05bc|\u05e8\u05bc|\u05e9\u05bc|\u05ea\u05bc"),
   (0xFB4B, 0xFB4F, "\u05d5\u05b9|\u05d1\u05bf|\u05db\u05bf|\u05e4\u05bf|\u05d0\u05dc"),
   (0xFBDD, 0xFBDD, "\u06c7\u0674"),
   (0xFBEA, 0xFBEE, "\u0626\u0627|\u0626\u0627|\u0626\u06d5|\u0626\u06d5|\u0626\u0648"),
   (0xFBEF, 0xFBF3, "\u0626\u0648|\u0626\u06c7|\u0626\u06c7|\u0626\u06c6|\u0626\u06c6"),
   (0xFBF4, 0xFBF8, "\u0626\u06c8|\u0626\u06c8|\u0626\u06d0|\u0626\u06d0|\u0626\u06d0"),
   (0xFBF9, 0xFBFB, "\u0626\u0649|\u0626\u0649|\u0626\u0649"),
   (0xFC00, 0xFC04, "\u0626\u062c|\u0626\u062d|\u0626\u0645|\u0626\u0649|\u0626\u064a"),
   (0xFC05, 0xFC09, "\u0628\u062c|\u0628\u062d|\u0628\u062e|\u0628\u0645|\u0628\u0649"),
   (0xFC0A, 0xFC0E, "\u0628\u064a|\u062a\u062c|\u062a\u062d|\u062a\u062e|\u062a\u0645"),
   (0xFC0F, 0xFC13, "\u062a\u0649|\u062a\u064a|\u062b\u062c|\u062b\u0645|\u062b\u0649"),
   (0xFC14, 0xFC18, "\u062b\u064a|\u062c\u062d|\u062c\u0645|\u062d\u062c|\u062d\u0645"),
   (0xFC19, 0xFC1D, "\u062e\u062c|\u062e\u062d|\u062e\u0645|\u0633\u062c|\u0633\u062d"),
   (0xFC1E, 0xFC22, "\u0633\u062e|\u0633\u0645|\u0635\u062d|\u0635\u0645|\u0636\u062c"),
   (0xFC23, 0xFC27, "\u0636\u062d|\u0636\u062e|\u0636\u0645|\u0637\u062d|\u0637\u0645"),
   (0xFC28, 0xFC2C, "\u0638\u0645|\u0639\u062c|\u0639\u0645|\u063a\u062c|\u063a\u0645"),
   (0xFC2D, 0xFC31, "\u0641\u062c|\u0641\u062d|\u0641\u062e|\u0641\u0645|\u0641\u0649"),
   (0xFC32, 0xFC36, "\u0641\u064a|\u0642\u062d|\u0642\u0645|\u0642\u0649|\u0642\u064a"),
   (0xFC37, 0xFC3B, "\u0643\u0627|\u0643\u062c|\u0643\u062d|\u0643\u062e|\u0643\u0644"),
   (0xFC3C, 0xFC40, "\u0643\u0645|\u0643\u0649|\u0643\u064a|\u0644\u062c|\u0644\u062d"),
   (0xFC41, 0xFC45, "\u0644\u062e|\u0644\u0645|\u0644\u0649|\u0644\u064a|\u0645\u062c"),
   (0xFC46, 0xFC4A, "\u0645\u062d|\u0645\u062e|\u0645\u0645|\u0645\u0649|\u0645\u064a"),
   (0xFC4B, 0xFC4F, "\u0646\u062c|\u0646\u062d|\u0646\u062e|\u0646\u0645|\u0646\u0649"),
   (0xFC50, 0xFC54, "\u0646\u064a|\u0647\u062c|\u0647\u0645|\u0647\u0649|\u0647\u064a"),
   (0xFC55, 0xFC59, "\u064a\u062c|\u064a\u062d|\u064a\u062e|\u064a\u0645|\u064a\u0649"),
   (0xFC5A, 0xFC5E, "\u064a\u064a|\u0630\u0670|\u0631\u0670|\u0649\u0670| \u064c\u0651"),
   (0xFC5F, 0xFC63, " \u064d\u0651| \u064e\u0651| \u064f\u0651| \u0650\u0651| \u0651\u0670"),
   (0xFC64, 0xFC68, "\u0626\u0631|\u0626\u0632|\u0626\u0645|\u0626\u0646|\u0626\u0649"),
   (0xFC69, 0xFC6D, "\u0626\u064a|\u0628\u0631|\u0628\u0632|\u0628\u0645|\u0628\u0646"),
   (0xFC6E, 0xFC72, "\u0628\u0649|\u0628\u064a|\u062a\u0631|\u062a\u0632|\u062a\u0645"),
   (0xFC73, 0xFC77, "\u062a\u0646|\u062a\u0649|\u062a\u064a|\u062b\u0631|\u062b\u0632"),
   (0xFC78, 0xFC7C, "\u062b\u0645|\u062b\u0646|\u062b\u0649|\u062b\u064a|\u0641\u0649"),
   (0xFC7D, 0xFC81, "\u0641\u064a|\u0642\u0649|\u0642\u064a|\u0643\u0627|\u0643\u0644"),
   (0xFC82, 0xFC86, "\u0643\u0645|\u0643\u0649|\u0643\u064a|\u0644\u0645|\u0644\u0649"),
   (0xFC87, 0xFC8B, "\u0644\u064a|\u0645\u0627|\u0645\u0645|\u0646\u0631|\u0646\u0632"),
   (0xFC8C, 0xFC90, "\u0646\u0645|\u0646\u0646|\u0646\u0649|\u0646\u064a|\u0649\u0670"),
   (0xFC91, 0xFC95, "\u064a\u0631|\u064a\u0632|\u064a\u0645|\u064a\u0646|\u064a\u0649"),
   (0xFC96, 0xFC9A, "\u064a\u064a|\u0626\u062c|\u0626\u062d|\u0626\u062e|\u0626\u0645"),
   (0xFC9B, 0xFC9F, "\u0626\u0647|\u0628\u062c|\u0628\u062d|\u0628\u062e|\u0628\u0645"),
   (0xFCA0, 0xFCA4, "\u0628\u0647|\u062a\u062c|\u062a\u062d|\u062a\u062e|\u062a\u0645"),
   (0xFCA5, 0xFCA9, "\u062a\u0647|\u062b\u0645|\u062c\u062d|\u062c\u0645|\u062d\u062c"),
   (0xFCAA, 0xFCAE, "\u062d\u0645|\u062e\u062c|\u062e\u0645|\u0633\u062c|\u0633\u062d"),
   (0xFCAF, 0xFCB3, "\u0633\u062e|\u0633\u0645|\u0635\u062d|\u0635\u062e|\u0635\u0645"),
   (0xFCB4, 0xFCB8, "\u0636\u062c|\u0636\u062d|\u0636\u062e|\u0636\u0645|\u0637\u062d"),
   (0xFCB9, 0xFCBD, "\u0638\u0645|\u0639\u062c|\u0639\u0645|\u063a\u062c|\u063a\u0645"),
   (0xFCBE, 0xFCC2, "\u0641\u062c|\u0641\u062d|\u0641\u062e|\u0641\u0645|\u0642\u062d"),
   (0xFCC3, 0xFCC7, "\u0642\u0645|\u0643\u062c|\u0643\u062d|\u0643\u062e|\u0643\u0644"),
   (0xFCC8, 0xFCCC, "\u0643\u0645|\u0644\u062c|\u0644\u062d|\u0644\u062e|\u0644\u0645"),
   (0xFCCD, 0xFCD1, "\u0644\u0647|\u0645\u062c|\u0645\u062d|\u0645\u062e|\u0645\u0645"),
   (0xFCD2, 0xFCD6, "\u0646\u062c|\u0646\u062d|\u0646\u062e|\u0646\u0645|\u0646\u0647"),
   (0xFCD7, 0xFCDB, "\u0647\u062c|\u0647\u0645|\u0647\u0670|\u064a\u062c|\u064a\u062d"),
   (0xFCDC, 0xFCE0, "\u064a\u062e|\u064a\u0645|\u064a\u0647|\u0626\u0645|\u0626\u0647"),
   (0xFCE1, 0xFCE5, "\u0628\u0645|\u0628\u0647|\u062a\u0645|\u062a\u0647|\u062b\u0645"),
   (0xFCE6, 0xFCEA, "\u062b\u0647|\u0633\u0645|\u0633\u0647|\u0634\u0645|\u0634\u0647"),
   (0xFCEB, 0xFCEF, "\u0643\u0644|\u0643\u0645|\u0644\u0645|\u0646\u0645|\u0646\u0647"),
   (0xFCF0, 0xFCF3, "\u064a\u0645|\u064a\u0647|\u0640\u064e\u0651|\u0640\u064f\u0651"),
   (0xFCF4, 0xFCF8, "\u0640\u0650\u0651|\u0637\u0649|\u0637\u064a|\u0639\u0649|\u0639\u064a"),
   (0xFCF9, 0xFCFD, "\u063a\u0649|\u063a\u064a|\u0633\u0649|\u0633\u064a|\u0634\u0649"),
   (0xFCFE, 0xFD02, "\u0634\u064a|\u062d\u0649|\u062d\u064a|\u062c\u0649|\u062c\u064a"),
   (0xFD03, 0xFD07, "\u062e\u0649|\u062e\u064a|\u0635\u0649|\u0635\u064a|\u0636\u0649"),
   (0xFD08, 0xFD0C, "\u0636\u064a|\u0634\u062c|\u0634\u062d|\u0634\u062e|\u0634\u0645"),
   (0xFD0D, 0xFD11, "\u0634\u0631|\u0633\u0631|\u0635\u0631|\u0636\u0631|\u0637\u0649"),
   (0xFD12, 0xFD16, "\u0637\u064a|\u0639\u0649|\u0639\u064a|\u063a\u0649|\u063a\u064a"),
   (0xFD17, 0xFD1B, "\u0633\u0649|\u0633\u064a|\u0634\u0649|\u0634\u064a|\u062d\u0649"),
   (0xFD1C, 0xFD20, "\u062d\u064a|\u062c\u0649|\u062c\u064a|\u062e\u0649|\u062e\u064a"),
   (0xFD21, 0xFD25, "\u0635\u0649|\u0635\u064a|\u0636\u0649|\u0636\u064a|\u0634\u062c"),
   (0xFD26, 0xFD2A, "\u0634\u062d|\u0634\u062e|\u0634\u0645|\u0634\u0631|\u0633\u0631"),
   (0xFD2B, 0xFD2F, "\u0635\u0631|\u0636\u0631|\u0634\u062c|\u0634\u062d|\u0634\u062e"),
   (0xFD30, 0xFD34, "\u0634\u0645|\u0633\u0647|\u0634\u0647|\u0637\u0645|\u0633\u062c"),
   (0xFD35, 0xFD39, "\u0633\u062d|\u0633\u062e|\u0634\u062c|\u0634\u062d|\u0634\u062e"),
   (0xFD3A, 0xFD3D, "\u0637\u0645|\u0638\u0645|\u0627\u064b|\u0627\u064b"),
   (0xFD50, 0xFD53, "\u062a\u062c\u0645|\u062a\u062d\u062c|\u062a\u062d\u062c|\u062a\u062d\u0645"),
   (0xFD54, 0xFD57, "\u062a\u062e\u0645|\u062a\u0645\u062c|\u062a\u0645\u062d|\u062a\u0645\u062e"),
   (0xFD58, 0xFD5B, "\u062c\u0645\u062d|\u062c\u0645\u062d|\u062d\u0645\u064a|\u062d\u0645\u0649"),
   (0xFD5C, 0xFD5F, "\u0633\u062d\u062c|\u0633\u062c\u062d|\u0633\u062c\u0649|\u0633\u0645\u062d"),
   (0xFD60, 0xFD63, "\u0633\u0645\u062d|\u0633\u0645\u062c|\u0633\u0645\u0645|\u0633\u0645\u0645"),
   (0xFD64, 0xFD67, "\u0635\u062d\u062d|\u0635\u062d\u062d|\u0635\u0645\u0645|\u0634\u062d\u0645"),
   (0xFD68, 0xFD6B, "\u0634\u062d\u0645|\u0634\u062c\u064a|\u0634\u0645\u062e|\u0634\u0645\u062e"),
   (0xFD6C, 0xFD6F, "\u0634\u0645\u0645|\u0634\u0645\u0645|\u0636\u062d\u0649|\u0636\u062e\u0645"),
   (0xFD70, 0xFD73, "\u0636\u062e\u0645|\u0637\u0645\u062d|\u0637\u0645\u062d|\u0637\u0645\u0645"),
   (0xFD74, 0xFD77, "\u0637\u0645\u064a|\u0639\u062c\u0645|\u0639\u0645\u0645|\u0639\u0645\u0645"),
   (0xFD78, 0xFD7B, "\u0639\u0645\u0649|\u063a\u0645\u0645|\u063a\u0645\u064a|\u063a\u0645\u0649"),
   (0xFD7C, 0xFD7F, "\u0641\u062e\u0645|\u0641\u062e\u0645|\u0642\u0645\u062d|\u0642\u0645\u0645"),
   (0xFD80, 0xFD83, "\u0644\u062d\u0645|\u0644\u062d\u064a|\u0644\u062d\u0649|\u0644\u062c\u062c"),
   (0xFD84, 0xFD87, "\u0644\u062c\u062c|\u0644\u062e\u0645|\u0644\u062e\u0645|\u0644\u0645\u062d"),
   (0xFD88, 0xFD8B, "\u0644\u0645\u062d|\u0645\u062d\u062c|\u0645\u062d\u0645|\u0645\u062d\u064a"),
   (0xFD8C, 0xFD8F, "\u0645\u062c\u062d|\u0645\u062c\u0645|\u0645\u062e\u062c|\u0645\u062e\u0645"),
   (0xFD92, 0xFD95, "\u0645\u062c\u062e|\u0647\u0645\u062c|\u0647\u0645\u0645|\u0646\u062d\u0645"),
   (0xFD96, 0xFD99, "\u0646\u062d\u0649|\u0646\u062c\u0645|\u0646\u062c\u0645|\u0646\u062c\u0649"),
   (0xFD9A, 0xFD9D, "\u0646\u0645\u064a|\u0646\u0645\u0649|\u064a\u0645\u0645|\u064a\u0645\u0645"),
   (0xFD9E, 0xFDA1, "\u0628\u062e\u064a|\u062a\u062c\u064a|\u062a\u062c\u0649|\u062a\u062e\u064a"),
   (0xFDA2, 0xFDA5, "\u062a\u062e\u0649|\u062a\u0645\u064a|\u062a\u0645\u0649|\u062c\u0645\u064a"),
   (0xFDA6, 0xFDA9, "\u062c\u062d\u0649|\u062c\u0645\u0649|\u0633\u062e\u0649|\u0635\u062d\u064a"),
   (0xFDAA, 0xFDAD, "\u0634\u062d\u064a|\u0636\u062d\u064a|\u0644\u062c\u064a|\u0644\u0645\u064a"),
   (0xFDAE, 0xFDB1, "\u064a\u062d\u064a|\u064a\u062c\u064a|\u064a\u0645\u064a|\u0645\u0645\u064a"),
   (0xFDB2, 0xFDB5, "\u0642\u0645\u064a|\u0646\u062d\u064a|\u0642\u0645\u062d|\u0644\u062d\u0645"),
   (0xFDB6, 0xFDB9, "\u0639\u0645\u064a|\u0643\u0645\u064a|\u0646\u062c\u062d|\u0645\u062e\u064a"),
   (0xFDBA, 0xFDBD, "\u0644\u062c\u0645|\u0643\u0645\u0645|\u0644\u062c\u0645|\u0646\u062c\u062d"),
   (0xFDBE, 0xFDC1, "\u062c\u062d\u064a|\u062d\u062c\u064a|\u0645\u062c\u064a|\u0641\u0645\u064a"),
   (0xFDC2, 0xFDC5, "\u0628\u062d\u064a|\u0643\u0645\u0645|\u0639\u062c\u0645|\u0635\u0645\u0645"),
   (0xFDC6, 0xFDC7, "\u0633\u062e\u064a|\u0646\u062c\u064a"),
   (0xFDF0, 0xFDF2, "\u0635\u0644\u06d2|\u0642\u0644\u06d2|\u0627\u0644\u0644\u0647"),
   (0xFDF3, 0xFDF5, "\u0627\u0643\u0628\u0631|\u0645\u062d\u0645\u062f|\u0635\u0644\u0639\u0645"),
   (0xFDF6, 0xFDF8, "\u0631\u0633\u0648\u0644|\u0639\u0644\u064a\u0647|\u0648\u0633\u0644\u0645"),
   (0xFDF9, 0xFDF9, "\u0635\u0644\u0649"),
   (0xFDFA, 0xFDFA, "\u0635\u0644\u0649 \u0627\u0644\u0644\u0647 \u0639\u0644\u064a\u0647 \u0648\u0633\u0644\u0645"),
   (0xFDFB, 0xFDFC, "\u062c\u0644 \u062c\u0644\u0627\u0644\u0647|\u0631\u06cc\u0627\u0644"),
   (0xFE10, 0xFE18, ",|、||:|;|!|?|〖|〗"), (0xFE31, 0xFE40, "—|–|||(|)|\x7b|\x7d|〔|〕|【|】|《|》|〈|〉"),
   (0xFE47, 0xFE4C, "[|]| \u0305| \u0305| \u0305| \u0305"),
   (0xFE50, 0xFE6B, ",|、|||;|:|?|!|—|(|)|\x7b|\x7d|〔|〕|#|&|*|+|-|<|>|=||\\|$|%|@"),
   (0xFE70, 0xFE78, " \u064b|\u0640\u064b| \u064c|| \u064d|| \u064e|\u0640\u064e| \u064f"),
   (0xFE79, 0xFE7F, "\u0640\u064f| \u0650|\u0640\u0650| \u0651|\u0640\u0651| \u0652|\u0640\u0652"),
   (0xFE80, 0xFE80, "\u0621"),
   (0xFEF5, 0xFEF9, "\u0644\u0622|\u0644\u0622|\u0644\u0623|\u0644\u0623|\u0644\u0625"),
   (0xFEFA, 0xFEFC, "\u0644\u0625|\u0644\u0627|\u0644\u0627"),
   (0xFF5F, 0xFF84, "⦅|⦆|.|「|」|、|・|ヲ|ァ|ィ|ゥ|ェ|ォ|ャ|ュ|ョ|ッ|ー|ア|イ|ウ|エ|オ|カ|キ|ク|ケ|コ|サ|シ|ス|セ|ソ|タ|チ|ツ|テ|ト"),
   (0xFF8B, 0xFF8E, "ヒ|フ|ヘ|ホ"),
   (0xFF9C, 0xFFA8, "ワ|ン|\u3099|\u309a||\u1100|\u1101|\u11aa|\u1102|\u11ac|\u11ad|\u1103|\u1104"),
   (0xFFA9, 0xFFA9, "\u1105"), (0xFFB0, 0xFFB4, "\u111a|\u1106|\u1107|\u1108|\u1121"),
   (0xFFDA, 0xFFDC, "\u1173|\u1174|\u1175"), (0xFFE0, 0xFFE8, "¢|£|¬| \u0304|¦|¥|₩||│"),
   (0x10781, 0x107A6, "ː|ˑ|æ|ʙ|ɓ||ʣ|ꭦ|ʥ|ʤ|ɖ|ɗ|ᶑ|ɘ|ɞ|ʩ|ɤ|ɢ|ɠ|ʛ|ħ|ʜ|ɧ|ʄ|ʪ|ʫ|ɬ|𝼄|ꞎ|ɮ|𝼅|ʎ|𝼆|ø|ɶ|ɷ|q|ɺ"),
   (0x107A7, 0x107BA, "𝼈|ɽ|ɾ|ʀ|ʨ|ʦ|ꭧ|ʧ|ʈ|ⱱ||ʏ|ʡ|ʢ|ʘ|ǀ|ǁ|ǂ|𝼊|𝼞"),
   (0x1D15E, 0x1D164, "𝅗𝅥|𝅘𝅥|𝅘𝅥𝅮|𝅘𝅥𝅯|𝅘𝅥𝅰|𝅘𝅥𝅱|𝅘𝅥𝅲"), (0x1D1BB, 0x1D1C0, "𝆹𝅥|𝆺𝅥|𝆹𝅥𝅮|𝆺𝅥𝅮|𝆹𝅥𝅯|𝆺𝅥𝅯"),
   (0x1D49C, 0x1D4A6, "a||c|d|||g|||j|k"), (0x1D6DB, 0x1D6E1, "∂|ε|θ|κ|φ|ρ|π"),
   (0x1D715, 0x1D71B, "∂|ε|θ|κ|φ|ρ|π"), (0x1D74F, 0x1D755, "∂|ε|θ|κ|φ|ρ|π"),
   (0x1D789, 0x1D78F, "∂|ε|θ|κ|φ|ρ|π"), (0x1D7C3, 0x1D7CB, "∂|ε|θ|κ|φ|ρ|π|ϝ|ϝ"),
   (0x1E039, 0x1E03B, "к|л|м"), (0x1E047, 0x1E050, "ы|э|ю|ꚉ|ә|і|ј|ө|ү|ӏ"),
   (0x1E05A, 0x1E05E, "к|л|о|п|с"), (0x1E065, 0x1E06D, "ъ|ы|ґ|і|ѕ|џ|ҫ|ꙑ|ұ"),
   (0x1EE00, 0x1EE09, "\u0627|\u0628|\u062c|\u062f||\u0648|\u0632|\u062d|\u0637|\u064a"),
   (0x1EE0E, 0x1EE17, "\u0633|\u0639|\u0641|\u0635|\u0642|\u0631|\u0634|\u062a|\u062b|\u062e"),
   (0x1EE18, 0x1EE22, "\u0630|\u0636|\u0638|\u063a|\u066e|\u06ba|\u06a1|\u066f||\u0628|\u062c"),
   (0x1EE24, 0x1EE29, "\u0647|||\u062d||\u064a"),
   (0x1EE2E, 0x1EE39, "\u0633|\u0639|\u0641|\u0635|\u0642||\u0634|\u062a|\u062b|\u062e||\u0636"),
   (0x1EE3B, 0x1EE3B, "\u063a"),
   (0x1EE47, 0x1EE54, "\u062d||\u064a||\u0644||\u0646|\u0633|\u0639||\u0635|\u0642||\u0634"),
   (0x1EE57, 0x1EE67, "\u062e||\u0636||\u063a||\u06ba||\u066f||\u0628|\u062c||\u0647|||\u062d"),
   (0x1EE68, 0x1EE72, "\u0637|\u064a|\u0643||\u0645|\u0646|\u0633|\u0639|\u0641|\u0635|\u0642"),
   (0x1EE74, 0x1EE80, "\u0634|\u062a|\u062b|\u062e||\u0636|\u0638|\u063a|\u066e||\u06a1||\u0627"),
   (0x1EE81, 0x1EE8B, "\u0628|\u062c|\u062f|\u0647|\u0648|\u0632|\u062d|\u0637|\u064a||\u0644"),
   (0x1EE8C, 0x1EE96, "\u0645|\u0646|\u0633|\u0639|\u0641|\u0635|\u0642|\u0631|\u0634|\u062a|\u062b"),
   (0x1EE97, 0x1EE9B, "\u062e|\u0630|\u0636|\u0638|\u063a"),
   (0x1EEA1, 0x1EEAC, "\u0628|\u062c|\u062f||\u0648|\u0632|\u062d|\u0637|\u064a||\u0644|\u0645"),
   (0x1EEAD, 0x1EEB7, "\u0646|\u0633|\u0639|\u0641|\u0635|\u0642|\u0631|\u0634|\u062a|\u062b|\u062e"),
   (0x1EEB8, 0x1EEBB, "\u0630|\u0636|\u0638|\u063a"),
   (0x1F101, 0x1F10A, "0,|1,|2,|3,|4,|5,|6,|7,|8,|9,"),
   (0x1F110, 0x1F122, "(a)|(b)|(c)|(d)|(e)|(f)|(g)|(h)|(i)|(j)|(k)|(l)|(m)|(n)|(o)|(p)|(q)|(r)|(s)"),
   (0x1F123, 0x1F12E, "(t)|(u)|(v)|(w)|(x)|(y)|(z)|〔s〕|c|r|cd|wz"),
   (0x1F14A, 0x1F14F, "hv|mv|sd|ss|ppv|wc"), (0x1F16A, 0x1F16C, "mc|md|mr"),
   (0x1F190, 0x1F190, "dj"), (0x1F200, 0x1F202, "ほか|ココ|サ"),
   (0x1F210, 0x1F235, "手|字|双|デ|二|多|解|天|交|映|無|料|前|後|再|新|初|終|生|販|声|吹|演|投|捕|一|三|遊|左|中|右|指|走|打|禁|空|合|満"),
   (0x1F236, 0x1F23B, "有|月|申|割|営|配"), (0x1F240, 0x1F248, "〔本〕|〔三〕|〔二〕|〔安〕|〔点〕|〔打〕|〔盗〕|〔勝〕|〔敗〕"),
   (0x2F800, 0x2F825, "丽|丸|乁|𠄢|你|侮|侻|倂|偺|備|僧|像|㒞|𠘺|免|兔|兤|具|𠔜|㒹|內|再|𠕋|冗|冤|仌|冬|况|𩇟|凵|刃|㓟|刻|剆|割|剷|㔕|勇"),
   (0x2F826, 0x2F830, "勉|勤|勺|包|匆|北|卉|卑|博|即|卽"),
   (0x2F834, 0x2F859, "𠨬|灰|及|叟|𠭣|叫|叱|吆|咞|吸|呈|周|咢|哶|唐|啓|啣|善|善|喙|喫|喳|嗂|圖|嘆|圗|噑|噴|切|壮|城|埴|堍|型|堲|報|墬|𡓤"),
   (0x2F85A, 0x2F87F, "売|壷|夆|多|夢|奢|𡚨|𡛪|姬|娛|娧|姘|婦|㛮|㛼|嬈|嬾|嬾|𡧈|寃|寘|寧|寳|𡬘|寿|将|当|尢|㞁|屠|屮|峀|岍|𡷤|嵃|𡷦|嵮|嵫"),
   (0x2F880, 0x2F8A5, "嵼|巡|巢|㠯|巽|帨|帽|幩|㡢|𢆃|㡼|庰|庳|庶|廊|𪎒|廾|𢌱|𢌱|舁|弢|弢|㣇|𣊸|𦇚|形|彫|㣣|徚|忍|志|忹|悁|㤺|㤜|悔|𢛔|惇"),
   (0x2F8A6, 0x2F8CB, "慈|慌|慎|慌|慺|憎|憲|憤|憯|懞|懲|懶|成|戛|扝|抱|拔|捐|𢬌|挽|拼|捨|掃|揤|𢯱|搢|揅|掩|㨮|摩|摾|撝|摷|㩬|敏|敬|𣀊|旣"),
   (0x2F8CC, 0x2F8F1, "書|晉|㬙|暑|㬈|㫤|冒|冕|最|暜|肭|䏙|朗|望|朡|杞|杓|𣏃|㭉|柺|枅|桒|梅|𣑭|梎|栟|椔|㮝|楂|榣|槪|檨|𣚣|櫛|㰘|次|𣢧|歔"),
   (0x2F8F2, 0x2F917, "㱎|歲|殟|殺|殻|𣪍|𡴋|𣫺|汎|𣲼|沿|泍|汧|洖|派|海|流|浩|浸|涅|𣴞|洴|港|湮|㴳|滋|滇|𣻑|淹|潮|𣽞|𣾎|濆|瀹|瀞|瀛|㶖|灊"),
   (0x2F918, 0x2F93D, "災|灷|炭|𠔥|煅|𤉣|熜|𤎫|爨|爵|牐|𤘈|犀|犕|𤜵|𤠔|獺|王|㺬|玥|㺸|㺸|瑇|瑜|瑱|璅|瓊|㼛|甤|𤰶|甾|𤲒|異|𢆟|瘐|𤾡|𤾸|𥁄"),
   (0x2F93E, 0x2F963, "㿼|䀈|直|𥃳|𥃲|𥄙|𥄳|眞|真|真|睊|䀹|瞋|䁆|䂖|𥐝|硎|碌|磌|䃣|𥘦|祖|𥚚|𥛅|福|秫|䄯|穀|穊|穏|𥥼|𥪧|𥪧|竮|䈂|𥮫|篆|築"),
   (0x2F964, 0x2F989, "䈧|𥲀|糒|䊠|糨|糣|紀|𥾆|絣|䌁|緇|縂|繅|䌴|𦈨|𦉇|䍙|𦋙|罺|𦌾|羕|翺|者|𦓚|𦔣|聠|𦖨|聰|𣍟|䏕|育|脃|䐋|脾|媵|𦞧|𦞵|𣎓"),
   (0x2F98A, 0x2F9AF, "𣎜|舁|舄|辞|䑫|芑|芋|芝|劳|花|芳|芽|苦|𦬼|若|茝|荣|莭|茣|莽|菧|著|荓|菊|菌|菜|𦰶|𦵫|𦳕|䔫|蓱|蓳|蔖|𧏊|蕤|𦼬|䕝|䕡"),
   (0x2F9B0, 0x2F9D5, "𦾱|𧃒|䕫|虐|虜|虧|虩|蚩|蚈|蜎|蛢|蝹|蜨|蝫|螆|䗗|蟡|蠁|䗹|衠|衣|𧙧|裗|裞|䘵|裺|㒻|𧢮|𧥦|䚾|䛇|誠|諭|變|豕|𧲨|貫|賁"),
   (0x2F9D6, 0x2F9FB, "贛|起|𧼯|𠠄|跋|趼|跰|𠣞|軔|輸|𨗒|𨗭|邔|郱|鄑|𨜮|鄛|鈸|鋗|鋘|鉼|鏹|鐕|𨯺|開|䦕|閷|𨵷|䧦|雃|嶲|霣|𩅅|𩈚|䩮|䩶|韠|𩐊"),
   (0x2F9FC, 0x2FA1D, "䪲|𩒖|頋|頋|頩|𩖶|飢|䬳|餩|馧|駂|駾|䯎|𩬰|鬒|鱀|鳽|䳎|䳭|鵧|𪃎|䳸|𪄅|𪈎|𪊑|麻|䵖|黹|黾|鼅|鼏|鼖|鼻|𪘀")]

def text? (n : Nat) : Option (List Char) := do
  let (first, _, row) ← texts.find? fun r => r.1 ≤ n && n ≤ r.2.1
  let text ← (Text.pieces (· == '|') row.toList)[n - first]?
  guard (text ≠ [])
  return text

/-- The one character that a character stands for, by their code points. -/
def shifted (n : Nat) : Nat :=
  match rows.find? fun r => r.1 ≤ n && n ≤ r.2.1 with
  | some (first, _, target) => target + (n - first)
  | none =>
    match forms.find? fun r => r.1 ≤ n && n ≤ r.2.1 with
    | some (_, _, target) => target
    | none =>
      if alternating.any fun r => r.1 ≤ n && n ≤ r.2 && (n - r.1) % 2 == 0 then n + 1
      else (singles.lookup n).getD n

def fold (c : Char) : List Char :=
  if Punycode.isBasic c then [c.toLower]
  else if Text.inRanges ignoredRanges c then []
  else (text? c.toNat).getD [Char.ofNat (shifted c.toNat)]

end UtxoWallet.Url.Folding
