/-!
# Variants of characters

Many characters of a name are variants of others: wide and narrow forms, letters of formulas, forms
for the start and the end of a word, digraphs and ligatures. The tables say what each stands for.

* `shifted`: a range of variants of a range of characters, one by one;
* `merged`: a range of variants of one and the same character;
* `spelled`: variants of several characters in a row.
-/

namespace DebugScopes.Normal

/-- The first and the last variant of a range, and the character of which the first is one. -/
def shifted : List (Nat × Nat × Nat) := [
    (0xaa, 0xaa, 0x61), (0xb5, 0xb5, 0x3bc), (0xba, 0xba, 0x6f), (0x17f, 0x17f, 0x73),
    (0x2b0, 0x2b0, 0x68), (0x2b1, 0x2b1, 0x266), (0x2b2, 0x2b2, 0x6a), (0x2b3, 0x2b3, 0x72),
    (0x2b4, 0x2b4, 0x279), (0x2b5, 0x2b5, 0x27b), (0x2b6, 0x2b6, 0x281), (0x2b7, 0x2b7, 0x77),
    (0x2b8, 0x2b8, 0x79), (0x2e0, 0x2e0, 0x263), (0x2e1, 0x2e1, 0x6c), (0x2e2, 0x2e2, 0x73),
    (0x2e3, 0x2e3, 0x78), (0x2e4, 0x2e4, 0x295), (0x340, 0x341, 0x300), (0x343, 0x343, 0x313),
    (0x374, 0x374, 0x2b9), (0x387, 0x387, 0xb7), (0x3d0, 0x3d0, 0x3b2), (0x3d1, 0x3d1, 0x3b8),
    (0x3d2, 0x3d2, 0x3a5), (0x3d5, 0x3d5, 0x3c6), (0x3d6, 0x3d6, 0x3c0), (0x3f0, 0x3f0, 0x3ba),
    (0x3f1, 0x3f2, 0x3c1), (0x3f4, 0x3f4, 0x398), (0x3f5, 0x3f5, 0x3b5), (0x3f9, 0x3f9, 0x3a3),
    (0x10fc, 0x10fc, 0x10dc), (0x1d2c, 0x1d2c, 0x41), (0x1d2d, 0x1d2d, 0xc6),
    (0x1d2e, 0x1d2e, 0x42), (0x1d30, 0x1d31, 0x44), (0x1d32, 0x1d32, 0x18e),
    (0x1d33, 0x1d3a, 0x47), (0x1d3c, 0x1d3c, 0x4f), (0x1d3d, 0x1d3d, 0x222),
    (0x1d3e, 0x1d3e, 0x50), (0x1d3f, 0x1d3f, 0x52), (0x1d40, 0x1d41, 0x54),
    (0x1d42, 0x1d42, 0x57), (0x1d43, 0x1d43, 0x61), (0x1d44, 0x1d45, 0x250),
    (0x1d46, 0x1d46, 0x1d02), (0x1d47, 0x1d47, 0x62), (0x1d48, 0x1d49, 0x64),
    (0x1d4a, 0x1d4a, 0x259), (0x1d4b, 0x1d4c, 0x25b), (0x1d4d, 0x1d4d, 0x67),
    (0x1d4f, 0x1d4f, 0x6b), (0x1d50, 0x1d50, 0x6d), (0x1d51, 0x1d51, 0x14b),
    (0x1d52, 0x1d52, 0x6f), (0x1d53, 0x1d53, 0x254), (0x1d54, 0x1d55, 0x1d16),
    (0x1d56, 0x1d56, 0x70), (0x1d57, 0x1d58, 0x74), (0x1d59, 0x1d59, 0x1d1d),
    (0x1d5a, 0x1d5a, 0x26f), (0x1d5b, 0x1d5b, 0x76), (0x1d5c, 0x1d5c, 0x1d25),
    (0x1d5d, 0x1d5f, 0x3b2), (0x1d60, 0x1d61, 0x3c6), (0x1d62, 0x1d62, 0x69),
    (0x1d63, 0x1d63, 0x72), (0x1d64, 0x1d65, 0x75), (0x1d66, 0x1d67, 0x3b2),
    (0x1d68, 0x1d68, 0x3c1), (0x1d69, 0x1d6a, 0x3c6), (0x1d78, 0x1d78, 0x43d),
    (0x1d9b, 0x1d9b, 0x252), (0x1d9c, 0x1d9c, 0x63), (0x1d9d, 0x1d9d, 0x255),
    (0x1d9e, 0x1d9e, 0xf0), (0x1d9f, 0x1d9f, 0x25c), (0x1da0, 0x1da0, 0x66),
    (0x1da1, 0x1da1, 0x25f), (0x1da2, 0x1da2, 0x261), (0x1da3, 0x1da3, 0x265),
    (0x1da4, 0x1da6, 0x268), (0x1da7, 0x1da7, 0x1d7b), (0x1da8, 0x1da8, 0x29d),
    (0x1da9, 0x1da9, 0x26d), (0x1daa, 0x1daa, 0x1d85), (0x1dab, 0x1dab, 0x29f),
    (0x1dac, 0x1dac, 0x271), (0x1dad, 0x1dad, 0x270), (0x1dae, 0x1db1, 0x272),
    (0x1db2, 0x1db2, 0x278), (0x1db3, 0x1db4, 0x282), (0x1db5, 0x1db5, 0x1ab),
    (0x1db6, 0x1db7, 0x289), (0x1db8, 0x1db8, 0x1d1c), (0x1db9, 0x1dba, 0x28b),
    (0x1dbb, 0x1dbb, 0x7a), (0x1dbc, 0x1dbe, 0x290), (0x1dbf, 0x1dbf, 0x3b8),
    (0x1fbe, 0x1fbe, 0x3b9), (0x2071, 0x2071, 0x69), (0x207f, 0x207f, 0x6e),
    (0x2090, 0x2090, 0x61), (0x2091, 0x2091, 0x65), (0x2092, 0x2092, 0x6f),
    (0x2093, 0x2093, 0x78), (0x2094, 0x2094, 0x259), (0x2095, 0x2095, 0x68),
    (0x2096, 0x2099, 0x6b), (0x209a, 0x209a, 0x70), (0x209b, 0x209c, 0x73),
    (0x2102, 0x2102, 0x43), (0x2107, 0x2107, 0x190), (0x210a, 0x210a, 0x67),
    (0x210e, 0x210e, 0x68), (0x210f, 0x210f, 0x127), (0x2112, 0x2112, 0x4c),
    (0x2113, 0x2113, 0x6c), (0x2115, 0x2115, 0x4e), (0x2119, 0x211b, 0x50),
    (0x2124, 0x2124, 0x5a), (0x2126, 0x2126, 0x3a9), (0x2128, 0x2128, 0x5a),
    (0x212a, 0x212a, 0x4b), (0x212c, 0x212d, 0x42), (0x212f, 0x212f, 0x65),
    (0x2130, 0x2131, 0x45), (0x2133, 0x2133, 0x4d), (0x2134, 0x2134, 0x6f),
    (0x2135, 0x2138, 0x5d0), (0x2139, 0x2139, 0x69), (0x213c, 0x213c, 0x3c0),
    (0x213d, 0x213d, 0x3b3), (0x213e, 0x213e, 0x393), (0x213f, 0x213f, 0x3a0),
    (0x2145, 0x2145, 0x44), (0x2146, 0x2147, 0x64), (0x2148, 0x2149, 0x69),
    (0x2160, 0x2160, 0x49), (0x2164, 0x2164, 0x56), (0x2169, 0x2169, 0x58),
    (0x216c, 0x216c, 0x4c), (0x216d, 0x216e, 0x43), (0x216f, 0x216f, 0x4d),
    (0x2170, 0x2170, 0x69), (0x2174, 0x2174, 0x76), (0x2179, 0x2179, 0x78),
    (0x217c, 0x217c, 0x6c), (0x217d, 0x217e, 0x63), (0x217f, 0x217f, 0x6d),
    (0x2c7c, 0x2c7c, 0x6a), (0x2c7d, 0x2c7d, 0x56), (0x2d6f, 0x2d6f, 0x2d61),
    (0x3038, 0x3038, 0x5341), (0x3039, 0x303a, 0x5344), (0x3131, 0x3132, 0x1100),
    (0x3133, 0x3133, 0x11aa), (0x3134, 0x3134, 0x1102), (0x3135, 0x3136, 0x11ac),
    (0x3137, 0x3139, 0x1103), (0x313a, 0x313f, 0x11b0), (0x3140, 0x3140, 0x111a),
    (0x3141, 0x3143, 0x1106), (0x3144, 0x3144, 0x1121), (0x3145, 0x314e, 0x1109),
    (0x314f, 0x3163, 0x1161), (0x3164, 0x3164, 0x1160), (0x3165, 0x3166, 0x1114),
    (0x3167, 0x3168, 0x11c7), (0x3169, 0x3169, 0x11cc), (0x316a, 0x316a, 0x11ce),
    (0x316b, 0x316b, 0x11d3), (0x316c, 0x316c, 0x11d7), (0x316d, 0x316d, 0x11d9),
    (0x316e, 0x316e, 0x111c), (0x316f, 0x316f, 0x11dd), (0x3170, 0x3170, 0x11df),
    (0x3171, 0x3172, 0x111d), (0x3173, 0x3173, 0x1120), (0x3174, 0x3175, 0x1122),
    (0x3176, 0x3176, 0x1127), (0x3177, 0x3177, 0x1129), (0x3178, 0x317c, 0x112b),
    (0x317d, 0x317d, 0x1132), (0x317e, 0x317e, 0x1136), (0x317f, 0x317f, 0x1140),
    (0x3180, 0x3180, 0x1147), (0x3181, 0x3181, 0x114c), (0x3182, 0x3183, 0x11f1),
    (0x3184, 0x3186, 0x1157), (0x3187, 0x3188, 0x1184), (0x3189, 0x3189, 0x1188),
    (0x318a, 0x318b, 0x1191), (0x318c, 0x318c, 0x1194), (0x318d, 0x318d, 0x119e),
    (0x318e, 0x318e, 0x11a1), (0xa69c, 0xa69c, 0x44a), (0xa69d, 0xa69d, 0x44c),
    (0xa770, 0xa770, 0xa76f), (0xa7f2, 0xa7f2, 0x43), (0xa7f3, 0xa7f3, 0x46),
    (0xa7f4, 0xa7f4, 0x51), (0xa7f8, 0xa7f8, 0x126), (0xa7f9, 0xa7f9, 0x153),
    (0xab5c, 0xab5c, 0xa727), (0xab5d, 0xab5d, 0xab37), (0xab5e, 0xab5e, 0x26b),
    (0xab5f, 0xab5f, 0xab52), (0xab69, 0xab69, 0x28d), (0xfb20, 0xfb20, 0x5e2),
    (0xfb21, 0xfb21, 0x5d0), (0xfb22, 0xfb23, 0x5d3), (0xfb24, 0xfb26, 0x5db),
    (0xfb27, 0xfb27, 0x5e8), (0xfb28, 0xfb28, 0x5ea), (0xfe80, 0xfe80, 0x621),
    (0xff10, 0xff19, 0x30), (0xff21, 0xff3a, 0x41), (0xff3f, 0xff3f, 0x5f),
    (0xff41, 0xff5a, 0x61), (0xff66, 0xff66, 0x30f2), (0xff67, 0xff67, 0x30a1),
    (0xff68, 0xff68, 0x30a3), (0xff69, 0xff69, 0x30a5), (0xff6a, 0xff6a, 0x30a7),
    (0xff6b, 0xff6b, 0x30a9), (0xff6c, 0xff6c, 0x30e3), (0xff6d, 0xff6d, 0x30e5),
    (0xff6e, 0xff6e, 0x30e7), (0xff6f, 0xff6f, 0x30c3), (0xff70, 0xff70, 0x30fc),
    (0xff71, 0xff71, 0x30a2), (0xff72, 0xff72, 0x30a4), (0xff73, 0xff73, 0x30a6),
    (0xff74, 0xff74, 0x30a8), (0xff75, 0xff76, 0x30aa), (0xff77, 0xff77, 0x30ad),
    (0xff78, 0xff78, 0x30af), (0xff79, 0xff79, 0x30b1), (0xff7a, 0xff7a, 0x30b3),
    (0xff7b, 0xff7b, 0x30b5), (0xff7c, 0xff7c, 0x30b7), (0xff7d, 0xff7d, 0x30b9),
    (0xff7e, 0xff7e, 0x30bb), (0xff7f, 0xff7f, 0x30bd), (0xff80, 0xff80, 0x30bf),
    (0xff81, 0xff81, 0x30c1), (0xff82, 0xff82, 0x30c4), (0xff83, 0xff83, 0x30c6),
    (0xff84, 0xff84, 0x30c8), (0xff85, 0xff8a, 0x30ca), (0xff8b, 0xff8b, 0x30d2),
    (0xff8c, 0xff8c, 0x30d5), (0xff8d, 0xff8d, 0x30d8), (0xff8e, 0xff8e, 0x30db),
    (0xff8f, 0xff93, 0x30de), (0xff94, 0xff94, 0x30e4), (0xff95, 0xff95, 0x30e6),
    (0xff96, 0xff9b, 0x30e8), (0xff9c, 0xff9c, 0x30ef), (0xff9d, 0xff9d, 0x30f3),
    (0xff9e, 0xff9f, 0x3099), (0xffa0, 0xffa0, 0x1160), (0xffa1, 0xffa2, 0x1100),
    (0xffa3, 0xffa3, 0x11aa), (0xffa4, 0xffa4, 0x1102), (0xffa5, 0xffa6, 0x11ac),
    (0xffa7, 0xffa9, 0x1103), (0xffaa, 0xffaf, 0x11b0), (0xffb0, 0xffb0, 0x111a),
    (0xffb1, 0xffb3, 0x1106), (0xffb4, 0xffb4, 0x1121), (0xffb5, 0xffbe, 0x1109),
    (0xffc2, 0xffc7, 0x1161), (0xffca, 0xffcf, 0x1167), (0xffd2, 0xffd7, 0x116d),
    (0xffda, 0xffdc, 0x1173), (0x10781, 0x10782, 0x2d0), (0x10783, 0x10783, 0xe6),
    (0x10784, 0x10784, 0x299), (0x10785, 0x10785, 0x253), (0x10787, 0x10787, 0x2a3),
    (0x10788, 0x10788, 0xab66), (0x10789, 0x10789, 0x2a5), (0x1078a, 0x1078a, 0x2a4),
    (0x1078b, 0x1078c, 0x256), (0x1078d, 0x1078d, 0x1d91), (0x1078e, 0x1078e, 0x258),
    (0x1078f, 0x1078f, 0x25e), (0x10790, 0x10790, 0x2a9), (0x10791, 0x10791, 0x264),
    (0x10792, 0x10792, 0x262), (0x10793, 0x10793, 0x260), (0x10794, 0x10794, 0x29b),
    (0x10795, 0x10795, 0x127), (0x10796, 0x10796, 0x29c), (0x10797, 0x10797, 0x267),
    (0x10798, 0x10798, 0x284), (0x10799, 0x1079a, 0x2aa), (0x1079b, 0x1079b, 0x26c),
    (0x1079c, 0x1079c, 0x1df04), (0x1079d, 0x1079d, 0xa78e), (0x1079e, 0x1079e, 0x26e),
    (0x1079f, 0x1079f, 0x1df05), (0x107a0, 0x107a0, 0x28e), (0x107a1, 0x107a1, 0x1df06),
    (0x107a2, 0x107a2, 0xf8), (0x107a3, 0x107a4, 0x276), (0x107a5, 0x107a5, 0x71),
    (0x107a6, 0x107a6, 0x27a), (0x107a7, 0x107a7, 0x1df08), (0x107a8, 0x107a9, 0x27d),
    (0x107aa, 0x107aa, 0x280), (0x107ab, 0x107ab, 0x2a8), (0x107ac, 0x107ac, 0x2a6),
    (0x107ad, 0x107ad, 0xab67), (0x107ae, 0x107ae, 0x2a7), (0x107af, 0x107af, 0x288),
    (0x107b0, 0x107b0, 0x2c71), (0x107b2, 0x107b2, 0x28f), (0x107b3, 0x107b4, 0x2a1),
    (0x107b5, 0x107b5, 0x298), (0x107b6, 0x107b8, 0x1c0), (0x107b9, 0x107b9, 0x1df0a),
    (0x107ba, 0x107ba, 0x1df1e), (0x1d400, 0x1d419, 0x41), (0x1d41a, 0x1d433, 0x61),
    (0x1d434, 0x1d44d, 0x41), (0x1d44e, 0x1d454, 0x61), (0x1d456, 0x1d467, 0x69),
    (0x1d468, 0x1d481, 0x41), (0x1d482, 0x1d49b, 0x61), (0x1d49c, 0x1d49c, 0x41),
    (0x1d49e, 0x1d49f, 0x43), (0x1d4a2, 0x1d4a2, 0x47), (0x1d4a5, 0x1d4a6, 0x4a),
    (0x1d4a9, 0x1d4ac, 0x4e), (0x1d4ae, 0x1d4b5, 0x53), (0x1d4b6, 0x1d4b9, 0x61),
    (0x1d4bb, 0x1d4bb, 0x66), (0x1d4bd, 0x1d4c3, 0x68), (0x1d4c5, 0x1d4cf, 0x70),
    (0x1d4d0, 0x1d4e9, 0x41), (0x1d4ea, 0x1d503, 0x61), (0x1d504, 0x1d505, 0x41),
    (0x1d507, 0x1d50a, 0x44), (0x1d50d, 0x1d514, 0x4a), (0x1d516, 0x1d51c, 0x53),
    (0x1d51e, 0x1d537, 0x61), (0x1d538, 0x1d539, 0x41), (0x1d53b, 0x1d53e, 0x44),
    (0x1d540, 0x1d544, 0x49), (0x1d546, 0x1d546, 0x4f), (0x1d54a, 0x1d550, 0x53),
    (0x1d552, 0x1d56b, 0x61), (0x1d56c, 0x1d585, 0x41), (0x1d586, 0x1d59f, 0x61),
    (0x1d5a0, 0x1d5b9, 0x41), (0x1d5ba, 0x1d5d3, 0x61), (0x1d5d4, 0x1d5ed, 0x41),
    (0x1d5ee, 0x1d607, 0x61), (0x1d608, 0x1d621, 0x41), (0x1d622, 0x1d63b, 0x61),
    (0x1d63c, 0x1d655, 0x41), (0x1d656, 0x1d66f, 0x61), (0x1d670, 0x1d689, 0x41),
    (0x1d68a, 0x1d6a3, 0x61), (0x1d6a4, 0x1d6a4, 0x131), (0x1d6a5, 0x1d6a5, 0x237),
    (0x1d6a8, 0x1d6b8, 0x391), (0x1d6b9, 0x1d6b9, 0x398), (0x1d6ba, 0x1d6c0, 0x3a3),
    (0x1d6c2, 0x1d6da, 0x3b1), (0x1d6dc, 0x1d6dc, 0x3b5), (0x1d6dd, 0x1d6dd, 0x3b8),
    (0x1d6de, 0x1d6de, 0x3ba), (0x1d6df, 0x1d6df, 0x3c6), (0x1d6e0, 0x1d6e0, 0x3c1),
    (0x1d6e1, 0x1d6e1, 0x3c0), (0x1d6e2, 0x1d6f2, 0x391), (0x1d6f3, 0x1d6f3, 0x398),
    (0x1d6f4, 0x1d6fa, 0x3a3), (0x1d6fc, 0x1d714, 0x3b1), (0x1d716, 0x1d716, 0x3b5),
    (0x1d717, 0x1d717, 0x3b8), (0x1d718, 0x1d718, 0x3ba), (0x1d719, 0x1d719, 0x3c6),
    (0x1d71a, 0x1d71a, 0x3c1), (0x1d71b, 0x1d71b, 0x3c0), (0x1d71c, 0x1d72c, 0x391),
    (0x1d72d, 0x1d72d, 0x398), (0x1d72e, 0x1d734, 0x3a3), (0x1d736, 0x1d74e, 0x3b1),
    (0x1d750, 0x1d750, 0x3b5), (0x1d751, 0x1d751, 0x3b8), (0x1d752, 0x1d752, 0x3ba),
    (0x1d753, 0x1d753, 0x3c6), (0x1d754, 0x1d754, 0x3c1), (0x1d755, 0x1d755, 0x3c0),
    (0x1d756, 0x1d766, 0x391), (0x1d767, 0x1d767, 0x398), (0x1d768, 0x1d76e, 0x3a3),
    (0x1d770, 0x1d788, 0x3b1), (0x1d78a, 0x1d78a, 0x3b5), (0x1d78b, 0x1d78b, 0x3b8),
    (0x1d78c, 0x1d78c, 0x3ba), (0x1d78d, 0x1d78d, 0x3c6), (0x1d78e, 0x1d78e, 0x3c1),
    (0x1d78f, 0x1d78f, 0x3c0), (0x1d790, 0x1d7a0, 0x391), (0x1d7a1, 0x1d7a1, 0x398),
    (0x1d7a2, 0x1d7a8, 0x3a3), (0x1d7aa, 0x1d7c2, 0x3b1), (0x1d7c4, 0x1d7c4, 0x3b5),
    (0x1d7c5, 0x1d7c5, 0x3b8), (0x1d7c6, 0x1d7c6, 0x3ba), (0x1d7c7, 0x1d7c7, 0x3c6),
    (0x1d7c8, 0x1d7c8, 0x3c1), (0x1d7c9, 0x1d7c9, 0x3c0), (0x1d7ca, 0x1d7cb, 0x3dc),
    (0x1d7ce, 0x1d7d7, 0x30), (0x1d7d8, 0x1d7e1, 0x30), (0x1d7e2, 0x1d7eb, 0x30),
    (0x1d7ec, 0x1d7f5, 0x30), (0x1d7f6, 0x1d7ff, 0x30), (0x1ee00, 0x1ee01, 0x627),
    (0x1ee02, 0x1ee02, 0x62c), (0x1ee03, 0x1ee03, 0x62f), (0x1ee05, 0x1ee05, 0x648),
    (0x1ee06, 0x1ee06, 0x632), (0x1ee07, 0x1ee07, 0x62d), (0x1ee08, 0x1ee08, 0x637),
    (0x1ee09, 0x1ee09, 0x64a), (0x1ee0a, 0x1ee0d, 0x643), (0x1ee0e, 0x1ee0e, 0x633),
    (0x1ee0f, 0x1ee0f, 0x639), (0x1ee10, 0x1ee10, 0x641), (0x1ee11, 0x1ee11, 0x635),
    (0x1ee12, 0x1ee12, 0x642), (0x1ee13, 0x1ee13, 0x631), (0x1ee14, 0x1ee14, 0x634),
    (0x1ee15, 0x1ee16, 0x62a), (0x1ee17, 0x1ee17, 0x62e), (0x1ee18, 0x1ee18, 0x630),
    (0x1ee19, 0x1ee19, 0x636), (0x1ee1a, 0x1ee1a, 0x638), (0x1ee1b, 0x1ee1b, 0x63a),
    (0x1ee1c, 0x1ee1c, 0x66e), (0x1ee1d, 0x1ee1d, 0x6ba), (0x1ee1e, 0x1ee1e, 0x6a1),
    (0x1ee1f, 0x1ee1f, 0x66f), (0x1ee21, 0x1ee21, 0x628), (0x1ee22, 0x1ee22, 0x62c),
    (0x1ee24, 0x1ee24, 0x647), (0x1ee27, 0x1ee27, 0x62d), (0x1ee29, 0x1ee29, 0x64a),
    (0x1ee2a, 0x1ee2d, 0x643), (0x1ee2e, 0x1ee2e, 0x633), (0x1ee2f, 0x1ee2f, 0x639),
    (0x1ee30, 0x1ee30, 0x641), (0x1ee31, 0x1ee31, 0x635), (0x1ee32, 0x1ee32, 0x642),
    (0x1ee34, 0x1ee34, 0x634), (0x1ee35, 0x1ee36, 0x62a), (0x1ee37, 0x1ee37, 0x62e),
    (0x1ee39, 0x1ee39, 0x636), (0x1ee3b, 0x1ee3b, 0x63a), (0x1ee42, 0x1ee42, 0x62c),
    (0x1ee47, 0x1ee47, 0x62d), (0x1ee49, 0x1ee49, 0x64a), (0x1ee4b, 0x1ee4b, 0x644),
    (0x1ee4d, 0x1ee4d, 0x646), (0x1ee4e, 0x1ee4e, 0x633), (0x1ee4f, 0x1ee4f, 0x639),
    (0x1ee51, 0x1ee51, 0x635), (0x1ee52, 0x1ee52, 0x642), (0x1ee54, 0x1ee54, 0x634),
    (0x1ee57, 0x1ee57, 0x62e), (0x1ee59, 0x1ee59, 0x636), (0x1ee5b, 0x1ee5b, 0x63a),
    (0x1ee5d, 0x1ee5d, 0x6ba), (0x1ee5f, 0x1ee5f, 0x66f), (0x1ee61, 0x1ee61, 0x628),
    (0x1ee62, 0x1ee62, 0x62c), (0x1ee64, 0x1ee64, 0x647), (0x1ee67, 0x1ee67, 0x62d),
    (0x1ee68, 0x1ee68, 0x637), (0x1ee69, 0x1ee69, 0x64a), (0x1ee6a, 0x1ee6a, 0x643),
    (0x1ee6c, 0x1ee6d, 0x645), (0x1ee6e, 0x1ee6e, 0x633), (0x1ee6f, 0x1ee6f, 0x639),
    (0x1ee70, 0x1ee70, 0x641), (0x1ee71, 0x1ee71, 0x635), (0x1ee72, 0x1ee72, 0x642),
    (0x1ee74, 0x1ee74, 0x634), (0x1ee75, 0x1ee76, 0x62a), (0x1ee77, 0x1ee77, 0x62e),
    (0x1ee79, 0x1ee79, 0x636), (0x1ee7a, 0x1ee7a, 0x638), (0x1ee7b, 0x1ee7b, 0x63a),
    (0x1ee7c, 0x1ee7c, 0x66e), (0x1ee7e, 0x1ee7e, 0x6a1), (0x1ee80, 0x1ee81, 0x627),
    (0x1ee82, 0x1ee82, 0x62c), (0x1ee83, 0x1ee83, 0x62f), (0x1ee84, 0x1ee85, 0x647),
    (0x1ee86, 0x1ee86, 0x632), (0x1ee87, 0x1ee87, 0x62d), (0x1ee88, 0x1ee88, 0x637),
    (0x1ee89, 0x1ee89, 0x64a), (0x1ee8b, 0x1ee8d, 0x644), (0x1ee8e, 0x1ee8e, 0x633),
    (0x1ee8f, 0x1ee8f, 0x639), (0x1ee90, 0x1ee90, 0x641), (0x1ee91, 0x1ee91, 0x635),
    (0x1ee92, 0x1ee92, 0x642), (0x1ee93, 0x1ee93, 0x631), (0x1ee94, 0x1ee94, 0x634),
    (0x1ee95, 0x1ee96, 0x62a), (0x1ee97, 0x1ee97, 0x62e), (0x1ee98, 0x1ee98, 0x630),
    (0x1ee99, 0x1ee99, 0x636), (0x1ee9a, 0x1ee9a, 0x638), (0x1ee9b, 0x1ee9b, 0x63a),
    (0x1eea1, 0x1eea1, 0x628), (0x1eea2, 0x1eea2, 0x62c), (0x1eea3, 0x1eea3, 0x62f),
    (0x1eea5, 0x1eea5, 0x648), (0x1eea6, 0x1eea6, 0x632), (0x1eea7, 0x1eea7, 0x62d),
    (0x1eea8, 0x1eea8, 0x637), (0x1eea9, 0x1eea9, 0x64a), (0x1eeab, 0x1eead, 0x644),
    (0x1eeae, 0x1eeae, 0x633), (0x1eeaf, 0x1eeaf, 0x639), (0x1eeb0, 0x1eeb0, 0x641),
    (0x1eeb1, 0x1eeb1, 0x635), (0x1eeb2, 0x1eeb2, 0x642), (0x1eeb3, 0x1eeb3, 0x631),
    (0x1eeb4, 0x1eeb4, 0x634), (0x1eeb5, 0x1eeb6, 0x62a), (0x1eeb7, 0x1eeb7, 0x62e),
    (0x1eeb8, 0x1eeb8, 0x630), (0x1eeb9, 0x1eeb9, 0x636), (0x1eeba, 0x1eeba, 0x638),
    (0x1eebb, 0x1eebb, 0x63a), (0x1fbf0, 0x1fbf9, 0x30)]

/-- The first and the last variant of a character, and that character. -/
def merged : List (Nat × Nat × Nat) := [
    (0x210b, 0x210d, 0x48), (0x2110, 0x2111, 0x49), (0x211c, 0x211d, 0x52),
    (0xfb50, 0xfb51, 0x671), (0xfb52, 0xfb55, 0x67b), (0xfb56, 0xfb59, 0x67e),
    (0xfb5a, 0xfb5d, 0x680), (0xfb5e, 0xfb61, 0x67a), (0xfb62, 0xfb65, 0x67f),
    (0xfb66, 0xfb69, 0x679), (0xfb6a, 0xfb6d, 0x6a4), (0xfb6e, 0xfb71, 0x6a6),
    (0xfb72, 0xfb75, 0x684), (0xfb76, 0xfb79, 0x683), (0xfb7a, 0xfb7d, 0x686),
    (0xfb7e, 0xfb81, 0x687), (0xfb82, 0xfb83, 0x68d), (0xfb84, 0xfb85, 0x68c),
    (0xfb86, 0xfb87, 0x68e), (0xfb88, 0xfb89, 0x688), (0xfb8a, 0xfb8b, 0x698),
    (0xfb8c, 0xfb8d, 0x691), (0xfb8e, 0xfb91, 0x6a9), (0xfb92, 0xfb95, 0x6af),
    (0xfb96, 0xfb99, 0x6b3), (0xfb9a, 0xfb9d, 0x6b1), (0xfb9e, 0xfb9f, 0x6ba),
    (0xfba0, 0xfba3, 0x6bb), (0xfba6, 0xfba9, 0x6c1), (0xfbaa, 0xfbad, 0x6be),
    (0xfbae, 0xfbaf, 0x6d2), (0xfbd3, 0xfbd6, 0x6ad), (0xfbd7, 0xfbd8, 0x6c7),
    (0xfbd9, 0xfbda, 0x6c6), (0xfbdb, 0xfbdc, 0x6c8), (0xfbde, 0xfbdf, 0x6cb),
    (0xfbe0, 0xfbe1, 0x6c5), (0xfbe2, 0xfbe3, 0x6c9), (0xfbe4, 0xfbe7, 0x6d0),
    (0xfbe8, 0xfbe9, 0x649), (0xfbfc, 0xfbff, 0x6cc), (0xfe33, 0xfe34, 0x5f),
    (0xfe4d, 0xfe4f, 0x5f), (0xfe8d, 0xfe8e, 0x627), (0xfe8f, 0xfe92, 0x628),
    (0xfe93, 0xfe94, 0x629), (0xfe95, 0xfe98, 0x62a), (0xfe99, 0xfe9c, 0x62b),
    (0xfe9d, 0xfea0, 0x62c), (0xfea1, 0xfea4, 0x62d), (0xfea5, 0xfea8, 0x62e),
    (0xfea9, 0xfeaa, 0x62f), (0xfeab, 0xfeac, 0x630), (0xfead, 0xfeae, 0x631),
    (0xfeaf, 0xfeb0, 0x632), (0xfeb1, 0xfeb4, 0x633), (0xfeb5, 0xfeb8, 0x634),
    (0xfeb9, 0xfebc, 0x635), (0xfebd, 0xfec0, 0x636), (0xfec1, 0xfec4, 0x637),
    (0xfec5, 0xfec8, 0x638), (0xfec9, 0xfecc, 0x639), (0xfecd, 0xfed0, 0x63a),
    (0xfed1, 0xfed4, 0x641), (0xfed5, 0xfed8, 0x642), (0xfed9, 0xfedc, 0x643),
    (0xfedd, 0xfee0, 0x644), (0xfee1, 0xfee4, 0x645), (0xfee5, 0xfee8, 0x646),
    (0xfee9, 0xfeec, 0x647), (0xfeed, 0xfeee, 0x648), (0xfeef, 0xfef0, 0x649),
    (0xfef1, 0xfef4, 0x64a)]

/-- A variant and the characters for which it stands. -/
def spelled : List (Nat × List Nat) := [
    (0x132, [0x49, 0x4a]), (0x133, [0x69, 0x6a]), (0x13f, [0x4c, 0xb7]), (0x140, [0x6c, 0xb7]),
    (0x149, [0x2bc, 0x6e]), (0x1c4, [0x44, 0x5a, 0x30c]), (0x1c5, [0x44, 0x7a, 0x30c]),
    (0x1c6, [0x64, 0x7a, 0x30c]), (0x1c7, [0x4c, 0x4a]), (0x1c8, [0x4c, 0x6a]),
    (0x1c9, [0x6c, 0x6a]), (0x1ca, [0x4e, 0x4a]), (0x1cb, [0x4e, 0x6a]), (0x1cc, [0x6e, 0x6a]),
    (0x1f1, [0x44, 0x5a]), (0x1f2, [0x44, 0x7a]), (0x1f3, [0x64, 0x7a]),
    (0x344, [0x308, 0x301]), (0x587, [0x565, 0x582]), (0x675, [0x627, 0x674]),
    (0x676, [0x648, 0x674]), (0x677, [0x6c7, 0x674]), (0x678, [0x64a, 0x674]),
    (0x958, [0x915, 0x93c]), (0x959, [0x916, 0x93c]), (0x95a, [0x917, 0x93c]),
    (0x95b, [0x91c, 0x93c]), (0x95c, [0x921, 0x93c]), (0x95d, [0x922, 0x93c]),
    (0x95e, [0x92b, 0x93c]), (0x95f, [0x92f, 0x93c]), (0x9dc, [0x9a1, 0x9bc]),
    (0x9dd, [0x9a2, 0x9bc]), (0x9df, [0x9af, 0x9bc]), (0xa33, [0xa32, 0xa3c]),
    (0xa36, [0xa38, 0xa3c]), (0xa59, [0xa16, 0xa3c]), (0xa5a, [0xa17, 0xa3c]),
    (0xa5b, [0xa1c, 0xa3c]), (0xa5e, [0xa2b, 0xa3c]), (0xb5c, [0xb21, 0xb3c]),
    (0xb5d, [0xb22, 0xb3c]), (0xe33, [0xe4d, 0xe32]), (0xeb3, [0xecd, 0xeb2]),
    (0xedc, [0xeab, 0xe99]), (0xedd, [0xeab, 0xea1]), (0xf43, [0xf42, 0xfb7]),
    (0xf4d, [0xf4c, 0xfb7]), (0xf52, [0xf51, 0xfb7]), (0xf57, [0xf56, 0xfb7]),
    (0xf5c, [0xf5b, 0xfb7]), (0xf69, [0xf40, 0xfb5]), (0xf73, [0xf71, 0xf72]),
    (0xf75, [0xf71, 0xf74]), (0xf76, [0xfb2, 0xf80]), (0xf77, [0xfb2, 0xf71, 0xf80]),
    (0xf78, [0xfb3, 0xf80]), (0xf79, [0xfb3, 0xf71, 0xf80]), (0xf81, [0xf71, 0xf80]),
    (0xf93, [0xf92, 0xfb7]), (0xf9d, [0xf9c, 0xfb7]), (0xfa2, [0xfa1, 0xfb7]),
    (0xfa7, [0xfa6, 0xfb7]), (0xfac, [0xfab, 0xfb7]), (0xfb9, [0xf90, 0xfb5]),
    (0x1e9a, [0x61, 0x2be]), (0x1f71, [0x3b1, 0x301]), (0x1f73, [0x3b5, 0x301]),
    (0x1f75, [0x3b7, 0x301]), (0x1f77, [0x3b9, 0x301]), (0x1f79, [0x3bf, 0x301]),
    (0x1f7b, [0x3c5, 0x301]), (0x1f7d, [0x3c9, 0x301]), (0x1fbb, [0x391, 0x301]),
    (0x1fc9, [0x395, 0x301]), (0x1fcb, [0x397, 0x301]), (0x1fd3, [0x3b9, 0x308, 0x301]),
    (0x1fdb, [0x399, 0x301]), (0x1fe3, [0x3c5, 0x308, 0x301]), (0x1feb, [0x3a5, 0x301]),
    (0x1ff9, [0x39f, 0x301]), (0x1ffb, [0x3a9, 0x301]), (0x212b, [0x41, 0x30a]),
    (0x2161, [0x49, 0x49]), (0x2162, [0x49, 0x49, 0x49]), (0x2163, [0x49, 0x56]),
    (0x2165, [0x56, 0x49]), (0x2166, [0x56, 0x49, 0x49]), (0x2167, [0x56, 0x49, 0x49, 0x49]),
    (0x2168, [0x49, 0x58]), (0x216a, [0x58, 0x49]), (0x216b, [0x58, 0x49, 0x49]),
    (0x2171, [0x69, 0x69]), (0x2172, [0x69, 0x69, 0x69]), (0x2173, [0x69, 0x76]),
    (0x2175, [0x76, 0x69]), (0x2176, [0x76, 0x69, 0x69]), (0x2177, [0x76, 0x69, 0x69, 0x69]),
    (0x2178, [0x69, 0x78]), (0x217a, [0x78, 0x69]), (0x217b, [0x78, 0x69, 0x69]),
    (0x309f, [0x3088, 0x308a]), (0x30ff, [0x30b3, 0x30c8]), (0xfb00, [0x66, 0x66]),
    (0xfb01, [0x66, 0x69]), (0xfb02, [0x66, 0x6c]), (0xfb03, [0x66, 0x66, 0x69]),
    (0xfb04, [0x66, 0x66, 0x6c]), (0xfb05, [0x73, 0x74]), (0xfb06, [0x73, 0x74]),
    (0xfb13, [0x574, 0x576]), (0xfb14, [0x574, 0x565]), (0xfb15, [0x574, 0x56b]),
    (0xfb16, [0x57e, 0x576]), (0xfb17, [0x574, 0x56d]), (0xfb1d, [0x5d9, 0x5b4]),
    (0xfb1f, [0x5f2, 0x5b7]), (0xfb2a, [0x5e9, 0x5c1]), (0xfb2b, [0x5e9, 0x5c2]),
    (0xfb2c, [0x5e9, 0x5bc, 0x5c1]), (0xfb2d, [0x5e9, 0x5bc, 0x5c2]), (0xfb2e, [0x5d0, 0x5b7]),
    (0xfb2f, [0x5d0, 0x5b8]), (0xfb30, [0x5d0, 0x5bc]), (0xfb31, [0x5d1, 0x5bc]),
    (0xfb32, [0x5d2, 0x5bc]), (0xfb33, [0x5d3, 0x5bc]), (0xfb34, [0x5d4, 0x5bc]),
    (0xfb35, [0x5d5, 0x5bc]), (0xfb36, [0x5d6, 0x5bc]), (0xfb38, [0x5d8, 0x5bc]),
    (0xfb39, [0x5d9, 0x5bc]), (0xfb3a, [0x5da, 0x5bc]), (0xfb3b, [0x5db, 0x5bc]),
    (0xfb3c, [0x5dc, 0x5bc]), (0xfb3e, [0x5de, 0x5bc]), (0xfb40, [0x5e0, 0x5bc]),
    (0xfb41, [0x5e1, 0x5bc]), (0xfb43, [0x5e3, 0x5bc]), (0xfb44, [0x5e4, 0x5bc]),
    (0xfb46, [0x5e6, 0x5bc]), (0xfb47, [0x5e7, 0x5bc]), (0xfb48, [0x5e8, 0x5bc]),
    (0xfb49, [0x5e9, 0x5bc]), (0xfb4a, [0x5ea, 0x5bc]), (0xfb4b, [0x5d5, 0x5b9]),
    (0xfb4c, [0x5d1, 0x5bf]), (0xfb4d, [0x5db, 0x5bf]), (0xfb4e, [0x5e4, 0x5bf]),
    (0xfb4f, [0x5d0, 0x5dc]), (0xfba4, [0x6d5, 0x654]), (0xfba5, [0x6d5, 0x654]),
    (0xfbb0, [0x6d2, 0x654]), (0xfbb1, [0x6d2, 0x654]), (0xfbdd, [0x6c7, 0x674]),
    (0xfbea, [0x64a, 0x654, 0x627]), (0xfbeb, [0x64a, 0x654, 0x627]),
    (0xfbec, [0x64a, 0x654, 0x6d5]), (0xfbed, [0x64a, 0x654, 0x6d5]),
    (0xfbee, [0x64a, 0x654, 0x648]), (0xfbef, [0x64a, 0x654, 0x648]),
    (0xfbf0, [0x64a, 0x654, 0x6c7]), (0xfbf1, [0x64a, 0x654, 0x6c7]),
    (0xfbf2, [0x64a, 0x654, 0x6c6]), (0xfbf3, [0x64a, 0x654, 0x6c6]),
    (0xfbf4, [0x64a, 0x654, 0x6c8]), (0xfbf5, [0x64a, 0x654, 0x6c8]),
    (0xfbf6, [0x64a, 0x654, 0x6d0]), (0xfbf7, [0x64a, 0x654, 0x6d0]),
    (0xfbf8, [0x64a, 0x654, 0x6d0]), (0xfbf9, [0x64a, 0x654, 0x649]),
    (0xfbfa, [0x64a, 0x654, 0x649]), (0xfbfb, [0x64a, 0x654, 0x649]),
    (0xfc00, [0x64a, 0x654, 0x62c]), (0xfc01, [0x64a, 0x654, 0x62d]),
    (0xfc02, [0x64a, 0x654, 0x645]), (0xfc03, [0x64a, 0x654, 0x649]),
    (0xfc04, [0x64a, 0x654, 0x64a]), (0xfc05, [0x628, 0x62c]), (0xfc06, [0x628, 0x62d]),
    (0xfc07, [0x628, 0x62e]), (0xfc08, [0x628, 0x645]), (0xfc09, [0x628, 0x649]),
    (0xfc0a, [0x628, 0x64a]), (0xfc0b, [0x62a, 0x62c]), (0xfc0c, [0x62a, 0x62d]),
    (0xfc0d, [0x62a, 0x62e]), (0xfc0e, [0x62a, 0x645]), (0xfc0f, [0x62a, 0x649]),
    (0xfc10, [0x62a, 0x64a]), (0xfc11, [0x62b, 0x62c]), (0xfc12, [0x62b, 0x645]),
    (0xfc13, [0x62b, 0x649]), (0xfc14, [0x62b, 0x64a]), (0xfc15, [0x62c, 0x62d]),
    (0xfc16, [0x62c, 0x645]), (0xfc17, [0x62d, 0x62c]), (0xfc18, [0x62d, 0x645]),
    (0xfc19, [0x62e, 0x62c]), (0xfc1a, [0x62e, 0x62d]), (0xfc1b, [0x62e, 0x645]),
    (0xfc1c, [0x633, 0x62c]), (0xfc1d, [0x633, 0x62d]), (0xfc1e, [0x633, 0x62e]),
    (0xfc1f, [0x633, 0x645]), (0xfc20, [0x635, 0x62d]), (0xfc21, [0x635, 0x645]),
    (0xfc22, [0x636, 0x62c]), (0xfc23, [0x636, 0x62d]), (0xfc24, [0x636, 0x62e]),
    (0xfc25, [0x636, 0x645]), (0xfc26, [0x637, 0x62d]), (0xfc27, [0x637, 0x645]),
    (0xfc28, [0x638, 0x645]), (0xfc29, [0x639, 0x62c]), (0xfc2a, [0x639, 0x645]),
    (0xfc2b, [0x63a, 0x62c]), (0xfc2c, [0x63a, 0x645]), (0xfc2d, [0x641, 0x62c]),
    (0xfc2e, [0x641, 0x62d]), (0xfc2f, [0x641, 0x62e]), (0xfc30, [0x641, 0x645]),
    (0xfc31, [0x641, 0x649]), (0xfc32, [0x641, 0x64a]), (0xfc33, [0x642, 0x62d]),
    (0xfc34, [0x642, 0x645]), (0xfc35, [0x642, 0x649]), (0xfc36, [0x642, 0x64a]),
    (0xfc37, [0x643, 0x627]), (0xfc38, [0x643, 0x62c]), (0xfc39, [0x643, 0x62d]),
    (0xfc3a, [0x643, 0x62e]), (0xfc3b, [0x643, 0x644]), (0xfc3c, [0x643, 0x645]),
    (0xfc3d, [0x643, 0x649]), (0xfc3e, [0x643, 0x64a]), (0xfc3f, [0x644, 0x62c]),
    (0xfc40, [0x644, 0x62d]), (0xfc41, [0x644, 0x62e]), (0xfc42, [0x644, 0x645]),
    (0xfc43, [0x644, 0x649]), (0xfc44, [0x644, 0x64a]), (0xfc45, [0x645, 0x62c]),
    (0xfc46, [0x645, 0x62d]), (0xfc47, [0x645, 0x62e]), (0xfc48, [0x645, 0x645]),
    (0xfc49, [0x645, 0x649]), (0xfc4a, [0x645, 0x64a]), (0xfc4b, [0x646, 0x62c]),
    (0xfc4c, [0x646, 0x62d]), (0xfc4d, [0x646, 0x62e]), (0xfc4e, [0x646, 0x645]),
    (0xfc4f, [0x646, 0x649]), (0xfc50, [0x646, 0x64a]), (0xfc51, [0x647, 0x62c]),
    (0xfc52, [0x647, 0x645]), (0xfc53, [0x647, 0x649]), (0xfc54, [0x647, 0x64a]),
    (0xfc55, [0x64a, 0x62c]), (0xfc56, [0x64a, 0x62d]), (0xfc57, [0x64a, 0x62e]),
    (0xfc58, [0x64a, 0x645]), (0xfc59, [0x64a, 0x649]), (0xfc5a, [0x64a, 0x64a]),
    (0xfc5b, [0x630, 0x670]), (0xfc5c, [0x631, 0x670]), (0xfc5d, [0x649, 0x670]),
    (0xfc64, [0x64a, 0x654, 0x631]), (0xfc65, [0x64a, 0x654, 0x632]),
    (0xfc66, [0x64a, 0x654, 0x645]), (0xfc67, [0x64a, 0x654, 0x646]),
    (0xfc68, [0x64a, 0x654, 0x649]), (0xfc69, [0x64a, 0x654, 0x64a]), (0xfc6a, [0x628, 0x631]),
    (0xfc6b, [0x628, 0x632]), (0xfc6c, [0x628, 0x645]), (0xfc6d, [0x628, 0x646]),
    (0xfc6e, [0x628, 0x649]), (0xfc6f, [0x628, 0x64a]), (0xfc70, [0x62a, 0x631]),
    (0xfc71, [0x62a, 0x632]), (0xfc72, [0x62a, 0x645]), (0xfc73, [0x62a, 0x646]),
    (0xfc74, [0x62a, 0x649]), (0xfc75, [0x62a, 0x64a]), (0xfc76, [0x62b, 0x631]),
    (0xfc77, [0x62b, 0x632]), (0xfc78, [0x62b, 0x645]), (0xfc79, [0x62b, 0x646]),
    (0xfc7a, [0x62b, 0x649]), (0xfc7b, [0x62b, 0x64a]), (0xfc7c, [0x641, 0x649]),
    (0xfc7d, [0x641, 0x64a]), (0xfc7e, [0x642, 0x649]), (0xfc7f, [0x642, 0x64a]),
    (0xfc80, [0x643, 0x627]), (0xfc81, [0x643, 0x644]), (0xfc82, [0x643, 0x645]),
    (0xfc83, [0x643, 0x649]), (0xfc84, [0x643, 0x64a]), (0xfc85, [0x644, 0x645]),
    (0xfc86, [0x644, 0x649]), (0xfc87, [0x644, 0x64a]), (0xfc88, [0x645, 0x627]),
    (0xfc89, [0x645, 0x645]), (0xfc8a, [0x646, 0x631]), (0xfc8b, [0x646, 0x632]),
    (0xfc8c, [0x646, 0x645]), (0xfc8d, [0x646, 0x646]), (0xfc8e, [0x646, 0x649]),
    (0xfc8f, [0x646, 0x64a]), (0xfc90, [0x649, 0x670]), (0xfc91, [0x64a, 0x631]),
    (0xfc92, [0x64a, 0x632]), (0xfc93, [0x64a, 0x645]), (0xfc94, [0x64a, 0x646]),
    (0xfc95, [0x64a, 0x649]), (0xfc96, [0x64a, 0x64a]), (0xfc97, [0x64a, 0x654, 0x62c]),
    (0xfc98, [0x64a, 0x654, 0x62d]), (0xfc99, [0x64a, 0x654, 0x62e]),
    (0xfc9a, [0x64a, 0x654, 0x645]), (0xfc9b, [0x64a, 0x654, 0x647]), (0xfc9c, [0x628, 0x62c]),
    (0xfc9d, [0x628, 0x62d]), (0xfc9e, [0x628, 0x62e]), (0xfc9f, [0x628, 0x645]),
    (0xfca0, [0x628, 0x647]), (0xfca1, [0x62a, 0x62c]), (0xfca2, [0x62a, 0x62d]),
    (0xfca3, [0x62a, 0x62e]), (0xfca4, [0x62a, 0x645]), (0xfca5, [0x62a, 0x647]),
    (0xfca6, [0x62b, 0x645]), (0xfca7, [0x62c, 0x62d]), (0xfca8, [0x62c, 0x645]),
    (0xfca9, [0x62d, 0x62c]), (0xfcaa, [0x62d, 0x645]), (0xfcab, [0x62e, 0x62c]),
    (0xfcac, [0x62e, 0x645]), (0xfcad, [0x633, 0x62c]), (0xfcae, [0x633, 0x62d]),
    (0xfcaf, [0x633, 0x62e]), (0xfcb0, [0x633, 0x645]), (0xfcb1, [0x635, 0x62d]),
    (0xfcb2, [0x635, 0x62e]), (0xfcb3, [0x635, 0x645]), (0xfcb4, [0x636, 0x62c]),
    (0xfcb5, [0x636, 0x62d]), (0xfcb6, [0x636, 0x62e]), (0xfcb7, [0x636, 0x645]),
    (0xfcb8, [0x637, 0x62d]), (0xfcb9, [0x638, 0x645]), (0xfcba, [0x639, 0x62c]),
    (0xfcbb, [0x639, 0x645]), (0xfcbc, [0x63a, 0x62c]), (0xfcbd, [0x63a, 0x645]),
    (0xfcbe, [0x641, 0x62c]), (0xfcbf, [0x641, 0x62d]), (0xfcc0, [0x641, 0x62e]),
    (0xfcc1, [0x641, 0x645]), (0xfcc2, [0x642, 0x62d]), (0xfcc3, [0x642, 0x645]),
    (0xfcc4, [0x643, 0x62c]), (0xfcc5, [0x643, 0x62d]), (0xfcc6, [0x643, 0x62e]),
    (0xfcc7, [0x643, 0x644]), (0xfcc8, [0x643, 0x645]), (0xfcc9, [0x644, 0x62c]),
    (0xfcca, [0x644, 0x62d]), (0xfccb, [0x644, 0x62e]), (0xfccc, [0x644, 0x645]),
    (0xfccd, [0x644, 0x647]), (0xfcce, [0x645, 0x62c]), (0xfccf, [0x645, 0x62d]),
    (0xfcd0, [0x645, 0x62e]), (0xfcd1, [0x645, 0x645]), (0xfcd2, [0x646, 0x62c]),
    (0xfcd3, [0x646, 0x62d]), (0xfcd4, [0x646, 0x62e]), (0xfcd5, [0x646, 0x645]),
    (0xfcd6, [0x646, 0x647]), (0xfcd7, [0x647, 0x62c]), (0xfcd8, [0x647, 0x645]),
    (0xfcd9, [0x647, 0x670]), (0xfcda, [0x64a, 0x62c]), (0xfcdb, [0x64a, 0x62d]),
    (0xfcdc, [0x64a, 0x62e]), (0xfcdd, [0x64a, 0x645]), (0xfcde, [0x64a, 0x647]),
    (0xfcdf, [0x64a, 0x654, 0x645]), (0xfce0, [0x64a, 0x654, 0x647]), (0xfce1, [0x628, 0x645]),
    (0xfce2, [0x628, 0x647]), (0xfce3, [0x62a, 0x645]), (0xfce4, [0x62a, 0x647]),
    (0xfce5, [0x62b, 0x645]), (0xfce6, [0x62b, 0x647]), (0xfce7, [0x633, 0x645]),
    (0xfce8, [0x633, 0x647]), (0xfce9, [0x634, 0x645]), (0xfcea, [0x634, 0x647]),
    (0xfceb, [0x643, 0x644]), (0xfcec, [0x643, 0x645]), (0xfced, [0x644, 0x645]),
    (0xfcee, [0x646, 0x645]), (0xfcef, [0x646, 0x647]), (0xfcf0, [0x64a, 0x645]),
    (0xfcf1, [0x64a, 0x647]), (0xfcf2, [0x640, 0x64e, 0x651]), (0xfcf3, [0x640, 0x64f, 0x651]),
    (0xfcf4, [0x640, 0x650, 0x651]), (0xfcf5, [0x637, 0x649]), (0xfcf6, [0x637, 0x64a]),
    (0xfcf7, [0x639, 0x649]), (0xfcf8, [0x639, 0x64a]), (0xfcf9, [0x63a, 0x649]),
    (0xfcfa, [0x63a, 0x64a]), (0xfcfb, [0x633, 0x649]), (0xfcfc, [0x633, 0x64a]),
    (0xfcfd, [0x634, 0x649]), (0xfcfe, [0x634, 0x64a]), (0xfcff, [0x62d, 0x649]),
    (0xfd00, [0x62d, 0x64a]), (0xfd01, [0x62c, 0x649]), (0xfd02, [0x62c, 0x64a]),
    (0xfd03, [0x62e, 0x649]), (0xfd04, [0x62e, 0x64a]), (0xfd05, [0x635, 0x649]),
    (0xfd06, [0x635, 0x64a]), (0xfd07, [0x636, 0x649]), (0xfd08, [0x636, 0x64a]),
    (0xfd09, [0x634, 0x62c]), (0xfd0a, [0x634, 0x62d]), (0xfd0b, [0x634, 0x62e]),
    (0xfd0c, [0x634, 0x645]), (0xfd0d, [0x634, 0x631]), (0xfd0e, [0x633, 0x631]),
    (0xfd0f, [0x635, 0x631]), (0xfd10, [0x636, 0x631]), (0xfd11, [0x637, 0x649]),
    (0xfd12, [0x637, 0x64a]), (0xfd13, [0x639, 0x649]), (0xfd14, [0x639, 0x64a]),
    (0xfd15, [0x63a, 0x649]), (0xfd16, [0x63a, 0x64a]), (0xfd17, [0x633, 0x649]),
    (0xfd18, [0x633, 0x64a]), (0xfd19, [0x634, 0x649]), (0xfd1a, [0x634, 0x64a]),
    (0xfd1b, [0x62d, 0x649]), (0xfd1c, [0x62d, 0x64a]), (0xfd1d, [0x62c, 0x649]),
    (0xfd1e, [0x62c, 0x64a]), (0xfd1f, [0x62e, 0x649]), (0xfd20, [0x62e, 0x64a]),
    (0xfd21, [0x635, 0x649]), (0xfd22, [0x635, 0x64a]), (0xfd23, [0x636, 0x649]),
    (0xfd24, [0x636, 0x64a]), (0xfd25, [0x634, 0x62c]), (0xfd26, [0x634, 0x62d]),
    (0xfd27, [0x634, 0x62e]), (0xfd28, [0x634, 0x645]), (0xfd29, [0x634, 0x631]),
    (0xfd2a, [0x633, 0x631]), (0xfd2b, [0x635, 0x631]), (0xfd2c, [0x636, 0x631]),
    (0xfd2d, [0x634, 0x62c]), (0xfd2e, [0x634, 0x62d]), (0xfd2f, [0x634, 0x62e]),
    (0xfd30, [0x634, 0x645]), (0xfd31, [0x633, 0x647]), (0xfd32, [0x634, 0x647]),
    (0xfd33, [0x637, 0x645]), (0xfd34, [0x633, 0x62c]), (0xfd35, [0x633, 0x62d]),
    (0xfd36, [0x633, 0x62e]), (0xfd37, [0x634, 0x62c]), (0xfd38, [0x634, 0x62d]),
    (0xfd39, [0x634, 0x62e]), (0xfd3a, [0x637, 0x645]), (0xfd3b, [0x638, 0x645]),
    (0xfd3c, [0x627, 0x64b]), (0xfd3d, [0x627, 0x64b]), (0xfd50, [0x62a, 0x62c, 0x645]),
    (0xfd51, [0x62a, 0x62d, 0x62c]), (0xfd52, [0x62a, 0x62d, 0x62c]),
    (0xfd53, [0x62a, 0x62d, 0x645]), (0xfd54, [0x62a, 0x62e, 0x645]),
    (0xfd55, [0x62a, 0x645, 0x62c]), (0xfd56, [0x62a, 0x645, 0x62d]),
    (0xfd57, [0x62a, 0x645, 0x62e]), (0xfd58, [0x62c, 0x645, 0x62d]),
    (0xfd59, [0x62c, 0x645, 0x62d]), (0xfd5a, [0x62d, 0x645, 0x64a]),
    (0xfd5b, [0x62d, 0x645, 0x649]), (0xfd5c, [0x633, 0x62d, 0x62c]),
    (0xfd5d, [0x633, 0x62c, 0x62d]), (0xfd5e, [0x633, 0x62c, 0x649]),
    (0xfd5f, [0x633, 0x645, 0x62d]), (0xfd60, [0x633, 0x645, 0x62d]),
    (0xfd61, [0x633, 0x645, 0x62c]), (0xfd62, [0x633, 0x645, 0x645]),
    (0xfd63, [0x633, 0x645, 0x645]), (0xfd64, [0x635, 0x62d, 0x62d]),
    (0xfd65, [0x635, 0x62d, 0x62d]), (0xfd66, [0x635, 0x645, 0x645]),
    (0xfd67, [0x634, 0x62d, 0x645]), (0xfd68, [0x634, 0x62d, 0x645]),
    (0xfd69, [0x634, 0x62c, 0x64a]), (0xfd6a, [0x634, 0x645, 0x62e]),
    (0xfd6b, [0x634, 0x645, 0x62e]), (0xfd6c, [0x634, 0x645, 0x645]),
    (0xfd6d, [0x634, 0x645, 0x645]), (0xfd6e, [0x636, 0x62d, 0x649]),
    (0xfd6f, [0x636, 0x62e, 0x645]), (0xfd70, [0x636, 0x62e, 0x645]),
    (0xfd71, [0x637, 0x645, 0x62d]), (0xfd72, [0x637, 0x645, 0x62d]),
    (0xfd73, [0x637, 0x645, 0x645]), (0xfd74, [0x637, 0x645, 0x64a]),
    (0xfd75, [0x639, 0x62c, 0x645]), (0xfd76, [0x639, 0x645, 0x645]),
    (0xfd77, [0x639, 0x645, 0x645]), (0xfd78, [0x639, 0x645, 0x649]),
    (0xfd79, [0x63a, 0x645, 0x645]), (0xfd7a, [0x63a, 0x645, 0x64a]),
    (0xfd7b, [0x63a, 0x645, 0x649]), (0xfd7c, [0x641, 0x62e, 0x645]),
    (0xfd7d, [0x641, 0x62e, 0x645]), (0xfd7e, [0x642, 0x645, 0x62d]),
    (0xfd7f, [0x642, 0x645, 0x645]), (0xfd80, [0x644, 0x62d, 0x645]),
    (0xfd81, [0x644, 0x62d, 0x64a]), (0xfd82, [0x644, 0x62d, 0x649]),
    (0xfd83, [0x644, 0x62c, 0x62c]), (0xfd84, [0x644, 0x62c, 0x62c]),
    (0xfd85, [0x644, 0x62e, 0x645]), (0xfd86, [0x644, 0x62e, 0x645]),
    (0xfd87, [0x644, 0x645, 0x62d]), (0xfd88, [0x644, 0x645, 0x62d]),
    (0xfd89, [0x645, 0x62d, 0x62c]), (0xfd8a, [0x645, 0x62d, 0x645]),
    (0xfd8b, [0x645, 0x62d, 0x64a]), (0xfd8c, [0x645, 0x62c, 0x62d]),
    (0xfd8d, [0x645, 0x62c, 0x645]), (0xfd8e, [0x645, 0x62e, 0x62c]),
    (0xfd8f, [0x645, 0x62e, 0x645]), (0xfd92, [0x645, 0x62c, 0x62e]),
    (0xfd93, [0x647, 0x645, 0x62c]), (0xfd94, [0x647, 0x645, 0x645]),
    (0xfd95, [0x646, 0x62d, 0x645]), (0xfd96, [0x646, 0x62d, 0x649]),
    (0xfd97, [0x646, 0x62c, 0x645]), (0xfd98, [0x646, 0x62c, 0x645]),
    (0xfd99, [0x646, 0x62c, 0x649]), (0xfd9a, [0x646, 0x645, 0x64a]),
    (0xfd9b, [0x646, 0x645, 0x649]), (0xfd9c, [0x64a, 0x645, 0x645]),
    (0xfd9d, [0x64a, 0x645, 0x645]), (0xfd9e, [0x628, 0x62e, 0x64a]),
    (0xfd9f, [0x62a, 0x62c, 0x64a]), (0xfda0, [0x62a, 0x62c, 0x649]),
    (0xfda1, [0x62a, 0x62e, 0x64a]), (0xfda2, [0x62a, 0x62e, 0x649]),
    (0xfda3, [0x62a, 0x645, 0x64a]), (0xfda4, [0x62a, 0x645, 0x649]),
    (0xfda5, [0x62c, 0x645, 0x64a]), (0xfda6, [0x62c, 0x62d, 0x649]),
    (0xfda7, [0x62c, 0x645, 0x649]), (0xfda8, [0x633, 0x62e, 0x649]),
    (0xfda9, [0x635, 0x62d, 0x64a]), (0xfdaa, [0x634, 0x62d, 0x64a]),
    (0xfdab, [0x636, 0x62d, 0x64a]), (0xfdac, [0x644, 0x62c, 0x64a]),
    (0xfdad, [0x644, 0x645, 0x64a]), (0xfdae, [0x64a, 0x62d, 0x64a]),
    (0xfdaf, [0x64a, 0x62c, 0x64a]), (0xfdb0, [0x64a, 0x645, 0x64a]),
    (0xfdb1, [0x645, 0x645, 0x64a]), (0xfdb2, [0x642, 0x645, 0x64a]),
    (0xfdb3, [0x646, 0x62d, 0x64a]), (0xfdb4, [0x642, 0x645, 0x62d]),
    (0xfdb5, [0x644, 0x62d, 0x645]), (0xfdb6, [0x639, 0x645, 0x64a]),
    (0xfdb7, [0x643, 0x645, 0x64a]), (0xfdb8, [0x646, 0x62c, 0x62d]),
    (0xfdb9, [0x645, 0x62e, 0x64a]), (0xfdba, [0x644, 0x62c, 0x645]),
    (0xfdbb, [0x643, 0x645, 0x645]), (0xfdbc, [0x644, 0x62c, 0x645]),
    (0xfdbd, [0x646, 0x62c, 0x62d]), (0xfdbe, [0x62c, 0x62d, 0x64a]),
    (0xfdbf, [0x62d, 0x62c, 0x64a]), (0xfdc0, [0x645, 0x62c, 0x64a]),
    (0xfdc1, [0x641, 0x645, 0x64a]), (0xfdc2, [0x628, 0x62d, 0x64a]),
    (0xfdc3, [0x643, 0x645, 0x645]), (0xfdc4, [0x639, 0x62c, 0x645]),
    (0xfdc5, [0x635, 0x645, 0x645]), (0xfdc6, [0x633, 0x62e, 0x64a]),
    (0xfdc7, [0x646, 0x62c, 0x64a]), (0xfdf0, [0x635, 0x644, 0x6d2]),
    (0xfdf1, [0x642, 0x644, 0x6d2]), (0xfdf2, [0x627, 0x644, 0x644, 0x647]),
    (0xfdf3, [0x627, 0x643, 0x628, 0x631]), (0xfdf4, [0x645, 0x62d, 0x645, 0x62f]),
    (0xfdf5, [0x635, 0x644, 0x639, 0x645]), (0xfdf6, [0x631, 0x633, 0x648, 0x644]),
    (0xfdf7, [0x639, 0x644, 0x64a, 0x647]), (0xfdf8, [0x648, 0x633, 0x644, 0x645]),
    (0xfdf9, [0x635, 0x644, 0x649]), (0xfe71, [0x640, 0x64b]), (0xfe77, [0x640, 0x64e]),
    (0xfe79, [0x640, 0x64f]), (0xfe7b, [0x640, 0x650]), (0xfe7d, [0x640, 0x651]),
    (0xfe7f, [0x640, 0x652]), (0xfe81, [0x627, 0x653]), (0xfe82, [0x627, 0x653]),
    (0xfe83, [0x627, 0x654]), (0xfe84, [0x627, 0x654]), (0xfe85, [0x648, 0x654]),
    (0xfe86, [0x648, 0x654]), (0xfe87, [0x627, 0x655]), (0xfe88, [0x627, 0x655]),
    (0xfe89, [0x64a, 0x654]), (0xfe8a, [0x64a, 0x654]), (0xfe8b, [0x64a, 0x654]),
    (0xfe8c, [0x64a, 0x654]), (0xfef5, [0x644, 0x627, 0x653]), (0xfef6, [0x644, 0x627, 0x653]),
    (0xfef7, [0x644, 0x627, 0x654]), (0xfef8, [0x644, 0x627, 0x654]),
    (0xfef9, [0x644, 0x627, 0x655]), (0xfefa, [0x644, 0x627, 0x655]), (0xfefb, [0x644, 0x627]),
    (0xfefc, [0x644, 0x627])]

end DebugScopes.Normal
