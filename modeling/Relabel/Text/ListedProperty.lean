/-!
# Further properties

Properties of characters that a find pattern may name beside general categories and scripts.
-/

namespace Relabel

def listedProperties : List (List String × List (Nat × Nat)) := [
  (["asciihexdigit", "ahex"], [(0x30, 0x39), (0x41, 0x46), (0x61, 0x66)]),
  (["dash"], [(0x2d, 0x2d), (0x58a, 0x58a), (0x5be, 0x5be), (0x1400, 0x1400), (0x1806, 0x1806),
    (0x2010, 0x2015), (0x2053, 0x2053), (0x207b, 0x207b), (0x208b, 0x208b), (0x2212, 0x2212),
    (0x2e17, 0x2e17), (0x2e1a, 0x2e1a), (0x2e3a, 0x2e3b), (0x2e40, 0x2e40), (0x2e5d, 0x2e5d),
    (0x301c, 0x301c), (0x3030, 0x3030), (0x30a0, 0x30a0), (0xfe31, 0xfe32), (0xfe58, 0xfe58),
    (0xfe63, 0xfe63), (0xff0d, 0xff0d), (0x10d6e, 0x10d6e), (0x10ead, 0x10ead)]),
  (["emoji"], [(0x23, 0x23), (0x2a, 0x2a), (0x30, 0x39), (0xa9, 0xa9), (0xae, 0xae),
    (0x203c, 0x203c), (0x2049, 0x2049), (0x2122, 0x2122), (0x2139, 0x2139), (0x2194, 0x2199),
    (0x21a9, 0x21aa), (0x231a, 0x231b), (0x2328, 0x2328), (0x23cf, 0x23cf), (0x23e9, 0x23f3),
    (0x23f8, 0x23fa), (0x24c2, 0x24c2), (0x25aa, 0x25ab), (0x25b6, 0x25b6), (0x25c0, 0x25c0),
    (0x25fb, 0x25fe), (0x2600, 0x2604), (0x260e, 0x260e), (0x2611, 0x2611), (0x2614, 0x2615),
    (0x2618, 0x2618), (0x261d, 0x261d), (0x2620, 0x2620), (0x2622, 0x2623), (0x2626, 0x2626),
    (0x262a, 0x262a), (0x262e, 0x262f), (0x2638, 0x263a), (0x2640, 0x2640), (0x2642, 0x2642),
    (0x2648, 0x2653), (0x265f, 0x2660), (0x2663, 0x2663), (0x2665, 0x2666), (0x2668, 0x2668),
    (0x267b, 0x267b), (0x267e, 0x267f), (0x2692, 0x2697), (0x2699, 0x2699), (0x269b, 0x269c),
    (0x26a0, 0x26a1), (0x26a7, 0x26a7), (0x26aa, 0x26ab), (0x26b0, 0x26b1), (0x26bd, 0x26be),
    (0x26c4, 0x26c5), (0x26c8, 0x26c8), (0x26ce, 0x26cf), (0x26d1, 0x26d1), (0x26d3, 0x26d4),
    (0x26e9, 0x26ea), (0x26f0, 0x26f5), (0x26f7, 0x26fa), (0x26fd, 0x26fd), (0x2702, 0x2702),
    (0x2705, 0x2705), (0x2708, 0x270d), (0x270f, 0x270f), (0x2712, 0x2712), (0x2714, 0x2714),
    (0x2716, 0x2716), (0x271d, 0x271d), (0x2721, 0x2721), (0x2728, 0x2728), (0x2733, 0x2734),
    (0x2744, 0x2744), (0x2747, 0x2747), (0x274c, 0x274c), (0x274e, 0x274e), (0x2753, 0x2755),
    (0x2757, 0x2757), (0x2763, 0x2764), (0x2795, 0x2797), (0x27a1, 0x27a1), (0x27b0, 0x27b0),
    (0x27bf, 0x27bf), (0x2934, 0x2935), (0x2b05, 0x2b07), (0x2b1b, 0x2b1c), (0x2b50, 0x2b50),
    (0x2b55, 0x2b55), (0x3030, 0x3030), (0x303d, 0x303d), (0x3297, 0x3297), (0x3299, 0x3299),
    (0x1f004, 0x1f004), (0x1f0cf, 0x1f0cf), (0x1f170, 0x1f171), (0x1f17e, 0x1f17f),
    (0x1f18e, 0x1f18e), (0x1f191, 0x1f19a), (0x1f1e6, 0x1f1ff), (0x1f201, 0x1f202),
    (0x1f21a, 0x1f21a), (0x1f22f, 0x1f22f), (0x1f232, 0x1f23a), (0x1f250, 0x1f251),
    (0x1f300, 0x1f321), (0x1f324, 0x1f393), (0x1f396, 0x1f397), (0x1f399, 0x1f39b),
    (0x1f39e, 0x1f3f0), (0x1f3f3, 0x1f3f5), (0x1f3f7, 0x1f4fd), (0x1f4ff, 0x1f53d),
    (0x1f549, 0x1f54e), (0x1f550, 0x1f567), (0x1f56f, 0x1f570), (0x1f573, 0x1f57a),
    (0x1f587, 0x1f587), (0x1f58a, 0x1f58d), (0x1f590, 0x1f590), (0x1f595, 0x1f596),
    (0x1f5a4, 0x1f5a5), (0x1f5a8, 0x1f5a8), (0x1f5b1, 0x1f5b2), (0x1f5bc, 0x1f5bc),
    (0x1f5c2, 0x1f5c4), (0x1f5d1, 0x1f5d3), (0x1f5dc, 0x1f5de), (0x1f5e1, 0x1f5e1),
    (0x1f5e3, 0x1f5e3), (0x1f5e8, 0x1f5e8), (0x1f5ef, 0x1f5ef), (0x1f5f3, 0x1f5f3),
    (0x1f5fa, 0x1f64f), (0x1f680, 0x1f6c5), (0x1f6cb, 0x1f6d2), (0x1f6d5, 0x1f6d8),
    (0x1f6dc, 0x1f6e5), (0x1f6e9, 0x1f6e9), (0x1f6eb, 0x1f6ec), (0x1f6f0, 0x1f6f0),
    (0x1f6f3, 0x1f6fc), (0x1f7e0, 0x1f7eb), (0x1f7f0, 0x1f7f0), (0x1f90c, 0x1f93a),
    (0x1f93c, 0x1f945), (0x1f947, 0x1f9ff), (0x1fa70, 0x1fa7c), (0x1fa80, 0x1fa8a),
    (0x1fa8e, 0x1fac6), (0x1fac8, 0x1fac8), (0x1facd, 0x1fadc), (0x1fadf, 0x1faea),
    (0x1faef, 0x1faf8)]),
  (["emojicomponent", "ecomp"], [(0x23, 0x23), (0x2a, 0x2a), (0x30, 0x39), (0x200d, 0x200d),
    (0x20e3, 0x20e3), (0xfe0f, 0xfe0f), (0x1f1e6, 0x1f1ff), (0x1f3fb, 0x1f3ff),
    (0x1f9b0, 0x1f9b3), (0xe0020, 0xe007f)]),
  (["emojimodifier", "emod"], [(0x1f3fb, 0x1f3ff)]),
  (["emojimodifierbase", "ebase"], [(0x261d, 0x261d), (0x26f9, 0x26f9), (0x270a, 0x270d),
    (0x1f385, 0x1f385), (0x1f3c2, 0x1f3c4), (0x1f3c7, 0x1f3c7), (0x1f3ca, 0x1f3cc),
    (0x1f442, 0x1f443), (0x1f446, 0x1f450), (0x1f466, 0x1f478), (0x1f47c, 0x1f47c),
    (0x1f481, 0x1f483), (0x1f485, 0x1f487), (0x1f48f, 0x1f48f), (0x1f491, 0x1f491),
    (0x1f4aa, 0x1f4aa), (0x1f574, 0x1f575), (0x1f57a, 0x1f57a), (0x1f590, 0x1f590),
    (0x1f595, 0x1f596), (0x1f645, 0x1f647), (0x1f64b, 0x1f64f), (0x1f6a3, 0x1f6a3),
    (0x1f6b4, 0x1f6b6), (0x1f6c0, 0x1f6c0), (0x1f6cc, 0x1f6cc), (0x1f90c, 0x1f90c),
    (0x1f90f, 0x1f90f), (0x1f918, 0x1f91f), (0x1f926, 0x1f926), (0x1f930, 0x1f939),
    (0x1f93c, 0x1f93e), (0x1f977, 0x1f977), (0x1f9b5, 0x1f9b6), (0x1f9b8, 0x1f9b9),
    (0x1f9bb, 0x1f9bb), (0x1f9cd, 0x1f9cf), (0x1f9d1, 0x1f9dd), (0x1fac3, 0x1fac5),
    (0x1faf0, 0x1faf8)]),
  (["emojipresentation", "epres"], [(0x231a, 0x231b), (0x23e9, 0x23ec), (0x23f0, 0x23f0),
    (0x23f3, 0x23f3), (0x25fd, 0x25fe), (0x2614, 0x2615), (0x2648, 0x2653), (0x267f, 0x267f),
    (0x2693, 0x2693), (0x26a1, 0x26a1), (0x26aa, 0x26ab), (0x26bd, 0x26be), (0x26c4, 0x26c5),
    (0x26ce, 0x26ce), (0x26d4, 0x26d4), (0x26ea, 0x26ea), (0x26f2, 0x26f3), (0x26f5, 0x26f5),
    (0x26fa, 0x26fa), (0x26fd, 0x26fd), (0x2705, 0x2705), (0x270a, 0x270b), (0x2728, 0x2728),
    (0x274c, 0x274c), (0x274e, 0x274e), (0x2753, 0x2755), (0x2757, 0x2757), (0x2795, 0x2797),
    (0x27b0, 0x27b0), (0x27bf, 0x27bf), (0x2b1b, 0x2b1c), (0x2b50, 0x2b50), (0x2b55, 0x2b55),
    (0x1f004, 0x1f004), (0x1f0cf, 0x1f0cf), (0x1f18e, 0x1f18e), (0x1f191, 0x1f19a),
    (0x1f1e6, 0x1f1ff), (0x1f201, 0x1f201), (0x1f21a, 0x1f21a), (0x1f22f, 0x1f22f),
    (0x1f232, 0x1f236), (0x1f238, 0x1f23a), (0x1f250, 0x1f251), (0x1f300, 0x1f320),
    (0x1f32d, 0x1f335), (0x1f337, 0x1f37c), (0x1f37e, 0x1f393), (0x1f3a0, 0x1f3ca),
    (0x1f3cf, 0x1f3d3), (0x1f3e0, 0x1f3f0), (0x1f3f4, 0x1f3f4), (0x1f3f8, 0x1f43e),
    (0x1f440, 0x1f440), (0x1f442, 0x1f4fc), (0x1f4ff, 0x1f53d), (0x1f54b, 0x1f54e),
    (0x1f550, 0x1f567), (0x1f57a, 0x1f57a), (0x1f595, 0x1f596), (0x1f5a4, 0x1f5a4),
    (0x1f5fb, 0x1f64f), (0x1f680, 0x1f6c5), (0x1f6cc, 0x1f6cc), (0x1f6d0, 0x1f6d2),
    (0x1f6d5, 0x1f6d8), (0x1f6dc, 0x1f6df), (0x1f6eb, 0x1f6ec), (0x1f6f4, 0x1f6fc),
    (0x1f7e0, 0x1f7eb), (0x1f7f0, 0x1f7f0), (0x1f90c, 0x1f93a), (0x1f93c, 0x1f945),
    (0x1f947, 0x1f9ff), (0x1fa70, 0x1fa7c), (0x1fa80, 0x1fa8a), (0x1fa8e, 0x1fac6),
    (0x1fac8, 0x1fac8), (0x1facd, 0x1fadc), (0x1fadf, 0x1faea), (0x1faef, 0x1faf8)]),
  (["extendedpictographic", "extpict"], [(0xa9, 0xa9), (0xae, 0xae), (0x203c, 0x203c),
    (0x2049, 0x2049), (0x2122, 0x2122), (0x2139, 0x2139), (0x2194, 0x2199), (0x21a9, 0x21aa),
    (0x231a, 0x231b), (0x2328, 0x2328), (0x23cf, 0x23cf), (0x23e9, 0x23f3), (0x23f8, 0x23fa),
    (0x24c2, 0x24c2), (0x25aa, 0x25ab), (0x25b6, 0x25b6), (0x25c0, 0x25c0), (0x25fb, 0x25fe),
    (0x2600, 0x2604), (0x260e, 0x260e), (0x2611, 0x2611), (0x2614, 0x2615), (0x2618, 0x2618),
    (0x261d, 0x261d), (0x2620, 0x2620), (0x2622, 0x2623), (0x2626, 0x2626), (0x262a, 0x262a),
    (0x262e, 0x262f), (0x2638, 0x263a), (0x2640, 0x2640), (0x2642, 0x2642), (0x2648, 0x2653),
    (0x265f, 0x2660), (0x2663, 0x2663), (0x2665, 0x2666), (0x2668, 0x2668), (0x267b, 0x267b),
    (0x267e, 0x267f), (0x2692, 0x2697), (0x2699, 0x2699), (0x269b, 0x269c), (0x26a0, 0x26a1),
    (0x26a7, 0x26a7), (0x26aa, 0x26ab), (0x26b0, 0x26b1), (0x26bd, 0x26be), (0x26c4, 0x26c5),
    (0x26c8, 0x26c8), (0x26ce, 0x26cf), (0x26d1, 0x26d1), (0x26d3, 0x26d4), (0x26e9, 0x26ea),
    (0x26f0, 0x26f5), (0x26f7, 0x26fa), (0x26fd, 0x26fd), (0x2702, 0x2702), (0x2705, 0x2705),
    (0x2708, 0x270d), (0x270f, 0x270f), (0x2712, 0x2712), (0x2714, 0x2714), (0x2716, 0x2716),
    (0x271d, 0x271d), (0x2721, 0x2721), (0x2728, 0x2728), (0x2733, 0x2734), (0x2744, 0x2744),
    (0x2747, 0x2747), (0x274c, 0x274c), (0x274e, 0x274e), (0x2753, 0x2755), (0x2757, 0x2757),
    (0x2763, 0x2764), (0x2795, 0x2797), (0x27a1, 0x27a1), (0x27b0, 0x27b0), (0x27bf, 0x27bf),
    (0x2934, 0x2935), (0x2b05, 0x2b07), (0x2b1b, 0x2b1c), (0x2b50, 0x2b50), (0x2b55, 0x2b55),
    (0x3030, 0x3030), (0x303d, 0x303d), (0x3297, 0x3297), (0x3299, 0x3299), (0x1f004, 0x1f004),
    (0x1f02c, 0x1f02f), (0x1f094, 0x1f09f), (0x1f0af, 0x1f0b0), (0x1f0c0, 0x1f0c0),
    (0x1f0cf, 0x1f0d0), (0x1f0f6, 0x1f0ff), (0x1f170, 0x1f171), (0x1f17e, 0x1f17f),
    (0x1f18e, 0x1f18e), (0x1f191, 0x1f19a), (0x1f1ae, 0x1f1e5), (0x1f201, 0x1f20f),
    (0x1f21a, 0x1f21a), (0x1f22f, 0x1f22f), (0x1f232, 0x1f23a), (0x1f23c, 0x1f23f),
    (0x1f249, 0x1f25f), (0x1f266, 0x1f321), (0x1f324, 0x1f393), (0x1f396, 0x1f397),
    (0x1f399, 0x1f39b), (0x1f39e, 0x1f3f0), (0x1f3f3, 0x1f3f5), (0x1f3f7, 0x1f3fa),
    (0x1f400, 0x1f4fd), (0x1f4ff, 0x1f53d), (0x1f549, 0x1f54e), (0x1f550, 0x1f567),
    (0x1f56f, 0x1f570), (0x1f573, 0x1f57a), (0x1f587, 0x1f587), (0x1f58a, 0x1f58d),
    (0x1f590, 0x1f590), (0x1f595, 0x1f596), (0x1f5a4, 0x1f5a5), (0x1f5a8, 0x1f5a8),
    (0x1f5b1, 0x1f5b2), (0x1f5bc, 0x1f5bc), (0x1f5c2, 0x1f5c4), (0x1f5d1, 0x1f5d3),
    (0x1f5dc, 0x1f5de), (0x1f5e1, 0x1f5e1), (0x1f5e3, 0x1f5e3), (0x1f5e8, 0x1f5e8),
    (0x1f5ef, 0x1f5ef), (0x1f5f3, 0x1f5f3), (0x1f5fa, 0x1f64f), (0x1f680, 0x1f6c5),
    (0x1f6cb, 0x1f6d2), (0x1f6d5, 0x1f6e5), (0x1f6e9, 0x1f6e9), (0x1f6eb, 0x1f6f0),
    (0x1f6f3, 0x1f6ff), (0x1f7da, 0x1f7ff), (0x1f80c, 0x1f80f), (0x1f848, 0x1f84f),
    (0x1f85a, 0x1f85f), (0x1f888, 0x1f88f), (0x1f8ae, 0x1f8af), (0x1f8bc, 0x1f8bf),
    (0x1f8c2, 0x1f8cf), (0x1f8d9, 0x1f8ff), (0x1f90c, 0x1f93a), (0x1f93c, 0x1f945),
    (0x1f947, 0x1f9ff), (0x1fa58, 0x1fa5f), (0x1fa6e, 0x1faff), (0x1fc00, 0x1fffd)]),
  (["hexdigit", "hex"], [(0x30, 0x39), (0x41, 0x46), (0x61, 0x66), (0xff10, 0xff19),
    (0xff21, 0xff26), (0xff41, 0xff46)]),
  (["ideographic", "ideo"], [(0x3006, 0x3007), (0x3021, 0x3029), (0x3038, 0x303a),
    (0x3400, 0x4dbf), (0x4e00, 0x9fff), (0xf900, 0xfa6d), (0xfa70, 0xfad9), (0x16fe4, 0x16fe4),
    (0x16ff2, 0x16ff6), (0x17000, 0x18cd5), (0x18cff, 0x18d1e), (0x18d80, 0x18df2),
    (0x1b170, 0x1b2fb), (0x20000, 0x2a6df), (0x2a700, 0x2b81d), (0x2b820, 0x2cead),
    (0x2ceb0, 0x2ebe0), (0x2ebf0, 0x2ee5d), (0x2f800, 0x2fa1d), (0x30000, 0x3134a),
    (0x31350, 0x33479)]),
  (["joincontrol", "joinc"], [(0x200c, 0x200d)]),
  (["math"], [(0x2b, 0x2b), (0x3c, 0x3e), (0x5e, 0x5e), (0x7c, 0x7c), (0x7e, 0x7e), (0xac, 0xac),
    (0xb1, 0xb1), (0xd7, 0xd7), (0xf7, 0xf7), (0x3d0, 0x3d2), (0x3d5, 0x3d5), (0x3f0, 0x3f1),
    (0x3f4, 0x3f6), (0x606, 0x608), (0x2016, 0x2016), (0x2032, 0x2034), (0x2040, 0x2040),
    (0x2044, 0x2044), (0x2052, 0x2052), (0x2061, 0x2064), (0x207a, 0x207e), (0x208a, 0x208e),
    (0x20d0, 0x20dc), (0x20e1, 0x20e1), (0x20e5, 0x20e6), (0x20eb, 0x20ef), (0x2102, 0x2102),
    (0x2107, 0x2107), (0x210a, 0x2113), (0x2115, 0x2115), (0x2118, 0x211d), (0x2124, 0x2124),
    (0x2128, 0x2129), (0x212c, 0x212d), (0x212f, 0x2131), (0x2133, 0x2138), (0x213c, 0x2149),
    (0x214b, 0x214b), (0x2190, 0x21a7), (0x21a9, 0x21ae), (0x21b0, 0x21b1), (0x21b6, 0x21b7),
    (0x21bc, 0x21db), (0x21dd, 0x21dd), (0x21e4, 0x21e5), (0x21f4, 0x22ff), (0x2308, 0x230b),
    (0x2320, 0x2321), (0x237c, 0x237c), (0x239b, 0x23b5), (0x23b7, 0x23b7), (0x23d0, 0x23d0),
    (0x23dc, 0x23e2), (0x25a0, 0x25a1), (0x25ae, 0x25b7), (0x25bc, 0x25c1), (0x25c6, 0x25c7),
    (0x25ca, 0x25cb), (0x25cf, 0x25d3), (0x25e2, 0x25e2), (0x25e4, 0x25e4), (0x25e7, 0x25ec),
    (0x25f8, 0x25ff), (0x2605, 0x2606), (0x2640, 0x2640), (0x2642, 0x2642), (0x2660, 0x2663),
    (0x266d, 0x266f), (0x27c0, 0x27ff), (0x2900, 0x2aff), (0x2b30, 0x2b44), (0x2b47, 0x2b4c),
    (0xfb29, 0xfb29), (0xfe61, 0xfe66), (0xfe68, 0xfe68), (0xff0b, 0xff0b), (0xff1c, 0xff1e),
    (0xff3c, 0xff3c), (0xff3e, 0xff3e), (0xff5c, 0xff5c), (0xff5e, 0xff5e), (0xffe2, 0xffe2),
    (0xffe9, 0xffec), (0x10d8e, 0x10d8f), (0x1cef0, 0x1cef0), (0x1d400, 0x1d454),
    (0x1d456, 0x1d49c), (0x1d49e, 0x1d49f), (0x1d4a2, 0x1d4a2), (0x1d4a5, 0x1d4a6),
    (0x1d4a9, 0x1d4ac), (0x1d4ae, 0x1d4b9), (0x1d4bb, 0x1d4bb), (0x1d4bd, 0x1d4c3),
    (0x1d4c5, 0x1d505), (0x1d507, 0x1d50a), (0x1d50d, 0x1d514), (0x1d516, 0x1d51c),
    (0x1d51e, 0x1d539), (0x1d53b, 0x1d53e), (0x1d540, 0x1d544), (0x1d546, 0x1d546),
    (0x1d54a, 0x1d550), (0x1d552, 0x1d6a5), (0x1d6a8, 0x1d7cb), (0x1d7ce, 0x1d7ff),
    (0x1ee00, 0x1ee03), (0x1ee05, 0x1ee1f), (0x1ee21, 0x1ee22), (0x1ee24, 0x1ee24),
    (0x1ee27, 0x1ee27), (0x1ee29, 0x1ee32), (0x1ee34, 0x1ee37), (0x1ee39, 0x1ee39),
    (0x1ee3b, 0x1ee3b), (0x1ee42, 0x1ee42), (0x1ee47, 0x1ee47), (0x1ee49, 0x1ee49),
    (0x1ee4b, 0x1ee4b), (0x1ee4d, 0x1ee4f), (0x1ee51, 0x1ee52), (0x1ee54, 0x1ee54),
    (0x1ee57, 0x1ee57), (0x1ee59, 0x1ee59), (0x1ee5b, 0x1ee5b), (0x1ee5d, 0x1ee5d),
    (0x1ee5f, 0x1ee5f), (0x1ee61, 0x1ee62), (0x1ee64, 0x1ee64), (0x1ee67, 0x1ee6a),
    (0x1ee6c, 0x1ee72), (0x1ee74, 0x1ee77), (0x1ee79, 0x1ee7c), (0x1ee7e, 0x1ee7e),
    (0x1ee80, 0x1ee89), (0x1ee8b, 0x1ee9b), (0x1eea1, 0x1eea3), (0x1eea5, 0x1eea9),
    (0x1eeab, 0x1eebb), (0x1eef0, 0x1eef1), (0x1f8d0, 0x1f8d8)]),
  (["noncharactercodepoint", "nchar"], [(0xfdd0, 0xfdef), (0xfffe, 0xffff), (0x1fffe, 0x1ffff),
    (0x2fffe, 0x2ffff), (0x3fffe, 0x3ffff), (0x4fffe, 0x4ffff), (0x5fffe, 0x5ffff),
    (0x6fffe, 0x6ffff), (0x7fffe, 0x7ffff), (0x8fffe, 0x8ffff), (0x9fffe, 0x9ffff),
    (0xafffe, 0xaffff), (0xbfffe, 0xbffff), (0xcfffe, 0xcffff), (0xdfffe, 0xdffff),
    (0xefffe, 0xeffff), (0xffffe, 0xfffff), (0x10fffe, 0x10ffff)]),
  (["quotationmark", "qmark"], [(0x22, 0x22), (0x27, 0x27), (0xab, 0xab), (0xbb, 0xbb),
    (0x2018, 0x201f), (0x2039, 0x203a), (0x2e42, 0x2e42), (0x300c, 0x300f), (0x301d, 0x301f),
    (0xfe41, 0xfe44), (0xff02, 0xff02), (0xff07, 0xff07), (0xff62, 0xff63)]),
  (["radical"], [(0x2e80, 0x2e99), (0x2e9b, 0x2ef3), (0x2f00, 0x2fd5)]),
  (["regionalindicator", "ri"], [(0x1f1e6, 0x1f1ff)]),
  (["sentenceterminal", "sterm"], [(0x21, 0x21), (0x2e, 0x2e), (0x3f, 0x3f), (0x589, 0x589),
    (0x61d, 0x61f), (0x6d4, 0x6d4), (0x700, 0x702), (0x7f9, 0x7f9), (0x837, 0x837),
    (0x839, 0x839), (0x83d, 0x83e), (0x964, 0x965), (0x104a, 0x104b), (0x1362, 0x1362),
    (0x1367, 0x1368), (0x166e, 0x166e), (0x1735, 0x1736), (0x17d4, 0x17d5), (0x1803, 0x1803),
    (0x1809, 0x1809), (0x1944, 0x1945), (0x1aa8, 0x1aab), (0x1b4e, 0x1b4f), (0x1b5a, 0x1b5b),
    (0x1b5e, 0x1b5f), (0x1b7d, 0x1b7f), (0x1c3b, 0x1c3c), (0x1c7e, 0x1c7f), (0x2024, 0x2024),
    (0x203c, 0x203d), (0x2047, 0x2049), (0x2cf9, 0x2cfb), (0x2e2e, 0x2e2e), (0x2e3c, 0x2e3c),
    (0x2e53, 0x2e54), (0x3002, 0x3002), (0xa4ff, 0xa4ff), (0xa60e, 0xa60f), (0xa6f3, 0xa6f3),
    (0xa6f7, 0xa6f7), (0xa876, 0xa877), (0xa8ce, 0xa8cf), (0xa92f, 0xa92f), (0xa9c8, 0xa9c9),
    (0xaa5d, 0xaa5f), (0xaaf0, 0xaaf1), (0xabeb, 0xabeb), (0xfe12, 0xfe12), (0xfe15, 0xfe16),
    (0xfe52, 0xfe52), (0xfe56, 0xfe57), (0xff01, 0xff01), (0xff0e, 0xff0e), (0xff1f, 0xff1f),
    (0xff61, 0xff61), (0x10a56, 0x10a57), (0x10f55, 0x10f59), (0x10f86, 0x10f89),
    (0x11047, 0x11048), (0x110be, 0x110c1), (0x11141, 0x11143), (0x111c5, 0x111c6),
    (0x111cd, 0x111cd), (0x111de, 0x111df), (0x11238, 0x11239), (0x1123b, 0x1123c),
    (0x112a9, 0x112a9), (0x113d4, 0x113d5), (0x1144b, 0x1144c), (0x115c2, 0x115c3),
    (0x115c9, 0x115d7), (0x11641, 0x11642), (0x1173c, 0x1173e), (0x11944, 0x11944),
    (0x11946, 0x11946), (0x11a42, 0x11a43), (0x11a9b, 0x11a9c), (0x11c41, 0x11c42),
    (0x11ef7, 0x11ef8), (0x11f43, 0x11f44), (0x16a6e, 0x16a6f), (0x16af5, 0x16af5),
    (0x16b37, 0x16b38), (0x16b44, 0x16b44), (0x16d6e, 0x16d6f), (0x16e98, 0x16e98),
    (0x1bc9f, 0x1bc9f), (0x1da88, 0x1da88)]),
  (["terminalpunctuation", "term"], [(0x21, 0x21), (0x2c, 0x2c), (0x2e, 0x2e), (0x3a, 0x3b),
    (0x3f, 0x3f), (0x37e, 0x37e), (0x387, 0x387), (0x589, 0x589), (0x5c3, 0x5c3), (0x60c, 0x60c),
    (0x61b, 0x61b), (0x61d, 0x61f), (0x6d4, 0x6d4), (0x700, 0x70a), (0x70c, 0x70c),
    (0x7f8, 0x7f9), (0x830, 0x835), (0x837, 0x83e), (0x85e, 0x85e), (0x964, 0x965),
    (0xe5a, 0xe5b), (0xf08, 0xf08), (0xf0d, 0xf12), (0x104a, 0x104b), (0x1361, 0x1368),
    (0x166e, 0x166e), (0x16eb, 0x16ed), (0x1735, 0x1736), (0x17d4, 0x17d6), (0x17da, 0x17da),
    (0x1802, 0x1805), (0x1808, 0x1809), (0x1944, 0x1945), (0x1aa8, 0x1aab), (0x1b4e, 0x1b4f),
    (0x1b5a, 0x1b5b), (0x1b5d, 0x1b5f), (0x1b7d, 0x1b7f), (0x1c3b, 0x1c3f), (0x1c7e, 0x1c7f),
    (0x2024, 0x2024), (0x203c, 0x203d), (0x2047, 0x2049), (0x2cf9, 0x2cfb), (0x2e2e, 0x2e2e),
    (0x2e3c, 0x2e3c), (0x2e41, 0x2e41), (0x2e4c, 0x2e4c), (0x2e4e, 0x2e4f), (0x2e53, 0x2e54),
    (0x3001, 0x3002), (0xa4fe, 0xa4ff), (0xa60d, 0xa60f), (0xa6f3, 0xa6f7), (0xa876, 0xa877),
    (0xa8ce, 0xa8cf), (0xa92f, 0xa92f), (0xa9c7, 0xa9c9), (0xaa5d, 0xaa5f), (0xaadf, 0xaadf),
    (0xaaf0, 0xaaf1), (0xabeb, 0xabeb), (0xfe12, 0xfe12), (0xfe15, 0xfe16), (0xfe50, 0xfe52),
    (0xfe54, 0xfe57), (0xff01, 0xff01), (0xff0c, 0xff0c), (0xff0e, 0xff0e), (0xff1a, 0xff1b),
    (0xff1f, 0xff1f), (0xff61, 0xff61), (0xff64, 0xff64), (0x1039f, 0x1039f), (0x103d0, 0x103d0),
    (0x10857, 0x10857), (0x1091f, 0x1091f), (0x10a56, 0x10a57), (0x10af0, 0x10af5),
    (0x10b3a, 0x10b3f), (0x10b99, 0x10b9c), (0x10f55, 0x10f59), (0x10f86, 0x10f89),
    (0x11047, 0x1104d), (0x110be, 0x110c1), (0x11141, 0x11143), (0x111c5, 0x111c6),
    (0x111cd, 0x111cd), (0x111de, 0x111df), (0x11238, 0x1123c), (0x112a9, 0x112a9),
    (0x113d4, 0x113d5), (0x1144b, 0x1144d), (0x1145a, 0x1145b), (0x115c2, 0x115c5),
    (0x115c9, 0x115d7), (0x11641, 0x11642), (0x1173c, 0x1173e), (0x11944, 0x11944),
    (0x11946, 0x11946), (0x11a42, 0x11a43), (0x11a9b, 0x11a9c), (0x11aa1, 0x11aa2),
    (0x11c41, 0x11c43), (0x11c71, 0x11c71), (0x11ef7, 0x11ef8), (0x11f43, 0x11f44),
    (0x12470, 0x12474), (0x16a6e, 0x16a6f), (0x16af5, 0x16af5), (0x16b37, 0x16b39),
    (0x16b44, 0x16b44), (0x16d6e, 0x16d6f), (0x16e97, 0x16e98), (0x1bc9f, 0x1bc9f),
    (0x1da87, 0x1da8a)]),
  (["unifiedideograph", "uideo"], [(0x3400, 0x4dbf), (0x4e00, 0x9fff), (0xfa0e, 0xfa0f),
    (0xfa11, 0xfa11), (0xfa13, 0xfa14), (0xfa1f, 0xfa1f), (0xfa21, 0xfa21), (0xfa23, 0xfa24),
    (0xfa27, 0xfa29), (0x20000, 0x2a6df), (0x2a700, 0x2b81d), (0x2b820, 0x2cead),
    (0x2ceb0, 0x2ebe0), (0x2ebf0, 0x2ee5d), (0x30000, 0x3134a), (0x31350, 0x33479)]),
  (["variationselector", "vs"], [(0x180b, 0x180d), (0x180f, 0x180f), (0xfe00, 0xfe0f),
    (0xe0100, 0xe01ef)])]

def otherUppercaseRanges : List (Nat × Nat) := [
    (0x2160, 0x216f), (0x24b6, 0x24cf), (0x1f130, 0x1f149), (0x1f150, 0x1f169),
    (0x1f170, 0x1f189)]

def otherLowercaseRanges : List (Nat × Nat) := [
    (0xaa, 0xaa), (0xba, 0xba), (0x2b0, 0x2b8), (0x2c0, 0x2c1), (0x2e0, 0x2e4), (0x345, 0x345),
    (0x37a, 0x37a), (0x10fc, 0x10fc), (0x1d2c, 0x1d6a), (0x1d78, 0x1d78), (0x1d9b, 0x1dbf),
    (0x2071, 0x2071), (0x207f, 0x207f), (0x2090, 0x209c), (0x2170, 0x217f), (0x24d0, 0x24e9),
    (0x2c7c, 0x2c7d), (0xa69c, 0xa69d), (0xa770, 0xa770), (0xa7f1, 0xa7f4), (0xa7f8, 0xa7f9),
    (0xab5c, 0xab5f), (0xab69, 0xab69), (0x10780, 0x10780), (0x10783, 0x10785),
    (0x10787, 0x107b0), (0x107b2, 0x107ba), (0x1e030, 0x1e06d)]

end Relabel
