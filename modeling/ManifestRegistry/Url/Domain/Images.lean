/-
**Characters that stand for ASCII characters in a domain.**

Wide, circled, raised and decorated forms of ASCII letters and digits stand for the plain ones, and
some signs stand for several characters at once.

Main definitions:

* `Url.Domain.Run` — consecutive characters that stand for consecutive ones;
* `Url.Domain.asciiRuns`, `Url.Domain.images` — the tables;
* `Url.Domain.image?` — **what a character stands for**.
-/

import ManifestRegistry.Text.Boundaries

set_option relaxedAutoImplicit false
set_option autoImplicit false
set_option maxRecDepth 20000

namespace ManifestRegistry

namespace Url

namespace Domain

/-- Consecutive characters that stand for consecutive ones. -/
structure Run where
  first : Nat
  count : Nat
  /-- The code point that the first one stands for. -/
  image : Nat

/-- Characters that stand for one ASCII character. -/
def asciiRuns : Array Run := #[
  ⟨0xa0, 1, 0x20⟩, ⟨0xaa, 1, 0x61⟩, ⟨0xb2, 2, 0x32⟩, ⟨0xb9, 1, 0x31⟩, ⟨0xba, 1, 0x6f⟩,
  ⟨0x17f, 1, 0x73⟩, ⟨0x2b0, 1, 0x68⟩, ⟨0x2b2, 1, 0x6a⟩, ⟨0x2b3, 1, 0x72⟩, ⟨0x2b7, 1, 0x77⟩,
  ⟨0x2b8, 1, 0x79⟩, ⟨0x2e1, 1, 0x6c⟩, ⟨0x2e2, 1, 0x73⟩, ⟨0x2e3, 1, 0x78⟩, ⟨0x37e, 1, 0x3b⟩,
  ⟨0x1d2c, 1, 0x61⟩, ⟨0x1d2e, 1, 0x62⟩, ⟨0x1d30, 2, 0x64⟩, ⟨0x1d33, 8, 0x67⟩, ⟨0x1d3c, 1, 0x6f⟩,
  ⟨0x1d3e, 1, 0x70⟩, ⟨0x1d3f, 1, 0x72⟩, ⟨0x1d40, 2, 0x74⟩, ⟨0x1d42, 1, 0x77⟩, ⟨0x1d43, 1, 0x61⟩,
  ⟨0x1d47, 1, 0x62⟩, ⟨0x1d48, 2, 0x64⟩, ⟨0x1d4d, 1, 0x67⟩, ⟨0x1d4f, 1, 0x6b⟩, ⟨0x1d50, 1, 0x6d⟩,
  ⟨0x1d52, 1, 0x6f⟩, ⟨0x1d56, 1, 0x70⟩, ⟨0x1d57, 2, 0x74⟩, ⟨0x1d5b, 1, 0x76⟩, ⟨0x1d62, 1, 0x69⟩,
  ⟨0x1d63, 1, 0x72⟩, ⟨0x1d64, 2, 0x75⟩, ⟨0x1d9c, 1, 0x63⟩, ⟨0x1da0, 1, 0x66⟩, ⟨0x1dbb, 1, 0x7a⟩,
  ⟨0x1fef, 1, 0x60⟩, ⟨0x2000, 1, 0x20⟩, ⟨0x2001, 1, 0x20⟩, ⟨0x2002, 1, 0x20⟩, ⟨0x2003, 1, 0x20⟩,
  ⟨0x2004, 1, 0x20⟩, ⟨0x2005, 1, 0x20⟩, ⟨0x2006, 1, 0x20⟩, ⟨0x2007, 1, 0x20⟩, ⟨0x2008, 1, 0x20⟩,
  ⟨0x2009, 1, 0x20⟩, ⟨0x200a, 1, 0x20⟩, ⟨0x202f, 1, 0x20⟩, ⟨0x205f, 1, 0x20⟩, ⟨0x2070, 1, 0x30⟩,
  ⟨0x2071, 1, 0x69⟩, ⟨0x2074, 6, 0x34⟩, ⟨0x207a, 1, 0x2b⟩, ⟨0x207c, 1, 0x3d⟩, ⟨0x207d, 2, 0x28⟩,
  ⟨0x207f, 1, 0x6e⟩, ⟨0x2080, 10, 0x30⟩, ⟨0x208a, 1, 0x2b⟩, ⟨0x208c, 1, 0x3d⟩, ⟨0x208d, 2, 0x28⟩,
  ⟨0x2090, 1, 0x61⟩, ⟨0x2091, 1, 0x65⟩, ⟨0x2092, 1, 0x6f⟩, ⟨0x2093, 1, 0x78⟩, ⟨0x2095, 1, 0x68⟩,
  ⟨0x2096, 4, 0x6b⟩, ⟨0x209a, 1, 0x70⟩, ⟨0x209b, 2, 0x73⟩, ⟨0x2102, 1, 0x63⟩, ⟨0x210a, 2, 0x67⟩,
  ⟨0x210c, 1, 0x68⟩, ⟨0x210d, 1, 0x68⟩, ⟨0x210e, 1, 0x68⟩, ⟨0x2110, 1, 0x69⟩, ⟨0x2111, 1, 0x69⟩,
  ⟨0x2112, 1, 0x6c⟩, ⟨0x2113, 1, 0x6c⟩, ⟨0x2115, 1, 0x6e⟩, ⟨0x2119, 3, 0x70⟩, ⟨0x211c, 1, 0x72⟩,
  ⟨0x211d, 1, 0x72⟩, ⟨0x2124, 1, 0x7a⟩, ⟨0x2128, 1, 0x7a⟩, ⟨0x212a, 1, 0x6b⟩, ⟨0x212c, 2, 0x62⟩,
  ⟨0x212f, 1, 0x65⟩, ⟨0x2130, 2, 0x65⟩, ⟨0x2133, 1, 0x6d⟩, ⟨0x2134, 1, 0x6f⟩, ⟨0x2139, 1, 0x69⟩,
  ⟨0x2145, 1, 0x64⟩, ⟨0x2146, 2, 0x64⟩, ⟨0x2148, 2, 0x69⟩, ⟨0x2160, 1, 0x69⟩, ⟨0x2164, 1, 0x76⟩,
  ⟨0x2169, 1, 0x78⟩, ⟨0x216c, 1, 0x6c⟩, ⟨0x216d, 2, 0x63⟩, ⟨0x216f, 1, 0x6d⟩, ⟨0x2170, 1, 0x69⟩,
  ⟨0x2174, 1, 0x76⟩, ⟨0x2179, 1, 0x78⟩, ⟨0x217c, 1, 0x6c⟩, ⟨0x217d, 2, 0x63⟩, ⟨0x217f, 1, 0x6d⟩,
  ⟨0x2460, 9, 0x31⟩, ⟨0x24b6, 26, 0x61⟩, ⟨0x24d0, 26, 0x61⟩, ⟨0x24ea, 1, 0x30⟩,
  ⟨0x2c7c, 1, 0x6a⟩, ⟨0x2c7d, 1, 0x76⟩, ⟨0x3000, 1, 0x20⟩, ⟨0x3002, 1, 0x2e⟩, ⟨0xa7f2, 1, 0x63⟩,
  ⟨0xa7f3, 1, 0x66⟩, ⟨0xa7f4, 1, 0x71⟩, ⟨0xfb29, 1, 0x2b⟩, ⟨0xfe10, 1, 0x2c⟩, ⟨0xfe13, 2, 0x3a⟩,
  ⟨0xfe15, 1, 0x21⟩, ⟨0xfe16, 1, 0x3f⟩, ⟨0xfe33, 1, 0x5f⟩, ⟨0xfe34, 1, 0x5f⟩, ⟨0xfe35, 2, 0x28⟩,
  ⟨0xfe37, 1, 0x7b⟩, ⟨0xfe38, 1, 0x7d⟩, ⟨0xfe47, 1, 0x5b⟩, ⟨0xfe48, 1, 0x5d⟩, ⟨0xfe4d, 1, 0x5f⟩,
  ⟨0xfe4e, 1, 0x5f⟩, ⟨0xfe4f, 1, 0x5f⟩, ⟨0xfe50, 1, 0x2c⟩, ⟨0xfe54, 1, 0x3b⟩, ⟨0xfe55, 1, 0x3a⟩,
  ⟨0xfe56, 1, 0x3f⟩, ⟨0xfe57, 1, 0x21⟩, ⟨0xfe59, 2, 0x28⟩, ⟨0xfe5b, 1, 0x7b⟩, ⟨0xfe5c, 1, 0x7d⟩,
  ⟨0xfe5f, 1, 0x23⟩, ⟨0xfe60, 1, 0x26⟩, ⟨0xfe61, 2, 0x2a⟩, ⟨0xfe63, 1, 0x2d⟩, ⟨0xfe64, 1, 0x3c⟩,
  ⟨0xfe65, 1, 0x3e⟩, ⟨0xfe66, 1, 0x3d⟩, ⟨0xfe68, 1, 0x5c⟩, ⟨0xfe69, 2, 0x24⟩, ⟨0xfe6b, 1, 0x40⟩,
  ⟨0xff01, 32, 0x21⟩, ⟨0xff21, 26, 0x61⟩, ⟨0xff3b, 36, 0x5b⟩, ⟨0xff61, 1, 0x2e⟩,
  ⟨0x107a5, 1, 0x71⟩, ⟨0x1d400, 26, 0x61⟩, ⟨0x1d41a, 26, 0x61⟩, ⟨0x1d434, 26, 0x61⟩,
  ⟨0x1d44e, 7, 0x61⟩, ⟨0x1d456, 18, 0x69⟩, ⟨0x1d468, 26, 0x61⟩, ⟨0x1d482, 26, 0x61⟩,
  ⟨0x1d49c, 1, 0x61⟩, ⟨0x1d49e, 2, 0x63⟩, ⟨0x1d4a2, 1, 0x67⟩, ⟨0x1d4a5, 2, 0x6a⟩,
  ⟨0x1d4a9, 4, 0x6e⟩, ⟨0x1d4ae, 8, 0x73⟩, ⟨0x1d4b6, 4, 0x61⟩, ⟨0x1d4bb, 1, 0x66⟩,
  ⟨0x1d4bd, 7, 0x68⟩, ⟨0x1d4c5, 11, 0x70⟩, ⟨0x1d4d0, 26, 0x61⟩, ⟨0x1d4ea, 26, 0x61⟩,
  ⟨0x1d504, 2, 0x61⟩, ⟨0x1d507, 4, 0x64⟩, ⟨0x1d50d, 8, 0x6a⟩, ⟨0x1d516, 7, 0x73⟩,
  ⟨0x1d51e, 26, 0x61⟩, ⟨0x1d538, 2, 0x61⟩, ⟨0x1d53b, 4, 0x64⟩, ⟨0x1d540, 5, 0x69⟩,
  ⟨0x1d546, 1, 0x6f⟩, ⟨0x1d54a, 7, 0x73⟩, ⟨0x1d552, 26, 0x61⟩, ⟨0x1d56c, 26, 0x61⟩,
  ⟨0x1d586, 26, 0x61⟩, ⟨0x1d5a0, 26, 0x61⟩, ⟨0x1d5ba, 26, 0x61⟩, ⟨0x1d5d4, 26, 0x61⟩,
  ⟨0x1d5ee, 26, 0x61⟩, ⟨0x1d608, 26, 0x61⟩, ⟨0x1d622, 26, 0x61⟩, ⟨0x1d63c, 26, 0x61⟩,
  ⟨0x1d656, 26, 0x61⟩, ⟨0x1d670, 26, 0x61⟩, ⟨0x1d68a, 26, 0x61⟩, ⟨0x1d7ce, 10, 0x30⟩,
  ⟨0x1d7d8, 10, 0x30⟩, ⟨0x1d7e2, 10, 0x30⟩, ⟨0x1d7ec, 10, 0x30⟩, ⟨0x1d7f6, 10, 0x30⟩,
  ⟨0x1f12b, 1, 0x63⟩, ⟨0x1f12c, 1, 0x72⟩, ⟨0x1f130, 26, 0x61⟩, ⟨0x1fbf0, 10, 0x30⟩]

/-- Characters that stand for several, or for one whose class differs from their own. -/
def images : Array (Nat × String) := #[
  (0xa8, " \u0308"), (0xaf, " \u0304"), (0xb4, " \u0301"), (0xb8, " \u0327"), (0xbc, "1\u20444"),
  (0xbd, "1\u20442"), (0xbe, "3\u20444"), (0x130, "i\u0307"), (0x132, "ij"), (0x133, "ij"),
  (0x13f, "l\xb7"), (0x140, "l\xb7"), (0x149, "\u02bcn"), (0x1c4, "d\u017e"), (0x1c5, "d\u017e"),
  (0x1c6, "d\u017e"), (0x1c7, "lj"), (0x1c8, "lj"), (0x1c9, "lj"), (0x1ca, "nj"), (0x1cb, "nj"),
  (0x1cc, "nj"), (0x1f1, "dz"), (0x1f2, "dz"), (0x1f3, "dz"), (0x2d8, " \u0306"),
  (0x2d9, " \u0307"), (0x2da, " \u030a"), (0x2db, " \u0328"), (0x2dc, " \u0303"),
  (0x2dd, " \u030b"), (0x345, "\u03b9"), (0x37a, " \u03b9"), (0x384, " \u0301"),
  (0x385, " \u0308\u0301"), (0xe33, "\u0e4d\u0e32"), (0xeb3, "\u0ecd\u0eb2"),
  (0x1e9a, "a\u02be"), (0x1fbd, " \u0313"), (0x1fbf, " \u0313"), (0x1fc0, " \u0342"),
  (0x1fc1, " \u0308\u0342"), (0x1fcd, " \u0313\u0300"), (0x1fce, " \u0313\u0301"),
  (0x1fcf, " \u0313\u0342"), (0x1fdd, " \u0314\u0300"), (0x1fde, " \u0314\u0301"),
  (0x1fdf, " \u0314\u0342"), (0x1fed, " \u0308\u0300"), (0x1fee, " \u0308\u0301"),
  (0x1ffd, " \u0301"), (0x1ffe, " \u0314"), (0x2017, " \u0333"), (0x203c, "!!"),
  (0x203e, " \u0305"), (0x2047, "??"), (0x2048, "?!"), (0x2049, "!?"), (0x20a8, "rs"),
  (0x2100, "a/c"), (0x2101, "a/s"), (0x2103, "\xb0c"), (0x2105, "c/o"), (0x2106, "c/u"),
  (0x2109, "\xb0f"), (0x2116, "no"), (0x2120, "sm"), (0x2121, "tel"), (0x2122, "tm"),
  (0x2135, "\u05d0"), (0x2136, "\u05d1"), (0x2137, "\u05d2"), (0x2138, "\u05d3"),
  (0x213b, "fax"), (0x2150, "1\u20447"), (0x2151, "1\u20449"), (0x2152, "1\u204410"),
  (0x2153, "1\u20443"), (0x2154, "2\u20443"), (0x2155, "1\u20445"), (0x2156, "2\u20445"),
  (0x2157, "3\u20445"), (0x2158, "4\u20445"), (0x2159, "1\u20446"), (0x215a, "5\u20446"),
  (0x215b, "1\u20448"), (0x215c, "3\u20448"), (0x215d, "5\u20448"), (0x215e, "7\u20448"),
  (0x215f, "1\u2044"), (0x2161, "ii"), (0x2162, "iii"), (0x2163, "iv"), (0x2165, "vi"),
  (0x2166, "vii"), (0x2167, "viii"), (0x2168, "ix"), (0x216a, "xi"), (0x216b, "xii"),
  (0x2171, "ii"), (0x2172, "iii"), (0x2173, "iv"), (0x2175, "vi"), (0x2176, "vii"),
  (0x2177, "viii"), (0x2178, "ix"), (0x217a, "xi"), (0x217b, "xii"), (0x2189, "0\u20443"),
  (0x2469, "10"), (0x246a, "11"), (0x246b, "12"), (0x246c, "13"), (0x246d, "14"), (0x246e, "15"),
  (0x246f, "16"), (0x2470, "17"), (0x2471, "18"), (0x2472, "19"), (0x2473, "20"),
  (0x2474, "(1)"), (0x2475, "(2)"), (0x2476, "(3)"), (0x2477, "(4)"), (0x2478, "(5)"),
  (0x2479, "(6)"), (0x247a, "(7)"), (0x247b, "(8)"), (0x247c, "(9)"), (0x247d, "(10)"),
  (0x247e, "(11)"), (0x247f, "(12)"), (0x2480, "(13)"), (0x2481, "(14)"), (0x2482, "(15)"),
  (0x2483, "(16)"), (0x2484, "(17)"), (0x2485, "(18)"), (0x2486, "(19)"), (0x2487, "(20)"),
  (0x249c, "(a)"), (0x249d, "(b)"), (0x249e, "(c)"), (0x249f, "(d)"), (0x24a0, "(e)"),
  (0x24a1, "(f)"), (0x24a2, "(g)"), (0x24a3, "(h)"), (0x24a4, "(i)"), (0x24a5, "(j)"),
  (0x24a6, "(k)"), (0x24a7, "(l)"), (0x24a8, "(m)"), (0x24a9, "(n)"), (0x24aa, "(o)"),
  (0x24ab, "(p)"), (0x24ac, "(q)"), (0x24ad, "(r)"), (0x24ae, "(s)"), (0x24af, "(t)"),
  (0x24b0, "(u)"), (0x24b1, "(v)"), (0x24b2, "(w)"), (0x24b3, "(x)"), (0x24b4, "(y)"),
  (0x24b5, "(z)"), (0x2a74, "::="), (0x2a75, "=="), (0x2a76, "==="), (0x309b, " \u3099"),
  (0x309c, " \u309a"), (0x3200, "(\u1100)"), (0x3201, "(\u1102)"), (0x3202, "(\u1103)"),
  (0x3203, "(\u1105)"), (0x3204, "(\u1106)"), (0x3205, "(\u1107)"), (0x3206, "(\u1109)"),
  (0x3207, "(\u110b)"), (0x3208, "(\u110c)"), (0x3209, "(\u110e)"), (0x320a, "(\u110f)"),
  (0x320b, "(\u1110)"), (0x320c, "(\u1111)"), (0x320d, "(\u1112)"), (0x320e, "(\uac00)"),
  (0x320f, "(\ub098)"), (0x3210, "(\ub2e4)"), (0x3211, "(\ub77c)"), (0x3212, "(\ub9c8)"),
  (0x3213, "(\ubc14)"), (0x3214, "(\uc0ac)"), (0x3215, "(\uc544)"), (0x3216, "(\uc790)"),
  (0x3217, "(\ucc28)"), (0x3218, "(\uce74)"), (0x3219, "(\ud0c0)"), (0x321a, "(\ud30c)"),
  (0x321b, "(\ud558)"), (0x321c, "(\uc8fc)"), (0x321d, "(\uc624\uc804)"),
  (0x321e, "(\uc624\ud6c4)"), (0x3220, "(\u4e00)"), (0x3221, "(\u4e8c)"), (0x3222, "(\u4e09)"),
  (0x3223, "(\u56db)"), (0x3224, "(\u4e94)"), (0x3225, "(\u516d)"), (0x3226, "(\u4e03)"),
  (0x3227, "(\u516b)"), (0x3228, "(\u4e5d)"), (0x3229, "(\u5341)"), (0x322a, "(\u6708)"),
  (0x322b, "(\u706b)"), (0x322c, "(\u6c34)"), (0x322d, "(\u6728)"), (0x322e, "(\u91d1)"),
  (0x322f, "(\u571f)"), (0x3230, "(\u65e5)"), (0x3231, "(\u682a)"), (0x3232, "(\u6709)"),
  (0x3233, "(\u793e)"), (0x3234, "(\u540d)"), (0x3235, "(\u7279)"), (0x3236, "(\u8ca1)"),
  (0x3237, "(\u795d)"), (0x3238, "(\u52b4)"), (0x3239, "(\u4ee3)"), (0x323a, "(\u547c)"),
  (0x323b, "(\u5b66)"), (0x323c, "(\u76e3)"), (0x323d, "(\u4f01)"), (0x323e, "(\u8cc7)"),
  (0x323f, "(\u5354)"), (0x3240, "(\u796d)"), (0x3241, "(\u4f11)"), (0x3242, "(\u81ea)"),
  (0x3243, "(\u81f3)"), (0x3250, "pte"), (0x3251, "21"), (0x3252, "22"), (0x3253, "23"),
  (0x3254, "24"), (0x3255, "25"), (0x3256, "26"), (0x3257, "27"), (0x3258, "28"), (0x3259, "29"),
  (0x325a, "30"), (0x325b, "31"), (0x325c, "32"), (0x325d, "33"), (0x325e, "34"), (0x325f, "35"),
  (0x32b1, "36"), (0x32b2, "37"), (0x32b3, "38"), (0x32b4, "39"), (0x32b5, "40"), (0x32b6, "41"),
  (0x32b7, "42"), (0x32b8, "43"), (0x32b9, "44"), (0x32ba, "45"), (0x32bb, "46"), (0x32bc, "47"),
  (0x32bd, "48"), (0x32be, "49"), (0x32bf, "50"), (0x32c0, "1\u6708"), (0x32c1, "2\u6708"),
  (0x32c2, "3\u6708"), (0x32c3, "4\u6708"), (0x32c4, "5\u6708"), (0x32c5, "6\u6708"),
  (0x32c6, "7\u6708"), (0x32c7, "8\u6708"), (0x32c8, "9\u6708"), (0x32c9, "10\u6708"),
  (0x32ca, "11\u6708"), (0x32cb, "12\u6708"), (0x32cc, "hg"), (0x32cd, "erg"), (0x32ce, "ev"),
  (0x32cf, "ltd"), (0x3358, "0\u70b9"), (0x3359, "1\u70b9"), (0x335a, "2\u70b9"),
  (0x335b, "3\u70b9"), (0x335c, "4\u70b9"), (0x335d, "5\u70b9"), (0x335e, "6\u70b9"),
  (0x335f, "7\u70b9"), (0x3360, "8\u70b9"), (0x3361, "9\u70b9"), (0x3362, "10\u70b9"),
  (0x3363, "11\u70b9"), (0x3364, "12\u70b9"), (0x3365, "13\u70b9"), (0x3366, "14\u70b9"),
  (0x3367, "15\u70b9"), (0x3368, "16\u70b9"), (0x3369, "17\u70b9"), (0x336a, "18\u70b9"),
  (0x336b, "19\u70b9"), (0x336c, "20\u70b9"), (0x336d, "21\u70b9"), (0x336e, "22\u70b9"),
  (0x336f, "23\u70b9"), (0x3370, "24\u70b9"), (0x3371, "hpa"), (0x3372, "da"), (0x3373, "au"),
  (0x3374, "bar"), (0x3375, "ov"), (0x3376, "pc"), (0x3377, "dm"), (0x3378, "dm2"),
  (0x3379, "dm3"), (0x337a, "iu"), (0x3380, "pa"), (0x3381, "na"), (0x3382, "\u03bca"),
  (0x3383, "ma"), (0x3384, "ka"), (0x3385, "kb"), (0x3386, "mb"), (0x3387, "gb"),
  (0x3388, "cal"), (0x3389, "kcal"), (0x338a, "pf"), (0x338b, "nf"), (0x338c, "\u03bcf"),
  (0x338d, "\u03bcg"), (0x338e, "mg"), (0x338f, "kg"), (0x3390, "hz"), (0x3391, "khz"),
  (0x3392, "mhz"), (0x3393, "ghz"), (0x3394, "thz"), (0x3395, "\u03bcl"), (0x3396, "ml"),
  (0x3397, "dl"), (0x3398, "kl"), (0x3399, "fm"), (0x339a, "nm"), (0x339b, "\u03bcm"),
  (0x339c, "mm"), (0x339d, "cm"), (0x339e, "km"), (0x339f, "mm2"), (0x33a0, "cm2"),
  (0x33a1, "m2"), (0x33a2, "km2"), (0x33a3, "mm3"), (0x33a4, "cm3"), (0x33a5, "m3"),
  (0x33a6, "km3"), (0x33a7, "m\u2215s"), (0x33a8, "m\u2215s2"), (0x33a9, "pa"), (0x33aa, "kpa"),
  (0x33ab, "mpa"), (0x33ac, "gpa"), (0x33ad, "rad"), (0x33ae, "rad\u2215s"),
  (0x33af, "rad\u2215s2"), (0x33b0, "ps"), (0x33b1, "ns"), (0x33b2, "\u03bcs"), (0x33b3, "ms"),
  (0x33b4, "pv"), (0x33b5, "nv"), (0x33b6, "\u03bcv"), (0x33b7, "mv"), (0x33b8, "kv"),
  (0x33b9, "mv"), (0x33ba, "pw"), (0x33bb, "nw"), (0x33bc, "\u03bcw"), (0x33bd, "mw"),
  (0x33be, "kw"), (0x33bf, "mw"), (0x33c0, "k\u03c9"), (0x33c1, "m\u03c9"), (0x33c3, "bq"),
  (0x33c4, "cc"), (0x33c5, "cd"), (0x33c6, "c\u2215kg"), (0x33c8, "db"), (0x33c9, "gy"),
  (0x33ca, "ha"), (0x33cb, "hp"), (0x33cc, "in"), (0x33cd, "kk"), (0x33ce, "km"), (0x33cf, "kt"),
  (0x33d0, "lm"), (0x33d1, "ln"), (0x33d2, "log"), (0x33d3, "lx"), (0x33d4, "mb"),
  (0x33d5, "mil"), (0x33d6, "mol"), (0x33d7, "ph"), (0x33d9, "ppm"), (0x33da, "pr"),
  (0x33db, "sr"), (0x33dc, "sv"), (0x33dd, "wb"), (0x33de, "v\u2215m"), (0x33df, "a\u2215m"),
  (0x33e0, "1\u65e5"), (0x33e1, "2\u65e5"), (0x33e2, "3\u65e5"), (0x33e3, "4\u65e5"),
  (0x33e4, "5\u65e5"), (0x33e5, "6\u65e5"), (0x33e6, "7\u65e5"), (0x33e7, "8\u65e5"),
  (0x33e8, "9\u65e5"), (0x33e9, "10\u65e5"), (0x33ea, "11\u65e5"), (0x33eb, "12\u65e5"),
  (0x33ec, "13\u65e5"), (0x33ed, "14\u65e5"), (0x33ee, "15\u65e5"), (0x33ef, "16\u65e5"),
  (0x33f0, "17\u65e5"), (0x33f1, "18\u65e5"), (0x33f2, "19\u65e5"), (0x33f3, "20\u65e5"),
  (0x33f4, "21\u65e5"), (0x33f5, "22\u65e5"), (0x33f6, "23\u65e5"), (0x33f7, "24\u65e5"),
  (0x33f8, "25\u65e5"), (0x33f9, "26\u65e5"), (0x33fa, "27\u65e5"), (0x33fb, "28\u65e5"),
  (0x33fc, "29\u65e5"), (0x33fd, "30\u65e5"), (0x33fe, "31\u65e5"), (0x33ff, "gal"),
  (0xfb00, "ff"), (0xfb01, "fi"), (0xfb02, "fl"), (0xfb03, "ffi"), (0xfb04, "ffl"),
  (0xfb05, "st"), (0xfb06, "st"), (0xfc5e, " \u064c\u0651"), (0xfc5f, " \u064d\u0651"),
  (0xfc60, " \u064e\u0651"), (0xfc61, " \u064f\u0651"), (0xfc62, " \u0650\u0651"),
  (0xfc63, " \u0651\u0670"),
  (0xfdfa, "\u0635\u0644\u0649 \u0627\u0644\u0644\u0647 \u0639\u0644\u064a\u0647 \u0648\u0633\u0644\u0645"),
  (0xfdfb, "\u062c\u0644 \u062c\u0644\u0627\u0644\u0647"), (0xfe49, " \u0305"),
  (0xfe4a, " \u0305"), (0xfe4b, " \u0305"), (0xfe4c, " \u0305"), (0xfe70, " \u064b"),
  (0xfe72, " \u064c"), (0xfe74, " \u064d"), (0xfe76, " \u064e"), (0xfe78, " \u064f"),
  (0xfe7a, " \u0650"), (0xfe7c, " \u0651"), (0xfe7e, " \u0652"), (0xff9e, "\u3099"),
  (0xff9f, "\u309a"), (0xffe3, " \u0304"), (0x1f101, "0,"), (0x1f102, "1,"), (0x1f103, "2,"),
  (0x1f104, "3,"), (0x1f105, "4,"), (0x1f106, "5,"), (0x1f107, "6,"), (0x1f108, "7,"),
  (0x1f109, "8,"), (0x1f10a, "9,"), (0x1f110, "(a)"), (0x1f111, "(b)"), (0x1f112, "(c)"),
  (0x1f113, "(d)"), (0x1f114, "(e)"), (0x1f115, "(f)"), (0x1f116, "(g)"), (0x1f117, "(h)"),
  (0x1f118, "(i)"), (0x1f119, "(j)"), (0x1f11a, "(k)"), (0x1f11b, "(l)"), (0x1f11c, "(m)"),
  (0x1f11d, "(n)"), (0x1f11e, "(o)"), (0x1f11f, "(p)"), (0x1f120, "(q)"), (0x1f121, "(r)"),
  (0x1f122, "(s)"), (0x1f123, "(t)"), (0x1f124, "(u)"), (0x1f125, "(v)"), (0x1f126, "(w)"),
  (0x1f127, "(x)"), (0x1f128, "(y)"), (0x1f129, "(z)"), (0x1f12a, "\u3014s\u3015"),
  (0x1f12d, "cd"), (0x1f12e, "wz"), (0x1f14a, "hv"), (0x1f14b, "mv"), (0x1f14c, "sd"),
  (0x1f14d, "ss"), (0x1f14e, "ppv"), (0x1f14f, "wc"), (0x1f16a, "mc"), (0x1f16b, "md"),
  (0x1f16c, "mr"), (0x1f190, "dj")]

/-- What a character stands for, if it stands for others in which an ASCII character occurs. -/
def image? (c : Char) : Option (List Char) :=
  match asciiRuns.find? fun r => r.first ≤ c.toNat && c.toNat < r.first + r.count with
  | some r => some [Char.ofNat (c.toNat - r.first + r.image)]
  | none => (images.find? fun e => e.1 = c.toNat).map fun e => e.2.toList

end Domain

end Url

end ManifestRegistry
