/-!
# The status of code points in domain names

Each code point from `U+0080` on is valid, mapped, ignored or disallowed by the IDNA compatibility
processing; only mappings whose target holds ASCII are listed, since only they change the shape of
a name.
-/

namespace MeteredPayments.Domain

/-- The code points that may not stand in a domain name. -/
def disallowedRanges : List (Nat × Nat) :=
  [(0x0080, 0x00A0), (0x00A8, 0x00A8), (0x00AF, 0x00AF), (0x00B4, 0x00B4), (0x00B8, 0x00B8),
   (0x02D8, 0x02DD), (0x0378, 0x037A), (0x0380, 0x0385), (0x038B, 0x038B), (0x038D, 0x038D),
   (0x03A2, 0x03A2), (0x04C0, 0x04C0), (0x0530, 0x0530), (0x0557, 0x0558), (0x058B, 0x058C),
   (0x0590, 0x0590), (0x05C8, 0x05CF), (0x05EB, 0x05EE), (0x05F5, 0x0605), (0x061C, 0x061C),
   (0x06DD, 0x06DD), (0x070E, 0x070F), (0x074B, 0x074C), (0x07B2, 0x07BF), (0x07FB, 0x07FC),
   (0x082E, 0x082F), (0x083F, 0x083F), (0x085C, 0x085D), (0x085F, 0x085F), (0x086B, 0x086F),
   (0x088F, 0x0897), (0x08E2, 0x08E2), (0x0984, 0x0984), (0x098D, 0x098E), (0x0991, 0x0992),
   (0x09A9, 0x09A9), (0x09B1, 0x09B1), (0x09B3, 0x09B5), (0x09BA, 0x09BB), (0x09C5, 0x09C6),
   (0x09C9, 0x09CA), (0x09CF, 0x09D6), (0x09D8, 0x09DB), (0x09DE, 0x09DE), (0x09E4, 0x09E5),
   (0x09FF, 0x0A00), (0x0A04, 0x0A04), (0x0A0B, 0x0A0E), (0x0A11, 0x0A12), (0x0A29, 0x0A29),
   (0x0A31, 0x0A31), (0x0A34, 0x0A34), (0x0A37, 0x0A37), (0x0A3A, 0x0A3B), (0x0A3D, 0x0A3D),
   (0x0A43, 0x0A46), (0x0A49, 0x0A4A), (0x0A4E, 0x0A50), (0x0A52, 0x0A58), (0x0A5D, 0x0A5D),
   (0x0A5F, 0x0A65), (0x0A77, 0x0A80), (0x0A84, 0x0A84), (0x0A8E, 0x0A8E), (0x0A92, 0x0A92),
   (0x0AA9, 0x0AA9), (0x0AB1, 0x0AB1), (0x0AB4, 0x0AB4), (0x0ABA, 0x0ABB), (0x0AC6, 0x0AC6),
   (0x0ACA, 0x0ACA), (0x0ACE, 0x0ACF), (0x0AD1, 0x0ADF), (0x0AE4, 0x0AE5), (0x0AF2, 0x0AF8),
   (0x0B00, 0x0B00), (0x0B04, 0x0B04), (0x0B0D, 0x0B0E), (0x0B11, 0x0B12), (0x0B29, 0x0B29),
   (0x0B31, 0x0B31), (0x0B34, 0x0B34), (0x0B3A, 0x0B3B), (0x0B45, 0x0B46), (0x0B49, 0x0B4A),
   (0x0B4E, 0x0B54), (0x0B58, 0x0B5B), (0x0B5E, 0x0B5E), (0x0B64, 0x0B65), (0x0B78, 0x0B81),
   (0x0B84, 0x0B84), (0x0B8B, 0x0B8D), (0x0B91, 0x0B91), (0x0B96, 0x0B98), (0x0B9B, 0x0B9B),
   (0x0B9D, 0x0B9D), (0x0BA0, 0x0BA2), (0x0BA5, 0x0BA7), (0x0BAB, 0x0BAD), (0x0BBA, 0x0BBD),
   (0x0BC3, 0x0BC5), (0x0BC9, 0x0BC9), (0x0BCE, 0x0BCF), (0x0BD1, 0x0BD6), (0x0BD8, 0x0BE5),
   (0x0BFB, 0x0BFF), (0x0C0D, 0x0C0D), (0x0C11, 0x0C11), (0x0C29, 0x0C29), (0x0C3A, 0x0C3B),
   (0x0C45, 0x0C45), (0x0C49, 0x0C49), (0x0C4E, 0x0C54), (0x0C57, 0x0C57), (0x0C5B, 0x0C5C),
   (0x0C5E, 0x0C5F), (0x0C64, 0x0C65), (0x0C70, 0x0C76), (0x0C8D, 0x0C8D), (0x0C91, 0x0C91),
   (0x0CA9, 0x0CA9), (0x0CB4, 0x0CB4), (0x0CBA, 0x0CBB), (0x0CC5, 0x0CC5), (0x0CC9, 0x0CC9),
   (0x0CCE, 0x0CD4), (0x0CD7, 0x0CDC), (0x0CDF, 0x0CDF), (0x0CE4, 0x0CE5), (0x0CF0, 0x0CF0),
   (0x0CF4, 0x0CFF), (0x0D0D, 0x0D0D), (0x0D11, 0x0D11), (0x0D45, 0x0D45), (0x0D49, 0x0D49),
   (0x0D50, 0x0D53), (0x0D64, 0x0D65), (0x0D80, 0x0D80), (0x0D84, 0x0D84), (0x0D97, 0x0D99),
   (0x0DB2, 0x0DB2), (0x0DBC, 0x0DBC), (0x0DBE, 0x0DBF), (0x0DC7, 0x0DC9), (0x0DCB, 0x0DCE),
   (0x0DD5, 0x0DD5), (0x0DD7, 0x0DD7), (0x0DE0, 0x0DE5), (0x0DF0, 0x0DF1), (0x0DF5, 0x0E00),
   (0x0E3B, 0x0E3E), (0x0E5C, 0x0E80), (0x0E83, 0x0E83), (0x0E85, 0x0E85), (0x0E8B, 0x0E8B),
   (0x0EA4, 0x0EA4), (0x0EA6, 0x0EA6), (0x0EBE, 0x0EBF), (0x0EC5, 0x0EC5), (0x0EC7, 0x0EC7),
   (0x0ECF, 0x0ECF), (0x0EDA, 0x0EDB), (0x0EE0, 0x0EFF), (0x0F48, 0x0F48), (0x0F6D, 0x0F70),
   (0x0F98, 0x0F98), (0x0FBD, 0x0FBD), (0x0FCD, 0x0FCD), (0x0FDB, 0x0FFF), (0x10A0, 0x10C6),
   (0x10C8, 0x10CC), (0x10CE, 0x10CF), (0x115F, 0x1160), (0x1249, 0x1249), (0x124E, 0x124F),
   (0x1257, 0x1257), (0x1259, 0x1259), (0x125E, 0x125F), (0x1289, 0x1289), (0x128E, 0x128F),
   (0x12B1, 0x12B1), (0x12B6, 0x12B7), (0x12BF, 0x12BF), (0x12C1, 0x12C1), (0x12C6, 0x12C7),
   (0x12D7, 0x12D7), (0x1311, 0x1311), (0x1316, 0x1317), (0x135B, 0x135C), (0x137D, 0x137F),
   (0x139A, 0x139F), (0x13F6, 0x13F7), (0x13FE, 0x13FF), (0x1680, 0x1680), (0x169D, 0x169F),
   (0x16F9, 0x16FF), (0x1716, 0x171E), (0x1737, 0x173F), (0x1754, 0x175F), (0x176D, 0x176D),
   (0x1771, 0x1771), (0x1774, 0x177F), (0x17B4, 0x17B5), (0x17DE, 0x17DF), (0x17EA, 0x17EF),
   (0x17FA, 0x17FF), (0x1806, 0x1806), (0x180E, 0x180E), (0x181A, 0x181F), (0x1879, 0x187F),
   (0x18AB, 0x18AF), (0x18F6, 0x18FF), (0x191F, 0x191F), (0x192C, 0x192F), (0x193C, 0x193F),
   (0x1941, 0x1943), (0x196E, 0x196F), (0x1975, 0x197F), (0x19AC, 0x19AF), (0x19CA, 0x19CF),
   (0x19DB, 0x19DD), (0x1A1C, 0x1A1D), (0x1A5F, 0x1A5F), (0x1A7D, 0x1A7E), (0x1A8A, 0x1A8F),
   (0x1A9A, 0x1A9F), (0x1AAE, 0x1AAF), (0x1ACF, 0x1AFF), (0x1B4D, 0x1B4F), (0x1B7F, 0x1B7F),
   (0x1BF4, 0x1BFB), (0x1C38, 0x1C3A), (0x1C4A, 0x1C4C), (0x1C89, 0x1C8F), (0x1CBB, 0x1CBC),
   (0x1CC8, 0x1CCF), (0x1CFB, 0x1CFF), (0x1F16, 0x1F17), (0x1F1E, 0x1F1F), (0x1F46, 0x1F47),
   (0x1F4E, 0x1F4F), (0x1F58, 0x1F58), (0x1F5A, 0x1F5A), (0x1F5C, 0x1F5C), (0x1F5E, 0x1F5E),
   (0x1F7E, 0x1F7F), (0x1FB5, 0x1FB5), (0x1FBD, 0x1FBD), (0x1FBF, 0x1FC1), (0x1FC5, 0x1FC5),
   (0x1FCD, 0x1FCF), (0x1FD4, 0x1FD5), (0x1FDC, 0x1FDF), (0x1FED, 0x1FEE), (0x1FF0, 0x1FF1),
   (0x1FF5, 0x1FF5), (0x1FFD, 0x200A), (0x200E, 0x200F), (0x2017, 0x2017), (0x2024, 0x2026),
   (0x2028, 0x202F), (0x203E, 0x203E), (0x2047, 0x2049), (0x205F, 0x205F), (0x2061, 0x2063),
   (0x2065, 0x206F), (0x2072, 0x2073), (0x208F, 0x208F), (0x209D, 0x209F), (0x20C1, 0x20CF),
   (0x20F1, 0x2101), (0x2105, 0x2106), (0x2132, 0x2132), (0x2183, 0x2183), (0x218C, 0x218F),
   (0x2427, 0x243F), (0x244B, 0x245F), (0x2488, 0x249B), (0x2A74, 0x2A74), (0x2B74, 0x2B75),
   (0x2B96, 0x2B96), (0x2CF4, 0x2CF8), (0x2D26, 0x2D26), (0x2D28, 0x2D2C), (0x2D2E, 0x2D2F),
   (0x2D68, 0x2D6E), (0x2D71, 0x2D7E), (0x2D97, 0x2D9F), (0x2DA7, 0x2DA7), (0x2DAF, 0x2DAF),
   (0x2DB7, 0x2DB7), (0x2DBF, 0x2DBF), (0x2DC7, 0x2DC7), (0x2DCF, 0x2DCF), (0x2DD7, 0x2DD7),
   (0x2DDF, 0x2DDF), (0x2E5E, 0x2E7F), (0x2E9A, 0x2E9A), (0x2EF4, 0x2EFF), (0x2FD6, 0x3000),
   (0x3040, 0x3040), (0x3097, 0x3098), (0x309B, 0x309C), (0x3100, 0x3104), (0x3130, 0x3130),
   (0x3164, 0x3164), (0x318F, 0x318F), (0x31E4, 0x31EF), (0x321F, 0x321F), (0x33C2, 0x33C2),
   (0x33C7, 0x33C7), (0x33D8, 0x33D8), (0xA48D, 0xA48F), (0xA4C7, 0xA4CF), (0xA62C, 0xA63F),
   (0xA6F8, 0xA6FF), (0xA7CB, 0xA7CF), (0xA7D2, 0xA7D2), (0xA7D4, 0xA7D4), (0xA7DA, 0xA7F1),
   (0xA82D, 0xA82F), (0xA83A, 0xA83F), (0xA878, 0xA87F), (0xA8C6, 0xA8CD), (0xA8DA, 0xA8DF),
   (0xA954, 0xA95E), (0xA97D, 0xA97F), (0xA9CE, 0xA9CE), (0xA9DA, 0xA9DD), (0xA9FF, 0xA9FF),
   (0xAA37, 0xAA3F), (0xAA4E, 0xAA4F), (0xAA5A, 0xAA5B), (0xAAC3, 0xAADA), (0xAAF7, 0xAB00),
   (0xAB07, 0xAB08), (0xAB0F, 0xAB10), (0xAB17, 0xAB1F), (0xAB27, 0xAB27), (0xAB2F, 0xAB2F),
   (0xAB6C, 0xAB6F), (0xABEE, 0xABEF), (0xABFA, 0xABFF), (0xD7A4, 0xD7AF), (0xD7C7, 0xD7CA),
   (0xD7FC, 0xF8FF), (0xFA6E, 0xFA6F), (0xFADA, 0xFAFF), (0xFB07, 0xFB12), (0xFB18, 0xFB1C),
   (0xFB37, 0xFB37), (0xFB3D, 0xFB3D), (0xFB3F, 0xFB3F), (0xFB42, 0xFB42), (0xFB45, 0xFB45),
   (0xFBC3, 0xFBD2), (0xFC5E, 0xFC63), (0xFD90, 0xFD91), (0xFDC8, 0xFDCE), (0xFDD0, 0xFDEF),
   (0xFDFA, 0xFDFB), (0xFE12, 0xFE13), (0xFE16, 0xFE16), (0xFE19, 0xFE1F), (0xFE30, 0xFE30),
   (0xFE47, 0xFE4C), (0xFE52, 0xFE53), (0xFE55, 0xFE56), (0xFE5F, 0xFE5F), (0xFE64, 0xFE65),
   (0xFE67, 0xFE68), (0xFE6A, 0xFE70), (0xFE72, 0xFE72), (0xFE74, 0xFE76), (0xFE78, 0xFE78),
   (0xFE7A, 0xFE7A), (0xFE7C, 0xFE7C), (0xFE7E, 0xFE7E), (0xFEFD, 0xFEFE), (0xFF00, 0xFF00),
   (0xFF03, 0xFF03), (0xFF05, 0xFF05), (0xFF0F, 0xFF0F), (0xFF1A, 0xFF1A), (0xFF1C, 0xFF1C),
   (0xFF1E, 0xFF20), (0xFF3B, 0xFF3E), (0xFF5C, 0xFF5C), (0xFFA0, 0xFFA0), (0xFFBF, 0xFFC1),
   (0xFFC8, 0xFFC9), (0xFFD0, 0xFFD1), (0xFFD8, 0xFFD9), (0xFFDD, 0xFFDF), (0xFFE3, 0xFFE3),
   (0xFFE7, 0xFFE7), (0xFFEF, 0xFFFF), (0x1000C, 0x1000C), (0x10027, 0x10027), (0x1003B, 0x1003B),
   (0x1003E, 0x1003E), (0x1004E, 0x1004F), (0x1005E, 0x1007F), (0x100FB, 0x100FF),
   (0x10103, 0x10106), (0x10134, 0x10136), (0x1018F, 0x1018F), (0x1019D, 0x1019F),
   (0x101A1, 0x101CF), (0x101FE, 0x1027F), (0x1029D, 0x1029F), (0x102D1, 0x102DF),
   (0x102FC, 0x102FF), (0x10324, 0x1032C), (0x1034B, 0x1034F), (0x1037B, 0x1037F),
   (0x1039E, 0x1039E), (0x103C4, 0x103C7), (0x103D6, 0x103FF), (0x1049E, 0x1049F),
   (0x104AA, 0x104AF), (0x104D4, 0x104D7), (0x104FC, 0x104FF), (0x10528, 0x1052F),
   (0x10564, 0x1056E), (0x1057B, 0x1057B), (0x1058B, 0x1058B), (0x10593, 0x10593),
   (0x10596, 0x10596), (0x105A2, 0x105A2), (0x105B2, 0x105B2), (0x105BA, 0x105BA),
   (0x105BD, 0x105FF), (0x10737, 0x1073F), (0x10756, 0x1075F), (0x10768, 0x1077F),
   (0x10786, 0x10786), (0x107B1, 0x107B1), (0x107BB, 0x107FF), (0x10806, 0x10807),
   (0x10809, 0x10809), (0x10836, 0x10836), (0x10839, 0x1083B), (0x1083D, 0x1083E),
   (0x10856, 0x10856), (0x1089F, 0x108A6), (0x108B0, 0x108DF), (0x108F3, 0x108F3),
   (0x108F6, 0x108FA), (0x1091C, 0x1091E), (0x1093A, 0x1093E), (0x10940, 0x1097F),
   (0x109B8, 0x109BB), (0x109D0, 0x109D1), (0x10A04, 0x10A04), (0x10A07, 0x10A0B),
   (0x10A14, 0x10A14), (0x10A18, 0x10A18), (0x10A36, 0x10A37), (0x10A3B, 0x10A3E),
   (0x10A49, 0x10A4F), (0x10A59, 0x10A5F), (0x10AA0, 0x10ABF), (0x10AE7, 0x10AEA),
   (0x10AF7, 0x10AFF), (0x10B36, 0x10B38), (0x10B56, 0x10B57), (0x10B73, 0x10B77),
   (0x10B92, 0x10B98), (0x10B9D, 0x10BA8), (0x10BB0, 0x10BFF), (0x10C49, 0x10C7F),
   (0x10CB3, 0x10CBF), (0x10CF3, 0x10CF9), (0x10D28, 0x10D2F), (0x10D3A, 0x10E5F),
   (0x10E7F, 0x10E7F), (0x10EAA, 0x10EAA), (0x10EAE, 0x10EAF), (0x10EB2, 0x10EFC),
   (0x10F28, 0x10F2F), (0x10F5A, 0x10F6F), (0x10F8A, 0x10FAF), (0x10FCC, 0x10FDF),
   (0x10FF7, 0x10FFF), (0x1104E, 0x11051), (0x11076, 0x1107E), (0x110BD, 0x110BD),
   (0x110C3, 0x110CF), (0x110E9, 0x110EF), (0x110FA, 0x110FF), (0x11135, 0x11135),
   (0x11148, 0x1114F), (0x11177, 0x1117F), (0x111E0, 0x111E0), (0x111F5, 0x111FF),
   (0x11212, 0x11212), (0x11242, 0x1127F), (0x11287, 0x11287), (0x11289, 0x11289),
   (0x1128E, 0x1128E), (0x1129E, 0x1129E), (0x112AA, 0x112AF), (0x112EB, 0x112EF),
   (0x112FA, 0x112FF), (0x11304, 0x11304), (0x1130D, 0x1130E), (0x11311, 0x11312),
   (0x11329, 0x11329), (0x11331, 0x11331), (0x11334, 0x11334), (0x1133A, 0x1133A),
   (0x11345, 0x11346), (0x11349, 0x1134A), (0x1134E, 0x1134F), (0x11351, 0x11356),
   (0x11358, 0x1135C), (0x11364, 0x11365), (0x1136D, 0x1136F), (0x11375, 0x113FF),
   (0x1145C, 0x1145C), (0x11462, 0x1147F), (0x114C8, 0x114CF), (0x114DA, 0x1157F),
   (0x115B6, 0x115B7), (0x115DE, 0x115FF), (0x11645, 0x1164F), (0x1165A, 0x1165F),
   (0x1166D, 0x1167F), (0x116BA, 0x116BF), (0x116CA, 0x116FF), (0x1171B, 0x1171C),
   (0x1172C, 0x1172F), (0x11747, 0x117FF), (0x1183C, 0x1189F), (0x118F3, 0x118FE),
   (0x11907, 0x11908), (0x1190A, 0x1190B), (0x11914, 0x11914), (0x11917, 0x11917),
   (0x11936, 0x11936), (0x11939, 0x1193A), (0x11947, 0x1194F), (0x1195A, 0x1199F),
   (0x119A8, 0x119A9), (0x119D8, 0x119D9), (0x119E5, 0x119FF), (0x11A48, 0x11A4F),
   (0x11AA3, 0x11AAF), (0x11AF9, 0x11AFF), (0x11B0A, 0x11BFF), (0x11C09, 0x11C09),
   (0x11C37, 0x11C37), (0x11C46, 0x11C4F), (0x11C6D, 0x11C6F), (0x11C90, 0x11C91),
   (0x11CA8, 0x11CA8), (0x11CB7, 0x11CFF), (0x11D07, 0x11D07), (0x11D0A, 0x11D0A),
   (0x11D37, 0x11D39), (0x11D3B, 0x11D3B), (0x11D3E, 0x11D3E), (0x11D48, 0x11D4F),
   (0x11D5A, 0x11D5F), (0x11D66, 0x11D66), (0x11D69, 0x11D69), (0x11D8F, 0x11D8F),
   (0x11D92, 0x11D92), (0x11D99, 0x11D9F), (0x11DAA, 0x11EDF), (0x11EF9, 0x11EFF),
   (0x11F11, 0x11F11), (0x11F3B, 0x11F3D), (0x11F5A, 0x11FAF), (0x11FB1, 0x11FBF),
   (0x11FF2, 0x11FFE), (0x1239A, 0x123FF), (0x1246F, 0x1246F), (0x12475, 0x1247F),
   (0x12544, 0x12F8F), (0x12FF3, 0x12FFF), (0x13430, 0x1343F), (0x13456, 0x143FF),
   (0x14647, 0x167FF), (0x16A39, 0x16A3F), (0x16A5F, 0x16A5F), (0x16A6A, 0x16A6D),
   (0x16ABF, 0x16ABF), (0x16ACA, 0x16ACF), (0x16AEE, 0x16AEF), (0x16AF6, 0x16AFF),
   (0x16B46, 0x16B4F), (0x16B5A, 0x16B5A), (0x16B62, 0x16B62), (0x16B78, 0x16B7C),
   (0x16B90, 0x16E3F), (0x16E9B, 0x16EFF), (0x16F4B, 0x16F4E), (0x16F88, 0x16F8E),
   (0x16FA0, 0x16FDF), (0x16FE5, 0x16FEF), (0x16FF2, 0x16FFF), (0x187F8, 0x187FF),
   (0x18CD6, 0x18CFF), (0x18D09, 0x1AFEF), (0x1AFF4, 0x1AFF4), (0x1AFFC, 0x1AFFC),
   (0x1AFFF, 0x1AFFF), (0x1B123, 0x1B131), (0x1B133, 0x1B14F), (0x1B153, 0x1B154),
   (0x1B156, 0x1B163), (0x1B168, 0x1B16F), (0x1B2FC, 0x1BBFF), (0x1BC6B, 0x1BC6F),
   (0x1BC7D, 0x1BC7F), (0x1BC89, 0x1BC8F), (0x1BC9A, 0x1BC9B), (0x1BCA4, 0x1CEFF),
   (0x1CF2E, 0x1CF2F), (0x1CF47, 0x1CF4F), (0x1CFC4, 0x1CFFF), (0x1D0F6, 0x1D0FF),
   (0x1D127, 0x1D128), (0x1D173, 0x1D17A), (0x1D1EB, 0x1D1FF), (0x1D246, 0x1D2BF),
   (0x1D2D4, 0x1D2DF), (0x1D2F4, 0x1D2FF), (0x1D357, 0x1D35F), (0x1D379, 0x1D3FF),
   (0x1D455, 0x1D455), (0x1D49D, 0x1D49D), (0x1D4A0, 0x1D4A1), (0x1D4A3, 0x1D4A4),
   (0x1D4A7, 0x1D4A8), (0x1D4AD, 0x1D4AD), (0x1D4BA, 0x1D4BA), (0x1D4BC, 0x1D4BC),
   (0x1D4C4, 0x1D4C4), (0x1D506, 0x1D506), (0x1D50B, 0x1D50C), (0x1D515, 0x1D515),
   (0x1D51D, 0x1D51D), (0x1D53A, 0x1D53A), (0x1D53F, 0x1D53F), (0x1D545, 0x1D545),
   (0x1D547, 0x1D549), (0x1D551, 0x1D551), (0x1D6A6, 0x1D6A7), (0x1D7CC, 0x1D7CD),
   (0x1DA8C, 0x1DA9A), (0x1DAA0, 0x1DAA0), (0x1DAB0, 0x1DEFF), (0x1DF1F, 0x1DF24),
   (0x1DF2B, 0x1DFFF), (0x1E007, 0x1E007), (0x1E019, 0x1E01A), (0x1E022, 0x1E022),
   (0x1E025, 0x1E025), (0x1E02B, 0x1E02F), (0x1E06E, 0x1E08E), (0x1E090, 0x1E0FF),
   (0x1E12D, 0x1E12F), (0x1E13E, 0x1E13F), (0x1E14A, 0x1E14D), (0x1E150, 0x1E28F),
   (0x1E2AF, 0x1E2BF), (0x1E2FA, 0x1E2FE), (0x1E300, 0x1E4CF), (0x1E4FA, 0x1E7DF),
   (0x1E7E7, 0x1E7E7), (0x1E7EC, 0x1E7EC), (0x1E7EF, 0x1E7EF), (0x1E7FF, 0x1E7FF),
   (0x1E8C5, 0x1E8C6), (0x1E8D7, 0x1E8FF), (0x1E94C, 0x1E94F), (0x1E95A, 0x1E95D),
   (0x1E960, 0x1EC70), (0x1ECB5, 0x1ED00), (0x1ED3E, 0x1EDFF), (0x1EE04, 0x1EE04),
   (0x1EE20, 0x1EE20), (0x1EE23, 0x1EE23), (0x1EE25, 0x1EE26), (0x1EE28, 0x1EE28),
   (0x1EE33, 0x1EE33), (0x1EE38, 0x1EE38), (0x1EE3A, 0x1EE3A), (0x1EE3C, 0x1EE41),
   (0x1EE43, 0x1EE46), (0x1EE48, 0x1EE48), (0x1EE4A, 0x1EE4A), (0x1EE4C, 0x1EE4C),
   (0x1EE50, 0x1EE50), (0x1EE53, 0x1EE53), (0x1EE55, 0x1EE56), (0x1EE58, 0x1EE58),
   (0x1EE5A, 0x1EE5A), (0x1EE5C, 0x1EE5C), (0x1EE5E, 0x1EE5E), (0x1EE60, 0x1EE60),
   (0x1EE63, 0x1EE63), (0x1EE65, 0x1EE66), (0x1EE6B, 0x1EE6B), (0x1EE73, 0x1EE73),
   (0x1EE78, 0x1EE78), (0x1EE7D, 0x1EE7D), (0x1EE7F, 0x1EE7F), (0x1EE8A, 0x1EE8A),
   (0x1EE9C, 0x1EEA0), (0x1EEA4, 0x1EEA4), (0x1EEAA, 0x1EEAA), (0x1EEBC, 0x1EEEF),
   (0x1EEF2, 0x1EFFF), (0x1F02C, 0x1F02F), (0x1F094, 0x1F09F), (0x1F0AF, 0x1F0B0),
   (0x1F0C0, 0x1F0C0), (0x1F0D0, 0x1F0D0), (0x1F0F6, 0x1F100), (0x1F1AE, 0x1F1E5),
   (0x1F203, 0x1F20F), (0x1F23C, 0x1F23F), (0x1F249, 0x1F24F), (0x1F252, 0x1F25F),
   (0x1F266, 0x1F2FF), (0x1F6D8, 0x1F6DB), (0x1F6ED, 0x1F6EF), (0x1F6FD, 0x1F6FF),
   (0x1F777, 0x1F77A), (0x1F7DA, 0x1F7DF), (0x1F7EC, 0x1F7EF), (0x1F7F1, 0x1F7FF),
   (0x1F80C, 0x1F80F), (0x1F848, 0x1F84F), (0x1F85A, 0x1F85F), (0x1F888, 0x1F88F),
   (0x1F8AE, 0x1F8AF), (0x1F8B2, 0x1F8FF), (0x1FA54, 0x1FA5F), (0x1FA6E, 0x1FA6F),
   (0x1FA7D, 0x1FA7F), (0x1FA89, 0x1FA8F), (0x1FABE, 0x1FABE), (0x1FAC6, 0x1FACD),
   (0x1FADC, 0x1FADF), (0x1FAE9, 0x1FAEF), (0x1FAF9, 0x1FAFF), (0x1FB93, 0x1FB93),
   (0x1FBCB, 0x1FBEF), (0x1FBFA, 0x1FFFF), (0x2A6E0, 0x2A6FF), (0x2B73A, 0x2B73F),
   (0x2B81E, 0x2B81F), (0x2CEA2, 0x2CEAF), (0x2EBE1, 0x2F7FF), (0x2F868, 0x2F868),
   (0x2F874, 0x2F874), (0x2F91F, 0x2F91F), (0x2F95F, 0x2F95F), (0x2F9BF, 0x2F9BF),
   (0x2FA1E, 0x2FFFF), (0x3134B, 0x3134F), (0x323B0, 0xE00FF), (0xE01F0, 0x10FFFF)]

/-- The code points that are dropped from a domain name. -/
def ignoredRanges : List (Nat × Nat) :=
  [(0x00AD, 0x00AD), (0x034F, 0x034F), (0x180B, 0x180D), (0x180F, 0x180F), (0x200B, 0x200B),
   (0x2060, 0x2060), (0x2064, 0x2064), (0xFE00, 0xFE0F), (0xFEFF, 0xFEFF), (0x1BCA0, 0x1BCA3),
   (0xE0100, 0xE01EF)]

/-- The code points below `0x1EEB` that stand as written. -/
def validRangesLow : List (Nat × Nat) :=
  [(0x00A1, 0x00A7), (0x00A9, 0x00A9), (0x00AB, 0x00AC), (0x00AE, 0x00AE), (0x00B0, 0x00B1),
   (0x00B6, 0x00B7), (0x00BB, 0x00BB), (0x00BF, 0x00BF), (0x00D7, 0x00D7), (0x00DF, 0x00FF),
   (0x0101, 0x0101), (0x0103, 0x0103), (0x0105, 0x0105), (0x0107, 0x0107), (0x0109, 0x0109),
   (0x010B, 0x010B), (0x010D, 0x010D), (0x010F, 0x010F), (0x0111, 0x0111), (0x0113, 0x0113),
   (0x0115, 0x0115), (0x0117, 0x0117), (0x0119, 0x0119), (0x011B, 0x011B), (0x011D, 0x011D),
   (0x011F, 0x011F), (0x0121, 0x0121), (0x0123, 0x0123), (0x0125, 0x0125), (0x0127, 0x0127),
   (0x0129, 0x0129), (0x012B, 0x012B), (0x012D, 0x012D), (0x012F, 0x012F), (0x0131, 0x0131),
   (0x0135, 0x0135), (0x0137, 0x0138), (0x013A, 0x013A), (0x013C, 0x013C), (0x013E, 0x013E),
   (0x0142, 0x0142), (0x0144, 0x0144), (0x0146, 0x0146), (0x0148, 0x0148), (0x014B, 0x014B),
   (0x014D, 0x014D), (0x014F, 0x014F), (0x0151, 0x0151), (0x0153, 0x0153), (0x0155, 0x0155),
   (0x0157, 0x0157), (0x0159, 0x0159), (0x015B, 0x015B), (0x015D, 0x015D), (0x015F, 0x015F),
   (0x0161, 0x0161), (0x0163, 0x0163), (0x0165, 0x0165), (0x0167, 0x0167), (0x0169, 0x0169),
   (0x016B, 0x016B), (0x016D, 0x016D), (0x016F, 0x016F), (0x0171, 0x0171), (0x0173, 0x0173),
   (0x0175, 0x0175), (0x0177, 0x0177), (0x017A, 0x017A), (0x017C, 0x017C), (0x017E, 0x017E),
   (0x0180, 0x0180), (0x0183, 0x0183), (0x0185, 0x0185), (0x0188, 0x0188), (0x018C, 0x018D),
   (0x0192, 0x0192), (0x0195, 0x0195), (0x0199, 0x019B), (0x019E, 0x019E), (0x01A1, 0x01A1),
   (0x01A3, 0x01A3), (0x01A5, 0x01A5), (0x01A8, 0x01A8), (0x01AA, 0x01AB), (0x01AD, 0x01AD),
   (0x01B0, 0x01B0), (0x01B4, 0x01B4), (0x01B6, 0x01B6), (0x01B9, 0x01BB), (0x01BD, 0x01C3),
   (0x01CE, 0x01CE), (0x01D0, 0x01D0), (0x01D2, 0x01D2), (0x01D4, 0x01D4), (0x01D6, 0x01D6),
   (0x01D8, 0x01D8), (0x01DA, 0x01DA), (0x01DC, 0x01DD), (0x01DF, 0x01DF), (0x01E1, 0x01E1),
   (0x01E3, 0x01E3), (0x01E5, 0x01E5), (0x01E7, 0x01E7), (0x01E9, 0x01E9), (0x01EB, 0x01EB),
   (0x01ED, 0x01ED), (0x01EF, 0x01F0), (0x01F5, 0x01F5), (0x01F9, 0x01F9), (0x01FB, 0x01FB),
   (0x01FD, 0x01FD), (0x01FF, 0x01FF), (0x0201, 0x0201), (0x0203, 0x0203), (0x0205, 0x0205),
   (0x0207, 0x0207), (0x0209, 0x0209), (0x020B, 0x020B), (0x020D, 0x020D), (0x020F, 0x020F),
   (0x0211, 0x0211), (0x0213, 0x0213), (0x0215, 0x0215), (0x0217, 0x0217), (0x0219, 0x0219),
   (0x021B, 0x021B), (0x021D, 0x021D), (0x021F, 0x021F), (0x0221, 0x0221), (0x0223, 0x0223),
   (0x0225, 0x0225), (0x0227, 0x0227), (0x0229, 0x0229), (0x022B, 0x022B), (0x022D, 0x022D),
   (0x022F, 0x022F), (0x0231, 0x0231), (0x0233, 0x0239), (0x023C, 0x023C), (0x023F, 0x0240),
   (0x0242, 0x0242), (0x0247, 0x0247), (0x0249, 0x0249), (0x024B, 0x024B), (0x024D, 0x024D),
   (0x024F, 0x02AF), (0x02B9, 0x02D7), (0x02DE, 0x02DF), (0x02E5, 0x033F), (0x0342, 0x0342),
   (0x0346, 0x034E), (0x0350, 0x036F), (0x0371, 0x0371), (0x0373, 0x0373), (0x0375, 0x0375),
   (0x0377, 0x0377), (0x037B, 0x037D), (0x0390, 0x0390), (0x03AC, 0x03CE), (0x03D7, 0x03D7),
   (0x03D9, 0x03D9), (0x03DB, 0x03DB), (0x03DD, 0x03DD), (0x03DF, 0x03DF), (0x03E1, 0x03E1),
   (0x03E3, 0x03E3), (0x03E5, 0x03E5), (0x03E7, 0x03E7), (0x03E9, 0x03E9), (0x03EB, 0x03EB),
   (0x03ED, 0x03ED), (0x03EF, 0x03EF), (0x03F3, 0x03F3), (0x03F6, 0x03F6), (0x03F8, 0x03F8),
   (0x03FB, 0x03FC), (0x0430, 0x045F), (0x0461, 0x0461), (0x0463, 0x0463), (0x0465, 0x0465),
   (0x0467, 0x0467), (0x0469, 0x0469), (0x046B, 0x046B), (0x046D, 0x046D), (0x046F, 0x046F),
   (0x0471, 0x0471), (0x0473, 0x0473), (0x0475, 0x0475), (0x0477, 0x0477), (0x0479, 0x0479),
   (0x047B, 0x047B), (0x047D, 0x047D), (0x047F, 0x047F), (0x0481, 0x0489), (0x048B, 0x048B),
   (0x048D, 0x048D), (0x048F, 0x048F), (0x0491, 0x0491), (0x0493, 0x0493), (0x0495, 0x0495),
   (0x0497, 0x0497), (0x0499, 0x0499), (0x049B, 0x049B), (0x049D, 0x049D), (0x049F, 0x049F),
   (0x04A1, 0x04A1), (0x04A3, 0x04A3), (0x04A5, 0x04A5), (0x04A7, 0x04A7), (0x04A9, 0x04A9),
   (0x04AB, 0x04AB), (0x04AD, 0x04AD), (0x04AF, 0x04AF), (0x04B1, 0x04B1), (0x04B3, 0x04B3),
   (0x04B5, 0x04B5), (0x04B7, 0x04B7), (0x04B9, 0x04B9), (0x04BB, 0x04BB), (0x04BD, 0x04BD),
   (0x04BF, 0x04BF), (0x04C2, 0x04C2), (0x04C4, 0x04C4), (0x04C6, 0x04C6), (0x04C8, 0x04C8),
   (0x04CA, 0x04CA), (0x04CC, 0x04CC), (0x04CE, 0x04CF), (0x04D1, 0x04D1), (0x04D3, 0x04D3),
   (0x04D5, 0x04D5), (0x04D7, 0x04D7), (0x04D9, 0x04D9), (0x04DB, 0x04DB), (0x04DD, 0x04DD),
   (0x04DF, 0x04DF), (0x04E1, 0x04E1), (0x04E3, 0x04E3), (0x04E5, 0x04E5), (0x04E7, 0x04E7),
   (0x04E9, 0x04E9), (0x04EB, 0x04EB), (0x04ED, 0x04ED), (0x04EF, 0x04EF), (0x04F1, 0x04F1),
   (0x04F3, 0x04F3), (0x04F5, 0x04F5), (0x04F7, 0x04F7), (0x04F9, 0x04F9), (0x04FB, 0x04FB),
   (0x04FD, 0x04FD), (0x04FF, 0x04FF), (0x0501, 0x0501), (0x0503, 0x0503), (0x0505, 0x0505),
   (0x0507, 0x0507), (0x0509, 0x0509), (0x050B, 0x050B), (0x050D, 0x050D), (0x050F, 0x050F),
   (0x0511, 0x0511), (0x0513, 0x0513), (0x0515, 0x0515), (0x0517, 0x0517), (0x0519, 0x0519),
   (0x051B, 0x051B), (0x051D, 0x051D), (0x051F, 0x051F), (0x0521, 0x0521), (0x0523, 0x0523),
   (0x0525, 0x0525), (0x0527, 0x0527), (0x0529, 0x0529), (0x052B, 0x052B), (0x052D, 0x052D),
   (0x052F, 0x052F), (0x0559, 0x0586), (0x0588, 0x058A), (0x058D, 0x058F), (0x0591, 0x05C7),
   (0x05D0, 0x05EA), (0x05EF, 0x05F4), (0x0606, 0x061B), (0x061D, 0x0674), (0x0679, 0x06DC),
   (0x06DE, 0x070D), (0x0710, 0x074A), (0x074D, 0x07B1), (0x07C0, 0x07FA), (0x07FD, 0x082D),
   (0x0830, 0x083E), (0x0840, 0x085B), (0x085E, 0x085E), (0x0860, 0x086A), (0x0870, 0x088E),
   (0x0898, 0x08E1), (0x08E3, 0x0957), (0x0960, 0x0983), (0x0985, 0x098C), (0x098F, 0x0990),
   (0x0993, 0x09A8), (0x09AA, 0x09B0), (0x09B2, 0x09B2), (0x09B6, 0x09B9), (0x09BC, 0x09C4),
   (0x09C7, 0x09C8), (0x09CB, 0x09CE), (0x09D7, 0x09D7), (0x09E0, 0x09E3), (0x09E6, 0x09FE),
   (0x0A01, 0x0A03), (0x0A05, 0x0A0A), (0x0A0F, 0x0A10), (0x0A13, 0x0A28), (0x0A2A, 0x0A30),
   (0x0A32, 0x0A32), (0x0A35, 0x0A35), (0x0A38, 0x0A39), (0x0A3C, 0x0A3C), (0x0A3E, 0x0A42),
   (0x0A47, 0x0A48), (0x0A4B, 0x0A4D), (0x0A51, 0x0A51), (0x0A5C, 0x0A5C), (0x0A66, 0x0A76),
   (0x0A81, 0x0A83), (0x0A85, 0x0A8D), (0x0A8F, 0x0A91), (0x0A93, 0x0AA8), (0x0AAA, 0x0AB0),
   (0x0AB2, 0x0AB3), (0x0AB5, 0x0AB9), (0x0ABC, 0x0AC5), (0x0AC7, 0x0AC9), (0x0ACB, 0x0ACD),
   (0x0AD0, 0x0AD0), (0x0AE0, 0x0AE3), (0x0AE6, 0x0AF1), (0x0AF9, 0x0AFF), (0x0B01, 0x0B03),
   (0x0B05, 0x0B0C), (0x0B0F, 0x0B10), (0x0B13, 0x0B28), (0x0B2A, 0x0B30), (0x0B32, 0x0B33),
   (0x0B35, 0x0B39), (0x0B3C, 0x0B44), (0x0B47, 0x0B48), (0x0B4B, 0x0B4D), (0x0B55, 0x0B57),
   (0x0B5F, 0x0B63), (0x0B66, 0x0B77), (0x0B82, 0x0B83), (0x0B85, 0x0B8A), (0x0B8E, 0x0B90),
   (0x0B92, 0x0B95), (0x0B99, 0x0B9A), (0x0B9C, 0x0B9C), (0x0B9E, 0x0B9F), (0x0BA3, 0x0BA4),
   (0x0BA8, 0x0BAA), (0x0BAE, 0x0BB9), (0x0BBE, 0x0BC2), (0x0BC6, 0x0BC8), (0x0BCA, 0x0BCD),
   (0x0BD0, 0x0BD0), (0x0BD7, 0x0BD7), (0x0BE6, 0x0BFA), (0x0C00, 0x0C0C), (0x0C0E, 0x0C10),
   (0x0C12, 0x0C28), (0x0C2A, 0x0C39), (0x0C3C, 0x0C44), (0x0C46, 0x0C48), (0x0C4A, 0x0C4D),
   (0x0C55, 0x0C56), (0x0C58, 0x0C5A), (0x0C5D, 0x0C5D), (0x0C60, 0x0C63), (0x0C66, 0x0C6F),
   (0x0C77, 0x0C8C), (0x0C8E, 0x0C90), (0x0C92, 0x0CA8), (0x0CAA, 0x0CB3), (0x0CB5, 0x0CB9),
   (0x0CBC, 0x0CC4), (0x0CC6, 0x0CC8), (0x0CCA, 0x0CCD), (0x0CD5, 0x0CD6), (0x0CDD, 0x0CDE),
   (0x0CE0, 0x0CE3), (0x0CE6, 0x0CEF), (0x0CF1, 0x0CF3), (0x0D00, 0x0D0C), (0x0D0E, 0x0D10),
   (0x0D12, 0x0D44), (0x0D46, 0x0D48), (0x0D4A, 0x0D4F), (0x0D54, 0x0D63), (0x0D66, 0x0D7F),
   (0x0D81, 0x0D83), (0x0D85, 0x0D96), (0x0D9A, 0x0DB1), (0x0DB3, 0x0DBB), (0x0DBD, 0x0DBD),
   (0x0DC0, 0x0DC6), (0x0DCA, 0x0DCA), (0x0DCF, 0x0DD4), (0x0DD6, 0x0DD6), (0x0DD8, 0x0DDF),
   (0x0DE6, 0x0DEF), (0x0DF2, 0x0DF4), (0x0E01, 0x0E32), (0x0E34, 0x0E3A), (0x0E3F, 0x0E5B),
   (0x0E81, 0x0E82), (0x0E84, 0x0E84), (0x0E86, 0x0E8A), (0x0E8C, 0x0EA3), (0x0EA5, 0x0EA5),
   (0x0EA7, 0x0EB2), (0x0EB4, 0x0EBD), (0x0EC0, 0x0EC4), (0x0EC6, 0x0EC6), (0x0EC8, 0x0ECE),
   (0x0ED0, 0x0ED9), (0x0EDE, 0x0EDF), (0x0F00, 0x0F0B), (0x0F0D, 0x0F42), (0x0F44, 0x0F47),
   (0x0F49, 0x0F4C), (0x0F4E, 0x0F51), (0x0F53, 0x0F56), (0x0F58, 0x0F5B), (0x0F5D, 0x0F68),
   (0x0F6A, 0x0F6C), (0x0F71, 0x0F72), (0x0F74, 0x0F74), (0x0F7A, 0x0F80), (0x0F82, 0x0F92),
   (0x0F94, 0x0F97), (0x0F99, 0x0F9C), (0x0F9E, 0x0FA1), (0x0FA3, 0x0FA6), (0x0FA8, 0x0FAB),
   (0x0FAD, 0x0FB8), (0x0FBA, 0x0FBC), (0x0FBE, 0x0FCC), (0x0FCE, 0x0FDA), (0x1000, 0x109F),
   (0x10D0, 0x10FB), (0x10FD, 0x115E), (0x1161, 0x1248), (0x124A, 0x124D), (0x1250, 0x1256),
   (0x1258, 0x1258), (0x125A, 0x125D), (0x1260, 0x1288), (0x128A, 0x128D), (0x1290, 0x12B0),
   (0x12B2, 0x12B5), (0x12B8, 0x12BE), (0x12C0, 0x12C0), (0x12C2, 0x12C5), (0x12C8, 0x12D6),
   (0x12D8, 0x1310), (0x1312, 0x1315), (0x1318, 0x135A), (0x135D, 0x137C), (0x1380, 0x1399),
   (0x13A0, 0x13F5), (0x1400, 0x167F), (0x1681, 0x169C), (0x16A0, 0x16F8), (0x1700, 0x1715),
   (0x171F, 0x1736), (0x1740, 0x1753), (0x1760, 0x176C), (0x176E, 0x1770), (0x1772, 0x1773),
   (0x1780, 0x17B3), (0x17B6, 0x17DD), (0x17E0, 0x17E9), (0x17F0, 0x17F9), (0x1800, 0x1805),
   (0x1807, 0x180A), (0x1810, 0x1819), (0x1820, 0x1878), (0x1880, 0x18AA), (0x18B0, 0x18F5),
   (0x1900, 0x191E), (0x1920, 0x192B), (0x1930, 0x193B), (0x1940, 0x1940), (0x1944, 0x196D),
   (0x1970, 0x1974), (0x1980, 0x19AB), (0x19B0, 0x19C9), (0x19D0, 0x19DA), (0x19DE, 0x1A1B),
   (0x1A1E, 0x1A5E), (0x1A60, 0x1A7C), (0x1A7F, 0x1A89), (0x1A90, 0x1A99), (0x1AA0, 0x1AAD),
   (0x1AB0, 0x1ACE), (0x1B00, 0x1B4C), (0x1B50, 0x1B7E), (0x1B80, 0x1BF3), (0x1BFC, 0x1C37),
   (0x1C3B, 0x1C49), (0x1C4D, 0x1C7F), (0x1CC0, 0x1CC7), (0x1CD0, 0x1CFA), (0x1D00, 0x1D2B),
   (0x1D2F, 0x1D2F), (0x1D3B, 0x1D3B), (0x1D4E, 0x1D4E), (0x1D6B, 0x1D77), (0x1D79, 0x1D9A),
   (0x1DC0, 0x1DFF), (0x1E01, 0x1E01), (0x1E03, 0x1E03), (0x1E05, 0x1E05), (0x1E07, 0x1E07),
   (0x1E09, 0x1E09), (0x1E0B, 0x1E0B), (0x1E0D, 0x1E0D), (0x1E0F, 0x1E0F), (0x1E11, 0x1E11),
   (0x1E13, 0x1E13), (0x1E15, 0x1E15), (0x1E17, 0x1E17), (0x1E19, 0x1E19), (0x1E1B, 0x1E1B),
   (0x1E1D, 0x1E1D), (0x1E1F, 0x1E1F), (0x1E21, 0x1E21), (0x1E23, 0x1E23), (0x1E25, 0x1E25),
   (0x1E27, 0x1E27), (0x1E29, 0x1E29), (0x1E2B, 0x1E2B), (0x1E2D, 0x1E2D), (0x1E2F, 0x1E2F),
   (0x1E31, 0x1E31), (0x1E33, 0x1E33), (0x1E35, 0x1E35), (0x1E37, 0x1E37), (0x1E39, 0x1E39),
   (0x1E3B, 0x1E3B), (0x1E3D, 0x1E3D), (0x1E3F, 0x1E3F), (0x1E41, 0x1E41), (0x1E43, 0x1E43),
   (0x1E45, 0x1E45), (0x1E47, 0x1E47), (0x1E49, 0x1E49), (0x1E4B, 0x1E4B), (0x1E4D, 0x1E4D),
   (0x1E4F, 0x1E4F), (0x1E51, 0x1E51), (0x1E53, 0x1E53), (0x1E55, 0x1E55), (0x1E57, 0x1E57),
   (0x1E59, 0x1E59), (0x1E5B, 0x1E5B), (0x1E5D, 0x1E5D), (0x1E5F, 0x1E5F), (0x1E61, 0x1E61),
   (0x1E63, 0x1E63), (0x1E65, 0x1E65), (0x1E67, 0x1E67), (0x1E69, 0x1E69), (0x1E6B, 0x1E6B),
   (0x1E6D, 0x1E6D), (0x1E6F, 0x1E6F), (0x1E71, 0x1E71), (0x1E73, 0x1E73), (0x1E75, 0x1E75),
   (0x1E77, 0x1E77), (0x1E79, 0x1E79), (0x1E7B, 0x1E7B), (0x1E7D, 0x1E7D), (0x1E7F, 0x1E7F),
   (0x1E81, 0x1E81), (0x1E83, 0x1E83), (0x1E85, 0x1E85), (0x1E87, 0x1E87), (0x1E89, 0x1E89),
   (0x1E8B, 0x1E8B), (0x1E8D, 0x1E8D), (0x1E8F, 0x1E8F), (0x1E91, 0x1E91), (0x1E93, 0x1E93),
   (0x1E95, 0x1E99), (0x1E9C, 0x1E9D), (0x1E9F, 0x1E9F), (0x1EA1, 0x1EA1), (0x1EA3, 0x1EA3),
   (0x1EA5, 0x1EA5), (0x1EA7, 0x1EA7), (0x1EA9, 0x1EA9), (0x1EAB, 0x1EAB), (0x1EAD, 0x1EAD),
   (0x1EAF, 0x1EAF), (0x1EB1, 0x1EB1), (0x1EB3, 0x1EB3), (0x1EB5, 0x1EB5), (0x1EB7, 0x1EB7),
   (0x1EB9, 0x1EB9), (0x1EBB, 0x1EBB), (0x1EBD, 0x1EBD), (0x1EBF, 0x1EBF), (0x1EC1, 0x1EC1),
   (0x1EC3, 0x1EC3), (0x1EC5, 0x1EC5), (0x1EC7, 0x1EC7), (0x1EC9, 0x1EC9), (0x1ECB, 0x1ECB),
   (0x1ECD, 0x1ECD), (0x1ECF, 0x1ECF), (0x1ED1, 0x1ED1), (0x1ED3, 0x1ED3), (0x1ED5, 0x1ED5),
   (0x1ED7, 0x1ED7), (0x1ED9, 0x1ED9), (0x1EDB, 0x1EDB), (0x1EDD, 0x1EDD), (0x1EDF, 0x1EDF),
   (0x1EE1, 0x1EE1), (0x1EE3, 0x1EE3), (0x1EE5, 0x1EE5), (0x1EE7, 0x1EE7), (0x1EE9, 0x1EE9)]

/-- The code points from `0x1EEB` on that stand as written. -/
def validRangesHigh : List (Nat × Nat) :=
  [(0x1EEB, 0x1EEB), (0x1EED, 0x1EED), (0x1EEF, 0x1EEF), (0x1EF1, 0x1EF1), (0x1EF3, 0x1EF3),
   (0x1EF5, 0x1EF5), (0x1EF7, 0x1EF7), (0x1EF9, 0x1EF9), (0x1EFB, 0x1EFB), (0x1EFD, 0x1EFD),
   (0x1EFF, 0x1F07), (0x1F10, 0x1F15), (0x1F20, 0x1F27), (0x1F30, 0x1F37), (0x1F40, 0x1F45),
   (0x1F50, 0x1F57), (0x1F60, 0x1F67), (0x1F70, 0x1F70), (0x1F72, 0x1F72), (0x1F74, 0x1F74),
   (0x1F76, 0x1F76), (0x1F78, 0x1F78), (0x1F7A, 0x1F7A), (0x1F7C, 0x1F7C), (0x1FB0, 0x1FB1),
   (0x1FB6, 0x1FB6), (0x1FC6, 0x1FC6), (0x1FD0, 0x1FD2), (0x1FD6, 0x1FD7), (0x1FE0, 0x1FE2),
   (0x1FE4, 0x1FE7), (0x1FF6, 0x1FF6), (0x200C, 0x200D), (0x2010, 0x2010), (0x2012, 0x2016),
   (0x2018, 0x2023), (0x2027, 0x2027), (0x2030, 0x2032), (0x2035, 0x2035), (0x2038, 0x203B),
   (0x203D, 0x203D), (0x203F, 0x2046), (0x204A, 0x2056), (0x2058, 0x205E), (0x20A0, 0x20A7),
   (0x20A9, 0x20C0), (0x20D0, 0x20F0), (0x2104, 0x2104), (0x2108, 0x2108), (0x2114, 0x2114),
   (0x2117, 0x2118), (0x211E, 0x211F), (0x2123, 0x2123), (0x2125, 0x2125), (0x2127, 0x2127),
   (0x2129, 0x2129), (0x212E, 0x212E), (0x213A, 0x213A), (0x2141, 0x2144), (0x214A, 0x214F),
   (0x2180, 0x2182), (0x2184, 0x2188), (0x218A, 0x218B), (0x2190, 0x222B), (0x222E, 0x222E),
   (0x2231, 0x2328), (0x232B, 0x2426), (0x2440, 0x244A), (0x24EB, 0x2A0B), (0x2A0D, 0x2A73),
   (0x2A77, 0x2ADB), (0x2ADD, 0x2B73), (0x2B76, 0x2B95), (0x2B97, 0x2BFF), (0x2C30, 0x2C5F),
   (0x2C61, 0x2C61), (0x2C65, 0x2C66), (0x2C68, 0x2C68), (0x2C6A, 0x2C6A), (0x2C6C, 0x2C6C),
   (0x2C71, 0x2C71), (0x2C73, 0x2C74), (0x2C76, 0x2C7B), (0x2C81, 0x2C81), (0x2C83, 0x2C83),
   (0x2C85, 0x2C85), (0x2C87, 0x2C87), (0x2C89, 0x2C89), (0x2C8B, 0x2C8B), (0x2C8D, 0x2C8D),
   (0x2C8F, 0x2C8F), (0x2C91, 0x2C91), (0x2C93, 0x2C93), (0x2C95, 0x2C95), (0x2C97, 0x2C97),
   (0x2C99, 0x2C99), (0x2C9B, 0x2C9B), (0x2C9D, 0x2C9D), (0x2C9F, 0x2C9F), (0x2CA1, 0x2CA1),
   (0x2CA3, 0x2CA3), (0x2CA5, 0x2CA5), (0x2CA7, 0x2CA7), (0x2CA9, 0x2CA9), (0x2CAB, 0x2CAB),
   (0x2CAD, 0x2CAD), (0x2CAF, 0x2CAF), (0x2CB1, 0x2CB1), (0x2CB3, 0x2CB3), (0x2CB5, 0x2CB5),
   (0x2CB7, 0x2CB7), (0x2CB9, 0x2CB9), (0x2CBB, 0x2CBB), (0x2CBD, 0x2CBD), (0x2CBF, 0x2CBF),
   (0x2CC1, 0x2CC1), (0x2CC3, 0x2CC3), (0x2CC5, 0x2CC5), (0x2CC7, 0x2CC7), (0x2CC9, 0x2CC9),
   (0x2CCB, 0x2CCB), (0x2CCD, 0x2CCD), (0x2CCF, 0x2CCF), (0x2CD1, 0x2CD1), (0x2CD3, 0x2CD3),
   (0x2CD5, 0x2CD5), (0x2CD7, 0x2CD7), (0x2CD9, 0x2CD9), (0x2CDB, 0x2CDB), (0x2CDD, 0x2CDD),
   (0x2CDF, 0x2CDF), (0x2CE1, 0x2CE1), (0x2CE3, 0x2CEA), (0x2CEC, 0x2CEC), (0x2CEE, 0x2CF1),
   (0x2CF3, 0x2CF3), (0x2CF9, 0x2D25), (0x2D27, 0x2D27), (0x2D2D, 0x2D2D), (0x2D30, 0x2D67),
   (0x2D70, 0x2D70), (0x2D7F, 0x2D96), (0x2DA0, 0x2DA6), (0x2DA8, 0x2DAE), (0x2DB0, 0x2DB6),
   (0x2DB8, 0x2DBE), (0x2DC0, 0x2DC6), (0x2DC8, 0x2DCE), (0x2DD0, 0x2DD6), (0x2DD8, 0x2DDE),
   (0x2DE0, 0x2E5D), (0x2E80, 0x2E99), (0x2E9B, 0x2E9E), (0x2EA0, 0x2EF2), (0x3001, 0x3001),
   (0x3003, 0x3035), (0x3037, 0x3037), (0x303B, 0x303F), (0x3041, 0x3096), (0x3099, 0x309A),
   (0x309D, 0x309E), (0x30A0, 0x30FE), (0x3105, 0x312F), (0x3190, 0x3191), (0x31A0, 0x31E3),
   (0x31F0, 0x31FF), (0x3248, 0x324F), (0x327F, 0x327F), (0x3400, 0xA48C), (0xA490, 0xA4C6),
   (0xA4D0, 0xA62B), (0xA641, 0xA641), (0xA643, 0xA643), (0xA645, 0xA645), (0xA647, 0xA647),
   (0xA649, 0xA649), (0xA64B, 0xA64B), (0xA64D, 0xA64D), (0xA64F, 0xA64F), (0xA651, 0xA651),
   (0xA653, 0xA653), (0xA655, 0xA655), (0xA657, 0xA657), (0xA659, 0xA659), (0xA65B, 0xA65B),
   (0xA65D, 0xA65D), (0xA65F, 0xA65F), (0xA661, 0xA661), (0xA663, 0xA663), (0xA665, 0xA665),
   (0xA667, 0xA667), (0xA669, 0xA669), (0xA66B, 0xA66B), (0xA66D, 0xA67F), (0xA681, 0xA681),
   (0xA683, 0xA683), (0xA685, 0xA685), (0xA687, 0xA687), (0xA689, 0xA689), (0xA68B, 0xA68B),
   (0xA68D, 0xA68D), (0xA68F, 0xA68F), (0xA691, 0xA691), (0xA693, 0xA693), (0xA695, 0xA695),
   (0xA697, 0xA697), (0xA699, 0xA699), (0xA69B, 0xA69B), (0xA69E, 0xA6F7), (0xA700, 0xA721),
   (0xA723, 0xA723), (0xA725, 0xA725), (0xA727, 0xA727), (0xA729, 0xA729), (0xA72B, 0xA72B),
   (0xA72D, 0xA72D), (0xA72F, 0xA731), (0xA733, 0xA733), (0xA735, 0xA735), (0xA737, 0xA737),
   (0xA739, 0xA739), (0xA73B, 0xA73B), (0xA73D, 0xA73D), (0xA73F, 0xA73F), (0xA741, 0xA741),
   (0xA743, 0xA743), (0xA745, 0xA745), (0xA747, 0xA747), (0xA749, 0xA749), (0xA74B, 0xA74B),
   (0xA74D, 0xA74D), (0xA74F, 0xA74F), (0xA751, 0xA751), (0xA753, 0xA753), (0xA755, 0xA755),
   (0xA757, 0xA757), (0xA759, 0xA759), (0xA75B, 0xA75B), (0xA75D, 0xA75D), (0xA75F, 0xA75F),
   (0xA761, 0xA761), (0xA763, 0xA763), (0xA765, 0xA765), (0xA767, 0xA767), (0xA769, 0xA769),
   (0xA76B, 0xA76B), (0xA76D, 0xA76D), (0xA76F, 0xA76F), (0xA771, 0xA778), (0xA77A, 0xA77A),
   (0xA77C, 0xA77C), (0xA77F, 0xA77F), (0xA781, 0xA781), (0xA783, 0xA783), (0xA785, 0xA785),
   (0xA787, 0xA78A), (0xA78C, 0xA78C), (0xA78E, 0xA78F), (0xA791, 0xA791), (0xA793, 0xA795),
   (0xA797, 0xA797), (0xA799, 0xA799), (0xA79B, 0xA79B), (0xA79D, 0xA79D), (0xA79F, 0xA79F),
   (0xA7A1, 0xA7A1), (0xA7A3, 0xA7A3), (0xA7A5, 0xA7A5), (0xA7A7, 0xA7A7), (0xA7A9, 0xA7A9),
   (0xA7AF, 0xA7AF), (0xA7B5, 0xA7B5), (0xA7B7, 0xA7B7), (0xA7B9, 0xA7B9), (0xA7BB, 0xA7BB),
   (0xA7BD, 0xA7BD), (0xA7BF, 0xA7BF), (0xA7C1, 0xA7C1), (0xA7C3, 0xA7C3), (0xA7C8, 0xA7C8),
   (0xA7CA, 0xA7CA), (0xA7D1, 0xA7D1), (0xA7D3, 0xA7D3), (0xA7D5, 0xA7D5), (0xA7D7, 0xA7D7),
   (0xA7D9, 0xA7D9), (0xA7F6, 0xA7F7), (0xA7FA, 0xA82C), (0xA830, 0xA839), (0xA840, 0xA877),
   (0xA880, 0xA8C5), (0xA8CE, 0xA8D9), (0xA8E0, 0xA953), (0xA95F, 0xA97C), (0xA980, 0xA9CD),
   (0xA9CF, 0xA9D9), (0xA9DE, 0xA9FE), (0xAA00, 0xAA36), (0xAA40, 0xAA4D), (0xAA50, 0xAA59),
   (0xAA5C, 0xAAC2), (0xAADB, 0xAAF6), (0xAB01, 0xAB06), (0xAB09, 0xAB0E), (0xAB11, 0xAB16),
   (0xAB20, 0xAB26), (0xAB28, 0xAB2E), (0xAB30, 0xAB5B), (0xAB60, 0xAB68), (0xAB6A, 0xAB6B),
   (0xABC0, 0xABED), (0xABF0, 0xABF9), (0xAC00, 0xD7A3), (0xD7B0, 0xD7C6), (0xD7CB, 0xD7FB),
   (0xFA0E, 0xFA0F), (0xFA11, 0xFA11), (0xFA13, 0xFA14), (0xFA1F, 0xFA1F), (0xFA21, 0xFA21),
   (0xFA23, 0xFA24), (0xFA27, 0xFA29), (0xFB1E, 0xFB1E), (0xFBB2, 0xFBC2), (0xFD3E, 0xFD4F),
   (0xFDCF, 0xFDCF), (0xFDFD, 0xFDFF), (0xFE20, 0xFE2F), (0xFE45, 0xFE46), (0xFE73, 0xFE73),
   (0x10000, 0x1000B), (0x1000D, 0x10026), (0x10028, 0x1003A), (0x1003C, 0x1003D),
   (0x1003F, 0x1004D), (0x10050, 0x1005D), (0x10080, 0x100FA), (0x10100, 0x10102),
   (0x10107, 0x10133), (0x10137, 0x1018E), (0x10190, 0x1019C), (0x101A0, 0x101A0),
   (0x101D0, 0x101FD), (0x10280, 0x1029C), (0x102A0, 0x102D0), (0x102E0, 0x102FB),
   (0x10300, 0x10323), (0x1032D, 0x1034A), (0x10350, 0x1037A), (0x10380, 0x1039D),
   (0x1039F, 0x103C3), (0x103C8, 0x103D5), (0x10428, 0x1049D), (0x104A0, 0x104A9),
   (0x104D8, 0x104FB), (0x10500, 0x10527), (0x10530, 0x10563), (0x1056F, 0x1056F),
   (0x10597, 0x105A1), (0x105A3, 0x105B1), (0x105B3, 0x105B9), (0x105BB, 0x105BC),
   (0x10600, 0x10736), (0x10740, 0x10755), (0x10760, 0x10767), (0x10780, 0x10780),
   (0x10800, 0x10805), (0x10808, 0x10808), (0x1080A, 0x10835), (0x10837, 0x10838),
   (0x1083C, 0x1083C), (0x1083F, 0x10855), (0x10857, 0x1089E), (0x108A7, 0x108AF),
   (0x108E0, 0x108F2), (0x108F4, 0x108F5), (0x108FB, 0x1091B), (0x1091F, 0x10939),
   (0x1093F, 0x1093F), (0x10980, 0x109B7), (0x109BC, 0x109CF), (0x109D2, 0x10A03),
   (0x10A05, 0x10A06), (0x10A0C, 0x10A13), (0x10A15, 0x10A17), (0x10A19, 0x10A35),
   (0x10A38, 0x10A3A), (0x10A3F, 0x10A48), (0x10A50, 0x10A58), (0x10A60, 0x10A9F),
   (0x10AC0, 0x10AE6), (0x10AEB, 0x10AF6), (0x10B00, 0x10B35), (0x10B39, 0x10B55),
   (0x10B58, 0x10B72), (0x10B78, 0x10B91), (0x10B99, 0x10B9C), (0x10BA9, 0x10BAF),
   (0x10C00, 0x10C48), (0x10CC0, 0x10CF2), (0x10CFA, 0x10D27), (0x10D30, 0x10D39),
   (0x10E60, 0x10E7E), (0x10E80, 0x10EA9), (0x10EAB, 0x10EAD), (0x10EB0, 0x10EB1),
   (0x10EFD, 0x10F27), (0x10F30, 0x10F59), (0x10F70, 0x10F89), (0x10FB0, 0x10FCB),
   (0x10FE0, 0x10FF6), (0x11000, 0x1104D), (0x11052, 0x11075), (0x1107F, 0x110BC),
   (0x110BE, 0x110C2), (0x110D0, 0x110E8), (0x110F0, 0x110F9), (0x11100, 0x11134),
   (0x11136, 0x11147), (0x11150, 0x11176), (0x11180, 0x111DF), (0x111E1, 0x111F4),
   (0x11200, 0x11211), (0x11213, 0x11241), (0x11280, 0x11286), (0x11288, 0x11288),
   (0x1128A, 0x1128D), (0x1128F, 0x1129D), (0x1129F, 0x112A9), (0x112B0, 0x112EA),
   (0x112F0, 0x112F9), (0x11300, 0x11303), (0x11305, 0x1130C), (0x1130F, 0x11310),
   (0x11313, 0x11328), (0x1132A, 0x11330), (0x11332, 0x11333), (0x11335, 0x11339),
   (0x1133B, 0x11344), (0x11347, 0x11348), (0x1134B, 0x1134D), (0x11350, 0x11350),
   (0x11357, 0x11357), (0x1135D, 0x11363), (0x11366, 0x1136C), (0x11370, 0x11374),
   (0x11400, 0x1145B), (0x1145D, 0x11461), (0x11480, 0x114C7), (0x114D0, 0x114D9),
   (0x11580, 0x115B5), (0x115B8, 0x115DD), (0x11600, 0x11644), (0x11650, 0x11659),
   (0x11660, 0x1166C), (0x11680, 0x116B9), (0x116C0, 0x116C9), (0x11700, 0x1171A),
   (0x1171D, 0x1172B), (0x11730, 0x11746), (0x11800, 0x1183B), (0x118C0, 0x118F2),
   (0x118FF, 0x11906), (0x11909, 0x11909), (0x1190C, 0x11913), (0x11915, 0x11916),
   (0x11918, 0x11935), (0x11937, 0x11938), (0x1193B, 0x11946), (0x11950, 0x11959),
   (0x119A0, 0x119A7), (0x119AA, 0x119D7), (0x119DA, 0x119E4), (0x11A00, 0x11A47),
   (0x11A50, 0x11AA2), (0x11AB0, 0x11AF8), (0x11B00, 0x11B09), (0x11C00, 0x11C08),
   (0x11C0A, 0x11C36), (0x11C38, 0x11C45), (0x11C50, 0x11C6C), (0x11C70, 0x11C8F),
   (0x11C92, 0x11CA7), (0x11CA9, 0x11CB6), (0x11D00, 0x11D06), (0x11D08, 0x11D09),
   (0x11D0B, 0x11D36), (0x11D3A, 0x11D3A), (0x11D3C, 0x11D3D), (0x11D3F, 0x11D47),
   (0x11D50, 0x11D59), (0x11D60, 0x11D65), (0x11D67, 0x11D68), (0x11D6A, 0x11D8E),
   (0x11D90, 0x11D91), (0x11D93, 0x11D98), (0x11DA0, 0x11DA9), (0x11EE0, 0x11EF8),
   (0x11F00, 0x11F10), (0x11F12, 0x11F3A), (0x11F3E, 0x11F59), (0x11FB0, 0x11FB0),
   (0x11FC0, 0x11FF1), (0x11FFF, 0x12399), (0x12400, 0x1246E), (0x12470, 0x12474),
   (0x12480, 0x12543), (0x12F90, 0x12FF2), (0x13000, 0x1342F), (0x13440, 0x13455),
   (0x14400, 0x14646), (0x16800, 0x16A38), (0x16A40, 0x16A5E), (0x16A60, 0x16A69),
   (0x16A6E, 0x16ABE), (0x16AC0, 0x16AC9), (0x16AD0, 0x16AED), (0x16AF0, 0x16AF5),
   (0x16B00, 0x16B45), (0x16B50, 0x16B59), (0x16B5B, 0x16B61), (0x16B63, 0x16B77),
   (0x16B7D, 0x16B8F), (0x16E60, 0x16E9A), (0x16F00, 0x16F4A), (0x16F4F, 0x16F87),
   (0x16F8F, 0x16F9F), (0x16FE0, 0x16FE4), (0x16FF0, 0x16FF1), (0x17000, 0x187F7),
   (0x18800, 0x18CD5), (0x18D00, 0x18D08), (0x1AFF0, 0x1AFF3), (0x1AFF5, 0x1AFFB),
   (0x1AFFD, 0x1AFFE), (0x1B000, 0x1B122), (0x1B132, 0x1B132), (0x1B150, 0x1B152),
   (0x1B155, 0x1B155), (0x1B164, 0x1B167), (0x1B170, 0x1B2FB), (0x1BC00, 0x1BC6A),
   (0x1BC70, 0x1BC7C), (0x1BC80, 0x1BC88), (0x1BC90, 0x1BC99), (0x1BC9C, 0x1BC9F),
   (0x1CF00, 0x1CF2D), (0x1CF30, 0x1CF46), (0x1CF50, 0x1CFC3), (0x1D000, 0x1D0F5),
   (0x1D100, 0x1D126), (0x1D129, 0x1D15D), (0x1D165, 0x1D172), (0x1D17B, 0x1D1BA),
   (0x1D1C1, 0x1D1EA), (0x1D200, 0x1D245), (0x1D2C0, 0x1D2D3), (0x1D2E0, 0x1D2F3),
   (0x1D300, 0x1D356), (0x1D360, 0x1D378), (0x1D800, 0x1DA8B), (0x1DA9B, 0x1DA9F),
   (0x1DAA1, 0x1DAAF), (0x1DF00, 0x1DF1E), (0x1DF25, 0x1DF2A), (0x1E000, 0x1E006),
   (0x1E008, 0x1E018), (0x1E01B, 0x1E021), (0x1E023, 0x1E024), (0x1E026, 0x1E02A),
   (0x1E08F, 0x1E08F), (0x1E100, 0x1E12C), (0x1E130, 0x1E13D), (0x1E140, 0x1E149),
   (0x1E14E, 0x1E14F), (0x1E290, 0x1E2AE), (0x1E2C0, 0x1E2F9), (0x1E2FF, 0x1E2FF),
   (0x1E4D0, 0x1E4F9), (0x1E7E0, 0x1E7E6), (0x1E7E8, 0x1E7EB), (0x1E7ED, 0x1E7EE),
   (0x1E7F0, 0x1E7FE), (0x1E800, 0x1E8C4), (0x1E8C7, 0x1E8D6), (0x1E922, 0x1E94B),
   (0x1E950, 0x1E959), (0x1E95E, 0x1E95F), (0x1EC71, 0x1ECB4), (0x1ED01, 0x1ED3D),
   (0x1EEF0, 0x1EEF1), (0x1F000, 0x1F02B), (0x1F030, 0x1F093), (0x1F0A0, 0x1F0AE),
   (0x1F0B1, 0x1F0BF), (0x1F0C1, 0x1F0CF), (0x1F0D1, 0x1F0F5), (0x1F10B, 0x1F10F),
   (0x1F12F, 0x1F12F), (0x1F150, 0x1F169), (0x1F16D, 0x1F18F), (0x1F191, 0x1F1AD),
   (0x1F1E6, 0x1F1FF), (0x1F260, 0x1F265), (0x1F300, 0x1F6D7), (0x1F6DC, 0x1F6EC),
   (0x1F6F0, 0x1F6FC), (0x1F700, 0x1F776), (0x1F77B, 0x1F7D9), (0x1F7E0, 0x1F7EB),
   (0x1F7F0, 0x1F7F0), (0x1F800, 0x1F80B), (0x1F810, 0x1F847), (0x1F850, 0x1F859),
   (0x1F860, 0x1F887), (0x1F890, 0x1F8AD), (0x1F8B0, 0x1F8B1), (0x1F900, 0x1FA53),
   (0x1FA60, 0x1FA6D), (0x1FA70, 0x1FA7C), (0x1FA80, 0x1FA88), (0x1FA90, 0x1FABD),
   (0x1FABF, 0x1FAC5), (0x1FACE, 0x1FADB), (0x1FAE0, 0x1FAE8), (0x1FAF0, 0x1FAF8),
   (0x1FB00, 0x1FB92), (0x1FB94, 0x1FBCA), (0x20000, 0x2A6DF), (0x2A700, 0x2B739),
   (0x2B740, 0x2B81D), (0x2B820, 0x2CEA1), (0x2CEB0, 0x2EBE0), (0x30000, 0x3134A),
   (0x31350, 0x323AF)]

/-- The code points that stand as written. -/
def validRanges : List (Nat × Nat) := validRangesLow ++ validRangesHigh

/-- A run of mapped code points: `low` maps to `target`; when the run is longer, the target
is one code point and each code point after `low` maps to the one as far after it. -/
structure MappingRun where
  /-- The first code point of the run. -/
  low : Nat
  /-- The last code point of the run. -/
  high : Nat
  /-- What the first code point maps to. -/
  target : String

/-- The mappings whose targets hold ASCII. -/
def asciiMappings : List MappingRun :=
  [⟨0x00AA, 0x00AA, "a"⟩, ⟨0x00B2, 0x00B3, "2"⟩, ⟨0x00B9, 0x00B9, "1"⟩, ⟨0x00BA, 0x00BA, "o"⟩,
   ⟨0x00BC, 0x00BC, "1\u20444"⟩, ⟨0x00BD, 0x00BD, "1\u20442"⟩, ⟨0x00BE, 0x00BE, "3\u20444"⟩,
   ⟨0x0130, 0x0130, "i\u0307"⟩, ⟨0x0132, 0x0132, "ij"⟩, ⟨0x0133, 0x0133, "ij"⟩,
   ⟨0x013F, 0x013F, "l\xb7"⟩, ⟨0x0140, 0x0140, "l\xb7"⟩, ⟨0x0149, 0x0149, "\u02bcn"⟩,
   ⟨0x017F, 0x017F, "s"⟩, ⟨0x01C4, 0x01C4, "d\u017e"⟩, ⟨0x01C5, 0x01C5, "d\u017e"⟩,
   ⟨0x01C6, 0x01C6, "d\u017e"⟩, ⟨0x01C7, 0x01C7, "lj"⟩, ⟨0x01C8, 0x01C8, "lj"⟩,
   ⟨0x01C9, 0x01C9, "lj"⟩, ⟨0x01CA, 0x01CA, "nj"⟩, ⟨0x01CB, 0x01CB, "nj"⟩, ⟨0x01CC, 0x01CC, "nj"⟩,
   ⟨0x01F1, 0x01F1, "dz"⟩, ⟨0x01F2, 0x01F2, "dz"⟩, ⟨0x01F3, 0x01F3, "dz"⟩, ⟨0x02B0, 0x02B0, "h"⟩,
   ⟨0x02B2, 0x02B2, "j"⟩, ⟨0x02B3, 0x02B3, "r"⟩, ⟨0x02B7, 0x02B7, "w"⟩, ⟨0x02B8, 0x02B8, "y"⟩,
   ⟨0x02E1, 0x02E1, "l"⟩, ⟨0x02E2, 0x02E2, "s"⟩, ⟨0x02E3, 0x02E3, "x"⟩, ⟨0x037E, 0x037E, ";"⟩,
   ⟨0x1D2C, 0x1D2C, "a"⟩, ⟨0x1D2E, 0x1D2E, "b"⟩, ⟨0x1D30, 0x1D31, "d"⟩, ⟨0x1D33, 0x1D3A, "g"⟩,
   ⟨0x1D3C, 0x1D3C, "o"⟩, ⟨0x1D3E, 0x1D3E, "p"⟩, ⟨0x1D3F, 0x1D3F, "r"⟩, ⟨0x1D40, 0x1D41, "t"⟩,
   ⟨0x1D42, 0x1D42, "w"⟩, ⟨0x1D43, 0x1D43, "a"⟩, ⟨0x1D47, 0x1D47, "b"⟩, ⟨0x1D48, 0x1D49, "d"⟩,
   ⟨0x1D4D, 0x1D4D, "g"⟩, ⟨0x1D4F, 0x1D4F, "k"⟩, ⟨0x1D50, 0x1D50, "m"⟩, ⟨0x1D52, 0x1D52, "o"⟩,
   ⟨0x1D56, 0x1D56, "p"⟩, ⟨0x1D57, 0x1D58, "t"⟩, ⟨0x1D5B, 0x1D5B, "v"⟩, ⟨0x1D62, 0x1D62, "i"⟩,
   ⟨0x1D63, 0x1D63, "r"⟩, ⟨0x1D64, 0x1D65, "u"⟩, ⟨0x1D9C, 0x1D9C, "c"⟩, ⟨0x1DA0, 0x1DA0, "f"⟩,
   ⟨0x1DBB, 0x1DBB, "z"⟩, ⟨0x1E9A, 0x1E9A, "a\u02be"⟩, ⟨0x1E9E, 0x1E9E, "ss"⟩,
   ⟨0x1FEF, 0x1FEF, "`"⟩, ⟨0x203C, 0x203C, "!!"⟩, ⟨0x2070, 0x2070, "0"⟩, ⟨0x2071, 0x2071, "i"⟩,
   ⟨0x2074, 0x2079, "4"⟩, ⟨0x207A, 0x207A, "+"⟩, ⟨0x207C, 0x207C, "="⟩, ⟨0x207D, 0x207E, "("⟩,
   ⟨0x207F, 0x207F, "n"⟩, ⟨0x2080, 0x2089, "0"⟩, ⟨0x208A, 0x208A, "+"⟩, ⟨0x208C, 0x208C, "="⟩,
   ⟨0x208D, 0x208E, "("⟩, ⟨0x2090, 0x2090, "a"⟩, ⟨0x2091, 0x2091, "e"⟩, ⟨0x2092, 0x2092, "o"⟩,
   ⟨0x2093, 0x2093, "x"⟩, ⟨0x2095, 0x2095, "h"⟩, ⟨0x2096, 0x2099, "k"⟩, ⟨0x209A, 0x209A, "p"⟩,
   ⟨0x209B, 0x209C, "s"⟩, ⟨0x20A8, 0x20A8, "rs"⟩, ⟨0x2102, 0x2102, "c"⟩, ⟨0x2103, 0x2103, "\xb0c"⟩,
   ⟨0x2109, 0x2109, "\xb0f"⟩, ⟨0x210A, 0x210B, "g"⟩, ⟨0x210C, 0x210C, "h"⟩, ⟨0x210D, 0x210D, "h"⟩,
   ⟨0x210E, 0x210E, "h"⟩, ⟨0x2110, 0x2110, "i"⟩, ⟨0x2111, 0x2111, "i"⟩, ⟨0x2112, 0x2112, "l"⟩,
   ⟨0x2113, 0x2113, "l"⟩, ⟨0x2115, 0x2115, "n"⟩, ⟨0x2116, 0x2116, "no"⟩, ⟨0x2119, 0x211B, "p"⟩,
   ⟨0x211C, 0x211C, "r"⟩, ⟨0x211D, 0x211D, "r"⟩, ⟨0x2120, 0x2120, "sm"⟩, ⟨0x2121, 0x2121, "tel"⟩,
   ⟨0x2122, 0x2122, "tm"⟩, ⟨0x2124, 0x2124, "z"⟩, ⟨0x2128, 0x2128, "z"⟩, ⟨0x212A, 0x212A, "k"⟩,
   ⟨0x212C, 0x212D, "b"⟩, ⟨0x212F, 0x212F, "e"⟩, ⟨0x2130, 0x2131, "e"⟩, ⟨0x2133, 0x2133, "m"⟩,
   ⟨0x2134, 0x2134, "o"⟩, ⟨0x2139, 0x2139, "i"⟩, ⟨0x213B, 0x213B, "fax"⟩, ⟨0x2145, 0x2145, "d"⟩,
   ⟨0x2146, 0x2147, "d"⟩, ⟨0x2148, 0x2149, "i"⟩, ⟨0x2150, 0x2150, "1\u20447"⟩,
   ⟨0x2151, 0x2151, "1\u20449"⟩, ⟨0x2152, 0x2152, "1\u204410"⟩, ⟨0x2153, 0x2153, "1\u20443"⟩,
   ⟨0x2154, 0x2154, "2\u20443"⟩, ⟨0x2155, 0x2155, "1\u20445"⟩, ⟨0x2156, 0x2156, "2\u20445"⟩,
   ⟨0x2157, 0x2157, "3\u20445"⟩, ⟨0x2158, 0x2158, "4\u20445"⟩, ⟨0x2159, 0x2159, "1\u20446"⟩,
   ⟨0x215A, 0x215A, "5\u20446"⟩, ⟨0x215B, 0x215B, "1\u20448"⟩, ⟨0x215C, 0x215C, "3\u20448"⟩,
   ⟨0x215D, 0x215D, "5\u20448"⟩, ⟨0x215E, 0x215E, "7\u20448"⟩, ⟨0x215F, 0x215F, "1\u2044"⟩,
   ⟨0x2160, 0x2160, "i"⟩, ⟨0x2161, 0x2161, "ii"⟩, ⟨0x2162, 0x2162, "iii"⟩, ⟨0x2163, 0x2163, "iv"⟩,
   ⟨0x2164, 0x2164, "v"⟩, ⟨0x2165, 0x2165, "vi"⟩, ⟨0x2166, 0x2166, "vii"⟩,
   ⟨0x2167, 0x2167, "viii"⟩, ⟨0x2168, 0x2168, "ix"⟩, ⟨0x2169, 0x2169, "x"⟩, ⟨0x216A, 0x216A, "xi"⟩,
   ⟨0x216B, 0x216B, "xii"⟩, ⟨0x216C, 0x216C, "l"⟩, ⟨0x216D, 0x216E, "c"⟩, ⟨0x216F, 0x216F, "m"⟩,
   ⟨0x2170, 0x2170, "i"⟩, ⟨0x2171, 0x2171, "ii"⟩, ⟨0x2172, 0x2172, "iii"⟩, ⟨0x2173, 0x2173, "iv"⟩,
   ⟨0x2174, 0x2174, "v"⟩, ⟨0x2175, 0x2175, "vi"⟩, ⟨0x2176, 0x2176, "vii"⟩,
   ⟨0x2177, 0x2177, "viii"⟩, ⟨0x2178, 0x2178, "ix"⟩, ⟨0x2179, 0x2179, "x"⟩, ⟨0x217A, 0x217A, "xi"⟩,
   ⟨0x217B, 0x217B, "xii"⟩, ⟨0x217C, 0x217C, "l"⟩, ⟨0x217D, 0x217E, "c"⟩, ⟨0x217F, 0x217F, "m"⟩,
   ⟨0x2189, 0x2189, "0\u20443"⟩, ⟨0x2460, 0x2468, "1"⟩, ⟨0x2469, 0x2469, "10"⟩,
   ⟨0x246A, 0x246A, "11"⟩, ⟨0x246B, 0x246B, "12"⟩, ⟨0x246C, 0x246C, "13"⟩, ⟨0x246D, 0x246D, "14"⟩,
   ⟨0x246E, 0x246E, "15"⟩, ⟨0x246F, 0x246F, "16"⟩, ⟨0x2470, 0x2470, "17"⟩, ⟨0x2471, 0x2471, "18"⟩,
   ⟨0x2472, 0x2472, "19"⟩, ⟨0x2473, 0x2473, "20"⟩, ⟨0x2474, 0x2474, "(1)"⟩,
   ⟨0x2475, 0x2475, "(2)"⟩, ⟨0x2476, 0x2476, "(3)"⟩, ⟨0x2477, 0x2477, "(4)"⟩,
   ⟨0x2478, 0x2478, "(5)"⟩, ⟨0x2479, 0x2479, "(6)"⟩, ⟨0x247A, 0x247A, "(7)"⟩,
   ⟨0x247B, 0x247B, "(8)"⟩, ⟨0x247C, 0x247C, "(9)"⟩, ⟨0x247D, 0x247D, "(10)"⟩,
   ⟨0x247E, 0x247E, "(11)"⟩, ⟨0x247F, 0x247F, "(12)"⟩, ⟨0x2480, 0x2480, "(13)"⟩,
   ⟨0x2481, 0x2481, "(14)"⟩, ⟨0x2482, 0x2482, "(15)"⟩, ⟨0x2483, 0x2483, "(16)"⟩,
   ⟨0x2484, 0x2484, "(17)"⟩, ⟨0x2485, 0x2485, "(18)"⟩, ⟨0x2486, 0x2486, "(19)"⟩,
   ⟨0x2487, 0x2487, "(20)"⟩, ⟨0x249C, 0x249C, "(a)"⟩, ⟨0x249D, 0x249D, "(b)"⟩,
   ⟨0x249E, 0x249E, "(c)"⟩, ⟨0x249F, 0x249F, "(d)"⟩, ⟨0x24A0, 0x24A0, "(e)"⟩,
   ⟨0x24A1, 0x24A1, "(f)"⟩, ⟨0x24A2, 0x24A2, "(g)"⟩, ⟨0x24A3, 0x24A3, "(h)"⟩,
   ⟨0x24A4, 0x24A4, "(i)"⟩, ⟨0x24A5, 0x24A5, "(j)"⟩, ⟨0x24A6, 0x24A6, "(k)"⟩,
   ⟨0x24A7, 0x24A7, "(l)"⟩, ⟨0x24A8, 0x24A8, "(m)"⟩, ⟨0x24A9, 0x24A9, "(n)"⟩,
   ⟨0x24AA, 0x24AA, "(o)"⟩, ⟨0x24AB, 0x24AB, "(p)"⟩, ⟨0x24AC, 0x24AC, "(q)"⟩,
   ⟨0x24AD, 0x24AD, "(r)"⟩, ⟨0x24AE, 0x24AE, "(s)"⟩, ⟨0x24AF, 0x24AF, "(t)"⟩,
   ⟨0x24B0, 0x24B0, "(u)"⟩, ⟨0x24B1, 0x24B1, "(v)"⟩, ⟨0x24B2, 0x24B2, "(w)"⟩,
   ⟨0x24B3, 0x24B3, "(x)"⟩, ⟨0x24B4, 0x24B4, "(y)"⟩, ⟨0x24B5, 0x24B5, "(z)"⟩,
   ⟨0x24B6, 0x24CF, "a"⟩, ⟨0x24D0, 0x24E9, "a"⟩, ⟨0x24EA, 0x24EA, "0"⟩, ⟨0x2A75, 0x2A75, "=="⟩,
   ⟨0x2A76, 0x2A76, "==="⟩, ⟨0x2C7C, 0x2C7C, "j"⟩, ⟨0x2C7D, 0x2C7D, "v"⟩, ⟨0x3002, 0x3002, "."⟩,
   ⟨0x3200, 0x3200, "(\u1100)"⟩, ⟨0x3201, 0x3201, "(\u1102)"⟩, ⟨0x3202, 0x3202, "(\u1103)"⟩,
   ⟨0x3203, 0x3203, "(\u1105)"⟩, ⟨0x3204, 0x3204, "(\u1106)"⟩, ⟨0x3205, 0x3205, "(\u1107)"⟩,
   ⟨0x3206, 0x3206, "(\u1109)"⟩, ⟨0x3207, 0x3207, "(\u110b)"⟩, ⟨0x3208, 0x3208, "(\u110c)"⟩,
   ⟨0x3209, 0x3209, "(\u110e)"⟩, ⟨0x320A, 0x320A, "(\u110f)"⟩, ⟨0x320B, 0x320B, "(\u1110)"⟩,
   ⟨0x320C, 0x320C, "(\u1111)"⟩, ⟨0x320D, 0x320D, "(\u1112)"⟩, ⟨0x320E, 0x320E, "(\uac00)"⟩,
   ⟨0x320F, 0x320F, "(\ub098)"⟩, ⟨0x3210, 0x3210, "(\ub2e4)"⟩, ⟨0x3211, 0x3211, "(\ub77c)"⟩,
   ⟨0x3212, 0x3212, "(\ub9c8)"⟩, ⟨0x3213, 0x3213, "(\ubc14)"⟩, ⟨0x3214, 0x3214, "(\uc0ac)"⟩,
   ⟨0x3215, 0x3215, "(\uc544)"⟩, ⟨0x3216, 0x3216, "(\uc790)"⟩, ⟨0x3217, 0x3217, "(\ucc28)"⟩,
   ⟨0x3218, 0x3218, "(\uce74)"⟩, ⟨0x3219, 0x3219, "(\ud0c0)"⟩, ⟨0x321A, 0x321A, "(\ud30c)"⟩,
   ⟨0x321B, 0x321B, "(\ud558)"⟩, ⟨0x321C, 0x321C, "(\uc8fc)"⟩, ⟨0x321D, 0x321D, "(\uc624\uc804)"⟩,
   ⟨0x321E, 0x321E, "(\uc624\ud6c4)"⟩, ⟨0x3220, 0x3220, "(\u4e00)"⟩, ⟨0x3221, 0x3221, "(\u4e8c)"⟩,
   ⟨0x3222, 0x3222, "(\u4e09)"⟩, ⟨0x3223, 0x3223, "(\u56db)"⟩, ⟨0x3224, 0x3224, "(\u4e94)"⟩,
   ⟨0x3225, 0x3225, "(\u516d)"⟩, ⟨0x3226, 0x3226, "(\u4e03)"⟩, ⟨0x3227, 0x3227, "(\u516b)"⟩,
   ⟨0x3228, 0x3228, "(\u4e5d)"⟩, ⟨0x3229, 0x3229, "(\u5341)"⟩, ⟨0x322A, 0x322A, "(\u6708)"⟩,
   ⟨0x322B, 0x322B, "(\u706b)"⟩, ⟨0x322C, 0x322C, "(\u6c34)"⟩, ⟨0x322D, 0x322D, "(\u6728)"⟩,
   ⟨0x322E, 0x322E, "(\u91d1)"⟩, ⟨0x322F, 0x322F, "(\u571f)"⟩, ⟨0x3230, 0x3230, "(\u65e5)"⟩,
   ⟨0x3231, 0x3231, "(\u682a)"⟩, ⟨0x3232, 0x3232, "(\u6709)"⟩, ⟨0x3233, 0x3233, "(\u793e)"⟩,
   ⟨0x3234, 0x3234, "(\u540d)"⟩, ⟨0x3235, 0x3235, "(\u7279)"⟩, ⟨0x3236, 0x3236, "(\u8ca1)"⟩,
   ⟨0x3237, 0x3237, "(\u795d)"⟩, ⟨0x3238, 0x3238, "(\u52b4)"⟩, ⟨0x3239, 0x3239, "(\u4ee3)"⟩,
   ⟨0x323A, 0x323A, "(\u547c)"⟩, ⟨0x323B, 0x323B, "(\u5b66)"⟩, ⟨0x323C, 0x323C, "(\u76e3)"⟩,
   ⟨0x323D, 0x323D, "(\u4f01)"⟩, ⟨0x323E, 0x323E, "(\u8cc7)"⟩, ⟨0x323F, 0x323F, "(\u5354)"⟩,
   ⟨0x3240, 0x3240, "(\u796d)"⟩, ⟨0x3241, 0x3241, "(\u4f11)"⟩, ⟨0x3242, 0x3242, "(\u81ea)"⟩,
   ⟨0x3243, 0x3243, "(\u81f3)"⟩, ⟨0x3250, 0x3250, "pte"⟩, ⟨0x3251, 0x3251, "21"⟩,
   ⟨0x3252, 0x3252, "22"⟩, ⟨0x3253, 0x3253, "23"⟩, ⟨0x3254, 0x3254, "24"⟩, ⟨0x3255, 0x3255, "25"⟩,
   ⟨0x3256, 0x3256, "26"⟩, ⟨0x3257, 0x3257, "27"⟩, ⟨0x3258, 0x3258, "28"⟩, ⟨0x3259, 0x3259, "29"⟩,
   ⟨0x325A, 0x325A, "30"⟩, ⟨0x325B, 0x325B, "31"⟩, ⟨0x325C, 0x325C, "32"⟩, ⟨0x325D, 0x325D, "33"⟩,
   ⟨0x325E, 0x325E, "34"⟩, ⟨0x325F, 0x325F, "35"⟩, ⟨0x32B1, 0x32B1, "36"⟩, ⟨0x32B2, 0x32B2, "37"⟩,
   ⟨0x32B3, 0x32B3, "38"⟩, ⟨0x32B4, 0x32B4, "39"⟩, ⟨0x32B5, 0x32B5, "40"⟩, ⟨0x32B6, 0x32B6, "41"⟩,
   ⟨0x32B7, 0x32B7, "42"⟩, ⟨0x32B8, 0x32B8, "43"⟩, ⟨0x32B9, 0x32B9, "44"⟩, ⟨0x32BA, 0x32BA, "45"⟩,
   ⟨0x32BB, 0x32BB, "46"⟩, ⟨0x32BC, 0x32BC, "47"⟩, ⟨0x32BD, 0x32BD, "48"⟩, ⟨0x32BE, 0x32BE, "49"⟩,
   ⟨0x32BF, 0x32BF, "50"⟩, ⟨0x32C0, 0x32C0, "1\u6708"⟩, ⟨0x32C1, 0x32C1, "2\u6708"⟩,
   ⟨0x32C2, 0x32C2, "3\u6708"⟩, ⟨0x32C3, 0x32C3, "4\u6708"⟩, ⟨0x32C4, 0x32C4, "5\u6708"⟩,
   ⟨0x32C5, 0x32C5, "6\u6708"⟩, ⟨0x32C6, 0x32C6, "7\u6708"⟩, ⟨0x32C7, 0x32C7, "8\u6708"⟩,
   ⟨0x32C8, 0x32C8, "9\u6708"⟩, ⟨0x32C9, 0x32C9, "10\u6708"⟩, ⟨0x32CA, 0x32CA, "11\u6708"⟩,
   ⟨0x32CB, 0x32CB, "12\u6708"⟩, ⟨0x32CC, 0x32CC, "hg"⟩, ⟨0x32CD, 0x32CD, "erg"⟩,
   ⟨0x32CE, 0x32CE, "ev"⟩, ⟨0x32CF, 0x32CF, "ltd"⟩, ⟨0x3358, 0x3358, "0\u70b9"⟩,
   ⟨0x3359, 0x3359, "1\u70b9"⟩, ⟨0x335A, 0x335A, "2\u70b9"⟩, ⟨0x335B, 0x335B, "3\u70b9"⟩,
   ⟨0x335C, 0x335C, "4\u70b9"⟩, ⟨0x335D, 0x335D, "5\u70b9"⟩, ⟨0x335E, 0x335E, "6\u70b9"⟩,
   ⟨0x335F, 0x335F, "7\u70b9"⟩, ⟨0x3360, 0x3360, "8\u70b9"⟩, ⟨0x3361, 0x3361, "9\u70b9"⟩,
   ⟨0x3362, 0x3362, "10\u70b9"⟩, ⟨0x3363, 0x3363, "11\u70b9"⟩, ⟨0x3364, 0x3364, "12\u70b9"⟩,
   ⟨0x3365, 0x3365, "13\u70b9"⟩, ⟨0x3366, 0x3366, "14\u70b9"⟩, ⟨0x3367, 0x3367, "15\u70b9"⟩,
   ⟨0x3368, 0x3368, "16\u70b9"⟩, ⟨0x3369, 0x3369, "17\u70b9"⟩, ⟨0x336A, 0x336A, "18\u70b9"⟩,
   ⟨0x336B, 0x336B, "19\u70b9"⟩, ⟨0x336C, 0x336C, "20\u70b9"⟩, ⟨0x336D, 0x336D, "21\u70b9"⟩,
   ⟨0x336E, 0x336E, "22\u70b9"⟩, ⟨0x336F, 0x336F, "23\u70b9"⟩, ⟨0x3370, 0x3370, "24\u70b9"⟩,
   ⟨0x3371, 0x3371, "hpa"⟩, ⟨0x3372, 0x3372, "da"⟩, ⟨0x3373, 0x3373, "au"⟩,
   ⟨0x3374, 0x3374, "bar"⟩, ⟨0x3375, 0x3375, "ov"⟩, ⟨0x3376, 0x3376, "pc"⟩, ⟨0x3377, 0x3377, "dm"⟩,
   ⟨0x3378, 0x3378, "dm2"⟩, ⟨0x3379, 0x3379, "dm3"⟩, ⟨0x337A, 0x337A, "iu"⟩,
   ⟨0x3380, 0x3380, "pa"⟩, ⟨0x3381, 0x3381, "na"⟩, ⟨0x3382, 0x3382, "\u03bca"⟩,
   ⟨0x3383, 0x3383, "ma"⟩, ⟨0x3384, 0x3384, "ka"⟩, ⟨0x3385, 0x3385, "kb"⟩, ⟨0x3386, 0x3386, "mb"⟩,
   ⟨0x3387, 0x3387, "gb"⟩, ⟨0x3388, 0x3388, "cal"⟩, ⟨0x3389, 0x3389, "kcal"⟩,
   ⟨0x338A, 0x338A, "pf"⟩, ⟨0x338B, 0x338B, "nf"⟩, ⟨0x338C, 0x338C, "\u03bcf"⟩,
   ⟨0x338D, 0x338D, "\u03bcg"⟩, ⟨0x338E, 0x338E, "mg"⟩, ⟨0x338F, 0x338F, "kg"⟩,
   ⟨0x3390, 0x3390, "hz"⟩, ⟨0x3391, 0x3391, "khz"⟩, ⟨0x3392, 0x3392, "mhz"⟩,
   ⟨0x3393, 0x3393, "ghz"⟩, ⟨0x3394, 0x3394, "thz"⟩, ⟨0x3395, 0x3395, "\u03bcl"⟩,
   ⟨0x3396, 0x3396, "ml"⟩, ⟨0x3397, 0x3397, "dl"⟩, ⟨0x3398, 0x3398, "kl"⟩, ⟨0x3399, 0x3399, "fm"⟩,
   ⟨0x339A, 0x339A, "nm"⟩, ⟨0x339B, 0x339B, "\u03bcm"⟩, ⟨0x339C, 0x339C, "mm"⟩,
   ⟨0x339D, 0x339D, "cm"⟩, ⟨0x339E, 0x339E, "km"⟩, ⟨0x339F, 0x339F, "mm2"⟩,
   ⟨0x33A0, 0x33A0, "cm2"⟩, ⟨0x33A1, 0x33A1, "m2"⟩, ⟨0x33A2, 0x33A2, "km2"⟩,
   ⟨0x33A3, 0x33A3, "mm3"⟩, ⟨0x33A4, 0x33A4, "cm3"⟩, ⟨0x33A5, 0x33A5, "m3"⟩,
   ⟨0x33A6, 0x33A6, "km3"⟩, ⟨0x33A7, 0x33A7, "m\u2215s"⟩, ⟨0x33A8, 0x33A8, "m\u2215s2"⟩,
   ⟨0x33A9, 0x33A9, "pa"⟩, ⟨0x33AA, 0x33AA, "kpa"⟩, ⟨0x33AB, 0x33AB, "mpa"⟩,
   ⟨0x33AC, 0x33AC, "gpa"⟩, ⟨0x33AD, 0x33AD, "rad"⟩, ⟨0x33AE, 0x33AE, "rad\u2215s"⟩,
   ⟨0x33AF, 0x33AF, "rad\u2215s2"⟩, ⟨0x33B0, 0x33B0, "ps"⟩, ⟨0x33B1, 0x33B1, "ns"⟩,
   ⟨0x33B2, 0x33B2, "\u03bcs"⟩, ⟨0x33B3, 0x33B3, "ms"⟩, ⟨0x33B4, 0x33B4, "pv"⟩,
   ⟨0x33B5, 0x33B5, "nv"⟩, ⟨0x33B6, 0x33B6, "\u03bcv"⟩, ⟨0x33B7, 0x33B7, "mv"⟩,
   ⟨0x33B8, 0x33B8, "kv"⟩, ⟨0x33B9, 0x33B9, "mv"⟩, ⟨0x33BA, 0x33BA, "pw"⟩, ⟨0x33BB, 0x33BB, "nw"⟩,
   ⟨0x33BC, 0x33BC, "\u03bcw"⟩, ⟨0x33BD, 0x33BD, "mw"⟩, ⟨0x33BE, 0x33BE, "kw"⟩,
   ⟨0x33BF, 0x33BF, "mw"⟩, ⟨0x33C0, 0x33C0, "k\u03c9"⟩, ⟨0x33C1, 0x33C1, "m\u03c9"⟩,
   ⟨0x33C3, 0x33C3, "bq"⟩, ⟨0x33C4, 0x33C4, "cc"⟩, ⟨0x33C5, 0x33C5, "cd"⟩,
   ⟨0x33C6, 0x33C6, "c\u2215kg"⟩, ⟨0x33C8, 0x33C8, "db"⟩, ⟨0x33C9, 0x33C9, "gy"⟩,
   ⟨0x33CA, 0x33CA, "ha"⟩, ⟨0x33CB, 0x33CB, "hp"⟩, ⟨0x33CC, 0x33CC, "in"⟩, ⟨0x33CD, 0x33CD, "kk"⟩,
   ⟨0x33CE, 0x33CE, "km"⟩, ⟨0x33CF, 0x33CF, "kt"⟩, ⟨0x33D0, 0x33D0, "lm"⟩, ⟨0x33D1, 0x33D1, "ln"⟩,
   ⟨0x33D2, 0x33D2, "log"⟩, ⟨0x33D3, 0x33D3, "lx"⟩, ⟨0x33D4, 0x33D4, "mb"⟩,
   ⟨0x33D5, 0x33D5, "mil"⟩, ⟨0x33D6, 0x33D6, "mol"⟩, ⟨0x33D7, 0x33D7, "ph"⟩,
   ⟨0x33D9, 0x33D9, "ppm"⟩, ⟨0x33DA, 0x33DA, "pr"⟩, ⟨0x33DB, 0x33DB, "sr"⟩, ⟨0x33DC, 0x33DC, "sv"⟩,
   ⟨0x33DD, 0x33DD, "wb"⟩, ⟨0x33DE, 0x33DE, "v\u2215m"⟩, ⟨0x33DF, 0x33DF, "a\u2215m"⟩,
   ⟨0x33E0, 0x33E0, "1\u65e5"⟩, ⟨0x33E1, 0x33E1, "2\u65e5"⟩, ⟨0x33E2, 0x33E2, "3\u65e5"⟩,
   ⟨0x33E3, 0x33E3, "4\u65e5"⟩, ⟨0x33E4, 0x33E4, "5\u65e5"⟩, ⟨0x33E5, 0x33E5, "6\u65e5"⟩,
   ⟨0x33E6, 0x33E6, "7\u65e5"⟩, ⟨0x33E7, 0x33E7, "8\u65e5"⟩, ⟨0x33E8, 0x33E8, "9\u65e5"⟩,
   ⟨0x33E9, 0x33E9, "10\u65e5"⟩, ⟨0x33EA, 0x33EA, "11\u65e5"⟩, ⟨0x33EB, 0x33EB, "12\u65e5"⟩,
   ⟨0x33EC, 0x33EC, "13\u65e5"⟩, ⟨0x33ED, 0x33ED, "14\u65e5"⟩, ⟨0x33EE, 0x33EE, "15\u65e5"⟩,
   ⟨0x33EF, 0x33EF, "16\u65e5"⟩, ⟨0x33F0, 0x33F0, "17\u65e5"⟩, ⟨0x33F1, 0x33F1, "18\u65e5"⟩,
   ⟨0x33F2, 0x33F2, "19\u65e5"⟩, ⟨0x33F3, 0x33F3, "20\u65e5"⟩, ⟨0x33F4, 0x33F4, "21\u65e5"⟩,
   ⟨0x33F5, 0x33F5, "22\u65e5"⟩, ⟨0x33F6, 0x33F6, "23\u65e5"⟩, ⟨0x33F7, 0x33F7, "24\u65e5"⟩,
   ⟨0x33F8, 0x33F8, "25\u65e5"⟩, ⟨0x33F9, 0x33F9, "26\u65e5"⟩, ⟨0x33FA, 0x33FA, "27\u65e5"⟩,
   ⟨0x33FB, 0x33FB, "28\u65e5"⟩, ⟨0x33FC, 0x33FC, "29\u65e5"⟩, ⟨0x33FD, 0x33FD, "30\u65e5"⟩,
   ⟨0x33FE, 0x33FE, "31\u65e5"⟩, ⟨0x33FF, 0x33FF, "gal"⟩, ⟨0xA7F2, 0xA7F2, "c"⟩,
   ⟨0xA7F3, 0xA7F3, "f"⟩, ⟨0xA7F4, 0xA7F4, "q"⟩, ⟨0xFB00, 0xFB00, "ff"⟩, ⟨0xFB01, 0xFB01, "fi"⟩,
   ⟨0xFB02, 0xFB02, "fl"⟩, ⟨0xFB03, 0xFB03, "ffi"⟩, ⟨0xFB04, 0xFB04, "ffl"⟩,
   ⟨0xFB05, 0xFB05, "st"⟩, ⟨0xFB06, 0xFB06, "st"⟩, ⟨0xFB29, 0xFB29, "+"⟩, ⟨0xFE10, 0xFE10, ","⟩,
   ⟨0xFE14, 0xFE14, ";"⟩, ⟨0xFE15, 0xFE15, "!"⟩, ⟨0xFE33, 0xFE33, "_"⟩, ⟨0xFE34, 0xFE34, "_"⟩,
   ⟨0xFE35, 0xFE36, "("⟩, ⟨0xFE37, 0xFE37, "\x7b"⟩, ⟨0xFE38, 0xFE38, "\x7d"⟩,
   ⟨0xFE4D, 0xFE4D, "_"⟩, ⟨0xFE4E, 0xFE4E, "_"⟩, ⟨0xFE4F, 0xFE4F, "_"⟩, ⟨0xFE50, 0xFE50, ","⟩,
   ⟨0xFE54, 0xFE54, ";"⟩, ⟨0xFE57, 0xFE57, "!"⟩, ⟨0xFE59, 0xFE5A, "("⟩, ⟨0xFE5B, 0xFE5B, "\x7b"⟩,
   ⟨0xFE5C, 0xFE5C, "\x7d"⟩, ⟨0xFE60, 0xFE60, "&"⟩, ⟨0xFE61, 0xFE62, "*"⟩, ⟨0xFE63, 0xFE63, "-"⟩,
   ⟨0xFE66, 0xFE66, "="⟩, ⟨0xFE69, 0xFE69, "$"⟩, ⟨0xFF01, 0xFF02, "!"⟩, ⟨0xFF04, 0xFF04, "$"⟩,
   ⟨0xFF06, 0xFF0E, "&"⟩, ⟨0xFF10, 0xFF19, "0"⟩, ⟨0xFF1B, 0xFF1B, ";"⟩, ⟨0xFF1D, 0xFF1D, "="⟩,
   ⟨0xFF21, 0xFF3A, "a"⟩, ⟨0xFF3F, 0xFF5B, "_"⟩, ⟨0xFF5D, 0xFF5E, "\x7d"⟩, ⟨0xFF61, 0xFF61, "."⟩,
   ⟨0x107A5, 0x107A5, "q"⟩, ⟨0x1D400, 0x1D419, "a"⟩, ⟨0x1D41A, 0x1D433, "a"⟩,
   ⟨0x1D434, 0x1D44D, "a"⟩, ⟨0x1D44E, 0x1D454, "a"⟩, ⟨0x1D456, 0x1D467, "i"⟩,
   ⟨0x1D468, 0x1D481, "a"⟩, ⟨0x1D482, 0x1D49B, "a"⟩, ⟨0x1D49C, 0x1D49C, "a"⟩,
   ⟨0x1D49E, 0x1D49F, "c"⟩, ⟨0x1D4A2, 0x1D4A2, "g"⟩, ⟨0x1D4A5, 0x1D4A6, "j"⟩,
   ⟨0x1D4A9, 0x1D4AC, "n"⟩, ⟨0x1D4AE, 0x1D4B5, "s"⟩, ⟨0x1D4B6, 0x1D4B9, "a"⟩,
   ⟨0x1D4BB, 0x1D4BB, "f"⟩, ⟨0x1D4BD, 0x1D4C3, "h"⟩, ⟨0x1D4C5, 0x1D4CF, "p"⟩,
   ⟨0x1D4D0, 0x1D4E9, "a"⟩, ⟨0x1D4EA, 0x1D503, "a"⟩, ⟨0x1D504, 0x1D505, "a"⟩,
   ⟨0x1D507, 0x1D50A, "d"⟩, ⟨0x1D50D, 0x1D514, "j"⟩, ⟨0x1D516, 0x1D51C, "s"⟩,
   ⟨0x1D51E, 0x1D537, "a"⟩, ⟨0x1D538, 0x1D539, "a"⟩, ⟨0x1D53B, 0x1D53E, "d"⟩,
   ⟨0x1D540, 0x1D544, "i"⟩, ⟨0x1D546, 0x1D546, "o"⟩, ⟨0x1D54A, 0x1D550, "s"⟩,
   ⟨0x1D552, 0x1D56B, "a"⟩, ⟨0x1D56C, 0x1D585, "a"⟩, ⟨0x1D586, 0x1D59F, "a"⟩,
   ⟨0x1D5A0, 0x1D5B9, "a"⟩, ⟨0x1D5BA, 0x1D5D3, "a"⟩, ⟨0x1D5D4, 0x1D5ED, "a"⟩,
   ⟨0x1D5EE, 0x1D607, "a"⟩, ⟨0x1D608, 0x1D621, "a"⟩, ⟨0x1D622, 0x1D63B, "a"⟩,
   ⟨0x1D63C, 0x1D655, "a"⟩, ⟨0x1D656, 0x1D66F, "a"⟩, ⟨0x1D670, 0x1D689, "a"⟩,
   ⟨0x1D68A, 0x1D6A3, "a"⟩, ⟨0x1D7CE, 0x1D7D7, "0"⟩, ⟨0x1D7D8, 0x1D7E1, "0"⟩,
   ⟨0x1D7E2, 0x1D7EB, "0"⟩, ⟨0x1D7EC, 0x1D7F5, "0"⟩, ⟨0x1D7F6, 0x1D7FF, "0"⟩,
   ⟨0x1F101, 0x1F101, "0,"⟩, ⟨0x1F102, 0x1F102, "1,"⟩, ⟨0x1F103, 0x1F103, "2,"⟩,
   ⟨0x1F104, 0x1F104, "3,"⟩, ⟨0x1F105, 0x1F105, "4,"⟩, ⟨0x1F106, 0x1F106, "5,"⟩,
   ⟨0x1F107, 0x1F107, "6,"⟩, ⟨0x1F108, 0x1F108, "7,"⟩, ⟨0x1F109, 0x1F109, "8,"⟩,
   ⟨0x1F10A, 0x1F10A, "9,"⟩, ⟨0x1F110, 0x1F110, "(a)"⟩, ⟨0x1F111, 0x1F111, "(b)"⟩,
   ⟨0x1F112, 0x1F112, "(c)"⟩, ⟨0x1F113, 0x1F113, "(d)"⟩, ⟨0x1F114, 0x1F114, "(e)"⟩,
   ⟨0x1F115, 0x1F115, "(f)"⟩, ⟨0x1F116, 0x1F116, "(g)"⟩, ⟨0x1F117, 0x1F117, "(h)"⟩,
   ⟨0x1F118, 0x1F118, "(i)"⟩, ⟨0x1F119, 0x1F119, "(j)"⟩, ⟨0x1F11A, 0x1F11A, "(k)"⟩,
   ⟨0x1F11B, 0x1F11B, "(l)"⟩, ⟨0x1F11C, 0x1F11C, "(m)"⟩, ⟨0x1F11D, 0x1F11D, "(n)"⟩,
   ⟨0x1F11E, 0x1F11E, "(o)"⟩, ⟨0x1F11F, 0x1F11F, "(p)"⟩, ⟨0x1F120, 0x1F120, "(q)"⟩,
   ⟨0x1F121, 0x1F121, "(r)"⟩, ⟨0x1F122, 0x1F122, "(s)"⟩, ⟨0x1F123, 0x1F123, "(t)"⟩,
   ⟨0x1F124, 0x1F124, "(u)"⟩, ⟨0x1F125, 0x1F125, "(v)"⟩, ⟨0x1F126, 0x1F126, "(w)"⟩,
   ⟨0x1F127, 0x1F127, "(x)"⟩, ⟨0x1F128, 0x1F128, "(y)"⟩, ⟨0x1F129, 0x1F129, "(z)"⟩,
   ⟨0x1F12A, 0x1F12A, "\u3014s\u3015"⟩, ⟨0x1F12B, 0x1F12B, "c"⟩, ⟨0x1F12C, 0x1F12C, "r"⟩,
   ⟨0x1F12D, 0x1F12D, "cd"⟩, ⟨0x1F12E, 0x1F12E, "wz"⟩, ⟨0x1F130, 0x1F149, "a"⟩,
   ⟨0x1F14A, 0x1F14A, "hv"⟩, ⟨0x1F14B, 0x1F14B, "mv"⟩, ⟨0x1F14C, 0x1F14C, "sd"⟩,
   ⟨0x1F14D, 0x1F14D, "ss"⟩, ⟨0x1F14E, 0x1F14E, "ppv"⟩, ⟨0x1F14F, 0x1F14F, "wc"⟩,
   ⟨0x1F16A, 0x1F16A, "mc"⟩, ⟨0x1F16B, 0x1F16B, "md"⟩, ⟨0x1F16C, 0x1F16C, "mr"⟩,
   ⟨0x1F190, 0x1F190, "dj"⟩, ⟨0x1FBF0, 0x1FBF9, "0"⟩]

end MeteredPayments.Domain
