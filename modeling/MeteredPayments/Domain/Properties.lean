/-!
# Character properties for domain names

The marks, bidirectional classes, joining types, viramas and code points outside normalization
form C that the label checks use, each table as inclusive ranges in increasing order.
-/

namespace MeteredPayments.Domain

/-- The code point ranges of the marks. -/
def markRanges : List (Nat × Nat) :=
  [(0x0300, 0x036F), (0x0483, 0x0489), (0x0591, 0x05BD), (0x05BF, 0x05BF), (0x05C1, 0x05C2),
   (0x05C4, 0x05C5), (0x05C7, 0x05C7), (0x0610, 0x061A), (0x064B, 0x065F), (0x0670, 0x0670),
   (0x06D6, 0x06DC), (0x06DF, 0x06E4), (0x06E7, 0x06E8), (0x06EA, 0x06ED), (0x0711, 0x0711),
   (0x0730, 0x074A), (0x07A6, 0x07B0), (0x07EB, 0x07F3), (0x07FD, 0x07FD), (0x0816, 0x0819),
   (0x081B, 0x0823), (0x0825, 0x0827), (0x0829, 0x082D), (0x0859, 0x085B), (0x0897, 0x089F),
   (0x08CA, 0x08E1), (0x08E3, 0x0903), (0x093A, 0x093C), (0x093E, 0x094F), (0x0951, 0x0957),
   (0x0962, 0x0963), (0x0981, 0x0983), (0x09BC, 0x09BC), (0x09BE, 0x09C4), (0x09C7, 0x09C8),
   (0x09CB, 0x09CD), (0x09D7, 0x09D7), (0x09E2, 0x09E3), (0x09FE, 0x09FE), (0x0A01, 0x0A03),
   (0x0A3C, 0x0A3C), (0x0A3E, 0x0A42), (0x0A47, 0x0A48), (0x0A4B, 0x0A4D), (0x0A51, 0x0A51),
   (0x0A70, 0x0A71), (0x0A75, 0x0A75), (0x0A81, 0x0A83), (0x0ABC, 0x0ABC), (0x0ABE, 0x0AC5),
   (0x0AC7, 0x0AC9), (0x0ACB, 0x0ACD), (0x0AE2, 0x0AE3), (0x0AFA, 0x0AFF), (0x0B01, 0x0B03),
   (0x0B3C, 0x0B3C), (0x0B3E, 0x0B44), (0x0B47, 0x0B48), (0x0B4B, 0x0B4D), (0x0B55, 0x0B57),
   (0x0B62, 0x0B63), (0x0B82, 0x0B82), (0x0BBE, 0x0BC2), (0x0BC6, 0x0BC8), (0x0BCA, 0x0BCD),
   (0x0BD7, 0x0BD7), (0x0C00, 0x0C04), (0x0C3C, 0x0C3C), (0x0C3E, 0x0C44), (0x0C46, 0x0C48),
   (0x0C4A, 0x0C4D), (0x0C55, 0x0C56), (0x0C62, 0x0C63), (0x0C81, 0x0C83), (0x0CBC, 0x0CBC),
   (0x0CBE, 0x0CC4), (0x0CC6, 0x0CC8), (0x0CCA, 0x0CCD), (0x0CD5, 0x0CD6), (0x0CE2, 0x0CE3),
   (0x0CF3, 0x0CF3), (0x0D00, 0x0D03), (0x0D3B, 0x0D3C), (0x0D3E, 0x0D44), (0x0D46, 0x0D48),
   (0x0D4A, 0x0D4D), (0x0D57, 0x0D57), (0x0D62, 0x0D63), (0x0D81, 0x0D83), (0x0DCA, 0x0DCA),
   (0x0DCF, 0x0DD4), (0x0DD6, 0x0DD6), (0x0DD8, 0x0DDF), (0x0DF2, 0x0DF3), (0x0E31, 0x0E31),
   (0x0E34, 0x0E3A), (0x0E47, 0x0E4E), (0x0EB1, 0x0EB1), (0x0EB4, 0x0EBC), (0x0EC8, 0x0ECE),
   (0x0F18, 0x0F19), (0x0F35, 0x0F35), (0x0F37, 0x0F37), (0x0F39, 0x0F39), (0x0F3E, 0x0F3F),
   (0x0F71, 0x0F84), (0x0F86, 0x0F87), (0x0F8D, 0x0F97), (0x0F99, 0x0FBC), (0x0FC6, 0x0FC6),
   (0x102B, 0x103E), (0x1056, 0x1059), (0x105E, 0x1060), (0x1062, 0x1064), (0x1067, 0x106D),
   (0x1071, 0x1074), (0x1082, 0x108D), (0x108F, 0x108F), (0x109A, 0x109D), (0x135D, 0x135F),
   (0x1712, 0x1715), (0x1732, 0x1734), (0x1752, 0x1753), (0x1772, 0x1773), (0x17B4, 0x17D3),
   (0x17DD, 0x17DD), (0x180B, 0x180D), (0x180F, 0x180F), (0x1885, 0x1886), (0x18A9, 0x18A9),
   (0x1920, 0x192B), (0x1930, 0x193B), (0x1A17, 0x1A1B), (0x1A55, 0x1A5E), (0x1A60, 0x1A7C),
   (0x1A7F, 0x1A7F), (0x1AB0, 0x1ADD), (0x1AE0, 0x1AEB), (0x1B00, 0x1B04), (0x1B34, 0x1B44),
   (0x1B6B, 0x1B73), (0x1B80, 0x1B82), (0x1BA1, 0x1BAD), (0x1BE6, 0x1BF3), (0x1C24, 0x1C37),
   (0x1CD0, 0x1CD2), (0x1CD4, 0x1CE8), (0x1CED, 0x1CED), (0x1CF4, 0x1CF4), (0x1CF7, 0x1CF9),
   (0x1DC0, 0x1DFF), (0x20D0, 0x20F0), (0x2CEF, 0x2CF1), (0x2D7F, 0x2D7F), (0x2DE0, 0x2DFF),
   (0x302A, 0x302F), (0x3099, 0x309A), (0xA66F, 0xA672), (0xA674, 0xA67D), (0xA69E, 0xA69F),
   (0xA6F0, 0xA6F1), (0xA802, 0xA802), (0xA806, 0xA806), (0xA80B, 0xA80B), (0xA823, 0xA827),
   (0xA82C, 0xA82C), (0xA880, 0xA881), (0xA8B4, 0xA8C5), (0xA8E0, 0xA8F1), (0xA8FF, 0xA8FF),
   (0xA926, 0xA92D), (0xA947, 0xA953), (0xA980, 0xA983), (0xA9B3, 0xA9C0), (0xA9E5, 0xA9E5),
   (0xAA29, 0xAA36), (0xAA43, 0xAA43), (0xAA4C, 0xAA4D), (0xAA7B, 0xAA7D), (0xAAB0, 0xAAB0),
   (0xAAB2, 0xAAB4), (0xAAB7, 0xAAB8), (0xAABE, 0xAABF), (0xAAC1, 0xAAC1), (0xAAEB, 0xAAEF),
   (0xAAF5, 0xAAF6), (0xABE3, 0xABEA), (0xABEC, 0xABED), (0xFB1E, 0xFB1E), (0xFE00, 0xFE0F),
   (0xFE20, 0xFE2F), (0x101FD, 0x101FD), (0x102E0, 0x102E0), (0x10376, 0x1037A),
   (0x10A01, 0x10A03), (0x10A05, 0x10A06), (0x10A0C, 0x10A0F), (0x10A38, 0x10A3A),
   (0x10A3F, 0x10A3F), (0x10AE5, 0x10AE6), (0x10D24, 0x10D27), (0x10D69, 0x10D6D),
   (0x10EAB, 0x10EAC), (0x10EFA, 0x10EFF), (0x10F46, 0x10F50), (0x10F82, 0x10F85),
   (0x11000, 0x11002), (0x11038, 0x11046), (0x11070, 0x11070), (0x11073, 0x11074),
   (0x1107F, 0x11082), (0x110B0, 0x110BA), (0x110C2, 0x110C2), (0x11100, 0x11102),
   (0x11127, 0x11134), (0x11145, 0x11146), (0x11173, 0x11173), (0x11180, 0x11182),
   (0x111B3, 0x111C0), (0x111C9, 0x111CC), (0x111CE, 0x111CF), (0x1122C, 0x11237),
   (0x1123E, 0x1123E), (0x11241, 0x11241), (0x112DF, 0x112EA), (0x11300, 0x11303),
   (0x1133B, 0x1133C), (0x1133E, 0x11344), (0x11347, 0x11348), (0x1134B, 0x1134D),
   (0x11357, 0x11357), (0x11362, 0x11363), (0x11366, 0x1136C), (0x11370, 0x11374),
   (0x113B8, 0x113C0), (0x113C2, 0x113C2), (0x113C5, 0x113C5), (0x113C7, 0x113CA),
   (0x113CC, 0x113D0), (0x113D2, 0x113D2), (0x113E1, 0x113E2), (0x11435, 0x11446),
   (0x1145E, 0x1145E), (0x114B0, 0x114C3), (0x115AF, 0x115B5), (0x115B8, 0x115C0),
   (0x115DC, 0x115DD), (0x11630, 0x11640), (0x116AB, 0x116B7), (0x1171D, 0x1172B),
   (0x1182C, 0x1183A), (0x11930, 0x11935), (0x11937, 0x11938), (0x1193B, 0x1193E),
   (0x11940, 0x11940), (0x11942, 0x11943), (0x119D1, 0x119D7), (0x119DA, 0x119E0),
   (0x119E4, 0x119E4), (0x11A01, 0x11A0A), (0x11A33, 0x11A39), (0x11A3B, 0x11A3E),
   (0x11A47, 0x11A47), (0x11A51, 0x11A5B), (0x11A8A, 0x11A99), (0x11B60, 0x11B67),
   (0x11C2F, 0x11C36), (0x11C38, 0x11C3F), (0x11C92, 0x11CA7), (0x11CA9, 0x11CB6),
   (0x11D31, 0x11D36), (0x11D3A, 0x11D3A), (0x11D3C, 0x11D3D), (0x11D3F, 0x11D45),
   (0x11D47, 0x11D47), (0x11D8A, 0x11D8E), (0x11D90, 0x11D91), (0x11D93, 0x11D97),
   (0x11EF3, 0x11EF6), (0x11F00, 0x11F01), (0x11F03, 0x11F03), (0x11F34, 0x11F3A),
   (0x11F3E, 0x11F42), (0x11F5A, 0x11F5A), (0x13440, 0x13440), (0x13447, 0x13455),
   (0x1611E, 0x1612F), (0x16AF0, 0x16AF4), (0x16B30, 0x16B36), (0x16F4F, 0x16F4F),
   (0x16F51, 0x16F87), (0x16F8F, 0x16F92), (0x16FE4, 0x16FE4), (0x16FF0, 0x16FF1),
   (0x1BC9D, 0x1BC9E), (0x1CF00, 0x1CF2D), (0x1CF30, 0x1CF46), (0x1D165, 0x1D169),
   (0x1D16D, 0x1D172), (0x1D17B, 0x1D182), (0x1D185, 0x1D18B), (0x1D1AA, 0x1D1AD),
   (0x1D242, 0x1D244), (0x1DA00, 0x1DA36), (0x1DA3B, 0x1DA6C), (0x1DA75, 0x1DA75),
   (0x1DA84, 0x1DA84), (0x1DA9B, 0x1DA9F), (0x1DAA1, 0x1DAAF), (0x1E000, 0x1E006),
   (0x1E008, 0x1E018), (0x1E01B, 0x1E021), (0x1E023, 0x1E024), (0x1E026, 0x1E02A),
   (0x1E08F, 0x1E08F), (0x1E130, 0x1E136), (0x1E2AE, 0x1E2AE), (0x1E2EC, 0x1E2EF),
   (0x1E4EC, 0x1E4EF), (0x1E5EE, 0x1E5EF), (0x1E6E3, 0x1E6E3), (0x1E6E6, 0x1E6E6),
   (0x1E6EE, 0x1E6EF), (0x1E6F5, 0x1E6F5), (0x1E8D0, 0x1E8D6), (0x1E944, 0x1E94A),
   (0xE0100, 0xE01EF)]

/-- The bidirectional classes a label check tells apart; every other class is `other`, and a
code point that no range names is left-to-right. -/
inductive BidiClass where
  | l | r | al | en | es | et | cs | nsm | bn | on | an | other
deriving DecidableEq, Repr

/-- The code points whose bidirectional class is not left-to-right, with their class. -/
def bidiRanges : List (Nat × Nat × BidiClass) :=
  [(0x0000, 0x0008, .bn), (0x0009, 0x000D, .other), (0x000E, 0x001B, .bn),
   (0x001C, 0x0020, .other), (0x0021, 0x0022, .on), (0x0023, 0x0025, .et), (0x0026, 0x002A, .on),
   (0x002B, 0x002B, .es), (0x002C, 0x002C, .cs), (0x002D, 0x002D, .es), (0x002E, 0x002F, .cs),
   (0x0030, 0x0039, .en), (0x003A, 0x003A, .cs), (0x003B, 0x0040, .on), (0x005B, 0x0060, .on),
   (0x007B, 0x007E, .on), (0x007F, 0x0084, .bn), (0x0085, 0x0085, .other), (0x0086, 0x009F, .bn),
   (0x00A0, 0x00A0, .cs), (0x00A1, 0x00A1, .on), (0x00A2, 0x00A5, .et), (0x00A6, 0x00A9, .on),
   (0x00AB, 0x00AC, .on), (0x00AD, 0x00AD, .bn), (0x00AE, 0x00AF, .on), (0x00B0, 0x00B1, .et),
   (0x00B2, 0x00B3, .en), (0x00B4, 0x00B4, .on), (0x00B6, 0x00B8, .on), (0x00B9, 0x00B9, .en),
   (0x00BB, 0x00BF, .on), (0x00D7, 0x00D7, .on), (0x00F7, 0x00F7, .on), (0x02B9, 0x02BA, .on),
   (0x02C2, 0x02CF, .on), (0x02D2, 0x02DF, .on), (0x02E5, 0x02ED, .on), (0x02EF, 0x02FF, .on),
   (0x0300, 0x036F, .nsm), (0x0374, 0x0375, .on), (0x037E, 0x037E, .on), (0x0384, 0x0385, .on),
   (0x0387, 0x0387, .on), (0x03F6, 0x03F6, .on), (0x0483, 0x0489, .nsm), (0x058A, 0x058A, .on),
   (0x058D, 0x058E, .on), (0x058F, 0x058F, .et), (0x0590, 0x0590, .r), (0x0591, 0x05BD, .nsm),
   (0x05BE, 0x05BE, .r), (0x05BF, 0x05BF, .nsm), (0x05C0, 0x05C0, .r), (0x05C1, 0x05C2, .nsm),
   (0x05C3, 0x05C3, .r), (0x05C4, 0x05C5, .nsm), (0x05C6, 0x05C6, .r), (0x05C7, 0x05C7, .nsm),
   (0x05C8, 0x05FF, .r), (0x0600, 0x0605, .an), (0x0606, 0x0607, .on), (0x0608, 0x0608, .al),
   (0x0609, 0x060A, .et), (0x060B, 0x060B, .al), (0x060C, 0x060C, .cs), (0x060D, 0x060D, .al),
   (0x060E, 0x060F, .on), (0x0610, 0x061A, .nsm), (0x061B, 0x064A, .al), (0x064B, 0x065F, .nsm),
   (0x0660, 0x0669, .an), (0x066A, 0x066A, .et), (0x066B, 0x066C, .an), (0x066D, 0x066F, .al),
   (0x0670, 0x0670, .nsm), (0x0671, 0x06D5, .al), (0x06D6, 0x06DC, .nsm), (0x06DD, 0x06DD, .an),
   (0x06DE, 0x06DE, .on), (0x06DF, 0x06E4, .nsm), (0x06E5, 0x06E6, .al), (0x06E7, 0x06E8, .nsm),
   (0x06E9, 0x06E9, .on), (0x06EA, 0x06ED, .nsm), (0x06EE, 0x06EF, .al), (0x06F0, 0x06F9, .en),
   (0x06FA, 0x0710, .al), (0x0711, 0x0711, .nsm), (0x0712, 0x072F, .al), (0x0730, 0x074A, .nsm),
   (0x074B, 0x07A5, .al), (0x07A6, 0x07B0, .nsm), (0x07B1, 0x07BF, .al), (0x07C0, 0x07EA, .r),
   (0x07EB, 0x07F3, .nsm), (0x07F4, 0x07F5, .r), (0x07F6, 0x07F9, .on), (0x07FA, 0x07FC, .r),
   (0x07FD, 0x07FD, .nsm), (0x07FE, 0x0815, .r), (0x0816, 0x0819, .nsm), (0x081A, 0x081A, .r),
   (0x081B, 0x0823, .nsm), (0x0824, 0x0824, .r), (0x0825, 0x0827, .nsm), (0x0828, 0x0828, .r),
   (0x0829, 0x082D, .nsm), (0x082E, 0x0858, .r), (0x0859, 0x085B, .nsm), (0x085C, 0x085F, .r),
   (0x0860, 0x088F, .al), (0x0890, 0x0891, .an), (0x0892, 0x0897, .al), (0x0898, 0x089F, .nsm),
   (0x08A0, 0x08C9, .al), (0x08CA, 0x08E1, .nsm), (0x08E2, 0x08E2, .an), (0x08E3, 0x0902, .nsm),
   (0x093A, 0x093A, .nsm), (0x093C, 0x093C, .nsm), (0x0941, 0x0948, .nsm), (0x094D, 0x094D, .nsm),
   (0x0951, 0x0957, .nsm), (0x0962, 0x0963, .nsm), (0x0981, 0x0981, .nsm), (0x09BC, 0x09BC, .nsm),
   (0x09C1, 0x09C4, .nsm), (0x09CD, 0x09CD, .nsm), (0x09E2, 0x09E3, .nsm), (0x09F2, 0x09F3, .et),
   (0x09FB, 0x09FB, .et), (0x09FE, 0x09FE, .nsm), (0x0A01, 0x0A02, .nsm), (0x0A3C, 0x0A3C, .nsm),
   (0x0A41, 0x0A42, .nsm), (0x0A47, 0x0A48, .nsm), (0x0A4B, 0x0A4D, .nsm), (0x0A51, 0x0A51, .nsm),
   (0x0A70, 0x0A71, .nsm), (0x0A75, 0x0A75, .nsm), (0x0A81, 0x0A82, .nsm), (0x0ABC, 0x0ABC, .nsm),
   (0x0AC1, 0x0AC5, .nsm), (0x0AC7, 0x0AC8, .nsm), (0x0ACD, 0x0ACD, .nsm), (0x0AE2, 0x0AE3, .nsm),
   (0x0AF1, 0x0AF1, .et), (0x0AFA, 0x0AFF, .nsm), (0x0B01, 0x0B01, .nsm), (0x0B3C, 0x0B3C, .nsm),
   (0x0B3F, 0x0B3F, .nsm), (0x0B41, 0x0B44, .nsm), (0x0B4D, 0x0B4D, .nsm), (0x0B55, 0x0B56, .nsm),
   (0x0B62, 0x0B63, .nsm), (0x0B82, 0x0B82, .nsm), (0x0BC0, 0x0BC0, .nsm), (0x0BCD, 0x0BCD, .nsm),
   (0x0BF3, 0x0BF8, .on), (0x0BF9, 0x0BF9, .et), (0x0BFA, 0x0BFA, .on), (0x0C00, 0x0C00, .nsm),
   (0x0C04, 0x0C04, .nsm), (0x0C3C, 0x0C3C, .nsm), (0x0C3E, 0x0C40, .nsm), (0x0C46, 0x0C48, .nsm),
   (0x0C4A, 0x0C4D, .nsm), (0x0C55, 0x0C56, .nsm), (0x0C62, 0x0C63, .nsm), (0x0C78, 0x0C7E, .on),
   (0x0C81, 0x0C81, .nsm), (0x0CBC, 0x0CBC, .nsm), (0x0CCC, 0x0CCD, .nsm), (0x0CE2, 0x0CE3, .nsm),
   (0x0D00, 0x0D01, .nsm), (0x0D3B, 0x0D3C, .nsm), (0x0D41, 0x0D44, .nsm), (0x0D4D, 0x0D4D, .nsm),
   (0x0D62, 0x0D63, .nsm), (0x0D81, 0x0D81, .nsm), (0x0DCA, 0x0DCA, .nsm), (0x0DD2, 0x0DD4, .nsm),
   (0x0DD6, 0x0DD6, .nsm), (0x0E31, 0x0E31, .nsm), (0x0E34, 0x0E3A, .nsm), (0x0E3F, 0x0E3F, .et),
   (0x0E47, 0x0E4E, .nsm), (0x0EB1, 0x0EB1, .nsm), (0x0EB4, 0x0EBC, .nsm), (0x0EC8, 0x0ECE, .nsm),
   (0x0F18, 0x0F19, .nsm), (0x0F35, 0x0F35, .nsm), (0x0F37, 0x0F37, .nsm), (0x0F39, 0x0F39, .nsm),
   (0x0F3A, 0x0F3D, .on), (0x0F71, 0x0F7E, .nsm), (0x0F80, 0x0F84, .nsm), (0x0F86, 0x0F87, .nsm),
   (0x0F8D, 0x0F97, .nsm), (0x0F99, 0x0FBC, .nsm), (0x0FC6, 0x0FC6, .nsm), (0x102D, 0x1030, .nsm),
   (0x1032, 0x1037, .nsm), (0x1039, 0x103A, .nsm), (0x103D, 0x103E, .nsm), (0x1058, 0x1059, .nsm),
   (0x105E, 0x1060, .nsm), (0x1071, 0x1074, .nsm), (0x1082, 0x1082, .nsm), (0x1085, 0x1086, .nsm),
   (0x108D, 0x108D, .nsm), (0x109D, 0x109D, .nsm), (0x135D, 0x135F, .nsm), (0x1390, 0x1399, .on),
   (0x1400, 0x1400, .on), (0x1680, 0x1680, .other), (0x169B, 0x169C, .on), (0x1712, 0x1714, .nsm),
   (0x1732, 0x1733, .nsm), (0x1752, 0x1753, .nsm), (0x1772, 0x1773, .nsm), (0x17B4, 0x17B5, .nsm),
   (0x17B7, 0x17BD, .nsm), (0x17C6, 0x17C6, .nsm), (0x17C9, 0x17D3, .nsm), (0x17DB, 0x17DB, .et),
   (0x17DD, 0x17DD, .nsm), (0x17F0, 0x17F9, .on), (0x1800, 0x180A, .on), (0x180B, 0x180D, .nsm),
   (0x180E, 0x180E, .bn), (0x180F, 0x180F, .nsm), (0x1885, 0x1886, .nsm), (0x18A9, 0x18A9, .nsm),
   (0x1920, 0x1922, .nsm), (0x1927, 0x1928, .nsm), (0x1932, 0x1932, .nsm), (0x1939, 0x193B, .nsm),
   (0x1940, 0x1940, .on), (0x1944, 0x1945, .on), (0x19DE, 0x19FF, .on), (0x1A17, 0x1A18, .nsm),
   (0x1A1B, 0x1A1B, .nsm), (0x1A56, 0x1A56, .nsm), (0x1A58, 0x1A5E, .nsm), (0x1A60, 0x1A60, .nsm),
   (0x1A62, 0x1A62, .nsm), (0x1A65, 0x1A6C, .nsm), (0x1A73, 0x1A7C, .nsm), (0x1A7F, 0x1A7F, .nsm),
   (0x1AB0, 0x1ACE, .nsm), (0x1B00, 0x1B03, .nsm), (0x1B34, 0x1B34, .nsm), (0x1B36, 0x1B3A, .nsm),
   (0x1B3C, 0x1B3C, .nsm), (0x1B42, 0x1B42, .nsm), (0x1B6B, 0x1B73, .nsm), (0x1B80, 0x1B81, .nsm),
   (0x1BA2, 0x1BA5, .nsm), (0x1BA8, 0x1BA9, .nsm), (0x1BAB, 0x1BAD, .nsm), (0x1BE6, 0x1BE6, .nsm),
   (0x1BE8, 0x1BE9, .nsm), (0x1BED, 0x1BED, .nsm), (0x1BEF, 0x1BF1, .nsm), (0x1C2C, 0x1C33, .nsm),
   (0x1C36, 0x1C37, .nsm), (0x1CD0, 0x1CD2, .nsm), (0x1CD4, 0x1CE0, .nsm), (0x1CE2, 0x1CE8, .nsm),
   (0x1CED, 0x1CED, .nsm), (0x1CF4, 0x1CF4, .nsm), (0x1CF8, 0x1CF9, .nsm), (0x1DC0, 0x1DFF, .nsm),
   (0x1FBD, 0x1FBD, .on), (0x1FBF, 0x1FC1, .on), (0x1FCD, 0x1FCF, .on), (0x1FDD, 0x1FDF, .on),
   (0x1FED, 0x1FEF, .on), (0x1FFD, 0x1FFE, .on), (0x2000, 0x200A, .other), (0x200B, 0x200D, .bn),
   (0x200F, 0x200F, .r), (0x2010, 0x2027, .on), (0x2028, 0x202E, .other), (0x202F, 0x202F, .cs),
   (0x2030, 0x2034, .et), (0x2035, 0x2043, .on), (0x2044, 0x2044, .cs), (0x2045, 0x205E, .on),
   (0x205F, 0x205F, .other), (0x2060, 0x2065, .bn), (0x2066, 0x2069, .other),
   (0x206A, 0x206F, .bn), (0x2070, 0x2070, .en), (0x2074, 0x2079, .en), (0x207A, 0x207B, .es),
   (0x207C, 0x207E, .on), (0x2080, 0x2089, .en), (0x208A, 0x208B, .es), (0x208C, 0x208E, .on),
   (0x20A0, 0x20CF, .et), (0x20D0, 0x20F0, .nsm), (0x2100, 0x2101, .on), (0x2103, 0x2106, .on),
   (0x2108, 0x2109, .on), (0x2114, 0x2114, .on), (0x2116, 0x2118, .on), (0x211E, 0x2123, .on),
   (0x2125, 0x2125, .on), (0x2127, 0x2127, .on), (0x2129, 0x2129, .on), (0x212E, 0x212E, .et),
   (0x213A, 0x213B, .on), (0x2140, 0x2144, .on), (0x214A, 0x214D, .on), (0x2150, 0x215F, .on),
   (0x2189, 0x218B, .on), (0x2190, 0x2211, .on), (0x2212, 0x2212, .es), (0x2213, 0x2213, .et),
   (0x2214, 0x2335, .on), (0x237B, 0x2394, .on), (0x2396, 0x2426, .on), (0x2440, 0x244A, .on),
   (0x2460, 0x2487, .on), (0x2488, 0x249B, .en), (0x24EA, 0x26AB, .on), (0x26AD, 0x27FF, .on),
   (0x2900, 0x2B73, .on), (0x2B76, 0x2B95, .on), (0x2B97, 0x2BFF, .on), (0x2CE5, 0x2CEA, .on),
   (0x2CEF, 0x2CF1, .nsm), (0x2CF9, 0x2CFF, .on), (0x2D7F, 0x2D7F, .nsm), (0x2DE0, 0x2DFF, .nsm),
   (0x2E00, 0x2E5D, .on), (0x2E80, 0x2E99, .on), (0x2E9B, 0x2EF3, .on), (0x2F00, 0x2FD5, .on),
   (0x2FF0, 0x2FFB, .on), (0x3000, 0x3000, .other), (0x3001, 0x3004, .on), (0x3008, 0x3020, .on),
   (0x302A, 0x302D, .nsm), (0x3030, 0x3030, .on), (0x3036, 0x3037, .on), (0x303D, 0x303F, .on),
   (0x3099, 0x309A, .nsm), (0x309B, 0x309C, .on), (0x30A0, 0x30A0, .on), (0x30FB, 0x30FB, .on),
   (0x31C0, 0x31E3, .on), (0x321D, 0x321E, .on), (0x3250, 0x325F, .on), (0x327C, 0x327E, .on),
   (0x32B1, 0x32BF, .on), (0x32CC, 0x32CF, .on), (0x3377, 0x337A, .on), (0x33DE, 0x33DF, .on),
   (0x33FF, 0x33FF, .on), (0x4DC0, 0x4DFF, .on), (0xA490, 0xA4C6, .on), (0xA60D, 0xA60F, .on),
   (0xA66F, 0xA672, .nsm), (0xA673, 0xA673, .on), (0xA674, 0xA67D, .nsm), (0xA67E, 0xA67F, .on),
   (0xA69E, 0xA69F, .nsm), (0xA6F0, 0xA6F1, .nsm), (0xA700, 0xA721, .on), (0xA788, 0xA788, .on),
   (0xA802, 0xA802, .nsm), (0xA806, 0xA806, .nsm), (0xA80B, 0xA80B, .nsm), (0xA825, 0xA826, .nsm),
   (0xA828, 0xA82B, .on), (0xA82C, 0xA82C, .nsm), (0xA838, 0xA839, .et), (0xA874, 0xA877, .on),
   (0xA8C4, 0xA8C5, .nsm), (0xA8E0, 0xA8F1, .nsm), (0xA8FF, 0xA8FF, .nsm), (0xA926, 0xA92D, .nsm),
   (0xA947, 0xA951, .nsm), (0xA980, 0xA982, .nsm), (0xA9B3, 0xA9B3, .nsm), (0xA9B6, 0xA9B9, .nsm),
   (0xA9BC, 0xA9BD, .nsm), (0xA9E5, 0xA9E5, .nsm), (0xAA29, 0xAA2E, .nsm), (0xAA31, 0xAA32, .nsm),
   (0xAA35, 0xAA36, .nsm), (0xAA43, 0xAA43, .nsm), (0xAA4C, 0xAA4C, .nsm), (0xAA7C, 0xAA7C, .nsm),
   (0xAAB0, 0xAAB0, .nsm), (0xAAB2, 0xAAB4, .nsm), (0xAAB7, 0xAAB8, .nsm), (0xAABE, 0xAABF, .nsm),
   (0xAAC1, 0xAAC1, .nsm), (0xAAEC, 0xAAED, .nsm), (0xAAF6, 0xAAF6, .nsm), (0xAB6A, 0xAB6B, .on),
   (0xABE5, 0xABE5, .nsm), (0xABE8, 0xABE8, .nsm), (0xABED, 0xABED, .nsm), (0xFB1D, 0xFB1D, .r),
   (0xFB1E, 0xFB1E, .nsm), (0xFB1F, 0xFB28, .r), (0xFB29, 0xFB29, .es), (0xFB2A, 0xFB4F, .r),
   (0xFB50, 0xFD3D, .al), (0xFD3E, 0xFD4F, .on), (0xFD50, 0xFDCE, .al), (0xFDCF, 0xFDCF, .on),
   (0xFDD0, 0xFDEF, .bn), (0xFDF0, 0xFDFC, .al), (0xFDFD, 0xFDFF, .on), (0xFE00, 0xFE0F, .nsm),
   (0xFE10, 0xFE19, .on), (0xFE20, 0xFE2F, .nsm), (0xFE30, 0xFE4F, .on), (0xFE50, 0xFE50, .cs),
   (0xFE51, 0xFE51, .on), (0xFE52, 0xFE52, .cs), (0xFE54, 0xFE54, .on), (0xFE55, 0xFE55, .cs),
   (0xFE56, 0xFE5E, .on), (0xFE5F, 0xFE5F, .et), (0xFE60, 0xFE61, .on), (0xFE62, 0xFE63, .es),
   (0xFE64, 0xFE66, .on), (0xFE68, 0xFE68, .on), (0xFE69, 0xFE6A, .et), (0xFE6B, 0xFE6B, .on),
   (0xFE70, 0xFEFE, .al), (0xFEFF, 0xFEFF, .bn), (0xFF01, 0xFF02, .on), (0xFF03, 0xFF05, .et),
   (0xFF06, 0xFF0A, .on), (0xFF0B, 0xFF0B, .es), (0xFF0C, 0xFF0C, .cs), (0xFF0D, 0xFF0D, .es),
   (0xFF0E, 0xFF0F, .cs), (0xFF10, 0xFF19, .en), (0xFF1A, 0xFF1A, .cs), (0xFF1B, 0xFF20, .on),
   (0xFF3B, 0xFF40, .on), (0xFF5B, 0xFF65, .on), (0xFFE0, 0xFFE1, .et), (0xFFE2, 0xFFE4, .on),
   (0xFFE5, 0xFFE6, .et), (0xFFE8, 0xFFEE, .on), (0xFFF0, 0xFFF8, .bn), (0xFFF9, 0xFFFD, .on),
   (0xFFFE, 0xFFFF, .bn), (0x10101, 0x10101, .on), (0x10140, 0x1018C, .on),
   (0x10190, 0x1019C, .on), (0x101A0, 0x101A0, .on), (0x101FD, 0x101FD, .nsm),
   (0x102E0, 0x102E0, .nsm), (0x102E1, 0x102FB, .en), (0x10376, 0x1037A, .nsm),
   (0x10800, 0x1091E, .r), (0x1091F, 0x1091F, .on), (0x10920, 0x10A00, .r),
   (0x10A01, 0x10A03, .nsm), (0x10A04, 0x10A04, .r), (0x10A05, 0x10A06, .nsm),
   (0x10A07, 0x10A0B, .r), (0x10A0C, 0x10A0F, .nsm), (0x10A10, 0x10A37, .r),
   (0x10A38, 0x10A3A, .nsm), (0x10A3B, 0x10A3E, .r), (0x10A3F, 0x10A3F, .nsm),
   (0x10A40, 0x10AE4, .r), (0x10AE5, 0x10AE6, .nsm), (0x10AE7, 0x10B38, .r),
   (0x10B39, 0x10B3F, .on), (0x10B40, 0x10CFF, .r), (0x10D00, 0x10D23, .al),
   (0x10D24, 0x10D27, .nsm), (0x10D28, 0x10D2F, .al), (0x10D30, 0x10D39, .an),
   (0x10D3A, 0x10D3F, .al), (0x10D40, 0x10E5F, .r), (0x10E60, 0x10E7E, .an),
   (0x10E7F, 0x10EAA, .r), (0x10EAB, 0x10EAC, .nsm), (0x10EAD, 0x10EBF, .r),
   (0x10EC0, 0x10EFC, .al), (0x10EFD, 0x10EFF, .nsm), (0x10F00, 0x10F2F, .r),
   (0x10F30, 0x10F45, .al), (0x10F46, 0x10F50, .nsm), (0x10F51, 0x10F6F, .al),
   (0x10F70, 0x10F81, .r), (0x10F82, 0x10F85, .nsm), (0x10F86, 0x10FFF, .r),
   (0x11001, 0x11001, .nsm), (0x11038, 0x11046, .nsm), (0x11052, 0x11065, .on),
   (0x11070, 0x11070, .nsm), (0x11073, 0x11074, .nsm), (0x1107F, 0x11081, .nsm),
   (0x110B3, 0x110B6, .nsm), (0x110B9, 0x110BA, .nsm), (0x110C2, 0x110C2, .nsm),
   (0x11100, 0x11102, .nsm), (0x11127, 0x1112B, .nsm), (0x1112D, 0x11134, .nsm),
   (0x11173, 0x11173, .nsm), (0x11180, 0x11181, .nsm), (0x111B6, 0x111BE, .nsm),
   (0x111C9, 0x111CC, .nsm), (0x111CF, 0x111CF, .nsm), (0x1122F, 0x11231, .nsm),
   (0x11234, 0x11234, .nsm), (0x11236, 0x11237, .nsm), (0x1123E, 0x1123E, .nsm),
   (0x11241, 0x11241, .nsm), (0x112DF, 0x112DF, .nsm), (0x112E3, 0x112EA, .nsm),
   (0x11300, 0x11301, .nsm), (0x1133B, 0x1133C, .nsm), (0x11340, 0x11340, .nsm),
   (0x11366, 0x1136C, .nsm), (0x11370, 0x11374, .nsm), (0x11438, 0x1143F, .nsm),
   (0x11442, 0x11444, .nsm), (0x11446, 0x11446, .nsm), (0x1145E, 0x1145E, .nsm),
   (0x114B3, 0x114B8, .nsm), (0x114BA, 0x114BA, .nsm), (0x114BF, 0x114C0, .nsm),
   (0x114C2, 0x114C3, .nsm), (0x115B2, 0x115B5, .nsm), (0x115BC, 0x115BD, .nsm),
   (0x115BF, 0x115C0, .nsm), (0x115DC, 0x115DD, .nsm), (0x11633, 0x1163A, .nsm),
   (0x1163D, 0x1163D, .nsm), (0x1163F, 0x11640, .nsm), (0x11660, 0x1166C, .on),
   (0x116AB, 0x116AB, .nsm), (0x116AD, 0x116AD, .nsm), (0x116B0, 0x116B5, .nsm),
   (0x116B7, 0x116B7, .nsm), (0x1171D, 0x1171F, .nsm), (0x11722, 0x11725, .nsm),
   (0x11727, 0x1172B, .nsm), (0x1182F, 0x11837, .nsm), (0x11839, 0x1183A, .nsm),
   (0x1193B, 0x1193C, .nsm), (0x1193E, 0x1193E, .nsm), (0x11943, 0x11943, .nsm),
   (0x119D4, 0x119D7, .nsm), (0x119DA, 0x119DB, .nsm), (0x119E0, 0x119E0, .nsm),
   (0x11A01, 0x11A06, .nsm), (0x11A09, 0x11A0A, .nsm), (0x11A33, 0x11A38, .nsm),
   (0x11A3B, 0x11A3E, .nsm), (0x11A47, 0x11A47, .nsm), (0x11A51, 0x11A56, .nsm),
   (0x11A59, 0x11A5B, .nsm), (0x11A8A, 0x11A96, .nsm), (0x11A98, 0x11A99, .nsm),
   (0x11C30, 0x11C36, .nsm), (0x11C38, 0x11C3D, .nsm), (0x11C92, 0x11CA7, .nsm),
   (0x11CAA, 0x11CB0, .nsm), (0x11CB2, 0x11CB3, .nsm), (0x11CB5, 0x11CB6, .nsm),
   (0x11D31, 0x11D36, .nsm), (0x11D3A, 0x11D3A, .nsm), (0x11D3C, 0x11D3D, .nsm),
   (0x11D3F, 0x11D45, .nsm), (0x11D47, 0x11D47, .nsm), (0x11D90, 0x11D91, .nsm),
   (0x11D95, 0x11D95, .nsm), (0x11D97, 0x11D97, .nsm), (0x11EF3, 0x11EF4, .nsm),
   (0x11F00, 0x11F01, .nsm), (0x11F36, 0x11F3A, .nsm), (0x11F40, 0x11F40, .nsm),
   (0x11F42, 0x11F42, .nsm), (0x11FD5, 0x11FDC, .on), (0x11FDD, 0x11FE0, .et),
   (0x11FE1, 0x11FF1, .on), (0x13440, 0x13440, .nsm), (0x13447, 0x13455, .nsm),
   (0x16AF0, 0x16AF4, .nsm), (0x16B30, 0x16B36, .nsm), (0x16F4F, 0x16F4F, .nsm),
   (0x16F8F, 0x16F92, .nsm), (0x16FE2, 0x16FE2, .on), (0x16FE4, 0x16FE4, .nsm),
   (0x1BC9D, 0x1BC9E, .nsm), (0x1BCA0, 0x1BCA3, .bn), (0x1CF00, 0x1CF2D, .nsm),
   (0x1CF30, 0x1CF46, .nsm), (0x1D167, 0x1D169, .nsm), (0x1D173, 0x1D17A, .bn),
   (0x1D17B, 0x1D182, .nsm), (0x1D185, 0x1D18B, .nsm), (0x1D1AA, 0x1D1AD, .nsm),
   (0x1D1E9, 0x1D1EA, .on), (0x1D200, 0x1D241, .on), (0x1D242, 0x1D244, .nsm),
   (0x1D245, 0x1D245, .on), (0x1D300, 0x1D356, .on), (0x1D6DB, 0x1D6DB, .on),
   (0x1D715, 0x1D715, .on), (0x1D74F, 0x1D74F, .on), (0x1D789, 0x1D789, .on),
   (0x1D7C3, 0x1D7C3, .on), (0x1D7CE, 0x1D7FF, .en), (0x1DA00, 0x1DA36, .nsm),
   (0x1DA3B, 0x1DA6C, .nsm), (0x1DA75, 0x1DA75, .nsm), (0x1DA84, 0x1DA84, .nsm),
   (0x1DA9B, 0x1DA9F, .nsm), (0x1DAA1, 0x1DAAF, .nsm), (0x1E000, 0x1E006, .nsm),
   (0x1E008, 0x1E018, .nsm), (0x1E01B, 0x1E021, .nsm), (0x1E023, 0x1E024, .nsm),
   (0x1E026, 0x1E02A, .nsm), (0x1E08F, 0x1E08F, .nsm), (0x1E130, 0x1E136, .nsm),
   (0x1E2AE, 0x1E2AE, .nsm), (0x1E2EC, 0x1E2EF, .nsm), (0x1E2FF, 0x1E2FF, .et),
   (0x1E4EC, 0x1E4EF, .nsm), (0x1E800, 0x1E8CF, .r), (0x1E8D0, 0x1E8D6, .nsm),
   (0x1E8D7, 0x1E943, .r), (0x1E944, 0x1E94A, .nsm), (0x1E94B, 0x1EC6F, .r),
   (0x1EC70, 0x1ECBF, .al), (0x1ECC0, 0x1ECFF, .r), (0x1ED00, 0x1ED4F, .al),
   (0x1ED50, 0x1EDFF, .r), (0x1EE00, 0x1EEEF, .al), (0x1EEF0, 0x1EEF1, .on),
   (0x1EEF2, 0x1EEFF, .al), (0x1EF00, 0x1EFFF, .r), (0x1F000, 0x1F02B, .on),
   (0x1F030, 0x1F093, .on), (0x1F0A0, 0x1F0AE, .on), (0x1F0B1, 0x1F0BF, .on),
   (0x1F0C1, 0x1F0CF, .on), (0x1F0D1, 0x1F0F5, .on), (0x1F100, 0x1F10A, .en),
   (0x1F10B, 0x1F10F, .on), (0x1F12F, 0x1F12F, .on), (0x1F16A, 0x1F16F, .on),
   (0x1F1AD, 0x1F1AD, .on), (0x1F260, 0x1F265, .on), (0x1F300, 0x1F6D7, .on),
   (0x1F6DC, 0x1F6EC, .on), (0x1F6F0, 0x1F6FC, .on), (0x1F700, 0x1F776, .on),
   (0x1F77B, 0x1F7D9, .on), (0x1F7E0, 0x1F7EB, .on), (0x1F7F0, 0x1F7F0, .on),
   (0x1F800, 0x1F80B, .on), (0x1F810, 0x1F847, .on), (0x1F850, 0x1F859, .on),
   (0x1F860, 0x1F887, .on), (0x1F890, 0x1F8AD, .on), (0x1F8B0, 0x1F8B1, .on),
   (0x1F900, 0x1FA53, .on), (0x1FA60, 0x1FA6D, .on), (0x1FA70, 0x1FA7C, .on),
   (0x1FA80, 0x1FA88, .on), (0x1FA90, 0x1FABD, .on), (0x1FABF, 0x1FAC5, .on),
   (0x1FACE, 0x1FADB, .on), (0x1FAE0, 0x1FAE8, .on), (0x1FAF0, 0x1FAF8, .on),
   (0x1FB00, 0x1FB92, .on), (0x1FB94, 0x1FBCA, .on), (0x1FBF0, 0x1FBF9, .en),
   (0x1FFFE, 0x1FFFF, .bn), (0x2FFFE, 0x2FFFF, .bn), (0x3FFFE, 0x3FFFF, .bn),
   (0x4FFFE, 0x4FFFF, .bn), (0x5FFFE, 0x5FFFF, .bn), (0x6FFFE, 0x6FFFF, .bn),
   (0x7FFFE, 0x7FFFF, .bn), (0x8FFFE, 0x8FFFF, .bn), (0x9FFFE, 0x9FFFF, .bn),
   (0xAFFFE, 0xAFFFF, .bn), (0xBFFFE, 0xBFFFF, .bn), (0xCFFFE, 0xCFFFF, .bn),
   (0xDFFFE, 0xE00FF, .bn), (0xE0100, 0xE01EF, .nsm), (0xE01F0, 0xE0FFF, .bn),
   (0xEFFFE, 0xEFFFF, .bn), (0xFFFFE, 0xFFFFF, .bn), (0x10FFFE, 0x10FFFF, .bn)]

/-- The joining types the joiner context tells apart; a code point that no range names does not
join. -/
inductive JoiningType where
  | dual | right | left | transparent
deriving DecidableEq, Repr

/-- The code points that join, with their joining type. -/
def joiningRanges : List (Nat × Nat × JoiningType) :=
  [(0x00AD, 0x00AD, .transparent), (0x0300, 0x036F, .transparent), (0x0483, 0x0489, .transparent),
   (0x0591, 0x05BD, .transparent), (0x05BF, 0x05BF, .transparent), (0x05C1, 0x05C2, .transparent),
   (0x05C4, 0x05C5, .transparent), (0x05C7, 0x05C7, .transparent), (0x0610, 0x061A, .transparent),
   (0x061C, 0x061C, .transparent), (0x0620, 0x0620, .dual), (0x0622, 0x0625, .right),
   (0x0626, 0x0626, .dual), (0x0627, 0x0627, .right), (0x0628, 0x0628, .dual),
   (0x0629, 0x0629, .right), (0x062A, 0x062E, .dual), (0x062F, 0x0632, .right),
   (0x0633, 0x063F, .dual), (0x0641, 0x0647, .dual), (0x0648, 0x0648, .right),
   (0x0649, 0x064A, .dual), (0x064B, 0x065F, .transparent), (0x066E, 0x066F, .dual),
   (0x0670, 0x0670, .transparent), (0x0671, 0x0673, .right), (0x0675, 0x0677, .right),
   (0x0678, 0x0687, .dual), (0x0688, 0x0699, .right), (0x069A, 0x06BF, .dual),
   (0x06C0, 0x06C0, .right), (0x06C1, 0x06C2, .dual), (0x06C3, 0x06CB, .right),
   (0x06CC, 0x06CC, .dual), (0x06CD, 0x06CD, .right), (0x06CE, 0x06CE, .dual),
   (0x06CF, 0x06CF, .right), (0x06D0, 0x06D1, .dual), (0x06D2, 0x06D3, .right),
   (0x06D5, 0x06D5, .right), (0x06D6, 0x06DC, .transparent), (0x06DF, 0x06E4, .transparent),
   (0x06E7, 0x06E8, .transparent), (0x06EA, 0x06ED, .transparent), (0x06EE, 0x06EF, .right),
   (0x06FA, 0x06FC, .dual), (0x06FF, 0x06FF, .dual), (0x070F, 0x070F, .transparent),
   (0x0710, 0x0710, .right), (0x0711, 0x0711, .transparent), (0x0712, 0x0714, .dual),
   (0x0715, 0x0719, .right), (0x071A, 0x071D, .dual), (0x071E, 0x071E, .right),
   (0x071F, 0x0727, .dual), (0x0728, 0x0728, .right), (0x0729, 0x0729, .dual),
   (0x072A, 0x072A, .right), (0x072B, 0x072B, .dual), (0x072C, 0x072C, .right),
   (0x072D, 0x072E, .dual), (0x072F, 0x072F, .right), (0x0730, 0x074A, .transparent),
   (0x074D, 0x074D, .right), (0x074E, 0x0758, .dual), (0x0759, 0x075B, .right),
   (0x075C, 0x076A, .dual), (0x076B, 0x076C, .right), (0x076D, 0x0770, .dual),
   (0x0771, 0x0771, .right), (0x0772, 0x0772, .dual), (0x0773, 0x0774, .right),
   (0x0775, 0x0777, .dual), (0x0778, 0x0779, .right), (0x077A, 0x077F, .dual),
   (0x07A6, 0x07B0, .transparent), (0x07CA, 0x07EA, .dual), (0x07EB, 0x07F3, .transparent),
   (0x07FD, 0x07FD, .transparent), (0x0816, 0x0819, .transparent), (0x081B, 0x0823, .transparent),
   (0x0825, 0x0827, .transparent), (0x0829, 0x082D, .transparent), (0x0840, 0x0840, .right),
   (0x0841, 0x0845, .dual), (0x0846, 0x0847, .right), (0x0848, 0x0848, .dual),
   (0x0849, 0x0849, .right), (0x084A, 0x0853, .dual), (0x0854, 0x0854, .right),
   (0x0855, 0x0855, .dual), (0x0856, 0x0858, .right), (0x0859, 0x085B, .transparent),
   (0x0860, 0x0860, .dual), (0x0862, 0x0865, .dual), (0x0867, 0x0867, .right),
   (0x0868, 0x0868, .dual), (0x0869, 0x086A, .right), (0x0870, 0x0882, .right),
   (0x0886, 0x0886, .dual), (0x0889, 0x088D, .dual), (0x088E, 0x088E, .right),
   (0x0898, 0x089F, .transparent), (0x08A0, 0x08A9, .dual), (0x08AA, 0x08AC, .right),
   (0x08AE, 0x08AE, .right), (0x08AF, 0x08B0, .dual), (0x08B1, 0x08B2, .right),
   (0x08B3, 0x08B8, .dual), (0x08B9, 0x08B9, .right), (0x08BA, 0x08C8, .dual),
   (0x08CA, 0x08E1, .transparent), (0x08E3, 0x0902, .transparent), (0x093A, 0x093A, .transparent),
   (0x093C, 0x093C, .transparent), (0x0941, 0x0948, .transparent), (0x094D, 0x094D, .transparent),
   (0x0951, 0x0957, .transparent), (0x0962, 0x0963, .transparent), (0x0981, 0x0981, .transparent),
   (0x09BC, 0x09BC, .transparent), (0x09C1, 0x09C4, .transparent), (0x09CD, 0x09CD, .transparent),
   (0x09E2, 0x09E3, .transparent), (0x09FE, 0x09FE, .transparent), (0x0A01, 0x0A02, .transparent),
   (0x0A3C, 0x0A3C, .transparent), (0x0A41, 0x0A42, .transparent), (0x0A47, 0x0A48, .transparent),
   (0x0A4B, 0x0A4D, .transparent), (0x0A51, 0x0A51, .transparent), (0x0A70, 0x0A71, .transparent),
   (0x0A75, 0x0A75, .transparent), (0x0A81, 0x0A82, .transparent), (0x0ABC, 0x0ABC, .transparent),
   (0x0AC1, 0x0AC5, .transparent), (0x0AC7, 0x0AC8, .transparent), (0x0ACD, 0x0ACD, .transparent),
   (0x0AE2, 0x0AE3, .transparent), (0x0AFA, 0x0AFF, .transparent), (0x0B01, 0x0B01, .transparent),
   (0x0B3C, 0x0B3C, .transparent), (0x0B3F, 0x0B3F, .transparent), (0x0B41, 0x0B44, .transparent),
   (0x0B4D, 0x0B4D, .transparent), (0x0B55, 0x0B56, .transparent), (0x0B62, 0x0B63, .transparent),
   (0x0B82, 0x0B82, .transparent), (0x0BC0, 0x0BC0, .transparent), (0x0BCD, 0x0BCD, .transparent),
   (0x0C00, 0x0C00, .transparent), (0x0C04, 0x0C04, .transparent), (0x0C3C, 0x0C3C, .transparent),
   (0x0C3E, 0x0C40, .transparent), (0x0C46, 0x0C48, .transparent), (0x0C4A, 0x0C4D, .transparent),
   (0x0C55, 0x0C56, .transparent), (0x0C62, 0x0C63, .transparent), (0x0C81, 0x0C81, .transparent),
   (0x0CBC, 0x0CBC, .transparent), (0x0CBF, 0x0CBF, .transparent), (0x0CC6, 0x0CC6, .transparent),
   (0x0CCC, 0x0CCD, .transparent), (0x0CE2, 0x0CE3, .transparent), (0x0D00, 0x0D01, .transparent),
   (0x0D3B, 0x0D3C, .transparent), (0x0D41, 0x0D44, .transparent), (0x0D4D, 0x0D4D, .transparent),
   (0x0D62, 0x0D63, .transparent), (0x0D81, 0x0D81, .transparent), (0x0DCA, 0x0DCA, .transparent),
   (0x0DD2, 0x0DD4, .transparent), (0x0DD6, 0x0DD6, .transparent), (0x0E31, 0x0E31, .transparent),
   (0x0E34, 0x0E3A, .transparent), (0x0E47, 0x0E4E, .transparent), (0x0EB1, 0x0EB1, .transparent),
   (0x0EB4, 0x0EBC, .transparent), (0x0EC8, 0x0ECE, .transparent), (0x0F18, 0x0F19, .transparent),
   (0x0F35, 0x0F35, .transparent), (0x0F37, 0x0F37, .transparent), (0x0F39, 0x0F39, .transparent),
   (0x0F71, 0x0F7E, .transparent), (0x0F80, 0x0F84, .transparent), (0x0F86, 0x0F87, .transparent),
   (0x0F8D, 0x0F97, .transparent), (0x0F99, 0x0FBC, .transparent), (0x0FC6, 0x0FC6, .transparent),
   (0x102D, 0x1030, .transparent), (0x1032, 0x1037, .transparent), (0x1039, 0x103A, .transparent),
   (0x103D, 0x103E, .transparent), (0x1058, 0x1059, .transparent), (0x105E, 0x1060, .transparent),
   (0x1071, 0x1074, .transparent), (0x1082, 0x1082, .transparent), (0x1085, 0x1086, .transparent),
   (0x108D, 0x108D, .transparent), (0x109D, 0x109D, .transparent), (0x135D, 0x135F, .transparent),
   (0x1712, 0x1714, .transparent), (0x1732, 0x1733, .transparent), (0x1752, 0x1753, .transparent),
   (0x1772, 0x1773, .transparent), (0x17B4, 0x17B5, .transparent), (0x17B7, 0x17BD, .transparent),
   (0x17C6, 0x17C6, .transparent), (0x17C9, 0x17D3, .transparent), (0x17DD, 0x17DD, .transparent),
   (0x1807, 0x1807, .dual), (0x180B, 0x180D, .transparent), (0x180F, 0x180F, .transparent),
   (0x1820, 0x1878, .dual), (0x1885, 0x1886, .transparent), (0x1887, 0x18A8, .dual),
   (0x18A9, 0x18A9, .transparent), (0x18AA, 0x18AA, .dual), (0x1920, 0x1922, .transparent),
   (0x1927, 0x1928, .transparent), (0x1932, 0x1932, .transparent), (0x1939, 0x193B, .transparent),
   (0x1A17, 0x1A18, .transparent), (0x1A1B, 0x1A1B, .transparent), (0x1A56, 0x1A56, .transparent),
   (0x1A58, 0x1A5E, .transparent), (0x1A60, 0x1A60, .transparent), (0x1A62, 0x1A62, .transparent),
   (0x1A65, 0x1A6C, .transparent), (0x1A73, 0x1A7C, .transparent), (0x1A7F, 0x1A7F, .transparent),
   (0x1AB0, 0x1ACE, .transparent), (0x1B00, 0x1B03, .transparent), (0x1B34, 0x1B34, .transparent),
   (0x1B36, 0x1B3A, .transparent), (0x1B3C, 0x1B3C, .transparent), (0x1B42, 0x1B42, .transparent),
   (0x1B6B, 0x1B73, .transparent), (0x1B80, 0x1B81, .transparent), (0x1BA2, 0x1BA5, .transparent),
   (0x1BA8, 0x1BA9, .transparent), (0x1BAB, 0x1BAD, .transparent), (0x1BE6, 0x1BE6, .transparent),
   (0x1BE8, 0x1BE9, .transparent), (0x1BED, 0x1BED, .transparent), (0x1BEF, 0x1BF1, .transparent),
   (0x1C2C, 0x1C33, .transparent), (0x1C36, 0x1C37, .transparent), (0x1CD0, 0x1CD2, .transparent),
   (0x1CD4, 0x1CE0, .transparent), (0x1CE2, 0x1CE8, .transparent), (0x1CED, 0x1CED, .transparent),
   (0x1CF4, 0x1CF4, .transparent), (0x1CF8, 0x1CF9, .transparent), (0x1DC0, 0x1DFF, .transparent),
   (0x200B, 0x200B, .transparent), (0x200E, 0x200F, .transparent), (0x202A, 0x202E, .transparent),
   (0x2060, 0x2064, .transparent), (0x206A, 0x206F, .transparent), (0x20D0, 0x20F0, .transparent),
   (0x2CEF, 0x2CF1, .transparent), (0x2D7F, 0x2D7F, .transparent), (0x2DE0, 0x2DFF, .transparent),
   (0x302A, 0x302D, .transparent), (0x3099, 0x309A, .transparent), (0xA66F, 0xA672, .transparent),
   (0xA674, 0xA67D, .transparent), (0xA69E, 0xA69F, .transparent), (0xA6F0, 0xA6F1, .transparent),
   (0xA802, 0xA802, .transparent), (0xA806, 0xA806, .transparent), (0xA80B, 0xA80B, .transparent),
   (0xA825, 0xA826, .transparent), (0xA82C, 0xA82C, .transparent), (0xA840, 0xA871, .dual),
   (0xA872, 0xA872, .left), (0xA8C4, 0xA8C5, .transparent), (0xA8E0, 0xA8F1, .transparent),
   (0xA8FF, 0xA8FF, .transparent), (0xA926, 0xA92D, .transparent), (0xA947, 0xA951, .transparent),
   (0xA980, 0xA982, .transparent), (0xA9B3, 0xA9B3, .transparent), (0xA9B6, 0xA9B9, .transparent),
   (0xA9BC, 0xA9BD, .transparent), (0xA9E5, 0xA9E5, .transparent), (0xAA29, 0xAA2E, .transparent),
   (0xAA31, 0xAA32, .transparent), (0xAA35, 0xAA36, .transparent), (0xAA43, 0xAA43, .transparent),
   (0xAA4C, 0xAA4C, .transparent), (0xAA7C, 0xAA7C, .transparent), (0xAAB0, 0xAAB0, .transparent),
   (0xAAB2, 0xAAB4, .transparent), (0xAAB7, 0xAAB8, .transparent), (0xAABE, 0xAABF, .transparent),
   (0xAAC1, 0xAAC1, .transparent), (0xAAEC, 0xAAED, .transparent), (0xAAF6, 0xAAF6, .transparent),
   (0xABE5, 0xABE5, .transparent), (0xABE8, 0xABE8, .transparent), (0xABED, 0xABED, .transparent),
   (0xFB1E, 0xFB1E, .transparent), (0xFE00, 0xFE0F, .transparent), (0xFE20, 0xFE2F, .transparent),
   (0xFEFF, 0xFEFF, .transparent), (0xFFF9, 0xFFFB, .transparent),
   (0x101FD, 0x101FD, .transparent), (0x102E0, 0x102E0, .transparent),
   (0x10376, 0x1037A, .transparent), (0x10A01, 0x10A03, .transparent),
   (0x10A05, 0x10A06, .transparent), (0x10A0C, 0x10A0F, .transparent),
   (0x10A38, 0x10A3A, .transparent), (0x10A3F, 0x10A3F, .transparent), (0x10AC0, 0x10AC4, .dual),
   (0x10AC5, 0x10AC5, .right), (0x10AC7, 0x10AC7, .right), (0x10AC9, 0x10ACA, .right),
   (0x10ACD, 0x10ACD, .left), (0x10ACE, 0x10AD2, .right), (0x10AD3, 0x10AD6, .dual),
   (0x10AD7, 0x10AD7, .left), (0x10AD8, 0x10ADC, .dual), (0x10ADD, 0x10ADD, .right),
   (0x10ADE, 0x10AE0, .dual), (0x10AE1, 0x10AE1, .right), (0x10AE4, 0x10AE4, .right),
   (0x10AE5, 0x10AE6, .transparent), (0x10AEB, 0x10AEE, .dual), (0x10AEF, 0x10AEF, .right),
   (0x10B80, 0x10B80, .dual), (0x10B81, 0x10B81, .right), (0x10B82, 0x10B82, .dual),
   (0x10B83, 0x10B85, .right), (0x10B86, 0x10B88, .dual), (0x10B89, 0x10B89, .right),
   (0x10B8A, 0x10B8B, .dual), (0x10B8C, 0x10B8C, .right), (0x10B8D, 0x10B8D, .dual),
   (0x10B8E, 0x10B8F, .right), (0x10B90, 0x10B90, .dual), (0x10B91, 0x10B91, .right),
   (0x10BA9, 0x10BAC, .right), (0x10BAD, 0x10BAE, .dual), (0x10D00, 0x10D00, .left),
   (0x10D01, 0x10D21, .dual), (0x10D22, 0x10D22, .right), (0x10D23, 0x10D23, .dual),
   (0x10D24, 0x10D27, .transparent), (0x10EAB, 0x10EAC, .transparent),
   (0x10EFD, 0x10EFF, .transparent), (0x10F30, 0x10F32, .dual), (0x10F33, 0x10F33, .right),
   (0x10F34, 0x10F44, .dual), (0x10F46, 0x10F50, .transparent), (0x10F51, 0x10F53, .dual),
   (0x10F54, 0x10F54, .right), (0x10F70, 0x10F73, .dual), (0x10F74, 0x10F75, .right),
   (0x10F76, 0x10F81, .dual), (0x10F82, 0x10F85, .transparent), (0x10FB0, 0x10FB0, .dual),
   (0x10FB2, 0x10FB3, .dual), (0x10FB4, 0x10FB6, .right), (0x10FB8, 0x10FB8, .dual),
   (0x10FB9, 0x10FBA, .right), (0x10FBB, 0x10FBC, .dual), (0x10FBD, 0x10FBD, .right),
   (0x10FBE, 0x10FBF, .dual), (0x10FC1, 0x10FC1, .dual), (0x10FC2, 0x10FC3, .right),
   (0x10FC4, 0x10FC4, .dual), (0x10FC9, 0x10FC9, .right), (0x10FCA, 0x10FCA, .dual),
   (0x10FCB, 0x10FCB, .left), (0x11001, 0x11001, .transparent), (0x11038, 0x11046, .transparent),
   (0x11070, 0x11070, .transparent), (0x11073, 0x11074, .transparent),
   (0x1107F, 0x11081, .transparent), (0x110B3, 0x110B6, .transparent),
   (0x110B9, 0x110BA, .transparent), (0x110C2, 0x110C2, .transparent),
   (0x11100, 0x11102, .transparent), (0x11127, 0x1112B, .transparent),
   (0x1112D, 0x11134, .transparent), (0x11173, 0x11173, .transparent),
   (0x11180, 0x11181, .transparent), (0x111B6, 0x111BE, .transparent),
   (0x111C9, 0x111CC, .transparent), (0x111CF, 0x111CF, .transparent),
   (0x1122F, 0x11231, .transparent), (0x11234, 0x11234, .transparent),
   (0x11236, 0x11237, .transparent), (0x1123E, 0x1123E, .transparent),
   (0x11241, 0x11241, .transparent), (0x112DF, 0x112DF, .transparent),
   (0x112E3, 0x112EA, .transparent), (0x11300, 0x11301, .transparent),
   (0x1133B, 0x1133C, .transparent), (0x11340, 0x11340, .transparent),
   (0x11366, 0x1136C, .transparent), (0x11370, 0x11374, .transparent),
   (0x11438, 0x1143F, .transparent), (0x11442, 0x11444, .transparent),
   (0x11446, 0x11446, .transparent), (0x1145E, 0x1145E, .transparent),
   (0x114B3, 0x114B8, .transparent), (0x114BA, 0x114BA, .transparent),
   (0x114BF, 0x114C0, .transparent), (0x114C2, 0x114C3, .transparent),
   (0x115B2, 0x115B5, .transparent), (0x115BC, 0x115BD, .transparent),
   (0x115BF, 0x115C0, .transparent), (0x115DC, 0x115DD, .transparent),
   (0x11633, 0x1163A, .transparent), (0x1163D, 0x1163D, .transparent),
   (0x1163F, 0x11640, .transparent), (0x116AB, 0x116AB, .transparent),
   (0x116AD, 0x116AD, .transparent), (0x116B0, 0x116B5, .transparent),
   (0x116B7, 0x116B7, .transparent), (0x1171D, 0x1171F, .transparent),
   (0x11722, 0x11725, .transparent), (0x11727, 0x1172B, .transparent),
   (0x1182F, 0x11837, .transparent), (0x11839, 0x1183A, .transparent),
   (0x1193B, 0x1193C, .transparent), (0x1193E, 0x1193E, .transparent),
   (0x11943, 0x11943, .transparent), (0x119D4, 0x119D7, .transparent),
   (0x119DA, 0x119DB, .transparent), (0x119E0, 0x119E0, .transparent),
   (0x11A01, 0x11A0A, .transparent), (0x11A33, 0x11A38, .transparent),
   (0x11A3B, 0x11A3E, .transparent), (0x11A47, 0x11A47, .transparent),
   (0x11A51, 0x11A56, .transparent), (0x11A59, 0x11A5B, .transparent),
   (0x11A8A, 0x11A96, .transparent), (0x11A98, 0x11A99, .transparent),
   (0x11C30, 0x11C36, .transparent), (0x11C38, 0x11C3D, .transparent),
   (0x11C3F, 0x11C3F, .transparent), (0x11C92, 0x11CA7, .transparent),
   (0x11CAA, 0x11CB0, .transparent), (0x11CB2, 0x11CB3, .transparent),
   (0x11CB5, 0x11CB6, .transparent), (0x11D31, 0x11D36, .transparent),
   (0x11D3A, 0x11D3A, .transparent), (0x11D3C, 0x11D3D, .transparent),
   (0x11D3F, 0x11D45, .transparent), (0x11D47, 0x11D47, .transparent),
   (0x11D90, 0x11D91, .transparent), (0x11D95, 0x11D95, .transparent),
   (0x11D97, 0x11D97, .transparent), (0x11EF3, 0x11EF4, .transparent),
   (0x11F00, 0x11F01, .transparent), (0x11F36, 0x11F3A, .transparent),
   (0x11F40, 0x11F40, .transparent), (0x11F42, 0x11F42, .transparent),
   (0x13430, 0x13440, .transparent), (0x13447, 0x13455, .transparent),
   (0x16AF0, 0x16AF4, .transparent), (0x16B30, 0x16B36, .transparent),
   (0x16F4F, 0x16F4F, .transparent), (0x16F8F, 0x16F92, .transparent),
   (0x16FE4, 0x16FE4, .transparent), (0x1BC9D, 0x1BC9E, .transparent),
   (0x1BCA0, 0x1BCA3, .transparent), (0x1CF00, 0x1CF2D, .transparent),
   (0x1CF30, 0x1CF46, .transparent), (0x1D167, 0x1D169, .transparent),
   (0x1D173, 0x1D182, .transparent), (0x1D185, 0x1D18B, .transparent),
   (0x1D1AA, 0x1D1AD, .transparent), (0x1D242, 0x1D244, .transparent),
   (0x1DA00, 0x1DA36, .transparent), (0x1DA3B, 0x1DA6C, .transparent),
   (0x1DA75, 0x1DA75, .transparent), (0x1DA84, 0x1DA84, .transparent),
   (0x1DA9B, 0x1DA9F, .transparent), (0x1DAA1, 0x1DAAF, .transparent),
   (0x1E000, 0x1E006, .transparent), (0x1E008, 0x1E018, .transparent),
   (0x1E01B, 0x1E021, .transparent), (0x1E023, 0x1E024, .transparent),
   (0x1E026, 0x1E02A, .transparent), (0x1E08F, 0x1E08F, .transparent),
   (0x1E130, 0x1E136, .transparent), (0x1E2AE, 0x1E2AE, .transparent),
   (0x1E2EC, 0x1E2EF, .transparent), (0x1E4EC, 0x1E4EF, .transparent),
   (0x1E8D0, 0x1E8D6, .transparent), (0x1E900, 0x1E943, .dual), (0x1E944, 0x1E94B, .transparent),
   (0xE0001, 0xE0001, .transparent), (0xE0020, 0xE007F, .transparent),
   (0xE0100, 0xE01EF, .transparent)]

/-- The viramas (canonical combining class 9). -/
def viramaRanges : List (Nat × Nat) :=
  [(0x094D, 0x094D), (0x09CD, 0x09CD), (0x0A4D, 0x0A4D), (0x0ACD, 0x0ACD), (0x0B4D, 0x0B4D),
   (0x0BCD, 0x0BCD), (0x0C4D, 0x0C4D), (0x0CCD, 0x0CCD), (0x0D3B, 0x0D3C), (0x0D4D, 0x0D4D),
   (0x0DCA, 0x0DCA), (0x0E3A, 0x0E3A), (0x0EBA, 0x0EBA), (0x0F84, 0x0F84), (0x1039, 0x103A),
   (0x1714, 0x1715), (0x1734, 0x1734), (0x17D2, 0x17D2), (0x1A60, 0x1A60), (0x1B44, 0x1B44),
   (0x1BAA, 0x1BAB), (0x1BF2, 0x1BF3), (0x2D7F, 0x2D7F), (0xA806, 0xA806), (0xA82C, 0xA82C),
   (0xA8C4, 0xA8C4), (0xA953, 0xA953), (0xA9C0, 0xA9C0), (0xAAF6, 0xAAF6), (0xABED, 0xABED),
   (0x10A3F, 0x10A3F), (0x11046, 0x11046), (0x11070, 0x11070), (0x1107F, 0x1107F),
   (0x110B9, 0x110B9), (0x11133, 0x11134), (0x111C0, 0x111C0), (0x11235, 0x11235),
   (0x112EA, 0x112EA), (0x1134D, 0x1134D), (0x11442, 0x11442), (0x114C2, 0x114C2),
   (0x115BF, 0x115BF), (0x1163F, 0x1163F), (0x116B6, 0x116B6), (0x1172B, 0x1172B),
   (0x11839, 0x11839), (0x1193D, 0x1193E), (0x119E0, 0x119E0), (0x11A34, 0x11A34),
   (0x11A47, 0x11A47), (0x11A99, 0x11A99), (0x11C3F, 0x11C3F), (0x11D44, 0x11D45),
   (0x11D97, 0x11D97), (0x11F41, 0x11F42)]

/-- The code points that never stand in normalization form C. -/
def notNfcRanges : List (Nat × Nat) :=
  [(0x0340, 0x0341), (0x0343, 0x0344), (0x0374, 0x0374), (0x037E, 0x037E), (0x0387, 0x0387),
   (0x0958, 0x095F), (0x09DC, 0x09DD), (0x09DF, 0x09DF), (0x0A33, 0x0A33), (0x0A36, 0x0A36),
   (0x0A59, 0x0A5B), (0x0A5E, 0x0A5E), (0x0B5C, 0x0B5D), (0x0F43, 0x0F43), (0x0F4D, 0x0F4D),
   (0x0F52, 0x0F52), (0x0F57, 0x0F57), (0x0F5C, 0x0F5C), (0x0F69, 0x0F69), (0x0F73, 0x0F73),
   (0x0F75, 0x0F76), (0x0F78, 0x0F78), (0x0F81, 0x0F81), (0x0F93, 0x0F93), (0x0F9D, 0x0F9D),
   (0x0FA2, 0x0FA2), (0x0FA7, 0x0FA7), (0x0FAC, 0x0FAC), (0x0FB9, 0x0FB9), (0x1F71, 0x1F71),
   (0x1F73, 0x1F73), (0x1F75, 0x1F75), (0x1F77, 0x1F77), (0x1F79, 0x1F79), (0x1F7B, 0x1F7B),
   (0x1F7D, 0x1F7D), (0x1FBB, 0x1FBB), (0x1FBE, 0x1FBE), (0x1FC9, 0x1FC9), (0x1FCB, 0x1FCB),
   (0x1FD3, 0x1FD3), (0x1FDB, 0x1FDB), (0x1FE3, 0x1FE3), (0x1FEB, 0x1FEB), (0x1FEE, 0x1FEF),
   (0x1FF9, 0x1FF9), (0x1FFB, 0x1FFB), (0x1FFD, 0x1FFD), (0x2000, 0x2001), (0x2126, 0x2126),
   (0x212A, 0x212B), (0x2329, 0x232A), (0x2ADC, 0x2ADC), (0xF900, 0xFA0D), (0xFA10, 0xFA10),
   (0xFA12, 0xFA12), (0xFA15, 0xFA1E), (0xFA20, 0xFA20), (0xFA22, 0xFA22), (0xFA25, 0xFA26),
   (0xFA2A, 0xFA6D), (0xFA70, 0xFAD9), (0xFB1D, 0xFB1D), (0xFB1F, 0xFB1F), (0xFB2A, 0xFB36),
   (0xFB38, 0xFB3C), (0xFB3E, 0xFB3E), (0xFB40, 0xFB41), (0xFB43, 0xFB44), (0xFB46, 0xFB4E),
   (0x1D15E, 0x1D164), (0x1D1BB, 0x1D1C0), (0x2F800, 0x2FA1D)]

end MeteredPayments.Domain
