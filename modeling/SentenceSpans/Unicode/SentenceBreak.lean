import SentenceSpans.Unicode.WhiteSpace
import SentenceSpans.Unicode.Alphabetic

/-!
# Sentence_Break classes

Every character has one class of the property Sentence_Break.  Most classes derive from other
properties: capitals are Upper, small letters Lower, the remaining alphabetic characters OLetter,
blanks Sp.  Five have tables of their own.

The classes Extend and Format are one class here, `attached`: no rule tells them apart.
-/

namespace SentenceSpans.Unicode

/-! ## Tables -/

/-- Extend and Format: combining marks, joiners and format controls. -/
def attached : CodeTable := .ofRanges [
  ⟨0x00AD, 0x00AD, 1⟩, ⟨0x0300, 0x036F, 1⟩, ⟨0x0483, 0x0489, 1⟩, ⟨0x0591, 0x05BD, 1⟩,
  ⟨0x05BF, 0x05BF, 1⟩, ⟨0x05C1, 0x05C2, 1⟩, ⟨0x05C4, 0x05C5, 1⟩, ⟨0x05C7, 0x05C7, 1⟩,
  ⟨0x0610, 0x061A, 1⟩, ⟨0x061C, 0x061C, 1⟩, ⟨0x064B, 0x065F, 1⟩, ⟨0x0670, 0x0670, 1⟩,
  ⟨0x06D6, 0x06DC, 1⟩, ⟨0x06DF, 0x06E4, 1⟩, ⟨0x06E7, 0x06E8, 1⟩, ⟨0x06EA, 0x06ED, 1⟩,
  ⟨0x070F, 0x0711, 2⟩, ⟨0x0730, 0x074A, 1⟩, ⟨0x07A6, 0x07B0, 1⟩, ⟨0x07EB, 0x07F3, 1⟩,
  ⟨0x07FD, 0x07FD, 1⟩, ⟨0x0816, 0x0819, 1⟩, ⟨0x081B, 0x0823, 1⟩, ⟨0x0825, 0x0827, 1⟩,
  ⟨0x0829, 0x082D, 1⟩, ⟨0x0859, 0x085B, 1⟩, ⟨0x0897, 0x089F, 1⟩, ⟨0x08CA, 0x08E1, 1⟩,
  ⟨0x08E3, 0x0903, 1⟩, ⟨0x093A, 0x093C, 1⟩, ⟨0x093E, 0x094F, 1⟩, ⟨0x0951, 0x0957, 1⟩,
  ⟨0x0962, 0x0963, 1⟩, ⟨0x0981, 0x0983, 1⟩, ⟨0x09BC, 0x09BC, 1⟩, ⟨0x09BE, 0x09C4, 1⟩,
  ⟨0x09C7, 0x09C8, 1⟩, ⟨0x09CB, 0x09CD, 1⟩, ⟨0x09D7, 0x09D7, 1⟩, ⟨0x09E2, 0x09E3, 1⟩,
  ⟨0x09FE, 0x09FE, 1⟩, ⟨0x0A01, 0x0A03, 1⟩, ⟨0x0A3C, 0x0A3C, 1⟩, ⟨0x0A3E, 0x0A42, 1⟩,
  ⟨0x0A47, 0x0A48, 1⟩, ⟨0x0A4B, 0x0A4D, 1⟩, ⟨0x0A51, 0x0A51, 1⟩, ⟨0x0A70, 0x0A71, 1⟩,
  ⟨0x0A75, 0x0A75, 1⟩, ⟨0x0A81, 0x0A83, 1⟩, ⟨0x0ABC, 0x0ABC, 1⟩, ⟨0x0ABE, 0x0AC5, 1⟩,
  ⟨0x0AC7, 0x0AC9, 1⟩, ⟨0x0ACB, 0x0ACD, 1⟩, ⟨0x0AE2, 0x0AE3, 1⟩, ⟨0x0AFA, 0x0AFF, 1⟩,
  ⟨0x0B01, 0x0B03, 1⟩, ⟨0x0B3C, 0x0B3C, 1⟩, ⟨0x0B3E, 0x0B44, 1⟩, ⟨0x0B47, 0x0B48, 1⟩,
  ⟨0x0B4B, 0x0B4D, 1⟩, ⟨0x0B55, 0x0B57, 1⟩, ⟨0x0B62, 0x0B63, 1⟩, ⟨0x0B82, 0x0B82, 1⟩,
  ⟨0x0BBE, 0x0BC2, 1⟩, ⟨0x0BC6, 0x0BC8, 1⟩, ⟨0x0BCA, 0x0BCD, 1⟩, ⟨0x0BD7, 0x0BD7, 1⟩,
  ⟨0x0C00, 0x0C04, 1⟩, ⟨0x0C3C, 0x0C3C, 1⟩, ⟨0x0C3E, 0x0C44, 1⟩, ⟨0x0C46, 0x0C48, 1⟩,
  ⟨0x0C4A, 0x0C4D, 1⟩, ⟨0x0C55, 0x0C56, 1⟩, ⟨0x0C62, 0x0C63, 1⟩, ⟨0x0C81, 0x0C83, 1⟩,
  ⟨0x0CBC, 0x0CBC, 1⟩, ⟨0x0CBE, 0x0CC4, 1⟩, ⟨0x0CC6, 0x0CC8, 1⟩, ⟨0x0CCA, 0x0CCD, 1⟩,
  ⟨0x0CD5, 0x0CD6, 1⟩, ⟨0x0CE2, 0x0CE3, 1⟩, ⟨0x0CF3, 0x0CF3, 1⟩, ⟨0x0D00, 0x0D03, 1⟩,
  ⟨0x0D3B, 0x0D3C, 1⟩, ⟨0x0D3E, 0x0D44, 1⟩, ⟨0x0D46, 0x0D48, 1⟩, ⟨0x0D4A, 0x0D4D, 1⟩,
  ⟨0x0D57, 0x0D57, 1⟩, ⟨0x0D62, 0x0D63, 1⟩, ⟨0x0D81, 0x0D83, 1⟩, ⟨0x0DCA, 0x0DCA, 1⟩,
  ⟨0x0DCF, 0x0DD4, 1⟩, ⟨0x0DD6, 0x0DD6, 1⟩, ⟨0x0DD8, 0x0DDF, 1⟩, ⟨0x0DF2, 0x0DF3, 1⟩,
  ⟨0x0E31, 0x0E31, 1⟩, ⟨0x0E34, 0x0E3A, 1⟩, ⟨0x0E47, 0x0E4E, 1⟩, ⟨0x0EB1, 0x0EB1, 1⟩,
  ⟨0x0EB4, 0x0EBC, 1⟩, ⟨0x0EC8, 0x0ECE, 1⟩, ⟨0x0F18, 0x0F19, 1⟩, ⟨0x0F35, 0x0F39, 2⟩,
  ⟨0x0F3E, 0x0F3F, 1⟩, ⟨0x0F71, 0x0F84, 1⟩, ⟨0x0F86, 0x0F87, 1⟩, ⟨0x0F8D, 0x0F97, 1⟩,
  ⟨0x0F99, 0x0FBC, 1⟩, ⟨0x0FC6, 0x0FC6, 1⟩, ⟨0x102B, 0x103E, 1⟩, ⟨0x1056, 0x1059, 1⟩,
  ⟨0x105E, 0x1060, 1⟩, ⟨0x1062, 0x1064, 1⟩, ⟨0x1067, 0x106D, 1⟩, ⟨0x1071, 0x1074, 1⟩,
  ⟨0x1082, 0x108D, 1⟩, ⟨0x108F, 0x108F, 1⟩, ⟨0x109A, 0x109D, 1⟩, ⟨0x135D, 0x135F, 1⟩,
  ⟨0x1712, 0x1715, 1⟩, ⟨0x1732, 0x1734, 1⟩, ⟨0x1752, 0x1753, 1⟩, ⟨0x1772, 0x1773, 1⟩,
  ⟨0x17B4, 0x17D3, 1⟩, ⟨0x17DD, 0x17DD, 1⟩, ⟨0x180B, 0x180F, 1⟩, ⟨0x1885, 0x1886, 1⟩,
  ⟨0x18A9, 0x18A9, 1⟩, ⟨0x1920, 0x192B, 1⟩, ⟨0x1930, 0x193B, 1⟩, ⟨0x1A17, 0x1A1B, 1⟩,
  ⟨0x1A55, 0x1A5E, 1⟩, ⟨0x1A60, 0x1A7C, 1⟩, ⟨0x1A7F, 0x1A7F, 1⟩, ⟨0x1AB0, 0x1ADD, 1⟩,
  ⟨0x1AE0, 0x1AEB, 1⟩, ⟨0x1B00, 0x1B04, 1⟩, ⟨0x1B34, 0x1B44, 1⟩, ⟨0x1B6B, 0x1B73, 1⟩,
  ⟨0x1B80, 0x1B82, 1⟩, ⟨0x1BA1, 0x1BAD, 1⟩, ⟨0x1BE6, 0x1BF3, 1⟩, ⟨0x1C24, 0x1C37, 1⟩,
  ⟨0x1CD0, 0x1CD2, 1⟩, ⟨0x1CD4, 0x1CE8, 1⟩, ⟨0x1CED, 0x1CED, 1⟩, ⟨0x1CF4, 0x1CF4, 1⟩,
  ⟨0x1CF7, 0x1CF9, 1⟩, ⟨0x1DC0, 0x1DFF, 1⟩, ⟨0x200B, 0x200F, 1⟩, ⟨0x202A, 0x202E, 1⟩,
  ⟨0x2060, 0x2064, 1⟩, ⟨0x2066, 0x206F, 1⟩, ⟨0x20D0, 0x20F0, 1⟩, ⟨0x2CEF, 0x2CF1, 1⟩,
  ⟨0x2D7F, 0x2D7F, 1⟩, ⟨0x2DE0, 0x2DFF, 1⟩, ⟨0x302A, 0x302F, 1⟩, ⟨0x3099, 0x309A, 1⟩,
  ⟨0xA66F, 0xA672, 1⟩, ⟨0xA674, 0xA67D, 1⟩, ⟨0xA69E, 0xA69F, 1⟩, ⟨0xA6F0, 0xA6F1, 1⟩,
  ⟨0xA802, 0xA802, 1⟩, ⟨0xA806, 0xA806, 1⟩, ⟨0xA80B, 0xA80B, 1⟩, ⟨0xA823, 0xA827, 1⟩,
  ⟨0xA82C, 0xA82C, 1⟩, ⟨0xA880, 0xA881, 1⟩, ⟨0xA8B4, 0xA8C5, 1⟩, ⟨0xA8E0, 0xA8F1, 1⟩,
  ⟨0xA8FF, 0xA8FF, 1⟩, ⟨0xA926, 0xA92D, 1⟩, ⟨0xA947, 0xA953, 1⟩, ⟨0xA980, 0xA983, 1⟩,
  ⟨0xA9B3, 0xA9C0, 1⟩, ⟨0xA9E5, 0xA9E5, 1⟩, ⟨0xAA29, 0xAA36, 1⟩, ⟨0xAA43, 0xAA43, 1⟩,
  ⟨0xAA4C, 0xAA4D, 1⟩, ⟨0xAA7B, 0xAA7D, 1⟩, ⟨0xAAB0, 0xAAB0, 1⟩, ⟨0xAAB2, 0xAAB4, 1⟩,
  ⟨0xAAB7, 0xAAB8, 1⟩, ⟨0xAABE, 0xAABF, 1⟩, ⟨0xAAC1, 0xAAC1, 1⟩, ⟨0xAAEB, 0xAAEF, 1⟩,
  ⟨0xAAF5, 0xAAF6, 1⟩, ⟨0xABE3, 0xABEA, 1⟩, ⟨0xABEC, 0xABED, 1⟩, ⟨0xFB1E, 0xFB1E, 1⟩,
  ⟨0xFE00, 0xFE0F, 1⟩, ⟨0xFE20, 0xFE2F, 1⟩, ⟨0xFEFF, 0xFEFF, 1⟩, ⟨0xFF9E, 0xFF9F, 1⟩,
  ⟨0xFFF9, 0xFFFB, 1⟩, ⟨0x101FD, 0x101FD, 1⟩, ⟨0x102E0, 0x102E0, 1⟩, ⟨0x10376, 0x1037A, 1⟩,
  ⟨0x10A01, 0x10A03, 1⟩, ⟨0x10A05, 0x10A06, 1⟩, ⟨0x10A0C, 0x10A0F, 1⟩, ⟨0x10A38, 0x10A3A, 1⟩,
  ⟨0x10A3F, 0x10A3F, 1⟩, ⟨0x10AE5, 0x10AE6, 1⟩, ⟨0x10D24, 0x10D27, 1⟩, ⟨0x10D69, 0x10D6D, 1⟩,
  ⟨0x10EAB, 0x10EAC, 1⟩, ⟨0x10EFA, 0x10EFF, 1⟩, ⟨0x10F46, 0x10F50, 1⟩, ⟨0x10F82, 0x10F85, 1⟩,
  ⟨0x11000, 0x11002, 1⟩, ⟨0x11038, 0x11046, 1⟩, ⟨0x11070, 0x11070, 1⟩, ⟨0x11073, 0x11074, 1⟩,
  ⟨0x1107F, 0x11082, 1⟩, ⟨0x110B0, 0x110BA, 1⟩, ⟨0x110C2, 0x110C2, 1⟩, ⟨0x11100, 0x11102, 1⟩,
  ⟨0x11127, 0x11134, 1⟩, ⟨0x11145, 0x11146, 1⟩, ⟨0x11173, 0x11173, 1⟩, ⟨0x11180, 0x11182, 1⟩,
  ⟨0x111B3, 0x111C0, 1⟩, ⟨0x111C9, 0x111CC, 1⟩, ⟨0x111CE, 0x111CF, 1⟩, ⟨0x1122C, 0x11237, 1⟩,
  ⟨0x1123E, 0x1123E, 1⟩, ⟨0x11241, 0x11241, 1⟩, ⟨0x112DF, 0x112EA, 1⟩, ⟨0x11300, 0x11303, 1⟩,
  ⟨0x1133B, 0x1133C, 1⟩, ⟨0x1133E, 0x11344, 1⟩, ⟨0x11347, 0x11348, 1⟩, ⟨0x1134B, 0x1134D, 1⟩,
  ⟨0x11357, 0x11357, 1⟩, ⟨0x11362, 0x11363, 1⟩, ⟨0x11366, 0x1136C, 1⟩, ⟨0x11370, 0x11374, 1⟩,
  ⟨0x113B8, 0x113C0, 1⟩, ⟨0x113C2, 0x113C2, 1⟩, ⟨0x113C5, 0x113C5, 1⟩, ⟨0x113C7, 0x113CA, 1⟩,
  ⟨0x113CC, 0x113D0, 1⟩, ⟨0x113D2, 0x113D2, 1⟩, ⟨0x113E1, 0x113E2, 1⟩, ⟨0x11435, 0x11446, 1⟩,
  ⟨0x1145E, 0x1145E, 1⟩, ⟨0x114B0, 0x114C3, 1⟩, ⟨0x115AF, 0x115B5, 1⟩, ⟨0x115B8, 0x115C0, 1⟩,
  ⟨0x115DC, 0x115DD, 1⟩, ⟨0x11630, 0x11640, 1⟩, ⟨0x116AB, 0x116B7, 1⟩, ⟨0x1171D, 0x1172B, 1⟩,
  ⟨0x1182C, 0x1183A, 1⟩, ⟨0x11930, 0x11935, 1⟩, ⟨0x11937, 0x11938, 1⟩, ⟨0x1193B, 0x1193E, 1⟩,
  ⟨0x11940, 0x11940, 1⟩, ⟨0x11942, 0x11943, 1⟩, ⟨0x119D1, 0x119D7, 1⟩, ⟨0x119DA, 0x119E0, 1⟩,
  ⟨0x119E4, 0x119E4, 1⟩, ⟨0x11A01, 0x11A0A, 1⟩, ⟨0x11A33, 0x11A39, 1⟩, ⟨0x11A3B, 0x11A3E, 1⟩,
  ⟨0x11A47, 0x11A47, 1⟩, ⟨0x11A51, 0x11A5B, 1⟩, ⟨0x11A8A, 0x11A99, 1⟩, ⟨0x11B60, 0x11B67, 1⟩,
  ⟨0x11C2F, 0x11C36, 1⟩, ⟨0x11C38, 0x11C3F, 1⟩, ⟨0x11C92, 0x11CA7, 1⟩, ⟨0x11CA9, 0x11CB6, 1⟩,
  ⟨0x11D31, 0x11D36, 1⟩, ⟨0x11D3A, 0x11D3A, 1⟩, ⟨0x11D3C, 0x11D3D, 1⟩, ⟨0x11D3F, 0x11D45, 1⟩,
  ⟨0x11D47, 0x11D47, 1⟩, ⟨0x11D8A, 0x11D8E, 1⟩, ⟨0x11D90, 0x11D91, 1⟩, ⟨0x11D93, 0x11D97, 1⟩,
  ⟨0x11EF3, 0x11EF6, 1⟩, ⟨0x11F00, 0x11F01, 1⟩, ⟨0x11F03, 0x11F03, 1⟩, ⟨0x11F34, 0x11F3A, 1⟩,
  ⟨0x11F3E, 0x11F42, 1⟩, ⟨0x11F5A, 0x11F5A, 1⟩, ⟨0x13430, 0x13440, 1⟩, ⟨0x13447, 0x13455, 1⟩,
  ⟨0x1611E, 0x1612F, 1⟩, ⟨0x16AF0, 0x16AF4, 1⟩, ⟨0x16B30, 0x16B36, 1⟩, ⟨0x16F4F, 0x16F4F, 1⟩,
  ⟨0x16F51, 0x16F87, 1⟩, ⟨0x16F8F, 0x16F92, 1⟩, ⟨0x16FE4, 0x16FE4, 1⟩, ⟨0x16FF0, 0x16FF1, 1⟩,
  ⟨0x1BC9D, 0x1BC9E, 1⟩, ⟨0x1BCA0, 0x1BCA3, 1⟩, ⟨0x1CF00, 0x1CF2D, 1⟩, ⟨0x1CF30, 0x1CF46, 1⟩,
  ⟨0x1D165, 0x1D169, 1⟩, ⟨0x1D16D, 0x1D182, 1⟩, ⟨0x1D185, 0x1D18B, 1⟩, ⟨0x1D1AA, 0x1D1AD, 1⟩,
  ⟨0x1D242, 0x1D244, 1⟩, ⟨0x1DA00, 0x1DA36, 1⟩, ⟨0x1DA3B, 0x1DA6C, 1⟩, ⟨0x1DA75, 0x1DA75, 1⟩,
  ⟨0x1DA84, 0x1DA84, 1⟩, ⟨0x1DA9B, 0x1DA9F, 1⟩, ⟨0x1DAA1, 0x1DAAF, 1⟩, ⟨0x1E000, 0x1E006, 1⟩,
  ⟨0x1E008, 0x1E018, 1⟩, ⟨0x1E01B, 0x1E021, 1⟩, ⟨0x1E023, 0x1E024, 1⟩, ⟨0x1E026, 0x1E02A, 1⟩,
  ⟨0x1E08F, 0x1E08F, 1⟩, ⟨0x1E130, 0x1E136, 1⟩, ⟨0x1E2AE, 0x1E2AE, 1⟩, ⟨0x1E2EC, 0x1E2EF, 1⟩,
  ⟨0x1E4EC, 0x1E4EF, 1⟩, ⟨0x1E5EE, 0x1E5EF, 1⟩, ⟨0x1E6E3, 0x1E6E3, 1⟩, ⟨0x1E6E6, 0x1E6E6, 1⟩,
  ⟨0x1E6EE, 0x1E6EF, 1⟩, ⟨0x1E6F5, 0x1E6F5, 1⟩, ⟨0x1E8D0, 0x1E8D6, 1⟩, ⟨0x1E944, 0x1E94A, 1⟩,
  ⟨0xE0001, 0xE0001, 1⟩, ⟨0xE0020, 0xE007F, 1⟩, ⟨0xE0100, 0xE01EF, 1⟩]
  (by decide +kernel)

/-- Numeric: decimal digits, the marks that stand within or before them. -/
def numeric : CodeTable := .ofRanges [
  ⟨0x0030, 0x0039, 1⟩, ⟨0x0600, 0x0605, 1⟩, ⟨0x0660, 0x0669, 1⟩, ⟨0x066B, 0x066C, 1⟩,
  ⟨0x06DD, 0x06DD, 1⟩, ⟨0x06F0, 0x06F9, 1⟩, ⟨0x07C0, 0x07C9, 1⟩, ⟨0x0890, 0x0891, 1⟩,
  ⟨0x08E2, 0x08E2, 1⟩, ⟨0x0966, 0x096F, 1⟩, ⟨0x09E6, 0x09EF, 1⟩, ⟨0x0A66, 0x0A6F, 1⟩,
  ⟨0x0AE6, 0x0AEF, 1⟩, ⟨0x0B66, 0x0B6F, 1⟩, ⟨0x0BE6, 0x0BEF, 1⟩, ⟨0x0C66, 0x0C6F, 1⟩,
  ⟨0x0CE6, 0x0CEF, 1⟩, ⟨0x0D66, 0x0D6F, 1⟩, ⟨0x0DE6, 0x0DEF, 1⟩, ⟨0x0E50, 0x0E59, 1⟩,
  ⟨0x0ED0, 0x0ED9, 1⟩, ⟨0x0F20, 0x0F29, 1⟩, ⟨0x1040, 0x1049, 1⟩, ⟨0x1090, 0x1099, 1⟩,
  ⟨0x17E0, 0x17E9, 1⟩, ⟨0x1810, 0x1819, 1⟩, ⟨0x1946, 0x194F, 1⟩, ⟨0x19D0, 0x19DA, 1⟩,
  ⟨0x1A80, 0x1A89, 1⟩, ⟨0x1A90, 0x1A99, 1⟩, ⟨0x1B50, 0x1B59, 1⟩, ⟨0x1BB0, 0x1BB9, 1⟩,
  ⟨0x1C40, 0x1C49, 1⟩, ⟨0x1C50, 0x1C59, 1⟩, ⟨0xA620, 0xA629, 1⟩, ⟨0xA8D0, 0xA8D9, 1⟩,
  ⟨0xA900, 0xA909, 1⟩, ⟨0xA9D0, 0xA9D9, 1⟩, ⟨0xA9F0, 0xA9F9, 1⟩, ⟨0xAA50, 0xAA59, 1⟩,
  ⟨0xABF0, 0xABF9, 1⟩, ⟨0xFF10, 0xFF19, 1⟩, ⟨0x104A0, 0x104A9, 1⟩, ⟨0x10D30, 0x10D39, 1⟩,
  ⟨0x10D40, 0x10D49, 1⟩, ⟨0x11066, 0x1106F, 1⟩, ⟨0x110BD, 0x110BD, 1⟩, ⟨0x110CD, 0x110CD, 1⟩,
  ⟨0x110F0, 0x110F9, 1⟩, ⟨0x11136, 0x1113F, 1⟩, ⟨0x111D0, 0x111D9, 1⟩, ⟨0x112F0, 0x112F9, 1⟩,
  ⟨0x11450, 0x11459, 1⟩, ⟨0x114D0, 0x114D9, 1⟩, ⟨0x11650, 0x11659, 1⟩, ⟨0x116C0, 0x116C9, 1⟩,
  ⟨0x116D0, 0x116E3, 1⟩, ⟨0x11730, 0x11739, 1⟩, ⟨0x118E0, 0x118E9, 1⟩, ⟨0x11950, 0x11959, 1⟩,
  ⟨0x11BF0, 0x11BF9, 1⟩, ⟨0x11C50, 0x11C59, 1⟩, ⟨0x11D50, 0x11D59, 1⟩, ⟨0x11DA0, 0x11DA9, 1⟩,
  ⟨0x11DE0, 0x11DE9, 1⟩, ⟨0x11F50, 0x11F59, 1⟩, ⟨0x16130, 0x16139, 1⟩, ⟨0x16A60, 0x16A69, 1⟩,
  ⟨0x16AC0, 0x16AC9, 1⟩, ⟨0x16B50, 0x16B59, 1⟩, ⟨0x16D70, 0x16D79, 1⟩, ⟨0x1CCF0, 0x1CCF9, 1⟩,
  ⟨0x1D7CE, 0x1D7FF, 1⟩, ⟨0x1E140, 0x1E149, 1⟩, ⟨0x1E2F0, 0x1E2F9, 1⟩, ⟨0x1E4F0, 0x1E4F9, 1⟩,
  ⟨0x1E5F1, 0x1E5FA, 1⟩, ⟨0x1E950, 0x1E959, 1⟩, ⟨0x1FBF0, 0x1FBF9, 1⟩]
  (by decide +kernel)

/-- STerm: sentence terminals, the full stops of ATerm apart. -/
def terminal : CodeTable := .ofRanges [
  ⟨0x0021, 0x0021, 1⟩, ⟨0x003F, 0x003F, 1⟩, ⟨0x0589, 0x0589, 1⟩, ⟨0x061D, 0x061F, 1⟩,
  ⟨0x06D4, 0x06D4, 1⟩, ⟨0x0700, 0x0702, 1⟩, ⟨0x07F9, 0x07F9, 1⟩, ⟨0x0837, 0x0839, 2⟩,
  ⟨0x083D, 0x083E, 1⟩, ⟨0x0964, 0x0965, 1⟩, ⟨0x104A, 0x104B, 1⟩, ⟨0x1362, 0x1362, 1⟩,
  ⟨0x1367, 0x1368, 1⟩, ⟨0x166E, 0x166E, 1⟩, ⟨0x1735, 0x1736, 1⟩, ⟨0x17D4, 0x17D5, 1⟩,
  ⟨0x1803, 0x1803, 1⟩, ⟨0x1809, 0x1809, 1⟩, ⟨0x1944, 0x1945, 1⟩, ⟨0x1AA8, 0x1AAB, 1⟩,
  ⟨0x1B4E, 0x1B4F, 1⟩, ⟨0x1B5A, 0x1B5B, 1⟩, ⟨0x1B5E, 0x1B5F, 1⟩, ⟨0x1B7D, 0x1B7F, 1⟩,
  ⟨0x1C3B, 0x1C3C, 1⟩, ⟨0x1C7E, 0x1C7F, 1⟩, ⟨0x203C, 0x203D, 1⟩, ⟨0x2047, 0x2049, 1⟩,
  ⟨0x2CF9, 0x2CFB, 1⟩, ⟨0x2E2E, 0x2E2E, 1⟩, ⟨0x2E3C, 0x2E3C, 1⟩, ⟨0x2E53, 0x2E54, 1⟩,
  ⟨0x3002, 0x3002, 1⟩, ⟨0xA4FF, 0xA4FF, 1⟩, ⟨0xA60E, 0xA60F, 1⟩, ⟨0xA6F3, 0xA6F3, 1⟩,
  ⟨0xA6F7, 0xA6F7, 1⟩, ⟨0xA876, 0xA877, 1⟩, ⟨0xA8CE, 0xA8CF, 1⟩, ⟨0xA92F, 0xA92F, 1⟩,
  ⟨0xA9C8, 0xA9C9, 1⟩, ⟨0xAA5D, 0xAA5F, 1⟩, ⟨0xAAF0, 0xAAF1, 1⟩, ⟨0xABEB, 0xABEB, 1⟩,
  ⟨0xFE12, 0xFE12, 1⟩, ⟨0xFE15, 0xFE16, 1⟩, ⟨0xFE56, 0xFE57, 1⟩, ⟨0xFF01, 0xFF01, 1⟩,
  ⟨0xFF1F, 0xFF1F, 1⟩, ⟨0xFF61, 0xFF61, 1⟩, ⟨0x10A56, 0x10A57, 1⟩, ⟨0x10F55, 0x10F59, 1⟩,
  ⟨0x10F86, 0x10F89, 1⟩, ⟨0x11047, 0x11048, 1⟩, ⟨0x110BE, 0x110C1, 1⟩, ⟨0x11141, 0x11143, 1⟩,
  ⟨0x111C5, 0x111C6, 1⟩, ⟨0x111CD, 0x111CD, 1⟩, ⟨0x111DE, 0x111DF, 1⟩, ⟨0x11238, 0x11239, 1⟩,
  ⟨0x1123B, 0x1123C, 1⟩, ⟨0x112A9, 0x112A9, 1⟩, ⟨0x113D4, 0x113D5, 1⟩, ⟨0x1144B, 0x1144C, 1⟩,
  ⟨0x115C2, 0x115C3, 1⟩, ⟨0x115C9, 0x115D7, 1⟩, ⟨0x11641, 0x11642, 1⟩, ⟨0x1173C, 0x1173E, 1⟩,
  ⟨0x11944, 0x11946, 2⟩, ⟨0x11A42, 0x11A43, 1⟩, ⟨0x11A9B, 0x11A9C, 1⟩, ⟨0x11C41, 0x11C42, 1⟩,
  ⟨0x11EF7, 0x11EF8, 1⟩, ⟨0x11F43, 0x11F44, 1⟩, ⟨0x16A6E, 0x16A6F, 1⟩, ⟨0x16AF5, 0x16AF5, 1⟩,
  ⟨0x16B37, 0x16B38, 1⟩, ⟨0x16B44, 0x16B44, 1⟩, ⟨0x16D6E, 0x16D6F, 1⟩, ⟨0x16E98, 0x16E98, 1⟩,
  ⟨0x1BC9F, 0x1BC9F, 1⟩, ⟨0x1DA88, 0x1DA88, 1⟩]
  (by decide +kernel)

/-- Close: brackets and quotation marks. -/
def close : CodeTable := .ofRanges [
  ⟨0x0022, 0x0022, 1⟩, ⟨0x0027, 0x0029, 1⟩, ⟨0x005B, 0x005D, 2⟩, ⟨0x007B, 0x007D, 2⟩,
  ⟨0x00AB, 0x00AB, 1⟩, ⟨0x00BB, 0x00BB, 1⟩, ⟨0x0F3A, 0x0F3D, 1⟩, ⟨0x169B, 0x169C, 1⟩,
  ⟨0x2018, 0x201F, 1⟩, ⟨0x2039, 0x203A, 1⟩, ⟨0x2045, 0x2046, 1⟩, ⟨0x207D, 0x207E, 1⟩,
  ⟨0x208D, 0x208E, 1⟩, ⟨0x2308, 0x230B, 1⟩, ⟨0x2329, 0x232A, 1⟩, ⟨0x275B, 0x2760, 1⟩,
  ⟨0x2768, 0x2775, 1⟩, ⟨0x27C5, 0x27C6, 1⟩, ⟨0x27E6, 0x27EF, 1⟩, ⟨0x2983, 0x2998, 1⟩,
  ⟨0x29D8, 0x29DB, 1⟩, ⟨0x29FC, 0x29FD, 1⟩, ⟨0x2E00, 0x2E0D, 1⟩, ⟨0x2E1C, 0x2E1D, 1⟩,
  ⟨0x2E20, 0x2E29, 1⟩, ⟨0x2E42, 0x2E42, 1⟩, ⟨0x2E55, 0x2E5C, 1⟩, ⟨0x3008, 0x3011, 1⟩,
  ⟨0x3014, 0x301B, 1⟩, ⟨0x301D, 0x301F, 1⟩, ⟨0xFD3E, 0xFD3F, 1⟩, ⟨0xFE17, 0xFE18, 1⟩,
  ⟨0xFE35, 0xFE44, 1⟩, ⟨0xFE47, 0xFE48, 1⟩, ⟨0xFE59, 0xFE5E, 1⟩, ⟨0xFF08, 0xFF09, 1⟩,
  ⟨0xFF3B, 0xFF3D, 2⟩, ⟨0xFF5B, 0xFF5D, 2⟩, ⟨0xFF5F, 0xFF60, 1⟩, ⟨0xFF62, 0xFF63, 1⟩,
  ⟨0x1F676, 0x1F678, 1⟩]
  (by decide +kernel)

/-- SContinue: commas, colons, semicolons and dashes. -/
def continuing : CodeTable := .ofRanges [
  ⟨0x002C, 0x002D, 1⟩, ⟨0x003A, 0x003B, 1⟩, ⟨0x037E, 0x037E, 1⟩, ⟨0x055D, 0x055D, 1⟩,
  ⟨0x060C, 0x060D, 1⟩, ⟨0x07F8, 0x07F8, 1⟩, ⟨0x1802, 0x1802, 1⟩, ⟨0x1808, 0x1808, 1⟩,
  ⟨0x2013, 0x2014, 1⟩, ⟨0x3001, 0x3001, 1⟩, ⟨0xFE10, 0xFE11, 1⟩, ⟨0xFE13, 0xFE14, 1⟩,
  ⟨0xFE31, 0xFE32, 1⟩, ⟨0xFE50, 0xFE51, 1⟩, ⟨0xFE54, 0xFE55, 1⟩, ⟨0xFE58, 0xFE58, 1⟩,
  ⟨0xFE63, 0xFE63, 1⟩, ⟨0xFF0C, 0xFF0D, 1⟩, ⟨0xFF1A, 0xFF1B, 1⟩, ⟨0xFF64, 0xFF64, 1⟩]
  (by decide +kernel)

/-! ## Tests -/

def isAttached (c : Char) : Bool := attached.contains c.toNat

def isNumeric (c : Char) : Bool := numeric.contains c.toNat

def isTerminal (c : Char) : Bool := terminal.contains c.toNat

def isClose (c : Char) : Bool := close.contains c.toNat

def isContinuing (c : Char) : Bool := continuing.contains c.toNat

/-- The full stops, which also end abbreviations. -/
def isFullStop (c : Char) : Bool :=
  c = '.' || c = '\u2024' || c = '\uFE52' || c = '\uFF0E'

/-- Next line, line separator and paragraph separator. -/
def isSeparator (c : Char) : Bool :=
  c = '\u0085' || c = '\u2028' || c = '\u2029'

/-- Georgian Mkhedruli letters are Lowercase, but the script does not use case in sentences. -/
def isMkhedruli (c : Char) : Bool :=
  decide (0x10D0 ≤ c.toNat ∧ c.toNat ≤ 0x10FA ∨ 0x10FD ≤ c.toNat ∧ c.toNat ≤ 0x10FF)

/-- Georgian Mtavruli letters are Uppercase and set whole words in capitals, not first letters. -/
def isMtavruli (c : Char) : Bool :=
  decide (0x1C90 ≤ c.toNat ∧ c.toNat ≤ 0x1CBA ∨ 0x1CBD ≤ c.toNat ∧ c.toNat ≤ 0x1CBF)

/-! ## Classes -/

/-- The classes of the property Sentence_Break. -/
inductive SentenceBreak where
  /-- Carriage return. -/
  | cr
  /-- Line feed. -/
  | lf
  /-- Other line and paragraph separators. -/
  | sep
  /-- Blanks. -/
  | sp
  /-- Characters that belong to the one before them (Extend and Format). -/
  | attached
  | lower
  | upper
  /-- Letters without case. -/
  | oLetter
  | numeric
  /-- Full stops, which may end an abbreviation. -/
  | aTerm
  /-- Marks inside a sentence. -/
  | sContinue
  /-- Question marks, exclamation marks and other marks that end a sentence. -/
  | sTerm
  /-- Brackets and quotation marks. -/
  | close
  /-- Everything else. -/
  | any
deriving DecidableEq, Repr

namespace SentenceBreak

def ofChar (c : Char) : SentenceBreak :=
  if c = '\r' then .cr
  else if c = '\n' then .lf
  else if isSeparator c then .sep
  else if isWhiteSpace c then .sp
  else if isFullStop c then .aTerm
  else if (isUppercase c || isTitlecaseLetter c) && !isMtavruli c then .upper
  else if isAttached c then .attached
  else if isLowercase c && !isMkhedruli c then .lower
  else if isAlphabetic c || c = '\u05F3' then .oLetter
  else if isNumeric c then .numeric
  else if isTerminal c then .sTerm
  else if isClose c then .close
  else if isContinuing c then .sContinue
  else .any

/-- The ends of a paragraph: CR, LF and Sep. -/
def isParagraphEnd : SentenceBreak → Bool
  | cr | lf | sep => true
  | _ => false

/-- The marks that can end a sentence: ATerm and STerm. -/
def isSentenceEnd : SentenceBreak → Bool
  | aTerm | sTerm => true
  | _ => false

end SentenceBreak

end SentenceSpans.Unicode
