import ProjectAudit.Unicode.CaseRule

/-!
# Upper case of a character

The full upper-case mapping of Unicode: some characters have an upper case of two or three
characters.  No language or context is looked at.
-/

namespace ProjectAudit

/-- ascending and apart from each other -/
def upperCaseRuns : List (Run CaseRule) :=
  [⟨0xB5, 0xB5, .shift 1 0x39C⟩, ⟨0xDF, 0xDF, .expand ['S', 'S']⟩, ⟨0xE0, 0xF6, .shift 1 0xC0⟩,
   ⟨0xF8, 0xFE, .shift 1 0xD8⟩, ⟨0xFF, 0xFF, .shift 1 0x178⟩, ⟨0x101, 0x12F, .shift 2 0x100⟩,
   ⟨0x131, 0x131, .shift 1 0x49⟩, ⟨0x133, 0x137, .shift 2 0x132⟩, ⟨0x13A, 0x148, .shift 2 0x139⟩,
   ⟨0x149, 0x149, .expand ['\u02BC', 'N']⟩, ⟨0x14B, 0x177, .shift 2 0x14A⟩,
   ⟨0x17A, 0x17E, .shift 2 0x179⟩, ⟨0x17F, 0x17F, .shift 1 0x53⟩, ⟨0x180, 0x180, .shift 1 0x243⟩,
   ⟨0x183, 0x185, .shift 2 0x182⟩, ⟨0x188, 0x188, .shift 1 0x187⟩, ⟨0x18C, 0x18C, .shift 1 0x18B⟩,
   ⟨0x192, 0x192, .shift 1 0x191⟩, ⟨0x195, 0x195, .shift 1 0x1F6⟩, ⟨0x199, 0x199, .shift 1 0x198⟩,
   ⟨0x19A, 0x19A, .shift 1 0x23D⟩, ⟨0x19B, 0x19B, .shift 1 0xA7DC⟩, ⟨0x19E, 0x19E, .shift 1 0x220⟩,
   ⟨0x1A1, 0x1A5, .shift 2 0x1A0⟩, ⟨0x1A8, 0x1A8, .shift 1 0x1A7⟩, ⟨0x1AD, 0x1AD, .shift 1 0x1AC⟩,
   ⟨0x1B0, 0x1B0, .shift 1 0x1AF⟩, ⟨0x1B4, 0x1B6, .shift 2 0x1B3⟩, ⟨0x1B9, 0x1B9, .shift 1 0x1B8⟩,
   ⟨0x1BD, 0x1BD, .shift 1 0x1BC⟩, ⟨0x1BF, 0x1BF, .shift 1 0x1F7⟩, ⟨0x1C5, 0x1C5, .shift 1 0x1C4⟩,
   ⟨0x1C6, 0x1C6, .shift 1 0x1C4⟩, ⟨0x1C8, 0x1C8, .shift 1 0x1C7⟩, ⟨0x1C9, 0x1C9, .shift 1 0x1C7⟩,
   ⟨0x1CB, 0x1CB, .shift 1 0x1CA⟩, ⟨0x1CC, 0x1CC, .shift 1 0x1CA⟩, ⟨0x1CE, 0x1DC, .shift 2 0x1CD⟩,
   ⟨0x1DD, 0x1DD, .shift 1 0x18E⟩, ⟨0x1DF, 0x1EF, .shift 2 0x1DE⟩,
   ⟨0x1F0, 0x1F0, .expand ['J', '\u030C']⟩, ⟨0x1F2, 0x1F2, .shift 1 0x1F1⟩,
   ⟨0x1F3, 0x1F3, .shift 1 0x1F1⟩, ⟨0x1F5, 0x1F5, .shift 1 0x1F4⟩, ⟨0x1F9, 0x21F, .shift 2 0x1F8⟩,
   ⟨0x223, 0x233, .shift 2 0x222⟩, ⟨0x23C, 0x23C, .shift 1 0x23B⟩, ⟨0x23F, 0x240, .shift 1 0x2C7E⟩,
   ⟨0x242, 0x242, .shift 1 0x241⟩, ⟨0x247, 0x24F, .shift 2 0x246⟩, ⟨0x250, 0x250, .shift 1 0x2C6F⟩,
   ⟨0x251, 0x251, .shift 1 0x2C6D⟩, ⟨0x252, 0x252, .shift 1 0x2C70⟩, ⟨0x253, 0x253, .shift 1 0x181⟩,
   ⟨0x254, 0x254, .shift 1 0x186⟩, ⟨0x256, 0x257, .shift 1 0x189⟩, ⟨0x259, 0x259, .shift 1 0x18F⟩,
   ⟨0x25B, 0x25B, .shift 1 0x190⟩, ⟨0x25C, 0x25C, .shift 1 0xA7AB⟩, ⟨0x260, 0x260, .shift 1 0x193⟩,
   ⟨0x261, 0x261, .shift 1 0xA7AC⟩, ⟨0x263, 0x263, .shift 1 0x194⟩, ⟨0x264, 0x264, .shift 1 0xA7CB⟩,
   ⟨0x265, 0x265, .shift 1 0xA78D⟩, ⟨0x266, 0x266, .shift 1 0xA7AA⟩, ⟨0x268, 0x268, .shift 1 0x197⟩,
   ⟨0x269, 0x269, .shift 1 0x196⟩, ⟨0x26A, 0x26A, .shift 1 0xA7AE⟩, ⟨0x26B, 0x26B, .shift 1 0x2C62⟩,
   ⟨0x26C, 0x26C, .shift 1 0xA7AD⟩, ⟨0x26F, 0x26F, .shift 1 0x19C⟩, ⟨0x271, 0x271, .shift 1 0x2C6E⟩,
   ⟨0x272, 0x272, .shift 1 0x19D⟩, ⟨0x275, 0x275, .shift 1 0x19F⟩, ⟨0x27D, 0x27D, .shift 1 0x2C64⟩,
   ⟨0x280, 0x280, .shift 1 0x1A6⟩, ⟨0x282, 0x282, .shift 1 0xA7C5⟩, ⟨0x283, 0x283, .shift 1 0x1A9⟩,
   ⟨0x287, 0x287, .shift 1 0xA7B1⟩, ⟨0x288, 0x288, .shift 1 0x1AE⟩, ⟨0x289, 0x289, .shift 1 0x244⟩,
   ⟨0x28A, 0x28B, .shift 1 0x1B1⟩, ⟨0x28C, 0x28C, .shift 1 0x245⟩, ⟨0x292, 0x292, .shift 1 0x1B7⟩,
   ⟨0x29D, 0x29D, .shift 1 0xA7B2⟩, ⟨0x29E, 0x29E, .shift 1 0xA7B0⟩, ⟨0x345, 0x345, .shift 1 0x399⟩,
   ⟨0x371, 0x373, .shift 2 0x370⟩, ⟨0x377, 0x377, .shift 1 0x376⟩, ⟨0x37B, 0x37D, .shift 1 0x3FD⟩,
   ⟨0x390, 0x390, .expand ['\u0399', '\u0308', '\u0301']⟩, ⟨0x3AC, 0x3AC, .shift 1 0x386⟩,
   ⟨0x3AD, 0x3AF, .shift 1 0x388⟩, ⟨0x3B0, 0x3B0, .expand ['\u03A5', '\u0308', '\u0301']⟩,
   ⟨0x3B1, 0x3C1, .shift 1 0x391⟩, ⟨0x3C2, 0x3C2, .shift 1 0x3A3⟩, ⟨0x3C3, 0x3CB, .shift 1 0x3A3⟩,
   ⟨0x3CC, 0x3CC, .shift 1 0x38C⟩, ⟨0x3CD, 0x3CE, .shift 1 0x38E⟩, ⟨0x3D0, 0x3D0, .shift 1 0x392⟩,
   ⟨0x3D1, 0x3D1, .shift 1 0x398⟩, ⟨0x3D5, 0x3D5, .shift 1 0x3A6⟩, ⟨0x3D6, 0x3D6, .shift 1 0x3A0⟩,
   ⟨0x3D7, 0x3D7, .shift 1 0x3CF⟩, ⟨0x3D9, 0x3EF, .shift 2 0x3D8⟩, ⟨0x3F0, 0x3F0, .shift 1 0x39A⟩,
   ⟨0x3F1, 0x3F1, .shift 1 0x3A1⟩, ⟨0x3F2, 0x3F2, .shift 1 0x3F9⟩, ⟨0x3F3, 0x3F3, .shift 1 0x37F⟩,
   ⟨0x3F5, 0x3F5, .shift 1 0x395⟩, ⟨0x3F8, 0x3F8, .shift 1 0x3F7⟩, ⟨0x3FB, 0x3FB, .shift 1 0x3FA⟩,
   ⟨0x430, 0x44F, .shift 1 0x410⟩, ⟨0x450, 0x45F, .shift 1 0x400⟩, ⟨0x461, 0x481, .shift 2 0x460⟩,
   ⟨0x48B, 0x4BF, .shift 2 0x48A⟩, ⟨0x4C2, 0x4CE, .shift 2 0x4C1⟩, ⟨0x4CF, 0x4CF, .shift 1 0x4C0⟩,
   ⟨0x4D1, 0x52F, .shift 2 0x4D0⟩, ⟨0x561, 0x586, .shift 1 0x531⟩,
   ⟨0x587, 0x587, .expand ['\u0535', '\u0552']⟩, ⟨0x10D0, 0x10FA, .shift 1 0x1C90⟩,
   ⟨0x10FD, 0x10FF, .shift 1 0x1CBD⟩, ⟨0x13F8, 0x13FD, .shift 1 0x13F0⟩,
   ⟨0x1C80, 0x1C80, .shift 1 0x412⟩, ⟨0x1C81, 0x1C81, .shift 1 0x414⟩,
   ⟨0x1C82, 0x1C82, .shift 1 0x41E⟩, ⟨0x1C83, 0x1C84, .shift 1 0x421⟩,
   ⟨0x1C85, 0x1C85, .shift 1 0x422⟩, ⟨0x1C86, 0x1C86, .shift 1 0x42A⟩,
   ⟨0x1C87, 0x1C87, .shift 1 0x462⟩, ⟨0x1C88, 0x1C88, .shift 1 0xA64A⟩,
   ⟨0x1C8A, 0x1C8A, .shift 1 0x1C89⟩, ⟨0x1D79, 0x1D79, .shift 1 0xA77D⟩,
   ⟨0x1D7D, 0x1D7D, .shift 1 0x2C63⟩, ⟨0x1D8E, 0x1D8E, .shift 1 0xA7C6⟩,
   ⟨0x1E01, 0x1E95, .shift 2 0x1E00⟩, ⟨0x1E96, 0x1E96, .expand ['H', '\u0331']⟩,
   ⟨0x1E97, 0x1E97, .expand ['T', '\u0308']⟩, ⟨0x1E98, 0x1E98, .expand ['W', '\u030A']⟩,
   ⟨0x1E99, 0x1E99, .expand ['Y', '\u030A']⟩, ⟨0x1E9A, 0x1E9A, .expand ['A', '\u02BE']⟩,
   ⟨0x1E9B, 0x1E9B, .shift 1 0x1E60⟩, ⟨0x1EA1, 0x1EFF, .shift 2 0x1EA0⟩,
   ⟨0x1F00, 0x1F07, .shift 1 0x1F08⟩, ⟨0x1F10, 0x1F15, .shift 1 0x1F18⟩,
   ⟨0x1F20, 0x1F27, .shift 1 0x1F28⟩, ⟨0x1F30, 0x1F37, .shift 1 0x1F38⟩,
   ⟨0x1F40, 0x1F45, .shift 1 0x1F48⟩, ⟨0x1F50, 0x1F50, .expand ['\u03A5', '\u0313']⟩,
   ⟨0x1F51, 0x1F51, .shift 1 0x1F59⟩, ⟨0x1F52, 0x1F52, .expand ['\u03A5', '\u0313', '\u0300']⟩,
   ⟨0x1F53, 0x1F53, .shift 1 0x1F5B⟩, ⟨0x1F54, 0x1F54, .expand ['\u03A5', '\u0313', '\u0301']⟩,
   ⟨0x1F55, 0x1F55, .shift 1 0x1F5D⟩, ⟨0x1F56, 0x1F56, .expand ['\u03A5', '\u0313', '\u0342']⟩,
   ⟨0x1F57, 0x1F57, .shift 1 0x1F5F⟩, ⟨0x1F60, 0x1F67, .shift 1 0x1F68⟩,
   ⟨0x1F70, 0x1F71, .shift 1 0x1FBA⟩, ⟨0x1F72, 0x1F75, .shift 1 0x1FC8⟩,
   ⟨0x1F76, 0x1F77, .shift 1 0x1FDA⟩, ⟨0x1F78, 0x1F79, .shift 1 0x1FF8⟩,
   ⟨0x1F7A, 0x1F7B, .shift 1 0x1FEA⟩, ⟨0x1F7C, 0x1F7D, .shift 1 0x1FFA⟩,
   ⟨0x1F80, 0x1F80, .expand ['\u1F08', '\u0399']⟩, ⟨0x1F81, 0x1F81, .expand ['\u1F09', '\u0399']⟩,
   ⟨0x1F82, 0x1F82, .expand ['\u1F0A', '\u0399']⟩, ⟨0x1F83, 0x1F83, .expand ['\u1F0B', '\u0399']⟩,
   ⟨0x1F84, 0x1F84, .expand ['\u1F0C', '\u0399']⟩, ⟨0x1F85, 0x1F85, .expand ['\u1F0D', '\u0399']⟩,
   ⟨0x1F86, 0x1F86, .expand ['\u1F0E', '\u0399']⟩, ⟨0x1F87, 0x1F87, .expand ['\u1F0F', '\u0399']⟩,
   ⟨0x1F88, 0x1F88, .expand ['\u1F08', '\u0399']⟩, ⟨0x1F89, 0x1F89, .expand ['\u1F09', '\u0399']⟩,
   ⟨0x1F8A, 0x1F8A, .expand ['\u1F0A', '\u0399']⟩, ⟨0x1F8B, 0x1F8B, .expand ['\u1F0B', '\u0399']⟩,
   ⟨0x1F8C, 0x1F8C, .expand ['\u1F0C', '\u0399']⟩, ⟨0x1F8D, 0x1F8D, .expand ['\u1F0D', '\u0399']⟩,
   ⟨0x1F8E, 0x1F8E, .expand ['\u1F0E', '\u0399']⟩, ⟨0x1F8F, 0x1F8F, .expand ['\u1F0F', '\u0399']⟩,
   ⟨0x1F90, 0x1F90, .expand ['\u1F28', '\u0399']⟩, ⟨0x1F91, 0x1F91, .expand ['\u1F29', '\u0399']⟩,
   ⟨0x1F92, 0x1F92, .expand ['\u1F2A', '\u0399']⟩, ⟨0x1F93, 0x1F93, .expand ['\u1F2B', '\u0399']⟩,
   ⟨0x1F94, 0x1F94, .expand ['\u1F2C', '\u0399']⟩, ⟨0x1F95, 0x1F95, .expand ['\u1F2D', '\u0399']⟩,
   ⟨0x1F96, 0x1F96, .expand ['\u1F2E', '\u0399']⟩, ⟨0x1F97, 0x1F97, .expand ['\u1F2F', '\u0399']⟩,
   ⟨0x1F98, 0x1F98, .expand ['\u1F28', '\u0399']⟩, ⟨0x1F99, 0x1F99, .expand ['\u1F29', '\u0399']⟩,
   ⟨0x1F9A, 0x1F9A, .expand ['\u1F2A', '\u0399']⟩, ⟨0x1F9B, 0x1F9B, .expand ['\u1F2B', '\u0399']⟩,
   ⟨0x1F9C, 0x1F9C, .expand ['\u1F2C', '\u0399']⟩, ⟨0x1F9D, 0x1F9D, .expand ['\u1F2D', '\u0399']⟩,
   ⟨0x1F9E, 0x1F9E, .expand ['\u1F2E', '\u0399']⟩, ⟨0x1F9F, 0x1F9F, .expand ['\u1F2F', '\u0399']⟩,
   ⟨0x1FA0, 0x1FA0, .expand ['\u1F68', '\u0399']⟩, ⟨0x1FA1, 0x1FA1, .expand ['\u1F69', '\u0399']⟩,
   ⟨0x1FA2, 0x1FA2, .expand ['\u1F6A', '\u0399']⟩, ⟨0x1FA3, 0x1FA3, .expand ['\u1F6B', '\u0399']⟩,
   ⟨0x1FA4, 0x1FA4, .expand ['\u1F6C', '\u0399']⟩, ⟨0x1FA5, 0x1FA5, .expand ['\u1F6D', '\u0399']⟩,
   ⟨0x1FA6, 0x1FA6, .expand ['\u1F6E', '\u0399']⟩, ⟨0x1FA7, 0x1FA7, .expand ['\u1F6F', '\u0399']⟩,
   ⟨0x1FA8, 0x1FA8, .expand ['\u1F68', '\u0399']⟩, ⟨0x1FA9, 0x1FA9, .expand ['\u1F69', '\u0399']⟩,
   ⟨0x1FAA, 0x1FAA, .expand ['\u1F6A', '\u0399']⟩, ⟨0x1FAB, 0x1FAB, .expand ['\u1F6B', '\u0399']⟩,
   ⟨0x1FAC, 0x1FAC, .expand ['\u1F6C', '\u0399']⟩, ⟨0x1FAD, 0x1FAD, .expand ['\u1F6D', '\u0399']⟩,
   ⟨0x1FAE, 0x1FAE, .expand ['\u1F6E', '\u0399']⟩, ⟨0x1FAF, 0x1FAF, .expand ['\u1F6F', '\u0399']⟩,
   ⟨0x1FB0, 0x1FB1, .shift 1 0x1FB8⟩, ⟨0x1FB2, 0x1FB2, .expand ['\u1FBA', '\u0399']⟩,
   ⟨0x1FB3, 0x1FB3, .expand ['\u0391', '\u0399']⟩, ⟨0x1FB4, 0x1FB4, .expand ['\u0386', '\u0399']⟩,
   ⟨0x1FB6, 0x1FB6, .expand ['\u0391', '\u0342']⟩,
   ⟨0x1FB7, 0x1FB7, .expand ['\u0391', '\u0342', '\u0399']⟩,
   ⟨0x1FBC, 0x1FBC, .expand ['\u0391', '\u0399']⟩, ⟨0x1FBE, 0x1FBE, .shift 1 0x399⟩,
   ⟨0x1FC2, 0x1FC2, .expand ['\u1FCA', '\u0399']⟩, ⟨0x1FC3, 0x1FC3, .expand ['\u0397', '\u0399']⟩,
   ⟨0x1FC4, 0x1FC4, .expand ['\u0389', '\u0399']⟩, ⟨0x1FC6, 0x1FC6, .expand ['\u0397', '\u0342']⟩,
   ⟨0x1FC7, 0x1FC7, .expand ['\u0397', '\u0342', '\u0399']⟩,
   ⟨0x1FCC, 0x1FCC, .expand ['\u0397', '\u0399']⟩, ⟨0x1FD0, 0x1FD1, .shift 1 0x1FD8⟩,
   ⟨0x1FD2, 0x1FD2, .expand ['\u0399', '\u0308', '\u0300']⟩,
   ⟨0x1FD3, 0x1FD3, .expand ['\u0399', '\u0308', '\u0301']⟩,
   ⟨0x1FD6, 0x1FD6, .expand ['\u0399', '\u0342']⟩,
   ⟨0x1FD7, 0x1FD7, .expand ['\u0399', '\u0308', '\u0342']⟩, ⟨0x1FE0, 0x1FE1, .shift 1 0x1FE8⟩,
   ⟨0x1FE2, 0x1FE2, .expand ['\u03A5', '\u0308', '\u0300']⟩,
   ⟨0x1FE3, 0x1FE3, .expand ['\u03A5', '\u0308', '\u0301']⟩,
   ⟨0x1FE4, 0x1FE4, .expand ['\u03A1', '\u0313']⟩, ⟨0x1FE5, 0x1FE5, .shift 1 0x1FEC⟩,
   ⟨0x1FE6, 0x1FE6, .expand ['\u03A5', '\u0342']⟩,
   ⟨0x1FE7, 0x1FE7, .expand ['\u03A5', '\u0308', '\u0342']⟩,
   ⟨0x1FF2, 0x1FF2, .expand ['\u1FFA', '\u0399']⟩, ⟨0x1FF3, 0x1FF3, .expand ['\u03A9', '\u0399']⟩,
   ⟨0x1FF4, 0x1FF4, .expand ['\u038F', '\u0399']⟩, ⟨0x1FF6, 0x1FF6, .expand ['\u03A9', '\u0342']⟩,
   ⟨0x1FF7, 0x1FF7, .expand ['\u03A9', '\u0342', '\u0399']⟩,
   ⟨0x1FFC, 0x1FFC, .expand ['\u03A9', '\u0399']⟩, ⟨0x214E, 0x214E, .shift 1 0x2132⟩,
   ⟨0x2170, 0x217F, .shift 1 0x2160⟩, ⟨0x2184, 0x2184, .shift 1 0x2183⟩,
   ⟨0x24D0, 0x24E9, .shift 1 0x24B6⟩, ⟨0x2C30, 0x2C5F, .shift 1 0x2C00⟩,
   ⟨0x2C61, 0x2C61, .shift 1 0x2C60⟩, ⟨0x2C65, 0x2C65, .shift 1 0x23A⟩,
   ⟨0x2C66, 0x2C66, .shift 1 0x23E⟩, ⟨0x2C68, 0x2C6C, .shift 2 0x2C67⟩,
   ⟨0x2C73, 0x2C73, .shift 1 0x2C72⟩, ⟨0x2C76, 0x2C76, .shift 1 0x2C75⟩,
   ⟨0x2C81, 0x2CE3, .shift 2 0x2C80⟩, ⟨0x2CEC, 0x2CEE, .shift 2 0x2CEB⟩,
   ⟨0x2CF3, 0x2CF3, .shift 1 0x2CF2⟩, ⟨0x2D00, 0x2D25, .shift 1 0x10A0⟩,
   ⟨0x2D27, 0x2D27, .shift 1 0x10C7⟩, ⟨0x2D2D, 0x2D2D, .shift 1 0x10CD⟩,
   ⟨0xA641, 0xA66D, .shift 2 0xA640⟩, ⟨0xA681, 0xA69B, .shift 2 0xA680⟩,
   ⟨0xA723, 0xA72F, .shift 2 0xA722⟩, ⟨0xA733, 0xA76F, .shift 2 0xA732⟩,
   ⟨0xA77A, 0xA77C, .shift 2 0xA779⟩, ⟨0xA77F, 0xA787, .shift 2 0xA77E⟩,
   ⟨0xA78C, 0xA78C, .shift 1 0xA78B⟩, ⟨0xA791, 0xA793, .shift 2 0xA790⟩,
   ⟨0xA794, 0xA794, .shift 1 0xA7C4⟩, ⟨0xA797, 0xA7A9, .shift 2 0xA796⟩,
   ⟨0xA7B5, 0xA7C3, .shift 2 0xA7B4⟩, ⟨0xA7C8, 0xA7CA, .shift 2 0xA7C7⟩,
   ⟨0xA7CD, 0xA7DB, .shift 2 0xA7CC⟩, ⟨0xA7F6, 0xA7F6, .shift 1 0xA7F5⟩,
   ⟨0xAB53, 0xAB53, .shift 1 0xA7B3⟩, ⟨0xAB70, 0xABBF, .shift 1 0x13A0⟩,
   ⟨0xFB00, 0xFB00, .expand ['F', 'F']⟩, ⟨0xFB01, 0xFB01, .expand ['F', 'I']⟩,
   ⟨0xFB02, 0xFB02, .expand ['F', 'L']⟩, ⟨0xFB03, 0xFB03, .expand ['F', 'F', 'I']⟩,
   ⟨0xFB04, 0xFB04, .expand ['F', 'F', 'L']⟩, ⟨0xFB05, 0xFB05, .expand ['S', 'T']⟩,
   ⟨0xFB06, 0xFB06, .expand ['S', 'T']⟩, ⟨0xFB13, 0xFB13, .expand ['\u0544', '\u0546']⟩,
   ⟨0xFB14, 0xFB14, .expand ['\u0544', '\u0535']⟩, ⟨0xFB15, 0xFB15, .expand ['\u0544', '\u053B']⟩,
   ⟨0xFB16, 0xFB16, .expand ['\u054E', '\u0546']⟩, ⟨0xFB17, 0xFB17, .expand ['\u0544', '\u053D']⟩,
   ⟨0xFF41, 0xFF5A, .shift 1 0xFF21⟩, ⟨0x10428, 0x1044F, .shift 1 0x10400⟩,
   ⟨0x104D8, 0x104FB, .shift 1 0x104B0⟩, ⟨0x10597, 0x105A1, .shift 1 0x10570⟩,
   ⟨0x105A3, 0x105B1, .shift 1 0x1057C⟩, ⟨0x105B3, 0x105B9, .shift 1 0x1058C⟩,
   ⟨0x105BB, 0x105BC, .shift 1 0x10594⟩, ⟨0x10CC0, 0x10CF2, .shift 1 0x10C80⟩,
   ⟨0x10D70, 0x10D85, .shift 1 0x10D50⟩, ⟨0x118C0, 0x118DF, .shift 1 0x118A0⟩,
   ⟨0x16E60, 0x16E7F, .shift 1 0x16E40⟩, ⟨0x16EBB, 0x16ED3, .shift 1 0x16EA0⟩,
   ⟨0x1E922, 0x1E943, .shift 1 0x1E900⟩]

def upperCaseMap : RangeMap CaseRule := .ofList upperCaseRuns

/-- the letters of ASCII are not in the table -/
def upperCase (c : Char) : List Char :=
  if c.toNat < 0x80 then [c.toUpper] else upperCaseMap.mapChar c

end ProjectAudit
