/-!
Domain names in their plain form: letters in lower case, compatible variants replaced by the
characters they stand for, and marks joined to their letters.
-/
namespace Lookout.Url.Mapping

/-- Ranges of characters with the characters that they stand for: the first and the last of the
range, the step between its members, and what the first one stands for. These are the ranges up to
U+1FFF. -/
def lowSingles : Array (Nat × Nat × Nat × Nat) := #[
  (0xA0, 0xA0, 1, 0x20), (0xAA, 0xAA, 1, 0x61), (0xB2, 0xB3, 1, 0x32), (0xB5, 0xB5, 1, 0x3BC),
  (0xB9, 0xB9, 1, 0x31), (0xBA, 0xBA, 1, 0x6F), (0xC0, 0xD6, 1, 0xE0), (0xD8, 0xDE, 1, 0xF8),
  (0x100, 0x12E, 2, 0x101), (0x134, 0x136, 2, 0x135), (0x139, 0x13D, 2, 0x13A),
  (0x141, 0x147, 2, 0x142), (0x14A, 0x176, 2, 0x14B), (0x178, 0x178, 1, 0xFF),
  (0x179, 0x17D, 2, 0x17A), (0x17F, 0x17F, 1, 0x73), (0x181, 0x181, 1, 0x253),
  (0x182, 0x184, 2, 0x183), (0x186, 0x186, 1, 0x254), (0x187, 0x187, 1, 0x188),
  (0x189, 0x18A, 1, 0x256), (0x18B, 0x18B, 1, 0x18C), (0x18E, 0x18E, 1, 0x1DD),
  (0x18F, 0x18F, 1, 0x259), (0x190, 0x190, 1, 0x25B), (0x191, 0x191, 1, 0x192),
  (0x193, 0x193, 1, 0x260), (0x194, 0x194, 1, 0x263), (0x196, 0x196, 1, 0x269),
  (0x197, 0x197, 1, 0x268), (0x198, 0x198, 1, 0x199), (0x19C, 0x19C, 1, 0x26F),
  (0x19D, 0x19D, 1, 0x272), (0x19F, 0x19F, 1, 0x275), (0x1A0, 0x1A4, 2, 0x1A1),
  (0x1A6, 0x1A6, 1, 0x280), (0x1A7, 0x1A7, 1, 0x1A8), (0x1A9, 0x1A9, 1, 0x283),
  (0x1AC, 0x1AC, 1, 0x1AD), (0x1AE, 0x1AE, 1, 0x288), (0x1AF, 0x1AF, 1, 0x1B0),
  (0x1B1, 0x1B2, 1, 0x28A), (0x1B3, 0x1B5, 2, 0x1B4), (0x1B7, 0x1B7, 1, 0x292),
  (0x1B8, 0x1B8, 1, 0x1B9), (0x1BC, 0x1BC, 1, 0x1BD), (0x1CD, 0x1DB, 2, 0x1CE),
  (0x1DE, 0x1EE, 2, 0x1DF), (0x1F4, 0x1F4, 1, 0x1F5), (0x1F6, 0x1F6, 1, 0x195),
  (0x1F7, 0x1F7, 1, 0x1BF), (0x1F8, 0x21E, 2, 0x1F9), (0x220, 0x220, 1, 0x19E),
  (0x222, 0x232, 2, 0x223), (0x23A, 0x23A, 1, 0x2C65), (0x23B, 0x23B, 1, 0x23C),
  (0x23D, 0x23D, 1, 0x19A), (0x23E, 0x23E, 1, 0x2C66), (0x241, 0x241, 1, 0x242),
  (0x243, 0x243, 1, 0x180), (0x244, 0x244, 1, 0x289), (0x245, 0x245, 1, 0x28C),
  (0x246, 0x24E, 2, 0x247), (0x2B0, 0x2B2, 2, 0x68), (0x2B1, 0x2B1, 1, 0x266),
  (0x2B3, 0x2B3, 1, 0x72), (0x2B4, 0x2B4, 1, 0x279), (0x2B5, 0x2B5, 1, 0x27B),
  (0x2B6, 0x2B6, 1, 0x281), (0x2B7, 0x2B7, 1, 0x77), (0x2B8, 0x2B8, 1, 0x79),
  (0x2E0, 0x2E0, 1, 0x263), (0x2E1, 0x2E1, 1, 0x6C), (0x2E2, 0x2E2, 1, 0x73),
  (0x2E3, 0x2E3, 1, 0x78), (0x2E4, 0x2E4, 1, 0x295), (0x340, 0x341, 1, 0x300),
  (0x343, 0x343, 1, 0x313), (0x345, 0x345, 1, 0x3B9), (0x370, 0x372, 2, 0x371),
  (0x374, 0x374, 1, 0x2B9), (0x376, 0x376, 1, 0x377), (0x37E, 0x37E, 1, 0x3B),
  (0x37F, 0x37F, 1, 0x3F3), (0x386, 0x386, 1, 0x3AC), (0x387, 0x387, 1, 0xB7),
  (0x388, 0x38A, 1, 0x3AD), (0x38C, 0x38C, 1, 0x3CC), (0x38E, 0x38F, 1, 0x3CD),
  (0x391, 0x3A1, 1, 0x3B1), (0x3A3, 0x3AB, 1, 0x3C3), (0x3CF, 0x3CF, 1, 0x3D7),
  (0x3D0, 0x3D0, 1, 0x3B2), (0x3D1, 0x3D1, 1, 0x3B8), (0x3D2, 0x3D2, 1, 0x3C5),
  (0x3D3, 0x3D3, 1, 0x3CD), (0x3D4, 0x3D4, 1, 0x3CB), (0x3D5, 0x3D5, 1, 0x3C6),
  (0x3D6, 0x3D6, 1, 0x3C0), (0x3D8, 0x3EE, 2, 0x3D9), (0x3F0, 0x3F0, 1, 0x3BA),
  (0x3F1, 0x3F1, 1, 0x3C1), (0x3F2, 0x3F2, 1, 0x3C3), (0x3F4, 0x3F4, 1, 0x3B8),
  (0x3F5, 0x3F5, 1, 0x3B5), (0x3F7, 0x3F7, 1, 0x3F8), (0x3F9, 0x3F9, 1, 0x3C3),
  (0x3FA, 0x3FA, 1, 0x3FB), (0x3FD, 0x3FF, 1, 0x37B), (0x400, 0x40F, 1, 0x450),
  (0x410, 0x42F, 1, 0x430), (0x460, 0x480, 2, 0x461), (0x48A, 0x4BE, 2, 0x48B),
  (0x4C0, 0x4C0, 1, 0x4CF), (0x4C1, 0x4CD, 2, 0x4C2), (0x4D0, 0x52E, 2, 0x4D1),
  (0x531, 0x556, 1, 0x561), (0xF0C, 0xF0C, 1, 0xF0B), (0x10A0, 0x10C5, 1, 0x2D00),
  (0x10C7, 0x10C7, 1, 0x2D27), (0x10CD, 0x10CD, 1, 0x2D2D), (0x10FC, 0x10FC, 1, 0x10DC),
  (0x13F8, 0x13FD, 1, 0x13F0), (0x1C80, 0x1C80, 1, 0x432), (0x1C81, 0x1C81, 1, 0x434),
  (0x1C82, 0x1C82, 1, 0x43E), (0x1C83, 0x1C84, 1, 0x441), (0x1C85, 0x1C85, 1, 0x442),
  (0x1C86, 0x1C86, 1, 0x44A), (0x1C87, 0x1C87, 1, 0x463), (0x1C88, 0x1C88, 1, 0xA64B),
  (0x1C90, 0x1CBA, 1, 0x10D0), (0x1CBD, 0x1CBF, 1, 0x10FD), (0x1D2C, 0x1D2C, 1, 0x61),
  (0x1D2D, 0x1D2D, 1, 0xE6), (0x1D2E, 0x1D30, 2, 0x62), (0x1D31, 0x1D39, 2, 0x65),
  (0x1D32, 0x1D32, 1, 0x1DD), (0x1D34, 0x1D3A, 1, 0x68), (0x1D3C, 0x1D3C, 1, 0x6F),
  (0x1D3D, 0x1D3D, 1, 0x223), (0x1D3E, 0x1D3E, 1, 0x70), (0x1D3F, 0x1D3F, 1, 0x72),
  (0x1D40, 0x1D41, 1, 0x74), (0x1D42, 0x1D42, 1, 0x77), (0x1D43, 0x1D43, 1, 0x61),
  (0x1D44, 0x1D45, 1, 0x250), (0x1D46, 0x1D46, 1, 0x1D02), (0x1D47, 0x1D47, 1, 0x62),
  (0x1D48, 0x1D49, 1, 0x64), (0x1D4A, 0x1D4A, 1, 0x259), (0x1D4B, 0x1D4C, 1, 0x25B),
  (0x1D4D, 0x1D4D, 1, 0x67), (0x1D4F, 0x1D4F, 1, 0x6B), (0x1D50, 0x1D52, 2, 0x6D),
  (0x1D51, 0x1D51, 1, 0x14B), (0x1D53, 0x1D53, 1, 0x254), (0x1D54, 0x1D55, 1, 0x1D16),
  (0x1D56, 0x1D56, 1, 0x70), (0x1D57, 0x1D58, 1, 0x74), (0x1D59, 0x1D59, 1, 0x1D1D),
  (0x1D5A, 0x1D5A, 1, 0x26F), (0x1D5B, 0x1D5B, 1, 0x76), (0x1D5C, 0x1D5C, 1, 0x1D25),
  (0x1D5D, 0x1D5F, 1, 0x3B2), (0x1D60, 0x1D61, 1, 0x3C6), (0x1D62, 0x1D62, 1, 0x69),
  (0x1D63, 0x1D63, 1, 0x72), (0x1D64, 0x1D65, 1, 0x75), (0x1D66, 0x1D67, 1, 0x3B2),
  (0x1D68, 0x1D68, 1, 0x3C1), (0x1D69, 0x1D6A, 1, 0x3C6), (0x1D78, 0x1D78, 1, 0x43D),
  (0x1D9B, 0x1D9B, 1, 0x252), (0x1D9C, 0x1D9C, 1, 0x63), (0x1D9D, 0x1D9D, 1, 0x255),
  (0x1D9E, 0x1D9E, 1, 0xF0), (0x1D9F, 0x1D9F, 1, 0x25C), (0x1DA0, 0x1DA0, 1, 0x66),
  (0x1DA1, 0x1DA1, 1, 0x25F), (0x1DA2, 0x1DA2, 1, 0x261), (0x1DA3, 0x1DA3, 1, 0x265),
  (0x1DA4, 0x1DA6, 1, 0x268), (0x1DA7, 0x1DA7, 1, 0x1D7B), (0x1DA8, 0x1DA8, 1, 0x29D),
  (0x1DA9, 0x1DA9, 1, 0x26D), (0x1DAA, 0x1DAA, 1, 0x1D85), (0x1DAB, 0x1DAB, 1, 0x29F),
  (0x1DAC, 0x1DAC, 1, 0x271), (0x1DAD, 0x1DAD, 1, 0x270), (0x1DAE, 0x1DB1, 1, 0x272),
  (0x1DB2, 0x1DB2, 1, 0x278), (0x1DB3, 0x1DB4, 1, 0x282), (0x1DB5, 0x1DB5, 1, 0x1AB),
  (0x1DB6, 0x1DB7, 1, 0x289), (0x1DB8, 0x1DB8, 1, 0x1D1C), (0x1DB9, 0x1DBA, 1, 0x28B),
  (0x1DBB, 0x1DBB, 1, 0x7A), (0x1DBC, 0x1DBE, 1, 0x290), (0x1DBF, 0x1DBF, 1, 0x3B8),
  (0x1E00, 0x1E94, 2, 0x1E01), (0x1E9B, 0x1E9B, 1, 0x1E61), (0x1EA0, 0x1EFE, 2, 0x1EA1),
  (0x1F08, 0x1F0F, 1, 0x1F00), (0x1F18, 0x1F1D, 1, 0x1F10), (0x1F28, 0x1F2F, 1, 0x1F20),
  (0x1F38, 0x1F3F, 1, 0x1F30), (0x1F48, 0x1F4D, 1, 0x1F40), (0x1F59, 0x1F5F, 2, 0x1F51),
  (0x1F68, 0x1F6F, 1, 0x1F60), (0x1F71, 0x1F71, 1, 0x3AC), (0x1F73, 0x1F73, 1, 0x3AD),
  (0x1F75, 0x1F75, 1, 0x3AE), (0x1F77, 0x1F77, 1, 0x3AF), (0x1F79, 0x1F79, 1, 0x3CC),
  (0x1F7B, 0x1F7B, 1, 0x3CD), (0x1F7D, 0x1F7D, 1, 0x3CE), (0x1FB8, 0x1FB9, 1, 0x1FB0),
  (0x1FBA, 0x1FBA, 1, 0x1F70), (0x1FBB, 0x1FBB, 1, 0x3AC), (0x1FBE, 0x1FBE, 1, 0x3B9),
  (0x1FC8, 0x1FCA, 2, 0x1F72), (0x1FC9, 0x1FC9, 1, 0x3AD), (0x1FCB, 0x1FCB, 1, 0x3AE),
  (0x1FD3, 0x1FD3, 1, 0x390), (0x1FD8, 0x1FD9, 1, 0x1FD0), (0x1FDA, 0x1FDA, 1, 0x1F76),
  (0x1FDB, 0x1FDB, 1, 0x3AF), (0x1FE3, 0x1FE3, 1, 0x3B0), (0x1FE8, 0x1FE9, 1, 0x1FE0),
  (0x1FEA, 0x1FEA, 1, 0x1F7A), (0x1FEB, 0x1FEB, 1, 0x3CD), (0x1FEC, 0x1FEC, 1, 0x1FE5),
  (0x1FEF, 0x1FEF, 1, 0x60), (0x1FF8, 0x1FF8, 1, 0x1F78), (0x1FF9, 0x1FFB, 2, 0x3CC),
  (0x1FFA, 0x1FFA, 1, 0x1F7C)]

/-- The ranges beyond. -/
def highSingles : Array (Nat × Nat × Nat × Nat) := #[
  (0x2000, 0x2000, 1, 0x20), (0x2001, 0x2001, 1, 0x20), (0x2002, 0x2002, 1, 0x20),
  (0x2003, 0x2003, 1, 0x20), (0x2004, 0x2004, 1, 0x20), (0x2005, 0x2005, 1, 0x20),
  (0x2006, 0x2006, 1, 0x20), (0x2007, 0x2007, 1, 0x20), (0x2008, 0x2008, 1, 0x20),
  (0x2009, 0x2009, 1, 0x20), (0x200A, 0x200A, 1, 0x20), (0x2011, 0x2011, 1, 0x2010),
  (0x2024, 0x2024, 1, 0x2E), (0x202F, 0x202F, 1, 0x20), (0x205F, 0x205F, 1, 0x20),
  (0x2070, 0x2070, 1, 0x30), (0x2071, 0x2071, 1, 0x69), (0x2074, 0x2079, 1, 0x34),
  (0x207A, 0x207A, 1, 0x2B), (0x207B, 0x207B, 1, 0x2212), (0x207C, 0x207C, 1, 0x3D),
  (0x207D, 0x207E, 1, 0x28), (0x207F, 0x207F, 1, 0x6E), (0x2080, 0x2089, 1, 0x30),
  (0x208A, 0x208A, 1, 0x2B), (0x208B, 0x208B, 1, 0x2212), (0x208C, 0x208C, 1, 0x3D),
  (0x208D, 0x208E, 1, 0x28), (0x2090, 0x2090, 1, 0x61), (0x2091, 0x2091, 1, 0x65),
  (0x2092, 0x2092, 1, 0x6F), (0x2093, 0x2093, 1, 0x78), (0x2094, 0x2094, 1, 0x259),
  (0x2095, 0x2095, 1, 0x68), (0x2096, 0x2099, 1, 0x6B), (0x209A, 0x209A, 1, 0x70),
  (0x209B, 0x209C, 1, 0x73), (0x2102, 0x2102, 1, 0x63), (0x2107, 0x2107, 1, 0x25B),
  (0x210A, 0x210B, 1, 0x67), (0x210C, 0x210C, 1, 0x68), (0x210D, 0x210D, 1, 0x68),
  (0x210E, 0x210E, 1, 0x68), (0x210F, 0x210F, 1, 0x127), (0x2110, 0x2110, 1, 0x69),
  (0x2111, 0x2111, 1, 0x69), (0x2112, 0x2112, 1, 0x6C), (0x2113, 0x2115, 2, 0x6C),
  (0x2119, 0x211B, 1, 0x70), (0x211C, 0x211C, 1, 0x72), (0x211D, 0x211D, 1, 0x72),
  (0x2124, 0x2124, 1, 0x7A), (0x2126, 0x2126, 1, 0x3C9), (0x2128, 0x2128, 1, 0x7A),
  (0x212A, 0x212A, 1, 0x6B), (0x212B, 0x212B, 1, 0xE5), (0x212C, 0x212D, 1, 0x62),
  (0x212F, 0x212F, 1, 0x65), (0x2130, 0x2131, 1, 0x65), (0x2132, 0x2132, 1, 0x214E),
  (0x2133, 0x2133, 1, 0x6D), (0x2134, 0x2134, 1, 0x6F), (0x2135, 0x2138, 1, 0x5D0),
  (0x2139, 0x2139, 1, 0x69), (0x213C, 0x213C, 1, 0x3C0), (0x213D, 0x213D, 1, 0x3B3),
  (0x213E, 0x213E, 1, 0x3B3), (0x213F, 0x213F, 1, 0x3C0), (0x2140, 0x2140, 1, 0x2211),
  (0x2145, 0x2145, 1, 0x64), (0x2146, 0x2147, 1, 0x64), (0x2148, 0x2149, 1, 0x69),
  (0x2160, 0x2160, 1, 0x69), (0x2164, 0x2164, 1, 0x76), (0x2169, 0x2169, 1, 0x78),
  (0x216C, 0x216C, 1, 0x6C), (0x216D, 0x216E, 1, 0x63), (0x216F, 0x216F, 1, 0x6D),
  (0x2170, 0x2170, 1, 0x69), (0x2174, 0x2174, 1, 0x76), (0x2179, 0x2179, 1, 0x78),
  (0x217C, 0x217C, 1, 0x6C), (0x217D, 0x217E, 1, 0x63), (0x217F, 0x217F, 1, 0x6D),
  (0x2183, 0x2183, 1, 0x2184), (0x2329, 0x232A, 1, 0x3008), (0x2460, 0x2468, 1, 0x31),
  (0x24B6, 0x24CF, 1, 0x61), (0x24D0, 0x24E9, 1, 0x61), (0x24EA, 0x24EA, 1, 0x30),
  (0x2C00, 0x2C2F, 1, 0x2C30), (0x2C60, 0x2C60, 1, 0x2C61), (0x2C62, 0x2C62, 1, 0x26B),
  (0x2C63, 0x2C63, 1, 0x1D7D), (0x2C64, 0x2C64, 1, 0x27D), (0x2C67, 0x2C6B, 2, 0x2C68),
  (0x2C6D, 0x2C6D, 1, 0x251), (0x2C6E, 0x2C6E, 1, 0x271), (0x2C6F, 0x2C6F, 1, 0x250),
  (0x2C70, 0x2C70, 1, 0x252), (0x2C72, 0x2C72, 1, 0x2C73), (0x2C75, 0x2C75, 1, 0x2C76),
  (0x2C7C, 0x2C7C, 1, 0x6A), (0x2C7D, 0x2C7D, 1, 0x76), (0x2C7E, 0x2C7F, 1, 0x23F),
  (0x2C80, 0x2CE2, 2, 0x2C81), (0x2CEB, 0x2CED, 2, 0x2CEC), (0x2CF2, 0x2CF2, 1, 0x2CF3),
  (0x2D6F, 0x2D6F, 1, 0x2D61), (0x2E9F, 0x2E9F, 1, 0x6BCD), (0x2EF3, 0x2EF3, 1, 0x9F9F),
  (0x3000, 0x3000, 1, 0x20), (0x3002, 0x3002, 1, 0x2E), (0x3036, 0x3036, 1, 0x3012),
  (0x3038, 0x3038, 1, 0x5341), (0x3039, 0x303A, 1, 0x5344), (0x3131, 0x3132, 1, 0x1100),
  (0x3133, 0x3135, 2, 0x11AA), (0x3134, 0x3134, 1, 0x1102), (0x3136, 0x3136, 1, 0x11AD),
  (0x3137, 0x3139, 1, 0x1103), (0x313A, 0x313F, 1, 0x11B0), (0x3140, 0x3140, 1, 0x111A),
  (0x3141, 0x3143, 1, 0x1106), (0x3144, 0x3144, 1, 0x1121), (0x3145, 0x314E, 1, 0x1109),
  (0x314F, 0x3163, 1, 0x1161), (0x3165, 0x3166, 1, 0x1114), (0x3167, 0x3168, 1, 0x11C7),
  (0x3169, 0x3169, 1, 0x11CC), (0x316A, 0x316A, 1, 0x11CE), (0x316B, 0x316B, 1, 0x11D3),
  (0x316C, 0x316C, 1, 0x11D7), (0x316D, 0x316D, 1, 0x11D9), (0x316E, 0x316E, 1, 0x111C),
  (0x316F, 0x316F, 1, 0x11DD), (0x3170, 0x3170, 1, 0x11DF), (0x3171, 0x3172, 1, 0x111D),
  (0x3173, 0x3173, 1, 0x1120), (0x3174, 0x3175, 1, 0x1122), (0x3176, 0x3176, 1, 0x1127),
  (0x3177, 0x3177, 1, 0x1129), (0x3178, 0x317C, 1, 0x112B), (0x317D, 0x317D, 1, 0x1132),
  (0x317E, 0x317E, 1, 0x1136), (0x317F, 0x317F, 1, 0x1140), (0x3180, 0x3180, 1, 0x1147),
  (0x3181, 0x3181, 1, 0x114C), (0x3182, 0x3183, 1, 0x11F1), (0x3184, 0x3186, 1, 0x1157),
  (0x3187, 0x3188, 1, 0x1184), (0x3189, 0x3189, 1, 0x1188), (0x318A, 0x318B, 1, 0x1191),
  (0x318C, 0x318C, 1, 0x1194), (0x318D, 0x318D, 1, 0x119E), (0x318E, 0x318E, 1, 0x11A1),
  (0x3192, 0x3192, 1, 0x4E00), (0x3193, 0x3193, 1, 0x4E8C), (0x3194, 0x3194, 1, 0x4E09),
  (0x3195, 0x3195, 1, 0x56DB), (0x3196, 0x3196, 1, 0x4E0A), (0x3197, 0x3197, 1, 0x4E2D),
  (0x3198, 0x3198, 1, 0x4E0B), (0x3199, 0x3199, 1, 0x7532), (0x319A, 0x319A, 1, 0x4E59),
  (0x319B, 0x319B, 1, 0x4E19), (0x319C, 0x319C, 1, 0x4E01), (0x319D, 0x319D, 1, 0x5929),
  (0x319E, 0x319E, 1, 0x5730), (0x319F, 0x319F, 1, 0x4EBA), (0x3244, 0x3244, 1, 0x554F),
  (0x3245, 0x3245, 1, 0x5E7C), (0x3246, 0x3246, 1, 0x6587), (0x3247, 0x3247, 1, 0x7B8F),
  (0x3260, 0x3260, 1, 0x1100), (0x3261, 0x3262, 1, 0x1102), (0x3263, 0x3265, 1, 0x1105),
  (0x3266, 0x3266, 1, 0x1109), (0x3267, 0x3268, 1, 0x110B), (0x3269, 0x326D, 1, 0x110E),
  (0x326E, 0x326E, 1, 0xAC00), (0x326F, 0x326F, 1, 0xB098), (0x3270, 0x3270, 1, 0xB2E4),
  (0x3271, 0x3271, 1, 0xB77C), (0x3272, 0x3272, 1, 0xB9C8), (0x3273, 0x3273, 1, 0xBC14),
  (0x3274, 0x3274, 1, 0xC0AC), (0x3275, 0x3275, 1, 0xC544), (0x3276, 0x3276, 1, 0xC790),
  (0x3277, 0x3277, 1, 0xCC28), (0x3278, 0x3278, 1, 0xCE74), (0x3279, 0x3279, 1, 0xD0C0),
  (0x327A, 0x327A, 1, 0xD30C), (0x327B, 0x327B, 1, 0xD558), (0x327E, 0x327E, 1, 0xC6B0),
  (0x3280, 0x3280, 1, 0x4E00), (0x3281, 0x3281, 1, 0x4E8C), (0x3282, 0x3282, 1, 0x4E09),
  (0x3283, 0x3283, 1, 0x56DB), (0x3284, 0x3284, 1, 0x4E94), (0x3285, 0x3285, 1, 0x516D),
  (0x3286, 0x3286, 1, 0x4E03), (0x3287, 0x3287, 1, 0x516B), (0x3288, 0x3288, 1, 0x4E5D),
  (0x3289, 0x3289, 1, 0x5341), (0x328A, 0x328A, 1, 0x6708), (0x328B, 0x328B, 1, 0x706B),
  (0x328C, 0x328C, 1, 0x6C34), (0x328D, 0x328D, 1, 0x6728), (0x328E, 0x328E, 1, 0x91D1),
  (0x328F, 0x328F, 1, 0x571F), (0x3290, 0x3290, 1, 0x65E5), (0x3291, 0x3291, 1, 0x682A),
  (0x3292, 0x3292, 1, 0x6709), (0x3293, 0x3293, 1, 0x793E), (0x3294, 0x3294, 1, 0x540D),
  (0x3295, 0x3295, 1, 0x7279), (0x3296, 0x3296, 1, 0x8CA1), (0x3297, 0x3297, 1, 0x795D),
  (0x3298, 0x3298, 1, 0x52B4), (0x3299, 0x3299, 1, 0x79D8), (0x329A, 0x329A, 1, 0x7537),
  (0x329B, 0x329B, 1, 0x5973), (0x329C, 0x329C, 1, 0x9069), (0x329D, 0x329D, 1, 0x512A),
  (0x329E, 0x329E, 1, 0x5370), (0x329F, 0x329F, 1, 0x6CE8), (0x32A0, 0x32A0, 1, 0x9805),
  (0x32A1, 0x32A1, 1, 0x4F11), (0x32A2, 0x32A2, 1, 0x5199), (0x32A3, 0x32A3, 1, 0x6B63),
  (0x32A4, 0x32A4, 1, 0x4E0A), (0x32A5, 0x32A5, 1, 0x4E2D), (0x32A6, 0x32A6, 1, 0x4E0B),
  (0x32A7, 0x32A7, 1, 0x5DE6), (0x32A8, 0x32A8, 1, 0x53F3), (0x32A9, 0x32A9, 1, 0x533B),
  (0x32AA, 0x32AA, 1, 0x5B97), (0x32AB, 0x32AB, 1, 0x5B66), (0x32AC, 0x32AC, 1, 0x76E3),
  (0x32AD, 0x32AD, 1, 0x4F01), (0x32AE, 0x32AE, 1, 0x8CC7), (0x32AF, 0x32AF, 1, 0x5354),
  (0x32B0, 0x32B0, 1, 0x591C), (0x32D0, 0x32D0, 1, 0x30A2), (0x32D1, 0x32D1, 1, 0x30A4),
  (0x32D2, 0x32D2, 1, 0x30A6), (0x32D3, 0x32D3, 1, 0x30A8), (0x32D4, 0x32D5, 1, 0x30AA),
  (0x32D6, 0x32D6, 1, 0x30AD), (0x32D7, 0x32D7, 1, 0x30AF), (0x32D8, 0x32D8, 1, 0x30B1),
  (0x32D9, 0x32D9, 1, 0x30B3), (0x32DA, 0x32DA, 1, 0x30B5), (0x32DB, 0x32DB, 1, 0x30B7),
  (0x32DC, 0x32DC, 1, 0x30B9), (0x32DD, 0x32DD, 1, 0x30BB), (0x32DE, 0x32DE, 1, 0x30BD),
  (0x32DF, 0x32DF, 1, 0x30BF), (0x32E0, 0x32E0, 1, 0x30C1), (0x32E1, 0x32E1, 1, 0x30C4),
  (0x32E2, 0x32E2, 1, 0x30C6), (0x32E3, 0x32E3, 1, 0x30C8), (0x32E4, 0x32E9, 1, 0x30CA),
  (0x32EA, 0x32EA, 1, 0x30D2), (0x32EB, 0x32EB, 1, 0x30D5), (0x32EC, 0x32EC, 1, 0x30D8),
  (0x32ED, 0x32ED, 1, 0x30DB), (0x32EE, 0x32F2, 1, 0x30DE), (0x32F3, 0x32F3, 1, 0x30E4),
  (0x32F4, 0x32F4, 1, 0x30E6), (0x32F5, 0x32FA, 1, 0x30E8), (0x32FB, 0x32FE, 1, 0x30EF),
  (0xA640, 0xA66C, 2, 0xA641), (0xA680, 0xA69A, 2, 0xA681), (0xA69C, 0xA69C, 1, 0x44A),
  (0xA69D, 0xA69D, 1, 0x44C), (0xA722, 0xA72E, 2, 0xA723), (0xA732, 0xA76E, 2, 0xA733),
  (0xA770, 0xA770, 1, 0xA76F), (0xA779, 0xA77B, 2, 0xA77A), (0xA77D, 0xA77D, 1, 0x1D79),
  (0xA77E, 0xA786, 2, 0xA77F), (0xA78B, 0xA78B, 1, 0xA78C), (0xA78D, 0xA78D, 1, 0x265),
  (0xA790, 0xA792, 2, 0xA791), (0xA796, 0xA7A8, 2, 0xA797), (0xA7AA, 0xA7AA, 1, 0x266),
  (0xA7AB, 0xA7AB, 1, 0x25C), (0xA7AC, 0xA7AC, 1, 0x261), (0xA7AD, 0xA7AD, 1, 0x26C),
  (0xA7AE, 0xA7AE, 1, 0x26A), (0xA7B0, 0xA7B0, 1, 0x29E), (0xA7B1, 0xA7B1, 1, 0x287),
  (0xA7B2, 0xA7B2, 1, 0x29D), (0xA7B3, 0xA7B3, 1, 0xAB53), (0xA7B4, 0xA7C2, 2, 0xA7B5),
  (0xA7C4, 0xA7C4, 1, 0xA794), (0xA7C5, 0xA7C5, 1, 0x282), (0xA7C6, 0xA7C6, 1, 0x1D8E),
  (0xA7C7, 0xA7C9, 2, 0xA7C8), (0xA7D0, 0xA7D0, 1, 0xA7D1), (0xA7D6, 0xA7D8, 2, 0xA7D7),
  (0xA7F2, 0xA7F2, 1, 0x63), (0xA7F3, 0xA7F3, 1, 0x66), (0xA7F4, 0xA7F4, 1, 0x71),
  (0xA7F5, 0xA7F5, 1, 0xA7F6), (0xA7F8, 0xA7F8, 1, 0x127), (0xA7F9, 0xA7F9, 1, 0x153),
  (0xAB5C, 0xAB5C, 1, 0xA727), (0xAB5D, 0xAB5D, 1, 0xAB37), (0xAB5E, 0xAB5E, 1, 0x26B),
  (0xAB5F, 0xAB5F, 1, 0xAB52), (0xAB69, 0xAB69, 1, 0x28D), (0xAB70, 0xABBF, 1, 0x13A0),
  (0xFB20, 0xFB20, 1, 0x5E2), (0xFB21, 0xFB21, 1, 0x5D0), (0xFB22, 0xFB23, 1, 0x5D3),
  (0xFB24, 0xFB26, 1, 0x5DB), (0xFB27, 0xFB27, 1, 0x5E8), (0xFB28, 0xFB28, 1, 0x5EA),
  (0xFB29, 0xFB29, 1, 0x2B), (0xFF01, 0xFF20, 1, 0x21), (0xFF21, 0xFF3A, 1, 0x61),
  (0xFF3B, 0xFF5E, 1, 0x5B), (0xFF5F, 0xFF60, 1, 0x2985), (0xFF61, 0xFF61, 1, 0x2E),
  (0xFF62, 0xFF63, 1, 0x300C), (0xFF64, 0xFF64, 1, 0x3001), (0xFF65, 0xFF65, 1, 0x30FB),
  (0xFF66, 0xFF66, 1, 0x30F2), (0xFF67, 0xFF67, 1, 0x30A1), (0xFF68, 0xFF68, 1, 0x30A3),
  (0xFF69, 0xFF69, 1, 0x30A5), (0xFF6A, 0xFF6A, 1, 0x30A7), (0xFF6B, 0xFF6B, 1, 0x30A9),
  (0xFF6C, 0xFF6C, 1, 0x30E3), (0xFF6D, 0xFF6D, 1, 0x30E5), (0xFF6E, 0xFF6E, 1, 0x30E7),
  (0xFF6F, 0xFF6F, 1, 0x30C3), (0xFF70, 0xFF70, 1, 0x30FC), (0xFF71, 0xFF71, 1, 0x30A2),
  (0xFF72, 0xFF72, 1, 0x30A4), (0xFF73, 0xFF73, 1, 0x30A6), (0xFF74, 0xFF74, 1, 0x30A8),
  (0xFF75, 0xFF76, 1, 0x30AA), (0xFF77, 0xFF77, 1, 0x30AD), (0xFF78, 0xFF78, 1, 0x30AF),
  (0xFF79, 0xFF79, 1, 0x30B1), (0xFF7A, 0xFF7A, 1, 0x30B3), (0xFF7B, 0xFF7B, 1, 0x30B5),
  (0xFF7C, 0xFF7C, 1, 0x30B7), (0xFF7D, 0xFF7D, 1, 0x30B9), (0xFF7E, 0xFF7E, 1, 0x30BB),
  (0xFF7F, 0xFF7F, 1, 0x30BD), (0xFF80, 0xFF80, 1, 0x30BF), (0xFF81, 0xFF81, 1, 0x30C1),
  (0xFF82, 0xFF82, 1, 0x30C4), (0xFF83, 0xFF83, 1, 0x30C6), (0xFF84, 0xFF84, 1, 0x30C8),
  (0xFF85, 0xFF8A, 1, 0x30CA), (0xFF8B, 0xFF8B, 1, 0x30D2), (0xFF8C, 0xFF8C, 1, 0x30D5),
  (0xFF8D, 0xFF8D, 1, 0x30D8), (0xFF8E, 0xFF8E, 1, 0x30DB), (0xFF8F, 0xFF93, 1, 0x30DE),
  (0xFF94, 0xFF94, 1, 0x30E4), (0xFF95, 0xFF95, 1, 0x30E6), (0xFF96, 0xFF9B, 1, 0x30E8),
  (0xFF9C, 0xFF9C, 1, 0x30EF), (0xFF9D, 0xFF9D, 1, 0x30F3), (0xFF9E, 0xFF9F, 1, 0x3099),
  (0xFFA1, 0xFFA2, 1, 0x1100), (0xFFA3, 0xFFA5, 2, 0x11AA), (0xFFA4, 0xFFA4, 1, 0x1102),
  (0xFFA6, 0xFFA6, 1, 0x11AD), (0xFFA7, 0xFFA9, 1, 0x1103), (0xFFAA, 0xFFAF, 1, 0x11B0),
  (0xFFB0, 0xFFB0, 1, 0x111A), (0xFFB1, 0xFFB3, 1, 0x1106), (0xFFB4, 0xFFB4, 1, 0x1121),
  (0xFFB5, 0xFFBE, 1, 0x1109), (0xFFC2, 0xFFC7, 1, 0x1161), (0xFFCA, 0xFFCF, 1, 0x1167),
  (0xFFD2, 0xFFD7, 1, 0x116D), (0xFFDA, 0xFFDC, 1, 0x1173), (0xFFE0, 0xFFE1, 1, 0xA2),
  (0xFFE2, 0xFFE2, 1, 0xAC), (0xFFE4, 0xFFE4, 1, 0xA6), (0xFFE5, 0xFFE5, 1, 0xA5),
  (0xFFE6, 0xFFE6, 1, 0x20A9), (0xFFE8, 0xFFE8, 1, 0x2502), (0xFFE9, 0xFFEC, 1, 0x2190),
  (0xFFED, 0xFFED, 1, 0x25A0), (0xFFEE, 0xFFEE, 1, 0x25CB), (0x10400, 0x10427, 1, 0x10428),
  (0x104B0, 0x104D3, 1, 0x104D8), (0x10570, 0x10594, 2, 0x10597), (0x10571, 0x1057A, 1, 0x10598),
  (0x1057D, 0x1058A, 1, 0x105A4), (0x1058D, 0x10592, 1, 0x105B4), (0x10595, 0x10595, 1, 0x105BC),
  (0x10781, 0x10782, 1, 0x2D0), (0x10783, 0x10783, 1, 0xE6), (0x10784, 0x10784, 1, 0x299),
  (0x10785, 0x10785, 1, 0x253), (0x10787, 0x10789, 2, 0x2A3), (0x10788, 0x10788, 1, 0xAB66),
  (0x1078A, 0x1078A, 1, 0x2A4), (0x1078B, 0x1078C, 1, 0x256), (0x1078D, 0x1078D, 1, 0x1D91),
  (0x1078E, 0x1078E, 1, 0x258), (0x1078F, 0x1078F, 1, 0x25E), (0x10790, 0x10790, 1, 0x2A9),
  (0x10791, 0x10791, 1, 0x264), (0x10792, 0x10792, 1, 0x262), (0x10793, 0x10793, 1, 0x260),
  (0x10794, 0x10794, 1, 0x29B), (0x10795, 0x10795, 1, 0x127), (0x10796, 0x10796, 1, 0x29C),
  (0x10797, 0x10797, 1, 0x267), (0x10798, 0x10798, 1, 0x284), (0x10799, 0x1079A, 1, 0x2AA),
  (0x1079B, 0x1079B, 1, 0x26C), (0x1079C, 0x1079C, 1, 0x1DF04), (0x1079D, 0x1079D, 1, 0xA78E),
  (0x1079E, 0x1079E, 1, 0x26E), (0x1079F, 0x1079F, 1, 0x1DF05), (0x107A0, 0x107A0, 1, 0x28E),
  (0x107A1, 0x107A1, 1, 0x1DF06), (0x107A2, 0x107A2, 1, 0xF8), (0x107A3, 0x107A4, 1, 0x276),
  (0x107A5, 0x107A5, 1, 0x71), (0x107A6, 0x107A6, 1, 0x27A), (0x107A7, 0x107A7, 1, 0x1DF08),
  (0x107A8, 0x107A9, 1, 0x27D), (0x107AA, 0x107AA, 1, 0x280), (0x107AB, 0x107AB, 1, 0x2A8),
  (0x107AC, 0x107AC, 1, 0x2A6), (0x107AD, 0x107AD, 1, 0xAB67), (0x107AE, 0x107AE, 1, 0x2A7),
  (0x107AF, 0x107AF, 1, 0x288), (0x107B0, 0x107B0, 1, 0x2C71), (0x107B2, 0x107B2, 1, 0x28F),
  (0x107B3, 0x107B4, 1, 0x2A1), (0x107B5, 0x107B5, 1, 0x298), (0x107B6, 0x107B8, 1, 0x1C0),
  (0x107B9, 0x107B9, 1, 0x1DF0A), (0x107BA, 0x107BA, 1, 0x1DF1E), (0x10C80, 0x10CB2, 1, 0x10CC0),
  (0x118A0, 0x118BF, 1, 0x118C0), (0x16E40, 0x16E5F, 1, 0x16E60), (0x1D400, 0x1D419, 1, 0x61),
  (0x1D41A, 0x1D433, 1, 0x61), (0x1D434, 0x1D44D, 1, 0x61), (0x1D44E, 0x1D466, 2, 0x61),
  (0x1D44F, 0x1D454, 1, 0x62), (0x1D457, 0x1D467, 1, 0x6A), (0x1D468, 0x1D481, 1, 0x61),
  (0x1D482, 0x1D49B, 1, 0x61), (0x1D49C, 0x1D49E, 2, 0x61), (0x1D49F, 0x1D49F, 1, 0x64),
  (0x1D4A2, 0x1D4A2, 1, 0x67), (0x1D4A5, 0x1D4A6, 1, 0x6A), (0x1D4A9, 0x1D4AC, 1, 0x6E),
  (0x1D4AE, 0x1D4B5, 1, 0x73), (0x1D4B6, 0x1D4B9, 1, 0x61), (0x1D4BB, 0x1D4CF, 2, 0x66),
  (0x1D4BE, 0x1D4C3, 1, 0x69), (0x1D4C6, 0x1D4CF, 1, 0x71), (0x1D4D0, 0x1D4E9, 1, 0x61),
  (0x1D4EA, 0x1D503, 1, 0x61), (0x1D504, 0x1D505, 1, 0x61), (0x1D507, 0x1D50A, 1, 0x64),
  (0x1D50D, 0x1D514, 1, 0x6A), (0x1D516, 0x1D51C, 1, 0x73), (0x1D51E, 0x1D537, 1, 0x61),
  (0x1D538, 0x1D539, 1, 0x61), (0x1D53B, 0x1D53E, 1, 0x64), (0x1D540, 0x1D544, 1, 0x69),
  (0x1D546, 0x1D546, 1, 0x6F), (0x1D54A, 0x1D550, 1, 0x73), (0x1D552, 0x1D56B, 1, 0x61),
  (0x1D56C, 0x1D585, 1, 0x61), (0x1D586, 0x1D59F, 1, 0x61), (0x1D5A0, 0x1D5B9, 1, 0x61),
  (0x1D5BA, 0x1D5D3, 1, 0x61), (0x1D5D4, 0x1D5ED, 1, 0x61), (0x1D5EE, 0x1D607, 1, 0x61),
  (0x1D608, 0x1D621, 1, 0x61), (0x1D622, 0x1D63B, 1, 0x61), (0x1D63C, 0x1D655, 1, 0x61),
  (0x1D656, 0x1D66F, 1, 0x61), (0x1D670, 0x1D689, 1, 0x61), (0x1D68A, 0x1D6A3, 1, 0x61),
  (0x1D6A4, 0x1D6A4, 1, 0x131), (0x1D6A5, 0x1D6A5, 1, 0x237), (0x1D6A8, 0x1D6B8, 1, 0x3B1),
  (0x1D6B9, 0x1D6B9, 1, 0x3B8), (0x1D6BA, 0x1D6C0, 1, 0x3C3), (0x1D6C1, 0x1D6C1, 1, 0x2207),
  (0x1D6C2, 0x1D6D2, 1, 0x3B1), (0x1D6D3, 0x1D6D3, 1, 0x3C3), (0x1D6D4, 0x1D6DA, 1, 0x3C3),
  (0x1D6DB, 0x1D6DB, 1, 0x2202), (0x1D6DC, 0x1D6DC, 1, 0x3B5), (0x1D6DD, 0x1D6DD, 1, 0x3B8),
  (0x1D6DE, 0x1D6DE, 1, 0x3BA), (0x1D6DF, 0x1D6DF, 1, 0x3C6), (0x1D6E0, 0x1D6E0, 1, 0x3C1),
  (0x1D6E1, 0x1D6E1, 1, 0x3C0), (0x1D6E2, 0x1D6F2, 1, 0x3B1), (0x1D6F3, 0x1D6F3, 1, 0x3B8),
  (0x1D6F4, 0x1D6FA, 1, 0x3C3), (0x1D6FB, 0x1D6FB, 1, 0x2207), (0x1D6FC, 0x1D70C, 1, 0x3B1),
  (0x1D70D, 0x1D70D, 1, 0x3C3), (0x1D70E, 0x1D714, 1, 0x3C3), (0x1D715, 0x1D715, 1, 0x2202),
  (0x1D716, 0x1D716, 1, 0x3B5), (0x1D717, 0x1D717, 1, 0x3B8), (0x1D718, 0x1D718, 1, 0x3BA),
  (0x1D719, 0x1D719, 1, 0x3C6), (0x1D71A, 0x1D71A, 1, 0x3C1), (0x1D71B, 0x1D71B, 1, 0x3C0),
  (0x1D71C, 0x1D72C, 1, 0x3B1), (0x1D72D, 0x1D72D, 1, 0x3B8), (0x1D72E, 0x1D734, 1, 0x3C3),
  (0x1D735, 0x1D735, 1, 0x2207), (0x1D736, 0x1D746, 1, 0x3B1), (0x1D747, 0x1D747, 1, 0x3C3),
  (0x1D748, 0x1D74E, 1, 0x3C3), (0x1D74F, 0x1D74F, 1, 0x2202), (0x1D750, 0x1D750, 1, 0x3B5),
  (0x1D751, 0x1D751, 1, 0x3B8), (0x1D752, 0x1D752, 1, 0x3BA), (0x1D753, 0x1D753, 1, 0x3C6),
  (0x1D754, 0x1D754, 1, 0x3C1), (0x1D755, 0x1D755, 1, 0x3C0), (0x1D756, 0x1D766, 1, 0x3B1),
  (0x1D767, 0x1D767, 1, 0x3B8), (0x1D768, 0x1D76E, 1, 0x3C3), (0x1D76F, 0x1D76F, 1, 0x2207),
  (0x1D770, 0x1D780, 1, 0x3B1), (0x1D781, 0x1D781, 1, 0x3C3), (0x1D782, 0x1D788, 1, 0x3C3),
  (0x1D789, 0x1D789, 1, 0x2202), (0x1D78A, 0x1D78A, 1, 0x3B5), (0x1D78B, 0x1D78B, 1, 0x3B8),
  (0x1D78C, 0x1D78C, 1, 0x3BA), (0x1D78D, 0x1D78D, 1, 0x3C6), (0x1D78E, 0x1D78E, 1, 0x3C1),
  (0x1D78F, 0x1D78F, 1, 0x3C0), (0x1D790, 0x1D7A0, 1, 0x3B1), (0x1D7A1, 0x1D7A1, 1, 0x3B8),
  (0x1D7A2, 0x1D7A8, 1, 0x3C3), (0x1D7A9, 0x1D7A9, 1, 0x2207), (0x1D7AA, 0x1D7BA, 1, 0x3B1),
  (0x1D7BB, 0x1D7BB, 1, 0x3C3), (0x1D7BC, 0x1D7C2, 1, 0x3C3), (0x1D7C3, 0x1D7C3, 1, 0x2202),
  (0x1D7C4, 0x1D7C4, 1, 0x3B5), (0x1D7C5, 0x1D7C5, 1, 0x3B8), (0x1D7C6, 0x1D7C6, 1, 0x3BA),
  (0x1D7C7, 0x1D7C7, 1, 0x3C6), (0x1D7C8, 0x1D7C8, 1, 0x3C1), (0x1D7C9, 0x1D7C9, 1, 0x3C0),
  (0x1D7CA, 0x1D7CA, 1, 0x3DD), (0x1D7CB, 0x1D7CB, 1, 0x3DD), (0x1D7CE, 0x1D7D7, 1, 0x30),
  (0x1D7D8, 0x1D7E1, 1, 0x30), (0x1D7E2, 0x1D7EB, 1, 0x30), (0x1D7EC, 0x1D7F5, 1, 0x30),
  (0x1D7F6, 0x1D7FF, 1, 0x30), (0x1E900, 0x1E921, 1, 0x1E922), (0x1F12B, 0x1F12B, 1, 0x63),
  (0x1F12C, 0x1F12C, 1, 0x72), (0x1F130, 0x1F149, 1, 0x61), (0x1F202, 0x1F202, 1, 0x30B5),
  (0x1F210, 0x1F210, 1, 0x624B), (0x1F211, 0x1F211, 1, 0x5B57), (0x1F212, 0x1F212, 1, 0x53CC),
  (0x1F213, 0x1F213, 1, 0x30C7), (0x1F214, 0x1F214, 1, 0x4E8C), (0x1F215, 0x1F215, 1, 0x591A),
  (0x1F216, 0x1F216, 1, 0x89E3), (0x1F217, 0x1F217, 1, 0x5929), (0x1F218, 0x1F218, 1, 0x4EA4),
  (0x1F219, 0x1F219, 1, 0x6620), (0x1F21A, 0x1F21A, 1, 0x7121), (0x1F21B, 0x1F21B, 1, 0x6599),
  (0x1F21C, 0x1F21C, 1, 0x524D), (0x1F21D, 0x1F21D, 1, 0x5F8C), (0x1F21E, 0x1F21E, 1, 0x518D),
  (0x1F21F, 0x1F21F, 1, 0x65B0), (0x1F220, 0x1F220, 1, 0x521D), (0x1F221, 0x1F221, 1, 0x7D42),
  (0x1F222, 0x1F222, 1, 0x751F), (0x1F223, 0x1F223, 1, 0x8CA9), (0x1F224, 0x1F224, 1, 0x58F0),
  (0x1F225, 0x1F225, 1, 0x5439), (0x1F226, 0x1F226, 1, 0x6F14), (0x1F227, 0x1F227, 1, 0x6295),
  (0x1F228, 0x1F228, 1, 0x6355), (0x1F229, 0x1F229, 1, 0x4E00), (0x1F22A, 0x1F22A, 1, 0x4E09),
  (0x1F22B, 0x1F22B, 1, 0x904A), (0x1F22C, 0x1F22C, 1, 0x5DE6), (0x1F22D, 0x1F22D, 1, 0x4E2D),
  (0x1F22E, 0x1F22E, 1, 0x53F3), (0x1F22F, 0x1F22F, 1, 0x6307), (0x1F230, 0x1F230, 1, 0x8D70),
  (0x1F231, 0x1F231, 1, 0x6253), (0x1F232, 0x1F232, 1, 0x7981), (0x1F233, 0x1F233, 1, 0x7A7A),
  (0x1F234, 0x1F234, 1, 0x5408), (0x1F235, 0x1F235, 1, 0x6E80), (0x1F236, 0x1F236, 1, 0x6709),
  (0x1F237, 0x1F237, 1, 0x6708), (0x1F238, 0x1F238, 1, 0x7533), (0x1F239, 0x1F239, 1, 0x5272),
  (0x1F23A, 0x1F23A, 1, 0x55B6), (0x1F23B, 0x1F23B, 1, 0x914D), (0x1F250, 0x1F250, 1, 0x5F97),
  (0x1F251, 0x1F251, 1, 0x53EF), (0x1FBF0, 0x1FBF9, 1, 0x30)]

/-- Characters that stand for several ones. -/
def several : Array (Nat × String) := #[
  (0xA8, " \u0308"), (0xAF, " \u0304"), (0xB4, " \u0301"), (0xB8, " \u0327"), (0xBC, "1\u20444"),
  (0xBD, "1\u20442"), (0xBE, "3\u20444"), (0x130, "i\u0307"), (0x132, "ij"), (0x133, "ij"),
  (0x13F, "l\u00b7"), (0x140, "l\u00b7"), (0x149, "\u02bcn"), (0x1C4, "d\u017e"),
  (0x1C5, "d\u017e"), (0x1C6, "d\u017e"), (0x1C7, "lj"), (0x1C8, "lj"), (0x1C9, "lj"),
  (0x1CA, "nj"), (0x1CB, "nj"), (0x1CC, "nj"), (0x1F1, "dz"), (0x1F2, "dz"), (0x1F3, "dz"),
  (0x2D8, " \u0306"), (0x2D9, " \u0307"), (0x2DA, " \u030a"), (0x2DB, " \u0328"),
  (0x2DC, " \u0303"), (0x2DD, " \u030b"), (0x344, "\u0308\u0301"), (0x37A, " \u03b9"),
  (0x384, " \u0301"), (0x385, " \u0308\u0301"), (0x587, "\u0565\u0582"), (0x1E9A, "a\u02be"),
  (0x1E9E, "ss"), (0x1F80, "\u1f00\u03b9"), (0x1F81, "\u1f01\u03b9"), (0x1F82, "\u1f02\u03b9"),
  (0x1F83, "\u1f03\u03b9"), (0x1F84, "\u1f04\u03b9"), (0x1F85, "\u1f05\u03b9"),
  (0x1F86, "\u1f06\u03b9"), (0x1F87, "\u1f07\u03b9"), (0x1F88, "\u1f00\u03b9"),
  (0x1F89, "\u1f01\u03b9"), (0x1F8A, "\u1f02\u03b9"), (0x1F8B, "\u1f03\u03b9"),
  (0x1F8C, "\u1f04\u03b9"), (0x1F8D, "\u1f05\u03b9"), (0x1F8E, "\u1f06\u03b9"),
  (0x1F8F, "\u1f07\u03b9"), (0x1F90, "\u1f20\u03b9"), (0x1F91, "\u1f21\u03b9"),
  (0x1F92, "\u1f22\u03b9"), (0x1F93, "\u1f23\u03b9"), (0x1F94, "\u1f24\u03b9"),
  (0x1F95, "\u1f25\u03b9"), (0x1F96, "\u1f26\u03b9"), (0x1F97, "\u1f27\u03b9"),
  (0x1F98, "\u1f20\u03b9"), (0x1F99, "\u1f21\u03b9"), (0x1F9A, "\u1f22\u03b9"),
  (0x1F9B, "\u1f23\u03b9"), (0x1F9C, "\u1f24\u03b9"), (0x1F9D, "\u1f25\u03b9"),
  (0x1F9E, "\u1f26\u03b9"), (0x1F9F, "\u1f27\u03b9"), (0x1FA0, "\u1f60\u03b9"),
  (0x1FA1, "\u1f61\u03b9"), (0x1FA2, "\u1f62\u03b9"), (0x1FA3, "\u1f63\u03b9"),
  (0x1FA4, "\u1f64\u03b9"), (0x1FA5, "\u1f65\u03b9"), (0x1FA6, "\u1f66\u03b9"),
  (0x1FA7, "\u1f67\u03b9"), (0x1FA8, "\u1f60\u03b9"), (0x1FA9, "\u1f61\u03b9"),
  (0x1FAA, "\u1f62\u03b9"), (0x1FAB, "\u1f63\u03b9"), (0x1FAC, "\u1f64\u03b9"),
  (0x1FAD, "\u1f65\u03b9"), (0x1FAE, "\u1f66\u03b9"), (0x1FAF, "\u1f67\u03b9"),
  (0x1FB2, "\u1f70\u03b9"), (0x1FB3, "\u03b1\u03b9"), (0x1FB4, "\u03ac\u03b9"),
  (0x1FB7, "\u1fb6\u03b9"), (0x1FBC, "\u03b1\u03b9"), (0x1FBD, " \u0313"), (0x1FBF, " \u0313"),
  (0x1FC0, " \u0342"), (0x1FC1, " \u0308\u0342"), (0x1FC2, "\u1f74\u03b9"),
  (0x1FC3, "\u03b7\u03b9"), (0x1FC4, "\u03ae\u03b9"), (0x1FC7, "\u1fc6\u03b9"),
  (0x1FCC, "\u03b7\u03b9"), (0x1FCD, " \u0313\u0300"), (0x1FCE, " \u0313\u0301"),
  (0x1FCF, " \u0313\u0342"), (0x1FDD, " \u0314\u0300"), (0x1FDE, " \u0314\u0301"),
  (0x1FDF, " \u0314\u0342"), (0x1FED, " \u0308\u0300"), (0x1FEE, " \u0308\u0301"),
  (0x1FF2, "\u1f7c\u03b9"), (0x1FF3, "\u03c9\u03b9"), (0x1FF4, "\u03ce\u03b9"),
  (0x1FF7, "\u1ff6\u03b9"), (0x1FFC, "\u03c9\u03b9"), (0x1FFD, " \u0301"), (0x1FFE, " \u0314"),
  (0x2017, " \u0333"), (0x2025, ".."), (0x2026, "..."), (0x2033, "\u2032\u2032"),
  (0x2034, "\u2032\u2032\u2032"), (0x2036, "\u2035\u2035"), (0x2037, "\u2035\u2035\u2035"),
  (0x203C, "!!"), (0x203E, " \u0305"), (0x2047, "??"), (0x2048, "?!"), (0x2049, "!?"),
  (0x2057, "\u2032\u2032\u2032\u2032"), (0x20A8, "rs"), (0x2100, "a/c"), (0x2101, "a/s"),
  (0x2103, "\u00b0c"), (0x2105, "c/o"), (0x2106, "c/u"), (0x2109, "\u00b0f"), (0x2116, "no"),
  (0x2120, "sm"), (0x2121, "tel"), (0x2122, "tm"), (0x213B, "fax"), (0x2150, "1\u20447"),
  (0x2151, "1\u20449"), (0x2152, "1\u204410"), (0x2153, "1\u20443"), (0x2154, "2\u20443"),
  (0x2155, "1\u20445"), (0x2156, "2\u20445"), (0x2157, "3\u20445"), (0x2158, "4\u20445"),
  (0x2159, "1\u20446"), (0x215A, "5\u20446"), (0x215B, "1\u20448"), (0x215C, "3\u20448"),
  (0x215D, "5\u20448"), (0x215E, "7\u20448"), (0x215F, "1\u2044"), (0x2161, "ii"), (0x2162, "iii"),
  (0x2163, "iv"), (0x2165, "vi"), (0x2166, "vii"), (0x2167, "viii"), (0x2168, "ix"),
  (0x216A, "xi"), (0x216B, "xii"), (0x2171, "ii"), (0x2172, "iii"), (0x2173, "iv"), (0x2175, "vi"),
  (0x2176, "vii"), (0x2177, "viii"), (0x2178, "ix"), (0x217A, "xi"), (0x217B, "xii"),
  (0x2189, "0\u20443"), (0x222C, "\u222b\u222b"), (0x222D, "\u222b\u222b\u222b"),
  (0x222F, "\u222e\u222e"), (0x2230, "\u222e\u222e\u222e"), (0xFB00, "ff"), (0xFB01, "fi"),
  (0xFB02, "fl"), (0xFB03, "ffi"), (0xFB04, "ffl"), (0xFB05, "st"), (0xFB06, "st"),
  (0xFB13, "\u0574\u0576"), (0xFB14, "\u0574\u0565"), (0xFB15, "\u0574\u056b"),
  (0xFB16, "\u057e\u0576"), (0xFB17, "\u0574\u056d")]

/-- Characters that a letter and a mark make together. -/
def compositions : Array (Nat × Nat × Nat) := #[
  (0x3C, 0x338, 0x226E), (0x3D, 0x338, 0x2260), (0x3E, 0x338, 0x226F), (0x41, 0x300, 0xC0),
  (0x41, 0x301, 0xC1), (0x41, 0x302, 0xC2), (0x41, 0x303, 0xC3), (0x41, 0x304, 0x100),
  (0x41, 0x306, 0x102), (0x41, 0x307, 0x226), (0x41, 0x308, 0xC4), (0x41, 0x309, 0x1EA2),
  (0x41, 0x30A, 0xC5), (0x41, 0x30C, 0x1CD), (0x41, 0x30F, 0x200), (0x41, 0x311, 0x202),
  (0x41, 0x323, 0x1EA0), (0x41, 0x325, 0x1E00), (0x41, 0x328, 0x104), (0x42, 0x307, 0x1E02),
  (0x42, 0x323, 0x1E04), (0x42, 0x331, 0x1E06), (0x43, 0x301, 0x106), (0x43, 0x302, 0x108),
  (0x43, 0x307, 0x10A), (0x43, 0x30C, 0x10C), (0x43, 0x327, 0xC7), (0x44, 0x307, 0x1E0A),
  (0x44, 0x30C, 0x10E), (0x44, 0x323, 0x1E0C), (0x44, 0x327, 0x1E10), (0x44, 0x32D, 0x1E12),
  (0x44, 0x331, 0x1E0E), (0x45, 0x300, 0xC8), (0x45, 0x301, 0xC9), (0x45, 0x302, 0xCA),
  (0x45, 0x303, 0x1EBC), (0x45, 0x304, 0x112), (0x45, 0x306, 0x114), (0x45, 0x307, 0x116),
  (0x45, 0x308, 0xCB), (0x45, 0x309, 0x1EBA), (0x45, 0x30C, 0x11A), (0x45, 0x30F, 0x204),
  (0x45, 0x311, 0x206), (0x45, 0x323, 0x1EB8), (0x45, 0x327, 0x228), (0x45, 0x328, 0x118),
  (0x45, 0x32D, 0x1E18), (0x45, 0x330, 0x1E1A), (0x46, 0x307, 0x1E1E), (0x47, 0x301, 0x1F4),
  (0x47, 0x302, 0x11C), (0x47, 0x304, 0x1E20), (0x47, 0x306, 0x11E), (0x47, 0x307, 0x120),
  (0x47, 0x30C, 0x1E6), (0x47, 0x327, 0x122), (0x48, 0x302, 0x124), (0x48, 0x307, 0x1E22),
  (0x48, 0x308, 0x1E26), (0x48, 0x30C, 0x21E), (0x48, 0x323, 0x1E24), (0x48, 0x327, 0x1E28),
  (0x48, 0x32E, 0x1E2A), (0x49, 0x300, 0xCC), (0x49, 0x301, 0xCD), (0x49, 0x302, 0xCE),
  (0x49, 0x303, 0x128), (0x49, 0x304, 0x12A), (0x49, 0x306, 0x12C), (0x49, 0x307, 0x130),
  (0x49, 0x308, 0xCF), (0x49, 0x309, 0x1EC8), (0x49, 0x30C, 0x1CF), (0x49, 0x30F, 0x208),
  (0x49, 0x311, 0x20A), (0x49, 0x323, 0x1ECA), (0x49, 0x328, 0x12E), (0x49, 0x330, 0x1E2C),
  (0x4A, 0x302, 0x134), (0x4B, 0x301, 0x1E30), (0x4B, 0x30C, 0x1E8), (0x4B, 0x323, 0x1E32),
  (0x4B, 0x327, 0x136), (0x4B, 0x331, 0x1E34), (0x4C, 0x301, 0x139), (0x4C, 0x30C, 0x13D),
  (0x4C, 0x323, 0x1E36), (0x4C, 0x327, 0x13B), (0x4C, 0x32D, 0x1E3C), (0x4C, 0x331, 0x1E3A),
  (0x4D, 0x301, 0x1E3E), (0x4D, 0x307, 0x1E40), (0x4D, 0x323, 0x1E42), (0x4E, 0x300, 0x1F8),
  (0x4E, 0x301, 0x143), (0x4E, 0x303, 0xD1), (0x4E, 0x307, 0x1E44), (0x4E, 0x30C, 0x147),
  (0x4E, 0x323, 0x1E46), (0x4E, 0x327, 0x145), (0x4E, 0x32D, 0x1E4A), (0x4E, 0x331, 0x1E48),
  (0x4F, 0x300, 0xD2), (0x4F, 0x301, 0xD3), (0x4F, 0x302, 0xD4), (0x4F, 0x303, 0xD5),
  (0x4F, 0x304, 0x14C), (0x4F, 0x306, 0x14E), (0x4F, 0x307, 0x22E), (0x4F, 0x308, 0xD6),
  (0x4F, 0x309, 0x1ECE), (0x4F, 0x30B, 0x150), (0x4F, 0x30C, 0x1D1), (0x4F, 0x30F, 0x20C),
  (0x4F, 0x311, 0x20E), (0x4F, 0x31B, 0x1A0), (0x4F, 0x323, 0x1ECC), (0x4F, 0x328, 0x1EA),
  (0x50, 0x301, 0x1E54), (0x50, 0x307, 0x1E56), (0x52, 0x301, 0x154), (0x52, 0x307, 0x1E58),
  (0x52, 0x30C, 0x158), (0x52, 0x30F, 0x210), (0x52, 0x311, 0x212), (0x52, 0x323, 0x1E5A),
  (0x52, 0x327, 0x156), (0x52, 0x331, 0x1E5E), (0x53, 0x301, 0x15A), (0x53, 0x302, 0x15C),
  (0x53, 0x307, 0x1E60), (0x53, 0x30C, 0x160), (0x53, 0x323, 0x1E62), (0x53, 0x326, 0x218),
  (0x53, 0x327, 0x15E), (0x54, 0x307, 0x1E6A), (0x54, 0x30C, 0x164), (0x54, 0x323, 0x1E6C),
  (0x54, 0x326, 0x21A), (0x54, 0x327, 0x162), (0x54, 0x32D, 0x1E70), (0x54, 0x331, 0x1E6E),
  (0x55, 0x300, 0xD9), (0x55, 0x301, 0xDA), (0x55, 0x302, 0xDB), (0x55, 0x303, 0x168),
  (0x55, 0x304, 0x16A), (0x55, 0x306, 0x16C), (0x55, 0x308, 0xDC), (0x55, 0x309, 0x1EE6),
  (0x55, 0x30A, 0x16E), (0x55, 0x30B, 0x170), (0x55, 0x30C, 0x1D3), (0x55, 0x30F, 0x214),
  (0x55, 0x311, 0x216), (0x55, 0x31B, 0x1AF), (0x55, 0x323, 0x1EE4), (0x55, 0x324, 0x1E72),
  (0x55, 0x328, 0x172), (0x55, 0x32D, 0x1E76), (0x55, 0x330, 0x1E74), (0x56, 0x303, 0x1E7C),
  (0x56, 0x323, 0x1E7E), (0x57, 0x300, 0x1E80), (0x57, 0x301, 0x1E82), (0x57, 0x302, 0x174),
  (0x57, 0x307, 0x1E86), (0x57, 0x308, 0x1E84), (0x57, 0x323, 0x1E88), (0x58, 0x307, 0x1E8A),
  (0x58, 0x308, 0x1E8C), (0x59, 0x300, 0x1EF2), (0x59, 0x301, 0xDD), (0x59, 0x302, 0x176),
  (0x59, 0x303, 0x1EF8), (0x59, 0x304, 0x232), (0x59, 0x307, 0x1E8E), (0x59, 0x308, 0x178),
  (0x59, 0x309, 0x1EF6), (0x59, 0x323, 0x1EF4), (0x5A, 0x301, 0x179), (0x5A, 0x302, 0x1E90),
  (0x5A, 0x307, 0x17B), (0x5A, 0x30C, 0x17D), (0x5A, 0x323, 0x1E92), (0x5A, 0x331, 0x1E94),
  (0x61, 0x300, 0xE0), (0x61, 0x301, 0xE1), (0x61, 0x302, 0xE2), (0x61, 0x303, 0xE3),
  (0x61, 0x304, 0x101), (0x61, 0x306, 0x103), (0x61, 0x307, 0x227), (0x61, 0x308, 0xE4),
  (0x61, 0x309, 0x1EA3), (0x61, 0x30A, 0xE5), (0x61, 0x30C, 0x1CE), (0x61, 0x30F, 0x201),
  (0x61, 0x311, 0x203), (0x61, 0x323, 0x1EA1), (0x61, 0x325, 0x1E01), (0x61, 0x328, 0x105),
  (0x62, 0x307, 0x1E03), (0x62, 0x323, 0x1E05), (0x62, 0x331, 0x1E07), (0x63, 0x301, 0x107),
  (0x63, 0x302, 0x109), (0x63, 0x307, 0x10B), (0x63, 0x30C, 0x10D), (0x63, 0x327, 0xE7),
  (0x64, 0x307, 0x1E0B), (0x64, 0x30C, 0x10F), (0x64, 0x323, 0x1E0D), (0x64, 0x327, 0x1E11),
  (0x64, 0x32D, 0x1E13), (0x64, 0x331, 0x1E0F), (0x65, 0x300, 0xE8), (0x65, 0x301, 0xE9),
  (0x65, 0x302, 0xEA), (0x65, 0x303, 0x1EBD), (0x65, 0x304, 0x113), (0x65, 0x306, 0x115),
  (0x65, 0x307, 0x117), (0x65, 0x308, 0xEB), (0x65, 0x309, 0x1EBB), (0x65, 0x30C, 0x11B),
  (0x65, 0x30F, 0x205), (0x65, 0x311, 0x207), (0x65, 0x323, 0x1EB9), (0x65, 0x327, 0x229),
  (0x65, 0x328, 0x119), (0x65, 0x32D, 0x1E19), (0x65, 0x330, 0x1E1B), (0x66, 0x307, 0x1E1F),
  (0x67, 0x301, 0x1F5), (0x67, 0x302, 0x11D), (0x67, 0x304, 0x1E21), (0x67, 0x306, 0x11F),
  (0x67, 0x307, 0x121), (0x67, 0x30C, 0x1E7), (0x67, 0x327, 0x123), (0x68, 0x302, 0x125),
  (0x68, 0x307, 0x1E23), (0x68, 0x308, 0x1E27), (0x68, 0x30C, 0x21F), (0x68, 0x323, 0x1E25),
  (0x68, 0x327, 0x1E29), (0x68, 0x32E, 0x1E2B), (0x68, 0x331, 0x1E96), (0x69, 0x300, 0xEC),
  (0x69, 0x301, 0xED), (0x69, 0x302, 0xEE), (0x69, 0x303, 0x129), (0x69, 0x304, 0x12B),
  (0x69, 0x306, 0x12D), (0x69, 0x308, 0xEF), (0x69, 0x309, 0x1EC9), (0x69, 0x30C, 0x1D0),
  (0x69, 0x30F, 0x209), (0x69, 0x311, 0x20B), (0x69, 0x323, 0x1ECB), (0x69, 0x328, 0x12F),
  (0x69, 0x330, 0x1E2D), (0x6A, 0x302, 0x135), (0x6A, 0x30C, 0x1F0), (0x6B, 0x301, 0x1E31),
  (0x6B, 0x30C, 0x1E9), (0x6B, 0x323, 0x1E33), (0x6B, 0x327, 0x137), (0x6B, 0x331, 0x1E35),
  (0x6C, 0x301, 0x13A), (0x6C, 0x30C, 0x13E), (0x6C, 0x323, 0x1E37), (0x6C, 0x327, 0x13C),
  (0x6C, 0x32D, 0x1E3D), (0x6C, 0x331, 0x1E3B), (0x6D, 0x301, 0x1E3F), (0x6D, 0x307, 0x1E41),
  (0x6D, 0x323, 0x1E43), (0x6E, 0x300, 0x1F9), (0x6E, 0x301, 0x144), (0x6E, 0x303, 0xF1),
  (0x6E, 0x307, 0x1E45), (0x6E, 0x30C, 0x148), (0x6E, 0x323, 0x1E47), (0x6E, 0x327, 0x146),
  (0x6E, 0x32D, 0x1E4B), (0x6E, 0x331, 0x1E49), (0x6F, 0x300, 0xF2), (0x6F, 0x301, 0xF3),
  (0x6F, 0x302, 0xF4), (0x6F, 0x303, 0xF5), (0x6F, 0x304, 0x14D), (0x6F, 0x306, 0x14F),
  (0x6F, 0x307, 0x22F), (0x6F, 0x308, 0xF6), (0x6F, 0x309, 0x1ECF), (0x6F, 0x30B, 0x151),
  (0x6F, 0x30C, 0x1D2), (0x6F, 0x30F, 0x20D), (0x6F, 0x311, 0x20F), (0x6F, 0x31B, 0x1A1),
  (0x6F, 0x323, 0x1ECD), (0x6F, 0x328, 0x1EB), (0x70, 0x301, 0x1E55), (0x70, 0x307, 0x1E57),
  (0x72, 0x301, 0x155), (0x72, 0x307, 0x1E59), (0x72, 0x30C, 0x159), (0x72, 0x30F, 0x211),
  (0x72, 0x311, 0x213), (0x72, 0x323, 0x1E5B), (0x72, 0x327, 0x157), (0x72, 0x331, 0x1E5F),
  (0x73, 0x301, 0x15B), (0x73, 0x302, 0x15D), (0x73, 0x307, 0x1E61), (0x73, 0x30C, 0x161),
  (0x73, 0x323, 0x1E63), (0x73, 0x326, 0x219), (0x73, 0x327, 0x15F), (0x74, 0x307, 0x1E6B),
  (0x74, 0x308, 0x1E97), (0x74, 0x30C, 0x165), (0x74, 0x323, 0x1E6D), (0x74, 0x326, 0x21B),
  (0x74, 0x327, 0x163), (0x74, 0x32D, 0x1E71), (0x74, 0x331, 0x1E6F), (0x75, 0x300, 0xF9),
  (0x75, 0x301, 0xFA), (0x75, 0x302, 0xFB), (0x75, 0x303, 0x169), (0x75, 0x304, 0x16B),
  (0x75, 0x306, 0x16D), (0x75, 0x308, 0xFC), (0x75, 0x309, 0x1EE7), (0x75, 0x30A, 0x16F),
  (0x75, 0x30B, 0x171), (0x75, 0x30C, 0x1D4), (0x75, 0x30F, 0x215), (0x75, 0x311, 0x217),
  (0x75, 0x31B, 0x1B0), (0x75, 0x323, 0x1EE5), (0x75, 0x324, 0x1E73), (0x75, 0x328, 0x173),
  (0x75, 0x32D, 0x1E77), (0x75, 0x330, 0x1E75), (0x76, 0x303, 0x1E7D), (0x76, 0x323, 0x1E7F),
  (0x77, 0x300, 0x1E81), (0x77, 0x301, 0x1E83), (0x77, 0x302, 0x175), (0x77, 0x307, 0x1E87),
  (0x77, 0x308, 0x1E85), (0x77, 0x30A, 0x1E98), (0x77, 0x323, 0x1E89), (0x78, 0x307, 0x1E8B),
  (0x78, 0x308, 0x1E8D), (0x79, 0x300, 0x1EF3), (0x79, 0x301, 0xFD), (0x79, 0x302, 0x177),
  (0x79, 0x303, 0x1EF9), (0x79, 0x304, 0x233), (0x79, 0x307, 0x1E8F), (0x79, 0x308, 0xFF),
  (0x79, 0x309, 0x1EF7), (0x79, 0x30A, 0x1E99), (0x79, 0x323, 0x1EF5), (0x7A, 0x301, 0x17A),
  (0x7A, 0x302, 0x1E91), (0x7A, 0x307, 0x17C), (0x7A, 0x30C, 0x17E), (0x7A, 0x323, 0x1E93),
  (0x7A, 0x331, 0x1E95), (0xA8, 0x300, 0x1FED), (0xA8, 0x301, 0x385), (0xA8, 0x342, 0x1FC1),
  (0xC2, 0x300, 0x1EA6), (0xC2, 0x301, 0x1EA4), (0xC2, 0x303, 0x1EAA), (0xC2, 0x309, 0x1EA8),
  (0xC4, 0x304, 0x1DE), (0xC5, 0x301, 0x1FA), (0xC6, 0x301, 0x1FC), (0xC6, 0x304, 0x1E2),
  (0xC7, 0x301, 0x1E08), (0xCA, 0x300, 0x1EC0), (0xCA, 0x301, 0x1EBE), (0xCA, 0x303, 0x1EC4),
  (0xCA, 0x309, 0x1EC2), (0xCF, 0x301, 0x1E2E), (0xD4, 0x300, 0x1ED2), (0xD4, 0x301, 0x1ED0),
  (0xD4, 0x303, 0x1ED6), (0xD4, 0x309, 0x1ED4), (0xD5, 0x301, 0x1E4C), (0xD5, 0x304, 0x22C),
  (0xD5, 0x308, 0x1E4E), (0xD6, 0x304, 0x22A), (0xD8, 0x301, 0x1FE), (0xDC, 0x300, 0x1DB),
  (0xDC, 0x301, 0x1D7), (0xDC, 0x304, 0x1D5), (0xDC, 0x30C, 0x1D9), (0xE2, 0x300, 0x1EA7),
  (0xE2, 0x301, 0x1EA5), (0xE2, 0x303, 0x1EAB), (0xE2, 0x309, 0x1EA9), (0xE4, 0x304, 0x1DF),
  (0xE5, 0x301, 0x1FB), (0xE6, 0x301, 0x1FD), (0xE6, 0x304, 0x1E3), (0xE7, 0x301, 0x1E09),
  (0xEA, 0x300, 0x1EC1), (0xEA, 0x301, 0x1EBF), (0xEA, 0x303, 0x1EC5), (0xEA, 0x309, 0x1EC3),
  (0xEF, 0x301, 0x1E2F), (0xF4, 0x300, 0x1ED3), (0xF4, 0x301, 0x1ED1), (0xF4, 0x303, 0x1ED7),
  (0xF4, 0x309, 0x1ED5), (0xF5, 0x301, 0x1E4D), (0xF5, 0x304, 0x22D), (0xF5, 0x308, 0x1E4F),
  (0xF6, 0x304, 0x22B), (0xF8, 0x301, 0x1FF), (0xFC, 0x300, 0x1DC), (0xFC, 0x301, 0x1D8),
  (0xFC, 0x304, 0x1D6), (0xFC, 0x30C, 0x1DA), (0x102, 0x300, 0x1EB0), (0x102, 0x301, 0x1EAE),
  (0x102, 0x303, 0x1EB4), (0x102, 0x309, 0x1EB2), (0x103, 0x300, 0x1EB1), (0x103, 0x301, 0x1EAF),
  (0x103, 0x303, 0x1EB5), (0x103, 0x309, 0x1EB3), (0x112, 0x300, 0x1E14), (0x112, 0x301, 0x1E16),
  (0x113, 0x300, 0x1E15), (0x113, 0x301, 0x1E17), (0x14C, 0x300, 0x1E50), (0x14C, 0x301, 0x1E52),
  (0x14D, 0x300, 0x1E51), (0x14D, 0x301, 0x1E53), (0x15A, 0x307, 0x1E64), (0x15B, 0x307, 0x1E65),
  (0x160, 0x307, 0x1E66), (0x161, 0x307, 0x1E67), (0x168, 0x301, 0x1E78), (0x169, 0x301, 0x1E79),
  (0x16A, 0x308, 0x1E7A), (0x16B, 0x308, 0x1E7B), (0x17F, 0x307, 0x1E9B), (0x1A0, 0x300, 0x1EDC),
  (0x1A0, 0x301, 0x1EDA), (0x1A0, 0x303, 0x1EE0), (0x1A0, 0x309, 0x1EDE), (0x1A0, 0x323, 0x1EE2),
  (0x1A1, 0x300, 0x1EDD), (0x1A1, 0x301, 0x1EDB), (0x1A1, 0x303, 0x1EE1), (0x1A1, 0x309, 0x1EDF),
  (0x1A1, 0x323, 0x1EE3), (0x1AF, 0x300, 0x1EEA), (0x1AF, 0x301, 0x1EE8), (0x1AF, 0x303, 0x1EEE),
  (0x1AF, 0x309, 0x1EEC), (0x1AF, 0x323, 0x1EF0), (0x1B0, 0x300, 0x1EEB), (0x1B0, 0x301, 0x1EE9),
  (0x1B0, 0x303, 0x1EEF), (0x1B0, 0x309, 0x1EED), (0x1B0, 0x323, 0x1EF1), (0x1B7, 0x30C, 0x1EE),
  (0x1EA, 0x304, 0x1EC), (0x1EB, 0x304, 0x1ED), (0x226, 0x304, 0x1E0), (0x227, 0x304, 0x1E1),
  (0x228, 0x306, 0x1E1C), (0x229, 0x306, 0x1E1D), (0x22E, 0x304, 0x230), (0x22F, 0x304, 0x231),
  (0x292, 0x30C, 0x1EF), (0x391, 0x300, 0x1FBA), (0x391, 0x301, 0x386), (0x391, 0x304, 0x1FB9),
  (0x391, 0x306, 0x1FB8), (0x391, 0x313, 0x1F08), (0x391, 0x314, 0x1F09), (0x391, 0x345, 0x1FBC),
  (0x395, 0x300, 0x1FC8), (0x395, 0x301, 0x388), (0x395, 0x313, 0x1F18), (0x395, 0x314, 0x1F19),
  (0x397, 0x300, 0x1FCA), (0x397, 0x301, 0x389), (0x397, 0x313, 0x1F28), (0x397, 0x314, 0x1F29),
  (0x397, 0x345, 0x1FCC), (0x399, 0x300, 0x1FDA), (0x399, 0x301, 0x38A), (0x399, 0x304, 0x1FD9),
  (0x399, 0x306, 0x1FD8), (0x399, 0x308, 0x3AA), (0x399, 0x313, 0x1F38), (0x399, 0x314, 0x1F39),
  (0x39F, 0x300, 0x1FF8), (0x39F, 0x301, 0x38C), (0x39F, 0x313, 0x1F48), (0x39F, 0x314, 0x1F49),
  (0x3A1, 0x314, 0x1FEC), (0x3A5, 0x300, 0x1FEA), (0x3A5, 0x301, 0x38E), (0x3A5, 0x304, 0x1FE9),
  (0x3A5, 0x306, 0x1FE8), (0x3A5, 0x308, 0x3AB), (0x3A5, 0x314, 0x1F59), (0x3A9, 0x300, 0x1FFA),
  (0x3A9, 0x301, 0x38F), (0x3A9, 0x313, 0x1F68), (0x3A9, 0x314, 0x1F69), (0x3A9, 0x345, 0x1FFC),
  (0x3AC, 0x345, 0x1FB4), (0x3AE, 0x345, 0x1FC4), (0x3B1, 0x300, 0x1F70), (0x3B1, 0x301, 0x3AC),
  (0x3B1, 0x304, 0x1FB1), (0x3B1, 0x306, 0x1FB0), (0x3B1, 0x313, 0x1F00), (0x3B1, 0x314, 0x1F01),
  (0x3B1, 0x342, 0x1FB6), (0x3B1, 0x345, 0x1FB3), (0x3B5, 0x300, 0x1F72), (0x3B5, 0x301, 0x3AD),
  (0x3B5, 0x313, 0x1F10), (0x3B5, 0x314, 0x1F11), (0x3B7, 0x300, 0x1F74), (0x3B7, 0x301, 0x3AE),
  (0x3B7, 0x313, 0x1F20), (0x3B7, 0x314, 0x1F21), (0x3B7, 0x342, 0x1FC6), (0x3B7, 0x345, 0x1FC3),
  (0x3B9, 0x300, 0x1F76), (0x3B9, 0x301, 0x3AF), (0x3B9, 0x304, 0x1FD1), (0x3B9, 0x306, 0x1FD0),
  (0x3B9, 0x308, 0x3CA), (0x3B9, 0x313, 0x1F30), (0x3B9, 0x314, 0x1F31), (0x3B9, 0x342, 0x1FD6),
  (0x3BF, 0x300, 0x1F78), (0x3BF, 0x301, 0x3CC), (0x3BF, 0x313, 0x1F40), (0x3BF, 0x314, 0x1F41),
  (0x3C1, 0x313, 0x1FE4), (0x3C1, 0x314, 0x1FE5), (0x3C5, 0x300, 0x1F7A), (0x3C5, 0x301, 0x3CD),
  (0x3C5, 0x304, 0x1FE1), (0x3C5, 0x306, 0x1FE0), (0x3C5, 0x308, 0x3CB), (0x3C5, 0x313, 0x1F50),
  (0x3C5, 0x314, 0x1F51), (0x3C5, 0x342, 0x1FE6), (0x3C9, 0x300, 0x1F7C), (0x3C9, 0x301, 0x3CE),
  (0x3C9, 0x313, 0x1F60), (0x3C9, 0x314, 0x1F61), (0x3C9, 0x342, 0x1FF6), (0x3C9, 0x345, 0x1FF3),
  (0x3CA, 0x300, 0x1FD2), (0x3CA, 0x301, 0x390), (0x3CA, 0x342, 0x1FD7), (0x3CB, 0x300, 0x1FE2),
  (0x3CB, 0x301, 0x3B0), (0x3CB, 0x342, 0x1FE7), (0x3CE, 0x345, 0x1FF4), (0x3D2, 0x301, 0x3D3),
  (0x3D2, 0x308, 0x3D4), (0x406, 0x308, 0x407), (0x410, 0x306, 0x4D0), (0x410, 0x308, 0x4D2),
  (0x413, 0x301, 0x403), (0x415, 0x300, 0x400), (0x415, 0x306, 0x4D6), (0x415, 0x308, 0x401),
  (0x416, 0x306, 0x4C1), (0x416, 0x308, 0x4DC), (0x417, 0x308, 0x4DE), (0x418, 0x300, 0x40D),
  (0x418, 0x304, 0x4E2), (0x418, 0x306, 0x419), (0x418, 0x308, 0x4E4), (0x41A, 0x301, 0x40C),
  (0x41E, 0x308, 0x4E6), (0x423, 0x304, 0x4EE), (0x423, 0x306, 0x40E), (0x423, 0x308, 0x4F0),
  (0x423, 0x30B, 0x4F2), (0x427, 0x308, 0x4F4), (0x42B, 0x308, 0x4F8), (0x42D, 0x308, 0x4EC),
  (0x430, 0x306, 0x4D1), (0x430, 0x308, 0x4D3), (0x433, 0x301, 0x453), (0x435, 0x300, 0x450),
  (0x435, 0x306, 0x4D7), (0x435, 0x308, 0x451), (0x436, 0x306, 0x4C2), (0x436, 0x308, 0x4DD),
  (0x437, 0x308, 0x4DF), (0x438, 0x300, 0x45D), (0x438, 0x304, 0x4E3), (0x438, 0x306, 0x439),
  (0x438, 0x308, 0x4E5), (0x43A, 0x301, 0x45C), (0x43E, 0x308, 0x4E7), (0x443, 0x304, 0x4EF),
  (0x443, 0x306, 0x45E), (0x443, 0x308, 0x4F1), (0x443, 0x30B, 0x4F3), (0x447, 0x308, 0x4F5),
  (0x44B, 0x308, 0x4F9), (0x44D, 0x308, 0x4ED), (0x456, 0x308, 0x457), (0x474, 0x30F, 0x476),
  (0x475, 0x30F, 0x477), (0x4D8, 0x308, 0x4DA), (0x4D9, 0x308, 0x4DB), (0x4E8, 0x308, 0x4EA),
  (0x4E9, 0x308, 0x4EB), (0x627, 0x653, 0x622), (0x627, 0x654, 0x623), (0x627, 0x655, 0x625),
  (0x648, 0x654, 0x624), (0x64A, 0x654, 0x626), (0x6C1, 0x654, 0x6C2), (0x6D2, 0x654, 0x6D3),
  (0x6D5, 0x654, 0x6C0), (0x928, 0x93C, 0x929), (0x930, 0x93C, 0x931), (0x933, 0x93C, 0x934),
  (0x9C7, 0x9BE, 0x9CB), (0x9C7, 0x9D7, 0x9CC), (0xB47, 0xB3E, 0xB4B), (0xB47, 0xB56, 0xB48),
  (0xB47, 0xB57, 0xB4C), (0xB92, 0xBD7, 0xB94), (0xBC6, 0xBBE, 0xBCA), (0xBC6, 0xBD7, 0xBCC),
  (0xBC7, 0xBBE, 0xBCB), (0xC46, 0xC56, 0xC48), (0xCBF, 0xCD5, 0xCC0), (0xCC6, 0xCC2, 0xCCA),
  (0xCC6, 0xCD5, 0xCC7), (0xCC6, 0xCD6, 0xCC8), (0xCCA, 0xCD5, 0xCCB), (0xD46, 0xD3E, 0xD4A),
  (0xD46, 0xD57, 0xD4C), (0xD47, 0xD3E, 0xD4B), (0xDD9, 0xDCA, 0xDDA), (0xDD9, 0xDCF, 0xDDC),
  (0xDD9, 0xDDF, 0xDDE), (0xDDC, 0xDCA, 0xDDD), (0x1025, 0x102E, 0x1026), (0x1B05, 0x1B35, 0x1B06),
  (0x1B07, 0x1B35, 0x1B08), (0x1B09, 0x1B35, 0x1B0A), (0x1B0B, 0x1B35, 0x1B0C),
  (0x1B0D, 0x1B35, 0x1B0E), (0x1B11, 0x1B35, 0x1B12), (0x1B3A, 0x1B35, 0x1B3B),
  (0x1B3C, 0x1B35, 0x1B3D), (0x1B3E, 0x1B35, 0x1B40), (0x1B3F, 0x1B35, 0x1B41),
  (0x1B42, 0x1B35, 0x1B43), (0x1E36, 0x304, 0x1E38), (0x1E37, 0x304, 0x1E39),
  (0x1E5A, 0x304, 0x1E5C), (0x1E5B, 0x304, 0x1E5D), (0x1E62, 0x307, 0x1E68),
  (0x1E63, 0x307, 0x1E69), (0x1EA0, 0x302, 0x1EAC), (0x1EA0, 0x306, 0x1EB6),
  (0x1EA1, 0x302, 0x1EAD), (0x1EA1, 0x306, 0x1EB7), (0x1EB8, 0x302, 0x1EC6),
  (0x1EB9, 0x302, 0x1EC7), (0x1ECC, 0x302, 0x1ED8), (0x1ECD, 0x302, 0x1ED9),
  (0x1F00, 0x300, 0x1F02), (0x1F00, 0x301, 0x1F04), (0x1F00, 0x342, 0x1F06),
  (0x1F00, 0x345, 0x1F80), (0x1F01, 0x300, 0x1F03), (0x1F01, 0x301, 0x1F05),
  (0x1F01, 0x342, 0x1F07), (0x1F01, 0x345, 0x1F81), (0x1F02, 0x345, 0x1F82),
  (0x1F03, 0x345, 0x1F83), (0x1F04, 0x345, 0x1F84), (0x1F05, 0x345, 0x1F85),
  (0x1F06, 0x345, 0x1F86), (0x1F07, 0x345, 0x1F87), (0x1F08, 0x300, 0x1F0A),
  (0x1F08, 0x301, 0x1F0C), (0x1F08, 0x342, 0x1F0E), (0x1F08, 0x345, 0x1F88),
  (0x1F09, 0x300, 0x1F0B), (0x1F09, 0x301, 0x1F0D), (0x1F09, 0x342, 0x1F0F),
  (0x1F09, 0x345, 0x1F89), (0x1F0A, 0x345, 0x1F8A), (0x1F0B, 0x345, 0x1F8B),
  (0x1F0C, 0x345, 0x1F8C), (0x1F0D, 0x345, 0x1F8D), (0x1F0E, 0x345, 0x1F8E),
  (0x1F0F, 0x345, 0x1F8F), (0x1F10, 0x300, 0x1F12), (0x1F10, 0x301, 0x1F14),
  (0x1F11, 0x300, 0x1F13), (0x1F11, 0x301, 0x1F15), (0x1F18, 0x300, 0x1F1A),
  (0x1F18, 0x301, 0x1F1C), (0x1F19, 0x300, 0x1F1B), (0x1F19, 0x301, 0x1F1D),
  (0x1F20, 0x300, 0x1F22), (0x1F20, 0x301, 0x1F24), (0x1F20, 0x342, 0x1F26),
  (0x1F20, 0x345, 0x1F90), (0x1F21, 0x300, 0x1F23), (0x1F21, 0x301, 0x1F25),
  (0x1F21, 0x342, 0x1F27), (0x1F21, 0x345, 0x1F91), (0x1F22, 0x345, 0x1F92),
  (0x1F23, 0x345, 0x1F93), (0x1F24, 0x345, 0x1F94), (0x1F25, 0x345, 0x1F95),
  (0x1F26, 0x345, 0x1F96), (0x1F27, 0x345, 0x1F97), (0x1F28, 0x300, 0x1F2A),
  (0x1F28, 0x301, 0x1F2C), (0x1F28, 0x342, 0x1F2E), (0x1F28, 0x345, 0x1F98),
  (0x1F29, 0x300, 0x1F2B), (0x1F29, 0x301, 0x1F2D), (0x1F29, 0x342, 0x1F2F),
  (0x1F29, 0x345, 0x1F99), (0x1F2A, 0x345, 0x1F9A), (0x1F2B, 0x345, 0x1F9B),
  (0x1F2C, 0x345, 0x1F9C), (0x1F2D, 0x345, 0x1F9D), (0x1F2E, 0x345, 0x1F9E),
  (0x1F2F, 0x345, 0x1F9F), (0x1F30, 0x300, 0x1F32), (0x1F30, 0x301, 0x1F34),
  (0x1F30, 0x342, 0x1F36), (0x1F31, 0x300, 0x1F33), (0x1F31, 0x301, 0x1F35),
  (0x1F31, 0x342, 0x1F37), (0x1F38, 0x300, 0x1F3A), (0x1F38, 0x301, 0x1F3C),
  (0x1F38, 0x342, 0x1F3E), (0x1F39, 0x300, 0x1F3B), (0x1F39, 0x301, 0x1F3D),
  (0x1F39, 0x342, 0x1F3F), (0x1F40, 0x300, 0x1F42), (0x1F40, 0x301, 0x1F44),
  (0x1F41, 0x300, 0x1F43), (0x1F41, 0x301, 0x1F45), (0x1F48, 0x300, 0x1F4A),
  (0x1F48, 0x301, 0x1F4C), (0x1F49, 0x300, 0x1F4B), (0x1F49, 0x301, 0x1F4D),
  (0x1F50, 0x300, 0x1F52), (0x1F50, 0x301, 0x1F54), (0x1F50, 0x342, 0x1F56),
  (0x1F51, 0x300, 0x1F53), (0x1F51, 0x301, 0x1F55), (0x1F51, 0x342, 0x1F57),
  (0x1F59, 0x300, 0x1F5B), (0x1F59, 0x301, 0x1F5D), (0x1F59, 0x342, 0x1F5F),
  (0x1F60, 0x300, 0x1F62), (0x1F60, 0x301, 0x1F64), (0x1F60, 0x342, 0x1F66),
  (0x1F60, 0x345, 0x1FA0), (0x1F61, 0x300, 0x1F63), (0x1F61, 0x301, 0x1F65),
  (0x1F61, 0x342, 0x1F67), (0x1F61, 0x345, 0x1FA1), (0x1F62, 0x345, 0x1FA2),
  (0x1F63, 0x345, 0x1FA3), (0x1F64, 0x345, 0x1FA4), (0x1F65, 0x345, 0x1FA5),
  (0x1F66, 0x345, 0x1FA6), (0x1F67, 0x345, 0x1FA7), (0x1F68, 0x300, 0x1F6A),
  (0x1F68, 0x301, 0x1F6C), (0x1F68, 0x342, 0x1F6E), (0x1F68, 0x345, 0x1FA8),
  (0x1F69, 0x300, 0x1F6B), (0x1F69, 0x301, 0x1F6D), (0x1F69, 0x342, 0x1F6F),
  (0x1F69, 0x345, 0x1FA9), (0x1F6A, 0x345, 0x1FAA), (0x1F6B, 0x345, 0x1FAB),
  (0x1F6C, 0x345, 0x1FAC), (0x1F6D, 0x345, 0x1FAD), (0x1F6E, 0x345, 0x1FAE),
  (0x1F6F, 0x345, 0x1FAF), (0x1F70, 0x345, 0x1FB2), (0x1F74, 0x345, 0x1FC2),
  (0x1F7C, 0x345, 0x1FF2), (0x1FB6, 0x345, 0x1FB7), (0x1FBF, 0x300, 0x1FCD),
  (0x1FBF, 0x301, 0x1FCE), (0x1FBF, 0x342, 0x1FCF), (0x1FC6, 0x345, 0x1FC7),
  (0x1FF6, 0x345, 0x1FF7), (0x1FFE, 0x300, 0x1FDD), (0x1FFE, 0x301, 0x1FDE),
  (0x1FFE, 0x342, 0x1FDF), (0x2190, 0x338, 0x219A), (0x2192, 0x338, 0x219B),
  (0x2194, 0x338, 0x21AE), (0x21D0, 0x338, 0x21CD), (0x21D2, 0x338, 0x21CF),
  (0x21D4, 0x338, 0x21CE), (0x2203, 0x338, 0x2204), (0x2208, 0x338, 0x2209),
  (0x220B, 0x338, 0x220C), (0x2223, 0x338, 0x2224), (0x2225, 0x338, 0x2226),
  (0x223C, 0x338, 0x2241), (0x2243, 0x338, 0x2244), (0x2245, 0x338, 0x2247),
  (0x2248, 0x338, 0x2249), (0x224D, 0x338, 0x226D), (0x2261, 0x338, 0x2262),
  (0x2264, 0x338, 0x2270), (0x2265, 0x338, 0x2271), (0x2272, 0x338, 0x2274),
  (0x2273, 0x338, 0x2275), (0x2276, 0x338, 0x2278), (0x2277, 0x338, 0x2279),
  (0x227A, 0x338, 0x2280), (0x227B, 0x338, 0x2281), (0x227C, 0x338, 0x22E0),
  (0x227D, 0x338, 0x22E1), (0x2282, 0x338, 0x2284), (0x2283, 0x338, 0x2285),
  (0x2286, 0x338, 0x2288), (0x2287, 0x338, 0x2289), (0x2291, 0x338, 0x22E2),
  (0x2292, 0x338, 0x22E3), (0x22A2, 0x338, 0x22AC), (0x22A8, 0x338, 0x22AD),
  (0x22A9, 0x338, 0x22AE), (0x22AB, 0x338, 0x22AF), (0x22B2, 0x338, 0x22EA),
  (0x22B3, 0x338, 0x22EB), (0x22B4, 0x338, 0x22EC), (0x22B5, 0x338, 0x22ED),
  (0x3046, 0x3099, 0x3094), (0x304B, 0x3099, 0x304C), (0x304D, 0x3099, 0x304E),
  (0x304F, 0x3099, 0x3050), (0x3051, 0x3099, 0x3052), (0x3053, 0x3099, 0x3054),
  (0x3055, 0x3099, 0x3056), (0x3057, 0x3099, 0x3058), (0x3059, 0x3099, 0x305A),
  (0x305B, 0x3099, 0x305C), (0x305D, 0x3099, 0x305E), (0x305F, 0x3099, 0x3060),
  (0x3061, 0x3099, 0x3062), (0x3064, 0x3099, 0x3065), (0x3066, 0x3099, 0x3067),
  (0x3068, 0x3099, 0x3069), (0x306F, 0x3099, 0x3070), (0x306F, 0x309A, 0x3071),
  (0x3072, 0x3099, 0x3073), (0x3072, 0x309A, 0x3074), (0x3075, 0x3099, 0x3076),
  (0x3075, 0x309A, 0x3077), (0x3078, 0x3099, 0x3079), (0x3078, 0x309A, 0x307A),
  (0x307B, 0x3099, 0x307C), (0x307B, 0x309A, 0x307D), (0x309D, 0x3099, 0x309E),
  (0x30A6, 0x3099, 0x30F4), (0x30AB, 0x3099, 0x30AC), (0x30AD, 0x3099, 0x30AE),
  (0x30AF, 0x3099, 0x30B0), (0x30B1, 0x3099, 0x30B2), (0x30B3, 0x3099, 0x30B4),
  (0x30B5, 0x3099, 0x30B6), (0x30B7, 0x3099, 0x30B8), (0x30B9, 0x3099, 0x30BA),
  (0x30BB, 0x3099, 0x30BC), (0x30BD, 0x3099, 0x30BE), (0x30BF, 0x3099, 0x30C0),
  (0x30C1, 0x3099, 0x30C2), (0x30C4, 0x3099, 0x30C5), (0x30C6, 0x3099, 0x30C7),
  (0x30C8, 0x3099, 0x30C9), (0x30CF, 0x3099, 0x30D0), (0x30CF, 0x309A, 0x30D1),
  (0x30D2, 0x3099, 0x30D3), (0x30D2, 0x309A, 0x30D4), (0x30D5, 0x3099, 0x30D6),
  (0x30D5, 0x309A, 0x30D7), (0x30D8, 0x3099, 0x30D9), (0x30D8, 0x309A, 0x30DA),
  (0x30DB, 0x3099, 0x30DC), (0x30DB, 0x309A, 0x30DD), (0x30EF, 0x3099, 0x30F7),
  (0x30F0, 0x3099, 0x30F8), (0x30F1, 0x3099, 0x30F9), (0x30F2, 0x3099, 0x30FA),
  (0x30FD, 0x3099, 0x30FE), (0x11099, 0x110BA, 0x1109A), (0x1109B, 0x110BA, 0x1109C),
  (0x110A5, 0x110BA, 0x110AB), (0x11131, 0x11127, 0x1112E), (0x11132, 0x11127, 0x1112F),
  (0x11347, 0x1133E, 0x1134B), (0x11347, 0x11357, 0x1134C), (0x114B9, 0x114B0, 0x114BC),
  (0x114B9, 0x114BA, 0x114BB), (0x114B9, 0x114BD, 0x114BE), (0x115B8, 0x115AF, 0x115BA),
  (0x115B9, 0x115AF, 0x115BB), (0x11935, 0x11930, 0x11938)]

/-- Characters that are left out of names: hyphens and selectors that cannot be seen. -/
def isIgnored (n : Nat) : Bool :=
  n == 0xAD || n == 0x34F || (0x180B ≤ n && n ≤ 0x180D) || n == 0x180F || n == 0x200B ||
  n == 0x2060 || n == 0x2064 || (0xFE00 ≤ n && n ≤ 0xFE0F) || n == 0xFEFF ||
  (0x1BCA0 ≤ n && n ≤ 0x1BCA3) || (0xE0100 ≤ n && n ≤ 0xE01EF)

/-- What a single character stands for, by the ranges. -/
def single? (n : Nat) : Option Nat :=
  let ranges := if n ≤ 0x1FFF then lowSingles else highSingles
  (ranges.find? fun (first, last, step, _) => first ≤ n && n ≤ last && (n - first) % step == 0).map
    fun (first, _, _, target) => target + (n - first)

/-- The characters that a character stands for. -/
def expand (c : Char) : List Char :=
  let n := c.toNat
  if n < 128 then [c.toLower]
  else if isIgnored n then []
  else
    match several.find? (·.1 == n) with
    | some (_, s) => s.toList
    | none =>
      match single? n with
      | some m => [Char.ofNat m]
      | none => [c]

/-- The character that two neighbours make together: a letter with a mark, or the parts of a
Hangul syllable. -/
def join? (a b : Char) : Option Char :=
  let x := a.toNat
  let y := b.toNat
  if 0x1100 ≤ x && x < 0x1113 && 0x1161 ≤ y && y < 0x1176 then
    some (Char.ofNat (0xAC00 + ((x - 0x1100) * 21 + (y - 0x1161)) * 28))
  else if 0xAC00 ≤ x && x < 0xD7A4 && (x - 0xAC00) % 28 == 0 && 0x11A8 ≤ y && y < 0x11C3 then
    some (Char.ofNat (x + (y - 0x11A7)))
  else (compositions.find? fun (p, q, _) => p == x && q == y).map fun (_, _, c) => Char.ofNat c

/-- Characters with neighbours joined, onto those done before. -/
def joinOnto : List Char → List Char → List Char
  | done, [] => done.reverse
  | [], c :: rest => joinOnto [c] rest
  | d :: done, c :: rest =>
    match join? d c with
    | some e => joinOnto (e :: done) rest
    | none => joinOnto (c :: d :: done) rest

/-- The plain form of a name. -/
def plain (cs : List Char) : List Char := joinOnto [] (cs.flatMap expand)

end Lookout.Url.Mapping
