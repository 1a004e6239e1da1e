import TextSocket.Text.Ranges

/-!
# `TextSocket.Text.Folding` — characters of names that are equal up to spelling

Names of hosts are compared without regard to case, width and style. Folding replaces a character by the one
that stands for all of its variants, drops characters that are invisible in a name, and refuses those that a
name may not hold at all. ASCII characters are not in these tables.

## Contents

* `Text.foldRuns`, `Text.foldExpansions`, `Text.foldDropped` — what is replaced, by one character or by
  several, and what is dropped;
* `Text.foldRefused` — ranges of characters that no name may hold;
* `Text.fold?` — the folded form of a character.
-/

namespace TextSocket.Text

/-- A run of characters that are replaced by one character each. -/
structure FoldRun where
  /-- The first character of the run. -/
  first : Nat
  /-- The last character of the run. -/
  last : Nat
  /-- The distance between members of the run. -/
  step : Nat
  /-- What the first character is replaced by; the others have the same distance to theirs. -/
  target : Nat

/-- Runs of letters. -/
def foldLetterRuns : List FoldRun := [
  ⟨0xa0, 0xa0, 1, 0x20⟩, ⟨0xaa, 0xaa, 1, 0x61⟩, ⟨0xb2, 0xb3, 1, 0x32⟩, ⟨0xb5, 0xb5, 1, 0x3bc⟩,
  ⟨0xb9, 0xb9, 1, 0x31⟩, ⟨0xba, 0xba, 1, 0x6f⟩, ⟨0xc0, 0xd6, 1, 0xe0⟩, ⟨0xd8, 0xde, 1, 0xf8⟩,
  ⟨0x100, 0x12e, 2, 0x101⟩, ⟨0x134, 0x136, 2, 0x135⟩, ⟨0x139, 0x13d, 2, 0x13a⟩, ⟨0x141, 0x147, 2, 0x142⟩,
  ⟨0x14a, 0x176, 2, 0x14b⟩, ⟨0x178, 0x178, 1, 0xff⟩, ⟨0x179, 0x17d, 2, 0x17a⟩, ⟨0x17f, 0x17f, 1, 0x73⟩,
  ⟨0x181, 0x181, 1, 0x253⟩, ⟨0x182, 0x184, 2, 0x183⟩, ⟨0x186, 0x186, 1, 0x254⟩, ⟨0x187, 0x187, 1, 0x188⟩,
  ⟨0x189, 0x18a, 1, 0x256⟩, ⟨0x18b, 0x18b, 1, 0x18c⟩, ⟨0x18e, 0x18e, 1, 0x1dd⟩, ⟨0x18f, 0x18f, 1, 0x259⟩,
  ⟨0x190, 0x190, 1, 0x25b⟩, ⟨0x191, 0x191, 1, 0x192⟩, ⟨0x193, 0x193, 1, 0x260⟩, ⟨0x194, 0x194, 1, 0x263⟩,
  ⟨0x196, 0x196, 1, 0x269⟩, ⟨0x197, 0x197, 1, 0x268⟩, ⟨0x198, 0x198, 1, 0x199⟩, ⟨0x19c, 0x19c, 1, 0x26f⟩,
  ⟨0x19d, 0x19d, 1, 0x272⟩, ⟨0x19f, 0x19f, 1, 0x275⟩, ⟨0x1a0, 0x1a4, 2, 0x1a1⟩, ⟨0x1a6, 0x1a6, 1, 0x280⟩,
  ⟨0x1a7, 0x1a7, 1, 0x1a8⟩, ⟨0x1a9, 0x1a9, 1, 0x283⟩, ⟨0x1ac, 0x1ac, 1, 0x1ad⟩, ⟨0x1ae, 0x1ae, 1, 0x288⟩,
  ⟨0x1af, 0x1af, 1, 0x1b0⟩, ⟨0x1b1, 0x1b2, 1, 0x28a⟩, ⟨0x1b3, 0x1b5, 2, 0x1b4⟩, ⟨0x1b7, 0x1b7, 1, 0x292⟩,
  ⟨0x1b8, 0x1b8, 1, 0x1b9⟩, ⟨0x1bc, 0x1bc, 1, 0x1bd⟩, ⟨0x1cd, 0x1db, 2, 0x1ce⟩, ⟨0x1de, 0x1ee, 2, 0x1df⟩,
  ⟨0x1f4, 0x1f4, 1, 0x1f5⟩, ⟨0x1f6, 0x1f6, 1, 0x195⟩, ⟨0x1f7, 0x1f7, 1, 0x1bf⟩, ⟨0x1f8, 0x21e, 2, 0x1f9⟩,
  ⟨0x220, 0x220, 1, 0x19e⟩, ⟨0x222, 0x232, 2, 0x223⟩, ⟨0x23a, 0x23a, 1, 0x2c65⟩,
  ⟨0x23b, 0x23b, 1, 0x23c⟩, ⟨0x23d, 0x23d, 1, 0x19a⟩, ⟨0x23e, 0x23e, 1, 0x2c66⟩,
  ⟨0x241, 0x241, 1, 0x242⟩, ⟨0x243, 0x243, 1, 0x180⟩, ⟨0x244, 0x244, 1, 0x289⟩, ⟨0x245, 0x245, 1, 0x28c⟩,
  ⟨0x246, 0x24e, 2, 0x247⟩, ⟨0x2b0, 0x2b2, 2, 0x68⟩, ⟨0x2b1, 0x2b1, 1, 0x266⟩, ⟨0x2b3, 0x2b3, 1, 0x72⟩,
  ⟨0x2b4, 0x2b4, 1, 0x279⟩, ⟨0x2b5, 0x2b5, 1, 0x27b⟩, ⟨0x2b6, 0x2b6, 1, 0x281⟩, ⟨0x2b7, 0x2b7, 1, 0x77⟩,
  ⟨0x2b8, 0x2b8, 1, 0x79⟩, ⟨0x2e0, 0x2e0, 1, 0x263⟩, ⟨0x2e1, 0x2e1, 1, 0x6c⟩, ⟨0x2e2, 0x2e2, 1, 0x73⟩,
  ⟨0x2e3, 0x2e3, 1, 0x78⟩, ⟨0x2e4, 0x2e4, 1, 0x295⟩, ⟨0x340, 0x341, 1, 0x300⟩, ⟨0x343, 0x343, 1, 0x313⟩,
  ⟨0x345, 0x345, 1, 0x3b9⟩, ⟨0x370, 0x372, 2, 0x371⟩, ⟨0x374, 0x374, 1, 0x2b9⟩, ⟨0x376, 0x376, 1, 0x377⟩,
  ⟨0x37e, 0x37e, 1, 0x3b⟩, ⟨0x37f, 0x37f, 1, 0x3f3⟩, ⟨0x386, 0x386, 1, 0x3ac⟩, ⟨0x387, 0x387, 1, 0xb7⟩,
  ⟨0x388, 0x38a, 1, 0x3ad⟩, ⟨0x38c, 0x38c, 1, 0x3cc⟩, ⟨0x38e, 0x38f, 1, 0x3cd⟩, ⟨0x391, 0x3a1, 1, 0x3b1⟩,
  ⟨0x3a3, 0x3ab, 1, 0x3c3⟩, ⟨0x3cf, 0x3cf, 1, 0x3d7⟩, ⟨0x3d0, 0x3d0, 1, 0x3b2⟩, ⟨0x3d1, 0x3d1, 1, 0x3b8⟩,
  ⟨0x3d2, 0x3d2, 1, 0x3c5⟩, ⟨0x3d3, 0x3d3, 1, 0x3cd⟩, ⟨0x3d4, 0x3d4, 1, 0x3cb⟩, ⟨0x3d5, 0x3d5, 1, 0x3c6⟩,
  ⟨0x3d6, 0x3d6, 1, 0x3c0⟩, ⟨0x3d8, 0x3ee, 2, 0x3d9⟩, ⟨0x3f0, 0x3f0, 1, 0x3ba⟩, ⟨0x3f1, 0x3f1, 1, 0x3c1⟩,
  ⟨0x3f2, 0x3f2, 1, 0x3c3⟩, ⟨0x3f4, 0x3f4, 1, 0x3b8⟩, ⟨0x3f5, 0x3f5, 1, 0x3b5⟩, ⟨0x3f7, 0x3f7, 1, 0x3f8⟩,
  ⟨0x3f9, 0x3f9, 1, 0x3c3⟩, ⟨0x3fa, 0x3fa, 1, 0x3fb⟩, ⟨0x3fd, 0x3ff, 1, 0x37b⟩, ⟨0x400, 0x40f, 1, 0x450⟩,
  ⟨0x410, 0x42f, 1, 0x430⟩, ⟨0x460, 0x480, 2, 0x461⟩, ⟨0x48a, 0x4be, 2, 0x48b⟩, ⟨0x4c0, 0x4c0, 1, 0x4cf⟩,
  ⟨0x4c1, 0x4cd, 2, 0x4c2⟩, ⟨0x4d0, 0x52e, 2, 0x4d1⟩, ⟨0x531, 0x556, 1, 0x561⟩, ⟨0xf0c, 0xf0c, 1, 0xf0b⟩,
  ⟨0x10a0, 0x10c5, 1, 0x2d00⟩, ⟨0x10c7, 0x10c7, 1, 0x2d27⟩, ⟨0x10cd, 0x10cd, 1, 0x2d2d⟩,
  ⟨0x10fc, 0x10fc, 1, 0x10dc⟩, ⟨0x13f8, 0x13fd, 1, 0x13f0⟩, ⟨0x1c80, 0x1c80, 1, 0x432⟩,
  ⟨0x1c81, 0x1c81, 1, 0x434⟩, ⟨0x1c82, 0x1c82, 1, 0x43e⟩, ⟨0x1c83, 0x1c84, 1, 0x441⟩,
  ⟨0x1c85, 0x1c85, 1, 0x442⟩, ⟨0x1c86, 0x1c86, 1, 0x44a⟩, ⟨0x1c87, 0x1c87, 1, 0x463⟩,
  ⟨0x1c88, 0x1c88, 1, 0xa64b⟩, ⟨0x1c90, 0x1cba, 1, 0x10d0⟩, ⟨0x1cbd, 0x1cbf, 1, 0x10fd⟩,
  ⟨0x1d2c, 0x1d2c, 1, 0x61⟩, ⟨0x1d2d, 0x1d2d, 1, 0xe6⟩, ⟨0x1d2e, 0x1d30, 2, 0x62⟩,
  ⟨0x1d31, 0x1d39, 2, 0x65⟩, ⟨0x1d32, 0x1d32, 1, 0x1dd⟩, ⟨0x1d34, 0x1d3a, 2, 0x68⟩,
  ⟨0x1d3c, 0x1d3c, 1, 0x6f⟩, ⟨0x1d3d, 0x1d3d, 1, 0x223⟩, ⟨0x1d3e, 0x1d3e, 1, 0x70⟩,
  ⟨0x1d3f, 0x1d3f, 1, 0x72⟩, ⟨0x1d40, 0x1d41, 1, 0x74⟩, ⟨0x1d42, 0x1d42, 1, 0x77⟩,
  ⟨0x1d43, 0x1d43, 1, 0x61⟩, ⟨0x1d44, 0x1d45, 1, 0x250⟩, ⟨0x1d46, 0x1d46, 1, 0x1d02⟩,
  ⟨0x1d47, 0x1d47, 1, 0x62⟩, ⟨0x1d48, 0x1d49, 1, 0x64⟩, ⟨0x1d4a, 0x1d4a, 1, 0x259⟩,
  ⟨0x1d4b, 0x1d4c, 1, 0x25b⟩, ⟨0x1d4d, 0x1d4d, 1, 0x67⟩, ⟨0x1d4f, 0x1d4f, 1, 0x6b⟩,
  ⟨0x1d50, 0x1d52, 2, 0x6d⟩, ⟨0x1d51, 0x1d51, 1, 0x14b⟩, ⟨0x1d53, 0x1d53, 1, 0x254⟩,
  ⟨0x1d54, 0x1d55, 1, 0x1d16⟩, ⟨0x1d56, 0x1d56, 1, 0x70⟩, ⟨0x1d57, 0x1d58, 1, 0x74⟩,
  ⟨0x1d59, 0x1d59, 1, 0x1d1d⟩, ⟨0x1d5a, 0x1d5a, 1, 0x26f⟩, ⟨0x1d5b, 0x1d5b, 1, 0x76⟩,
  ⟨0x1d5c, 0x1d5c, 1, 0x1d25⟩, ⟨0x1d5d, 0x1d5f, 1, 0x3b2⟩, ⟨0x1d60, 0x1d61, 1, 0x3c6⟩,
  ⟨0x1d62, 0x1d62, 1, 0x69⟩, ⟨0x1d63, 0x1d63, 1, 0x72⟩, ⟨0x1d64, 0x1d65, 1, 0x75⟩,
  ⟨0x1d66, 0x1d67, 1, 0x3b2⟩, ⟨0x1d68, 0x1d68, 1, 0x3c1⟩, ⟨0x1d69, 0x1d6a, 1, 0x3c6⟩,
  ⟨0x1d78, 0x1d78, 1, 0x43d⟩, ⟨0x1d9b, 0x1d9b, 1, 0x252⟩, ⟨0x1d9c, 0x1d9c, 1, 0x63⟩,
  ⟨0x1d9d, 0x1d9d, 1, 0x255⟩, ⟨0x1d9e, 0x1d9e, 1, 0xf0⟩, ⟨0x1d9f, 0x1d9f, 1, 0x25c⟩,
  ⟨0x1da0, 0x1da0, 1, 0x66⟩, ⟨0x1da1, 0x1da1, 1, 0x25f⟩, ⟨0x1da2, 0x1da2, 1, 0x261⟩,
  ⟨0x1da3, 0x1da3, 1, 0x265⟩, ⟨0x1da4, 0x1da6, 1, 0x268⟩, ⟨0x1da7, 0x1da7, 1, 0x1d7b⟩,
  ⟨0x1da8, 0x1da8, 1, 0x29d⟩, ⟨0x1da9, 0x1da9, 1, 0x26d⟩, ⟨0x1daa, 0x1daa, 1, 0x1d85⟩,
  ⟨0x1dab, 0x1dab, 1, 0x29f⟩, ⟨0x1dac, 0x1dac, 1, 0x271⟩, ⟨0x1dad, 0x1dad, 1, 0x270⟩,
  ⟨0x1dae, 0x1db1, 1, 0x272⟩, ⟨0x1db2, 0x1db2, 1, 0x278⟩, ⟨0x1db3, 0x1db4, 1, 0x282⟩,
  ⟨0x1db5, 0x1db5, 1, 0x1ab⟩, ⟨0x1db6, 0x1db7, 1, 0x289⟩, ⟨0x1db8, 0x1db8, 1, 0x1d1c⟩,
  ⟨0x1db9, 0x1dba, 1, 0x28b⟩, ⟨0x1dbb, 0x1dbb, 1, 0x7a⟩, ⟨0x1dbc, 0x1dbe, 1, 0x290⟩,
  ⟨0x1dbf, 0x1dbf, 1, 0x3b8⟩, ⟨0x1e00, 0x1e94, 2, 0x1e01⟩, ⟨0x1e9b, 0x1e9b, 1, 0x1e61⟩,
  ⟨0x1e9e, 0x1e9e, 1, 0xdf⟩, ⟨0x1ea0, 0x1efe, 2, 0x1ea1⟩, ⟨0x1f08, 0x1f0f, 1, 0x1f00⟩,
  ⟨0x1f18, 0x1f1d, 1, 0x1f10⟩, ⟨0x1f28, 0x1f2f, 1, 0x1f20⟩, ⟨0x1f38, 0x1f3f, 1, 0x1f30⟩,
  ⟨0x1f48, 0x1f4d, 1, 0x1f40⟩, ⟨0x1f59, 0x1f5f, 2, 0x1f51⟩, ⟨0x1f68, 0x1f6f, 1, 0x1f60⟩,
  ⟨0x1f71, 0x1f71, 1, 0x3ac⟩, ⟨0x1f73, 0x1f73, 1, 0x3ad⟩, ⟨0x1f75, 0x1f75, 1, 0x3ae⟩,
  ⟨0x1f77, 0x1f77, 1, 0x3af⟩, ⟨0x1f79, 0x1f79, 1, 0x3cc⟩, ⟨0x1f7b, 0x1f7b, 1, 0x3cd⟩,
  ⟨0x1f7d, 0x1f7d, 1, 0x3ce⟩, ⟨0x1fb8, 0x1fb9, 1, 0x1fb0⟩, ⟨0x1fba, 0x1fba, 1, 0x1f70⟩,
  ⟨0x1fbb, 0x1fbb, 1, 0x3ac⟩, ⟨0x1fbe, 0x1fbe, 1, 0x3b9⟩, ⟨0x1fc8, 0x1fca, 2, 0x1f72⟩,
  ⟨0x1fc9, 0x1fc9, 1, 0x3ad⟩, ⟨0x1fcb, 0x1fcb, 1, 0x3ae⟩, ⟨0x1fd3, 0x1fd3, 1, 0x390⟩,
  ⟨0x1fd8, 0x1fd9, 1, 0x1fd0⟩, ⟨0x1fda, 0x1fda, 1, 0x1f76⟩, ⟨0x1fdb, 0x1fdb, 1, 0x3af⟩,
  ⟨0x1fe3, 0x1fe3, 1, 0x3b0⟩, ⟨0x1fe8, 0x1fe9, 1, 0x1fe0⟩, ⟨0x1fea, 0x1fea, 1, 0x1f7a⟩,
  ⟨0x1feb, 0x1feb, 1, 0x3cd⟩, ⟨0x1fec, 0x1fec, 1, 0x1fe5⟩, ⟨0x1fef, 0x1fef, 1, 0x60⟩,
  ⟨0x1ff8, 0x1ff8, 1, 0x1f78⟩, ⟨0x1ff9, 0x1ffb, 2, 0x3cc⟩, ⟨0x1ffa, 0x1ffa, 1, 0x1f7c⟩]

/-- Runs of signs and enclosed forms. -/
def foldSignRuns : List FoldRun := [
  ⟨0x2000, 0x2000, 1, 0x20⟩, ⟨0x2001, 0x2001, 1, 0x20⟩, ⟨0x2002, 0x2002, 1, 0x20⟩,
  ⟨0x2003, 0x2003, 1, 0x20⟩, ⟨0x2004, 0x2004, 1, 0x20⟩, ⟨0x2005, 0x2005, 1, 0x20⟩,
  ⟨0x2006, 0x2006, 1, 0x20⟩, ⟨0x2007, 0x2007, 1, 0x20⟩, ⟨0x2008, 0x2008, 1, 0x20⟩,
  ⟨0x2009, 0x2009, 1, 0x20⟩, ⟨0x200a, 0x200a, 1, 0x20⟩, ⟨0x2011, 0x2011, 1, 0x2010⟩,
  ⟨0x202f, 0x202f, 1, 0x20⟩, ⟨0x205f, 0x205f, 1, 0x20⟩, ⟨0x2070, 0x2070, 1, 0x30⟩,
  ⟨0x2071, 0x2071, 1, 0x69⟩, ⟨0x2074, 0x2079, 1, 0x34⟩, ⟨0x207a, 0x207a, 1, 0x2b⟩,
  ⟨0x207b, 0x207b, 1, 0x2212⟩, ⟨0x207c, 0x207c, 1, 0x3d⟩, ⟨0x207d, 0x207e, 1, 0x28⟩,
  ⟨0x207f, 0x207f, 1, 0x6e⟩, ⟨0x2080, 0x2089, 1, 0x30⟩, ⟨0x208a, 0x208a, 1, 0x2b⟩,
  ⟨0x208b, 0x208b, 1, 0x2212⟩, ⟨0x208c, 0x208c, 1, 0x3d⟩, ⟨0x208d, 0x208e, 1, 0x28⟩,
  ⟨0x2090, 0x2090, 1, 0x61⟩, ⟨0x2091, 0x2091, 1, 0x65⟩, ⟨0x2092, 0x2092, 1, 0x6f⟩,
  ⟨0x2093, 0x2093, 1, 0x78⟩, ⟨0x2094, 0x2094, 1, 0x259⟩, ⟨0x2095, 0x2095, 1, 0x68⟩,
  ⟨0x2096, 0x2099, 1, 0x6b⟩, ⟨0x209a, 0x209a, 1, 0x70⟩, ⟨0x209b, 0x209c, 1, 0x73⟩,
  ⟨0x2102, 0x2102, 1, 0x63⟩, ⟨0x2107, 0x2107, 1, 0x25b⟩, ⟨0x210a, 0x210b, 1, 0x67⟩,
  ⟨0x210c, 0x210c, 1, 0x68⟩, ⟨0x210d, 0x210d, 1, 0x68⟩, ⟨0x210e, 0x210e, 1, 0x68⟩,
  ⟨0x210f, 0x210f, 1, 0x127⟩, ⟨0x2110, 0x2110, 1, 0x69⟩, ⟨0x2111, 0x2111, 1, 0x69⟩,
  ⟨0x2112, 0x2112, 1, 0x6c⟩, ⟨0x2113, 0x2115, 2, 0x6c⟩, ⟨0x2119, 0x211b, 1, 0x70⟩,
  ⟨0x211c, 0x211c, 1, 0x72⟩, ⟨0x211d, 0x211d, 1, 0x72⟩, ⟨0x2124, 0x2124, 1, 0x7a⟩,
  ⟨0x2126, 0x2126, 1, 0x3c9⟩, ⟨0x2128, 0x2128, 1, 0x7a⟩, ⟨0x212a, 0x212a, 1, 0x6b⟩,
  ⟨0x212b, 0x212b, 1, 0xe5⟩, ⟨0x212c, 0x212d, 1, 0x62⟩, ⟨0x212f, 0x212f, 1, 0x65⟩,
  ⟨0x2130, 0x2131, 1, 0x65⟩, ⟨0x2132, 0x2132, 1, 0x214e⟩, ⟨0x2133, 0x2133, 1, 0x6d⟩,
  ⟨0x2134, 0x2134, 1, 0x6f⟩, ⟨0x2135, 0x2138, 1, 0x5d0⟩, ⟨0x2139, 0x2139, 1, 0x69⟩,
  ⟨0x213c, 0x213c, 1, 0x3c0⟩, ⟨0x213d, 0x213d, 1, 0x3b3⟩, ⟨0x213e, 0x213e, 1, 0x3b3⟩,
  ⟨0x213f, 0x213f, 1, 0x3c0⟩, ⟨0x2140, 0x2140, 1, 0x2211⟩, ⟨0x2145, 0x2145, 1, 0x64⟩,
  ⟨0x2146, 0x2147, 1, 0x64⟩, ⟨0x2148, 0x2149, 1, 0x69⟩, ⟨0x2160, 0x2160, 1, 0x69⟩,
  ⟨0x2164, 0x2164, 1, 0x76⟩, ⟨0x2169, 0x2169, 1, 0x78⟩, ⟨0x216c, 0x216c, 1, 0x6c⟩,
  ⟨0x216d, 0x216e, 1, 0x63⟩, ⟨0x216f, 0x216f, 1, 0x6d⟩, ⟨0x2170, 0x2170, 1, 0x69⟩,
  ⟨0x2174, 0x2174, 1, 0x76⟩, ⟨0x2179, 0x2179, 1, 0x78⟩, ⟨0x217c, 0x217c, 1, 0x6c⟩,
  ⟨0x217d, 0x217e, 1, 0x63⟩, ⟨0x217f, 0x217f, 1, 0x6d⟩, ⟨0x2183, 0x2183, 1, 0x2184⟩,
  ⟨0x2329, 0x232a, 1, 0x3008⟩, ⟨0x2460, 0x2468, 1, 0x31⟩, ⟨0x24b6, 0x24cf, 1, 0x61⟩,
  ⟨0x24d0, 0x24e9, 1, 0x61⟩, ⟨0x24ea, 0x24ea, 1, 0x30⟩, ⟨0x2c00, 0x2c2f, 1, 0x2c30⟩,
  ⟨0x2c60, 0x2c60, 1, 0x2c61⟩, ⟨0x2c62, 0x2c62, 1, 0x26b⟩, ⟨0x2c63, 0x2c63, 1, 0x1d7d⟩,
  ⟨0x2c64, 0x2c64, 1, 0x27d⟩, ⟨0x2c67, 0x2c6b, 2, 0x2c68⟩, ⟨0x2c6d, 0x2c6d, 1, 0x251⟩,
  ⟨0x2c6e, 0x2c6e, 1, 0x271⟩, ⟨0x2c6f, 0x2c6f, 1, 0x250⟩, ⟨0x2c70, 0x2c70, 1, 0x252⟩,
  ⟨0x2c72, 0x2c72, 1, 0x2c73⟩, ⟨0x2c75, 0x2c75, 1, 0x2c76⟩, ⟨0x2c7c, 0x2c7c, 1, 0x6a⟩,
  ⟨0x2c7d, 0x2c7d, 1, 0x76⟩, ⟨0x2c7e, 0x2c7f, 1, 0x23f⟩, ⟨0x2c80, 0x2ce2, 2, 0x2c81⟩,
  ⟨0x2ceb, 0x2ced, 2, 0x2cec⟩, ⟨0x2cf2, 0x2cf2, 1, 0x2cf3⟩, ⟨0x2d6f, 0x2d6f, 1, 0x2d61⟩,
  ⟨0x2e9f, 0x2e9f, 1, 0x6bcd⟩, ⟨0x2ef3, 0x2ef3, 1, 0x9f9f⟩, ⟨0x2f00, 0x2f00, 1, 0x4e00⟩,
  ⟨0x2f01, 0x2f01, 1, 0x4e28⟩, ⟨0x2f02, 0x2f02, 1, 0x4e36⟩, ⟨0x2f03, 0x2f03, 1, 0x4e3f⟩,
  ⟨0x2f04, 0x2f04, 1, 0x4e59⟩, ⟨0x2f05, 0x2f05, 1, 0x4e85⟩, ⟨0x2f06, 0x2f06, 1, 0x4e8c⟩,
  ⟨0x2f07, 0x2f07, 1, 0x4ea0⟩, ⟨0x2f08, 0x2f08, 1, 0x4eba⟩, ⟨0x2f09, 0x2f09, 1, 0x513f⟩,
  ⟨0x2f0a, 0x2f0a, 1, 0x5165⟩, ⟨0x2f0b, 0x2f0b, 1, 0x516b⟩, ⟨0x2f0c, 0x2f0c, 1, 0x5182⟩,
  ⟨0x2f0d, 0x2f0d, 1, 0x5196⟩, ⟨0x2f0e, 0x2f0e, 1, 0x51ab⟩, ⟨0x2f0f, 0x2f0f, 1, 0x51e0⟩,
  ⟨0x2f10, 0x2f10, 1, 0x51f5⟩, ⟨0x2f11, 0x2f11, 1, 0x5200⟩, ⟨0x2f12, 0x2f12, 1, 0x529b⟩,
  ⟨0x2f13, 0x2f13, 1, 0x52f9⟩, ⟨0x2f14, 0x2f14, 1, 0x5315⟩, ⟨0x2f15, 0x2f15, 1, 0x531a⟩,
  ⟨0x2f16, 0x2f16, 1, 0x5338⟩, ⟨0x2f17, 0x2f17, 1, 0x5341⟩, ⟨0x2f18, 0x2f18, 1, 0x535c⟩,
  ⟨0x2f19, 0x2f19, 1, 0x5369⟩, ⟨0x2f1a, 0x2f1a, 1, 0x5382⟩, ⟨0x2f1b, 0x2f1b, 1, 0x53b6⟩,
  ⟨0x2f1c, 0x2f1c, 1, 0x53c8⟩, ⟨0x2f1d, 0x2f1d, 1, 0x53e3⟩, ⟨0x2f1e, 0x2f1e, 1, 0x56d7⟩,
  ⟨0x2f1f, 0x2f1f, 1, 0x571f⟩, ⟨0x2f20, 0x2f20, 1, 0x58eb⟩, ⟨0x2f21, 0x2f21, 1, 0x5902⟩,
  ⟨0x2f22, 0x2f22, 1, 0x590a⟩, ⟨0x2f23, 0x2f23, 1, 0x5915⟩, ⟨0x2f24, 0x2f24, 1, 0x5927⟩,
  ⟨0x2f25, 0x2f25, 1, 0x5973⟩, ⟨0x2f26, 0x2f26, 1, 0x5b50⟩, ⟨0x2f27, 0x2f27, 1, 0x5b80⟩,
  ⟨0x2f28, 0x2f28, 1, 0x5bf8⟩, ⟨0x2f29, 0x2f29, 1, 0x5c0f⟩, ⟨0x2f2a, 0x2f2a, 1, 0x5c22⟩,
  ⟨0x2f2b, 0x2f2b, 1, 0x5c38⟩, ⟨0x2f2c, 0x2f2c, 1, 0x5c6e⟩, ⟨0x2f2d, 0x2f2d, 1, 0x5c71⟩,
  ⟨0x2f2e, 0x2f2e, 1, 0x5ddb⟩, ⟨0x2f2f, 0x2f2f, 1, 0x5de5⟩, ⟨0x2f30, 0x2f30, 1, 0x5df1⟩,
  ⟨0x2f31, 0x2f31, 1, 0x5dfe⟩, ⟨0x2f32, 0x2f32, 1, 0x5e72⟩, ⟨0x2f33, 0x2f33, 1, 0x5e7a⟩,
  ⟨0x2f34, 0x2f34, 1, 0x5e7f⟩, ⟨0x2f35, 0x2f35, 1, 0x5ef4⟩, ⟨0x2f36, 0x2f36, 1, 0x5efe⟩,
  ⟨0x2f37, 0x2f37, 1, 0x5f0b⟩, ⟨0x2f38, 0x2f38, 1, 0x5f13⟩, ⟨0x2f39, 0x2f39, 1, 0x5f50⟩,
  ⟨0x2f3a, 0x2f3a, 1, 0x5f61⟩, ⟨0x2f3b, 0x2f3b, 1, 0x5f73⟩, ⟨0x2f3c, 0x2f3c, 1, 0x5fc3⟩,
  ⟨0x2f3d, 0x2f3d, 1, 0x6208⟩, ⟨0x2f3e, 0x2f3e, 1, 0x6236⟩, ⟨0x2f3f, 0x2f3f, 1, 0x624b⟩,
  ⟨0x2f40, 0x2f40, 1, 0x652f⟩, ⟨0x2f41, 0x2f41, 1, 0x6534⟩, ⟨0x2f42, 0x2f42, 1, 0x6587⟩,
  ⟨0x2f43, 0x2f43, 1, 0x6597⟩, ⟨0x2f44, 0x2f44, 1, 0x65a4⟩, ⟨0x2f45, 0x2f45, 1, 0x65b9⟩,
  ⟨0x2f46, 0x2f46, 1, 0x65e0⟩, ⟨0x2f47, 0x2f47, 1, 0x65e5⟩, ⟨0x2f48, 0x2f48, 1, 0x66f0⟩,
  ⟨0x2f49, 0x2f49, 1, 0x6708⟩, ⟨0x2f4a, 0x2f4a, 1, 0x6728⟩, ⟨0x2f4b, 0x2f4b, 1, 0x6b20⟩,
  ⟨0x2f4c, 0x2f4c, 1, 0x6b62⟩, ⟨0x2f4d, 0x2f4d, 1, 0x6b79⟩, ⟨0x2f4e, 0x2f4e, 1, 0x6bb3⟩,
  ⟨0x2f4f, 0x2f4f, 1, 0x6bcb⟩, ⟨0x2f50, 0x2f50, 1, 0x6bd4⟩, ⟨0x2f51, 0x2f51, 1, 0x6bdb⟩,
  ⟨0x2f52, 0x2f52, 1, 0x6c0f⟩, ⟨0x2f53, 0x2f53, 1, 0x6c14⟩, ⟨0x2f54, 0x2f54, 1, 0x6c34⟩,
  ⟨0x2f55, 0x2f55, 1, 0x706b⟩, ⟨0x2f56, 0x2f56, 1, 0x722a⟩, ⟨0x2f57, 0x2f57, 1, 0x7236⟩,
  ⟨0x2f58, 0x2f58, 1, 0x723b⟩, ⟨0x2f59, 0x2f59, 1, 0x723f⟩, ⟨0x2f5a, 0x2f5a, 1, 0x7247⟩,
  ⟨0x2f5b, 0x2f5b, 1, 0x7259⟩, ⟨0x2f5c, 0x2f5c, 1, 0x725b⟩, ⟨0x2f5d, 0x2f5d, 1, 0x72ac⟩,
  ⟨0x2f5e, 0x2f5e, 1, 0x7384⟩, ⟨0x2f5f, 0x2f5f, 1, 0x7389⟩, ⟨0x2f60, 0x2f60, 1, 0x74dc⟩,
  ⟨0x2f61, 0x2f61, 1, 0x74e6⟩, ⟨0x2f62, 0x2f62, 1, 0x7518⟩, ⟨0x2f63, 0x2f63, 1, 0x751f⟩,
  ⟨0x2f64, 0x2f64, 1, 0x7528⟩, ⟨0x2f65, 0x2f65, 1, 0x7530⟩, ⟨0x2f66, 0x2f66, 1, 0x758b⟩,
  ⟨0x2f67, 0x2f67, 1, 0x7592⟩, ⟨0x2f68, 0x2f68, 1, 0x7676⟩, ⟨0x2f69, 0x2f69, 1, 0x767d⟩,
  ⟨0x2f6a, 0x2f6a, 1, 0x76ae⟩, ⟨0x2f6b, 0x2f6b, 1, 0x76bf⟩, ⟨0x2f6c, 0x2f6c, 1, 0x76ee⟩,
  ⟨0x2f6d, 0x2f6d, 1, 0x77db⟩, ⟨0x2f6e, 0x2f6e, 1, 0x77e2⟩, ⟨0x2f6f, 0x2f6f, 1, 0x77f3⟩,
  ⟨0x2f70, 0x2f70, 1, 0x793a⟩, ⟨0x2f71, 0x2f71, 1, 0x79b8⟩, ⟨0x2f72, 0x2f72, 1, 0x79be⟩,
  ⟨0x2f73, 0x2f73, 1, 0x7a74⟩, ⟨0x2f74, 0x2f74, 1, 0x7acb⟩, ⟨0x2f75, 0x2f75, 1, 0x7af9⟩,
  ⟨0x2f76, 0x2f76, 1, 0x7c73⟩, ⟨0x2f77, 0x2f77, 1, 0x7cf8⟩, ⟨0x2f78, 0x2f78, 1, 0x7f36⟩,
  ⟨0x2f79, 0x2f79, 1, 0x7f51⟩, ⟨0x2f7a, 0x2f7a, 1, 0x7f8a⟩, ⟨0x2f7b, 0x2f7b, 1, 0x7fbd⟩,
  ⟨0x2f7c, 0x2f7c, 1, 0x8001⟩, ⟨0x2f7d, 0x2f7d, 1, 0x800c⟩, ⟨0x2f7e, 0x2f7e, 1, 0x8012⟩,
  ⟨0x2f7f, 0x2f7f, 1, 0x8033⟩, ⟨0x2f80, 0x2f80, 1, 0x807f⟩, ⟨0x2f81, 0x2f81, 1, 0x8089⟩,
  ⟨0x2f82, 0x2f82, 1, 0x81e3⟩, ⟨0x2f83, 0x2f83, 1, 0x81ea⟩, ⟨0x2f84, 0x2f84, 1, 0x81f3⟩,
  ⟨0x2f85, 0x2f85, 1, 0x81fc⟩, ⟨0x2f86, 0x2f86, 1, 0x820c⟩, ⟨0x2f87, 0x2f87, 1, 0x821b⟩,
  ⟨0x2f88, 0x2f88, 1, 0x821f⟩, ⟨0x2f89, 0x2f89, 1, 0x826e⟩, ⟨0x2f8a, 0x2f8a, 1, 0x8272⟩,
  ⟨0x2f8b, 0x2f8b, 1, 0x8278⟩, ⟨0x2f8c, 0x2f8c, 1, 0x864d⟩, ⟨0x2f8d, 0x2f8d, 1, 0x866b⟩,
  ⟨0x2f8e, 0x2f8e, 1, 0x8840⟩, ⟨0x2f8f, 0x2f8f, 1, 0x884c⟩, ⟨0x2f90, 0x2f90, 1, 0x8863⟩,
  ⟨0x2f91, 0x2f91, 1, 0x897e⟩, ⟨0x2f92, 0x2f92, 1, 0x898b⟩, ⟨0x2f93, 0x2f93, 1, 0x89d2⟩,
  ⟨0x2f94, 0x2f94, 1, 0x8a00⟩, ⟨0x2f95, 0x2f95, 1, 0x8c37⟩, ⟨0x2f96, 0x2f96, 1, 0x8c46⟩,
  ⟨0x2f97, 0x2f97, 1, 0x8c55⟩, ⟨0x2f98, 0x2f98, 1, 0x8c78⟩, ⟨0x2f99, 0x2f99, 1, 0x8c9d⟩,
  ⟨0x2f9a, 0x2f9a, 1, 0x8d64⟩, ⟨0x2f9b, 0x2f9b, 1, 0x8d70⟩, ⟨0x2f9c, 0x2f9c, 1, 0x8db3⟩,
  ⟨0x2f9d, 0x2f9d, 1, 0x8eab⟩, ⟨0x2f9e, 0x2f9e, 1, 0x8eca⟩, ⟨0x2f9f, 0x2f9f, 1, 0x8f9b⟩,
  ⟨0x2fa0, 0x2fa0, 1, 0x8fb0⟩, ⟨0x2fa1, 0x2fa1, 1, 0x8fb5⟩, ⟨0x2fa2, 0x2fa2, 1, 0x9091⟩,
  ⟨0x2fa3, 0x2fa3, 1, 0x9149⟩, ⟨0x2fa4, 0x2fa4, 1, 0x91c6⟩, ⟨0x2fa5, 0x2fa5, 1, 0x91cc⟩,
  ⟨0x2fa6, 0x2fa6, 1, 0x91d1⟩, ⟨0x2fa7, 0x2fa7, 1, 0x9577⟩, ⟨0x2fa8, 0x2fa8, 1, 0x9580⟩,
  ⟨0x2fa9, 0x2fa9, 1, 0x961c⟩, ⟨0x2faa, 0x2faa, 1, 0x96b6⟩, ⟨0x2fab, 0x2fab, 1, 0x96b9⟩,
  ⟨0x2fac, 0x2fac, 1, 0x96e8⟩, ⟨0x2fad, 0x2fad, 1, 0x9751⟩, ⟨0x2fae, 0x2fae, 1, 0x975e⟩,
  ⟨0x2faf, 0x2faf, 1, 0x9762⟩, ⟨0x2fb0, 0x2fb0, 1, 0x9769⟩, ⟨0x2fb1, 0x2fb1, 1, 0x97cb⟩,
  ⟨0x2fb2, 0x2fb2, 1, 0x97ed⟩, ⟨0x2fb3, 0x2fb3, 1, 0x97f3⟩, ⟨0x2fb4, 0x2fb4, 1, 0x9801⟩,
  ⟨0x2fb5, 0x2fb5, 1, 0x98a8⟩, ⟨0x2fb6, 0x2fb6, 1, 0x98db⟩, ⟨0x2fb7, 0x2fb7, 1, 0x98df⟩,
  ⟨0x2fb8, 0x2fb8, 1, 0x9996⟩, ⟨0x2fb9, 0x2fb9, 1, 0x9999⟩, ⟨0x2fba, 0x2fba, 1, 0x99ac⟩,
  ⟨0x2fbb, 0x2fbb, 1, 0x9aa8⟩, ⟨0x2fbc, 0x2fbc, 1, 0x9ad8⟩, ⟨0x2fbd, 0x2fbd, 1, 0x9adf⟩,
  ⟨0x2fbe, 0x2fbe, 1, 0x9b25⟩, ⟨0x2fbf, 0x2fbf, 1, 0x9b2f⟩, ⟨0x2fc0, 0x2fc0, 1, 0x9b32⟩,
  ⟨0x2fc1, 0x2fc1, 1, 0x9b3c⟩, ⟨0x2fc2, 0x2fc2, 1, 0x9b5a⟩, ⟨0x2fc3, 0x2fc3, 1, 0x9ce5⟩,
  ⟨0x2fc4, 0x2fc4, 1, 0x9e75⟩, ⟨0x2fc5, 0x2fc5, 1, 0x9e7f⟩, ⟨0x2fc6, 0x2fc6, 1, 0x9ea5⟩,
  ⟨0x2fc7, 0x2fc7, 1, 0x9ebb⟩, ⟨0x2fc8, 0x2fc8, 1, 0x9ec3⟩, ⟨0x2fc9, 0x2fc9, 1, 0x9ecd⟩,
  ⟨0x2fca, 0x2fca, 1, 0x9ed1⟩, ⟨0x2fcb, 0x2fcb, 1, 0x9ef9⟩, ⟨0x2fcc, 0x2fcc, 1, 0x9efd⟩,
  ⟨0x2fcd, 0x2fcd, 1, 0x9f0e⟩, ⟨0x2fce, 0x2fce, 1, 0x9f13⟩, ⟨0x2fcf, 0x2fcf, 1, 0x9f20⟩,
  ⟨0x2fd0, 0x2fd0, 1, 0x9f3b⟩, ⟨0x2fd1, 0x2fd1, 1, 0x9f4a⟩, ⟨0x2fd2, 0x2fd2, 1, 0x9f52⟩,
  ⟨0x2fd3, 0x2fd3, 1, 0x9f8d⟩, ⟨0x2fd4, 0x2fd4, 1, 0x9f9c⟩, ⟨0x2fd5, 0x2fd5, 1, 0x9fa0⟩,
  ⟨0x3000, 0x3000, 1, 0x20⟩, ⟨0x3002, 0x3002, 1, 0x2e⟩, ⟨0x3036, 0x3036, 1, 0x3012⟩,
  ⟨0x3038, 0x3038, 1, 0x5341⟩, ⟨0x3039, 0x303a, 1, 0x5344⟩, ⟨0x3131, 0x3132, 1, 0x1100⟩,
  ⟨0x3133, 0x3135, 2, 0x11aa⟩, ⟨0x3134, 0x3134, 1, 0x1102⟩, ⟨0x3136, 0x3136, 1, 0x11ad⟩,
  ⟨0x3137, 0x3139, 1, 0x1103⟩, ⟨0x313a, 0x313f, 1, 0x11b0⟩, ⟨0x3140, 0x3140, 1, 0x111a⟩,
  ⟨0x3141, 0x3143, 1, 0x1106⟩, ⟨0x3144, 0x3144, 1, 0x1121⟩, ⟨0x3145, 0x314e, 1, 0x1109⟩,
  ⟨0x314f, 0x3163, 1, 0x1161⟩, ⟨0x3165, 0x3166, 1, 0x1114⟩, ⟨0x3167, 0x3168, 1, 0x11c7⟩,
  ⟨0x3169, 0x3169, 1, 0x11cc⟩, ⟨0x316a, 0x316a, 1, 0x11ce⟩, ⟨0x316b, 0x316b, 1, 0x11d3⟩,
  ⟨0x316c, 0x316c, 1, 0x11d7⟩, ⟨0x316d, 0x316d, 1, 0x11d9⟩, ⟨0x316e, 0x316e, 1, 0x111c⟩,
  ⟨0x316f, 0x316f, 1, 0x11dd⟩, ⟨0x3170, 0x3170, 1, 0x11df⟩, ⟨0x3171, 0x3172, 1, 0x111d⟩,
  ⟨0x3173, 0x3173, 1, 0x1120⟩, ⟨0x3174, 0x3175, 1, 0x1122⟩, ⟨0x3176, 0x3176, 1, 0x1127⟩,
  ⟨0x3177, 0x3177, 1, 0x1129⟩, ⟨0x3178, 0x317c, 1, 0x112b⟩, ⟨0x317d, 0x317d, 1, 0x1132⟩,
  ⟨0x317e, 0x317e, 1, 0x1136⟩, ⟨0x317f, 0x317f, 1, 0x1140⟩, ⟨0x3180, 0x3180, 1, 0x1147⟩,
  ⟨0x3181, 0x3181, 1, 0x114c⟩, ⟨0x3182, 0x3183, 1, 0x11f1⟩, ⟨0x3184, 0x3186, 1, 0x1157⟩,
  ⟨0x3187, 0x3188, 1, 0x1184⟩, ⟨0x3189, 0x3189, 1, 0x1188⟩, ⟨0x318a, 0x318b, 1, 0x1191⟩,
  ⟨0x318c, 0x318c, 1, 0x1194⟩, ⟨0x318d, 0x318d, 1, 0x119e⟩, ⟨0x318e, 0x318e, 1, 0x11a1⟩,
  ⟨0x3192, 0x3192, 1, 0x4e00⟩, ⟨0x3193, 0x3193, 1, 0x4e8c⟩, ⟨0x3194, 0x3194, 1, 0x4e09⟩,
  ⟨0x3195, 0x3195, 1, 0x56db⟩, ⟨0x3196, 0x3196, 1, 0x4e0a⟩, ⟨0x3197, 0x3197, 1, 0x4e2d⟩,
  ⟨0x3198, 0x3198, 1, 0x4e0b⟩, ⟨0x3199, 0x3199, 1, 0x7532⟩, ⟨0x319a, 0x319a, 1, 0x4e59⟩,
  ⟨0x319b, 0x319b, 1, 0x4e19⟩, ⟨0x319c, 0x319c, 1, 0x4e01⟩, ⟨0x319d, 0x319d, 1, 0x5929⟩,
  ⟨0x319e, 0x319e, 1, 0x5730⟩, ⟨0x319f, 0x319f, 1, 0x4eba⟩, ⟨0x3244, 0x3244, 1, 0x554f⟩,
  ⟨0x3245, 0x3245, 1, 0x5e7c⟩, ⟨0x3246, 0x3246, 1, 0x6587⟩, ⟨0x3247, 0x3247, 1, 0x7b8f⟩,
  ⟨0x3260, 0x3260, 1, 0x1100⟩, ⟨0x3261, 0x3262, 1, 0x1102⟩, ⟨0x3263, 0x3265, 1, 0x1105⟩,
  ⟨0x3266, 0x3266, 1, 0x1109⟩, ⟨0x3267, 0x3268, 1, 0x110b⟩, ⟨0x3269, 0x326d, 1, 0x110e⟩,
  ⟨0x326e, 0x326e, 1, 0xac00⟩, ⟨0x326f, 0x326f, 1, 0xb098⟩, ⟨0x3270, 0x3270, 1, 0xb2e4⟩,
  ⟨0x3271, 0x3271, 1, 0xb77c⟩, ⟨0x3272, 0x3272, 1, 0xb9c8⟩, ⟨0x3273, 0x3273, 1, 0xbc14⟩,
  ⟨0x3274, 0x3274, 1, 0xc0ac⟩, ⟨0x3275, 0x3275, 1, 0xc544⟩, ⟨0x3276, 0x3276, 1, 0xc790⟩,
  ⟨0x3277, 0x3277, 1, 0xcc28⟩, ⟨0x3278, 0x3278, 1, 0xce74⟩, ⟨0x3279, 0x3279, 1, 0xd0c0⟩,
  ⟨0x327a, 0x327a, 1, 0xd30c⟩, ⟨0x327b, 0x327b, 1, 0xd558⟩, ⟨0x327e, 0x327e, 1, 0xc6b0⟩,
  ⟨0x3280, 0x3280, 1, 0x4e00⟩, ⟨0x3281, 0x3281, 1, 0x4e8c⟩, ⟨0x3282, 0x3282, 1, 0x4e09⟩,
  ⟨0x3283, 0x3283, 1, 0x56db⟩, ⟨0x3284, 0x3284, 1, 0x4e94⟩, ⟨0x3285, 0x3285, 1, 0x516d⟩,
  ⟨0x3286, 0x3286, 1, 0x4e03⟩, ⟨0x3287, 0x3287, 1, 0x516b⟩, ⟨0x3288, 0x3288, 1, 0x4e5d⟩,
  ⟨0x3289, 0x3289, 1, 0x5341⟩, ⟨0x328a, 0x328a, 1, 0x6708⟩, ⟨0x328b, 0x328b, 1, 0x706b⟩,
  ⟨0x328c, 0x328c, 1, 0x6c34⟩, ⟨0x328d, 0x328d, 1, 0x6728⟩, ⟨0x328e, 0x328e, 1, 0x91d1⟩,
  ⟨0x328f, 0x328f, 1, 0x571f⟩, ⟨0x3290, 0x3290, 1, 0x65e5⟩, ⟨0x3291, 0x3291, 1, 0x682a⟩,
  ⟨0x3292, 0x3292, 1, 0x6709⟩, ⟨0x3293, 0x3293, 1, 0x793e⟩, ⟨0x3294, 0x3294, 1, 0x540d⟩,
  ⟨0x3295, 0x3295, 1, 0x7279⟩, ⟨0x3296, 0x3296, 1, 0x8ca1⟩, ⟨0x3297, 0x3297, 1, 0x795d⟩,
  ⟨0x3298, 0x3298, 1, 0x52b4⟩, ⟨0x3299, 0x3299, 1, 0x79d8⟩, ⟨0x329a, 0x329a, 1, 0x7537⟩,
  ⟨0x329b, 0x329b, 1, 0x5973⟩, ⟨0x329c, 0x329c, 1, 0x9069⟩, ⟨0x329d, 0x329d, 1, 0x512a⟩,
  ⟨0x329e, 0x329e, 1, 0x5370⟩, ⟨0x329f, 0x329f, 1, 0x6ce8⟩, ⟨0x32a0, 0x32a0, 1, 0x9805⟩,
  ⟨0x32a1, 0x32a1, 1, 0x4f11⟩, ⟨0x32a2, 0x32a2, 1, 0x5199⟩, ⟨0x32a3, 0x32a3, 1, 0x6b63⟩,
  ⟨0x32a4, 0x32a4, 1, 0x4e0a⟩, ⟨0x32a5, 0x32a5, 1, 0x4e2d⟩, ⟨0x32a6, 0x32a6, 1, 0x4e0b⟩,
  ⟨0x32a7, 0x32a7, 1, 0x5de6⟩, ⟨0x32a8, 0x32a8, 1, 0x53f3⟩, ⟨0x32a9, 0x32a9, 1, 0x533b⟩,
  ⟨0x32aa, 0x32aa, 1, 0x5b97⟩, ⟨0x32ab, 0x32ab, 1, 0x5b66⟩, ⟨0x32ac, 0x32ac, 1, 0x76e3⟩,
  ⟨0x32ad, 0x32ad, 1, 0x4f01⟩, ⟨0x32ae, 0x32ae, 1, 0x8cc7⟩, ⟨0x32af, 0x32af, 1, 0x5354⟩,
  ⟨0x32b0, 0x32b0, 1, 0x591c⟩, ⟨0x32d0, 0x32d0, 1, 0x30a2⟩, ⟨0x32d1, 0x32d1, 1, 0x30a4⟩,
  ⟨0x32d2, 0x32d2, 1, 0x30a6⟩, ⟨0x32d3, 0x32d3, 1, 0x30a8⟩, ⟨0x32d4, 0x32d5, 1, 0x30aa⟩,
  ⟨0x32d6, 0x32d6, 1, 0x30ad⟩, ⟨0x32d7, 0x32d7, 1, 0x30af⟩, ⟨0x32d8, 0x32d8, 1, 0x30b1⟩,
  ⟨0x32d9, 0x32d9, 1, 0x30b3⟩, ⟨0x32da, 0x32da, 1, 0x30b5⟩, ⟨0x32db, 0x32db, 1, 0x30b7⟩,
  ⟨0x32dc, 0x32dc, 1, 0x30b9⟩, ⟨0x32dd, 0x32dd, 1, 0x30bb⟩, ⟨0x32de, 0x32de, 1, 0x30bd⟩,
  ⟨0x32df, 0x32df, 1, 0x30bf⟩, ⟨0x32e0, 0x32e0, 1, 0x30c1⟩, ⟨0x32e1, 0x32e1, 1, 0x30c4⟩,
  ⟨0x32e2, 0x32e2, 1, 0x30c6⟩, ⟨0x32e3, 0x32e3, 1, 0x30c8⟩, ⟨0x32e4, 0x32e9, 1, 0x30ca⟩,
  ⟨0x32ea, 0x32ea, 1, 0x30d2⟩, ⟨0x32eb, 0x32eb, 1, 0x30d5⟩, ⟨0x32ec, 0x32ec, 1, 0x30d8⟩,
  ⟨0x32ed, 0x32ed, 1, 0x30db⟩, ⟨0x32ee, 0x32f2, 1, 0x30de⟩, ⟨0x32f3, 0x32f3, 1, 0x30e4⟩,
  ⟨0x32f4, 0x32f4, 1, 0x30e6⟩, ⟨0x32f5, 0x32fa, 1, 0x30e8⟩, ⟨0x32fb, 0x32fe, 1, 0x30ef⟩,
  ⟨0xa640, 0xa66c, 2, 0xa641⟩, ⟨0xa680, 0xa69a, 2, 0xa681⟩, ⟨0xa69c, 0xa69c, 1, 0x44a⟩,
  ⟨0xa69d, 0xa69d, 1, 0x44c⟩, ⟨0xa722, 0xa72e, 2, 0xa723⟩, ⟨0xa732, 0xa76e, 2, 0xa733⟩,
  ⟨0xa770, 0xa770, 1, 0xa76f⟩, ⟨0xa779, 0xa77b, 2, 0xa77a⟩, ⟨0xa77d, 0xa77d, 1, 0x1d79⟩,
  ⟨0xa77e, 0xa786, 2, 0xa77f⟩, ⟨0xa78b, 0xa78b, 1, 0xa78c⟩, ⟨0xa78d, 0xa78d, 1, 0x265⟩,
  ⟨0xa790, 0xa792, 2, 0xa791⟩, ⟨0xa796, 0xa7a8, 2, 0xa797⟩, ⟨0xa7aa, 0xa7aa, 1, 0x266⟩,
  ⟨0xa7ab, 0xa7ab, 1, 0x25c⟩, ⟨0xa7ac, 0xa7ac, 1, 0x261⟩, ⟨0xa7ad, 0xa7ad, 1, 0x26c⟩,
  ⟨0xa7ae, 0xa7ae, 1, 0x26a⟩, ⟨0xa7b0, 0xa7b0, 1, 0x29e⟩, ⟨0xa7b1, 0xa7b1, 1, 0x287⟩,
  ⟨0xa7b2, 0xa7b2, 1, 0x29d⟩, ⟨0xa7b3, 0xa7b3, 1, 0xab53⟩, ⟨0xa7b4, 0xa7c2, 2, 0xa7b5⟩,
  ⟨0xa7c4, 0xa7c4, 1, 0xa794⟩, ⟨0xa7c5, 0xa7c5, 1, 0x282⟩, ⟨0xa7c6, 0xa7c6, 1, 0x1d8e⟩,
  ⟨0xa7c7, 0xa7c9, 2, 0xa7c8⟩, ⟨0xa7d0, 0xa7d0, 1, 0xa7d1⟩, ⟨0xa7d6, 0xa7d8, 2, 0xa7d7⟩,
  ⟨0xa7f2, 0xa7f2, 1, 0x63⟩, ⟨0xa7f3, 0xa7f3, 1, 0x66⟩, ⟨0xa7f4, 0xa7f4, 1, 0x71⟩,
  ⟨0xa7f5, 0xa7f5, 1, 0xa7f6⟩, ⟨0xa7f8, 0xa7f8, 1, 0x127⟩, ⟨0xa7f9, 0xa7f9, 1, 0x153⟩,
  ⟨0xab5c, 0xab5c, 1, 0xa727⟩, ⟨0xab5d, 0xab5d, 1, 0xab37⟩, ⟨0xab5e, 0xab5e, 1, 0x26b⟩,
  ⟨0xab5f, 0xab5f, 1, 0xab52⟩, ⟨0xab69, 0xab69, 1, 0x28d⟩, ⟨0xab70, 0xabbf, 1, 0x13a0⟩]

/-- Runs of ideographs. -/
def foldIdeographRuns : List FoldRun := [
  ⟨0xf900, 0xf900, 1, 0x8c48⟩, ⟨0xf901, 0xf901, 1, 0x66f4⟩, ⟨0xf902, 0xf902, 1, 0x8eca⟩,
  ⟨0xf903, 0xf903, 1, 0x8cc8⟩, ⟨0xf904, 0xf904, 1, 0x6ed1⟩, ⟨0xf905, 0xf905, 1, 0x4e32⟩,
  ⟨0xf906, 0xf906, 1, 0x53e5⟩, ⟨0xf907, 0xf907, 1, 0x9f9c⟩, ⟨0xf908, 0xf908, 1, 0x9f9c⟩,
  ⟨0xf909, 0xf909, 1, 0x5951⟩, ⟨0xf90a, 0xf90a, 1, 0x91d1⟩, ⟨0xf90b, 0xf90b, 1, 0x5587⟩,
  ⟨0xf90c, 0xf90c, 1, 0x5948⟩, ⟨0xf90d, 0xf90d, 1, 0x61f6⟩, ⟨0xf90e, 0xf90e, 1, 0x7669⟩,
  ⟨0xf90f, 0xf90f, 1, 0x7f85⟩, ⟨0xf910, 0xf910, 1, 0x863f⟩, ⟨0xf911, 0xf911, 1, 0x87ba⟩,
  ⟨0xf912, 0xf912, 1, 0x88f8⟩, ⟨0xf913, 0xf913, 1, 0x908f⟩, ⟨0xf914, 0xf914, 1, 0x6a02⟩,
  ⟨0xf915, 0xf915, 1, 0x6d1b⟩, ⟨0xf916, 0xf916, 1, 0x70d9⟩, ⟨0xf917, 0xf917, 1, 0x73de⟩,
  ⟨0xf918, 0xf918, 1, 0x843d⟩, ⟨0xf919, 0xf919, 1, 0x916a⟩, ⟨0xf91a, 0xf91a, 1, 0x99f1⟩,
  ⟨0xf91b, 0xf91b, 1, 0x4e82⟩, ⟨0xf91c, 0xf91c, 1, 0x5375⟩, ⟨0xf91d, 0xf91d, 1, 0x6b04⟩,
  ⟨0xf91e, 0xf91e, 1, 0x721b⟩, ⟨0xf91f, 0xf91f, 1, 0x862d⟩, ⟨0xf920, 0xf920, 1, 0x9e1e⟩,
  ⟨0xf921, 0xf921, 1, 0x5d50⟩, ⟨0xf922, 0xf922, 1, 0x6feb⟩, ⟨0xf923, 0xf923, 1, 0x85cd⟩,
  ⟨0xf924, 0xf924, 1, 0x8964⟩, ⟨0xf925, 0xf925, 1, 0x62c9⟩, ⟨0xf926, 0xf926, 1, 0x81d8⟩,
  ⟨0xf927, 0xf927, 1, 0x881f⟩, ⟨0xf928, 0xf928, 1, 0x5eca⟩, ⟨0xf929, 0xf929, 1, 0x6717⟩,
  ⟨0xf92a, 0xf92a, 1, 0x6d6a⟩, ⟨0xf92b, 0xf92b, 1, 0x72fc⟩, ⟨0xf92c, 0xf92c, 1, 0x90ce⟩,
  ⟨0xf92d, 0xf92d, 1, 0x4f86⟩, ⟨0xf92e, 0xf92e, 1, 0x51b7⟩, ⟨0xf92f, 0xf92f, 1, 0x52de⟩,
  ⟨0xf930, 0xf930, 1, 0x64c4⟩, ⟨0xf931, 0xf931, 1, 0x6ad3⟩, ⟨0xf932, 0xf932, 1, 0x7210⟩,
  ⟨0xf933, 0xf933, 1, 0x76e7⟩, ⟨0xf934, 0xf934, 1, 0x8001⟩, ⟨0xf935, 0xf935, 1, 0x8606⟩,
  ⟨0xf936, 0xf936, 1, 0x865c⟩, ⟨0xf937, 0xf937, 1, 0x8def⟩, ⟨0xf938, 0xf938, 1, 0x9732⟩,
  ⟨0xf939, 0xf939, 1, 0x9b6f⟩, ⟨0xf93a, 0xf93a, 1, 0x9dfa⟩, ⟨0xf93b, 0xf93b, 1, 0x788c⟩,
  ⟨0xf93c, 0xf93c, 1, 0x797f⟩, ⟨0xf93d, 0xf93d, 1, 0x7da0⟩, ⟨0xf93e, 0xf93e, 1, 0x83c9⟩,
  ⟨0xf93f, 0xf93f, 1, 0x9304⟩, ⟨0xf940, 0xf940, 1, 0x9e7f⟩, ⟨0xf941, 0xf941, 1, 0x8ad6⟩,
  ⟨0xf942, 0xf942, 1, 0x58df⟩, ⟨0xf943, 0xf943, 1, 0x5f04⟩, ⟨0xf944, 0xf944, 1, 0x7c60⟩,
  ⟨0xf945, 0xf945, 1, 0x807e⟩, ⟨0xf946, 0xf946, 1, 0x7262⟩, ⟨0xf947, 0xf947, 1, 0x78ca⟩,
  ⟨0xf948, 0xf948, 1, 0x8cc2⟩, ⟨0xf949, 0xf949, 1, 0x96f7⟩, ⟨0xf94a, 0xf94a, 1, 0x58d8⟩,
  ⟨0xf94b, 0xf94b, 1, 0x5c62⟩, ⟨0xf94c, 0xf94c, 1, 0x6a13⟩, ⟨0xf94d, 0xf94d, 1, 0x6dda⟩,
  ⟨0xf94e, 0xf94e, 1, 0x6f0f⟩, ⟨0xf94f, 0xf94f, 1, 0x7d2f⟩, ⟨0xf950, 0xf950, 1, 0x7e37⟩,
  ⟨0xf951, 0xf951, 1, 0x964b⟩, ⟨0xf952, 0xf952, 1, 0x52d2⟩, ⟨0xf953, 0xf953, 1, 0x808b⟩,
  ⟨0xf954, 0xf954, 1, 0x51dc⟩, ⟨0xf955, 0xf955, 1, 0x51cc⟩, ⟨0xf956, 0xf956, 1, 0x7a1c⟩,
  ⟨0xf957, 0xf957, 1, 0x7dbe⟩, ⟨0xf958, 0xf958, 1, 0x83f1⟩, ⟨0xf959, 0xf959, 1, 0x9675⟩,
  ⟨0xf95a, 0xf95a, 1, 0x8b80⟩, ⟨0xf95b, 0xf95b, 1, 0x62cf⟩, ⟨0xf95c, 0xf95c, 1, 0x6a02⟩,
  ⟨0xf95d, 0xf95d, 1, 0x8afe⟩, ⟨0xf95e, 0xf95e, 1, 0x4e39⟩, ⟨0xf95f, 0xf95f, 1, 0x5be7⟩,
  ⟨0xf960, 0xf960, 1, 0x6012⟩, ⟨0xf961, 0xf961, 1, 0x7387⟩, ⟨0xf962, 0xf962, 1, 0x7570⟩,
  ⟨0xf963, 0xf963, 1, 0x5317⟩, ⟨0xf964, 0xf964, 1, 0x78fb⟩, ⟨0xf965, 0xf965, 1, 0x4fbf⟩,
  ⟨0xf966, 0xf966, 1, 0x5fa9⟩, ⟨0xf967, 0xf967, 1, 0x4e0d⟩, ⟨0xf968, 0xf968, 1, 0x6ccc⟩,
  ⟨0xf969, 0xf969, 1, 0x6578⟩, ⟨0xf96a, 0xf96a, 1, 0x7d22⟩, ⟨0xf96b, 0xf96b, 1, 0x53c3⟩,
  ⟨0xf96c, 0xf96c, 1, 0x585e⟩, ⟨0xf96d, 0xf96d, 1, 0x7701⟩, ⟨0xf96e, 0xf96e, 1, 0x8449⟩,
  ⟨0xf96f, 0xf96f, 1, 0x8aaa⟩, ⟨0xf970, 0xf970, 1, 0x6bba⟩, ⟨0xf971, 0xf971, 1, 0x8fb0⟩,
  ⟨0xf972, 0xf972, 1, 0x6c88⟩, ⟨0xf973, 0xf973, 1, 0x62fe⟩, ⟨0xf974, 0xf974, 1, 0x82e5⟩,
  ⟨0xf975, 0xf975, 1, 0x63a0⟩, ⟨0xf976, 0xf976, 1, 0x7565⟩, ⟨0xf977, 0xf977, 1, 0x4eae⟩,
  ⟨0xf978, 0xf978, 1, 0x5169⟩, ⟨0xf979, 0xf979, 1, 0x51c9⟩, ⟨0xf97a, 0xf97a, 1, 0x6881⟩,
  ⟨0xf97b, 0xf97b, 1, 0x7ce7⟩, ⟨0xf97c, 0xf97c, 1, 0x826f⟩, ⟨0xf97d, 0xf97d, 1, 0x8ad2⟩,
  ⟨0xf97e, 0xf97e, 1, 0x91cf⟩, ⟨0xf97f, 0xf97f, 1, 0x52f5⟩, ⟨0xf980, 0xf980, 1, 0x5442⟩,
  ⟨0xf981, 0xf981, 1, 0x5973⟩, ⟨0xf982, 0xf982, 1, 0x5eec⟩, ⟨0xf983, 0xf983, 1, 0x65c5⟩,
  ⟨0xf984, 0xf984, 1, 0x6ffe⟩, ⟨0xf985, 0xf985, 1, 0x792a⟩, ⟨0xf986, 0xf986, 1, 0x95ad⟩,
  ⟨0xf987, 0xf987, 1, 0x9a6a⟩, ⟨0xf988, 0xf988, 1, 0x9e97⟩, ⟨0xf989, 0xf989, 1, 0x9ece⟩,
  ⟨0xf98a, 0xf98a, 1, 0x529b⟩, ⟨0xf98b, 0xf98b, 1, 0x66c6⟩, ⟨0xf98c, 0xf98c, 1, 0x6b77⟩,
  ⟨0xf98d, 0xf98d, 1, 0x8f62⟩, ⟨0xf98e, 0xf98e, 1, 0x5e74⟩, ⟨0xf98f, 0xf98f, 1, 0x6190⟩,
  ⟨0xf990, 0xf990, 1, 0x6200⟩, ⟨0xf991, 0xf991, 1, 0x649a⟩, ⟨0xf992, 0xf992, 1, 0x6f23⟩,
  ⟨0xf993, 0xf993, 1, 0x7149⟩, ⟨0xf994, 0xf994, 1, 0x7489⟩, ⟨0xf995, 0xf995, 1, 0x79ca⟩,
  ⟨0xf996, 0xf996, 1, 0x7df4⟩, ⟨0xf997, 0xf997, 1, 0x806f⟩, ⟨0xf998, 0xf998, 1, 0x8f26⟩,
  ⟨0xf999, 0xf999, 1, 0x84ee⟩, ⟨0xf99a, 0xf99a, 1, 0x9023⟩, ⟨0xf99b, 0xf99b, 1, 0x934a⟩,
  ⟨0xf99c, 0xf99c, 1, 0x5217⟩, ⟨0xf99d, 0xf99d, 1, 0x52a3⟩, ⟨0xf99e, 0xf99e, 1, 0x54bd⟩,
  ⟨0xf99f, 0xf99f, 1, 0x70c8⟩, ⟨0xf9a0, 0xf9a0, 1, 0x88c2⟩, ⟨0xf9a1, 0xf9a1, 1, 0x8aaa⟩,
  ⟨0xf9a2, 0xf9a2, 1, 0x5ec9⟩, ⟨0xf9a3, 0xf9a3, 1, 0x5ff5⟩, ⟨0xf9a4, 0xf9a4, 1, 0x637b⟩,
  ⟨0xf9a5, 0xf9a5, 1, 0x6bae⟩, ⟨0xf9a6, 0xf9a6, 1, 0x7c3e⟩, ⟨0xf9a7, 0xf9a7, 1, 0x7375⟩,
  ⟨0xf9a8, 0xf9a8, 1, 0x4ee4⟩, ⟨0xf9a9, 0xf9a9, 1, 0x56f9⟩, ⟨0xf9aa, 0xf9aa, 1, 0x5be7⟩,
  ⟨0xf9ab, 0xf9ab, 1, 0x5dba⟩, ⟨0xf9ac, 0xf9ac, 1, 0x601c⟩, ⟨0xf9ad, 0xf9ad, 1, 0x73b2⟩,
  ⟨0xf9ae, 0xf9ae, 1, 0x7469⟩, ⟨0xf9af, 0xf9af, 1, 0x7f9a⟩, ⟨0xf9b0, 0xf9b0, 1, 0x8046⟩,
  ⟨0xf9b1, 0xf9b1, 1, 0x9234⟩, ⟨0xf9b2, 0xf9b2, 1, 0x96f6⟩, ⟨0xf9b3, 0xf9b3, 1, 0x9748⟩,
  ⟨0xf9b4, 0xf9b4, 1, 0x9818⟩, ⟨0xf9b5, 0xf9b5, 1, 0x4f8b⟩, ⟨0xf9b6, 0xf9b6, 1, 0x79ae⟩,
  ⟨0xf9b7, 0xf9b7, 1, 0x91b4⟩, ⟨0xf9b8, 0xf9b8, 1, 0x96b8⟩, ⟨0xf9b9, 0xf9b9, 1, 0x60e1⟩,
  ⟨0xf9ba, 0xf9ba, 1, 0x4e86⟩, ⟨0xf9bb, 0xf9bb, 1, 0x50da⟩, ⟨0xf9bc, 0xf9bc, 1, 0x5bee⟩,
  ⟨0xf9bd, 0xf9bd, 1, 0x5c3f⟩, ⟨0xf9be, 0xf9be, 1, 0x6599⟩, ⟨0xf9bf, 0xf9bf, 1, 0x6a02⟩,
  ⟨0xf9c0, 0xf9c0, 1, 0x71ce⟩, ⟨0xf9c1, 0xf9c1, 1, 0x7642⟩, ⟨0xf9c2, 0xf9c2, 1, 0x84fc⟩,
  ⟨0xf9c3, 0xf9c3, 1, 0x907c⟩, ⟨0xf9c4, 0xf9c4, 1, 0x9f8d⟩, ⟨0xf9c5, 0xf9c5, 1, 0x6688⟩,
  ⟨0xf9c6, 0xf9c6, 1, 0x962e⟩, ⟨0xf9c7, 0xf9c7, 1, 0x5289⟩, ⟨0xf9c8, 0xf9c8, 1, 0x677b⟩,
  ⟨0xf9c9, 0xf9c9, 1, 0x67f3⟩, ⟨0xf9ca, 0xf9ca, 1, 0x6d41⟩, ⟨0xf9cb, 0xf9cb, 1, 0x6e9c⟩,
  ⟨0xf9cc, 0xf9cc, 1, 0x7409⟩, ⟨0xf9cd, 0xf9cd, 1, 0x7559⟩, ⟨0xf9ce, 0xf9ce, 1, 0x786b⟩,
  ⟨0xf9cf, 0xf9cf, 1, 0x7d10⟩, ⟨0xf9d0, 0xf9d0, 1, 0x985e⟩, ⟨0xf9d1, 0xf9d1, 1, 0x516d⟩,
  ⟨0xf9d2, 0xf9d2, 1, 0x622e⟩, ⟨0xf9d3, 0xf9d3, 1, 0x9678⟩, ⟨0xf9d4, 0xf9d4, 1, 0x502b⟩,
  ⟨0xf9d5, 0xf9d5, 1, 0x5d19⟩, ⟨0xf9d6, 0xf9d6, 1, 0x6dea⟩, ⟨0xf9d7, 0xf9d7, 1, 0x8f2a⟩,
  ⟨0xf9d8, 0xf9d8, 1, 0x5f8b⟩, ⟨0xf9d9, 0xf9d9, 1, 0x6144⟩, ⟨0xf9da, 0xf9da, 1, 0x6817⟩,
  ⟨0xf9db, 0xf9db, 1, 0x7387⟩, ⟨0xf9dc, 0xf9dc, 1, 0x9686⟩, ⟨0xf9dd, 0xf9dd, 1, 0x5229⟩,
  ⟨0xf9de, 0xf9de, 1, 0x540f⟩, ⟨0xf9df, 0xf9df, 1, 0x5c65⟩, ⟨0xf9e0, 0xf9e0, 1, 0x6613⟩,
  ⟨0xf9e1, 0xf9e1, 1, 0x674e⟩, ⟨0xf9e2, 0xf9e2, 1, 0x68a8⟩, ⟨0xf9e3, 0xf9e3, 1, 0x6ce5⟩,
  ⟨0xf9e4, 0xf9e4, 1, 0x7406⟩, ⟨0xf9e5, 0xf9e5, 1, 0x75e2⟩, ⟨0xf9e6, 0xf9e6, 1, 0x7f79⟩,
  ⟨0xf9e7, 0xf9e7, 1, 0x88cf⟩, ⟨0xf9e8, 0xf9e8, 1, 0x88e1⟩, ⟨0xf9e9, 0xf9e9, 1, 0x91cc⟩,
  ⟨0xf9ea, 0xf9ea, 1, 0x96e2⟩, ⟨0xf9eb, 0xf9eb, 1, 0x533f⟩, ⟨0xf9ec, 0xf9ec, 1, 0x6eba⟩,
  ⟨0xf9ed, 0xf9ed, 1, 0x541d⟩, ⟨0xf9ee, 0xf9ee, 1, 0x71d0⟩, ⟨0xf9ef, 0xf9ef, 1, 0x7498⟩,
  ⟨0xf9f0, 0xf9f0, 1, 0x85fa⟩, ⟨0xf9f1, 0xf9f1, 1, 0x96a3⟩, ⟨0xf9f2, 0xf9f2, 1, 0x9c57⟩,
  ⟨0xf9f3, 0xf9f3, 1, 0x9e9f⟩, ⟨0xf9f4, 0xf9f4, 1, 0x6797⟩, ⟨0xf9f5, 0xf9f5, 1, 0x6dcb⟩,
  ⟨0xf9f6, 0xf9f6, 1, 0x81e8⟩, ⟨0xf9f7, 0xf9f7, 1, 0x7acb⟩, ⟨0xf9f8, 0xf9f8, 1, 0x7b20⟩,
  ⟨0xf9f9, 0xf9f9, 1, 0x7c92⟩, ⟨0xf9fa, 0xf9fa, 1, 0x72c0⟩, ⟨0xf9fb, 0xf9fb, 1, 0x7099⟩,
  ⟨0xf9fc, 0xf9fc, 1, 0x8b58⟩, ⟨0xf9fd, 0xf9fd, 1, 0x4ec0⟩, ⟨0xf9fe, 0xf9fe, 1, 0x8336⟩,
  ⟨0xf9ff, 0xf9ff, 1, 0x523a⟩, ⟨0xfa00, 0xfa00, 1, 0x5207⟩, ⟨0xfa01, 0xfa01, 1, 0x5ea6⟩,
  ⟨0xfa02, 0xfa02, 1, 0x62d3⟩, ⟨0xfa03, 0xfa03, 1, 0x7cd6⟩, ⟨0xfa04, 0xfa04, 1, 0x5b85⟩,
  ⟨0xfa05, 0xfa05, 1, 0x6d1e⟩, ⟨0xfa06, 0xfa06, 1, 0x66b4⟩, ⟨0xfa07, 0xfa07, 1, 0x8f3b⟩,
  ⟨0xfa08, 0xfa08, 1, 0x884c⟩, ⟨0xfa09, 0xfa09, 1, 0x964d⟩, ⟨0xfa0a, 0xfa0a, 1, 0x898b⟩,
  ⟨0xfa0b, 0xfa0b, 1, 0x5ed3⟩, ⟨0xfa0c, 0xfa0c, 1, 0x5140⟩, ⟨0xfa0d, 0xfa0d, 1, 0x55c0⟩,
  ⟨0xfa10, 0xfa10, 1, 0x585a⟩, ⟨0xfa12, 0xfa12, 1, 0x6674⟩, ⟨0xfa15, 0xfa15, 1, 0x51de⟩,
  ⟨0xfa16, 0xfa16, 1, 0x732a⟩, ⟨0xfa17, 0xfa17, 1, 0x76ca⟩, ⟨0xfa18, 0xfa18, 1, 0x793c⟩,
  ⟨0xfa19, 0xfa19, 1, 0x795e⟩, ⟨0xfa1a, 0xfa1a, 1, 0x7965⟩, ⟨0xfa1b, 0xfa1b, 1, 0x798f⟩,
  ⟨0xfa1c, 0xfa1c, 1, 0x9756⟩, ⟨0xfa1d, 0xfa1d, 1, 0x7cbe⟩, ⟨0xfa1e, 0xfa1e, 1, 0x7fbd⟩,
  ⟨0xfa20, 0xfa20, 1, 0x8612⟩, ⟨0xfa22, 0xfa22, 1, 0x8af8⟩, ⟨0xfa25, 0xfa25, 1, 0x9038⟩,
  ⟨0xfa26, 0xfa26, 1, 0x90fd⟩, ⟨0xfa2a, 0xfa2a, 1, 0x98ef⟩, ⟨0xfa2b, 0xfa2b, 1, 0x98fc⟩,
  ⟨0xfa2c, 0xfa2c, 1, 0x9928⟩, ⟨0xfa2d, 0xfa2d, 1, 0x9db4⟩, ⟨0xfa2e, 0xfa2e, 1, 0x90de⟩,
  ⟨0xfa2f, 0xfa2f, 1, 0x96b7⟩, ⟨0xfa30, 0xfa30, 1, 0x4fae⟩, ⟨0xfa31, 0xfa31, 1, 0x50e7⟩,
  ⟨0xfa32, 0xfa32, 1, 0x514d⟩, ⟨0xfa33, 0xfa33, 1, 0x52c9⟩, ⟨0xfa34, 0xfa34, 1, 0x52e4⟩,
  ⟨0xfa35, 0xfa35, 1, 0x5351⟩, ⟨0xfa36, 0xfa36, 1, 0x559d⟩, ⟨0xfa37, 0xfa37, 1, 0x5606⟩,
  ⟨0xfa38, 0xfa38, 1, 0x5668⟩, ⟨0xfa39, 0xfa39, 1, 0x5840⟩, ⟨0xfa3a, 0xfa3a, 1, 0x58a8⟩,
  ⟨0xfa3b, 0xfa3b, 1, 0x5c64⟩, ⟨0xfa3c, 0xfa3c, 1, 0x5c6e⟩, ⟨0xfa3d, 0xfa3d, 1, 0x6094⟩,
  ⟨0xfa3e, 0xfa3e, 1, 0x6168⟩, ⟨0xfa3f, 0xfa3f, 1, 0x618e⟩, ⟨0xfa40, 0xfa40, 1, 0x61f2⟩,
  ⟨0xfa41, 0xfa41, 1, 0x654f⟩, ⟨0xfa42, 0xfa42, 1, 0x65e2⟩, ⟨0xfa43, 0xfa43, 1, 0x6691⟩,
  ⟨0xfa44, 0xfa44, 1, 0x6885⟩, ⟨0xfa45, 0xfa45, 1, 0x6d77⟩, ⟨0xfa46, 0xfa46, 1, 0x6e1a⟩,
  ⟨0xfa47, 0xfa47, 1, 0x6f22⟩, ⟨0xfa48, 0xfa48, 1, 0x716e⟩, ⟨0xfa49, 0xfa49, 1, 0x722b⟩,
  ⟨0xfa4a, 0xfa4a, 1, 0x7422⟩, ⟨0xfa4b, 0xfa4b, 1, 0x7891⟩, ⟨0xfa4c, 0xfa4c, 1, 0x793e⟩,
  ⟨0xfa4d, 0xfa4d, 1, 0x7949⟩, ⟨0xfa4e, 0xfa4e, 1, 0x7948⟩, ⟨0xfa4f, 0xfa4f, 1, 0x7950⟩,
  ⟨0xfa50, 0xfa50, 1, 0x7956⟩, ⟨0xfa51, 0xfa51, 1, 0x795d⟩, ⟨0xfa52, 0xfa53, 1, 0x798d⟩,
  ⟨0xfa54, 0xfa54, 1, 0x7a40⟩, ⟨0xfa55, 0xfa55, 1, 0x7a81⟩, ⟨0xfa56, 0xfa56, 1, 0x7bc0⟩,
  ⟨0xfa57, 0xfa57, 1, 0x7df4⟩, ⟨0xfa58, 0xfa58, 1, 0x7e09⟩, ⟨0xfa59, 0xfa59, 1, 0x7e41⟩,
  ⟨0xfa5a, 0xfa5a, 1, 0x7f72⟩, ⟨0xfa5b, 0xfa5b, 1, 0x8005⟩, ⟨0xfa5c, 0xfa5c, 1, 0x81ed⟩,
  ⟨0xfa5d, 0xfa5d, 1, 0x8279⟩, ⟨0xfa5e, 0xfa5e, 1, 0x8279⟩, ⟨0xfa5f, 0xfa5f, 1, 0x8457⟩,
  ⟨0xfa60, 0xfa60, 1, 0x8910⟩, ⟨0xfa61, 0xfa61, 1, 0x8996⟩, ⟨0xfa62, 0xfa62, 1, 0x8b01⟩,
  ⟨0xfa63, 0xfa63, 1, 0x8b39⟩, ⟨0xfa64, 0xfa64, 1, 0x8cd3⟩, ⟨0xfa65, 0xfa65, 1, 0x8d08⟩,
  ⟨0xfa66, 0xfa66, 1, 0x8fb6⟩, ⟨0xfa67, 0xfa67, 1, 0x9038⟩, ⟨0xfa68, 0xfa68, 1, 0x96e3⟩,
  ⟨0xfa69, 0xfa69, 1, 0x97ff⟩, ⟨0xfa6a, 0xfa6a, 1, 0x983b⟩, ⟨0xfa6b, 0xfa6b, 1, 0x6075⟩,
  ⟨0xfa6c, 0xfa6c, 1, 0x242ee⟩, ⟨0xfa6d, 0xfa6d, 1, 0x8218⟩, ⟨0xfa70, 0xfa70, 1, 0x4e26⟩,
  ⟨0xfa71, 0xfa71, 1, 0x51b5⟩, ⟨0xfa72, 0xfa72, 1, 0x5168⟩, ⟨0xfa73, 0xfa73, 1, 0x4f80⟩,
  ⟨0xfa74, 0xfa74, 1, 0x5145⟩, ⟨0xfa75, 0xfa75, 1, 0x5180⟩, ⟨0xfa76, 0xfa76, 1, 0x52c7⟩,
  ⟨0xfa77, 0xfa77, 1, 0x52fa⟩, ⟨0xfa78, 0xfa78, 1, 0x559d⟩, ⟨0xfa79, 0xfa79, 1, 0x5555⟩,
  ⟨0xfa7a, 0xfa7a, 1, 0x5599⟩, ⟨0xfa7b, 0xfa7b, 1, 0x55e2⟩, ⟨0xfa7c, 0xfa7c, 1, 0x585a⟩,
  ⟨0xfa7d, 0xfa7d, 1, 0x58b3⟩, ⟨0xfa7e, 0xfa7e, 1, 0x5944⟩, ⟨0xfa7f, 0xfa7f, 1, 0x5954⟩,
  ⟨0xfa80, 0xfa80, 1, 0x5a62⟩, ⟨0xfa81, 0xfa81, 1, 0x5b28⟩, ⟨0xfa82, 0xfa82, 1, 0x5ed2⟩,
  ⟨0xfa83, 0xfa83, 1, 0x5ed9⟩, ⟨0xfa84, 0xfa84, 1, 0x5f69⟩, ⟨0xfa85, 0xfa85, 1, 0x5fad⟩,
  ⟨0xfa86, 0xfa86, 1, 0x60d8⟩, ⟨0xfa87, 0xfa87, 1, 0x614e⟩, ⟨0xfa88, 0xfa88, 1, 0x6108⟩,
  ⟨0xfa89, 0xfa89, 1, 0x618e⟩, ⟨0xfa8a, 0xfa8a, 1, 0x6160⟩, ⟨0xfa8b, 0xfa8b, 1, 0x61f2⟩,
  ⟨0xfa8c, 0xfa8c, 1, 0x6234⟩, ⟨0xfa8d, 0xfa8d, 1, 0x63c4⟩, ⟨0xfa8e, 0xfa8e, 1, 0x641c⟩,
  ⟨0xfa8f, 0xfa8f, 1, 0x6452⟩, ⟨0xfa90, 0xfa90, 1, 0x6556⟩, ⟨0xfa91, 0xfa91, 1, 0x6674⟩,
  ⟨0xfa92, 0xfa92, 1, 0x6717⟩, ⟨0xfa93, 0xfa93, 1, 0x671b⟩, ⟨0xfa94, 0xfa94, 1, 0x6756⟩,
  ⟨0xfa95, 0xfa95, 1, 0x6b79⟩, ⟨0xfa96, 0xfa96, 1, 0x6bba⟩, ⟨0xfa97, 0xfa97, 1, 0x6d41⟩,
  ⟨0xfa98, 0xfa98, 1, 0x6edb⟩, ⟨0xfa99, 0xfa99, 1, 0x6ecb⟩, ⟨0xfa9a, 0xfa9a, 1, 0x6f22⟩,
  ⟨0xfa9b, 0xfa9b, 1, 0x701e⟩, ⟨0xfa9c, 0xfa9c, 1, 0x716e⟩, ⟨0xfa9d, 0xfa9d, 1, 0x77a7⟩,
  ⟨0xfa9e, 0xfa9e, 1, 0x7235⟩, ⟨0xfa9f, 0xfa9f, 1, 0x72af⟩, ⟨0xfaa0, 0xfaa0, 1, 0x732a⟩,
  ⟨0xfaa1, 0xfaa1, 1, 0x7471⟩, ⟨0xfaa2, 0xfaa2, 1, 0x7506⟩, ⟨0xfaa3, 0xfaa3, 1, 0x753b⟩,
  ⟨0xfaa4, 0xfaa4, 1, 0x761d⟩, ⟨0xfaa5, 0xfaa5, 1, 0x761f⟩, ⟨0xfaa6, 0xfaa6, 1, 0x76ca⟩,
  ⟨0xfaa7, 0xfaa7, 1, 0x76db⟩, ⟨0xfaa8, 0xfaa8, 1, 0x76f4⟩, ⟨0xfaa9, 0xfaa9, 1, 0x774a⟩,
  ⟨0xfaaa, 0xfaaa, 1, 0x7740⟩, ⟨0xfaab, 0xfaab, 1, 0x78cc⟩, ⟨0xfaac, 0xfaac, 1, 0x7ab1⟩,
  ⟨0xfaad, 0xfaad, 1, 0x7bc0⟩, ⟨0xfaae, 0xfaae, 1, 0x7c7b⟩, ⟨0xfaaf, 0xfaaf, 1, 0x7d5b⟩,
  ⟨0xfab0, 0xfab0, 1, 0x7df4⟩, ⟨0xfab1, 0xfab1, 1, 0x7f3e⟩, ⟨0xfab2, 0xfab2, 1, 0x8005⟩,
  ⟨0xfab3, 0xfab3, 1, 0x8352⟩, ⟨0xfab4, 0xfab4, 1, 0x83ef⟩, ⟨0xfab5, 0xfab5, 1, 0x8779⟩,
  ⟨0xfab6, 0xfab6, 1, 0x8941⟩, ⟨0xfab7, 0xfab7, 1, 0x8986⟩, ⟨0xfab8, 0xfab8, 1, 0x8996⟩,
  ⟨0xfab9, 0xfab9, 1, 0x8abf⟩, ⟨0xfaba, 0xfaba, 1, 0x8af8⟩, ⟨0xfabb, 0xfabb, 1, 0x8acb⟩,
  ⟨0xfabc, 0xfabc, 1, 0x8b01⟩, ⟨0xfabd, 0xfabd, 1, 0x8afe⟩, ⟨0xfabe, 0xfabe, 1, 0x8aed⟩,
  ⟨0xfabf, 0xfabf, 1, 0x8b39⟩, ⟨0xfac0, 0xfac0, 1, 0x8b8a⟩, ⟨0xfac1, 0xfac1, 1, 0x8d08⟩,
  ⟨0xfac2, 0xfac2, 1, 0x8f38⟩, ⟨0xfac3, 0xfac3, 1, 0x9072⟩, ⟨0xfac4, 0xfac4, 1, 0x9199⟩,
  ⟨0xfac5, 0xfac5, 1, 0x9276⟩, ⟨0xfac6, 0xfac6, 1, 0x967c⟩, ⟨0xfac7, 0xfac7, 1, 0x96e3⟩,
  ⟨0xfac8, 0xfac8, 1, 0x9756⟩, ⟨0xfac9, 0xfac9, 1, 0x97db⟩, ⟨0xfaca, 0xfaca, 1, 0x97ff⟩,
  ⟨0xfacb, 0xfacb, 1, 0x980b⟩, ⟨0xfacc, 0xfacc, 1, 0x983b⟩, ⟨0xfacd, 0xfacd, 1, 0x9b12⟩,
  ⟨0xface, 0xface, 1, 0x9f9c⟩, ⟨0xfacf, 0xfacf, 1, 0x2284a⟩, ⟨0xfad0, 0xfad0, 1, 0x22844⟩,
  ⟨0xfad1, 0xfad1, 1, 0x233d5⟩, ⟨0xfad2, 0xfad2, 1, 0x3b9d⟩, ⟨0xfad3, 0xfad3, 1, 0x4018⟩,
  ⟨0xfad4, 0xfad4, 1, 0x4039⟩, ⟨0xfad5, 0xfad5, 1, 0x25249⟩, ⟨0xfad6, 0xfad6, 1, 0x25cd0⟩,
  ⟨0xfad7, 0xfad7, 1, 0x27ed3⟩, ⟨0xfad8, 0xfad8, 1, 0x9f43⟩, ⟨0xfad9, 0xfad9, 1, 0x9f8e⟩]

/-- Runs of presentation forms. -/
def foldFormRuns : List FoldRun := [
  ⟨0xfb20, 0xfb20, 1, 0x5e2⟩, ⟨0xfb21, 0xfb21, 1, 0x5d0⟩, ⟨0xfb22, 0xfb23, 1, 0x5d3⟩,
  ⟨0xfb24, 0xfb26, 1, 0x5db⟩, ⟨0xfb27, 0xfb27, 1, 0x5e8⟩, ⟨0xfb28, 0xfb28, 1, 0x5ea⟩,
  ⟨0xfb29, 0xfb29, 1, 0x2b⟩, ⟨0xfb50, 0xfb50, 1, 0x671⟩, ⟨0xfb51, 0xfb51, 1, 0x671⟩,
  ⟨0xfb52, 0xfb52, 1, 0x67b⟩, ⟨0xfb53, 0xfb53, 1, 0x67b⟩, ⟨0xfb54, 0xfb54, 1, 0x67b⟩,
  ⟨0xfb55, 0xfb55, 1, 0x67b⟩, ⟨0xfb56, 0xfb56, 1, 0x67e⟩, ⟨0xfb57, 0xfb57, 1, 0x67e⟩,
  ⟨0xfb58, 0xfb5a, 2, 0x67e⟩, ⟨0xfb59, 0xfb5b, 2, 0x67e⟩, ⟨0xfb5c, 0xfb5c, 1, 0x680⟩,
  ⟨0xfb5d, 0xfb5d, 1, 0x680⟩, ⟨0xfb5e, 0xfb5e, 1, 0x67a⟩, ⟨0xfb5f, 0xfb5f, 1, 0x67a⟩,
  ⟨0xfb60, 0xfb60, 1, 0x67a⟩, ⟨0xfb61, 0xfb61, 1, 0x67a⟩, ⟨0xfb62, 0xfb62, 1, 0x67f⟩,
  ⟨0xfb63, 0xfb63, 1, 0x67f⟩, ⟨0xfb64, 0xfb64, 1, 0x67f⟩, ⟨0xfb65, 0xfb65, 1, 0x67f⟩,
  ⟨0xfb66, 0xfb66, 1, 0x679⟩, ⟨0xfb67, 0xfb67, 1, 0x679⟩, ⟨0xfb68, 0xfb68, 1, 0x679⟩,
  ⟨0xfb69, 0xfb69, 1, 0x679⟩, ⟨0xfb6a, 0xfb6a, 1, 0x6a4⟩, ⟨0xfb6b, 0xfb6b, 1, 0x6a4⟩,
  ⟨0xfb6c, 0xfb6e, 2, 0x6a4⟩, ⟨0xfb6d, 0xfb6f, 2, 0x6a4⟩, ⟨0xfb70, 0xfb70, 1, 0x6a6⟩,
  ⟨0xfb71, 0xfb71, 1, 0x6a6⟩, ⟨0xfb72, 0xfb72, 1, 0x684⟩, ⟨0xfb73, 0xfb73, 1, 0x684⟩,
  ⟨0xfb74, 0xfb74, 1, 0x684⟩, ⟨0xfb75, 0xfb75, 1, 0x684⟩, ⟨0xfb76, 0xfb76, 1, 0x683⟩,
  ⟨0xfb77, 0xfb77, 1, 0x683⟩, ⟨0xfb78, 0xfb78, 1, 0x683⟩, ⟨0xfb79, 0xfb79, 1, 0x683⟩,
  ⟨0xfb7a, 0xfb7a, 1, 0x686⟩, ⟨0xfb7b, 0xfb7b, 1, 0x686⟩, ⟨0xfb7c, 0xfb7c, 1, 0x686⟩,
  ⟨0xfb7d, 0xfb7e, 1, 0x686⟩, ⟨0xfb7f, 0xfb7f, 1, 0x687⟩, ⟨0xfb80, 0xfb80, 1, 0x687⟩,
  ⟨0xfb81, 0xfb81, 1, 0x687⟩, ⟨0xfb82, 0xfb82, 1, 0x68d⟩, ⟨0xfb83, 0xfb83, 1, 0x68d⟩,
  ⟨0xfb84, 0xfb86, 2, 0x68c⟩, ⟨0xfb85, 0xfb87, 2, 0x68c⟩, ⟨0xfb88, 0xfb88, 1, 0x688⟩,
  ⟨0xfb89, 0xfb89, 1, 0x688⟩, ⟨0xfb8a, 0xfb8a, 1, 0x698⟩, ⟨0xfb8b, 0xfb8b, 1, 0x698⟩,
  ⟨0xfb8c, 0xfb8c, 1, 0x691⟩, ⟨0xfb8d, 0xfb8d, 1, 0x691⟩, ⟨0xfb8e, 0xfb8e, 1, 0x6a9⟩,
  ⟨0xfb8f, 0xfb8f, 1, 0x6a9⟩, ⟨0xfb90, 0xfb90, 1, 0x6a9⟩, ⟨0xfb91, 0xfb91, 1, 0x6a9⟩,
  ⟨0xfb92, 0xfb92, 1, 0x6af⟩, ⟨0xfb93, 0xfb93, 1, 0x6af⟩, ⟨0xfb94, 0xfb94, 1, 0x6af⟩,
  ⟨0xfb95, 0xfb95, 1, 0x6af⟩, ⟨0xfb96, 0xfb96, 1, 0x6b3⟩, ⟨0xfb97, 0xfb97, 1, 0x6b3⟩,
  ⟨0xfb98, 0xfb98, 1, 0x6b3⟩, ⟨0xfb99, 0xfb99, 1, 0x6b3⟩, ⟨0xfb9a, 0xfb9a, 1, 0x6b1⟩,
  ⟨0xfb9b, 0xfb9b, 1, 0x6b1⟩, ⟨0xfb9c, 0xfb9c, 1, 0x6b1⟩, ⟨0xfb9d, 0xfb9d, 1, 0x6b1⟩,
  ⟨0xfb9e, 0xfb9e, 1, 0x6ba⟩, ⟨0xfb9f, 0xfba0, 1, 0x6ba⟩, ⟨0xfba1, 0xfba1, 1, 0x6bb⟩,
  ⟨0xfba2, 0xfba2, 1, 0x6bb⟩, ⟨0xfba3, 0xfba3, 1, 0x6bb⟩, ⟨0xfba4, 0xfba4, 1, 0x6c0⟩,
  ⟨0xfba5, 0xfba6, 1, 0x6c0⟩, ⟨0xfba7, 0xfba7, 1, 0x6c1⟩, ⟨0xfba8, 0xfba8, 1, 0x6c1⟩,
  ⟨0xfba9, 0xfba9, 1, 0x6c1⟩, ⟨0xfbaa, 0xfbaa, 1, 0x6be⟩, ⟨0xfbab, 0xfbab, 1, 0x6be⟩,
  ⟨0xfbac, 0xfbac, 1, 0x6be⟩, ⟨0xfbad, 0xfbad, 1, 0x6be⟩, ⟨0xfbae, 0xfbae, 1, 0x6d2⟩,
  ⟨0xfbaf, 0xfbb0, 1, 0x6d2⟩, ⟨0xfbb1, 0xfbb1, 1, 0x6d3⟩, ⟨0xfbd3, 0xfbd3, 1, 0x6ad⟩,
  ⟨0xfbd4, 0xfbd4, 1, 0x6ad⟩, ⟨0xfbd5, 0xfbd5, 1, 0x6ad⟩, ⟨0xfbd6, 0xfbd6, 1, 0x6ad⟩,
  ⟨0xfbd7, 0xfbd7, 1, 0x6c7⟩, ⟨0xfbd8, 0xfbd8, 1, 0x6c7⟩, ⟨0xfbd9, 0xfbdb, 2, 0x6c6⟩,
  ⟨0xfbda, 0xfbdc, 2, 0x6c6⟩, ⟨0xfbde, 0xfbde, 1, 0x6cb⟩, ⟨0xfbdf, 0xfbdf, 1, 0x6cb⟩,
  ⟨0xfbe0, 0xfbe0, 1, 0x6c5⟩, ⟨0xfbe1, 0xfbe1, 1, 0x6c5⟩, ⟨0xfbe2, 0xfbe2, 1, 0x6c9⟩,
  ⟨0xfbe3, 0xfbe3, 1, 0x6c9⟩, ⟨0xfbe4, 0xfbe4, 1, 0x6d0⟩, ⟨0xfbe5, 0xfbe5, 1, 0x6d0⟩,
  ⟨0xfbe6, 0xfbe6, 1, 0x6d0⟩, ⟨0xfbe7, 0xfbe7, 1, 0x6d0⟩, ⟨0xfbe8, 0xfbe8, 1, 0x649⟩,
  ⟨0xfbe9, 0xfbe9, 1, 0x649⟩, ⟨0xfbfc, 0xfbfc, 1, 0x6cc⟩, ⟨0xfbfd, 0xfbfd, 1, 0x6cc⟩,
  ⟨0xfbfe, 0xfbfe, 1, 0x6cc⟩, ⟨0xfbff, 0xfbff, 1, 0x6cc⟩, ⟨0xfe10, 0xfe10, 1, 0x2c⟩,
  ⟨0xfe11, 0xfe12, 1, 0x3001⟩, ⟨0xfe13, 0xfe14, 1, 0x3a⟩, ⟨0xfe15, 0xfe15, 1, 0x21⟩,
  ⟨0xfe16, 0xfe16, 1, 0x3f⟩, ⟨0xfe17, 0xfe18, 1, 0x3016⟩, ⟨0xfe31, 0xfe31, 1, 0x2014⟩,
  ⟨0xfe32, 0xfe32, 1, 0x2013⟩, ⟨0xfe33, 0xfe33, 1, 0x5f⟩, ⟨0xfe34, 0xfe34, 1, 0x5f⟩,
  ⟨0xfe35, 0xfe36, 1, 0x28⟩, ⟨0xfe37, 0xfe37, 1, 0x7b⟩, ⟨0xfe38, 0xfe38, 1, 0x7d⟩,
  ⟨0xfe39, 0xfe3a, 1, 0x3014⟩, ⟨0xfe3b, 0xfe3c, 1, 0x3010⟩, ⟨0xfe3d, 0xfe3e, 1, 0x300a⟩,
  ⟨0xfe3f, 0xfe40, 1, 0x3008⟩, ⟨0xfe41, 0xfe44, 1, 0x300c⟩, ⟨0xfe47, 0xfe47, 1, 0x5b⟩,
  ⟨0xfe48, 0xfe48, 1, 0x5d⟩, ⟨0xfe4d, 0xfe4d, 1, 0x5f⟩, ⟨0xfe4e, 0xfe4e, 1, 0x5f⟩,
  ⟨0xfe4f, 0xfe4f, 1, 0x5f⟩, ⟨0xfe50, 0xfe52, 2, 0x2c⟩, ⟨0xfe51, 0xfe51, 1, 0x3001⟩,
  ⟨0xfe54, 0xfe54, 1, 0x3b⟩, ⟨0xfe55, 0xfe55, 1, 0x3a⟩, ⟨0xfe56, 0xfe56, 1, 0x3f⟩,
  ⟨0xfe57, 0xfe57, 1, 0x21⟩, ⟨0xfe58, 0xfe58, 1, 0x2014⟩, ⟨0xfe59, 0xfe5a, 1, 0x28⟩,
  ⟨0xfe5b, 0xfe5b, 1, 0x7b⟩, ⟨0xfe5c, 0xfe5c, 1, 0x7d⟩, ⟨0xfe5d, 0xfe5e, 1, 0x3014⟩,
  ⟨0xfe5f, 0xfe5f, 1, 0x23⟩, ⟨0xfe60, 0xfe60, 1, 0x26⟩, ⟨0xfe61, 0xfe62, 1, 0x2a⟩,
  ⟨0xfe63, 0xfe63, 1, 0x2d⟩, ⟨0xfe64, 0xfe64, 1, 0x3c⟩, ⟨0xfe65, 0xfe65, 1, 0x3e⟩,
  ⟨0xfe66, 0xfe66, 1, 0x3d⟩, ⟨0xfe68, 0xfe68, 1, 0x5c⟩, ⟨0xfe69, 0xfe6a, 1, 0x24⟩,
  ⟨0xfe6b, 0xfe6b, 1, 0x40⟩, ⟨0xfe80, 0xfe81, 1, 0x621⟩, ⟨0xfe82, 0xfe83, 1, 0x622⟩,
  ⟨0xfe84, 0xfe85, 1, 0x623⟩, ⟨0xfe86, 0xfe87, 1, 0x624⟩, ⟨0xfe88, 0xfe89, 1, 0x625⟩,
  ⟨0xfe8a, 0xfe8a, 1, 0x626⟩, ⟨0xfe8b, 0xfe8b, 1, 0x626⟩, ⟨0xfe8c, 0xfe8d, 1, 0x626⟩,
  ⟨0xfe8e, 0xfe8f, 1, 0x627⟩, ⟨0xfe90, 0xfe90, 1, 0x628⟩, ⟨0xfe91, 0xfe91, 1, 0x628⟩,
  ⟨0xfe92, 0xfe93, 1, 0x628⟩, ⟨0xfe94, 0xfe95, 1, 0x629⟩, ⟨0xfe96, 0xfe96, 1, 0x62a⟩,
  ⟨0xfe97, 0xfe97, 1, 0x62a⟩, ⟨0xfe98, 0xfe99, 1, 0x62a⟩, ⟨0xfe9a, 0xfe9a, 1, 0x62b⟩,
  ⟨0xfe9b, 0xfe9b, 1, 0x62b⟩, ⟨0xfe9c, 0xfe9d, 1, 0x62b⟩, ⟨0xfe9e, 0xfe9e, 1, 0x62c⟩,
  ⟨0xfe9f, 0xfe9f, 1, 0x62c⟩, ⟨0xfea0, 0xfea1, 1, 0x62c⟩, ⟨0xfea2, 0xfea2, 1, 0x62d⟩,
  ⟨0xfea3, 0xfea3, 1, 0x62d⟩, ⟨0xfea4, 0xfea5, 1, 0x62d⟩, ⟨0xfea6, 0xfea6, 1, 0x62e⟩,
  ⟨0xfea7, 0xfea7, 1, 0x62e⟩, ⟨0xfea8, 0xfea9, 1, 0x62e⟩, ⟨0xfeaa, 0xfeab, 1, 0x62f⟩,
  ⟨0xfeac, 0xfead, 1, 0x630⟩, ⟨0xfeae, 0xfeaf, 1, 0x631⟩, ⟨0xfeb0, 0xfeb1, 1, 0x632⟩,
  ⟨0xfeb2, 0xfeb2, 1, 0x633⟩, ⟨0xfeb3, 0xfeb3, 1, 0x633⟩, ⟨0xfeb4, 0xfeb5, 1, 0x633⟩,
  ⟨0xfeb6, 0xfeb6, 1, 0x634⟩, ⟨0xfeb7, 0xfeb7, 1, 0x634⟩, ⟨0xfeb8, 0xfeb9, 1, 0x634⟩,
  ⟨0xfeba, 0xfeba, 1, 0x635⟩, ⟨0xfebb, 0xfebb, 1, 0x635⟩, ⟨0xfebc, 0xfebd, 1, 0x635⟩,
  ⟨0xfebe, 0xfebe, 1, 0x636⟩, ⟨0xfebf, 0xfebf, 1, 0x636⟩, ⟨0xfec0, 0xfec1, 1, 0x636⟩,
  ⟨0xfec2, 0xfec2, 1, 0x637⟩, ⟨0xfec3, 0xfec3, 1, 0x637⟩, ⟨0xfec4, 0xfec5, 1, 0x637⟩,
  ⟨0xfec6, 0xfec6, 1, 0x638⟩, ⟨0xfec7, 0xfec7, 1, 0x638⟩, ⟨0xfec8, 0xfec9, 1, 0x638⟩,
  ⟨0xfeca, 0xfeca, 1, 0x639⟩, ⟨0xfecb, 0xfecb, 1, 0x639⟩, ⟨0xfecc, 0xfecd, 1, 0x639⟩,
  ⟨0xfece, 0xfece, 1, 0x63a⟩, ⟨0xfecf, 0xfecf, 1, 0x63a⟩, ⟨0xfed0, 0xfed0, 1, 0x63a⟩,
  ⟨0xfed1, 0xfed1, 1, 0x641⟩, ⟨0xfed2, 0xfed2, 1, 0x641⟩, ⟨0xfed3, 0xfed3, 1, 0x641⟩,
  ⟨0xfed4, 0xfed5, 1, 0x641⟩, ⟨0xfed6, 0xfed6, 1, 0x642⟩, ⟨0xfed7, 0xfed7, 1, 0x642⟩,
  ⟨0xfed8, 0xfed9, 1, 0x642⟩, ⟨0xfeda, 0xfeda, 1, 0x643⟩, ⟨0xfedb, 0xfedb, 1, 0x643⟩,
  ⟨0xfedc, 0xfedd, 1, 0x643⟩, ⟨0xfede, 0xfede, 1, 0x644⟩, ⟨0xfedf, 0xfedf, 1, 0x644⟩,
  ⟨0xfee0, 0xfee1, 1, 0x644⟩, ⟨0xfee2, 0xfee2, 1, 0x645⟩, ⟨0xfee3, 0xfee3, 1, 0x645⟩,
  ⟨0xfee4, 0xfee5, 1, 0x645⟩, ⟨0xfee6, 0xfee6, 1, 0x646⟩, ⟨0xfee7, 0xfee7, 1, 0x646⟩,
  ⟨0xfee8, 0xfee9, 1, 0x646⟩, ⟨0xfeea, 0xfeea, 1, 0x647⟩, ⟨0xfeeb, 0xfeeb, 1, 0x647⟩,
  ⟨0xfeec, 0xfeed, 1, 0x647⟩, ⟨0xfeee, 0xfeef, 1, 0x648⟩, ⟨0xfef0, 0xfef1, 1, 0x649⟩,
  ⟨0xfef2, 0xfef2, 1, 0x64a⟩, ⟨0xfef3, 0xfef3, 1, 0x64a⟩, ⟨0xfef4, 0xfef4, 1, 0x64a⟩,
  ⟨0xff01, 0xff20, 1, 0x21⟩, ⟨0xff21, 0xff3a, 1, 0x61⟩, ⟨0xff3b, 0xff5e, 1, 0x5b⟩,
  ⟨0xff5f, 0xff60, 1, 0x2985⟩, ⟨0xff61, 0xff61, 1, 0x2e⟩, ⟨0xff62, 0xff63, 1, 0x300c⟩,
  ⟨0xff64, 0xff64, 1, 0x3001⟩, ⟨0xff65, 0xff65, 1, 0x30fb⟩, ⟨0xff66, 0xff66, 1, 0x30f2⟩,
  ⟨0xff67, 0xff67, 1, 0x30a1⟩, ⟨0xff68, 0xff68, 1, 0x30a3⟩, ⟨0xff69, 0xff69, 1, 0x30a5⟩,
  ⟨0xff6a, 0xff6a, 1, 0x30a7⟩, ⟨0xff6b, 0xff6b, 1, 0x30a9⟩, ⟨0xff6c, 0xff6c, 1, 0x30e3⟩,
  ⟨0xff6d, 0xff6d, 1, 0x30e5⟩, ⟨0xff6e, 0xff6e, 1, 0x30e7⟩, ⟨0xff6f, 0xff6f, 1, 0x30c3⟩,
  ⟨0xff70, 0xff70, 1, 0x30fc⟩, ⟨0xff71, 0xff71, 1, 0x30a2⟩, ⟨0xff72, 0xff72, 1, 0x30a4⟩,
  ⟨0xff73, 0xff73, 1, 0x30a6⟩, ⟨0xff74, 0xff74, 1, 0x30a8⟩, ⟨0xff75, 0xff76, 1, 0x30aa⟩,
  ⟨0xff77, 0xff77, 1, 0x30ad⟩, ⟨0xff78, 0xff78, 1, 0x30af⟩, ⟨0xff79, 0xff79, 1, 0x30b1⟩,
  ⟨0xff7a, 0xff7a, 1, 0x30b3⟩, ⟨0xff7b, 0xff7b, 1, 0x30b5⟩, ⟨0xff7c, 0xff7c, 1, 0x30b7⟩,
  ⟨0xff7d, 0xff7d, 1, 0x30b9⟩, ⟨0xff7e, 0xff7e, 1, 0x30bb⟩, ⟨0xff7f, 0xff7f, 1, 0x30bd⟩,
  ⟨0xff80, 0xff80, 1, 0x30bf⟩, ⟨0xff81, 0xff81, 1, 0x30c1⟩, ⟨0xff82, 0xff82, 1, 0x30c4⟩,
  ⟨0xff83, 0xff83, 1, 0x30c6⟩, ⟨0xff84, 0xff84, 1, 0x30c8⟩, ⟨0xff85, 0xff8a, 1, 0x30ca⟩,
  ⟨0xff8b, 0xff8b, 1, 0x30d2⟩, ⟨0xff8c, 0xff8c, 1, 0x30d5⟩, ⟨0xff8d, 0xff8d, 1, 0x30d8⟩,
  ⟨0xff8e, 0xff8e, 1, 0x30db⟩, ⟨0xff8f, 0xff93, 1, 0x30de⟩, ⟨0xff94, 0xff94, 1, 0x30e4⟩,
  ⟨0xff95, 0xff95, 1, 0x30e6⟩, ⟨0xff96, 0xff9b, 1, 0x30e8⟩, ⟨0xff9c, 0xff9c, 1, 0x30ef⟩,
  ⟨0xff9d, 0xff9d, 1, 0x30f3⟩, ⟨0xff9e, 0xff9f, 1, 0x3099⟩, ⟨0xffa1, 0xffa2, 1, 0x1100⟩,
  ⟨0xffa3, 0xffa5, 2, 0x11aa⟩, ⟨0xffa4, 0xffa4, 1, 0x1102⟩, ⟨0xffa6, 0xffa6, 1, 0x11ad⟩,
  ⟨0xffa7, 0xffa9, 1, 0x1103⟩, ⟨0xffaa, 0xffaf, 1, 0x11b0⟩, ⟨0xffb0, 0xffb0, 1, 0x111a⟩,
  ⟨0xffb1, 0xffb3, 1, 0x1106⟩, ⟨0xffb4, 0xffb4, 1, 0x1121⟩, ⟨0xffb5, 0xffbe, 1, 0x1109⟩,
  ⟨0xffc2, 0xffc7, 1, 0x1161⟩, ⟨0xffca, 0xffcf, 1, 0x1167⟩, ⟨0xffd2, 0xffd7, 1, 0x116d⟩,
  ⟨0xffda, 0xffdc, 1, 0x1173⟩, ⟨0xffe0, 0xffe1, 1, 0xa2⟩, ⟨0xffe2, 0xffe2, 1, 0xac⟩,
  ⟨0xffe4, 0xffe4, 1, 0xa6⟩, ⟨0xffe5, 0xffe5, 1, 0xa5⟩, ⟨0xffe6, 0xffe6, 1, 0x20a9⟩,
  ⟨0xffe8, 0xffe8, 1, 0x2502⟩, ⟨0xffe9, 0xffec, 1, 0x2190⟩, ⟨0xffed, 0xffed, 1, 0x25a0⟩,
  ⟨0xffee, 0xffee, 1, 0x25cb⟩]

/-- Runs of characters beyond the first plane. -/
def foldAstralRuns : List FoldRun := [
  ⟨0x10400, 0x10427, 1, 0x10428⟩, ⟨0x104b0, 0x104d3, 1, 0x104d8⟩, ⟨0x10570, 0x10594, 2, 0x10597⟩,
  ⟨0x10571, 0x10579, 2, 0x10598⟩, ⟨0x1057d, 0x10589, 2, 0x105a4⟩, ⟨0x1058d, 0x10591, 2, 0x105b4⟩,
  ⟨0x10595, 0x10595, 1, 0x105bc⟩, ⟨0x10781, 0x10782, 1, 0x2d0⟩, ⟨0x10783, 0x10783, 1, 0xe6⟩,
  ⟨0x10784, 0x10784, 1, 0x299⟩, ⟨0x10785, 0x10785, 1, 0x253⟩, ⟨0x10787, 0x10789, 2, 0x2a3⟩,
  ⟨0x10788, 0x10788, 1, 0xab66⟩, ⟨0x1078a, 0x1078a, 1, 0x2a4⟩, ⟨0x1078b, 0x1078c, 1, 0x256⟩,
  ⟨0x1078d, 0x1078d, 1, 0x1d91⟩, ⟨0x1078e, 0x1078e, 1, 0x258⟩, ⟨0x1078f, 0x1078f, 1, 0x25e⟩,
  ⟨0x10790, 0x10790, 1, 0x2a9⟩, ⟨0x10791, 0x10791, 1, 0x264⟩, ⟨0x10792, 0x10792, 1, 0x262⟩,
  ⟨0x10793, 0x10793, 1, 0x260⟩, ⟨0x10794, 0x10794, 1, 0x29b⟩, ⟨0x10795, 0x10795, 1, 0x127⟩,
  ⟨0x10796, 0x10796, 1, 0x29c⟩, ⟨0x10797, 0x10797, 1, 0x267⟩, ⟨0x10798, 0x10798, 1, 0x284⟩,
  ⟨0x10799, 0x1079a, 1, 0x2aa⟩, ⟨0x1079b, 0x1079b, 1, 0x26c⟩, ⟨0x1079c, 0x1079c, 1, 0x1df04⟩,
  ⟨0x1079d, 0x1079d, 1, 0xa78e⟩, ⟨0x1079e, 0x1079e, 1, 0x26e⟩, ⟨0x1079f, 0x1079f, 1, 0x1df05⟩,
  ⟨0x107a0, 0x107a0, 1, 0x28e⟩, ⟨0x107a1, 0x107a1, 1, 0x1df06⟩, ⟨0x107a2, 0x107a2, 1, 0xf8⟩,
  ⟨0x107a3, 0x107a4, 1, 0x276⟩, ⟨0x107a5, 0x107a5, 1, 0x71⟩, ⟨0x107a6, 0x107a6, 1, 0x27a⟩,
  ⟨0x107a7, 0x107a7, 1, 0x1df08⟩, ⟨0x107a8, 0x107a9, 1, 0x27d⟩, ⟨0x107aa, 0x107aa, 1, 0x280⟩,
  ⟨0x107ab, 0x107ab, 1, 0x2a8⟩, ⟨0x107ac, 0x107ac, 1, 0x2a6⟩, ⟨0x107ad, 0x107ad, 1, 0xab67⟩,
  ⟨0x107ae, 0x107ae, 1, 0x2a7⟩, ⟨0x107af, 0x107af, 1, 0x288⟩, ⟨0x107b0, 0x107b0, 1, 0x2c71⟩,
  ⟨0x107b2, 0x107b2, 1, 0x28f⟩, ⟨0x107b3, 0x107b4, 1, 0x2a1⟩, ⟨0x107b5, 0x107b5, 1, 0x298⟩,
  ⟨0x107b6, 0x107b8, 1, 0x1c0⟩, ⟨0x107b9, 0x107b9, 1, 0x1df0a⟩, ⟨0x107ba, 0x107ba, 1, 0x1df1e⟩,
  ⟨0x10c80, 0x10cb2, 1, 0x10cc0⟩, ⟨0x118a0, 0x118bf, 1, 0x118c0⟩, ⟨0x16e40, 0x16e5f, 1, 0x16e60⟩,
  ⟨0x1d400, 0x1d419, 1, 0x61⟩, ⟨0x1d41a, 0x1d433, 1, 0x61⟩, ⟨0x1d434, 0x1d44d, 1, 0x61⟩,
  ⟨0x1d44e, 0x1d466, 2, 0x61⟩, ⟨0x1d44f, 0x1d453, 2, 0x62⟩, ⟨0x1d457, 0x1d467, 2, 0x6a⟩,
  ⟨0x1d468, 0x1d481, 1, 0x61⟩, ⟨0x1d482, 0x1d49b, 1, 0x61⟩, ⟨0x1d49c, 0x1d49e, 2, 0x61⟩,
  ⟨0x1d49f, 0x1d49f, 1, 0x64⟩, ⟨0x1d4a2, 0x1d4a2, 1, 0x67⟩, ⟨0x1d4a5, 0x1d4a6, 1, 0x6a⟩,
  ⟨0x1d4a9, 0x1d4ac, 1, 0x6e⟩, ⟨0x1d4ae, 0x1d4b5, 1, 0x73⟩, ⟨0x1d4b6, 0x1d4b9, 1, 0x61⟩,
  ⟨0x1d4bb, 0x1d4cf, 2, 0x66⟩, ⟨0x1d4be, 0x1d4c2, 2, 0x69⟩, ⟨0x1d4c6, 0x1d4ce, 2, 0x71⟩,
  ⟨0x1d4d0, 0x1d4e9, 1, 0x61⟩, ⟨0x1d4ea, 0x1d503, 1, 0x61⟩, ⟨0x1d504, 0x1d505, 1, 0x61⟩,
  ⟨0x1d507, 0x1d50a, 1, 0x64⟩, ⟨0x1d50d, 0x1d514, 1, 0x6a⟩, ⟨0x1d516, 0x1d51c, 1, 0x73⟩,
  ⟨0x1d51e, 0x1d537, 1, 0x61⟩, ⟨0x1d538, 0x1d539, 1, 0x61⟩, ⟨0x1d53b, 0x1d53e, 1, 0x64⟩,
  ⟨0x1d540, 0x1d544, 1, 0x69⟩, ⟨0x1d546, 0x1d546, 1, 0x6f⟩, ⟨0x1d54a, 0x1d550, 1, 0x73⟩,
  ⟨0x1d552, 0x1d56b, 1, 0x61⟩, ⟨0x1d56c, 0x1d585, 1, 0x61⟩, ⟨0x1d586, 0x1d59f, 1, 0x61⟩,
  ⟨0x1d5a0, 0x1d5b9, 1, 0x61⟩, ⟨0x1d5ba, 0x1d5d3, 1, 0x61⟩, ⟨0x1d5d4, 0x1d5ed, 1, 0x61⟩,
  ⟨0x1d5ee, 0x1d607, 1, 0x61⟩, ⟨0x1d608, 0x1d621, 1, 0x61⟩, ⟨0x1d622, 0x1d63b, 1, 0x61⟩,
  ⟨0x1d63c, 0x1d655, 1, 0x61⟩, ⟨0x1d656, 0x1d66f, 1, 0x61⟩, ⟨0x1d670, 0x1d689, 1, 0x61⟩,
  ⟨0x1d68a, 0x1d6a3, 1, 0x61⟩, ⟨0x1d6a4, 0x1d6a4, 1, 0x131⟩, ⟨0x1d6a5, 0x1d6a5, 1, 0x237⟩,
  ⟨0x1d6a8, 0x1d6b8, 1, 0x3b1⟩, ⟨0x1d6b9, 0x1d6b9, 1, 0x3b8⟩, ⟨0x1d6ba, 0x1d6c0, 1, 0x3c3⟩,
  ⟨0x1d6c1, 0x1d6c1, 1, 0x2207⟩, ⟨0x1d6c2, 0x1d6d2, 1, 0x3b1⟩, ⟨0x1d6d3, 0x1d6d3, 1, 0x3c3⟩,
  ⟨0x1d6d4, 0x1d6da, 1, 0x3c3⟩, ⟨0x1d6db, 0x1d6db, 1, 0x2202⟩, ⟨0x1d6dc, 0x1d6dc, 1, 0x3b5⟩,
  ⟨0x1d6dd, 0x1d6dd, 1, 0x3b8⟩, ⟨0x1d6de, 0x1d6de, 1, 0x3ba⟩, ⟨0x1d6df, 0x1d6df, 1, 0x3c6⟩,
  ⟨0x1d6e0, 0x1d6e0, 1, 0x3c1⟩, ⟨0x1d6e1, 0x1d6e1, 1, 0x3c0⟩, ⟨0x1d6e2, 0x1d6f2, 1, 0x3b1⟩,
  ⟨0x1d6f3, 0x1d6f3, 1, 0x3b8⟩, ⟨0x1d6f4, 0x1d6fa, 1, 0x3c3⟩, ⟨0x1d6fb, 0x1d6fb, 1, 0x2207⟩,
  ⟨0x1d6fc, 0x1d70c, 1, 0x3b1⟩, ⟨0x1d70d, 0x1d70d, 1, 0x3c3⟩, ⟨0x1d70e, 0x1d714, 1, 0x3c3⟩,
  ⟨0x1d715, 0x1d715, 1, 0x2202⟩, ⟨0x1d716, 0x1d716, 1, 0x3b5⟩, ⟨0x1d717, 0x1d717, 1, 0x3b8⟩,
  ⟨0x1d718, 0x1d718, 1, 0x3ba⟩, ⟨0x1d719, 0x1d719, 1, 0x3c6⟩, ⟨0x1d71a, 0x1d71a, 1, 0x3c1⟩,
  ⟨0x1d71b, 0x1d71b, 1, 0x3c0⟩, ⟨0x1d71c, 0x1d72c, 1, 0x3b1⟩, ⟨0x1d72d, 0x1d72d, 1, 0x3b8⟩,
  ⟨0x1d72e, 0x1d734, 1, 0x3c3⟩, ⟨0x1d735, 0x1d735, 1, 0x2207⟩, ⟨0x1d736, 0x1d746, 1, 0x3b1⟩,
  ⟨0x1d747, 0x1d747, 1, 0x3c3⟩, ⟨0x1d748, 0x1d74e, 1, 0x3c3⟩, ⟨0x1d74f, 0x1d74f, 1, 0x2202⟩,
  ⟨0x1d750, 0x1d750, 1, 0x3b5⟩, ⟨0x1d751, 0x1d751, 1, 0x3b8⟩, ⟨0x1d752, 0x1d752, 1, 0x3ba⟩,
  ⟨0x1d753, 0x1d753, 1, 0x3c6⟩, ⟨0x1d754, 0x1d754, 1, 0x3c1⟩, ⟨0x1d755, 0x1d755, 1, 0x3c0⟩,
  ⟨0x1d756, 0x1d766, 1, 0x3b1⟩, ⟨0x1d767, 0x1d767, 1, 0x3b8⟩, ⟨0x1d768, 0x1d76e, 1, 0x3c3⟩,
  ⟨0x1d76f, 0x1d76f, 1, 0x2207⟩, ⟨0x1d770, 0x1d780, 1, 0x3b1⟩, ⟨0x1d781, 0x1d781, 1, 0x3c3⟩,
  ⟨0x1d782, 0x1d788, 1, 0x3c3⟩, ⟨0x1d789, 0x1d789, 1, 0x2202⟩, ⟨0x1d78a, 0x1d78a, 1, 0x3b5⟩,
  ⟨0x1d78b, 0x1d78b, 1, 0x3b8⟩, ⟨0x1d78c, 0x1d78c, 1, 0x3ba⟩, ⟨0x1d78d, 0x1d78d, 1, 0x3c6⟩,
  ⟨0x1d78e, 0x1d78e, 1, 0x3c1⟩, ⟨0x1d78f, 0x1d78f, 1, 0x3c0⟩, ⟨0x1d790, 0x1d7a0, 1, 0x3b1⟩,
  ⟨0x1d7a1, 0x1d7a1, 1, 0x3b8⟩, ⟨0x1d7a2, 0x1d7a8, 1, 0x3c3⟩, ⟨0x1d7a9, 0x1d7a9, 1, 0x2207⟩,
  ⟨0x1d7aa, 0x1d7ba, 1, 0x3b1⟩, ⟨0x1d7bb, 0x1d7bb, 1, 0x3c3⟩, ⟨0x1d7bc, 0x1d7c2, 1, 0x3c3⟩,
  ⟨0x1d7c3, 0x1d7c3, 1, 0x2202⟩, ⟨0x1d7c4, 0x1d7c4, 1, 0x3b5⟩, ⟨0x1d7c5, 0x1d7c5, 1, 0x3b8⟩,
  ⟨0x1d7c6, 0x1d7c6, 1, 0x3ba⟩, ⟨0x1d7c7, 0x1d7c7, 1, 0x3c6⟩, ⟨0x1d7c8, 0x1d7c8, 1, 0x3c1⟩,
  ⟨0x1d7c9, 0x1d7c9, 1, 0x3c0⟩, ⟨0x1d7ca, 0x1d7ca, 1, 0x3dd⟩, ⟨0x1d7cb, 0x1d7cb, 1, 0x3dd⟩,
  ⟨0x1d7ce, 0x1d7d7, 1, 0x30⟩, ⟨0x1d7d8, 0x1d7e1, 1, 0x30⟩, ⟨0x1d7e2, 0x1d7eb, 1, 0x30⟩,
  ⟨0x1d7ec, 0x1d7f5, 1, 0x30⟩, ⟨0x1d7f6, 0x1d7ff, 1, 0x30⟩, ⟨0x1e900, 0x1e921, 1, 0x1e922⟩,
  ⟨0x1ee00, 0x1ee01, 1, 0x627⟩, ⟨0x1ee02, 0x1ee02, 1, 0x62c⟩, ⟨0x1ee03, 0x1ee03, 1, 0x62f⟩,
  ⟨0x1ee05, 0x1ee05, 1, 0x648⟩, ⟨0x1ee06, 0x1ee06, 1, 0x632⟩, ⟨0x1ee07, 0x1ee07, 1, 0x62d⟩,
  ⟨0x1ee08, 0x1ee08, 1, 0x637⟩, ⟨0x1ee09, 0x1ee09, 1, 0x64a⟩, ⟨0x1ee0a, 0x1ee0d, 1, 0x643⟩,
  ⟨0x1ee0e, 0x1ee0e, 1, 0x633⟩, ⟨0x1ee0f, 0x1ee0f, 1, 0x639⟩, ⟨0x1ee10, 0x1ee10, 1, 0x641⟩,
  ⟨0x1ee11, 0x1ee11, 1, 0x635⟩, ⟨0x1ee12, 0x1ee12, 1, 0x642⟩, ⟨0x1ee13, 0x1ee13, 1, 0x631⟩,
  ⟨0x1ee14, 0x1ee14, 1, 0x634⟩, ⟨0x1ee15, 0x1ee16, 1, 0x62a⟩, ⟨0x1ee17, 0x1ee17, 1, 0x62e⟩,
  ⟨0x1ee18, 0x1ee18, 1, 0x630⟩, ⟨0x1ee19, 0x1ee19, 1, 0x636⟩, ⟨0x1ee1a, 0x1ee1a, 1, 0x638⟩,
  ⟨0x1ee1b, 0x1ee1b, 1, 0x63a⟩, ⟨0x1ee1c, 0x1ee1c, 1, 0x66e⟩, ⟨0x1ee1d, 0x1ee1d, 1, 0x6ba⟩,
  ⟨0x1ee1e, 0x1ee1e, 1, 0x6a1⟩, ⟨0x1ee1f, 0x1ee1f, 1, 0x66f⟩, ⟨0x1ee21, 0x1ee21, 1, 0x628⟩,
  ⟨0x1ee22, 0x1ee22, 1, 0x62c⟩, ⟨0x1ee24, 0x1ee24, 1, 0x647⟩, ⟨0x1ee27, 0x1ee27, 1, 0x62d⟩,
  ⟨0x1ee29, 0x1ee29, 1, 0x64a⟩, ⟨0x1ee2a, 0x1ee2d, 1, 0x643⟩, ⟨0x1ee2e, 0x1ee2e, 1, 0x633⟩,
  ⟨0x1ee2f, 0x1ee2f, 1, 0x639⟩, ⟨0x1ee30, 0x1ee30, 1, 0x641⟩, ⟨0x1ee31, 0x1ee31, 1, 0x635⟩,
  ⟨0x1ee32, 0x1ee32, 1, 0x642⟩, ⟨0x1ee34, 0x1ee34, 1, 0x634⟩, ⟨0x1ee35, 0x1ee36, 1, 0x62a⟩,
  ⟨0x1ee37, 0x1ee37, 1, 0x62e⟩, ⟨0x1ee39, 0x1ee39, 1, 0x636⟩, ⟨0x1ee3b, 0x1ee3b, 1, 0x63a⟩,
  ⟨0x1ee42, 0x1ee42, 1, 0x62c⟩, ⟨0x1ee47, 0x1ee47, 1, 0x62d⟩, ⟨0x1ee49, 0x1ee49, 1, 0x64a⟩,
  ⟨0x1ee4b, 0x1ee4d, 2, 0x644⟩, ⟨0x1ee4e, 0x1ee4e, 1, 0x633⟩, ⟨0x1ee4f, 0x1ee4f, 1, 0x639⟩,
  ⟨0x1ee51, 0x1ee51, 1, 0x635⟩, ⟨0x1ee52, 0x1ee52, 1, 0x642⟩, ⟨0x1ee54, 0x1ee54, 1, 0x634⟩,
  ⟨0x1ee57, 0x1ee57, 1, 0x62e⟩, ⟨0x1ee59, 0x1ee59, 1, 0x636⟩, ⟨0x1ee5b, 0x1ee5b, 1, 0x63a⟩,
  ⟨0x1ee5d, 0x1ee5d, 1, 0x6ba⟩, ⟨0x1ee5f, 0x1ee5f, 1, 0x66f⟩, ⟨0x1ee61, 0x1ee61, 1, 0x628⟩,
  ⟨0x1ee62, 0x1ee62, 1, 0x62c⟩, ⟨0x1ee64, 0x1ee64, 1, 0x647⟩, ⟨0x1ee67, 0x1ee67, 1, 0x62d⟩,
  ⟨0x1ee68, 0x1ee68, 1, 0x637⟩, ⟨0x1ee69, 0x1ee69, 1, 0x64a⟩, ⟨0x1ee6a, 0x1ee6c, 2, 0x643⟩,
  ⟨0x1ee6d, 0x1ee6d, 1, 0x646⟩, ⟨0x1ee6e, 0x1ee6e, 1, 0x633⟩, ⟨0x1ee6f, 0x1ee6f, 1, 0x639⟩,
  ⟨0x1ee70, 0x1ee70, 1, 0x641⟩, ⟨0x1ee71, 0x1ee71, 1, 0x635⟩, ⟨0x1ee72, 0x1ee72, 1, 0x642⟩,
  ⟨0x1ee74, 0x1ee74, 1, 0x634⟩, ⟨0x1ee75, 0x1ee76, 1, 0x62a⟩, ⟨0x1ee77, 0x1ee77, 1, 0x62e⟩,
  ⟨0x1ee79, 0x1ee79, 1, 0x636⟩, ⟨0x1ee7a, 0x1ee7a, 1, 0x638⟩, ⟨0x1ee7b, 0x1ee7b, 1, 0x63a⟩,
  ⟨0x1ee7c, 0x1ee7c, 1, 0x66e⟩, ⟨0x1ee7e, 0x1ee7e, 1, 0x6a1⟩, ⟨0x1ee80, 0x1ee81, 1, 0x627⟩,
  ⟨0x1ee82, 0x1ee82, 1, 0x62c⟩, ⟨0x1ee83, 0x1ee83, 1, 0x62f⟩, ⟨0x1ee84, 0x1ee85, 1, 0x647⟩,
  ⟨0x1ee86, 0x1ee86, 1, 0x632⟩, ⟨0x1ee87, 0x1ee87, 1, 0x62d⟩, ⟨0x1ee88, 0x1ee88, 1, 0x637⟩,
  ⟨0x1ee89, 0x1ee89, 1, 0x64a⟩, ⟨0x1ee8b, 0x1ee8d, 1, 0x644⟩, ⟨0x1ee8e, 0x1ee8e, 1, 0x633⟩,
  ⟨0x1ee8f, 0x1ee8f, 1, 0x639⟩, ⟨0x1ee90, 0x1ee90, 1, 0x641⟩, ⟨0x1ee91, 0x1ee91, 1, 0x635⟩,
  ⟨0x1ee92, 0x1ee92, 1, 0x642⟩, ⟨0x1ee93, 0x1ee93, 1, 0x631⟩, ⟨0x1ee94, 0x1ee94, 1, 0x634⟩,
  ⟨0x1ee95, 0x1ee96, 1, 0x62a⟩, ⟨0x1ee97, 0x1ee97, 1, 0x62e⟩, ⟨0x1ee98, 0x1ee98, 1, 0x630⟩,
  ⟨0x1ee99, 0x1ee99, 1, 0x636⟩, ⟨0x1ee9a, 0x1ee9a, 1, 0x638⟩, ⟨0x1ee9b, 0x1ee9b, 1, 0x63a⟩,
  ⟨0x1eea1, 0x1eea1, 1, 0x628⟩, ⟨0x1eea2, 0x1eea2, 1, 0x62c⟩, ⟨0x1eea3, 0x1eea3, 1, 0x62f⟩,
  ⟨0x1eea5, 0x1eea5, 1, 0x648⟩, ⟨0x1eea6, 0x1eea6, 1, 0x632⟩, ⟨0x1eea7, 0x1eea7, 1, 0x62d⟩,
  ⟨0x1eea8, 0x1eea8, 1, 0x637⟩, ⟨0x1eea9, 0x1eea9, 1, 0x64a⟩, ⟨0x1eeab, 0x1eead, 1, 0x644⟩,
  ⟨0x1eeae, 0x1eeae, 1, 0x633⟩, ⟨0x1eeaf, 0x1eeaf, 1, 0x639⟩, ⟨0x1eeb0, 0x1eeb0, 1, 0x641⟩,
  ⟨0x1eeb1, 0x1eeb1, 1, 0x635⟩, ⟨0x1eeb2, 0x1eeb2, 1, 0x642⟩, ⟨0x1eeb3, 0x1eeb3, 1, 0x631⟩,
  ⟨0x1eeb4, 0x1eeb4, 1, 0x634⟩, ⟨0x1eeb5, 0x1eeb6, 1, 0x62a⟩, ⟨0x1eeb7, 0x1eeb7, 1, 0x62e⟩,
  ⟨0x1eeb8, 0x1eeb8, 1, 0x630⟩, ⟨0x1eeb9, 0x1eeb9, 1, 0x636⟩, ⟨0x1eeba, 0x1eeba, 1, 0x638⟩,
  ⟨0x1eebb, 0x1eebb, 1, 0x63a⟩, ⟨0x1f12b, 0x1f12b, 1, 0x63⟩, ⟨0x1f12c, 0x1f12c, 1, 0x72⟩,
  ⟨0x1f130, 0x1f149, 1, 0x61⟩, ⟨0x1f202, 0x1f202, 1, 0x30b5⟩, ⟨0x1f210, 0x1f210, 1, 0x624b⟩,
  ⟨0x1f211, 0x1f211, 1, 0x5b57⟩, ⟨0x1f212, 0x1f212, 1, 0x53cc⟩, ⟨0x1f213, 0x1f213, 1, 0x30c7⟩,
  ⟨0x1f214, 0x1f214, 1, 0x4e8c⟩, ⟨0x1f215, 0x1f215, 1, 0x591a⟩, ⟨0x1f216, 0x1f216, 1, 0x89e3⟩,
  ⟨0x1f217, 0x1f217, 1, 0x5929⟩, ⟨0x1f218, 0x1f218, 1, 0x4ea4⟩, ⟨0x1f219, 0x1f219, 1, 0x6620⟩,
  ⟨0x1f21a, 0x1f21a, 1, 0x7121⟩, ⟨0x1f21b, 0x1f21b, 1, 0x6599⟩, ⟨0x1f21c, 0x1f21c, 1, 0x524d⟩,
  ⟨0x1f21d, 0x1f21d, 1, 0x5f8c⟩, ⟨0x1f21e, 0x1f21e, 1, 0x518d⟩, ⟨0x1f21f, 0x1f21f, 1, 0x65b0⟩,
  ⟨0x1f220, 0x1f220, 1, 0x521d⟩, ⟨0x1f221, 0x1f221, 1, 0x7d42⟩, ⟨0x1f222, 0x1f222, 1, 0x751f⟩,
  ⟨0x1f223, 0x1f223, 1, 0x8ca9⟩, ⟨0x1f224, 0x1f224, 1, 0x58f0⟩, ⟨0x1f225, 0x1f225, 1, 0x5439⟩,
  ⟨0x1f226, 0x1f226, 1, 0x6f14⟩, ⟨0x1f227, 0x1f227, 1, 0x6295⟩, ⟨0x1f228, 0x1f228, 1, 0x6355⟩,
  ⟨0x1f229, 0x1f229, 1, 0x4e00⟩, ⟨0x1f22a, 0x1f22a, 1, 0x4e09⟩, ⟨0x1f22b, 0x1f22b, 1, 0x904a⟩,
  ⟨0x1f22c, 0x1f22c, 1, 0x5de6⟩, ⟨0x1f22d, 0x1f22d, 1, 0x4e2d⟩, ⟨0x1f22e, 0x1f22e, 1, 0x53f3⟩,
  ⟨0x1f22f, 0x1f22f, 1, 0x6307⟩, ⟨0x1f230, 0x1f230, 1, 0x8d70⟩, ⟨0x1f231, 0x1f231, 1, 0x6253⟩,
  ⟨0x1f232, 0x1f232, 1, 0x7981⟩, ⟨0x1f233, 0x1f233, 1, 0x7a7a⟩, ⟨0x1f234, 0x1f234, 1, 0x5408⟩,
  ⟨0x1f235, 0x1f235, 1, 0x6e80⟩, ⟨0x1f236, 0x1f236, 1, 0x6709⟩, ⟨0x1f237, 0x1f237, 1, 0x6708⟩,
  ⟨0x1f238, 0x1f238, 1, 0x7533⟩, ⟨0x1f239, 0x1f239, 1, 0x5272⟩, ⟨0x1f23a, 0x1f23a, 1, 0x55b6⟩,
  ⟨0x1f23b, 0x1f23b, 1, 0x914d⟩, ⟨0x1f250, 0x1f250, 1, 0x5f97⟩, ⟨0x1f251, 0x1f251, 1, 0x53ef⟩,
  ⟨0x1fbf0, 0x1fbf9, 1, 0x30⟩, ⟨0x2f800, 0x2f800, 1, 0x4e3d⟩, ⟨0x2f801, 0x2f801, 1, 0x4e38⟩,
  ⟨0x2f802, 0x2f802, 1, 0x4e41⟩, ⟨0x2f803, 0x2f803, 1, 0x20122⟩, ⟨0x2f804, 0x2f804, 1, 0x4f60⟩,
  ⟨0x2f805, 0x2f805, 1, 0x4fae⟩, ⟨0x2f806, 0x2f806, 1, 0x4fbb⟩, ⟨0x2f807, 0x2f807, 1, 0x5002⟩,
  ⟨0x2f808, 0x2f808, 1, 0x507a⟩, ⟨0x2f809, 0x2f809, 1, 0x5099⟩, ⟨0x2f80a, 0x2f80a, 1, 0x50e7⟩,
  ⟨0x2f80b, 0x2f80b, 1, 0x50cf⟩, ⟨0x2f80c, 0x2f80c, 1, 0x349e⟩, ⟨0x2f80d, 0x2f80d, 1, 0x2063a⟩,
  ⟨0x2f80e, 0x2f80e, 1, 0x514d⟩, ⟨0x2f80f, 0x2f80f, 1, 0x5154⟩, ⟨0x2f810, 0x2f810, 1, 0x5164⟩,
  ⟨0x2f811, 0x2f811, 1, 0x5177⟩, ⟨0x2f812, 0x2f812, 1, 0x2051c⟩, ⟨0x2f813, 0x2f813, 1, 0x34b9⟩,
  ⟨0x2f814, 0x2f814, 1, 0x5167⟩, ⟨0x2f815, 0x2f815, 1, 0x518d⟩, ⟨0x2f816, 0x2f816, 1, 0x2054b⟩,
  ⟨0x2f817, 0x2f817, 1, 0x5197⟩, ⟨0x2f818, 0x2f818, 1, 0x51a4⟩, ⟨0x2f819, 0x2f819, 1, 0x4ecc⟩,
  ⟨0x2f81a, 0x2f81a, 1, 0x51ac⟩, ⟨0x2f81b, 0x2f81b, 1, 0x51b5⟩, ⟨0x2f81c, 0x2f81c, 1, 0x291df⟩,
  ⟨0x2f81d, 0x2f81d, 1, 0x51f5⟩, ⟨0x2f81e, 0x2f81e, 1, 0x5203⟩, ⟨0x2f81f, 0x2f81f, 1, 0x34df⟩,
  ⟨0x2f820, 0x2f820, 1, 0x523b⟩, ⟨0x2f821, 0x2f821, 1, 0x5246⟩, ⟨0x2f822, 0x2f822, 1, 0x5272⟩,
  ⟨0x2f823, 0x2f823, 1, 0x5277⟩, ⟨0x2f824, 0x2f824, 1, 0x3515⟩, ⟨0x2f825, 0x2f825, 1, 0x52c7⟩,
  ⟨0x2f826, 0x2f826, 1, 0x52c9⟩, ⟨0x2f827, 0x2f827, 1, 0x52e4⟩, ⟨0x2f828, 0x2f828, 1, 0x52fa⟩,
  ⟨0x2f829, 0x2f82a, 1, 0x5305⟩, ⟨0x2f82b, 0x2f82b, 1, 0x5317⟩, ⟨0x2f82c, 0x2f82c, 1, 0x5349⟩,
  ⟨0x2f82d, 0x2f82d, 1, 0x5351⟩, ⟨0x2f82e, 0x2f82e, 1, 0x535a⟩, ⟨0x2f82f, 0x2f82f, 1, 0x5373⟩,
  ⟨0x2f830, 0x2f832, 2, 0x537d⟩, ⟨0x2f831, 0x2f831, 1, 0x537f⟩, ⟨0x2f833, 0x2f833, 1, 0x537f⟩,
  ⟨0x2f834, 0x2f834, 1, 0x20a2c⟩, ⟨0x2f835, 0x2f835, 1, 0x7070⟩, ⟨0x2f836, 0x2f836, 1, 0x53ca⟩,
  ⟨0x2f837, 0x2f837, 1, 0x53df⟩, ⟨0x2f838, 0x2f838, 1, 0x20b63⟩, ⟨0x2f839, 0x2f839, 1, 0x53eb⟩,
  ⟨0x2f83a, 0x2f83a, 1, 0x53f1⟩, ⟨0x2f83b, 0x2f83b, 1, 0x5406⟩, ⟨0x2f83c, 0x2f83c, 1, 0x549e⟩,
  ⟨0x2f83d, 0x2f83d, 1, 0x5438⟩, ⟨0x2f83e, 0x2f83e, 1, 0x5448⟩, ⟨0x2f83f, 0x2f83f, 1, 0x5468⟩,
  ⟨0x2f840, 0x2f840, 1, 0x54a2⟩, ⟨0x2f841, 0x2f841, 1, 0x54f6⟩, ⟨0x2f842, 0x2f842, 1, 0x5510⟩,
  ⟨0x2f843, 0x2f843, 1, 0x5553⟩, ⟨0x2f844, 0x2f844, 1, 0x5563⟩, ⟨0x2f845, 0x2f845, 1, 0x5584⟩,
  ⟨0x2f846, 0x2f846, 1, 0x5584⟩, ⟨0x2f847, 0x2f847, 1, 0x5599⟩, ⟨0x2f848, 0x2f848, 1, 0x55ab⟩,
  ⟨0x2f849, 0x2f849, 1, 0x55b3⟩, ⟨0x2f84a, 0x2f84a, 1, 0x55c2⟩, ⟨0x2f84b, 0x2f84b, 1, 0x5716⟩,
  ⟨0x2f84c, 0x2f84c, 1, 0x5606⟩, ⟨0x2f84d, 0x2f84d, 1, 0x5717⟩, ⟨0x2f84e, 0x2f84e, 1, 0x5651⟩,
  ⟨0x2f84f, 0x2f84f, 1, 0x5674⟩, ⟨0x2f850, 0x2f850, 1, 0x5207⟩, ⟨0x2f851, 0x2f851, 1, 0x58ee⟩,
  ⟨0x2f852, 0x2f852, 1, 0x57ce⟩, ⟨0x2f853, 0x2f853, 1, 0x57f4⟩, ⟨0x2f854, 0x2f854, 1, 0x580d⟩,
  ⟨0x2f855, 0x2f855, 1, 0x578b⟩, ⟨0x2f856, 0x2f856, 1, 0x5832⟩, ⟨0x2f857, 0x2f857, 1, 0x5831⟩,
  ⟨0x2f858, 0x2f858, 1, 0x58ac⟩, ⟨0x2f859, 0x2f859, 1, 0x214e4⟩, ⟨0x2f85a, 0x2f85a, 1, 0x58f2⟩,
  ⟨0x2f85b, 0x2f85b, 1, 0x58f7⟩, ⟨0x2f85c, 0x2f85c, 1, 0x5906⟩, ⟨0x2f85d, 0x2f85d, 1, 0x591a⟩,
  ⟨0x2f85e, 0x2f85e, 1, 0x5922⟩, ⟨0x2f85f, 0x2f85f, 1, 0x5962⟩, ⟨0x2f860, 0x2f860, 1, 0x216a8⟩,
  ⟨0x2f861, 0x2f861, 1, 0x216ea⟩, ⟨0x2f862, 0x2f862, 1, 0x59ec⟩, ⟨0x2f863, 0x2f863, 1, 0x5a1b⟩,
  ⟨0x2f864, 0x2f864, 1, 0x5a27⟩, ⟨0x2f865, 0x2f865, 1, 0x59d8⟩, ⟨0x2f866, 0x2f866, 1, 0x5a66⟩,
  ⟨0x2f867, 0x2f867, 1, 0x36ee⟩, ⟨0x2f868, 0x2f868, 1, 0x36fc⟩, ⟨0x2f869, 0x2f869, 1, 0x5b08⟩,
  ⟨0x2f86a, 0x2f86a, 1, 0x5b3e⟩, ⟨0x2f86b, 0x2f86b, 1, 0x5b3e⟩, ⟨0x2f86c, 0x2f86c, 1, 0x219c8⟩,
  ⟨0x2f86d, 0x2f86d, 1, 0x5bc3⟩, ⟨0x2f86e, 0x2f86e, 1, 0x5bd8⟩, ⟨0x2f86f, 0x2f86f, 1, 0x5be7⟩,
  ⟨0x2f870, 0x2f870, 1, 0x5bf3⟩, ⟨0x2f871, 0x2f871, 1, 0x21b18⟩, ⟨0x2f872, 0x2f872, 1, 0x5bff⟩,
  ⟨0x2f873, 0x2f873, 1, 0x5c06⟩, ⟨0x2f874, 0x2f874, 1, 0x5f53⟩, ⟨0x2f875, 0x2f875, 1, 0x5c22⟩,
  ⟨0x2f876, 0x2f876, 1, 0x3781⟩, ⟨0x2f877, 0x2f877, 1, 0x5c60⟩, ⟨0x2f878, 0x2f878, 1, 0x5c6e⟩,
  ⟨0x2f879, 0x2f879, 1, 0x5cc0⟩, ⟨0x2f87a, 0x2f87a, 1, 0x5c8d⟩, ⟨0x2f87b, 0x2f87d, 2, 0x21de4⟩,
  ⟨0x2f87c, 0x2f87c, 1, 0x5d43⟩, ⟨0x2f87e, 0x2f87e, 1, 0x5d6e⟩, ⟨0x2f87f, 0x2f87f, 1, 0x5d6b⟩,
  ⟨0x2f880, 0x2f880, 1, 0x5d7c⟩, ⟨0x2f881, 0x2f882, 1, 0x5de1⟩, ⟨0x2f883, 0x2f883, 1, 0x382f⟩,
  ⟨0x2f884, 0x2f884, 1, 0x5dfd⟩, ⟨0x2f885, 0x2f885, 1, 0x5e28⟩, ⟨0x2f886, 0x2f886, 1, 0x5e3d⟩,
  ⟨0x2f887, 0x2f887, 1, 0x5e69⟩, ⟨0x2f888, 0x2f888, 1, 0x3862⟩, ⟨0x2f889, 0x2f889, 1, 0x22183⟩,
  ⟨0x2f88a, 0x2f88a, 1, 0x387c⟩, ⟨0x2f88b, 0x2f88b, 1, 0x5eb0⟩, ⟨0x2f88c, 0x2f88c, 1, 0x5eb3⟩,
  ⟨0x2f88d, 0x2f88d, 1, 0x5eb6⟩, ⟨0x2f88e, 0x2f88e, 1, 0x5eca⟩, ⟨0x2f88f, 0x2f88f, 1, 0x2a392⟩,
  ⟨0x2f890, 0x2f890, 1, 0x5efe⟩, ⟨0x2f891, 0x2f891, 1, 0x22331⟩, ⟨0x2f892, 0x2f892, 1, 0x22331⟩,
  ⟨0x2f893, 0x2f893, 1, 0x8201⟩, ⟨0x2f894, 0x2f894, 1, 0x5f22⟩, ⟨0x2f895, 0x2f895, 1, 0x5f22⟩,
  ⟨0x2f896, 0x2f896, 1, 0x38c7⟩, ⟨0x2f897, 0x2f897, 1, 0x232b8⟩, ⟨0x2f898, 0x2f898, 1, 0x261da⟩,
  ⟨0x2f899, 0x2f899, 1, 0x5f62⟩, ⟨0x2f89a, 0x2f89a, 1, 0x5f6b⟩, ⟨0x2f89b, 0x2f89b, 1, 0x38e3⟩,
  ⟨0x2f89c, 0x2f89c, 1, 0x5f9a⟩, ⟨0x2f89d, 0x2f89d, 1, 0x5fcd⟩, ⟨0x2f89e, 0x2f89e, 1, 0x5fd7⟩,
  ⟨0x2f89f, 0x2f89f, 1, 0x5ff9⟩, ⟨0x2f8a0, 0x2f8a0, 1, 0x6081⟩, ⟨0x2f8a1, 0x2f8a1, 1, 0x393a⟩,
  ⟨0x2f8a2, 0x2f8a2, 1, 0x391c⟩, ⟨0x2f8a3, 0x2f8a3, 1, 0x6094⟩, ⟨0x2f8a4, 0x2f8a4, 1, 0x226d4⟩,
  ⟨0x2f8a5, 0x2f8a5, 1, 0x60c7⟩, ⟨0x2f8a6, 0x2f8a6, 1, 0x6148⟩, ⟨0x2f8a7, 0x2f8a7, 1, 0x614c⟩,
  ⟨0x2f8a8, 0x2f8a8, 1, 0x614e⟩, ⟨0x2f8a9, 0x2f8a9, 1, 0x614c⟩, ⟨0x2f8aa, 0x2f8aa, 1, 0x617a⟩,
  ⟨0x2f8ab, 0x2f8ab, 1, 0x618e⟩, ⟨0x2f8ac, 0x2f8ac, 1, 0x61b2⟩, ⟨0x2f8ad, 0x2f8ad, 1, 0x61a4⟩,
  ⟨0x2f8ae, 0x2f8ae, 1, 0x61af⟩, ⟨0x2f8af, 0x2f8af, 1, 0x61de⟩, ⟨0x2f8b0, 0x2f8b0, 1, 0x61f2⟩,
  ⟨0x2f8b1, 0x2f8b1, 1, 0x61f6⟩, ⟨0x2f8b2, 0x2f8b2, 1, 0x6210⟩, ⟨0x2f8b3, 0x2f8b3, 1, 0x621b⟩,
  ⟨0x2f8b4, 0x2f8b4, 1, 0x625d⟩, ⟨0x2f8b5, 0x2f8b5, 1, 0x62b1⟩, ⟨0x2f8b6, 0x2f8b6, 1, 0x62d4⟩,
  ⟨0x2f8b7, 0x2f8b7, 1, 0x6350⟩, ⟨0x2f8b8, 0x2f8b8, 1, 0x22b0c⟩, ⟨0x2f8b9, 0x2f8b9, 1, 0x633d⟩,
  ⟨0x2f8ba, 0x2f8ba, 1, 0x62fc⟩, ⟨0x2f8bb, 0x2f8bb, 1, 0x6368⟩, ⟨0x2f8bc, 0x2f8bc, 1, 0x6383⟩,
  ⟨0x2f8bd, 0x2f8bd, 1, 0x63e4⟩, ⟨0x2f8be, 0x2f8be, 1, 0x22bf1⟩, ⟨0x2f8bf, 0x2f8bf, 1, 0x6422⟩,
  ⟨0x2f8c0, 0x2f8c0, 1, 0x63c5⟩, ⟨0x2f8c1, 0x2f8c1, 1, 0x63a9⟩, ⟨0x2f8c2, 0x2f8c2, 1, 0x3a2e⟩,
  ⟨0x2f8c3, 0x2f8c3, 1, 0x6469⟩, ⟨0x2f8c4, 0x2f8c4, 1, 0x647e⟩, ⟨0x2f8c5, 0x2f8c5, 1, 0x649d⟩,
  ⟨0x2f8c6, 0x2f8c6, 1, 0x6477⟩, ⟨0x2f8c7, 0x2f8c7, 1, 0x3a6c⟩, ⟨0x2f8c8, 0x2f8c8, 1, 0x654f⟩,
  ⟨0x2f8c9, 0x2f8c9, 1, 0x656c⟩, ⟨0x2f8ca, 0x2f8ca, 1, 0x2300a⟩, ⟨0x2f8cb, 0x2f8cb, 1, 0x65e3⟩,
  ⟨0x2f8cc, 0x2f8cc, 1, 0x66f8⟩, ⟨0x2f8cd, 0x2f8cd, 1, 0x6649⟩, ⟨0x2f8ce, 0x2f8ce, 1, 0x3b19⟩,
  ⟨0x2f8cf, 0x2f8cf, 1, 0x6691⟩, ⟨0x2f8d0, 0x2f8d0, 1, 0x3b08⟩, ⟨0x2f8d1, 0x2f8d1, 1, 0x3ae4⟩,
  ⟨0x2f8d2, 0x2f8d2, 1, 0x5192⟩, ⟨0x2f8d3, 0x2f8d3, 1, 0x5195⟩, ⟨0x2f8d4, 0x2f8d4, 1, 0x6700⟩,
  ⟨0x2f8d5, 0x2f8d5, 1, 0x669c⟩, ⟨0x2f8d6, 0x2f8d6, 1, 0x80ad⟩, ⟨0x2f8d7, 0x2f8d7, 1, 0x43d9⟩,
  ⟨0x2f8d8, 0x2f8d8, 1, 0x6717⟩, ⟨0x2f8d9, 0x2f8d9, 1, 0x671b⟩, ⟨0x2f8da, 0x2f8da, 1, 0x6721⟩,
  ⟨0x2f8db, 0x2f8db, 1, 0x675e⟩, ⟨0x2f8dc, 0x2f8dc, 1, 0x6753⟩, ⟨0x2f8dd, 0x2f8dd, 1, 0x233c3⟩,
  ⟨0x2f8de, 0x2f8de, 1, 0x3b49⟩, ⟨0x2f8df, 0x2f8df, 1, 0x67fa⟩, ⟨0x2f8e0, 0x2f8e0, 1, 0x6785⟩,
  ⟨0x2f8e1, 0x2f8e1, 1, 0x6852⟩, ⟨0x2f8e2, 0x2f8e2, 1, 0x6885⟩, ⟨0x2f8e3, 0x2f8e3, 1, 0x2346d⟩,
  ⟨0x2f8e4, 0x2f8e4, 1, 0x688e⟩, ⟨0x2f8e5, 0x2f8e5, 1, 0x681f⟩, ⟨0x2f8e6, 0x2f8e6, 1, 0x6914⟩,
  ⟨0x2f8e7, 0x2f8e7, 1, 0x3b9d⟩, ⟨0x2f8e8, 0x2f8e8, 1, 0x6942⟩, ⟨0x2f8e9, 0x2f8e9, 1, 0x69a3⟩,
  ⟨0x2f8ea, 0x2f8ea, 1, 0x69ea⟩, ⟨0x2f8eb, 0x2f8eb, 1, 0x6aa8⟩, ⟨0x2f8ec, 0x2f8ec, 1, 0x236a3⟩,
  ⟨0x2f8ed, 0x2f8ed, 1, 0x6adb⟩, ⟨0x2f8ee, 0x2f8ee, 1, 0x3c18⟩, ⟨0x2f8ef, 0x2f8ef, 1, 0x6b21⟩,
  ⟨0x2f8f0, 0x2f8f0, 1, 0x238a7⟩, ⟨0x2f8f1, 0x2f8f1, 1, 0x6b54⟩, ⟨0x2f8f2, 0x2f8f2, 1, 0x3c4e⟩,
  ⟨0x2f8f3, 0x2f8f3, 1, 0x6b72⟩, ⟨0x2f8f4, 0x2f8f4, 1, 0x6b9f⟩, ⟨0x2f8f5, 0x2f8f6, 1, 0x6bba⟩,
  ⟨0x2f8f7, 0x2f8f7, 1, 0x23a8d⟩, ⟨0x2f8f8, 0x2f8f8, 1, 0x21d0b⟩, ⟨0x2f8f9, 0x2f8f9, 1, 0x23afa⟩,
  ⟨0x2f8fa, 0x2f8fa, 1, 0x6c4e⟩, ⟨0x2f8fb, 0x2f8fb, 1, 0x23cbc⟩, ⟨0x2f8fc, 0x2f8fc, 1, 0x6cbf⟩,
  ⟨0x2f8fd, 0x2f8fd, 1, 0x6ccd⟩, ⟨0x2f8fe, 0x2f8fe, 1, 0x6c67⟩, ⟨0x2f8ff, 0x2f8ff, 1, 0x6d16⟩,
  ⟨0x2f900, 0x2f900, 1, 0x6d3e⟩, ⟨0x2f901, 0x2f901, 1, 0x6d77⟩, ⟨0x2f902, 0x2f902, 1, 0x6d41⟩,
  ⟨0x2f903, 0x2f903, 1, 0x6d69⟩, ⟨0x2f904, 0x2f904, 1, 0x6d78⟩, ⟨0x2f905, 0x2f905, 1, 0x6d85⟩,
  ⟨0x2f906, 0x2f906, 1, 0x23d1e⟩, ⟨0x2f907, 0x2f907, 1, 0x6d34⟩, ⟨0x2f908, 0x2f908, 1, 0x6e2f⟩,
  ⟨0x2f909, 0x2f909, 1, 0x6e6e⟩, ⟨0x2f90a, 0x2f90a, 1, 0x3d33⟩, ⟨0x2f90b, 0x2f90b, 1, 0x6ecb⟩,
  ⟨0x2f90c, 0x2f90c, 1, 0x6ec7⟩, ⟨0x2f90d, 0x2f90d, 1, 0x23ed1⟩, ⟨0x2f90e, 0x2f90e, 1, 0x6df9⟩,
  ⟨0x2f90f, 0x2f90f, 1, 0x6f6e⟩, ⟨0x2f910, 0x2f910, 1, 0x23f5e⟩, ⟨0x2f911, 0x2f911, 1, 0x23f8e⟩,
  ⟨0x2f912, 0x2f912, 1, 0x6fc6⟩, ⟨0x2f913, 0x2f913, 1, 0x7039⟩, ⟨0x2f914, 0x2f914, 1, 0x701e⟩,
  ⟨0x2f915, 0x2f915, 1, 0x701b⟩, ⟨0x2f916, 0x2f916, 1, 0x3d96⟩, ⟨0x2f917, 0x2f917, 1, 0x704a⟩,
  ⟨0x2f918, 0x2f918, 1, 0x707d⟩, ⟨0x2f919, 0x2f919, 1, 0x7077⟩, ⟨0x2f91a, 0x2f91a, 1, 0x70ad⟩,
  ⟨0x2f91b, 0x2f91b, 1, 0x20525⟩, ⟨0x2f91c, 0x2f91c, 1, 0x7145⟩, ⟨0x2f91d, 0x2f91d, 1, 0x24263⟩,
  ⟨0x2f91e, 0x2f91e, 1, 0x719c⟩, ⟨0x2f91f, 0x2f91f, 1, 0x243ab⟩, ⟨0x2f920, 0x2f920, 1, 0x7228⟩,
  ⟨0x2f921, 0x2f921, 1, 0x7235⟩, ⟨0x2f922, 0x2f922, 1, 0x7250⟩, ⟨0x2f923, 0x2f923, 1, 0x24608⟩,
  ⟨0x2f924, 0x2f924, 1, 0x7280⟩, ⟨0x2f925, 0x2f925, 1, 0x7295⟩, ⟨0x2f926, 0x2f926, 1, 0x24735⟩,
  ⟨0x2f927, 0x2f927, 1, 0x24814⟩, ⟨0x2f928, 0x2f928, 1, 0x737a⟩, ⟨0x2f929, 0x2f929, 1, 0x738b⟩,
  ⟨0x2f92a, 0x2f92a, 1, 0x3eac⟩, ⟨0x2f92b, 0x2f92b, 1, 0x73a5⟩, ⟨0x2f92c, 0x2f92c, 1, 0x3eb8⟩,
  ⟨0x2f92d, 0x2f92d, 1, 0x3eb8⟩, ⟨0x2f92e, 0x2f92e, 1, 0x7447⟩, ⟨0x2f92f, 0x2f92f, 1, 0x745c⟩,
  ⟨0x2f930, 0x2f930, 1, 0x7471⟩, ⟨0x2f931, 0x2f931, 1, 0x7485⟩, ⟨0x2f932, 0x2f932, 1, 0x74ca⟩,
  ⟨0x2f933, 0x2f933, 1, 0x3f1b⟩, ⟨0x2f934, 0x2f934, 1, 0x7524⟩, ⟨0x2f935, 0x2f935, 1, 0x24c36⟩,
  ⟨0x2f936, 0x2f936, 1, 0x753e⟩, ⟨0x2f937, 0x2f937, 1, 0x24c92⟩, ⟨0x2f938, 0x2f938, 1, 0x7570⟩,
  ⟨0x2f939, 0x2f939, 1, 0x2219f⟩, ⟨0x2f93a, 0x2f93a, 1, 0x7610⟩, ⟨0x2f93b, 0x2f93b, 1, 0x24fa1⟩,
  ⟨0x2f93c, 0x2f93c, 1, 0x24fb8⟩, ⟨0x2f93d, 0x2f93d, 1, 0x25044⟩, ⟨0x2f93e, 0x2f93e, 1, 0x3ffc⟩,
  ⟨0x2f93f, 0x2f93f, 1, 0x4008⟩, ⟨0x2f940, 0x2f940, 1, 0x76f4⟩, ⟨0x2f941, 0x2f941, 1, 0x250f3⟩,
  ⟨0x2f942, 0x2f942, 1, 0x250f2⟩, ⟨0x2f943, 0x2f943, 1, 0x25119⟩, ⟨0x2f944, 0x2f944, 1, 0x25133⟩,
  ⟨0x2f945, 0x2f946, 1, 0x771e⟩, ⟨0x2f947, 0x2f947, 1, 0x771f⟩, ⟨0x2f948, 0x2f948, 1, 0x774a⟩,
  ⟨0x2f949, 0x2f949, 1, 0x4039⟩, ⟨0x2f94a, 0x2f94a, 1, 0x778b⟩, ⟨0x2f94b, 0x2f94b, 1, 0x4046⟩,
  ⟨0x2f94c, 0x2f94c, 1, 0x4096⟩, ⟨0x2f94d, 0x2f94d, 1, 0x2541d⟩, ⟨0x2f94e, 0x2f94e, 1, 0x784e⟩,
  ⟨0x2f94f, 0x2f94f, 1, 0x788c⟩, ⟨0x2f950, 0x2f950, 1, 0x78cc⟩, ⟨0x2f951, 0x2f951, 1, 0x40e3⟩,
  ⟨0x2f952, 0x2f952, 1, 0x25626⟩, ⟨0x2f953, 0x2f953, 1, 0x7956⟩, ⟨0x2f954, 0x2f954, 1, 0x2569a⟩,
  ⟨0x2f955, 0x2f955, 1, 0x256c5⟩, ⟨0x2f956, 0x2f956, 1, 0x798f⟩, ⟨0x2f957, 0x2f957, 1, 0x79eb⟩,
  ⟨0x2f958, 0x2f958, 1, 0x412f⟩, ⟨0x2f959, 0x2f959, 1, 0x7a40⟩, ⟨0x2f95a, 0x2f95a, 1, 0x7a4a⟩,
  ⟨0x2f95b, 0x2f95b, 1, 0x7a4f⟩, ⟨0x2f95c, 0x2f95c, 1, 0x2597c⟩, ⟨0x2f95d, 0x2f95d, 1, 0x25aa7⟩,
  ⟨0x2f95e, 0x2f95e, 1, 0x25aa7⟩, ⟨0x2f95f, 0x2f95f, 1, 0x7aee⟩, ⟨0x2f960, 0x2f960, 1, 0x4202⟩,
  ⟨0x2f961, 0x2f961, 1, 0x25bab⟩, ⟨0x2f962, 0x2f962, 1, 0x7bc6⟩, ⟨0x2f963, 0x2f963, 1, 0x7bc9⟩,
  ⟨0x2f964, 0x2f964, 1, 0x4227⟩, ⟨0x2f965, 0x2f965, 1, 0x25c80⟩, ⟨0x2f966, 0x2f966, 1, 0x7cd2⟩,
  ⟨0x2f967, 0x2f967, 1, 0x42a0⟩, ⟨0x2f968, 0x2f968, 1, 0x7ce8⟩, ⟨0x2f969, 0x2f969, 1, 0x7ce3⟩,
  ⟨0x2f96a, 0x2f96a, 1, 0x7d00⟩, ⟨0x2f96b, 0x2f96b, 1, 0x25f86⟩, ⟨0x2f96c, 0x2f96c, 1, 0x7d63⟩,
  ⟨0x2f96d, 0x2f96d, 1, 0x4301⟩, ⟨0x2f96e, 0x2f96e, 1, 0x7dc7⟩, ⟨0x2f96f, 0x2f96f, 1, 0x7e02⟩,
  ⟨0x2f970, 0x2f970, 1, 0x7e45⟩, ⟨0x2f971, 0x2f971, 1, 0x4334⟩, ⟨0x2f972, 0x2f972, 1, 0x26228⟩,
  ⟨0x2f973, 0x2f973, 1, 0x26247⟩, ⟨0x2f974, 0x2f974, 1, 0x4359⟩, ⟨0x2f975, 0x2f975, 1, 0x262d9⟩,
  ⟨0x2f976, 0x2f976, 1, 0x7f7a⟩, ⟨0x2f977, 0x2f977, 1, 0x2633e⟩, ⟨0x2f978, 0x2f978, 1, 0x7f95⟩,
  ⟨0x2f979, 0x2f979, 1, 0x7ffa⟩, ⟨0x2f97a, 0x2f97a, 1, 0x8005⟩, ⟨0x2f97b, 0x2f97b, 1, 0x264da⟩,
  ⟨0x2f97c, 0x2f97c, 1, 0x26523⟩, ⟨0x2f97d, 0x2f97d, 1, 0x8060⟩, ⟨0x2f97e, 0x2f97e, 1, 0x265a8⟩,
  ⟨0x2f97f, 0x2f97f, 1, 0x8070⟩, ⟨0x2f980, 0x2f980, 1, 0x2335f⟩, ⟨0x2f981, 0x2f981, 1, 0x43d5⟩,
  ⟨0x2f982, 0x2f982, 1, 0x80b2⟩, ⟨0x2f983, 0x2f983, 1, 0x8103⟩, ⟨0x2f984, 0x2f984, 1, 0x440b⟩,
  ⟨0x2f985, 0x2f985, 1, 0x813e⟩, ⟨0x2f986, 0x2f986, 1, 0x5ab5⟩, ⟨0x2f987, 0x2f987, 1, 0x267a7⟩,
  ⟨0x2f988, 0x2f988, 1, 0x267b5⟩, ⟨0x2f989, 0x2f989, 1, 0x23393⟩, ⟨0x2f98a, 0x2f98a, 1, 0x2339c⟩,
  ⟨0x2f98b, 0x2f98b, 1, 0x8201⟩, ⟨0x2f98c, 0x2f98c, 1, 0x8204⟩, ⟨0x2f98d, 0x2f98d, 1, 0x8f9e⟩,
  ⟨0x2f98e, 0x2f98e, 1, 0x446b⟩, ⟨0x2f98f, 0x2f98f, 1, 0x8291⟩, ⟨0x2f990, 0x2f990, 1, 0x828b⟩,
  ⟨0x2f991, 0x2f991, 1, 0x829d⟩, ⟨0x2f992, 0x2f992, 1, 0x52b3⟩, ⟨0x2f993, 0x2f993, 1, 0x82b1⟩,
  ⟨0x2f994, 0x2f994, 1, 0x82b3⟩, ⟨0x2f995, 0x2f995, 1, 0x82bd⟩, ⟨0x2f996, 0x2f996, 1, 0x82e6⟩,
  ⟨0x2f997, 0x2f997, 1, 0x26b3c⟩, ⟨0x2f998, 0x2f998, 1, 0x82e5⟩, ⟨0x2f999, 0x2f999, 1, 0x831d⟩,
  ⟨0x2f99a, 0x2f99a, 1, 0x8363⟩, ⟨0x2f99b, 0x2f99b, 1, 0x83ad⟩, ⟨0x2f99c, 0x2f99c, 1, 0x8323⟩,
  ⟨0x2f99d, 0x2f99d, 1, 0x83bd⟩, ⟨0x2f99e, 0x2f99e, 1, 0x83e7⟩, ⟨0x2f99f, 0x2f99f, 1, 0x8457⟩,
  ⟨0x2f9a0, 0x2f9a0, 1, 0x8353⟩, ⟨0x2f9a1, 0x2f9a1, 1, 0x83ca⟩, ⟨0x2f9a2, 0x2f9a2, 1, 0x83cc⟩,
  ⟨0x2f9a3, 0x2f9a3, 1, 0x83dc⟩, ⟨0x2f9a4, 0x2f9a4, 1, 0x26c36⟩, ⟨0x2f9a5, 0x2f9a5, 1, 0x26d6b⟩,
  ⟨0x2f9a6, 0x2f9a6, 1, 0x26cd5⟩, ⟨0x2f9a7, 0x2f9a7, 1, 0x452b⟩, ⟨0x2f9a8, 0x2f9a8, 1, 0x84f1⟩,
  ⟨0x2f9a9, 0x2f9a9, 1, 0x84f3⟩, ⟨0x2f9aa, 0x2f9aa, 1, 0x8516⟩, ⟨0x2f9ab, 0x2f9ab, 1, 0x273ca⟩,
  ⟨0x2f9ac, 0x2f9ac, 1, 0x8564⟩, ⟨0x2f9ad, 0x2f9ad, 1, 0x26f2c⟩, ⟨0x2f9ae, 0x2f9ae, 1, 0x455d⟩,
  ⟨0x2f9af, 0x2f9af, 1, 0x4561⟩, ⟨0x2f9b0, 0x2f9b0, 1, 0x26fb1⟩, ⟨0x2f9b1, 0x2f9b1, 1, 0x270d2⟩,
  ⟨0x2f9b2, 0x2f9b2, 1, 0x456b⟩, ⟨0x2f9b3, 0x2f9b3, 1, 0x8650⟩, ⟨0x2f9b4, 0x2f9b4, 1, 0x865c⟩,
  ⟨0x2f9b5, 0x2f9b5, 1, 0x8667⟩, ⟨0x2f9b6, 0x2f9b6, 1, 0x8669⟩, ⟨0x2f9b7, 0x2f9b7, 1, 0x86a9⟩,
  ⟨0x2f9b8, 0x2f9b8, 1, 0x8688⟩, ⟨0x2f9b9, 0x2f9b9, 1, 0x870e⟩, ⟨0x2f9ba, 0x2f9ba, 1, 0x86e2⟩,
  ⟨0x2f9bb, 0x2f9bb, 1, 0x8779⟩, ⟨0x2f9bc, 0x2f9bc, 1, 0x8728⟩, ⟨0x2f9bd, 0x2f9bd, 1, 0x876b⟩,
  ⟨0x2f9be, 0x2f9be, 1, 0x8786⟩, ⟨0x2f9bf, 0x2f9bf, 1, 0x45d7⟩, ⟨0x2f9c0, 0x2f9c0, 1, 0x87e1⟩,
  ⟨0x2f9c1, 0x2f9c1, 1, 0x8801⟩, ⟨0x2f9c2, 0x2f9c2, 1, 0x45f9⟩, ⟨0x2f9c3, 0x2f9c3, 1, 0x8860⟩,
  ⟨0x2f9c4, 0x2f9c4, 1, 0x8863⟩, ⟨0x2f9c5, 0x2f9c5, 1, 0x27667⟩, ⟨0x2f9c6, 0x2f9c6, 1, 0x88d7⟩,
  ⟨0x2f9c7, 0x2f9c7, 1, 0x88de⟩, ⟨0x2f9c8, 0x2f9c8, 1, 0x4635⟩, ⟨0x2f9c9, 0x2f9c9, 1, 0x88fa⟩,
  ⟨0x2f9ca, 0x2f9ca, 1, 0x34bb⟩, ⟨0x2f9cb, 0x2f9cb, 1, 0x278ae⟩, ⟨0x2f9cc, 0x2f9cc, 1, 0x27966⟩,
  ⟨0x2f9cd, 0x2f9cd, 1, 0x46be⟩, ⟨0x2f9ce, 0x2f9ce, 1, 0x46c7⟩, ⟨0x2f9cf, 0x2f9cf, 1, 0x8aa0⟩,
  ⟨0x2f9d0, 0x2f9d0, 1, 0x8aed⟩, ⟨0x2f9d1, 0x2f9d1, 1, 0x8b8a⟩, ⟨0x2f9d2, 0x2f9d2, 1, 0x8c55⟩,
  ⟨0x2f9d3, 0x2f9d3, 1, 0x27ca8⟩, ⟨0x2f9d4, 0x2f9d4, 1, 0x8cab⟩, ⟨0x2f9d5, 0x2f9d5, 1, 0x8cc1⟩,
  ⟨0x2f9d6, 0x2f9d6, 1, 0x8d1b⟩, ⟨0x2f9d7, 0x2f9d7, 1, 0x8d77⟩, ⟨0x2f9d8, 0x2f9d8, 1, 0x27f2f⟩,
  ⟨0x2f9d9, 0x2f9d9, 1, 0x20804⟩, ⟨0x2f9da, 0x2f9da, 1, 0x8dcb⟩, ⟨0x2f9db, 0x2f9db, 1, 0x8dbc⟩,
  ⟨0x2f9dc, 0x2f9dc, 1, 0x8df0⟩, ⟨0x2f9dd, 0x2f9dd, 1, 0x208de⟩, ⟨0x2f9de, 0x2f9de, 1, 0x8ed4⟩,
  ⟨0x2f9df, 0x2f9df, 1, 0x8f38⟩, ⟨0x2f9e0, 0x2f9e0, 1, 0x285d2⟩, ⟨0x2f9e1, 0x2f9e1, 1, 0x285ed⟩,
  ⟨0x2f9e2, 0x2f9e2, 1, 0x9094⟩, ⟨0x2f9e3, 0x2f9e3, 1, 0x90f1⟩, ⟨0x2f9e4, 0x2f9e4, 1, 0x9111⟩,
  ⟨0x2f9e5, 0x2f9e5, 1, 0x2872e⟩, ⟨0x2f9e6, 0x2f9e6, 1, 0x911b⟩, ⟨0x2f9e7, 0x2f9e7, 1, 0x9238⟩,
  ⟨0x2f9e8, 0x2f9e9, 1, 0x92d7⟩, ⟨0x2f9ea, 0x2f9ea, 1, 0x927c⟩, ⟨0x2f9eb, 0x2f9eb, 1, 0x93f9⟩,
  ⟨0x2f9ec, 0x2f9ec, 1, 0x9415⟩, ⟨0x2f9ed, 0x2f9ed, 1, 0x28bfa⟩, ⟨0x2f9ee, 0x2f9ee, 1, 0x958b⟩,
  ⟨0x2f9ef, 0x2f9ef, 1, 0x4995⟩, ⟨0x2f9f0, 0x2f9f0, 1, 0x95b7⟩, ⟨0x2f9f1, 0x2f9f1, 1, 0x28d77⟩,
  ⟨0x2f9f2, 0x2f9f2, 1, 0x49e6⟩, ⟨0x2f9f3, 0x2f9f3, 1, 0x96c3⟩, ⟨0x2f9f4, 0x2f9f4, 1, 0x5db2⟩,
  ⟨0x2f9f5, 0x2f9f5, 1, 0x9723⟩, ⟨0x2f9f6, 0x2f9f6, 1, 0x29145⟩, ⟨0x2f9f7, 0x2f9f7, 1, 0x2921a⟩,
  ⟨0x2f9f8, 0x2f9f8, 1, 0x4a6e⟩, ⟨0x2f9f9, 0x2f9f9, 1, 0x4a76⟩, ⟨0x2f9fa, 0x2f9fa, 1, 0x97e0⟩,
  ⟨0x2f9fb, 0x2f9fb, 1, 0x2940a⟩, ⟨0x2f9fc, 0x2f9fc, 1, 0x4ab2⟩, ⟨0x2f9fd, 0x2f9fd, 1, 0x29496⟩,
  ⟨0x2f9fe, 0x2f9fe, 1, 0x980b⟩, ⟨0x2f9ff, 0x2f9ff, 1, 0x980b⟩, ⟨0x2fa00, 0x2fa00, 1, 0x9829⟩,
  ⟨0x2fa01, 0x2fa01, 1, 0x295b6⟩, ⟨0x2fa02, 0x2fa02, 1, 0x98e2⟩, ⟨0x2fa03, 0x2fa03, 1, 0x4b33⟩,
  ⟨0x2fa04, 0x2fa04, 1, 0x9929⟩, ⟨0x2fa05, 0x2fa05, 1, 0x99a7⟩, ⟨0x2fa06, 0x2fa06, 1, 0x99c2⟩,
  ⟨0x2fa07, 0x2fa07, 1, 0x99fe⟩, ⟨0x2fa08, 0x2fa08, 1, 0x4bce⟩, ⟨0x2fa09, 0x2fa09, 1, 0x29b30⟩,
  ⟨0x2fa0a, 0x2fa0a, 1, 0x9b12⟩, ⟨0x2fa0b, 0x2fa0b, 1, 0x9c40⟩, ⟨0x2fa0c, 0x2fa0c, 1, 0x9cfd⟩,
  ⟨0x2fa0d, 0x2fa0d, 1, 0x4cce⟩, ⟨0x2fa0e, 0x2fa0e, 1, 0x4ced⟩, ⟨0x2fa0f, 0x2fa0f, 1, 0x9d67⟩,
  ⟨0x2fa10, 0x2fa10, 1, 0x2a0ce⟩, ⟨0x2fa11, 0x2fa11, 1, 0x4cf8⟩, ⟨0x2fa12, 0x2fa12, 1, 0x2a105⟩,
  ⟨0x2fa13, 0x2fa13, 1, 0x2a20e⟩, ⟨0x2fa14, 0x2fa14, 1, 0x2a291⟩, ⟨0x2fa15, 0x2fa15, 1, 0x9ebb⟩,
  ⟨0x2fa16, 0x2fa16, 1, 0x4d56⟩, ⟨0x2fa17, 0x2fa17, 1, 0x9ef9⟩, ⟨0x2fa18, 0x2fa18, 1, 0x9efe⟩,
  ⟨0x2fa19, 0x2fa19, 1, 0x9f05⟩, ⟨0x2fa1a, 0x2fa1a, 1, 0x9f0f⟩, ⟨0x2fa1b, 0x2fa1b, 1, 0x9f16⟩,
  ⟨0x2fa1c, 0x2fa1c, 1, 0x9f3b⟩, ⟨0x2fa1d, 0x2fa1d, 1, 0x2a600⟩]

/-- All runs. -/
def foldRuns : List FoldRun :=
  foldLetterRuns ++ foldSignRuns ++ foldIdeographRuns ++ foldFormRuns ++ foldAstralRuns

/-- Replacements of letters by several characters. -/
def foldLetterExpansions : List (Nat × List Nat) := [
  (0xa8, [0x20, 0x308]), (0xaf, [0x20, 0x304]), (0xb4, [0x20, 0x301]), (0xb8, [0x20, 0x327]),
  (0xbc, [0x31, 0x2044, 0x34]), (0xbd, [0x31, 0x2044, 0x32]), (0xbe, [0x33, 0x2044, 0x34]),
  (0x130, [0x69, 0x307]), (0x132, [0x69, 0x6a]), (0x133, [0x69, 0x6a]), (0x13f, [0x6c, 0xb7]),
  (0x140, [0x6c, 0xb7]), (0x149, [0x2bc, 0x6e]), (0x1c4, [0x64, 0x17e]), (0x1c5, [0x64, 0x17e]),
  (0x1c6, [0x64, 0x17e]), (0x1c7, [0x6c, 0x6a]), (0x1c8, [0x6c, 0x6a]), (0x1c9, [0x6c, 0x6a]),
  (0x1ca, [0x6e, 0x6a]), (0x1cb, [0x6e, 0x6a]), (0x1cc, [0x6e, 0x6a]), (0x1f1, [0x64, 0x7a]),
  (0x1f2, [0x64, 0x7a]), (0x1f3, [0x64, 0x7a]), (0x2d8, [0x20, 0x306]), (0x2d9, [0x20, 0x307]),
  (0x2da, [0x20, 0x30a]), (0x2db, [0x20, 0x328]), (0x2dc, [0x20, 0x303]), (0x2dd, [0x20, 0x30b]),
  (0x344, [0x308, 0x301]), (0x37a, [0x20, 0x3b9]), (0x384, [0x20, 0x301]), (0x385, [0x20, 0x308, 0x301]),
  (0x587, [0x565, 0x582]), (0x675, [0x627, 0x674]), (0x676, [0x648, 0x674]), (0x677, [0x6c7, 0x674]),
  (0x678, [0x64a, 0x674]), (0x958, [0x915, 0x93c]), (0x959, [0x916, 0x93c]), (0x95a, [0x917, 0x93c]),
  (0x95b, [0x91c, 0x93c]), (0x95c, [0x921, 0x93c]), (0x95d, [0x922, 0x93c]), (0x95e, [0x92b, 0x93c]),
  (0x95f, [0x92f, 0x93c]), (0x9dc, [0x9a1, 0x9bc]), (0x9dd, [0x9a2, 0x9bc]), (0x9df, [0x9af, 0x9bc]),
  (0xa33, [0xa32, 0xa3c]), (0xa36, [0xa38, 0xa3c]), (0xa59, [0xa16, 0xa3c]), (0xa5a, [0xa17, 0xa3c]),
  (0xa5b, [0xa1c, 0xa3c]), (0xa5e, [0xa2b, 0xa3c]), (0xb5c, [0xb21, 0xb3c]), (0xb5d, [0xb22, 0xb3c]),
  (0xe33, [0xe4d, 0xe32]), (0xeb3, [0xecd, 0xeb2]), (0xedc, [0xeab, 0xe99]), (0xedd, [0xeab, 0xea1]),
  (0xf43, [0xf42, 0xfb7]), (0xf4d, [0xf4c, 0xfb7]), (0xf52, [0xf51, 0xfb7]), (0xf57, [0xf56, 0xfb7]),
  (0xf5c, [0xf5b, 0xfb7]), (0xf69, [0xf40, 0xfb5]), (0xf73, [0xf71, 0xf72]), (0xf75, [0xf71, 0xf74]),
  (0xf76, [0xfb2, 0xf80]), (0xf77, [0xfb2, 0xf71, 0xf80]), (0xf78, [0xfb3, 0xf80]),
  (0xf79, [0xfb3, 0xf71, 0xf80]), (0xf81, [0xf71, 0xf80]), (0xf93, [0xf92, 0xfb7]),
  (0xf9d, [0xf9c, 0xfb7]), (0xfa2, [0xfa1, 0xfb7]), (0xfa7, [0xfa6, 0xfb7]), (0xfac, [0xfab, 0xfb7]),
  (0xfb9, [0xf90, 0xfb5]), (0x1e9a, [0x61, 0x2be]), (0x1f80, [0x1f00, 0x3b9]), (0x1f81, [0x1f01, 0x3b9]),
  (0x1f82, [0x1f02, 0x3b9]), (0x1f83, [0x1f03, 0x3b9]), (0x1f84, [0x1f04, 0x3b9]),
  (0x1f85, [0x1f05, 0x3b9]), (0x1f86, [0x1f06, 0x3b9]), (0x1f87, [0x1f07, 0x3b9]),
  (0x1f88, [0x1f00, 0x3b9]), (0x1f89, [0x1f01, 0x3b9]), (0x1f8a, [0x1f02, 0x3b9]),
  (0x1f8b, [0x1f03, 0x3b9]), (0x1f8c, [0x1f04, 0x3b9]), (0x1f8d, [0x1f05, 0x3b9]),
  (0x1f8e, [0x1f06, 0x3b9]), (0x1f8f, [0x1f07, 0x3b9]), (0x1f90, [0x1f20, 0x3b9]),
  (0x1f91, [0x1f21, 0x3b9]), (0x1f92, [0x1f22, 0x3b9]), (0x1f93, [0x1f23, 0x3b9]),
  (0x1f94, [0x1f24, 0x3b9]), (0x1f95, [0x1f25, 0x3b9]), (0x1f96, [0x1f26, 0x3b9]),
  (0x1f97, [0x1f27, 0x3b9]), (0x1f98, [0x1f20, 0x3b9]), (0x1f99, [0x1f21, 0x3b9]),
  (0x1f9a, [0x1f22, 0x3b9]), (0x1f9b, [0x1f23, 0x3b9]), (0x1f9c, [0x1f24, 0x3b9]),
  (0x1f9d, [0x1f25, 0x3b9]), (0x1f9e, [0x1f26, 0x3b9]), (0x1f9f, [0x1f27, 0x3b9]),
  (0x1fa0, [0x1f60, 0x3b9]), (0x1fa1, [0x1f61, 0x3b9]), (0x1fa2, [0x1f62, 0x3b9]),
  (0x1fa3, [0x1f63, 0x3b9]), (0x1fa4, [0x1f64, 0x3b9]), (0x1fa5, [0x1f65, 0x3b9]),
  (0x1fa6, [0x1f66, 0x3b9]), (0x1fa7, [0x1f67, 0x3b9]), (0x1fa8, [0x1f60, 0x3b9]),
  (0x1fa9, [0x1f61, 0x3b9]), (0x1faa, [0x1f62, 0x3b9]), (0x1fab, [0x1f63, 0x3b9]),
  (0x1fac, [0x1f64, 0x3b9]), (0x1fad, [0x1f65, 0x3b9]), (0x1fae, [0x1f66, 0x3b9]),
  (0x1faf, [0x1f67, 0x3b9]), (0x1fb2, [0x1f70, 0x3b9]), (0x1fb3, [0x3b1, 0x3b9]),
  (0x1fb4, [0x3ac, 0x3b9]), (0x1fb7, [0x1fb6, 0x3b9]), (0x1fbc, [0x3b1, 0x3b9]), (0x1fbd, [0x20, 0x313]),
  (0x1fbf, [0x20, 0x313]), (0x1fc0, [0x20, 0x342]), (0x1fc1, [0x20, 0x308, 0x342]),
  (0x1fc2, [0x1f74, 0x3b9]), (0x1fc3, [0x3b7, 0x3b9]), (0x1fc4, [0x3ae, 0x3b9]),
  (0x1fc7, [0x1fc6, 0x3b9]), (0x1fcc, [0x3b7, 0x3b9]), (0x1fcd, [0x20, 0x313, 0x300]),
  (0x1fce, [0x20, 0x313, 0x301]), (0x1fcf, [0x20, 0x313, 0x342]), (0x1fdd, [0x20, 0x314, 0x300]),
  (0x1fde, [0x20, 0x314, 0x301]), (0x1fdf, [0x20, 0x314, 0x342]), (0x1fed, [0x20, 0x308, 0x300]),
  (0x1fee, [0x20, 0x308, 0x301]), (0x1ff2, [0x1f7c, 0x3b9]), (0x1ff3, [0x3c9, 0x3b9]),
  (0x1ff4, [0x3ce, 0x3b9]), (0x1ff7, [0x1ff6, 0x3b9]), (0x1ffc, [0x3c9, 0x3b9]), (0x1ffd, [0x20, 0x301]),
  (0x1ffe, [0x20, 0x314])]

/-- Replacements of signs and enclosed forms by several characters. -/
def foldSignExpansions : List (Nat × List Nat) := [
  (0x2017, [0x20, 0x333]), (0x2033, [0x2032, 0x2032]), (0x2034, [0x2032, 0x2032, 0x2032]),
  (0x2036, [0x2035, 0x2035]), (0x2037, [0x2035, 0x2035, 0x2035]), (0x203c, [0x21, 0x21]),
  (0x203e, [0x20, 0x305]), (0x2047, [0x3f, 0x3f]), (0x2048, [0x3f, 0x21]), (0x2049, [0x21, 0x3f]),
  (0x2057, [0x2032, 0x2032, 0x2032, 0x2032]), (0x20a8, [0x72, 0x73]), (0x2100, [0x61, 0x2f, 0x63]),
  (0x2101, [0x61, 0x2f, 0x73]), (0x2103, [0xb0, 0x63]), (0x2105, [0x63, 0x2f, 0x6f]),
  (0x2106, [0x63, 0x2f, 0x75]), (0x2109, [0xb0, 0x66]), (0x2116, [0x6e, 0x6f]), (0x2120, [0x73, 0x6d]),
  (0x2121, [0x74, 0x65, 0x6c]), (0x2122, [0x74, 0x6d]), (0x213b, [0x66, 0x61, 0x78]),
  (0x2150, [0x31, 0x2044, 0x37]), (0x2151, [0x31, 0x2044, 0x39]), (0x2152, [0x31, 0x2044, 0x31, 0x30]),
  (0x2153, [0x31, 0x2044, 0x33]), (0x2154, [0x32, 0x2044, 0x33]), (0x2155, [0x31, 0x2044, 0x35]),
  (0x2156, [0x32, 0x2044, 0x35]), (0x2157, [0x33, 0x2044, 0x35]), (0x2158, [0x34, 0x2044, 0x35]),
  (0x2159, [0x31, 0x2044, 0x36]), (0x215a, [0x35, 0x2044, 0x36]), (0x215b, [0x31, 0x2044, 0x38]),
  (0x215c, [0x33, 0x2044, 0x38]), (0x215d, [0x35, 0x2044, 0x38]), (0x215e, [0x37, 0x2044, 0x38]),
  (0x215f, [0x31, 0x2044]), (0x2161, [0x69, 0x69]), (0x2162, [0x69, 0x69, 0x69]), (0x2163, [0x69, 0x76]),
  (0x2165, [0x76, 0x69]), (0x2166, [0x76, 0x69, 0x69]), (0x2167, [0x76, 0x69, 0x69, 0x69]),
  (0x2168, [0x69, 0x78]), (0x216a, [0x78, 0x69]), (0x216b, [0x78, 0x69, 0x69]), (0x2171, [0x69, 0x69]),
  (0x2172, [0x69, 0x69, 0x69]), (0x2173, [0x69, 0x76]), (0x2175, [0x76, 0x69]),
  (0x2176, [0x76, 0x69, 0x69]), (0x2177, [0x76, 0x69, 0x69, 0x69]), (0x2178, [0x69, 0x78]),
  (0x217a, [0x78, 0x69]), (0x217b, [0x78, 0x69, 0x69]), (0x2189, [0x30, 0x2044, 0x33]),
  (0x222c, [0x222b, 0x222b]), (0x222d, [0x222b, 0x222b, 0x222b]), (0x222f, [0x222e, 0x222e]),
  (0x2230, [0x222e, 0x222e, 0x222e]), (0x2469, [0x31, 0x30]), (0x246a, [0x31, 0x31]),
  (0x246b, [0x31, 0x32]), (0x246c, [0x31, 0x33]), (0x246d, [0x31, 0x34]), (0x246e, [0x31, 0x35]),
  (0x246f, [0x31, 0x36]), (0x2470, [0x31, 0x37]), (0x2471, [0x31, 0x38]), (0x2472, [0x31, 0x39]),
  (0x2473, [0x32, 0x30]), (0x2474, [0x28, 0x31, 0x29]), (0x2475, [0x28, 0x32, 0x29]),
  (0x2476, [0x28, 0x33, 0x29]), (0x2477, [0x28, 0x34, 0x29]), (0x2478, [0x28, 0x35, 0x29]),
  (0x2479, [0x28, 0x36, 0x29]), (0x247a, [0x28, 0x37, 0x29]), (0x247b, [0x28, 0x38, 0x29]),
  (0x247c, [0x28, 0x39, 0x29]), (0x247d, [0x28, 0x31, 0x30, 0x29]), (0x247e, [0x28, 0x31, 0x31, 0x29]),
  (0x247f, [0x28, 0x31, 0x32, 0x29]), (0x2480, [0x28, 0x31, 0x33, 0x29]),
  (0x2481, [0x28, 0x31, 0x34, 0x29]), (0x2482, [0x28, 0x31, 0x35, 0x29]),
  (0x2483, [0x28, 0x31, 0x36, 0x29]), (0x2484, [0x28, 0x31, 0x37, 0x29]),
  (0x2485, [0x28, 0x31, 0x38, 0x29]), (0x2486, [0x28, 0x31, 0x39, 0x29]),
  (0x2487, [0x28, 0x32, 0x30, 0x29]), (0x249c, [0x28, 0x61, 0x29]), (0x249d, [0x28, 0x62, 0x29]),
  (0x249e, [0x28, 0x63, 0x29]), (0x249f, [0x28, 0x64, 0x29]), (0x24a0, [0x28, 0x65, 0x29]),
  (0x24a1, [0x28, 0x66, 0x29]), (0x24a2, [0x28, 0x67, 0x29]), (0x24a3, [0x28, 0x68, 0x29]),
  (0x24a4, [0x28, 0x69, 0x29]), (0x24a5, [0x28, 0x6a, 0x29]), (0x24a6, [0x28, 0x6b, 0x29]),
  (0x24a7, [0x28, 0x6c, 0x29]), (0x24a8, [0x28, 0x6d, 0x29]), (0x24a9, [0x28, 0x6e, 0x29]),
  (0x24aa, [0x28, 0x6f, 0x29]), (0x24ab, [0x28, 0x70, 0x29]), (0x24ac, [0x28, 0x71, 0x29]),
  (0x24ad, [0x28, 0x72, 0x29]), (0x24ae, [0x28, 0x73, 0x29]), (0x24af, [0x28, 0x74, 0x29]),
  (0x24b0, [0x28, 0x75, 0x29]), (0x24b1, [0x28, 0x76, 0x29]), (0x24b2, [0x28, 0x77, 0x29]),
  (0x24b3, [0x28, 0x78, 0x29]), (0x24b4, [0x28, 0x79, 0x29]), (0x24b5, [0x28, 0x7a, 0x29]),
  (0x2a0c, [0x222b, 0x222b, 0x222b, 0x222b]), (0x2a74, [0x3a, 0x3a, 0x3d]), (0x2a75, [0x3d, 0x3d]),
  (0x2a76, [0x3d, 0x3d, 0x3d]), (0x2adc, [0x2add, 0x338]), (0x309b, [0x20, 0x3099]),
  (0x309c, [0x20, 0x309a]), (0x309f, [0x3088, 0x308a]), (0x30ff, [0x30b3, 0x30c8]),
  (0x3200, [0x28, 0x1100, 0x29]), (0x3201, [0x28, 0x1102, 0x29]), (0x3202, [0x28, 0x1103, 0x29]),
  (0x3203, [0x28, 0x1105, 0x29]), (0x3204, [0x28, 0x1106, 0x29]), (0x3205, [0x28, 0x1107, 0x29]),
  (0x3206, [0x28, 0x1109, 0x29]), (0x3207, [0x28, 0x110b, 0x29]), (0x3208, [0x28, 0x110c, 0x29]),
  (0x3209, [0x28, 0x110e, 0x29]), (0x320a, [0x28, 0x110f, 0x29]), (0x320b, [0x28, 0x1110, 0x29]),
  (0x320c, [0x28, 0x1111, 0x29]), (0x320d, [0x28, 0x1112, 0x29]), (0x320e, [0x28, 0xac00, 0x29]),
  (0x320f, [0x28, 0xb098, 0x29]), (0x3210, [0x28, 0xb2e4, 0x29]), (0x3211, [0x28, 0xb77c, 0x29]),
  (0x3212, [0x28, 0xb9c8, 0x29]), (0x3213, [0x28, 0xbc14, 0x29]), (0x3214, [0x28, 0xc0ac, 0x29]),
  (0x3215, [0x28, 0xc544, 0x29]), (0x3216, [0x28, 0xc790, 0x29]), (0x3217, [0x28, 0xcc28, 0x29]),
  (0x3218, [0x28, 0xce74, 0x29]), (0x3219, [0x28, 0xd0c0, 0x29]), (0x321a, [0x28, 0xd30c, 0x29]),
  (0x321b, [0x28, 0xd558, 0x29]), (0x321c, [0x28, 0xc8fc, 0x29]), (0x321d, [0x28, 0xc624, 0xc804, 0x29]),
  (0x321e, [0x28, 0xc624, 0xd6c4, 0x29]), (0x3220, [0x28, 0x4e00, 0x29]), (0x3221, [0x28, 0x4e8c, 0x29]),
  (0x3222, [0x28, 0x4e09, 0x29]), (0x3223, [0x28, 0x56db, 0x29]), (0x3224, [0x28, 0x4e94, 0x29]),
  (0x3225, [0x28, 0x516d, 0x29]), (0x3226, [0x28, 0x4e03, 0x29]), (0x3227, [0x28, 0x516b, 0x29]),
  (0x3228, [0x28, 0x4e5d, 0x29]), (0x3229, [0x28, 0x5341, 0x29]), (0x322a, [0x28, 0x6708, 0x29]),
  (0x322b, [0x28, 0x706b, 0x29]), (0x322c, [0x28, 0x6c34, 0x29]), (0x322d, [0x28, 0x6728, 0x29]),
  (0x322e, [0x28, 0x91d1, 0x29]), (0x322f, [0x28, 0x571f, 0x29]), (0x3230, [0x28, 0x65e5, 0x29]),
  (0x3231, [0x28, 0x682a, 0x29]), (0x3232, [0x28, 0x6709, 0x29]), (0x3233, [0x28, 0x793e, 0x29]),
  (0x3234, [0x28, 0x540d, 0x29]), (0x3235, [0x28, 0x7279, 0x29]), (0x3236, [0x28, 0x8ca1, 0x29]),
  (0x3237, [0x28, 0x795d, 0x29]), (0x3238, [0x28, 0x52b4, 0x29]), (0x3239, [0x28, 0x4ee3, 0x29]),
  (0x323a, [0x28, 0x547c, 0x29]), (0x323b, [0x28, 0x5b66, 0x29]), (0x323c, [0x28, 0x76e3, 0x29]),
  (0x323d, [0x28, 0x4f01, 0x29]), (0x323e, [0x28, 0x8cc7, 0x29]), (0x323f, [0x28, 0x5354, 0x29]),
  (0x3240, [0x28, 0x796d, 0x29]), (0x3241, [0x28, 0x4f11, 0x29]), (0x3242, [0x28, 0x81ea, 0x29]),
  (0x3243, [0x28, 0x81f3, 0x29]), (0x3250, [0x70, 0x74, 0x65]), (0x3251, [0x32, 0x31]),
  (0x3252, [0x32, 0x32]), (0x3253, [0x32, 0x33]), (0x3254, [0x32, 0x34]), (0x3255, [0x32, 0x35]),
  (0x3256, [0x32, 0x36]), (0x3257, [0x32, 0x37]), (0x3258, [0x32, 0x38]), (0x3259, [0x32, 0x39]),
  (0x325a, [0x33, 0x30]), (0x325b, [0x33, 0x31]), (0x325c, [0x33, 0x32]), (0x325d, [0x33, 0x33]),
  (0x325e, [0x33, 0x34]), (0x325f, [0x33, 0x35]), (0x327c, [0xcc38, 0xace0]), (0x327d, [0xc8fc, 0xc758]),
  (0x32b1, [0x33, 0x36]), (0x32b2, [0x33, 0x37]), (0x32b3, [0x33, 0x38]), (0x32b4, [0x33, 0x39]),
  (0x32b5, [0x34, 0x30]), (0x32b6, [0x34, 0x31]), (0x32b7, [0x34, 0x32]), (0x32b8, [0x34, 0x33]),
  (0x32b9, [0x34, 0x34]), (0x32ba, [0x34, 0x35]), (0x32bb, [0x34, 0x36]), (0x32bc, [0x34, 0x37]),
  (0x32bd, [0x34, 0x38]), (0x32be, [0x34, 0x39]), (0x32bf, [0x35, 0x30]), (0x32c0, [0x31, 0x6708]),
  (0x32c1, [0x32, 0x6708]), (0x32c2, [0x33, 0x6708]), (0x32c3, [0x34, 0x6708]), (0x32c4, [0x35, 0x6708]),
  (0x32c5, [0x36, 0x6708]), (0x32c6, [0x37, 0x6708]), (0x32c7, [0x38, 0x6708]), (0x32c8, [0x39, 0x6708]),
  (0x32c9, [0x31, 0x30, 0x6708]), (0x32ca, [0x31, 0x31, 0x6708]), (0x32cb, [0x31, 0x32, 0x6708]),
  (0x32cc, [0x68, 0x67]), (0x32cd, [0x65, 0x72, 0x67]), (0x32ce, [0x65, 0x76]),
  (0x32cf, [0x6c, 0x74, 0x64]), (0x32ff, [0x4ee4, 0x548c]), (0x3300, [0x30a2, 0x30d1, 0x30fc, 0x30c8]),
  (0x3301, [0x30a2, 0x30eb, 0x30d5, 0x30a1]), (0x3302, [0x30a2, 0x30f3, 0x30da, 0x30a2]),
  (0x3303, [0x30a2, 0x30fc, 0x30eb]), (0x3304, [0x30a4, 0x30cb, 0x30f3, 0x30b0]),
  (0x3305, [0x30a4, 0x30f3, 0x30c1]), (0x3306, [0x30a6, 0x30a9, 0x30f3]),
  (0x3307, [0x30a8, 0x30b9, 0x30af, 0x30fc, 0x30c9]), (0x3308, [0x30a8, 0x30fc, 0x30ab, 0x30fc]),
  (0x3309, [0x30aa, 0x30f3, 0x30b9]), (0x330a, [0x30aa, 0x30fc, 0x30e0]),
  (0x330b, [0x30ab, 0x30a4, 0x30ea]), (0x330c, [0x30ab, 0x30e9, 0x30c3, 0x30c8]),
  (0x330d, [0x30ab, 0x30ed, 0x30ea, 0x30fc]), (0x330e, [0x30ac, 0x30ed, 0x30f3]),
  (0x330f, [0x30ac, 0x30f3, 0x30de]), (0x3310, [0x30ae, 0x30ac]), (0x3311, [0x30ae, 0x30cb, 0x30fc]),
  (0x3312, [0x30ad, 0x30e5, 0x30ea, 0x30fc]), (0x3313, [0x30ae, 0x30eb, 0x30c0, 0x30fc]),
  (0x3314, [0x30ad, 0x30ed]), (0x3315, [0x30ad, 0x30ed, 0x30b0, 0x30e9, 0x30e0]),
  (0x3316, [0x30ad, 0x30ed, 0x30e1, 0x30fc, 0x30c8, 0x30eb]),
  (0x3317, [0x30ad, 0x30ed, 0x30ef, 0x30c3, 0x30c8]), (0x3318, [0x30b0, 0x30e9, 0x30e0]),
  (0x3319, [0x30b0, 0x30e9, 0x30e0, 0x30c8, 0x30f3]), (0x331a, [0x30af, 0x30eb, 0x30bc, 0x30a4, 0x30ed]),
  (0x331b, [0x30af, 0x30ed, 0x30fc, 0x30cd]), (0x331c, [0x30b1, 0x30fc, 0x30b9]),
  (0x331d, [0x30b3, 0x30eb, 0x30ca]), (0x331e, [0x30b3, 0x30fc, 0x30dd]),
  (0x331f, [0x30b5, 0x30a4, 0x30af, 0x30eb]), (0x3320, [0x30b5, 0x30f3, 0x30c1, 0x30fc, 0x30e0]),
  (0x3321, [0x30b7, 0x30ea, 0x30f3, 0x30b0]), (0x3322, [0x30bb, 0x30f3, 0x30c1]),
  (0x3323, [0x30bb, 0x30f3, 0x30c8]), (0x3324, [0x30c0, 0x30fc, 0x30b9]), (0x3325, [0x30c7, 0x30b7]),
  (0x3326, [0x30c9, 0x30eb]), (0x3327, [0x30c8, 0x30f3]), (0x3328, [0x30ca, 0x30ce]),
  (0x3329, [0x30ce, 0x30c3, 0x30c8]), (0x332a, [0x30cf, 0x30a4, 0x30c4]),
  (0x332b, [0x30d1, 0x30fc, 0x30bb, 0x30f3, 0x30c8]), (0x332c, [0x30d1, 0x30fc, 0x30c4]),
  (0x332d, [0x30d0, 0x30fc, 0x30ec, 0x30eb]), (0x332e, [0x30d4, 0x30a2, 0x30b9, 0x30c8, 0x30eb]),
  (0x332f, [0x30d4, 0x30af, 0x30eb]), (0x3330, [0x30d4, 0x30b3]), (0x3331, [0x30d3, 0x30eb]),
  (0x3332, [0x30d5, 0x30a1, 0x30e9, 0x30c3, 0x30c9]), (0x3333, [0x30d5, 0x30a3, 0x30fc, 0x30c8]),
  (0x3334, [0x30d6, 0x30c3, 0x30b7, 0x30a7, 0x30eb]), (0x3335, [0x30d5, 0x30e9, 0x30f3]),
  (0x3336, [0x30d8, 0x30af, 0x30bf, 0x30fc, 0x30eb]), (0x3337, [0x30da, 0x30bd]),
  (0x3338, [0x30da, 0x30cb, 0x30d2]), (0x3339, [0x30d8, 0x30eb, 0x30c4]),
  (0x333a, [0x30da, 0x30f3, 0x30b9]), (0x333b, [0x30da, 0x30fc, 0x30b8]),
  (0x333c, [0x30d9, 0x30fc, 0x30bf]), (0x333d, [0x30dd, 0x30a4, 0x30f3, 0x30c8]),
  (0x333e, [0x30dc, 0x30eb, 0x30c8]), (0x333f, [0x30db, 0x30f3]), (0x3340, [0x30dd, 0x30f3, 0x30c9]),
  (0x3341, [0x30db, 0x30fc, 0x30eb]), (0x3342, [0x30db, 0x30fc, 0x30f3]),
  (0x3343, [0x30de, 0x30a4, 0x30af, 0x30ed]), (0x3344, [0x30de, 0x30a4, 0x30eb]),
  (0x3345, [0x30de, 0x30c3, 0x30cf]), (0x3346, [0x30de, 0x30eb, 0x30af]),
  (0x3347, [0x30de, 0x30f3, 0x30b7, 0x30e7, 0x30f3]), (0x3348, [0x30df, 0x30af, 0x30ed, 0x30f3]),
  (0x3349, [0x30df, 0x30ea]), (0x334a, [0x30df, 0x30ea, 0x30d0, 0x30fc, 0x30eb]),
  (0x334b, [0x30e1, 0x30ac]), (0x334c, [0x30e1, 0x30ac, 0x30c8, 0x30f3]),
  (0x334d, [0x30e1, 0x30fc, 0x30c8, 0x30eb]), (0x334e, [0x30e4, 0x30fc, 0x30c9]),
  (0x334f, [0x30e4, 0x30fc, 0x30eb]), (0x3350, [0x30e6, 0x30a2, 0x30f3]),
  (0x3351, [0x30ea, 0x30c3, 0x30c8, 0x30eb]), (0x3352, [0x30ea, 0x30e9]),
  (0x3353, [0x30eb, 0x30d4, 0x30fc]), (0x3354, [0x30eb, 0x30fc, 0x30d6, 0x30eb]),
  (0x3355, [0x30ec, 0x30e0]), (0x3356, [0x30ec, 0x30f3, 0x30c8, 0x30b2, 0x30f3]),
  (0x3357, [0x30ef, 0x30c3, 0x30c8]), (0x3358, [0x30, 0x70b9]), (0x3359, [0x31, 0x70b9]),
  (0x335a, [0x32, 0x70b9]), (0x335b, [0x33, 0x70b9]), (0x335c, [0x34, 0x70b9]), (0x335d, [0x35, 0x70b9]),
  (0x335e, [0x36, 0x70b9]), (0x335f, [0x37, 0x70b9]), (0x3360, [0x38, 0x70b9]), (0x3361, [0x39, 0x70b9]),
  (0x3362, [0x31, 0x30, 0x70b9]), (0x3363, [0x31, 0x31, 0x70b9]), (0x3364, [0x31, 0x32, 0x70b9]),
  (0x3365, [0x31, 0x33, 0x70b9]), (0x3366, [0x31, 0x34, 0x70b9]), (0x3367, [0x31, 0x35, 0x70b9]),
  (0x3368, [0x31, 0x36, 0x70b9]), (0x3369, [0x31, 0x37, 0x70b9]), (0x336a, [0x31, 0x38, 0x70b9]),
  (0x336b, [0x31, 0x39, 0x70b9]), (0x336c, [0x32, 0x30, 0x70b9]), (0x336d, [0x32, 0x31, 0x70b9]),
  (0x336e, [0x32, 0x32, 0x70b9]), (0x336f, [0x32, 0x33, 0x70b9]), (0x3370, [0x32, 0x34, 0x70b9]),
  (0x3371, [0x68, 0x70, 0x61]), (0x3372, [0x64, 0x61]), (0x3373, [0x61, 0x75]),
  (0x3374, [0x62, 0x61, 0x72]), (0x3375, [0x6f, 0x76]), (0x3376, [0x70, 0x63]), (0x3377, [0x64, 0x6d]),
  (0x3378, [0x64, 0x6d, 0x32]), (0x3379, [0x64, 0x6d, 0x33]), (0x337a, [0x69, 0x75]),
  (0x337b, [0x5e73, 0x6210]), (0x337c, [0x662d, 0x548c]), (0x337d, [0x5927, 0x6b63]),
  (0x337e, [0x660e, 0x6cbb]), (0x337f, [0x682a, 0x5f0f, 0x4f1a, 0x793e]), (0x3380, [0x70, 0x61]),
  (0x3381, [0x6e, 0x61]), (0x3382, [0x3bc, 0x61]), (0x3383, [0x6d, 0x61]), (0x3384, [0x6b, 0x61]),
  (0x3385, [0x6b, 0x62]), (0x3386, [0x6d, 0x62]), (0x3387, [0x67, 0x62]), (0x3388, [0x63, 0x61, 0x6c]),
  (0x3389, [0x6b, 0x63, 0x61, 0x6c]), (0x338a, [0x70, 0x66]), (0x338b, [0x6e, 0x66]),
  (0x338c, [0x3bc, 0x66]), (0x338d, [0x3bc, 0x67]), (0x338e, [0x6d, 0x67]), (0x338f, [0x6b, 0x67]),
  (0x3390, [0x68, 0x7a]), (0x3391, [0x6b, 0x68, 0x7a]), (0x3392, [0x6d, 0x68, 0x7a]),
  (0x3393, [0x67, 0x68, 0x7a]), (0x3394, [0x74, 0x68, 0x7a]), (0x3395, [0x3bc, 0x6c]),
  (0x3396, [0x6d, 0x6c]), (0x3397, [0x64, 0x6c]), (0x3398, [0x6b, 0x6c]), (0x3399, [0x66, 0x6d]),
  (0x339a, [0x6e, 0x6d]), (0x339b, [0x3bc, 0x6d]), (0x339c, [0x6d, 0x6d]), (0x339d, [0x63, 0x6d]),
  (0x339e, [0x6b, 0x6d]), (0x339f, [0x6d, 0x6d, 0x32]), (0x33a0, [0x63, 0x6d, 0x32]),
  (0x33a1, [0x6d, 0x32]), (0x33a2, [0x6b, 0x6d, 0x32]), (0x33a3, [0x6d, 0x6d, 0x33]),
  (0x33a4, [0x63, 0x6d, 0x33]), (0x33a5, [0x6d, 0x33]), (0x33a6, [0x6b, 0x6d, 0x33]),
  (0x33a7, [0x6d, 0x2215, 0x73]), (0x33a8, [0x6d, 0x2215, 0x73, 0x32]), (0x33a9, [0x70, 0x61]),
  (0x33aa, [0x6b, 0x70, 0x61]), (0x33ab, [0x6d, 0x70, 0x61]), (0x33ac, [0x67, 0x70, 0x61]),
  (0x33ad, [0x72, 0x61, 0x64]), (0x33ae, [0x72, 0x61, 0x64, 0x2215, 0x73]),
  (0x33af, [0x72, 0x61, 0x64, 0x2215, 0x73, 0x32]), (0x33b0, [0x70, 0x73]), (0x33b1, [0x6e, 0x73]),
  (0x33b2, [0x3bc, 0x73]), (0x33b3, [0x6d, 0x73]), (0x33b4, [0x70, 0x76]), (0x33b5, [0x6e, 0x76]),
  (0x33b6, [0x3bc, 0x76]), (0x33b7, [0x6d, 0x76]), (0x33b8, [0x6b, 0x76]), (0x33b9, [0x6d, 0x76]),
  (0x33ba, [0x70, 0x77]), (0x33bb, [0x6e, 0x77]), (0x33bc, [0x3bc, 0x77]), (0x33bd, [0x6d, 0x77]),
  (0x33be, [0x6b, 0x77]), (0x33bf, [0x6d, 0x77]), (0x33c0, [0x6b, 0x3c9]), (0x33c1, [0x6d, 0x3c9]),
  (0x33c2, [0x61, 0x2e, 0x6d, 0x2e]), (0x33c3, [0x62, 0x71]), (0x33c4, [0x63, 0x63]),
  (0x33c5, [0x63, 0x64]), (0x33c6, [0x63, 0x2215, 0x6b, 0x67]), (0x33c7, [0x63, 0x6f, 0x2e]),
  (0x33c8, [0x64, 0x62]), (0x33c9, [0x67, 0x79]), (0x33ca, [0x68, 0x61]), (0x33cb, [0x68, 0x70]),
  (0x33cc, [0x69, 0x6e]), (0x33cd, [0x6b, 0x6b]), (0x33ce, [0x6b, 0x6d]), (0x33cf, [0x6b, 0x74]),
  (0x33d0, [0x6c, 0x6d]), (0x33d1, [0x6c, 0x6e]), (0x33d2, [0x6c, 0x6f, 0x67]), (0x33d3, [0x6c, 0x78]),
  (0x33d4, [0x6d, 0x62]), (0x33d5, [0x6d, 0x69, 0x6c]), (0x33d6, [0x6d, 0x6f, 0x6c]),
  (0x33d7, [0x70, 0x68]), (0x33d8, [0x70, 0x2e, 0x6d, 0x2e]), (0x33d9, [0x70, 0x70, 0x6d]),
  (0x33da, [0x70, 0x72]), (0x33db, [0x73, 0x72]), (0x33dc, [0x73, 0x76]), (0x33dd, [0x77, 0x62]),
  (0x33de, [0x76, 0x2215, 0x6d]), (0x33df, [0x61, 0x2215, 0x6d]), (0x33e0, [0x31, 0x65e5]),
  (0x33e1, [0x32, 0x65e5]), (0x33e2, [0x33, 0x65e5]), (0x33e3, [0x34, 0x65e5]), (0x33e4, [0x35, 0x65e5]),
  (0x33e5, [0x36, 0x65e5]), (0x33e6, [0x37, 0x65e5]), (0x33e7, [0x38, 0x65e5]), (0x33e8, [0x39, 0x65e5]),
  (0x33e9, [0x31, 0x30, 0x65e5]), (0x33ea, [0x31, 0x31, 0x65e5]), (0x33eb, [0x31, 0x32, 0x65e5]),
  (0x33ec, [0x31, 0x33, 0x65e5]), (0x33ed, [0x31, 0x34, 0x65e5]), (0x33ee, [0x31, 0x35, 0x65e5]),
  (0x33ef, [0x31, 0x36, 0x65e5]), (0x33f0, [0x31, 0x37, 0x65e5]), (0x33f1, [0x31, 0x38, 0x65e5]),
  (0x33f2, [0x31, 0x39, 0x65e5]), (0x33f3, [0x32, 0x30, 0x65e5]), (0x33f4, [0x32, 0x31, 0x65e5]),
  (0x33f5, [0x32, 0x32, 0x65e5]), (0x33f6, [0x32, 0x33, 0x65e5]), (0x33f7, [0x32, 0x34, 0x65e5]),
  (0x33f8, [0x32, 0x35, 0x65e5]), (0x33f9, [0x32, 0x36, 0x65e5]), (0x33fa, [0x32, 0x37, 0x65e5]),
  (0x33fb, [0x32, 0x38, 0x65e5]), (0x33fc, [0x32, 0x39, 0x65e5]), (0x33fd, [0x33, 0x30, 0x65e5]),
  (0x33fe, [0x33, 0x31, 0x65e5]), (0x33ff, [0x67, 0x61, 0x6c])]

/-- Replacements of presentation forms by several characters. -/
def foldFormExpansions : List (Nat × List Nat) := [
  (0xfb00, [0x66, 0x66]), (0xfb01, [0x66, 0x69]), (0xfb02, [0x66, 0x6c]), (0xfb03, [0x66, 0x66, 0x69]),
  (0xfb04, [0x66, 0x66, 0x6c]), (0xfb05, [0x73, 0x74]), (0xfb06, [0x73, 0x74]), (0xfb13, [0x574, 0x576]),
  (0xfb14, [0x574, 0x565]), (0xfb15, [0x574, 0x56b]), (0xfb16, [0x57e, 0x576]), (0xfb17, [0x574, 0x56d]),
  (0xfb1d, [0x5d9, 0x5b4]), (0xfb1f, [0x5f2, 0x5b7]), (0xfb2a, [0x5e9, 0x5c1]), (0xfb2b, [0x5e9, 0x5c2]),
  (0xfb2c, [0x5e9, 0x5bc, 0x5c1]), (0xfb2d, [0x5e9, 0x5bc, 0x5c2]), (0xfb2e, [0x5d0, 0x5b7]),
  (0xfb2f, [0x5d0, 0x5b8]), (0xfb30, [0x5d0, 0x5bc]), (0xfb31, [0x5d1, 0x5bc]), (0xfb32, [0x5d2, 0x5bc]),
  (0xfb33, [0x5d3, 0x5bc]), (0xfb34, [0x5d4, 0x5bc]), (0xfb35, [0x5d5, 0x5bc]), (0xfb36, [0x5d6, 0x5bc]),
  (0xfb38, [0x5d8, 0x5bc]), (0xfb39, [0x5d9, 0x5bc]), (0xfb3a, [0x5da, 0x5bc]), (0xfb3b, [0x5db, 0x5bc]),
  (0xfb3c, [0x5dc, 0x5bc]), (0xfb3e, [0x5de, 0x5bc]), (0xfb40, [0x5e0, 0x5bc]), (0xfb41, [0x5e1, 0x5bc]),
  (0xfb43, [0x5e3, 0x5bc]), (0xfb44, [0x5e4, 0x5bc]), (0xfb46, [0x5e6, 0x5bc]), (0xfb47, [0x5e7, 0x5bc]),
  (0xfb48, [0x5e8, 0x5bc]), (0xfb49, [0x5e9, 0x5bc]), (0xfb4a, [0x5ea, 0x5bc]), (0xfb4b, [0x5d5, 0x5b9]),
  (0xfb4c, [0x5d1, 0x5bf]), (0xfb4d, [0x5db, 0x5bf]), (0xfb4e, [0x5e4, 0x5bf]), (0xfb4f, [0x5d0, 0x5dc]),
  (0xfbdd, [0x6c7, 0x674]), (0xfbea, [0x626, 0x627]), (0xfbeb, [0x626, 0x627]), (0xfbec, [0x626, 0x6d5]),
  (0xfbed, [0x626, 0x6d5]), (0xfbee, [0x626, 0x648]), (0xfbef, [0x626, 0x648]), (0xfbf0, [0x626, 0x6c7]),
  (0xfbf1, [0x626, 0x6c7]), (0xfbf2, [0x626, 0x6c6]), (0xfbf3, [0x626, 0x6c6]), (0xfbf4, [0x626, 0x6c8]),
  (0xfbf5, [0x626, 0x6c8]), (0xfbf6, [0x626, 0x6d0]), (0xfbf7, [0x626, 0x6d0]), (0xfbf8, [0x626, 0x6d0]),
  (0xfbf9, [0x626, 0x649]), (0xfbfa, [0x626, 0x649]), (0xfbfb, [0x626, 0x649]), (0xfc00, [0x626, 0x62c]),
  (0xfc01, [0x626, 0x62d]), (0xfc02, [0x626, 0x645]), (0xfc03, [0x626, 0x649]), (0xfc04, [0x626, 0x64a]),
  (0xfc05, [0x628, 0x62c]), (0xfc06, [0x628, 0x62d]), (0xfc07, [0x628, 0x62e]), (0xfc08, [0x628, 0x645]),
  (0xfc09, [0x628, 0x649]), (0xfc0a, [0x628, 0x64a]), (0xfc0b, [0x62a, 0x62c]), (0xfc0c, [0x62a, 0x62d]),
  (0xfc0d, [0x62a, 0x62e]), (0xfc0e, [0x62a, 0x645]), (0xfc0f, [0x62a, 0x649]), (0xfc10, [0x62a, 0x64a]),
  (0xfc11, [0x62b, 0x62c]), (0xfc12, [0x62b, 0x645]), (0xfc13, [0x62b, 0x649]), (0xfc14, [0x62b, 0x64a]),
  (0xfc15, [0x62c, 0x62d]), (0xfc16, [0x62c, 0x645]), (0xfc17, [0x62d, 0x62c]), (0xfc18, [0x62d, 0x645]),
  (0xfc19, [0x62e, 0x62c]), (0xfc1a, [0x62e, 0x62d]), (0xfc1b, [0x62e, 0x645]), (0xfc1c, [0x633, 0x62c]),
  (0xfc1d, [0x633, 0x62d]), (0xfc1e, [0x633, 0x62e]), (0xfc1f, [0x633, 0x645]), (0xfc20, [0x635, 0x62d]),
  (0xfc21, [0x635, 0x645]), (0xfc22, [0x636, 0x62c]), (0xfc23, [0x636, 0x62d]), (0xfc24, [0x636, 0x62e]),
  (0xfc25, [0x636, 0x645]), (0xfc26, [0x637, 0x62d]), (0xfc27, [0x637, 0x645]), (0xfc28, [0x638, 0x645]),
  (0xfc29, [0x639, 0x62c]), (0xfc2a, [0x639, 0x645]), (0xfc2b, [0x63a, 0x62c]), (0xfc2c, [0x63a, 0x645]),
  (0xfc2d, [0x641, 0x62c]), (0xfc2e, [0x641, 0x62d]), (0xfc2f, [0x641, 0x62e]), (0xfc30, [0x641, 0x645]),
  (0xfc31, [0x641, 0x649]), (0xfc32, [0x641, 0x64a]), (0xfc33, [0x642, 0x62d]), (0xfc34, [0x642, 0x645]),
  (0xfc35, [0x642, 0x649]), (0xfc36, [0x642, 0x64a]), (0xfc37, [0x643, 0x627]), (0xfc38, [0x643, 0x62c]),
  (0xfc39, [0x643, 0x62d]), (0xfc3a, [0x643, 0x62e]), (0xfc3b, [0x643, 0x644]), (0xfc3c, [0x643, 0x645]),
  (0xfc3d, [0x643, 0x649]), (0xfc3e, [0x643, 0x64a]), (0xfc3f, [0x644, 0x62c]), (0xfc40, [0x644, 0x62d]),
  (0xfc41, [0x644, 0x62e]), (0xfc42, [0x644, 0x645]), (0xfc43, [0x644, 0x649]), (0xfc44, [0x644, 0x64a]),
  (0xfc45, [0x645, 0x62c]), (0xfc46, [0x645, 0x62d]), (0xfc47, [0x645, 0x62e]), (0xfc48, [0x645, 0x645]),
  (0xfc49, [0x645, 0x649]), (0xfc4a, [0x645, 0x64a]), (0xfc4b, [0x646, 0x62c]), (0xfc4c, [0x646, 0x62d]),
  (0xfc4d, [0x646, 0x62e]), (0xfc4e, [0x646, 0x645]), (0xfc4f, [0x646, 0x649]), (0xfc50, [0x646, 0x64a]),
  (0xfc51, [0x647, 0x62c]), (0xfc52, [0x647, 0x645]), (0xfc53, [0x647, 0x649]), (0xfc54, [0x647, 0x64a]),
  (0xfc55, [0x64a, 0x62c]), (0xfc56, [0x64a, 0x62d]), (0xfc57, [0x64a, 0x62e]), (0xfc58, [0x64a, 0x645]),
  (0xfc59, [0x64a, 0x649]), (0xfc5a, [0x64a, 0x64a]), (0xfc5b, [0x630, 0x670]), (0xfc5c, [0x631, 0x670]),
  (0xfc5d, [0x649, 0x670]), (0xfc5e, [0x20, 0x64c, 0x651]), (0xfc5f, [0x20, 0x64d, 0x651]),
  (0xfc60, [0x20, 0x64e, 0x651]), (0xfc61, [0x20, 0x64f, 0x651]), (0xfc62, [0x20, 0x650, 0x651]),
  (0xfc63, [0x20, 0x651, 0x670]), (0xfc64, [0x626, 0x631]), (0xfc65, [0x626, 0x632]),
  (0xfc66, [0x626, 0x645]), (0xfc67, [0x626, 0x646]), (0xfc68, [0x626, 0x649]), (0xfc69, [0x626, 0x64a]),
  (0xfc6a, [0x628, 0x631]), (0xfc6b, [0x628, 0x632]), (0xfc6c, [0x628, 0x645]), (0xfc6d, [0x628, 0x646]),
  (0xfc6e, [0x628, 0x649]), (0xfc6f, [0x628, 0x64a]), (0xfc70, [0x62a, 0x631]), (0xfc71, [0x62a, 0x632]),
  (0xfc72, [0x62a, 0x645]), (0xfc73, [0x62a, 0x646]), (0xfc74, [0x62a, 0x649]), (0xfc75, [0x62a, 0x64a]),
  (0xfc76, [0x62b, 0x631]), (0xfc77, [0x62b, 0x632]), (0xfc78, [0x62b, 0x645]), (0xfc79, [0x62b, 0x646]),
  (0xfc7a, [0x62b, 0x649]), (0xfc7b, [0x62b, 0x64a]), (0xfc7c, [0x641, 0x649]), (0xfc7d, [0x641, 0x64a]),
  (0xfc7e, [0x642, 0x649]), (0xfc7f, [0x642, 0x64a]), (0xfc80, [0x643, 0x627]), (0xfc81, [0x643, 0x644]),
  (0xfc82, [0x643, 0x645]), (0xfc83, [0x643, 0x649]), (0xfc84, [0x643, 0x64a]), (0xfc85, [0x644, 0x645]),
  (0xfc86, [0x644, 0x649]), (0xfc87, [0x644, 0x64a]), (0xfc88, [0x645, 0x627]), (0xfc89, [0x645, 0x645]),
  (0xfc8a, [0x646, 0x631]), (0xfc8b, [0x646, 0x632]), (0xfc8c, [0x646, 0x645]), (0xfc8d, [0x646, 0x646]),
  (0xfc8e, [0x646, 0x649]), (0xfc8f, [0x646, 0x64a]), (0xfc90, [0x649, 0x670]), (0xfc91, [0x64a, 0x631]),
  (0xfc92, [0x64a, 0x632]), (0xfc93, [0x64a, 0x645]), (0xfc94, [0x64a, 0x646]), (0xfc95, [0x64a, 0x649]),
  (0xfc96, [0x64a, 0x64a]), (0xfc97, [0x626, 0x62c]), (0xfc98, [0x626, 0x62d]), (0xfc99, [0x626, 0x62e]),
  (0xfc9a, [0x626, 0x645]), (0xfc9b, [0x626, 0x647]), (0xfc9c, [0x628, 0x62c]), (0xfc9d, [0x628, 0x62d]),
  (0xfc9e, [0x628, 0x62e]), (0xfc9f, [0x628, 0x645]), (0xfca0, [0x628, 0x647]), (0xfca1, [0x62a, 0x62c]),
  (0xfca2, [0x62a, 0x62d]), (0xfca3, [0x62a, 0x62e]), (0xfca4, [0x62a, 0x645]), (0xfca5, [0x62a, 0x647]),
  (0xfca6, [0x62b, 0x645]), (0xfca7, [0x62c, 0x62d]), (0xfca8, [0x62c, 0x645]), (0xfca9, [0x62d, 0x62c]),
  (0xfcaa, [0x62d, 0x645]), (0xfcab, [0x62e, 0x62c]), (0xfcac, [0x62e, 0x645]), (0xfcad, [0x633, 0x62c]),
  (0xfcae, [0x633, 0x62d]), (0xfcaf, [0x633, 0x62e]), (0xfcb0, [0x633, 0x645]), (0xfcb1, [0x635, 0x62d]),
  (0xfcb2, [0x635, 0x62e]), (0xfcb3, [0x635, 0x645]), (0xfcb4, [0x636, 0x62c]), (0xfcb5, [0x636, 0x62d]),
  (0xfcb6, [0x636, 0x62e]), (0xfcb7, [0x636, 0x645]), (0xfcb8, [0x637, 0x62d]), (0xfcb9, [0x638, 0x645]),
  (0xfcba, [0x639, 0x62c]), (0xfcbb, [0x639, 0x645]), (0xfcbc, [0x63a, 0x62c]), (0xfcbd, [0x63a, 0x645]),
  (0xfcbe, [0x641, 0x62c]), (0xfcbf, [0x641, 0x62d]), (0xfcc0, [0x641, 0x62e]), (0xfcc1, [0x641, 0x645]),
  (0xfcc2, [0x642, 0x62d]), (0xfcc3, [0x642, 0x645]), (0xfcc4, [0x643, 0x62c]), (0xfcc5, [0x643, 0x62d]),
  (0xfcc6, [0x643, 0x62e]), (0xfcc7, [0x643, 0x644]), (0xfcc8, [0x643, 0x645]), (0xfcc9, [0x644, 0x62c]),
  (0xfcca, [0x644, 0x62d]), (0xfccb, [0x644, 0x62e]), (0xfccc, [0x644, 0x645]), (0xfccd, [0x644, 0x647]),
  (0xfcce, [0x645, 0x62c]), (0xfccf, [0x645, 0x62d]), (0xfcd0, [0x645, 0x62e]), (0xfcd1, [0x645, 0x645]),
  (0xfcd2, [0x646, 0x62c]), (0xfcd3, [0x646, 0x62d]), (0xfcd4, [0x646, 0x62e]), (0xfcd5, [0x646, 0x645]),
  (0xfcd6, [0x646, 0x647]), (0xfcd7, [0x647, 0x62c]), (0xfcd8, [0x647, 0x645]), (0xfcd9, [0x647, 0x670]),
  (0xfcda, [0x64a, 0x62c]), (0xfcdb, [0x64a, 0x62d]), (0xfcdc, [0x64a, 0x62e]), (0xfcdd, [0x64a, 0x645]),
  (0xfcde, [0x64a, 0x647]), (0xfcdf, [0x626, 0x645]), (0xfce0, [0x626, 0x647]), (0xfce1, [0x628, 0x645]),
  (0xfce2, [0x628, 0x647]), (0xfce3, [0x62a, 0x645]), (0xfce4, [0x62a, 0x647]), (0xfce5, [0x62b, 0x645]),
  (0xfce6, [0x62b, 0x647]), (0xfce7, [0x633, 0x645]), (0xfce8, [0x633, 0x647]), (0xfce9, [0x634, 0x645]),
  (0xfcea, [0x634, 0x647]), (0xfceb, [0x643, 0x644]), (0xfcec, [0x643, 0x645]), (0xfced, [0x644, 0x645]),
  (0xfcee, [0x646, 0x645]), (0xfcef, [0x646, 0x647]), (0xfcf0, [0x64a, 0x645]), (0xfcf1, [0x64a, 0x647]),
  (0xfcf2, [0x640, 0x64e, 0x651]), (0xfcf3, [0x640, 0x64f, 0x651]), (0xfcf4, [0x640, 0x650, 0x651]),
  (0xfcf5, [0x637, 0x649]), (0xfcf6, [0x637, 0x64a]), (0xfcf7, [0x639, 0x649]), (0xfcf8, [0x639, 0x64a]),
  (0xfcf9, [0x63a, 0x649]), (0xfcfa, [0x63a, 0x64a]), (0xfcfb, [0x633, 0x649]), (0xfcfc, [0x633, 0x64a]),
  (0xfcfd, [0x634, 0x649]), (0xfcfe, [0x634, 0x64a]), (0xfcff, [0x62d, 0x649]), (0xfd00, [0x62d, 0x64a]),
  (0xfd01, [0x62c, 0x649]), (0xfd02, [0x62c, 0x64a]), (0xfd03, [0x62e, 0x649]), (0xfd04, [0x62e, 0x64a]),
  (0xfd05, [0x635, 0x649]), (0xfd06, [0x635, 0x64a]), (0xfd07, [0x636, 0x649]), (0xfd08, [0x636, 0x64a]),
  (0xfd09, [0x634, 0x62c]), (0xfd0a, [0x634, 0x62d]), (0xfd0b, [0x634, 0x62e]), (0xfd0c, [0x634, 0x645]),
  (0xfd0d, [0x634, 0x631]), (0xfd0e, [0x633, 0x631]), (0xfd0f, [0x635, 0x631]), (0xfd10, [0x636, 0x631]),
  (0xfd11, [0x637, 0x649]), (0xfd12, [0x637, 0x64a]), (0xfd13, [0x639, 0x649]), (0xfd14, [0x639, 0x64a]),
  (0xfd15, [0x63a, 0x649]), (0xfd16, [0x63a, 0x64a]), (0xfd17, [0x633, 0x649]), (0xfd18, [0x633, 0x64a]),
  (0xfd19, [0x634, 0x649]), (0xfd1a, [0x634, 0x64a]), (0xfd1b, [0x62d, 0x649]), (0xfd1c, [0x62d, 0x64a]),
  (0xfd1d, [0x62c, 0x649]), (0xfd1e, [0x62c, 0x64a]), (0xfd1f, [0x62e, 0x649]), (0xfd20, [0x62e, 0x64a]),
  (0xfd21, [0x635, 0x649]), (0xfd22, [0x635, 0x64a]), (0xfd23, [0x636, 0x649]), (0xfd24, [0x636, 0x64a]),
  (0xfd25, [0x634, 0x62c]), (0xfd26, [0x634, 0x62d]), (0xfd27, [0x634, 0x62e]), (0xfd28, [0x634, 0x645]),
  (0xfd29, [0x634, 0x631]), (0xfd2a, [0x633, 0x631]), (0xfd2b, [0x635, 0x631]), (0xfd2c, [0x636, 0x631]),
  (0xfd2d, [0x634, 0x62c]), (0xfd2e, [0x634, 0x62d]), (0xfd2f, [0x634, 0x62e]), (0xfd30, [0x634, 0x645]),
  (0xfd31, [0x633, 0x647]), (0xfd32, [0x634, 0x647]), (0xfd33, [0x637, 0x645]), (0xfd34, [0x633, 0x62c]),
  (0xfd35, [0x633, 0x62d]), (0xfd36, [0x633, 0x62e]), (0xfd37, [0x634, 0x62c]), (0xfd38, [0x634, 0x62d]),
  (0xfd39, [0x634, 0x62e]), (0xfd3a, [0x637, 0x645]), (0xfd3b, [0x638, 0x645]), (0xfd3c, [0x627, 0x64b]),
  (0xfd3d, [0x627, 0x64b]), (0xfd50, [0x62a, 0x62c, 0x645]), (0xfd51, [0x62a, 0x62d, 0x62c]),
  (0xfd52, [0x62a, 0x62d, 0x62c]), (0xfd53, [0x62a, 0x62d, 0x645]), (0xfd54, [0x62a, 0x62e, 0x645]),
  (0xfd55, [0x62a, 0x645, 0x62c]), (0xfd56, [0x62a, 0x645, 0x62d]), (0xfd57, [0x62a, 0x645, 0x62e]),
  (0xfd58, [0x62c, 0x645, 0x62d]), (0xfd59, [0x62c, 0x645, 0x62d]), (0xfd5a, [0x62d, 0x645, 0x64a]),
  (0xfd5b, [0x62d, 0x645, 0x649]), (0xfd5c, [0x633, 0x62d, 0x62c]), (0xfd5d, [0x633, 0x62c, 0x62d]),
  (0xfd5e, [0x633, 0x62c, 0x649]), (0xfd5f, [0x633, 0x645, 0x62d]), (0xfd60, [0x633, 0x645, 0x62d]),
  (0xfd61, [0x633, 0x645, 0x62c]), (0xfd62, [0x633, 0x645, 0x645]), (0xfd63, [0x633, 0x645, 0x645]),
  (0xfd64, [0x635, 0x62d, 0x62d]), (0xfd65, [0x635, 0x62d, 0x62d]), (0xfd66, [0x635, 0x645, 0x645]),
  (0xfd67, [0x634, 0x62d, 0x645]), (0xfd68, [0x634, 0x62d, 0x645]), (0xfd69, [0x634, 0x62c, 0x64a]),
  (0xfd6a, [0x634, 0x645, 0x62e]), (0xfd6b, [0x634, 0x645, 0x62e]), (0xfd6c, [0x634, 0x645, 0x645]),
  (0xfd6d, [0x634, 0x645, 0x645]), (0xfd6e, [0x636, 0x62d, 0x649]), (0xfd6f, [0x636, 0x62e, 0x645]),
  (0xfd70, [0x636, 0x62e, 0x645]), (0xfd71, [0x637, 0x645, 0x62d]), (0xfd72, [0x637, 0x645, 0x62d]),
  (0xfd73, [0x637, 0x645, 0x645]), (0xfd74, [0x637, 0x645, 0x64a]), (0xfd75, [0x639, 0x62c, 0x645]),
  (0xfd76, [0x639, 0x645, 0x645]), (0xfd77, [0x639, 0x645, 0x645]), (0xfd78, [0x639, 0x645, 0x649]),
  (0xfd79, [0x63a, 0x645, 0x645]), (0xfd7a, [0x63a, 0x645, 0x64a]), (0xfd7b, [0x63a, 0x645, 0x649]),
  (0xfd7c, [0x641, 0x62e, 0x645]), (0xfd7d, [0x641, 0x62e, 0x645]), (0xfd7e, [0x642, 0x645, 0x62d]),
  (0xfd7f, [0x642, 0x645, 0x645]), (0xfd80, [0x644, 0x62d, 0x645]), (0xfd81, [0x644, 0x62d, 0x64a]),
  (0xfd82, [0x644, 0x62d, 0x649]), (0xfd83, [0x644, 0x62c, 0x62c]), (0xfd84, [0x644, 0x62c, 0x62c]),
  (0xfd85, [0x644, 0x62e, 0x645]), (0xfd86, [0x644, 0x62e, 0x645]), (0xfd87, [0x644, 0x645, 0x62d]),
  (0xfd88, [0x644, 0x645, 0x62d]), (0xfd89, [0x645, 0x62d, 0x62c]), (0xfd8a, [0x645, 0x62d, 0x645]),
  (0xfd8b, [0x645, 0x62d, 0x64a]), (0xfd8c, [0x645, 0x62c, 0x62d]), (0xfd8d, [0x645, 0x62c, 0x645]),
  (0xfd8e, [0x645, 0x62e, 0x62c]), (0xfd8f, [0x645, 0x62e, 0x645]), (0xfd92, [0x645, 0x62c, 0x62e]),
  (0xfd93, [0x647, 0x645, 0x62c]), (0xfd94, [0x647, 0x645, 0x645]), (0xfd95, [0x646, 0x62d, 0x645]),
  (0xfd96, [0x646, 0x62d, 0x649]), (0xfd97, [0x646, 0x62c, 0x645]), (0xfd98, [0x646, 0x62c, 0x645]),
  (0xfd99, [0x646, 0x62c, 0x649]), (0xfd9a, [0x646, 0x645, 0x64a]), (0xfd9b, [0x646, 0x645, 0x649]),
  (0xfd9c, [0x64a, 0x645, 0x645]), (0xfd9d, [0x64a, 0x645, 0x645]), (0xfd9e, [0x628, 0x62e, 0x64a]),
  (0xfd9f, [0x62a, 0x62c, 0x64a]), (0xfda0, [0x62a, 0x62c, 0x649]), (0xfda1, [0x62a, 0x62e, 0x64a]),
  (0xfda2, [0x62a, 0x62e, 0x649]), (0xfda3, [0x62a, 0x645, 0x64a]), (0xfda4, [0x62a, 0x645, 0x649]),
  (0xfda5, [0x62c, 0x645, 0x64a]), (0xfda6, [0x62c, 0x62d, 0x649]), (0xfda7, [0x62c, 0x645, 0x649]),
  (0xfda8, [0x633, 0x62e, 0x649]), (0xfda9, [0x635, 0x62d, 0x64a]), (0xfdaa, [0x634, 0x62d, 0x64a]),
  (0xfdab, [0x636, 0x62d, 0x64a]), (0xfdac, [0x644, 0x62c, 0x64a]), (0xfdad, [0x644, 0x645, 0x64a]),
  (0xfdae, [0x64a, 0x62d, 0x64a]), (0xfdaf, [0x64a, 0x62c, 0x64a]), (0xfdb0, [0x64a, 0x645, 0x64a]),
  (0xfdb1, [0x645, 0x645, 0x64a]), (0xfdb2, [0x642, 0x645, 0x64a]), (0xfdb3, [0x646, 0x62d, 0x64a]),
  (0xfdb4, [0x642, 0x645, 0x62d]), (0xfdb5, [0x644, 0x62d, 0x645]), (0xfdb6, [0x639, 0x645, 0x64a]),
  (0xfdb7, [0x643, 0x645, 0x64a]), (0xfdb8, [0x646, 0x62c, 0x62d]), (0xfdb9, [0x645, 0x62e, 0x64a]),
  (0xfdba, [0x644, 0x62c, 0x645]), (0xfdbb, [0x643, 0x645, 0x645]), (0xfdbc, [0x644, 0x62c, 0x645]),
  (0xfdbd, [0x646, 0x62c, 0x62d]), (0xfdbe, [0x62c, 0x62d, 0x64a]), (0xfdbf, [0x62d, 0x62c, 0x64a]),
  (0xfdc0, [0x645, 0x62c, 0x64a]), (0xfdc1, [0x641, 0x645, 0x64a]), (0xfdc2, [0x628, 0x62d, 0x64a]),
  (0xfdc3, [0x643, 0x645, 0x645]), (0xfdc4, [0x639, 0x62c, 0x645]), (0xfdc5, [0x635, 0x645, 0x645]),
  (0xfdc6, [0x633, 0x62e, 0x64a]), (0xfdc7, [0x646, 0x62c, 0x64a]), (0xfdf0, [0x635, 0x644, 0x6d2]),
  (0xfdf1, [0x642, 0x644, 0x6d2]), (0xfdf2, [0x627, 0x644, 0x644, 0x647]),
  (0xfdf3, [0x627, 0x643, 0x628, 0x631]), (0xfdf4, [0x645, 0x62d, 0x645, 0x62f]),
  (0xfdf5, [0x635, 0x644, 0x639, 0x645]), (0xfdf6, [0x631, 0x633, 0x648, 0x644]),
  (0xfdf7, [0x639, 0x644, 0x64a, 0x647]), (0xfdf8, [0x648, 0x633, 0x644, 0x645]),
  (0xfdf9, [0x635, 0x644, 0x649]),
  (0xfdfa, [0x635, 0x644, 0x649, 0x20, 0x627, 0x644, 0x644, 0x647, 0x20, 0x639, 0x644, 0x64a, 0x647, 0x20, 0x648, 0x633, 0x644, 0x645]),
  (0xfdfb, [0x62c, 0x644, 0x20, 0x62c, 0x644, 0x627, 0x644, 0x647]),
  (0xfdfc, [0x631, 0x6cc, 0x627, 0x644]), (0xfe19, [0x2e, 0x2e, 0x2e]), (0xfe30, [0x2e, 0x2e]),
  (0xfe49, [0x20, 0x305]), (0xfe4a, [0x20, 0x305]), (0xfe4b, [0x20, 0x305]), (0xfe4c, [0x20, 0x305]),
  (0xfe70, [0x20, 0x64b]), (0xfe71, [0x640, 0x64b]), (0xfe72, [0x20, 0x64c]), (0xfe74, [0x20, 0x64d]),
  (0xfe76, [0x20, 0x64e]), (0xfe77, [0x640, 0x64e]), (0xfe78, [0x20, 0x64f]), (0xfe79, [0x640, 0x64f]),
  (0xfe7a, [0x20, 0x650]), (0xfe7b, [0x640, 0x650]), (0xfe7c, [0x20, 0x651]), (0xfe7d, [0x640, 0x651]),
  (0xfe7e, [0x20, 0x652]), (0xfe7f, [0x640, 0x652]), (0xfef5, [0x644, 0x622]), (0xfef6, [0x644, 0x622]),
  (0xfef7, [0x644, 0x623]), (0xfef8, [0x644, 0x623]), (0xfef9, [0x644, 0x625]), (0xfefa, [0x644, 0x625]),
  (0xfefb, [0x644, 0x627]), (0xfefc, [0x644, 0x627]), (0xffe3, [0x20, 0x304])]

/-- Replacements of characters beyond the first plane by several characters. -/
def foldAstralExpansions : List (Nat × List Nat) := [
  (0x1d15e, [0x1d157, 0x1d165]), (0x1d15f, [0x1d158, 0x1d165]), (0x1d160, [0x1d158, 0x1d165, 0x1d16e]),
  (0x1d161, [0x1d158, 0x1d165, 0x1d16f]), (0x1d162, [0x1d158, 0x1d165, 0x1d170]),
  (0x1d163, [0x1d158, 0x1d165, 0x1d171]), (0x1d164, [0x1d158, 0x1d165, 0x1d172]),
  (0x1d1bb, [0x1d1b9, 0x1d165]), (0x1d1bc, [0x1d1ba, 0x1d165]), (0x1d1bd, [0x1d1b9, 0x1d165, 0x1d16e]),
  (0x1d1be, [0x1d1ba, 0x1d165, 0x1d16e]), (0x1d1bf, [0x1d1b9, 0x1d165, 0x1d16f]),
  (0x1d1c0, [0x1d1ba, 0x1d165, 0x1d16f]), (0x1f100, [0x30, 0x2e]), (0x1f101, [0x30, 0x2c]),
  (0x1f102, [0x31, 0x2c]), (0x1f103, [0x32, 0x2c]), (0x1f104, [0x33, 0x2c]), (0x1f105, [0x34, 0x2c]),
  (0x1f106, [0x35, 0x2c]), (0x1f107, [0x36, 0x2c]), (0x1f108, [0x37, 0x2c]), (0x1f109, [0x38, 0x2c]),
  (0x1f10a, [0x39, 0x2c]), (0x1f110, [0x28, 0x61, 0x29]), (0x1f111, [0x28, 0x62, 0x29]),
  (0x1f112, [0x28, 0x63, 0x29]), (0x1f113, [0x28, 0x64, 0x29]), (0x1f114, [0x28, 0x65, 0x29]),
  (0x1f115, [0x28, 0x66, 0x29]), (0x1f116, [0x28, 0x67, 0x29]), (0x1f117, [0x28, 0x68, 0x29]),
  (0x1f118, [0x28, 0x69, 0x29]), (0x1f119, [0x28, 0x6a, 0x29]), (0x1f11a, [0x28, 0x6b, 0x29]),
  (0x1f11b, [0x28, 0x6c, 0x29]), (0x1f11c, [0x28, 0x6d, 0x29]), (0x1f11d, [0x28, 0x6e, 0x29]),
  (0x1f11e, [0x28, 0x6f, 0x29]), (0x1f11f, [0x28, 0x70, 0x29]), (0x1f120, [0x28, 0x71, 0x29]),
  (0x1f121, [0x28, 0x72, 0x29]), (0x1f122, [0x28, 0x73, 0x29]), (0x1f123, [0x28, 0x74, 0x29]),
  (0x1f124, [0x28, 0x75, 0x29]), (0x1f125, [0x28, 0x76, 0x29]), (0x1f126, [0x28, 0x77, 0x29]),
  (0x1f127, [0x28, 0x78, 0x29]), (0x1f128, [0x28, 0x79, 0x29]), (0x1f129, [0x28, 0x7a, 0x29]),
  (0x1f12a, [0x3014, 0x73, 0x3015]), (0x1f12d, [0x63, 0x64]), (0x1f12e, [0x77, 0x7a]),
  (0x1f14a, [0x68, 0x76]), (0x1f14b, [0x6d, 0x76]), (0x1f14c, [0x73, 0x64]), (0x1f14d, [0x73, 0x73]),
  (0x1f14e, [0x70, 0x70, 0x76]), (0x1f14f, [0x77, 0x63]), (0x1f16a, [0x6d, 0x63]),
  (0x1f16b, [0x6d, 0x64]), (0x1f16c, [0x6d, 0x72]), (0x1f190, [0x64, 0x6a]), (0x1f200, [0x307b, 0x304b]),
  (0x1f201, [0x30b3, 0x30b3]), (0x1f240, [0x3014, 0x672c, 0x3015]), (0x1f241, [0x3014, 0x4e09, 0x3015]),
  (0x1f242, [0x3014, 0x4e8c, 0x3015]), (0x1f243, [0x3014, 0x5b89, 0x3015]),
  (0x1f244, [0x3014, 0x70b9, 0x3015]), (0x1f245, [0x3014, 0x6253, 0x3015]),
  (0x1f246, [0x3014, 0x76d7, 0x3015]), (0x1f247, [0x3014, 0x52dd, 0x3015]),
  (0x1f248, [0x3014, 0x6557, 0x3015])]

/-- All characters that are replaced by several. -/
def foldExpansions : List (Nat × List Nat) :=
  foldLetterExpansions ++ foldSignExpansions ++ foldFormExpansions ++ foldAstralExpansions

/-- Ranges of characters that are dropped. -/
def foldDropped : List (Nat × Nat) := [
  (0xad, 0xad), (0x34f, 0x34f), (0x180b, 0x180d), (0x180f, 0x180f), (0x200b, 0x200b), (0x2060, 0x2060),
  (0x2064, 0x2064), (0xfe00, 0xfe0f), (0xfeff, 0xfeff), (0x1bca0, 0x1bca3), (0xe0100, 0xe01ef)]

/-- Ranges of characters that no name may hold. -/
def foldRefused : List (Nat × Nat) := [
  (0x80, 0x9f), (0x378, 0x379), (0x380, 0x383), (0x38b, 0x38b), (0x38d, 0x38d), (0x3a2, 0x3a2),
  (0x530, 0x530), (0x557, 0x558), (0x58b, 0x58c), (0x590, 0x590), (0x5c8, 0x5cf), (0x5eb, 0x5ee),
  (0x5f5, 0x605), (0x61c, 0x61c), (0x6dd, 0x6dd), (0x70e, 0x70f), (0x74b, 0x74c), (0x7b2, 0x7bf),
  (0x7fb, 0x7fc), (0x82e, 0x82f), (0x83f, 0x83f), (0x85c, 0x85d), (0x85f, 0x85f), (0x86b, 0x86f),
  (0x88f, 0x897), (0x8e2, 0x8e2), (0x984, 0x984), (0x98d, 0x98e), (0x991, 0x992), (0x9a9, 0x9a9),
  (0x9b1, 0x9b1), (0x9b3, 0x9b5), (0x9ba, 0x9bb), (0x9c5, 0x9c6), (0x9c9, 0x9ca), (0x9cf, 0x9d6),
  (0x9d8, 0x9db), (0x9de, 0x9de), (0x9e4, 0x9e5), (0x9ff, 0xa00), (0xa04, 0xa04), (0xa0b, 0xa0e),
  (0xa11, 0xa12), (0xa29, 0xa29), (0xa31, 0xa31), (0xa34, 0xa34), (0xa37, 0xa37), (0xa3a, 0xa3b),
  (0xa3d, 0xa3d), (0xa43, 0xa46), (0xa49, 0xa4a), (0xa4e, 0xa50), (0xa52, 0xa58), (0xa5d, 0xa5d),
  (0xa5f, 0xa65), (0xa77, 0xa80), (0xa84, 0xa84), (0xa8e, 0xa8e), (0xa92, 0xa92), (0xaa9, 0xaa9),
  (0xab1, 0xab1), (0xab4, 0xab4), (0xaba, 0xabb), (0xac6, 0xac6), (0xaca, 0xaca), (0xace, 0xacf),
  (0xad1, 0xadf), (0xae4, 0xae5), (0xaf2, 0xaf8), (0xb00, 0xb00), (0xb04, 0xb04), (0xb0d, 0xb0e),
  (0xb11, 0xb12), (0xb29, 0xb29), (0xb31, 0xb31), (0xb34, 0xb34), (0xb3a, 0xb3b), (0xb45, 0xb46),
  (0xb49, 0xb4a), (0xb4e, 0xb54), (0xb58, 0xb5b), (0xb5e, 0xb5e), (0xb64, 0xb65), (0xb78, 0xb81),
  (0xb84, 0xb84), (0xb8b, 0xb8d), (0xb91, 0xb91), (0xb96, 0xb98), (0xb9b, 0xb9b), (0xb9d, 0xb9d),
  (0xba0, 0xba2), (0xba5, 0xba7), (0xbab, 0xbad), (0xbba, 0xbbd), (0xbc3, 0xbc5), (0xbc9, 0xbc9),
  (0xbce, 0xbcf), (0xbd1, 0xbd6), (0xbd8, 0xbe5), (0xbfb, 0xbff), (0xc0d, 0xc0d), (0xc11, 0xc11),
  (0xc29, 0xc29), (0xc3a, 0xc3b), (0xc45, 0xc45), (0xc49, 0xc49), (0xc4e, 0xc54), (0xc57, 0xc57),
  (0xc5b, 0xc5c), (0xc5e, 0xc5f), (0xc64, 0xc65), (0xc70, 0xc76), (0xc8d, 0xc8d), (0xc91, 0xc91),
  (0xca9, 0xca9), (0xcb4, 0xcb4), (0xcba, 0xcbb), (0xcc5, 0xcc5), (0xcc9, 0xcc9), (0xcce, 0xcd4),
  (0xcd7, 0xcdc), (0xcdf, 0xcdf), (0xce4, 0xce5), (0xcf0, 0xcf0), (0xcf3, 0xcff), (0xd0d, 0xd0d),
  (0xd11, 0xd11), (0xd45, 0xd45), (0xd49, 0xd49), (0xd50, 0xd53), (0xd64, 0xd65), (0xd80, 0xd80),
  (0xd84, 0xd84), (0xd97, 0xd99), (0xdb2, 0xdb2), (0xdbc, 0xdbc), (0xdbe, 0xdbf), (0xdc7, 0xdc9),
  (0xdcb, 0xdce), (0xdd5, 0xdd5), (0xdd7, 0xdd7), (0xde0, 0xde5), (0xdf0, 0xdf1), (0xdf5, 0xe00),
  (0xe3b, 0xe3e), (0xe5c, 0xe80), (0xe83, 0xe83), (0xe85, 0xe85), (0xe8b, 0xe8b), (0xea4, 0xea4),
  (0xea6, 0xea6), (0xebe, 0xebf), (0xec5, 0xec5), (0xec7, 0xec7), (0xece, 0xecf), (0xeda, 0xedb),
  (0xee0, 0xeff), (0xf48, 0xf48), (0xf6d, 0xf70), (0xf98, 0xf98), (0xfbd, 0xfbd), (0xfcd, 0xfcd),
  (0xfdb, 0xfff), (0x10c6, 0x10c6), (0x10c8, 0x10cc), (0x10ce, 0x10cf), (0x115f, 0x1160),
  (0x1249, 0x1249), (0x124e, 0x124f), (0x1257, 0x1257), (0x1259, 0x1259), (0x125e, 0x125f),
  (0x1289, 0x1289), (0x128e, 0x128f), (0x12b1, 0x12b1), (0x12b6, 0x12b7), (0x12bf, 0x12bf),
  (0x12c1, 0x12c1), (0x12c6, 0x12c7), (0x12d7, 0x12d7), (0x1311, 0x1311), (0x1316, 0x1317),
  (0x135b, 0x135c), (0x137d, 0x137f), (0x139a, 0x139f), (0x13f6, 0x13f7), (0x13fe, 0x13ff),
  (0x1680, 0x1680), (0x169d, 0x169f), (0x16f9, 0x16ff), (0x1716, 0x171e), (0x1737, 0x173f),
  (0x1754, 0x175f), (0x176d, 0x176d), (0x1771, 0x1771), (0x1774, 0x177f), (0x17b4, 0x17b5),
  (0x17de, 0x17df), (0x17ea, 0x17ef), (0x17fa, 0x17ff), (0x180e, 0x180e), (0x181a, 0x181f),
  (0x1879, 0x187f), (0x18ab, 0x18af), (0x18f6, 0x18ff), (0x191f, 0x191f), (0x192c, 0x192f),
  (0x193c, 0x193f), (0x1941, 0x1943), (0x196e, 0x196f), (0x1975, 0x197f), (0x19ac, 0x19af),
  (0x19ca, 0x19cf), (0x19db, 0x19dd), (0x1a1c, 0x1a1d), (0x1a5f, 0x1a5f), (0x1a7d, 0x1a7e),
  (0x1a8a, 0x1a8f), (0x1a9a, 0x1a9f), (0x1aae, 0x1aaf), (0x1acf, 0x1aff), (0x1b4d, 0x1b4f),
  (0x1b7f, 0x1b7f), (0x1bf4, 0x1bfb), (0x1c38, 0x1c3a), (0x1c4a, 0x1c4c), (0x1c89, 0x1c8f),
  (0x1cbb, 0x1cbc), (0x1cc8, 0x1ccf), (0x1cfb, 0x1cff), (0x1f16, 0x1f17), (0x1f1e, 0x1f1f),
  (0x1f46, 0x1f47), (0x1f4e, 0x1f4f), (0x1f58, 0x1f58), (0x1f5a, 0x1f5a), (0x1f5c, 0x1f5c),
  (0x1f5e, 0x1f5e), (0x1f7e, 0x1f7f), (0x1fb5, 0x1fb5), (0x1fc5, 0x1fc5), (0x1fd4, 0x1fd5),
  (0x1fdc, 0x1fdc), (0x1ff0, 0x1ff1), (0x1ff5, 0x1ff5), (0x1fff, 0x1fff), (0x200e, 0x200f),
  (0x2024, 0x2026), (0x2028, 0x202e), (0x2061, 0x2063), (0x2065, 0x206f), (0x2072, 0x2073),
  (0x208f, 0x208f), (0x209d, 0x209f), (0x20c1, 0x20cf), (0x20f1, 0x20ff), (0x218c, 0x218f),
  (0x2427, 0x243f), (0x244b, 0x245f), (0x2488, 0x249b), (0x2b74, 0x2b75), (0x2b96, 0x2b96),
  (0x2cf4, 0x2cf8), (0x2d26, 0x2d26), (0x2d28, 0x2d2c), (0x2d2e, 0x2d2f), (0x2d68, 0x2d6e),
  (0x2d71, 0x2d7e), (0x2d97, 0x2d9f), (0x2da7, 0x2da7), (0x2daf, 0x2daf), (0x2db7, 0x2db7),
  (0x2dbf, 0x2dbf), (0x2dc7, 0x2dc7), (0x2dcf, 0x2dcf), (0x2dd7, 0x2dd7), (0x2ddf, 0x2ddf),
  (0x2e5e, 0x2e7f), (0x2e9a, 0x2e9a), (0x2ef4, 0x2eff), (0x2fd6, 0x2fff), (0x3040, 0x3040),
  (0x3097, 0x3098), (0x3100, 0x3104), (0x3130, 0x3130), (0x3164, 0x3164), (0x318f, 0x318f),
  (0x31e4, 0x31ef), (0x321f, 0x321f), (0xa48d, 0xa48f), (0xa4c7, 0xa4cf), (0xa62c, 0xa63f),
  (0xa6f8, 0xa6ff), (0xa7cb, 0xa7cf), (0xa7d2, 0xa7d2), (0xa7d4, 0xa7d4), (0xa7da, 0xa7f1),
  (0xa82d, 0xa82f), (0xa83a, 0xa83f), (0xa878, 0xa87f), (0xa8c6, 0xa8cd), (0xa8da, 0xa8df),
  (0xa954, 0xa95e), (0xa97d, 0xa97f), (0xa9ce, 0xa9ce), (0xa9da, 0xa9dd), (0xa9ff, 0xa9ff),
  (0xaa37, 0xaa3f), (0xaa4e, 0xaa4f), (0xaa5a, 0xaa5b), (0xaac3, 0xaada), (0xaaf7, 0xab00),
  (0xab07, 0xab08), (0xab0f, 0xab10), (0xab17, 0xab1f), (0xab27, 0xab27), (0xab2f, 0xab2f),
  (0xab6c, 0xab6f), (0xabee, 0xabef), (0xabfa, 0xabff), (0xd7a4, 0xd7af), (0xd7c7, 0xd7ca),
  (0xd7fc, 0xf8ff), (0xfa6e, 0xfa6f), (0xfada, 0xfaff), (0xfb07, 0xfb12), (0xfb18, 0xfb1c),
  (0xfb37, 0xfb37), (0xfb3d, 0xfb3d), (0xfb3f, 0xfb3f), (0xfb42, 0xfb42), (0xfb45, 0xfb45),
  (0xfbc3, 0xfbd2), (0xfd90, 0xfd91), (0xfdc8, 0xfdce), (0xfdd0, 0xfdef), (0xfe1a, 0xfe1f),
  (0xfe53, 0xfe53), (0xfe67, 0xfe67), (0xfe6c, 0xfe6f), (0xfe75, 0xfe75), (0xfefd, 0xfefe),
  (0xff00, 0xff00), (0xffa0, 0xffa0), (0xffbf, 0xffc1), (0xffc8, 0xffc9), (0xffd0, 0xffd1),
  (0xffd8, 0xffd9), (0xffdd, 0xffdf), (0xffe7, 0xffe7), (0xffef, 0xffff), (0x1000c, 0x1000c),
  (0x10027, 0x10027), (0x1003b, 0x1003b), (0x1003e, 0x1003e), (0x1004e, 0x1004f), (0x1005e, 0x1007f),
  (0x100fb, 0x100ff), (0x10103, 0x10106), (0x10134, 0x10136), (0x1018f, 0x1018f), (0x1019d, 0x1019f),
  (0x101a1, 0x101cf), (0x101fe, 0x1027f), (0x1029d, 0x1029f), (0x102d1, 0x102df), (0x102fc, 0x102ff),
  (0x10324, 0x1032c), (0x1034b, 0x1034f), (0x1037b, 0x1037f), (0x1039e, 0x1039e), (0x103c4, 0x103c7),
  (0x103d6, 0x103ff), (0x1049e, 0x1049f), (0x104aa, 0x104af), (0x104d4, 0x104d7), (0x104fc, 0x104ff),
  (0x10528, 0x1052f), (0x10564, 0x1056e), (0x1057b, 0x1057b), (0x1058b, 0x1058b), (0x10593, 0x10593),
  (0x10596, 0x10596), (0x105a2, 0x105a2), (0x105b2, 0x105b2), (0x105ba, 0x105ba), (0x105bd, 0x105ff),
  (0x10737, 0x1073f), (0x10756, 0x1075f), (0x10768, 0x1077f), (0x10786, 0x10786), (0x107b1, 0x107b1),
  (0x107bb, 0x107ff), (0x10806, 0x10807), (0x10809, 0x10809), (0x10836, 0x10836), (0x10839, 0x1083b),
  (0x1083d, 0x1083e), (0x10856, 0x10856), (0x1089f, 0x108a6), (0x108b0, 0x108df), (0x108f3, 0x108f3),
  (0x108f6, 0x108fa), (0x1091c, 0x1091e), (0x1093a, 0x1093e), (0x10940, 0x1097f), (0x109b8, 0x109bb),
  (0x109d0, 0x109d1), (0x10a04, 0x10a04), (0x10a07, 0x10a0b), (0x10a14, 0x10a14), (0x10a18, 0x10a18),
  (0x10a36, 0x10a37), (0x10a3b, 0x10a3e), (0x10a49, 0x10a4f), (0x10a59, 0x10a5f), (0x10aa0, 0x10abf),
  (0x10ae7, 0x10aea), (0x10af7, 0x10aff), (0x10b36, 0x10b38), (0x10b56, 0x10b57), (0x10b73, 0x10b77),
  (0x10b92, 0x10b98), (0x10b9d, 0x10ba8), (0x10bb0, 0x10bff), (0x10c49, 0x10c7f), (0x10cb3, 0x10cbf),
  (0x10cf3, 0x10cf9), (0x10d28, 0x10d2f), (0x10d3a, 0x10e5f), (0x10e7f, 0x10e7f), (0x10eaa, 0x10eaa),
  (0x10eae, 0x10eaf), (0x10eb2, 0x10eff), (0x10f28, 0x10f2f), (0x10f5a, 0x10f6f), (0x10f8a, 0x10faf),
  (0x10fcc, 0x10fdf), (0x10ff7, 0x10fff), (0x1104e, 0x11051), (0x11076, 0x1107e), (0x110bd, 0x110bd),
  (0x110c3, 0x110cf), (0x110e9, 0x110ef), (0x110fa, 0x110ff), (0x11135, 0x11135), (0x11148, 0x1114f),
  (0x11177, 0x1117f), (0x111e0, 0x111e0), (0x111f5, 0x111ff), (0x11212, 0x11212), (0x1123f, 0x1127f),
  (0x11287, 0x11287), (0x11289, 0x11289), (0x1128e, 0x1128e), (0x1129e, 0x1129e), (0x112aa, 0x112af),
  (0x112eb, 0x112ef), (0x112fa, 0x112ff), (0x11304, 0x11304), (0x1130d, 0x1130e), (0x11311, 0x11312),
  (0x11329, 0x11329), (0x11331, 0x11331), (0x11334, 0x11334), (0x1133a, 0x1133a), (0x11345, 0x11346),
  (0x11349, 0x1134a), (0x1134e, 0x1134f), (0x11351, 0x11356), (0x11358, 0x1135c), (0x11364, 0x11365),
  (0x1136d, 0x1136f), (0x11375, 0x113ff), (0x1145c, 0x1145c), (0x11462, 0x1147f), (0x114c8, 0x114cf),
  (0x114da, 0x1157f), (0x115b6, 0x115b7), (0x115de, 0x115ff), (0x11645, 0x1164f), (0x1165a, 0x1165f),
  (0x1166d, 0x1167f), (0x116ba, 0x116bf), (0x116ca, 0x116ff), (0x1171b, 0x1171c), (0x1172c, 0x1172f),
  (0x11747, 0x117ff), (0x1183c, 0x1189f), (0x118f3, 0x118fe), (0x11907, 0x11908), (0x1190a, 0x1190b),
  (0x11914, 0x11914), (0x11917, 0x11917), (0x11936, 0x11936), (0x11939, 0x1193a), (0x11947, 0x1194f),
  (0x1195a, 0x1199f), (0x119a8, 0x119a9), (0x119d8, 0x119d9), (0x119e5, 0x119ff), (0x11a48, 0x11a4f),
  (0x11aa3, 0x11aaf), (0x11af9, 0x11bff), (0x11c09, 0x11c09), (0x11c37, 0x11c37), (0x11c46, 0x11c4f),
  (0x11c6d, 0x11c6f), (0x11c90, 0x11c91), (0x11ca8, 0x11ca8), (0x11cb7, 0x11cff), (0x11d07, 0x11d07),
  (0x11d0a, 0x11d0a), (0x11d37, 0x11d39), (0x11d3b, 0x11d3b), (0x11d3e, 0x11d3e), (0x11d48, 0x11d4f),
  (0x11d5a, 0x11d5f), (0x11d66, 0x11d66), (0x11d69, 0x11d69), (0x11d8f, 0x11d8f), (0x11d92, 0x11d92),
  (0x11d99, 0x11d9f), (0x11daa, 0x11edf), (0x11ef9, 0x11faf), (0x11fb1, 0x11fbf), (0x11ff2, 0x11ffe),
  (0x1239a, 0x123ff), (0x1246f, 0x1246f), (0x12475, 0x1247f), (0x12544, 0x12f8f), (0x12ff3, 0x12fff),
  (0x1342f, 0x143ff), (0x14647, 0x167ff), (0x16a39, 0x16a3f), (0x16a5f, 0x16a5f), (0x16a6a, 0x16a6d),
  (0x16abf, 0x16abf), (0x16aca, 0x16acf), (0x16aee, 0x16aef), (0x16af6, 0x16aff), (0x16b46, 0x16b4f),
  (0x16b5a, 0x16b5a), (0x16b62, 0x16b62), (0x16b78, 0x16b7c), (0x16b90, 0x16e3f), (0x16e9b, 0x16eff),
  (0x16f4b, 0x16f4e), (0x16f88, 0x16f8e), (0x16fa0, 0x16fdf), (0x16fe5, 0x16fef), (0x16ff2, 0x16fff),
  (0x187f8, 0x187ff), (0x18cd6, 0x18cff), (0x18d09, 0x1afef), (0x1aff4, 0x1aff4), (0x1affc, 0x1affc),
  (0x1afff, 0x1afff), (0x1b123, 0x1b14f), (0x1b153, 0x1b163), (0x1b168, 0x1b16f), (0x1b2fc, 0x1bbff),
  (0x1bc6b, 0x1bc6f), (0x1bc7d, 0x1bc7f), (0x1bc89, 0x1bc8f), (0x1bc9a, 0x1bc9b), (0x1bca4, 0x1ceff),
  (0x1cf2e, 0x1cf2f), (0x1cf47, 0x1cf4f), (0x1cfc4, 0x1cfff), (0x1d0f6, 0x1d0ff), (0x1d127, 0x1d128),
  (0x1d173, 0x1d17a), (0x1d1eb, 0x1d1ff), (0x1d246, 0x1d2df), (0x1d2f4, 0x1d2ff), (0x1d357, 0x1d35f),
  (0x1d379, 0x1d3ff), (0x1d455, 0x1d455), (0x1d49d, 0x1d49d), (0x1d4a0, 0x1d4a1), (0x1d4a3, 0x1d4a4),
  (0x1d4a7, 0x1d4a8), (0x1d4ad, 0x1d4ad), (0x1d4ba, 0x1d4ba), (0x1d4bc, 0x1d4bc), (0x1d4c4, 0x1d4c4),
  (0x1d506, 0x1d506), (0x1d50b, 0x1d50c), (0x1d515, 0x1d515), (0x1d51d, 0x1d51d), (0x1d53a, 0x1d53a),
  (0x1d53f, 0x1d53f), (0x1d545, 0x1d545), (0x1d547, 0x1d549), (0x1d551, 0x1d551), (0x1d6a6, 0x1d6a7),
  (0x1d7cc, 0x1d7cd), (0x1da8c, 0x1da9a), (0x1daa0, 0x1daa0), (0x1dab0, 0x1deff), (0x1df1f, 0x1dfff),
  (0x1e007, 0x1e007), (0x1e019, 0x1e01a), (0x1e022, 0x1e022), (0x1e025, 0x1e025), (0x1e02b, 0x1e0ff),
  (0x1e12d, 0x1e12f), (0x1e13e, 0x1e13f), (0x1e14a, 0x1e14d), (0x1e150, 0x1e28f), (0x1e2af, 0x1e2bf),
  (0x1e2fa, 0x1e2fe), (0x1e300, 0x1e7df), (0x1e7e7, 0x1e7e7), (0x1e7ec, 0x1e7ec), (0x1e7ef, 0x1e7ef),
  (0x1e7ff, 0x1e7ff), (0x1e8c5, 0x1e8c6), (0x1e8d7, 0x1e8ff), (0x1e94c, 0x1e94f), (0x1e95a, 0x1e95d),
  (0x1e960, 0x1ec70), (0x1ecb5, 0x1ed00), (0x1ed3e, 0x1edff), (0x1ee04, 0x1ee04), (0x1ee20, 0x1ee20),
  (0x1ee23, 0x1ee23), (0x1ee25, 0x1ee26), (0x1ee28, 0x1ee28), (0x1ee33, 0x1ee33), (0x1ee38, 0x1ee38),
  (0x1ee3a, 0x1ee3a), (0x1ee3c, 0x1ee41), (0x1ee43, 0x1ee46), (0x1ee48, 0x1ee48), (0x1ee4a, 0x1ee4a),
  (0x1ee4c, 0x1ee4c), (0x1ee50, 0x1ee50), (0x1ee53, 0x1ee53), (0x1ee55, 0x1ee56), (0x1ee58, 0x1ee58),
  (0x1ee5a, 0x1ee5a), (0x1ee5c, 0x1ee5c), (0x1ee5e, 0x1ee5e), (0x1ee60, 0x1ee60), (0x1ee63, 0x1ee63),
  (0x1ee65, 0x1ee66), (0x1ee6b, 0x1ee6b), (0x1ee73, 0x1ee73), (0x1ee78, 0x1ee78), (0x1ee7d, 0x1ee7d),
  (0x1ee7f, 0x1ee7f), (0x1ee8a, 0x1ee8a), (0x1ee9c, 0x1eea0), (0x1eea4, 0x1eea4), (0x1eeaa, 0x1eeaa),
  (0x1eebc, 0x1eeef), (0x1eef2, 0x1efff), (0x1f02c, 0x1f02f), (0x1f094, 0x1f09f), (0x1f0af, 0x1f0b0),
  (0x1f0c0, 0x1f0c0), (0x1f0d0, 0x1f0d0), (0x1f0f6, 0x1f0ff), (0x1f1ae, 0x1f1e5), (0x1f203, 0x1f20f),
  (0x1f23c, 0x1f23f), (0x1f249, 0x1f24f), (0x1f252, 0x1f25f), (0x1f266, 0x1f2ff), (0x1f6d8, 0x1f6dc),
  (0x1f6ed, 0x1f6ef), (0x1f6fd, 0x1f6ff), (0x1f774, 0x1f77f), (0x1f7d9, 0x1f7df), (0x1f7ec, 0x1f7ef),
  (0x1f7f1, 0x1f7ff), (0x1f80c, 0x1f80f), (0x1f848, 0x1f84f), (0x1f85a, 0x1f85f), (0x1f888, 0x1f88f),
  (0x1f8ae, 0x1f8af), (0x1f8b2, 0x1f8ff), (0x1fa54, 0x1fa5f), (0x1fa6e, 0x1fa6f), (0x1fa75, 0x1fa77),
  (0x1fa7d, 0x1fa7f), (0x1fa87, 0x1fa8f), (0x1faad, 0x1faaf), (0x1fabb, 0x1fabf), (0x1fac6, 0x1facf),
  (0x1fada, 0x1fadf), (0x1fae8, 0x1faef), (0x1faf7, 0x1faff), (0x1fb93, 0x1fb93), (0x1fbcb, 0x1fbef),
  (0x1fbfa, 0x1ffff), (0x2a6e0, 0x2a6ff), (0x2b73a, 0x2b73f), (0x2b81e, 0x2b81f), (0x2cea2, 0x2ceaf),
  (0x2ebe1, 0x2ebef), (0x2ee5e, 0x2f7ff), (0x2fa1e, 0x2ffff), (0x3134b, 0x3134f), (0x3347a, 0xe00ff),
  (0xe01f0, 0x10ffff)]

/-- The folded form of a character; none if no name may hold it. Capital ASCII letters become small. -/
def fold? (c : Char) : Option (List Char) :=
  let n := c.toNat
  if n < 128 then some [c.toLower]
  else if within foldRefused n then none
  else if within foldDropped n then some []
  else
    match foldExpansions.lookup n with
    | some expansion => some (expansion.map Char.ofNat)
    | none =>
      match foldRuns.find? fun run => run.first ≤ n && n ≤ run.last && (n - run.first) % run.step == 0 with
      | some run => some [Char.ofNat (run.target + (n - run.first))]
      | none => some [c]

end TextSocket.Text
