import Oxo.Foundation.Text

/-!
Contract: full Unicode case mapping of text, as string libraries document it.

Owns:
- the characters beyond ASCII whose upper-case form is ASCII text;
- the laws an upper-casing must obey, and the mapping of Unicode 14.0, which obeys them;
- what an upper-cased text says about the text it came from, seen through CGI names;
- lower-casing, as far as ASCII text goes.

Does not own: any particular header name.
-/

namespace Oxo.Foundation

/-- The characters beyond ASCII whose full upper-case form is ASCII, each with that
form in lower case. -/
def asciiSpellings : List (Char × String) :=
  [('\u00df', "ss"), ('\u0131', "i"), ('\u017f', "s"), ('\ufb00', "ff"), ('\ufb01', "fi"),
    ('\ufb02', "fl"), ('\ufb03', "ffi"), ('\ufb04', "ffl"), ('\ufb05', "st"), ('\ufb06', "st")]

/-- The ASCII text a character is spelled with once case is set aside, if it has one;
other characters stand for themselves. -/
def asciiSpelling (char : Char) : List Char :=
  match asciiSpellings.lookup char with
  | some spelled => spelled.toList
  | none => [char]

def spellAscii (text : List Char) : List Char :=
  text.flatMap asciiSpelling

/-- An upper-casing of text, character by character. A character beyond ASCII whose
form is not pure ASCII may still contain ASCII capitals (`ŉ`, `ẘ`). -/
structure FullUpcase where
  image : Char → List Char
  image_ascii : ∀ char : Char, char.toNat < 128 → image char = [char.toUpper]
  image_spelled : ∀ entry ∈ asciiSpellings, image entry.1 = entry.2.toList.map Char.toUpper
  image_other : ∀ char : Char, 128 ≤ char.toNat → asciiSpellings.lookup char = none →
    (∃ upper ∈ image char, 128 ≤ upper.toNat) ∧
      ∀ upper ∈ image char, upper.toNat < 128 → upper.isUpper = true

def FullUpcase.upcase (mapping : FullUpcase) (text : List Char) : List Char :=
  text.flatMap mapping.image

/-! ## The mapping of Unicode 14.0 -/

/-- Every `step`-th code point from `first` to `last` has a single upper-case code point,
counted from `target`. -/
structure CaseRange where
  first : Nat
  last : Nat
  step : Nat
  target : Nat

def CaseRange.covers (range : CaseRange) (code : Nat) : Bool :=
  range.first ≤ code && code ≤ range.last && (code - range.first) % range.step == 0

/-- The single-character mappings whose result is beyond ASCII. -/
def caseRanges : List CaseRange :=
  [
    ⟨0xb5, 0xb5, 1, 0x39c⟩, ⟨0xe0, 0xf6, 1, 0xc0⟩, ⟨0xf8, 0xfe, 1, 0xd8⟩,
    ⟨0xff, 0xff, 1, 0x178⟩, ⟨0x101, 0x12f, 2, 0x100⟩, ⟨0x133, 0x137, 2, 0x132⟩,
    ⟨0x13a, 0x148, 2, 0x139⟩, ⟨0x14b, 0x177, 2, 0x14a⟩, ⟨0x17a, 0x17e, 2, 0x179⟩,
    ⟨0x180, 0x180, 1, 0x243⟩, ⟨0x183, 0x185, 2, 0x182⟩, ⟨0x188, 0x188, 1, 0x187⟩,
    ⟨0x18c, 0x18c, 1, 0x18b⟩, ⟨0x192, 0x192, 1, 0x191⟩, ⟨0x195, 0x195, 1, 0x1f6⟩,
    ⟨0x199, 0x199, 1, 0x198⟩, ⟨0x19a, 0x19a, 1, 0x23d⟩, ⟨0x19e, 0x19e, 1, 0x220⟩,
    ⟨0x1a1, 0x1a5, 2, 0x1a0⟩, ⟨0x1a8, 0x1a8, 1, 0x1a7⟩, ⟨0x1ad, 0x1ad, 1, 0x1ac⟩,
    ⟨0x1b0, 0x1b0, 1, 0x1af⟩, ⟨0x1b4, 0x1b6, 2, 0x1b3⟩, ⟨0x1b9, 0x1b9, 1, 0x1b8⟩,
    ⟨0x1bd, 0x1bd, 1, 0x1bc⟩, ⟨0x1bf, 0x1bf, 1, 0x1f7⟩, ⟨0x1c5, 0x1c5, 1, 0x1c4⟩,
    ⟨0x1c6, 0x1c6, 1, 0x1c4⟩, ⟨0x1c8, 0x1c8, 1, 0x1c7⟩, ⟨0x1c9, 0x1c9, 1, 0x1c7⟩,
    ⟨0x1cb, 0x1cb, 1, 0x1ca⟩, ⟨0x1cc, 0x1cc, 1, 0x1ca⟩, ⟨0x1ce, 0x1dc, 2, 0x1cd⟩,
    ⟨0x1dd, 0x1dd, 1, 0x18e⟩, ⟨0x1df, 0x1ef, 2, 0x1de⟩, ⟨0x1f2, 0x1f2, 1, 0x1f1⟩,
    ⟨0x1f3, 0x1f3, 1, 0x1f1⟩, ⟨0x1f5, 0x1f5, 1, 0x1f4⟩, ⟨0x1f9, 0x21f, 2, 0x1f8⟩,
    ⟨0x223, 0x233, 2, 0x222⟩, ⟨0x23c, 0x23c, 1, 0x23b⟩, ⟨0x23f, 0x240, 1, 0x2c7e⟩,
    ⟨0x242, 0x242, 1, 0x241⟩, ⟨0x247, 0x24f, 2, 0x246⟩, ⟨0x250, 0x250, 1, 0x2c6f⟩,
    ⟨0x251, 0x251, 1, 0x2c6d⟩, ⟨0x252, 0x252, 1, 0x2c70⟩, ⟨0x253, 0x253, 1, 0x181⟩,
    ⟨0x254, 0x254, 1, 0x186⟩, ⟨0x256, 0x257, 1, 0x189⟩, ⟨0x259, 0x259, 1, 0x18f⟩,
    ⟨0x25b, 0x25b, 1, 0x190⟩, ⟨0x25c, 0x25c, 1, 0xa7ab⟩, ⟨0x260, 0x260, 1, 0x193⟩,
    ⟨0x261, 0x261, 1, 0xa7ac⟩, ⟨0x263, 0x263, 1, 0x194⟩, ⟨0x265, 0x265, 1, 0xa78d⟩,
    ⟨0x266, 0x266, 1, 0xa7aa⟩, ⟨0x268, 0x268, 1, 0x197⟩, ⟨0x269, 0x269, 1, 0x196⟩,
    ⟨0x26a, 0x26a, 1, 0xa7ae⟩, ⟨0x26b, 0x26b, 1, 0x2c62⟩, ⟨0x26c, 0x26c, 1, 0xa7ad⟩,
    ⟨0x26f, 0x26f, 1, 0x19c⟩, ⟨0x271, 0x271, 1, 0x2c6e⟩, ⟨0x272, 0x272, 1, 0x19d⟩,
    ⟨0x275, 0x275, 1, 0x19f⟩, ⟨0x27d, 0x27d, 1, 0x2c64⟩, ⟨0x280, 0x280, 1, 0x1a6⟩,
    ⟨0x282, 0x282, 1, 0xa7c5⟩, ⟨0x283, 0x283, 1, 0x1a9⟩, ⟨0x287, 0x287, 1, 0xa7b1⟩,
    ⟨0x288, 0x288, 1, 0x1ae⟩, ⟨0x289, 0x289, 1, 0x244⟩, ⟨0x28a, 0x28b, 1, 0x1b1⟩,
    ⟨0x28c, 0x28c, 1, 0x245⟩, ⟨0x292, 0x292, 1, 0x1b7⟩, ⟨0x29d, 0x29d, 1, 0xa7b2⟩,
    ⟨0x29e, 0x29e, 1, 0xa7b0⟩, ⟨0x345, 0x345, 1, 0x399⟩, ⟨0x371, 0x373, 2, 0x370⟩,
    ⟨0x377, 0x377, 1, 0x376⟩, ⟨0x37b, 0x37d, 1, 0x3fd⟩, ⟨0x3ac, 0x3ac, 1, 0x386⟩,
    ⟨0x3ad, 0x3af, 1, 0x388⟩, ⟨0x3b1, 0x3c1, 1, 0x391⟩, ⟨0x3c2, 0x3c2, 1, 0x3a3⟩,
    ⟨0x3c3, 0x3cb, 1, 0x3a3⟩, ⟨0x3cc, 0x3cc, 1, 0x38c⟩, ⟨0x3cd, 0x3ce, 1, 0x38e⟩,
    ⟨0x3d0, 0x3d0, 1, 0x392⟩, ⟨0x3d1, 0x3d1, 1, 0x398⟩, ⟨0x3d5, 0x3d5, 1, 0x3a6⟩,
    ⟨0x3d6, 0x3d6, 1, 0x3a0⟩, ⟨0x3d7, 0x3d7, 1, 0x3cf⟩, ⟨0x3d9, 0x3ef, 2, 0x3d8⟩,
    ⟨0x3f0, 0x3f0, 1, 0x39a⟩, ⟨0x3f1, 0x3f1, 1, 0x3a1⟩, ⟨0x3f2, 0x3f2, 1, 0x3f9⟩,
    ⟨0x3f3, 0x3f3, 1, 0x37f⟩, ⟨0x3f5, 0x3f5, 1, 0x395⟩, ⟨0x3f8, 0x3f8, 1, 0x3f7⟩,
    ⟨0x3fb, 0x3fb, 1, 0x3fa⟩, ⟨0x430, 0x44f, 1, 0x410⟩, ⟨0x450, 0x45f, 1, 0x400⟩,
    ⟨0x461, 0x481, 2, 0x460⟩, ⟨0x48b, 0x4bf, 2, 0x48a⟩, ⟨0x4c2, 0x4ce, 2, 0x4c1⟩,
    ⟨0x4cf, 0x4cf, 1, 0x4c0⟩, ⟨0x4d1, 0x52f, 2, 0x4d0⟩, ⟨0x561, 0x586, 1, 0x531⟩,
    ⟨0x10d0, 0x10fa, 1, 0x1c90⟩, ⟨0x10fd, 0x10ff, 1, 0x1cbd⟩, ⟨0x13f8, 0x13fd, 1, 0x13f0⟩,
    ⟨0x1c80, 0x1c80, 1, 0x412⟩, ⟨0x1c81, 0x1c81, 1, 0x414⟩, ⟨0x1c82, 0x1c82, 1, 0x41e⟩,
    ⟨0x1c83, 0x1c84, 1, 0x421⟩, ⟨0x1c85, 0x1c85, 1, 0x422⟩, ⟨0x1c86, 0x1c86, 1, 0x42a⟩,
    ⟨0x1c87, 0x1c87, 1, 0x462⟩, ⟨0x1c88, 0x1c88, 1, 0xa64a⟩, ⟨0x1d79, 0x1d79, 1, 0xa77d⟩,
    ⟨0x1d7d, 0x1d7d, 1, 0x2c63⟩, ⟨0x1d8e, 0x1d8e, 1, 0xa7c6⟩, ⟨0x1e01, 0x1e95, 2, 0x1e00⟩,
    ⟨0x1e9b, 0x1e9b, 1, 0x1e60⟩, ⟨0x1ea1, 0x1eff, 2, 0x1ea0⟩, ⟨0x1f00, 0x1f07, 1, 0x1f08⟩,
    ⟨0x1f10, 0x1f15, 1, 0x1f18⟩, ⟨0x1f20, 0x1f27, 1, 0x1f28⟩, ⟨0x1f30, 0x1f37, 1, 0x1f38⟩,
    ⟨0x1f40, 0x1f45, 1, 0x1f48⟩, ⟨0x1f51, 0x1f57, 2, 0x1f59⟩, ⟨0x1f60, 0x1f67, 1, 0x1f68⟩,
    ⟨0x1f70, 0x1f71, 1, 0x1fba⟩, ⟨0x1f72, 0x1f75, 1, 0x1fc8⟩, ⟨0x1f76, 0x1f77, 1, 0x1fda⟩,
    ⟨0x1f78, 0x1f79, 1, 0x1ff8⟩, ⟨0x1f7a, 0x1f7b, 1, 0x1fea⟩, ⟨0x1f7c, 0x1f7d, 1, 0x1ffa⟩,
    ⟨0x1fb0, 0x1fb1, 1, 0x1fb8⟩, ⟨0x1fbe, 0x1fbe, 1, 0x399⟩, ⟨0x1fd0, 0x1fd1, 1, 0x1fd8⟩,
    ⟨0x1fe0, 0x1fe1, 1, 0x1fe8⟩, ⟨0x1fe5, 0x1fe5, 1, 0x1fec⟩, ⟨0x214e, 0x214e, 1, 0x2132⟩,
    ⟨0x2170, 0x217f, 1, 0x2160⟩, ⟨0x2184, 0x2184, 1, 0x2183⟩, ⟨0x24d0, 0x24e9, 1, 0x24b6⟩,
    ⟨0x2c30, 0x2c5f, 1, 0x2c00⟩, ⟨0x2c61, 0x2c61, 1, 0x2c60⟩, ⟨0x2c65, 0x2c65, 1, 0x23a⟩,
    ⟨0x2c66, 0x2c66, 1, 0x23e⟩, ⟨0x2c68, 0x2c6c, 2, 0x2c67⟩, ⟨0x2c73, 0x2c73, 1, 0x2c72⟩,
    ⟨0x2c76, 0x2c76, 1, 0x2c75⟩, ⟨0x2c81, 0x2ce3, 2, 0x2c80⟩, ⟨0x2cec, 0x2cee, 2, 0x2ceb⟩,
    ⟨0x2cf3, 0x2cf3, 1, 0x2cf2⟩, ⟨0x2d00, 0x2d25, 1, 0x10a0⟩, ⟨0x2d27, 0x2d27, 1, 0x10c7⟩,
    ⟨0x2d2d, 0x2d2d, 1, 0x10cd⟩, ⟨0xa641, 0xa66d, 2, 0xa640⟩, ⟨0xa681, 0xa69b, 2, 0xa680⟩,
    ⟨0xa723, 0xa72f, 2, 0xa722⟩, ⟨0xa733, 0xa76f, 2, 0xa732⟩, ⟨0xa77a, 0xa77c, 2, 0xa779⟩,
    ⟨0xa77f, 0xa787, 2, 0xa77e⟩, ⟨0xa78c, 0xa78c, 1, 0xa78b⟩, ⟨0xa791, 0xa793, 2, 0xa790⟩,
    ⟨0xa794, 0xa794, 1, 0xa7c4⟩, ⟨0xa797, 0xa7a9, 2, 0xa796⟩, ⟨0xa7b5, 0xa7c3, 2, 0xa7b4⟩,
    ⟨0xa7c8, 0xa7ca, 2, 0xa7c7⟩, ⟨0xa7d1, 0xa7d1, 1, 0xa7d0⟩, ⟨0xa7d7, 0xa7d9, 2, 0xa7d6⟩,
    ⟨0xa7f6, 0xa7f6, 1, 0xa7f5⟩, ⟨0xab53, 0xab53, 1, 0xa7b3⟩, ⟨0xab70, 0xabbf, 1, 0x13a0⟩,
    ⟨0xff41, 0xff5a, 1, 0xff21⟩, ⟨0x10428, 0x1044f, 1, 0x10400⟩, ⟨0x104d8, 0x104fb, 1, 0x104b0⟩,
    ⟨0x10597, 0x105bb, 2, 0x10570⟩, ⟨0x10598, 0x105a0, 2, 0x10571⟩,
    ⟨0x105a4, 0x105b0, 2, 0x1057d⟩, ⟨0x105b4, 0x105b8, 2, 0x1058d⟩,
    ⟨0x105bc, 0x105bc, 1, 0x10595⟩, ⟨0x10cc0, 0x10cf2, 1, 0x10c80⟩,
    ⟨0x118c0, 0x118df, 1, 0x118a0⟩, ⟨0x16e60, 0x16e7f, 1, 0x16e40⟩,
    ⟨0x1e922, 0x1e943, 1, 0x1e900⟩
  ]

/-- The remaining mappings to several characters. -/
def specialCasing : List (Nat × List Nat) :=
  [
    (0x149, [0x2bc, 0x4e]), (0x1f0, [0x4a, 0x30c]), (0x390, [0x399, 0x308, 0x301]),
    (0x3b0, [0x3a5, 0x308, 0x301]), (0x587, [0x535, 0x552]), (0x1e96, [0x48, 0x331]),
    (0x1e97, [0x54, 0x308]), (0x1e98, [0x57, 0x30a]), (0x1e99, [0x59, 0x30a]),
    (0x1e9a, [0x41, 0x2be]), (0x1f50, [0x3a5, 0x313]), (0x1f52, [0x3a5, 0x313, 0x300]),
    (0x1f54, [0x3a5, 0x313, 0x301]), (0x1f56, [0x3a5, 0x313, 0x342]), (0x1f80, [0x1f08, 0x399]),
    (0x1f81, [0x1f09, 0x399]), (0x1f82, [0x1f0a, 0x399]), (0x1f83, [0x1f0b, 0x399]),
    (0x1f84, [0x1f0c, 0x399]), (0x1f85, [0x1f0d, 0x399]), (0x1f86, [0x1f0e, 0x399]),
    (0x1f87, [0x1f0f, 0x399]), (0x1f88, [0x1f08, 0x399]), (0x1f89, [0x1f09, 0x399]),
    (0x1f8a, [0x1f0a, 0x399]), (0x1f8b, [0x1f0b, 0x399]), (0x1f8c, [0x1f0c, 0x399]),
    (0x1f8d, [0x1f0d, 0x399]), (0x1f8e, [0x1f0e, 0x399]), (0x1f8f, [0x1f0f, 0x399]),
    (0x1f90, [0x1f28, 0x399]), (0x1f91, [0x1f29, 0x399]), (0x1f92, [0x1f2a, 0x399]),
    (0x1f93, [0x1f2b, 0x399]), (0x1f94, [0x1f2c, 0x399]), (0x1f95, [0x1f2d, 0x399]),
    (0x1f96, [0x1f2e, 0x399]), (0x1f97, [0x1f2f, 0x399]), (0x1f98, [0x1f28, 0x399]),
    (0x1f99, [0x1f29, 0x399]), (0x1f9a, [0x1f2a, 0x399]), (0x1f9b, [0x1f2b, 0x399]),
    (0x1f9c, [0x1f2c, 0x399]), (0x1f9d, [0x1f2d, 0x399]), (0x1f9e, [0x1f2e, 0x399]),
    (0x1f9f, [0x1f2f, 0x399]), (0x1fa0, [0x1f68, 0x399]), (0x1fa1, [0x1f69, 0x399]),
    (0x1fa2, [0x1f6a, 0x399]), (0x1fa3, [0x1f6b, 0x399]), (0x1fa4, [0x1f6c, 0x399]),
    (0x1fa5, [0x1f6d, 0x399]), (0x1fa6, [0x1f6e, 0x399]), (0x1fa7, [0x1f6f, 0x399]),
    (0x1fa8, [0x1f68, 0x399]), (0x1fa9, [0x1f69, 0x399]), (0x1faa, [0x1f6a, 0x399]),
    (0x1fab, [0x1f6b, 0x399]), (0x1fac, [0x1f6c, 0x399]), (0x1fad, [0x1f6d, 0x399]),
    (0x1fae, [0x1f6e, 0x399]), (0x1faf, [0x1f6f, 0x399]), (0x1fb2, [0x1fba, 0x399]),
    (0x1fb3, [0x391, 0x399]), (0x1fb4, [0x386, 0x399]), (0x1fb6, [0x391, 0x342]),
    (0x1fb7, [0x391, 0x342, 0x399]), (0x1fbc, [0x391, 0x399]), (0x1fc2, [0x1fca, 0x399]),
    (0x1fc3, [0x397, 0x399]), (0x1fc4, [0x389, 0x399]), (0x1fc6, [0x397, 0x342]),
    (0x1fc7, [0x397, 0x342, 0x399]), (0x1fcc, [0x397, 0x399]), (0x1fd2, [0x399, 0x308, 0x300]),
    (0x1fd3, [0x399, 0x308, 0x301]), (0x1fd6, [0x399, 0x342]), (0x1fd7, [0x399, 0x308, 0x342]),
    (0x1fe2, [0x3a5, 0x308, 0x300]), (0x1fe3, [0x3a5, 0x308, 0x301]), (0x1fe4, [0x3a1, 0x313]),
    (0x1fe6, [0x3a5, 0x342]), (0x1fe7, [0x3a5, 0x308, 0x342]), (0x1ff2, [0x1ffa, 0x399]),
    (0x1ff3, [0x3a9, 0x399]), (0x1ff4, [0x38f, 0x399]), (0x1ff6, [0x3a9, 0x342]),
    (0x1ff7, [0x3a9, 0x342, 0x399]), (0x1ffc, [0x3a9, 0x399]), (0xfb13, [0x544, 0x546]),
    (0xfb14, [0x544, 0x535]), (0xfb15, [0x544, 0x53b]), (0xfb16, [0x54e, 0x546]),
    (0xfb17, [0x544, 0x53d])
  ]

def unicodeImage (char : Char) : List Char :=
  if char.toNat < 128 then [char.toUpper]
  else
    match asciiSpellings.lookup char with
    | some spelled => spelled.toList.map Char.toUpper
    | none =>
      match specialCasing.lookup char.toNat with
      | some codes => codes.map Char.ofNat
      | none =>
        match caseRanges.find? (fun range => range.covers char.toNat) with
        | some range => [Char.ofNat (range.target + (char.toNat - range.first))]
        | none => [char]

/-- Every range maps to scalar values beyond ASCII. -/
private theorem caseRanges_targets : ∀ range ∈ caseRanges, 128 ≤ range.target ∧
    (range.target + (range.last - range.first) < 0xd800 ∨
      0xe000 ≤ range.target ∧ range.target + (range.last - range.first) < 0x110000) := by
  decide +kernel

private theorem specialCasing_images : ∀ entry ∈ specialCasing,
    (∃ upper ∈ entry.2.map Char.ofNat, 128 ≤ upper.toNat) ∧
      ∀ upper ∈ entry.2.map Char.ofNat, upper.toNat < 128 → upper.isUpper = true := by
  decide +kernel

private theorem asciiSpellings_images : ∀ entry ∈ asciiSpellings,
    unicodeImage entry.1 = entry.2.toList.map Char.toUpper := by
  decide +kernel

private theorem mem_of_lookup {α β : Type} [BEq α] [LawfulBEq α] {entries : List (α × β)}
    {key : α} {value : β} (found : entries.lookup key = some value) : (key, value) ∈ entries := by
  induction entries with
  | nil => cases found
  | cons entry rest inductionHypothesis =>
      rw [List.lookup_cons] at found
      split at found
      · rename_i same
        rw [beq_iff_eq] at same
        subst same
        cases found
        exact List.mem_cons_self
      · exact List.mem_cons_of_mem _ (inductionHypothesis found)

private theorem unicodeImage_other {char : Char} (beyond : 128 ≤ char.toNat)
    (unspelled : asciiSpellings.lookup char = none) :
    (∃ upper ∈ unicodeImage char, 128 ≤ upper.toNat) ∧
      ∀ upper ∈ unicodeImage char, upper.toNat < 128 → upper.isUpper = true := by
  have notAscii : ¬ char.toNat < 128 := by omega
  simp only [unicodeImage, if_neg notAscii, unspelled]
  split
  · rename_i codes found
    exact specialCasing_images _ (mem_of_lookup found)
  · split
    · rename_i range found
      have targets := caseRanges_targets range (List.mem_of_find?_eq_some found)
      have covered := List.find?_some found
      simp only [CaseRange.covers, Bool.and_eq_true, decide_eq_true_eq] at covered
      have code : (Char.ofNat (range.target + (char.toNat - range.first))).toNat =
          range.target + (char.toNat - range.first) := by
        apply toNat_ofNat_of_scalar
        omega
      simp only [List.mem_singleton, exists_eq_left, forall_eq, code]
      omega
    · simp only [List.mem_singleton, exists_eq_left, forall_eq]
      omega

def unicodeUpcase : FullUpcase where
  image := unicodeImage
  image_ascii := fun _ ascii => if_pos ascii
  image_spelled := asciiSpellings_images
  image_other := fun _ beyond unspelled => unicodeImage_other beyond unspelled

/-! ## CGI names -/

def dashToUnderscore (char : Char) : Char :=
  if char = '-' then '_' else char

/-- A character of a CGI name: ASCII upper case, with `_` for `-`. -/
def cgiChar (char : Char) : Char :=
  dashToUnderscore char.toUpper

/-- The characters of names that are already lowercase and carry no underscore. -/
def IsFolded (char : Char) : Prop :=
  char.isUpper = false ∧ char ≠ '_'

instance (char : Char) : Decidable (IsFolded char) :=
  inferInstanceAs (Decidable (_ ∧ _))

theorem toUpper_toNat (char : Char) :
    char.toUpper.toNat =
      if 97 ≤ char.toNat ∧ char.toNat ≤ 122 then char.toNat - 32 else char.toNat := by
  have range : (char.val ≥ 'a'.val ∧ char.val ≤ 'z'.val) ↔
      97 ≤ char.toNat ∧ char.toNat ≤ 122 := by
    simp only [ge_iff_le, UInt32.le_iff_toNat_le]
    exact Iff.rfl
  unfold Char.toUpper
  split
  · rename_i lower
    have bounds := range.mp lower
    rw [if_pos bounds]
    have value : (char.val + ('A'.val - 'a'.val)).toNat = char.toNat - 32 := by
      rw [UInt32.toNat_add]
      change (char.toNat + 4294967264) % 2 ^ 32 = _
      omega
    exact value
  · rename_i notLower
    rw [if_neg (fun bounds => notLower (range.mpr bounds))]

theorem isUpper_iff (char : Char) :
    char.isUpper = true ↔ 65 ≤ char.toNat ∧ char.toNat ≤ 90 := by
  change decide (char.val ≥ 'A'.val ∧ char.val ≤ 'Z'.val) = true ↔ _
  simp only [ge_iff_le, decide_eq_true_eq, UInt32.le_iff_toNat_le]
  exact Iff.rfl

theorem dashToUnderscore_toNat (char : Char) :
    (dashToUnderscore char).toNat = if char.toNat = 45 then 95 else char.toNat := by
  unfold dashToUnderscore
  by_cases dash : char = '-'
  · subst dash
    rfl
  · have different : char.toNat ≠ 45 := fun same => dash (Char.toNat_inj.mp same)
    rw [if_neg dash, if_neg different]

theorem cgiChar_toNat (char : Char) :
    (cgiChar char).toNat =
      if 97 ≤ char.toNat ∧ char.toNat ≤ 122 then char.toNat - 32
      else if char.toNat = 45 then 95 else char.toNat := by
  rw [cgiChar, dashToUnderscore_toNat, toUpper_toNat]
  split_ifs <;> omega

@[simp] theorem cgiChar_toLower (char : Char) : cgiChar char.toLower = cgiChar char := by
  apply Char.toNat_inj.mp
  rw [cgiChar_toNat, cgiChar_toNat, toLower_toNat]
  split_ifs <;> omega

/-- ASCII characters stay ASCII. -/
theorem cgiChar_ascii {char : Char} (ascii : char.toNat < 128) : (cgiChar char).toNat < 128 := by
  rw [cgiChar_toNat]
  split_ifs <;> omega

theorem IsFolded.toNat {char : Char} (folded : IsFolded char) :
    ¬ (65 ≤ char.toNat ∧ char.toNat ≤ 90) ∧ char.toNat ≠ 95 := by
  have notUpper := mt (isUpper_iff char).mpr (by simp [folded.1])
  exact ⟨notUpper, fun same => folded.2 (Char.toNat_inj.mp same)⟩

/-- On folded names the CGI name forgets nothing. -/
theorem cgiChar_injective {left right : Char} (leftFolded : IsFolded left)
    (rightFolded : IsFolded right) (same : cgiChar left = cgiChar right) : left = right := by
  apply Char.toNat_inj.mp
  have codes := congrArg Char.toNat same
  rw [cgiChar_toNat, cgiChar_toNat] at codes
  have leftCode := leftFolded.toNat
  have rightCode := rightFolded.toNat
  split_ifs at codes <;> omega

theorem map_cgiChar_injective {left right : List Char} (leftFolded : ∀ char ∈ left, IsFolded char)
    (rightFolded : ∀ char ∈ right, IsFolded char)
    (same : left.map cgiChar = right.map cgiChar) : left = right := by
  induction left generalizing right with
  | nil => exact (List.map_eq_nil_iff.mp same.symm).symm
  | cons head rest inductionHypothesis =>
      cases right with
      | nil => cases same
      | cons other tail =>
          simp only [List.map_cons, List.cons.injEq] at same
          have heads := cgiChar_injective (leftFolded head List.mem_cons_self)
            (rightFolded other List.mem_cons_self) same.1
          have tails := inductionHypothesis
            (fun char member => leftFolded char (List.mem_cons_of_mem _ member))
            (fun char member => rightFolded char (List.mem_cons_of_mem _ member)) same.2
          rw [heads, tails]

theorem map_cgiChar_prefix_iff {left right : List Char} (leftFolded : ∀ char ∈ left, IsFolded char)
    (rightFolded : ∀ char ∈ right, IsFolded char) :
    left.map cgiChar <+: right.map cgiChar ↔ left <+: right := by
  constructor
  · intro opens
    have taken := List.prefix_iff_eq_take.mp opens
    rw [← List.map_take, List.length_map] at taken
    have same := map_cgiChar_injective leftFolded
      (fun char member => rightFolded char (List.mem_of_mem_take member)) taken
    rw [same]
    exact List.take_prefix _ _
  · intro opens
    exact opens.map cgiChar

private theorem asciiSpellings_letters : ∀ entry ∈ asciiSpellings, ∀ char ∈ entry.2.toList,
    97 ≤ char.toNat ∧ char.toNat ≤ 122 := by
  decide +kernel

/-- A character either has an ASCII spelling, which its upper-case form capitalizes, or it
stands for itself and its upper-case form leaves ASCII before any `_`. -/
private theorem image_cases (mapping : FullUpcase) (char : Char) :
    ((∀ spelled ∈ asciiSpelling char, spelled.toNat < 128) ∧
        (mapping.image char).map dashToUnderscore = (asciiSpelling char).map cgiChar) ∨
      (128 ≤ char.toNat ∧ asciiSpelling char = [char] ∧
        (∃ upper ∈ (mapping.image char).map dashToUnderscore, 128 ≤ upper.toNat) ∧
        ∀ upper ∈ (mapping.image char).map dashToUnderscore, upper.toNat < 128 →
          upper.isUpper = true) := by
  cases found : asciiSpellings.lookup char with
  | some spelled =>
      left
      have member := mem_of_lookup found
      have letters := asciiSpellings_letters _ member
      have image := mapping.image_spelled _ member
      simp only [asciiSpelling, found]
      constructor
      · intro letter isLetter
        have := letters letter isLetter
        omega
      · rw [image, List.map_map]
        rfl
  | none =>
      have alone : asciiSpelling char = [char] := by
        simp only [asciiSpelling, found]
      by_cases ascii : char.toNat < 128
      · left
        rw [alone, mapping.image_ascii char ascii]
        simp only [List.mem_singleton, forall_eq, List.map_cons, List.map_nil]
        exact ⟨ascii, rfl⟩
      · right
        have image := mapping.image_other char (by omega) found
        have unchanged : (mapping.image char).map dashToUnderscore = mapping.image char := by
          conv_rhs => rw [← List.map_id (mapping.image char)]
          apply List.map_congr_left
          intro upper member
          have capital := image.2 upper member
          rw [isUpper_iff] at capital
          apply Char.toNat_inj.mp
          rw [dashToUnderscore_toNat, id_eq]
          split_ifs <;> omega
        rw [unchanged]
        exact ⟨by omega, alone, image.1, image.2⟩

theorem asciiSpelling_folded {char : Char} (folded : IsFolded char) :
    ∀ spelled ∈ asciiSpelling char, IsFolded spelled := by
  intro letter member
  unfold asciiSpelling at member
  split at member
  · rename_i spelled found
    have bounds := asciiSpellings_letters _ (mem_of_lookup found) letter member
    constructor
    · rw [← Bool.not_eq_true, isUpper_iff]
      omega
    · intro same
      subst same
      revert bounds
      decide
  · rw [List.mem_singleton.mp member]
    exact folded

theorem spellAscii_folded {text : List Char} (folded : ∀ char ∈ text, IsFolded char) :
    ∀ char ∈ spellAscii text, IsFolded char := by
  intro letter member
  obtain ⟨char, inText, spelled⟩ := List.mem_flatMap.mp member
  exact asciiSpelling_folded (folded char inText) letter spelled

/-- The CGI form of upper-cased text. -/
def FullUpcase.cgi (mapping : FullUpcase) (text : List Char) : List Char :=
  (mapping.upcase text).map dashToUnderscore

theorem FullUpcase.cgi_cons (mapping : FullUpcase) (char : Char) (rest : List Char) :
    mapping.cgi (char :: rest) =
      (mapping.image char).map dashToUnderscore ++ mapping.cgi rest := by
  simp [FullUpcase.cgi, FullUpcase.upcase]

/-- Of ASCII text the CGI form is taken character by character. -/
theorem FullUpcase.cgi_of_ascii (mapping : FullUpcase) {text : List Char}
    (ascii : ∀ char ∈ text, char.toNat < 128) : mapping.cgi text = text.map cgiChar := by
  induction text with
  | nil => rfl
  | cons char rest inductionHypothesis =>
      obtain ⟨charAscii, restAscii⟩ := List.forall_mem_cons.mp ascii
      rw [mapping.cgi_cons, mapping.image_ascii char charAscii, inductionHypothesis restAscii]
      rfl

/-- An ASCII word is the CGI form of a text exactly when it is that of its spelling. -/
theorem FullUpcase.cgi_eq_iff (mapping : FullUpcase) {text word : List Char}
    (ascii : ∀ char ∈ word, char.toNat < 128) :
    mapping.cgi text = word ↔ (spellAscii text).map cgiChar = word := by
  induction text generalizing word with
  | nil => rfl
  | cons char rest inductionHypothesis =>
      rw [mapping.cgi_cons, spellAscii, List.flatMap_cons, List.map_append]
      rcases image_cases mapping char with ⟨-, plain⟩ | ⟨beyond, alone, ⟨upper, member, high⟩, -⟩
      · rw [plain]
        constructor
        · rintro rfl
          rw [List.append_cancel_left_eq]
          exact (inductionHypothesis (fun char inRest =>
            ascii char (List.mem_append_right _ inRest))).mp rfl
        · rintro rfl
          rw [List.append_cancel_left_eq]
          exact (inductionHypothesis (fun char inRest =>
            ascii char (List.mem_append_right _ inRest))).mpr rfl
      · constructor
        · rintro rfl
          have low := ascii upper (List.mem_append_left _ member)
          omega
        · rintro rfl
          have kept : cgiChar char ∈ (asciiSpelling char).map cgiChar := by
            rw [alone]
            exact List.mem_singleton_self _
          have low := ascii _ (List.mem_append_left _ kept)
          rw [cgiChar_toNat] at low
          split_ifs at low <;> omega

private theorem prefix_append_iff {α : Type} {left first second : List α} :
    left <+: first ++ second ↔
      left <+: first ∨ ∃ rest, left = first ++ rest ∧ rest <+: second := by
  constructor
  · intro opens
    rcases List.prefix_or_prefix_of_prefix opens (List.prefix_append first second) with
      shorter | longer
    · exact Or.inl shorter
    · obtain ⟨rest, rfl⟩ := longer
      exact Or.inr ⟨rest, rfl, (List.prefix_append_right_inj first).mp opens⟩
  · rintro (shorter | ⟨rest, rfl, opens⟩)
    · exact shorter.trans (List.prefix_append first second)
    · exact (List.prefix_append_right_inj first).mpr opens

private theorem getLast?_of_append {α : Type} {first rest : List α} {last : α}
    (closed : (first ++ rest).getLast? = some last) : rest = [] ∨ rest.getLast? = some last := by
  by_cases empty : rest = []
  · exact Or.inl empty
  · rw [List.getLast?_append_of_ne_nil _ empty] at closed
    exact Or.inr closed

/-- An ASCII word that ends in an underscore opens the CGI form of a text exactly when it
opens that of its spelling: no character straddles the end of the word. -/
theorem FullUpcase.prefix_cgi_iff (mapping : FullUpcase) {text word : List Char}
    (ascii : ∀ char ∈ word, char.toNat < 128) (closed : word = [] ∨ word.getLast? = some '_') :
    word <+: mapping.cgi text ↔ word <+: (spellAscii text).map cgiChar := by
  induction text generalizing word with
  | nil => rfl
  | cons char rest inductionHypothesis =>
      rw [mapping.cgi_cons, spellAscii, List.flatMap_cons, List.map_append]
      rcases image_cases mapping char with
        ⟨-, plain⟩ | ⟨beyond, alone, ⟨upper, member, high⟩, capitals⟩
      · rw [plain, prefix_append_iff, prefix_append_iff]
        apply or_congr_right
        apply exists_congr
        intro remaining
        apply and_congr_right
        rintro rfl
        apply inductionHypothesis
        · intro char inRest
          exact ascii char (List.mem_append_right _ inRest)
        · rcases closed with empty | last
          · exact Or.inl (List.append_eq_nil_iff.mp empty).2
          · exact getLast?_of_append last
      · rcases closed with rfl | last
        · simp
        · have ends : '_' ∈ word := List.mem_of_getLast? last
          constructor
          · intro opens
            exfalso
            rcases prefix_append_iff.mp opens with inside | ⟨remaining, rfl, -⟩
            · have capital := capitals '_' (inside.subset ends) (by decide)
              revert capital
              decide
            · have low := ascii upper (List.mem_append_left _ member)
              omega
          · intro opens
            exfalso
            rw [alone] at opens
            cases word with
            | nil => cases ends
            | cons first others =>
                have heads := (List.cons_prefix_cons.mp opens).1
                have low := ascii first List.mem_cons_self
                rw [heads, cgiChar_toNat] at low
                split_ifs at low <;> omega

/-- Upper-cased text is its own CGI form. -/
theorem FullUpcase.cgiChar_cgi (mapping : FullUpcase) {text : List Char} :
    ∀ char ∈ mapping.cgi text, cgiChar char = char := by
  intro upper member
  induction text with
  | nil => cases member
  | cons char rest inductionHypothesis =>
      rw [mapping.cgi_cons, List.mem_append] at member
      rcases member with inImage | inRest
      · apply Char.toNat_inj.mp
        rw [cgiChar_toNat]
        rcases image_cases mapping char with ⟨-, plain⟩ | ⟨-, -, -, capitals⟩
        · rw [plain] at inImage
          obtain ⟨spelled, -, rfl⟩ := List.mem_map.mp inImage
          rw [cgiChar_toNat]
          split_ifs <;> omega
        · have capital := capitals upper inImage
          rw [isUpper_iff] at capital
          split_ifs <;> omega
      · exact inductionHypothesis inRest

/-! ## Lower case -/

/-- A lower-casing of text, character by character. -/
structure FullDowncase where
  image : Char → List Char
  image_ascii : ∀ char : Char, char.toNat < 128 → image char = [char.toLower]

def FullDowncase.downcase (mapping : FullDowncase) (text : String) : String :=
  String.ofList (text.toList.flatMap mapping.image)

theorem FullDowncase.downcase_of_ascii (mapping : FullDowncase) {text : String}
    (ascii : ∀ char ∈ text.toList, char.toNat < 128) :
    mapping.downcase text = toAsciiLowercase text := by
  have lowered : ∀ chars : List Char, (∀ char ∈ chars, char.toNat < 128) →
      chars.flatMap mapping.image = chars.map Char.toLower := by
    intro chars ascii
    induction chars with
    | nil => rfl
    | cons char rest inductionHypothesis =>
        obtain ⟨charAscii, restAscii⟩ := List.forall_mem_cons.mp ascii
        rw [List.flatMap_cons, mapping.image_ascii char charAscii, inductionHypothesis restAscii]
        rfl
  exact congrArg String.ofList (lowered text.toList ascii)

/-- The mapping of text that is ASCII throughout. -/
def asciiDowncase : FullDowncase where
  image char := [char.toLower]
  image_ascii _ _ := rfl

end Oxo.Foundation
