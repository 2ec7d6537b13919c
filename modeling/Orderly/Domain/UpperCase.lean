import Mathlib.Algebra.Order.Ring.Int
import Mathlib.Data.List.Basic

/-!
# Upper case

`String.prototype.toUpperCase`, which maps each code point by the Unicode
tables (version 16) whatever stands around it.  Most letters have one capital;
some have an expansion of two or three.  Mapping twice changes nothing more.
-/

namespace Orderly

/-- Letters at equal distances, from the first to the last, whose capitals are
at the same distances. -/
structure CaseRange where
  first : Nat
  last : Nat
  step : Nat
  capital : Nat
  deriving DecidableEq, Repr

namespace CaseRange

def includes (range : CaseRange) (code : Nat) : Bool :=
  Nat.ble range.first code && Nat.ble code range.last && Nat.beq ((code - range.first) % range.step) 0

def map (range : CaseRange) (code : Nat) : Nat := range.capital + (code - range.first)

end CaseRange

/-- Letters with one capital. -/
def simpleUpperCase : List CaseRange := [
  ⟨0x61, 0x7A, 1, 0x41⟩, ⟨0xB5, 0xB5, 2, 0x39C⟩, ⟨0xE0, 0xF6, 1, 0xC0⟩, ⟨0xF8, 0xFE, 1, 0xD8⟩,
  ⟨0xFF, 0xFF, 2, 0x178⟩, ⟨0x101, 0x12F, 2, 0x100⟩, ⟨0x131, 0x131, 2, 0x49⟩, ⟨0x133, 0x137, 2, 0x132⟩,
  ⟨0x13A, 0x148, 2, 0x139⟩, ⟨0x14B, 0x177, 2, 0x14A⟩, ⟨0x17A, 0x17E, 2, 0x179⟩, ⟨0x17F, 0x17F, 2, 0x53⟩,
  ⟨0x180, 0x180, 2, 0x243⟩, ⟨0x183, 0x185, 2, 0x182⟩, ⟨0x188, 0x188, 2, 0x187⟩, ⟨0x18C, 0x18C, 2, 0x18B⟩,
  ⟨0x192, 0x192, 2, 0x191⟩, ⟨0x195, 0x195, 2, 0x1F6⟩, ⟨0x199, 0x199, 2, 0x198⟩, ⟨0x19A, 0x19A, 2, 0x23D⟩,
  ⟨0x19B, 0x19B, 2, 0xA7DC⟩, ⟨0x19E, 0x19E, 2, 0x220⟩, ⟨0x1A1, 0x1A5, 2, 0x1A0⟩, ⟨0x1A8, 0x1A8, 2, 0x1A7⟩,
  ⟨0x1AD, 0x1AD, 2, 0x1AC⟩, ⟨0x1B0, 0x1B0, 2, 0x1AF⟩, ⟨0x1B4, 0x1B6, 2, 0x1B3⟩, ⟨0x1B9, 0x1B9, 2, 0x1B8⟩,
  ⟨0x1BD, 0x1BD, 2, 0x1BC⟩, ⟨0x1BF, 0x1BF, 2, 0x1F7⟩, ⟨0x1C5, 0x1C5, 2, 0x1C4⟩, ⟨0x1C6, 0x1C6, 2, 0x1C4⟩,
  ⟨0x1C8, 0x1C8, 2, 0x1C7⟩, ⟨0x1C9, 0x1C9, 2, 0x1C7⟩, ⟨0x1CB, 0x1CB, 2, 0x1CA⟩, ⟨0x1CC, 0x1CC, 2, 0x1CA⟩,
  ⟨0x1CE, 0x1DC, 2, 0x1CD⟩, ⟨0x1DD, 0x1DD, 2, 0x18E⟩, ⟨0x1DF, 0x1EF, 2, 0x1DE⟩, ⟨0x1F2, 0x1F2, 2, 0x1F1⟩,
  ⟨0x1F3, 0x1F3, 2, 0x1F1⟩, ⟨0x1F5, 0x1F5, 2, 0x1F4⟩, ⟨0x1F9, 0x21F, 2, 0x1F8⟩, ⟨0x223, 0x233, 2, 0x222⟩,
  ⟨0x23C, 0x23C, 2, 0x23B⟩, ⟨0x23F, 0x240, 1, 0x2C7E⟩, ⟨0x242, 0x242, 2, 0x241⟩, ⟨0x247, 0x24F, 2, 0x246⟩,
  ⟨0x250, 0x250, 2, 0x2C6F⟩, ⟨0x251, 0x251, 2, 0x2C6D⟩, ⟨0x252, 0x252, 2, 0x2C70⟩,
  ⟨0x253, 0x253, 2, 0x181⟩, ⟨0x254, 0x254, 2, 0x186⟩, ⟨0x256, 0x257, 1, 0x189⟩, ⟨0x259, 0x259, 2, 0x18F⟩,
  ⟨0x25B, 0x25B, 2, 0x190⟩, ⟨0x25C, 0x25C, 2, 0xA7AB⟩, ⟨0x260, 0x260, 2, 0x193⟩, ⟨0x261, 0x261, 2, 0xA7AC⟩,
  ⟨0x263, 0x263, 2, 0x194⟩, ⟨0x264, 0x264, 2, 0xA7CB⟩, ⟨0x265, 0x265, 2, 0xA78D⟩,
  ⟨0x266, 0x266, 2, 0xA7AA⟩, ⟨0x268, 0x268, 2, 0x197⟩, ⟨0x269, 0x269, 2, 0x196⟩, ⟨0x26A, 0x26A, 2, 0xA7AE⟩,
  ⟨0x26B, 0x26B, 2, 0x2C62⟩, ⟨0x26C, 0x26C, 2, 0xA7AD⟩, ⟨0x26F, 0x26F, 2, 0x19C⟩,
  ⟨0x271, 0x271, 2, 0x2C6E⟩, ⟨0x272, 0x272, 2, 0x19D⟩, ⟨0x275, 0x275, 2, 0x19F⟩, ⟨0x27D, 0x27D, 2, 0x2C64⟩,
  ⟨0x280, 0x280, 2, 0x1A6⟩, ⟨0x282, 0x282, 2, 0xA7C5⟩, ⟨0x283, 0x283, 2, 0x1A9⟩, ⟨0x287, 0x287, 2, 0xA7B1⟩,
  ⟨0x288, 0x288, 2, 0x1AE⟩, ⟨0x289, 0x289, 2, 0x244⟩, ⟨0x28A, 0x28B, 1, 0x1B1⟩, ⟨0x28C, 0x28C, 2, 0x245⟩,
  ⟨0x292, 0x292, 2, 0x1B7⟩, ⟨0x29D, 0x29D, 2, 0xA7B2⟩, ⟨0x29E, 0x29E, 2, 0xA7B0⟩, ⟨0x345, 0x345, 2, 0x399⟩,
  ⟨0x371, 0x373, 2, 0x370⟩, ⟨0x377, 0x377, 2, 0x376⟩, ⟨0x37B, 0x37D, 1, 0x3FD⟩, ⟨0x3AC, 0x3AC, 2, 0x386⟩,
  ⟨0x3AD, 0x3AF, 1, 0x388⟩, ⟨0x3B1, 0x3C1, 1, 0x391⟩, ⟨0x3C2, 0x3C2, 2, 0x3A3⟩, ⟨0x3C3, 0x3CB, 1, 0x3A3⟩,
  ⟨0x3CC, 0x3CC, 2, 0x38C⟩, ⟨0x3CD, 0x3CE, 1, 0x38E⟩, ⟨0x3D0, 0x3D0, 2, 0x392⟩, ⟨0x3D1, 0x3D1, 2, 0x398⟩,
  ⟨0x3D5, 0x3D5, 2, 0x3A6⟩, ⟨0x3D6, 0x3D6, 2, 0x3A0⟩, ⟨0x3D7, 0x3D7, 2, 0x3CF⟩, ⟨0x3D9, 0x3EF, 2, 0x3D8⟩,
  ⟨0x3F0, 0x3F0, 2, 0x39A⟩, ⟨0x3F1, 0x3F1, 2, 0x3A1⟩, ⟨0x3F2, 0x3F2, 2, 0x3F9⟩, ⟨0x3F3, 0x3F3, 2, 0x37F⟩,
  ⟨0x3F5, 0x3F5, 2, 0x395⟩, ⟨0x3F8, 0x3F8, 2, 0x3F7⟩, ⟨0x3FB, 0x3FB, 2, 0x3FA⟩, ⟨0x430, 0x44F, 1, 0x410⟩,
  ⟨0x450, 0x45F, 1, 0x400⟩, ⟨0x461, 0x481, 2, 0x460⟩, ⟨0x48B, 0x4BF, 2, 0x48A⟩, ⟨0x4C2, 0x4CE, 2, 0x4C1⟩,
  ⟨0x4CF, 0x4CF, 2, 0x4C0⟩, ⟨0x4D1, 0x52F, 2, 0x4D0⟩, ⟨0x561, 0x586, 1, 0x531⟩,
  ⟨0x10D0, 0x10FA, 1, 0x1C90⟩, ⟨0x10FD, 0x10FF, 1, 0x1CBD⟩, ⟨0x13F8, 0x13FD, 1, 0x13F0⟩,
  ⟨0x1C80, 0x1C80, 2, 0x412⟩, ⟨0x1C81, 0x1C81, 2, 0x414⟩, ⟨0x1C82, 0x1C82, 2, 0x41E⟩,
  ⟨0x1C83, 0x1C84, 1, 0x421⟩, ⟨0x1C85, 0x1C85, 2, 0x422⟩, ⟨0x1C86, 0x1C86, 2, 0x42A⟩,
  ⟨0x1C87, 0x1C87, 2, 0x462⟩, ⟨0x1C88, 0x1C88, 2, 0xA64A⟩, ⟨0x1C8A, 0x1C8A, 2, 0x1C89⟩,
  ⟨0x1D79, 0x1D79, 2, 0xA77D⟩, ⟨0x1D7D, 0x1D7D, 2, 0x2C63⟩, ⟨0x1D8E, 0x1D8E, 2, 0xA7C6⟩,
  ⟨0x1E01, 0x1E95, 2, 0x1E00⟩, ⟨0x1E9B, 0x1E9B, 2, 0x1E60⟩, ⟨0x1EA1, 0x1EFF, 2, 0x1EA0⟩,
  ⟨0x1F00, 0x1F07, 1, 0x1F08⟩, ⟨0x1F10, 0x1F15, 1, 0x1F18⟩, ⟨0x1F20, 0x1F27, 1, 0x1F28⟩,
  ⟨0x1F30, 0x1F37, 1, 0x1F38⟩, ⟨0x1F40, 0x1F45, 1, 0x1F48⟩, ⟨0x1F51, 0x1F57, 2, 0x1F59⟩,
  ⟨0x1F60, 0x1F67, 1, 0x1F68⟩, ⟨0x1F70, 0x1F71, 1, 0x1FBA⟩, ⟨0x1F72, 0x1F75, 1, 0x1FC8⟩,
  ⟨0x1F76, 0x1F77, 1, 0x1FDA⟩, ⟨0x1F78, 0x1F79, 1, 0x1FF8⟩, ⟨0x1F7A, 0x1F7B, 1, 0x1FEA⟩,
  ⟨0x1F7C, 0x1F7D, 1, 0x1FFA⟩, ⟨0x1FB0, 0x1FB1, 1, 0x1FB8⟩, ⟨0x1FBE, 0x1FBE, 2, 0x399⟩,
  ⟨0x1FD0, 0x1FD1, 1, 0x1FD8⟩, ⟨0x1FE0, 0x1FE1, 1, 0x1FE8⟩, ⟨0x1FE5, 0x1FE5, 2, 0x1FEC⟩,
  ⟨0x214E, 0x214E, 2, 0x2132⟩, ⟨0x2170, 0x217F, 1, 0x2160⟩, ⟨0x2184, 0x2184, 2, 0x2183⟩,
  ⟨0x24D0, 0x24E9, 1, 0x24B6⟩, ⟨0x2C30, 0x2C5F, 1, 0x2C00⟩, ⟨0x2C61, 0x2C61, 2, 0x2C60⟩,
  ⟨0x2C65, 0x2C65, 2, 0x23A⟩, ⟨0x2C66, 0x2C66, 2, 0x23E⟩, ⟨0x2C68, 0x2C6C, 2, 0x2C67⟩,
  ⟨0x2C73, 0x2C73, 2, 0x2C72⟩, ⟨0x2C76, 0x2C76, 2, 0x2C75⟩, ⟨0x2C81, 0x2CE3, 2, 0x2C80⟩,
  ⟨0x2CEC, 0x2CEE, 2, 0x2CEB⟩, ⟨0x2CF3, 0x2CF3, 2, 0x2CF2⟩, ⟨0x2D00, 0x2D25, 1, 0x10A0⟩,
  ⟨0x2D27, 0x2D27, 2, 0x10C7⟩, ⟨0x2D2D, 0x2D2D, 2, 0x10CD⟩, ⟨0xA641, 0xA66D, 2, 0xA640⟩,
  ⟨0xA681, 0xA69B, 2, 0xA680⟩, ⟨0xA723, 0xA72F, 2, 0xA722⟩, ⟨0xA733, 0xA76F, 2, 0xA732⟩,
  ⟨0xA77A, 0xA77C, 2, 0xA779⟩, ⟨0xA77F, 0xA787, 2, 0xA77E⟩, ⟨0xA78C, 0xA78C, 2, 0xA78B⟩,
  ⟨0xA791, 0xA793, 2, 0xA790⟩, ⟨0xA794, 0xA794, 2, 0xA7C4⟩, ⟨0xA797, 0xA7A9, 2, 0xA796⟩,
  ⟨0xA7B5, 0xA7C3, 2, 0xA7B4⟩, ⟨0xA7C8, 0xA7CA, 2, 0xA7C7⟩, ⟨0xA7CD, 0xA7CD, 2, 0xA7CC⟩,
  ⟨0xA7D1, 0xA7D1, 2, 0xA7D0⟩, ⟨0xA7D7, 0xA7DB, 2, 0xA7D6⟩, ⟨0xA7F6, 0xA7F6, 2, 0xA7F5⟩,
  ⟨0xAB53, 0xAB53, 2, 0xA7B3⟩, ⟨0xAB70, 0xABBF, 1, 0x13A0⟩, ⟨0xFF41, 0xFF5A, 1, 0xFF21⟩,
  ⟨0x10428, 0x1044F, 1, 0x10400⟩, ⟨0x104D8, 0x104FB, 1, 0x104B0⟩, ⟨0x10597, 0x105A1, 1, 0x10570⟩,
  ⟨0x105A3, 0x105B1, 1, 0x1057C⟩, ⟨0x105B3, 0x105B9, 1, 0x1058C⟩, ⟨0x105BB, 0x105BC, 1, 0x10594⟩,
  ⟨0x10CC0, 0x10CF2, 1, 0x10C80⟩, ⟨0x10D70, 0x10D85, 1, 0x10D50⟩, ⟨0x118C0, 0x118DF, 1, 0x118A0⟩,
  ⟨0x16E60, 0x16E7F, 1, 0x16E40⟩, ⟨0x1E922, 0x1E943, 1, 0x1E900⟩]

/-- Letters that expand. -/
def expandedUpperCase : List (Nat × List Nat) := [
  (0xDF, [0x53, 0x53]), (0x149, [0x2BC, 0x4E]), (0x1F0, [0x4A, 0x30C]), (0x390, [0x399, 0x308, 0x301]),
  (0x3B0, [0x3A5, 0x308, 0x301]), (0x587, [0x535, 0x552]), (0x1E96, [0x48, 0x331]),
  (0x1E97, [0x54, 0x308]), (0x1E98, [0x57, 0x30A]), (0x1E99, [0x59, 0x30A]), (0x1E9A, [0x41, 0x2BE]),
  (0x1F50, [0x3A5, 0x313]), (0x1F52, [0x3A5, 0x313, 0x300]), (0x1F54, [0x3A5, 0x313, 0x301]),
  (0x1F56, [0x3A5, 0x313, 0x342]), (0x1F80, [0x1F08, 0x399]), (0x1F81, [0x1F09, 0x399]),
  (0x1F82, [0x1F0A, 0x399]), (0x1F83, [0x1F0B, 0x399]), (0x1F84, [0x1F0C, 0x399]),
  (0x1F85, [0x1F0D, 0x399]), (0x1F86, [0x1F0E, 0x399]), (0x1F87, [0x1F0F, 0x399]),
  (0x1F88, [0x1F08, 0x399]), (0x1F89, [0x1F09, 0x399]), (0x1F8A, [0x1F0A, 0x399]),
  (0x1F8B, [0x1F0B, 0x399]), (0x1F8C, [0x1F0C, 0x399]), (0x1F8D, [0x1F0D, 0x399]),
  (0x1F8E, [0x1F0E, 0x399]), (0x1F8F, [0x1F0F, 0x399]), (0x1F90, [0x1F28, 0x399]),
  (0x1F91, [0x1F29, 0x399]), (0x1F92, [0x1F2A, 0x399]), (0x1F93, [0x1F2B, 0x399]),
  (0x1F94, [0x1F2C, 0x399]), (0x1F95, [0x1F2D, 0x399]), (0x1F96, [0x1F2E, 0x399]),
  (0x1F97, [0x1F2F, 0x399]), (0x1F98, [0x1F28, 0x399]), (0x1F99, [0x1F29, 0x399]),
  (0x1F9A, [0x1F2A, 0x399]), (0x1F9B, [0x1F2B, 0x399]), (0x1F9C, [0x1F2C, 0x399]),
  (0x1F9D, [0x1F2D, 0x399]), (0x1F9E, [0x1F2E, 0x399]), (0x1F9F, [0x1F2F, 0x399]),
  (0x1FA0, [0x1F68, 0x399]), (0x1FA1, [0x1F69, 0x399]), (0x1FA2, [0x1F6A, 0x399]),
  (0x1FA3, [0x1F6B, 0x399]), (0x1FA4, [0x1F6C, 0x399]), (0x1FA5, [0x1F6D, 0x399]),
  (0x1FA6, [0x1F6E, 0x399]), (0x1FA7, [0x1F6F, 0x399]), (0x1FA8, [0x1F68, 0x399]),
  (0x1FA9, [0x1F69, 0x399]), (0x1FAA, [0x1F6A, 0x399]), (0x1FAB, [0x1F6B, 0x399]),
  (0x1FAC, [0x1F6C, 0x399]), (0x1FAD, [0x1F6D, 0x399]), (0x1FAE, [0x1F6E, 0x399]),
  (0x1FAF, [0x1F6F, 0x399]), (0x1FB2, [0x1FBA, 0x399]), (0x1FB3, [0x391, 0x399]), (0x1FB4, [0x386, 0x399]),
  (0x1FB6, [0x391, 0x342]), (0x1FB7, [0x391, 0x342, 0x399]), (0x1FBC, [0x391, 0x399]),
  (0x1FC2, [0x1FCA, 0x399]), (0x1FC3, [0x397, 0x399]), (0x1FC4, [0x389, 0x399]), (0x1FC6, [0x397, 0x342]),
  (0x1FC7, [0x397, 0x342, 0x399]), (0x1FCC, [0x397, 0x399]), (0x1FD2, [0x399, 0x308, 0x300]),
  (0x1FD3, [0x399, 0x308, 0x301]), (0x1FD6, [0x399, 0x342]), (0x1FD7, [0x399, 0x308, 0x342]),
  (0x1FE2, [0x3A5, 0x308, 0x300]), (0x1FE3, [0x3A5, 0x308, 0x301]), (0x1FE4, [0x3A1, 0x313]),
  (0x1FE6, [0x3A5, 0x342]), (0x1FE7, [0x3A5, 0x308, 0x342]), (0x1FF2, [0x1FFA, 0x399]),
  (0x1FF3, [0x3A9, 0x399]), (0x1FF4, [0x38F, 0x399]), (0x1FF6, [0x3A9, 0x342]),
  (0x1FF7, [0x3A9, 0x342, 0x399]), (0x1FFC, [0x3A9, 0x399]), (0xFB00, [0x46, 0x46]),
  (0xFB01, [0x46, 0x49]), (0xFB02, [0x46, 0x4C]), (0xFB03, [0x46, 0x46, 0x49]),
  (0xFB04, [0x46, 0x46, 0x4C]), (0xFB05, [0x53, 0x54]), (0xFB06, [0x53, 0x54]), (0xFB13, [0x544, 0x546]),
  (0xFB14, [0x544, 0x535]), (0xFB15, [0x544, 0x53B]), (0xFB16, [0x54E, 0x546]), (0xFB17, [0x544, 0x53D])]

/-- The code points of a capital. -/
def upperCodes (code : Nat) : List Nat :=
  match expandedUpperCase.find? fun entry => Nat.beq entry.1 code with
  | some entry => entry.2
  | none =>
      match simpleUpperCase.find? fun range => range.includes code with
      | some range => [range.map code]
      | none => [code]

def upperOf (c : Char) : List Char := (upperCodes c.toNat).map Char.ofNat

def toUpperCase (text : String) : String := String.ofList (text.toList.flatMap upperOf)

example : toUpperCase "straße" = "STRASSE" := by decide +kernel

/-! ## Capitals stay capitals -/

namespace CaseRange

/-- A code as a range of its own. -/
def single (code : Nat) : CaseRange := ⟨code, code, 2, code⟩

/-- None of the range's capitals is a letter of the other range. -/
def capitalsOutside (range other : CaseRange) : Bool :=
  Nat.blt (range.capital + (range.last - range.first)) other.first || Nat.blt other.last range.capital ||
    (Nat.beq range.step 2 && Nat.beq other.step 2 && Nat.beq ((range.capital + other.first) % 2) 1)

/-- The range's capitals are characters. -/
def capitalsValid (range : CaseRange) : Bool :=
  Nat.blt (range.capital + (range.last - range.first)) 0xD800 ||
    (Nat.blt 0xDFFF range.capital && Nat.blt (range.capital + (range.last - range.first)) 0x110000)

theorem includes_iff {range : CaseRange} {code : Nat} : range.includes code = true ↔
    range.first ≤ code ∧ code ≤ range.last ∧ (code - range.first) % range.step = 0 := by
  simp [includes, and_assoc]

theorem not_includes {range other : CaseRange} (outside : range.capitalsOutside other = true) {code : Nat}
    (listed : range.includes code = true) : other.includes (range.map code) = false := by
  rw [Bool.eq_false_iff]
  intro again
  rw [includes_iff] at listed again
  simp only [capitalsOutside, Bool.or_eq_true, Bool.and_eq_true, Nat.blt_eq, Nat.beq_eq] at outside
  unfold map at again
  rcases outside with (before | behind) | ⟨⟨even, even'⟩, parity⟩
  · omega
  · omega
  · rw [even] at listed
    rw [even'] at again
    omega

theorem map_valid {range : CaseRange} (valid : range.capitalsValid = true) {code : Nat}
    (listed : range.includes code = true) : (Char.ofNat (range.map code)).toNat = range.map code := by
  rw [includes_iff] at listed
  simp only [capitalsValid, Bool.or_eq_true, Bool.and_eq_true, Nat.blt_eq] at valid
  have scalar : (range.map code).isValidChar := by
    unfold map Nat.isValidChar
    omega
  rw [Char.ofNat, dif_pos scalar]
  rfl

theorem includes_single (code : Nat) : (single code).includes code = true := by
  rw [includes_iff]
  exact ⟨Nat.le_refl code, Nat.le_refl code, by rw [single, Nat.sub_self, Nat.zero_mod]⟩

end CaseRange

theorem simple_outside : (simpleUpperCase.all fun range => range.capitalsValid &&
    simpleUpperCase.all range.capitalsOutside &&
      expandedUpperCase.all fun entry => range.capitalsOutside (.single entry.1)) = true := by decide +kernel

theorem expanded_settled : (expandedUpperCase.all fun entry => entry.2.all fun code =>
    upperCodes code == [code] && (Char.ofNat code).toNat == code) = true := by decide +kernel

theorem expanded_some : (expandedUpperCase.all fun entry => decide (1 ≤ entry.2.length)) = true := by decide +kernel

/-- A simple capital is the capital of nothing else. -/
theorem upperCodes_map {range : CaseRange} (known : range ∈ simpleUpperCase) {code : Nat}
    (listed : range.includes code = true) : upperCodes (range.map code) = [range.map code] := by
  have outside := List.all_eq_true.mp simple_outside range known
  simp only [Bool.and_eq_true, List.all_eq_true] at outside
  have unexpanded : (expandedUpperCase.find? fun entry => Nat.beq entry.1 (range.map code)) = none := by
    rw [List.find?_eq_none]
    intro entry member same
    have apart := CaseRange.not_includes (outside.2 entry member) listed
    rw [← Nat.eq_of_beq_eq_true same, CaseRange.includes_single] at apart
    cases apart
  have unmapped : (simpleUpperCase.find? fun other => other.includes (range.map code)) = none := by
    rw [List.find?_eq_none]
    intro other member
    rw [CaseRange.not_includes (outside.1.2 other member) listed]
    exact Bool.false_ne_true
  simp only [upperCodes, unexpanded, unmapped]

/-- A capital is mapped to itself. -/
theorem upperOf_capital {c capital : Char} (member : capital ∈ upperOf c) : upperOf capital = [capital] := by
  rcases List.mem_map.mp member with ⟨code, listed, rfl⟩
  have settled : (Char.ofNat code).toNat = code ∧ upperCodes code = [code] := by
    unfold upperCodes at listed
    split at listed
    · next entry found =>
        have all := List.all_eq_true.mp expanded_settled entry (List.mem_of_find?_eq_some found)
        have one := List.all_eq_true.mp all code listed
        simpa [and_comm] using one
    · next unexpanded =>
        split at listed
        · next range found =>
            have known := List.mem_of_find?_eq_some found
            have includes := List.find?_some found
            rw [List.mem_singleton.mp listed]
            have outside := List.all_eq_true.mp simple_outside range known
            simp only [Bool.and_eq_true] at outside
            exact ⟨CaseRange.map_valid outside.1.1 includes, upperCodes_map known includes⟩
        · next unmapped =>
            rw [List.mem_singleton.mp listed, Char.ofNat_toNat]
            refine ⟨rfl, ?_⟩
            simp only [upperCodes, unexpanded, unmapped]
  rw [upperOf, settled.1, settled.2]
  rfl

theorem toUpperCase_toUpperCase (text : String) : toUpperCase (toUpperCase text) = toUpperCase text := by
  unfold toUpperCase
  rw [String.toList_ofList]
  congr 1
  generalize text.toList = letters
  induction letters with
  | nil => rfl
  | cons c letters inductionHypothesis =>
      have capitals : ∀ capitals : List Char, (∀ capital ∈ capitals, upperOf capital = [capital]) →
          capitals.flatMap upperOf = capitals := by
        intro capitals
        induction capitals with
        | nil => exact fun _ => rfl
        | cons capital capitals inductionHypothesis =>
            intro all
            rw [List.flatMap_cons, all capital List.mem_cons_self,
              inductionHypothesis fun other member => all other (List.mem_cons_of_mem _ member)]
            rfl
      rw [List.flatMap_cons, List.flatMap_append, inductionHypothesis]
      congr 1
      exact capitals _ fun capital member => upperOf_capital member

/-- A letter has one capital at least. -/
theorem upperOf_some (c : Char) : 1 ≤ (upperOf c).length := by
  unfold upperOf upperCodes
  rw [List.length_map]
  split
  · next entry found => exact of_decide_eq_true (List.all_eq_true.mp expanded_some entry (List.mem_of_find?_eq_some found))
  · split <;> exact Nat.le_refl 1

theorem length_le_toUpperCase (text : String) : text.length ≤ (toUpperCase text).length := by
  unfold toUpperCase
  rw [String.length_ofList, ← String.length_toList]
  generalize text.toList = letters
  induction letters with
  | nil => exact Nat.le_refl 0
  | cons c letters inductionHypothesis =>
      have capitals := upperOf_some c
      rw [List.flatMap_cons, List.length_append, List.length_cons]
      omega

end Orderly
