/-!
# How characters join into clusters

What a reader takes for one character may be several: a letter with its accents, a syllable in
Korean letters, a flag, a family of faces. The table gives the part that each character plays in
this, after Unicode 17. A character outside the table stands on its own.
-/

namespace CommandTimelines.Text

/-- The part that a character plays in a cluster. -/
inductive ClusterClass where
  /-- Stands on its own, and nothing joins it. -/
  | control
  | carriageReturn
  | lineFeed
  /-- Joins what is before it. -/
  | extending
  /-- Joins what is before it, and links the consonants around it. -/
  | linker
  /-- Joins what is before it, and keeps consonants apart. -/
  | nonJoiner
  /-- Joins what is before it, and two pictographs around it. -/
  | joiner
  /-- Joins what is before it, as a mark with a width of its own. -/
  | spacing
  /-- Joins what is after it. -/
  | leading
  /-- One half of a flag. -/
  | regional
  /-- A Korean consonant at the start of a syllable. -/
  | initial
  /-- A Korean vowel. -/
  | medial
  /-- A Korean consonant at the end of a syllable. -/
  | final
  /-- A Korean syllable without a consonant at its end. -/
  | openSyllable
  /-- A Korean syllable with a consonant at its end. -/
  | closedSyllable
  /-- A consonant that a linker joins to the one before it. -/
  | consonant
  | pictograph
  /-- Any other character. -/
  | plain
deriving DecidableEq, Repr

/-- Ranges of code points with the part that they play, in ascending order. The Korean syllables
are left out: their part follows from their place among each other. -/
def clusterRanges : List (Nat × Nat × ClusterClass) :=
  [(0x0000, 0x0009, .control), (0x000A, 0x000A, .lineFeed), (0x000B, 0x000C, .control),
    (0x000D, 0x000D, .carriageReturn), (0x000E, 0x001F, .control), (0x007F, 0x009F, .control),
    (0x00A9, 0x00A9, .pictograph), (0x00AD, 0x00AD, .control), (0x00AE, 0x00AE, .pictograph),
    (0x0300, 0x036F, .extending), (0x0483, 0x0489, .extending), (0x0591, 0x05BD, .extending),
    (0x05BF, 0x05BF, .extending), (0x05C1, 0x05C2, .extending), (0x05C4, 0x05C5, .extending),
    (0x05C7, 0x05C7, .extending), (0x0600, 0x0605, .leading), (0x0610, 0x061A, .extending),
    (0x061C, 0x061C, .control), (0x064B, 0x065F, .extending), (0x0670, 0x0670, .extending),
    (0x06D6, 0x06DC, .extending), (0x06DD, 0x06DD, .leading), (0x06DF, 0x06E4, .extending),
    (0x06E7, 0x06E8, .extending), (0x06EA, 0x06ED, .extending), (0x070F, 0x070F, .leading),
    (0x0711, 0x0711, .extending), (0x0730, 0x074A, .extending), (0x07A6, 0x07B0, .extending),
    (0x07EB, 0x07F3, .extending), (0x07FD, 0x07FD, .extending), (0x0816, 0x0819, .extending),
    (0x081B, 0x0823, .extending), (0x0825, 0x0827, .extending), (0x0829, 0x082D, .extending),
    (0x0859, 0x085B, .extending), (0x0890, 0x0891, .leading), (0x0897, 0x089F, .extending),
    (0x08CA, 0x08E1, .extending), (0x08E2, 0x08E2, .leading), (0x08E3, 0x0902, .extending),
    (0x0903, 0x0903, .spacing), (0x0915, 0x0939, .consonant), (0x093A, 0x093A, .extending),
    (0x093B, 0x093B, .spacing), (0x093C, 0x093C, .extending), (0x093E, 0x0940, .spacing),
    (0x0941, 0x0948, .extending), (0x0949, 0x094C, .spacing), (0x094D, 0x094D, .linker),
    (0x094E, 0x094F, .spacing), (0x0951, 0x0957, .extending), (0x0958, 0x095F, .consonant),
    (0x0962, 0x0963, .extending), (0x0978, 0x097F, .consonant), (0x0981, 0x0981, .extending),
    (0x0982, 0x0983, .spacing), (0x0995, 0x09A8, .consonant), (0x09AA, 0x09B0, .consonant),
    (0x09B2, 0x09B2, .consonant), (0x09B6, 0x09B9, .consonant), (0x09BC, 0x09BC, .extending),
    (0x09BE, 0x09BE, .extending), (0x09BF, 0x09C0, .spacing), (0x09C1, 0x09C4, .extending),
    (0x09C7, 0x09C8, .spacing), (0x09CB, 0x09CC, .spacing), (0x09CD, 0x09CD, .linker),
    (0x09D7, 0x09D7, .extending), (0x09DC, 0x09DD, .consonant), (0x09DF, 0x09DF, .consonant),
    (0x09E2, 0x09E3, .extending), (0x09F0, 0x09F1, .consonant), (0x09FE, 0x09FE, .extending),
    (0x0A01, 0x0A02, .extending), (0x0A03, 0x0A03, .spacing), (0x0A3C, 0x0A3C, .extending),
    (0x0A3E, 0x0A40, .spacing), (0x0A41, 0x0A42, .extending), (0x0A47, 0x0A48, .extending),
    (0x0A4B, 0x0A4D, .extending), (0x0A51, 0x0A51, .extending), (0x0A70, 0x0A71, .extending),
    (0x0A75, 0x0A75, .extending), (0x0A81, 0x0A82, .extending), (0x0A83, 0x0A83, .spacing),
    (0x0A95, 0x0AA8, .consonant), (0x0AAA, 0x0AB0, .consonant), (0x0AB2, 0x0AB3, .consonant),
    (0x0AB5, 0x0AB9, .consonant), (0x0ABC, 0x0ABC, .extending), (0x0ABE, 0x0AC0, .spacing),
    (0x0AC1, 0x0AC5, .extending), (0x0AC7, 0x0AC8, .extending), (0x0AC9, 0x0AC9, .spacing),
    (0x0ACB, 0x0ACC, .spacing), (0x0ACD, 0x0ACD, .linker), (0x0AE2, 0x0AE3, .extending),
    (0x0AF9, 0x0AF9, .consonant), (0x0AFA, 0x0AFF, .extending), (0x0B01, 0x0B01, .extending),
    (0x0B02, 0x0B03, .spacing), (0x0B15, 0x0B28, .consonant), (0x0B2A, 0x0B30, .consonant),
    (0x0B32, 0x0B33, .consonant), (0x0B35, 0x0B39, .consonant), (0x0B3C, 0x0B3C, .extending),
    (0x0B3E, 0x0B3F, .extending), (0x0B40, 0x0B40, .spacing), (0x0B41, 0x0B44, .extending),
    (0x0B47, 0x0B48, .spacing), (0x0B4B, 0x0B4C, .spacing), (0x0B4D, 0x0B4D, .linker),
    (0x0B55, 0x0B57, .extending), (0x0B5C, 0x0B5D, .consonant), (0x0B5F, 0x0B5F, .consonant),
    (0x0B62, 0x0B63, .extending), (0x0B71, 0x0B71, .consonant), (0x0B82, 0x0B82, .extending),
    (0x0BBE, 0x0BBE, .extending), (0x0BBF, 0x0BBF, .spacing), (0x0BC0, 0x0BC0, .extending),
    (0x0BC1, 0x0BC2, .spacing), (0x0BC6, 0x0BC8, .spacing), (0x0BCA, 0x0BCC, .spacing),
    (0x0BCD, 0x0BCD, .extending), (0x0BD7, 0x0BD7, .extending), (0x0C00, 0x0C00, .extending),
    (0x0C01, 0x0C03, .spacing), (0x0C04, 0x0C04, .extending), (0x0C15, 0x0C28, .consonant),
    (0x0C2A, 0x0C39, .consonant), (0x0C3C, 0x0C3C, .extending), (0x0C3E, 0x0C40, .extending),
    (0x0C41, 0x0C44, .spacing), (0x0C46, 0x0C48, .extending), (0x0C4A, 0x0C4C, .extending),
    (0x0C4D, 0x0C4D, .linker), (0x0C55, 0x0C56, .extending), (0x0C58, 0x0C5A, .consonant),
    (0x0C62, 0x0C63, .extending), (0x0C81, 0x0C81, .extending), (0x0C82, 0x0C83, .spacing),
    (0x0CBC, 0x0CBC, .extending), (0x0CBE, 0x0CBE, .spacing), (0x0CBF, 0x0CC0, .extending),
    (0x0CC1, 0x0CC1, .spacing), (0x0CC2, 0x0CC2, .extending), (0x0CC3, 0x0CC4, .spacing),
    (0x0CC6, 0x0CC8, .extending), (0x0CCA, 0x0CCD, .extending), (0x0CD5, 0x0CD6, .extending),
    (0x0CE2, 0x0CE3, .extending), (0x0CF3, 0x0CF3, .spacing), (0x0D00, 0x0D01, .extending),
    (0x0D02, 0x0D03, .spacing), (0x0D15, 0x0D3A, .consonant), (0x0D3B, 0x0D3C, .extending),
    (0x0D3E, 0x0D3E, .extending), (0x0D3F, 0x0D40, .spacing), (0x0D41, 0x0D44, .extending),
    (0x0D46, 0x0D48, .spacing), (0x0D4A, 0x0D4C, .spacing), (0x0D4D, 0x0D4D, .linker),
    (0x0D4E, 0x0D4E, .leading), (0x0D57, 0x0D57, .extending), (0x0D62, 0x0D63, .extending),
    (0x0D81, 0x0D81, .extending), (0x0D82, 0x0D83, .spacing), (0x0DCA, 0x0DCA, .extending),
    (0x0DCF, 0x0DCF, .extending), (0x0DD0, 0x0DD1, .spacing), (0x0DD2, 0x0DD4, .extending),
    (0x0DD6, 0x0DD6, .extending), (0x0DD8, 0x0DDE, .spacing), (0x0DDF, 0x0DDF, .extending),
    (0x0DF2, 0x0DF3, .spacing), (0x0E31, 0x0E31, .extending), (0x0E33, 0x0E33, .spacing),
    (0x0E34, 0x0E3A, .extending), (0x0E47, 0x0E4E, .extending), (0x0EB1, 0x0EB1, .extending),
    (0x0EB3, 0x0EB3, .spacing), (0x0EB4, 0x0EBC, .extending), (0x0EC8, 0x0ECE, .extending),
    (0x0F18, 0x0F19, .extending), (0x0F35, 0x0F35, .extending), (0x0F37, 0x0F37, .extending),
    (0x0F39, 0x0F39, .extending), (0x0F3E, 0x0F3F, .spacing), (0x0F71, 0x0F7E, .extending),
    (0x0F7F, 0x0F7F, .spacing), (0x0F80, 0x0F84, .extending), (0x0F86, 0x0F87, .extending),
    (0x0F8D, 0x0F97, .extending), (0x0F99, 0x0FBC, .extending), (0x0FC6, 0x0FC6, .extending),
    (0x1000, 0x102A, .consonant), (0x102D, 0x1030, .extending), (0x1031, 0x1031, .spacing),
    (0x1032, 0x1037, .extending), (0x1039, 0x1039, .linker), (0x103A, 0x103A, .extending),
    (0x103B, 0x103C, .spacing), (0x103D, 0x103E, .extending), (0x103F, 0x103F, .consonant),
    (0x1050, 0x1055, .consonant), (0x1056, 0x1057, .spacing), (0x1058, 0x1059, .extending),
    (0x105A, 0x105D, .consonant), (0x105E, 0x1060, .extending), (0x1061, 0x1061, .consonant),
    (0x1065, 0x1066, .consonant), (0x106E, 0x1070, .consonant), (0x1071, 0x1074, .extending),
    (0x1075, 0x1081, .consonant), (0x1082, 0x1082, .extending), (0x1084, 0x1084, .spacing),
    (0x1085, 0x1086, .extending), (0x108D, 0x108D, .extending), (0x108E, 0x108E, .consonant),
    (0x109D, 0x109D, .extending), (0x1100, 0x115F, .initial), (0x1160, 0x11A7, .medial),
    (0x11A8, 0x11FF, .final), (0x135D, 0x135F, .extending), (0x1712, 0x1715, .extending),
    (0x1732, 0x1734, .extending), (0x1752, 0x1753, .extending), (0x1772, 0x1773, .extending),
    (0x1780, 0x17B3, .consonant), (0x17B4, 0x17B5, .extending), (0x17B6, 0x17B6, .spacing),
    (0x17B7, 0x17BD, .extending), (0x17BE, 0x17C5, .spacing), (0x17C6, 0x17C6, .extending),
    (0x17C7, 0x17C8, .spacing), (0x17C9, 0x17D1, .extending), (0x17D2, 0x17D2, .linker),
    (0x17D3, 0x17D3, .extending), (0x17DD, 0x17DD, .extending), (0x180B, 0x180D, .extending),
    (0x180E, 0x180E, .control), (0x180F, 0x180F, .extending), (0x1885, 0x1886, .extending),
    (0x18A9, 0x18A9, .extending), (0x1920, 0x1922, .extending), (0x1923, 0x1926, .spacing),
    (0x1927, 0x1928, .extending), (0x1929, 0x192B, .spacing), (0x1930, 0x1931, .spacing),
    (0x1932, 0x1932, .extending), (0x1933, 0x1938, .spacing), (0x1939, 0x193B, .extending),
    (0x1A17, 0x1A18, .extending), (0x1A19, 0x1A1A, .spacing), (0x1A1B, 0x1A1B, .extending),
    (0x1A20, 0x1A54, .consonant), (0x1A55, 0x1A55, .spacing), (0x1A56, 0x1A56, .extending),
    (0x1A57, 0x1A57, .spacing), (0x1A58, 0x1A5E, .extending), (0x1A60, 0x1A60, .linker),
    (0x1A62, 0x1A62, .extending), (0x1A65, 0x1A6C, .extending), (0x1A6D, 0x1A72, .spacing),
    (0x1A73, 0x1A7C, .extending), (0x1A7F, 0x1A7F, .extending), (0x1AB0, 0x1ADD, .extending),
    (0x1AE0, 0x1AEB, .extending), (0x1B00, 0x1B03, .extending), (0x1B04, 0x1B04, .spacing),
    (0x1B0B, 0x1B0C, .consonant), (0x1B13, 0x1B33, .consonant), (0x1B34, 0x1B3D, .extending),
    (0x1B3E, 0x1B41, .spacing), (0x1B42, 0x1B43, .extending), (0x1B44, 0x1B44, .linker),
    (0x1B45, 0x1B4C, .consonant), (0x1B6B, 0x1B73, .extending), (0x1B80, 0x1B81, .extending),
    (0x1B82, 0x1B82, .spacing), (0x1B83, 0x1BA0, .consonant), (0x1BA1, 0x1BA1, .spacing),
    (0x1BA2, 0x1BA5, .extending), (0x1BA6, 0x1BA7, .spacing), (0x1BA8, 0x1BAA, .extending),
    (0x1BAB, 0x1BAB, .linker), (0x1BAC, 0x1BAD, .extending), (0x1BAE, 0x1BAF, .consonant),
    (0x1BBB, 0x1BBD, .consonant), (0x1BE6, 0x1BE6, .extending), (0x1BE7, 0x1BE7, .spacing),
    (0x1BE8, 0x1BE9, .extending), (0x1BEA, 0x1BEC, .spacing), (0x1BED, 0x1BED, .extending),
    (0x1BEE, 0x1BEE, .spacing), (0x1BEF, 0x1BF3, .extending), (0x1C24, 0x1C2B, .spacing),
    (0x1C2C, 0x1C33, .extending), (0x1C34, 0x1C35, .spacing), (0x1C36, 0x1C37, .extending),
    (0x1CD0, 0x1CD2, .extending), (0x1CD4, 0x1CE0, .extending), (0x1CE1, 0x1CE1, .spacing),
    (0x1CE2, 0x1CE8, .extending), (0x1CED, 0x1CED, .extending), (0x1CF4, 0x1CF4, .extending),
    (0x1CF7, 0x1CF7, .spacing), (0x1CF8, 0x1CF9, .extending), (0x1DC0, 0x1DFF, .extending),
    (0x200B, 0x200B, .control), (0x200C, 0x200C, .nonJoiner), (0x200D, 0x200D, .joiner),
    (0x200E, 0x200F, .control), (0x2028, 0x202E, .control), (0x203C, 0x203C, .pictograph),
    (0x2049, 0x2049, .pictograph), (0x2060, 0x206F, .control), (0x20D0, 0x20F0, .extending),
    (0x2122, 0x2122, .pictograph), (0x2139, 0x2139, .pictograph), (0x2194, 0x2199, .pictograph),
    (0x21A9, 0x21AA, .pictograph), (0x231A, 0x231B, .pictograph), (0x2328, 0x2328, .pictograph),
    (0x23CF, 0x23CF, .pictograph), (0x23E9, 0x23F3, .pictograph), (0x23F8, 0x23FA, .pictograph),
    (0x24C2, 0x24C2, .pictograph), (0x25AA, 0x25AB, .pictograph), (0x25B6, 0x25B6, .pictograph),
    (0x25C0, 0x25C0, .pictograph), (0x25FB, 0x25FE, .pictograph), (0x2600, 0x2604, .pictograph),
    (0x260E, 0x260E, .pictograph), (0x2611, 0x2611, .pictograph), (0x2614, 0x2615, .pictograph),
    (0x2618, 0x2618, .pictograph), (0x261D, 0x261D, .pictograph), (0x2620, 0x2620, .pictograph),
    (0x2622, 0x2623, .pictograph), (0x2626, 0x2626, .pictograph), (0x262A, 0x262A, .pictograph),
    (0x262E, 0x262F, .pictograph), (0x2638, 0x263A, .pictograph), (0x2640, 0x2640, .pictograph),
    (0x2642, 0x2642, .pictograph), (0x2648, 0x2653, .pictograph), (0x265F, 0x2660, .pictograph),
    (0x2663, 0x2663, .pictograph), (0x2665, 0x2666, .pictograph), (0x2668, 0x2668, .pictograph),
    (0x267B, 0x267B, .pictograph), (0x267E, 0x267F, .pictograph), (0x2692, 0x2697, .pictograph),
    (0x2699, 0x2699, .pictograph), (0x269B, 0x269C, .pictograph), (0x26A0, 0x26A1, .pictograph),
    (0x26A7, 0x26A7, .pictograph), (0x26AA, 0x26AB, .pictograph), (0x26B0, 0x26B1, .pictograph),
    (0x26BD, 0x26BE, .pictograph), (0x26C4, 0x26C5, .pictograph), (0x26C8, 0x26C8, .pictograph),
    (0x26CE, 0x26CF, .pictograph), (0x26D1, 0x26D1, .pictograph), (0x26D3, 0x26D4, .pictograph),
    (0x26E9, 0x26EA, .pictograph), (0x26F0, 0x26F5, .pictograph), (0x26F7, 0x26FA, .pictograph),
    (0x26FD, 0x26FD, .pictograph), (0x2702, 0x2702, .pictograph), (0x2705, 0x2705, .pictograph),
    (0x2708, 0x270D, .pictograph), (0x270F, 0x270F, .pictograph), (0x2712, 0x2712, .pictograph),
    (0x2714, 0x2714, .pictograph), (0x2716, 0x2716, .pictograph), (0x271D, 0x271D, .pictograph),
    (0x2721, 0x2721, .pictograph), (0x2728, 0x2728, .pictograph), (0x2733, 0x2734, .pictograph),
    (0x2744, 0x2744, .pictograph), (0x2747, 0x2747, .pictograph), (0x274C, 0x274C, .pictograph),
    (0x274E, 0x274E, .pictograph), (0x2753, 0x2755, .pictograph), (0x2757, 0x2757, .pictograph),
    (0x2763, 0x2764, .pictograph), (0x2795, 0x2797, .pictograph), (0x27A1, 0x27A1, .pictograph),
    (0x27B0, 0x27B0, .pictograph), (0x27BF, 0x27BF, .pictograph), (0x2934, 0x2935, .pictograph),
    (0x2B05, 0x2B07, .pictograph), (0x2B1B, 0x2B1C, .pictograph), (0x2B50, 0x2B50, .pictograph),
    (0x2B55, 0x2B55, .pictograph), (0x2CEF, 0x2CF1, .extending), (0x2D7F, 0x2D7F, .extending),
    (0x2DE0, 0x2DFF, .extending), (0x302A, 0x302F, .extending), (0x3030, 0x3030, .pictograph),
    (0x303D, 0x303D, .pictograph), (0x3099, 0x309A, .extending), (0x3297, 0x3297, .pictograph),
    (0x3299, 0x3299, .pictograph), (0xA66F, 0xA672, .extending), (0xA674, 0xA67D, .extending),
    (0xA69E, 0xA69F, .extending), (0xA6F0, 0xA6F1, .extending), (0xA802, 0xA802, .extending),
    (0xA806, 0xA806, .extending), (0xA80B, 0xA80B, .extending), (0xA823, 0xA824, .spacing),
    (0xA825, 0xA826, .extending), (0xA827, 0xA827, .spacing), (0xA82C, 0xA82C, .extending),
    (0xA880, 0xA881, .spacing), (0xA8B4, 0xA8C3, .spacing), (0xA8C4, 0xA8C5, .extending),
    (0xA8E0, 0xA8F1, .extending), (0xA8FF, 0xA8FF, .extending), (0xA926, 0xA92D, .extending),
    (0xA947, 0xA951, .extending), (0xA952, 0xA952, .spacing), (0xA953, 0xA953, .extending),
    (0xA960, 0xA97C, .initial), (0xA980, 0xA982, .extending), (0xA983, 0xA983, .spacing),
    (0xA989, 0xA98B, .consonant), (0xA98F, 0xA9B2, .consonant), (0xA9B3, 0xA9B3, .extending),
    (0xA9B4, 0xA9B5, .spacing), (0xA9B6, 0xA9B9, .extending), (0xA9BA, 0xA9BB, .spacing),
    (0xA9BC, 0xA9BD, .extending), (0xA9BE, 0xA9BF, .spacing), (0xA9C0, 0xA9C0, .linker),
    (0xA9E0, 0xA9E4, .consonant), (0xA9E5, 0xA9E5, .extending), (0xA9E7, 0xA9EF, .consonant),
    (0xA9FA, 0xA9FE, .consonant), (0xAA29, 0xAA2E, .extending), (0xAA2F, 0xAA30, .spacing),
    (0xAA31, 0xAA32, .extending), (0xAA33, 0xAA34, .spacing), (0xAA35, 0xAA36, .extending),
    (0xAA43, 0xAA43, .extending), (0xAA4C, 0xAA4C, .extending), (0xAA4D, 0xAA4D, .spacing),
    (0xAA60, 0xAA6F, .consonant), (0xAA71, 0xAA73, .consonant), (0xAA7A, 0xAA7A, .consonant),
    (0xAA7C, 0xAA7C, .extending), (0xAA7E, 0xAA7F, .consonant), (0xAAB0, 0xAAB0, .extending),
    (0xAAB2, 0xAAB4, .extending), (0xAAB7, 0xAAB8, .extending), (0xAABE, 0xAABF, .extending),
    (0xAAC1, 0xAAC1, .extending), (0xAAE0, 0xAAEA, .consonant), (0xAAEB, 0xAAEB, .spacing),
    (0xAAEC, 0xAAED, .extending), (0xAAEE, 0xAAEF, .spacing), (0xAAF5, 0xAAF5, .spacing),
    (0xAAF6, 0xAAF6, .linker), (0xABC0, 0xABDA, .consonant), (0xABE3, 0xABE4, .spacing),
    (0xABE5, 0xABE5, .extending), (0xABE6, 0xABE7, .spacing), (0xABE8, 0xABE8, .extending),
    (0xABE9, 0xABEA, .spacing), (0xABEC, 0xABEC, .spacing), (0xABED, 0xABED, .extending),
    (0xD7B0, 0xD7C6, .medial), (0xD7CB, 0xD7FB, .final), (0xFB1E, 0xFB1E, .extending),
    (0xFE00, 0xFE0F, .extending), (0xFE20, 0xFE2F, .extending), (0xFEFF, 0xFEFF, .control),
    (0xFF9E, 0xFF9F, .extending), (0xFFF0, 0xFFFB, .control), (0x101FD, 0x101FD, .extending),
    (0x102E0, 0x102E0, .extending), (0x10376, 0x1037A, .extending), (0x10A00, 0x10A00, .consonant),
    (0x10A01, 0x10A03, .extending), (0x10A05, 0x10A06, .extending), (0x10A0C, 0x10A0F, .extending),
    (0x10A10, 0x10A13, .consonant), (0x10A15, 0x10A17, .consonant), (0x10A19, 0x10A35, .consonant),
    (0x10A38, 0x10A3A, .extending), (0x10A3F, 0x10A3F, .linker), (0x10AE5, 0x10AE6, .extending),
    (0x10D24, 0x10D27, .extending), (0x10D69, 0x10D6D, .extending), (0x10EAB, 0x10EAC, .extending),
    (0x10EFA, 0x10EFF, .extending), (0x10F46, 0x10F50, .extending), (0x10F82, 0x10F85, .extending),
    (0x11000, 0x11000, .spacing), (0x11001, 0x11001, .extending), (0x11002, 0x11002, .spacing),
    (0x11038, 0x11046, .extending), (0x11070, 0x11070, .extending), (0x11073, 0x11074, .extending),
    (0x1107F, 0x11081, .extending), (0x11082, 0x11082, .spacing), (0x110B0, 0x110B2, .spacing),
    (0x110B3, 0x110B6, .extending), (0x110B7, 0x110B8, .spacing), (0x110B9, 0x110BA, .extending),
    (0x110BD, 0x110BD, .leading), (0x110C2, 0x110C2, .extending), (0x110CD, 0x110CD, .leading),
    (0x11100, 0x11102, .extending), (0x11103, 0x11126, .consonant), (0x11127, 0x1112B, .extending),
    (0x1112C, 0x1112C, .spacing), (0x1112D, 0x11132, .extending), (0x11133, 0x11133, .linker),
    (0x11134, 0x11134, .extending), (0x11144, 0x11144, .consonant), (0x11145, 0x11146, .spacing),
    (0x11147, 0x11147, .consonant), (0x11173, 0x11173, .extending), (0x11180, 0x11181, .extending),
    (0x11182, 0x11182, .spacing), (0x111B3, 0x111B5, .spacing), (0x111B6, 0x111BE, .extending),
    (0x111BF, 0x111BF, .spacing), (0x111C0, 0x111C0, .extending), (0x111C2, 0x111C3, .leading),
    (0x111C9, 0x111CC, .extending), (0x111CE, 0x111CE, .spacing), (0x111CF, 0x111CF, .extending),
    (0x1122C, 0x1122E, .spacing), (0x1122F, 0x11231, .extending), (0x11232, 0x11233, .spacing),
    (0x11234, 0x11237, .extending), (0x1123E, 0x1123E, .extending), (0x11241, 0x11241, .extending),
    (0x112DF, 0x112DF, .extending), (0x112E0, 0x112E2, .spacing), (0x112E3, 0x112EA, .extending),
    (0x11300, 0x11301, .extending), (0x11302, 0x11303, .spacing), (0x1133B, 0x1133C, .extending),
    (0x1133E, 0x1133E, .extending), (0x1133F, 0x1133F, .spacing), (0x11340, 0x11340, .extending),
    (0x11341, 0x11344, .spacing), (0x11347, 0x11348, .spacing), (0x1134B, 0x1134C, .spacing),
    (0x1134D, 0x1134D, .extending), (0x11357, 0x11357, .extending), (0x11362, 0x11363, .spacing),
    (0x11366, 0x1136C, .extending), (0x11370, 0x11374, .extending), (0x11380, 0x11389, .consonant),
    (0x1138B, 0x1138B, .consonant), (0x1138E, 0x1138E, .consonant), (0x11390, 0x113B5, .consonant),
    (0x113B8, 0x113B8, .extending), (0x113B9, 0x113BA, .spacing), (0x113BB, 0x113C0, .extending),
    (0x113C2, 0x113C2, .extending), (0x113C5, 0x113C5, .extending), (0x113C7, 0x113C9, .extending),
    (0x113CA, 0x113CA, .spacing), (0x113CC, 0x113CD, .spacing), (0x113CE, 0x113CF, .extending),
    (0x113D0, 0x113D0, .linker), (0x113D1, 0x113D1, .leading), (0x113D2, 0x113D2, .extending),
    (0x113E1, 0x113E2, .extending), (0x11435, 0x11437, .spacing), (0x11438, 0x1143F, .extending),
    (0x11440, 0x11441, .spacing), (0x11442, 0x11444, .extending), (0x11445, 0x11445, .spacing),
    (0x11446, 0x11446, .extending), (0x1145E, 0x1145E, .extending), (0x114B0, 0x114B0, .extending),
    (0x114B1, 0x114B2, .spacing), (0x114B3, 0x114B8, .extending), (0x114B9, 0x114B9, .spacing),
    (0x114BA, 0x114BA, .extending), (0x114BB, 0x114BC, .spacing), (0x114BD, 0x114BD, .extending),
    (0x114BE, 0x114BE, .spacing), (0x114BF, 0x114C0, .extending), (0x114C1, 0x114C1, .spacing),
    (0x114C2, 0x114C3, .extending), (0x115AF, 0x115AF, .extending), (0x115B0, 0x115B1, .spacing),
    (0x115B2, 0x115B5, .extending), (0x115B8, 0x115BB, .spacing), (0x115BC, 0x115BD, .extending),
    (0x115BE, 0x115BE, .spacing), (0x115BF, 0x115C0, .extending), (0x115DC, 0x115DD, .extending),
    (0x11630, 0x11632, .spacing), (0x11633, 0x1163A, .extending), (0x1163B, 0x1163C, .spacing),
    (0x1163D, 0x1163D, .extending), (0x1163E, 0x1163E, .spacing), (0x1163F, 0x11640, .extending),
    (0x116AB, 0x116AB, .extending), (0x116AC, 0x116AC, .spacing), (0x116AD, 0x116AD, .extending),
    (0x116AE, 0x116AF, .spacing), (0x116B0, 0x116B7, .extending), (0x1171D, 0x1171D, .extending),
    (0x1171E, 0x1171E, .spacing), (0x1171F, 0x1171F, .extending), (0x11722, 0x11725, .extending),
    (0x11726, 0x11726, .spacing), (0x11727, 0x1172B, .extending), (0x1182C, 0x1182E, .spacing),
    (0x1182F, 0x11837, .extending), (0x11838, 0x11838, .spacing), (0x11839, 0x1183A, .extending),
    (0x11900, 0x11906, .consonant), (0x11909, 0x11909, .consonant), (0x1190C, 0x11913, .consonant),
    (0x11915, 0x11916, .consonant), (0x11918, 0x1192F, .consonant), (0x11930, 0x11930, .extending),
    (0x11931, 0x11935, .spacing), (0x11937, 0x11938, .spacing), (0x1193B, 0x1193D, .extending),
    (0x1193E, 0x1193E, .linker), (0x1193F, 0x1193F, .leading), (0x11940, 0x11940, .spacing),
    (0x11941, 0x11941, .leading), (0x11942, 0x11942, .spacing), (0x11943, 0x11943, .extending),
    (0x119D1, 0x119D3, .spacing), (0x119D4, 0x119D7, .extending), (0x119DA, 0x119DB, .extending),
    (0x119DC, 0x119DF, .spacing), (0x119E0, 0x119E0, .extending), (0x119E4, 0x119E4, .spacing),
    (0x11A00, 0x11A00, .consonant), (0x11A01, 0x11A0A, .extending), (0x11A0B, 0x11A32, .consonant),
    (0x11A33, 0x11A38, .extending), (0x11A39, 0x11A39, .spacing), (0x11A3B, 0x11A3E, .extending),
    (0x11A47, 0x11A47, .linker), (0x11A50, 0x11A50, .consonant), (0x11A51, 0x11A56, .extending),
    (0x11A57, 0x11A58, .spacing), (0x11A59, 0x11A5B, .extending), (0x11A5C, 0x11A83, .consonant),
    (0x11A84, 0x11A89, .leading), (0x11A8A, 0x11A96, .extending), (0x11A97, 0x11A97, .spacing),
    (0x11A98, 0x11A98, .extending), (0x11A99, 0x11A99, .linker), (0x11B60, 0x11B60, .extending),
    (0x11B61, 0x11B61, .spacing), (0x11B62, 0x11B64, .extending), (0x11B65, 0x11B65, .spacing),
    (0x11B66, 0x11B66, .extending), (0x11B67, 0x11B67, .spacing), (0x11C2F, 0x11C2F, .spacing),
    (0x11C30, 0x11C36, .extending), (0x11C38, 0x11C3D, .extending), (0x11C3E, 0x11C3E, .spacing),
    (0x11C3F, 0x11C3F, .extending), (0x11C92, 0x11CA7, .extending), (0x11CA9, 0x11CA9, .spacing),
    (0x11CAA, 0x11CB0, .extending), (0x11CB1, 0x11CB1, .spacing), (0x11CB2, 0x11CB3, .extending),
    (0x11CB4, 0x11CB4, .spacing), (0x11CB5, 0x11CB6, .extending), (0x11D31, 0x11D36, .extending),
    (0x11D3A, 0x11D3A, .extending), (0x11D3C, 0x11D3D, .extending), (0x11D3F, 0x11D45, .extending),
    (0x11D46, 0x11D46, .leading), (0x11D47, 0x11D47, .extending), (0x11D8A, 0x11D8E, .spacing),
    (0x11D90, 0x11D91, .extending), (0x11D93, 0x11D94, .spacing), (0x11D95, 0x11D95, .extending),
    (0x11D96, 0x11D96, .spacing), (0x11D97, 0x11D97, .extending), (0x11EF3, 0x11EF4, .extending),
    (0x11EF5, 0x11EF6, .spacing), (0x11F00, 0x11F01, .extending), (0x11F02, 0x11F02, .leading),
    (0x11F03, 0x11F03, .spacing), (0x11F04, 0x11F10, .consonant), (0x11F12, 0x11F33, .consonant),
    (0x11F34, 0x11F35, .spacing), (0x11F36, 0x11F3A, .extending), (0x11F3E, 0x11F3F, .spacing),
    (0x11F40, 0x11F41, .extending), (0x11F42, 0x11F42, .linker), (0x11F5A, 0x11F5A, .extending),
    (0x13430, 0x1343F, .control), (0x13440, 0x13440, .extending), (0x13447, 0x13455, .extending),
    (0x1611E, 0x16129, .extending), (0x1612A, 0x1612C, .spacing), (0x1612D, 0x1612F, .extending),
    (0x16AF0, 0x16AF4, .extending), (0x16B30, 0x16B36, .extending), (0x16D63, 0x16D63, .medial),
    (0x16D67, 0x16D6A, .medial), (0x16F4F, 0x16F4F, .extending), (0x16F51, 0x16F87, .spacing),
    (0x16F8F, 0x16F92, .extending), (0x16FE4, 0x16FE4, .extending), (0x16FF0, 0x16FF1, .extending),
    (0x1BC9D, 0x1BC9E, .extending), (0x1BCA0, 0x1BCA3, .control), (0x1CF00, 0x1CF2D, .extending),
    (0x1CF30, 0x1CF46, .extending), (0x1D165, 0x1D169, .extending), (0x1D16D, 0x1D172, .extending),
    (0x1D173, 0x1D17A, .control), (0x1D17B, 0x1D182, .extending), (0x1D185, 0x1D18B, .extending),
    (0x1D1AA, 0x1D1AD, .extending), (0x1D242, 0x1D244, .extending), (0x1DA00, 0x1DA36, .extending),
    (0x1DA3B, 0x1DA6C, .extending), (0x1DA75, 0x1DA75, .extending), (0x1DA84, 0x1DA84, .extending),
    (0x1DA9B, 0x1DA9F, .extending), (0x1DAA1, 0x1DAAF, .extending), (0x1E000, 0x1E006, .extending),
    (0x1E008, 0x1E018, .extending), (0x1E01B, 0x1E021, .extending), (0x1E023, 0x1E024, .extending),
    (0x1E026, 0x1E02A, .extending), (0x1E08F, 0x1E08F, .extending), (0x1E130, 0x1E136, .extending),
    (0x1E2AE, 0x1E2AE, .extending), (0x1E2EC, 0x1E2EF, .extending), (0x1E4EC, 0x1E4EF, .extending),
    (0x1E5EE, 0x1E5EF, .extending), (0x1E6E3, 0x1E6E3, .extending), (0x1E6E6, 0x1E6E6, .extending),
    (0x1E6EE, 0x1E6EF, .extending), (0x1E6F5, 0x1E6F5, .extending), (0x1E8D0, 0x1E8D6, .extending),
    (0x1E944, 0x1E94A, .extending), (0x1F004, 0x1F004, .pictograph),
    (0x1F02C, 0x1F02F, .pictograph), (0x1F094, 0x1F09F, .pictograph),
    (0x1F0AF, 0x1F0B0, .pictograph), (0x1F0C0, 0x1F0C0, .pictograph),
    (0x1F0CF, 0x1F0D0, .pictograph), (0x1F0F6, 0x1F0FF, .pictograph),
    (0x1F170, 0x1F171, .pictograph), (0x1F17E, 0x1F17F, .pictograph),
    (0x1F18E, 0x1F18E, .pictograph), (0x1F191, 0x1F19A, .pictograph),
    (0x1F1AE, 0x1F1E5, .pictograph), (0x1F1E6, 0x1F1FF, .regional), (0x1F201, 0x1F20F, .pictograph),
    (0x1F21A, 0x1F21A, .pictograph), (0x1F22F, 0x1F22F, .pictograph),
    (0x1F232, 0x1F23A, .pictograph), (0x1F23C, 0x1F23F, .pictograph),
    (0x1F249, 0x1F25F, .pictograph), (0x1F266, 0x1F321, .pictograph),
    (0x1F324, 0x1F393, .pictograph), (0x1F396, 0x1F397, .pictograph),
    (0x1F399, 0x1F39B, .pictograph), (0x1F39E, 0x1F3F0, .pictograph),
    (0x1F3F3, 0x1F3F5, .pictograph), (0x1F3F7, 0x1F3FA, .pictograph),
    (0x1F3FB, 0x1F3FF, .extending), (0x1F400, 0x1F4FD, .pictograph),
    (0x1F4FF, 0x1F53D, .pictograph), (0x1F549, 0x1F54E, .pictograph),
    (0x1F550, 0x1F567, .pictograph), (0x1F56F, 0x1F570, .pictograph),
    (0x1F573, 0x1F57A, .pictograph), (0x1F587, 0x1F587, .pictograph),
    (0x1F58A, 0x1F58D, .pictograph), (0x1F590, 0x1F590, .pictograph),
    (0x1F595, 0x1F596, .pictograph), (0x1F5A4, 0x1F5A5, .pictograph),
    (0x1F5A8, 0x1F5A8, .pictograph), (0x1F5B1, 0x1F5B2, .pictograph),
    (0x1F5BC, 0x1F5BC, .pictograph), (0x1F5C2, 0x1F5C4, .pictograph),
    (0x1F5D1, 0x1F5D3, .pictograph), (0x1F5DC, 0x1F5DE, .pictograph),
    (0x1F5E1, 0x1F5E1, .pictograph), (0x1F5E3, 0x1F5E3, .pictograph),
    (0x1F5E8, 0x1F5E8, .pictograph), (0x1F5EF, 0x1F5EF, .pictograph),
    (0x1F5F3, 0x1F5F3, .pictograph), (0x1F5FA, 0x1F64F, .pictograph),
    (0x1F680, 0x1F6C5, .pictograph), (0x1F6CB, 0x1F6D2, .pictograph),
    (0x1F6D5, 0x1F6E5, .pictograph), (0x1F6E9, 0x1F6E9, .pictograph),
    (0x1F6EB, 0x1F6F0, .pictograph), (0x1F6F3, 0x1F6FF, .pictograph),
    (0x1F7DA, 0x1F7FF, .pictograph), (0x1F80C, 0x1F80F, .pictograph),
    (0x1F848, 0x1F84F, .pictograph), (0x1F85A, 0x1F85F, .pictograph),
    (0x1F888, 0x1F88F, .pictograph), (0x1F8AE, 0x1F8AF, .pictograph),
    (0x1F8BC, 0x1F8BF, .pictograph), (0x1F8C2, 0x1F8CF, .pictograph),
    (0x1F8D9, 0x1F8FF, .pictograph), (0x1F90C, 0x1F93A, .pictograph),
    (0x1F93C, 0x1F945, .pictograph), (0x1F947, 0x1F9FF, .pictograph),
    (0x1FA58, 0x1FA5F, .pictograph), (0x1FA6E, 0x1FAFF, .pictograph),
    (0x1FC00, 0x1FFFD, .pictograph), (0xE0000, 0xE001F, .control), (0xE0020, 0xE007F, .extending),
    (0xE0080, 0xE00FF, .control), (0xE0100, 0xE01EF, .extending), (0xE01F0, 0xE0FFF, .control)]

end CommandTimelines.Text
