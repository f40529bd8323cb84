import PolicyGate.Unicode.Property
import PolicyGate.Unicode.Script

/-!
The classes of characters by which a text is parted into grapheme clusters, words and sentences. They
follow from categories, scripts and properties, but for a few characters named here.
-/
namespace PolicyGate.Unicode

/-- The joiners between letters: one that parts them and one that binds them. -/
def joiners : CharSet := [(0x200C, 0x200D)]

def lineEnds : CharSet := [(0x0A, 0x0A), (0x0D, 0x0D)]

def prependedMarks : CharSet := propertySet prependedConcatenationMarkText

def skinTones : CharSet := propertySet emojiModifierText

/-- Marks that extend a character, with those that take space. -/
def combining : CharSet := graphemeExtend ++ ofCategories ["Mc"]

namespace Grapheme

def extend : CharSet := graphemeExtend ++ skinTones

/-- Marks that take space and do not belong to the character before them. -/
def looseMarks : CharSet :=
  [(0x102B, 0x102C), (0x1038, 0x1038), (0x1062, 0x1064), (0x1067, 0x106D), (0x1083, 0x1083),
    (0x1087, 0x108C), (0x108F, 0x108F), (0x109A, 0x109C), (0x1A61, 0x1A61), (0x1A63, 0x1A64),
    (0xAA7B, 0xAA7B), (0xAA7D, 0xAA7D), (0x11720, 0x11721)]

/-- Letters that are written before the letter that they follow in speech, and signs like them. -/
def prependedLetters : CharSet :=
  [(0xD4E, 0xD4E), (0x111C2, 0x111C3), (0x113D1, 0x113D1), (0x1193F, 0x1193F), (0x11941, 0x11941),
    (0x11A3A, 0x11A3A), (0x11A84, 0x11A89), (0x11D46, 0x11D46), (0x11F02, 0x11F02)]

def syllables : CharSet := [(0xAC00, 0xD7A3)]

/-- Hangul syllables without a final consonant: the first of every 28. -/
def openSyllables : CharSet := (List.range 399).map fun i => (0xAC00 + 28 * i, 0xAC00 + 28 * i)

def control : CharSet :=
  CharSet.difference
    (ofCategories ["Zl", "Zp", "Cc", "Cf"] ++ CharSet.inter (ofCategories ["Cn"]) defaultIgnorable)
    (lineEnds ++ joiners ++ prependedMarks ++ extend)

def class? (name : String) : Option CharSet :=
  match name with
  | "cr" => some (.single 0x0D)
  | "lf" => some (.single 0x0A)
  | "control" | "cn" => some control
  | "extend" | "ex" => some extend
  | "zwj" => some (.single 0x200D)
  | "regionalindicator" | "ri" => some (propertySet regionalIndicatorText)
  | "prepend" | "pp" => some (prependedMarks ++ prependedLetters)
  | "spacingmark" | "sm" =>
    some (CharSet.difference (ofCategories ["Mc"]) (extend ++ looseMarks) ++
      [(0xE33, 0xE33), (0xEB3, 0xEB3)])
  | "l" => some [(0x1100, 0x115F), (0xA960, 0xA97C)]
  | "v" => some [(0x1160, 0x11A7), (0xD7B0, 0xD7C6), (0x16D63, 0x16D63), (0x16D67, 0x16D6A)]
  | "t" => some [(0x11A8, 0x11FF), (0xD7CB, 0xD7FB)]
  | "lv" => some openSyllables
  | "lvt" => some (CharSet.difference syllables openSyllables)
  | _ => none

end Grapheme

namespace Word

def extend : CharSet := CharSet.difference (combining ++ skinTones) (.single 0x200D)

def katakana : CharSet :=
  scriptOf "Kana" ++
    [(0x3031, 0x3035), (0x309B, 0x309C), (0x30A0, 0x30A0), (0x30FC, 0x30FC), (0xFF70, 0xFF70)]

def hebrew : CharSet := CharSet.inter (scriptOf "Hebr") (ofCategories ["Lo"])

/-- Decimal digits, and signs that stand in or around numbers. -/
def numeric : CharSet :=
  decimalNumber ++
    [(0x600, 0x605), (0x66B, 0x66B), (0x6DD, 0x6DD), (0x890, 0x891), (0x8E2, 0x8E2),
      (0x19DA, 0x19DA), (0x110BD, 0x110BD), (0x110CD, 0x110CD)]

/-- Letters of the scripts that are written without blanks between words. -/
def unspacedText : String :=
  "e01 e30 e32 e33 e40 e46 e81 e82 e84 e84 e86 e8a e8c ea3 ea5 ea5 ea7 eb0 eb2 eb3 ebd ebd ec0 ec4
   ec6 ec6 edc edf 1000 102a 103f 103f 1050 1055 105a 105d 1061 1061 1065 1066 106e 1070 1075 1081
   108e 108e 1780 17b3 17d7 17d7 17dc 17dc 1950 196d 1970 1974 1980 19ab 19b0 19c9 1a20 1a54 1aa7
   1aa7 a9e0 a9e4 a9e6 a9ef a9fa a9fe aa60 aa76 aa7a aa7a aa7e aaaf aab1 aab1 aab5 aab6 aab9 aabd
   aac0 aac0 aac2 aac2 aadb aadd 11700 1171a 11740 11746"

/-- Signs that count as letters of a word although they are not alphabetic. -/
def letterSigns : CharSet :=
  [(0x2C2, 0x2C5), (0x2D2, 0x2D7), (0x2DE, 0x2DF), (0x2E5, 0x2EB), (0x2ED, 0x2ED), (0x2EF, 0x2FF),
    (0x55A, 0x55C), (0x55E, 0x55E), (0x58A, 0x58A), (0x5F3, 0x5F3), (0x70F, 0x70F),
    (0xA708, 0xA716), (0xA720, 0xA721), (0xA789, 0xA78A), (0xAB5B, 0xAB5B)]

/-- Letters that a word is spelt with. -/
def letter : CharSet :=
  CharSet.difference alphabetic
    (propertySet ideographicText ++ katakana ++ extend ++ hebrew ++ scriptOf "Hira" ++
      ofEnds (numbers unspacedText)) ++
    letterSigns

def class? (name : String) : Option CharSet :=
  match name with
  | "cr" => some (.single 0x0D)
  | "lf" => some (.single 0x0A)
  | "newline" | "nl" => some [(0x0B, 0x0C), (0x85, 0x85), (0x2028, 0x2029)]
  | "extend" => some extend
  | "zwj" => some (.single 0x200D)
  | "regionalindicator" | "ri" => some (propertySet regionalIndicatorText)
  | "format" | "fo" =>
    some (CharSet.difference (ofCategories ["Cf"])
      ([(0x200B, 0x200D)] ++ prependedMarks ++ extend))
  | "katakana" | "ka" => some katakana
  | "hebrewletter" | "hl" => some hebrew
  | "aletter" | "le" => some letter
  | "singlequote" | "sq" => some (.single 0x27)
  | "doublequote" | "dq" => some (.single 0x22)
  | "midnumlet" | "mb" =>
    some
      [(0x2E, 0x2E), (0x2018, 0x2019), (0x2024, 0x2024), (0xFE52, 0xFE52), (0xFF07, 0xFF07),
        (0xFF0E, 0xFF0E)]
  | "midletter" | "ml" =>
    some
      [(0x3A, 0x3A), (0xB7, 0xB7), (0x387, 0x387), (0x55F, 0x55F), (0x5F4, 0x5F4),
        (0x2027, 0x2027), (0xFE13, 0xFE13), (0xFE55, 0xFE55), (0xFF1A, 0xFF1A)]
  | "midnum" | "mn" =>
    some
      [(0x2C, 0x2C), (0x3B, 0x3B), (0x37E, 0x37E), (0x589, 0x589), (0x60C, 0x60D), (0x66C, 0x66C),
        (0x7F8, 0x7F8), (0x2044, 0x2044), (0xFE50, 0xFE50), (0xFE54, 0xFE54), (0xFF0C, 0xFF0C),
        (0xFF1B, 0xFF1B)]
  | "numeric" | "nu" => some numeric
  | "extendnumlet" | "ex" =>
    some
      [(0x5F, 0x5F), (0x202F, 0x202F), (0x203F, 0x2040), (0x2054, 0x2054), (0xFE33, 0xFE34),
        (0xFE4D, 0xFE4F), (0xFF3F, 0xFF3F)]
  | "wsegspace" =>
    some
      [(0x20, 0x20), (0x1680, 0x1680), (0x2000, 0x2006), (0x2008, 0x200A), (0x205F, 0x205F),
        (0x3000, 0x3000)]
  | _ => none

end Word

namespace Sentence

def extend : CharSet := combining ++ joiners

def separator : CharSet := [(0x85, 0x85), (0x2028, 0x2029)]

def fullStop : CharSet := [(0x2E, 0x2E), (0x2024, 0x2024), (0xFE52, 0xFE52), (0xFF0E, 0xFF0E)]

/-- Small letters of sentences. The Georgian ones have no capitals in running text. -/
def lower : CharSet :=
  CharSet.difference lowercase (graphemeExtend ++ [(0x10D0, 0x10FA), (0x10FD, 0x10FF)])

def upper : CharSet :=
  CharSet.difference (uppercase ++ ofCategories ["Lt"]) [(0x1C90, 0x1CBA), (0x1CBD, 0x1CBF)]

/-- Quotation marks and ornaments that close like brackets although their category is another one. -/
def ornaments : CharSet :=
  [(0x275B, 0x2760), (0x2E00, 0x2E01), (0x2E06, 0x2E08), (0x2E0B, 0x2E0B), (0x1F676, 0x1F678)]

def class? (name : String) : Option CharSet :=
  match name with
  | "cr" => some (.single 0x0D)
  | "lf" => some (.single 0x0A)
  | "extend" | "ex" => some extend
  | "sep" | "se" => some separator
  | "format" | "fo" =>
    some (CharSet.difference (ofCategories ["Cf"]) (joiners ++ extend ++ prependedMarks) ++
      .single 0x70F)
  | "sp" => some (CharSet.difference whiteSpace (separator ++ lineEnds))
  | "lower" | "lo" => some lower
  | "upper" | "up" => some upper
  | "oletter" | "le" =>
    some (CharSet.difference (alphabetic ++ .single 0x5F3) (lower ++ upper ++ extend))
  | "numeric" | "nu" => some (Word.numeric ++ .single 0x66C)
  | "aterm" | "at" => some fullStop
  | "scontinue" | "sc" =>
    some
      [(0x2C, 0x2D), (0x3A, 0x3B), (0x37E, 0x37E), (0x55D, 0x55D), (0x60C, 0x60D), (0x7F8, 0x7F8),
        (0x1802, 0x1802), (0x1808, 0x1808), (0x2013, 0x2014), (0x3001, 0x3001), (0xFE10, 0xFE11),
        (0xFE13, 0xFE14), (0xFE31, 0xFE32), (0xFE50, 0xFE51), (0xFE54, 0xFE55), (0xFE58, 0xFE58),
        (0xFE63, 0xFE63), (0xFF0C, 0xFF0D), (0xFF1A, 0xFF1B), (0xFF64, 0xFF64)]
  | "sterm" | "st" => some (CharSet.difference (propertySet sentenceTerminalText) fullStop)
  | "close" | "cl" =>
    some (CharSet.difference
      (ofCategories ["Ps", "Pe", "Pi", "Pf"] ++ propertySet quotationMarkText ++ ornaments)
      [(0xFF02, 0xFF02), (0xFF07, 0xFF07)])
  | _ => none

end Sentence
end PolicyGate.Unicode
