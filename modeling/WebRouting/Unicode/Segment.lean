import WebRouting.Unicode.Property
import WebRouting.Unicode.Script

/-! # Boundaries in texts

What a character does at the boundaries of characters as readers see them, of words and of sentences. The
kinds are derived from categories and properties as the standard derives them, with tables for the
characters added by hand. -/

namespace WebRouting.Unicode

/-- The joiner of zero width. -/
def zeroWidthJoiner : Ranges := [(0x200D, 0x200D)]

/-- The carriage return. -/
def carriageReturn : Ranges := [(0xD, 0xD)]

/-- The line feed. -/
def lineFeed : Ranges := [(0xA, 0xA)]

/-! ## Characters as readers see them -/

/-- Consonants that start a Hangul syllable. -/
def leadingJamo : Ranges := [(0x1100, 0x115F), (0xA960, 0xA97C)]

/-- Vowels of a Hangul syllable. -/
def vowelJamo : Ranges :=
  [(0x1160, 0x11A7), (0xD7B0, 0xD7C6), (0x16D63, 0x16D63), (0x16D67, 0x16D6A)]

/-- Consonants that end a Hangul syllable. -/
def trailingJamo : Ranges := [(0x11A8, 0x11FF), (0xD7CB, 0xD7FB)]

/-- Hangul syllables without a consonant at the end: every twenty-eighth of all. -/
def openSyllable : Ranges :=
  (List.range 399).map fun i => (0xAC00 + 28 * i, 0xAC00 + 28 * i)

/-- Hangul syllables with a consonant at the end. -/
def closedSyllable : Ranges :=
  (List.range 399).map fun i => (0xAC00 + 28 * i + 1, 0xAC00 + 28 * i + 27)

/-- Characters that extend the one before them. -/
def graphemeExtension : Ranges := graphemeExtend ++ emojiModifier

/-- Characters that go with the one behind them. -/
def graphemePrepend : Ranges :=
  prependedConcatenationMark ++
    [(0xD4E, 0xD4E), (0x111C2, 0x111C3), (0x113D1, 0x113D1), (0x1193F, 0x1193F), (0x11941, 0x11941),
     (0x11A84, 0x11A89), (0x11D46, 0x11D46), (0x11F02, 0x11F02)]

/-- Controls and other characters that stand alone. -/
def graphemeControl : CharProperty where
  included := lineSeparator ++ paragraphSeparator ++ control ++ format ++
    [(0x2065, 0x2065), (0xFFF0, 0xFFF8), (0xE0000, 0xE0000), (0xE0002, 0xE001F), (0xE0080, 0xE00FF),
     (0xE01F0, 0xE0FFF)]
  excluded := carriageReturn ++ lineFeed ++ zeroWidthJoiner ++ graphemeExtend ++
    prependedConcatenationMark

/-- Marks that take room of their own behind a character. -/
def graphemeSpacing : CharProperty where
  included := spacingMark ++ [(0xE33, 0xE33), (0xEB3, 0xEB3)]
  excluded := graphemeExtend ++
    [(0x102B, 0x102C), (0x1038, 0x1038), (0x1062, 0x1064), (0x1067, 0x106D), (0x1083, 0x1083),
     (0x1087, 0x108C), (0x108F, 0x108F), (0x109A, 0x109C), (0x1A61, 0x1A61), (0x1A63, 0x1A64),
     (0xAA7B, 0xAA7B), (0xAA7D, 0xAA7D), (0x11720, 0x11721)]

/-- The kinds of characters at the boundaries of what readers see as one character. -/
def graphemeBreaks : List (String × CharProperty) :=
  [("control", graphemeControl), ("cn", graphemeControl), ("cr", carriageReturn), ("lf", lineFeed),
   ("extend", graphemeExtension), ("ex", graphemeExtension), ("l", leadingJamo), ("v", vowelJamo),
   ("t", trailingJamo), ("lv", openSyllable), ("lvt", closedSyllable), ("prepend", graphemePrepend),
   ("pp", graphemePrepend), ("regionalindicator", regionalIndicator), ("ri", regionalIndicator),
   ("spacingmark", graphemeSpacing), ("sm", graphemeSpacing), ("zwj", zeroWidthJoiner)]

/-! ## Words -/

/-- Marks that extend a word. -/
def wordExtension : Ranges := graphemeExtension ++ spacingMark

/-- Formats inside words. -/
def wordFormat : CharProperty where
  included := format
  excluded := prependedConcatenationMark ++ graphemeExtend ++ [(0x200B, 0x200D)]

/-- Katakana and what is written like it. -/
def wordKatakana : Ranges :=
  katakanaScript ++
    [(0x3031, 0x3035), (0x309B, 0x309C), (0x30A0, 0x30A0), (0x30FC, 0x30FC), (0xFF70, 0xFF70)]

/-- Hebrew letters. -/
def hebrewLetter : Ranges :=
  [(0x5D0, 0x5EA), (0x5EF, 0x5F2), (0xFB1D, 0xFB1D), (0xFB1F, 0xFB28), (0xFB2A, 0xFB36),
   (0xFB38, 0xFB3C), (0xFB3E, 0xFB3E), (0xFB40, 0xFB41), (0xFB43, 0xFB44), (0xFB46, 0xFB4F)]

/-- Letters of words in scripts with blanks between words. -/
def wordLetter : CharProperty where
  included := alphabetic ++
    [(0xB8, 0xB8), (0x2C2, 0x2C5), (0x2D2, 0x2D7), (0x2DE, 0x2DF), (0x2E5, 0x2EB), (0x2ED, 0x2ED),
     (0x2EF, 0x2FF), (0x55A, 0x55C), (0x55E, 0x55E), (0x58A, 0x58A), (0x5F3, 0x5F3), (0x70F, 0x70F),
     (0xA708, 0xA716), (0xA720, 0xA721), (0xA789, 0xA78A), (0xAB5B, 0xAB5B)]
  excluded := ideographic ++ hiraganaScript ++ wordKatakana ++ hebrewLetter ++ wordExtension ++
    thaiScript ++ laoScript ++ khmerScript ++ myanmarScript ++ taiLeScript ++ newTaiLueScript ++
    taiThamScript ++ taiVietScript ++ ahomScript

/-- Digits and what stands before or between them. -/
def wordNumeric : CharProperty where
  included := decimalNumber ++ prependedConcatenationMark ++ [(0x66B, 0x66B), (0x19DA, 0x19DA)]
  excluded := [(0x70F, 0x70F)]

/-- Punctuation between letters. -/
def midLetter : Ranges :=
  [(0x3A, 0x3A), (0xB7, 0xB7), (0x387, 0x387), (0x55F, 0x55F), (0x5F4, 0x5F4), (0x2027, 0x2027),
   (0xFE13, 0xFE13), (0xFE55, 0xFE55), (0xFF1A, 0xFF1A)]

/-- Punctuation between digits. -/
def midNumber : Ranges :=
  [(0x2C, 0x2C), (0x3B, 0x3B), (0x37E, 0x37E), (0x589, 0x589), (0x60C, 0x60D), (0x66C, 0x66C),
   (0x7F8, 0x7F8), (0x2044, 0x2044), (0xFE50, 0xFE50), (0xFE54, 0xFE54), (0xFF0C, 0xFF0C),
   (0xFF1B, 0xFF1B)]

/-- Punctuation between letters or between digits. -/
def midNumberLetter : Ranges :=
  [(0x2E, 0x2E), (0x2018, 0x2019), (0x2024, 0x2024), (0xFE52, 0xFE52), (0xFF07, 0xFF07),
   (0xFF0E, 0xFF0E)]

/-- Ends of lines other than the carriage return and the line feed. -/
def wordNewline : Ranges := [(0xB, 0xC), (0x85, 0x85), (0x2028, 0x2029)]

/-- Connectors of words. -/
def wordConnector : Ranges := connectorPunctuation ++ [(0x202F, 0x202F)]

/-- Blanks of words. -/
def wordSpace : CharProperty where
  included := spaceSeparator
  excluded := [(0xA0, 0xA0), (0x2007, 0x2007), (0x202F, 0x202F)]

/-- The kinds of characters at the boundaries of words. -/
def wordBreaks : List (String × CharProperty) :=
  [("aletter", wordLetter), ("le", wordLetter), ("cr", carriageReturn), ("lf", lineFeed),
   ("doublequote", [(0x22, 0x22)]), ("dq", [(0x22, 0x22)]), ("extend", wordExtension),
   ("extendnumlet", wordConnector), ("ex", wordConnector), ("format", wordFormat),
   ("fo", wordFormat), ("hebrewletter", hebrewLetter), ("hl", hebrewLetter),
   ("katakana", wordKatakana), ("ka", wordKatakana), ("midletter", midLetter), ("ml", midLetter),
   ("midnum", midNumber), ("mn", midNumber), ("midnumlet", midNumberLetter),
   ("mb", midNumberLetter), ("newline", wordNewline), ("nl", wordNewline), ("numeric", wordNumeric),
   ("nu", wordNumeric), ("regionalindicator", regionalIndicator), ("ri", regionalIndicator),
   ("singlequote", [(0x27, 0x27)]), ("sq", [(0x27, 0x27)]), ("wsegspace", wordSpace),
   ("zwj", zeroWidthJoiner)]

/-! ## Sentences -/

/-- Marks that extend a character in a sentence. -/
def sentenceExtension : Ranges := graphemeExtend ++ spacingMark ++ zeroWidthJoiner

/-- Formats inside sentences. -/
def sentenceFormat : CharProperty where
  included := format
  excluded := graphemeExtend ++ zeroWidthJoiner ++
    [(0x600, 0x605), (0x6DD, 0x6DD), (0x890, 0x891), (0x8E2, 0x8E2), (0x110BD, 0x110BD),
     (0x110CD, 0x110CD)]

/-- Blanks of sentences. -/
def sentenceSpace : CharProperty where
  included := whiteSpace
  excluded := carriageReturn ++ lineFeed ++ [(0x85, 0x85), (0x2028, 0x2029)]

/-- Georgian letters, which have uppercase forms but no case in sentences. -/
def georgianLowercase : Ranges := [(0x10D0, 0x10FA), (0x10FD, 0x10FF)]

/-- The uppercase forms of Georgian letters. -/
def georgianUppercase : Ranges := [(0x1C90, 0x1CBA), (0x1CBD, 0x1CBF)]

/-- Lowercase letters of sentences. -/
def sentenceLower : CharProperty where
  included := lowercase
  excluded := graphemeExtend ++ georgianLowercase

/-- Uppercase letters of sentences. -/
def sentenceUpper : CharProperty where
  included := uppercase ++ titlecaseLetter
  excluded := georgianUppercase

/-- Letters without case in sentences. -/
def sentenceLetter : CharProperty where
  included := modifierLetter ++ otherLetter ++ letterNumber ++ otherAlphabetic ++ georgianLowercase ++
    georgianUppercase ++ [(0x5F3, 0x5F3)]
  excluded := otherLowercase ++ otherUppercase ++ sentenceExtension

/-- Digits of sentences. -/
def sentenceNumeric : CharProperty :=
  { wordNumeric with included := wordNumeric.included ++ [(0x66C, 0x66C)] }

/-- Full stops, which need not end a sentence. -/
def fullStop : Ranges := [(0x2E, 0x2E), (0x2024, 0x2024), (0xFE52, 0xFE52), (0xFF0E, 0xFF0E)]

/-- Punctuation that ends a sentence, without full stops. -/
def sentenceEnd : CharProperty := { included := sentenceTerminal, excluded := fullStop }

/-- Brackets and quotation marks around sentences. -/
def sentenceClose : CharProperty where
  included := openPunctuation ++ closePunctuation ++ initialPunctuation ++ finalPunctuation ++
    quotationMark ++
    [(0x275B, 0x2760), (0x2E00, 0x2E01), (0x2E06, 0x2E08), (0x2E0B, 0x2E0B), (0x1F676, 0x1F678)]
  excluded := [(0xFF02, 0xFF02), (0xFF07, 0xFF07)]

/-- Ends of paragraphs. -/
def sentenceSeparator : Ranges := [(0x85, 0x85), (0x2028, 0x2029)]

/-- Punctuation behind which a sentence goes on. -/
def sentenceContinue : Ranges :=
  [(0x2C, 0x2D), (0x3A, 0x3B), (0x37E, 0x37E), (0x55D, 0x55D), (0x60C, 0x60D), (0x7F8, 0x7F8),
   (0x1802, 0x1802), (0x1808, 0x1808), (0x2013, 0x2014), (0x3001, 0x3001), (0xFE10, 0xFE11),
   (0xFE13, 0xFE14), (0xFE31, 0xFE32), (0xFE50, 0xFE51), (0xFE54, 0xFE55), (0xFE58, 0xFE58),
   (0xFE63, 0xFE63), (0xFF0C, 0xFF0D), (0xFF1A, 0xFF1B), (0xFF64, 0xFF64)]

/-- The kinds of characters at the boundaries of sentences. -/
def sentenceBreaks : List (String × CharProperty) :=
  [("aterm", fullStop), ("at", fullStop), ("close", sentenceClose), ("cl", sentenceClose),
   ("cr", carriageReturn), ("lf", lineFeed), ("extend", sentenceExtension),
   ("ex", sentenceExtension), ("format", sentenceFormat), ("fo", sentenceFormat),
   ("lower", sentenceLower), ("lo", sentenceLower), ("numeric", sentenceNumeric),
   ("nu", sentenceNumeric), ("oletter", sentenceLetter), ("le", sentenceLetter),
   ("scontinue", sentenceContinue), ("sc", sentenceContinue), ("sep", sentenceSeparator),
   ("se", sentenceSeparator), ("sp", sentenceSpace), ("sterm", sentenceEnd), ("st", sentenceEnd),
   ("upper", sentenceUpper), ("up", sentenceUpper)]

end WebRouting.Unicode
