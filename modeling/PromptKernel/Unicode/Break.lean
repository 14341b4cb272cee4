import PromptKernel.Unicode.Property
import PromptKernel.Unicode.Script

/-! What a character means for the places where a text may be broken: between the characters a
reader sees, between words and between sentences. The first class that fits is the one. -/

namespace PromptKernel.Unicode

/-- Marks that stand in front of the digits they go with. -/
def isPrepended (c : Char) : Bool := isIn prependedMarks c

/-- Marks that join what is before them, by name or by taking up space. -/
def isJoined (c : Char) : Bool := isExtender c || category c == "Mc"

def isZeroWidthJoiner (c : Char) : Bool := c.toNat == 0x200d

/-- Format characters apart from the joiners. -/
def isFormat (c : Char) : Bool :=
  category c == "Cf" && !isIn joinControls c && !isPrepended c

/-- Digits, with the marks that go in front of them. The abbreviation mark goes with letters. -/
def isNumeric (c : Char) : Bool :=
  category c == "Nd" || c.toNat == 0x66b || (isPrepended c && c.toNat != 0x70f)

inductive GraphemeBreak
  | cr
  | lf
  | zeroWidthJoiner
  | extend
  | prepend
  | control
  | regionalIndicator
  | spacingMark
  | l
  | v
  | t
  | lv
  | lvt
  | other
deriving DecidableEq, Repr

def leadingConsonants : List Range := ranges "1100-115f a960-a97c"

def vowels : List Range := ranges "1160-11a7 d7b0-d7c6 16d63 16d67-16d6a"

def trailingConsonants : List Range := ranges "11a8-11ff d7cb-d7fb"

/-- Letters that go with the one after them. -/
def otherPrepended : List Range := ranges
  "d4e 111c2-111c3 113d1 1193f 11941 11a84-11a89 11d46 11f02"

/-- Vowel signs that take up space but may be broken off. -/
def looseSpacingMarks : List Range := ranges
  (String.join [
    "102b-102c 1038 1062-1064 1067-106d 1083 1087-108c 108f 109a-109c 1a61 1a63-1a64 aa7b aa7d ",
    "11720-11721"])

/-- Hangul syllables are laid out in rows of 28, of which the first has no final consonant. -/
def isSyllable (c : Char) : Bool := 0xac00 ≤ c.toNat && c.toNat ≤ 0xd7a3

def graphemeBreak (c : Char) : GraphemeBreak :=
  if c = '\r' then .cr
  else if c = '\n' then .lf
  else if isZeroWidthJoiner c then .zeroWidthJoiner
  else if isExtender c ∨ isIn emojiModifiers c then .extend
  else if isPrepended c ∨ isIn otherPrepended c then .prepend
  else if ["Zl", "Zp", "Cc", "Cf"].contains (category c) ∨
      (category c = "Cn" ∧ isDefaultIgnorable c) then .control
  else if isIn regionalIndicators c then .regionalIndicator
  else if isIn vowels c then .v
  else if (category c = "Mc" ∨ c.toNat = 0xe33 ∨ c.toNat = 0xeb3) ∧
      isIn looseSpacingMarks c = false then .spacingMark
  else if isIn leadingConsonants c then .l
  else if isIn trailingConsonants c then .t
  else if isSyllable c then if (c.toNat - 0xac00) % 28 = 0 then .lv else .lvt
  else .other

def graphemeBreakNamed? (name : String) : Option GraphemeBreak :=
  match name with
  | "cr" => some .cr
  | "lf" => some .lf
  | "zwj" => some .zeroWidthJoiner
  | "extend" | "ex" => some .extend
  | "prepend" | "pp" => some .prepend
  | "control" | "cn" => some .control
  | "regionalindicator" | "ri" => some .regionalIndicator
  | "spacingmark" | "sm" => some .spacingMark
  | "l" => some .l
  | "v" => some .v
  | "t" => some .t
  | "lv" => some .lv
  | "lvt" => some .lvt
  | _ => none

inductive WordBreak
  | cr
  | lf
  | newline
  | zeroWidthJoiner
  | extend
  | numeric
  | format
  | regionalIndicator
  | doubleQuote
  | singleQuote
  | midNumLet
  | midLetter
  | midNum
  | extendNumLet
  | blank
  | katakana
  | hebrewLetter
  | letter
  | other
deriving DecidableEq, Repr

def midNumLets : List Range := ranges "2e 2018-2019 2024 fe52 ff07 ff0e"

def midLetters : List Range := ranges "b7 387 55f 5f4 2027 fe13 fe55 ff1a"

def midNums : List Range := ranges
  "2c 3b 37e 589 60c-60d 66c 7f8 2044 fe10 fe14 fe50 fe54 ff0c ff1b"

def segmentBlanks : List Range := ranges "20 1680 2000-2006 2008-200a 205f 3000"

def otherKatakana : List Range := ranges "3031-3035 309b-309c 30a0 30fc ff70"

/-- Symbols and punctuation that are part of words. -/
def otherWordLetters : List Range := ranges
  (String.join [
    "2c2-2c5 2d2-2d7 2de-2df 2e5-2eb 2ed 2ef-2ff 55a-55c 55e 58a 5f3 70f a708-a716 a720-a721 ",
    "a789-a78a ab5b"])

/-- Letters of the scripts whose words are told apart by a dictionary. -/
def dictionaryLetters : List Range := ranges
  (String.join [
    "e01-e30 e32-e33 e40-e46 e81-e82 e84 e86-e8a e8c-ea3 ea5 ea7-eb0 eb2-eb3 ebd ec0-ec4 ec6 ",
    "edc-edf 1000-102a 103f 1050-1055 105a-105d 1061 1065-1066 106e-1070 1075-1081 108e ",
    "1780-17b3 17d7 17dc 1950-196d 1970-1974 1980-19ab 19b0-19c9 1a20-1a54 1aa7 a9e0-a9e4 ",
    "a9e6-a9ef a9fa-a9fe aa60-aa76 aa7a aa7e-aaaf aab1 aab5-aab6 aab9-aabd aac0 aac2 aadb-aadd ",
    "11700-1171a 11740-11746"])

def isWordLetter (c : Char) : Bool :=
  (isAlphabetic c || isIn otherWordLetters c) && !isIdeographic c && script c != "Hira" &&
  !isIn dictionaryLetters c

def wordBreak (c : Char) : WordBreak :=
  if c = '\r' then .cr
  else if c = '\n' then .lf
  else if [0xb, 0xc, 0x85, 0x2028, 0x2029].contains c.toNat then .newline
  else if isZeroWidthJoiner c then .zeroWidthJoiner
  else if isJoined c ∨ isIn emojiModifiers c then .extend
  else if isNumeric c then .numeric
  else if isFormat c ∧ c.toNat ≠ 0x200b ∧ isPrepended c = false then .format
  else if isIn regionalIndicators c then .regionalIndicator
  else if c = '"' then .doubleQuote
  else if c = '\'' then .singleQuote
  else if isIn midNumLets c then .midNumLet
  else if isIn midLetters c then .midLetter
  else if isIn midNums c then .midNum
  else if category c = "Pc" ∨ c.toNat = 0x202f then .extendNumLet
  else if isIn segmentBlanks c then .blank
  else if script c = "Kana" ∨ isIn otherKatakana c then .katakana
  else if script c = "Hebr" ∧ category c = "Lo" then .hebrewLetter
  else if isWordLetter c then .letter
  else .other

def wordBreakNamed? (name : String) : Option WordBreak :=
  match name with
  | "cr" => some .cr
  | "lf" => some .lf
  | "newline" | "nl" => some .newline
  | "zwj" => some .zeroWidthJoiner
  | "extend" => some .extend
  | "numeric" | "nu" => some .numeric
  | "format" | "fo" => some .format
  | "regionalindicator" | "ri" => some .regionalIndicator
  | "doublequote" | "dq" => some .doubleQuote
  | "singlequote" | "sq" => some .singleQuote
  | "midnumlet" | "mb" => some .midNumLet
  | "midletter" | "ml" => some .midLetter
  | "midnum" | "mn" => some .midNum
  | "extendnumlet" | "ex" => some .extendNumLet
  | "wsegspace" => some .blank
  | "katakana" | "ka" => some .katakana
  | "hebrewletter" | "hl" => some .hebrewLetter
  | "aletter" | "le" => some .letter
  | _ => none

inductive SentenceBreak
  | cr
  | lf
  | separator
  | extend
  | numeric
  | format
  | blank
  | lower
  | upper
  | letter
  | ambiguousTerminal
  | continuation
  | terminal
  | close
  | other
deriving DecidableEq, Repr

/-- Full stops, which may also end an abbreviation. -/
def ambiguousTerminals : List Range := ranges "2e 2024 fe52 ff0e"

def continuations : List Range := ranges
  (String.join [
    "2c-2d 3a-3b 37e 55d 60c-60d 7f8 1802 1808 2013-2014 3001 fe10-fe11 fe13-fe14 fe31-fe32 ",
    "fe50-fe51 fe54-fe55 fe58 fe63 ff0c-ff0d ff1a-ff1b ff64"])

/-- Signs that close something, apart from the paired punctuation. -/
def otherClosings : List Range := ranges
  "22 27 275b-2760 2e00-2e01 2e06-2e08 2e0b 1f676-1f678"

def georgianLetters : List Range := ranges "10d0-10fa 10fd-10ff"

def georgianCapitals : List Range := ranges "1c90-1cba 1cbd-1cbf"

def sentenceBreak (c : Char) : SentenceBreak :=
  if c = '\r' then .cr
  else if c = '\n' then .lf
  else if [0x85, 0x2028, 0x2029].contains c.toNat then .separator
  else if isJoined c ∨ isZeroWidthJoiner c then .extend
  else if isNumeric c then .numeric
  else if isFormat c then .format
  else if Text.isBlank c then .blank
  else if isLowercase c ∧ isIn georgianLetters c = false then .lower
  else if (isUppercase c ∨ category c = "Lt") ∧ isIn georgianCapitals c = false then .upper
  else if isAlphabetic c ∨ c.toNat = 0x5f3 ∨ c.toNat = 0x70f then .letter
  else if isIn ambiguousTerminals c then .ambiguousTerminal
  else if isIn continuations c then .continuation
  else if isIn sentenceTerminals c then .terminal
  else if ["Ps", "Pe", "Pi", "Pf"].contains (category c) ∨ isIn otherClosings c then .close
  else .other

def sentenceBreakNamed? (name : String) : Option SentenceBreak :=
  match name with
  | "cr" => some .cr
  | "lf" => some .lf
  | "sep" | "se" => some .separator
  | "extend" | "ex" => some .extend
  | "numeric" | "nu" => some .numeric
  | "format" | "fo" => some .format
  | "sp" => some .blank
  | "lower" | "lo" => some .lower
  | "upper" | "up" => some .upper
  | "oletter" | "le" => some .letter
  | "aterm" | "at" => some .ambiguousTerminal
  | "scontinue" | "sc" => some .continuation
  | "sterm" | "st" => some .terminal
  | "close" | "cl" => some .close
  | _ => none

end PromptKernel.Unicode
