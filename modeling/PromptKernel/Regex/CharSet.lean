import PromptKernel.Unicode.Age
import PromptKernel.Unicode.Break
import PromptKernel.Unicode.Folding
import PromptKernel.Unicode.Property
import PromptKernel.Unicode.Script

/-! Sets of characters as patterns describe them. -/

namespace PromptKernel

/-- A property of characters with a name of its own. -/
inductive CharProperty
  | any
  | ascii
  | assigned
  | digit
  | word
  | binary (property : Unicode.Property)
  /-- A general category of two letters. -/
  | category (code : String)
  /-- All general categories that start with the letter. -/
  | majorCategory (letter : String)
  | casedLetter
  | script (code : String)
  /-- The script itself or one that is used with it. -/
  | scriptExtension (code : String)
  /-- The versions of the standard up to the one at the position. -/
  | age (position : Nat)
  | graphemeBreak (value : Unicode.GraphemeBreak)
  | wordBreak (value : Unicode.WordBreak)
  | sentenceBreak (value : Unicode.SentenceBreak)
  | asciiBlank
  | asciiDigit
  | asciiWord
deriving DecidableEq, Repr

namespace CharProperty

def blank : CharProperty := binary .whiteSpace

def isAsciiWord (c : Char) : Bool := c.isAlphanum || c == '_'

def isAsciiBlank (c : Char) : Bool := c == ' ' || (9 ≤ c.toNat && c.toNat ≤ 13)

def holds : CharProperty → Char → Bool
  | any, _ => true
  | ascii, c => c.toNat < 128
  | assigned, c => Unicode.category c != "Cn"
  | digit, c => Unicode.isDecimalDigit c
  | word, c => if c.toNat < 128 then isAsciiWord c else Unicode.isWord c
  | binary property, c => Unicode.hasProperty property c
  | category code, c => Unicode.category c == code
  | majorCategory letter, c => Unicode.majorCategory c == letter
  | casedLetter, c => ["Lu", "Ll", "Lt"].contains (Unicode.category c)
  | script code, c => Unicode.script c == code
  | scriptExtension code, c => Unicode.isUsedIn code c
  | age position, c => Unicode.isAsOldAs position c
  | graphemeBreak value, c => Unicode.graphemeBreak c == value
  | wordBreak value, c => Unicode.wordBreak c == value
  | sentenceBreak value, c => Unicode.sentenceBreak c == value
  | asciiBlank, c => isAsciiBlank c
  | asciiDigit, c => c.isDigit
  | asciiWord, c => isAsciiWord c

end CharProperty

inductive CharSet
  | range (first last : Char)
  | property (p : CharProperty)
  /-- The characters that agree up to case with one of the set. -/
  | caseless (s : CharSet)
  /-- The same for ASCII letters only. -/
  | asciiCaseless (s : CharSet)
  | union (s t : CharSet)
  | inter (s t : CharSet)
  | compl (s : CharSet)

namespace CharSet

def single (c : Char) : CharSet := range c c

def empty : CharSet := compl (property .any)

def diff (s t : CharSet) : CharSet := inter s (compl t)

def symmDiff (s t : CharSet) : CharSet := union (diff s t) (diff t s)

def unionAll : List CharSet → CharSet
  | [] => empty
  | [s] => s
  | s :: sets => union s (unionAll sets)

def contains : CharSet → Char → Bool
  | range first last, c => first ≤ c && c ≤ last
  | property p, c => p.holds c
  | caseless s, c => (Unicode.caseVariants c).any fun variant => s.contains variant
  | asciiCaseless s, c => s.contains c || s.contains c.toLower || s.contains c.toUpper
  | union s t, c => s.contains c || t.contains c
  | inter s t, c => s.contains c && t.contains c
  | compl s, c => !s.contains c

end CharSet

end PromptKernel
