/-! A place in a document, with the line and column it stands in. -/

namespace PromptKernel.Yaml

structure Cursor where
  rest : List Char
  index : Nat := 0
  line : Nat := 0
  column : Nat := 0

def isBreak (c : Char) : Bool :=
  c == '\n' || c == '\r' || c.toNat == 0x85 || c.toNat == 0x2028 || c.toNat == 0x2029

def isSpaceOrTab (c : Char) : Bool := c == ' ' || c == '\t'

/-- Letters, digits, the underscore and the hyphen. -/
def isNameChar (c : Char) : Bool := c.isAlphanum || c == '_' || c == '-'

/-- The characters that a document may hold. -/
def isAllowed (c : Char) : Bool :=
  let n := c.toNat
  n == 9 || n == 10 || n == 13 || (0x20 ≤ n && n ≤ 0x7e) || n == 0x85 ||
  (0xa0 ≤ n && n ≤ 0xd7ff) || (0xe000 ≤ n && n ≤ 0xfffd) || 0x10000 ≤ n

def isByteOrderMark (c : Char) : Bool := c.toNat == 0xfeff

namespace Cursor

def peek (cursor : Cursor) : Option Char := cursor.rest.head?

def peekAt (cursor : Cursor) (n : Nat) : Option Char := cursor.rest[n]?

def at? (cursor : Cursor) (n : Nat) (p : Char → Bool) : Bool := (cursor.peekAt n).any p

def startsWith (cursor : Cursor) (text : String) : Bool := text.toList.isPrefixOf cursor.rest

def blankAt (cursor : Cursor) (n : Nat) : Bool := cursor.at? n isSpaceOrTab

def breakAt (cursor : Cursor) (n : Nat) : Bool := cursor.at? n isBreak

def endAt (cursor : Cursor) (n : Nat) : Bool := (cursor.peekAt n).isNone

def gapAt (cursor : Cursor) (n : Nat) : Bool :=
  cursor.blankAt n || cursor.breakAt n || cursor.endAt n

def lineEndAt (cursor : Cursor) (n : Nat) : Bool := cursor.breakAt n || cursor.endAt n

def skip (cursor : Cursor) (n : Nat := 1) : Cursor :=
  { cursor with
    rest := cursor.rest.drop n, index := cursor.index + n, column := cursor.column + n }

/-- Moves past a line break and says what it stands for in a scalar. The two separators of Unicode
stay as they are, all other breaks become a line feed. Without a break nothing happens. -/
def readBreak (cursor : Cursor) : List Char × Cursor :=
  let next (n : Nat) : Cursor :=
    ⟨cursor.rest.drop n, cursor.index + n, cursor.line + 1, 0⟩
  match cursor.rest with
  | '\r' :: '\n' :: _ => (['\n'], next 2)
  | c :: _ =>
    if c.toNat = 0x2028 ∨ c.toNat = 0x2029 then ([c], next 1)
    else if isBreak c then (['\n'], next 1)
    else ([], cursor)
  | [] => ([], cursor)

def skipBreak (cursor : Cursor) : Cursor := cursor.readBreak.2

def takeWhile (cursor : Cursor) (p : Char → Bool) : List Char × Cursor :=
  let taken := cursor.rest.takeWhile p
  (taken, cursor.skip taken.length)

def skipWhile (cursor : Cursor) (p : Char → Bool) : Cursor := (cursor.takeWhile p).2

/-- A line of three hyphens or points marks the border of a document. -/
def atBorder (cursor : Cursor) : Bool :=
  cursor.column == 0 && (cursor.startsWith "---" || cursor.startsWith "...") && cursor.gapAt 3

end Cursor

end PromptKernel.Yaml
