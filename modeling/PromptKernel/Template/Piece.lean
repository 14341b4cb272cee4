import PromptKernel.Template.Tag
import PromptKernel.Text.Blank

/-! The text and the tags of a template in order, and what becomes of the white space between
them. A tag that has a line for itself takes the line away, and marks in a tag take all white
space next to it away. -/

namespace PromptKernel.Template

inductive Piece
  | text (s : List Char)
  /-- The inside of a raw block. -/
  | raw (s : List Char)
  /-- A tag, whether it has a line for itself, and the blanks in front of it. -/
  | tag (tag : Tag) (ownLine : Bool) (indent : List Char)

def isInlineBlank (c : Char) : Bool := c == ' ' || c == '\t'

/-- Text up to the next tag. A backslash keeps the braces after it from being a tag, and one of
several backslashes in front of a tag is dropped. `braces` is what starts a tag. -/
def readText (braces : String) : Nat → List Char → List Char → List Char × List Char
  | 0, done, text => (done.reverse, text)
  | fuel + 1, done, text =>
    if braces.toList.isPrefixOf text then (done.reverse, text)
    else
      match text with
      | [] => (done.reverse, [])
      | '\\' :: '{' :: '{' :: '{' :: '{' :: rest =>
        readText braces fuel ('{' :: '{' :: '{' :: '{' :: done) rest
      | '\\' :: '{' :: '{' :: rest => readText braces fuel ('{' :: '{' :: done) rest
      | '\\' :: '\\' :: rest =>
        let more := rest.takeWhile (· == '\\')
        let after := rest.dropWhile (· == '\\')
        if ['{', '{'].isPrefixOf after then
          readText braces fuel ('\\' :: more ++ done) after
        else readText braces fuel ('\\' :: done) ('\\' :: rest)
      | c :: rest => readText braces fuel (c :: done) rest

/-- Whether only blanks stand between the last line break, or the start, and the end of the text.
`before` says so of what was there before the text. -/
def endsOpenLine (before : Bool) (text : List Char) : Bool :=
  match text.reverse.dropWhile isInlineBlank with
  | [] => before
  | c :: _ => Text.isLineBreak c

/-- Whether only blanks stand before the next line break or the end. At the end no blanks may be
left. -/
def startsOpenLine (text : List Char) : Bool :=
  text.isEmpty || ((text.dropWhile isInlineBlank).head?).any Text.isLineBreak

def trailingBlanks (text : List Char) : List Char := (text.reverse.takeWhile isInlineBlank).reverse

/-- The pieces of a text. `lineOpen` says that only blanks precede in the line. -/
def pieces? : Nat → Bool → List Char → Option (List Piece)
  | 0, _, _ => none
  | fuel + 1, lineOpen, text =>
    let (plain, rest) := readText "\x7b\x7b" (text.length + 1) [] text
    let lineOpen := endsOpenLine lineOpen plain
    let start := if plain.isEmpty then [] else [Piece.text plain]
    match rest with
    | [] => some start
    | _ =>
      match tag? rest with
      | none => none
      | some (tag, rest) =>
        let piece := Piece.tag tag (lineOpen && startsOpenLine rest) (trailingBlanks plain)
        match tag.kind with
        | .rawStart .. =>
          let (inside, rest) := readText "\x7b\x7b\x7b\x7b" (rest.length + 1) [] rest
          match (expect? "\x7b\x7b\x7b\x7b" rest).bind rawTag? with
          | some (⟨.rawEnd name, trimBefore, trimAfter⟩, rest) =>
            let lineOpen := endsOpenLine false inside
            let close := Piece.tag ⟨.rawEnd name, trimBefore, trimAfter⟩
              (lineOpen && startsOpenLine rest) []
            (pieces? fuel false rest).map fun more =>
              start ++ piece :: .raw inside :: close :: more
          | _ => none
        | .rawEnd _ => none
        | _ => (pieces? fuel false rest).map fun more => start ++ piece :: more

/-- What a tag leaves behind for the text after it. -/
structure Spacing where
  dropAll : Bool := false
  dropLine : Bool := false

/-- Drops blanks up to and with the first line break. -/
def afterLineEnd (text : List Char) : List Char :=
  match text.dropWhile isInlineBlank with
  | '\r' :: '\n' :: rest => rest
  | '\n' :: rest => rest
  | rest => rest

def Spacing.apply (spacing : Spacing) (text : List Char) : List Char :=
  if spacing.dropAll then Text.trimStart text
  else if spacing.dropLine then afterLineEnd text
  else text

/-- Text between tags. Nothing but white space that is dropped as a whole leaves the line to be
dropped later. -/
def Spacing.afterText (spacing : Spacing) (text : List Char) : Spacing :=
  if spacing.dropAll && text.all isGap then spacing else { spacing with dropLine := false }

/-- Whether a tag on a line of its own takes the line away, and the blanks in front of it. -/
def TagKind.takesLine : TagKind → Bool
  | .output _ => false
  | _ => true

def Spacing.afterTag (spacing : Spacing) (tag : Tag) (ownLine : Bool) : Spacing where
  dropAll :=
    match tag.kind with
    | .comment => spacing.dropAll
    | _ => tag.trimAfter
  dropLine := if tag.kind.takesLine then ownLine else spacing.dropLine

/-- What the tag after a text takes from its end. -/
def trimmedFor (text : List Char) : Option Piece → List Char
  | some (.tag tag ownLine _) =>
    let text := if tag.trimBefore then Text.trimEnd text else text
    if ownLine && tag.kind.takesLine then Text.dropEndWhile isInlineBlank text else text
  | _ => text

/-- A text or tag whose white space is settled. A tag that drops white space in front of it
neither has indentation nor counts as having a line for itself. -/
inductive Token
  | text (s : String)
  | tag (kind : TagKind) (ownLine : Bool) (indent : List Char)

def settle (spacing : Spacing) : List Piece → List Token
  | [] => []
  | .text s :: rest =>
    let text := trimmedFor (spacing.apply s) rest.head?
    .text (String.ofList text) :: settle (spacing.afterText s) rest
  | .raw s :: rest =>
    let text := trimmedFor (spacing.apply (s.dropWhile isGap)) rest.head?
    .text (String.ofList text) :: settle spacing rest
  | .tag tag ownLine indent :: rest =>
    let token :=
      if tag.trimBefore then .tag tag.kind false [] else .tag tag.kind ownLine indent
    token :: settle (spacing.afterTag tag ownLine) rest

end PromptKernel.Template
