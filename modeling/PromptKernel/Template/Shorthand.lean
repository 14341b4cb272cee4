import PromptKernel.Text.Blank
import PromptKernel.Text.Search

/-! Shorter ways to write blocks. Raw blocks may have two braces instead of four, and message blocks
may do without their sigil. Both are spelled out before a template is read. Raw blocks are found
first, and nothing inside of them is changed. -/

namespace PromptKernel.Template

namespace Shorthand

inductive Braces
  | four
  | two (sigil : Bool)
deriving DecidableEq, Repr

def Braces.opening : Braces → List Char
  | four => "\x7b\x7b\x7b\x7braw\x7d\x7d\x7d\x7d".toList
  | two true => "\x7b\x7b#raw\x7d\x7d".toList
  | two false => "\x7b\x7braw\x7d\x7d".toList

def Braces.closing : Braces → List Char
  | four => "\x7b\x7b\x7b\x7b/raw\x7d\x7d\x7d\x7d".toList
  | two _ => "\x7b\x7b/raw\x7d\x7d".toList

def Braces.all : List Braces := [four, two true, two false]

structure RawBlock where
  braces : Braces
  body : List Char

def RawBlock.written (block : RawBlock) : List Char :=
  block.braces.opening ++ block.body ++ block.braces.closing

/-- The raw block at the start of the text, which ends at the first closing tag of its kind, and
the text after it. -/
def rawBlock? (text : List Char) : Option (RawBlock × List Char) :=
  Braces.all.findSome? fun braces => do
    let inside ← Text.dropPrefix? braces.opening text
    let (body, rest) ← Text.cut? braces.closing inside
    return (⟨braces, body⟩, rest)

theorem length_of_rawBlock? {text rest : List Char} {block : RawBlock}
    (found : rawBlock? text = some (block, rest)) : rest.length < text.length := by
  obtain ⟨braces, -, found⟩ := List.exists_of_findSome?_eq_some found
  obtain ⟨inside, opened, found⟩ := Option.bind_eq_some_iff.mp found
  obtain ⟨⟨body, rest'⟩, cut, same⟩ := Option.bind_eq_some_iff.mp found
  obtain ⟨-, rfl⟩ := by simpa using same
  have shorter := Text.length_of_dropPrefix? opened
  have whole := congrArg List.length (Text.eq_append_of_cut? cut)
  have closing : 0 < braces.closing.length := by
    rcases braces with _ | (_ | _) <;> decide
  simp at whole
  omega

/-- A template around its raw blocks: each block with the text before it, and the text after the
last one. -/
structure Outline where
  blocks : List (List Char × RawBlock)
  rest : List Char

namespace Outline

def push (c : Char) : Outline → Outline
  | ⟨[], rest⟩ => ⟨[], c :: rest⟩
  | ⟨(text, block) :: blocks, rest⟩ => ⟨(c :: text, block) :: blocks, rest⟩

/-- The outline of a template, where raw blocks are found from left to right. -/
def ofChars : List Char → Outline
  | [] => ⟨[], []⟩
  | c :: cs =>
    match _found : rawBlock? (c :: cs) with
    | some (block, rest) =>
      let outline := ofChars rest
      ⟨([], block) :: outline.blocks, outline.rest⟩
    | none => (ofChars cs).push c
termination_by text => text.length
decreasing_by
  · exact length_of_rawBlock? ‹_›
  · simp

def texts (outline : Outline) : List (List Char) := outline.blocks.map Prod.fst ++ [outline.rest]

def written (outline : Outline) : List Char :=
  (outline.blocks.flatMap fun (text, block) => text ++ block.written) ++ outline.rest

/-- The outline with every text changed and every raw block in four braces. -/
def spellOut (change : List Char → List Char) (outline : Outline) : Outline :=
  ⟨outline.blocks.map fun (text, block) => (change text, { block with braces := .four }),
    change outline.rest⟩

end Outline

def splitMark : List Char → List Char × List Char
  | '~' :: rest => (['~'], rest)
  | text => ([], text)

/-- Blanks with the first character of an argument after them, and the rest. -/
def argumentStart? (text : List Char) : Option (List Char × List Char) :=
  let blanks := text.takeWhile Text.isBlank
  match text.dropWhile Text.isBlank with
  | [] => none
  | c :: rest =>
    if blanks.isEmpty ∨ c = '\x7d' ∨ c = '~' then none else some (blanks ++ [c], rest)

/-- A message block that is opened without its sigil at the start of the text: the mark between
the braces and the word, what follows the word up to the first character of an argument, and the
rest. -/
def bareOpener? (text : List Char) : Option (List Char × List Char × List Char) := do
  let inside ← Text.dropPrefix? ['\x7b', '\x7b'] text
  let after ← Text.dropPrefix? "message".toList ((splitMark inside).2.dropWhile Text.isBlank)
  let (argument, rest) ← argumentStart? after
  return ((splitMark inside).1, argument, rest)

theorem length_dropWhile_le (p : Char → Bool) (text : List Char) :
    (text.dropWhile p).length ≤ text.length := (List.dropWhile_sublist p).length_le

theorem length_of_splitMark (text : List Char) : (splitMark text).2.length ≤ text.length := by
  unfold splitMark; split <;> simp

theorem length_of_argumentStart? {text argument rest : List Char}
    (found : argumentStart? text = some (argument, rest)) : rest.length < text.length := by
  have shorter := length_dropWhile_le Text.isBlank text
  unfold argumentStart? at found
  split at found
  · cases found
  · next c rest' same =>
    dsimp only at found
    split at found
    · cases found
    · obtain ⟨-, rfl⟩ := by simpa using found
      rw [same] at shorter
      exact shorter

theorem length_of_bareOpener? {text mark argument rest : List Char}
    (found : bareOpener? text = some (mark, argument, rest)) : rest.length < text.length := by
  obtain ⟨inside, opened, found⟩ := Option.bind_eq_some_iff.mp found
  obtain ⟨after, word, found⟩ := Option.bind_eq_some_iff.mp found
  obtain ⟨⟨argument', rest'⟩, start, same⟩ := Option.bind_eq_some_iff.mp found
  obtain ⟨-, -, rfl⟩ := by simpa using same
  have opened := Text.length_of_dropPrefix? opened
  have word := Text.length_of_dropPrefix? word
  have marked := length_of_splitMark inside
  have blanks := length_dropWhile_le Text.isBlank (splitMark inside).2
  have started := length_of_argumentStart? start
  omega

def addSigils : List Char → List Char
  | [] => []
  | c :: cs =>
    match _found : bareOpener? (c :: cs) with
    | some (mark, argument, rest) =>
      ['\x7b', '\x7b'] ++ mark ++ "#message".toList ++ argument ++ addSigils rest
    | none => c :: addSigils cs
termination_by text => text.length
decreasing_by
  · exact length_of_bareOpener? ‹_›
  · simp

/-- The end of a closing tag of a message block. -/
def messageEnd : List Char := "/message\x7d\x7d".toList

/-- Whether some text outside of raw blocks closes a message block. -/
def closesMessage (outline : Outline) : Bool :=
  outline.texts.any fun text => (Text.cut? messageEnd text).isSome

/-- The outline with all blocks spelled out. Without a closing tag there are no message blocks. -/
def expandOutline (outline : Outline) : Outline :=
  outline.spellOut (if closesMessage outline then addSigils else id)

end Shorthand

def expand (text : List Char) : List Char :=
  (Shorthand.expandOutline (Shorthand.Outline.ofChars text)).written

end PromptKernel.Template
