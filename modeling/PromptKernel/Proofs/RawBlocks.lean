import PromptKernel.Proofs.HelperNames
import PromptKernel.Proofs.MessageSigils
import PromptKernel.Proofs.WrittenCalls

/-! Raw blocks in whole templates. Spelling out a template finds the body of a raw block and leaves it as it
is. The reader then takes the body for text, unless white space or braces at its borders, or backslashes in
front of braces, come to mean something else. What is left is an element that renders like plain text. -/

namespace PromptKernel.Template
open Shorthand

/-- A body that is read as it stands. There is no white space in front of it, nothing in it looks like the
start of its closing tag or like an escape, and no blanks are lost in front of a closing tag that ends a line. -/
structure Verbatim (body rest : List Char) : Prop where
  stays : StaysText "\x7b\x7b\x7b\x7b".toList body
  start : ∀ c ∈ body.head?, isGap c = false
  finish : endsOpenLine false body = true → startsOpenLine rest = true → ∀ c ∈ body.getLast?, isInlineBlank c = false

namespace Verbatim
variable {body rest : List Char} (verbatim : Verbatim body rest)
include verbatim

/-- The reader stops at the closing tag. -/
theorem readText : Template.readText "\x7b\x7b\x7b\x7b" ((body ++ (Braces.four.closing ++ rest)).length + 1) []
    (body ++ (Braces.four.closing ++ rest)) = (body, Braces.four.closing ++ rest) :=
  readText_of_staysText (by decide) verbatim.stays (List.prefix_append _ _)

theorem not_startsOpenLine : startsOpenLine (body ++ (Braces.four.closing ++ rest)) = false := by
  cases body with
  | nil => rfl
  | cons c body =>
    have solid : isGap c = false := verbatim.start c rfl
    simp only [isGap, Bool.or_eq_false_iff, beq_eq_false_iff_ne] at solid
    simp [startsOpenLine, isInlineBlank, Text.isLineBreak, solid]

theorem pieces? {plain text : List Char} {fuel : Nat} {lineOpen : Bool} {pieces : List Piece}
    (found : Template.readText "\x7b\x7b" (text.length + 1) [] text = (plain, RawBlock.written ⟨.four, body⟩ ++ rest))
    (read : Template.pieces? (fuel + 1) lineOpen text = some pieces) :
    ∃ earlier indent later, pieces = earlier ++ .tag rawOpening false indent :: .raw body ::
      .tag rawClosing (endsOpenLine false body && startsOpenLine rest) [] :: later := by
  have place : RawBlock.written ⟨.four, body⟩ ++ rest =
      Braces.four.opening ++ (body ++ (Braces.four.closing ++ rest)) := by
    simp [RawBlock.written]
  rw [place] at found
  rw [pieces?_of_raw found (tag?_rawOpening _) rfl verbatim.readText (rawTag?_rawClosing rest),
    verbatim.not_startsOpenLine, Bool.and_false] at read
  obtain ⟨later, -, rfl⟩ := Option.map_eq_some_iff.mp read
  exact ⟨_, _, later, rfl⟩

theorem dropWhile : body.dropWhile isGap = body := by
  cases body with
  | nil => rfl
  | cons c body => exact List.dropWhile_cons_of_neg (by simp [verbatim.start c rfl])

theorem trimmedFor : Template.trimmedFor body
    (some (.tag rawClosing (endsOpenLine false body && startsOpenLine rest) [])) = body := by
  change (if (endsOpenLine false body && startsOpenLine rest && true) = true then
    Text.dropEndWhile isInlineBlank body else body) = body
  split
  next alone =>
    simp only [Bool.and_true, Bool.and_eq_true] at alone
    have solid := verbatim.finish alone.1 alone.2
    rw [← List.head?_reverse] at solid
    unfold Text.dropEndWhile
    have whole : body.reverse.dropWhile isInlineBlank = body.reverse := by
      cases shape : body.reverse with
      | nil => rfl
      | cons c more =>
        rw [shape] at solid
        exact List.dropWhile_cons_of_neg (by simp [solid c rfl])
    rw [whole, List.reverse_reverse]
  next => rfl

theorem settle (spacing : Spacing) (indent : List Char) (later : List Piece) :
    ∃ ownLine tokens, Template.settle spacing (.tag rawOpening false indent :: .raw body ::
      .tag rawClosing (endsOpenLine false body && startsOpenLine rest) [] :: later) =
      .tag rawOpening.kind false indent :: .text (String.ofList body) :: .tag rawClosing.kind ownLine [] :: tokens := by
  have flush : spacing.afterTag rawOpening false = {} := rfl
  have plain : Spacing.apply {} (body.dropWhile isGap) = body := verbatim.dropWhile
  have trimmed := verbatim.trimmedFor
  simp only [Template.settle, flush, plain, List.head?_cons, trimmed]
  exact ⟨_, _, rfl⟩

end Verbatim

/-- What a raw block becomes in the tree of its template. -/
def rawElement (body : String) : Element :=
  .block ⟨.name "raw", [], []⟩ [] false (if body.isEmpty then [] else [.text body]) none

theorem foldlM_raw (n : Nesting) (body : String) (indent : List Char) (ownLine : Bool) :
    [.tag rawOpening.kind false indent, .text body, .tag rawClosing.kind ownLine []].foldlM
      Nesting.step? n = some (n.add (rawElement body)) := by
  unfold rawElement
  cases empty : body.isEmpty <;> simp [List.foldlM, Nesting.step?, rawOpening, rawClosing, empty] <;> rfl

/-- A single piece leaves the same margin behind in a part of its own. -/
theorem Margin.write_enter (margin : Margin) (text : List Char) :
    ((margin.enter false).write text).1 = (margin.write text).1 ∧
      margin.leave ((margin.enter false).write text).2 = (margin.write text).2 := by
  obtain ⟨indent, lineEnded, used, due⟩ := margin
  cases text <;> simp [write, enter, leave]

theorem part_emit (text : String) : Render.part (·.enter false) (Render.emit text) = Render.emit text := by
  funext progress state
  obtain ⟨written, left⟩ := progress.margin.write_enter text.toList
  rw [Render.part_apply, Render.emit_apply, Render.emit_apply]
  dsimp only
  rw [written, left]

/-- The body of a raw block is emitted like plain text of its own. -/
theorem renderElement_rawElement (setting : Setting) (included : Renderer) (body : String) (blocks : List Block) :
    renderElement setting included (rawElement body) blocks = Render.emit body := by
  have found : Helper.ofName? setting.host.functions "raw" = some .raw := Helper.ofName?_of_builtin? rfl _
  have opened : renderElement setting included (rawElement body) blocks = Render.part (·.enter false)
      (renderElements setting included (if body.isEmpty then [] else [.text body]) blocks) := by
    exact ((runs_of_ofName? found).block setting.context included blocks ⟨.name "raw", [], []⟩ [] _ _ none rfl).trans rfl
  have inside : renderElements setting included (if body.isEmpty then [] else [.text body]) blocks =
      Render.emit body := by
    cases empty : body.isEmpty with
    | true =>
      rw [String.isEmpty_iff.mp empty]
      rfl
    | false =>
      change (do return (← Render.emit body) ++ "" : Render String) = _
      simp
  rw [opened, inside, part_emit]

theorem renderElements_append (setting : Setting) (included : Renderer) (elements more : List Element)
    (blocks : List Block) : renderElements setting included (elements ++ more) blocks = (do
      let text ← renderElements setting included elements blocks
      return text ++ (← renderElements setting included more blocks)) := by
  induction elements with
  | nil => simp only [List.nil_append, renderElements, pure_bind, String.empty_append, bind_pure]
  | cons element elements ih =>
    simp only [List.cons_append, renderElements, ih, bind_assoc, pure_bind, String.append_assoc]

/-- A part of a template, spelled out as in the whole template. -/
def Shorthand.Outline.spelledIn (part whole : Outline) : List Char :=
  (part.spellOut (if closesMessage whole then addSigils else id)).written

theorem expand_eq_of_outlined {source : List Char} {before after : List (List Char × RawBlock)}
    {text rest : List Char} {block : RawBlock}
    (outlined : Outline.ofChars source = ⟨before ++ (text, block) :: after, rest⟩) :
    expand source = Outline.spelledIn ⟨before, text⟩ (Outline.ofChars source) ++
      (RawBlock.written ⟨.four, block.body⟩ ++ Outline.spelledIn ⟨after, rest⟩ (Outline.ofChars source)) := by
  unfold expand expandOutline Outline.spelledIn
  generalize (if closesMessage (Outline.ofChars source) then addSigils else id) = change
  rw [outlined]
  simp [Outline.spellOut, Outline.written]

/-- The tokens of a text. -/
def tokens? (text : List Char) : Option (List Token) :=
  (pieces? (text.length + 1) true text).map (settle {})

theorem exists_tokens_of_ofChars? {text : List Char} {elements : List Element}
    (read : ofChars? text = some elements) :
    ∃ tokens, tokens? text = some tokens ∧ tokens.foldlM Nesting.step? {} = some ⟨elements.reverse, []⟩ := by
  obtain ⟨pieces, found, nested⟩ := Option.bind_eq_some_iff.mp read
  obtain ⟨⟨inside, frames⟩, folded, closed⟩ := Option.bind_eq_some_iff.mp nested
  refine ⟨_, by rw [tokens?, found]; rfl, ?_⟩
  rw [folded]
  cases frames with
  | nil =>
    cases closed
    rw [List.reverse_reverse]
  | cons frame frames => cases closed

theorem tokens_raw {text body rest : List Char} (verbatim : Verbatim body rest)
    (reaches : Reaches (RawBlock.written ⟨.four, body⟩ ++ rest) text) {tokens : List Token}
    (read : tokens? text = some tokens) : ∃ earlier indent ownLine later, tokens = earlier ++
      ([.tag rawOpening.kind false indent, .text (String.ofList body), .tag rawClosing.kind ownLine []] ++ later) := by
  obtain ⟨pieces, found, rfl⟩ := Option.map_eq_some_iff.mp read
  obtain ⟨earlier, later, fuel, lineOpen, text, plain, rfl, stops, found⟩ := reaches.pieces found
  obtain ⟨start, indent, later, rfl⟩ := verbatim.pieces? stops found
  obtain ⟨tokens, spacing, settled⟩ := settle_append (earlier ++ start) {} (.tag rawOpening false indent)
  obtain ⟨ownLine, more, same⟩ := verbatim.settle spacing indent later
  refine ⟨tokens, indent, ownLine, more, ?_⟩
  rw [← List.append_assoc, settled, same]
  rfl

/-- The raw block stands in the text of a template. It is found when the template is spelled out, and reading
what comes of it, the reader gets to the block. Tags, comments and escapes in front of it do not hide it. -/
def StandsIn (source : List Char) (block : RawBlock) (behind : List Char) : Prop :=
  ∃ before text after rest, Outline.ofChars source = ⟨before ++ (text, block) :: after, rest⟩ ∧
    behind = Outline.spelledIn ⟨after, rest⟩ (Outline.ofChars source) ∧
    let place := RawBlock.written ⟨.four, block.body⟩ ++ behind
    Reaches place (Outline.spelledIn ⟨before, text⟩ (Outline.ofChars source) ++ place)

/-- Wherever a raw block stands in the text of a template, its body becomes an element of the tree in this
place, between what is read before and after it. The element emits just the body and does nothing else. -/
theorem raw_block_verbatim {source : String} {block : RawBlock} {behind : List Char} {elements : List Element}
    (stands : StandsIn source.toList block behind) (verbatim : Verbatim block.body behind)
    (read : read? source = some elements) :
    let body := String.ofList block.body
    (∃ earlier n indent ownLine later, tokens? (expand source.toList) = some (earlier ++
        ([.tag rawOpening.kind false indent, .text body, .tag rawClosing.kind ownLine []] ++ later)) ∧
      earlier.foldlM Nesting.step? {} = some n ∧
      later.foldlM Nesting.step? (n.add (rawElement body)) = some ⟨elements.reverse, []⟩ ∧
      (n.frames = [] → ∃ others, ∀ setting included blocks, renderElements setting included elements blocks = (do
        let first ← renderElements setting included n.inside.reverse blocks
        let text ← Render.emit body
        return first ++ (text ++ (← renderElements setting included others blocks))))) ∧
    (∀ setting included blocks, renderElement setting included (rawElement body) blocks = Render.emit body) ∧
    ∀ (progress : Progress) state, progress.margin.indent = [] →
      ∃ margin, Render.emit body progress state = (.ok (body, { progress with margin }), state) := by
  intro body
  refine ⟨?_, fun setting included blocks => renderElement_rawElement setting included body blocks, ?_⟩
  · obtain ⟨before, text, after, rest, outlined, rfl, reaches⟩ := stands
    have spelled := expand_eq_of_outlined outlined
    dsimp only at reaches
    rw [← spelled] at reaches
    obtain ⟨tokens, found, folded⟩ := exists_tokens_of_ofChars? read
    obtain ⟨earlier, indent, ownLine, later, rfl⟩ := tokens_raw verbatim reaches found
    rw [List.foldlM_append] at folded
    obtain ⟨n, first, folded⟩ := Option.bind_eq_some_iff.mp folded
    rw [List.foldlM_append, foldlM_raw, Option.bind_eq_bind, Option.bind_some] at folded
    refine ⟨earlier, n, indent, ownLine, later, found, first, folded, ?_⟩
    intro top
    have kept : (n.add (rawElement body)).outer <:+ elements.reverse := Nesting.outer_foldlM folded
    have bare : (n.add (rawElement body)).outer = rawElement body :: n.inside := by
      unfold Nesting.outer Nesting.add
      rw [top]
      rfl
    rw [bare] at kept
    obtain ⟨others, same⟩ := kept
    have whole : elements = n.inside.reverse ++ (rawElement body :: others.reverse) := by
      rw [← List.reverse_reverse elements, ← same]
      simp
    refine ⟨others.reverse, fun setting included blocks => ?_⟩
    rw [whole, renderElements_append]
    simp only [renderElements, renderElement_rawElement, bind_assoc, pure_bind]
  · intro progress state flush
    refine ⟨(progress.margin.write body.toList).2, ?_⟩
    rw [Render.emit_apply, Margin.write_of_indent_nil flush, String.ofList_toList]

deriving instance DecidableEq for Shorthand.RawBlock, Shorthand.Outline

theorem read?_raw_opener : read?
      "a\x7b\x7b#raw\x7d\x7d\x7b\x7bmessage x\x7d\x7d\\y\x7b\x7b/message\x7d\x7d\x7b\x7b/raw\x7d\x7db" =
    some [.text "a", rawElement "\x7b\x7bmessage x\x7d\x7d\\y\x7b\x7b/message\x7d\x7d", .text "b"] := by
  rw [read?_of_expand
    ("a\x7b\x7b\x7b\x7braw\x7d\x7d\x7d\x7d\x7b\x7bmessage x\x7d\x7d\\y\x7b\x7b/message\x7d\x7d" ++
      "\x7b\x7b\x7b\x7b/raw\x7d\x7d\x7d\x7db")
    (by decide +kernel)]
  simp only [String.reduceAppend, String.reduceToList]
  rfl

/-- Openers of messages, backslashes and names in braces are text in a raw block. -/
theorem raw_block_verbatim_opener :
    let source := "a\x7b\x7b#raw\x7d\x7d\x7b\x7bmessage x\x7d\x7d\\y\x7b\x7b/message\x7d\x7d\x7b\x7b/raw\x7d\x7db"
    let block : RawBlock := ⟨.two true, "\x7b\x7bmessage x\x7d\x7d\\y\x7b\x7b/message\x7d\x7d".toList⟩
    read? source = some [.text "a", rawElement (String.ofList block.body), .text "b"] ∧
    StandsIn source.toList block ['b'] ∧ Verbatim block.body ['b'] ∧
    ∀ setting included blocks, renderElement setting included (rawElement (String.ofList block.body)) blocks =
      Render.emit (String.ofList block.body) := by
  intro source block
  have stands : StandsIn source.toList block ['b'] := by
    refine ⟨[], ['a'], [], ['b'], by decide +kernel, by decide +kernel, ?_⟩
    have front : Outline.spelledIn ⟨[], ['a']⟩ (Outline.ofChars source.toList) = ['a'] := by decide +kernel
    rw [front]
    exact @Reaches.text _ _ ['a'] rfl
  have verbatim : Verbatim block.body ['b'] :=
    ⟨⟨by decide +kernel, by decide +kernel⟩, by rintro c ⟨⟩; rfl, nofun⟩
  have read := raw_block_verbatim stands verbatim read?_raw_opener
  exact ⟨read?_raw_opener, stands, verbatim, read.2.1⟩

theorem read?_raw_newline : read? "\x7b\x7b#raw\x7d\x7d\nx\x7b\x7b/raw\x7d\x7d" = some [
    .block ⟨.name "raw", [], []⟩ [] true [.text "x"] none] := by
  rw [read?_of_expand "\x7b\x7b\x7b\x7braw\x7d\x7d\x7d\x7d\nx\x7b\x7b\x7b\x7b/raw\x7d\x7d\x7d\x7d" (by decide +kernel)]
  simp only [String.reduceToList]
  rfl

theorem read?_raw_backslash : read? "\x7b\x7b#raw\x7d\x7d\\\x7b\x7bx\x7d\x7d\x7b\x7b/raw\x7d\x7d" =
    some [rawElement "\x7b\x7bx\x7d\x7d"] := by
  rw [read?_of_expand
    "\x7b\x7b\x7b\x7braw\x7d\x7d\x7d\x7d\\\x7b\x7bx\x7d\x7d\x7b\x7b\x7b\x7b/raw\x7d\x7d\x7d\x7d"
    (by decide +kernel)]
  simp only [String.reduceToList]
  rfl

theorem read?_raw_blank : read? "\x7b\x7b#raw\x7d\x7dx\n \x7b\x7b/raw\x7d\x7d" = some [rawElement "x\n"] := by
  rw [read?_of_expand "\x7b\x7b\x7b\x7braw\x7d\x7d\x7d\x7dx\n \x7b\x7b\x7b\x7b/raw\x7d\x7d\x7d\x7d" (by decide +kernel)]
  simp only [String.reduceToList]
  rfl

theorem read?_raw_brace : read? "\x7b\x7b#raw\x7d\x7dx\x7b\x7b\x7b/raw\x7d\x7d" = none := by
  rw [read?_of_expand
    "\x7b\x7b\x7b\x7braw\x7d\x7d\x7d\x7dx\x7b\x7b\x7b\x7b\x7b/raw\x7d\x7d\x7d\x7d"
    (by decide +kernel)]
  simp only [String.reduceToList]
  rfl

/-- A line break in front of the body is lost, and so are a backslash in front of braces and blanks in front
of a closing tag that ends its line. A brace at the end of the body makes the template malformed. -/
theorem raw_block_not_verbatim :
    let kernel : Kernel := ⟨[], [], none, none⟩
    (Outline.ofChars "\x7b\x7b#raw\x7d\x7d\nx\x7b\x7b/raw\x7d\x7d".toList).blocks = [([], ⟨.two true, ['\n', 'x']⟩)] ∧
    (kernel.render "\x7b\x7b#raw\x7d\x7d\nx\x7b\x7b/raw\x7d\x7d" {}).1 = .ok "x" ∧
    (kernel.render "\x7b\x7b#raw\x7d\x7d\\\x7b\x7bx\x7d\x7d\x7b\x7b/raw\x7d\x7d" {}).1 = .ok "\x7b\x7bx\x7d\x7d" ∧
    (kernel.render "\x7b\x7b#raw\x7d\x7dx\n \x7b\x7b/raw\x7d\x7d" {}).1 = .ok "x\n" ∧
    (kernel.render "\x7b\x7b#raw\x7d\x7dx\x7b\x7b\x7b/raw\x7d\x7d" {}).1 = .error (.template .malformed) := by
  intro kernel
  refine ⟨by decide +kernel, ?_, ?_, ?_, ?_⟩
  · rw [Kernel.render, render_of_read? read?_raw_newline, renderTree_apply]
    rfl
  · rw [Kernel.render, render_of_read? read?_raw_backslash, renderTree_apply]
    rfl
  · rw [Kernel.render, render_of_read? read?_raw_blank, renderTree_apply]
    rfl
  · rw [Kernel.render, render_of_unreadable read?_raw_brace]
    rfl

end PromptKernel.Template
