import PromptKernel.Proofs.MessageSigils
import PromptKernel.Proofs.WrittenCalls

/-! Templates that are written as texts with tags between them. Such a template is not changed when it is
spelled out, is taken apart just where its tags were written, and grows its tree by one step for each tag. -/

namespace PromptKernel.Template
open Shorthand

def TagKind.isPlain : TagKind → Bool
  | .output _ | .blockStart _ _ => true
  | .close name => name != some "raw"
  | _ => false

/-- A tag with what is written of it behind its two braces. Whatever follows, it is read as itself, and not
as an opener of a message block that has lost its sigil. -/
structure WrittenTag where
  tail : List Char
  tag : Tag
  plain : tag.kind.isPlain = true
  solid : '\x7b' ∉ tail
  closed : tail.getLast? = some '\x7d'
  reads : ∀ rest, tag? ('\x7b' :: '\x7b' :: (tail ++ rest)) = some (tag, rest)
  sealed : ∀ rest, bareOpener? ('\x7b' :: '\x7b' :: (tail ++ rest)) = none

/-- Text that means nothing but itself. -/
def IsPlainText (text : List Char) : Prop := '\x7b' ∉ text ∧ '\\' ∉ text

abbrev Item := List Char × WrittenTag

def written : List Item → List Char → List Char
  | [], last => last
  | (text, tag) :: items, last => text ++ '\x7b' :: '\x7b' :: (tag.tail ++ written items last)

theorem written_append (items more : List Item) (last : List Char) :
    written (items ++ more) last = written items (written more last) := by
  induction items with
  | nil => rfl
  | cons item items ih => rw [List.cons_append, written, written, ih]

theorem written_append_last (items : List Item) (last rest : List Char) :
    written items (last ++ rest) = written items last ++ rest := by
  induction items with
  | nil => rfl
  | cons item items ih => simp [written, ih]

/-! Spelling out. -/

/-- Nothing in the text is written the shorter way, and no raw block is closed in it. -/
def IsSpelledOut (text : List Char) : Prop :=
  ∀ part, part <:+ text → bareOpener? part = none ∧ ∀ braces, ¬ Braces.closing braces <+: part

theorem addSigils_of_isSpelledOut {text : List Char} (spelled : IsSpelledOut text) : addSigils text = text := by
  induction text with
  | nil => rw [addSigils]
  | cons c text ih =>
    rw [addSigils_cons_of_none (spelled _ List.suffix_rfl).1,
      ih fun part suffix => spelled part (suffix.trans (List.suffix_cons c text))]

theorem expand_of_isSpelledOut {text : List Char} (spelled : IsSpelledOut text) : expand text = text := by
  have finds : Finds [] text := by
    intro part suffix
    rw [rawBlock?_eq_none_iff]
    rintro braces inside rfl ⟨before, after, same⟩
    have later : braces.closing ++ after <:+ text := by
      refine List.IsSuffix.trans ⟨before, ?_⟩ ((List.suffix_append _ _).trans suffix)
      rw [← same, List.append_assoc]
    exact (spelled _ later).2 braces (List.prefix_append _ _)
  have outlined : Outline.ofChars text = ⟨[], text⟩ := by simpa [Outline.written] using ofChars_written finds
  unfold expand expandOutline
  rw [outlined]
  split
  · simp [Outline.spellOut, Outline.written, addSigils_of_isSpelledOut spelled]
  · simp [Outline.spellOut, Outline.written]

theorem Braces.closing_eq (braces : Braces) : ∃ third rest, braces.closing = '\x7b' :: '\x7b' :: third :: rest := by
  rcases braces with _ | (_ | _) <;> exact ⟨_, _, rfl⟩

/-- Closing tags of raw blocks are not read as tags that may be written in between. -/
theorem not_isPlain_of_closing {braces : Braces} {text rest : List Char} {tag : Tag}
    (read : tag? (braces.closing ++ text) = some (tag, rest)) : tag.kind.isPlain = false := by
  cases braces with
  | four =>
    cases (tag?_rawClosing text).symm.trans read
    rfl
  | two sigil =>
    have word : IsIdentifier ['r', 'a', 'w'] := by decide
    cases (tag?_close word text).symm.trans read
    rfl

theorem IsSpelledOut.append_left {text rest : List Char} (solid : '\x7b' ∉ text) (spelled : IsSpelledOut rest) :
    IsSpelledOut (text ++ rest) := by
  intro part suffix
  rcases suffix_of_suffix_append solid suffix with inside | ⟨c, more, other, rfl⟩
  · exact spelled part inside
  · refine ⟨bareOpener?_of_ne other more, fun braces begins => ?_⟩
    obtain ⟨third, tail, shape⟩ := Braces.closing_eq braces
    rw [shape] at begins
    exact other (List.cons_prefix_cons.mp begins).1.symm

theorem WrittenTag.tail_ne_nil (tag : WrittenTag) : tag.tail ≠ [] := by
  intro empty
  have closed := tag.closed
  rw [empty] at closed
  cases closed

theorem WrittenTag.isSpelledOut (tag : WrittenTag) {rest : List Char} (spelled : IsSpelledOut rest) :
    IsSpelledOut ('\x7b' :: '\x7b' :: (tag.tail ++ rest)) := by
  intro part suffix
  rcases List.suffix_cons_iff.mp suffix with rfl | suffix
  · refine ⟨tag.sealed rest, fun braces begins => ?_⟩
    obtain ⟨more, same⟩ := begins
    have read := tag.reads rest
    rw [← same] at read
    exact Bool.false_ne_true ((not_isPlain_of_closing read).symm.trans tag.plain)
  · rcases List.suffix_cons_iff.mp suffix with rfl | suffix
    · obtain ⟨c, tail, shape⟩ := List.exists_cons_of_ne_nil tag.tail_ne_nil
      have other : c ≠ '\x7b' := by
        rintro rfl
        exact tag.solid (shape ▸ List.mem_cons_self)
      rw [shape]
      refine ⟨bareOpener?_brace_of_ne other _, fun braces begins => ?_⟩
      obtain ⟨third, more, closing⟩ := Braces.closing_eq braces
      rw [closing] at begins
      exact other (List.cons_prefix_cons.mp (List.cons_prefix_cons.mp begins).2).1.symm
    · exact spelled.append_left tag.solid part suffix

theorem isSpelledOut_written {items : List Item} {last : List Char} (plain : ∀ item ∈ items, IsPlainText item.1)
    (ends : IsPlainText last) : IsSpelledOut (written items last) := by
  induction items with
  | nil =>
    have empty : IsSpelledOut [] := by
      intro part suffix
      obtain rfl := List.suffix_nil.mp suffix
      refine ⟨rfl, fun braces begins => ?_⟩
      obtain ⟨third, more, closing⟩ := Braces.closing_eq braces
      rw [closing] at begins
      cases List.prefix_nil.mp begins
    have whole := empty.append_left ends.1
    rwa [List.append_nil] at whole
  | cons item items ih =>
    obtain ⟨text, tag⟩ := item
    have later := ih fun item member => plain item (List.mem_cons_of_mem _ member)
    exact (tag.isSpelledOut later).append_left (plain _ List.mem_cons_self).1

/-! Reading. -/

theorem IsPlainText.staysText {text : List Char} (plain : IsPlainText text) : StaysText ['\x7b', '\x7b'] text where
  unbroken inside := by
    have many := inside.sublist.count_le '\x7b'
    rw [List.count_append, List.count_eq_zero_of_not_mem plain.1] at many
    exact absurd many (by decide)
  unescaped inside := by
    have member : '\\' ∈ text ++ ['\x7b', '\x7b'] := inside.subset (by simp)
    simp [plain.2] at member

theorem readText_plain {text : List Char} (plain : IsPlainText text) {fuel : Nat} (enough : text.length < fuel)
    (done : List Char) : readText "\x7b\x7b" fuel done text = (done.reverse ++ text, []) := by
  induction text generalizing fuel done with
  | nil =>
    obtain ⟨fuel, rfl⟩ := Nat.exists_eq_succ_of_ne_zero (Nat.ne_of_gt enough)
    simp [readText]
  | cons c text ih =>
    obtain ⟨fuel, rfl⟩ := Nat.exists_eq_succ_of_ne_zero (Nat.ne_of_gt (Nat.zero_lt_of_lt enough))
    obtain ⟨brace, escape⟩ := plain
    rw [List.mem_cons, not_or] at brace escape
    have apart : "\x7b\x7b".toList.isPrefixOf (c :: text) = false := by simp [List.isPrefixOf, brace.1]
    unfold readText
    rw [apart, if_neg Bool.false_ne_true]
    split
    next same => cases same
    next same => exact absurd (List.cons.inj same).1.symm escape.1
    next same => exact absurd (List.cons.inj same).1.symm escape.1
    next same => exact absurd (List.cons.inj same).1.symm escape.1
    next same =>
      obtain ⟨rfl, rfl⟩ := List.cons.inj same
      rw [ih ⟨brace.2, escape.2⟩ (Nat.lt_of_succ_lt_succ enough)]
      simp

def pieces (lineOpen : Bool) : List Item → List Char → List Piece
  | [], last => textPieces last
  | (text, tag) :: items, last => textPieces text ++
      .tag tag.tag (endsOpenLine lineOpen text && startsOpenLine (written items last)) (trailingBlanks text) ::
        pieces false items last

/-- The tags are found where they were written. -/
theorem pieces?_written {items : List Item} {last : List Char} (plain : ∀ item ∈ items, IsPlainText item.1)
    (ends : IsPlainText last) {fuel : Nat} (enough : items.length < fuel) (lineOpen : Bool) :
    pieces? fuel lineOpen (written items last) = some (pieces lineOpen items last) := by
  induction items generalizing fuel lineOpen with
  | nil =>
    obtain ⟨fuel, rfl⟩ := Nat.exists_eq_succ_of_ne_zero (Nat.ne_of_gt enough)
    unfold pieces?
    rw [written, readText_plain ends (Nat.lt_succ_self _), List.reverse_nil, List.nil_append]
    rfl
  | cons item items ih =>
    obtain ⟨fuel, rfl⟩ := Nat.exists_eq_succ_of_ne_zero (Nat.ne_of_gt (Nat.zero_lt_of_lt enough))
    obtain ⟨text, tag⟩ := item
    have later := ih (fun item member => plain item (List.mem_cons_of_mem _ member)) (Nat.lt_of_succ_lt_succ enough)
      false
    have ordinary : tag.tag.kind.isRaw = false := by
      have kind := tag.plain
      cases shape : tag.tag.kind with
      | rawStart | rawEnd => rw [shape] at kind; cases kind
      | _ => rfl
    have stays : StaysText ['\x7b', '\x7b'] text := (plain _ List.mem_cons_self).staysText
    have step := pieces?_of_tag (stays.readsText _ (List.prefix_append _ _)) (tag.reads (written items last)) ordinary
      fuel lineOpen
    rw [later] at step
    exact step

/-! Lines. -/

theorem endsOpenLine_append (before : Bool) (text more : List Char) :
    endsOpenLine before (text ++ more) = endsOpenLine (endsOpenLine before text) more := by
  unfold endsOpenLine
  rw [List.reverse_append, List.dropWhile_append]
  cases shape : more.reverse.dropWhile isInlineBlank <;> rfl

theorem endsOpenLine_of_brace {text : List Char} (closed : text.getLast? = some '\x7d') (before : Bool) :
    endsOpenLine before text = false := by
  rw [← List.head?_reverse] at closed
  obtain ⟨more, shape⟩ := List.head?_eq_some_iff.mp closed
  unfold endsOpenLine
  rw [shape]
  rfl

/-- Behind a tag the line is open only if a line break follows, with nothing but blanks behind it. -/
theorem endsOpenLine_written (items : List Item) (last : List Char) :
    endsOpenLine false (written items last) = endsOpenLine false last := by
  induction items with
  | nil => rfl
  | cons item items ih =>
    obtain ⟨text, tag⟩ := item
    have whole : written ((text, tag) :: items) last = (text ++ '\x7b' :: '\x7b' :: tag.tail) ++ written items last := by
      simp [written]
    have braces : (text ++ '\x7b' :: '\x7b' :: tag.tail).getLast? = some '\x7d' := by
      obtain ⟨front, shape⟩ := List.getLast?_eq_some_iff.mp tag.closed
      exact List.getLast?_eq_some_iff.mpr ⟨text ++ '\x7b' :: '\x7b' :: front, by rw [shape]; simp⟩
    rw [whole, endsOpenLine_append, endsOpenLine_of_brace braces, ih]

/-! Growing the tree. -/

/-- Adds a text if there is anything left of it. -/
def Nesting.write (n : Nesting) (text : List Char) : Nesting :=
  if text.isEmpty then n else n.add (.text (String.ofList text))

theorem Nesting.step?_text (n : Nesting) (text : List Char) : n.step? (.text (String.ofList text)) = some (n.write text) := by
  cases text with
  | nil => rfl
  | cons c text =>
    have full : (String.ofList (c :: text)).isEmpty = false := by simp
    simp only [step?, full, write]
    rfl

def trimmedStart (drop : Bool) (text : List Char) : List Char := if drop then Text.trimStart text else text

/-- What is left of a text between a tag that drops white space or not and the next tag. -/
def trimmedBetween (drop : Bool) (text : List Char) (tag : Tag) : List Char :=
  if tag.trimBefore then Text.trimEnd (trimmedStart drop text) else trimmedStart drop text

theorem trimmedBetween_nil (drop : Bool) (tag : Tag) : trimmedBetween drop [] tag = [] := by
  unfold trimmedBetween trimmedStart
  cases drop <;> cases tag.trimBefore <;> rfl

section
variable (tag : WrittenTag) {ownLine : Bool} (shared : tag.tag.kind.takesLine = true → ownLine = false)
include shared

theorem Nesting.step?_tag (n : Nesting) (indent : List Char) :
    n.step? (if tag.tag.trimBefore then .tag tag.tag.kind false [] else .tag tag.tag.kind ownLine indent) =
      n.step? (.tag tag.tag.kind false []) := by
  split
  · rfl
  · have plain := tag.plain
    generalize tag.tag.kind = kind at plain shared ⊢
    cases kind with
    | output e => rfl
    | blockStart e names => rw [shared rfl]; rfl
    | close name => rfl
    | _ => cases plain

theorem Spacing.afterTag_shared (drop : Bool) : Spacing.afterTag ⟨drop, false⟩ tag.tag ownLine = ⟨tag.tag.trimAfter, false⟩ := by
  have plain := tag.plain
  unfold Spacing.afterTag
  generalize tag.tag.kind = kind at plain shared ⊢
  cases kind with
  | output e => rfl
  | blockStart e names => rw [shared rfl]; rfl
  | close name => rw [shared rfl]; rfl
  | _ => cases plain

theorem trimmedFor_shared (drop : Bool) (text indent : List Char) :
    trimmedFor (Spacing.apply ⟨drop, false⟩ text) (some (.tag tag.tag ownLine indent)) =
      trimmedBetween drop text tag.tag := by
  have inside : (ownLine && tag.tag.kind.takesLine) = false := by
    cases takes : tag.tag.kind.takesLine with
    | true => rw [shared takes]; rfl
    | false => exact Bool.and_false ownLine
  unfold trimmedFor
  dsimp only
  rw [inside]
  cases drop <;> rfl

/-- A text with a tag behind it takes its tree further, if the tag leaves its line alone. -/
theorem foldlM_settle_tag (n : Nesting) (drop : Bool) (text indent : List Char) (more : List Piece) :
    (settle ⟨drop, false⟩ (textPieces text ++ .tag tag.tag ownLine indent :: more)).foldlM Nesting.step? n = (do
      let n ← (n.write (trimmedBetween drop text tag.tag)).step? (.tag tag.tag.kind false [])
      (settle ⟨tag.tag.trimAfter, false⟩ more).foldlM Nesting.step? n) := by
  cases text with
  | nil =>
    change (settle ⟨drop, false⟩ (.tag tag.tag ownLine indent :: more)).foldlM Nesting.step? n = _
    rw [settle, List.foldlM_cons, Nesting.step?_tag tag shared, Spacing.afterTag_shared tag shared, trimmedBetween_nil]
    rfl
  | cons c text =>
    have kept : Spacing.afterText ⟨drop, false⟩ (c :: text) = ⟨drop, false⟩ := by
      unfold Spacing.afterText
      split <;> rfl
    change (settle ⟨drop, false⟩ (.text (c :: text) :: .tag tag.tag ownLine indent :: more)).foldlM Nesting.step? n = _
    rw [settle, List.head?_cons, trimmedFor_shared tag shared, kept, settle, List.foldlM_cons, Nesting.step?_text,
      Option.bind_eq_bind, Option.bind_some, List.foldlM_cons, Nesting.step?_tag tag shared,
      Spacing.afterTag_shared tag shared]
    rfl

end

theorem foldlM_settle_text (n : Nesting) (drop : Bool) (text : List Char) :
    (settle ⟨drop, false⟩ (textPieces text)).foldlM Nesting.step? n = some (n.write (trimmedStart drop text)) := by
  cases text with
  | nil => cases drop <;> rfl
  | cons c text =>
    change (n.step? (.text (String.ofList (trimmedStart drop (c :: text))))).bind _ = _
    rw [Nesting.step?_text]
    rfl

theorem length_le_length_written (items : List Item) (last : List Char) : items.length ≤ (written items last).length := by
  induction items with
  | nil => exact Nat.zero_le _
  | cons item items ih =>
    simp only [written, List.length_append, List.length_cons]
    omega

theorem read?_written {items : List Item} {last : List Char} (plain : ∀ item ∈ items, IsPlainText item.1)
    (ends : IsPlainText last) {elements : List Element}
    (folded : (settle {} (pieces true items last)).foldlM Nesting.step? {} = some ⟨elements.reverse, []⟩) :
    read? (String.ofList (written items last)) = some elements := by
  have enough := Nat.lt_succ_of_le (length_le_length_written items last)
  unfold read?
  rw [String.toList_ofList, expand_of_isSpelledOut (isSpelledOut_written plain ends)]
  unfold ofChars?
  rw [pieces?_written plain ends enough, Option.bind_some]
  unfold ofTokens?
  rw [folded]
  exact congrArg some (List.reverse_reverse elements)

end PromptKernel.Template
