import PromptKernel.Proofs.LeftmostSegments
import PromptKernel.Proofs.MessageSigils

/-! The places of raw blocks in a template that is spelled out. In front of a raw block no opening tag is whole,
and the longer tags do not run into what stands around them. Whoever looks for raw blocks once more therefore
finds the same ones with the same bodies, and nothing but sigils of message blocks is new between them. -/

namespace PromptKernel

namespace Text

/-- No later part of the pattern is a part of the beginning of the other one or goes on after it. -/
def isApart (pattern other : List Char) : Bool :=
  pattern.tail.tails.all fun part => part.isEmpty || !(part.isPrefixOf other || other.isPrefixOf part)

/-- A pattern does not run from a text into one that is apart from it. -/
theorem eq_append_of_isApart {pattern other text rest inside : List Char} (apart : isApart pattern other = true)
    (nonempty : text ≠ []) (begins : text ++ (other ++ rest) = pattern ++ inside) :
    ∃ more, text = pattern ++ more := by
  rcases List.append_eq_append_iff.mp begins with ⟨part, rfl, behind⟩ | ⟨more, same, -⟩
  · obtain ⟨c, text, rfl⟩ := List.exists_cons_of_ne_nil nonempty
    have later : part ∈ (c :: text ++ part).tail.tails := (List.mem_tails _ _).mpr ⟨text, rfl⟩
    have separate := List.all_eq_true.mp apart part later
    cases part with
    | nil => exact ⟨[], by simp⟩
    | cons d part =>
      have meets : d :: part <+: other ∨ other <+: d :: part :=
        List.prefix_or_prefix_of_prefix ⟨inside, behind.symm⟩ (List.prefix_append other rest)
      simp only [List.isEmpty_cons, Bool.false_or, Bool.not_eq_true', Bool.or_eq_false_iff] at separate
      rcases meets with begun | passed
      · rw [List.isPrefixOf_iff_prefix.mpr begun] at separate
        cases separate.1
      · rw [List.isPrefixOf_iff_prefix.mpr passed] at separate
        cases separate.2
  · exact ⟨more, same⟩

/-- A pattern that is apart from itself comes first behind a text without it. -/
theorem cut?_append {pattern text : List Char} (apart : isApart pattern pattern = true) (absent : ¬ pattern <:+: text)
    (rest : List Char) : cut? pattern (text ++ (pattern ++ rest)) = some (text, rest) := by
  rw [cut?_eq_some_iff]
  refine ⟨rfl, fun other more same => ?_⟩
  by_contra longer
  rcases List.append_eq_append_iff.mp same with ⟨tail, rfl, -⟩ | ⟨tail, rfl, behind⟩
  · simp at longer
  · have nonempty : tail ≠ [] := by
      rintro rfl
      simp at longer
    obtain ⟨further, rfl⟩ := eq_append_of_isApart apart nonempty behind.symm
    exact absent ⟨other, further, by simp⟩

end Text

namespace Template.Shorthand

theorem Braces.two_closing_infix (sigil : Bool) (braces : Braces) : (two sigil).closing <:+: braces.closing := by
  rcases braces with _ | (_ | _) <;> cases sigil <;> decide

theorem Braces.closing_infix_four (braces : Braces) : braces.closing <:+: four.closing := by
  rcases braces with _ | (_ | _) <;> decide

/-- In front of a raw block no opening tag is whole. The end of the block would close a short one, and there is
a short one inside of each long one. -/
theorem not_infix_of_plain {text after : List Char} {block : RawBlock}
    (plain : ∀ part, part <:+ text → part ≠ [] → rawBlock? (part ++ (block.written ++ after)) = none)
    (braces : Braces) : ¬ braces.opening <:+: text := by
  have short (sigil : Bool) : ¬ (Braces.two sigil).opening <:+: text := by
    rintro ⟨before, more, rfl⟩
    have suffix : (Braces.two sigil).opening ++ more <:+ before ++ (Braces.two sigil).opening ++ more :=
      ⟨before, by simp⟩
    have missing := plain _ suffix (by cases sigil <;> exact List.cons_ne_nil _ _)
    rw [List.append_assoc, rawBlock?_eq_none_iff] at missing
    refine missing _ _ rfl ((Braces.two_closing_infix sigil block.braces).trans
      ⟨more ++ (block.braces.opening ++ block.body), after, ?_⟩)
    simp [RawBlock.written]
  cases braces with
  | two sigil => exact short sigil
  | four =>
    intro long
    exact short false (.trans (by decide) long)

/-- The same block is found where it is written with four braces. -/
theorem rawBlock?_four {block : RawBlock} {after : List Char}
    (found : rawBlock? (block.written ++ after) = some (block, after)) (other : List Char) :
    rawBlock? (RawBlock.written ⟨.four, block.body⟩ ++ other) = some (⟨.four, block.body⟩, other) := by
  obtain ⟨inside, opened, cut⟩ := exists_of_rawBlock? found
  have nonempty : block.braces.closing ≠ [] := by
    rcases block.braces with _ | (_ | _) <;> decide
  have absent : ¬ Braces.four.closing <:+: block.body :=
    fun inside => Text.not_infix_of_cut? nonempty cut (block.braces.closing_infix_four.trans inside)
  rw [RawBlock.written, List.append_assoc, List.append_assoc, rawBlock?_opening,
    Text.cut?_append (by decide) absent]
  rfl

/-- Raw blocks that get longer tags stay the only ones. -/
theorem Finds.spellOut {blocks : List (List Char × RawBlock)} {rest : List Char} (finds : Finds blocks rest) :
    Finds (Outline.spellOut id ⟨blocks, rest⟩).blocks (Outline.spellOut id ⟨blocks, rest⟩).rest := by
  induction blocks with
  | nil => exact finds
  | cons first blocks ih =>
    obtain ⟨text, block⟩ := first
    obtain ⟨plain, found, later⟩ := finds
    refine ⟨fun part suffix nonempty => ?_, rawBlock?_four found _, ih later⟩
    rw [rawBlock?_eq_none_iff]
    intro braces inside begins
    exfalso
    have apart : Text.isApart braces.opening Braces.four.opening = true := by
      rcases braces with _ | (_ | _) <;> decide
    rw [RawBlock.written, List.append_assoc, List.append_assoc] at begins
    obtain ⟨more, rfl⟩ := Text.eq_append_of_isApart apart nonempty begins
    exact not_infix_of_plain plain braces (.trans (List.prefix_append _ more).isInfix suffix.isInfix)

/-- The text starts with an opener of a message block that has an argument but no sigil. -/
def OpensBare (text : List Char) : Prop :=
  ∃ trim gap blanks c rest, AreBlanks gap ∧ AreBlanks blanks ∧ blanks ≠ [] ∧ StartsArgument c ∧
    text = unsigned trim gap blanks ++ c :: rest

theorem bareOpener?_eq_none_iff {text : List Char} : bareOpener? text = none ↔ ¬ OpensBare text := by
  constructor
  · rintro missing ⟨trim, gap, blanks, c, rest, before, between, apart, starts, rfl⟩
    cases missing.symm.trans (bareOpener?_unsigned before between apart starts trim rest)
  · intro absent
    cases found : bareOpener? text with
    | none => rfl
    | some result =>
      obtain ⟨mark, argument, rest⟩ := result
      obtain ⟨trim, gap, blanks, c, opens⟩ := exists_of_bareOpener? found
      exact absurd ⟨trim, gap, blanks, c, rest, opens⟩ absent

/-- The other text is the first one with the sigils it lacks. At each opener without a sigil, the blanks in
front of the word are dropped and the sigil stands in their place. Nothing else is different. -/
inductive GainsSigils : List Char → List Char → Prop
  | nil : GainsSigils [] []
  | keep (plain : ¬ OpensBare (c :: text)) (rest : GainsSigils text other) : GainsSigils (c :: text) (c :: other)
  | sign (before : AreBlanks gap) (between : AreBlanks blanks) (apart : blanks ≠ []) (starts : StartsArgument c)
      (rest : GainsSigils text other) :
      GainsSigils (unsigned trim gap blanks ++ c :: text) (signed trim blanks ++ c :: other)

theorem gainsSigils_addSigils (text : List Char) : GainsSigils text (addSigils text) := by
  induction text using addSigils.induct with
  | case1 =>
    rw [addSigils]
    exact .nil
  | case2 c text mark argument rest found ih =>
    obtain ⟨trim, gap, blanks, d, before, between, apart, starts, same⟩ := exists_of_bareOpener? found
    rw [same, addSigils_unsigned before between apart starts]
    exact .sign before between apart starts ih
  | case3 c text plain ih =>
    rw [addSigils_cons_of_none plain]
    exact .keep (bareOpener?_eq_none_iff.mp plain) ih

theorem GainsSigils.respells {text other : List Char} (gains : GainsSigils text other) : Respells text other := by
  induction gains with
  | nil => exact .nil
  | keep _ _ ih => exact .keep _ ih
  | sign before between _ _ _ ih =>
    exact .start (isStart_unsigned before between _) (isStart_signed between _) (.keep _ ih)

/-- A text between raw blocks is as it was, or has got its sigils. -/
def Rewritten (text other : List Char) : Prop := other = text ∨ GainsSigils text other

theorem Rewritten.respells {text other : List Char} (rewritten : Rewritten text other) : Respells text other := by
  rcases rewritten with rfl | gains
  · simpa using Respells.append_left other .nil
  · exact gains.respells

theorem Outline.related_spellOut {relation : List Char → List Char → Prop} {change : List Char → List Char}
    (changes : ∀ text, relation text (change text)) (outline : Outline) :
    (outline.spellOut id).Related relation (outline.spellOut change) := by
  refine ⟨?_, changes outline.rest⟩
  unfold Outline.spellOut
  induction outline.blocks with
  | nil => exact .nil
  | cons first blocks ih => exact .cons ⟨rfl, changes first.1⟩ ih

theorem related_expandOutline (outline : Outline) :
    (outline.spellOut id).Related Rewritten (expandOutline outline) := by
  apply Outline.related_spellOut
  intro text
  split
  · exact .inr (gainsSigils_addSigils text)
  · exact .inl rfl

/-- A template that is spelled out has the outline that was spelled out. -/
theorem ofChars_expand (source : List Char) :
    Outline.ofChars (expand source) = expandOutline (Outline.ofChars source) := by
  have related := (related_expandOutline (Outline.ofChars source)).mono fun _ _ => Rewritten.respells
  exact ofChars_written (related.finds (finds_ofChars source).1.spellOut).1

/-- The same raw blocks in the same order, all of them with four braces, and the texts around them rewritten. -/
structure Outline.SpelledOut (outline other : Outline) : Prop where
  blocks : List.Forall₂ (fun first second => Rewritten first.1 second.1 ∧ second.2 = ⟨.four, first.2.body⟩)
    outline.blocks other.blocks
  rest : Rewritten outline.rest other.rest

/-- Spelling out a template keeps its raw blocks. Whatever tags are begun or left open in it, the template that
comes out has as many raw blocks, in the same order, each with the same body and in four braces. The texts
around them stay as they are or get the sigils they lack. -/
theorem raw_blocks_kept (source : List Char) :
    (Outline.ofChars source).written = source ∧ (Outline.ofChars (expand source)).written = expand source ∧
      (Outline.ofChars source).SpelledOut (Outline.ofChars (expand source)) := by
  refine ⟨(finds_ofChars source).2, (finds_ofChars (expand source)).2, ?_⟩
  rw [ofChars_expand]
  obtain ⟨blocks, rest⟩ := related_expandOutline (Outline.ofChars source)
  refine ⟨(List.forall₂_map_left_iff.mp blocks).imp ?_, rest⟩
  rintro ⟨text, block⟩ changed ⟨four, rewritten⟩
  exact ⟨rewritten, four⟩

/-- A long closing tag also closes a short opening tag, which leaves two braces on either side. -/
example :
    let after := Outline.ofChars (expand "\x7b\x7braw\x7d\x7da\x7b\x7b\x7b\x7b/raw\x7d\x7d\x7d\x7d".toList)
    after.blocks.map (fun (text, block) => (text, block.body)) = [([], ['a', '\x7b', '\x7b'])] ∧
      after.rest = ['\x7d', '\x7d'] := by
  decide +kernel

end Template.Shorthand

end PromptKernel
