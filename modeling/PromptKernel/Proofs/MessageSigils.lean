import Mathlib.Data.List.Forall2
import PromptKernel.Kernel.Run
import PromptKernel.Proofs.SpacedOpeners
import PromptKernel.Proofs.RenderLogic

/-! Message blocks without their sigils in whole templates. Raw blocks come first when a template is spelled
out, and leaving sigils out around them changes none of them. If some message block is closed in the plain
way, the template then reads as if all sigils were there. -/

namespace PromptKernel

/-- Where a pattern comes first does not depend on what stands behind it. -/
theorem Text.cut?_change_rest {pattern before rest : List Char}
    (found : cut? pattern (before ++ (pattern ++ rest)) = some (before, rest)) (other : List Char) :
    cut? pattern (before ++ (pattern ++ other)) = some (before, other) := by
  have begun (more : List Char) : cut? pattern (pattern ++ more) = some ([], more) := by
    have starts : dropPrefix? pattern (pattern ++ more) = some more := dropPrefix?_eq_some_iff.mpr rfl
    cases shape : pattern ++ more with
    | nil => rw [cut?, ← shape, starts]; rfl
    | cons c text => rw [cut?, ← shape, starts]
  induction before with
  | nil => exact begun other
  | cons c before ih =>
    rw [List.cons_append, cut?] at found ⊢
    split at found
    · cases found
    next missing =>
      have later : cut? pattern (before ++ (pattern ++ rest)) = some (before, rest) := by
        obtain ⟨⟨before', rest'⟩, inner, same⟩ := Option.map_eq_some_iff.mp found
        cases same
        exact inner
      split
      next more starts =>
        have whole : pattern <+: c :: (before ++ (pattern ++ other)) :=
          ⟨more, (dropPrefix?_eq_some_iff.mp starts).symm⟩
        have enough : c :: (before ++ pattern) <+: c :: (before ++ (pattern ++ other)) := ⟨other, by simp⟩
        obtain ⟨tail, same⟩ := List.prefix_of_prefix_length_le whole enough (by simp; omega)
        have also : c :: (before ++ (pattern ++ rest)) = pattern ++ (tail ++ rest) := by
          rw [← List.append_assoc pattern, same]
          simp
        cases missing.symm.trans (dropPrefix?_eq_some_iff.mpr also)
      next => rw [ih later, Option.map_some]

namespace Template.Shorthand

/-- The openings of raw blocks tell each other apart by their third characters. -/
theorem Braces.opening_eq (braces : Braces) : ∃ third rest, braces.opening = '\x7b' :: '\x7b' :: third :: rest ∧
    third = match braces with
      | four => '\x7b'
      | two true => '#'
      | two false => 'r' := by
  rcases braces with _ | (_ | _) <;> exact ⟨_, _, rfl, rfl⟩

theorem Braces.eq_of_opening {braces other : Braces} {inside text : List Char}
    (same : braces.opening ++ inside = other.opening ++ text) : braces = other ∧ inside = text := by
  obtain ⟨third, rest, shape, mine⟩ := braces.opening_eq
  obtain ⟨third', rest', shape', yours⟩ := other.opening_eq
  have equal : braces = other := by
    rw [shape, shape'] at same
    simp only [List.cons_append, List.cons.injEq, true_and] at same
    rw [same.1, yours] at mine
    rcases braces with _ | (_ | _) <;> rcases other with _ | (_ | _) <;> first | rfl | exact absurd mine (by decide)
  subst equal
  exact ⟨rfl, List.append_cancel_left same⟩

theorem rawBlock?_opening (braces : Braces) (inside : List Char) : rawBlock? (braces.opening ++ inside) =
    (Text.cut? braces.closing inside).map fun (body, rest) => (⟨braces, body⟩, rest) := by
  have each (other : Braces) : (do
      let inside ← Text.dropPrefix? other.opening (braces.opening ++ inside)
      let (body, rest) ← Text.cut? other.closing inside
      return (⟨other, body⟩, rest) : Option (RawBlock × List Char)) =
      if other = braces then (Text.cut? braces.closing inside).map fun (body, rest) => (⟨braces, body⟩, rest)
      else none := by
    split
    next same =>
      subst same
      have opened : Text.dropPrefix? other.opening (other.opening ++ inside) = some inside :=
        Text.dropPrefix?_eq_some_iff.mpr rfl
      rw [opened, Option.bind_eq_bind, Option.bind_some]
      cases Text.cut? other.closing inside <;> rfl
    next different =>
      cases found : Text.dropPrefix? other.opening (braces.opening ++ inside) with
      | none => rfl
      | some rest => exact absurd (Braces.eq_of_opening (Text.dropPrefix?_eq_some_iff.mp found)).1.symm different
  unfold rawBlock?
  simp only [each]
  generalize (Text.cut? braces.closing inside).map _ = block
  rcases braces with _ | (_ | _) <;> cases block <;> rfl

theorem exists_of_rawBlock? {text rest : List Char} {block : RawBlock}
    (found : rawBlock? text = some (block, rest)) : ∃ inside, text = block.braces.opening ++ inside ∧
      Text.cut? block.braces.closing inside = some (block.body, rest) := by
  obtain ⟨braces, -, found⟩ := List.exists_of_findSome?_eq_some found
  obtain ⟨inside, opened, found⟩ := Option.bind_eq_some_iff.mp found
  obtain ⟨⟨body, rest'⟩, cut, same⟩ := Option.bind_eq_some_iff.mp found
  cases same
  exact ⟨inside, Text.dropPrefix?_eq_some_iff.mp opened, cut⟩

theorem rawBlock?_eq_none_iff {text : List Char} : rawBlock? text = none ↔
    ∀ braces inside, text = Braces.opening braces ++ inside → ¬ braces.closing <:+: inside := by
  constructor
  · rintro missing braces inside rfl
    rw [rawBlock?_opening, Option.map_eq_none_iff] at missing
    exact Text.cut?_eq_none_iff.mp missing
  · intro missing
    cases found : rawBlock? text with
    | none => rfl
    | some result =>
      obtain ⟨inside, opened, cut⟩ := exists_of_rawBlock? found
      refine absurd ?_ (missing _ inside opened)
      rw [Text.eq_append_of_cut? cut]
      exact ⟨_, _, rfl⟩

theorem eq_append_of_rawBlock? {text rest : List Char} {block : RawBlock}
    (found : rawBlock? text = some (block, rest)) : text = block.written ++ rest := by
  obtain ⟨inside, rfl, cut⟩ := exists_of_rawBlock? found
  rw [Text.eq_append_of_cut? cut]
  simp [RawBlock.written]

theorem rawBlock?_of_third {c : Char} (other : c ≠ '\x7b') (text : List Char) :
    rawBlock? (c :: text) = none ∧ rawBlock? ('\x7b' :: c :: text) = none := by
  rw [rawBlock?_eq_none_iff, rawBlock?_eq_none_iff]
  constructor <;>
  · intro braces inside same
    obtain ⟨third, rest, shape, -⟩ := braces.opening_eq
    rw [shape] at same
    simp [other] at same

/-- A raw block is found as it is written, whatever stands behind it. -/
theorem rawBlock?_written {block : RawBlock} {rest : List Char}
    (found : rawBlock? (block.written ++ rest) = some (block, rest)) (other : List Char) :
    rawBlock? (block.written ++ other) = some (block, other) := by
  obtain ⟨braces, body⟩ := block
  rw [RawBlock.written, List.append_assoc, List.append_assoc, rawBlock?_opening] at found ⊢
  obtain ⟨⟨body', rest'⟩, cut, same⟩ := Option.map_eq_some_iff.mp found
  cases same
  rw [Text.cut?_change_rest cut other]
  rfl

namespace Respells

/-- Raw blocks neither appear nor disappear. -/
theorem rawBlock? {text other : List Char} (respells : Respells text other)
    (missing : Shorthand.rawBlock? text = none) : Shorthand.rawBlock? other = none := by
  rw [rawBlock?_eq_none_iff] at missing ⊢
  rintro braces inside rfl closed
  have opening : clear braces.opening = true := by rcases braces with _ | (_ | _) <;> decide
  have closing : clear braces.closing = true ∧ leads braces.closing = true := by
    rcases braces with _ | (_ | _) <;> decide
  obtain ⟨more, rfl, rest⟩ := respells.symm.of_leading opening rfl
  exact missing braces more rfl (rest.infix_of_infix closing.1 closing.2 closed)

theorem closes {text other : List Char} (respells : Respells text other) :
    (Text.cut? messageEnd other).isSome = (Text.cut? messageEnd text).isSome := by
  have kept {text other : List Char} (respells : Respells text other) (missing : Text.cut? messageEnd text = none) :
      Text.cut? messageEnd other = none := by
    rw [Text.cut?_eq_none_iff] at missing ⊢
    exact fun inside => missing (respells.symm.infix_of_infix (by decide) (by decide) inside)
  cases found : Text.cut? messageEnd text with
  | none => rw [kept respells found]
  | some _ =>
    cases also : Text.cut? messageEnd other with
    | none => rw [kept respells.symm also] at found; cases found
    | some _ => rfl

end Respells

/-- No raw block begins in one of the texts, and each one that is listed is found in its place. -/
def Finds : List (List Char × RawBlock) → List Char → Prop
  | [], rest => ∀ part, part <:+ rest → rawBlock? part = none
  | (text, block) :: blocks, rest =>
    let after := Outline.written ⟨blocks, rest⟩
    (∀ part, part <:+ text → part ≠ [] → rawBlock? (part ++ (block.written ++ after)) = none) ∧
      rawBlock? (block.written ++ after) = some (block, after) ∧ Finds blocks rest

theorem Outline.written_cons (text : List Char) (block : RawBlock) (blocks : List (List Char × RawBlock))
    (rest : List Char) : Outline.written ⟨(text, block) :: blocks, rest⟩ =
      text ++ (block.written ++ Outline.written ⟨blocks, rest⟩) := by
  simp [Outline.written]

theorem Outline.written_push (c : Char) (outline : Outline) : (outline.push c).written = c :: outline.written := by
  rcases outline with ⟨_ | ⟨⟨text, block⟩, blocks⟩, rest⟩
  · rfl
  · rw [Outline.push, Outline.written_cons, Outline.written_cons]
    rfl

theorem Finds.push {c : Char} {blocks : List (List Char × RawBlock)} {rest : List Char} (finds : Finds blocks rest)
    (missing : rawBlock? (c :: Outline.written ⟨blocks, rest⟩) = none) :
    Finds (Outline.push c ⟨blocks, rest⟩).blocks (Outline.push c ⟨blocks, rest⟩).rest := by
  cases blocks with
  | nil =>
    intro part suffix
    rcases List.suffix_cons_iff.mp suffix with rfl | later
    · exact missing
    · exact finds part later
  | cons first blocks =>
    obtain ⟨text, block⟩ := first
    obtain ⟨plain, found, later⟩ := finds
    refine ⟨fun part suffix nonempty => ?_, found, later⟩
    rcases List.suffix_cons_iff.mp suffix with rfl | inside
    · rwa [Outline.written_cons] at missing
    · exact plain part inside nonempty

/-- Outlines are read from left to right and lose nothing. -/
theorem finds_ofChars (text : List Char) :
    Finds (Outline.ofChars text).blocks (Outline.ofChars text).rest ∧ (Outline.ofChars text).written = text := by
  induction text using Outline.ofChars.induct with
  | case1 =>
    rw [Outline.ofChars]
    refine ⟨fun part suffix => ?_, rfl⟩
    obtain rfl := List.suffix_nil.mp suffix
    exact rawBlock?_eq_none_iff.mpr fun braces inside same => by
      obtain ⟨third, rest, shape, -⟩ := braces.opening_eq
      rw [shape] at same
      cases same
  | case2 c cs block rest found ih =>
    obtain ⟨finds, whole⟩ := ih
    rw [Outline.ofChars]
    split
    next block' rest' same =>
      cases found.symm.trans same
      have written := eq_append_of_rawBlock? found
      refine ⟨⟨fun part suffix nonempty => absurd (List.suffix_nil.mp suffix) nonempty, ?_, finds⟩, ?_⟩
      · rw [whole, ← written, found]
      · rw [Outline.written_cons, whole, ← written]
        rfl
    next same => cases found.symm.trans same
  | case3 c cs missing ih =>
    obtain ⟨finds, whole⟩ := ih
    rw [Outline.ofChars]
    split
    next block' rest' same => cases missing.symm.trans same
    next => exact ⟨finds.push (by rwa [whole]), by rw [Outline.written_push, whole]⟩

theorem ofChars_append {text after : List Char}
    (plain : ∀ part, part <:+ text → part ≠ [] → rawBlock? (part ++ after) = none) :
    Outline.ofChars (text ++ after) = text.foldr Outline.push (Outline.ofChars after) := by
  induction text with
  | nil => rfl
  | cons c text ih =>
    rw [List.cons_append, Outline.ofChars]
    split
    next found => cases (plain _ List.suffix_rfl (List.cons_ne_nil c text)).symm.trans found
    next => rw [ih fun part suffix => plain part (suffix.trans (List.suffix_cons c text))]; rfl

theorem foldr_push (text more : List Char) (block : RawBlock) (blocks : List (List Char × RawBlock))
    (rest : List Char) :
    text.foldr Outline.push ⟨[], more⟩ = ⟨[], text ++ more⟩ ∧
      text.foldr Outline.push ⟨(more, block) :: blocks, rest⟩ = ⟨(text ++ more, block) :: blocks, rest⟩ := by
  induction text with
  | nil => exact ⟨rfl, rfl⟩
  | cons c text ih => exact ⟨by rw [List.foldr_cons, ih.1]; rfl, by rw [List.foldr_cons, ih.2]; rfl⟩

theorem ofChars_written {blocks : List (List Char × RawBlock)} {rest : List Char} (finds : Finds blocks rest) :
    Outline.ofChars (Outline.written ⟨blocks, rest⟩) = ⟨blocks, rest⟩ := by
  induction blocks with
  | nil =>
    have read := ofChars_append (fun part suffix _ => (List.append_nil part).symm ▸ finds part suffix)
    rw [List.append_nil, Outline.ofChars, (foldr_push rest [] ⟨.four, []⟩ [] []).1, List.append_nil] at read
    exact read
  | cons first blocks ih =>
    obtain ⟨text, block⟩ := first
    obtain ⟨plain, found, later⟩ := finds
    have read : Outline.ofChars (block.written ++ Outline.written ⟨blocks, rest⟩) =
        ⟨([], block) :: blocks, rest⟩ := by
      obtain ⟨c, cs, shape⟩ : ∃ c cs, block.written ++ Outline.written ⟨blocks, rest⟩ = c :: cs := by
        obtain ⟨third, tail, shape, -⟩ := block.braces.opening_eq
        exact ⟨_, _, by rw [RawBlock.written, shape]; rfl⟩
      rw [shape] at found ⊢
      rw [Outline.ofChars]
      split
      next block' rest' same =>
        cases found.symm.trans same
        rw [ih later]
      next same => cases found.symm.trans same
    rw [Outline.written_cons, ofChars_append plain, read, (foldr_push text [] block blocks rest).2, List.append_nil]

theorem suffix_of_suffix_append {text rest part : List Char} (solid : '\x7b' ∉ text)
    (suffix : part <:+ text ++ rest) : part <:+ rest ∨ ∃ c more, c ≠ '\x7b' ∧ part = c :: more := by
  induction text with
  | nil => exact .inl suffix
  | cons c text ih =>
    rw [List.mem_cons, not_or] at solid
    rcases List.suffix_cons_iff.mp suffix with rfl | inside
    · exact .inr ⟨c, _, Ne.symm solid.1, rfl⟩
    · exact ih solid.2 inside

namespace Respells

/-- If no raw block begins in a text, then none does so in the other one. Where this is inside of the
beginning of an opener, there are no two braces. -/
theorem plain {text other after further : List Char} (respells : Respells text other)
    (behind : Respells after further)
    (plain : ∀ part, part <:+ text → part ≠ [] → Shorthand.rawBlock? (part ++ after) = none) :
    ∀ part, part <:+ other → part ≠ [] → Shorthand.rawBlock? (part ++ further) = none := by
  intro part suffix nonempty
  induction respells with
  | nil => exact absurd (List.suffix_nil.mp suffix) nonempty
  | keep c others ih =>
    rcases List.suffix_cons_iff.mp suffix with rfl | inside
    · exact ((Respells.keep c others).append behind).rawBlock? (plain _ List.suffix_rfl (List.cons_ne_nil _ _))
    · exact ih (fun part suffix => plain part (suffix.trans (List.suffix_cons _ _))) inside
  | @start a text b other first second others ih =>
    have started := second
    obtain ⟨brace, -, -, -⟩ := second
    next c tail =>
    rcases List.suffix_cons_iff.mp suffix with rfl | suffix
    · refine ((Respells.start first started others).append behind).rawBlock? (plain _ List.suffix_rfl ?_)
      obtain ⟨-, -, -, -⟩ := first
      exact List.cons_ne_nil _ _
    rcases List.suffix_cons_iff.mp suffix with rfl | suffix
    · exact (rawBlock?_of_third (fun same => brace (same ▸ List.mem_cons_self)) _).2
    rcases suffix_of_suffix_append brace suffix with inside | ⟨d, more, solid, rfl⟩
    · exact ih (fun part suffix => plain part (suffix.trans (List.suffix_append _ _))) inside
    · exact (rawBlock?_of_third solid _).1

end Respells

/-- The same raw blocks with texts between them that are related. -/
structure Outline.Related (relation : List Char → List Char → Prop) (outline other : Outline) : Prop where
  blocks : List.Forall₂ (fun first second => second.2 = first.2 ∧ relation first.1 second.1)
    outline.blocks other.blocks
  rest : relation outline.rest other.rest

namespace Outline.Related

theorem mono {relation weaker : List Char → List Char → Prop} {outline other : Outline}
    (related : outline.Related relation other) (weaken : ∀ text other, relation text other → weaker text other) :
    outline.Related weaker other :=
  ⟨related.blocks.imp fun _ _ pair => ⟨pair.1, weaken _ _ pair.2⟩, weaken _ _ related.rest⟩

theorem finds {outline other : Outline} (related : outline.Related Respells other)
    (finds : Finds outline.blocks outline.rest) :
    Finds other.blocks other.rest ∧ Respells outline.written other.written := by
  obtain ⟨blocks, rest⟩ := outline
  obtain ⟨blocks', rest'⟩ := other
  obtain ⟨same, ends⟩ := related
  dsimp only at same ends finds ⊢
  induction same with
  | nil =>
    refine ⟨fun part suffix => ?_, by simpa [Outline.written] using ends⟩
    have missing := ends.plain .nil (fun part suffix _ => (List.append_nil part).symm ▸ finds part suffix) part suffix
    rw [List.append_nil] at missing
    by_cases empty : part = []
    · rw [empty]
      exact finds [] List.nil_suffix
    · exact missing empty
  | @cons first second blocks blocks' pair _ ih =>
    obtain ⟨text, block⟩ := first
    obtain ⟨text', block'⟩ := second
    obtain ⟨rfl, respells⟩ := pair
    obtain ⟨plain, found, later⟩ := finds
    obtain ⟨finds, written⟩ := ih later
    have behind := Respells.append_left block'.written written
    refine ⟨⟨respells.plain behind plain, rawBlock?_written found _, finds⟩, ?_⟩
    rw [Outline.written_cons, Outline.written_cons]
    exact respells.append behind

theorem closesMessage {outline other : Outline} (related : outline.Related Respells other) :
    Shorthand.closesMessage other = Shorthand.closesMessage outline := by
  obtain ⟨blocks, rest⟩ := outline
  obtain ⟨blocks', rest'⟩ := other
  obtain ⟨same, ends⟩ := related
  unfold Shorthand.closesMessage Outline.texts
  dsimp only at same ends ⊢
  rw [List.any_append, List.any_append, List.any_cons, List.any_cons, ends.closes]
  congr 1
  induction same with
  | nil => rfl
  | cons pair _ ih => rw [List.map_cons, List.map_cons, List.any_cons, List.any_cons, pair.2.closes, ih]

/-- Once the sigils are added nothing is left of the difference. -/
theorem spellOut {outline other : Outline} (related : outline.Related LeavesOut other) :
    other.spellOut addSigils = outline.spellOut addSigils := by
  obtain ⟨blocks, rest⟩ := outline
  obtain ⟨blocks', rest'⟩ := other
  obtain ⟨same, ends⟩ := related
  unfold Outline.spellOut
  dsimp only at same ends ⊢
  rw [ends.addSigils]
  congr 1
  induction same with
  | nil => rfl
  | @cons first second _ _ pair _ ih =>
    obtain ⟨text, block⟩ := first
    obtain ⟨text', block'⟩ := second
    obtain ⟨rfl, left⟩ := pair
    rw [List.map_cons, List.map_cons, ih, left.addSigils]

end Outline.Related

/-- The template is the other one without the sigils of some message blocks. Raw blocks are left alone. -/
def LeavesOutSigils (text bare : List Char) : Prop :=
  ∃ outline, (Outline.ofChars text).Related LeavesOut outline ∧ bare = outline.written

theorem LeavesOutSigils.ofChars {text bare : List Char} (left : LeavesOutSigils text bare) :
    (Outline.ofChars text).Related LeavesOut (Outline.ofChars bare) := by
  obtain ⟨outline, related, rfl⟩ := left
  have weak : (Outline.ofChars text).Related Respells outline := related.mono fun _ _ => LeavesOut.respells
  rwa [ofChars_written (weak.finds (finds_ofChars text).1).1]

theorem LeavesOutSigils.of_plain {text bare : List Char} (plain : (Outline.ofChars text).blocks = [])
    (left : LeavesOut text bare) : LeavesOutSigils text bare := by
  have whole : (Outline.ofChars text).rest = text := by
    have written := (finds_ofChars text).2
    rwa [Outline.written, plain] at written
  exact ⟨⟨[], bare⟩, ⟨by rw [plain]; exact .nil, by rwa [whole]⟩, rfl⟩

/-- A template that starts with an opener may leave out that one sigil. -/
theorem LeavesOutSigils.of_opener {trim : Bool} {gap blanks rest : List Char} {c : Char} (before : AreBlanks gap)
    (between : AreBlanks blanks) (apart : blanks ≠ []) (starts : StartsArgument c)
    (own : bareOpener? (c :: rest) = none) (plain : (Outline.ofChars (signed trim blanks ++ c :: rest)).blocks = []) :
    LeavesOutSigils (signed trim blanks ++ c :: rest) (unsigned trim gap blanks ++ c :: rest) :=
  .of_plain plain (.leave before between apart starts own (.refl rest))

theorem expand_of_leavesOutSigils {text bare : List Char} (left : LeavesOutSigils text bare)
    (closed : closesMessage (Outline.ofChars text) = true) : expand bare = expand text := by
  have related := left.ofChars
  have same : closesMessage (Outline.ofChars bare) = closesMessage (Outline.ofChars text) :=
    (related.mono fun _ _ => LeavesOut.respells).closesMessage
  unfold expand expandOutline
  rw [same, closed, if_pos rfl, related.spellOut]

end Template.Shorthand

namespace Template
open Shorthand

/-- Where some message block is closed in the plain way, it makes no difference which openers of message
blocks have their sigils, with white space in front of their arguments. White space beside the sigils may go with
them, also that in front of a mark. In every kernel and with any variables both templates do the same. -/
theorem sigils_make_no_difference {source tight bare : String}
    (tightens : TightensTags (expand source.toList) (expand tight.toList))
    (left : LeavesOutSigils tight.toList bare.toList)
    (closed : closesMessage (Outline.ofChars tight.toList) = true) :
    read? bare = read? source ∧ ∀ host, render host bare = render host source := by
  have same : read? bare = read? source := by
    unfold read?
    rw [expand_of_leavesOutSigils left closed]
    exact tightens.ofChars?
  refine ⟨same, fun host => ?_⟩
  unfold render
  rw [same]

theorem read?_greeting : read? "\x7b\x7b#message role=\"user\"\x7d\x7dhi\x7b\x7b/message\x7d\x7d" =
    some [.block ⟨.name "message", [], [("role", .literal (.string "user"))]⟩ [] false [.text "hi"] none] := by
  rw [read?_of_expand "\x7b\x7b#message role=\"user\"\x7d\x7dhi\x7b\x7b/message\x7d\x7d" (by decide +kernel)]
  simp only [String.reduceToList]
  rfl

/-- The sigil may have blanks beside it in the first place. -/
theorem sigils_make_no_difference_greeting :
    let spaced := "\x7b\x7b # message role=\"user\"\x7d\x7dhi\x7b\x7b/message\x7d\x7d"
    let source := "\x7b\x7b#message role=\"user\"\x7d\x7dhi\x7b\x7b/message\x7d\x7d"
    let bare := "\x7b\x7bmessage role=\"user\"\x7d\x7dhi\x7b\x7b/message\x7d\x7d"
    let kernel : Kernel := ⟨[], [], none, none⟩
    TightensTags (expand spaced.toList) (expand source.toList) ∧
    LeavesOutSigils source.toList bare.toList ∧ closesMessage (Outline.ofChars source.toList) = true ∧
    kernel.render bare = kernel.render source ∧ kernel.render bare = kernel.render spaced ∧
    (kernel.render bare {}).1 = .ok "<user~>hi</user~>" := by
  intro spaced source bare kernel
  have left : LeavesOutSigils source.toList bare.toList := by
    let rest := "ole=\"user\"\x7d\x7dhi\x7b\x7b/message\x7d\x7d".toList
    have written : source.toList = signed false [' '] ++ 'r' :: rest := by decide +kernel
    have without : bare.toList = unsigned false [] [' '] ++ 'r' :: rest := by decide +kernel
    rw [written, without]
    refine .of_opener nofun (List.forall_mem_singleton.mpr rfl) (by decide) ⟨by decide, by decide, by decide⟩ rfl ?_
    exact List.isEmpty_iff.mp (by decide +kernel)
  have tightens : TightensTags (expand spaced.toList) (expand source.toList) := by
    let rest := "message role=\"user\"\x7d\x7dhi\x7b\x7b/message\x7d\x7d".toList
    have wide : expand spaced.toList = openingStart [' '] false [] [' '] ++ rest := by decide +kernel
    have narrow : expand source.toList = openingStart [] false [] [] ++ rest := by decide +kernel
    have gap : AreGaps [' '] := List.forall_mem_singleton.mpr rfl
    rw [wide, narrow]
    exact .last (StaysText.nil _ (by decide)).readsText (List.prefix_append _ _)
      (.opening gap .nil gap false rest)
  have closed : closesMessage (Outline.ofChars source.toList) = true := by decide +kernel
  obtain ⟨-, same⟩ := sigils_make_no_difference (.refl _) left closed
  obtain ⟨-, alike⟩ := sigils_make_no_difference tightens left closed
  refine ⟨tightens, left, closed, same _, alike _, ?_⟩
  rw [show kernel.render bare = kernel.render source from same _]
  rw [Kernel.render, render_of_read? read?_greeting, renderTree_apply]
  rfl

theorem read?_marked : read? "\x7b\x7b#message role=\"user\"\x7d\x7dhi\x7b\x7b/message~\x7d\x7d" =
    some [.block ⟨.name "message", [], [("role", .literal (.string "user"))]⟩ [] false [.text "hi"] none] := by
  rw [read?_of_expand "\x7b\x7b#message role=\"user\"\x7d\x7dhi\x7b\x7b/message~\x7d\x7d" (by decide +kernel)]
  simp only [String.reduceToList]
  rfl

theorem read?_marked_bare : read? "\x7b\x7bmessage role=\"user\"\x7d\x7dhi\x7b\x7b/message~\x7d\x7d" = none := by
  rw [read?_of_expand "\x7b\x7bmessage role=\"user\"\x7d\x7dhi\x7b\x7b/message~\x7d\x7d" (by decide +kernel)]
  simp only [String.reduceToList]
  rfl

/-- A mark in the closing tag is enough for a template to need its sigils. So are a blank in front of the
mark of the opener, and an argument without one. -/
theorem closing_mark_needs_sigil :
    let source := "\x7b\x7b#message role=\"user\"\x7d\x7dhi\x7b\x7b/message~\x7d\x7d"
    let bare := "\x7b\x7bmessage role=\"user\"\x7d\x7dhi\x7b\x7b/message~\x7d\x7d"
    let kernel : Kernel := ⟨[], [], none, none⟩
    LeavesOutSigils source.toList bare.toList ∧ closesMessage (Outline.ofChars source.toList) = false ∧
    (kernel.render source {}).1 = .ok "<user~>hi</user~>" ∧
    (kernel.render bare {}).1 = .error (.template .malformed) ∧
    (read? "\x7b\x7b ~#message \"user\"\x7d\x7dhi\x7b\x7b/message\x7d\x7d").isSome ∧
    (read? "\x7b\x7b ~message \"user\"\x7d\x7dhi\x7b\x7b/message\x7d\x7d").isNone ∧
    (read? "\x7b\x7b#message\"user\"\x7d\x7dhi\x7b\x7b/message\x7d\x7d").isSome ∧
    (read? "\x7b\x7bmessage\"user\"\x7d\x7dhi\x7b\x7b/message\x7d\x7d").isNone := by
  intro source bare kernel
  refine ⟨?_, by decide +kernel, ?_, ?_, by decide +kernel, by decide +kernel, by decide +kernel, by decide +kernel⟩
  · let rest := "ole=\"user\"\x7d\x7dhi\x7b\x7b/message~\x7d\x7d".toList
    have written : source.toList = signed false [' '] ++ 'r' :: rest := by decide +kernel
    have without : bare.toList = unsigned false [] [' '] ++ 'r' :: rest := by decide +kernel
    rw [written, without]
    refine .of_opener nofun (List.forall_mem_singleton.mpr rfl) (by decide) ⟨by decide, by decide, by decide⟩ rfl ?_
    exact List.isEmpty_iff.mp (by decide +kernel)
  · rw [Kernel.render, render_of_read? read?_marked, renderTree_apply]
    rfl
  · rw [Kernel.render, render_of_unreadable read?_marked_bare]
    rfl

end Template

end PromptKernel
