import PromptKernel.Proofs.RemainingText
import PromptKernel.Proofs.WrittenTags

/-! Templates with a tag in front. Two tags for expressions may stand for each other there: what follows is
read in the same way behind both of them. -/

namespace PromptKernel.Template
open Shorthand

/-- A tag for an expression, as it stands at the start of a text. Whatever follows, it is read as itself, and
nothing that may be written the shorter way begins in it. -/
structure LeadingTag where
  text : List Char
  expression : Expression
  braces : ['\x7b', '\x7b'] <+: text
  reads : ∀ rest, tag? (text ++ rest) = some (⟨.output expression, false, false⟩, rest)
  sealed : ∀ part, part <:+ text → part ≠ [] → ∀ rest,
    rawBlock? (part ++ rest) = none ∧ bareOpener? (part ++ rest) = none

/-- Behind the two tags, texts close message blocks alike. -/
def LeadingTag.ClosesAlike (tag other : LeadingTag) : Prop :=
  ∀ rest, Shorthand.messageEnd <:+: tag.text ++ rest ↔ Shorthand.messageEnd <:+: other.text ++ rest

/-! Spelling out. -/

theorem addSigils_append {text rest : List Char}
    (plain : ∀ part, part <:+ text → part ≠ [] → bareOpener? (part ++ rest) = none) :
    addSigils (text ++ rest) = text ++ addSigils rest := by
  induction text with
  | nil => rfl
  | cons c text ih =>
    have first : bareOpener? (c :: (text ++ rest)) = none := plain _ List.suffix_rfl (List.cons_ne_nil c text)
    rw [List.cons_append, addSigils_cons_of_none first,
      ih fun part suffix => plain part (suffix.trans (List.suffix_cons c text))]
    rfl

theorem Shorthand.Outline.texts_foldr_push (text : List Char) (outline : Outline) : ∃ first others,
    outline.texts = first :: others ∧ (text.foldr push outline).texts = (text ++ first) :: others := by
  obtain ⟨blocks, rest⟩ := outline
  rcases blocks with _ | ⟨⟨first, block⟩, blocks⟩
  · exact ⟨rest, [], rfl, by rw [(foldr_push text rest ⟨.four, []⟩ [] []).1]; rfl⟩
  · exact ⟨first, _, rfl, by rw [(foldr_push text first block blocks rest).2]; rfl⟩

theorem closesMessage_iff {outline : Outline} :
    closesMessage outline = true ↔ ∃ text ∈ outline.texts, Shorthand.messageEnd <:+: text := by
  unfold closesMessage
  rw [List.any_eq_true]
  refine exists_congr fun text => and_congr_right fun _ => ?_
  rw [Option.isSome_iff_ne_none, ne_eq, Text.cut?_eq_none_iff, not_not]

namespace LeadingTag
variable (tag : LeadingTag)

/-- A text is spelled out behind the tag, in a way that only depends on whether there are message blocks. -/
theorem expand_append (text : List Char) :
    expand (tag.text ++ text) = tag.text ++ ((Outline.ofChars text).spellOut
      (if closesMessage (tag.text.foldr Outline.push (Outline.ofChars text)) then addSigils else id)).written := by
  unfold expand expandOutline
  rw [ofChars_append fun part suffix nonempty => (tag.sealed part suffix nonempty text).1]
  generalize Outline.ofChars text = outline
  have kept (rest : List Char) (closes : Bool) : (if closes then addSigils else id) (tag.text ++ rest) =
      tag.text ++ (if closes then addSigils else id) rest := by
    cases closes with
    | false => rfl
    | true => exact addSigils_append fun part suffix nonempty => (tag.sealed part suffix nonempty rest).2
  generalize closesMessage (tag.text.foldr Outline.push outline) = closes
  obtain ⟨blocks, rest⟩ := outline
  rcases blocks with _ | ⟨⟨first, block⟩, blocks⟩
  · rw [(foldr_push tag.text rest ⟨.four, []⟩ [] []).1]
    exact kept rest closes
  · rw [(foldr_push tag.text first block blocks rest).2]
    unfold Outline.spellOut
    rw [List.map_cons, Outline.written_cons, List.map_cons, Outline.written_cons, kept, List.append_assoc]

variable {tag} {other : LeadingTag}

theorem ClosesAlike.closesMessage (alike : tag.ClosesAlike other) (outline : Outline) :
    closesMessage (other.text.foldr Outline.push outline) = closesMessage (tag.text.foldr Outline.push outline) := by
  obtain ⟨first, others, shape, mine⟩ := outline.texts_foldr_push tag.text
  obtain ⟨first', others', shape', yours⟩ := outline.texts_foldr_push other.text
  cases shape.symm.trans shape'
  rw [Bool.eq_iff_iff, closesMessage_iff, closesMessage_iff, mine, yours]
  simp only [List.mem_cons, exists_eq_or_imp, alike first]

/-! Reading. -/

variable (tag) in
/-- The tag is the first piece, whatever is behind it. -/
theorem pieces?_append (fuel : Nat) (text : List Char) : pieces? (fuel + 1) true (tag.text ++ text) =
    (pieces? fuel false text).map fun more =>
      .tag ⟨.output tag.expression, false, false⟩ (startsOpenLine text) [] :: more := by
  have found := (StaysText.nil _ (by decide)).readsText _ (tag.braces.trans (List.prefix_append tag.text text))
  exact pieces?_of_tag found (tag.reads text) rfl fuel true

end LeadingTag

/-! Growing the tree. -/

/-- The frames with some elements before all that the outermost one has around it. -/
def framesOnTop (base : List Element) : List Frame → List Frame
  | [] => []
  | [frame] => [{ frame with outside := frame.outside ++ base }]
  | frame :: frames => frame :: framesOnTop base frames

theorem framesOnTop_cons_cons (base : List Element) (frame next : Frame) (frames : List Frame) :
    framesOnTop base (frame :: next :: frames) = frame :: framesOnTop base (next :: frames) := rfl

namespace Nesting

/-- The same place in a tree that starts with some more elements, the last one of them first. -/
def onTop (base : List Element) (n : Nesting) : Nesting :=
  ⟨if n.frames.isEmpty then n.inside ++ base else n.inside, framesOnTop base n.frames⟩

variable (base : List Element) (n : Nesting)

theorem onTop_add (element : Element) : (n.onTop base).add element = (n.add element).onTop base := by
  obtain ⟨inside, _ | ⟨frame, frames⟩⟩ := n <;> rfl

theorem onTop_enter (opener : Opener) : (n.onTop base).enter opener = (n.enter opener).onTop base := by
  obtain ⟨inside, _ | ⟨frame, frames⟩⟩ := n <;> rfl

theorem onTop_branch? (next : Option Branch) :
    (n.onTop base).branch? next = (n.branch? next).map (onTop base) := by
  obtain ⟨inside, _ | ⟨⟨opener, outside⟩, _ | ⟨frame, frames⟩⟩⟩ := n
  · rfl
  all_goals
    rcases opener with ⟨branches, _ | branch⟩ | branch | e | ⟨e, ownLine⟩ <;> rfl

theorem onTop_leave? (name : Option String) (isRaw : Bool) :
    (n.onTop base).leave? name isRaw = (n.leave? name isRaw).map (onTop base) := by
  obtain ⟨inside, _ | ⟨⟨opener, outside⟩, frames⟩⟩ := n
  · rfl
  · obtain ⟨fits, left⟩ : ∃ fits : Bool, ∀ outer others, leave? ⟨inside, ⟨opener, outer⟩ :: others⟩ name isRaw =
        if fits then (opener.element? inside.reverse).map fun element => ⟨element :: outer, others⟩ else none :=
      ⟨_, fun _ _ => rfl⟩
    have top : onTop base ⟨inside, ⟨opener, outside⟩ :: frames⟩ =
        ⟨inside, framesOnTop base (⟨opener, outside⟩ :: frames)⟩ := rfl
    rw [top]
    cases frames with
    | nil =>
      rw [framesOnTop, left, left]
      cases fits with
      | false => rfl
      | true =>
        rw [if_pos rfl, if_pos rfl, Option.map_map]
        rfl
    | cons frame frames =>
      rw [framesOnTop_cons_cons, left, left]
      cases fits with
      | false => rfl
      | true =>
        rw [if_pos rfl, if_pos rfl, Option.map_map]
        rfl

theorem onTop_step? (token : Token) : (n.onTop base).step? token = (n.step? token).map (onTop base) := by
  rcases token with s | ⟨kind, ownLine, indent⟩
  · unfold step?
    dsimp only
    split
    · rfl
    · rw [onTop_add, Option.map_some]
  · cases kind with
    | rawEnd name => exact onTop_leave? base n (some name) true
    | close name => exact onTop_leave? base n name false
    | otherwise => exact onTop_branch? base n none
    | otherwiseIf e names => exact onTop_branch? base n _
    | comment => rfl
    | output | decorator | inclusion => exact congrArg some (onTop_add base n _)
    | blockStart | rawStart | decoratorStart | inclusionStart => exact congrArg some (onTop_enter base n _)

theorem onTop_foldlM (tokens : List Token) :
    tokens.foldlM step? (n.onTop base) = (tokens.foldlM step? n).map (onTop base) := by
  induction tokens generalizing n with
  | nil => rfl
  | cons token tokens ih =>
    rw [List.foldlM_cons, List.foldlM_cons, onTop_step?]
    cases n.step? token with
    | none => rfl
    | some after => exact ih after

end Nesting

/-- An element in front leaves the tree behind it as it is. -/
theorem ofTokens?_output (e : Expression) (ownLine : Bool) (indent : List Char) (tokens : List Token) :
    ofTokens? (.tag (.output e) ownLine indent :: tokens) = (ofTokens? tokens).map (.output e :: ·) := by
  have folded : (Token.tag (.output e) ownLine indent :: tokens).foldlM Nesting.step? {} =
      (tokens.foldlM Nesting.step? {}).map (Nesting.onTop [.output e]) := Nesting.onTop_foldlM [.output e] {} tokens
  unfold ofTokens?
  rw [folded]
  cases tokens.foldlM Nesting.step? {} with
  | none => rfl
  | some n =>
    obtain ⟨inside, _ | ⟨frame, _ | ⟨other, frames⟩⟩⟩ := n
    · simp [Nesting.onTop, framesOnTop]
    · rfl
    · rfl

theorem LeadingTag.ofChars?_append (tag : LeadingTag) (text : List Char) : ofChars? (tag.text ++ text) =
    ((pieces? (text.length + 1) false text).bind fun more => ofTokens? (settle {} more)).map
      (.output tag.expression :: ·) := by
  have enough : text.length + 1 ≤ (tag.text ++ text).length := by
    have braces : 2 ≤ tag.text.length := tag.braces.length_le
    rw [List.length_append]
    omega
  unfold ofChars?
  rw [tag.pieces?_append, ← pieces?_of_enough (Nat.lt_succ_self _) enough]
  cases pieces? (text.length + 1) false text with
  | none => rfl
  | some more =>
    change ofTokens? (settle {} (.tag _ _ _ :: more)) = (ofTokens? (settle {} more)).map _
    rw [settle, if_neg Bool.false_ne_true, ofTokens?_output]
    rfl

/-- Reading a text with one tag in front of it, the text with the other tag is read as well. -/
theorem read?_leading {tag other : LeadingTag} (alike : tag.ClosesAlike other) {text : String} {elements : List Element}
    (read : read? (String.ofList tag.text ++ text) = some elements) : ∃ rest, elements = .output tag.expression :: rest ∧
      read? (String.ofList other.text ++ text) = some (.output other.expression :: rest) := by
  unfold read? at read ⊢
  rw [String.toList_append, String.toList_ofList, LeadingTag.expand_append, LeadingTag.ofChars?_append] at read ⊢
  rw [alike.closesMessage]
  obtain ⟨rest, found, rfl⟩ := Option.map_eq_some_iff.mp read
  exact ⟨rest, rfl, by rw [found]; rfl⟩

/-! Tags with a name in quotes. -/

theorem infix_append_cons_iff {pattern before after : List Char} {c : Char} (absent : c ∉ pattern)
    (nonempty : pattern ≠ []) : pattern <:+: before ++ c :: after ↔ pattern <:+: before ∨ pattern <:+: after := by
  have begins (text : List Char) : ¬ pattern <+: c :: text := by
    rintro ⟨rest, same⟩
    cases pattern with
    | nil => exact nonempty rfl
    | cons d pattern => exact absent ((List.cons.inj same).1 ▸ List.mem_cons_self)
  constructor
  · intro inside
    induction before with
    | nil =>
      rcases List.infix_cons_iff.mp inside with starts | later
      · exact absurd starts (begins after)
      · exact .inr later
    | cons d before ih =>
      rcases List.infix_cons_iff.mp inside with starts | later
      · rcases List.prefix_or_prefix_of_prefix starts (List.prefix_append (d :: before) (c :: after)) with short | long
        · exact .inl short.isInfix
        · obtain ⟨rest, rfl⟩ := long
          cases rest with
          | nil => exact .inl (by rw [List.append_nil])
          | cons e rest =>
            have same := (List.cons_prefix_cons.mp ((List.prefix_append_right_inj _).mp starts)).1
            exact absurd (same ▸ List.mem_append_right _ List.mem_cons_self) absent
      · exact (ih later).imp_left List.infix_cons
  · rintro (inside | inside)
    · exact inside.trans (List.prefix_append _ _).isInfix
    · exact (List.infix_cons inside).trans (List.suffix_append _ _).isInfix

/-- Blocks that may be written the shorter way begin with two braces. -/
theorem Shorthand.none_of_not_braces {text : List Char} (apart : ¬ ['\x7b', '\x7b'] <+: text) :
    rawBlock? text = none ∧ bareOpener? text = none := by
  rcases text with _ | ⟨c, _ | ⟨d, text⟩⟩
  · exact ⟨rfl, rfl⟩
  · by_cases brace : c = '\x7b'
    · subst brace
      exact ⟨rfl, rfl⟩
    · exact ⟨(rawBlock?_of_third brace []).1, bareOpener?_of_ne brace []⟩
  · by_cases brace : c = '\x7b'
    · subst brace
      have other : d ≠ '\x7b' := by
        rintro rfl
        exact apart ⟨text, rfl⟩
      exact ⟨(rawBlock?_of_third other text).2, bareOpener?_brace_of_ne other text⟩
    · exact ⟨(rawBlock?_of_third brace _).1, bareOpener?_of_ne brace _⟩

/-- A name that can be written in quotes as it is. -/
structure IsPlainName (name : String) : Prop where
  quotable : IsQuotable name.toList
  unbroken : ¬ ['\x7b', '\x7b'] <:+: name.toList

/-- A tag that calls a helper with a name in quotes, up to what stands behind the name. -/
def quotedTag (helper name behind : List Char) : List Char :=
  '\x7b' :: '\x7b' :: (helper ++ ' ' :: '"' :: (name ++ '"' :: behind))

/-- Two braces do not begin in a part of the text, whatever stands behind it. -/
theorem not_braces_of_suffix {text behind part : List Char} (unbroken : ¬ ['\x7b', '\x7b'] <:+: text)
    (ends : behind <:+ text) (nonempty : behind ≠ []) (solid : '\x7b' ∉ behind) (suffix : part <:+ text)
    (begun : part ≠ []) (rest : List Char) : ¬ ['\x7b', '\x7b'] <+: part ++ rest := by
  intro starts
  rcases part with _ | ⟨c, _ | ⟨d, part⟩⟩
  · exact begun rfl
  · obtain rfl := (List.cons_prefix_cons.mp starts).1
    have last := List.suffix_of_suffix_length_le suffix ends (List.length_pos_iff.mpr nonempty)
    exact solid (last.subset List.mem_cons_self)
  · obtain ⟨rfl, later⟩ := List.cons_prefix_cons.mp starts
    obtain rfl := (List.cons_prefix_cons.mp later).1
    exact unbroken (List.IsInfix.trans ⟨[], part, rfl⟩ suffix.isInfix)

section
variable {helper behind : List Char} (solid : '\x7b' ∉ helper) (after : '\x7b' ∉ behind)
  (first : ∀ rest, rawBlock? ('\x7b' :: '\x7b' :: (helper ++ rest)) = none ∧
    bareOpener? ('\x7b' :: '\x7b' :: (helper ++ rest)) = none)
include solid after first

theorem quotedTag_sealed {name : List Char} (plain : ¬ ['\x7b', '\x7b'] <:+: name) {part : List Char}
    (suffix : part <:+ quotedTag helper name behind) (nonempty : part ≠ []) (rest : List Char) :
    rawBlock? (part ++ rest) = none ∧ bareOpener? (part ++ rest) = none := by
  rcases List.suffix_cons_iff.mp suffix with rfl | suffix
  · have found := first (' ' :: '"' :: (name ++ '"' :: behind) ++ rest)
    rwa [← List.append_assoc] at found
  · have unbroken : ¬ ['\x7b', '\x7b'] <:+: '\x7b' :: (helper ++ ' ' :: '"' :: (name ++ '"' :: behind)) := by
      rw [← List.cons_append, infix_append_cons_iff (by decide) (by decide), ← List.nil_append ('"' :: _),
        infix_append_cons_iff (by decide) (by decide), infix_append_cons_iff (by decide) (by decide)]
      have absent {text : List Char} (solid : '\x7b' ∉ text) : ¬ ['\x7b', '\x7b'] <:+: text := fun inside =>
        solid (inside.subset List.mem_cons_self)
      rintro (inside | inside | inside | inside)
      · rcases List.infix_cons_iff.mp inside with starts | later
        · exact solid ((List.cons_prefix_cons.mp starts).2.subset List.mem_cons_self)
        · exact absent solid later
      · exact absent List.not_mem_nil inside
      · exact plain inside
      · exact absent after inside
    have ends : '"' :: behind <:+ '\x7b' :: (helper ++ ' ' :: '"' :: (name ++ '"' :: behind)) :=
      ⟨'\x7b' :: (helper ++ ' ' :: '"' :: name), by simp⟩
    have quoted : '\x7b' ∉ '"' :: behind := by simp [after]
    exact none_of_not_braces (not_braces_of_suffix unbroken ends (List.cons_ne_nil _ _) quoted suffix nonempty rest)

end

theorem arguments?_one (fuel : Nat) (params : List Argument) (hash : Fields Argument) (rest : List Char) :
    arguments? (fuel + 2) params hash (' ' :: '1' :: '\x7d' :: rest) =
      arguments? (fuel + 1) (.literal (.integer 1) :: params) hash ('\x7d' :: rest) := by
  have gap : skipGap (' ' :: '1' :: '\x7d' :: rest) = '1' :: '\x7d' :: rest := rfl
  have alone : identifier? ('1' :: '\x7d' :: rest) = some ("1", '\x7d' :: rest) := rfl
  have close : skipGap ('\x7d' :: rest) = '\x7d' :: rest := rfl
  have one : param? (fuel + 1) ('1' :: '\x7d' :: rest) = some (.literal (.integer 1), '\x7d' :: rest) := by
    have apart : startsWithKeyword ('1' :: '\x7d' :: rest) = false := rfl
    have ends : literalEnd? (('1' :: '\x7d' :: rest).length + 1) ('1' :: '\x7d' :: rest) = some ('\x7d' :: rest) := rfl
    have taken : ('1' :: '\x7d' :: rest).take (('1' :: '\x7d' :: rest).length - ('\x7d' :: rest).length) = ['1'] := by
      simp
    have value : literalValue? ['1'] = some (.integer 1) := by rfl
    unfold param?
    rw [apart, ends]
    dsimp only
    rw [taken, value]
    rfl
  rw [arguments?, gap]
  dsimp only
  rw [alone]
  dsimp only
  rw [close, one]
  rfl

theorem tag?_quoted_one {helper name : List Char} (legal : IsIdentifier helper) (first : helper.head? ≠ some 'e')
    (quotable : IsQuotable name) (rest : List Char) :
    tag? ('\x7b' :: '\x7b' :: (helper ++ ' ' :: '"' :: (name ++ '"' :: ' ' :: '1' :: '\x7d' :: '\x7d' :: rest))) =
      some (⟨.output ⟨.name (String.ofList helper),
        [.literal (.string (String.ofList name)), .literal (.integer 1)], []⟩, false, false⟩, rest) := by
  have ends : EndsName (' ' :: '"' :: (name ++ '"' :: ' ' :: '1' :: '\x7d' :: '\x7d' :: rest)) := by
    rintro c ⟨⟩
    exact ⟨by decide, by decide⟩
  refine tag?_of_expression legal first (expression?_of_arguments legal ends ?_ rfl)
  have enough : 2 * (' ' :: '"' :: (name ++ '"' :: ' ' :: '1' :: '\x7d' :: '\x7d' :: rest)).length + 2 =
      2 * name.length + 2 * rest.length + 14 + 2 := by
    simp only [List.length_cons, List.length_append]
    omega
  rw [enough, arguments?_quoted quotable, arguments?_one, arguments?_of_close]
  rfl

/-- The call that reads a variable. -/
def reading (name : String) : Expression := ⟨.name "get", [.literal (.string name)], []⟩

/-- The call that sets a variable to one. -/
def settingOne (name : String) : Expression := ⟨.name "set", [.literal (.string name), .literal (.integer 1)], []⟩

namespace LeadingTag
variable (name : String) (plain : IsPlainName name)

def get : LeadingTag where
  text := quotedTag "get".toList name.toList "\x7d\x7d".toList
  expression := reading name
  braces := ⟨_, rfl⟩
  reads rest := by
    have read := @tag?_quoted "get".toList _ (by decide) (by decide) plain.quotable rest
    rw [String.ofList_toList, String.ofList_toList] at read
    rw [reading, ← read]
    simp [quotedTag]
  sealed _ suffix nonempty rest :=
    quotedTag_sealed (by decide) (by decide) (fun _ => ⟨rfl, rfl⟩) plain.unbroken suffix nonempty rest

def setOne : LeadingTag where
  text := quotedTag "set".toList name.toList " 1\x7d\x7d".toList
  expression := settingOne name
  braces := ⟨_, rfl⟩
  reads rest := by
    have read := @tag?_quoted_one "set".toList _ (by decide) (by decide) plain.quotable rest
    rw [String.ofList_toList, String.ofList_toList] at read
    rw [settingOne, ← read]
    simp [quotedTag]
  sealed _ suffix nonempty rest :=
    quotedTag_sealed (by decide) (by decide) (fun _ => ⟨rfl, rfl⟩) plain.unbroken suffix nonempty rest

theorem get_text : String.ofList (get name plain).text = "\x7b\x7bget \"" ++ name ++ "\"\x7d\x7d" := by
  refine String.toList_inj.mp ?_
  simp [get, quotedTag]

theorem setOne_text : String.ofList (setOne name plain).text = "\x7b\x7bset \"" ++ name ++ "\" 1\x7d\x7d" := by
  refine String.toList_inj.mp ?_
  simp [setOne, quotedTag]

/-- The name may have in it what closes message blocks, but then it does so in both tags. -/
theorem get_closesAlike_setOne : (get name plain).ClosesAlike (setOne name plain) := by
  have split (helper behind : List Char) (rest : List Char) (solid : '/' ∉ '\x7b' :: '\x7b' :: helper) :
      Shorthand.messageEnd <:+: quotedTag helper name.toList behind ++ rest ↔
        Shorthand.messageEnd <:+: name.toList ∨ Shorthand.messageEnd <:+: behind ++ rest := by
    have whole : quotedTag helper name.toList behind ++ rest =
        ('\x7b' :: '\x7b' :: helper) ++ ' ' :: ([] ++ '"' :: (name.toList ++ '"' :: (behind ++ rest))) := by
      simp [quotedTag]
    have absent {text : List Char} (solid : '/' ∉ text) : ¬ Shorthand.messageEnd <:+: text := fun inside =>
      solid (inside.subset List.mem_cons_self)
    rw [whole, infix_append_cons_iff (by decide) (by decide), infix_append_cons_iff (by decide) (by decide),
      infix_append_cons_iff (by decide) (by decide), or_iff_right (absent solid), or_iff_right (absent List.not_mem_nil)]
  have behind (text rest : List Char) (brace : '\x7b' ∉ text) (slash : '/' ∉ text) :
      Shorthand.messageEnd <:+: text ++ rest ↔ Shorthand.messageEnd <:+: rest :=
    ⟨infix_of_infix_append rfl brace slash, fun inside => inside.trans (List.suffix_append text rest).isInfix⟩
  intro rest
  refine (split _ _ rest (by decide)).trans (Iff.trans (or_congr_right ?_) (split _ _ rest (by decide)).symm)
  rw [behind _ rest (by decide) (by decide), behind _ rest (by decide) (by decide)]

end LeadingTag

end PromptKernel.Template
