import Mathlib.Data.List.Basic
import Mathlib.Data.List.Infix
import PromptKernel.Transcript

/-! Reading tagged segments back out of a text. The left angle of a tag occurs nowhere else in it,
so no tag can begin inside of another one. A reader therefore finds every segment where it was
written, up to the first closing tag of its role. -/

namespace PromptKernel

namespace Text

/-- A pattern whose first character does not come again cannot begin before that character and end
behind it. -/
theorem prefix_of_prefix_append_cons {first : Char} {others text more : List Char}
    (fresh : first ∉ others) (nonempty : text ≠ [])
    (start : first :: others <+: text ++ first :: more) : first :: others <+: text := by
  obtain ⟨after, same⟩ := start
  rcases List.append_eq_append_iff.mp same with ⟨inside, whole, -⟩ | ⟨inside, whole, rest⟩
  · exact ⟨inside, whole.symm⟩
  · cases inside with
    | nil => exact ⟨[], by simpa using whole⟩
    | cons c inside =>
      obtain ⟨rfl, -⟩ := List.cons.inj (by simpa using rest)
      obtain ⟨head, tail, rfl⟩ := List.exists_cons_of_ne_nil nonempty
      obtain ⟨-, rfl⟩ := List.cons.inj (by simpa using whole)
      exact absurd (by simp) fresh

/-- A text without the pattern is cut off whole in front of the pattern. -/
theorem cut?_append_self {first : Char} {others text : List Char} (fresh : first ∉ others)
    (absent : ¬ first :: others <:+: text) (rest : List Char) :
    cut? (first :: others) (text ++ (first :: others ++ rest)) = some (text, rest) := by
  induction text with
  | nil =>
    have begun : dropPrefix? (first :: others) (first :: others ++ rest) = some rest :=
      dropPrefix?_eq_some_iff.mpr rfl
    rw [List.nil_append, List.cons_append, cut?, ← List.cons_append, begun]
  | cons c text ih =>
    have later := ih fun inside => absent (inside.trans (List.infix_cons List.infix_rfl))
    rw [List.cons_append, cut?]
    split
    next after begun =>
      have start : first :: others <+: (c :: text) ++ first :: (others ++ rest) :=
        ⟨after, (dropPrefix?_eq_some_iff.mp begun).symm⟩
      exact absurd (prefix_of_prefix_append_cons fresh (by simp) start).isInfix absent
    next => rw [later, Option.map_some]

theorem not_infix_of_cut? {pattern text before rest : List Char} (nonempty : pattern ≠ [])
    (found : cut? pattern text = some (before, rest)) : ¬ pattern <:+: before := by
  induction text generalizing before with
  | nil =>
    obtain ⟨after, -, same⟩ := Option.map_eq_some_iff.mp found
    obtain ⟨rfl, -⟩ := Prod.mk.inj same
    simpa using nonempty
  | cons c text ih =>
    have whole := eq_append_of_cut? found
    rw [cut?] at found
    split at found
    next =>
      obtain ⟨rfl, -⟩ := Prod.mk.inj (Option.some.inj found)
      simpa using nonempty
    next absent =>
      obtain ⟨⟨before', rest'⟩, cut, same⟩ := Option.map_eq_some_iff.mp found
      obtain ⟨rfl, rfl⟩ := Prod.mk.inj same
      rw [List.infix_cons_iff, not_or]
      refine ⟨?_, ih cut⟩
      rintro ⟨after, start⟩
      have begun : dropPrefix? pattern (c :: text) = some (after ++ (pattern ++ rest')) := by
        rw [dropPrefix?_eq_some_iff, whole, ← start]
        simp only [List.append_assoc]
      rw [begun] at absent
      cases absent

end Text

namespace Role

/-- The characters of an opening tag behind its left angle. -/
def openingRest (role : Role) : List Char := role.name.toList ++ ['~', '>']

/-- The characters of a closing tag behind its left angle. -/
def closingRest (role : Role) : List Char := '/' :: role.name.toList ++ ['~', '>']

theorem openingTag_eq (role : Role) : role.openingTag = '<' :: role.openingRest := rfl

theorem angle_notMem_openingRest (role : Role) : '<' ∉ role.openingRest := by
  cases role <;> decide

theorem angle_notMem_closingRest (role : Role) : '<' ∉ role.closingRest := by
  cases role <;> decide

end Role

namespace Transcript

theorem openingTag?_eq_some_iff {text rest : List Char} {role : Role} :
    openingTag? text = some (role, rest) ↔ text = role.openingTag ++ rest := by
  constructor
  · intro found
    obtain ⟨role', -, started⟩ := List.exists_of_findSome?_eq_some found
    obtain ⟨rest', begun, same⟩ := Option.map_eq_some_iff.mp started
    obtain ⟨rfl, rfl⟩ := Prod.mk.inj same
    exact Text.dropPrefix?_eq_some_iff.mp begun
  · rintro rfl
    cases role <;> rfl

theorem not_infix_of_segment? {text rest : List Char} {turn : Turn}
    (found : segment? text = some (turn, rest)) :
    ¬ turn.role.closingTag <:+: turn.content.toList := by
  obtain ⟨⟨role, body⟩, -, closed⟩ := Option.bind_eq_some_iff.mp found
  obtain ⟨⟨content, rest'⟩, cut, same⟩ := Option.map_eq_some_iff.mp closed
  obtain ⟨rfl, -⟩ := Prod.mk.inj same
  simpa using Text.not_infix_of_cut? (by simp [Role.closingTag]) cut

/-- A reader stops at the first closing tag, so no turn it returns holds one of its role. -/
theorem not_infix_of_mem_extractFrom {text : List Char} {turn : Turn}
    (member : turn ∈ extractFrom text) : ¬ turn.role.closingTag <:+: turn.content.toList := by
  fun_induction extractFrom text with
  | case1 => cases member
  | case2 c text first rest found ih =>
    rcases List.mem_cons.mp member with rfl | later
    · exact not_infix_of_segment? found
    · exact ih later
  | case3 c text absent ih => exact ih member

theorem segment?_tagged {turn : Turn} (unclosed : ¬ turn.role.closingTag <:+: turn.content.toList)
    (rest : List Char) : segment? (turn.tagged.toList ++ rest) = some (turn, rest) := by
  have opened : openingTag? (turn.tagged.toList ++ rest) =
      some (turn.role, turn.content.toList ++ (turn.role.closingTag ++ rest)) :=
    openingTag?_eq_some_iff.mpr (by simp [Turn.tagged])
  have cut : Text.cut? turn.role.closingTag (turn.content.toList ++ (turn.role.closingTag ++ rest)) =
      some (turn.content.toList, rest) :=
    Text.cut?_append_self turn.role.angle_notMem_closingRest unclosed rest
  simp [segment?, opened, cut]

theorem extractFrom_tagged {turn : Turn}
    (unclosed : ¬ turn.role.closingTag <:+: turn.content.toList) (rest : List Char) :
    extractFrom (turn.tagged.toList ++ rest) = turn :: extractFrom rest := by
  have begins : turn.tagged.toList ++ rest = '<' :: (turn.role.openingRest ++
      (turn.content.toList ++ (turn.role.closingTag ++ rest))) := by
    simp [Turn.tagged, Role.openingTag_eq]
  have found := segment?_tagged unclosed rest
  rw [begins] at found ⊢
  rw [extractFrom]
  split
  next turn' rest' found' =>
    obtain ⟨rfl, rfl⟩ := Prod.mk.inj (Option.some.inj (found.symm.trans found'))
    rfl
  next absent => rw [found] at absent; cases absent

/-- Text without opening tags is passed over, up to a segment. -/
theorem extractFrom_append_tagged {text : List Char}
    (free : ∀ role : Role, ¬ role.openingTag <:+: text) (turn : Turn) (rest : List Char) :
    extractFrom (text ++ (turn.tagged.toList ++ rest)) = extractFrom (turn.tagged.toList ++ rest) := by
  induction text with
  | nil => rfl
  | cons c text ih =>
    have later := ih fun role inside => free role (inside.trans (List.infix_cons List.infix_rfl))
    rw [← later, List.cons_append, extractFrom]
    split
    next turn' rest' found =>
      obtain ⟨⟨role, body⟩, opened, -⟩ := Option.bind_eq_some_iff.mp found
      have start : role.openingTag <+: (c :: text) ++ '<' :: (turn.role.openingRest ++
          (turn.content.toList ++ (turn.role.closingTag ++ rest))) :=
        ⟨body, by simpa [Turn.tagged, Role.openingTag_eq] using
          (openingTag?_eq_some_iff.mp opened).symm⟩
      have inside := Text.prefix_of_prefix_append_cons role.angle_notMem_openingRest (by simp) start
      exact absurd inside.isInfix (free role)
    next => rfl

/-- Segments with text between them, and what follows the last one. -/
def spread (segments : List (String × Turn)) (rest : String) : String :=
  String.join (segments.map fun segment => segment.1 ++ segment.2.tagged) ++ rest

theorem toList_spread_cons (text : String) (turn : Turn) (segments : List (String × Turn))
    (rest : String) : (spread ((text, turn) :: segments) rest).toList =
      text.toList ++ (turn.tagged.toList ++ (spread segments rest).toList) := by
  simp [spread]

/-- Segments that their contents do not close are all found, whatever text without opening tags
stands between them. -/
theorem extract_spread (segments : List (String × Turn)) (rest : String)
    (free : ∀ segment ∈ segments, ∀ role : Role, ¬ role.openingTag <:+: segment.1.toList)
    (unclosed : ∀ segment ∈ segments,
      ¬ segment.2.role.closingTag <:+: segment.2.content.toList) :
    extract (spread segments rest) = segments.map Prod.snd ++ extract rest := by
  induction segments with
  | nil => simp [spread]
  | cons segment segments ih =>
    obtain ⟨text, turn⟩ := segment
    have later := ih (fun segment member => free segment (List.mem_cons_of_mem _ member))
      (fun segment member => unclosed segment (List.mem_cons_of_mem _ member))
    rw [extract, toList_spread_cons, extractFrom_append_tagged (free _ List.mem_cons_self),
      extractFrom_tagged (unclosed _ List.mem_cons_self)]
    simpa [extract] using later

theorem spread_eq_render (turns : List Turn) :
    spread (turns.map fun turn => ("", turn)) "" = render turns := by
  simp [spread, render, Function.comp_def]

theorem extract_render_iff (turns : List Turn) :
    extract (render turns) = turns ↔
      ∀ turn ∈ turns, ¬ turn.role.closingTag <:+: turn.content.toList := by
  constructor
  · intro same turn member
    have read : turn ∈ extract (render turns) := by rwa [same]
    exact not_infix_of_mem_extractFrom read
  · intro unclosed
    have found := extract_spread (turns.map fun turn => ("", turn)) ""
      (by simp [Role.openingTag]) (by simpa using unclosed)
    simpa [spread_eq_render, extract, extractFrom, Function.comp_def] using found

/-- Tagged segments are read back as the turns they were written from exactly when no content
closes its own segment. Text without opening tags may stand in front of each of them and any text
behind the last one; without both, reading undoes writing on just these lists of turns. -/
theorem extract_tagged_iff (segments : List (String × Turn)) (rest : String)
    (free : ∀ segment ∈ segments, ∀ role : Role, ¬ role.openingTag <:+: segment.1.toList) :
    (extract (String.join (segments.map fun segment => segment.1 ++ segment.2.tagged) ++ rest) =
        segments.map Prod.snd ++ extract rest ↔
      ∀ segment ∈ segments, ¬ segment.2.role.closingTag <:+: segment.2.content.toList) ∧
    (extract (render (segments.map Prod.snd)) = segments.map Prod.snd ↔
      ∀ segment ∈ segments, ¬ segment.2.role.closingTag <:+: segment.2.content.toList) := by
  refine ⟨⟨?_, extract_spread segments rest free⟩, ?_⟩
  · intro same segment member
    have read : segment.2 ∈ extract (spread segments rest) := by
      rw [spread, same]
      exact List.mem_append_left _ (List.mem_map_of_mem member)
    exact not_infix_of_mem_extractFrom read
  · rw [extract_render_iff]
    simp only [List.forall_mem_map]

/-- The content may hold its own opening tag, tags of other roles and the start of its own closing
tag, and text in between may break off inside of a tag. -/
theorem extract_tagged_iff_broken_tags :
    let turn : Turn := ⟨.user, "<user~></system~></user"⟩
    (∀ segment ∈ [("a <user~", turn), ("</user~>", turn)],
      ∀ role : Role, ¬ role.openingTag <:+: segment.1.toList) ∧
    extract ("a <user~" ++ turn.tagged ++ ("</user~>" ++ turn.tagged) ++ "<system~>x</system~>") =
      [turn, turn, ⟨.system, "x"⟩] := by
  intro turn
  have free : ∀ segment ∈ [("a <user~", turn), ("</user~>", turn)],
      ∀ role : Role, ¬ role.openingTag <:+: segment.1.toList := by
    simp only [List.forall_mem_cons]
    refine ⟨fun role => ?_, fun role => ?_, by simp⟩ <;> cases role <;> decide
  have unclosed : ∀ segment ∈ [("a <user~", turn), ("</user~>", turn)],
      ¬ segment.2.role.closingTag <:+: segment.2.content.toList := by
    simp only [List.forall_mem_cons]
    exact ⟨by decide, by decide, by simp⟩
  have read := (extract_tagged_iff _ "<system~>x</system~>" free).1.mpr unclosed
  have rest : extract "<system~>x</system~>" = [⟨.system, "x"⟩] := by decide +kernel
  exact ⟨free, by simpa [rest, String.join] using read⟩

/-! Canonical forms of texts. -/

/-- Nothing but the turns that a text holds. -/
def canonical (text : String) : String := render (extract text)

theorem extract_canonical (text : String) : extract (canonical text) = extract text :=
  (extract_render_iff (extract text)).mpr fun _ member => not_infix_of_mem_extractFrom member

/-- The canonical texts are the transcripts whose contents do not close their own segments. -/
theorem canonical_eq_self_iff (text : String) :
    canonical text = text ↔
      ∃ turns, text = render turns ∧ ∀ turn ∈ turns, ¬ turn.role.closingTag <:+: turn.content.toList := by
  constructor
  · intro same
    exact ⟨extract text, same.symm, fun _ member => not_infix_of_mem_extractFrom member⟩
  · rintro ⟨turns, rfl, unclosed⟩
    rw [canonical, (extract_render_iff turns).mpr unclosed]

/-- Whatever is left open, nested or broken off in a text, the turns that are read from it are read
again from their own transcript. That transcript is the canonical form of the text: it stays as it is
when it is read and written once more, two texts have it in common exactly if they hold the same
turns, and it can be any transcript whose contents do not close their own segments. -/
theorem extraction_stable (text : String) :
    extract (render (extract text)) = extract text ∧
    canonical (canonical text) = canonical text ∧
    (∀ other, canonical other = canonical text ↔ extract other = extract text) ∧
    (canonical text = text ↔
      ∃ turns, text = render turns ∧ ∀ turn ∈ turns, ¬ turn.role.closingTag <:+: turn.content.toList) := by
  have read := extract_canonical text
  refine ⟨read, congrArg render read, fun other => ⟨fun same => ?_, congrArg render⟩,
    canonical_eq_self_iff text⟩
  calc extract other
    _ = extract (canonical other) := (extract_canonical other).symm
    _ = extract (canonical text) := by rw [same]
    _ = extract text := read

example : canonical "a</user~><user~><system~>b</user~>c</system~><assistant~>d" = "<user~><system~>b</user~>" := by
  decide +kernel

end Transcript

end PromptKernel
