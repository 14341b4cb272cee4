import Mathlib.Data.List.Infix
import PromptKernel.Template.Render

/-! Reading a template from left to right. Text is read up to the braces of the next tag, tags are read one
after the other, and every part of the tree stays where it was put. What is said of a place in a template
therefore needs nothing but that the reader comes to this place. -/

namespace PromptKernel.Template

/-- A text that is read whole in front of a tag: the braces of a tag do not start inside of it, and
no backslash in it keeps them from starting one. -/
structure StaysText (opening text : List Char) : Prop where
  unbroken : ¬ opening <:+: text ++ opening.dropLast
  unescaped : ¬ ['\\', '\x7b', '\x7b'] <:+: text ++ ['\x7b', '\x7b']

theorem StaysText.nil (opening : List Char) (nonempty : opening ≠ []) : StaysText opening [] where
  unbroken inside := by
    have short := inside.length_le
    rw [List.nil_append, List.length_dropLast] at short
    exact absurd short (by have := List.length_pos_iff.mpr nonempty; omega)
  unescaped inside := absurd inside.length_le (by decide)

namespace StaysText
variable {opening text : List Char} {c : Char} (stays : StaysText opening (c :: text)) (rest : List Char)
include stays

theorem tail : StaysText opening text where
  unbroken inside := stays.unbroken (List.infix_cons inside)
  unescaped inside := stays.unescaped (List.infix_cons inside)

theorem not_prefix : ¬ opening <+: c :: text ++ (opening ++ rest) := by
  intro begins
  have enough : c :: text ++ opening.dropLast <+: c :: text ++ (opening ++ rest) :=
    (List.prefix_append_right_inj _).mpr ((List.dropLast_prefix opening).trans (List.prefix_append _ _))
  have short : opening.length ≤ (c :: text ++ opening.dropLast).length := by
    simp
    omega
  exact stays.unbroken (List.prefix_of_prefix_length_le begins enough short).isInfix

variable (long : ['\x7b', '\x7b'] <+: opening)
include long

theorem not_escape : ¬ ['\\', '\x7b', '\x7b'] <+: c :: text ++ (opening ++ rest) := by
  intro begins
  have enough : c :: text ++ ['\x7b', '\x7b'] <+: c :: text ++ (opening ++ rest) :=
    (List.prefix_append_right_inj _).mpr (long.trans (List.prefix_append _ _))
  exact stays.unescaped (List.prefix_of_prefix_length_le begins enough (by simp)).isInfix

/-- Braces do not follow a row of backslashes either. -/
theorem not_escapes (mark : c = '\\') : ¬ ['\x7b', '\x7b'] <+: (text ++ (opening ++ rest)).dropWhile (· == '\\') := by
  induction text generalizing c with
  | nil =>
    intro _
    exact stays.unescaped (by simp [mark])
  | cons d text ih =>
    rw [List.cons_append, List.dropWhile_cons]
    split
    next same => exact ih stays.tail (by simpa using same)
    next =>
      intro begins
      subst mark
      have whole : ['\\', '\x7b', '\x7b'] <+: '\\' :: (d :: text) ++ (opening ++ rest) :=
        List.cons_prefix_cons.mpr ⟨rfl, begins⟩
      exact stays.not_escape rest long whole

end StaysText

theorem readText_append (opening : String) (long : ['\x7b', '\x7b'] <+: opening.toList) {text : List Char}
    (stays : StaysText opening.toList text) (rest : List Char) {fuel : Nat} (enough : text.length < fuel)
    (done : List Char) : readText opening fuel done (text ++ (opening.toList ++ rest)) =
      (done.reverse ++ text, opening.toList ++ rest) := by
  induction text generalizing fuel done with
  | nil =>
    obtain ⟨fuel, rfl⟩ := Nat.exists_eq_succ_of_ne_zero (Nat.ne_of_gt enough)
    unfold readText
    rw [if_pos (by simp)]
    simp
  | cons c text ih =>
    obtain ⟨fuel, rfl⟩ := Nat.exists_eq_succ_of_ne_zero (Nat.ne_of_gt (Nat.zero_lt_of_lt enough))
    have later := ih stays.tail (Nat.lt_of_succ_lt_succ enough) (c :: done)
    -- Inside of the text there is neither an opening nor a backslash in front of one.
    have apart := stays.not_prefix rest
    have plain := stays.not_escape rest long
    have many (mark : c = '\\') := stays.not_escapes rest long mark
    rw [List.cons_append] at apart plain ⊢
    generalize text ++ (opening.toList ++ rest) = tail at *
    rw [← List.isPrefixOf_iff_prefix] at apart
    unfold readText
    rw [if_neg apart]
    split
    next same => cases same
    next same =>
      obtain ⟨rfl, rfl⟩ := List.cons.inj same
      exact absurd (List.prefix_append ['\\', '\x7b', '\x7b'] _) plain
    next same =>
      obtain ⟨rfl, rfl⟩ := List.cons.inj same
      exact absurd (List.prefix_append ['\\', '\x7b', '\x7b'] _) plain
    next more same =>
      obtain ⟨rfl, rfl⟩ := List.cons.inj same
      have alone := many rfl
      rw [List.dropWhile_cons_of_pos (by simp), ← List.isPrefixOf_iff_prefix] at alone
      rw [if_neg alone, later]
      simp
    next same =>
      obtain ⟨rfl, rfl⟩ := List.cons.inj same
      rw [later]
      simp

/-- The text is all that is read in front of what opens a tag. -/
theorem readText_of_staysText {opening : String} (long : ['\x7b', '\x7b'] <+: opening.toList) {text rest : List Char}
    (stays : StaysText opening.toList text) (opens : opening.toList <+: rest) :
    readText opening ((text ++ rest).length + 1) [] (text ++ rest) = (text, rest) := by
  obtain ⟨more, rfl⟩ := opens
  exact readText_append opening long stays more (by simp only [List.length_append]; omega) []

/-! Pieces. -/

def textPieces (plain : List Char) : List Piece := if plain.isEmpty then [] else [.text plain]

/-- In front of a tag the text is read whole, with its escapes taken away. -/
def ReadsText (text plain : List Char) : Prop := ∀ rest, ['\x7b', '\x7b'] <+: rest →
  readText "\x7b\x7b" ((text ++ rest).length + 1) [] (text ++ rest) = (plain, rest)

theorem StaysText.readsText {text : List Char} (stays : StaysText ['\x7b', '\x7b'] text) : ReadsText text text :=
  fun _ braces => readText_of_staysText List.prefix_rfl stays braces

/-- Tags around the body of a raw block. -/
def TagKind.isRaw : TagKind → Bool
  | .rawStart _ _ | .rawEnd _ => true
  | _ => false

section
variable {text plain place behind : List Char} {tag : Tag}
  (read : readText "\x7b\x7b" (text.length + 1) [] text = (plain, place)) (tagged : tag? place = some (tag, behind))
include read tagged

/-- A text with a tag behind it, and what follows. -/
theorem pieces?_of_tag (ordinary : tag.kind.isRaw = false) (fuel : Nat) (lineOpen : Bool) :
    pieces? (fuel + 1) lineOpen text = (pieces? fuel false behind).map fun more =>
      textPieces plain ++ .tag tag (endsOpenLine lineOpen plain && startsOpenLine behind) (trailingBlanks plain) ::
        more := by
  cases place with
  | nil => cases tagged
  | cons c place =>
    rw [pieces?, read]
    dsimp only
    rw [tagged]
    dsimp only
    split
    next opens => rw [opens] at ordinary; cases ordinary
    next ends => rw [ends] at ordinary; cases ordinary
    next => rfl

/-- A text with a raw block behind it, and what follows. -/
theorem pieces?_of_raw {body closing rest : List Char} {e : Expression} {names : List String} {name : String}
    {trimBefore trimAfter : Bool} (opens : tag.kind = .rawStart e names)
    (inside : readText "\x7b\x7b\x7b\x7b" (behind.length + 1) [] behind = (body, closing))
    (closed : (expect? "\x7b\x7b\x7b\x7b" closing).bind rawTag? = some (⟨.rawEnd name, trimBefore, trimAfter⟩, rest))
    (fuel : Nat) (lineOpen : Bool) :
    pieces? (fuel + 1) lineOpen text = (pieces? fuel false rest).map fun more =>
      textPieces plain ++ .tag tag (endsOpenLine lineOpen plain && startsOpenLine behind) (trailingBlanks plain) ::
        .raw body :: .tag ⟨.rawEnd name, trimBefore, trimAfter⟩ (endsOpenLine false body && startsOpenLine rest) [] ::
          more := by
  cases place with
  | nil => cases tagged
  | cons c place =>
    rw [pieces?, read]
    dsimp only
    rw [tagged]
    dsimp only
    rw [opens]
    dsimp only
    rw [inside]
    dsimp only
    rw [closed]
    rfl

end

/-- Reading the text, the reader comes to what stands at the place. -/
inductive Reaches (place : List Char) : List Char → Prop
  | text (read : readText "\x7b\x7b" (text.length + 1) [] text = (plain, place)) : Reaches place text
  | tag (read : readText "\x7b\x7b" (text.length + 1) [] text = (plain, c :: rest))
      (tagged : tag? (c :: rest) = some (tag, after)) (ordinary : ∀ e names, tag.kind ≠ .rawStart e names)
      (later : Reaches place after) : Reaches place text
  | raw (read : readText "\x7b\x7b" (text.length + 1) [] text = (plain, c :: rest))
      (tagged : tag? (c :: rest) = some (tag, inside)) (opens : tag.kind = .rawStart e names)
      (body : readText "\x7b\x7b\x7b\x7b" (inside.length + 1) [] inside = (raw, closing))
      (closed : (expect? "\x7b\x7b\x7b\x7b" closing).bind rawTag? = some (close, after))
      (later : Reaches place after) : Reaches place text

/-- Pieces that lead up to a place are followed by those of the text there. -/
theorem Reaches.pieces {place text : List Char} (reaches : Reaches place text) {fuel : Nat} {lineOpen : Bool}
    {pieces : List Piece} (read : pieces? fuel lineOpen text = some pieces) :
    ∃ earlier later fuel lineOpen text plain, pieces = earlier ++ later ∧
      readText "\x7b\x7b" (text.length + 1) [] text = (plain, place) ∧
      pieces? (fuel + 1) lineOpen text = some later := by
  induction reaches generalizing fuel lineOpen pieces with
  | @text text plain found =>
    cases fuel with
    | zero => cases read
    | succ fuel => exact ⟨[], pieces, fuel, lineOpen, text, plain, rfl, found, read⟩
  | tag found tagged ordinary _ ih =>
    cases fuel with
    | zero => cases read
    | succ fuel =>
      unfold pieces? at read
      simp only [found, tagged] at read
      split at read
      next opens => exact absurd opens (ordinary _ _)
      next => cases read
      next =>
        obtain ⟨more, further, rfl⟩ := Option.map_eq_some_iff.mp read
        obtain ⟨earlier, later, fuel, lineOpen, text, plain, rfl, found, read⟩ := ih further
        exact ⟨_, later, fuel, lineOpen, text, plain, (List.append_assoc _ (_ :: earlier) later).symm, found, read⟩
  | raw found tagged opens body closed _ ih =>
    cases fuel with
    | zero => cases read
    | succ fuel =>
      unfold pieces? at read
      simp only [found, tagged, opens, body, closed] at read
      split at read
      next more same =>
        cases same
        obtain ⟨more, further, rfl⟩ := Option.map_eq_some_iff.mp read
        obtain ⟨earlier, later, fuel, lineOpen, text, plain, rfl, found, read⟩ := ih further
        exact ⟨_, later, fuel, lineOpen, text, plain, (List.append_assoc _ (_ :: _ :: _ :: earlier) later).symm,
          found, read⟩
      next => cases read

/-- What is settled of the pieces up to a place does not depend on what follows the first piece there. -/
theorem settle_append (earlier : List Piece) (spacing : Spacing) (piece : Piece) :
    ∃ tokens further, ∀ later, settle spacing (earlier ++ piece :: later) =
      tokens ++ settle further (piece :: later) := by
  induction earlier generalizing spacing with
  | nil => exact ⟨[], spacing, fun _ => rfl⟩
  | cons first earlier ih =>
    have lookahead (later : List Piece) : (earlier ++ piece :: later).head? = (earlier ++ [piece]).head? := by
      cases earlier <;> rfl
    cases first with
    | text s =>
      obtain ⟨tokens, further, same⟩ := ih (spacing.afterText s)
      exact ⟨_ :: tokens, further, fun later => by rw [List.cons_append, settle, lookahead, same]; rfl⟩
    | raw s =>
      obtain ⟨tokens, further, same⟩ := ih spacing
      exact ⟨_ :: tokens, further, fun later => by rw [List.cons_append, settle, lookahead, same]; rfl⟩
    | tag tag ownLine indent =>
      obtain ⟨tokens, further, same⟩ := ih (spacing.afterTag tag ownLine)
      exact ⟨_ :: tokens, further, fun later => by rw [List.cons_append, settle, same]; rfl⟩

/-! Trees. -/

namespace Nesting

/-- The elements that stand in no open tag, the last one first. -/
def outer (n : Nesting) : List Element :=
  match n.frames.getLast? with
  | none => n.inside
  | some frame => frame.outside

theorem outer_enter (n : Nesting) (opener : Opener) : (n.enter opener).outer = n.outer := by
  obtain ⟨inside, frames⟩ := n
  cases frames <;> rfl

theorem outer_add (n : Nesting) (element : Element) : n.outer <:+ (n.add element).outer := by
  obtain ⟨inside, frames⟩ := n
  cases frames with
  | nil => exact List.suffix_cons element inside
  | cons frame frames => exact List.suffix_rfl

theorem outer_branch? {n after : Nesting} {next : Option Branch} (done : n.branch? next = some after) :
    after.outer = n.outer := by
  unfold branch? at done
  split at done
  next branches branch outside frames same =>
    cases done
    unfold outer
    rw [same]
    cases frames <;> rfl
  next => cases done

theorem outer_leave? {n after : Nesting} {name : Option String} {isRaw : Bool}
    (done : n.leave? name isRaw = some after) : n.outer <:+ after.outer := by
  unfold leave? at done
  split at done
  · cases done
  next opener outside frames same =>
    obtain ⟨-, done⟩ := Option.ite_none_right_eq_some.mp done
    obtain ⟨element, -, rfl⟩ := Option.map_eq_some_iff.mp done
    unfold outer
    rw [same]
    cases frames with
    | nil => exact List.suffix_cons element outside
    | cons frame frames => exact List.suffix_rfl

theorem outer_step? {n after : Nesting} {token : Token} (done : n.step? token = some after) :
    n.outer <:+ after.outer := by
  unfold step? at done
  split at done
  · cases done
    split
    · exact List.suffix_rfl
    · exact outer_add n _
  · split at done
    · cases done; exact outer_add n _
    · cases done; rw [outer_enter]
    · cases done; rw [outer_enter]
    · exact outer_leave? done
    · exact outer_leave? done
    · rw [outer_branch? done]
    · rw [outer_branch? done]
    · cases done; exact outer_add n _
    · cases done; rw [outer_enter]
    · cases done; exact outer_add n _
    · cases done; rw [outer_enter]
    · cases done; exact List.suffix_rfl

/-- Nothing that was read is lost or moved by what is read later. -/
theorem outer_foldlM {tokens : List Token} {n after : Nesting} (done : tokens.foldlM step? n = some after) :
    n.outer <:+ after.outer := by
  induction tokens generalizing n with
  | nil => cases done; exact List.suffix_rfl
  | cons token tokens ih =>
    rw [List.foldlM_cons] at done
    obtain ⟨middle, first, rest⟩ := Option.bind_eq_some_iff.mp done
    exact (outer_step? first).trans (ih rest)

end Nesting

end PromptKernel.Template
