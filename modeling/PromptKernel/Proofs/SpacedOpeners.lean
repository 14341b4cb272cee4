import PromptKernel.Proofs.MessageOpeners
import PromptKernel.Proofs.RemainingText
import PromptKernel.Proofs.WrittenCalls

/-! White space beside the sigils of opening tags. It makes no difference to the tag, and none to all of the
template, if the tags in front of it are read as themselves whatever follows them. -/

namespace PromptKernel.Template
open Shorthand

/-- White space inside of a tag. -/
def AreGaps (text : List Char) : Prop := ∀ c ∈ text, isGap c = true

theorem AreGaps.nil : AreGaps [] := List.forall_mem_nil _

theorem skipGap_append {gap : List Char} (gaps : AreGaps gap) (rest : List Char) :
    skipGap (gap ++ rest) = skipGap rest := List.dropWhile_append_of_pos gaps

/-- The start of an opening tag up to what follows its sigil, with all the white space that may stand there. -/
def openingStart (early : List Char) (trim : Bool) (before after : List Char) : List Char :=
  '\x7b' :: '\x7b' :: (early ++ (markOf trim ++ (before ++ '#' :: after)))

section
variable {early before after : List Char}

theorem mark_openingStart (clear : AreGaps early) (inner : AreGaps before) (trim : Bool) (rest : List Char) :
    (mark (early ++ (markOf trim ++ (before ++ '#' :: rest)))).1 = trim ∧
      skipGap (mark (early ++ (markOf trim ++ (before ++ '#' :: rest)))).2 = '#' :: rest := by
  unfold mark
  rw [skipGap_append clear]
  cases trim with
  | true => exact ⟨rfl, skipGap_append inner _⟩
  | false =>
    have start : skipGap (markOf false ++ (before ++ '#' :: rest)) = '#' :: rest := skipGap_append inner _
    rw [start]
    exact ⟨rfl, rfl⟩

theorem tagBody?_of_skipGap {text other : List Char} (same : skipGap text = skipGap other) :
    tagBody? text = tagBody? other := by
  unfold tagBody?
  rw [same]

theorem tagBody?_sigil {gap : List Char} (gaps : AreGaps gap) (rest : List Char) :
    tagBody? ('#' :: (gap ++ rest)) = tagBody? ('#' :: rest) := by
  have sigil (text : List Char) : skipGap ('#' :: text) = '#' :: text := rfl
  unfold tagBody?
  simp only [sigil, skipGap_append gaps]

/-- Neither a third brace nor the sign of a comment comes first. -/
theorem exists_head_openingStart (clear : AreGaps early) (inner : AreGaps before) (trim : Bool) (rest : List Char) :
    ∃ c text, early ++ (markOf trim ++ (before ++ '#' :: rest)) = c :: text ∧ c ≠ '\x7b' ∧ c ≠ '!' := by
  have apart {c : Char} (gap : isGap c = true) : c ≠ '\x7b' ∧ c ≠ '!' := by
    constructor <;> rintro rfl <;> exact absurd gap (by decide)
  rcases early with _ | ⟨c, early⟩
  · cases trim with
    | true => exact ⟨'~', _, rfl, by decide, by decide⟩
    | false =>
      rcases before with _ | ⟨c, before⟩
      · exact ⟨'#', _, rfl, by decide, by decide⟩
      · exact ⟨c, _, rfl, apart (inner c List.mem_cons_self)⟩
  · exact ⟨c, _, rfl, apart (clear c List.mem_cons_self)⟩

/-- The white space is not part of what is read. -/
theorem tag?_openingStart (clear : AreGaps early) (inner : AreGaps before) (gaps : AreGaps after) (trim : Bool)
    (rest : List Char) :
    tag? (openingStart early trim before after ++ rest) =
      (tagBody? ('#' :: rest)).map fun (kind, trimAfter, rest) => (⟨kind, trim, trimAfter⟩, rest) := by
  have whole : openingStart early trim before after ++ rest =
      '\x7b' :: '\x7b' :: (early ++ (markOf trim ++ (before ++ '#' :: (after ++ rest)))) := by simp [openingStart]
  obtain ⟨c, text, shape, brace, bang⟩ := exists_head_openingStart clear inner trim (after ++ rest)
  obtain ⟨marked, start⟩ := mark_openingStart clear inner trim (after ++ rest)
  have sigil : skipGap ('#' :: (after ++ rest)) = '#' :: (after ++ rest) := rfl
  rw [whole, shape, tag?_of_braces brace bang, ← shape, marked, tagBody?_of_skipGap (start.trans sigil.symm),
    tagBody?_sigil gaps]

end

/-- The second text is the first one, which starts with a tag, or the same tag with less white space beside its
sigil. -/
inductive Tightens : List Char → List Char → Prop
  | refl (text : List Char) : Tightens text text
  | opening (clear : AreGaps early) (inner : AreGaps before) (gaps : AreGaps after) (trim : Bool) (rest : List Char) :
      Tightens (openingStart early trim before after ++ rest) (openingStart [] trim [] [] ++ rest)

theorem Tightens.tag? {text other : List Char} (tightens : Tightens text other) (rest : List Char) :
    Template.tag? (other ++ rest) = Template.tag? (text ++ rest) := by
  cases tightens with
  | refl => rfl
  | opening clear inner gaps trim more =>
    rw [List.append_assoc, List.append_assoc, tag?_openingStart clear inner gaps, tag?_openingStart .nil .nil .nil]

theorem Tightens.braces {text other : List Char} (tightens : Tightens text other)
    (braces : ['\x7b', '\x7b'] <+: text) : ['\x7b', '\x7b'] <+: other := by
  cases tightens with
  | refl => exact braces
  | opening => exact List.prefix_append _ _

/-! Whole templates. -/

/-- The second template is the first one with less white space beside the sigils of some tags. The tags in front
of them are read as themselves, whatever follows. -/
inductive TightensTags : List Char → List Char → Prop
  | refl (text : List Char) : TightensTags text text
  | last (reads : ReadsText text plain) (braces : ['\x7b', '\x7b'] <+: rest) (tightens : Tightens rest other) :
      TightensTags (text ++ rest) (text ++ other)
  | tag (reads : ReadsText text plain) (braces : ['\x7b', '\x7b'] <+: opener) (tightens : Tightens opener other)
      (tagged : ∀ rest, tag? (opener ++ rest) = some (tag, rest)) (ordinary : tag.kind.isRaw = false)
      (later : TightensTags rest further) : TightensTags (text ++ (opener ++ rest)) (text ++ (other ++ further))
  | raw (reads : ReadsText text plain) (braces : ['\x7b', '\x7b'] <+: opener)
      (tagged : ∀ rest, tag? (opener ++ rest) = some (tag, rest)) (opens : tag.kind = .rawStart e names)
      (stays : StaysText ['\x7b', '\x7b', '\x7b', '\x7b'] body) (ends : ['\x7b', '\x7b', '\x7b', '\x7b'] <+: closer)
      (closed : ∀ rest, (expect? "\x7b\x7b\x7b\x7b" (closer ++ rest)).bind rawTag? =
        some (⟨.rawEnd name, trimBefore, trimAfter⟩, rest))
      (later : TightensTags rest further) :
      TightensTags (text ++ (opener ++ (body ++ (closer ++ rest)))) (text ++ (opener ++ (body ++ (closer ++ further))))

theorem startsOpenLine_append_braces (text : List Char) {rest other : List Char} (braces : ['\x7b', '\x7b'] <+: rest)
    (others : ['\x7b', '\x7b'] <+: other) : startsOpenLine (text ++ rest) = startsOpenLine (text ++ other) := by
  obtain ⟨rest, rfl⟩ := braces
  obtain ⟨other, rfl⟩ := others
  have full (more : List Char) : (text ++ (['\x7b', '\x7b'] ++ more)).isEmpty = false := by simp
  have drop (more : List Char) : (text ++ (['\x7b', '\x7b'] ++ more)).dropWhile isInlineBlank =
      if (text.dropWhile isInlineBlank).isEmpty then ['\x7b', '\x7b'] ++ more
      else text.dropWhile isInlineBlank ++ (['\x7b', '\x7b'] ++ more) := List.dropWhile_append
  unfold startsOpenLine
  rw [full, full, drop, drop]
  cases text.dropWhile isInlineBlank <;> rfl

namespace TightensTags
variable {text other : List Char}

theorem startsOpenLine (tightens : TightensTags text other) : startsOpenLine other = startsOpenLine text := by
  cases tightens with
  | refl => rfl
  | last _ braces tightens => exact startsOpenLine_append_braces _ (tightens.braces braces) braces
  | tag _ braces tightens =>
    exact startsOpenLine_append_braces _ ((tightens.braces braces).trans (List.prefix_append _ _))
      (braces.trans (List.prefix_append _ _))
  | raw _ braces =>
    exact startsOpenLine_append_braces _ (braces.trans (List.prefix_append _ _)) (braces.trans (List.prefix_append _ _))

/-- Where the last of the tags is read, the white space is all that is different. -/
theorem pieces?_of_last {rest plain : List Char} (reads : ReadsText text plain) (braces : ['\x7b', '\x7b'] <+: rest)
    (tightens : Tightens rest other) (fuel : Nat) (lineOpen : Bool) :
    pieces? fuel lineOpen (text ++ other) = pieces? fuel lineOpen (text ++ rest) := by
  have same := tightens.tag? []
  rw [List.append_nil, List.append_nil] at same
  cases fuel with
  | zero => rfl
  | succ fuel =>
    rw [pieces?, pieces?, reads _ braces, reads _ (tightens.braces braces)]
    obtain ⟨more, rfl⟩ := tightens.braces braces
    obtain ⟨tail, rfl⟩ := braces
    dsimp only [List.cons_append] at same ⊢
    rw [same]

theorem pieces? (tightens : TightensTags text other) (fuel : Nat) (lineOpen : Bool) :
    pieces? fuel lineOpen other = pieces? fuel lineOpen text := by
  induction tightens generalizing fuel lineOpen with
  | refl => rfl
  | last reads braces tightens => exact pieces?_of_last reads braces tightens fuel lineOpen
  | @tag text plain opener other tag rest further reads braces tightens tagged ordinary later ih =>
    cases fuel with
    | zero => rfl
    | succ fuel =>
      have found := reads _ (braces.trans (List.prefix_append opener rest))
      have other := reads _ ((tightens.braces braces).trans (List.prefix_append other further))
      rw [pieces?_of_tag other ((tightens.tag? further).trans (tagged further)) ordinary,
        pieces?_of_tag found (tagged rest) ordinary, ih, later.startsOpenLine]
  | @raw text plain opener tag e names body closer name trimBefore trimAfter rest further reads braces tagged opens
      stays ends closed later ih =>
    cases fuel with
    | zero => rfl
    | succ fuel =>
      have inside (rest : List Char) :
          readText "\x7b\x7b\x7b\x7b" ((body ++ (closer ++ rest)).length + 1) [] (body ++ (closer ++ rest)) =
            (body, closer ++ rest) :=
        readText_of_staysText (by decide) stays (ends.trans (List.prefix_append closer rest))
      have starts : ['\x7b', '\x7b'] <+: closer := List.IsPrefix.trans (by decide) ends
      have found (rest : List Char) := reads _ (braces.trans (List.prefix_append opener (body ++ (closer ++ rest))))
      rw [pieces?_of_raw (found further) (tagged _) opens (inside further) (closed further),
        pieces?_of_raw (found rest) (tagged _) opens (inside rest) (closed rest), ih, later.startsOpenLine,
        startsOpenLine_append_braces body (starts.trans (List.prefix_append closer further))
          (starts.trans (List.prefix_append closer rest))]

/-- The white space means nothing to the reader. -/
theorem ofChars? (tightens : TightensTags text other) : ofChars? other = ofChars? text := by
  -- The fuel is that for both texts together.
  have enough (text : List Char) (more : Nat) : Template.pieces? (text.length + 1) true text =
      Template.pieces? (text.length + more + 1) true text :=
    pieces?_of_enough (Nat.lt_succ_self _) (by omega) true
  unfold Template.ofChars?
  rw [enough text other.length, enough other text.length, Nat.add_comm other.length, tightens.pieces?]

end TightensTags

end PromptKernel.Template
