import PromptKernel.Proofs.LeftmostSegments

/-! Reading a transcript with a cursor that counts bytes. A round looks for the next opening tag behind the
cursor and for the closing tag of its role behind that, and moves the cursor behind the closing tag, or by one
byte into a tag that is never closed. The cursor and all borders of contents fall between characters, each
round moves the cursor on, and the turns are those that reading the characters one by one finds. -/

namespace PromptKernel

/-- The text between two bytes. There is none unless both fall between characters, in this order. -/
def Text.slice? (text : String) (start stop : Nat) : Option String :=
  if valid : String.Pos.Raw.IsValid text ⟨start⟩ ∧ String.Pos.Raw.IsValid text ⟨stop⟩ ∧ start ≤ stop then
    some (text.extract (text.pos ⟨start⟩ valid.1) (text.pos ⟨stop⟩ valid.2.1))
  else none

theorem Text.slice?_append (before inside after : String) : slice? (before ++ (inside ++ after))
    before.utf8ByteSize (before.utf8ByteSize + inside.utf8ByteSize) = some inside := by
  have start : String.Pos.Raw.IsValid (before ++ (inside ++ after)) ⟨before.utf8ByteSize⟩ :=
    String.Pos.Raw.isValid_iff_exists_append.mpr ⟨before, inside ++ after, rfl, rfl⟩
  have stop : String.Pos.Raw.IsValid (before ++ (inside ++ after)) ⟨before.utf8ByteSize + inside.utf8ByteSize⟩ := by
    refine String.Pos.Raw.isValid_iff_exists_append.mpr ⟨before ++ inside, after, (String.append_assoc ..).symm, ?_⟩
    simp [String.Pos.Raw.ext_iff]
  rw [slice?, dif_pos ⟨start, stop, Nat.le_add_right _ _⟩]
  apply congrArg some
  apply String.toByteArray_inj.mp
  simp only [String.toByteArray_extract, String.toByteArray_append, String.offset_pos, ← String.size_toByteArray]
  exact (ByteArray.extract_append_size_add (i := 0)).trans (ByteArray.extract_append_eq_left rfl)

namespace Transcript

/-- The first opening tag of a text: the characters in front of it, and its role. -/
def firstTag? : List Char → Option (List Char × Role)
  | [] => none
  | c :: text =>
    match openingTag? (c :: text) with
    | some (role, _) => some ([], role)
    | none => (firstTag? text).map fun (before, role) => (c :: before, role)

def bytes (text : List Char) : Nat := (String.ofList text).utf8ByteSize

/-- A cursor in front of a byte, with the turns that were read on the way. -/
structure Cursor where
  offset : Nat := 0
  turns : List Turn := []

inductive Round
  | finished
  | next (cursor : Cursor)
  /-- Some offset is inside of a character or outside of the text. -/
  | astray

def Cursor.round (text : String) (cursor : Cursor) : Round :=
  match Text.slice? text cursor.offset text.utf8ByteSize with
  | none => .astray
  | some ahead =>
    match firstTag? ahead.toList with
    | none => .finished
    | some (before, role) =>
      let start := cursor.offset + bytes before
      let bodyStart := start + bytes role.openingTag
      match Text.slice? text bodyStart text.utf8ByteSize with
      | none => .astray
      | some body =>
        match Text.cut? role.closingTag body.toList with
        | none => .next ⟨start + 1, cursor.turns⟩
        | some (inside, _) =>
          let bodyEnd := bodyStart + bytes inside
          match Text.slice? text bodyStart bodyEnd with
          | none => .astray
          | some content => .next ⟨bodyEnd + bytes role.closingTag, cursor.turns ++ [⟨role, content⟩]⟩

/-- Rounds until no tag is left, as far as a number of them is enough. -/
def Cursor.rounds (text : String) : Nat → Cursor → Option (List Turn)
  | 0, _ => none
  | limit + 1, cursor =>
    match cursor.round text with
    | .astray => none
    | .finished => some cursor.turns
    | .next cursor => rounds text limit cursor

theorem not_opens_of_untagged {text : List Char} (untagged : openingTag? text = none) (role : Role) :
    ¬Opens role text := by
  rintro ⟨body, whole, -⟩
  rw [openingTag?_eq_some_iff.mpr whole] at untagged
  cases untagged

theorem extractFrom_of_firstTag?_eq_none {text : List Char} (none_left : firstTag? text = none) :
    extractFrom text = [] := by
  induction text with
  | nil => rw [extractFrom]
  | cons c text ih =>
    rw [firstTag?] at none_left
    split at none_left
    next => cases none_left
    next untagged =>
      rw [extractFrom_cons (not_opens_of_untagged untagged)]
      exact ih (Option.map_eq_none_iff.mp none_left)

/-- Nothing is read in front of the first tag. -/
theorem extractFrom_of_firstTag? {text before : List Char} {role : Role} (found : firstTag? text = some (before, role)) :
    ∃ body, text = before ++ (role.openingTag ++ body) ∧ extractFrom text = extractFrom (role.openingTag ++ body) := by
  induction text generalizing before with
  | nil => cases found
  | cons c text ih =>
    rw [firstTag?] at found
    split at found
    next role' body tagged =>
      cases found
      have whole := openingTag?_eq_some_iff.mp tagged
      exact ⟨body, whole, by rw [whole]⟩
    next untagged =>
      obtain ⟨⟨before', role'⟩, later, same⟩ := Option.map_eq_some_iff.mp found
      cases same
      obtain ⟨body, whole, read⟩ := ih later
      exact ⟨body, by rw [whole]; rfl, by rw [extractFrom_cons (not_opens_of_untagged untagged), read]⟩

theorem bytes_append (text more : List Char) : bytes (text ++ more) = bytes text + bytes more := by
  simp [bytes]

theorem bytes_toList (text : String) : bytes text.toList = text.utf8ByteSize := by
  simp [bytes]

theorem slice?_to_end (before rest : String) :
    Text.slice? (before ++ rest) before.utf8ByteSize (before ++ rest).utf8ByteSize = some rest := by
  simpa using Text.slice?_append before rest ""

/-- All slices of a round that finds a tag are there, and the cursor moves behind the segment or into the tag. -/
theorem Cursor.round_of_firstTag? {behind ahead : String} {before body : List Char} {role : Role}
    (found : firstTag? ahead.toList = some (before, role)) (whole : ahead.toList = before ++ (role.openingTag ++ body))
    (turns : List Turn) : Cursor.round (behind ++ ahead) ⟨behind.utf8ByteSize, turns⟩ =
      match Text.cut? role.closingTag body with
      | none => .next ⟨behind.utf8ByteSize + bytes before + 1, turns⟩
      | some (inside, _) =>
        .next ⟨behind.utf8ByteSize + bytes (before ++ (role.openingTag ++ (inside ++ role.closingTag))),
          turns ++ [⟨role, String.ofList inside⟩]⟩ := by
  have split : behind ++ ahead =
      (behind ++ String.ofList before ++ String.ofList role.openingTag) ++ String.ofList body := by
    rw [← String.toList_inj, String.toList_append, whole]
    simp
  have body_start : behind.utf8ByteSize + bytes before + bytes role.openingTag =
      (behind ++ String.ofList before ++ String.ofList role.openingTag).utf8ByteSize := by
    simp only [bytes, String.utf8ByteSize_append]
  unfold Cursor.round
  rw [slice?_to_end]
  dsimp only
  rw [found]
  dsimp only
  rw [body_start, split, slice?_to_end]
  dsimp only
  rw [String.toList_ofList]
  cases cut : Text.cut? role.closingTag body with
  | none => rfl
  | some result =>
    obtain ⟨inside, rest⟩ := result
    have inner : String.ofList body =
        String.ofList inside ++ (String.ofList role.closingTag ++ String.ofList rest) := by
      rw [Text.eq_append_of_cut? cut]
      simp
    have content := Text.slice?_append (behind ++ String.ofList before ++ String.ofList role.openingTag)
      (String.ofList inside) (String.ofList role.closingTag ++ String.ofList rest)
    rw [← inner] at content
    dsimp only [bytes] at content ⊢
    rw [content]
    simp only [String.ofList_append, String.utf8ByteSize_append, Nat.add_assoc]

/-- The cursor stands in front of the text that is ahead, and what was read there completes the turns. -/
structure Cursor.Reaches (text : String) (cursor : Cursor) (ahead : String) : Prop where
  place : ∃ behind, text = behind ++ ahead ∧ cursor.offset = behind.utf8ByteSize
  turns : cursor.turns ++ extractFrom ahead.toList = extract text

namespace Cursor.Reaches
variable {text ahead : String} {cursor : Cursor}

/-- Less is ahead once some characters are passed. -/
theorem pass {behind ahead : String} {rest : List Char} {turns : List Turn} (passed : List Char)
    (whole : ahead.toList = passed ++ rest) (nonempty : 0 < bytes passed)
    (read : turns ++ extractFrom rest = extract (behind ++ ahead)) :
    Reaches (behind ++ ahead) ⟨behind.utf8ByteSize + bytes passed, turns⟩ (String.ofList rest) ∧
      (String.ofList rest).utf8ByteSize < ahead.utf8ByteSize := by
  refine ⟨⟨⟨behind ++ String.ofList passed, ?_, ?_⟩, by rwa [String.toList_ofList]⟩, ?_⟩
  · rw [← String.toList_inj, String.toList_append, whole]
    simp
  · simp only [bytes, String.utf8ByteSize_append]
  · rw [← bytes_toList ahead, whole, bytes_append]
    exact Nat.lt_add_of_pos_left nonempty

/-- A round does not go astray, keeps the invariant, and leaves less ahead. -/
theorem round (reaches : cursor.Reaches text ahead) :
    (cursor.round text = .finished ∧ extractFrom ahead.toList = []) ∨
      ∃ next further, cursor.round text = .next next ∧ next.Reaches text further ∧
        further.utf8ByteSize < ahead.utf8ByteSize := by
  obtain ⟨offset, turns⟩ := cursor
  obtain ⟨⟨behind, rfl, rfl⟩, complete⟩ := reaches
  dsimp only at complete ⊢
  cases found : firstTag? ahead.toList with
  | none =>
    left
    refine ⟨?_, extractFrom_of_firstTag?_eq_none found⟩
    unfold Cursor.round
    rw [slice?_to_end]
    dsimp only
    rw [found]
  | some result =>
    right
    obtain ⟨before, role⟩ := result
    obtain ⟨body, whole, read⟩ := extractFrom_of_firstTag? found
    rw [read] at complete
    rw [Cursor.round_of_firstTag? found whole]
    cases cut : Text.cut? role.closingTag body with
    | none =>
      -- One byte is a whole character here, the angle that starts the tag.
      have never := not_opens_of_unclosed (Text.cut?_eq_none_iff.mp cut)
      rw [Role.openingTag_eq, List.cons_append] at never whole complete
      rw [extractFrom_cons never] at complete
      have one : bytes (before ++ ['<']) = bytes before + 1 := bytes_append before ['<']
      rw [Nat.add_assoc, ← one]
      refine ⟨_, _, rfl, pass _ ?_ ?_ complete⟩
      · rw [whole]
        simp
      · omega
    | some result =>
      obtain ⟨inside, rest⟩ := result
      have opened : openingTag? (role.openingTag ++ body) = some (role, body) := openingTag?_eq_some_iff.mpr rfl
      have segment : segment? (role.openingTag ++ body) = some (⟨role, String.ofList inside⟩, rest) := by
        simp [segment?, opened, cut]
      rw [extractFrom_of_leads (segment?_eq_some_iff.mp segment)] at complete
      have closing : 0 < bytes role.closingTag := by cases role <;> decide
      refine ⟨_, String.ofList rest, rfl, pass _ ?_ ?_ ?_⟩
      · rw [whole, Text.eq_append_of_cut? cut]
        simp
      · simp only [bytes_append]
        omega
      · rw [← complete, List.append_assoc]
        rfl

/-- Enough rounds read all turns. -/
theorem rounds {limit : Nat} (reaches : cursor.Reaches text ahead) (enough : ahead.utf8ByteSize < limit) :
    cursor.rounds text limit = some (extract text) := by
  induction limit generalizing cursor ahead with
  | zero => cases enough
  | succ limit ih =>
    rw [Cursor.rounds]
    rcases reaches.round with ⟨finished, nothing⟩ | ⟨next, further, moved, later, less⟩
    · rw [finished, ← reaches.turns, nothing, List.append_nil]
    · rw [moved]
      exact ih later (by omega)

end Cursor.Reaches

/-- The turns of a text are those of the only way to take segments from it, leftmost first. These segments stand
in the text one after another. None of their contents is closed early, and whatever is opened and closed begins
inside of one of them. A tag that is never closed changes nothing of what is read behind it. A cursor that
counts bytes reads the same turns, never leaves the borders of characters, and is done after at most one round
for each byte and one more. -/
theorem segments_taken_leftmost (text : String) : ∃ segments left,
    (∀ others more, Taken text.toList others more ↔ others = segments ∧ more = left) ∧
    extract text = segments.map Prod.snd ∧
    text.toList = spelled segments ++ left ∧
    (∀ segment ∈ segments, ¬segment.2.role.closingTag <:+: segment.2.content.toList) ∧
    (∀ before after (role : Role), text.toList = before ++ (role.openingTag ++ after) → role.closingTag <:+: after →
      ∃ earlier gap turn behind, segments = earlier ++ (gap, turn) :: behind ∧
        (spelled earlier ++ gap).length ≤ before.length ∧
        before.length < (spelled earlier ++ (gap ++ turn.tagged.toList)).length) ∧
    (∀ (role : Role) rest, ¬role.closingTag <:+: rest → extractFrom (role.openingTag ++ rest) = extractFrom rest) ∧
    Cursor.rounds text (text.utf8ByteSize + 1) {} = some (extract text) := by
  obtain ⟨segments, left, taken, turns⟩ := Taken.exists_of_text text.toList
  refine ⟨segments, left, ?_, turns.symm, taken.written, ?_, ?_, ?_, ?_⟩
  · intro others more
    constructor
    · exact taken.unique
    · rintro ⟨rfl, rfl⟩
      exact taken
  · intro segment member
    apply not_infix_of_mem_extractFrom
    rw [← turns]
    exact List.mem_map_of_mem member
  · intro before after role split closed
    exact taken.covers split ⟨after, rfl, closed⟩
  · intro role rest unclosed
    exact extractFrom_openingTag unclosed
  · have start : Cursor.Reaches text {} text := ⟨⟨"", by simp, rfl⟩, rfl⟩
    exact start.rounds (Nat.lt_succ_self _)

/-- A tag that is never closed, a tag of another role that is closed behind the segment it stands in, and
characters of more than one byte. -/
theorem segments_taken_leftmost_dangling :
    let text := "é<assistant~><user~>ä<system~></user~></system~>"
    let turns : List Turn := [⟨.user, "ä<system~>"⟩]
    text.toList = "é<assistant~><user~>ä".toList ++ (Role.system.openingTag ++ "</user~></system~>".toList) ∧
    Role.system.closingTag <:+: "</user~></system~>".toList ∧
    (∃ segments left, Taken text.toList segments left ∧ segments.map Prod.snd = turns ∧
      ∃ earlier gap turn behind, segments = earlier ++ (gap, turn) :: behind ∧ (spelled earlier ++ gap).length ≤ 21) ∧
    Cursor.rounds text 51 {} = some turns := by
  intro text turns
  have split : text.toList =
      "é<assistant~><user~>ä".toList ++ (Role.system.openingTag ++ "</user~></system~>".toList) := by
    decide +kernel
  have closed : Role.system.closingTag <:+: "</user~></system~>".toList := by decide +kernel
  have read : extract text = turns := by decide +kernel
  obtain ⟨segments, left, taken, same, -, -, covered, -, cursor⟩ := segments_taken_leftmost text
  obtain ⟨earlier, gap, turn, behind, found, low, -⟩ := covered _ _ _ split closed
  refine ⟨split, closed, ⟨segments, left, (taken _ _).mpr ⟨rfl, rfl⟩, same.symm.trans read, earlier, gap, turn, behind,
    found, low⟩, cursor.trans (congrArg some read)⟩

end Transcript

end PromptKernel
