import Mathlib.Data.List.TakeWhile
import PromptKernel.Template.Shorthand

/-! Openers of message blocks in a text, with and without their sigils. An opener that is written in the way
that is looked for gets back the sigil that was left out. Beyond this, leaving sigils out neither makes nor
hides anything that is looked for in the text. -/

namespace PromptKernel.Template.Shorthand

def AreBlanks (text : List Char) : Prop := ∀ c ∈ text, Text.isBlank c = true

/-- What the first argument of an opener may start with. -/
def StartsArgument (c : Char) : Prop := Text.isBlank c = false ∧ c ≠ '\x7d' ∧ c ≠ '~'

def markOf (trim : Bool) : List Char := if trim then ['~'] else []

/-- An opener of a message block with its sigil, up to the first argument. -/
def signed (trim : Bool) (blanks : List Char) : List Char :=
  '\x7b' :: '\x7b' :: (markOf trim ++ '#' :: ("message".toList ++ blanks))

/-- An opener without its sigil, which may have blanks in the place of it. -/
def unsigned (trim : Bool) (gap blanks : List Char) : List Char :=
  '\x7b' :: '\x7b' :: (markOf trim ++ (gap ++ ("message".toList ++ blanks)))

theorem AreBlanks.takeWhile {blanks : List Char} (blank : AreBlanks blanks) {c : Char}
    (solid : Text.isBlank c = false) (rest : List Char) : (blanks ++ c :: rest).takeWhile Text.isBlank = blanks := by
  rw [List.takeWhile_append_of_pos blank, List.takeWhile_cons_of_neg (by simp [solid]), List.append_nil]

theorem AreBlanks.dropWhile {blanks : List Char} (blank : AreBlanks blanks) {c : Char}
    (solid : Text.isBlank c = false) (rest : List Char) : (blanks ++ c :: rest).dropWhile Text.isBlank = c :: rest := by
  rw [List.dropWhile_append_of_pos blank, List.dropWhile_cons_of_neg (by simp [solid])]

theorem AreBlanks.not_mem {blanks : List Char} (blank : AreBlanks blanks) {c : Char}
    (solid : Text.isBlank c = false) : c ∉ blanks := fun member => nomatch solid.symm.trans (blank c member)

theorem splitMark_markOf {trim : Bool} {text : List Char} (unmarked : ∀ rest, text ≠ '~' :: rest) :
    splitMark (markOf trim ++ text) = (markOf trim, text) := by
  cases trim with
  | true => rfl
  | false =>
    change splitMark text = _
    unfold splitMark
    split
    · next rest => exact absurd rfl (unmarked rest)
    · rfl

theorem bareOpener?_unsigned {gap blanks : List Char} (before : AreBlanks gap) (between : AreBlanks blanks)
    (apart : blanks ≠ []) {c : Char} (starts : StartsArgument c) (trim : Bool) (rest : List Char) :
    bareOpener? (unsigned trim gap blanks ++ c :: rest) = some (markOf trim, blanks ++ [c], rest) := by
  have unmarked : ∀ more, gap ++ ("message".toList ++ blanks ++ c :: rest) ≠ '~' :: more := by
    intro more same
    cases gap with
    | nil => cases same
    | cons d gap =>
      obtain ⟨rfl, -⟩ := List.cons.inj same
      exact absurd (before '~' List.mem_cons_self) (by decide)
  have word : (gap ++ ("message".toList ++ blanks ++ c :: rest)).dropWhile Text.isBlank =
      "message".toList ++ (blanks ++ c :: rest) := by
    rw [List.append_assoc]
    exact before.dropWhile (by decide) _
  have argument : argumentStart? (blanks ++ c :: rest) = some (blanks ++ [c], rest) := by
    unfold argumentStart?
    rw [between.takeWhile starts.1, between.dropWhile starts.1]
    simp [apart, starts.2.1, starts.2.2]
  have opened : Text.dropPrefix? ['\x7b', '\x7b'] (unsigned trim gap blanks ++ c :: rest) =
      some (markOf trim ++ (gap ++ ("message".toList ++ blanks ++ c :: rest))) := by
    rw [Text.dropPrefix?_eq_some_iff]
    simp [unsigned]
  have named : Text.dropPrefix? "message".toList ("message".toList ++ (blanks ++ c :: rest)) =
      some (blanks ++ c :: rest) :=
    Text.dropPrefix?_eq_some_iff.mpr rfl
  unfold bareOpener?
  simp only [opened, Option.bind_eq_bind, Option.bind_some, splitMark_markOf unmarked, word, named, argument]
  rfl

theorem exists_of_argumentStart? {text argument rest : List Char}
    (found : argumentStart? text = some (argument, rest)) :
    ∃ blanks c, AreBlanks blanks ∧ blanks ≠ [] ∧ StartsArgument c ∧ argument = blanks ++ [c] ∧
      text = blanks ++ c :: rest := by
  have whole : text.takeWhile Text.isBlank ++ text.dropWhile Text.isBlank = text := List.takeWhile_append_dropWhile
  unfold argumentStart? at found
  dsimp only at found
  split at found
  · cases found
  next c more same =>
    split at found
    · cases found
    next legal =>
      cases found
      rw [not_or, not_or, List.isEmpty_iff] at legal
      rw [same] at whole
      refine ⟨_, c, fun d member => List.mem_takeWhile_imp member, legal.1, ⟨?_, legal.2⟩, rfl, whole.symm⟩
      have stopped := List.head?_dropWhile_not Text.isBlank text
      rw [same] at stopped
      simpa using stopped

/-- What is found is an opener without its sigil. -/
theorem exists_of_bareOpener? {text mark argument rest : List Char}
    (found : bareOpener? text = some (mark, argument, rest)) :
    ∃ trim gap blanks c, AreBlanks gap ∧ AreBlanks blanks ∧ blanks ≠ [] ∧ StartsArgument c ∧
      text = unsigned trim gap blanks ++ c :: rest := by
  obtain ⟨inside, opened, found⟩ := Option.bind_eq_some_iff.mp found
  obtain ⟨after, word, found⟩ := Option.bind_eq_some_iff.mp found
  obtain ⟨⟨argument', rest'⟩, start, same⟩ := Option.bind_eq_some_iff.mp found
  cases same
  obtain ⟨blanks, c, blank, apart, starts, -, rfl⟩ := exists_of_argumentStart? start
  rw [Text.dropPrefix?_eq_some_iff] at opened word
  have whole : (splitMark inside).2.takeWhile Text.isBlank ++ (splitMark inside).2.dropWhile Text.isBlank =
    (splitMark inside).2 := List.takeWhile_append_dropWhile
  rw [word] at whole
  have marked : ∃ trim, inside = markOf trim ++ (splitMark inside).2 := by
    unfold splitMark
    split
    · exact ⟨true, rfl⟩
    · exact ⟨false, rfl⟩
  obtain ⟨trim, marked⟩ := marked
  have gap : AreBlanks ((splitMark inside).2.takeWhile Text.isBlank) :=
    fun d member => List.mem_takeWhile_imp member
  refine ⟨trim, _, blanks, c, gap, blank, apart, starts, ?_⟩
  have behind := marked.trans (congrArg (markOf trim ++ ·) whole.symm)
  rw [opened]
  exact (congrArg (['\x7b', '\x7b'] ++ ·) behind).trans (by simp [unsigned])

theorem bareOpener?_of_ne {c : Char} (other : c ≠ '\x7b') (text : List Char) : bareOpener? (c :: text) = none := by
  unfold bareOpener?
  rw [Text.dropPrefix?, if_neg (Ne.symm other)]
  rfl

theorem bareOpener?_brace_of_ne {c : Char} (other : c ≠ '\x7b') (text : List Char) :
    bareOpener? ('\x7b' :: c :: text) = none := by
  unfold bareOpener?
  rw [Text.dropPrefix?, if_pos rfl, Text.dropPrefix?, if_neg (Ne.symm other)]
  rfl

theorem bareOpener?_signed (trim : Bool) (blanks rest : List Char) :
    bareOpener? (signed trim blanks ++ rest) = none := by
  cases trim <;> rfl

theorem addSigils_cons_of_none {c : Char} {text : List Char} (plain : bareOpener? (c :: text) = none) :
    addSigils (c :: text) = c :: addSigils text := by
  rw [addSigils]
  split
  next found => rw [plain] at found; cases found
  next => rfl

theorem addSigils_append_of_not_mem {text : List Char} (plain : '\x7b' ∉ text) (rest : List Char) :
    addSigils (text ++ rest) = text ++ addSigils rest := by
  induction text with
  | nil => rfl
  | cons c text ih =>
    rw [List.mem_cons, not_or] at plain
    rw [List.cons_append, addSigils_cons_of_none (bareOpener?_of_ne (Ne.symm plain.1) _), ih plain.2]
    rfl

theorem brace_not_mem_signed {blanks : List Char} (between : AreBlanks blanks) (trim : Bool) :
    '\x7b' ∉ markOf trim ++ '#' :: ("message".toList ++ blanks) := by
  have absent : '\x7b' ∉ blanks := between.not_mem (by decide)
  cases trim <;> simp [markOf, absent]

theorem addSigils_signed {blanks : List Char} (between : AreBlanks blanks) (trim : Bool) (rest : List Char) :
    addSigils (signed trim blanks ++ rest) = signed trim blanks ++ addSigils rest := by
  have second : bareOpener? ('\x7b' :: (markOf trim ++ '#' :: ("message".toList ++ blanks) ++ rest)) = none := by
    cases trim <;> exact bareOpener?_brace_of_ne (by decide) _
  have first :
      bareOpener? ('\x7b' :: '\x7b' :: (markOf trim ++ '#' :: ("message".toList ++ blanks) ++ rest)) = none :=
    bareOpener?_signed trim blanks rest
  change addSigils ('\x7b' :: '\x7b' :: (markOf trim ++ '#' :: ("message".toList ++ blanks) ++ rest)) = _
  rw [addSigils_cons_of_none first, addSigils_cons_of_none second,
    addSigils_append_of_not_mem (brace_not_mem_signed between trim)]
  rfl

/-- An opener without its sigil gets it back. -/
theorem addSigils_unsigned {gap blanks : List Char} (before : AreBlanks gap) (between : AreBlanks blanks)
    (apart : blanks ≠ []) {c : Char} (starts : StartsArgument c) (trim : Bool) (rest : List Char) :
    addSigils (unsigned trim gap blanks ++ c :: rest) = signed trim blanks ++ c :: addSigils rest := by
  have found := bareOpener?_unsigned before between apart starts trim rest
  change bareOpener?
    ('\x7b' :: ('\x7b' :: (markOf trim ++ (gap ++ ("message".toList ++ blanks))) ++ c :: rest)) = _ at found
  change addSigils ('\x7b' :: ('\x7b' :: (markOf trim ++ (gap ++ ("message".toList ++ blanks))) ++ c :: rest)) = _
  rw [addSigils]
  split
  next mark argument rest' same =>
    rw [found] at same
    cases same
    simp [signed]
  next missing => rw [found] at missing; cases missing

/-- The other text is the first one without the sigils of some openers. -/
inductive LeavesOut : List Char → List Char → Prop
  | nil : LeavesOut [] []
  | keep (plain : bareOpener? (c :: text) = none) (rest : LeavesOut text bare) : LeavesOut (c :: text) (c :: bare)
  /-- An opener that never had a sigil. -/
  | bare (before : AreBlanks gap) (between : AreBlanks blanks) (apart : blanks ≠ []) (starts : StartsArgument c)
      (rest : LeavesOut text bare) :
      LeavesOut (unsigned trim gap blanks ++ c :: text) (unsigned trim gap blanks ++ c :: bare)
  /-- The argument may not look like an opener itself. -/
  | leave (before : AreBlanks gap) (between : AreBlanks blanks) (apart : blanks ≠ []) (starts : StartsArgument c)
      (plain : bareOpener? (c :: text) = none) (rest : LeavesOut text bare) :
      LeavesOut (signed trim blanks ++ c :: text) (unsigned trim gap blanks ++ c :: bare)

theorem LeavesOut.refl (text : List Char) : LeavesOut text text := by
  induction text using addSigils.induct with
  | case1 => exact .nil
  | case2 c text mark argument rest found ih =>
    obtain ⟨trim, gap, blanks, d, before, between, apart, starts, same⟩ := exists_of_bareOpener? found
    rw [same]
    exact .bare before between apart starts ih
  | case3 c text plain ih => exact .keep plain ih

/-! What else is found in a text does not depend on the sigils. -/

/-- The beginnings of openers with and without sigils: two braces, and after them neither a brace nor a
slash nor the word of a raw block. -/
inductive IsStart : List Char → Prop
  | intro (brace : '\x7b' ∉ c :: tail) (slash : '/' ∉ c :: tail) (raw : c ≠ 'r')
      (word : c = '#' → ∃ more, tail = 'm' :: more) : IsStart ('\x7b' :: '\x7b' :: c :: tail)

/-- Two texts that differ in the beginnings of openers. -/
inductive Respells : List Char → List Char → Prop
  | nil : Respells [] []
  | keep (c : Char) (rest : Respells text other) : Respells (c :: text) (c :: other)
  | start (first : IsStart a) (second : IsStart b) (rest : Respells text other) : Respells (a ++ text) (b ++ other)

namespace Respells

theorem symm {text other : List Char} (respells : Respells text other) : Respells other text := by
  induction respells with
  | nil => exact .nil
  | keep c _ ih => exact .keep c ih
  | start first second _ ih => exact .start second first ih

theorem append_left (shared : List Char) {text other : List Char} (respells : Respells text other) :
    Respells (shared ++ text) (shared ++ other) := by
  induction shared with
  | nil => exact respells
  | cons c _ ih => exact .keep c ih

theorem append {text other more further : List Char} (respells : Respells text other)
    (rest : Respells more further) : Respells (text ++ more) (other ++ further) := by
  induction respells with
  | nil => exact rest
  | keep c _ ih => exact .keep c ih
  | start first second _ ih =>
    rw [List.append_assoc, List.append_assoc]
    exact .start first second ih

theorem head?_eq {text other : List Char} (respells : Respells text other) : text.head? = other.head? := by
  cases respells with
  | nil | keep _ _ => rfl
  | start first second _ =>
    cases first
    cases second
    rfl

end Respells

theorem isStart_signed {blanks : List Char} (between : AreBlanks blanks) (trim : Bool) :
    IsStart (signed trim blanks) := by
  have brace : '\x7b' ∉ blanks := between.not_mem (by decide)
  have slash : '/' ∉ blanks := between.not_mem (by decide)
  cases trim with
  | true => exact .intro (by simp [brace]) (by simp [slash]) (by decide) (fun impossible => by cases impossible)
  | false => exact .intro (by simp [brace]) (by simp [slash]) (by decide) (fun _ => ⟨_, rfl⟩)

theorem isStart_unsigned {gap blanks : List Char} (before : AreBlanks gap) (between : AreBlanks blanks)
    (trim : Bool) : IsStart (unsigned trim gap blanks) := by
  have brace : '\x7b' ∉ gap ++ ("message".toList ++ blanks) := by
    simp [before.not_mem (c := '\x7b') (by decide), between.not_mem (c := '\x7b') (by decide)]
  have slash : '/' ∉ gap ++ ("message".toList ++ blanks) := by
    simp [before.not_mem (c := '/') (by decide), between.not_mem (c := '/') (by decide)]
  cases trim with
  | true =>
    exact .intro (List.not_mem_cons_of_ne_of_not_mem (by decide) brace)
      (List.not_mem_cons_of_ne_of_not_mem (by decide) slash) (by decide) (fun impossible => by cases impossible)
  | false =>
    cases gap with
    | nil => exact .intro brace slash (by decide) (fun impossible => by cases impossible)
    | cons c gap =>
      have blank : Text.isBlank c = true := before c List.mem_cons_self
      exact .intro brace slash (by rintro rfl; exact absurd blank (by decide))
        (by rintro rfl; exact absurd blank (by decide))

theorem LeavesOut.respells {text bare : List Char} (left : LeavesOut text bare) : Respells text bare := by
  induction left with
  | nil => exact .nil
  | keep _ _ ih => exact .keep _ ih
  | bare _ _ _ _ _ ih => exact .append_left _ (.keep _ ih)
  | leave before between _ _ _ _ ih =>
    exact .start (isStart_signed between _) (isStart_unsigned before between _) (.keep _ ih)

/-- Whether the text could be, or begin, the beginning of an opener. -/
def meets : List Char → Bool
  | [] => false
  | [c] => c == '\x7b'
  | [c, d] => c == '\x7b' && d == '\x7b'
  | c :: d :: e :: rest =>
    c == '\x7b' && d == '\x7b' && e != '\x7b' && e != '/' && e != 'r' && (e != '#' || rest.head?.all (· == 'm'))

/-- No part of the pattern can be a part of the beginning of an opener that goes on behind the pattern. -/
def clear : List Char → Bool
  | [] => true
  | c :: pattern => !meets (c :: pattern) && clear pattern

theorem clear_of_not_mem {pattern : List Char} (absent : '\x7b' ∉ pattern) : clear pattern = true := by
  induction pattern with
  | nil => rfl
  | cons c pattern ih =>
    rw [List.mem_cons, not_or] at absent
    have other : meets (c :: pattern) = false := by
      rcases pattern with _ | ⟨d, _ | ⟨e, rest⟩⟩ <;> simp [meets, Ne.symm absent.1]
    simp [clear, other, ih absent.2]

theorem meets_of_start {start pattern rest more : List Char} (begins : IsStart start) (nonempty : pattern ≠ [])
    (same : pattern ++ rest = start ++ more) : meets pattern = true := by
  obtain ⟨brace, slash, raw, word⟩ := begins
  rcases pattern with _ | ⟨p, _ | ⟨q, _ | ⟨r, pattern⟩⟩⟩
  · exact absurd rfl nonempty
  · simp only [List.cons_append, List.cons.injEq] at same
    obtain ⟨rfl, -⟩ := same
    rfl
  · simp only [List.cons_append, List.cons.injEq] at same
    obtain ⟨rfl, rfl, -⟩ := same
    rfl
  · simp only [List.cons_append, List.cons.injEq] at same
    obtain ⟨rfl, rfl, rfl, same⟩ := same
    rw [List.mem_cons, not_or] at brace slash
    have tagged : r = '#' → pattern.head?.all (· == 'm') = true := by
      intro sigil
      obtain ⟨word, rfl⟩ := word sigil
      cases pattern with
      | nil => rfl
      | cons d pattern =>
        obtain ⟨rfl, -⟩ := List.cons.inj same
        rfl
    simp only [meets, beq_self_eq_true, Bool.and_true, Bool.true_and, bne_iff_ne, Bool.and_eq_true, Bool.or_eq_true]
    refine ⟨⟨⟨Ne.symm brace.1, Ne.symm slash.1⟩, raw⟩, ?_⟩
    exact or_iff_not_imp_left.mpr fun sigil => tagged (not_not.mp sigil)

/-- What a text starts with, the other one starts with, too. -/
theorem Respells.of_leading {pattern rest text other : List Char} (apart : clear pattern = true)
    (respells : Respells text other) (starts : text = pattern ++ rest) :
    ∃ more, other = pattern ++ more ∧ Respells rest more := by
  induction respells generalizing pattern with
  | nil =>
    obtain ⟨rfl, rfl⟩ := List.append_eq_nil_iff.mp starts.symm
    exact ⟨[], rfl, .nil⟩
  | keep c others ih =>
    cases pattern with
    | nil =>
      obtain rfl := starts
      exact ⟨_, rfl, .keep c others⟩
    | cons p pattern =>
      obtain ⟨rfl, later⟩ := List.cons.inj starts
      rw [clear, Bool.and_eq_true] at apart
      obtain ⟨more, rfl, related⟩ := ih apart.2 later
      exact ⟨more, rfl, related⟩
  | start first second others _ =>
    cases pattern with
    | nil =>
      obtain rfl := starts
      exact ⟨_, rfl, .start first second others⟩
    | cons p pattern =>
      rw [clear, meets_of_start first (List.cons_ne_nil p pattern) starts.symm] at apart
      cases apart

/-- Whether the text starts with a slash or with two braces. -/
def leads : List Char → Bool
  | '/' :: _ => true
  | '\x7b' :: '\x7b' :: _ => true
  | _ => false

theorem infix_of_infix_append {pattern text rest : List Char} (leading : leads pattern = true)
    (brace : '\x7b' ∉ text) (slash : '/' ∉ text) (inside : pattern <:+: text ++ rest) : pattern <:+: rest := by
  induction text with
  | nil => exact inside
  | cons c text ih =>
    rw [List.mem_cons, not_or] at brace slash
    rcases List.infix_cons_iff.mp inside with ⟨more, begun⟩ | later
    · unfold leads at leading
      split at leading
      · exact absurd (List.cons.inj begun).1 slash.1
      · exact absurd (List.cons.inj begun).1 brace.1
      · cases leading
    · exact ih brace.2 slash.2 later

theorem infix_of_infix_start {start pattern rest : List Char} (begins : IsStart start)
    (apart : clear pattern = true) (leading : leads pattern = true) (inside : pattern <:+: start ++ rest) :
    pattern <:+: rest := by
  have nonempty : pattern ≠ [] := by rintro rfl; cases leading
  have meets (more : List Char) (rest : List Char) (same : pattern ++ more = start ++ rest) : False := by
    obtain ⟨c, pattern, rfl⟩ := List.exists_cons_of_ne_nil nonempty
    rw [clear, meets_of_start begins nonempty same] at apart
    cases apart
  obtain ⟨brace, slash, -, -⟩ := begins
  rcases List.infix_cons_iff.mp inside with ⟨more, begun⟩ | inside
  · exact (meets more rest begun).elim
  · rcases List.infix_cons_iff.mp inside with ⟨more, begun⟩ | inside
    · unfold leads at leading
      split at leading
      · cases (List.cons.inj begun).1
      · exact absurd (List.cons.inj (List.cons.inj begun).2).1 (fun same => brace (same ▸ List.mem_cons_self))
      · cases leading
    · exact infix_of_infix_append leading brace slash inside

theorem Respells.infix_of_infix {pattern text other : List Char} (apart : clear pattern = true)
    (leading : leads pattern = true) (respells : Respells text other) (inside : pattern <:+: text) :
    pattern <:+: other := by
  induction respells with
  | nil => exact inside
  | keep c others ih =>
    rcases List.infix_cons_iff.mp inside with ⟨more, begun⟩ | later
    · obtain ⟨further, same, -⟩ := (Respells.keep c others).of_leading apart begun.symm
      exact (List.prefix_append pattern further).isInfix.trans (same ▸ List.infix_rfl)
    · exact List.infix_cons (ih later)
  | start first _ _ ih =>
    exact (ih (infix_of_infix_start first apart leading inside)).trans (List.suffix_append _ _).isInfix

/-- No opener comes about in front of a text that lost sigils. -/
theorem Respells.bareOpener? {c : Char} {text other : List Char} (respells : Respells text other)
    (plain : Shorthand.bareOpener? (c :: text) = none) : Shorthand.bareOpener? (c :: other) = none := by
  cases found : Shorthand.bareOpener? (c :: other) with
  | none => rfl
  | some result =>
    obtain ⟨trim, gap, blanks, d, before, between, apart, starts, same⟩ := exists_of_bareOpener? found
    obtain ⟨rfl, tail⟩ := List.cons.inj same
    have solid : '\x7b' ∉ markOf trim ++ (gap ++ ("message".toList ++ blanks)) := by
      have absent := before.not_mem (c := '\x7b') (by decide)
      have missing := between.not_mem (c := '\x7b') (by decide)
      cases trim <;> simp [markOf, absent, missing]
    obtain ⟨first, others, shape⟩ :
        ∃ first others, markOf trim ++ (gap ++ ("message".toList ++ blanks)) = first :: others := by
      cases trim <;> cases gap <;> exact ⟨_, _, rfl⟩
    have clean : clear ('\x7b' :: (markOf trim ++ (gap ++ ("message".toList ++ blanks)))) = true := by
      have later := clear_of_not_mem solid
      rw [shape] at solid later ⊢
      rw [List.mem_cons, not_or] at solid
      have other : meets ('\x7b' :: first :: others) = false := by
        cases others <;> simp [meets, Ne.symm solid.1]
      rw [clear, other, later]
      rfl
    obtain ⟨more, rfl, rest⟩ := respells.symm.of_leading clean tail
    obtain ⟨further, rfl⟩ := List.head?_eq_some_iff.mp rest.head?_eq.symm
    have opener := bareOpener?_unsigned before between apart starts trim further
    exact nomatch plain.symm.trans opener

theorem LeavesOut.addSigils {text bare : List Char} (left : LeavesOut text bare) :
    Shorthand.addSigils bare = Shorthand.addSigils text := by
  induction left with
  | nil => rfl
  | keep plain rest ih =>
    rw [addSigils_cons_of_none plain, addSigils_cons_of_none (rest.respells.bareOpener? plain), ih]
  | bare before between apart starts _ ih =>
    rw [addSigils_unsigned before between apart starts, addSigils_unsigned before between apart starts, ih]
  | leave before between apart starts plain _ ih =>
    rw [addSigils_unsigned before between apart starts, addSigils_signed between, addSigils_cons_of_none plain, ih]

end PromptKernel.Template.Shorthand
