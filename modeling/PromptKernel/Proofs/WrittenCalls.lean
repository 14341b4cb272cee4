import PromptKernel.Proofs.TemplateReading
import PromptKernel.Proofs.WrittenJson
import PromptKernel.Proofs.WrittenNames

/-! Tags as templates write them. A name in quotes is read as itself unless it needs escapes, closing tags
are read by their names, and a tag for a call ends behind the last of its arguments. -/

namespace PromptKernel.Template

/-- Characters that stand for themselves in quotes. -/
def IsQuotable (name : List Char) : Prop := ∀ c ∈ name, c ≠ '"' ∧ c ≠ '\\' ∧ 32 ≤ c.toNat

instance (name : List Char) : Decidable (IsQuotable name) :=
  decidable_of_iff (name.all fun c => c ≠ '"' ∧ c ≠ '\\' ∧ 32 ≤ c.toNat) (by simp [IsQuotable])

instance (name : List Char) : Decidable (IsIdentifier name) :=
  decidable_of_iff (name ≠ [] ∧ name.all isSymbol) (by simp [IsIdentifier])

theorem quotedEnd?_append {name : List Char} (quotable : IsQuotable name) (rest : List Char) {fuel : Nat}
    (enough : name.length < fuel) : quotedEnd? '"' fuel (name ++ '"' :: rest) = some rest := by
  induction name generalizing fuel with
  | nil =>
    obtain ⟨fuel, rfl⟩ := Nat.exists_eq_succ_of_ne_zero (Nat.ne_of_gt enough)
    rfl
  | cons c name ih =>
    obtain ⟨fuel, rfl⟩ := Nat.exists_eq_succ_of_ne_zero (Nat.ne_of_gt (Nat.zero_lt_of_lt enough))
    obtain ⟨quote, escape, -⟩ := quotable c List.mem_cons_self
    have later := ih (fun d member => quotable d (List.mem_cons_of_mem c member)) (Nat.lt_of_succ_lt_succ enough)
    rw [List.cons_append]
    unfold quotedEnd?
    split
    next same => cases same
    next same => exact absurd (List.cons.inj same).1 escape
    next same => exact absurd (List.cons.inj same).1 escape
    next same =>
      obtain ⟨rfl, rfl⟩ := List.cons.inj same
      rw [if_neg quote, later]

theorem parseChars?_quoted {name : List Char} (quotable : IsQuotable name) :
    Json.parseChars? ('"' :: (name ++ ['"'])) = some (.string (String.ofList name)) := by
  have body : Json.readString? (name ++ ['"']) = some (String.ofList name, []) := by
    unfold Json.readString?
    have inside := RawJson.isInside_of_plain quotable
    rw [inside.readStringBody? [] (by simp only [List.length_append]; omega), List.reverse_nil, List.nil_append]
  have value : Json.readValue? (2 * ('"' :: (name ++ ['"'])).length + 2) Json.nestingLimit ('"' :: (name ++ ['"'])) =
      some (.string (String.ofList name), []) := by
    unfold Json.readValue?
    change (Json.readString? (name ++ ['"'])).map _ = _
    rw [body]
    rfl
  unfold Json.parseChars?
  rw [value]
  rfl

theorem param?_quoted {name : List Char} (quotable : IsQuotable name) (fuel : Nat) (rest : List Char) :
    param? (fuel + 1) ('"' :: (name ++ '"' :: rest)) = some (.literal (.string (String.ofList name)), rest) := by
  have apart : startsWithKeyword ('"' :: (name ++ '"' :: rest)) = false := rfl
  have ends : literalEnd? (('"' :: (name ++ '"' :: rest)).length + 1) ('"' :: (name ++ '"' :: rest)) = some rest := by
    unfold literalEnd?
    exact quotedEnd?_append quotable rest (by simp only [List.length_cons, List.length_append]; omega)
  have quoted : ('"' :: (name ++ '"' :: rest)).take (('"' :: (name ++ '"' :: rest)).length - rest.length) =
      '"' :: (name ++ ['"']) := by
    have split : '"' :: (name ++ '"' :: rest) = '"' :: (name ++ ['"']) ++ rest := by simp
    rw [split, List.length_append, Nat.add_sub_cancel, List.take_left]
  have value : literalValue? ('"' :: (name ++ ['"'])) = some (.string (String.ofList name)) :=
    parseChars?_quoted quotable
  unfold param?
  rw [apart, ends]
  dsimp only
  rw [quoted, value]
  rfl

theorem param?_of_close (fuel : Nat) (rest : List Char) : param? fuel ('\x7d' :: rest) = none := by
  cases fuel with
  | zero => rfl
  | succ fuel =>
    have uncalled : call? fuel ('\x7d' :: rest) = none := by cases fuel <;> rfl
    unfold param?
    rw [uncalled]
    rfl

theorem arguments?_of_close (fuel : Nat) (params : List Argument) (hash : Fields Argument) (rest : List Char) :
    arguments? (fuel + 1) params hash ('\x7d' :: rest) = some (params.reverse, hash, '\x7d' :: rest) := by
  have gap : skipGap ('\x7d' :: rest) = '\x7d' :: rest := rfl
  have unnamed : identifier? ('\x7d' :: rest) = none := rfl
  unfold arguments?
  simp only [gap, unnamed, param?_of_close]

theorem arguments?_quoted {name : List Char} (quotable : IsQuotable name) (fuel : Nat) (params : List Argument)
    (hash : Fields Argument) (rest : List Char) :
    arguments? (fuel + 2) params hash (' ' :: '"' :: (name ++ '"' :: rest)) =
      arguments? (fuel + 1) (.literal (.string (String.ofList name)) :: params) hash rest := by
  have gap : skipGap (' ' :: '"' :: (name ++ '"' :: rest)) = '"' :: (name ++ '"' :: rest) := rfl
  have unnamed : identifier? ('"' :: (name ++ '"' :: rest)) = none := rfl
  rw [arguments?]
  simp only [gap, unnamed, param?_quoted quotable]

theorem arguments?_named {key name : List Char} (legal : IsIdentifier key) (quotable : IsQuotable name) (fuel : Nat)
    (params : List Argument) (hash : Fields Argument) (rest : List Char) :
    arguments? (fuel + 2) params hash (' ' :: (key ++ '=' :: '"' :: (name ++ '"' :: rest))) =
      arguments? (fuel + 1) params (hash.insert (String.ofList key) (.literal (.string (String.ofList name)))) rest := by
  have gap : skipGap (' ' :: (key ++ '=' :: '"' :: (name ++ '"' :: rest))) = key ++ '=' :: '"' :: (name ++ '"' :: rest) := by
    obtain ⟨c, text, same, symbol⟩ := legal.exists_head ('=' :: '"' :: (name ++ '"' :: rest))
    rw [same]
    change skipGap (c :: text) = _
    exact skipGap_of_isSymbol symbol text
  have ends : EndsName ('=' :: '"' :: (name ++ '"' :: rest)) := by
    rintro c ⟨⟩
    exact ⟨by decide, by decide⟩
  have named := identifier?_append legal ends
  have tight (text : List Char) : skipGap ('=' :: text) = '=' :: text := rfl
  have quote (text : List Char) : skipGap ('"' :: text) = '"' :: text := rfl
  rw [arguments?]
  simp only [gap, named, tight, quote, param?_quoted quotable, Option.map_some]

theorem closingName_append {name : List Char} (legal : IsIdentifier name) (rest : List Char) :
    closingName (name ++ '\x7d' :: rest) = (some (String.ofList name), '\x7d' :: rest) := by
  have whole : (name ++ '\x7d' :: rest).takeWhile (fun c => isSymbol c || isPartialSymbol c) = name := by
    rw [List.takeWhile_append_of_pos (fun c member => by simp [legal.2 c member]),
      List.takeWhile_cons_of_neg (by decide), List.append_nil]
  have gap : skipGap (name ++ '\x7d' :: rest) = name ++ '\x7d' :: rest := by
    obtain ⟨c, text, same, symbol⟩ := legal.exists_head ('\x7d' :: rest)
    rw [same, skipGap_of_isSymbol symbol]
  have named : name.isEmpty = false := by simpa using legal.1
  simp only [closingName, gap, whole, named, Bool.not_false, if_true, List.drop_left]

theorem tag?_of_braces {text : List Char} {c : Char} (brace : c ≠ '\x7b') (bang : c ≠ '!') :
    tag? ('\x7b' :: '\x7b' :: c :: text) =
      (tagBody? (mark (c :: text)).2).map fun (kind, trimAfter, rest) => (⟨kind, (mark (c :: text)).1, trimAfter⟩, rest) := by
  have four : expect? "\x7b\x7b\x7b\x7b" ('\x7b' :: '\x7b' :: c :: text) = none := by
    simp [expect?, List.isPrefixOf, brace.symm]
  have comment : expect? "\x7b\x7b!" ('\x7b' :: '\x7b' :: c :: text) = none := by
    simp [expect?, List.isPrefixOf, bang.symm]
  have three : tripleTag? ('\x7b' :: '\x7b' :: c :: text) = none := by
    simp [tripleTag?, expect?, List.isPrefixOf, brace.symm]
  have two : expect? "\x7b\x7b" ('\x7b' :: '\x7b' :: c :: text) = some (c :: text) := by
    rfl
  unfold tag?
  simp only [four, comment, three, two, Option.bind_eq_bind, Option.bind_some]
  cases tagBody? (mark (c :: text)).2 <;> rfl

theorem tag?_close {name : List Char} (legal : IsIdentifier name) (rest : List Char) :
    tag? ('\x7b' :: '\x7b' :: '/' :: (name ++ '\x7d' :: '\x7d' :: rest)) =
      some (⟨.close (some (String.ofList name)), false, false⟩, rest) := by
  rw [tag?_of_braces (by decide) (by decide)]
  have unmarked (text : List Char) : mark ('/' :: text) = (false, '/' :: text) := rfl
  have gap (text : List Char) : skipGap ('/' :: text) = '/' :: text := rfl
  rw [unmarked]
  unfold tagBody?
  simp only [gap, closingName_append legal]
  rfl

theorem line?_of_named {name key value : List Char} (legal : IsIdentifier name) (identifier : IsIdentifier key)
    (quotable : IsQuotable value) (rest : List Char) :
    line? (name ++ ' ' :: (key ++ '=' :: '"' :: (value ++ '"' :: '\x7d' :: rest))) =
      some (⟨.name (String.ofList name), [], [(String.ofList key, .literal (.string (String.ofList value)))]⟩, [],
        '\x7d' :: rest) := by
  have ends : EndsName (' ' :: (key ++ '=' :: '"' :: (value ++ '"' :: '\x7d' :: rest))) := by
    rintro c ⟨⟩
    exact ⟨by decide, by decide⟩
  have gap : skipGap (name ++ ' ' :: (key ++ '=' :: '"' :: (value ++ '"' :: '\x7d' :: rest))) =
      name ++ ' ' :: (key ++ '=' :: '"' :: (value ++ '"' :: '\x7d' :: rest)) := by
    obtain ⟨c, text, same, symbol⟩ := legal.exists_head (' ' :: (key ++ '=' :: '"' :: (value ++ '"' :: '\x7d' :: rest)))
    rw [same, skipGap_of_isSymbol symbol]
  have unnamed : line?.blockNames? ('\x7d' :: rest) = none := rfl
  unfold line?
  simp only [gap, identifier?_append legal ends, arguments?_named identifier quotable, arguments?_of_close,
    Option.bind_eq_bind, Option.bind_some, unnamed]
  rfl

theorem tag?_blockStart {name key value : List Char} (legal : IsIdentifier name) (identifier : IsIdentifier key)
    (quotable : IsQuotable value) (rest : List Char) :
    tag? ('\x7b' :: '\x7b' :: '#' :: (name ++ ' ' :: (key ++ '=' :: '"' :: (value ++ '"' :: '\x7d' :: '\x7d' :: rest)))) =
      some (⟨.blockStart ⟨.name (String.ofList name), [],
        [(String.ofList key, .literal (.string (String.ofList value)))]⟩ [], false, false⟩, rest) := by
  have line := line?_of_named legal identifier quotable ('\x7d' :: rest)
  have unmarked (text : List Char) : mark ('#' :: text) = (false, '#' :: text) := rfl
  have gap (text : List Char) : skipGap ('#' :: text) = '#' :: text := rfl
  obtain ⟨c, text, same, symbol⟩ :=
    legal.exists_head (' ' :: (key ++ '=' :: '"' :: (value ++ '"' :: '\x7d' :: '\x7d' :: rest)))
  rw [tag?_of_braces (by decide) (by decide), unmarked]
  rw [same] at line ⊢
  unfold tagBody?
  simp only [gap, skipGap_of_isSymbol symbol]
  split
  next inside => exact absurd (List.cons.inj inside).1 (ne_of_isSymbol symbol (by decide))
  next inside => exact absurd (List.cons.inj inside).1 (ne_of_isSymbol symbol (by decide))
  next =>
    rw [line]
    rfl

/-! Tags for expressions. -/

theorem mark_of_isSymbol {c : Char} (symbol : isSymbol c = true) (text : List Char) :
    mark (c :: text) = (false, c :: text) := by
  unfold mark
  rw [skipGap_of_isSymbol symbol]
  split
  next same => exact absurd (List.cons.inj same).1 (ne_of_isSymbol symbol (by decide))
  next => rfl

/-- A tag that starts with a name holds an expression, unless it goes on with an else. -/
theorem tag?_of_isSymbol {c : Char} (symbol : isSymbol c = true) (other : c ≠ 'e') (text : List Char) :
    tag? ('\x7b' :: '\x7b' :: c :: text) = (do
      let (e, rest) ← expression? (c :: text)
      let (trimAfter, rest) ← tagEnd? "\x7d\x7d" rest
      return (⟨.output e, false, trimAfter⟩, rest)) := by
  have plain : (expect? "else" (c :: text)).bind otherwise? = none := by
    have missing : expect? "else" (c :: text) = none := by simp [expect?, List.isPrefixOf, other.symm]
    rw [missing]
    rfl
  rw [tag?_of_braces (ne_of_isSymbol symbol (by decide)) (ne_of_isSymbol symbol (by decide)), mark_of_isSymbol symbol]
  unfold tagBody?
  rw [skipGap_of_isSymbol symbol]
  split
  case h_8 =>
    rw [plain]
    dsimp only
    rcases expression? (c :: text) with _ | ⟨e, rest⟩
    · rfl
    · simp only [Option.bind_eq_bind, Option.bind_some]
      rcases tagEnd? "\x7d\x7d" rest with _ | ⟨trimAfter, rest⟩ <;> rfl
  all_goals next same => exact absurd (List.cons.inj same).1 (ne_of_isSymbol symbol (by decide))

theorem expression?_of_arguments {name rest after : List Char} {params : List Argument} {hash : Fields Argument}
    (legal : IsIdentifier name) (ends : EndsName rest)
    (read : arguments? (2 * rest.length + 2) [] [] rest = some (params, hash, after))
    (given : (params.isEmpty && List.isEmpty hash) = false) :
    expression? (name ++ rest) = some (⟨.name (String.ofList name), params, hash⟩, after) := by
  have item := identifier?_append legal ends
  obtain ⟨c, text, same, symbol⟩ := legal.exists_head rest
  rw [same] at item ⊢
  unfold expression?
  rw [skipGap_of_isSymbol symbol]
  simp only [item, read, given, Bool.false_eq_true, if_false]

theorem expression?_alone {name rest : List Char} (legal : IsIdentifier name) (compound : '_' ∈ name) :
    expression? (name ++ '\x7d' :: rest) =
      some (⟨.path (.steps (String.ofList name) [.key (String.ofList name)]), [], []⟩, '\x7d' :: rest) := by
  have ends : EndsName ('\x7d' :: rest) := by
    rintro c ⟨⟩
    exact ⟨by decide, by decide⟩
  have item := identifier?_append legal ends
  have alone := head?_append legal compound ends
  obtain ⟨c, text, same, symbol⟩ := legal.exists_head ('\x7d' :: rest)
  rw [same] at item alone ⊢
  unfold expression?
  rw [skipGap_of_isSymbol symbol]
  simp only [item, arguments?_of_close, alone]
  rfl

theorem tag?_of_expression {name rest after : List Char} {e : Expression} (legal : IsIdentifier name)
    (first : name.head? ≠ some 'e') (read : expression? (name ++ rest) = some (e, '\x7d' :: '\x7d' :: after)) :
    tag? ('\x7b' :: '\x7b' :: (name ++ rest)) = some (⟨.output e, false, false⟩, after) := by
  obtain ⟨c, text, rfl⟩ := List.exists_cons_of_ne_nil legal.1
  have other : c ≠ 'e' := fun same => first (congrArg some same)
  rw [List.cons_append] at read ⊢
  rw [tag?_of_isSymbol (legal.2 c List.mem_cons_self) other, read]
  rfl

theorem tag?_quoted {helper name : List Char} (legal : IsIdentifier helper) (first : helper.head? ≠ some 'e')
    (quotable : IsQuotable name) (rest : List Char) :
    tag? ('\x7b' :: '\x7b' :: (helper ++ ' ' :: '"' :: (name ++ '"' :: '\x7d' :: '\x7d' :: rest))) =
      some (⟨.output ⟨.name (String.ofList helper), [.literal (.string (String.ofList name))], []⟩, false, false⟩, rest) := by
  have ends : EndsName (' ' :: '"' :: (name ++ '"' :: '\x7d' :: '\x7d' :: rest)) := by
    rintro c ⟨⟩
    exact ⟨by decide, by decide⟩
  refine tag?_of_expression legal first (expression?_of_arguments legal ends ?_ rfl)
  rw [arguments?_quoted quotable, arguments?_of_close]
  rfl

theorem tag?_name {name : List Char} (legal : IsIdentifier name) (compound : '_' ∈ name) (first : name.head? ≠ some 'e')
    (rest : List Char) : tag? ('\x7b' :: '\x7b' :: (name ++ '\x7d' :: '\x7d' :: rest)) =
      some (⟨.output ⟨.path (.steps (String.ofList name) [.key (String.ofList name)]), [], []⟩, false, false⟩, rest) :=
  tag?_of_expression legal first (expression?_alone legal compound)

/-! Tags of raw blocks. -/

def rawOpening : Tag := ⟨.rawStart ⟨.name "raw", [], []⟩ [], false, false⟩

def rawClosing : Tag := ⟨.rawEnd "raw", false, false⟩

theorem tag?_rawOpening (rest : List Char) : tag? (Shorthand.Braces.four.opening ++ rest) = some (rawOpening, rest) := by
  let word := 'r' :: 'a' :: 'w' :: '\x7d' :: '\x7d' :: '\x7d' :: '\x7d' :: rest
  have opened : expect? "\x7b\x7b\x7b\x7b" (Shorthand.Braces.four.opening ++ rest) = some word := rfl
  have unmarked : mark word = (false, word) := rfl
  have gap : skipGap word = word := rfl
  unfold tag?
  rw [opened]
  dsimp only
  unfold rawTag?
  simp only [unmarked, gap]
  rfl

theorem rawTag?_rawClosing (rest : List Char) :
    (expect? "\x7b\x7b\x7b\x7b" (Shorthand.Braces.four.closing ++ rest)).bind rawTag? = some (rawClosing, rest) := by
  have opened : expect? "\x7b\x7b\x7b\x7b" (Shorthand.Braces.four.closing ++ rest) =
      some ('/' :: 'r' :: 'a' :: 'w' :: '\x7d' :: '\x7d' :: '\x7d' :: '\x7d' :: rest) := rfl
  rw [opened]
  rfl

theorem tag?_rawClosing (rest : List Char) : tag? (Shorthand.Braces.four.closing ++ rest) = some (rawClosing, rest) := by
  obtain ⟨text, opened, closed⟩ := Option.bind_eq_some_iff.mp (rawTag?_rawClosing rest)
  unfold tag?
  rw [opened]
  exact closed

end PromptKernel.Template
