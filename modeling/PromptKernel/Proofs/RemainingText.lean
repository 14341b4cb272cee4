import Mathlib.Data.List.Infix
import PromptKernel.Template.Piece
import PromptKernel.Template.Shorthand

/-! What is left of a text once something at its start was read. That is never more than there was, and a tag takes
at least its braces. A template is therefore read whole with fuel for each of its characters. -/

namespace PromptKernel.Template
open Shorthand

/-- If there is an outcome, what it leaves of a text has at most so many characters. -/
def LeavesAtMost (bound : Nat) (left : α → List Char) (outcome : Option α) : Prop :=
  ∀ value, outcome = some value → (left value).length ≤ bound

namespace LeavesAtMost
variable {bound larger : Nat} {left : α → List Char} {outcome : Option α}

theorem none : LeavesAtMost bound left none := nofun

theorem some {value : α} (short : (left value).length ≤ bound) : LeavesAtMost bound left (some value) := by
  intro _ same
  cases same
  exact short

theorem mono (short : LeavesAtMost bound left outcome) (more : bound ≤ larger) : LeavesAtMost larger left outcome :=
  fun value found => (short value found).trans more

theorem bind {remaining : β → List Char} {next : α → Option β} (first : LeavesAtMost bound left outcome)
    (rest : ∀ value, (left value).length ≤ bound → LeavesAtMost bound remaining (next value)) :
    LeavesAtMost bound remaining (outcome.bind next) := by
  intro value found
  obtain ⟨middle, begun, found⟩ := Option.bind_eq_some_iff.mp found
  exact rest middle (first middle begun) value found

theorem map {remaining : β → List Char} {change : α → β} (first : LeavesAtMost bound left outcome)
    (kept : ∀ value, remaining (change value) = left value) : LeavesAtMost bound remaining (outcome.map change) := by
  intro value found
  obtain ⟨middle, begun, rfl⟩ := Option.map_eq_some_iff.mp found
  rw [kept]
  exact first middle begun

theorem orElse {other : Option α} (first : LeavesAtMost bound left outcome) (second : LeavesAtMost bound left other) :
    LeavesAtMost bound left (outcome <|> other) := by
  cases outcome with
  | none => exact second
  | some value => exact first

end LeavesAtMost

theorem length_skipGap_le (text : List Char) : (skipGap text).length ≤ text.length := length_dropWhile_le isGap text

theorem length_of_skipGap {text rest : List Char} {c : Char} (same : skipGap text = c :: rest) :
    rest.length ≤ text.length := by
  have gap := length_skipGap_le text
  rw [same] at gap
  exact (Nat.le_succ _).trans gap

theorem length_of_expect? {expected : String} {text rest : List Char} (read : expect? expected text = some rest) :
    rest.length + expected.length = text.length := by
  obtain ⟨begins, same⟩ := Option.ite_none_right_eq_some.mp read
  cases same
  have short := (List.isPrefixOf_iff_prefix.mp begins).length_le
  rw [String.length_toList] at short
  rw [List.length_drop, Nat.sub_add_cancel short]

theorem expect?_leaves (expected : String) (text : List Char) :
    LeavesAtMost text.length id (expect? expected text) := by
  intro rest read
  have shorter := length_of_expect? read
  dsimp only [id]
  omega

theorem identifier?_leaves (text : List Char) : LeavesAtMost text.length Prod.snd (identifier? text) := by
  unfold identifier?
  dsimp only
  split
  · exact .none
  · exact .some (length_dropWhile_le isSymbol text)

/-! Paths. -/

theorem pathItem?_leaves (text : List Char) : LeavesAtMost text.length Prod.snd (pathItem? text) := by
  unfold pathItem?
  dsimp only
  split
  next inside =>
    have shorter := length_dropWhile_le (· != ']') inside
    split
    next bracket after same =>
      rw [same] at shorter
      exact .some ((Nat.le_of_succ_le shorter).trans (Nat.le_succ _))
    next => exact .none
  next => exact (identifier?_leaves text).map fun _ => rfl

theorem length_pathItems_le (fuel : Nat) (text : List Char) : (pathItems fuel text).2.length ≤ text.length := by
  induction fuel generalizing text with
  | zero => exact Nat.le_refl _
  | succ fuel ih =>
    unfold pathItems
    split
    next c rest =>
      split
      · split
        next first after found =>
          have shorter := pathItem?_leaves rest _ found
          exact (ih after).trans (shorter.trans (Nat.le_succ _))
        next => exact Nat.le_refl _
      · exact Nat.le_refl _
    next => exact Nat.le_refl _

theorem length_pathUps_le (text : List Char) : (pathUps text).2.length ≤ text.length := by
  fun_induction pathUps text with
  | case1 c rest separator ups after found ih =>
    rw [found] at ih
    simp only [List.length_cons] at ih ⊢
    omega
  | case2 => exact Nat.le_refl _
  | case3 => exact Nat.le_refl _

theorem length_skipCurrent_le (text : List Char) : (skipCurrent text).length ≤ text.length := by
  unfold skipCurrent
  split
  · simp only [List.length_cons]; omega
  · split
    · simp only [List.length_cons]; omega
    · exact Nat.le_refl _
  · exact Nat.le_refl _

theorem length_pathRoot_le (text : List Char) : (pathRoot text).2.length ≤ text.length := by
  unfold pathRoot
  split
  next c rest found =>
    split
    · exact (Nat.le_succ _).trans (expect?_leaves _ text _ found)
    · exact Nat.le_refl _
  next => exact Nat.le_refl _

theorem path?_leaves (text : List Char) : LeavesAtMost text.length Prod.snd (path? text) := by
  have start := (length_pathRoot_le (skipCurrent text)).trans (length_skipCurrent_le text)
  unfold path?
  dsimp only
  refine .bind ((pathItem?_leaves _).mono ((length_pathUps_le _).trans ?_)) fun item short => ?_
  · -- The sign of a variable of the engine may be in front of what is left.
    split
    next same =>
      rw [same] at start
      exact (Nat.le_succ _).trans start
    next => exact start
  · have items := (length_pathItems_le (item.2.length + 1) item.2).trans short
    split <;> exact .some items

/-! Literals. -/

theorem quotedEnd?_leaves (quote : Char) (fuel : Nat) (text : List Char) :
    LeavesAtMost text.length id (quotedEnd? quote fuel text) := by
  induction fuel generalizing text with
  | zero => exact .none
  | succ fuel ih =>
    unfold quotedEnd?
    split
    · exact .none
    · split
      · exact (ih _).mono (by simp only [List.length_cons]; omega)
      · exact .none
    · split
      · exact (ih _).mono (by simp only [List.length_cons]; omega)
      · exact .none
    · split
      · exact .some (Nat.le_succ _)
      · exact (ih _).mono (Nat.le_succ _)

theorem length_skipSign_le (text : List Char) : (skipSign text).length ≤ text.length := by
  unfold skipSign
  split
  · exact Nat.le_succ _
  · exact Nat.le_refl _

theorem length_skipFraction_le (text : List Char) : (skipFraction text).length ≤ text.length := by
  unfold skipFraction
  split
  · exact (length_dropWhile_le _ _).trans (Nat.le_succ _)
  · exact Nat.le_refl _

theorem length_skipExponent_le (text : List Char) : (skipExponent text).length ≤ text.length := by
  unfold skipExponent
  split
  · split
    · exact (length_dropWhile_le _ _).trans (by simp only [List.length_cons]; omega)
    · exact Nat.le_refl _
  · split
    · exact (length_dropWhile_le _ _).trans (by simp only [List.length_cons]; omega)
    · exact Nat.le_refl _
  · exact Nat.le_refl _

theorem numberEnd?_leaves (text : List Char) : LeavesAtMost text.length id (numberEnd? text) := by
  have integer := (length_dropWhile_le Char.isDigit _).trans (length_skipSign_le text)
  have short := (length_skipExponent_le _).trans ((length_skipFraction_le _).trans integer)
  unfold numberEnd?
  dsimp only
  split
  · exact .none
  · split
    · split
      · exact .none
      · exact .some short
    · exact .none

theorem wordEnd?_leaves (word : String) (text : List Char) : LeavesAtMost text.length id (wordEnd? word text) := by
  refine .bind (expect?_leaves word text) fun rest short => ?_
  split
  · exact .none
  · exact .some short

theorem LeavesAtMost.skipGap {bound : Nat} {outcome : Option (List Char)} (short : LeavesAtMost bound id outcome) :
    LeavesAtMost bound id (outcome.map skipGap) := by
  rw [Option.map_eq_bind]
  exact short.bind fun rest short => .some ((length_skipGap_le rest).trans short)

/-- With so much fuel no literal leaves more than there was. -/
structure LiteralsLeave (fuel : Nat) : Prop where
  literal : ∀ text, LeavesAtMost text.length id (literalEnd? fuel text)
  items : ∀ text, LeavesAtMost text.length id (itemsEnd? fuel text)
  members : ∀ text, LeavesAtMost text.length id (membersEnd? fuel text)

namespace LiteralsLeave
variable {fuel : Nat} (smaller : LiteralsLeave fuel) (text : List Char)
include smaller

theorem literal_succ : LeavesAtMost text.length id (literalEnd? (fuel + 1) text) := by
  unfold literalEnd?
  split
  · exact (quotedEnd?_leaves _ _ _).mono (Nat.le_succ _)
  · exact (quotedEnd?_leaves _ _ _).mono (Nat.le_succ _)
  next rest =>
    split
    next same => exact .some ((length_of_skipGap same).trans (Nat.le_succ _))
    next same =>
      have short := (length_skipGap_le _).trans (length_of_skipGap same)
      exact (smaller.items _).mono (short.trans (Nat.le_succ _))
    next => exact (smaller.items _).mono ((length_skipGap_le rest).trans (Nat.le_succ _))
  next rest =>
    split
    next same => exact .some ((length_of_skipGap same).trans (Nat.le_succ _))
    next => exact (smaller.members _).mono ((length_skipGap_le rest).trans (Nat.le_succ _))
  next =>
    split
    next found => exact .some (numberEnd?_leaves text _ found)
    next => exact (wordEnd?_leaves _ text).orElse ((wordEnd?_leaves _ text).orElse (wordEnd?_leaves _ text))

theorem items_succ : LeavesAtMost text.length id (itemsEnd? (fuel + 1) text) := by
  have item := (smaller.literal text).skipGap
  unfold itemsEnd?
  split
  next found => exact (smaller.items _).mono ((length_skipGap_le _).trans ((Nat.le_succ _).trans (item _ found)))
  next found => exact .some ((Nat.le_succ _).trans (item _ found))
  next => exact .none

theorem members_succ : LeavesAtMost text.length id (membersEnd? (fuel + 1) text) := by
  unfold membersEnd?
  dsimp only
  split
  next after found =>
    have key : (':' :: after).length ≤ text.length := by
      refine LeavesAtMost.skipGap ?_ _ found
      split
      · exact (quotedEnd?_leaves _ _ _).mono (Nat.le_succ _)
      · exact (quotedEnd?_leaves _ _ _).mono (Nat.le_succ _)
      · exact .none
    have short := (length_skipGap_le _).trans ((Nat.le_succ _).trans key)
    have value := ((smaller.literal _).skipGap).mono short
    split
    next found => exact (smaller.members _).mono ((length_skipGap_le _).trans ((Nat.le_succ _).trans (value _ found)))
    next found => exact .some ((Nat.le_succ _).trans (value _ found))
    next => exact .none
  next => exact .none

end LiteralsLeave

theorem literals_leave (fuel : Nat) : LiteralsLeave fuel := by
  induction fuel with
  | zero => exact ⟨fun _ => .none, fun _ => .none, fun _ => .none⟩
  | succ fuel smaller => exact ⟨smaller.literal_succ, smaller.items_succ, smaller.members_succ⟩

/-! Calls. -/

/-- With so much fuel neither parameters nor calls leave more than there was. -/
structure CallsLeave (fuel : Nat) : Prop where
  param : ∀ text, LeavesAtMost text.length Prod.snd (param? fuel text)
  call : ∀ text, LeavesAtMost text.length Prod.snd (call? fuel text)
  arguments : ∀ params hash text, LeavesAtMost text.length (fun read => read.2.2) (arguments? fuel params hash text)

namespace CallsLeave
variable {fuel : Nat} (smaller : CallsLeave fuel) (text : List Char)
include smaller

theorem param_succ : LeavesAtMost text.length Prod.snd (param? (fuel + 1) text) := by
  unfold param?
  split
  · exact .none
  · split
    next found =>
      have short := (literals_leave _).literal text _ found
      intro value read
      obtain ⟨literal, -, rfl⟩ := Option.map_eq_some_iff.mp read
      exact short
    next =>
      split
      next found => exact .some (path?_leaves text _ found)
      next => exact smaller.call text

theorem call_succ : LeavesAtMost text.length Prod.snd (call? (fuel + 1) text) := by
  intro value read
  unfold call? at read
  split at read
  next rest =>
    have start := (length_skipGap_le rest).trans (Nat.le_succ rest.length)
    dsimp only at read
    split at read
    next called =>
      cases read
      split at called
      next => cases called
      next name after found =>
        have short := (identifier?_leaves _ _ found).trans start
        split at called
        next given =>
          obtain ⟨-, called⟩ := Option.ite_none_left_eq_some.mp called
          split at called
          next same =>
            cases called
            exact (length_of_skipGap same).trans ((smaller.arguments _ _ _ _ given).trans short)
          next => cases called
        next => cases called
    next =>
      split at read
      next found =>
        split at read
        next same =>
          cases read
          exact (length_of_skipGap same).trans ((path?_leaves _ _ found).trans start)
        next => cases read
      next => cases read
  next => cases read

theorem arguments_succ (params : List Argument) (hash : Fields Argument) :
    LeavesAtMost text.length (fun read => read.2.2) (arguments? (fuel + 1) params hash text) := by
  have start := length_skipGap_le text
  intro value read
  unfold arguments? at read
  dsimp only at read
  split at read
  next named =>
    refine (smaller.arguments _ _ _ _ read).trans ?_
    split at named
    next => cases named
    next found =>
      split at named
      next behind same =>
        have short := (length_of_skipGap same).trans ((identifier?_leaves _ _ found).trans start)
        obtain ⟨given, parameter, same⟩ := Option.map_eq_some_iff.mp named
        cases same
        exact (smaller.param _ _ parameter).trans ((length_skipGap_le behind).trans short)
      next => cases named
  next =>
    split at read
    next found => exact (smaller.arguments _ _ _ _ read).trans ((smaller.param _ _ found).trans start)
    next =>
      cases read
      exact Nat.le_refl _

end CallsLeave

theorem calls_leave (fuel : Nat) : CallsLeave fuel := by
  induction fuel with
  | zero => exact ⟨fun _ => .none, fun _ => .none, fun _ _ _ => .none⟩
  | succ fuel smaller =>
    exact ⟨smaller.param_succ, smaller.call_succ, fun params hash text => smaller.arguments_succ text params hash⟩

theorem arguments?_leaves (fuel : Nat) (params : List Argument) (hash : Fields Argument) (text : List Char) :
    LeavesAtMost text.length (fun read => read.2.2) (arguments? fuel params hash text) :=
  (calls_leave fuel).arguments params hash text

theorem blockNames?_leaves (text : List Char) : LeavesAtMost text.length Prod.snd (line?.blockNames? text) := by
  have expected (word : String) (text : List Char) : LeavesAtMost text.length id (expect? word (skipGap text)) :=
    (expect?_leaves word _).mono (length_skipGap_le text)
  have named (text : List Char) : LeavesAtMost text.length Prod.snd (identifier? (skipGap text)) :=
    (identifier?_leaves _).mono (length_skipGap_le text)
  unfold line?.blockNames?
  refine .bind (expected "as" text) fun rest short => ?_
  refine .bind ((expected "|" rest).mono short) fun rest short => ?_
  refine .bind ((named rest).mono short) fun first short => ?_
  dsimp only
  split
  next found =>
    refine .bind ((expected "|" _).mono ((named _ _ found).trans short)) fun rest short => ?_
    exact .some short
  next =>
    refine .bind ((expected "|" _).mono short) fun rest short => ?_
    exact .some short

theorem line?_leaves (text : List Char) : LeavesAtMost text.length (fun read => read.2.2) (line? text) := by
  unfold line?
  refine .bind ((identifier?_leaves _).mono (length_skipGap_le text)) fun name short => ?_
  refine .bind ((arguments?_leaves _ _ _ name.2).mono short) fun read short => ?_
  dsimp only
  split
  next found => exact .some ((blockNames?_leaves _ _ found).trans short)
  next => exact .some short

theorem head?_leaves (text : List Char) : LeavesAtMost text.length Prod.snd (head? text) := by
  unfold head?
  split
  next found => exact .some ((calls_leave _).call text _ found)
  next => exact (path?_leaves text).map fun _ => rfl

theorem expression?_leaves (text : List Char) : LeavesAtMost text.length Prod.snd (expression? text) := by
  have start := length_skipGap_le text
  intro value read
  unfold expression? at read
  dsimp only at read
  split at read
  next called =>
    cases read
    split at called
    next => cases called
    next found =>
      have short := (identifier?_leaves _ _ found).trans start
      split at called
      next given =>
        obtain ⟨-, same⟩ := Option.ite_none_left_eq_some.mp called
        cases same
        exact (arguments?_leaves _ _ _ _ _ given).trans short
      next => cases called
  next => exact (head?_leaves _ value read).trans start

theorem partialName?_leaves (text : List Char) : LeavesAtMost text.length Prod.snd (partialName? text) := by
  unfold partialName?
  split
  next inside =>
    have shorter := length_dropWhile_le (· != '\'') inside
    split
    next same =>
      rw [same] at shorter
      split
      · exact .none
      · exact .some ((Nat.le_of_succ_le shorter).trans (Nat.le_succ _))
    next => exact .none
  next =>
    dsimp only
    split
    · exact .none
    · exact .some (List.drop_sublist _ _).length_le

theorem inclusion?_leaves (text : List Char) : LeavesAtMost text.length Prod.snd (inclusion? text) := by
  unfold inclusion?
  dsimp only
  split
  next found =>
    have named := (partialName?_leaves _ _ found).trans (length_skipGap_le text)
    exact .bind (.some named) fun head short => .bind ((arguments?_leaves _ _ _ _).mono short) fun _ short => .some short
  next =>
    exact .bind ((head?_leaves _).mono (length_skipGap_le text)) fun head short =>
      .bind ((arguments?_leaves _ _ _ _).mono short) fun _ short => .some short

/-! Tags. -/

theorem length_mark_le (text : List Char) : (mark text).2.length ≤ text.length := by
  unfold mark
  split
  next same => exact length_of_skipGap same
  next => exact length_skipGap_le text

theorem tagEnd?_leaves (closing : String) (text : List Char) :
    LeavesAtMost text.length Prod.snd (tagEnd? closing text) := by
  have start := (length_skipGap_le (mark text).2).trans (length_mark_le text)
  exact ((expect?_leaves closing _).mono start).map fun _ => rfl

theorem comment?_leaves (text : List Char) : LeavesAtMost text.length id (comment? text) := by
  have cut (pattern text : List Char) : LeavesAtMost text.length id ((Text.cut? pattern text).map Prod.snd) := by
    intro rest found
    obtain ⟨⟨before, after⟩, taken, rfl⟩ := Option.map_eq_some_iff.mp found
    have whole := congrArg List.length (Text.eq_append_of_cut? taken)
    simp only [List.length_append] at whole
    dsimp only [id]
    omega
  unfold comment?
  dsimp only
  have long : LeavesAtMost text.length id ((expect? "--" (skipGap text)).bind fun rest =>
      (Text.cut? ['-', '-', '\x7d', '\x7d'] rest).map Prod.snd) :=
    .bind ((expect?_leaves "--" _).mono (length_skipGap_le text)) fun rest short => (cut _ rest).mono short
  split
  next found => exact .some (long _ found)
  next => exact cut _ text

theorem length_closingName_le (text : List Char) : (closingName text).2.length ≤ text.length := by
  have gap := length_skipGap_le text
  unfold closingName
  dsimp only
  split
  · exact (List.drop_sublist _ _).length_le.trans gap
  · split
    next found => exact (partialName?_leaves _ _ found).trans gap
    next =>
      split
      next found => exact (path?_leaves _ _ found).trans gap
      next => exact gap

theorem otherwise?_leaves (text : List Char) : LeavesAtMost text.length (fun read => read.2.2) (otherwise? text) := by
  unfold otherwise?
  split
  next found => exact .some (tagEnd?_leaves _ text _ found)
  next =>
    refine .bind (line?_leaves text) fun line short => ?_
    refine .bind ((tagEnd?_leaves _ line.2.2).mono short) fun ended short => ?_
    exact .some short

theorem tagBody?_leaves (text : List Char) : LeavesAtMost text.length (fun read => read.2.2) (tagBody? text) := by
  have closed (kind : TagKind) (rest : List Char) (short : rest.length ≤ text.length) :
      LeavesAtMost text.length (fun read => read.2.2)
        ((tagEnd? "\x7d\x7d" rest).map fun ended => (kind, ended.1, ended.2)) :=
    ((tagEnd?_leaves _ rest).mono short).map fun _ => rfl
  unfold tagBody?
  dsimp only
  split
  next rest same =>
    have short := length_of_skipGap same
    split
    next same =>
      refine .bind ((line?_leaves _).mono ((length_of_skipGap same).trans short)) fun line short => ?_
      exact closed _ _ short
    next same =>
      refine .bind ((inclusion?_leaves _).mono ((length_of_skipGap same).trans short)) fun included short => ?_
      exact closed _ _ short
    next =>
      refine .bind ((line?_leaves _).mono ((length_skipGap_le rest).trans short)) fun line short => ?_
      exact closed _ _ short
  next same => exact closed _ _ ((length_closingName_le _).trans (length_of_skipGap same))
  next same =>
    refine .bind ((inclusion?_leaves _).mono (length_of_skipGap same)) fun included short => ?_
    exact closed _ _ short
  next same =>
    refine .bind ((line?_leaves _).mono (length_of_skipGap same)) fun line short => ?_
    exact closed _ _ short
  next rest same =>
    refine .bind ((head?_leaves _).mono ((length_skipGap_le rest).trans (length_of_skipGap same))) fun head short => ?_
    exact closed _ _ short
  next same => exact (otherwise?_leaves _).mono (length_of_skipGap same)
  next same =>
    refine .bind ((expression?_leaves _).mono (length_of_skipGap same)) fun inside short => ?_
    refine .bind ((expect?_leaves _ _).mono ((length_skipGap_le inside.2).trans short)) fun rest short => ?_
    exact closed _ _ short
  next =>
    have gap := length_skipGap_le text
    split
    next found =>
      obtain ⟨rest, word, found⟩ := Option.bind_eq_some_iff.mp found
      exact .some ((otherwise?_leaves rest _ found).trans ((expect?_leaves _ _ _ word).trans gap))
    next =>
      refine .bind ((expression?_leaves _).mono gap) fun inside short => ?_
      exact closed _ _ short

theorem rawTag?_leaves (text : List Char) : LeavesAtMost text.length Prod.snd (rawTag? text) := by
  have ended (trimBefore : Bool) (kind : TagKind) (rest : List Char) (short : rest.length ≤ text.length) :
      LeavesAtMost text.length Prod.snd ((tagEnd? "\x7d\x7d\x7d\x7d" rest).bind fun read =>
        some ((⟨kind, trimBefore, read.1⟩ : Tag), read.2)) :=
    .bind ((tagEnd?_leaves _ rest).mono short) fun _ short => .some short
  unfold rawTag?
  dsimp only
  split
  next rest same =>
    have inner := (length_skipGap_le rest).trans ((length_of_skipGap same).trans (length_mark_le text))
    have named : LeavesAtMost text.length Prod.snd ((identifier? (skipGap rest)).map fun read =>
        (TagKind.rawEnd read.1, read.2)) := ((identifier?_leaves _).mono inner).map fun _ => rfl
    exact .bind named fun read short => ended _ read.1 _ short
  next =>
    have start := (length_skipGap_le (mark text).2).trans (length_mark_le text)
    have opened : LeavesAtMost text.length Prod.snd ((line? (skipGap (mark text).2)).map fun read =>
        (TagKind.rawStart read.1 read.2.1, read.2.2)) := ((line?_leaves _).mono start).map fun _ => rfl
    exact .bind opened fun read short => ended _ read.1 _ short

/-- A tag takes at least its braces. -/
theorem length_of_tag? {text rest : List Char} {tag : Tag} (read : tag? text = some (tag, rest)) :
    rest.length < text.length := by
  have begins : ∃ expected inside, expect? expected text = some inside ∧ 0 < expected.length ∧
      rest.length ≤ inside.length := by
    unfold tag? at read
    split at read
    next inside found => exact ⟨_, inside, found, by decide, rawTag?_leaves inside _ read⟩
    next =>
      split at read
      next inside found =>
        obtain ⟨after, ended, same⟩ := Option.map_eq_some_iff.mp read
        cases same
        exact ⟨_, inside, found, by decide, comment?_leaves inside _ ended⟩
      next =>
        split at read
        next found =>
          cases read
          obtain ⟨inside, opened, found⟩ := Option.bind_eq_some_iff.mp found
          obtain ⟨⟨e, after⟩, inner, found⟩ := Option.bind_eq_some_iff.mp found
          obtain ⟨⟨trimAfter, last⟩, ended, same⟩ := Option.bind_eq_some_iff.mp found
          cases same
          have short := (expression?_leaves _ _ inner).trans (length_mark_le inside)
          exact ⟨_, inside, opened, by decide, (tagEnd?_leaves _ _ _ ended).trans short⟩
        next =>
          obtain ⟨inside, opened, read⟩ := Option.bind_eq_some_iff.mp read
          obtain ⟨⟨kind, trimAfter, after⟩, body, same⟩ := Option.bind_eq_some_iff.mp read
          cases same
          exact ⟨_, inside, opened, by decide, (tagBody?_leaves _ _ body).trans (length_mark_le inside)⟩
  obtain ⟨expected, inside, found, full, short⟩ := begins
  have shorter := length_of_expect? found
  omega

/-! Pieces. -/

theorem length_readText_le (braces : String) (fuel : Nat) (done text : List Char) :
    (readText braces fuel done text).2.length ≤ text.length := by
  induction fuel generalizing done text with
  | zero => exact Nat.le_refl _
  | succ fuel ih =>
    unfold readText
    split
    · exact Nat.le_refl _
    · split
      · exact Nat.le_refl _
      · exact (ih _ _).trans (by simp only [List.length_cons]; omega)
      · exact (ih _ _).trans (by simp only [List.length_cons]; omega)
      · dsimp only
        split
        · exact (ih _ _).trans ((length_dropWhile_le _ _).trans ((Nat.le_succ _).trans (Nat.le_succ _)))
        · exact (ih _ _).trans (Nat.le_succ _)
      · exact (ih _ _).trans (Nat.le_succ _)

/-- Fuel for each character is enough. -/
theorem pieces?_of_enough {fuel more : Nat} {text : List Char} (enough : text.length < fuel) (larger : fuel ≤ more)
    (lineOpen : Bool) : pieces? fuel lineOpen text = pieces? more lineOpen text := by
  induction fuel generalizing more lineOpen text with
  | zero => cases enough
  | succ fuel ih =>
    obtain ⟨more, rfl⟩ := Nat.exists_eq_succ_of_ne_zero (Nat.ne_of_gt (Nat.zero_lt_of_lt larger))
    have short := length_readText_le "\x7b\x7b" (text.length + 1) [] text
    unfold pieces?
    generalize readText "\x7b\x7b" (text.length + 1) [] text = split at short ⊢
    obtain ⟨plain, rest⟩ := split
    cases rest with
    | nil => rfl
    | cons c rest =>
      dsimp only at short ⊢
      cases found : tag? (c :: rest) with
      | none => rfl
      | some read =>
        obtain ⟨tag, after⟩ := read
        have shorter := length_of_tag? found
        have later {after : List Char} (less : after.length < (c :: rest).length) :
            pieces? fuel false after = pieces? more false after :=
          ih (by omega) (Nat.le_of_succ_le_succ larger) false
        dsimp only
        cases tag.kind with
        | rawStart e names =>
          dsimp only
          have inside := length_readText_le "\x7b\x7b\x7b\x7b" (after.length + 1) [] after
          have closing : LeavesAtMost after.length Prod.snd
              ((expect? "\x7b\x7b\x7b\x7b" (readText "\x7b\x7b\x7b\x7b" (after.length + 1) [] after).2).bind rawTag?) :=
            .bind ((expect?_leaves _ _).mono inside) fun rest short => (rawTag?_leaves rest).mono short
          split
          next closed => rw [later ((closing _ closed).trans_lt shorter)]
          next => rfl
        | rawEnd name => rfl
        | _ => rw [later shorter]

end PromptKernel.Template
