import PromptKernel.Json.Raw

/-! Documents as the grammar of JSON writes them, with blanks between any two parts, escapes of every kind and
numbers of any size. The reader takes back whatever is written this way, and every tree can be written. -/

namespace PromptKernel.RawJson

/-! Blanks. -/

def AreBlank (text : List Char) : Prop := ∀ c ∈ text, c ∈ [' ', '\n', '\t', '\r']

theorem skipBlanks_append {blanks : List Char} (blank : AreBlank blanks) (rest : List Char) :
    Json.skipBlanks (blanks ++ rest) = Json.skipBlanks rest := by
  apply List.dropWhile_append_of_pos
  intro c member
  simpa [or_assoc] using blank c member

theorem skipBlanks_cons {c : Char} (solid : c ∉ [' ', '\n', '\t', '\r']) (rest : List Char) :
    Json.skipBlanks (c :: rest) = c :: rest := by
  apply List.dropWhile_cons_of_neg
  simpa [not_or, and_assoc] using solid

/-! Numbers. -/

def AreDigits (text : List Char) : Prop := text ≠ [] ∧ ∀ c ∈ text, c.isDigit = true

inductive IsFraction : List Char → Prop
  | absent : IsFraction []
  | point {digits : List Char} (all : AreDigits digits) : IsFraction ('.' :: digits)

inductive IsPower : List Char → Prop
  | absent : IsPower []
  | mark {mark : Char} {sign digits : List Char} (marked : mark = 'e' ∨ mark = 'E')
    (signed : sign = [] ∨ sign = ['+'] ∨ sign = ['-']) (all : AreDigits digits) : IsPower (mark :: (sign ++ digits))

/-- A number of any size. A leading zero stands alone. -/
inductive IsNumber : List Char → Prop
  | mk {sign whole fraction power : List Char} (signed : sign = [] ∨ sign = ['-']) (digits : AreDigits whole)
    (leading : whole.head? = some '0' → whole.length = 1) (fractional : IsFraction fraction) (scaled : IsPower power) :
    IsNumber (sign ++ (whole ++ (fraction ++ power)))

/-- What follows a number without being part of it. -/
def EndsNumber (rest : List Char) : Prop :=
  ∀ c ∈ rest.head?, c.isDigit = false ∧ c ≠ '.' ∧ c ≠ 'e' ∧ c ≠ 'E'

theorem digits_append {digits rest : List Char} (all : ∀ c ∈ digits, c.isDigit = true)
    (stops : ∀ c ∈ rest.head?, c.isDigit = false) :
    (digits ++ rest).takeWhile Char.isDigit = digits ∧ (digits ++ rest).dropWhile Char.isDigit = rest := by
  have beyond : rest.takeWhile Char.isDigit = [] ∧ rest.dropWhile Char.isDigit = rest := by
    cases rest with
    | nil => exact ⟨rfl, rfl⟩
    | cons c rest => simp [stops c rfl]
  rw [List.takeWhile_append_of_pos all, List.dropWhile_append_of_pos all, beyond.1, beyond.2]
  exact ⟨List.append_nil _, rfl⟩

theorem AreDigits.startsWithDigit {digits : List Char} (all : AreDigits digits) (rest : List Char) :
    Json.startsWithDigit (digits ++ rest) = true := by
  obtain ⟨c, more, rfl⟩ := List.exists_cons_of_ne_nil all.1
  exact all.2 c List.mem_cons_self

theorem IsPower.endsFraction {power rest : List Char} (scaled : IsPower power) (ends : EndsNumber rest) :
    ∀ c ∈ (power ++ rest).head?, c.isDigit = false ∧ c ≠ '.' := by
  cases scaled with
  | absent =>
    intro c first
    exact ⟨(ends c first).1, (ends c first).2.1⟩
  | mark marked =>
    rintro c ⟨⟩
    rcases marked with rfl | rfl <;> decide

theorem IsPower.power? {power rest : List Char} (scaled : IsPower power) (ends : EndsNumber rest) :
    ∃ value, Json.power? (power ++ rest) = some (value, rest) := by
  cases scaled with
  | absent =>
    refine ⟨none, ?_⟩
    rw [List.nil_append]
    unfold Json.power?
    split
    next => exact absurd rfl (ends _ rfl).2.2.1
    next => exact absurd rfl (ends _ rfl).2.2.2
    next => rfl
  | @mark mark sign digits marked signed all =>
    obtain ⟨taken, left⟩ := digits_append all.2 (fun c first => (ends c first).1)
    have split : ∃ negative, Decimal.splitSign (sign ++ (digits ++ rest)) = (negative, digits ++ rest) := by
      obtain ⟨c, more, rfl⟩ := List.exists_cons_of_ne_nil all.1
      have digit : c.isDigit = true := all.2 c List.mem_cons_self
      rcases signed with rfl | rfl | rfl
      · refine ⟨false, ?_⟩
        rw [List.nil_append, List.cons_append]
        unfold Decimal.splitSign
        split
        next same => exact absurd digit (by rw [(List.cons.inj same).1]; decide)
        next same => exact absurd digit (by rw [(List.cons.inj same).1]; decide)
        next => rfl
      · exact ⟨false, rfl⟩
      · exact ⟨true, rfl⟩
    obtain ⟨negative, split⟩ := split
    have read : ∃ value, Json.exponent? (sign ++ (digits ++ rest)) = some (value, rest) := by
      unfold Json.exponent?
      rw [split]
      simp only [all.startsWithDigit, if_true, left]
      exact ⟨_, rfl⟩
    obtain ⟨value, read⟩ := read
    refine ⟨some value, ?_⟩
    rw [List.cons_append, List.append_assoc]
    rcases marked with rfl | rfl <;> simp [Json.power?, read]

theorem IsFraction.fraction? {fraction rest : List Char} (fractional : IsFraction fraction)
    (stops : ∀ c ∈ rest.head?, c.isDigit = false ∧ c ≠ '.') :
    ∃ digits, Json.fraction? (fraction ++ rest) = some (digits, rest) := by
  cases fractional with
  | absent =>
    refine ⟨[], ?_⟩
    rw [List.nil_append]
    unfold Json.fraction?
    split
    next => exact absurd rfl (stops _ rfl).2
    next => rfl
  | @point digits all =>
    obtain ⟨taken, left⟩ := digits_append all.2 (fun c first => (stops c first).1)
    refine ⟨digits, ?_⟩
    rw [List.cons_append]
    simp only [Json.fraction?, all.startsWithDigit, if_true, taken, left]

theorem IsNumber.passNumber? {text rest : List Char} (number : IsNumber text) (ends : EndsNumber rest) :
    passNumber? (text ++ rest) = some rest := by
  cases number with
  | @mk sign whole fraction power signed digits leading fractional scaled =>
    have ended := scaled.endsFraction ends
    obtain ⟨value, scaled⟩ := scaled.power? ends
    obtain ⟨places, read⟩ := fractional.fraction? ended
    have stops : ∀ c ∈ (fraction ++ (power ++ rest)).head?, c.isDigit = false := by
      cases fractional with
      | absent => exact fun c first => (ended c first).1
      | point => rintro c ⟨⟩; decide
    obtain ⟨taken, left⟩ := digits_append digits.2 stops
    have alone : ¬ (whole.isEmpty = true ∨ whole.head? = some '0' ∧ 1 < whole.length) := by
      rintro (none | ⟨zero, longer⟩)
      · exact digits.1 (List.isEmpty_iff.mp none)
      · exact absurd (leading zero) (Nat.ne_of_gt longer)
    have literal : Json.literal? (whole ++ (fraction ++ (power ++ rest))) = some (⟨whole, places, value⟩, rest) := by
      unfold Json.literal?
      rw [taken, left]
      simp only [if_neg alone, read, scaled, Option.pure_def, Option.bind_eq_bind, Option.bind_some]
    have unsigned : (Json.literal? (whole ++ (fraction ++ (power ++ rest)))).map Prod.snd = some rest := by
      rw [literal]
      rfl
    rw [List.append_assoc, List.append_assoc, List.append_assoc]
    rcases signed with rfl | rfl
    · obtain ⟨c, more, rfl⟩ := List.exists_cons_of_ne_nil digits.1
      have digit : c.isDigit = true := digits.2 c List.mem_cons_self
      unfold RawJson.passNumber?
      split
      next same => exact absurd digit (by rw [(List.cons.inj same).1]; decide)
      next => exact unsigned
    · exact unsigned

/-! Strings. -/

/-- How a string writes a character: as it is, by a letter or by number. -/
inductive IsPiece : List Char → Char → Prop
  | plain {c : Char} (quote : c ≠ '"') (escape : c ≠ '\\') (printable : 32 ≤ c.toNat) : IsPiece [c] c
  | letter {mark c : Char} (stands : Json.simpleEscape? mark = some c) : IsPiece ['\\', mark] c
  | number {digits : List Char} {code : Nat} (hexadecimal : Json.unit? digits = some (code, []))
    (whole : code < 0xd800 ∨ 0xe000 ≤ code) : IsPiece ('\\' :: 'u' :: digits) (Char.ofNat code)
  | pair {digits others : List Char} {high low : Nat} (hexadecimal : Json.unit? digits = some (high, []))
    (upper : 0xd800 ≤ high ∧ high < 0xdc00) (second : Json.unit? others = some (low, []))
    (lower : 0xdc00 ≤ low ∧ low < 0xe000) :
    IsPiece ('\\' :: 'u' :: (digits ++ '\\' :: 'u' :: others))
      (Char.ofNat (0x10000 + (high - 0xd800) * 0x400 + (low - 0xdc00)))

/-- How a string writes a text, between its quotes. -/
inductive IsInside : List Char → List Char → Prop
  | nil : IsInside [] []
  | cons {piece inside text : List Char} {c : Char} (first : IsPiece piece c) (later : IsInside inside text) :
    IsInside (piece ++ inside) (c :: text)

/-- The four digits of a unit, whatever follows them. -/
theorem exists_of_unit? {digits : List Char} {code : Nat} (read : Json.unit? digits = some (code, [])) :
    ∃ a b c d, digits = [a, b, c, d] ∧ ([a, b, c, d].all fun digit => (Json.hexValue? digit).isSome) = true ∧
      ∀ rest, Json.unit? (a :: b :: c :: d :: rest) = some (code, rest) := by
  unfold Json.unit? at read
  split at read
  next a b c d rest =>
    simp only [Option.bind_eq_bind, Option.bind_eq_some_iff, Option.pure_def, Option.some.injEq, Prod.mk.injEq] at read
    obtain ⟨first, one, second, two, third, three, fourth, four, rfl, rfl⟩ := read
    refine ⟨a, b, c, d, rfl, by simp [one, two, three, four], ?_⟩
    intro rest
    simp [Json.unit?, one, two, three, four]
  next => cases read

theorem IsPiece.passString? {piece : List Char} {c : Char} (written : IsPiece piece c) (rest : List Char) :
    passString? (piece ++ rest) = passString? rest := by
  cases written with
  | plain quote escape printable =>
    rw [List.singleton_append, RawJson.passString?.eq_def]
    split
    next same => exact absurd (List.cons.inj same).1 quote
    next same => exact absurd (List.cons.inj same).1 escape
    next same => exact absurd (List.cons.inj same).1 escape
    next same =>
      obtain ⟨rfl, rfl⟩ := List.cons.inj same
      rw [if_neg (Nat.not_lt.mpr printable)]
    next same => cases same
  | @letter mark _ stands =>
    have unnumbered : mark ≠ 'u' := by
      rintro rfl
      cases stands
    rw [List.cons_append, List.singleton_append, RawJson.passString?.eq_def]
    split
    next same => cases same
    next same => exact absurd (List.cons.inj (List.cons.inj same).2).1 unnumbered
    next same =>
      obtain ⟨rfl, rfl⟩ := List.cons.inj (List.cons.inj same).2
      rw [if_pos (by simp [stands])]
    next unlike same =>
      obtain ⟨rfl, rfl⟩ := List.cons.inj same
      exact absurd rfl (unlike _ _ rfl)
    next same => cases same
  | number hexadecimal =>
    obtain ⟨a, b, c, d, rfl, digits, -⟩ := exists_of_unit? hexadecimal
    simp only [List.cons_append, List.nil_append, RawJson.passString?, digits, if_true]
  | pair hexadecimal _ second =>
    obtain ⟨a, b, c, d, rfl, digits, -⟩ := exists_of_unit? hexadecimal
    obtain ⟨e, f, g, h, rfl, others, -⟩ := exists_of_unit? second
    simp only [List.cons_append, List.nil_append, RawJson.passString?, digits, others, if_true]

theorem IsPiece.readStringBody? {piece : List Char} {c : Char} (written : IsPiece piece c) (fuel : Nat)
    (done rest : List Char) :
    Json.readStringBody? (fuel + 1) done (piece ++ rest) = Json.readStringBody? fuel (c :: done) rest := by
  cases written with
  | plain quote escape printable =>
    rw [List.singleton_append, Json.readStringBody?.eq_def]
    dsimp only
    split
    next same => exact absurd (List.cons.inj same).1 quote
    next same => exact absurd (List.cons.inj same).1 escape
    next same => exact absurd (List.cons.inj same).1 escape
    next same =>
      obtain ⟨rfl, rfl⟩ := List.cons.inj same
      rw [if_neg (Nat.not_lt.mpr printable)]
    next same => cases same
  | @letter mark _ stands =>
    have unnumbered : mark ≠ 'u' := by
      rintro rfl
      cases stands
    rw [List.cons_append, List.singleton_append, Json.readStringBody?.eq_def]
    dsimp only
    split
    next same => cases same
    next same => exact absurd (List.cons.inj (List.cons.inj same).2).1 unnumbered
    next same =>
      obtain ⟨rfl, rfl⟩ := List.cons.inj (List.cons.inj same).2
      rw [stands]
    next unlike same =>
      obtain ⟨rfl, rfl⟩ := List.cons.inj same
      exact absurd rfl (unlike _ _ rfl)
    next same => cases same
  | @number _ code hexadecimal whole =>
    obtain ⟨a, b, c, d, rfl, -, read⟩ := exists_of_unit? hexadecimal
    have single : Json.unicodeEscape? (a :: b :: c :: d :: rest) = some (Char.ofNat code, rest) := by
      simp only [Json.unicodeEscape?, read, Option.bind_eq_bind, Option.bind_some]
      rw [if_neg (by omega), if_neg (by omega)]
      rfl
    simp only [List.cons_append, List.nil_append, Json.readStringBody?, single]
  | @pair _ _ high low hexadecimal upper second lower =>
    obtain ⟨a, b, c, d, rfl, -, read⟩ := exists_of_unit? hexadecimal
    obtain ⟨e, f, g, h, rfl, -, other⟩ := exists_of_unit? second
    have double : Json.unicodeEscape? (a :: b :: c :: d :: '\\' :: 'u' :: e :: f :: g :: h :: rest) =
        some (Char.ofNat (0x10000 + (high - 0xd800) * 0x400 + (low - 0xdc00)), rest) := by
      simp only [Json.unicodeEscape?, read, other, Option.bind_eq_bind, Option.bind_some, if_pos upper, if_pos lower]
      rfl
    simp only [List.cons_append, List.nil_append, Json.readStringBody?, double]

theorem IsInside.readStringBody? {inside text : List Char} (written : IsInside inside text) (rest : List Char)
    {fuel : Nat} (enough : inside.length < fuel) (done : List Char) :
    Json.readStringBody? fuel done (inside ++ '"' :: rest) = some (String.ofList (done.reverse ++ text), rest) := by
  induction written generalizing fuel done with
  | nil =>
    obtain ⟨fuel, rfl⟩ := Nat.exists_eq_succ_of_ne_zero (Nat.ne_of_gt enough)
    simp [Json.readStringBody?]
  | @cons piece inside text c first _ ih =>
    have consumes : 0 < piece.length := by cases first <;> simp
    obtain ⟨fuel, rfl⟩ := Nat.exists_eq_succ_of_ne_zero (Nat.ne_of_gt (Nat.zero_lt_of_lt enough))
    rw [List.append_assoc, first.readStringBody?, ih (by simp only [List.length_append] at enough; omega)]
    simp

theorem IsInside.readString? {inside text : List Char} (written : IsInside inside text) (rest : List Char) :
    readString? (inside ++ '"' :: rest) = some (some (String.ofList text), rest) := by
  have passed : passString? (inside ++ '"' :: rest) = some rest := by
    induction written with
    | nil => rfl
    | cons first _ ih => rw [List.append_assoc, first.passString?, ih]
  unfold RawJson.readString? Json.readString?
  rw [passed, written.readStringBody? rest (by simp only [List.length_append]; omega)]
  rfl

/-! Values. -/

mutual

/-- How a document is written, without blanks around it. -/
inductive IsText : RawJson → List Char → Prop
  | null : IsText null ['n', 'u', 'l', 'l']
  | true : IsText (bool true) ['t', 'r', 'u', 'e']
  | false : IsText (bool false) ['f', 'a', 'l', 's', 'e']
  | number {text : List Char} (numeric : IsNumber text) : IsText number text
  | string {inside text : List Char} (written : IsInside inside text) :
    IsText (string (some (String.ofList text))) ('"' :: (inside ++ ['"']))
  | noItems {blanks : List Char} (blank : AreBlank blanks) : IsText (array []) ('[' :: (blanks ++ [']']))
  | array {items : List RawJson} {text : List Char} (written : AreItems items text) :
    IsText (array items) ('[' :: (text ++ [']']))
  | noMembers {blanks : List Char} (blank : AreBlank blanks) :
    IsText (object []) ('\x7b' :: (blanks ++ ['\x7d']))
  | object {members : Members} {text : List Char} (written : AreMembers members text) :
    IsText (object members) ('\x7b' :: (text ++ ['\x7d']))

/-- How a document is written with blanks around it. -/
inductive IsSpaced : RawJson → List Char → Prop
  | mk {document : RawJson} {before text after : List Char} (opening : AreBlank before)
    (written : IsText document text) (closing : AreBlank after) : IsSpaced document (before ++ (text ++ after))

inductive AreItems : List RawJson → List Char → Prop
  | single {item : RawJson} {text : List Char} (written : IsSpaced item text) : AreItems [item] text
  | cons {item : RawJson} {items : List RawJson} {text more : List Char} (first : IsSpaced item text)
    (later : AreItems items more) : AreItems (item :: items) (text ++ ',' :: more)

inductive IsMember : Option String × RawJson → List Char → Prop
  | mk {value : RawJson} {before inside key gap text : List Char} (opening : AreBlank before)
    (named : IsInside inside key) (between : AreBlank gap) (written : IsSpaced value text) :
    IsMember (some (String.ofList key), value) (before ++ '"' :: (inside ++ '"' :: (gap ++ ':' :: text)))

inductive AreMembers : Members → List Char → Prop
  | single {member : Option String × RawJson} {text : List Char} (written : IsMember member text) :
    AreMembers [member] text
  | cons {member : Option String × RawJson} {members : Members} {text more : List Char}
    (first : IsMember member text) (later : AreMembers members more) :
    AreMembers (member :: members) (text ++ ',' :: more)

end

/-- A text that is a document. -/
def IsWritten (document : RawJson) (text : String) : Prop := IsSpaced document text.toList

theorem IsNumber.exists_head {text : List Char} (number : IsNumber text) :
    ∃ c more, text = c :: more ∧ (c.isDigit = true ∨ c = '-') := by
  cases number with
  | @mk sign whole fraction power signed digits =>
    obtain ⟨c, more, rfl⟩ := List.exists_cons_of_ne_nil digits.1
    rcases signed with rfl | rfl
    · exact ⟨c, more ++ (fraction ++ power), rfl, .inl (digits.2 c List.mem_cons_self)⟩
    · exact ⟨'-', c :: more ++ (fraction ++ power), rfl, .inr rfl⟩

theorem IsText.exists_head {document : RawJson} {text : List Char} (written : IsText document text) :
    ∃ c more, text = c :: more ∧ c ∉ [' ', '\n', '\t', '\r'] ∧ c ≠ ']' := by
  cases written with
  | number number =>
    obtain ⟨c, more, rfl, head⟩ := number.exists_head
    refine ⟨c, more, rfl, ?_⟩
    rcases head with digit | rfl
    · constructor
      · simp only [List.mem_cons, List.not_mem_nil, or_false]
        rintro (rfl | rfl | rfl | rfl) <;> exact absurd digit (by decide)
      · rintro rfl
        exact absurd digit (by decide)
    · decide
  | null | true | false | string | noItems | array | noMembers | object => exact ⟨_, _, rfl, by decide, by decide⟩

theorem IsSpaced.exists_head {document : RawJson} {text : List Char} (written : IsSpaced document text)
    (rest : List Char) : ∃ c more, Json.skipBlanks (text ++ rest) = c :: more ∧ c ≠ ']' := by
  cases written with
  | @mk _ before text after opening written closing =>
    obtain ⟨c, more, rfl, solid, open_⟩ := written.exists_head
    refine ⟨c, more ++ (after ++ rest), ?_, open_⟩
    rw [List.append_assoc, skipBlanks_append opening, List.append_assoc, List.cons_append, skipBlanks_cons solid]

theorem AreItems.exists_head {items : List RawJson} {text : List Char} (written : AreItems items text)
    (rest : List Char) : ∃ c more, Json.skipBlanks (text ++ rest) = c :: more ∧ c ≠ ']' := by
  cases written with
  | single written => exact written.exists_head rest
  | cons first =>
    rw [List.append_assoc]
    exact first.exists_head _

theorem AreMembers.exists_head {members : Members} {text : List Char}
    (written : AreMembers members text) (rest : List Char) :
    ∃ more, Json.skipBlanks (text ++ rest) = '"' :: more := by
  have named {member : Option String × RawJson} {text : List Char} (written : IsMember member text)
      (rest : List Char) : ∃ more, Json.skipBlanks (text ++ rest) = '"' :: more := by
    cases written with
    | mk opening =>
      rw [List.append_assoc, skipBlanks_append opening, List.cons_append, skipBlanks_cons (by decide)]
      exact ⟨_, rfl⟩
  cases written with
  | single written => exact named written rest
  | cons first =>
    rw [List.append_assoc]
    exact named first _

theorem AreBlank.endsNumber {blanks rest : List Char} (blank : AreBlank blanks) (ends : EndsNumber rest) :
    EndsNumber (blanks ++ rest) := by
  cases blanks with
  | nil => exact ends
  | cons c blanks =>
    rintro _ ⟨⟩
    have member := blank c List.mem_cons_self
    simp only [List.mem_cons, List.not_mem_nil, or_false] at member
    rcases member with rfl | rfl | rfl | rfl <;> decide

theorem endsNumber_of_mark {mark : Char} (closing : mark = ',' ∨ mark = ']' ∨ mark = '\x7d') (rest : List Char) :
    EndsNumber (mark :: rest) := by
  rintro _ ⟨⟩
  rcases closing with rfl | rfl | rfl <;> decide

/-! Reading. Each reader takes what was written for it and leaves the rest, by recursion on how it was written. A
round of the readers takes at least one character or leads into a bracket, which has a partner, so twice the length
of the text is enough for all rounds. -/

theorem IsNumber.read? {text rest : List Char} (numeric : IsNumber text) (ends : EndsNumber rest) (fuel : Nat)
    {before : List Char} (opening : AreBlank before) :
    read? (fuel + 1) (before ++ (text ++ rest)) = some (number, rest) := by
  have taken := numeric.passNumber? ends
  obtain ⟨c, more, rfl, head⟩ := numeric.exists_head
  have apart {mark : Char} (other : mark.isDigit = Bool.false ∧ mark ≠ '-') : c ≠ mark := by
    rintro rfl
    rcases head with digit | minus
    · exact absurd digit (by simp [other.1])
    · exact other.2 minus
  have solid : c ∉ [' ', '\n', '\t', '\r'] := by
    simp only [List.mem_cons, List.not_mem_nil, or_false, not_or]
    exact ⟨apart (by decide), apart (by decide), apart (by decide), apart (by decide)⟩
  rw [List.cons_append] at taken ⊢
  rw [RawJson.read?, skipBlanks_append opening, skipBlanks_cons solid]
  split
  next same => exact absurd (List.cons.inj same).1 (apart (by decide))
  next same => exact absurd (List.cons.inj same).1 (apart (by decide))
  next same => exact absurd (List.cons.inj same).1 (apart (by decide))
  next same => exact absurd (List.cons.inj same).1 (apart (by decide))
  next same => exact absurd (List.cons.inj same).1 (apart (by decide))
  next same => exact absurd (List.cons.inj same).1 (apart (by decide))
  next => rw [taken, Option.map_some]

mutual

theorem IsText.read? {document : RawJson} {text rest : List Char} (written : IsText document text)
    (ends : EndsNumber rest) {fuel : Nat} (enough : 2 * text.length ≤ fuel) {before : List Char}
    (opening : AreBlank before) : read? fuel (before ++ (text ++ rest)) = some (document, rest) := by
  obtain ⟨c, more, whole, solid, -⟩ := written.exists_head
  obtain ⟨fuel, rfl⟩ : ∃ less, fuel = less + 1 :=
    Nat.exists_eq_succ_of_ne_zero (by rw [whole, List.length_cons] at enough; omega)
  have start : Json.skipBlanks (before ++ (text ++ rest)) = text ++ rest := by
    rw [whole, skipBlanks_append opening, List.cons_append, skipBlanks_cons solid]
  match written with
  | .null | .true | .false =>
    rw [RawJson.read?, start]
    rfl
  | .number numeric => exact numeric.read? ends fuel opening
  | @IsText.string inside _ written =>
    rw [RawJson.read?, start, List.cons_append, List.append_assoc, List.singleton_append]
    change (readString? (inside ++ '"' :: rest)).map _ = _
    rw [written.readString?, Option.map_some]
  | @IsText.noItems blanks blank =>
    have closed : Json.skipBlanks (blanks ++ ']' :: rest) = ']' :: rest := by
      rw [skipBlanks_append blank, skipBlanks_cons (by decide)]
    rw [RawJson.read?, start, List.cons_append, List.append_assoc, List.singleton_append]
    simp only [closed]
  | @IsText.array items text written =>
    have read : readItems? fuel (text ++ ']' :: rest) = some (items, rest) :=
      written.readItems? rest (by simp only [List.length_cons, List.length_append] at enough; omega)
    obtain ⟨d, more, head, other⟩ := written.exists_head (']' :: rest)
    rw [RawJson.read?, start, List.cons_append, List.append_assoc, List.singleton_append]
    simp only [head]
    split
    next same => exact absurd (List.cons.inj same).1 other
    next => rw [read, Option.map_some]
  | @IsText.noMembers blanks blank =>
    have closed : Json.skipBlanks (blanks ++ '\x7d' :: rest) = '\x7d' :: rest := by
      rw [skipBlanks_append blank, skipBlanks_cons (by decide)]
    rw [RawJson.read?, start, List.cons_append, List.append_assoc, List.singleton_append]
    simp only [closed]
  | @IsText.object members text written =>
    have read : readMembers? fuel (text ++ '\x7d' :: rest) = some (members, rest) :=
      written.readMembers? rest (by simp only [List.length_cons, List.length_append] at enough; omega)
    obtain ⟨more, head⟩ := written.exists_head ('\x7d' :: rest)
    rw [RawJson.read?, start, List.cons_append, List.append_assoc, List.singleton_append]
    simp only [head]
    split
    next same => exact absurd (List.cons.inj same).1 (by decide)
    next => rw [read, Option.map_some]

theorem IsSpaced.read? {document : RawJson} {text rest : List Char} (written : IsSpaced document text)
    (ends : EndsNumber rest) {fuel : Nat} (enough : 2 * text.length ≤ fuel) :
    ∃ left, read? fuel (text ++ rest) = some (document, left) ∧ Json.skipBlanks left = Json.skipBlanks rest := by
  match written with
  | @IsSpaced.mk _ before text after opening written closing =>
    refine ⟨after ++ rest, ?_, skipBlanks_append closing rest⟩
    rw [List.append_assoc, List.append_assoc]
    exact written.read? (closing.endsNumber ends) (by simp only [List.length_append] at enough; omega) opening

theorem AreItems.readItems? {items : List RawJson} {text : List Char} (written : AreItems items text)
    (rest : List Char) {fuel : Nat} (enough : 2 * text.length + 1 ≤ fuel) :
    readItems? fuel (text ++ ']' :: rest) = some (items, rest) := by
  obtain ⟨fuel, rfl⟩ : ∃ less, fuel = less + 1 := Nat.exists_eq_succ_of_ne_zero (by omega)
  match written with
  | .single written =>
    obtain ⟨left, read, close⟩ := written.read? (endsNumber_of_mark (.inr (.inl rfl)) rest) (Nat.le_of_succ_le_succ enough)
    rw [skipBlanks_cons (by decide)] at close
    rw [RawJson.readItems?]
    simp only [read, close]
  | @AreItems.cons _ items text more first later =>
    simp only [List.length_append, List.length_cons] at enough
    have others := later.readItems? rest (show _ ≤ fuel by omega)
    obtain ⟨left, read, comma⟩ :=
      first.read? (endsNumber_of_mark (.inl rfl) (more ++ ']' :: rest)) (show _ ≤ fuel by omega)
    rw [skipBlanks_cons (by decide)] at comma
    rw [List.append_assoc, List.cons_append, RawJson.readItems?]
    simp only [read, comma, others, Option.map_some]

theorem IsMember.readMember? {member : Option String × RawJson} {text rest : List Char}
    (written : IsMember member text) (ends : EndsNumber rest) {fuel : Nat} (enough : 2 * text.length ≤ fuel) :
    ∃ left, readMember? fuel (text ++ rest) = some (member, left) ∧ Json.skipBlanks left = Json.skipBlanks rest := by
  match written with
  | @IsMember.mk value before inside key gap text opening named between written =>
    simp only [List.length_append, List.length_cons] at enough
    obtain ⟨fuel, rfl⟩ : ∃ less, fuel = less + 1 := Nat.exists_eq_succ_of_ne_zero (by omega)
    obtain ⟨left, read, same⟩ := written.read? ends (show _ ≤ fuel by omega)
    refine ⟨left, ?_, same⟩
    have quote : Json.skipBlanks (before ++ '"' :: (inside ++ '"' :: (gap ++ ':' :: (text ++ rest)))) =
        '"' :: (inside ++ '"' :: (gap ++ ':' :: (text ++ rest))) := by
      rw [skipBlanks_append opening, skipBlanks_cons (by decide)]
    have colon : Json.skipBlanks (gap ++ ':' :: (text ++ rest)) = ':' :: (text ++ rest) := by
      rw [skipBlanks_append between, skipBlanks_cons (by decide)]
    simp only [List.append_assoc, List.cons_append]
    rw [RawJson.readMember?]
    simp only [quote, named.readString?, colon, read, Option.map_some]

theorem AreMembers.readMembers? {members : Members} {text : List Char}
    (written : AreMembers members text) (rest : List Char) {fuel : Nat} (enough : 2 * text.length + 1 ≤ fuel) :
    readMembers? fuel (text ++ '\x7d' :: rest) = some (members, rest) := by
  obtain ⟨fuel, rfl⟩ : ∃ less, fuel = less + 1 := Nat.exists_eq_succ_of_ne_zero (by omega)
  match written with
  | .single written =>
    obtain ⟨left, read, close⟩ :=
      written.readMember? (endsNumber_of_mark (.inr (.inr rfl)) rest) (Nat.le_of_succ_le_succ enough)
    rw [skipBlanks_cons (by decide)] at close
    rw [RawJson.readMembers?]
    simp only [read, close]
  | @AreMembers.cons _ members text more first later =>
    simp only [List.length_append, List.length_cons] at enough
    have others := later.readMembers? rest (show _ ≤ fuel by omega)
    obtain ⟨left, read, comma⟩ :=
      first.readMember? (endsNumber_of_mark (.inl rfl) (more ++ '\x7d' :: rest)) (show _ ≤ fuel by omega)
    rw [skipBlanks_cons (by decide)] at comma
    rw [List.append_assoc, List.cons_append, RawJson.readMembers?]
    simp only [read, comma, others, Option.map_some]

end

/-- Every text that the grammar has for a document is read as this document, however deeply it is nested. -/
theorem IsWritten.parse? {document : RawJson} {text : String} (written : IsWritten document text) :
    parse? text = some document := by
  obtain ⟨left, read, same⟩ := IsSpaced.read? written (show EndsNumber [] from nofun) (Nat.le_add_right _ 2)
  rw [List.append_nil] at read
  unfold RawJson.parse? parseChars?
  rw [read]
  simp only [same]
  rfl

/-- What nobody asks for may be out of range or no text. -/
example : parseChars? ['[', '1', 'e', '9', '9', '9', ',', '"', '\\', 'u', 'd', '8', '0', '0', '"', ']'] =
    some (array [number, string none]) := rfl

/-! Trees. -/

/-- Documents whose strings are texts, with no name twice in an object. -/
inductive IsTree : RawJson → Prop
  | null : IsTree null
  | bool (value : Bool) : IsTree (bool value)
  | number : IsTree number
  | string (text : String) : IsTree (string (some text))
  | array {items : List RawJson} (inside : ∀ item ∈ items, IsTree item) : IsTree (array items)
  | object {members : Members}
    (named : ∀ member ∈ members, ∃ name, member.1 = some name) (distinct : (members.map Prod.fst).Nodup)
    (inside : ∀ member ∈ members, IsTree member.2) : IsTree (object members)

theorem exists_piece (c : Char) : ∃ piece, IsPiece piece c := by
  by_cases quote : c = '"'
  · subst quote
    exact ⟨['\\', '"'], .letter rfl⟩
  by_cases escape : c = '\\'
  · subst escape
    exact ⟨['\\', '\\'], .letter rfl⟩
  by_cases printable : 32 ≤ c.toNat
  · exact ⟨_, .plain quote escape printable⟩
  have small : c.toNat < 32 := Nat.lt_of_not_le printable
  have digits : ∀ n : Fin 32,
      Json.unit? ['0', '0', Nat.digitChar (n / 16), Nat.digitChar (n % 16)] = some (n.val, []) := by
    decide +kernel
  have written := IsPiece.number (digits ⟨c.toNat, small⟩) (.inl (Nat.lt_trans small (by decide)))
  rw [Char.ofNat_toNat] at written
  exact ⟨_, written⟩

theorem isInside_of_plain {text : List Char} (plain : ∀ c ∈ text, c ≠ '"' ∧ c ≠ '\\' ∧ 32 ≤ c.toNat) :
    IsInside text text := by
  induction text with
  | nil => exact .nil
  | cons c text ih =>
    obtain ⟨⟨quote, escape, printable⟩, later⟩ := List.forall_mem_cons.mp plain
    exact .cons (.plain quote escape printable) (ih later)

theorem exists_inside (text : List Char) : ∃ inside, IsInside inside text := by
  induction text with
  | nil => exact ⟨[], .nil⟩
  | cons c text ih =>
    obtain ⟨piece, first⟩ := exists_piece c
    obtain ⟨inside, later⟩ := ih
    exact ⟨piece ++ inside, .cons first later⟩

theorem areBlank_nil : AreBlank [] := fun _ member => absurd member List.not_mem_nil

theorem IsText.spaced {document : RawJson} {text : List Char} (written : IsText document text) :
    IsSpaced document text := by
  have spaced := IsSpaced.mk areBlank_nil written areBlank_nil
  rwa [List.nil_append, List.append_nil] at spaced

theorem exists_items {item : RawJson} {items : List RawJson}
    (written : ∀ other ∈ item :: items, ∃ text, IsText other text) : ∃ text, AreItems (item :: items) text := by
  induction items generalizing item with
  | nil =>
    obtain ⟨text, written⟩ := written item List.mem_cons_self
    exact ⟨text, .single written.spaced⟩
  | cons next items ih =>
    obtain ⟨text, first⟩ := written item List.mem_cons_self
    obtain ⟨more, later⟩ := ih fun other member => written other (List.mem_cons_of_mem item member)
    exact ⟨text ++ ',' :: more, .cons first.spaced later⟩

theorem exists_member {member : Option String × RawJson} (named : ∃ name, member.1 = some name)
    (written : ∃ text, IsText member.2 text) : ∃ text, IsMember member text := by
  obtain ⟨key, value⟩ := member
  obtain ⟨name, rfl⟩ := named
  obtain ⟨text, written⟩ := written
  obtain ⟨inside, named⟩ := exists_inside name.toList
  have member := IsMember.mk areBlank_nil named areBlank_nil written.spaced
  rw [String.ofList_toList] at member
  exact ⟨_, member⟩

theorem exists_members {member : Option String × RawJson} {members : Members}
    (written : ∀ other ∈ member :: members, ∃ text, IsMember other text) :
    ∃ text, AreMembers (member :: members) text := by
  induction members generalizing member with
  | nil =>
    obtain ⟨text, written⟩ := written member List.mem_cons_self
    exact ⟨text, .single written⟩
  | cons next members ih =>
    obtain ⟨text, first⟩ := written member List.mem_cons_self
    obtain ⟨more, later⟩ := ih fun other inside => written other (List.mem_cons_of_mem member inside)
    exact ⟨text ++ ',' :: more, .cons first later⟩

theorem isNumber_zero : IsNumber ['0'] := by
  have digits : AreDigits ['0'] := ⟨List.cons_ne_nil _ _, List.forall_mem_singleton.mpr rfl⟩
  exact .mk (.inl rfl) digits (fun _ => rfl) .absent .absent

theorem IsTree.exists_text {document : RawJson} (tree : IsTree document) : ∃ text, IsText document text := by
  induction tree with
  | null => exact ⟨_, .null⟩
  | bool value => cases value <;> exact ⟨_, by constructor⟩
  | number => exact ⟨_, .number isNumber_zero⟩
  | string text =>
    obtain ⟨inside, written⟩ := exists_inside text.toList
    have string := IsText.string written
    rw [String.ofList_toList] at string
    exact ⟨_, string⟩
  | @array items _ ih =>
    cases items with
    | nil => exact ⟨_, .noItems areBlank_nil⟩
    | cons item items =>
      obtain ⟨text, written⟩ := exists_items ih
      exact ⟨_, .array written⟩
  | @object members named _ _ ih =>
    cases members with
    | nil => exact ⟨_, .noMembers areBlank_nil⟩
    | cons member members =>
      obtain ⟨text, written⟩ := exists_members fun other inside => exists_member (named other inside) (ih other inside)
      exact ⟨_, .object written⟩

theorem IsTree.exists_written {document : RawJson} (tree : IsTree document) :
    ∃ text : String, IsWritten document text := by
  obtain ⟨text, written⟩ := tree.exists_text
  refine ⟨String.ofList text, ?_⟩
  unfold IsWritten
  rw [String.toList_ofList]
  exact written.spaced

end PromptKernel.RawJson
