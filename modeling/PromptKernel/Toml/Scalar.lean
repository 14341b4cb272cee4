import PromptKernel.Decimal.Text
import PromptKernel.Toml.Basic

/-! Reading TOML strings, numbers and dates. -/

namespace PromptKernel.Toml

def isWs (c : Char) : Bool := c == ' ' || c == '\t'

/-- Control characters other than the tab are not allowed inside of a line. -/
def isControl (c : Char) : Bool := (c.toNat < 32 && c != '\t') || c.toNat == 127

def hexDigit? (c : Char) : Option Nat :=
  if c.isDigit then some (c.toNat - 48)
  else if 'a' ≤ c ∧ c ≤ 'f' then some (c.toNat - 87)
  else if 'A' ≤ c ∧ c ≤ 'F' then some (c.toNat - 55)
  else none

/-- A line break with what follows it. A carriage return needs a line feed after it. -/
def brokenLine? : List Char → Option (List Char × List Char)
  | '\n' :: rest => some (['\n'], rest)
  | '\r' :: '\n' :: rest => some (['\r', '\n'], rest)
  | _ => none

def lineBreak? (text : List Char) : Option (List Char) := (brokenLine? text).map Prod.snd

/-! Strings. -/

def scalar? (code : Nat) : Option Char :=
  if code < 0xd800 ∨ (0xe000 ≤ code ∧ code < 0x110000) then some (Char.ofNat code) else none

def numbered? (width : Nat) (text : List Char) : Option (Char × List Char) := do
  if text.length < width then none
  else
    let digits ← (text.take width).mapM hexDigit?
    let c ← scalar? (digits.foldl (fun n d => n * 16 + d) 0)
    return (c, text.drop width)

def escape? : List Char → Option (Char × List Char)
  | 'b' :: rest => some (Char.ofNat 8, rest)
  | 't' :: rest => some ('\t', rest)
  | 'n' :: rest => some ('\n', rest)
  | 'f' :: rest => some (Char.ofNat 12, rest)
  | 'r' :: rest => some ('\r', rest)
  | 'e' :: rest => some (Char.ofNat 27, rest)
  | '"' :: rest => some ('"', rest)
  | '\\' :: rest => some ('\\', rest)
  | 'x' :: rest => numbered? 2 rest
  | 'u' :: rest => numbered? 4 rest
  | 'U' :: rest => numbered? 8 rest
  | _ => none

/-- A string on one line, after its opening quote. -/
def basic? : Nat → List Char → List Char → Option (List Char × List Char)
  | 0, _, _ => none
  | fuel + 1, done, text =>
    match text with
    | [] => none
    | '"' :: rest => some (done.reverse, rest)
    | '\\' :: rest =>
      match escape? rest with
      | some (c, rest) => basic? fuel (c :: done) rest
      | none => none
    | c :: rest => if isControl c then none else basic? fuel (c :: done) rest

/-- A literal string on one line, after its opening quote. -/
def literal? : List Char → List Char → Option (List Char × List Char)
  | _, [] => none
  | done, c :: rest =>
    if c = '\'' then some (done.reverse, rest)
    else if isControl c then none
    else literal? (c :: done) rest

/-- Up to two quotes may stand right before the three that close a string on several lines. -/
def closing? (quote : Char) (text : List Char) : Option (List Char × List Char) :=
  let quotes := (text.takeWhile (· == quote)).length
  if 3 ≤ quotes then
    let inner := min (quotes - 3) 2
    some (List.replicate inner quote, text.drop (inner + 3))
  else none

/-- Blanks and line breaks after a backslash at the end of a line. -/
def skipBreaks : Nat → List Char → List Char
  | 0, text => text
  | fuel + 1, text =>
    match text with
    | c :: rest =>
      if isWs c then skipBreaks fuel rest
      else
        match lineBreak? text with
        | some rest => skipBreaks fuel rest
        | none => text
    | [] => []

/-- The rest after a backslash that ends a line. -/
def continuation? (text : List Char) : Option (List Char) :=
  (lineBreak? (text.dropWhile isWs)).map fun rest => skipBreaks rest.length rest

/-- A string on several lines, after its opening quotes. -/
def multiBasic? : Nat → List Char → List Char → Option (List Char × List Char)
  | 0, _, _ => none
  | fuel + 1, done, text =>
    match closing? '"' text with
    | some (quotes, rest) => some (done.reverse ++ quotes, rest)
    | none =>
      match text with
      | [] => none
      | '\\' :: rest =>
        match continuation? rest with
        | some rest => multiBasic? fuel done rest
        | none =>
          match escape? rest with
          | some (c, rest) => multiBasic? fuel (c :: done) rest
          | none => none
      | c :: rest =>
        match brokenLine? text with
        | some (ending, rest) => multiBasic? fuel (ending.reverse ++ done) rest
        | none => if isControl c then none else multiBasic? fuel (c :: done) rest

/-- A literal string on several lines, after its opening quotes. -/
def multiLiteral? : Nat → List Char → List Char → Option (List Char × List Char)
  | 0, _, _ => none
  | fuel + 1, done, text =>
    match closing? '\'' text with
    | some (quotes, rest) => some (done.reverse ++ quotes, rest)
    | none =>
      match text with
      | [] => none
      | c :: rest =>
        match brokenLine? text with
        | some (ending, rest) => multiLiteral? fuel (ending.reverse ++ done) rest
        | none => if isControl c then none else multiLiteral? fuel (c :: done) rest

/-- A line break right after the opening quotes does not count. -/
def skipFirstBreak (text : List Char) : List Char := (lineBreak? text).getD text

def stringValue? (text : List Char) : Option (List Char × List Char) :=
  match text with
  | '"' :: '"' :: '"' :: rest => multiBasic? (rest.length + 1) [] (skipFirstBreak rest)
  | '"' :: rest => basic? (rest.length + 1) [] rest
  | '\'' :: '\'' :: '\'' :: rest => multiLiteral? (rest.length + 1) [] (skipFirstBreak rest)
  | '\'' :: rest => literal? [] rest
  | _ => none

/-! Numbers. -/

/-- Digits with single underscores between them. -/
def digits? (base : Nat) (text : List Char) : Option (List Nat) :=
  go (text.length + 1) text
where
  go : Nat → List Char → Option (List Nat)
    | 0, _ => none
    | fuel + 1, text =>
      match text with
      | c :: rest => do
        let d ← hexDigit? c
        if base ≤ d then none
        else
          match rest with
          | [] => return [d]
          | '_' :: rest => return d :: (← go fuel rest)
          | rest => return d :: (← go fuel rest)
      | [] => none

def value (base : Nat) (digits : List Nat) : Nat := digits.foldl (fun n d => n * base + d) 0

/-- A decimal number without needless zeros in front. -/
def decimal? (text : List Char) : Option Nat := do
  let digits ← digits? 10 text
  match digits with
  | 0 :: _ :: _ => none
  | digits => return value 10 digits

def integer? (text : List Char) : Option Int :=
  match text with
  | '0' :: 'x' :: rest => (digits? 16 rest).map fun ds => (value 16 ds : Int)
  | '0' :: 'o' :: rest => (digits? 8 rest).map fun ds => (value 8 ds : Int)
  | '0' :: 'b' :: rest => (digits? 2 rest).map fun ds => (value 2 ds : Int)
  | _ =>
    let (negative, rest) := Decimal.splitSign text
    (decimal? rest).map fun n => if negative then -(n : Int) else n

def isExponentMark (c : Char) : Bool := c == 'e' || c == 'E'

/-- A number with a fraction or an exponent, which has to be finite, or one of the special
numbers. -/
def isFloat (text : List Char) : Bool :=
  let (_, rest) := Decimal.splitSign text
  if rest = "inf".toList ∨ rest = "nan".toList then true
  else
    let mantissa := rest.takeWhile fun c => !isExponentMark c
    let power := (rest.dropWhile fun c => !isExponentMark c).drop 1
    let hasPower := rest.any isExponentMark
    let whole := mantissa.takeWhile (· != '.')
    let fraction := (mantissa.dropWhile (· != '.')).drop 1
    let hasFraction := mantissa.contains '.'
    let powerDigits := (Decimal.splitSign power).2
    let formed :=
      (decimal? whole).isSome && (hasFraction || hasPower) &&
      (!hasFraction || (digits? 10 fraction).isSome) &&
      (!hasPower || (digits? 10 powerDigits).isSome)
    formed && (Decimal.float? (rest.filter (· != '_'))).any Float.isFinite

/-! Dates and times. -/

def fixed? (width : Nat) (text : List Char) : Option (Nat × List Char) :=
  let digits := text.take width
  if digits.length = width ∧ digits.all Char.isDigit then
    some (Decimal.digitsValue digits, text.drop width)
  else none

def expect? (c : Char) : List Char → Option (List Char)
  | d :: rest => if c = d then some rest else none
  | [] => none

def daysIn (year month : Nat) : Nat :=
  if month = 2 then
    if year % 4 = 0 ∧ (year % 100 ≠ 0 ∨ year % 400 = 0) then 29 else 28
  else if month = 4 ∨ month = 6 ∨ month = 9 ∨ month = 11 then 30
  else 31

def date? (text : List Char) : Option (List Char) := do
  let (year, rest) ← fixed? 4 text
  let rest ← expect? '-' rest
  let (month, rest) ← fixed? 2 rest
  let rest ← expect? '-' rest
  let (day, rest) ← fixed? 2 rest
  if 1 ≤ month ∧ month ≤ 12 ∧ 1 ≤ day ∧ day ≤ daysIn year month then return rest else none

/-- A time of day. The seconds may be left out. -/
def time? (text : List Char) : Option (List Char) := do
  let (hour, rest) ← fixed? 2 text
  let rest ← expect? ':' rest
  let (minute, rest) ← fixed? 2 rest
  if 23 < hour ∨ 59 < minute then none
  else
    match rest with
    | ':' :: rest => do
      let (second, rest) ← fixed? 2 rest
      if 60 < second then none
      else
        match rest with
        | '.' :: rest =>
          let fraction := rest.takeWhile Char.isDigit
          if fraction.isEmpty then none else return rest.dropWhile Char.isDigit
        | rest => return rest
    | rest => return rest

def offset? (text : List Char) : Option (List Char) :=
  match text with
  | 'Z' :: rest | 'z' :: rest => some rest
  | '+' :: rest | '-' :: rest => do
    let (hour, rest) ← fixed? 2 rest
    let rest ← expect? ':' rest
    let (minute, rest) ← fixed? 2 rest
    if 23 < hour ∨ 59 < minute then none else return rest
  | _ => none

/-- A date, a time, or both with or without an offset. -/
def isDateTime (text : List Char) : Bool :=
  match date? text with
  | some [] => true
  | some (c :: rest) =>
    if c = 'T' ∨ c = 't' ∨ c = ' ' then
      match time? rest with
      | some [] => true
      | some rest => offset? rest == some []
      | none => false
    else false
  | none => time? text == some []

/-- Characters of values that are not quoted. -/
def isAtomChar (c : Char) : Bool :=
  c.isAlphanum || c == '+' || c == '-' || c == '_' || c == '.' || c == ':'

/-- The text of an unquoted value. A date may have a time after one space. -/
def atom (text : List Char) : List Char × List Char :=
  let first := text.takeWhile isAtomChar
  let rest := text.dropWhile isAtomChar
  match rest with
  | ' ' :: c :: more =>
    if date? first = some [] ∧ c.isDigit then
      let time := (c :: more).takeWhile isAtomChar
      (first ++ ' ' :: time, (c :: more).dropWhile isAtomChar)
    else (first, rest)
  | _ => (first, rest)

def unquoted? (text : List Char) : Option Toml :=
  if text = "true".toList then some (.bool true)
  else if text = "false".toList then some (.bool false)
  else
    match integer? text with
    | some n => some (.integer n)
    | none =>
      if isFloat text then some .float
      else if isDateTime text then some .dateTime
      else none

end PromptKernel.Toml
