import PromptKernel.Decimal.Text
import PromptKernel.Json.Basic

/-! Reading JSON text. Whole numbers that fit in 64 bits stay whole, and all other numbers
become doubles, which need not be the nearest ones. Of several members with one key the last one
counts. -/

namespace PromptKernel.Json

/-- The four blanks of the grammar. -/
def skipBlanks (cs : List Char) : List Char :=
  cs.dropWhile fun c => c == ' ' || c == '\n' || c == '\t' || c == '\r'

def hexValue? (c : Char) : Option Nat :=
  if c.isDigit then some (c.toNat - 48)
  else if 'a' ≤ c ∧ c ≤ 'f' then some (c.toNat - 87)
  else if 'A' ≤ c ∧ c ≤ 'F' then some (c.toNat - 55)
  else none

/-- Four hexadecimal digits. -/
def unit? : List Char → Option (Nat × List Char)
  | a :: b :: c :: d :: rest => do
    let a ← hexValue? a
    let b ← hexValue? b
    let c ← hexValue? c
    let d ← hexValue? d
    return (((a * 16 + b) * 16 + c) * 16 + d, rest)
  | _ => none

/-- The character of an escape by number. One beyond the basic plane takes two units. -/
def unicodeEscape? (text : List Char) : Option (Char × List Char) := do
  let (high, rest) ← unit? text
  if 0xd800 ≤ high ∧ high < 0xdc00 then
    match rest with
    | '\\' :: 'u' :: rest =>
      let (low, rest) ← unit? rest
      if 0xdc00 ≤ low ∧ low < 0xe000 then
        return (Char.ofNat (0x10000 + (high - 0xd800) * 0x400 + (low - 0xdc00)), rest)
      else none
    | _ => none
  else if 0xdc00 ≤ high ∧ high < 0xe000 then none
  else return (Char.ofNat high, rest)

def simpleEscape? (c : Char) : Option Char :=
  match c with
  | '"' => some '"'
  | '\\' => some '\\'
  | '/' => some '/'
  | 'b' => some (Char.ofNat 8)
  | 'f' => some (Char.ofNat 12)
  | 'n' => some '\n'
  | 'r' => some '\r'
  | 't' => some '\t'
  | _ => none

/-- The rest of a string after its opening quote. -/
def readStringBody? : Nat → List Char → List Char → Option (String × List Char)
  | 0, _, _ => none
  | fuel + 1, done, text =>
    match text with
    | '"' :: rest => some (String.ofList done.reverse, rest)
    | '\\' :: 'u' :: rest =>
      match unicodeEscape? rest with
      | some (c, rest) => readStringBody? fuel (c :: done) rest
      | none => none
    | '\\' :: c :: rest =>
      match simpleEscape? c with
      | some c => readStringBody? fuel (c :: done) rest
      | none => none
    | c :: rest => if c.toNat < 32 then none else readStringBody? fuel (c :: done) rest
    | [] => none

def readString? (text : List Char) : Option (String × List Char) :=
  readStringBody? (text.length + 1) [] text

/-- A number without its sign, as it is written. -/
structure Literal where
  whole : List Char
  fraction : List Char
  power : Option Int

def startsWithDigit : List Char → Bool
  | c :: _ => c.isDigit
  | [] => false

def fraction? : List Char → Option (List Char × List Char)
  | '.' :: rest =>
    if startsWithDigit rest then some (rest.takeWhile Char.isDigit, rest.dropWhile Char.isDigit)
    else none
  | rest => some ([], rest)

/-- The power of ten after an exponent mark. -/
def exponent? (text : List Char) : Option (Int × List Char) :=
  let (negative, rest) := Decimal.splitSign text
  if startsWithDigit rest then
    let value : Int := Decimal.digitsValue (rest.takeWhile Char.isDigit)
    some (if negative then -value else value, rest.dropWhile Char.isDigit)
  else none

def power? : List Char → Option (Option Int × List Char)
  | 'e' :: rest | 'E' :: rest => (exponent? rest).map fun (power, rest) => (some power, rest)
  | rest => some (none, rest)

/-- A number without its sign. A leading zero stands alone. -/
def literal? (text : List Char) : Option (Literal × List Char) := do
  let whole := text.takeWhile Char.isDigit
  if whole.isEmpty ∨ (whole.head? = some '0' ∧ 1 < whole.length) then none
  else
    let (fraction, rest) ← fraction? (text.dropWhile Char.isDigit)
    let (power, rest) ← power? rest
    return (⟨whole, fraction, power⟩, rest)

/-- The value of a number. Its digits make up one significand of 64 bits, and those that do not
fit are dropped. A negative zero is no whole number. -/
def numberValue? (negative : Bool) (literal : Literal) : Option Json :=
  let (whole, beyond) := Decimal.joinDigits 0 literal.whole
  let value : Int := if negative then -whole else whole
  if literal.fraction.isEmpty ∧ literal.power.isNone ∧ beyond.isEmpty ∧ Number.fits value ∧
      ¬ (negative ∧ value = 0) then
    some (integer value)
  else
    let (significand, dropped) := Decimal.joinDigits whole literal.fraction
    let places : Int := (literal.fraction.length - dropped.length : Nat)
    let exponent := literal.power.getD 0 + beyond.length - places
    (Decimal.scaled? significand exponent).map fun x => double (if negative then -x else x)

def readUnsigned? (negative : Bool) (text : List Char) : Option (Json × List Char) := do
  let (literal, rest) ← literal? text
  return (← numberValue? negative literal, rest)

def readNumber? : List Char → Option (Json × List Char)
  | '-' :: rest => readUnsigned? true rest
  | text => readUnsigned? false text

mutual

/-- A value at the start of the text. `depth` bounds the nesting of arrays and objects. -/
def readValue? : Nat → Nat → List Char → Option (Json × List Char)
  | 0, _, _ => none
  | fuel + 1, depth, text =>
    match skipBlanks text with
    | '"' :: rest => (readString? rest).map fun (s, rest) => (string s, rest)
    | '[' :: rest =>
      match depth with
      | 0 => none
      | depth + 1 =>
        match skipBlanks rest with
        | ']' :: rest => some (array [], rest)
        | rest => (readItems? fuel depth [] rest).map fun (items, rest) => (array items, rest)
    | '{' :: rest =>
      match depth with
      | 0 => none
      | depth + 1 =>
        match skipBlanks rest with
        | '}' :: rest => some (object [], rest)
        | rest => (readMembers? fuel depth [] rest).map fun (fields, rest) => (object fields, rest)
    | 't' :: 'r' :: 'u' :: 'e' :: rest => some (bool true, rest)
    | 'f' :: 'a' :: 'l' :: 's' :: 'e' :: rest => some (bool false, rest)
    | 'n' :: 'u' :: 'l' :: 'l' :: rest => some (null, rest)
    | rest => readNumber? rest

def readItems? : Nat → Nat → List Json → List Char → Option (List Json × List Char)
  | 0, _, _, _ => none
  | fuel + 1, depth, done, text =>
    match readValue? fuel depth text with
    | none => none
    | some (item, rest) =>
      match skipBlanks rest with
      | ',' :: rest => readItems? fuel depth (item :: done) rest
      | ']' :: rest => some ((item :: done).reverse, rest)
      | _ => none

def readMembers? : Nat → Nat → Fields Json → List Char → Option (Fields Json × List Char)
  | 0, _, _, _ => none
  | fuel + 1, depth, done, text =>
    match skipBlanks text with
    | '"' :: rest =>
      match readString? rest with
      | none => none
      | some (key, rest) =>
        match skipBlanks rest with
        | ':' :: rest =>
          match readValue? fuel depth rest with
          | none => none
          | some (item, rest) =>
            match skipBlanks rest with
            | ',' :: rest => readMembers? fuel depth (Fields.insert done key item) rest
            | '}' :: rest => some (Fields.insert done key item, rest)
            | _ => none
        | _ => none
    | _ => none

end

def nestingLimit : Nat := 127

def parseChars? (text : List Char) : Option Json :=
  match readValue? (2 * text.length + 2) nestingLimit text with
  | some (value, rest) => if (skipBlanks rest).isEmpty then some value else none
  | none => none

def parse? (text : String) : Option Json := parseChars? text.toList

end PromptKernel.Json
