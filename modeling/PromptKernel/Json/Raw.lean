import PromptKernel.Json.Parser

/-! JSON text that is read for some of its fields. What nobody asks for only has to be written as
the grammar has it: numbers may be out of range, strings may hold halves of characters, and
nesting has no limit. -/

namespace PromptKernel

inductive RawJson
  | null
  | bool (value : Bool)
  | number
  /-- A string without a text holds an escape for half of a character. -/
  | string (text : Option String)
  | array (items : List RawJson)
  | object (members : List (Option String × RawJson))

namespace RawJson

abbrev Members := List (Option String × RawJson)

/-- What follows a string, from behind its opening quote. -/
def passString? : List Char → Option (List Char)
  | '"' :: rest => some rest
  | '\\' :: 'u' :: a :: b :: c :: d :: rest =>
    if [a, b, c, d].all fun digit => (Json.hexValue? digit).isSome then passString? rest else none
  | '\\' :: c :: rest => if (Json.simpleEscape? c).isSome then passString? rest else none
  | c :: rest => if c.toNat < 32 then none else passString? rest
  | [] => none

def readString? (text : List Char) : Option (Option String × List Char) :=
  (passString? text).map fun rest => ((Json.readString? text).map Prod.fst, rest)

/-- What follows a number. -/
def passNumber? : List Char → Option (List Char)
  | '-' :: rest => (Json.literal? rest).map Prod.snd
  | text => (Json.literal? text).map Prod.snd

mutual

def read? : Nat → List Char → Option (RawJson × List Char)
  | 0, _ => none
  | fuel + 1, text =>
    match Json.skipBlanks text with
    | '"' :: rest => (readString? rest).map fun (text, rest) => (string text, rest)
    | '[' :: rest =>
      match Json.skipBlanks rest with
      | ']' :: rest => some (array [], rest)
      | _ => (readItems? fuel rest).map fun (items, rest) => (array items, rest)
    | '\x7b' :: rest =>
      match Json.skipBlanks rest with
      | '\x7d' :: rest => some (object [], rest)
      | _ => (readMembers? fuel rest).map fun (members, rest) => (object members, rest)
    | 't' :: 'r' :: 'u' :: 'e' :: rest => some (bool true, rest)
    | 'f' :: 'a' :: 'l' :: 's' :: 'e' :: rest => some (bool false, rest)
    | 'n' :: 'u' :: 'l' :: 'l' :: rest => some (null, rest)
    | rest => (passNumber? rest).map fun rest => (number, rest)

def readItems? : Nat → List Char → Option (List RawJson × List Char)
  | 0, _ => none
  | fuel + 1, text =>
    match read? fuel text with
    | none => none
    | some (item, rest) =>
      match Json.skipBlanks rest with
      | ',' :: rest => (readItems? fuel rest).map fun (items, rest) => (item :: items, rest)
      | ']' :: rest => some ([item], rest)
      | _ => none

def readMembers? : Nat → List Char → Option (Members × List Char)
  | 0, _ => none
  | fuel + 1, text =>
    match readMember? fuel text with
    | none => none
    | some (member, rest) =>
      match Json.skipBlanks rest with
      | ',' :: rest => (readMembers? fuel rest).map fun (members, rest) => (member :: members, rest)
      | '\x7d' :: rest => some ([member], rest)
      | _ => none

def readMember? : Nat → List Char → Option ((Option String × RawJson) × List Char)
  | 0, _ => none
  | fuel + 1, text =>
    match Json.skipBlanks text with
    | '"' :: rest =>
      match readString? rest with
      | none => none
      | some (key, rest) =>
        match Json.skipBlanks rest with
        | ':' :: rest => (read? fuel rest).map fun (value, rest) => ((key, value), rest)
        | _ => none
    | _ => none

end

def parseChars? (text : List Char) : Option RawJson :=
  match read? (2 * text.length + 2) text with
  | some (document, rest) => if (Json.skipBlanks rest).isEmpty then some document else none
  | none => none

def parse? (text : String) : Option RawJson := parseChars? text.toList

/-- The field of a name, which may be absent. All names have to be texts, and two fields of the
name cannot be told apart. -/
def field? (name : String) : Members → Option (Option RawJson)
  | [] => some none
  | (none, _) :: _ => none
  | (some key, value) :: rest =>
    match field? name rest with
    | some none => if key = name then some (some value) else some none
    | some (some found) => if key = name then none else some (some found)
    | none => none

end RawJson

end PromptKernel
