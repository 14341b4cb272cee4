import PromptKernel.Text.Search
import PromptKernel.Regex.Class
import PromptKernel.Regex.Size

/-! Reading patterns. A pattern is refused when it is malformed, when it asks for look-around or
back references, or when it could match inside of a character. -/

namespace PromptKernel.Regex

structure Flags where
  caseless : Bool := false
  multiLine : Bool := false
  dotAll : Bool := false
  unicode : Bool := true
  crlf : Bool := false
  verbose : Bool := false

/-- Skips blanks and comments where the pattern is verbose. -/
def skipVerbose (flags : Flags) (text : List Char) : List Char :=
  if flags.verbose then go (text.length + 1) text else text
where
  go : Nat → List Char → List Char
    | 0, text => text
    | _ + 1, [] => []
    | fuel + 1, c :: rest =>
      if Text.isBlank c then go fuel rest
      else if c = '#' then go fuel (rest.dropWhile (· != '\n'))
      else c :: rest

/-- What an escape or a plain character stands for. -/
inductive Item
  | literal (c : Char)
  | set (s : CharSet)
  | condition (a : Anchor)

/-- ASCII punctuation and blanks may be escaped without need. -/
def isEscapable (c : Char) : Bool := c.toNat < 128 && !c.isAlphanum && c != '<' && c != '>'

def hexDigit? (c : Char) : Option Nat :=
  if c.isDigit then some (c.toNat - 48)
  else if 'a' ≤ c ∧ c ≤ 'f' then some (c.toNat - 87)
  else if 'A' ≤ c ∧ c ≤ 'F' then some (c.toNat - 55)
  else none

def scalar? (code : Nat) : Option Char :=
  if code < 0xd800 ∨ (0xe000 ≤ code ∧ code < 0x110000) then some (Char.ofNat code) else none

def hexScalar? (digits : List Char) : Option Char := do
  if digits.isEmpty then none
  else
    let values ← digits.mapM hexDigit?
    scalar? (values.foldl (fun n d => n * 16 + d) 0)

def counted? (flags : Flags) : Nat → List Char → Option (List Char × List Char)
  | 0, text => some ([], text)
  | _ + 1, [] => none
  | count + 1, c :: rest =>
    (counted? flags count (skipVerbose flags rest)).map fun (cs, rest) => (c :: cs, rest)

def braced? (flags : Flags) (text : List Char) : Option (List Char × List Char) :=
  go (text.length + 1) text
where
  go : Nat → List Char → Option (List Char × List Char)
    | 0, _ => none
    | fuel + 1, text =>
      match skipVerbose flags text with
      | [] => none
      | '}' :: rest => some ([], rest)
      | c :: rest => (go fuel rest).map fun (cs, rest) => (c :: cs, rest)

/-- A character by its number: so many digits, or any number of them in braces. Two digits stand for
a byte where Unicode is switched off, which is then to be a character by itself. -/
def hexEscape? (flags : Flags) (width : Nat) (text : List Char) : Option (Item × List Char) :=
  match skipVerbose flags text with
  | '{' :: rest => do
    let (digits, rest) ← braced? flags rest
    let c ← hexScalar? digits
    return (.literal c, rest)
  | text => do
    let (digits, rest) ← counted? flags width text
    let c ← hexScalar? digits
    if width = 2 ∧ flags.unicode = false ∧ 128 ≤ c.toNat then none else return (.literal c, rest)

def withCase (flags : Flags) (s : CharSet) : CharSet :=
  if flags.caseless then if flags.unicode then .caseless s else .asciiCaseless s else s

def negatedIf (negated : Bool) (s : CharSet) : CharSet := if negated then .compl s else s

/-- A property of characters in braces, with the kind of property in front of an equals sign or a
colon where it is given, and whether it is the property that a character must not have. -/
def propertyNamed? (name : List Char) : Option (Bool × CharSet) :=
  match Text.cut? ['!', '='] name, Text.cut? [':'] name, Text.cut? ['='] name with
  | some (kind, value), _, _ => (CharSet.valued? kind value).map (true, ·)
  | none, some (kind, value), _ => (CharSet.valued? kind value).map (false, ·)
  | none, none, some (kind, value) => (CharSet.valued? kind value).map (false, ·)
  | none, none, none => (CharSet.named? name).map (false, ·)

def unicodeClass? (flags : Flags) (negated : Bool) (text : List Char) :
    Option (Item × List Char) := do
  if flags.unicode then
    let (excluded, set, rest) ←
      match skipVerbose flags text with
      | '{' :: rest => do
        let (name, rest) ← braced? flags rest
        let (excluded, set) ← propertyNamed? name
        pure (excluded, set, rest)
      | '\\' :: _ => none
      | c :: rest => do
        let set ← CharSet.named? [c]
        pure (false, set, rest)
      | [] => none
    return (.set (negatedIf (negated != excluded) (withCase flags set)), rest)
  else none

/-- Digits, blanks and word characters. Without Unicode their complements would match parts of
characters. -/
def perlClass? (flags : Flags) (c : Char) : Option Item :=
  let known : Option (Bool × CharProperty × CharProperty) :=
    match c with
    | 'd' => some (false, .digit, .asciiDigit)
    | 's' => some (false, .blank, .asciiBlank)
    | 'w' => some (false, .word, .asciiWord)
    | 'D' => some (true, .digit, .asciiDigit)
    | 'S' => some (true, .blank, .asciiBlank)
    | 'W' => some (true, .word, .asciiWord)
    | _ => none
  match known with
  | none => none
  | some (negated, full, narrow) =>
    if flags.unicode then some (.set (negatedIf negated (.property full)))
    else if negated then none
    else some (.set (.property narrow))

/-- The kinds of word boundary that are named in braces. -/
def namedBoundary? (flags : Flags) (name : String) : Option Anchor :=
  match name with
  | "start" => some (.wordStart flags.unicode)
  | "end" => some (.wordEnd flags.unicode)
  | "start-half" => some (.wordStartHalf flags.unicode)
  | "end-half" => some (.wordEndHalf flags.unicode)
  | _ => none

/-- A word boundary. Braces after it name a special one when they start with a letter. -/
def boundary? (flags : Flags) (rest : List Char) : Option (Item × List Char) :=
  let plain := some (Item.condition (.wordBoundary flags.unicode), rest)
  match rest with
  | '{' :: inner =>
    match skipVerbose flags inner with
    | c :: _ =>
      if c.isAlpha ∨ c = '-' then do
        let (name, rest) ← braced? flags inner
        let anchor ← namedBoundary? flags (String.ofList name)
        return (.condition anchor, rest)
      else plain
    | [] => none
  | _ => plain

def escape? (flags : Flags) : List Char → Option (Item × List Char)
  | [] => none
  | c :: rest =>
    if c.isDigit then none
    else if isEscapable c then some (.literal c, rest)
    else
      match perlClass? flags c with
      | some item => some (item, rest)
      | none =>
        match c with
        | 'x' => hexEscape? flags 2 rest
        | 'u' => hexEscape? flags 4 rest
        | 'U' => hexEscape? flags 8 rest
        | 'p' => unicodeClass? flags false rest
        | 'P' => unicodeClass? flags true rest
        | 'a' => some (.literal (Char.ofNat 7), rest)
        | 'f' => some (.literal (Char.ofNat 12), rest)
        | 't' => some (.literal '\t', rest)
        | 'n' => some (.literal '\n', rest)
        | 'r' => some (.literal '\r', rest)
        | 'v' => some (.literal (Char.ofNat 11), rest)
        | 'A' => some (.condition .textStart, rest)
        | 'z' => some (.condition .textEnd, rest)
        | 'b' => boundary? flags rest
        | 'B' => some (.condition (.notWordBoundary flags.unicode), rest)
        | '<' => some (.condition (.wordStart flags.unicode), rest)
        | '>' => some (.condition (.wordEnd flags.unicode), rest)
        | _ => none

/-- The operations between the parts of a bracketed class. They bind equally and to the left. -/
inductive SetOp
  | inter
  | diff
  | symmDiff

def SetOp.apply : SetOp → CharSet → CharSet → CharSet
  | inter => .inter
  | diff => .diff
  | symmDiff => .symmDiff

/-- A set with the depth to which brackets and operations are nested in it. -/
structure ClassPart where
  set : CharSet
  depth : Nat := 0

/-- A class under construction: the left side of a pending operation and the members since. -/
structure ClassState where
  left : Option (ClassPart × SetOp) := none
  members : List ClassPart := []

def ClassState.add (state : ClassState) (part : ClassPart) : ClassState :=
  { state with members := part :: state.members }

/-- One level more where several things stand side by side. -/
def depthOfAll (depths : List Nat) : Nat :=
  depths.foldl max 0 + if depths.length ≤ 1 then 0 else 1

def ClassState.value (state : ClassState) : ClassPart :=
  let right : ClassPart :=
    ⟨.unionAll (state.members.reverse.map ClassPart.set),
      depthOfAll (state.members.map ClassPart.depth)⟩
  match state.left with
  | some (left, op) => ⟨op.apply left.set right.set, max left.depth right.depth + 1⟩
  | none => right

def ClassState.push (state : ClassState) (op : SetOp) : ClassState := ⟨some (state.value, op), []⟩

/-- Without Unicode, a set must not hold what is no character by itself, as complements do. -/
def allowed? (flags : Flags) (negated : Bool) (s : CharSet) : Option CharSet :=
  if negated ∧ flags.unicode = false then none else some (negatedIf negated s)

/-- A class such as the upper case letters, named between brackets and colons, with whether it is
negated. -/
def asciiClass? (text : List Char) : Option (Bool × CharSet × List Char) := do
  match text with
  | '[' :: ':' :: rest =>
    let (negated, rest) :=
      match rest with
      | '^' :: rest => (true, rest)
      | rest => (false, rest)
    let (name, rest) ← Text.cut? [':', ']'] rest
    let set ← CharSet.asciiNamed? (String.ofList name)
    return (negated, set, rest)
  | _ => none

def classItem? (flags : Flags) : List Char → Option (Item × List Char)
  | [] => none
  | '\\' :: rest => escape? flags rest
  | c :: rest => some (.literal c, rest)

/-- A character of a class, which is an ASCII one without Unicode. -/
def literal? (flags : Flags) : Item → Option Char
  | .literal c => if flags.unicode ∨ c.toNat < 128 then some c else none
  | _ => none

def itemSet? (flags : Flags) (item : Item) : Option CharSet :=
  match item with
  | .literal _ => (literal? flags item).map fun c => withCase flags (.single c)
  | .set s => some s
  | .condition _ => none

/-- Looks past blanks, and past the sign that starts a comment with the blanks after it. -/
def lookAhead (flags : Flags) (text : List Char) : Option Char :=
  if flags.verbose then
    match text.dropWhile Text.isBlank with
    | '#' :: rest => (rest.dropWhile Text.isBlank).head?
    | rest => rest.head?
  else text.head?

/-- A member of a class: a single item or a range. A hyphen before the end of the class or before
another hyphen is no range. -/
def classMember? (flags : Flags) (text : List Char) : Option (CharSet × List Char) := do
  let (first, rest) ← classItem? flags text
  let rest := skipVerbose flags rest
  match rest with
  | [] => none
  | '-' :: after =>
    if lookAhead flags after = some ']' ∨ lookAhead flags after = some '-' then
      return (← itemSet? flags first, rest)
    else
      let (last, rest) ← classItem? flags (skipVerbose flags after)
      let low ← literal? flags first
      let high ← literal? flags last
      if low ≤ high then return (withCase flags (.range low high), rest) else none
  | _ => return (← itemSet? flags first, rest)

/-- Hyphens at the start of a class, and a closing bracket where the class would be empty. -/
def classStart (flags : Flags) : Nat → ClassState → List Char → ClassState × List Char
  | 0, state, text => (state, text)
  | fuel + 1, state, text =>
    match text with
    | '-' :: rest => classStart flags fuel (state.add ⟨.single '-', 0⟩) (skipVerbose flags rest)
    | ']' :: rest =>
      if state.members.isEmpty then (state.add ⟨.single ']', 0⟩, skipVerbose flags rest)
      else (state, text)
    | _ => (state, text)

mutual

/-- A bracketed class after its opening bracket. -/
def class? (flags : Flags) : Nat → List Char → Option (ClassPart × List Char)
  | 0, _ => none
  | fuel + 1, text =>
    let text := skipVerbose flags text
    let (negated, text) :=
      match text with
      | '^' :: rest => (true, skipVerbose flags rest)
      | _ => (false, text)
    let (state, rest) := classStart flags (text.length + 1) {} text
    match classRest? flags fuel state rest with
    | some (part, rest) =>
      (allowed? flags negated part.set).map fun set => (⟨set, part.depth + 1⟩, rest)
    | none => none

def classRest? (flags : Flags) : Nat → ClassState → List Char → Option (ClassPart × List Char)
  | 0, _, _ => none
  | fuel + 1, state, text =>
    match skipVerbose flags text with
    | [] => none
    | ']' :: rest => some (state.value, rest)
    | '&' :: '&' :: rest => classRest? flags fuel (state.push .inter) rest
    | '-' :: '-' :: rest => classRest? flags fuel (state.push .diff) rest
    | '~' :: '~' :: rest => classRest? flags fuel (state.push .symmDiff) rest
    | '[' :: rest =>
      match asciiClass? ('[' :: rest) with
      | some (negated, set, rest) =>
        match allowed? flags negated (withCase flags set) with
        | some set => classRest? flags fuel (state.add ⟨set, 0⟩) rest
        | none => none
      | none =>
        match class? flags fuel rest with
        | some (part, rest) => classRest? flags fuel (state.add part) rest
        | none => none
    | text =>
      match classMember? flags text with
      | some (set, rest) => classRest? flags fuel (state.add ⟨set, 0⟩) rest
      | none => none

end

def digits (flags : Flags) : Nat → List Char → List Char × List Char
  | 0, text => ([], text)
  | fuel + 1, text =>
    match text with
    | [] => ([], [])
    | c :: rest =>
      if c.isDigit then
        let (cs, rest) := digits flags fuel (skipVerbose flags rest)
        (c :: cs, rest)
      else ([], text)

/-- A decimal number below 2^32, with blanks around it. -/
def count? (flags : Flags) (text : List Char) : Option (Nat × List Char) :=
  let (digits, rest) := digits flags text.length (text.dropWhile Text.isBlank)
  let value := digits.foldl (fun n c => n * 10 + (c.toNat - 48)) 0
  if digits.isEmpty ∨ 0x100000000 ≤ value then none
  else some (value, skipVerbose flags (rest.dropWhile Text.isBlank))

/-- The bounds of a counted repetition after its opening brace. -/
def bounds? (flags : Flags) (text : List Char) : Option (Nat × Option Nat × List Char) := do
  let (least, rest) ← count? flags (skipVerbose flags text)
  match rest with
  | '}' :: rest => return (least, some least, rest)
  | ',' :: rest =>
    match skipVerbose flags rest with
    | '}' :: rest => return (least, none, rest)
    | rest =>
      let (most, rest) ← count? flags rest
      match rest with
      | '}' :: rest => if least ≤ most then return (least, some most, rest) else none
      | _ => none
  | _ => none

/-- A repetition may be marked as lazy, which does not change what it matches. -/
def skipLazy : List Char → List Char
  | '?' :: rest => rest
  | rest => rest

/-- Sets the flags named before a colon or a closing parenthesis. A flag is named once at most,
and a hyphen, which stands in front of those to switch off, needs a flag after it. -/
def flagLetters (flags : Flags) (seen : List Char) (negate : Bool) (dangling : Bool) :
    List Char → Option (Flags × Bool × List Char)
  | [] => none
  | c :: rest =>
    if c = ':' ∨ c = ')' then
      if dangling then none else some (flags, c == ':', rest)
    else if seen.contains c then none
    else
      let next (flags : Flags) := flagLetters flags (c :: seen) negate false rest
      match c with
      | '-' => flagLetters flags (c :: seen) true true rest
      | 'i' => next { flags with caseless := !negate }
      | 'm' => next { flags with multiLine := !negate }
      | 's' => next { flags with dotAll := !negate }
      | 'u' => next { flags with unicode := !negate }
      | 'R' => next { flags with crlf := !negate }
      | 'x' => next { flags with verbose := !negate }
      | 'U' => next flags
      | _ => none

def isNameChar (first : Bool) (c : Char) : Bool :=
  c == '_' || Unicode.isAlphabetic c ||
  (!first && (c == '.' || c == '[' || c == ']' || Unicode.majorCategory c == "N"))

/-- The name of a capture group up to its closing angle bracket. -/
def groupName? (text : List Char) : Option (String × List Char) :=
  let name := text.takeWhile (· != '>')
  match name, text.dropWhile (· != '>') with
  | first :: others, _ :: rest =>
    if isNameChar true first && others.all (isNameChar false) then
      some (String.ofList name, rest)
    else none
  | _, _ => none

inductive Opening
  /-- The rest of the enclosing group is read with new flags. -/
  | switch (flags : Flags) (rest : List Char)
  /-- A group, which is captured or not, with the name of a capture that has one. -/
  | group (flags : Flags) (captured : Bool) (name : Option String) (rest : List Char)

/-- What stands after an opening parenthesis. Look-around is refused. -/
def opening? (flags : Flags) (text : List Char) : Option Opening :=
  match skipVerbose flags text with
  | '?' :: '=' :: _ | '?' :: '!' :: _ | '?' :: '<' :: '=' :: _ | '?' :: '<' :: '!' :: _ => none
  | '?' :: 'P' :: '<' :: rest | '?' :: '<' :: rest =>
    (groupName? rest).map fun (name, rest) => .group flags true (some name) rest
  | '?' :: ')' :: _ => none
  | '?' :: rest =>
    (flagLetters flags [] false false rest).map fun (changed, isGroup, rest) =>
      if isGroup then .group changed false none rest else .switch changed rest
  | rest => some (.group flags true none rest)

def characterSet (flags : Flags) (c : Char) : CharSet := withCase flags (.single c)

def dot? (flags : Flags) : Option CharSet :=
  if flags.unicode = false then none
  else if flags.dotAll then some (.property .any)
  else if flags.crlf then some (.compl (.union (.single '\n') (.single '\r')))
  else some (.compl (.single '\n'))

def lineAnchor (flags : Flags) (start : Bool) : Anchor :=
  match flags.multiLine, flags.crlf with
  | true, true => if start then .lineStartCrlf else .lineEndCrlf
  | true, false => if start then .lineStart else .lineEnd
  | false, _ => if start then .textStart else .textEnd

def itemRegex (flags : Flags) : Item → Regex
  | .literal c => .chars (characterSet flags c)
  | .set s => .chars s
  | .condition a => .anchor a

/-- A part of a branch with the depth of its nesting. A switch of flags is a part without an
expression, which cannot be repeated. -/
structure Part where
  regex : Option Regex
  depth : Nat := 0

structure GroupState where
  flags : Flags
  /-- The finished branches, last one first. -/
  branches : List (Regex × Nat) := []
  /-- The parts of the current branch, last one first. -/
  parts : List Part := []

def GroupState.add (state : GroupState) (r : Regex) (depth : Nat) : GroupState :=
  { state with parts := ⟨some r, depth⟩ :: state.parts }

def GroupState.switch (state : GroupState) (flags : Flags) : GroupState :=
  { state with flags := flags, parts := ⟨none, 0⟩ :: state.parts }

def GroupState.branch (state : GroupState) : Regex × Nat :=
  (concatAll (state.parts.reverse.filterMap Part.regex), depthOfAll (state.parts.map Part.depth))

def GroupState.endBranch (state : GroupState) : GroupState :=
  { state with branches := state.branch :: state.branches, parts := [] }

def GroupState.value (state : GroupState) : Regex × Nat :=
  let branches := state.endBranch.branches
  (alternateAll (branches.reverse.map Prod.fst), depthOfAll (branches.map Prod.snd))

def GroupState.repeatLast? (state : GroupState) (least : Nat) (most : Option Nat) :
    Option GroupState :=
  match state.parts with
  | ⟨some r, depth⟩ :: parts =>
    some { state with parts := ⟨some (repeatedly r least most), depth + 1⟩ :: parts }
  | _ => none

/-- The parts of a group up to its closing parenthesis or the end of the pattern. The names of the
capture groups so far are carried along, since no two may be the same. -/
def group? : Nat → List String → GroupState → List Char →
    Option ((Regex × Nat) × List String × List Char)
  | 0, _, _, _ => none
  | fuel + 1, names, state, text =>
    let flags := state.flags
    match skipVerbose flags text with
    | [] => some (state.value, names, [])
    | ')' :: rest => some (state.value, names, ')' :: rest)
    | '|' :: rest => group? fuel names state.endBranch rest
    | '(' :: rest =>
      match opening? flags rest with
      | none => none
      | some (.switch changed rest) =>
        group? fuel names (state.switch changed) rest
      | some (.group inner captured name rest) =>
        if name.any names.contains then none
        else
          match group? fuel (name.toList ++ names) { flags := inner } rest with
          | some ((r, depth), names, ')' :: rest) =>
            group? fuel names (state.add (if captured then .capture r else r) (depth + 1)) rest
          | _ => none
    | '[' :: rest =>
      match class? flags (rest.length + 1) rest with
      | some (part, rest) => group? fuel names (state.add (.chars part.set) part.depth) rest
      | none => none
    | '?' :: rest => repeated fuel names state 0 (some 1) rest
    | '*' :: rest => repeated fuel names state 0 none rest
    | '+' :: rest => repeated fuel names state 1 none rest
    | '{' :: rest =>
      match bounds? flags rest with
      | some (least, most, rest) => repeated fuel names state least most (skipVerbose flags rest)
      | none => none
    | '.' :: rest =>
      match dot? flags with
      | some set => group? fuel names (state.add (.chars set) 0) rest
      | none => none
    | '^' :: rest => group? fuel names (state.add (.anchor (lineAnchor flags true)) 0) rest
    | '$' :: rest => group? fuel names (state.add (.anchor (lineAnchor flags false)) 0) rest
    | '\\' :: rest =>
      match escape? flags rest with
      | some (item, rest) => group? fuel names (state.add (itemRegex flags item) 0) rest
      | none => none
    | c :: rest => group? fuel names (state.add (.chars (characterSet flags c)) 0) rest
where
  repeated (fuel : Nat) (names : List String) (state : GroupState) (least : Nat)
      (most : Option Nat) (rest : List Char) : Option ((Regex × Nat) × List String × List Char) :=
    match state.repeatLast? least most with
    | some state => group? fuel names state (skipLazy rest)
    | none => none

/-- Patterns that are nested more deeply than this are refused. -/
def depthLimit : Nat := 250

def parse? (text : String) : Option Regex :=
  let chars := text.toList
  match group? (2 * chars.length + 2) [] { flags := {} } chars with
  | some ((r, depth), _, []) =>
    if depth ≤ depthLimit ∧ r.isCompact then some r else none
  | _ => none

end PromptKernel.Regex

namespace PromptKernel

/-- A regular expression with the text it was read from. -/
structure Pattern where
  source : String
  regex : Regex

namespace Pattern

def parse? (source : String) : Option Pattern := (Regex.parse? source).map (Pattern.mk source)

def isMatch (pattern : Pattern) (text : String) : Bool := pattern.regex.isMatch text

end Pattern

end PromptKernel
