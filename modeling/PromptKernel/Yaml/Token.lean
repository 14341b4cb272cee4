import PromptKernel.Yaml.Cursor

/-! The tokens of a YAML document, and how those are read that stand for themselves: scalars,
anchors, tags and directives. -/

namespace PromptKernel.Yaml

inductive Style
  | plain
  | quoted
  | literal
  | folded
deriving DecidableEq, Repr

inductive Token
  | versionDirective (major minor : Nat)
  | tagDirective (handle start : String)
  | documentStart
  | documentEnd
  | blockSequenceStart
  | blockMappingStart
  | blockEnd
  | flowSequenceStart
  | flowSequenceEnd
  | flowMappingStart
  | flowMappingEnd
  | blockEntry
  | flowEntry
  | key
  | value
  | alias (name : String)
  | anchor (name : String)
  | tag (handle suffix : String)
  | scalar (text : String) (style : Style)
  | streamEnd
deriving DecidableEq, Repr

structure Surroundings where
  /-- The column of the enclosing block collection, -1 outside of all. -/
  indent : Int
  inFlow : Bool

/-- Blanks and breaks inside a scalar, not yet known to belong to it. -/
structure Spacing where
  blanks : List Char := []
  leading : List Char := []
  trailing : List Char := []
  /-- A line break was passed. -/
  broken : Bool := false

namespace Spacing

/-- What the spacing contributes between two parts of a scalar. A single line feed is folded into
a space. -/
def folded (spacing : Spacing) : List Char :=
  if spacing.broken then
    if spacing.leading.head? = some '\n' then
      if spacing.trailing.isEmpty then [' '] else spacing.trailing
    else spacing.leading ++ spacing.trailing
  else spacing.blanks

end Spacing

/-- Passes over blanks and breaks. Tabs left of the given column are refused after a break. -/
def readSpacing (tabLimit : Nat) : Nat → Spacing → Cursor → Option (Spacing × Cursor)
  | 0, spacing, cursor => some (spacing, cursor)
  | fuel + 1, spacing, cursor =>
    match cursor.peek with
    | none => some (spacing, cursor)
    | some c =>
      if isSpaceOrTab c then
        if spacing.broken ∧ cursor.column < tabLimit ∧ c = '\t' then none
        else if spacing.broken then readSpacing tabLimit fuel spacing cursor.skip
        else
          readSpacing tabLimit fuel { spacing with blanks := spacing.blanks ++ [c] } cursor.skip
      else if isBreak c then
        let (text, next) := cursor.readBreak
        let spacing :=
          if spacing.broken then { spacing with trailing := spacing.trailing ++ text }
          else { blanks := [], leading := text, trailing := [], broken := true }
        readSpacing tabLimit fuel spacing next
      else some (spacing, cursor)

/-! Plain scalars. -/

/-- What a plain scalar cannot hold in a flow collection. -/
def isFlowIndicator (c : Char) : Bool :=
  c == ',' || c == '[' || c == ']' || c == '{' || c == '}'

/-- The characters up to the next gap or to what ends the scalar. In a flow collection a colon
directly before an indicator is refused. -/
def readPlainRun (inFlow : Bool) : Nat → List Char → Cursor → Option (List Char × Cursor)
  | 0, done, cursor => some (done, cursor)
  | fuel + 1, done, cursor =>
    match cursor.peek with
    | none => some (done, cursor)
    | some c =>
      if cursor.gapAt 0 then some (done, cursor)
      else if inFlow ∧ c = ':' ∧ cursor.at? 1 (fun d => isFlowIndicator d || d == '?') then none
      else if (c = ':' ∧ cursor.gapAt 1) ∨ (inFlow ∧ isFlowIndicator c) then some (done, cursor)
      else readPlainRun inFlow fuel (done ++ [c]) cursor.skip

/-- A plain scalar, and whether a line break was passed after its last character. -/
def readPlain (around : Surroundings) : Nat → List Char → Spacing → Cursor →
    Option (List Char × Bool × Cursor)
  | 0, done, spacing, cursor => some (done, spacing.broken, cursor)
  | fuel + 1, done, spacing, cursor =>
    let column := (around.indent + 1).toNat
    if cursor.atBorder ∨ cursor.peek = some '#' then some (done, spacing.broken, cursor)
    else
      match readPlainRun around.inFlow (cursor.rest.length + 1) [] cursor with
      | none => none
      | some (run, next) =>
        let (done, spacing) :=
          if run.isEmpty then (done, spacing) else (done ++ spacing.folded ++ run, {})
        if next.blankAt 0 ∨ next.breakAt 0 then
          match readSpacing column (next.rest.length + 1) spacing next with
          | none => none
          | some (spacing, after) =>
            if around.inFlow = false ∧ (after.column : Int) < around.indent + 1 then
              some (done, spacing.broken, after)
            else readPlain around fuel done spacing after
        else some (done, spacing.broken, next)

/-! Quoted scalars. -/

def hexDigit? (c : Char) : Option Nat :=
  if c.isDigit then some (c.toNat - 48)
  else if 'a' ≤ c ∧ c ≤ 'f' then some (c.toNat - 87)
  else if 'A' ≤ c ∧ c ≤ 'F' then some (c.toNat - 55)
  else none

def readHex? (width : Nat) (cursor : Cursor) : Option (Char × Cursor) := do
  if cursor.rest.length < width then none
  else
    let digits ← (cursor.rest.take width).mapM hexDigit?
    let code := digits.foldl (fun n d => n * 16 + d) 0
    if (0xd800 ≤ code ∧ code ≤ 0xdfff) ∨ 0x110000 ≤ code then none
    else return (Char.ofNat code, cursor.skip width)

def readEscape? (cursor : Cursor) : Option (Char × Cursor) := do
  let c ← cursor.peek
  let next := cursor.skip
  match c with
  | '0' => return (Char.ofNat 0, next)
  | 'a' => return (Char.ofNat 7, next)
  | 'b' => return (Char.ofNat 8, next)
  | 't' | '\t' => return ('\t', next)
  | 'n' => return ('\n', next)
  | 'v' => return (Char.ofNat 11, next)
  | 'f' => return (Char.ofNat 12, next)
  | 'r' => return ('\r', next)
  | 'e' => return (Char.ofNat 27, next)
  | ' ' => return (' ', next)
  | '"' => return ('"', next)
  | '/' => return ('/', next)
  | '\\' => return ('\\', next)
  | 'N' => return (Char.ofNat 0x85, next)
  | '_' => return (Char.ofNat 0xa0, next)
  | 'L' => return (Char.ofNat 0x2028, next)
  | 'P' => return (Char.ofNat 0x2029, next)
  | 'x' => readHex? 2 next
  | 'u' => readHex? 4 next
  | 'U' => readHex? 8 next
  | _ => none

/-- The characters up to the next gap or the closing quote, and whether an escaped line break
came first. -/
def readQuotedRun (double : Bool) : Nat → List Char → Cursor →
    Option (List Char × Bool × Cursor)
  | 0, done, cursor => some (done, false, cursor)
  | fuel + 1, done, cursor =>
    if cursor.gapAt 0 then some (done, false, cursor)
    else
      match cursor.rest with
      | [] => some (done, false, cursor)
      | c :: _ =>
        if double = false ∧ c = '\'' then
          if cursor.peekAt 1 = some '\'' then
            readQuotedRun double fuel (done ++ ['\'']) (cursor.skip 2)
          else some (done, false, cursor)
        else if double ∧ c = '"' then some (done, false, cursor)
        else if double ∧ c = '\\' then
          if cursor.breakAt 1 then some (done, true, cursor.skip.skipBreak)
          else
            match readEscape? cursor.skip with
            | some (e, next) => readQuotedRun double fuel (done ++ [e]) next
            | none => none
        else readQuotedRun double fuel (done ++ [c]) cursor.skip

def readQuoted (double : Bool) : Nat → List Char → Cursor → Option (List Char × Cursor)
  | 0, _, _ => none
  | fuel + 1, done, cursor =>
    if cursor.atBorder ∨ cursor.endAt 0 then none
    else
      match readQuotedRun double (cursor.rest.length + 1) [] cursor with
      | none => none
      | some (run, escapedBreak, next) =>
        let done := done ++ run
        if ¬ escapedBreak ∧ next.peek = some (if double then '"' else '\'') then
          some (done, next.skip)
        else
          match readSpacing 0 (next.rest.length + 1) { broken := escapedBreak } next with
          | none => none
          | some (spacing, after) => readQuoted double fuel (done ++ spacing.folded) after

/-! Block scalars. -/

/-- What happens to the line breaks at the end of a block scalar. -/
inductive Chomping
  | strip
  | clip
  | keep
deriving DecidableEq, Repr

structure BlockHeader where
  chomping : Chomping := .clip
  increment : Option Nat := none

def chompingMark? : Option Char → Option Chomping
  | some '+' => some .keep
  | some '-' => some .strip
  | _ => none

/-- A digit of the header, where a zero is refused. -/
def readIncrement? (header : BlockHeader) (cursor : Cursor) : Option (BlockHeader × Cursor) :=
  match cursor.peek with
  | some c =>
    if c = '0' then none
    else if c.isDigit then some ({ header with increment := some (c.toNat - 48) }, cursor.skip)
    else some (header, cursor)
  | none => some (header, cursor)

/-- The marks after the indicator of a block scalar, in either order. -/
def readBlockHeader? (cursor : Cursor) : Option (BlockHeader × Cursor) :=
  match chompingMark? cursor.peek with
  | some chomping => readIncrement? { chomping } cursor.skip
  | none =>
    match readIncrement? {} cursor with
    | none => none
    | some (header, next) =>
      match header.increment, chompingMark? next.peek with
      | some _, some chomping => some ({ header with chomping }, next.skip)
      | _, _ => some (header, next)

/-- The rest of a line that may hold blanks and a comment only, up to its break. -/
def skipLineTail? (cursor : Cursor) : Option Cursor :=
  let cursor := cursor.skipWhile isSpaceOrTab
  let cursor := if cursor.peek = some '#' then cursor.skipWhile (!isBreak ·) else cursor
  if cursor.lineEndAt 0 then some cursor.skipBreak else none

/-- Passes over empty lines and indentation. Where the indentation is not known yet, the widest
line decides; the result has the breaks, the widest column, and the place. -/
def readEmptyLines (indent : Nat) : Nat → List Char → Nat → Cursor →
    Option (List Char × Nat × Cursor)
  | 0, breaks, widest, cursor => some (breaks, widest, cursor)
  | fuel + 1, breaks, widest, cursor =>
    let spaces := (cursor.rest.takeWhile (· == ' ')).length
    let eaten := if indent = 0 then spaces else min spaces (indent - cursor.column)
    let cursor := cursor.skip eaten
    let widest := max widest cursor.column
    if (indent = 0 ∨ cursor.column < indent) ∧ cursor.peek = some '\t' then none
    else if cursor.breakAt 0 then
      let (text, next) := cursor.readBreak
      readEmptyLines indent fuel (breaks ++ text) widest next
    else some (breaks, widest, cursor)

structure BlockText where
  done : List Char := []
  leading : List Char := []
  trailing : List Char := []
  leadingBlank : Bool := false

/-- The lines of a block scalar from the first that is not empty. -/
def readBlockLines (folded : Bool) (indent : Nat) : Nat → BlockText → Cursor →
    Option (BlockText × Cursor)
  | 0, text, cursor => some (text, cursor)
  | fuel + 1, text, cursor =>
    if cursor.column ≠ indent ∨ cursor.endAt 0 then some (text, cursor)
    else
      let trailingBlank := cursor.blankAt 0
      let joint :=
        if folded ∧ text.leading.head? = some '\n' ∧ ¬ text.leadingBlank ∧ ¬ trailingBlank then
          if text.trailing.isEmpty then [' '] else []
        else text.leading
      let (line, next) := cursor.takeWhile (!isBreak ·)
      let (leading, next) := next.readBreak
      match readEmptyLines indent (next.rest.length + 1) [] 0 next with
      | none => none
      | some (trailing, _, after) =>
        readBlockLines folded indent fuel
          ⟨text.done ++ joint ++ text.trailing ++ line, leading, trailing, trailingBlank⟩ after

def readBlock? (around : Surroundings) (folded : Bool) (cursor : Cursor) :
    Option (List Char × Cursor) := do
  let (header, next) ← readBlockHeader? cursor
  let next ← skipLineTail? next
  let outer := around.indent.toNat
  let stated := (header.increment.map (outer + ·)).getD 0
  let (breaks, widest, next) ← readEmptyLines stated (next.rest.length + 1) [] 0 next
  let indent := if stated ≠ 0 then stated else max 1 (max widest (around.indent + 1).toNat)
  let (text, next) ← readBlockLines folded indent (next.rest.length + 1) { trailing := breaks } next
  let last := if header.chomping = .strip then [] else text.leading
  let tail := if header.chomping = .keep then text.trailing else []
  return (text.done ++ last ++ tail, next)

/-! Anchors, tags and directives. -/

def readAnchor? (cursor : Cursor) : Option (String × Cursor) :=
  let (name, next) := cursor.takeWhile isNameChar
  let ends := next.gapAt 0 || next.at? 0 fun c => "?:,]\x7d%@`".toList.contains c
  if name.isEmpty || !ends then none else some (String.ofList name, next)

def isUriChar (wide : Bool) (c : Char) : Bool :=
  isNameChar c || ";/?:@&=+$.%!~*'()".toList.contains c ||
  (wide && (c == ',' || c == '[' || c == ']'))

/-- Octets of one character in the usual encoding, after the first. -/
def continuation (first : Nat) : Option Nat :=
  if first < 0x80 then some 0
  else if 0xc0 ≤ first ∧ first < 0xe0 then some 1
  else if 0xe0 ≤ first ∧ first < 0xf0 then some 2
  else if 0xf0 ≤ first ∧ first < 0xf8 then some 3
  else none

def readOctet? (cursor : Cursor) : Option (Nat × Cursor) :=
  match cursor.rest with
  | '%' :: a :: b :: _ => do
    let a ← hexDigit? a
    let b ← hexDigit? b
    return (a * 16 + b, cursor.skip 3)
  | _ => none

def readOctets? : Nat → Nat → Cursor → Option (Nat × Cursor)
  | 0, code, cursor => some (code, cursor)
  | n + 1, code, cursor => do
    let (octet, next) ← readOctet? cursor
    if 0x80 ≤ octet ∧ octet < 0xc0 then readOctets? n (code * 64 + (octet - 0x80)) next else none

def readUriEscape? (cursor : Cursor) : Option (Char × Cursor) := do
  let (first, next) ← readOctet? cursor
  let more ← continuation first
  let start := if more = 0 then first else first % (64 >>> more)
  let (code, next) ← readOctets? more start next
  return (Char.ofNat code, next)

def readUri (wide : Bool) : Nat → List Char → Cursor → Option (List Char × Cursor)
  | 0, done, cursor => some (done, cursor)
  | fuel + 1, done, cursor =>
    match cursor.peek with
    | some '%' =>
      match readUriEscape? cursor with
      | some (c, next) => readUri wide fuel (done ++ [c]) next
      | none => none
    | some c =>
      if isUriChar wide c then readUri wide fuel (done ++ [c]) cursor.skip else some (done, cursor)
    | none => some (done, cursor)

/-- The handle of a tag, with its exclamation marks. In a directive it has two unless it is a
single mark. -/
def readTagHandle? (directive : Bool) (cursor : Cursor) : Option (List Char × Cursor) :=
  if cursor.peek = some '!' then
    let (name, next) := cursor.skip.takeWhile isNameChar
    if next.peek = some '!' then some ('!' :: name ++ ['!'], next.skip)
    else if directive ∧ ¬ name.isEmpty then none
    else some ('!' :: name, next)
  else none

/-- A tag in full, or by a handle and a suffix. A lone mark is a tag of its own. -/
def readTag? (inFlow : Bool) (cursor : Cursor) : Option (Token × Cursor) := do
  let (tag, next) ←
    if cursor.peekAt 1 = some '<' then do
      let (uri, next) ← readUri true (cursor.rest.length + 1) [] (cursor.skip 2)
      if uri.isEmpty ∨ next.peek ≠ some '>' then none
      else pure (Token.tag "" (String.ofList uri), next.skip)
    else do
      let (handle, next) ← readTagHandle? false cursor
      if handle.length > 1 ∧ handle.getLast? = some '!' then
        let (suffix, next) ← readUri false (next.rest.length + 1) [] next
        if suffix.isEmpty then none
        else pure (Token.tag (String.ofList handle) (String.ofList suffix), next)
      else
        let (more, next) ← readUri false (next.rest.length + 1) [] next
        let suffix := handle.drop 1 ++ more
        if suffix.isEmpty then pure (Token.tag "" "!", next)
        else pure (Token.tag "!" (String.ofList suffix), next)
  if next.gapAt 0 ∨ (inFlow ∧ next.peek = some ',') then return (tag, next) else none

/-- A number of at most nine digits. -/
def readVersionNumber? (cursor : Cursor) : Option (Nat × Cursor) :=
  let (digits, next) := cursor.takeWhile Char.isDigit
  if digits.isEmpty ∨ 9 < digits.length then none
  else some (digits.foldl (fun n c => n * 10 + (c.toNat - 48)) 0, next)

def readVersion? (cursor : Cursor) : Option (Token × Cursor) := do
  let (major, next) ← readVersionNumber? (cursor.skipWhile isSpaceOrTab)
  if next.peek = some '.' then
    let (minor, next) ← readVersionNumber? next.skip
    return (.versionDirective major minor, next)
  else none

def readTagDirective? (cursor : Cursor) : Option (Token × Cursor) := do
  let (handle, next) ← readTagHandle? true (cursor.skipWhile isSpaceOrTab)
  if next.blankAt 0 then
    let next := next.skipWhile isSpaceOrTab
    let (start, next) ← readUri true (next.rest.length + 1) [] next
    if start.isEmpty ∨ ¬ next.gapAt 0 then none
    else return (.tagDirective (String.ofList handle) (String.ofList start), next)
  else none

def readDirective? (cursor : Cursor) : Option (Token × Cursor) := do
  let (name, next) := cursor.takeWhile isNameChar
  if ¬ next.gapAt 0 then none
  else
    let (token, next) ←
      match String.ofList name with
      | "YAML" => readVersion? next
      | "TAG" => readTagDirective? next
      | _ => none
    let next ← skipLineTail? next
    return (token, next)

end PromptKernel.Yaml
