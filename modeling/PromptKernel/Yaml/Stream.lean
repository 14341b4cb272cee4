import PromptKernel.Yaml.Token

/-! The token stream of a document. Indentation opens and closes block collections, and a colon
can turn what was read before it into a key, so tokens are put in front of ones already read. -/

namespace PromptKernel.Yaml

/-- A place where a mapping key may have started: the position in the stream, where it stood, and
whether a key is due there. -/
structure PossibleKey where
  position : Nat
  index : Nat
  line : Nat
  column : Nat
  required : Bool

structure Stream where
  cursor : Cursor
  tokens : Array Token := #[]
  /-- The column of the innermost block collection and those of the ones around it. -/
  indent : Int := -1
  outer : List Int := []
  /-- One place for each level of flow collections, the innermost first. -/
  keys : List (Option PossibleKey) := [none]
  keyAllowed : Bool := true

namespace Stream

def inFlow (s : Stream) : Bool := 1 < s.keys.length

def around (s : Stream) : Surroundings := ⟨s.indent, s.inFlow⟩

def push (s : Stream) (token : Token) : Stream := { s with tokens := s.tokens.push token }

/-- Puts a token in front of the one at the position. -/
def insertAt (s : Stream) (position : Nat) (token : Token) : Stream :=
  let tokens := s.tokens.toList
  { s with tokens := (tokens.take position ++ token :: tokens.drop position).toArray }

/-- A place for a key is lost on the next line and beyond 1024 characters. -/
def dropStaleKeys (s : Stream) : Option Stream := do
  let keys ← s.keys.mapM fun key =>
    match key with
    | some key =>
      if key.line < s.cursor.line ∨ key.index + 1024 < s.cursor.index then
        if key.required then none else some none
      else some (some key)
    | none => some none
  return { s with keys }

def removeKey (s : Stream) : Option Stream :=
  match s.keys with
  | some key :: keys => if key.required then none else some { s with keys := none :: keys }
  | _ => some s

def saveKey (s : Stream) : Option Stream := do
  if s.keyAllowed then
    let c := s.cursor
    let key : PossibleKey :=
      ⟨s.tokens.size, c.index, c.line, c.column, !s.inFlow && s.indent == (c.column : Int)⟩
    let s ← s.removeKey
    return { s with keys := some key :: s.keys.drop 1 }
  else return s

/-- Opens a block collection when the column lies further in. -/
def rollIndent (s : Stream) (column : Nat) (position : Option Nat) (token : Token) : Stream :=
  if s.inFlow = false ∧ s.indent < column then
    let s := { s with indent := column, outer := s.indent :: s.outer }
    match position with
    | some position => s.insertAt position token
    | none => s.push token
  else s

/-- Closes the block collections that lie further in than the column. -/
def unrollIndent (s : Stream) (column : Int) : Stream :=
  if s.inFlow then s else go (s.outer.length + 1) s
where
  go : Nat → Stream → Stream
    | 0, s => s
    | fuel + 1, s =>
      if column < s.indent then
        match s.outer with
        | indent :: outer => go fuel { s.push .blockEnd with indent, outer }
        | [] => s
      else s

/-- Passes over blanks, comments and line breaks between tokens. -/
def skipToToken (s : Stream) : Stream := go (s.cursor.rest.length + 1) s
where
  go : Nat → Stream → Stream
    | 0, s => s
    | fuel + 1, s =>
      let cursor :=
        if s.cursor.index = 0 ∧ s.cursor.at? 0 isByteOrderMark then s.cursor.skip else s.cursor
      let tabs := s.inFlow || !s.keyAllowed
      let cursor := cursor.skipWhile fun c => c == ' ' || (tabs && c == '\t')
      let cursor :=
        if cursor.peek = some '#' then cursor.skipWhile (!isBreak ·) else cursor
      if cursor.breakAt 0 then
        go fuel { s with cursor := cursor.skipBreak, keyAllowed := s.keyAllowed || !s.inFlow }
      else { s with cursor }

def skip (s : Stream) (n : Nat := 1) : Stream := { s with cursor := s.cursor.skip n }

def allowKey (s : Stream) (allowed : Bool) : Stream := { s with keyAllowed := allowed }

def flowStart (s : Stream) (token : Token) : Option Stream := do
  let s ← s.saveKey
  return ({ s with keys := none :: s.keys, keyAllowed := true }.skip).push token

def flowEnd (s : Stream) (token : Token) : Option Stream := do
  let s ← s.removeKey
  let keys := if s.inFlow then s.keys.drop 1 else s.keys
  return ({ s with keys, keyAllowed := false }.skip).push token

def flowEntry (s : Stream) : Option Stream := do
  let s ← s.removeKey
  return ((s.allowKey true).skip).push .flowEntry

def blockEntry (s : Stream) : Option Stream := do
  let s ←
    if s.inFlow then some s
    else if s.keyAllowed then some (s.rollIndent s.cursor.column none .blockSequenceStart)
    else none
  let s ← s.removeKey
  return ((s.allowKey true).skip).push .blockEntry

def explicitKey (s : Stream) : Option Stream := do
  let s ←
    if s.inFlow then some s
    else if s.keyAllowed then some (s.rollIndent s.cursor.column none .blockMappingStart)
    else none
  let s ← s.removeKey
  return ((s.allowKey (!s.inFlow)).skip).push .key

/-- A colon. What stands at the possible place becomes the key. -/
def mappingValue (s : Stream) : Option Stream :=
  match s.keys with
  | some key :: keys =>
    let s := s.insertAt key.position .key
    let s := s.rollIndent key.column (some key.position) .blockMappingStart
    some (({ s with keys := none :: keys, keyAllowed := false }.skip).push .value)
  | _ => do
    let s ←
      if s.inFlow then some s
      else if s.keyAllowed then some (s.rollIndent s.cursor.column none .blockMappingStart)
      else none
    return ((s.allowKey (!s.inFlow)).skip).push .value

def anchored (s : Stream) (token : String → Token) : Option Stream := do
  let s ← s.saveKey
  let (name, cursor) ← readAnchor? s.cursor.skip
  return { s with cursor, keyAllowed := false }.push (token name)

def tagged (s : Stream) : Option Stream := do
  let s ← s.saveKey
  let (tag, cursor) ← readTag? s.inFlow s.cursor
  return { s with cursor, keyAllowed := false }.push tag

def blockScalar (s : Stream) (folded : Bool) : Option Stream := do
  let s ← s.removeKey
  let (text, cursor) ← readBlock? s.around folded s.cursor.skip
  let style := if folded then Style.folded else .literal
  return { s with cursor, keyAllowed := true }.push (.scalar (String.ofList text) style)

def quotedScalar (s : Stream) (double : Bool) : Option Stream := do
  let s ← s.saveKey
  let start := s.cursor.skip
  let (text, cursor) ← readQuoted double (start.rest.length + 1) [] start
  return { s with cursor, keyAllowed := false }.push (.scalar (String.ofList text) .quoted)

def plainScalar (s : Stream) : Option Stream := do
  let s ← s.saveKey
  let (text, broken, cursor) ← readPlain s.around (s.cursor.rest.length + 1) [] {} s.cursor
  return { s with cursor, keyAllowed := broken }.push (.scalar (String.ofList text) .plain)

/-- Leaves all block collections before a directive or the border of a document. -/
def leave (s : Stream) : Option Stream := do
  let s ← (s.unrollIndent (-1)).removeKey
  return s.allowKey false

def directive (s : Stream) : Option Stream := do
  let s ← s.leave
  let (token, cursor) ← readDirective? s.cursor.skip
  return { s with cursor }.push token

def border (s : Stream) (token : Token) : Option Stream := do
  let s ← s.leave
  return (s.skip 3).push token

/-- The end of the stream stands at the start of a line. -/
def finish (s : Stream) : Option Stream := do
  let cursor := s.cursor
  let cursor :=
    if cursor.column = 0 then cursor else { cursor with line := cursor.line + 1, column := 0 }
  let s ← { s with cursor }.leave
  return s.push .streamEnd

/-- Characters that start no plain scalar, whatever follows them. -/
def isIndicator (c : Char) : Bool :=
  "-?:,[]\x7b\x7d#&*!|>'\"%@`".toList.contains c

/-- A tab is left over where it could be taken for indentation. -/
def startsPlain (s : Stream) (c : Char) : Bool :=
  (!isIndicator c && !isSpaceOrTab c) || (c == '-' && !s.cursor.blankAt 1) ||
  (!s.inFlow && (c == '?' || c == ':') && !s.cursor.gapAt 1)

/-- Reads the token that starts with the character at the cursor. -/
def dispatch (s : Stream) (c : Char) : Option Stream :=
  let first := s.cursor.column == 0
  let gap := s.cursor.gapAt 1
  if first && c == '%' then s.directive
  else if s.cursor.atBorder then s.border (if c = '-' then .documentStart else .documentEnd)
  else if c = '[' then s.flowStart .flowSequenceStart
  else if c = '{' then s.flowStart .flowMappingStart
  else if c = ']' then s.flowEnd .flowSequenceEnd
  else if c = '}' then s.flowEnd .flowMappingEnd
  else if c = ',' then s.flowEntry
  else if c == '-' && gap then s.blockEntry
  else if c == '?' && (s.inFlow || gap) then s.explicitKey
  else if c == ':' && (s.inFlow || gap) then s.mappingValue
  else if c = '*' then s.anchored .alias
  else if c = '&' then s.anchored .anchor
  else if c = '!' then s.tagged
  else if c == '|' && !s.inFlow then s.blockScalar false
  else if c == '>' && !s.inFlow then s.blockScalar true
  else if c = '\'' then s.quotedScalar false
  else if c = '"' then s.quotedScalar true
  else if s.startsPlain c then s.plainScalar
  else none

/-- Reads tokens to the end. Each step but the last takes a character, so the length bounds them. -/
def readAll : Nat → Stream → Option (List Token)
  | 0, _ => none
  | fuel + 1, s =>
    match (s.skipToToken).dropStaleKeys with
    | none => none
    | some s =>
      let s := s.unrollIndent s.cursor.column
      match s.cursor.peek with
      | none => s.finish.map fun s => s.tokens.toList
      | some c =>
        match s.dispatch c with
        | some s => readAll fuel s
        | none => none

end Stream

def tokens? (text : String) : Option (List Token) :=
  let chars := text.toList
  if chars.all isAllowed then Stream.readAll (chars.length + 1) { cursor := { rest := chars } }
  else none

end PromptKernel.Yaml
