import PromptKernel.Toml.Scalar

/-! TOML documents. A document is read line by line into a tree whose tables remember how they
came about, since that decides whether they may still be extended. -/

namespace PromptKernel.Toml

/-- How a table came about. -/
inductive Origin
  /-- By a header for a table inside of it. -/
  | implied
  /-- By a header of its own. -/
  | header
  /-- By a dotted key. -/
  | dotted
deriving DecidableEq, Repr

inductive Tree
  | value (v : Toml)
  | table (origin : Origin) (entries : List (String × Tree))
  /-- The tables of an array by headers, the last one first. -/
  | tables (items : List (List (String × Tree)))

abbrev Entries := List (String × Tree)

namespace Entries

def get? (entries : Entries) (key : String) : Option Tree := Fields.get? entries key

def set (entries : Entries) (key : String) (tree : Tree) : Entries := Fields.insert entries key tree

end Entries

/-- Changes the table at the end of a path of headers. Missing tables are implied. -/
def atHeader? (change : Entries → Option Entries) : List String → Entries → Option Entries
  | [], entries => change entries
  | key :: path, entries =>
    match entries.get? key with
    | none => (atHeader? change path []).map fun inner => entries.set key (.table .implied inner)
    | some (.table origin inner) =>
      (atHeader? change path inner).map fun inner => entries.set key (.table origin inner)
    | some (.tables (last :: items)) =>
      (atHeader? change path last).map fun last => entries.set key (.tables (last :: items))
    | some _ => none

/-- Opens a table by its header. One that was only implied so far becomes a table of its own. -/
def openTable? (key : String) (entries : Entries) : Option Entries :=
  match entries.get? key with
  | none => some (entries.set key (.table .header []))
  | some (.table .implied inner) => some (entries.set key (.table .header inner))
  | some _ => none

def openTables? (key : String) (entries : Entries) : Option Entries :=
  match entries.get? key with
  | none => some (entries.set key (.tables [[]]))
  | some (.tables items) => some (entries.set key (.tables ([] :: items)))
  | some _ => none

/-- Puts a value under a dotted key. The table that gets it is made by such a key. On the way there
may be tables without a header of their own and the last tables of arrays. -/
def assign? (value : Tree) : List String → Entries → Option Entries
  | [], _ => none
  | [key], entries =>
    match entries.get? key with
    | none => some (entries.set key value)
    | some _ => none
  | key :: path, entries =>
    match entries.get? key with
    | none => (assign? value path []).map fun inner => entries.set key (.table .dotted inner)
    | some (.table .dotted inner) =>
      (assign? value path inner).map fun inner => entries.set key (.table .dotted inner)
    | some (.table .implied inner) =>
      if path.length = 1 then none
      else (assign? value path inner).map fun inner => entries.set key (.table .implied inner)
    | some (.tables (last :: items)) =>
      if path.length = 1 then none
      else (assign? value path last).map fun last => entries.set key (.tables (last :: items))
    | some _ => none

mutual

def Tree.close : Tree → Toml
  | .value v => v
  | .table _ entries => .table (closeEntries entries)
  | .tables items => .array (closeTables items).reverse

def closeEntries : List (String × Tree) → List (String × Toml)
  | [] => []
  | (key, tree) :: entries => (key, tree.close) :: closeEntries entries

def closeTables : List (List (String × Tree)) → List Toml
  | [] => []
  | entries :: items => .table (closeEntries entries) :: closeTables items

end

/-! Keys. -/

def isBareKeyChar (c : Char) : Bool := c.isAlphanum || c == '_' || c == '-'

def simpleKey? (text : List Char) : Option (String × List Char) :=
  match text with
  | '"' :: '"' :: '"' :: _ | '\'' :: '\'' :: '\'' :: _ => none
  | '"' :: rest =>
    (basic? (rest.length + 1) [] rest).map fun (key, rest) => (String.ofList key, rest)
  | '\'' :: rest => (literal? [] rest).map fun (key, rest) => (String.ofList key, rest)
  | _ =>
    let key := text.takeWhile isBareKeyChar
    if key.isEmpty then none else some (String.ofList key, text.dropWhile isBareKeyChar)

/-- How deep values may be nested, and how many parts a key may have. -/
def depthLimit : Nat := 80

/-- A key of at most so many parts with points between them. -/
def parts? : Nat → List Char → Option (List String × List Char)
  | 0, _ => none
  | count + 1, text =>
    match simpleKey? (text.dropWhile isWs) with
    | none => none
    | some (part, rest) =>
      match rest.dropWhile isWs with
      | '.' :: rest => (parts? count rest).map fun (parts, rest) => (part :: parts, rest)
      | rest => some ([part], rest)

def key? (text : List Char) : Option (List String × List Char) := parts? depthLimit text

/-! Values. -/

/-- The rest after a comment, which has no control characters. -/
def comment? (text : List Char) : Option (List Char) :=
  match text with
  | '#' :: rest =>
    let body := rest.takeWhile fun c => c != '\n' && c != '\r'
    if body.any isControl then none else some (rest.drop body.length)
  | text => some text

/-- Blanks, line breaks and comments inside of brackets. -/
def skipLines? : Nat → List Char → Option (List Char)
  | 0, text => some text
  | fuel + 1, text =>
    match text.dropWhile isWs with
    | '#' :: rest => (comment? ('#' :: rest)).bind (skipLines? fuel)
    | rest =>
      match lineBreak? rest with
      | some rest => skipLines? fuel rest
      | none => some rest

def skipInner? (text : List Char) : Option (List Char) := skipLines? (text.length + 1) text

mutual

/-- A value. `depth` is what is left for nesting. -/
def value? : Nat → Nat → List Char → Option (Toml × List Char)
  | 0, _, _ => none
  | fuel + 1, depth, text =>
    match text, depth with
    | '"' :: _, _ | '\'' :: _, _ =>
      (stringValue? text).map fun (s, rest) => (.string (String.ofList s), rest)
    | '[' :: _, 0 | '{' :: _, 0 => none
    | '[' :: rest, depth + 1 =>
      match skipInner? rest with
      | none => none
      | some rest => (arrayItems? fuel depth [] rest).map fun (items, rest) => (.array items, rest)
    | '{' :: rest, depth + 1 =>
      match skipInner? rest with
      | none => none
      | some rest =>
        (inlineEntries? fuel depth [] rest).map fun (entries, rest) =>
          (.table (closeEntries entries), rest)
    | _, _ =>
      let (atom, rest) := atom text
      (unquoted? atom).map fun v => (v, rest)

/-- The items of an array. A comma may follow the last one. -/
def arrayItems? : Nat → Nat → List Toml → List Char → Option (List Toml × List Char)
  | 0, _, _, _ => none
  | fuel + 1, depth, done, text =>
    match text with
    | ']' :: rest => some (done.reverse, rest)
    | _ =>
      match value? fuel depth text with
      | none => none
      | some (item, rest) =>
        match skipInner? rest with
        | some (',' :: rest) =>
          match skipInner? rest with
          | some rest => arrayItems? fuel depth (item :: done) rest
          | none => none
        | some (']' :: rest) => some ((item :: done).reverse, rest)
        | _ => none

/-- The entries of an inline table. A comma may follow the last one. -/
def inlineEntries? : Nat → Nat → Entries → List Char → Option (Entries × List Char)
  | 0, _, _, _ => none
  | fuel + 1, depth, done, text =>
    match text with
    | '}' :: rest => some (done, rest)
    | _ =>
      match assignment? fuel depth done text with
      | none => none
      | some (done, rest) =>
        match skipInner? rest with
        | some (',' :: rest) =>
          match skipInner? rest with
          | some rest => inlineEntries? fuel depth done rest
          | none => none
        | some ('}' :: rest) => some (done, rest)
        | _ => none

/-- A key with its value, put into the entries. -/
def assignment? : Nat → Nat → Entries → List Char → Option (Entries × List Char)
  | 0, _, _, _ => none
  | fuel + 1, depth, entries, text =>
    match key? text with
    | some (path, '=' :: rest) =>
      match value? fuel depth (rest.dropWhile isWs) with
      | some (v, rest) => (assign? (.value v) path entries).map fun entries => (entries, rest)
      | none => none
    | _ => none

end

/-! Lines. -/

/-- The rest after the end of a line, which may hold blanks and a comment before it. -/
def lineEnd? (text : List Char) : Option (List Char) :=
  match comment? (text.dropWhile isWs) with
  | some [] => some []
  | some rest => lineBreak? rest
  | none => none

/-- The path in a header, up to its closing brackets. -/
def headerPath? (closing : String) (text : List Char) : Option (List String × List Char) := do
  let (path, rest) ← key? text
  if closing.toList.isPrefixOf rest then return (path, rest.drop closing.length) else none

/-- The document so far: all entries, and the header under which new ones go. -/
structure State where
  root : Entries := []
  path : List String := []

def header? (state : State) (text : List Char) : Option (State × List Char) := do
  let (openIt, path, rest) ←
    match text with
    | '[' :: '[' :: rest =>
      (headerPath? "]]" rest).map fun (path, rest) => (openTables?, path, rest)
    | '[' :: rest => (headerPath? "]" rest).map fun (path, rest) => (openTable?, path, rest)
    | _ => none
  let last ← path.getLast?
  let root ← atHeader? (openIt last) path.dropLast state.root
  return ({ root, path }, rest)

def entry? (state : State) (text : List Char) : Option (State × List Char) := do
  let (path, rest) ← key? text
  match rest with
  | '=' :: rest =>
    let (v, rest) ← value? (2 * rest.length + 2) depthLimit (rest.dropWhile isWs)
    let root ← atHeader? (assign? (.value v) path) state.path state.root
    return ({ state with root }, rest)
  | _ => none

def lines? : Nat → State → List Char → Option State
  | 0, _, _ => none
  | fuel + 1, state, text =>
    match text.dropWhile isWs with
    | [] => some state
    | c :: rest =>
      if c = '#' ∨ (lineBreak? (c :: rest)).isSome then
        (lineEnd? (c :: rest)).bind fun rest => lines? fuel state rest
      else
        match (if c = '[' then header? state (c :: rest) else entry? state (c :: rest)) with
        | some (state, rest) =>
          match lineEnd? rest with
          | some [] => some state
          | some rest => lines? fuel state rest
          | none => none
        | none => none

def document? (text : String) : Option (List (String × Toml)) := do
  let chars := text.toList
  let chars := if chars.head? = some (Char.ofNat 0xfeff) then chars.drop 1 else chars
  let state ← lines? (chars.length + 1) {} chars
  let entries := closeEntries state.root
  if boundedEntries entries then return entries else none

end PromptKernel.Toml
