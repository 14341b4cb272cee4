import PromptKernel.Json.Parser
import PromptKernel.Text.Search
import PromptKernel.Template.Syntax

/-! Tags, the parts of a template in braces, and how they are read. Blanks may stand between all
parts of a tag. -/

namespace PromptKernel.Template

inductive TagKind
  | output (e : Expression)
  | blockStart (e : Expression) (names : List String)
  | rawStart (e : Expression) (names : List String)
  | rawEnd (name : String)
  /-- A closing tag, which may repeat a name. -/
  | close (name : Option String)
  | otherwise
  /-- An else that goes on with a block of its own. -/
  | otherwiseIf (e : Expression) (names : List String)
  | decorator (e : Expression)
  | decoratorStart (e : Expression)
  | inclusion (e : Expression)
  | inclusionStart (e : Expression)
  | comment

/-- A tag with its marks for dropping the white space around it. -/
structure Tag where
  kind : TagKind
  trimBefore : Bool := false
  trimAfter : Bool := false

def isGap (c : Char) : Bool := c == ' ' || c == '\t' || c == '\n' || c == '\r'

def skipGap (text : List Char) : List Char := text.dropWhile isGap

def isSymbol (c : Char) : Bool :=
  c.isAlphanum || "_-$:".toList.contains c || 0x80 ≤ c.toNat

def isPartialSymbol (c : Char) : Bool :=
  c.isAlphanum || "_-/.".toList.contains c || 0x80 ≤ c.toNat

def startsWithSymbol : List Char → Bool
  | c :: _ => isSymbol c
  | [] => false

def identifier? (text : List Char) : Option (String × List Char) :=
  let name := text.takeWhile isSymbol
  if name.isEmpty then none else some (String.ofList name, text.dropWhile isSymbol)

def expect? (expected : String) (text : List Char) : Option (List Char) :=
  if expected.toList.isPrefixOf text then some (text.drop expected.length) else none

/-! Paths. -/

def isSeparator (c : Char) : Bool := c == '/' || c == '.'

/-- A key of a path, bare or in brackets. The word "this" stands for no step either way. -/
def pathItem? (text : List Char) : Option (List Step × List Char) :=
  let step (name : String) : List Step := if name = "this" then [] else [.key name]
  match text with
  | '[' :: rest =>
    match rest.dropWhile (· != ']') with
    | _ :: after => some (step (String.ofList (rest.takeWhile (· != ']'))), after)
    | [] => none
  | _ => (identifier? text).map fun (name, rest) => (step name, rest)

/-- The further keys of a path. A separator that no key follows is not part of it. -/
def pathItems : Nat → List Char → List Step × List Char
  | 0, text => ([], text)
  | fuel + 1, text =>
    match text with
    | c :: rest =>
      if isSeparator c then
        match pathItem? rest with
        | some (first, rest) =>
          let (steps, rest) := pathItems fuel rest
          (first ++ steps, rest)
        | none => ([], text)
      else ([], text)
    | [] => ([], text)

/-- Steps to enclosing blocks. -/
def pathUps : List Char → List Step × List Char
  | '.' :: '.' :: c :: rest =>
    if isSeparator c then
      let (ups, rest) := pathUps rest
      (.up :: ups, rest)
    else ([], '.' :: '.' :: c :: rest)
  | text => ([], text)

/-- A leading reference to the current context. -/
def skipCurrent (text : List Char) : List Char :=
  match text with
  | '.' :: '/' :: rest => rest
  | 't' :: 'h' :: 'i' :: 's' :: c :: rest => if isSeparator c then rest else text
  | _ => text

/-- A leading reference to the root. -/
def pathRoot (text : List Char) : List Step × List Char :=
  match expect? "@root" text with
  | some (c :: rest) => if isSeparator c then ([.root], rest) else ([], text)
  | _ => ([], text)

def path? (text : List Char) : Option (Path × List Char) := do
  let rest := skipCurrent text
  let (root, rest) := pathRoot rest
  let (isFrame, rest) :=
    match rest with
    | '@' :: rest => (true, rest)
    | rest => (false, rest)
  let (ups, rest) := pathUps rest
  let (first, rest) ← pathItem? rest
  let (more, rest) := pathItems (rest.length + 1) rest
  let written := String.ofList (text.take (text.length - rest.length))
  let items := first ++ more
  match isFrame && root.isEmpty, items with
  | true, .key name :: _ => return (.frame written ups.length name, rest)
  | true, [] => return (.steps written [], rest)
  | _, _ => return (.steps written (root ++ ups ++ items), rest)

/-! Literals. -/

/-- The end of a quoted literal, after its opening quote. Every escape of JSON may stand inside,
and one of the quote itself. -/
def quotedEnd? (quote : Char) : Nat → List Char → Option (List Char)
  | 0, _ => none
  | fuel + 1, text =>
    match text with
    | [] => none
    | '\\' :: 'u' :: a :: b :: c :: d :: rest =>
      if [a, b, c, d].all fun x => (Json.hexValue? x).isSome then quotedEnd? quote fuel rest
      else none
    | '\\' :: c :: rest =>
      if c = quote ∨ "\\/bfnrt".toList.contains c then quotedEnd? quote fuel rest else none
    | c :: rest => if c = quote then some rest else quotedEnd? quote fuel rest

def skipSign : List Char → List Char
  | '-' :: rest => rest
  | rest => rest

def skipFraction : List Char → List Char
  | '.' :: rest => rest.dropWhile Char.isDigit
  | rest => rest

def skipExponent (text : List Char) : List Char :=
  match text with
  | 'E' :: '-' :: d :: rest => if d.isDigit then rest.dropWhile Char.isDigit else text
  | 'E' :: d :: rest => if d.isDigit then rest.dropWhile Char.isDigit else text
  | rest => rest

/-- The end of a number. No name may follow it directly. -/
def numberEnd? (text : List Char) : Option (List Char) :=
  let unsigned := skipSign text
  match unsigned with
  | [] => none
  | c :: _ =>
    if c.isDigit then
      let rest := skipExponent (skipFraction (unsigned.dropWhile Char.isDigit))
      if startsWithSymbol rest then none else some rest
    else none

/-- The end of a word that no name follows directly. -/
def wordEnd? (word : String) (text : List Char) : Option (List Char) :=
  (expect? word text).bind fun rest => if startsWithSymbol rest then none else some rest

mutual

def literalEnd? : Nat → List Char → Option (List Char)
  | 0, _ => none
  | fuel + 1, text =>
    match text with
    | '"' :: rest => quotedEnd? '"' (rest.length + 1) rest
    | '\'' :: rest => quotedEnd? '\'' (rest.length + 1) rest
    | '[' :: rest =>
      match skipGap rest with
      | ']' :: rest => some rest
      | ',' :: rest => itemsEnd? fuel (skipGap rest)
      | rest => itemsEnd? fuel rest
    | '{' :: rest =>
      match skipGap rest with
      | '}' :: rest => some rest
      | rest => membersEnd? fuel rest
    | _ =>
      match numberEnd? text with
      | some rest => some rest
      | none => wordEnd? "null" text <|> wordEnd? "true" text <|> wordEnd? "false" text

def itemsEnd? : Nat → List Char → Option (List Char)
  | 0, _ => none
  | fuel + 1, text =>
    match (literalEnd? fuel text).map skipGap with
    | some (',' :: rest) => itemsEnd? fuel (skipGap rest)
    | some (']' :: rest) => some rest
    | _ => none

def membersEnd? : Nat → List Char → Option (List Char)
  | 0, _ => none
  | fuel + 1, text =>
    let key :=
      match text with
      | '"' :: rest => quotedEnd? '"' (rest.length + 1) rest
      | '\'' :: rest => quotedEnd? '\'' (rest.length + 1) rest
      | _ => none
    match key.map skipGap with
    | some (':' :: rest) =>
      match (literalEnd? fuel (skipGap rest)).map skipGap with
      | some (',' :: rest) => membersEnd? fuel (skipGap rest)
      | some ('}' :: rest) => some rest
      | _ => none
    | _ => none

end

/-- The inner text of a literal in single quotes as JSON would have it. -/
def requoted : List Char → List Char
  | [] => []
  | '\\' :: '\'' :: rest => '\'' :: requoted rest
  | '"' :: rest => '\\' :: '"' :: requoted rest
  | c :: rest => c :: requoted rest

def literalValue? (written : List Char) : Option Json :=
  match written with
  | '\'' :: rest => Json.parseChars? ('"' :: requoted rest.dropLast ++ ['"'])
  | _ => Json.parseChars? written

/-! Calls. -/

/-- Whether the text starts with one of two words that are no parameters unless a name follows
them. -/
def startsWithKeyword (text : List Char) : Bool :=
  ["as", "else"].any fun word =>
    (expect? word text).any fun rest => !startsWithSymbol (skipGap rest)

mutual

/-- A parameter: a literal, a path or a call in parentheses. -/
def param? : Nat → List Char → Option (Argument × List Char)
  | 0, _ => none
  | fuel + 1, text =>
    if startsWithKeyword text then none
    else
      match literalEnd? (text.length + 1) text with
      | some rest =>
        (literalValue? (text.take (text.length - rest.length))).map fun value =>
          (.literal value, rest)
      | none =>
        match path? text with
        | some (path, rest) => some (.path path, rest)
        | none => call? fuel text

/-- A call in parentheses. A head alone may be a path. -/
def call? : Nat → List Char → Option (Argument × List Char)
  | 0, _ => none
  | fuel + 1, text =>
    match text with
    | '(' :: rest =>
      let start := skipGap rest
      let withArguments :=
        match identifier? start with
        | none => none
        | some (name, rest) =>
          match arguments? fuel [] [] rest with
          | some (params, hash, rest) =>
            if params.isEmpty && hash.isEmpty then none
            else
              match skipGap rest with
              | ')' :: rest => some (Argument.call name params hash, rest)
              | _ => none
          | none => none
      match withArguments with
      | some result => some result
      | none =>
        match path? start with
        | some (path, rest) =>
          match skipGap rest with
          | ')' :: rest => some (.call path.written [] [], rest)
          | _ => none
        | none => none
    | _ => none

/-- Parameters and named arguments in any order. Of two with one name the later one counts. -/
def arguments? : Nat → List Argument → Fields Argument → List Char →
    Option (List Argument × Fields Argument × List Char)
  | 0, _, _, _ => none
  | fuel + 1, params, hash, text =>
    let start := skipGap text
    let named :=
      match identifier? start with
      | none => none
      | some (name, rest) =>
        match skipGap rest with
        | '=' :: rest => (param? fuel (skipGap rest)).map fun (value, rest) => (name, value, rest)
        | _ => none
    match named with
    | some (name, value, rest) => arguments? fuel params (hash.insert name value) rest
    | none =>
      match param? fuel start with
      | some (value, rest) => arguments? fuel (value :: params) hash rest
      | none => some (params.reverse, hash, text)

end

/-- A name with any arguments, and the names for the items of a block. -/
def line? (text : List Char) : Option (Expression × List String × List Char) := do
  let (name, rest) ← identifier? (skipGap text)
  let (params, hash, rest) ← arguments? (2 * rest.length + 2) [] [] rest
  let e : Expression := ⟨.name name, params, hash⟩
  match blockNames? rest with
  | some (names, rest) => return (e, names, rest)
  | none => return (e, [], rest)
where
  blockNames? (text : List Char) : Option (List String × List Char) := do
    let rest ← expect? "as" (skipGap text)
    let rest ← expect? "|" (skipGap rest)
    let (first, rest) ← identifier? (skipGap rest)
    match identifier? (skipGap rest) with
    | some (second, rest) =>
      let rest ← expect? "|" (skipGap rest)
      return ([first, second], rest)
    | none =>
      let rest ← expect? "|" (skipGap rest)
      return ([first], rest)

/-- A head alone: a call in parentheses or a path. -/
def head? (text : List Char) : Option (Expression × List Char) :=
  match call? (2 * text.length + 2) text with
  | some (argument, rest) => some (⟨argument, [], []⟩, rest)
  | none => (path? text).map fun (path, rest) => (⟨.path path, [], []⟩, rest)

/-- A helper with at least one argument, or a head alone. -/
def expression? (text : List Char) : Option (Expression × List Char) :=
  let text := skipGap text
  let withArguments :=
    match identifier? text with
    | none => none
    | some (name, rest) =>
      match arguments? (2 * rest.length + 2) [] [] rest with
      | some (params, hash, rest) =>
        if params.isEmpty && hash.isEmpty then none else some (⟨.name name, params, hash⟩, rest)
      | none => none
  match withArguments with
  | some result => some result
  | none => head? text

/-- The name of a partial template at the start of the text. One in quotes keeps them. -/
def partialName? (text : List Char) : Option (String × List Char) :=
  match text with
  | '\'' :: rest =>
    match rest.dropWhile (· != '\'') with
    | _ :: after =>
      if rest.head? = some '\'' then none
      else some (String.ofList (text.take (text.length - after.length)), after)
    | [] => none
  | _ =>
    let name := text.takeWhile isPartialSymbol
    if name.isEmpty then none else some (String.ofList name, text.drop name.length)

/-- The name of a partial template, or a head that gives it, with any arguments. -/
def inclusion? (text : List Char) : Option (Expression × List Char) := do
  let text := skipGap text
  let (e, rest) ←
    match partialName? text with
    | some (name, rest) => some (⟨.name name, [], []⟩, rest)
    | none => head? text
  let (params, hash, rest) ← arguments? (2 * rest.length + 2) [] [] rest
  return ({ e with params, hash }, rest)

/-! Tags. -/

def mark (text : List Char) : Bool × List Char :=
  match skipGap text with
  | '~' :: rest => (true, rest)
  | rest => (false, rest)

/-- The end of a tag, with the mark before it. -/
def tagEnd? (closing : String) (text : List Char) : Option (Bool × List Char) :=
  let (trim, rest) := mark text
  (expect? closing (skipGap rest)).map fun rest => (trim, rest)

/-- A comment after its exclamation mark. One with hyphens ends at hyphens, if there are any. -/
def comment? (text : List Char) : Option (List Char) :=
  let long := (expect? "--" (skipGap text)).bind fun rest =>
    (Text.cut? ['-', '-', '}', '}'] rest).map Prod.snd
  match long with
  | some rest => some rest
  | none => (Text.cut? ['}', '}'] text).map Prod.snd

/-- The name in a closing tag, if there is one: that of a helper or a partial template, or a
path. -/
def closingName (text : List Char) : Option String × List Char :=
  let text := skipGap text
  let name := text.takeWhile fun c => isSymbol c || isPartialSymbol c
  if !name.isEmpty then (some (String.ofList name), text.drop name.length)
  else
    match partialName? text with
    | some (name, rest) => (some name, rest)
    | none =>
      match path? text with
      | some (path, rest) => (some path.written, rest)
      | none => (none, text)

/-- An else, after its word or mark: alone, or with a block that it goes on with. -/
def otherwise? (text : List Char) : Option (TagKind × Bool × List Char) :=
  match tagEnd? "\x7d\x7d" text with
  | some (trim, rest) => some (.otherwise, trim, rest)
  | none => do
    let (e, names, rest) ← line? text
    let (trim, rest) ← tagEnd? "\x7d\x7d" rest
    return (.otherwiseIf e names, trim, rest)

/-- A tag after its opening braces and mark. -/
def tagBody? (text : List Char) : Option (TagKind × Bool × List Char) := do
  let closed (kind : TagKind) (rest : List Char) : Option (TagKind × Bool × List Char) :=
    (tagEnd? "\x7d\x7d" rest).map fun (trim, rest) => (kind, trim, rest)
  match skipGap text with
  | '#' :: rest =>
    match skipGap rest with
    | '*' :: rest =>
      let (e, _, rest) ← line? rest
      closed (.decoratorStart e) rest
    | '>' :: rest =>
      let (e, rest) ← inclusion? rest
      closed (.inclusionStart e) rest
    | rest =>
      let (e, names, rest) ← line? rest
      closed (.blockStart e names) rest
  | '/' :: rest =>
    let (name, rest) := closingName rest
    closed (.close name) rest
  | '>' :: rest =>
    let (e, rest) ← inclusion? rest
    closed (.inclusion e) rest
  | '*' :: rest =>
    let (e, _, rest) ← line? rest
    closed (.decorator e) rest
  | '&' :: rest =>
    let (e, rest) ← head? (skipGap rest)
    closed (.output e) rest
  | '^' :: rest => otherwise? rest
  | '{' :: rest =>
    let (e, rest) ← expression? rest
    let rest ← expect? "\x7d" (skipGap rest)
    closed (.output e) rest
  | rest =>
    match (expect? "else" rest).bind otherwise? with
    | some result => return result
    | none =>
      let (e, rest) ← expression? rest
      closed (.output e) rest

def tripleTag? (text : List Char) : Option (Tag × List Char) := do
  let rest ← expect? "\x7b\x7b\x7b" text
  let (trimBefore, rest) := mark rest
  let (e, rest) ← expression? rest
  let (trimAfter, rest) ← tagEnd? "\x7d\x7d\x7d" rest
  return (⟨.output e, trimBefore, trimAfter⟩, rest)

/-- The opening or closing tag of a raw block, after its four braces. -/
def rawTag? (text : List Char) : Option (Tag × List Char) := do
  let (trimBefore, rest) := mark text
  let (kind, rest) ←
    match skipGap rest with
    | '/' :: rest =>
      (identifier? (skipGap rest)).map fun (name, rest) => (TagKind.rawEnd name, rest)
    | rest => (line? rest).map fun (e, names, rest) => (TagKind.rawStart e names, rest)
  let (trimAfter, rest) ← tagEnd? "\x7d\x7d\x7d\x7d" rest
  return (⟨kind, trimBefore, trimAfter⟩, rest)

/-- The tag at the start of the text, which starts with two braces. -/
def tag? (text : List Char) : Option (Tag × List Char) :=
  match expect? "\x7b\x7b\x7b\x7b" text with
  | some rest => rawTag? rest
  | none =>
    match expect? "\x7b\x7b!" text with
    | some rest => (comment? rest).map fun rest => (⟨.comment, false, false⟩, rest)
    | none =>
      match tripleTag? text with
      | some result => some result
      | none => do
        let rest ← expect? "\x7b\x7b" text
        let (trimBefore, rest) := mark rest
        let (kind, trimAfter, rest) ← tagBody? rest
        return (⟨kind, trimBefore, trimAfter⟩, rest)

end PromptKernel.Template
