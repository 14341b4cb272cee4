import PromptKernel.Decimal.Text
import PromptKernel.Json.Basic
import PromptKernel.Yaml.Node

/-! The values of nodes. A plain scalar is null, a truth value, a number or text by its looks; a
tag of the standard kinds decides instead of the looks. -/

namespace PromptKernel.Yaml

def isNullText (text : String) : Bool := ["null", "Null", "NULL", "~"].contains text

def boolText? (text : String) : Option Bool :=
  if ["true", "True", "TRUE"].contains text then some true
  else if ["false", "False", "FALSE"].contains text then some false
  else none

def digitValue? (base : Nat) (c : Char) : Option Nat :=
  (hexDigit? c).bind fun d => if d < base then some d else none

def natural? (base : Nat) (digits : List Char) : Option Nat := do
  if digits.isEmpty then none
  else
    let values ← digits.mapM (digitValue? base)
    return values.foldl (fun n d => n * base + d) 0

/-- Digits with a zero in front of them are text. -/
def hasLeadingZero (text : List Char) : Bool :=
  match (Decimal.splitSign text).2 with
  | '0' :: c :: rest => (c :: rest).all Char.isDigit
  | _ => false

/-- The digits after a mark for another base. -/
def based? (text : List Char) : Option Nat :=
  match text with
  | '0' :: 'x' :: digits => natural? 16 digits
  | '0' :: 'o' :: digits => natural? 8 digits
  | '0' :: 'b' :: digits => natural? 2 digits
  | _ => none

def integer? (text : List Char) : Option Int :=
  let (negative, rest) := Decimal.splitSign text
  let value :=
    match based? rest with
    | some n => some n
    | none => if hasLeadingZero text then none else natural? 10 rest
  value.map fun n => if negative then -(n : Int) else n

/-- A number with a point, an exponent, or one of the special names. -/
def float? (text : List Char) : Option Float :=
  let unsigned := match text with
    | '+' :: rest => rest
    | rest => rest
  match String.ofList text, String.ofList unsigned with
  | _, ".inf" | _, ".Inf" | _, ".INF" => some (1.0 / 0.0)
  | "-.inf", _ | "-.Inf", _ | "-.INF", _ => some (-1.0 / 0.0)
  | ".nan", _ | ".NaN", _ | ".NAN", _ => some (0.0 / 0.0)
  | _, _ =>
    if text.head? = some '+' ∧ (unsigned.head? = some '+' ∨ unsigned.head? = some '-') then none
    else (Decimal.float? unsigned).bind fun x => if x.isFinite then some x else none

/-- Whole numbers have to fit in 64 bits. -/
def ofInteger? (n : Int) : Option Json := if Number.fits n then some (.integer n) else none

/-- Whole numbers beyond 128 bits are read as doubles. -/
def isWide (n : Int) : Bool :=
  !(-0x80000000000000000000000000000000 ≤ n && n < 0x100000000000000000000000000000000)

/-- The value of a plain scalar by its looks. -/
def ofLooks? (text : String) : Option Json :=
  let chars := text.toList
  if text.isEmpty || isNullText text then some .null
  else
    match boolText? text with
    | some b => some (.bool b)
    | none =>
      match (integer? chars).filter (!isWide ·) with
      | some n => ofInteger? n
      | none =>
        if hasLeadingZero chars then some (.string text)
        else
          match float? chars with
          | some x => some (Json.ofFloat x)
          | none => some (.string text)

def standardTag (kind : String) : String := "tag:yaml.org,2002:" ++ kind

/-- Tags of an application's own have no value. -/
def isPrivateTag (tag : Option String) : Bool := tag.any fun t => t.toList.head? == some '!'

def ofScalar? (text : String) (style : Style) (tag : Option String) : Option Json :=
  match tag with
  | none => if style = .plain then ofLooks? text else some (.string text)
  | some tag =>
    if isPrivateTag (some tag) then none
    else if tag = standardTag "bool" then (boolText? text).map .bool
    else if tag = standardTag "int" then (integer? text.toList).bind ofInteger?
    else if tag = standardTag "float" then (float? text.toList).map Json.ofFloat
    else if tag = standardTag "null" then if isNullText text then some .null else none
    else some (.string text)

/-- How deep collections may be nested. -/
def depthLimit : Nat := 128

/-- What becomes of keys that are not written as texts. -/
inductive KeyRule
  /-- Any scalar is taken by its text. -/
  | asText
  /-- Only scalars whose value is a text are taken. -/
  | textOnly
deriving DecidableEq, Repr

namespace Node

/-- The text of a scalar, whatever it looks like. -/
def text? : Node → Option String
  | scalar text _ _ => some text
  | shared _ node => node.text?
  | _ => none

def key? (rule : KeyRule) (node : Node) : Option String :=
  match rule with
  | .asText => node.text?
  | .textOnly => go node
where
  go : Node → Option String
    | scalar text style tag => (ofScalar? text style tag).bind Json.string?
    | shared _ node => go node
    | _ => none

mutual

/-- The value of a node. Of several entries with one key the last one counts. -/
def json? (rule : KeyRule) : Nat → Node → Option Json
  | _, scalar text style tag => ofScalar? text style tag
  | 0, sequence _ _ => none
  | depth + 1, sequence tag items =>
    if isPrivateTag tag then none else (jsonItems? rule depth items).map .array
  | 0, mapping _ _ => none
  | depth + 1, mapping tag entries =>
    if isPrivateTag tag then none else (jsonEntries? rule depth [] entries).map .object
  | depth, shared _ node => json? rule depth node
  | _, reference _ => none
  | _, nothing => some .null

def jsonItems? (rule : KeyRule) : Nat → List Node → Option (List Json)
  | _, [] => some []
  | depth, node :: nodes =>
    match json? rule depth node with
    | some value => (jsonItems? rule depth nodes).map (value :: ·)
    | none => none

def jsonEntries? (rule : KeyRule) : Nat → Fields Json → List (Node × Node) → Option (Fields Json)
  | _, done, [] => some done
  | depth, done, (key, value) :: entries =>
    match key.key? rule, json? rule depth value with
    | some key, some value => jsonEntries? rule depth (done.insert key value) entries
    | _, _ => none

end

/-- A truth value. Only plain scalars, and literal ones with the tag for it, are taken. -/
def bool? : Node → Option Bool
  | scalar text .plain _ => boolText? text
  | scalar text .literal tag => if tag = some (standardTag "bool") then boolText? text else none
  | shared _ node => node.bool?
  | _ => none

/-- Whether the node stands for no value where one may be left out. A scalar with the tag for null
has to look like it. -/
def absent? : Node → Option Bool
  | scalar text .plain none => some (text.isEmpty || isNullText text)
  | scalar text .plain (some tag) =>
    if tag = standardTag "null" then if isNullText text then some true else none else some false
  | shared _ node => node.absent?
  | nothing => some true
  | _ => some false

def optional? (read : Node → Option α) (node : Node) : Option (Option α) := do
  if ← node.absent? then return none else return some (← read node)

/-- The items of a sequence, which an empty plain scalar stands for too. -/
def items? : Node → Option (List Node)
  | sequence _ items => some items
  | scalar "" .plain _ => some []
  | shared _ node => node.items?
  | nothing => some []
  | _ => none

/-- The entries of a mapping, which an empty plain scalar stands for too. -/
def entries? : Node → Option (List (Node × Node))
  | mapping _ entries => some entries
  | scalar "" .plain _ => some []
  | shared _ node => node.entries?
  | nothing => some []
  | _ => none

/-- The aliases met while a sequence is read, with those that reading an item meets. -/
def itemHops (item : Node → Nat) : Node → Nat
  | sequence _ items => (items.map item).foldl (· + ·) 0
  | shared _ node => node.itemHops item + 1
  | _ => 0

/-- The members of a mapping by the texts of their keys. -/
def members? (node : Node) : Option (List (String × Node)) := do
  (← node.entries?).mapM fun (key, value) => key.text?.map fun key => (key, value)

/-- The members of a record with these fields. A mapping names them, and a sequence has them in
order and may leave out all but the first ones that are needed. -/
def record? (fields : List String) (needed : Nat) : Node → Option (List (String × Node))
  | sequence _ items =>
    if needed ≤ items.length ∧ items.length ≤ fields.length then some (fields.zip items) else none
  | shared _ node => node.record? fields needed
  | node => node.members?

/-- The aliases met while a record is read, with those that reading a field meets. -/
def fieldHops (fields : List String) (field : String → Node → Nat) : Node → Nat
  | mapping _ entries =>
    (entries.map fun (key, value) =>
      key.hops + (key.text?.map fun name => field name value).getD 0).foldl (· + ·) 0
  | sequence _ items => ((fields.zip items).map fun (name, value) => field name value).foldl (· + ·) 0
  | shared _ node => node.fieldHops fields field + 1
  | _ => 0

end Node

/-- The value under one of the names of a field, which may be there once. -/
def field? (record : List (String × Node)) (names : List String) : Option (Option Node) :=
  match record.filter fun entry => names.contains entry.1 with
  | [] => some none
  | [entry] => some (some entry.2)
  | _ => none

end PromptKernel.Yaml
