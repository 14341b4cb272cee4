import PromptKernel.Text.Quoted
import PromptKernel.Json.Printer

/-! One-line listings of records, for diagnosis. A record is its name with its fields in braces,
an optional value is marked, and texts are quoted. -/

namespace PromptKernel.Listing

def optional (f : α → String) : Option α → String
  | some a => "Some(" ++ f a ++ ")"
  | none => "None"

def sequence (items : List String) : String := "[" ++ ", ".intercalate items ++ "]"

/-- Entries in braces without blanks next to the braces. -/
def mapping (entries : List (String × String)) : String :=
  "\x7b" ++ ", ".intercalate (entries.map fun entry => entry.1 ++ ": " ++ entry.2) ++ "\x7d"

def fieldsText (fields : List (String × String)) : String :=
  ", ".intercalate (fields.map fun field => field.1 ++ ": " ++ field.2)

def record (name : String) (fields : List (String × String)) : String :=
  name ++ " \x7b " ++ fieldsText fields ++ " \x7d"

/-- A record some of whose fields are not shown. -/
def openRecord (name : String) (fields : List (String × String)) : String :=
  name ++ " \x7b " ++ fieldsText fields ++ ", .. \x7d"

def flag (value : Bool) : String := if value then "true" else "false"

mutual

def value : Json → String
  | .null => "Null"
  | .bool b => "Bool(" ++ flag b ++ ")"
  | .number n => "Number(" ++ n.text ++ ")"
  | .string s => "String(" ++ Text.quoted s ++ ")"
  | .array items => "Array " ++ sequence (values items)
  | .object fields => "Object " ++ mapping (members fields)

def values : List Json → List String
  | [] => []
  | item :: items => value item :: values items

def members : List (String × Json) → List (String × String)
  | [] => []
  | (key, item) :: fields => (Text.quoted key, value item) :: members fields

end

/-- The members of an object without the name of its kind. -/
def fields (entries : Fields Json) : String := mapping (members entries)

end PromptKernel.Listing
