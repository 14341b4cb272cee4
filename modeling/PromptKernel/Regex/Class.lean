import PromptKernel.Regex.CharSet

/-! Named classes of characters as they are written in patterns. -/

namespace PromptKernel.CharSet

/-- Long names of general categories with their codes. One letter stands for a group. -/
def categoryNames : List (String × String) :=
  [("letter", "L"), ("mark", "M"), ("combiningmark", "M"), ("number", "N"), ("punctuation", "P"),
   ("punct", "P"), ("symbol", "S"), ("separator", "Z"), ("other", "C"),
   ("uppercaseletter", "Lu"), ("lowercaseletter", "Ll"), ("titlecaseletter", "Lt"),
   ("modifierletter", "Lm"), ("otherletter", "Lo"), ("nonspacingmark", "Mn"),
   ("spacingmark", "Mc"), ("enclosingmark", "Me"), ("decimalnumber", "Nd"), ("digit", "Nd"),
   ("letternumber", "Nl"), ("othernumber", "No"), ("connectorpunctuation", "Pc"),
   ("dashpunctuation", "Pd"), ("openpunctuation", "Ps"), ("closepunctuation", "Pe"),
   ("initialpunctuation", "Pi"), ("finalpunctuation", "Pf"), ("otherpunctuation", "Po"),
   ("mathsymbol", "Sm"), ("currencysymbol", "Sc"), ("modifiersymbol", "Sk"),
   ("othersymbol", "So"), ("spaceseparator", "Zs"), ("lineseparator", "Zl"),
   ("paragraphseparator", "Zp"), ("control", "Cc"), ("cntrl", "Cc"), ("format", "Cf"),
   ("privateuse", "Co"), ("unassigned", "Cn")]

def categoryCodes : List String :=
  ["L", "M", "N", "P", "S", "Z", "C"] ++ (categoryNames.map Prod.snd).eraseDups

def ofCategoryCode (code : String) : CharProperty :=
  if code.length = 1 then .majorCategory code else .category code

/-- A general category by its code or long name, in small letters. -/
def categoryNamed? (name : String) : Option CharProperty :=
  if name = "any" then some .any
  else if name = "ascii" then some .ascii
  else if name = "assigned" then some .assigned
  else if name = "lc" ∨ name = "casedletter" then some .casedLetter
  else
    match categoryNames.find? fun entry => entry.1 == name with
    | some entry => some (ofCategoryCode entry.2)
    | none => (categoryCodes.find? fun code => code.toLower == name).map ofCategoryCode

def scriptNamed? (name : String) : Option CharProperty :=
  (Unicode.scriptCode? name).map .script

def isIgnored (c : Char) : Bool :=
  c == ' ' || c == '_' || c == '-' || 128 ≤ c.toNat

/-- Names are compared without case, blanks, hyphens, underscores and a leading "is", except that
"isc" keeps it. -/
def normalName (name : List Char) : String :=
  let lower (name : List Char) : List Char :=
    (name.filter fun c => !isIgnored c).map Char.toLower
  match name with
  | i :: s :: rest =>
    if i.toLower = 'i' ∧ s.toLower = 's' then
      let rest := lower rest
      if rest = ['c'] then "isc" else String.ofList rest
    else String.ofList (lower name)
  | name => String.ofList (lower name)

/-- A property by a name alone. -/
def named? (name : List Char) : Option CharSet :=
  let name := normalName name
  let binary? := (Unicode.Property.named? name).map CharProperty.binary
  (binary? <|> categoryNamed? name <|> scriptNamed? name).map property

/-- A property by the kind of property and a value. -/
def valued? (kind value : List Char) : Option CharSet :=
  let value := normalName value
  let found : Option CharProperty :=
    match normalName kind with
    | "gc" | "generalcategory" => categoryNamed? value
    | "sc" | "script" => scriptNamed? value
    | "scx" | "scriptextensions" => (Unicode.scriptCode? value).map .scriptExtension
    | "age" => (Unicode.versionNamed? value).map .age
    | "gcb" | "graphemeclusterbreak" => (Unicode.graphemeBreakNamed? value).map .graphemeBreak
    | "wb" | "wordbreak" => (Unicode.wordBreakNamed? value).map .wordBreak
    | "sb" | "sentencebreak" => (Unicode.sentenceBreakNamed? value).map .sentenceBreak
    | _ => none
  found.map property

/-- The classes in brackets and colons. They hold ASCII characters only. -/
def asciiNamed? (name : String) : Option CharSet :=
  let upper := range 'A' 'Z'
  let lower := range 'a' 'z'
  let digit := range '0' '9'
  match name with
  | "alnum" => some (unionAll [digit, upper, lower])
  | "alpha" => some (unionAll [upper, lower])
  | "ascii" => some (range (Char.ofNat 0) (Char.ofNat 127))
  | "blank" => some (unionAll [single '\t', single ' '])
  | "cntrl" => some (unionAll [range (Char.ofNat 0) (Char.ofNat 31), single (Char.ofNat 127)])
  | "digit" => some digit
  | "graph" => some (range '!' '~')
  | "lower" => some lower
  | "print" => some (range ' ' '~')
  | "punct" =>
    some (unionAll
      [range '!' '/', range ':' '@', range '[' (Char.ofNat 96), range (Char.ofNat 123) '~'])
  | "space" => some (property .asciiBlank)
  | "upper" => some upper
  | "word" => some (property .asciiWord)
  | "xdigit" => some (unionAll [digit, range 'A' 'F', range 'a' 'f'])
  | _ => none

end PromptKernel.CharSet
