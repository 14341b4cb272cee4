/-! Tables over all code points. A table is a text of runs, each a name of fixed width followed by
the length of the run in hexadecimal, so that the runs cover the code points in order. -/

namespace PromptKernel.Unicode

/-- Consecutive code points with one name. -/
structure Run where
  first : Nat
  count : Nat
  name : String

def hexValue (c : Char) : Nat := if c.isDigit then c.toNat - 48 else c.toNat - 87

def hexNumber (cs : List Char) : Nat := cs.foldl (fun n c => n * 16 + hexValue c) 0

/-- The runs of a table in order, the first one starting at the given code point. -/
def runsFrom (width : Nat) (first : Nat) : List (List Char) → List Run
  | [] => []
  | item :: items =>
    let count := hexNumber (item.drop width)
    ⟨first, count, String.ofList (item.take width)⟩ :: runsFrom width (first + count) items

def items (text : String) : List (List Char) :=
  go [] [] text.toList
where
  go (done : List (List Char)) (item : List Char) : List Char → List (List Char)
    | [] => (if item.isEmpty then done else item.reverse :: done).reverse
    | c :: cs =>
      if c = ' ' then go (if item.isEmpty then done else item.reverse :: done) [] cs
      else go done (c :: item) cs

def runs (width : Nat) (text : String) : Array Run := (runsFrom width 0 (items text)).toArray

/-- The name of the run that holds the code point, by halving. -/
def nameAt (table : Array Run) (code : Nat) : String :=
  go 0 table.size 32
where
  go (low high : Nat) : Nat → String
    | 0 => ""
    | fuel + 1 =>
      if low < high then
        let middle := (low + high) / 2
        match table[middle]? with
        | none => ""
        | some run =>
          if code < run.first then go low middle fuel
          else if run.first + run.count ≤ code then go (middle + 1) high fuel
          else run.name
      else ""

structure Range where
  first : Nat
  last : Nat
deriving DecidableEq, Repr

def Range.contains (range : Range) (code : Nat) : Bool := range.first ≤ code && code ≤ range.last

/-- Reads ranges such as 2b0-2b8 and single code points, separated by blanks. -/
def ranges (text : String) : List Range :=
  (items text).map fun item =>
    let first := item.takeWhile (· != '-')
    let last := (item.dropWhile (· != '-')).drop 1
    ⟨hexNumber first, if last.isEmpty then hexNumber first else hexNumber last⟩

def isIn (table : List Range) (c : Char) : Bool := table.any fun range => range.contains c.toNat

end PromptKernel.Unicode
