import PromptKernel.Regex.Basic
import PromptKernel.Unicode.Runs

/-! How much memory an expression takes when its repetitions are unrolled and its sets are spelled
out in octets. There are two automata for an expression, which read a text forward and backward.
Forward, what sets have at their ends is shared and captures are marked; backward, what they have
at their starts is shared. -/

namespace PromptKernel

/-- Bytes that the two automata take. -/
structure Size where
  forward : Nat
  backward : Nat
deriving DecidableEq, Repr

namespace Size

def both (n : Nat) : Size := ⟨n, n⟩

def add (a b : Size) : Size := ⟨a.forward + b.forward, a.backward + b.backward⟩

def times (n : Nat) (a : Size) : Size := ⟨n * a.forward, n * a.backward⟩

def fits (limit : Nat) (a : Size) : Bool := a.forward ≤ limit && a.backward ≤ limit

def state : Size := both 32

/-- A state that goes on in two ways. -/
def fork : Size := both 40

end Size

open Unicode (Range)

/-! Sets of characters as sequences of octets. -/

namespace Octets

/-- The octets of a code point. -/
def ofCode (code : Nat) : List Nat :=
  let tail (n : Nat) : Nat := 0x80 + n % 64
  if code < 0x80 then [code]
  else if code < 0x800 then [0xc0 + code / 64, tail code]
  else if code < 0x10000 then [0xe0 + code / 4096, tail (code / 64), tail code]
  else [0xf0 + code / 262144, tail (code / 4096), tail (code / 64), tail code]

/-- The end of the first part of a range whose octets do not range independently of each other. -/
def cut? (range : Range) : Option Nat :=
  let lengths := [0x7f, 0x7ff, 0xffff].find? fun last => range.first ≤ last && last < range.last
  let units := [64, 4096, 262144].findSome? fun unit =>
    if range.first / unit = range.last / unit then none
    else if range.first % unit ≠ 0 then some (range.first / unit * unit + unit - 1)
    else if range.last % unit ≠ unit - 1 then some (range.last / unit * unit - 1)
    else none
  lengths <|> if range.last < 0x80 then none else units

/-- A range as sequences of ranges of octets. -/
def sequences : Nat → Range → List (List Range)
  | 0, _ => []
  | fuel + 1, range =>
    match cut? range with
    | some last => sequences fuel ⟨range.first, last⟩ ++ sequences fuel ⟨last + 1, range.last⟩
    | none => [(ofCode range.first).zipWith Range.mk (ofCode range.last)]

/-- A tree of sequences with a common start. -/
inductive Trie
  | node (edges : List (Range × Trie))
deriving BEq

namespace Trie

/-- Sequences in order, where those with one start stand together. -/
def ofSequences : Nat → List (List Range) → Trie
  | 0, _ => .node []
  | depth + 1, sequences =>
    .node ((groups sequences).map fun (range, rests) => (range, ofSequences depth rests))
where
  groups : List (List Range) → List (Range × List (List Range))
    | [] => []
    | [] :: sequences => groups sequences
    | (range :: rest) :: sequences =>
      match groups sequences with
      | (range', rests) :: others =>
        if range = range' then (range, rest :: rests) :: others
        else (range, [rest]) :: (range', rests) :: others
      | [] => [(range, [rest])]

mutual

/-- The inner nodes of a tree that are not known yet, in front of those that are. -/
def collect : Trie → List Trie → List Trie
  | node [], known => known
  | node edges, known =>
    let known := collectAll edges known
    if known.contains (node edges) then known else node edges :: known

def collectAll : List (Range × Trie) → List Trie → List Trie
  | [], known => known
  | (_, trie) :: edges, known => collectAll edges (trie.collect known)

def edgeCount : Trie → Nat
  | node edges => countAll edges

def countAll : List (Range × Trie) → Nat
  | [] => 0
  | (_, trie) :: edges => trie.edgeCount + 1 + countAll edges

end

def degree : Trie → Nat
  | node edges => edges.length

end Trie

/-- What a set with these ranges takes up. -/
def size (spans : List Range) : Size :=
  match spans with
  | [] => .state
  | [⟨first, last⟩] =>
    if first = last then .times (ofCode first).length .state else general spans
  | spans => general spans
where
  general (spans : List Range) : Size :=
    if spans.all fun range => range.last < 0x80 then .both (64 + 8 * spans.length)
    else
      let sequences := spans.flatMap (sequences 32)
      let trie := Trie.ofSequences 4 sequences
      let nodes := trie.collect []
      { forward := nodes.foldl (fun n node => n + 32 + 8 * node.degree) 32
        backward := 64 + 32 * trie.edgeCount + 4 * sequences.length }

end Octets

namespace CharSet

/-- The ranges of code points in a set, in order. -/
def spans (s : CharSet) : List Range := go 0x110000 0 none []
where
  close (code : Nat) (start : Option Nat) (done : List Range) : List Range :=
    match start with
    | some start => ⟨start, code - 1⟩ :: done
    | none => done
  go : Nat → Nat → Option Nat → List Range → List Range
    | 0, code, start, done => (close code start done).reverse
    | left + 1, code, start, done =>
      if code.isValidChar ∧ s.contains (Char.ofNat code) then
        go left (code + 1) (some (start.getD code)) done
      else go left (code + 1) none (close code start done)

def size (s : CharSet) : Size := Octets.size s.spans

/-- More than a set takes up, found at once. -/
def roughSize : CharSet → Size
  | range first last =>
    if first = last then .times (Octets.ofCode first.toNat).length .state
    else if last.toNat < 0x80 then .both 72
    else .both 0x10000
  | _ => .both 0x10000

end CharSet

namespace Regex

def size (setSize : CharSet → Size) : Regex → Size
  | empty => .state
  | chars set => setSize set
  | anchor _ => .state
  | concat first second => (first.size setSize).add (second.size setSize)
  | alternate first second => ((first.size setSize).add (second.size setSize)).add (.both 72)
  | capture body => (body.size setSize).add ⟨64, 0⟩
  | repeated body least most =>
    let once := body.size setSize
    match least, most with
    | 0, some 1 => (once.add .fork).add .state
    | 0, none => if body.isEmptyOnly then (once.add (.both 80)).add .state else once.add .fork
    | least, none => (once.times least).add .fork
    | least, some most =>
      let start := if least = 0 then .state else once.times least
      if least = most then start
      else (start.add .state).add ((once.add .fork).times (most - least))

/-- What every automaton has: the states that look for the start and the one for a match. Forward,
the whole match is captured. -/
def frame : Size := ⟨168, 104⟩

def sizeLimit : Nat := 10485760

def isCompact (r : Regex) : Bool :=
  let fits (setSize : CharSet → Size) : Bool := (frame.add (r.size setSize)).fits sizeLimit
  fits CharSet.roughSize || fits CharSet.size

end Regex

end PromptKernel
