import PromptKernel.Regex.CharSet

/-! Regular expressions and where they match. Matching carries a set of positions through the
expression, so no order of alternatives matters and every search ends. -/

namespace PromptKernel

inductive Anchor
  | textStart
  | textEnd
  | lineStart
  | lineEnd
  /-- Line ends are any of CR, LF and CR LF. -/
  | lineStartCrlf
  | lineEndCrlf
  | wordBoundary (unicode : Bool)
  | notWordBoundary (unicode : Bool)
  | wordStart (unicode : Bool)
  | wordEnd (unicode : Bool)
  | wordStartHalf (unicode : Bool)
  | wordEndHalf (unicode : Bool)
deriving DecidableEq, Repr

inductive Regex
  | empty
  | chars (set : CharSet)
  | anchor (condition : Anchor)
  | concat (first second : Regex)
  | alternate (first second : Regex)
  /-- A part that is remembered, which makes no difference to where the expression matches. -/
  | capture (body : Regex)
  /-- At least `least` times, and at most `most` times when there is such a bound. -/
  | repeated (body : Regex) (least : Nat) (most : Option Nat)

namespace Regex

/-- One expression after another, without those that are empty. -/
def concatAll (rs : List Regex) : Regex :=
  rs.foldr
    (fun r rest =>
      match r, rest with
      | empty, rest => rest
      | r, empty => r
      | r, rest => concat r rest)
    empty

def set? : Regex → Option CharSet
  | chars set => some set
  | _ => none

/-- A choice between expressions. One between characters is a set. -/
def alternateAll (rs : List Regex) : Regex :=
  match rs.mapM set? with
  | some sets => chars (.unionAll sets)
  | none => go rs
where
  go : List Regex → Regex
    | [] => empty
    | [r] => r
    | r :: rs => alternate r (go rs)

/-- Whether the expression consumes no character wherever it matches. -/
def isEmptyOnly : Regex → Bool
  | empty | anchor _ => true
  | chars _ => false
  | concat first second | alternate first second => first.isEmptyOnly && second.isEmptyOnly
  | capture body => body.isEmptyOnly
  | repeated body _ most => most.isSome && body.isEmptyOnly

/-- A repetition in its simplest form. What consumes nothing need not be repeated. -/
def repeatedly (body : Regex) (least : Nat) (most : Option Nat) : Regex :=
  let bounds :=
    if body.isEmptyOnly then (min least 1, some (min (most.getD 1) 1)) else (least, most)
  match bounds with
  | (0, some 0) => empty
  | (1, some 1) => body
  | (least, most) => repeated body least most

/-- Whether the character before and the one after the position are part of a word. -/
def sides (text : Array Char) (unicode : Bool) (i : Nat) : Bool × Bool :=
  let word (c : Option Char) : Bool :=
    match c with
    | some c => (if unicode then CharProperty.word else .asciiWord).holds c
    | none => false
  (if i = 0 then false else word text[i - 1]?, word text[i]?)

def anchorHolds (text : Array Char) (i : Nat) : Anchor → Bool
  | .textStart => i == 0
  | .textEnd => i == text.size
  | .lineStart => i == 0 || text[i - 1]? == some '\n'
  | .lineEnd => i == text.size || text[i]? == some '\n'
  | .lineStartCrlf =>
    i == 0 || text[i - 1]? == some '\n' ||
    (text[i - 1]? == some '\r' && (i == text.size || text[i]? != some '\n'))
  | .lineEndCrlf =>
    i == text.size || text[i]? == some '\r' ||
    (text[i]? == some '\n' && (i == 0 || text[i - 1]? != some '\r'))
  | .wordBoundary unicode => let (before, after) := sides text unicode i; before != after
  | .notWordBoundary unicode => let (before, after) := sides text unicode i; before == after
  | .wordStart unicode => let (before, after) := sides text unicode i; !before && after
  | .wordEnd unicode => let (before, after) := sides text unicode i; before && !after
  | .wordStartHalf unicode => let (before, _) := sides text unicode i; !before
  | .wordEndHalf unicode => let (_, after) := sides text unicode i; !after

def insertPositions (known new : List Nat) : List Nat :=
  new.foldl (fun known i => if known.contains i then known else i :: known) known

/-- Positions reached by any number of steps, up to the given number of rounds. -/
def closure (step : List Nat → List Nat) : Nat → List Nat → List Nat → List Nat
  | 0, known, _ => known
  | rounds + 1, known, frontier =>
    let fresh := (step frontier).filter fun i => !known.contains i
    if fresh.isEmpty then known
    else closure step rounds (insertPositions known fresh) (insertPositions [] fresh)

def iterate (step : List Nat → List Nat) : Nat → List Nat → List Nat
  | 0, positions => positions
  | n + 1, positions => if positions.isEmpty then [] else iterate step n (step positions)

/-- The positions where a match can end that starts at one of the given positions. -/
def reach (text : Array Char) : Regex → List Nat → List Nat
  | empty, starts => starts
  | chars set, starts =>
    starts.filterMap fun i => (text[i]?).bind fun c => if set.contains c then some (i + 1) else none
  | anchor condition, starts => starts.filter fun i => anchorHolds text i condition
  | concat first second, starts => second.reach text (first.reach text starts)
  | alternate first second, starts =>
    insertPositions (first.reach text starts) (second.reach text starts)
  | capture body, starts => body.reach text starts
  | repeated body least most, starts =>
    let base := iterate (fun positions => body.reach text positions) least starts
    let rounds := match most with
      | some most => most - least
      | none => text.size + 1
    closure (fun positions => body.reach text positions) (min rounds (text.size + 1)) base base

def isMatch (r : Regex) (text : String) : Bool :=
  let chars := text.toList.toArray
  !(r.reach chars (List.range (chars.size + 1))).isEmpty

end Regex

end PromptKernel
