import PromptKernel.Fields
import PromptKernel.Yaml.Stream

/-! The tree of a YAML document. Anchors are numbered by how many names are known at their place,
so one under a name that was there before can share its number with a later anchor. An alias stands
for the last anchor of all with the number that its name has at the place of the alias. One inside
of its own node has no finite tree. -/

namespace PromptKernel.Yaml

inductive Node
  | scalar (text : String) (style : Style) (tag : Option String)
  | sequence (tag : Option String) (items : List Node)
  | mapping (tag : Option String) (entries : List (Node × Node))
  /-- An alias for a finished node, with the number of aliases met on a walk through all of it. -/
  | shared (hops : Nat) (node : Node)
  /-- An alias by its number. Once a tree is complete, only those inside of their own node are
  left. -/
  | reference (number : Nat)
  | nothing

namespace Node

def empty : Node := scalar "" .plain none

mutual

def hops : Node → Nat
  | scalar .. | nothing | reference _ => 0
  | sequence _ items => hopsAll items
  | mapping _ entries => hopsEntries entries
  | shared hops _ => hops

def hopsAll : List Node → Nat
  | [] => 0
  | node :: nodes => hops node + hopsAll nodes

def hopsEntries : List (Node × Node) → Nat
  | [] => 0
  | (key, value) :: entries => hops key + hops value + hopsEntries entries

end

mutual

/-- Puts known nodes in the places of their aliases. -/
def inline (known : List (Nat × Node)) : Node → Node
  | sequence tag items => sequence tag (inlineAll known items)
  | mapping tag entries => mapping tag (inlineEntries known entries)
  | reference number =>
    match known.lookup number with
    | some node => shared (node.hops + 1) node
    | none => reference number
  | node => node

def inlineAll (known : List (Nat × Node)) : List Node → List Node
  | [] => []
  | node :: nodes => inline known node :: inlineAll known nodes

def inlineEntries (known : List (Nat × Node)) : List (Node × Node) → List (Node × Node)
  | [] => []
  | (key, value) :: entries =>
    (inline known key, inline known value) :: inlineEntries known entries

end

mutual

def isClosed : Node → Bool
  | sequence _ items => areClosed items
  | mapping _ entries => haveClosed entries
  | reference _ => false
  | _ => true

def areClosed : List Node → Bool
  | [] => true
  | node :: nodes => isClosed node && areClosed nodes

def haveClosed : List (Node × Node) → Bool
  | [] => true
  | (key, value) :: entries => isClosed key && isClosed value && haveClosed entries

end

/-- Anchored nodes by their numbers, with each other in the places of their aliases: those that are
closed, and those that wait for others. Each round closes at least one unless all that are left
hold themselves. -/
def closeAnchors : Nat → List (Nat × Node) → List (Nat × Node) → List (Nat × Node)
  | 0, closed, waiting => closed ++ waiting
  | rounds + 1, closed, waiting =>
    let round := waiting.foldl (fun (closed, waiting) (number, node) =>
      let node := node.inline closed
      if node.isClosed then ((number, node) :: closed, waiting)
      else (closed, (number, node) :: waiting)) (closed, [])
    if round.2.isEmpty then round.1 else closeAnchors rounds round.1 round.2.reverse

end Node

structure Building where
  tokens : List Token
  names : Fields Nat := []
  /-- For every anchor its number and its node, the last one first. A node under construction is
  not there yet. -/
  anchors : List (Nat × Option Node) := []
  /-- Handles of tags with what they stand for. -/
  handles : List (String × String) := []
  /-- How many parts the document has so far, where a collection counts for two. -/
  size : Nat := 0

namespace Building

def next (b : Building) : Building := { b with tokens := b.tokens.drop 1 }

def grow (b : Building) (n : Nat) : Building := { b with size := b.size + n }

def peek (b : Building) : Token := b.tokens.headD .streamEnd

/-- Declares a node under construction and tells its place among the anchors. -/
def declare (b : Building) (anchor : Option String) : Option Nat × Building :=
  match anchor with
  | some name =>
    let number := b.names.length
    (some b.anchors.length,
      { b with names := b.names.insert name number, anchors := (number, none) :: b.anchors })
  | none => (none, b)

/-- Completes the declaration at the place. -/
def complete (b : Building) (place : Option Nat) (node : Node) : Building :=
  match place with
  | some place =>
    { b with
      anchors := b.anchors.modify (b.anchors.length - 1 - place) fun entry => (entry.1, some node) }
  | none => b

/-- The nodes by number, where the last anchor with a number counts. -/
def numbered (b : Building) : List (Nat × Node) :=
  (List.range (b.names.length + 1)).filterMap fun number =>
    (b.anchors.lookup number).bind fun node => node.map fun node => (number, node)

/-- The tree with nodes in the places of aliases. -/
def closed (b : Building) (root : Node) : Node :=
  let anchors := b.numbered
  root.inline (Node.closeAnchors anchors.length [] anchors)

def resolveTag? (b : Building) (handle suffix : String) : Option String :=
  if handle.isEmpty then some suffix
  else (b.handles.find? fun entry => entry.1 == handle).map fun entry => entry.2 ++ suffix

/-- The anchor and the tag in front of a node, in either order. -/
def properties? (b : Building) : Option (Option String × Option String × Building) :=
  match b.peek with
  | .anchor name =>
    match b.next.peek with
    | .tag handle suffix => do
      let tag ← b.resolveTag? handle suffix
      return (some name, some tag, b.next.next)
    | _ => some (some name, none, b.next)
  | .tag handle suffix => do
    let tag ← b.resolveTag? handle suffix
    match b.next.peek with
    | .anchor name => return (some name, some tag, b.next.next)
    | _ => return (none, some tag, b.next)
  | _ => some (none, none, b)

mutual

/-- A node. In a block context block collections may start, and a sequence may stand at the
indentation of the mapping around it. -/
def node? : Nat → Bool → Bool → Building → Option (Node × Building)
  | 0, _, _, _ => none
  | fuel + 1, block, indentless, b =>
    match b.peek with
    | .alias name => (b.names.get? name).map fun number => (.reference number, b.next.grow 1)
    | _ =>
      match b.properties? with
      | none => none
      | some (anchor, tag, b) =>
        let (place, b) := b.declare anchor
        let finish (result : Option (Node × Building)) : Option (Node × Building) :=
          result.map fun (node, b) => (node, b.complete place node)
        let start := b.next.grow 2
        match b.peek, block, indentless with
        | .blockEntry, _, true =>
          finish ((indentlessItems? fuel [] (b.grow 2)).map fun (items, b) =>
            (.sequence tag items, b))
        | .scalar text style, _, _ =>
          finish (some (.scalar text style tag, b.next.grow 1))
        | .flowSequenceStart, _, _ =>
          finish ((flowItems? fuel true [] start).map fun (items, b) => (.sequence tag items, b))
        | .flowMappingStart, _, _ =>
          finish ((flowEntries? fuel true [] start).map fun (entries, b) =>
            (.mapping tag entries, b))
        | .blockSequenceStart, true, _ =>
          finish ((blockItems? fuel [] start).map fun (items, b) => (.sequence tag items, b))
        | .blockMappingStart, true, _ =>
          finish ((blockEntries? fuel [] start).map fun (entries, b) => (.mapping tag entries, b))
        | _, _, _ =>
          if anchor.isSome ∨ tag.isSome then finish (some (.scalar "" .plain tag, b.grow 1))
          else none

def blockItems? : Nat → List Node → Building → Option (List Node × Building)
  | 0, _, _ => none
  | fuel + 1, done, b =>
    match b.peek with
    | .blockEntry =>
      match b.next.peek with
      | .blockEntry | .blockEnd => blockItems? fuel (.empty :: done) (b.next.grow 1)
      | _ =>
        match node? fuel true false b.next with
        | some (node, b) => blockItems? fuel (node :: done) b
        | none => none
    | .blockEnd => some (done.reverse, b.next)
    | _ => none

/-- The entries of a sequence without indentation of its own. -/
def indentlessItems? : Nat → List Node → Building → Option (List Node × Building)
  | 0, _, _ => none
  | fuel + 1, done, b =>
    match b.peek with
    | .blockEntry =>
      match b.next.peek with
      | .blockEntry | .key | .value | .blockEnd =>
        indentlessItems? fuel (.empty :: done) (b.next.grow 1)
      | _ =>
        match node? fuel true false b.next with
        | some (node, b) => indentlessItems? fuel (node :: done) b
        | none => none
    | _ => some (done.reverse, b)

/-- A key or value of a block mapping, which may be left out. -/
def blockPart? : Nat → Building → Option (Node × Building)
  | 0, _ => none
  | fuel + 1, b =>
    match b.peek with
    | .key | .value | .blockEnd => some (.empty, b.grow 1)
    | _ => node? fuel true true b

def blockEntries? : Nat → List (Node × Node) → Building → Option (List (Node × Node) × Building)
  | 0, _, _ => none
  | fuel + 1, done, b =>
    match b.peek with
    | .key =>
      match blockPart? fuel b.next with
      | none => none
      | some (key, b) =>
        match b.peek with
        | .value =>
          match blockPart? fuel b.next with
          | some (value, b) => blockEntries? fuel ((key, value) :: done) b
          | none => none
        | _ => blockEntries? fuel ((key, .empty) :: done) (b.grow 1)
    | .blockEnd => some (done.reverse, b.next)
    | _ => none

/-- The items of a flow sequence. A key mark makes an item a mapping with one entry. -/
def flowItems? : Nat → Bool → List Node → Building → Option (List Node × Building)
  | 0, _, _, _ => none
  | fuel + 1, first, done, b =>
    let start :=
      match first, b.peek with
      | true, _ => some b
      | false, .flowEntry => some b.next
      | false, .flowSequenceEnd => some b
      | false, _ => none
    match start with
    | none => none
    | some b =>
      match b.peek with
      | .flowSequenceEnd => some (done.reverse, b.next)
      | .key =>
        match flowPair? fuel (b.next.grow 2) with
        | some (entry, b) => flowItems? fuel false (.mapping none [entry] :: done) b
        | none => none
      | _ =>
        match node? fuel false false b with
        | some (node, b) => flowItems? fuel false (node :: done) b
        | none => none

/-- The entry of a mapping inside of a flow sequence. Where its key is missing, the token that
shows so is passed over. -/
def flowPair? : Nat → Building → Option ((Node × Node) × Building)
  | 0, _ => none
  | fuel + 1, b =>
    let key :=
      match b.peek with
      | .value | .flowEntry | .flowSequenceEnd => some (Node.empty, b.next.grow 1)
      | _ => node? fuel false false b
    match key with
    | none => none
    | some (key, b) =>
      match b.peek with
      | .value =>
        match b.next.peek with
        | .flowEntry | .flowSequenceEnd => some ((key, .empty), b.next.grow 1)
        | _ => (node? fuel false false b.next).map fun (value, b) => ((key, value), b)
      | _ => some ((key, .empty), b.grow 1)

def flowEntries? : Nat → Bool → List (Node × Node) → Building →
    Option (List (Node × Node) × Building)
  | 0, _, _, _ => none
  | fuel + 1, first, done, b =>
    let start :=
      match first, b.peek with
      | true, _ => some b
      | false, .flowEntry => some b.next
      | false, .flowMappingEnd => some b
      | false, _ => none
    match start with
    | none => none
    | some b =>
      match b.peek with
      | .flowMappingEnd => some (done.reverse, b.next)
      | .key =>
        let key :=
          match b.next.peek with
          | .value | .flowEntry | .flowMappingEnd => some (Node.empty, b.next.grow 1)
          | _ => node? fuel false false b.next
        match key with
        | none => none
        | some (key, b) =>
          match b.peek with
          | .value =>
            match b.next.peek with
            | .flowEntry | .flowMappingEnd =>
              flowEntries? fuel false ((key, .empty) :: done) (b.next.grow 1)
            | _ =>
              match node? fuel false false b.next with
              | some (value, b) => flowEntries? fuel false ((key, value) :: done) b
              | none => none
          | _ => flowEntries? fuel false ((key, .empty) :: done) (b.grow 1)
      | _ =>
        match node? fuel false false b with
        | some (key, b) => flowEntries? fuel false ((key, .empty) :: done) (b.grow 1)
        | none => none

end

/-- The directives in front of a document. A version is named once at most and no handle twice. -/
def directives? : Nat → Bool → List (String × String) → List Token →
    Option (Bool × List (String × String) × List Token)
  | 0, _, _, _ => none
  | fuel + 1, versioned, handles, tokens =>
    match tokens with
    | .versionDirective major minor :: rest =>
      if versioned ∨ major ≠ 1 ∨ (minor ≠ 1 ∧ minor ≠ 2) then none
      else directives? fuel true handles rest
    | .tagDirective handle start :: rest =>
      if handles.any fun entry => entry.1 == handle then none
      else directives? fuel versioned ((handle, start) :: handles) rest
    | tokens => some (versioned || !handles.isEmpty, handles, tokens)

def standardHandles : List (String × String) := [("!", "!"), ("!!", "tag:yaml.org,2002:")]

def content? (b : Building) (explicit : Bool) : Option (Node × Building) :=
  let fuel := 2 * b.tokens.length + 2
  match explicit, b.peek with
  | true, .versionDirective .. | true, .tagDirective .. | true, .documentStart
  | true, .documentEnd | true, .streamEnd => some (.empty, b.grow 1)
  | _, _ => node? fuel true false b

def dropDocumentEnds (tokens : List Token) : List Token :=
  tokens.dropWhile fun token => token == .documentEnd

end Building

/-- A tree with the number of its parts. -/
structure Document where
  root : Node
  size : Nat

/-- The only document of a text. A text with a second one is refused. -/
def document? (text : String) : Option Document := do
  let tokens ← tokens? text
  let (declared, handles, rest) ← Building.directives? (tokens.length + 1) false [] tokens
  let explicit := rest.head? == some .documentStart
  if declared && !explicit then none
  else if !explicit && rest.head? == some .streamEnd then return ⟨.nothing, 1⟩
  else
    let rest := if explicit then rest.drop 1 else rest
    let start : Building := { tokens := rest, handles := handles ++ Building.standardHandles }
    let (root, b) ← start.content? explicit
    if Building.dropDocumentEnds b.tokens = [.streamEnd] then return ⟨b.closed root, b.size⟩
    else none

end PromptKernel.Yaml
