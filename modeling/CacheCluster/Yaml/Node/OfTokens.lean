import CacheCluster.Yaml.Node

/-!
# The document that tokens form

The grammar of a document: nodes with their anchors and tags, collections in blocks and between
brackets, and what stands for a key or a value that is left out.

## Main definitions

* `Composer`, `Compose` : the tokens ahead, with the anchors so far.
* `node`, `blockItems`, `flowItems`, … : the grammar, with fuel for the depth and the length.
* `document?` : the one document of a stream.
-/

namespace CacheCluster.Yaml

/-- The tokens ahead, the handles of tags, and the anchors.  Names of anchors have numbers; a name
that is given again gets the number of names so far, which another name may get as well.  The
nodes that are complete are kept by their places in the text. -/
structure Composer where
  tokens : List Token
  handles : List (String × String)
  names : List (String × Nat)
  places : List (Nat × Nat)
  complete : List (Nat × Node)
  nextPlace : Nat

/-- A part of the grammar. -/
abbrev Compose (α : Type) := StateT Composer Option α

namespace Compose

/-- The token ahead. -/
def peek : Compose (Option Token) := do return (← get).tokens.head?

/-- Moves past the token ahead. -/
def skip : Compose Unit := modify fun c => { c with tokens := c.tokens.tail }

/-- Whether a given token is ahead. -/
def looksAt (t : Token) : Compose Bool := do return (← peek) == some t

/-- Whether one of some tokens is ahead, or the end. -/
def looksAtAny (ts : List Token) : Compose Bool := do
  match ← peek with
  | some t => return ts.contains t
  | none => return true

/-- Moves past a given token if it is ahead. -/
def skipIf (t : Token) : Compose Bool := do
  if ← looksAt t then
    skip
    return true
  else return false

/-- Gives up. -/
def refuse {α : Type} : Compose α := fun _ => none

/-- Gives a name to the node that begins here, and takes its place down. -/
def startAnchored (name : String) : Compose Nat := do
  let c ← get
  let id := c.names.length
  let names := if (c.names.lookup name).isSome then
      c.names.map fun e => if e.1 == name then (name, id) else e
    else (name, id) :: c.names
  set { c with names, places := (id, c.nextPlace) :: c.places, nextPlace := c.nextPlace + 1 }
  return c.nextPlace

/-- Keeps a node that is complete. -/
def endAnchored (place? : Option Nat) (n : Node) : Compose Node := do
  match place? with
  | some place => modify fun c => { c with complete := (place, n) :: c.complete }
  | none => pure ()
  return n

/-! ## Anchors and tags -/

/-- The anchor ahead, if there is one. -/
def anchor? : Compose (Option String) := do
  match ← peek with
  | some (.anchor name) =>
    skip
    return some name
  | _ => return none

/-- The tag ahead, if there is one, with its handle taken for what it means. -/
def tag? : Compose (Option String) := do
  match ← peek with
  | some (.tag handle suffix) =>
    skip
    if handle.isEmpty then return some suffix
    else
      match (← get).handles.lookup handle with
      | some meaning => return some (meaning ++ suffix)
      | none => refuse
  | _ => return none

/-- The anchor and the tag ahead, in any order. -/
def properties : Compose (Option String × Option String) := do
  match ← anchor? with
  | some name => return (some name, ← tag?)
  | none =>
    match ← tag? with
    | some tag => return (← anchor?, some tag)
    | none => return (none, none)

/-! ## Nodes -/

mutual

/-- A node; in a block it may be a block itself, and where a key or a value of a block mapping
stands also a sequence that is not indented. -/
def node (block indentless : Bool) : Nat → Compose Node
  | 0 => refuse
  | fuel + 1 => do
    match ← peek with
    | some (.alias name) =>
      skip
      match (← get).names.lookup name with
      | some id => return .alias id
      | none => refuse
    | _ =>
      let (name?, tag) ← properties
      let place? ←
        match name? with
        | some name => some <$> startAnchored name
        | none => pure none
      match ← peek with
      | some (.scalar style text) =>
        skip
        endAnchored place? (.scalar style tag text)
      | some .flowSequence =>
        skip
        endAnchored place? (.sequence (← flowItems fuel true))
      | some .flowMapping =>
        skip
        endAnchored place? (.mapping (← flowEntries fuel true))
      | some .blockSequence =>
        if block then
          skip
          endAnchored place? (.sequence (← blockItems fuel))
        else if name?.isSome || tag.isSome then endAnchored place? (.scalar .plain tag "")
        else refuse
      | some .blockMapping =>
        if block then
          skip
          endAnchored place? (.mapping (← blockEntries fuel))
        else if name?.isSome || tag.isSome then endAnchored place? (.scalar .plain tag "")
        else refuse
      | some .blockEntry =>
        if indentless then endAnchored place? (.sequence (← indentlessItems fuel))
        else if name?.isSome || tag.isSome then endAnchored place? (.scalar .plain tag "")
        else refuse
      | _ =>
        if name?.isSome || tag.isSome then endAnchored place? (.scalar .plain tag "")
        else refuse

/-- A node in a block, or the empty one where one of some tokens is ahead. -/
def blockNode (indentless : Bool) (ends : List Token) : Nat → Compose Node
  | 0 => refuse
  | fuel + 1 => do
    if ← looksAtAny ends then return .empty else node true indentless fuel

/-- A node between brackets, or the empty one where one of some tokens is ahead. -/
def flowNode (ends : List Token) : Nat → Compose Node
  | 0 => refuse
  | fuel + 1 => do
    if ← looksAtAny ends then return .empty else node false false fuel

/-- The items of a sequence in a block. -/
def blockItems : Nat → Compose (List Node)
  | 0 => refuse
  | fuel + 1 => do
    if ← skipIf .blockEntry then
      let item ← blockNode false [.blockEntry, .blockEnd] fuel
      return item :: (← blockItems fuel)
    else if ← skipIf .blockEnd then return []
    else refuse

/-- The items of a sequence that is not indented. -/
def indentlessItems : Nat → Compose (List Node)
  | 0 => refuse
  | fuel + 1 => do
    if ← skipIf .blockEntry then
      let item ← blockNode false [.blockEntry, .key, .value, .blockEnd] fuel
      return item :: (← indentlessItems fuel)
    else return []

/-- The entries of a mapping in a block. -/
def blockEntries : Nat → Compose (List (Node × Node))
  | 0 => refuse
  | fuel + 1 => do
    if ← skipIf .key then
      let key ← blockNode true [.key, .value, .blockEnd] fuel
      let value ←
        if ← skipIf .value then blockNode true [.key, .value, .blockEnd] fuel
        else pure .empty
      return (key, value) :: (← blockEntries fuel)
    else if ← skipIf .blockEnd then return []
    else refuse

/-- The items of a sequence between brackets, the first of which has no comma before it. -/
def flowItems : Nat → Bool → Compose (List Node)
  | 0, _ => refuse
  | fuel + 1, first => do
    if ← skipIf .flowSequenceEnd then return []
    else
      if !first then
        if !(← skipIf .flowEntry) then refuse
      if ← skipIf .key then
        let item ← singleEntry fuel
        return item :: (← flowItems fuel false)
      else if ← skipIf .flowSequenceEnd then return []
      else
        let item ← node false false fuel
        return item :: (← flowItems fuel false)

/-- A mapping of one entry inside of a sequence, after the start of its key.  Where the key is
left out, the token behind it is lost. -/
def singleEntry : Nat → Compose Node
  | 0 => refuse
  | fuel + 1 => do
    let key ←
      if ← looksAtAny [.value, .flowEntry, .flowSequenceEnd] then
        skip
        pure .empty
      else node false false fuel
    let value ←
      if ← skipIf .value then flowNode [.flowEntry, .flowSequenceEnd] fuel
      else pure .empty
    return .mapping [(key, value)]

/-- The entries of a mapping between braces, the first of which has no comma before it. -/
def flowEntries : Nat → Bool → Compose (List (Node × Node))
  | 0, _ => refuse
  | fuel + 1, first => do
    if ← skipIf .flowMappingEnd then return []
    else
      if !first then
        if !(← skipIf .flowEntry) then refuse
      if ← skipIf .key then
        let key ← flowNode [.value, .flowEntry, .flowMappingEnd] fuel
        let value ←
          if ← skipIf .value then flowNode [.flowEntry, .flowMappingEnd] fuel
          else pure .empty
        return (key, value) :: (← flowEntries fuel false)
      else if ← skipIf .flowMappingEnd then return []
      else
        let key ← node false false fuel
        return (key, .empty) :: (← flowEntries fuel false)

end

/-! ## Documents -/

/-- The directives ahead: at most one version, which is known, and handles that differ. -/
def directives : Nat → Bool → List (String × String) → Compose (List (String × String))
  | 0, _, handles => return handles
  | fuel + 1, versioned, handles => do
    match ← peek with
    | some (.version major minor) =>
      skip
      if versioned ∨ major ≠ 1 ∨ (minor ≠ 1 ∧ minor ≠ 2) then refuse
      else directives fuel true handles
    | some (.handle name meaning) =>
      skip
      if (handles.lookup name).isSome then refuse
      else directives fuel versioned ((name, meaning) :: handles)
    | _ => return handles

/-- The handles that need no directive. -/
def defaultHandles : List (String × String) := [("!", "!"), ("!!", "tag:yaml.org,2002:")]

/-- The tokens after which a document has nothing in it. -/
def isDocumentBorder : Token → Bool
  | .version .. | .handle .. | .documentStart | .documentEnd => true
  | _ => false

/-- The root of the one document ahead, which is followed by nothing. -/
def root (fuel : Nat) : Compose Node := do
  let implicit :=
    match ← peek with
    | some (.version ..) | some (.handle ..) | some .documentStart => false
    | _ => true
  let n ←
    if implicit then
      modify fun c => { c with handles := defaultHandles }
      if (← peek).isNone then refuse else node true false fuel
    else do
      let handles ← directives fuel false []
      modify fun c => { c with handles := handles ++ defaultHandles }
      if ← skipIf .documentStart then
        if (← peek).all isDocumentBorder then pure .empty else node true false fuel
      else refuse
  modify fun c => { c with tokens := c.tokens.dropWhile (· == .documentEnd) }
  if (← peek).isSome then refuse else return n

end Compose

/-- The one document that tokens form. -/
def document? (tokens : List Token) : Option Document := do
  let fuel := 4 * tokens.length + 8
  let (root, c) ← (Compose.root fuel).run ⟨tokens, [], [], [], [], 0⟩
  let anchored := c.places.filterMap fun e => (c.complete.lookup e.2).map (e.1, ·)
  return ⟨root, anchored⟩

end CacheCluster.Yaml
