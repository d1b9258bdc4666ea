import CacheCluster.Yaml.Token.Block
import CacheCluster.Yaml.Token.Name
import CacheCluster.Yaml.Token.Plain
import CacheCluster.Yaml.Token.Quoted

/-!
# The tokens of a text

Indentation opens and closes blocks.  Whether a word is a key is only known at the colon behind
it, so that the place of the last word that may be one is kept for every level of collections.

## Main definitions

* `KeyPlace` : where a key may have begun.
* `Scanner` : the tokens so far and what is open.
* `Scanner.fetch` : the next token.
* `tokens?` : all tokens of a text.
-/

namespace CacheCluster.Yaml

/-- Where a key may have begun: at which token and place, and whether it has to be one. -/
structure KeyPlace where
  token : Nat
  required : Bool
  index : Nat
  line : Nat
  column : Nat

/-- What was read so far.  The levels of flow collections are counted by the places for keys, of
which there is one for the block around them. -/
structure Scanner where
  place : Place
  tokens : Array Token
  indent : Int
  outer : List Int
  key? : Option KeyPlace
  outerKeys : List (Option KeyPlace)
  keyAllowed : Bool

namespace Scanner

/-- Before the first token. -/
def first (cs : List Char) : Scanner := ⟨.first cs, #[], -1, [], none, [], true⟩

/-- Whether a flow collection is open. -/
def inFlow (s : Scanner) : Bool := !s.outerKeys.isEmpty

/-- Adds a token. -/
def push (s : Scanner) (t : Token) : Scanner := { s with tokens := s.tokens.push t }

/-- Adds the token of some characters that are moved past. -/
def take (s : Scanner) (n : Nat) (t : Token) : Scanner :=
  { s.push t with place := s.place.skip n }

/-- Whether a place for a key is too far back. -/
def isStale (p : Place) (k : KeyPlace) : Bool := k.line < p.line || k.index + 1024 < p.index

/-- Gives up places for keys that are too far back, unless there has to be a key. -/
def dropStale (s : Scanner) : Option Scanner :=
  let isLost (k? : Option KeyPlace) : Bool := k?.any fun k => isStale s.place k && k.required
  let kept (k? : Option KeyPlace) : Option KeyPlace := k?.filter fun k => !isStale s.place k
  if isLost s.key? || s.outerKeys.any isLost then none
  else some { s with key? := kept s.key?, outerKeys := s.outerKeys.map kept }

/-- Gives up the place for a key, unless there has to be a key. -/
def dropKey (s : Scanner) : Option Scanner :=
  if s.key?.any KeyPlace.required then none else some { s with key? := none }

/-- Notes that a key may begin here, where one may. -/
def saveKey (s : Scanner) : Option Scanner :=
  if s.keyAllowed then do
    let required := !s.inFlow && s.indent == (s.place.column : Int)
    let s ← s.dropKey
    return { s with
      key? := some ⟨s.tokens.size, required, s.place.index, s.place.line, s.place.column⟩ }
  else some s

/-- Opens a block at a column that is further in, with its token at a given place. -/
def openBlock (s : Scanner) (column : Nat) (token : Nat) (t : Token) : Scanner :=
  if !s.inFlow && s.indent < (column : Int) then
    { s with
      outer := s.indent :: s.outer
      indent := column
      tokens := s.tokens.insertIdxIfInBounds token t }
  else s

/-- The tokens that close the blocks further in than a column, and what is open then. -/
def closedBlocks (column : Int) (indent : Int) : List Int → List Token × Int × List Int
  | [] => ([], indent, [])
  | i :: outer =>
    if column < indent then
      let (ends, indent, outer) := closedBlocks column i outer
      (.blockEnd :: ends, indent, outer)
    else ([], indent, i :: outer)

/-- Closes the blocks further in than a column. -/
def closeBlocks (s : Scanner) (column : Int) : Scanner :=
  if s.inFlow then s
  else
    let (ends, indent, outer) := closedBlocks column s.indent s.outer
    { s with tokens := s.tokens ++ ends.toArray, indent, outer }

/-- Moves to the next token; the fuel bounds the number of lines. -/
def skipToToken : Nat → Scanner → Scanner
  | 0, s => s
  | fuel + 1, s =>
    let p := s.place
    let p := if p.column = 0 ∧ p.looksAt '\uFEFF' then p.skip 1 else p
    let p := p.skipWhile fun c => c = ' ' || ((s.inFlow || !s.keyAllowed) && c = '\t')
    let p := if p.looksAt '#' then p.skipWhile fun c => !isBreak c else p
    if p.char?.any isBreak then
      skipToToken fuel
        { s with place := p.skipBreak, keyAllowed := s.keyAllowed || !s.inFlow }
    else { s with place := p }

/-! ## Tokens -/

/-- The border of a document. -/
def border (s : Scanner) (t : Token) : Option Scanner := do
  let s ← (s.closeBlocks (-1)).dropKey
  return { s with keyAllowed := false }.take 3 t

/-- A directive. -/
def directive (s : Scanner) : Option Scanner := do
  let s ← (s.closeBlocks (-1)).dropKey
  let (t, place) ← scanDirective s.place
  return { s.push t with place, keyAllowed := false }

/-- The start of a flow collection. -/
def openFlow (s : Scanner) (t : Token) : Option Scanner := do
  let s ← s.saveKey
  return { s with outerKeys := s.key? :: s.outerKeys, key? := none, keyAllowed := true }.take 1 t

/-- The end of a flow collection. -/
def closeFlow (s : Scanner) (t : Token) : Option Scanner := do
  let s ← s.dropKey
  let s :=
    match s.outerKeys with
    | [] => s
    | k? :: outerKeys => { s with key? := k?, outerKeys }
  return { s with keyAllowed := false }.take 1 t

/-- A comma between the entries of a flow collection. -/
def flowEntry (s : Scanner) : Option Scanner := do
  let s ← s.dropKey
  return { s with keyAllowed := true }.take 1 .flowEntry

/-- A dash before an entry. -/
def blockEntry (s : Scanner) : Option Scanner :=
  if !s.inFlow && !s.keyAllowed then none
  else do
    let s ← (s.openBlock s.place.column s.tokens.size .blockSequence).dropKey
    return { s with keyAllowed := true }.take 1 .blockEntry

/-- A question mark before a key. -/
def explicitKey (s : Scanner) : Option Scanner :=
  if !s.inFlow && !s.keyAllowed then none
  else do
    let s ← (s.openBlock s.place.column s.tokens.size .blockMapping).dropKey
    return { s with keyAllowed := !s.inFlow }.take 1 .key

/-- A colon before a value, which may turn what stands before it into a key. -/
def valueMark (s : Scanner) : Option Scanner :=
  match s.key? with
  | some k =>
    let s := { s with tokens := s.tokens.insertIdxIfInBounds k.token .key }
    let s := s.openBlock k.column k.token .blockMapping
    some ({ s with key? := none, keyAllowed := false }.take 1 .value)
  | none =>
    if !s.inFlow && !s.keyAllowed then none
    else
      let s := s.openBlock s.place.column s.tokens.size .blockMapping
      some ({ s with keyAllowed := !s.inFlow }.take 1 .value)

/-- A token that may be a key or stand before one. -/
def word (s : Scanner) (scan : Place → Option (Token × Place)) : Option Scanner := do
  let s ← s.saveKey
  let (t, place) ← scan s.place
  return { s.push t with place, keyAllowed := false }

/-- A block scalar. -/
def blockScalar (s : Scanner) (literal : Bool) : Option Scanner := do
  let s ← s.dropKey
  let (text, place) ← scanBlock literal s.indent s.place
  return { s.push (.scalar (if literal then .literal else .folded) text) with
    place, keyAllowed := true }

/-- A plain scalar, after which a key may follow if its last gap broke the line. -/
def plainScalar (s : Scanner) : Option Scanner := do
  let s ← s.saveKey
  let (text, broken, place) ← scanPlain s.inFlow s.indent s.place
  return { s.push (.scalar .plain text) with place, keyAllowed := broken }

/-- Whether a plain scalar may begin with a character before another one. -/
def beginsPlain (flow : Bool) (c : Char) (next? : Option Char) : Bool :=
  if isBlank c then false
  else if c = '-' then !next?.any isBlank
  else if c = '?' || c = ':' then !flow && !endsWord next?
  else !(",[]\x7b\x7d#&*!|>'\"%@\x60".toList.contains c)

/-- The token that begins with a character. -/
def token (s : Scanner) (c : Char) : Option Scanner :=
  let p := s.place
  let next? := p.at? 1
  let flow := s.inFlow
  if p.column = 0 ∧ c = '%' then s.directive
  else if p.looksAtBorder '-' then s.border .documentStart
  else if p.looksAtBorder '.' then s.border .documentEnd
  else if c = '[' then s.openFlow .flowSequence
  else if c = '\x7b' then s.openFlow .flowMapping
  else if c = ']' then s.closeFlow .flowSequenceEnd
  else if c = '\x7d' then s.closeFlow .flowMappingEnd
  else if c = ',' then s.flowEntry
  else if c = '-' ∧ endsWord next? then s.blockEntry
  else if c = '?' ∧ (flow || endsWord next?) then s.explicitKey
  else if c = ':' ∧ (flow || endsWord next?) then s.valueMark
  else if c = '*' then s.word fun p => (scanAnchor p).map fun r => (.alias r.1, r.2)
  else if c = '&' then s.word fun p => (scanAnchor p).map fun r => (.anchor r.1, r.2)
  else if c = '!' then s.word fun p => (scanTag flow p).map fun r => (.tag r.1 r.2.1, r.2.2)
  else if c = '|' ∧ !flow then s.blockScalar true
  else if c = '>' ∧ !flow then s.blockScalar false
  else if c = '\'' then
    s.word fun p => (scanQuoted true p).map fun r => (.scalar .quoted r.1, r.2)
  else if c = '"' then
    s.word fun p => (scanQuoted false p).map fun r => (.scalar .quoted r.1, r.2)
  else if beginsPlain flow c next? then s.plainScalar
  else none

/-- What is open at the end of the text is closed. -/
def finish (s : Scanner) : Option Scanner := (s.closeBlocks (-1)).dropKey

/-- All further tokens; the fuel bounds the number of characters ahead. -/
def run : Nat → Scanner → Option Scanner
  | 0, _ => none
  | fuel + 1, s => do
    let s ← (skipToToken (fuel + 1) s).dropStale
    let s := s.closeBlocks s.place.column
    match s.place.char? with
    | none => s.finish
    | some c => run fuel (← s.token c)

end Scanner

/-- All tokens of a text, if it has only characters that are allowed. -/
def tokens? (cs : List Char) : Option (List Token) :=
  if cs.all isAllowed then
    ((Scanner.first cs).run (cs.length + 2)).map fun s => s.tokens.toList
  else none

end CacheCluster.Yaml
