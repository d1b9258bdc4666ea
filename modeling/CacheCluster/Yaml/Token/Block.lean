import CacheCluster.Yaml.Place

/-!
# Block scalars

The lines of a block scalar are those that are indented as far as its first one, or as far as its
header says.  Literal ones keep their line breaks, folded ones keep those next to blanks only.

## Main definitions

* `BlockHeader`, `blockHeader` : what stands behind the indicator.
* `blockBreaks` : the empty lines ahead.
* `scanBlock` : a block scalar.
-/

namespace CacheCluster.Yaml

/-- What becomes of the line breaks at the end. -/
inductive Chomp
  | strip
  | clip
  | keep
  deriving DecidableEq

/-- What stands behind the indicator: what becomes of the end, and by how much lines are indented;
zero leaves that to the first line. -/
structure BlockHeader where
  chomp : Chomp
  increment : Nat

/-- The chomping that a sign stands for. -/
def chompOf? (c : Char) : Option Chomp :=
  if c = '+' then some .keep else if c = '-' then some .strip else none

/-- The chomping ahead. -/
def readChomp (p : Place) : Chomp × Place :=
  match p.char?.bind chompOf? with
  | some chomp => (chomp, p.skip 1)
  | none => (.clip, p)

/-- The increment ahead, which is not zero. -/
def readIncrement (p : Place) : Option (Nat × Place) :=
  match p.char? with
  | some c =>
    if c.isDigit then
      if c = '0' then none else some (c.toNat - 0x30, p.skip 1)
    else some (0, p)
  | none => some (0, p)

/-- The header ahead, up to the end of its line. -/
def blockHeader (p : Place) : Option (BlockHeader × Place) := do
  let (header, p) ←
    if (p.char?.bind chompOf?).isSome then do
      let (chomp, p) := readChomp p
      let (increment, p) ← readIncrement p
      pure (BlockHeader.mk chomp increment, p)
    else do
      let (increment, p) ← readIncrement p
      let (chomp, p) := if increment = 0 then (.clip, p) else readChomp p
      pure (BlockHeader.mk chomp increment, p)
  let p := p.skipComment
  if endsLine p.char? then some (header, p.skipBreak) else none

/-- Moves past empty lines and the indentation of the next line.  The indentation is as far as
`indent` says, or, where that is zero, as far as it goes; `widest` is the widest one so far. -/
def blockLines (indent : Nat) : Nat → Nat → List Char → Place → Option (Nat × List Char × Place)
  | 0, widest, breaks, p => some (widest, breaks, p)
  | fuel + 1, widest, breaks, p =>
    let spaces := (p.rest.takeWhile (· == ' ')).length
    let p := p.skip (if indent = 0 then spaces else min spaces (indent - p.column))
    let widest := max widest p.column
    if (indent = 0 ∨ p.column < indent) ∧ p.looksAt '\t' then none
    else if p.char?.any isBreak then
      let (text, p') := p.readBreak
      blockLines indent fuel widest (breaks ++ text) p'
    else some (widest, breaks, p)

/-- The line breaks of the empty lines ahead, and the indentation that counts from here on. -/
def blockBreaks (parent : Int) (indent : Nat) (p : Place) :
    Option (Nat × List Char × Place) := do
  let (widest, breaks, p) ← blockLines indent (p.rest.length + 1) 0 [] p
  let indent := if indent = 0 then max (max widest (parent + 1).toNat) 1 else indent
  return (indent, breaks, p)

/-- A block scalar as far as it was read: its text in reverse, the line breaks behind that, and
whether its last line began with a blank. -/
structure BlockState where
  acc : List Char
  leading : List Char
  trailing : List Char
  leadingBlank : Bool

/-- Reads the lines of a block scalar; the fuel bounds their number. -/
def blockFrom (literal : Bool) (parent : Int) (indent : Nat) :
    Nat → BlockState → Place → Option (BlockState × Place)
  | 0, s, p => some (s, p)
  | fuel + 1, s, p =>
    if p.column = indent ∧ !p.rest.isEmpty then do
      let blank := p.char?.any isBlank
      let breaks :=
        if !literal && s.leading == ['\n'] && !s.leadingBlank && !blank then
          if s.trailing.isEmpty then [' '] else s.trailing
        else s.leading ++ s.trailing
      let line := p.rest.takeWhile fun c => !isBreak c
      let (leading, p) := (p.skip line.length).readBreak
      let (_, trailing, p) ← blockBreaks parent indent p
      blockFrom literal parent indent fuel
        ⟨line.reverse ++ (breaks.reverse ++ s.acc), leading, trailing, blank⟩ p
    else some (s, p)

/-- The block scalar ahead, at its indicator, inside of a block of the given indentation. -/
def scanBlock (literal : Bool) (parent : Int) (p : Place) : Option (String × Place) := do
  let (header, p) ← blockHeader (p.skip 1)
  let indent := if header.increment = 0 then 0 else parent.toNat + header.increment
  let (indent, trailing, p) ← blockBreaks parent indent p
  let (s, p) ← blockFrom literal parent indent (p.rest.length + 1) ⟨[], [], trailing, false⟩ p
  let ending :=
    match header.chomp with
    | .strip => []
    | .clip => s.leading
    | .keep => s.leading ++ s.trailing
  return (String.ofList (s.acc.reverse ++ ending), p)

end CacheCluster.Yaml
