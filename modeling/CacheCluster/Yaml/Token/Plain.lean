import CacheCluster.Yaml.Place

/-!
# Plain scalars

A plain scalar ends before a colon or a comment that stands on its own, before the indicators of a
flow collection around it, and where a line is indented too little.

## Main definitions

* `plainWord` : the characters up to the next gap or indicator.
* `scanPlain` : a plain scalar.
-/

namespace CacheCluster.Yaml

/-- The characters up to the next gap or indicator, behind those already read in reverse. -/
def plainWord (flow : Bool) (acc : List Char) : List Char → Option (List Char)
  | [] => some acc.reverse
  | c :: rest =>
    if isBlank c || isBreak c then some acc.reverse
    else if flow && c = ':' && rest.head?.any (",?[]\x7b\x7d".toList.contains ·) then none
    else if (c = ':' && endsWord rest.head?) || (flow && ",[]\x7b\x7d".toList.contains c) then
      some acc.reverse
    else plainWord flow (c :: acc) rest

/-- Reads a plain scalar on, given its text in reverse and the gap behind that.  The result tells
also whether the last gap broke the line; the fuel bounds the number of characters ahead. -/
def plainFrom (flow : Bool) (indent : Int) : Nat → List Char → Gap → Place →
    Option (List Char × Bool × Place)
  | 0, acc, gap, p => some (acc, gap.broken, p)
  | fuel + 1, acc, gap, p =>
    if p.atBorder || p.looksAt '#' then some (acc, gap.broken, p)
    else do
      let word ← plainWord flow [] p.rest
      let (acc, gap) :=
        if word.isEmpty then (acc, gap) else (word.reverse ++ (gap.text.reverse ++ acc), .empty)
      let p := p.skip word.length
      if p.char?.any fun c => isBlank c || isBreak c then
        let (gap, p) ← readGap indent (fuel + 1) .empty p
        if !flow && (p.column : Int) < indent then some (acc, gap.broken, p)
        else plainFrom flow indent fuel acc gap p
      else some (acc, gap.broken, p)

/-- The plain scalar ahead, inside of a block of the given indentation. -/
def scanPlain (flow : Bool) (indent : Int) (p : Place) : Option (String × Bool × Place) := do
  let (acc, broken, p') ← plainFrom flow (indent + 1) (p.rest.length + 1) [] .empty p
  return (String.ofList acc.reverse, broken, p')

end CacheCluster.Yaml
