import CacheCluster.Text.Digits
import CacheCluster.Yaml.Place

/-!
# Quoted scalars

Between single quotes a quote is written twice.  Between double quotes a backslash escapes a
character, a code point, or the end of a line.

## Main definitions

* `escapeOf?` : what an escape stands for.
* `quotedWord` : the characters up to the next gap.
* `scanQuoted` : a quoted scalar.
-/

namespace CacheCluster.Yaml

/-- The character of an escape of one letter. -/
def letterEscape? (c : Char) : Option Char :=
  match c with
  | '0' => some (Char.ofNat 0)
  | 'a' => some (Char.ofNat 7)
  | 'b' => some (Char.ofNat 8)
  | 't' | '\t' => some (Char.ofNat 9)
  | 'n' => some (Char.ofNat 10)
  | 'v' => some (Char.ofNat 11)
  | 'f' => some (Char.ofNat 12)
  | 'r' => some (Char.ofNat 13)
  | 'e' => some (Char.ofNat 27)
  | ' ' => some ' '
  | '"' => some '"'
  | '/' => some '/'
  | '\\' => some '\\'
  | 'N' => some (Char.ofNat 0x85)
  | '_' => some (Char.ofNat 0xA0)
  | 'L' => some (Char.ofNat 0x2028)
  | 'P' => some (Char.ofNat 0x2029)
  | _ => none

/-- The number of hexadecimal digits behind a letter. -/
def codeLength? (c : Char) : Option Nat :=
  match c with
  | 'x' => some 2
  | 'u' => some 4
  | 'U' => some 8
  | _ => none

/-- What the characters after a backslash stand for, and how many they are. -/
def escapeOf? : List Char → Option (Char × Nat)
  | [] => none
  | c :: rest =>
    match letterEscape? c with
    | some e => some (e, 1)
    | none => do
      let length ← codeLength? c
      let digits := rest.take length
      if digits.length = length ∧ digits.all (Text.isDigitOf 16) then
        let n := Text.ofDigits 16 digits
        if n.isValidChar then some (Char.ofNat n, 1 + length) else none
      else none

/-- The characters up to the next gap or the closing quote, put in reverse before those already
read, and whether the end of a line was escaped.  The fuel bounds the number of characters ahead. -/
def quotedWord (single : Bool) : Nat → List Char → Place → Option (List Char × Bool × Place)
  | 0, acc, p => some (acc, false, p)
  | fuel + 1, acc, p =>
    match p.rest with
    | [] => some (acc, false, p)
    | c :: rest =>
      if isBlank c || isBreak c then some (acc, false, p)
      else if single then
        if c = '\'' then
          if rest.head? = some '\'' then quotedWord single fuel ('\'' :: acc) (p.skip 2)
          else some (acc, false, p)
        else quotedWord single fuel (c :: acc) (p.skip 1)
      else if c = '"' then some (acc, false, p)
      else if c = '\\' then
        if rest.head?.any isBreak then some (acc, true, (p.skip 1).skipBreak)
        else do
          let (e, length) ← escapeOf? rest
          quotedWord single fuel (e :: acc) (p.skip (1 + length))
      else quotedWord single fuel (c :: acc) (p.skip 1)

/-- Reads a quoted scalar on, given its text in reverse; the fuel bounds the number of characters
ahead. -/
def quotedFrom (single : Bool) : Nat → List Char → Place → Option (List Char × Place)
  | 0, _, _ => none
  | fuel + 1, acc, p =>
    if p.atBorder || p.rest.isEmpty then none
    else do
      let (acc, escaped, p) ← quotedWord single (fuel + 1) acc p
      if p.looksAt (if single then '\'' else '"') then some (acc, p.skip 1)
      else
        let (gap, p) ← readGap 0 (fuel + 1) { Gap.empty with broken := escaped } p
        quotedFrom single fuel (gap.text.reverse ++ acc) p

/-- The quoted scalar ahead, at its quote. -/
def scanQuoted (single : Bool) (p : Place) : Option (String × Place) := do
  let (acc, p') ← quotedFrom single (p.rest.length + 1) [] (p.skip 1)
  return (String.ofList acc.reverse, p')

end CacheCluster.Yaml
