import CacheCluster.Json.Literal
import CacheCluster.Json.Number

/-!
# Values that nobody reads

A field that no type asks for still has to be JSON.  The walk over it keeps the open brackets
and builds nothing.

## Main definitions

* `Bracket` : what is open.
* `walk` : the walk, step by step.
* `skipValue` : a whole value.
-/

namespace CacheCluster.Json

/-- An open bracket. -/
inductive Bracket
  | array
  | object
  deriving DecidableEq

namespace Bracket

/-- The byte that closes a bracket. -/
def close : Bracket → UInt8
  | .array => byte ']'
  | .object => byte '\x7d'

/-- The fault of a text that ends inside. -/
def endInside : Bracket → Cause
  | .array => .endInArray
  | .object => .endInObject

/-- The fault of a value with neither a comma nor the closing byte behind it. -/
def expectedComma : Bracket → Cause
  | .array => .expectedCommaInArray
  | .object => .expectedCommaInObject

end Bracket

/-- Moves past a value without brackets that begins with `b`. -/
def skipScalar (b : UInt8) : Reader Unit :=
  if b = byte 'n' then do skip; word (ascii "ull")
  else if b = byte 't' then do skip; word (ascii "rue")
  else if b = byte 'f' then do skip; word (ascii "alse")
  else if b = byte '-' then do skip; skipNumber
  else if isDigit b then skipNumber
  else if b = byte '"' then do skip; skipBody
  else failAhead .expectedValue

/-- Moves past a key and its colon. -/
def skipKey : Reader Unit := do
  match ← ahead with
  | none => failAhead .endInObject
  | some b =>
    if b = byte '"' then
      skip
      skipBody
      match ← ahead with
      | none => failAhead .endInObject
      | some b => if b = byte ':' then skip else failAhead .expectedColon
    else failAhead .keyNotString

/-- Where a walk stands: before a value, behind an opening bracket, or behind a value. -/
inductive Stand
  | before
  | opened
  | behind

/-- Walks on until no bracket is open; the first argument bounds the number of steps. -/
def walk : Nat → Stand → List Bracket → Reader Unit
  | 0, _, _ => fail .endInValue
  | fuel + 1, .before, outer => do
    match ← ahead with
    | none => failAhead .endInValue
    | some b =>
      if b = byte '[' then
        skip
        walk fuel .opened (.array :: outer)
      else if b = byte '\x7b' then
        skip
        walk fuel .opened (.object :: outer)
      else
        skipScalar b
        walk fuel .behind outer
  | _ + 1, _, [] => pure ()
  | fuel + 1, stand, bracket :: outer => do
    match ← ahead with
    | none => failAhead bracket.endInside
    | some b =>
      if b = bracket.close then
        skip
        walk fuel .behind outer
      else
        match stand with
        | .behind => if b = byte ',' then skip else failAhead bracket.expectedComma
        | _ => pure ()
        if bracket = .object then skipKey
        walk fuel .before (bracket :: outer)

/-- Moves past a value of fewer than `bound` bytes.  Of two steps at least one moves past a byte. -/
def skipValue (bound : Nat) : Reader Unit := walk (2 * bound + 3) .before []

end CacheCluster.Json
