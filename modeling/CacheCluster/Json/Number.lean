import CacheCluster.Decimal.Shortest
import CacheCluster.Json.Reader

/-!
# JSON numbers

Integers that fit 64 bits are read exactly.  All other numbers are binary64: as many digits as fit
64 bits are taken as an integer, the remaining ones only count, and the result is scaled by
powers of ten.

## Main definitions

* `Number` : what a number is read as.
* `number` : the digits ahead, after a minus sign if there was one.
* `skipNumber` : the same without the value.
-/

namespace CacheCluster.Json

/-- A number as it is read. -/
inductive Number
  | integer (n : Int)
  | float (x : Float)

/-- Numbers that are no integers are shown positionally from `10 ^ -5` to `10 ^ 15`, and a
positive exponent has its sign. -/
def floatLayout : Decimal.Layout := ⟨-5, 15, "+"⟩

/-- The number in words. -/
def Number.found : Number → Found
  | .integer n => .integer n
  | .float x => .float (Decimal.render floatLayout x)

/-- Takes digits into an integer as long as it fits 64 bits; the number of digits left over. -/
def absorb (significand : Nat) : List Nat → Nat × Nat
  | [] => (significand, 0)
  | d :: rest =>
    if significand * 10 + d < 0x10000000000000000 then absorb (significand * 10 + d) rest
    else (significand, rest.length + 1)

/-- The power of ten as a binary64 number. -/
def power10 (e : Nat) : Float := Float.ofScientific 1 false e

/-- The number scaled by a power of ten, which is split where it is out of the range of binary64;
`none` if the result is too large. -/
def scale (x : Float) (e : Int) : Nat → Option Float
  | 0 => some x
  | fuel + 1 =>
    if e.natAbs ≤ 308 then
      if 0 ≤ e then
        let y := x * power10 e.natAbs
        if y.isInf then none else some y
      else some (x / power10 e.natAbs)
    else if x == 0 then some x
    else if 0 ≤ e then none
    else scale (x / power10 308) (e + 308) fuel

/-- The binary64 number of a significand and a power of ten. -/
def floatOf (positive : Bool) (significand : Nat) (e : Int) : Reader Number :=
  match scale significand.toUInt64.toFloat e 4 with
  | some x => pure (.float (if positive then x else -x))
  | none => fail .numberOutOfRange

/-- The largest exponent that is taken as written. -/
def exponentBound : Nat := 0x80000000

/-- The exponent that the digits ahead continue from `e`, with the cursor after them; `none`, with
the cursor after the digit that reaches the bound. -/
def exponentRun (e : Nat) : List UInt8 → Nat → Option Nat × Cursor
  | [], n => (some e, ⟨[], n⟩)
  | b :: rest, n =>
    if isDigit b then
      if e * 10 + (b.toNat - 0x30) < exponentBound then
        exponentRun (e * 10 + (b.toNat - 0x30)) rest (n + 1)
      else (none, ⟨rest, n + 1⟩)
    else (some e, ⟨b :: rest, n⟩)

/-- Takes the digits of an exponent, of which `e` is the first.  An exponent out of bounds leaves
zero, except that it makes a significand too large. -/
def exponentDigits (positive positiveExponent : Bool) (significand : Nat) (base : Int) (e : Nat) :
    Reader Number := do
  match ← fun c => let (e?, c') := exponentRun e c.rest c.offset; .ok e? c' with
  | some e => floatOf positive significand (if positiveExponent then base + e else base - e)
  | none =>
    if significand ≠ 0 ∧ positiveExponent then fail .numberOutOfRange
    else
      let _ ← digits
      pure (.float (if positive then 0.0 else -0.0))

/-- The exponent of a number, at its letter. -/
def exponent (positive : Bool) (significand : Nat) (base : Int) : Reader Number := do
  skip
  let sign ← peek
  let positiveExponent := sign ≠ some (byte '-')
  if sign = some (byte '+') ∨ sign = some (byte '-') then skip
  match ← next with
  | none => fail .endInValue
  | some b =>
    if isDigit b then
      exponentDigits positive positiveExponent significand base (b.toNat - 0x30)
    else fail .invalidNumber

/-- The number as far as read, or its exponent. -/
def maybeExponent (positive : Bool) (significand : Nat) (base : Int) : Reader Number := do
  match ← peek with
  | some b =>
    if b = byte 'e' ∨ b = byte 'E' then exponent positive significand base
    else floatOf positive significand base
  | none => floatOf positive significand base

/-- The fraction of a number, at its point. -/
def fraction (positive : Bool) (significand : Nat) (base : Int) : Reader Number := do
  skip
  let ds ← digits
  if ds.isEmpty then
    match ← peek with
    | some _ => failAhead .invalidNumber
    | none => failAhead .endInValue
  else
    let (significand, left) := absorb significand ds
    maybeExponent positive significand (base - (ds.length - left : Int))

/-- The number whose integer part is at an end. -/
def wholeNumber (positive : Bool) (significand : Nat) : Number :=
  if positive then .integer significand
  else if significand = 0 ∨ 0x8000000000000000 < significand then .float (-significand.toUInt64.toFloat)
  else .integer (-significand)

/-- What follows the digits of the integer part, of which `left` were too many to keep. -/
def afterInteger (positive : Bool) (significand left : Nat) : Reader Number := do
  match ← peek with
  | some b =>
    if b = byte '.' then fraction positive significand left
    else if b = byte 'e' ∨ b = byte 'E' then exponent positive significand left
    else if left = 0 then pure (wholeNumber positive significand)
    else floatOf positive significand left
  | none =>
    if left = 0 then pure (wholeNumber positive significand)
    else floatOf positive significand left

/-- A number, after its sign. -/
def number (positive : Bool) : Reader Number := do
  match ← next with
  | none => fail .endInValue
  | some b =>
    if b = byte '0' then
      match ← peek with
      | some d => if isDigit d then failAhead .invalidNumber else afterInteger positive 0 0
      | none => afterInteger positive 0 0
    else if isDigit b then
      let ds ← digits
      let (significand, left) := absorb (b.toNat - 0x30) ds
      afterInteger positive significand left
    else fail .invalidNumber

/-- Moves past an exponent, at its letter. -/
def skipExponent : Reader Unit := do
  skip
  let sign ← peek
  if sign = some (byte '+') ∨ sign = some (byte '-') then skip
  match ← next with
  | some b =>
    if isDigit b then
      let _ ← digits
    else fail .invalidNumber
  | none => fail .invalidNumber

/-- Moves past an exponent if there is one. -/
def skipMaybeExponent : Reader Unit := do
  match ← peek with
  | some b => if b = byte 'e' ∨ b = byte 'E' then skipExponent
  | none => pure ()

/-- Moves past a number that nobody reads, after its sign. -/
def skipNumber : Reader Unit := do
  match ← next with
  | none => fail .invalidNumber
  | some b =>
    if b = byte '0' then
      match ← peek with
      | some d => if isDigit d then failAhead .invalidNumber
      | none => pure ()
    else if isDigit b then
      let _ ← digits
    else fail .invalidNumber
  match ← peek with
  | some b =>
    if b = byte '.' then
      skip
      let ds ← digits
      if ds.isEmpty then failAhead .invalidNumber else skipMaybeExponent
    else skipMaybeExponent
  | none => pure ()

end CacheCluster.Json
