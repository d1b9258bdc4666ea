/-!
# Shortest decimals

The fewest decimal digits that read back as a given binary64 number: of the decimals with the
least number of digits that lie in the interval of reals rounding to the number, the nearest.

## Main definitions

* `Binary` : a positive finite binary64 number as `mantissa * 2 ^ exponent`.
* `shortest` : its shortest digits and their decimal exponent.
* `Layout` : how digits and exponent are laid out as text.
* `render` : the text of a binary64 number in a layout.
-/

namespace CacheCluster.Decimal

/-- The number `mantissa * 2 ^ exponent`. -/
structure Binary where
  mantissa : Nat
  exponent : Int

/-- The magnitude of a finite binary64 number, from its bits. -/
def Binary.ofBits (bits : UInt64) : Binary :=
  let fraction : Nat := bits.toNat % 0x10000000000000
  let biased : Nat := bits.toNat / 0x10000000000000 % 0x800
  if biased = 0 then ⟨fraction, -1074⟩ else ⟨0x10000000000000 + fraction, (biased : Int) - 1075⟩

/-- A ratio of two natural numbers. -/
structure Ratio where
  num : Nat
  den : Nat

/-- The ratio `n * 2 ^ e`. -/
def Ratio.scale2 (n : Nat) (e : Int) : Ratio :=
  if 0 ≤ e then ⟨n * Nat.pow 2 e.toNat, 1⟩ else ⟨n, Nat.pow 2 (-e).toNat⟩

/-- The ratio `r * 10 ^ e`. -/
def Ratio.scale10 (r : Ratio) (e : Int) : Ratio :=
  if 0 ≤ e then ⟨r.num * Nat.pow 10 e.toNat, r.den⟩
  else ⟨r.num, r.den * Nat.pow 10 (-e).toNat⟩

/-- The least `k`, not below the one given, for which `r * 10 ^ k` is at least one. -/
def leadingZeros (r : Ratio) (k : Nat) : Nat → Nat
  | 0 => k
  | fuel + 1 => if r.den ≤ r.num * Nat.pow 10 k then k else leadingZeros r (k + 1) fuel

/-- The exponent `p` with `10 ^ (p - 1) ≤ r < 10 ^ p`. -/
def magnitude (r : Ratio) : Int :=
  if r.den ≤ r.num then (Nat.toDigits 10 (r.num / r.den)).length
  else 1 - (leadingZeros r 1 400 : Int)

/-- Four times the mantissa of a number and of the two ends of the interval that rounds to it;
the ends belong to the interval when the mantissa is even. -/
def Binary.neighbourhood (b : Binary) : Nat × Nat × Nat :=
  let below := if b.mantissa = 0x10000000000000 ∧ -1074 < b.exponent then 1 else 2
  (4 * b.mantissa - below, 4 * b.mantissa, 4 * b.mantissa + 2)

/-- The digits of the point of the grid of `n` digits that is nearest to the number, if one of
the two around it rounds to the number. -/
def onGrid? (b : Binary) (p : Int) (n : Nat) : Option (Nat × Int) :=
  let (lo, mid, hi) := b.neighbourhood
  let unit := p - n
  let low := (Ratio.scale2 lo (b.exponent - 2)).scale10 (-unit)
  let value := (Ratio.scale2 mid (b.exponent - 2)).scale10 (-unit)
  let high := (Ratio.scale2 hi (b.exponent - 2)).scale10 (-unit)
  let inside (d : Nat) : Bool :=
    if b.mantissa % 2 = 0 then low.num ≤ d * low.den && d * high.den ≤ high.num
    else low.num < d * low.den && d * high.den < high.num
  let floor := value.num / value.den
  let remainder := value.num % value.den
  let floorIn := inside floor
  let ceilIn := inside (floor + 1)
  if floorIn && (!ceilIn || 2 * remainder < value.den ||
      (2 * remainder == value.den && floor % 2 == 0)) then some (floor, unit)
  else if ceilIn then some (floor + 1, unit)
  else none

/-- Takes trailing zeros off a digit sequence. -/
def stripZeros (d : Nat) (e : Int) : Nat → Nat × Int
  | 0 => (d, e)
  | fuel + 1 => if d % 10 = 0 ∧ d ≠ 0 then stripZeros (d / 10) (e + 1) fuel else (d, e)

/-- The shortest digits `d` and the exponent `e` for which `d * 10 ^ e` reads back as the
number. -/
def shortest (b : Binary) : Nat × Int :=
  let p := magnitude (Ratio.scale2 b.mantissa b.exponent)
  match (List.range 17).findSome? fun n => onGrid? b p (n + 1) with
  | some (d, e) => stripZeros d e 20
  | none => (b.mantissa, b.exponent)

/-- How a number is laid out: the powers of ten of its first digit that are written
positionally, and the sign of an exponent that is not negative. -/
structure Layout where
  leastPositional : Int
  mostPositional : Int
  plus : String

/-- Digits with the point after the first `k` of them, zeros filled in on either side. -/
def positional (digits : List Char) (k : Int) : String :=
  if k ≤ 0 then
    "0." ++ String.ofList (List.replicate (-k).toNat '0' ++ digits)
  else
    let whole := digits.take k.toNat ++ List.replicate (k.toNat - digits.length) '0'
    let fraction := digits.drop k.toNat
    String.ofList whole ++ "." ++ (if fraction.isEmpty then "0" else String.ofList fraction)

/-- Digits with the point after the first of them and a power of ten. -/
def scientific (plus : String) (digits : List Char) (power : Int) : String :=
  let fraction := digits.drop 1
  String.ofList (digits.take 1) ++
    (if fraction.isEmpty then "" else "." ++ String.ofList fraction) ++ "e" ++
    (if 0 ≤ power then plus else "") ++ toString power

/-- The text of a finite binary64 number with its shortest digits. -/
def render (layout : Layout) (x : Float) : String :=
  let bits := x.toBits
  let sign := if 0x8000000000000000 ≤ bits.toNat then "-" else ""
  let b := Binary.ofBits bits
  if b.mantissa = 0 then sign ++ "0.0"
  else
    let (d, e) := shortest b
    let digits := Nat.toDigits 10 d
    let power := e + digits.length - 1
    sign ++
      if layout.leastPositional ≤ power ∧ power ≤ layout.mostPositional then
        positional digits (power + 1)
      else scientific layout.plus digits power

end CacheCluster.Decimal
