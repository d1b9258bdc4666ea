/-!
# Digits

Numbers written in a base of at most sixteen.

## Main definitions

* `digitValue?`, `isDigitOf` : the digits of a base.
* `ofDigits` : the number that digits write.
* `readNumber?` : the number in front of a text.
-/

namespace CacheCluster.Text

/-- The value of a digit in a base of at most sixteen. -/
def digitValue? (base : Nat) (c : Char) : Option Nat :=
  let n := c.toNat
  let v :=
    if 0x30 ≤ n ∧ n ≤ 0x39 then n - 0x30
    else if 0x41 ≤ n ∧ n ≤ 0x46 then n - 0x37
    else if 0x61 ≤ n ∧ n ≤ 0x66 then n - 0x57
    else base
  if v < base then some v else none

/-- Whether a character is a digit in a base. -/
def isDigitOf (base : Nat) (c : Char) : Bool := (digitValue? base c).isSome

/-- The number that the digits among some characters write. -/
def ofDigits (base : Nat) (cs : List Char) : Nat :=
  (cs.filterMap (digitValue? base)).foldl (fun n d => n * base + d) 0

/-- The number in front, which has to be below `bound`, with what follows it. -/
def readNumber? (base bound : Nat) (cs : List Char) : Option (Nat × List Char) :=
  let digits := cs.takeWhile (isDigitOf base)
  let n := ofDigits base digits
  if digits.isEmpty ∨ bound ≤ n then none else some (n, cs.dropWhile (isDigitOf base))

end CacheCluster.Text
