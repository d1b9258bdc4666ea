/-!
# Punycode

A label with any characters as one of letters, digits and hyphens: the ASCII characters of the
label, and then, for each other character in ascending order, how far to go on to insert it.
Distances are written in digits whose bounds follow the distances before them.

## Main definitions

* `threshold`, `adapt` : the bounds of digits.
* `integer`, `readInteger?` : a distance in digits.
* `encode`, `decode?` : the two directions.

## Main results

* `threshold_pos` : no bound is zero.
* `length_lt_of_readInteger?` : reading a distance takes something off the text.
-/

namespace CacheCluster.Domain.Punycode

/-- The digit of a value below 36. -/
def digitOf (n : Nat) : Char := if n < 26 then Char.ofNat (0x61 + n) else Char.ofNat (0x30 + n - 26)

/-- The value of a digit. -/
def valueOf? (c : Char) : Option Nat :=
  let n := c.toLower.toNat
  if 0x61 ≤ n ∧ n ≤ 0x7A then some (n - 0x61)
  else if 0x30 ≤ n ∧ n ≤ 0x39 then some (n - 0x30 + 26)
  else none

/-- The bound below which the digit at a place is the last one; places count by 36. -/
def threshold (place bias : Nat) : Nat :=
  if place ≤ bias then 1 else if bias + 26 ≤ place then 26 else place - bias

theorem threshold_pos (place bias : Nat) : 1 ≤ threshold place bias := by
  unfold threshold
  split
  · omega
  · split <;> omega

/-- The bias that fits a distance, on top of one already found. -/
def biasFor (bias distance : Nat) : Nat :=
  if 455 < distance then biasFor (bias + 36) (distance / 35)
  else bias + 36 * distance / (distance + 38)
  termination_by distance
  decreasing_by exact Nat.div_lt_self (by omega) (by omega)

/-- The bias after a distance, given the number of characters with the one that it inserts. -/
def adapt (distance count : Nat) (isFirst : Bool) : Nat :=
  let distance := if isFirst then distance / 700 else distance / 2
  biasFor 0 (distance + distance / count)

/-! ## Distances -/

/-- A number in digits, from a place on. -/
def integer (bias place n : Nat) : List Char :=
  if n < threshold place bias then [digitOf n]
  else
    digitOf (threshold place bias + (n - threshold place bias) % (36 - threshold place bias)) ::
      integer bias (place + 36) ((n - threshold place bias) / (36 - threshold place bias))
  termination_by n
  decreasing_by
    have := threshold_pos place bias
    exact Nat.lt_of_le_of_lt (Nat.div_le_self _ _) (by omega)

/-- A number ahead, added to one, with what follows it; numbers have 32 bits. -/
def readInteger? (bias place weight n : Nat) : List Char → Option (Nat × List Char)
  | [] => none
  | c :: rest =>
    match valueOf? c with
    | none => none
    | some d =>
      if 0x100000000 ≤ n + d * weight then none
      else if d < threshold place bias then some (n + d * weight, rest)
      else if 0x100000000 ≤ weight * (36 - threshold place bias) then none
      else
        readInteger? bias (place + 36) (weight * (36 - threshold place bias)) (n + d * weight) rest

theorem length_lt_of_readInteger? {bias place weight n m : Nat} {cs rest : List Char}
    (h : readInteger? bias place weight n cs = some (m, rest)) : rest.length < cs.length := by
  induction cs generalizing place weight n with
  | nil => cases h
  | cons c cs ih =>
    rw [readInteger?] at h
    split at h
    · cases h
    · split at h
      · cases h
      · split at h
        · cases h
          exact Nat.lt_succ_self _
        · split at h
          · cases h
          · exact Nat.lt_succ_of_lt (ih h)

/-! ## Labels -/

/-- How far writing has come: the distance from the last insertion, the bias, and the number of
characters that are written. -/
structure Progress where
  distance : Nat
  bias : Nat
  written : Nat

/-- The insertions of a character into a label, of which the `ascii` first characters written were
there from the start. -/
def insertions (point ascii : Nat) : Progress → List Char → List Char × Progress
  | p, [] => ([], p)
  | p, c :: rest =>
    if c.toNat < point then insertions point ascii { p with distance := p.distance + 1 } rest
    else if c.toNat = point then
      let bias := adapt p.distance (p.written + 1) (p.written == ascii)
      let (later, q) := insertions point ascii ⟨0, bias, p.written + 1⟩ rest
      (integer p.bias 36 p.distance ++ later, q)
    else insertions point ascii p rest

/-- The insertions of characters in ascending order, from a code point on. -/
def allInsertions (label : List Char) (ascii : Nat) : Nat → Progress → List Nat → List Char
  | _, _, [] => []
  | next, p, point :: rest =>
    let start := { p with distance := p.distance + (point - next) * (p.written + 1) }
    let (text, q) := insertions point ascii start label
    text ++ allInsertions label ascii (point + 1) { q with distance := q.distance + 1 } rest

/-- A label without the mark of those that are encoded. -/
def encode (label : List Char) : List Char :=
  let ascii := label.filter fun c => c.toNat < 0x80
  let points := ((label.filter fun c => 0x80 ≤ c.toNat).map Char.toNat).mergeSort (· ≤ ·)
  ascii ++ (if ascii.isEmpty then [] else ['-']) ++
    allInsertions label ascii.length 0x80 ⟨0, 72, ascii.length⟩ points.eraseDups

/-- The label with the insertions ahead, from a code point and a place on. -/
def insertAll (label : List Char) (point place bias : Nat) (cs : List Char) : Option (List Char) :=
  if cs.isEmpty then some label
  else
    match _ : readInteger? bias 36 1 place cs with
    | none => none
    | some (n, rest) =>
      let count := label.length + 1
      let point := point + n / count
      if point.isValidChar then
        insertAll (label.insertIdx (n % count) (Char.ofNat point)) point (n % count + 1)
          (adapt (n - place) count (place == 0)) rest
      else none
  termination_by cs.length
  decreasing_by exact length_lt_of_readInteger? ‹_›

/-- The label that is encoded, if one is.  The last hyphen ends its ASCII characters, unless nothing
is before it. -/
def decode? (cs : List Char) : Option (List Char) :=
  let code := (cs.reverse.takeWhile (· ≠ '-')).reverse
  let ascii := (cs.take (cs.length - code.length)).dropLast
  if ascii.isEmpty then insertAll [] 0x80 0 72 cs
  else if ascii.any fun c => 0x80 ≤ c.toNat then none
  else insertAll ascii 0x80 0 72 code

end CacheCluster.Domain.Punycode
