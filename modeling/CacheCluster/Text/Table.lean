import CacheCluster.Text.Digits
import CacheCluster.Text.Parts

/-!
# Tables of characters

A table gives values to ranges of code points.  It is written as words of two kinds, in the order
of their code points, which are hexadecimal: `300-314=x` gives the value `x` to all of a range, and
`E0:x,y` gives `x` and `y` to a code point and the one after it.

## Main definitions

* `Range`, `Table` : a range with a value, and ranges in order.
* `Table.ofText` : the table that a text writes down.
* `Table.find?` : the range of a character.
-/

namespace CacheCluster.Text

/-- Code points with a value, both ends included. -/
structure Range (α : Type) where
  first : Nat
  last : Nat
  value : α

/-- Ranges in ascending order, apart from each other. -/
structure Table (α : Type) where
  ranges : Array (Range α)

variable {α : Type}

/-- The values from a code point on. -/
def listed (read : List Char → α) : Nat → List (List Char) → List (Range α)
  | _, [] => []
  | n, text :: rest => ⟨n, n, read text⟩ :: listed read (n + 1) rest

/-- The ranges that a word writes. -/
def rangesOfWord (read : List Char → α) (word : List Char) : List (Range α) :=
  let place := word.takeWhile fun c => c ≠ '=' ∧ c ≠ ':'
  let value := (word.drop place.length).tail
  let first := ofDigits 16 (place.takeWhile (· ≠ '-'))
  if (word.drop place.length).head? = some ':' then
    listed read first (partsAt (· == ',') value)
  else
    let last := (place.dropWhile (· ≠ '-')).tail
    [⟨first, if last.isEmpty then first else ofDigits 16 last, read value⟩]

namespace Table

/-- The table that words write down, given how the texts of values are read. -/
def ofText (read : List Char → α) (text : String) : Table α :=
  let words := (partsAt Char.isWhitespace text.toList).filter fun word => !word.isEmpty
  ⟨(words.flatMap (rangesOfWord read)).toArray⟩

/-- The range that holds a code point, among those from `lo` up to `hi`. -/
def search (ranges : Array (Range α)) (n lo hi : Nat) : Option (Range α) :=
  if lo < hi then
    match ranges[(lo + hi) / 2]? with
    | none => none
    | some r =>
      if n < r.first then search ranges n lo ((lo + hi) / 2)
      else if r.last < n then search ranges n ((lo + hi) / 2 + 1) hi
      else some r
  else none
  termination_by hi - lo

/-- The range that holds a character. -/
def find? (t : Table α) (c : Char) : Option (Range α) :=
  search t.ranges c.toNat 0 t.ranges.size

/-- The value of a character. -/
def value? (t : Table α) (c : Char) : Option α := (t.find? c).map (·.value)

end Table

end CacheCluster.Text
