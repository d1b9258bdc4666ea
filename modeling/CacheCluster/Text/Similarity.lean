/-!
# Similar texts

Two texts are similar when they share many characters at places not far apart, in nearly the same
order.

## Main definitions

* `pairUp` : the characters of one text that are found again in the other.
* `similarity` : how similar two texts are, from zero to one.
* `mostSimilar?` : the candidate that a text was probably meant to be.
-/

namespace CacheCluster.Text

/-- The characters of a text, numbered, that take the numbered characters ahead one after the other:
each takes the first equal one at most `reach` places away that is not taken yet.  Those taken
before are given, the last one first. -/
def pairUp (reach : Nat) (text : List (Char × Nat)) (taken : List (Char × Nat)) :
    List (Char × Nat) → List (Char × Nat)
  | [] => taken.reverse
  | (c, i) :: rest =>
    let partner? := text.find? fun p =>
      p.1 == c && i ≤ p.2 + reach && p.2 ≤ i + reach && !taken.contains p
    pairUp reach text (partner?.toList ++ taken) rest

/-- How similar two texts are: the mean of the shares of paired characters in either text, and of
the pairs that are in order. -/
def similarity (a b : String) : Float :=
  let (m, n) := (a.length, b.length)
  let pairs := pairUp (max m n / 2 - 1) b.toList.zipIdx [] a.toList.zipIdx
  let inOrder := pairs.mergeSort fun p q => p.2 ≤ q.2
  let swapped := ((pairs.zip inOrder).filter fun p => p.1.1 != p.2.1).length / 2
  let k := pairs.length
  if k = 0 then if m = 0 ∧ n = 0 then 1 else 0
  else (k.toFloat / m.toFloat + k.toFloat / n.toFloat + (k - swapped).toFloat / k.toFloat) / 3

/-- The most similar one of some candidates, the last one of several, if it is similar at all. -/
def mostSimilar? (text : String) (candidates : List String) : Option String :=
  let similar := candidates.filter fun candidate => 0.7 < similarity text candidate
  similar.foldl
    (fun best? candidate =>
      match best? with
      | some best =>
        if similarity text candidate < similarity text best then some best else some candidate
      | none => some candidate)
    none

end CacheCluster.Text
