import CacheCluster.Domain.Mapping.Images

/-!
# Mapping names of domains

Names that look alike to their readers are one name: before anything else, each character is
replaced by what it stands for.

## Main definitions

* `isForbidden` : the ASCII characters that no name has.
* `images?` : what a character stands for.
* `mapped?` : what a text stands for.

## Main results

* `images?_of_ascii` : characters of ASCII that a name may have stand for their lower case.
-/

namespace CacheCluster.Domain

/-- Whether a character of ASCII may be in no name: blanks, control characters, and those that
stand around a host. -/
def isForbidden (c : Char) : Bool :=
  c.toNat ≤ 0x20 || c.toNat = 0x7F || "%#/:<>?@[\\]^\x60\x7b|\x7d".toList.contains c

/-- The characters that a character stands for, unless it may be in no name. -/
def images? (c : Char) : Option (List Char) :=
  if isForbidden c then none
  else if c.toNat < 0x80 then some [c.toLower]
  else
    match imageTable.find? c with
    | none => some [c]
    | some r =>
      match r.value with
      | .forbidden => none
      | .nothing => some []
      | .shift first => some [Char.ofNat (first + (c.toNat - r.first))]
      | .next => some [if (c.toNat - r.first) % 2 = 0 then Char.ofNat (c.toNat + 1) else c]
      | .sequence cs => some cs

theorem images?_of_ascii {c : Char} (h : isForbidden c = false) (hascii : c.toNat < 0x80) :
    images? c = some [c.toLower] := by
  rw [images?, if_neg (by simp [h]), if_pos hascii]

/-- What the characters of a text stand for, unless one may be in no name. -/
def mapped? (cs : List Char) : Option (List Char) := do
  let images := (← cs.mapM images?).flatten
  if images.any isForbidden then none else some images

end CacheCluster.Domain
