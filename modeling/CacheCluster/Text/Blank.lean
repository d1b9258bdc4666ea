/-!
# Blank text

A text is blank when every character of it has the Unicode property `White_Space`; the empty
text is blank.

## Main definitions

* `isBlankChar` : the characters with the property.
* `isBlank` : texts of such characters only.
-/

namespace CacheCluster.Text

/-- Whether a character has the Unicode property `White_Space`. -/
def isBlankChar (c : Char) : Bool :=
  let n := c.toNat
  (0x9 ≤ n && n ≤ 0xD) || n == 0x20 || n == 0x85 || n == 0xA0 || n == 0x1680 ||
    (0x2000 ≤ n && n ≤ 0x200A) || n == 0x2028 || n == 0x2029 || n == 0x202F || n == 0x205F ||
    n == 0x3000

/-- Whether a text has blank characters only. -/
def isBlank (cs : List Char) : Bool := cs.all isBlankChar

theorem isBlank_eq_false_iff {cs : List Char} :
    isBlank cs = false ↔ ∃ c ∈ cs, isBlankChar c = false := by
  simp [isBlank]

end CacheCluster.Text
