import CacheCluster.Domain.Direction
import CacheCluster.Domain.Joiner
import CacheCluster.Domain.Mapping
import CacheCluster.Domain.Punycode

/-!
# Names of domains

A name is a row of labels between points.  Its one written form has only ASCII characters: labels
with others are encoded behind a mark.

## Main definitions

* `readLabel?` : what an encoded label or one as it is stands for.
* `isWellPlaced` : whether the characters of a label may be where they are.
* `writeLabel?` : the written form of a label.
* `written?` : the written form of a name.

## Main results

* `readLabel?_of_ascii`, `isWellPlaced_of_ascii`, `writeLabel?_of_ascii` : labels of ASCII
  characters that are not encoded stand for themselves.
-/

namespace CacheCluster.Domain

/-- What encoded labels begin with. -/
def encodedPrefix : List Char := ['x', 'n', '-', '-']

/-- The number of characters that an encoded label may have behind its mark. -/
def encodedLimit : Nat := 2000

/-- The number of characters that a label may have to be encoded. -/
def labelLimit : Nat := 1000

/-- Whether a label is marked as encoded. -/
def isEncoded (label : List Char) : Bool := encodedPrefix.isPrefixOf label

/-- What a label stands for.  One that is encoded stands for characters that need it and that stand
for themselves. -/
def readLabel? (label : List Char) : Option (List Char) :=
  if isEncoded label then do
    let code := label.drop encodedPrefix.length
    if code.isEmpty || encodedLimit < code.length || code.getLast? = some '-' then none
    else
      let read ← Punycode.decode? code
      if (mapped? read).map composed = some read then some read else none
  else some label

/-- Whether the characters of a label may be where they are: marks follow something, joiners what
they join. -/
def isWellPlaced (label : List Char) : Bool :=
  label.all (fun c => c.toNat < 0x300) ||
    (!(label.head?.any fun c => (mark? c).isSome) && joinersPlaced [] label)

/-- The written form of a label that stands for a text. -/
def writeLabel? (label read : List Char) : Option (List Char) :=
  if isEncoded label || read.all fun c => c.toNat < 0x80 then some label
  else if labelLimit < read.length then none
  else some (encodedPrefix ++ Punycode.encode read)

/-- The written form of a name, unless the text is none. -/
def written? (cs : List Char) : Option (List Char) := do
  let labels := Text.partsAt (· == '.') (composed (← mapped? cs))
  let texts ← labels.mapM readLabel?
  if texts.all isWellPlaced && (!texts.any runsBack || texts.all keepsDirection) then
    let written ← (labels.zip texts).mapM fun e => writeLabel? e.1 e.2
    some (['.'].intercalate written)
  else none

/-! ## Labels of ASCII characters -/

theorem readLabel?_of_ascii {label : List Char} (h : isEncoded label = false) :
    readLabel? label = some label := by
  rw [readLabel?, if_neg (by simp [h])]

theorem isWellPlaced_of_ascii {label : List Char} (h : ∀ c ∈ label, c.toNat < 0x80) :
    isWellPlaced label = true := by
  have hlow : (label.all fun c => c.toNat < 0x300) = true :=
    List.all_eq_true.mpr fun c hc => decide_eq_true (Nat.lt_trans (h c hc) (by decide))
  rw [isWellPlaced, hlow, Bool.true_or]

theorem writeLabel?_of_ascii {label : List Char} (h : ∀ c ∈ label, c.toNat < 0x80) :
    writeLabel? label label = some label := by
  have hall : (label.all fun c => c.toNat < 0x80) = true :=
    List.all_eq_true.mpr fun c hc => decide_eq_true (h c hc)
  rw [writeLabel?, hall, Bool.or_true, if_pos rfl]

end CacheCluster.Domain
