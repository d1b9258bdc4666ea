import CacheCluster.Text.Blank

/-!
# Region paths

A region is named by a path of segments behind slashes.  The slash in front may be left out, so
that `a/b` and `/a/b` are one path; no other slash is optional, and segments may be empty.

## Main definitions

* `Path` : a path, held as what follows its first slash.
* `Path.ofName`, `Path.text` : the path that a name means, and its full text.
* `Path.parent?` : the path up to the last slash, unless that is the first one.
* `Path.lastSegment` : the text behind the last slash.

## Main results

* `Path.ofName_text` : the full text of a path names it.
* `Path.tail_eq_append_lastSegment` : a path is its parent, a slash and its last segment.
-/

namespace CacheCluster.Region

/-- The text after the last slash. -/
def afterLastSlash (cs : List Char) : List Char :=
  (cs.reverse.takeWhile (· != '/')).reverse

/-- The text before the last slash, if there is one. -/
def beforeLastSlash? (cs : List Char) : Option (List Char) :=
  match cs.reverse.dropWhile (· != '/') with
  | [] => none
  | _ :: before => some before.reverse

theorem takeWhile_of_notMem {l : List Char} (h : '/' ∉ l) : l.takeWhile (· != '/') = l := by
  induction l with
  | nil => rfl
  | cons c l ih =>
    rw [List.mem_cons, not_or] at h
    have hc : (c != '/') = true := by simpa using Ne.symm h.1
    simp [hc, ih h.2]

theorem dropWhile_of_notMem {l : List Char} (h : '/' ∉ l) : l.dropWhile (· != '/') = [] := by
  induction l with
  | nil => rfl
  | cons c l ih =>
    rw [List.mem_cons, not_or] at h
    have hc : (c != '/') = true := by simpa using Ne.symm h.1
    simp [hc, ih h.2]

theorem afterLastSlash_of_notMem {cs : List Char} (h : '/' ∉ cs) : afterLastSlash cs = cs := by
  have h' : '/' ∉ cs.reverse := by simpa using h
  simp [afterLastSlash, takeWhile_of_notMem h']

theorem beforeLastSlash?_of_notMem {cs : List Char} (h : '/' ∉ cs) :
    beforeLastSlash? cs = none := by
  have h' : '/' ∉ cs.reverse := by simpa using h
  simp [beforeLastSlash?, dropWhile_of_notMem h']

theorem dropWhile_append_slash {l r : List Char} (h : '/' ∉ l) :
    (l ++ '/' :: r).dropWhile (· != '/') = '/' :: r := by
  induction l with
  | nil => simp
  | cons c l ih =>
    rw [List.mem_cons, not_or] at h
    have hc : (c != '/') = true := by simpa using Ne.symm h.1
    simp [hc, ih h.2]

theorem takeWhile_append_slash {l r : List Char} (h : '/' ∉ l) :
    (l ++ '/' :: r).takeWhile (· != '/') = l := by
  induction l with
  | nil => simp
  | cons c l ih =>
    rw [List.mem_cons, not_or] at h
    have hc : (c != '/') = true := by simpa using Ne.symm h.1
    simp [hc, ih h.2]

theorem afterLastSlash_append {l r : List Char} (h : '/' ∉ r) :
    afterLastSlash (l ++ '/' :: r) = r := by
  have h' : '/' ∉ r.reverse := by simpa using h
  simp [afterLastSlash, takeWhile_append_slash h']

theorem beforeLastSlash?_append {l r : List Char} (h : '/' ∉ r) :
    beforeLastSlash? (l ++ '/' :: r) = some l := by
  have h' : '/' ∉ r.reverse := by simpa using h
  simp [beforeLastSlash?, dropWhile_append_slash h']

/-- A text without a slash, or one cut at its last slash. -/
theorem notMem_or_eq_append (cs : List Char) :
    '/' ∉ cs ∨ ∃ l r, '/' ∉ r ∧ cs = l ++ '/' :: r := by
  induction cs with
  | nil => simp
  | cons c cs ih =>
    rcases ih with h | ⟨l, r, h, rfl⟩
    · by_cases hc : c = '/'
      · exact .inr ⟨[], cs, h, by simp [hc]⟩
      · exact .inl (by simp [h, Ne.symm hc])
    · exact .inr ⟨c :: l, r, h, rfl⟩

theorem slash_notMem_afterLastSlash (cs : List Char) : '/' ∉ afterLastSlash cs := by
  rcases notMem_or_eq_append cs with h | ⟨l, r, h, rfl⟩
  · rwa [afterLastSlash_of_notMem h]
  · rwa [afterLastSlash_append h]

/-- A path, held as what follows its first slash. -/
@[ext] structure Path where
  tail : List Char
  deriving DecidableEq, Inhabited

namespace Path

instance : Ord Path := ⟨fun p q => compare p.tail q.tail⟩

theorem compare_eq (p q : Path) : compare p q = compare p.tail q.tail := rfl

instance : Std.LawfulEqOrd Path where
  compare_self := Std.ReflOrd.compare_self (α := List Char)
  eq_of_compare h := Path.ext (Std.LawfulEqOrd.eq_of_compare (α := List Char) h)

instance : Std.TransOrd Path where
  eq_swap {p q} := Std.OrientedOrd.eq_swap (a := p.tail) (b := q.tail)
  isLE_trans {p q r} := Std.TransOrd.isLE_trans (a := p.tail) (b := q.tail) (c := r.tail)

/-- The path that a name means: a slash in front of it makes no difference. -/
def ofName (name : String) : Path :=
  match name.toList with
  | '/' :: cs => ⟨cs⟩
  | cs => ⟨cs⟩

/-- The full text of a path. -/
def text (p : Path) : String := String.ofList ('/' :: p.tail)

/-- The path that a path is below; a path of one segment is below none. -/
def parent? (p : Path) : Option Path := (beforeLastSlash? p.tail).map Path.mk

/-- The text after the last slash. -/
def lastSegment (p : Path) : List Char := afterLastSlash p.tail

@[simp] theorem ofName_text (p : Path) : ofName p.text = p := by
  simp [ofName, text]

theorem tail_eq_lastSegment {p : Path} (h : p.parent? = none) : p.tail = p.lastSegment := by
  rcases notMem_or_eq_append p.tail with h' | ⟨l, r, hr, e⟩
  · exact (afterLastSlash_of_notMem h').symm
  · rw [parent?, e, beforeLastSlash?_append hr] at h
    cases h

theorem tail_eq_append_lastSegment {p q : Path} (h : p.parent? = some q) :
    p.tail = q.tail ++ '/' :: p.lastSegment := by
  rcases notMem_or_eq_append p.tail with h' | ⟨l, r, hr, e⟩
  · rw [parent?, beforeLastSlash?_of_notMem h'] at h
    cases h
  · rw [parent?, e, beforeLastSlash?_append hr] at h
    cases h
    rw [lastSegment, e, afterLastSlash_append hr]

theorem length_lt_of_parent? {p q : Path} (h : p.parent? = some q) :
    q.tail.length < p.tail.length := by
  rw [tail_eq_append_lastSegment h]
  simp

end Path

end CacheCluster.Region
