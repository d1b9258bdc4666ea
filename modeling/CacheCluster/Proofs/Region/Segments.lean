import CacheCluster.Proofs.Region.Chain
import CacheCluster.Region.Request
import CacheCluster.Text.Parts

/-!
# Segments of paths

The segments of a path are the last segments of the paths of its chain, so what is demanded of the
last segment of every region is demanded of all segments of each.

## Main definitions

* `Path.segments` : the texts between the slashes of a path.

## Main results

* `Path.parentInduction` : induction from a path to those right below it.
* `Path.segments_eq_map_chain` : segments as the last segments of a chain.
* `Path.lastSegment_ofName` : the last segment of a path is the last one of its name.
* `shortName?_eq_of_ofName_eq` : a short name depends on the path alone.
-/

namespace CacheCluster.Region

/-- A slash in front of a text does not change what is behind its last slash. -/
theorem afterLastSlash_cons_slash (cs : List Char) :
    afterLastSlash ('/' :: cs) = afterLastSlash cs := by
  rcases notMem_or_eq_append cs with h | ⟨l, r, hr, rfl⟩
  · -- The slash in front is the last one.
    rw [afterLastSlash_of_notMem h]
    exact afterLastSlash_append (l := []) h
  · rw [afterLastSlash_append hr]
    exact afterLastSlash_append (l := '/' :: l) hr

namespace Path

/-- The texts between the slashes of a path, behind the one in front. -/
def segments (p : Path) : List (List Char) := Text.partsAt (· == '/') p.tail

/-- What holds of the paths of one segment, and goes from a path to those right below it, holds of
all paths. -/
@[elab_as_elim]
theorem parentInduction {motive : Path → Prop} (top : ∀ p, p.parent? = none → motive p)
    (below : ∀ p q, p.parent? = some q → motive q → motive p) (p : Path) : motive p := by
  cases h : p.parent? with
  | none => exact top p h
  | some q => exact below p q h (parentInduction top below q)
termination_by p.tail.length
decreasing_by exact length_lt_of_parent? h

/-- There is no slash to cut a last segment at. -/
theorem partsAt_lastSegment (p : Path) :
    Text.partsAt (· == '/') p.lastSegment = [p.lastSegment] := by
  apply Text.partsAt_of_forall
  intro c hc
  rw [beq_eq_false_iff_ne]
  rintro rfl
  exact slash_notMem_afterLastSlash p.tail hc

theorem segments_of_parent?_eq_none {p : Path} (h : p.parent? = none) :
    p.segments = [p.lastSegment] := by
  rw [segments, tail_eq_lastSegment h, partsAt_lastSegment]

theorem segments_of_parent?_eq_some {p q : Path} (h : p.parent? = some q) :
    p.segments = q.segments ++ [p.lastSegment] := by
  rw [segments, tail_eq_append_lastSegment h, Text.partsAt_append (by rfl), partsAt_lastSegment]
  rfl

/-- The segments of a path are the last segments of its ancestors, and its own. -/
theorem segments_eq_map_chain (p : Path) : p.segments = p.chain.map lastSegment := by
  induction p using parentInduction with
  | top p h =>
    rw [segments_of_parent?_eq_none h, chain_of_parent?_eq_none h]
    rfl
  | below p q h ih =>
    rw [segments_of_parent?_eq_some h, chain_of_parent?_eq_some h, List.map_append, ih]
    rfl

/-- The last segment of a path is what follows the last slash of its name. -/
theorem lastSegment_ofName (name : String) :
    (ofName name).lastSegment = afterLastSlash name.toList := by
  rw [ofName, lastSegment]
  split
  · rename_i cs h
    rw [h, afterLastSlash_cons_slash]
  · rfl

/-- An empty segment is one as well. -/
example : (ofName "a//b").segments = [['a'], [], ['b']] := by decide

end Path

/-- The short name that is asked for depends on the path alone. -/
theorem shortName?_eq_of_ofName_eq {a b : String} (h : Path.ofName a = Path.ofName b) :
    shortName? a = shortName? b := by
  rw [shortName?, shortName?, ← Path.lastSegment_ofName, ← Path.lastSegment_ofName, h]

end CacheCluster.Region
