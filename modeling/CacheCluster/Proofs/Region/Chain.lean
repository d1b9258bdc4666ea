import CacheCluster.Region.Path

/-!
# Chains of ancestors

The paths above a path are its beginnings that end before one of its slashes.  Together with the
path itself, and the topmost first, they are the order in which regions have to be added before
there can be one at the path.

## Main definitions

* `beginnings` : the beginnings of a text that end before a slash, shortest first.
* `Path.chain` : the paths above a path, the topmost first, and then the path itself.

## Main results

* `Path.mem_chain_iff` : a path is in a chain exactly when the chain is of that path, or goes on
  from it behind a slash.
* `Path.chain_of_parent?_eq_some` : a chain is the chain of the parent and then the path.
* `Path.chain_sublist_of_mem` : the chain of an ancestor is a part of the chain.
-/

namespace CacheCluster.Region

/-- The beginnings of a text that end before a slash of it, shortest first. -/
def beginnings : List Char → List (List Char)
  | [] => []
  | c :: cs => (if c = '/' then [[]] else []) ++ (beginnings cs).map (c :: ·)

theorem mem_beginnings_iff {b cs : List Char} : b ∈ beginnings cs ↔ ∃ r, cs = b ++ '/' :: r := by
  induction cs generalizing b with
  | nil => simp [beginnings]
  | cons c cs ih =>
    rw [beginnings, List.mem_append, List.mem_map]
    constructor
    · rintro (h | ⟨b', hb', rfl⟩)
      · split at h
        · rename_i hc
          obtain rfl : b = [] := by simpa using h
          exact ⟨cs, by rw [hc]; rfl⟩
        · cases h
      · obtain ⟨r, rfl⟩ := ih.1 hb'
        exact ⟨r, rfl⟩
    · -- The text begins with a slash, or the beginning goes on behind its first character.
      rintro ⟨r, hr⟩
      cases b with
      | nil =>
        have hc : c = '/' := (List.cons.inj hr).1
        exact .inl (by simp [hc])
      | cons a b =>
        obtain ⟨rfl, rfl⟩ := List.cons.inj hr
        exact .inr ⟨b, ih.2 ⟨r, rfl⟩, rfl⟩

theorem beginnings_of_notMem {cs : List Char} (h : '/' ∉ cs) : beginnings cs = [] := by
  rw [List.eq_nil_iff_forall_not_mem]
  intro b hb
  obtain ⟨r, rfl⟩ := mem_beginnings_iff.1 hb
  simp at h

/-- The beginnings of a text that is cut at a slash: those before it, the one that ends there, and
those behind it. -/
theorem beginnings_append (l r : List Char) :
    beginnings (l ++ '/' :: r) =
      beginnings l ++ l :: (beginnings r).map fun b => l ++ '/' :: b := by
  induction l with
  | nil => simp [beginnings]
  | cons c l ih => simp [beginnings, ih]

namespace Path

/-- The paths above a path, the topmost first, and then the path itself. -/
def chain (p : Path) : List Path := (beginnings p.tail).map Path.mk ++ [p]

theorem mem_chain_iff {p q : Path} : q ∈ p.chain ↔ q = p ∨ ∃ r, p.tail = q.tail ++ '/' :: r := by
  rw [chain, List.mem_append, List.mem_map, List.mem_singleton, or_comm]
  refine or_congr_right ⟨?_, fun h => ⟨q.tail, mem_beginnings_iff.2 h, rfl⟩⟩
  rintro ⟨b, hb, rfl⟩
  exact mem_beginnings_iff.1 hb

theorem chain_of_parent?_eq_none {p : Path} (h : p.parent? = none) : p.chain = [p] := by
  have hp : '/' ∉ p.tail := by
    rw [tail_eq_lastSegment h]
    exact slash_notMem_afterLastSlash p.tail
  rw [chain, beginnings_of_notMem hp]
  rfl

theorem chain_of_parent?_eq_some {p q : Path} (h : p.parent? = some q) :
    p.chain = q.chain ++ [p] := by
  have hs : '/' ∉ p.lastSegment := slash_notMem_afterLastSlash p.tail
  rw [chain, tail_eq_append_lastSegment h, beginnings_append, beginnings_of_notMem hs, chain]
  simp

theorem chain_sublist_of_mem {p q : Path} (h : q ∈ p.chain) : q.chain.Sublist p.chain := by
  rcases mem_chain_iff.1 h with rfl | ⟨r, hr⟩
  · exact List.Sublist.refl _
  · have hp : p.chain = q.chain ++ (((beginnings r).map fun b => ⟨q.tail ++ '/' :: b⟩) ++ [p]) := by
      rw [chain, hr, beginnings_append, chain]
      simp [Function.comp_def]
    rw [hp]
    exact List.sublist_append_left ..

/-- The chain of a path with a doubled slash goes through the empty segment. -/
example : (Path.ofName "a//b").chain.map Path.text = ["/a", "/a/", "/a//b"] := by decide

end Path

end CacheCluster.Region
