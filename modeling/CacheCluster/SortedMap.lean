/-!
# Sorted maps

A finite map held as its list of entries in strictly ascending key order, so that two maps with
the same entries are equal.  Region tables and cluster reports are maps of this kind.

## Main definitions

* `SortedMap` : entries whose keys ascend strictly.
* `SortedMap.get?`, `SortedMap.insert`, `SortedMap.erase`, `SortedMap.contains`, `SortedMap.keys`.

## Main results

* `SortedMap.get?_insert_self`, `SortedMap.get?_insert_of_ne` : what an insertion changes.
* `SortedMap.ext_get?` : a map is determined by what it answers.
-/

namespace CacheCluster

/-- Entries in strictly ascending key order. -/
structure SortedMap (κ ν : Type) [Ord κ] where
  entries : List (κ × ν)
  sorted : entries.Pairwise fun a b => compare a.1 b.1 = .lt

namespace SortedMap

variable {κ ν : Type} [Ord κ]

instance [DecidableEq κ] [DecidableEq ν] : DecidableEq (SortedMap κ ν) := fun m n =>
  if h : m.entries = n.entries then
    .isTrue (by cases m; cases n; cases h; rfl)
  else
    .isFalse fun e => h (congrArg entries e)

/-- The map without entries. -/
def empty : SortedMap κ ν := ⟨[], .nil⟩

instance : Inhabited (SortedMap κ ν) := ⟨empty⟩

/-- The value at a key of a list of entries. -/
def lookup (k : κ) : List (κ × ν) → Option ν
  | [] => none
  | (a, x) :: rest => if compare k a = .eq then some x else lookup k rest

/-- The value at a key. -/
def get? (m : SortedMap κ ν) (k : κ) : Option ν := lookup k m.entries

/-- Whether a key has a value. -/
def contains (m : SortedMap κ ν) (k : κ) : Bool := (m.get? k).isSome

/-- The keys, ascending. -/
def keys (m : SortedMap κ ν) : List κ := m.entries.map (·.1)

/-- The number of entries. -/
def size (m : SortedMap κ ν) : Nat := m.entries.length

/-- The map without the entry of a key. -/
def erase (m : SortedMap κ ν) (k : κ) : SortedMap κ ν :=
  ⟨m.entries.filter fun e => compare k e.1 != .eq, m.sorted.filter _⟩

/-- Puts an entry at its place in an ascending list, over an entry of the same key. -/
def insertEntry (k : κ) (v : ν) : List (κ × ν) → List (κ × ν)
  | [] => [(k, v)]
  | (a, x) :: rest =>
    match compare k a with
    | .lt => (k, v) :: (a, x) :: rest
    | .eq => (k, v) :: rest
    | .gt => (a, x) :: insertEntry k v rest

theorem mem_insertEntry {k : κ} {v : ν} {e : κ × ν} {l : List (κ × ν)}
    (h : e ∈ insertEntry k v l) : e = (k, v) ∨ e ∈ l := by
  induction l with
  | nil => simpa [insertEntry] using h
  | cons head rest ih =>
    obtain ⟨a, x⟩ := head
    simp only [insertEntry] at h
    split at h
    · simpa using h
    · simp only [List.mem_cons] at h ⊢
      rcases h with h | h
      · exact .inl h
      · exact .inr (.inr h)
    · simp only [List.mem_cons] at h ⊢
      rcases h with h | h
      · exact .inr (.inl h)
      · exact (ih h).imp id .inr

@[simp] theorem get?_empty (k : κ) : (empty : SortedMap κ ν).get? k = none := rfl

theorem lookup_eq_none {k : κ} {l : List (κ × ν)}
    (h : ∀ e ∈ l, compare k e.1 = .lt) : lookup k l = none := by
  induction l with
  | nil => rfl
  | cons head rest ih =>
    obtain ⟨a, x⟩ := head
    have ha : compare k a = .lt := h (a, x) List.mem_cons_self
    simp [lookup, ha, ih fun e he => h e (List.mem_cons_of_mem _ he)]

section Lawful

variable [Std.LawfulEqOrd κ]

theorem lookup_insertEntry_self (k : κ) (v : ν) (l : List (κ × ν)) :
    lookup k (insertEntry k v l) = some v := by
  induction l with
  | nil => simp [insertEntry, lookup]
  | cons head rest ih =>
    obtain ⟨a, x⟩ := head
    simp only [insertEntry]
    split <;> simp_all [lookup]

theorem lookup_insertEntry_of_ne {k j : κ} (v : ν) (h : j ≠ k) (l : List (κ × ν)) :
    lookup j (insertEntry k v l) = lookup j l := by
  have hjk : compare j k ≠ .eq := fun e => h (Std.LawfulEqOrd.eq_of_compare e)
  induction l with
  | nil => simp [insertEntry, lookup, hjk]
  | cons head rest ih =>
    obtain ⟨a, x⟩ := head
    simp only [insertEntry]
    split
    · simp [lookup, hjk]
    · rename_i hk
      obtain rfl := Std.LawfulEqOrd.eq_of_compare hk
      simp [lookup, hjk]
    · simp [lookup, ih]

theorem lookup_eq_some_iff {k : κ} {v : ν} {l : List (κ × ν)}
    (h : l.Pairwise fun a b => compare a.1 b.1 = .lt) :
    lookup k l = some v ↔ (k, v) ∈ l := by
  induction l with
  | nil => simp [lookup]
  | cons head rest ih =>
    obtain ⟨a, x⟩ := head
    rw [List.pairwise_cons] at h
    simp only [lookup, List.mem_cons, Prod.mk.injEq]
    split
    · rename_i hk
      obtain rfl := Std.LawfulEqOrd.eq_of_compare hk
      refine ⟨fun e => .inl ⟨rfl, (Option.some.inj e).symm⟩, ?_⟩
      rintro (⟨-, rfl⟩ | hm)
      · rfl
      · have hlt : compare k k = .lt := h.1 _ hm
        rw [Std.ReflOrd.compare_self] at hlt
        cases hlt
    · rename_i hk
      rw [ih h.2]
      refine ⟨.inr, ?_⟩
      rintro (⟨rfl, -⟩ | hm)
      · exact absurd Std.ReflOrd.compare_self hk
      · exact hm

/-- A key answers with a value exactly when that entry is listed. -/
theorem get?_eq_some_iff {m : SortedMap κ ν} {k : κ} {v : ν} :
    m.get? k = some v ↔ (k, v) ∈ m.entries :=
  lookup_eq_some_iff m.sorted

theorem mem_keys_iff {m : SortedMap κ ν} {k : κ} : k ∈ m.keys ↔ ∃ v, m.get? k = some v := by
  rw [keys, List.mem_map]
  constructor
  · rintro ⟨e, he, rfl⟩
    exact ⟨e.2, get?_eq_some_iff.2 he⟩
  · rintro ⟨v, hv⟩
    exact ⟨(k, v), get?_eq_some_iff.1 hv, rfl⟩

theorem mem_erase_iff {m : SortedMap κ ν} {k : κ} {e : κ × ν} :
    e ∈ (m.erase k).entries ↔ e ∈ m.entries ∧ e.1 ≠ k := by
  simp only [erase, List.mem_filter, bne_iff_ne, ne_eq, Std.LawfulEqOrd.compare_eq_iff_eq]
  exact and_congr_right fun _ => not_congr eq_comm

theorem get?_erase_self (m : SortedMap κ ν) (k : κ) : (m.erase k).get? k = none := by
  rw [Option.eq_none_iff_forall_ne_some]
  intro v h
  exact (mem_erase_iff.1 (get?_eq_some_iff.1 h)).2 rfl

variable [Std.TransOrd κ]

theorem sorted_insertEntry {k : κ} {v : ν} {l : List (κ × ν)}
    (h : l.Pairwise fun a b => compare a.1 b.1 = .lt) :
    (insertEntry k v l).Pairwise fun a b => compare a.1 b.1 = .lt := by
  induction l with
  | nil => simp [insertEntry]
  | cons head rest ih =>
    obtain ⟨a, x⟩ := head
    rw [List.pairwise_cons] at h
    simp only [insertEntry]
    split
    · rename_i hk
      refine .cons (fun e he => ?_) (.cons h.1 h.2)
      rcases List.mem_cons.1 he with rfl | he
      · exact hk
      · exact Std.TransCmp.lt_trans hk (h.1 e he)
    · rename_i hk
      obtain rfl := Std.LawfulEqOrd.eq_of_compare hk
      exact .cons h.1 h.2
    · rename_i hk
      refine .cons (fun e he => ?_) (ih h.2)
      rcases mem_insertEntry he with rfl | he
      · exact Std.OrientedCmp.gt_iff_lt.1 hk
      · exact h.1 e he

/-- The map with a value at a key, and all other entries as they were. -/
def insert (m : SortedMap κ ν) (k : κ) (v : ν) : SortedMap κ ν :=
  ⟨insertEntry k v m.entries, sorted_insertEntry m.sorted⟩

/-- The map of a list of entries, a later entry going over an earlier one of its key. -/
def ofList (l : List (κ × ν)) : SortedMap κ ν := l.foldl (fun m e => m.insert e.1 e.2) empty

@[simp] theorem get?_insert_self (m : SortedMap κ ν) (k : κ) (v : ν) :
    (m.insert k v).get? k = some v :=
  lookup_insertEntry_self k v m.entries

theorem get?_insert_of_ne (m : SortedMap κ ν) {k j : κ} (v : ν) (h : j ≠ k) :
    (m.insert k v).get? j = m.get? j :=
  lookup_insertEntry_of_ne v h m.entries

theorem entries_eq_of_lookup {l r : List (κ × ν)}
    (hl : l.Pairwise fun a b => compare a.1 b.1 = .lt)
    (hr : r.Pairwise fun a b => compare a.1 b.1 = .lt)
    (h : ∀ k, lookup k l = lookup k r) : l = r := by
  induction l generalizing r with
  | nil =>
    cases r with
    | nil => rfl
    | cons head rest => simpa [lookup] using h head.1
  | cons head rest ih =>
    obtain ⟨a, x⟩ := head
    cases r with
    | nil => simpa [lookup] using h a
    | cons head' rest' =>
      obtain ⟨b, y⟩ := head'
      have ha : (a, x) ∈ (b, y) :: rest' :=
        (lookup_eq_some_iff hr).1 (by rw [← h]; simp [lookup])
      have hb : (b, y) ∈ (a, x) :: rest :=
        (lookup_eq_some_iff hl).1 (by rw [h]; simp [lookup])
      rw [List.pairwise_cons] at hl hr
      have hab : (a, x) = (b, y) := by
        rcases List.mem_cons.1 ha with e | e
        · exact e
        · rcases List.mem_cons.1 hb with e' | e'
          · exact e'.symm
          · have h1 : compare b a = .lt := hr.1 _ e
            have h2 : compare a b = .lt := hl.1 _ e'
            have h3 := Std.TransCmp.lt_trans h1 h2
            rw [Std.ReflOrd.compare_self] at h3
            cases h3
      cases hab
      congr 1
      refine ih hl.2 hr.2 fun k => ?_
      by_cases hk : compare k a = .eq
      · obtain rfl := Std.LawfulEqOrd.eq_of_compare hk
        rw [lookup_eq_none hl.1, lookup_eq_none hr.1]
      · simpa [lookup, hk] using h k

/-- A map is determined by what it answers. -/
theorem ext_get? {m n : SortedMap κ ν} (h : ∀ k, m.get? k = n.get? k) : m = n := by
  have he := entries_eq_of_lookup m.sorted n.sorted h
  cases m
  cases n
  cases he
  rfl

end Lawful

end SortedMap

end CacheCluster
