import CacheCluster.Proofs.Json.Record
import CacheCluster.Proofs.SortedMap

/-!
# Reading lists and tables back

A list is written as its items behind one another, and a table as its entries in the order of their
keys.  Both are read back when each item is.

## Main results

* `Reads.list`, `Reads.table` : lists and tables of values that are read back.
* `Fills.list` : a field that is left out when its list is empty.
* `Reads.injective` : values that are read back from one text are equal.
-/

namespace CacheCluster.Json

variable {α : Type}

/-! ## Lists -/

/-- The written items, with the comma in front that parts them from those before them. -/
def separatedItems (first : Bool) (items : List Json) : List UInt8 :=
  if first || items.isEmpty then renderItems items else byte ',' :: renderItems items

theorem renderItems_cons (j : Json) (items : List Json) :
    renderItems (j :: items) = j.render ++ separatedItems false items := by
  cases items with
  | nil =>
    have hs : separatedItems false [] = [] := by
      rw [separatedItems]
      simp [renderItems]
    rw [renderItems, hs, List.append_nil]
  | cons i items =>
    rw [renderItems]
    · rfl
    · simp

/-- A value begins with a byte that is neither a blank nor the end of a list. -/
theorem render_eq_cons_item (j : Json) :
    ∃ b more, j.render = b :: more ∧ isBlankByte b = false ∧ b ≠ byte ']' := by
  by_cases h : j = .null
  · subst h
    exact ⟨byte 'n', ascii "ull", by rw [render]; rfl, by decide⟩
  · obtain ⟨b, more, hb, ⟨hblank, -⟩, hend⟩ := render_eq_cons h
    exact ⟨b, more, hb, hblank, hend⟩

theorem length_le_length_renderItems (items : List Json) :
    items.length ≤ (renderItems items).length := by
  induction items with
  | nil => exact Nat.zero_le _
  | cons j items ih =>
    obtain ⟨b, more, hb, -⟩ := render_eq_cons_item j
    have hs : (renderItems items).length ≤ (separatedItems false items).length := by
      rw [separatedItems]
      split
      · exact Nat.le_refl _
      · exact Nat.le_succ _
    rw [renderItems_cons, hb]
    simp only [List.cons_append, List.length_append, List.length_cons]
    omega

theorem ends_separatedItems (items : List Json) (rest : List UInt8) :
    Ends (separatedItems false items ++ byte ']' :: rest) := by
  cases items with
  | nil => exact ends_cons (by decide) rest
  | cons j items => exact ends_cons (by decide) _

theorem nextElement_end (first : Bool) (rest : List UInt8) (n : Nat) :
    nextElement first ⟨byte ']' :: rest, n⟩ = .ok false ⟨byte ']' :: rest, n⟩ := by
  rw [nextElement, bind_of_ok (ahead_cons (by decide) _ n)]
  rfl

/-- Up to the next item, behind the comma if there is one. -/
theorem nextElement_separatedItems (first : Bool) (j : Json) (items : List Json)
    (rest : List UInt8) (n : Nat) :
    ∃ m, nextElement first ⟨separatedItems first (j :: items) ++ rest, n⟩ =
        .ok true ⟨renderItems (j :: items) ++ rest, m⟩ ∧
      m + (renderItems (j :: items)).length = n + (separatedItems first (j :: items)).length := by
  obtain ⟨b, tail, htail, hblank, hend⟩ : ∃ b tail, renderItems (j :: items) = b :: tail ∧
      isBlankByte b = false ∧ b ≠ byte ']' := by
    obtain ⟨b, more, hb, hblank, hend⟩ := render_eq_cons_item j
    exact ⟨b, _, by rw [renderItems_cons, hb, List.cons_append], hblank, hend⟩
  cases first with
  | true =>
    have hs : separatedItems true (j :: items) = b :: tail := htail
    refine ⟨n, ?_, by rw [htail, hs]⟩
    rw [hs, htail, List.cons_append, nextElement, bind_of_ok (ahead_cons hblank _ n)]
    dsimp only
    rw [if_neg hend, if_pos rfl]
    rfl
  | false =>
    have hs : separatedItems false (j :: items) = byte ',' :: b :: tail :=
      congrArg (byte ',' :: ·) htail
    refine ⟨n + 1, ?_, ?_⟩
    · rw [hs, htail, List.cons_append, nextElement, bind_of_ok (ahead_cons (by decide) _ n)]
      dsimp only
      rw [if_neg (by decide), if_neg (by decide), if_pos rfl, bind_of_ok (skip_cons _ _ n),
        List.cons_append, bind_of_ok (ahead_cons hblank _ (n + 1))]
      dsimp only
      rw [if_neg hend]
      rfl
    · rw [htail, hs]
      simp only [List.length_cons]
      omega

/-- The items in front of the closing bracket. -/
theorem elements_separatedItems {r : Reader α} {toJson : α → Json}
    (hr : ∀ a, Reads r (toJson a) a) (as : List α) (i fuel n : Nat) (rest : List UInt8)
    (hfuel : as.length < fuel) :
    elements r fuel i ⟨separatedItems (i == 0) (as.map toJson) ++ byte ']' :: rest, n⟩ =
      .ok as ⟨byte ']' :: rest, n + (separatedItems (i == 0) (as.map toJson)).length⟩ := by
  induction as generalizing i fuel n with
  | nil =>
    obtain ⟨fuel, rfl⟩ : ∃ k, fuel = k + 1 := ⟨fuel - 1, by simp at hfuel; omega⟩
    have hs : separatedItems (i == 0) [] = [] := by cases i == 0 <;> rfl
    rw [List.map_nil, hs, List.nil_append, elements, bind_of_ok (nextElement_end _ rest n)]
    rfl
  | cons a as ih =>
    obtain ⟨fuel, rfl⟩ : ∃ k, fuel = k + 1 := ⟨fuel - 1, by simp at hfuel; omega⟩
    rw [List.length_cons] at hfuel
    obtain ⟨m, hnext, hm⟩ := nextElement_separatedItems (i == 0) (toJson a) (as.map toJson)
      (byte ']' :: rest) n
    rw [renderItems_cons, List.append_assoc] at hnext
    rw [renderItems_cons, List.length_append] at hm
    have hread := hr a _ m (ends_separatedItems (as.map toJson) rest)
    have hlater : (i + 1 == 0) = false := rfl
    have hrest := ih (i + 1) fuel (m + (toJson a).render.length) (by omega)
    rw [hlater] at hrest
    rw [List.map_cons, elements, bind_of_ok hnext, if_pos rfl, bind_of_ok (inside_of_ok hread),
      bind_of_ok hrest, ← hm, ← Nat.add_assoc]
    rfl

/-- **Lists.**  A list is read back from its written items. -/
theorem Reads.list {r : Reader α} {toJson : α → Json} (hr : ∀ a, Reads r (toJson a) a)
    (as : List α) : Reads (list r) (.arr (as.map toJson)) as := by
  refine reads_expecting (b := byte '[') (by rw [render]) (by decide) (if_pos rfl) ?_
  intro rest n _
  have hfuel : as.length < (renderItems (as.map toJson) ++ byte ']' :: rest).length + 1 := by
    have hle := length_le_length_renderItems (as.map toJson)
    rw [List.length_map] at hle
    rw [List.length_append]
    omega
  have helements := elements_separatedItems hr as 0 _ (n + 1) rest hfuel
  have hend : endArray ⟨byte ']' :: rest, n + 1 + (renderItems (as.map toJson)).length⟩ =
      .ok () ⟨rest, n + 1 + (renderItems (as.map toJson)).length + 1⟩ := by
    rw [endArray, bind_of_ok (ahead_cons (by decide) _ _)]
    rfl
  rw [render, List.cons_append, List.append_assoc, List.singleton_append,
    bind_of_ok (skip_cons _ _ n)]
  refine (andFinally_of_ok helements hend).trans ?_
  simp only [List.length_cons, List.length_append, List.length_nil]
  congr 2
  omega

/-- A field with a list that is written only when it has items. -/
theorem Fills.list {β : Type} {name : String} {r : Reader β} {set : List β → α → α}
    {fields : List (Field α)} {a b : α} {toJson : β → Json} {vs : List β}
    {written : List (String × Json)} (hnil : set [] a = a) (hr : ∀ v, Reads r (toJson v) v)
    (h : Fills fields (set vs a) written b) :
    Fills (.defaulted name (Json.list r) set :: fields) a
      (field? name (if vs.isEmpty then none else some (.arr (vs.map toJson))) ++ written) b := by
  cases vs with
  | nil =>
    rw [hnil] at h
    exact .skip rfl h
  | cons v vs => exact .take ((Reads.list hr (v :: vs)).map fun vs => set vs a) h

/-! ## Tables -/

/-- The entries in front of the closing brace are put into the map one by one. -/
theorem entries_separated {r : Reader α} {toJson : α → Json} (hr : ∀ a, Reads r (toJson a) a)
    (es : List (String × α)) (first : Bool) (m : SortedMap String α) (fuel n : Nat)
    (rest : List UInt8) (hfuel : es.length < fuel) :
    entries r fuel first m
        ⟨separated first (es.map fun e => (e.1, toJson e.2)) ++ byte '\x7d' :: rest, n⟩ =
      .ok (es.foldl (fun m e => m.insert e.1 e.2) m) ⟨byte '\x7d' :: rest,
        n + (separated first (es.map fun e => (e.1, toJson e.2))).length⟩ := by
  induction es generalizing first m fuel n with
  | nil =>
    obtain ⟨fuel, rfl⟩ : ∃ k, fuel = k + 1 := ⟨fuel - 1, by simp at hfuel; omega⟩
    have hs : separated first [] = [] := by cases first <;> rfl
    rw [List.map_nil, hs, List.nil_append, entries, bind_of_ok (key?_end first rest n)]
    rfl
  | cons e es ih =>
    obtain ⟨fuel, rfl⟩ : ∃ k, fuel = k + 1 := ⟨fuel - 1, by simp at hfuel; omega⟩
    rw [List.length_cons] at hfuel
    obtain ⟨k, hkey, hk⟩ := key?_separated first e.1 (toJson e.2)
      (es.map fun e => (e.1, toJson e.2)) (byte '\x7d' :: rest) n
    have hread := hr e.2 _ (k + 1) (ends_separated (es.map fun e => (e.1, toJson e.2)) rest)
    rw [List.map_cons, entries, bind_of_ok hkey]
    dsimp only
    rw [bind_of_ok (colon_cons _ k), bind_of_ok (inside_of_ok hread),
      ih false (m.insert e.1 e.2) fuel _ (by omega), hk]
    rfl

/-- **Tables.**  A table is read back from its entries, written in the order of their keys. -/
theorem Reads.table {r : Reader α} {toJson : α → Json} (hr : ∀ a, Reads r (toJson a) a)
    (m : SortedMap String α) :
    Reads (table r) (.obj (m.entries.map fun e => (e.1, toJson e.2))) m := by
  refine reads_expecting (b := byte '\x7b') (by rw [render]) (by decide) (if_pos rfl) ?_
  intro rest n _
  have hfuel : m.entries.length < (renderFields (m.entries.map fun e => (e.1, toJson e.2)) ++
      byte '\x7d' :: rest).length + 1 := by
    have hle := length_le_length_renderFields (m.entries.map fun e => (e.1, toJson e.2))
    rw [List.length_map] at hle
    rw [List.length_append]
    omega
  have hentries := entries_separated hr m.entries true .empty _ (n + 1) rest hfuel
  have hmap : m.entries.foldl (fun m e => m.insert e.1 e.2) .empty = m :=
    SortedMap.ofList_of_perm (.refl _)
  rw [hmap] at hentries
  have hend : endObject ⟨byte '\x7d' :: rest,
        n + 1 + (renderFields (m.entries.map fun e => (e.1, toJson e.2))).length⟩ =
      .ok () ⟨rest,
        n + 1 + (renderFields (m.entries.map fun e => (e.1, toJson e.2))).length + 1⟩ := by
    rw [endObject, bind_of_ok (ahead_cons (by decide) _ _)]
    rfl
  rw [render, List.cons_append, List.append_assoc, List.singleton_append,
    bind_of_ok (skip_cons _ _ n)]
  refine (andFinally_of_ok hentries hend).trans ?_
  simp only [List.length_cons, List.length_append, List.length_nil]
  congr 2
  omega

/-! ## Different values -/

/-- Values that are read back from one text are equal. -/
theorem Reads.injective {r : Reader α} {toJson : α → Json} (hr : ∀ a, Reads r (toJson a) a)
    {a b : α} (h : (toJson a).render = (toJson b).render) : a = b := by
  have ha := (hr a).whole
  rw [h, (hr b).whole] at ha
  exact (Except.ok.inj ha).symm

end CacheCluster.Json
