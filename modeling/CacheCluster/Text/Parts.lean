/-!
# Parts of a text

## Main definitions

* `partsAt` : the parts between the characters of a kind, also the empty ones.

## Main results

* `partsAt_ne_nil` : there is one part at least.
* `partsAt_of_forall` : a text without a separator is its only part.
* `partsAt_append` : the parts of a text that is cut at a separator.
* `intercalate_partsAt` : the parts with the separators between them are the text.
-/

namespace CacheCluster.Text

/-- The parts of a text between the characters of a kind. -/
def partsAt (isSeparator : Char → Bool) (cs : List Char) : List (List Char) :=
  cs.foldr
    (fun c parts =>
      if isSeparator c then [] :: parts
      else match parts with
        | [] => [[c]]
        | part :: rest => (c :: part) :: rest)
    [[]]

theorem partsAt_cons (isSeparator : Char → Bool) (c : Char) (cs : List Char) :
    partsAt isSeparator (c :: cs) =
      if isSeparator c then [] :: partsAt isSeparator cs
      else match partsAt isSeparator cs with
        | [] => [[c]]
        | part :: rest => (c :: part) :: rest := rfl

theorem partsAt_ne_nil (isSeparator : Char → Bool) (cs : List Char) :
    partsAt isSeparator cs ≠ [] := by
  cases cs with
  | nil => exact List.cons_ne_nil _ _
  | cons c cs =>
    rw [partsAt_cons]
    split
    · exact List.cons_ne_nil _ _
    · split <;> exact List.cons_ne_nil _ _

theorem partsAt_of_forall {isSeparator : Char → Bool} {cs : List Char}
    (h : ∀ c ∈ cs, isSeparator c = false) : partsAt isSeparator cs = [cs] := by
  induction cs with
  | nil => rfl
  | cons c cs ih =>
    rw [partsAt_cons, ih fun x hx => h x (List.mem_cons_of_mem c hx),
      if_neg (by simp [h c List.mem_cons_self])]

/-- The parts on both sides of a separator are all the parts. -/
theorem partsAt_append {isSeparator : Char → Bool} {c : Char} (hc : isSeparator c = true)
    (l r : List Char) :
    partsAt isSeparator (l ++ c :: r) = partsAt isSeparator l ++ partsAt isSeparator r := by
  induction l with
  | nil =>
    rw [List.nil_append, partsAt_cons, if_pos hc]
    rfl
  | cons a l ih =>
    rw [List.cons_append, partsAt_cons, partsAt_cons, ih]
    split
    · rfl
    · -- There is a first part for the character to go in front of.
      cases hl : partsAt isSeparator l with
      | nil => exact absurd hl (partsAt_ne_nil isSeparator l)
      | cons part rest => rfl

theorem mem_of_mem_partsAt {isSeparator : Char → Bool} {cs part : List Char} {c : Char}
    (hpart : part ∈ partsAt isSeparator cs) (hc : c ∈ part) : c ∈ cs := by
  induction cs generalizing part with
  | nil =>
    rw [List.mem_singleton.1 hpart] at hc
    cases hc
  | cons a cs ih =>
    rw [partsAt_cons] at hpart
    split at hpart
    · rcases List.mem_cons.1 hpart with rfl | hpart
      · cases hc
      · exact List.mem_cons_of_mem a (ih hpart hc)
    · cases hparts : partsAt isSeparator cs with
      | nil => exact absurd hparts (partsAt_ne_nil isSeparator cs)
      | cons first rest =>
        rw [hparts] at hpart ih
        rcases List.mem_cons.1 hpart with rfl | hpart
        · rcases List.mem_cons.1 hc with rfl | hc
          · exact List.mem_cons_self
          · exact List.mem_cons_of_mem a (ih List.mem_cons_self hc)
        · exact List.mem_cons_of_mem a (ih (List.mem_cons_of_mem first hpart) hc)

/-- The parts with the separators between them are the text again. -/
theorem intercalate_partsAt (separator : Char) (cs : List Char) :
    [separator].intercalate (partsAt (· == separator) cs) = cs := by
  induction cs with
  | nil => rfl
  | cons a cs ih =>
    rw [partsAt_cons]
    cases hparts : partsAt (· == separator) cs with
    | nil => exact absurd hparts (partsAt_ne_nil _ cs)
    | cons first rest =>
      rw [hparts] at ih
      split
      · rename_i ha
        rw [List.intercalate_cons_cons, ih, beq_iff_eq.1 ha]
        rfl
      · -- The character goes in front of the first part.
        cases rest with
        | nil =>
          rw [List.intercalate_singleton] at ih ⊢
          rw [ih]
        | cons second rest =>
          rw [List.intercalate_cons_cons] at ih ⊢
          rw [List.cons_append, List.cons_append, ih]

end CacheCluster.Text
