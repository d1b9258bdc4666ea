import CacheCluster.Json.Reader

/-!
# Steps of readers

What the small readers do at a cursor whose next bytes are known, and how a reader goes on after a
part that has succeeded.

## Main results

* `bind_of_ok` : a reader goes on with the value and the cursor of its first part.
* `ahead_cons` : a byte that is no blank is seen.
* `word_append` : a word is read.
* `exists_of_bind_eq_ok` : the parts of a reader that has succeeded have.
-/

namespace CacheCluster.Json

variable {α β : Type}

theorem bind_of_ok {r : Reader α} {f : α → Reader β} {c c' : Cursor} {a : α}
    (h : r c = .ok a c') : (r >>= f) c = f a c' := by
  change EStateM.bind r f c = f a c'
  rw [EStateM.bind, h]

theorem map_of_ok {r : Reader α} {f : α → β} {c c' : Cursor} {a : α} (h : r c = .ok a c') :
    (f <$> r) c = .ok (f a) c' := by
  change EStateM.map f r c = .ok (f a) c'
  rw [EStateM.map, h]

theorem pure_eq (a : α) (c : Cursor) : (pure a : Reader α) c = .ok a c := rfl

theorem peek_eq (rest : List UInt8) (n : Nat) :
    peek ⟨rest, n⟩ = .ok rest.head? ⟨rest, n⟩ := rfl

theorem next_cons (b : UInt8) (rest : List UInt8) (n : Nat) :
    next ⟨b :: rest, n⟩ = .ok (some b) ⟨rest, n + 1⟩ := rfl

theorem skip_cons (b : UInt8) (rest : List UInt8) (n : Nat) :
    skip ⟨b :: rest, n⟩ = .ok () ⟨rest, n + 1⟩ := rfl

theorem ahead_cons {b : UInt8} (h : isBlankByte b = false) (rest : List UInt8) (n : Nat) :
    ahead ⟨b :: rest, n⟩ = .ok (some b) ⟨b :: rest, n⟩ := by
  simp [ahead, skipBlanks, h]

theorem word_append (w rest : List UInt8) (n : Nat) :
    word w ⟨w ++ rest, n⟩ = .ok () ⟨rest, n + w.length⟩ := by
  induction w generalizing n with
  | nil => rfl
  | cons b w ih =>
    rw [word, List.cons_append, bind_of_ok (next_cons b _ n)]
    simp only [if_true]
    rw [ih, List.length_cons]
    congr 2
    omega

theorem placed_of_ok {r : Reader α} {c c' : Cursor} {a : α} (h : r c = .ok a c') :
    placed r c = .ok a c' := by
  rw [placed, h]

theorem inside_of_ok {step : Segment} {r : Reader α} {c c' : Cursor} {a : α}
    (h : r c = .ok a c') : inside step r c = .ok a c' := by
  rw [inside, h]

theorem andFinally_of_ok {r : Reader α} {finish : Reader Unit} {c c' c'' : Cursor} {a : α}
    (h : r c = .ok a c') (hf : finish c' = .ok () c'') : andFinally r finish c = .ok a c'' := by
  rw [andFinally, h]
  dsimp only
  rw [hf]

/-! ## Readers that have succeeded -/

theorem exists_of_bind_eq_ok {r : Reader α} {f : α → Reader β} {c c'' : Cursor} {b : β}
    (h : (r >>= f) c = .ok b c'') : ∃ a c', r c = .ok a c' ∧ f a c' = .ok b c'' := by
  change EStateM.bind r f c = .ok b c'' at h
  rw [EStateM.bind] at h
  split at h
  · rename_i a c' hr
    exact ⟨a, c', hr, h⟩
  · cases h

theorem of_placed_eq_ok {r : Reader α} {c c' : Cursor} {a : α} (h : placed r c = .ok a c') :
    r c = .ok a c' := by
  rw [placed] at h
  split at h
  · cases h
  · exact h

theorem of_inside_eq_ok {step : Segment} {r : Reader α} {c c' : Cursor} {a : α}
    (h : inside step r c = .ok a c') : r c = .ok a c' := by
  rw [inside] at h
  split at h
  · cases h
  · exact h

theorem exists_of_andFinally_eq_ok {r : Reader α} {finish : Reader Unit} {c c'' : Cursor} {a : α}
    (h : andFinally r finish c = .ok a c'') :
    ∃ c', r c = .ok a c' ∧ finish c' = .ok () c'' := by
  rw [andFinally] at h
  split at h
  · rename_i b c' hr
    split at h
    · rename_i hfinish
      cases h
      exact ⟨c', hr, hfinish⟩
    · cases h
  · split at h <;> cases h

end CacheCluster.Json
