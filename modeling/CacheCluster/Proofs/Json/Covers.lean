import CacheCluster.Json.Record
import CacheCluster.Proofs.Json.Reader
import Mathlib.Data.List.Forall2

/-!
# Readers that take more

A reader that checks what it has read takes less than the one that leaves the check out, but what
it takes the other one takes as well.  This goes from the fields of records to the records.

## Main definitions

* `Covers` : a reader takes all that another one takes, as a function of it.
* `Field.Covers` : the same for fields of the same name.

## Main results

* `Covers.bind`, `Covers.record` : readers made of readers.
* `Covers.front` : texts.
-/

namespace CacheCluster.Json

variable {α β γ δ : Type}

/-- A reader takes all that another one takes, and leaves off where that does.  What it takes is a
function of what the other one does. -/
def Covers (r : Reader β) (r' : Reader α) (f : α → β) : Prop :=
  ∀ c a c', r' c = .ok a c' → r c = .ok (f a) c'

theorem Covers.refl (r : Reader α) : Covers r r id := fun _ _ _ h => h

theorem Covers.pure (f : α → β) (a : α) : Covers (pure (f a)) (pure a) f := by
  rintro c b c' h
  cases h
  rfl

/-- Nothing is taken by a reader that fails. -/
theorem Covers.refuse (r : Reader β) (cause : Cause) (f : α → β) : Covers r (refuse cause) f :=
  fun _ _ _ h => nomatch h

section Readers

variable {r : Reader β} {r' : Reader α} {f : α → β}

theorem Covers.bind (h : Covers r r' f) {k : β → Reader δ} {k' : α → Reader γ} {g : γ → δ}
    (hk : ∀ a, Covers (k (f a)) (k' a) g) : Covers (r >>= k) (r' >>= k') g := by
  intro c b c'' hb
  obtain ⟨a, c', ha, hb⟩ := exists_of_bind_eq_ok hb
  rw [bind_of_ok (h c a c' ha)]
  exact hk a c' b c'' hb

theorem Covers.inside (h : Covers r r' f) (step : Segment) :
    Covers (inside step r) (inside step r') f :=
  fun c a c' ha => inside_of_ok (h c a c' (of_inside_eq_ok ha))

theorem Covers.andFinally (h : Covers r r' f) (finish : Reader Unit) :
    Covers (andFinally r finish) (andFinally r' finish) f := by
  intro c a c'' ha
  obtain ⟨c', ha, hfinish⟩ := exists_of_andFinally_eq_ok ha
  exact andFinally_of_ok (h c a c' ha) hfinish

/-- Values that are known by their first byte. -/
theorem Covers.expecting {expected expected' : String} {read : UInt8 → Option (Reader β)}
    {read' : UInt8 → Option (Reader α)}
    (h : ∀ b r', read' b = some r' → ∃ r, read b = some r ∧ Covers r r' f) :
    Covers (expecting expected read) (expecting expected' read') f := by
  intro c a c'' ha
  obtain ⟨b?, c', hahead, ha⟩ := exists_of_bind_eq_ok (of_placed_eq_ok ha)
  refine placed_of_ok ?_
  rw [bind_of_ok hahead]
  cases b? with
  | none => cases ha
  | some b =>
    dsimp only at ha ⊢
    cases hread : read' b with
    | none =>
      -- A value of another type is read only so that the fault can name it.
      rw [hread] at ha
      obtain ⟨found, c', -, ha⟩ := exists_of_bind_eq_ok ha
      cases ha
    | some r' =>
      rw [hread] at ha
      obtain ⟨r, hr, hcovers⟩ := h b r' hread
      rw [hr]
      exact hcovers c' a c'' ha

theorem Covers.front (h : Covers r r' f) {bytes : List UInt8} {a : α}
    (ha : front r' bytes = .ok a) : front r bytes = .ok (f a) := by
  rw [Json.front] at ha ⊢
  split at ha
  · rename_i b c hb
    cases ha
    rw [h _ _ _ hb]
  · cases ha

end Readers

/-! ## Records -/

/-- A field of one type of records takes all that a field of another one takes, and stands in its
place. -/
structure Field.Covers (f : Field β) (f' : Field α) (g : α → β) : Prop where
  name_eq : f.name = f'.name
  required_eq : f.required = f'.required
  read : ∀ a, Json.Covers (f.read (g a)) (f'.read a) g

/-- A field that takes a value and puts it where the other field puts it. -/
theorem Field.covers_mandatory {name : String} {r : Reader δ} {r' : Reader γ} {h : γ → δ}
    {set : δ → β → β} {set' : γ → α → α} {g : α → β} (hr : Json.Covers r r' h)
    (hset : ∀ v a, set (h v) (g a) = g (set' v a)) :
    Field.Covers (.mandatory name r set) (.mandatory name r' set') g := by
  refine ⟨rfl, rfl, fun a => hr.bind fun v => ?_⟩
  rw [hset]
  exact Json.Covers.pure g _

section Records

variable {s : Record β} {s' : Record α} {g : α → β}

/-- Fields in the same order that take all that those of the other type take. -/
def Record.Covers (s : Record β) (s' : Record α) (g : α → β) : Prop :=
  s.start = g s'.start ∧ List.Forall₂ (fun f f' => Field.Covers f f' g) s.fields s'.fields

/-- Fields that are looked for in the same way are both missing, or stand in the same place. -/
theorem find?_covers {l : List (Field β)} {l' : List (Field α)}
    (h : List.Forall₂ (fun f f' => Field.Covers f f' g) l l') (p : Field β → Bool)
    (p' : Field α → Bool) (hp : ∀ f f', Field.Covers f f' g → p f = p' f') :
    l.find? p = none ∧ l'.find? p' = none ∨
      ∃ f f', l.find? p = some f ∧ l'.find? p' = some f' ∧ Field.Covers f f' g := by
  induction h with
  | nil => exact .inl ⟨rfl, rfl⟩
  | @cons f f' l l' hf _ ih =>
    rw [List.find?_cons, List.find?_cons, hp f f' hf]
    split
    · exact .inr ⟨f, f', rfl, rfl, hf⟩
    · exact ih

theorem members_covers (h : List.Forall₂ (fun f f' => Field.Covers f f' g) s.fields s'.fields)
    (fuel : Nat) (first : Bool) (seen : List String) (a : α) :
    Covers (s.members fuel first seen (g a)) (s'.members fuel first seen a) g := by
  induction fuel generalizing first seen a with
  | zero => exact Covers.pure g a
  | succ fuel ih =>
    rw [Record.members, Record.members]
    refine (Covers.refl (key? first)).bind fun key? => ?_
    dsimp only [id_eq]
    cases key? with
    | some key =>
      dsimp only [Record.field?]
      obtain ⟨hf, hf'⟩ | ⟨f, f', hf, hf', hcovers⟩ :=
        find?_covers h (fun f => f.name == key) (fun f => f.name == key)
          fun f f' hcovers => by rw [hcovers.name_eq]
      · -- No record has the field, and both pass its value over.
        rw [hf, hf']
        refine (Covers.refl colon).bind fun _ => ?_
        exact (Covers.refl _).bind fun _ => ih false seen a
      · rw [hf, hf']
        dsimp only
        -- The names that were seen are the same, so that a field comes twice in both or in neither.
        split
        · exact Covers.refuse _ _ g
        · refine (Covers.refl colon).bind fun _ => ?_
          exact ((hcovers.read a).inside _).bind fun a => ih false (key :: seen) a
    | none =>
      -- At the end the same required fields are missing.
      dsimp only
      obtain ⟨hf, hf'⟩ | ⟨f, f', hf, hf', -⟩ :=
        find?_covers h (fun f => f.required && !seen.contains f.name)
          (fun f => f.required && !seen.contains f.name)
          fun f f' hcovers => by rw [hcovers.name_eq, hcovers.required_eq]
      · rw [hf, hf']
        exact Covers.pure g a
      · rw [hf, hf']
        exact Covers.refuse _ _ g

theorem positions_covers {fields : List (Field β)} {fields' : List (Field α)}
    (h : List.Forall₂ (fun f f' => Field.Covers f f' g) fields fields') (i : Nat) (a : α) :
    Covers (s.positions fields i (g a)) (s'.positions fields' i a) g := by
  induction h generalizing i a with
  | nil => exact Covers.pure g a
  | @cons f f' fields fields' hf _ ih =>
    rw [Record.positions, Record.positions]
    refine (Covers.refl (nextElement (i == 0))).bind fun more => ?_
    rw [id_eq]
    split
    · exact ((hf.read a).inside _).bind fun a => ih (i + 1) a
    · rw [hf.required_eq]
      split
      · exact Covers.refuse _ _ g
      · exact ih (i + 1) a

/-- Records whose fields take more take more. -/
theorem Covers.record (h : s.Covers s' g) : Covers (record s) (record s') g := by
  obtain ⟨hstart, hfields⟩ := h
  refine Covers.expecting fun b r' hr' => ?_
  split at hr'
  · rename_i hobject
    cases hr'
    refine ⟨_, if_pos hobject, ?_⟩
    refine (Covers.refl skip).bind fun _ => ?_
    refine (Covers.refl get).bind fun c => ?_
    rw [hstart]
    exact (members_covers hfields _ true [] s'.start).andFinally endObject
  · rename_i hobject
    split at hr'
    · rename_i harray
      cases hr'
      refine ⟨_, (if_neg hobject).trans (if_pos harray), ?_⟩
      refine (Covers.refl skip).bind fun _ => ?_
      rw [hstart]
      exact (positions_covers hfields 0 s'.start).andFinally endArray
    · cases hr'

end Records

end CacheCluster.Json
