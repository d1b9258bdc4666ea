import CacheCluster.Proofs.Json.Reads

/-!
# Reading records back

The writers put the fields of a record down in the order of their declaration, and leave out some
of those that need not be there.  A record is read back when each field that is written is.

## Main definitions

* `Fills` : written fields that turn one record into another.

## Main results

* `members_of_fills` : the fields in front of the closing brace are read.
* `reads_record` : the record is read back.
-/

namespace CacheCluster.Json

variable {α β : Type}

/-- Fields, written in the order of their declaration, that turn a record into another one when they
are read.  Those that are not required may be left out. -/
inductive Fills : List (Field α) → α → List (String × Json) → α → Prop
  | nil (a : α) : Fills [] a [] a
  | skip {f : Field α} {fields : List (Field α)} {a b : α} {written : List (String × Json)}
      (hf : f.required = false) (h : Fills fields a written b) : Fills (f :: fields) a written b
  | take {f : Field α} {fields : List (Field α)} {a a' b : α} {j : Json}
      {written : List (String × Json)} (hf : Reads (f.read a) j a')
      (h : Fills fields a' written b) : Fills (f :: fields) a ((f.name, j) :: written) b

/-- A field that has to be there. -/
theorem Fills.mandatory {name : String} {r : Reader β} {set : β → α → α}
    {fields : List (Field α)} {a b : α} {j : Json} {v : β} {written : List (String × Json)}
    (hr : Reads r j v) (h : Fills fields (set v a) written b) :
    Fills (.mandatory name r set :: fields) a ((name, j) :: written) b :=
  .take (hr.map fun v => set v a) h

/-- A field that is written only when it has a value. -/
theorem Fills.optional {name : String} {r : Reader β} {set : Option β → α → α}
    {fields : List (Field α)} {a b : α} {toJson : β → Json} {v? : Option β}
    {written : List (String × Json)} (hnone : set none a = a)
    (hr : ∀ v, Reads r (toJson v) v) (hne : ∀ v, toJson v ≠ .null)
    (h : Fills fields (set v? a) written b) :
    Fills (.defaulted name (Json.optional r) set :: fields) a
      (field? name (v?.map toJson) ++ written) b := by
  cases v? with
  | none =>
    rw [hnone] at h
    exact .skip rfl h
  | some v => exact .take (((hr v).optional (hne v)).map fun v => set v a) h

/-! ## Keys -/

/-- The written fields, with the comma in front that parts them from those before them. -/
def separated (first : Bool) (written : List (String × Json)) : List UInt8 :=
  if first || written.isEmpty then renderFields written else byte ',' :: renderFields written

theorem renderFields_cons (name : String) (j : Json) (written : List (String × Json)) :
    renderFields ((name, j) :: written) =
      renderString name ++ byte ':' :: (j.render ++ separated false written) := by
  cases written with
  | nil =>
    have hs : separated false [] = [] := by
      rw [separated]
      simp [renderFields]
    rw [renderFields, hs, List.append_nil]
  | cons e written =>
    rw [renderFields]
    · rfl
    · simp

theorem length_le_length_renderFields (written : List (String × Json)) :
    written.length ≤ (renderFields written).length := by
  induction written with
  | nil => exact Nat.zero_le _
  | cons e written ih =>
    have hs : (renderFields written).length ≤ (separated false written).length := by
      rw [separated]
      split
      · exact Nat.le_refl _
      · exact Nat.le_succ _
    obtain ⟨name, j⟩ := e
    rw [renderFields_cons]
    simp only [List.length_append, List.length_cons]
    omega

theorem ends_separated (written : List (String × Json)) (rest : List UInt8) :
    Ends (separated false written ++ byte '\x7d' :: rest) := by
  cases written with
  | nil => exact ends_cons (by decide) rest
  | cons e written => exact ends_cons (by decide) _

theorem key?_end (first : Bool) (rest : List UInt8) (n : Nat) :
    key? first ⟨byte '\x7d' :: rest, n⟩ = .ok none ⟨byte '\x7d' :: rest, n⟩ := by
  refine inside_of_ok ?_
  have hnext : nextKey first ⟨byte '\x7d' :: rest, n⟩ = .ok false ⟨byte '\x7d' :: rest, n⟩ := by
    rw [nextKey, bind_of_ok (ahead_cons (by decide) _ n)]
    rfl
  rw [bind_of_ok hnext]
  rfl

/-- Up to the quote of the next key, behind the comma if there is one. -/
theorem nextKey_separated (first : Bool) (e : String × Json) (written : List (String × Json))
    (rest : List UInt8) (n : Nat) :
    ∃ m, nextKey first ⟨separated first (e :: written) ++ rest, n⟩ =
        .ok true ⟨renderFields (e :: written) ++ rest, m⟩ ∧
      m + (renderFields (e :: written)).length =
        n + (separated first (e :: written)).length := by
  obtain ⟨name, j⟩ := e
  obtain ⟨tail, htail⟩ : ∃ tail, renderFields ((name, j) :: written) = byte '"' :: tail := by
    rw [renderFields_cons, renderString]
    exact ⟨_, rfl⟩
  cases first with
  | true =>
    have hs : separated true ((name, j) :: written) = byte '"' :: tail := htail
    refine ⟨n, ?_, by rw [htail, hs]⟩
    rw [hs, htail, List.cons_append, nextKey, bind_of_ok (ahead_cons (by decide) _ n)]
    rfl
  | false =>
    have hs : separated false ((name, j) :: written) = byte ',' :: byte '"' :: tail :=
      congrArg (byte ',' :: ·) htail
    refine ⟨n + 1, ?_, ?_⟩
    · rw [hs, htail, List.cons_append, nextKey, bind_of_ok (ahead_cons (by decide) _ n)]
      rfl
    · rw [htail, hs]
      simp only [List.length_cons]
      omega

/-- The key of the first of some written fields, up to the colon. -/
theorem key?_separated (first : Bool) (name : String) (j : Json)
    (written : List (String × Json)) (rest : List UInt8) (n : Nat) :
    ∃ m, key? first ⟨separated first ((name, j) :: written) ++ rest, n⟩ =
        .ok (some name)
          ⟨byte ':' :: (j.render ++ (separated false written ++ rest)), m⟩ ∧
      m + 1 + j.render.length + (separated false written).length =
        n + (separated first ((name, j) :: written)).length := by
  obtain ⟨k, hnext, hk⟩ := nextKey_separated first (name, j) written rest n
  rw [renderFields_cons] at hnext hk
  refine ⟨k + (renderString name).length, inside_of_ok ?_, ?_⟩
  · rw [bind_of_ok hnext, if_pos rfl, List.append_assoc, List.cons_append, List.append_assoc,
      bind_of_ok (skip_renderString name _ k)]
    exact map_of_ok (stringBody_renderString name _ k)
  · rw [← hk]
    simp only [List.length_append, List.length_cons]
    omega

theorem colon_cons (rest : List UInt8) (n : Nat) :
    colon ⟨byte ':' :: rest, n⟩ = .ok () ⟨rest, n + 1⟩ := by
  rw [colon, bind_of_ok (ahead_cons (by decide) _ n)]
  rfl

/-! ## Fields -/

theorem Record.field?_eq_some {s : Record α} {done fields : List (Field α)} {f : Field α}
    (hs : s.fields = done ++ f :: fields) (hf : f.name ∉ done.map Field.name) :
    s.field? f.name = some f := by
  rw [Record.field?, hs, List.find?_append, List.find?_eq_none.2, Option.none_or,
    List.find?_cons_of_pos (by simp)]
  intro g hg
  simp only [beq_iff_eq]
  rintro hname
  exact hf (List.mem_map.2 ⟨g, hg, hname⟩)

/-- The fields in front of the closing brace, when some fields were dealt with already: all names
seen are names of those, and all of those that are required were seen. -/
theorem members_of_fills {s : Record α} (hnames : (s.fields.map Field.name).Nodup)
    {fields : List (Field α)} {a b : α} {written : List (String × Json)}
    (h : Fills fields a written b) :
    ∀ (done : List (Field α)) (first : Bool) (seen : List String) (fuel n : Nat)
      (rest : List UInt8), s.fields = done ++ fields →
      (∀ name ∈ seen, name ∈ done.map Field.name) →
      (∀ f ∈ done, f.required = true → f.name ∈ seen) → written.length < fuel →
      s.members fuel first seen a ⟨separated first written ++ byte '\x7d' :: rest, n⟩ =
        .ok b ⟨byte '\x7d' :: rest, n + (separated first written).length⟩ := by
  induction h with
  | nil a =>
    intro done first seen fuel n rest hs _ hrequired hfuel
    obtain ⟨fuel, rfl⟩ : ∃ k, fuel = k + 1 := ⟨fuel - 1, by omega⟩
    have hsep : separated first [] = [] := by cases first <;> rfl
    -- No field is left, so those that are required were all seen.
    have hmissing : (s.fields.find? fun f => f.required && !seen.contains f.name) = none := by
      rw [hs, List.append_nil, List.find?_eq_none]
      intro f hf
      simp only [Bool.and_eq_true, Bool.not_eq_true', List.contains_eq_mem,
        decide_eq_false_iff_not, not_and, Decidable.not_not]
      exact hrequired f hf
    rw [Record.members, hsep, List.nil_append, bind_of_ok (key?_end first rest n)]
    dsimp only
    rw [hmissing]
    rfl
  | @skip f fields a b written hf h ih =>
    intro done first seen fuel n rest hs hseen hrequired hfuel
    -- The reader does not come across this field, which it need not.
    refine ih (done ++ [f]) first seen fuel n rest (by rw [hs, List.append_assoc]; rfl) ?_ ?_ hfuel
    · intro name hname
      rw [List.map_append]
      exact List.mem_append_left _ (hseen name hname)
    · intro g hg hreq
      rcases List.mem_append.1 hg with hg | hg
      · exact hrequired g hg hreq
      · rw [List.mem_singleton.1 hg, hf] at hreq
        cases hreq
  | @take f fields a a' b j written hf h ih =>
    intro done first seen fuel n rest hs hseen hrequired hfuel
    obtain ⟨fuel, rfl⟩ : ∃ k, fuel = k + 1 := ⟨fuel - 1, by omega⟩
    rw [List.length_cons] at hfuel
    -- The name was not seen before, as no two fields share one.
    have hnew : f.name ∉ done.map Field.name := by
      rw [hs, List.map_append, List.map_cons, List.nodup_append] at hnames
      intro hmem
      exact hnames.2.2 f.name hmem f.name (List.mem_cons_self ..) rfl
    have hunseen : seen.contains f.name = false := by
      rw [List.contains_eq_mem, decide_eq_false_iff_not]
      exact fun hmem => hnew (hseen _ hmem)
    obtain ⟨m, hkey, hm⟩ := key?_separated first f.name j written (byte '\x7d' :: rest) n
    have hread := hf _ (m + 1) (ends_separated written rest)
    rw [Record.members, bind_of_ok hkey]
    dsimp only
    rw [Record.field?_eq_some hs hnew]
    dsimp only
    rw [hunseen, if_neg Bool.false_ne_true, bind_of_ok (colon_cons _ m),
      bind_of_ok (inside_of_ok hread),
      ih (done ++ [f]) false (f.name :: seen) fuel _ rest (by rw [hs, List.append_assoc]; rfl) ?_ ?_
        (by omega), hm]
    · intro name hname
      rw [List.map_append]
      rcases List.mem_cons.1 hname with rfl | hname
      · exact List.mem_append_right _ (List.mem_cons_self ..)
      · exact List.mem_append_left _ (hseen name hname)
    · intro g hg hreq
      rcases List.mem_append.1 hg with hg | hg
      · exact List.mem_cons_of_mem _ (hrequired g hg hreq)
      · rw [List.mem_singleton.1 hg]
        exact List.mem_cons_self ..

/-- **Records.**  A record whose fields have different names is read back from fields that fill
it. -/
theorem reads_record {s : Record α} {written : List (String × Json)} {a : α}
    (hnames : (s.fields.map Field.name).Nodup) (h : Fills s.fields s.start written a) :
    Reads (record s) (.obj written) a := by
  refine reads_expecting (b := byte '\x7b') (by rw [render]) (by decide) (if_pos rfl) ?_
  intro rest n _
  have hfuel : written.length < (renderFields written ++ byte '\x7d' :: rest).length + 1 := by
    have hle := length_le_length_renderFields written
    rw [List.length_append]
    omega
  have hmembers := members_of_fills hnames h [] true [] _ (n + 1) rest rfl (by simp) (by simp) hfuel
  have hend : endObject ⟨byte '\x7d' :: rest, n + 1 + (renderFields written).length⟩ =
      .ok () ⟨rest, n + 1 + (renderFields written).length + 1⟩ := by
    rw [endObject, bind_of_ok (ahead_cons (by decide) _ _)]
    rfl
  rw [render, List.cons_append, List.append_assoc, List.singleton_append,
    bind_of_ok (skip_cons _ _ n)]
  refine (andFinally_of_ok hmembers hend).trans ?_
  simp only [List.length_cons, List.length_append, List.length_nil]
  congr 2
  omega

end CacheCluster.Json
