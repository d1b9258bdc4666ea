import CacheCluster.Json.Record
import CacheCluster.Proofs.Json.Literal
import CacheCluster.Proofs.Json.Number

/-!
# Readers that read back what is written

A reader reads a value back from JSON when it takes exactly the written form off the front,
wherever that stands.  The readers of scalars do, and those around other readers do if these do.

## Main definitions

* `Reads` : a reader takes a value off the written form.

## Main results

* `reads_text`, `reads_flag`, `reads_uint32`, `reads_uint64`, `reads_int64` : scalars.
* `Reads.optional`, `reads_variant` : values that may be missing, and choices by name.
* `Reads.front`, `Reads.whole` : the value that a text begins with, or is.
-/

namespace CacheCluster.Json

variable {α β : Type}

/-- A reader takes a value off the front where the written form of some JSON stands and ends. -/
def Reads (r : Reader α) (j : Json) (a : α) : Prop :=
  ∀ rest n, Ends rest → r ⟨j.render ++ rest, n⟩ = .ok a ⟨rest, n + j.render.length⟩

/-! ## First bytes -/

/-- A byte with which a written value begins that is not missing. -/
def Leads (b : UInt8) : Prop := isBlankByte b = false ∧ b ≠ byte 'n'

instance (b : UInt8) : Decidable (Leads b) := inferInstanceAs (Decidable (_ ∧ _))

theorem leads_of_isDigit {b : UInt8} (h : isDigit b = true) : Leads b := by
  simp only [isDigit, Bool.and_eq_true, decide_eq_true_eq, UInt8.le_iff_toNat_le] at h
  have hne : ∀ {d : UInt8}, d.toNat < 0x30 ∨ 0x39 < d.toNat → b ≠ d := by
    rintro d hd rfl
    change 0x30 ≤ b.toNat ∧ b.toNat ≤ 0x39 at h
    omega
  refine ⟨?_, hne (by decide)⟩
  rw [isBlankByte]
  simp only [Bool.or_eq_false_iff, decide_eq_false_iff_not]
  exact ⟨⟨⟨hne (by decide), hne (by decide)⟩, hne (by decide)⟩, hne (by decide)⟩

theorem decimal_eq_cons (m : Nat) :
    ∃ b more, decimal m = b :: more ∧ isDigit b = true := by
  obtain ⟨c, ds, hds, -⟩ := Text.toDigits_eq_cons m
  have hc : c.isDigit = true :=
    Nat.isDigit_of_mem_toDigits (b := 10) (n := m) (by decide) (by decide) (by simp [hds])
  exact ⟨byte c, ds.map byte, by rw [decimal, hds, List.map_cons], isDigit_byte hc⟩

theorem render_int (n : Int) :
    (Json.int n).render = if n < 0 then byte '-' :: decimal n.natAbs else decimal n.natAbs := by
  rw [render]
  split
  · have h : n = -(n.natAbs : Int) := by omega
    rw [h, ascii_toString_neg (by omega), ← h]
  · have h : n = (n.natAbs : Int) := by omega
    rw [h, ascii_toString_natCast, ← h]

/-- A value that is not missing begins with a byte that says so, and that ends no list. -/
theorem render_eq_cons {j : Json} (h : j ≠ .null) :
    ∃ b more, j.render = b :: more ∧ Leads b ∧ b ≠ byte ']' := by
  cases j with
  | null => exact absurd rfl h
  | bool b =>
    cases b
    · exact ⟨byte 'f', ascii "alse", by rw [render]; rfl, by decide⟩
    · exact ⟨byte 't', ascii "rue", by rw [render]; rfl, by decide⟩
  | int n =>
    rw [render_int]
    split
    · exact ⟨_, _, rfl, by decide⟩
    · obtain ⟨b, more, hb, hd⟩ := decimal_eq_cons n.natAbs
      refine ⟨b, more, hb, leads_of_isDigit hd, ?_⟩
      rintro rfl
      exact absurd hd (by decide)
  | str s => exact ⟨byte '"', _, by rw [render, renderString], by decide⟩
  | arr items => exact ⟨byte '[', _, by rw [render], by decide⟩
  | obj fields => exact ⟨byte '\x7b', _, by rw [render], by decide⟩

/-! ## Values known by their first byte -/

/-- A value that begins with a byte by which its reader is known. -/
theorem reads_expecting {expected : String} {read : UInt8 → Option (Reader α)} {r : Reader α}
    {j : Json} {a : α} {b : UInt8} {more : List UInt8} (hj : j.render = b :: more)
    (hb : isBlankByte b = false) (hread : read b = some r) (hr : Reads r j a) :
    Reads (expecting expected read) j a := by
  intro rest n hrest
  have ha : ahead ⟨j.render ++ rest, n⟩ = .ok (some b) ⟨j.render ++ rest, n⟩ := by
    rw [hj]
    exact ahead_cons hb _ n
  refine placed_of_ok ?_
  rw [bind_of_ok ha]
  dsimp only
  rw [hread]
  exact hr rest n hrest

theorem reads_text (s : String) : Reads text (.str s) s := by
  refine reads_expecting (b := byte '"') (by rw [render, renderString]) (by decide) (if_pos rfl) ?_
  intro rest n _
  rw [render, bind_of_ok (skip_renderString s rest n), stringBody_renderString]

/-- A value that is written as one word, of which the first letter has been seen. -/
theorem reads_word {j : Json} {b : UInt8} {more : List UInt8} (hj : j.render = b :: more) (a : α) :
    Reads (do skip; word more; return a) j a := by
  intro rest n _
  rw [hj, List.cons_append, bind_of_ok (skip_cons _ _ n), bind_of_ok (word_append ..), pure_eq,
    List.length_cons, Nat.add_right_comm, Nat.add_assoc]

theorem reads_flag (b : Bool) : Reads flag (.bool b) b := by
  cases b with
  | true =>
    have hj : (Json.bool true).render = byte 't' :: ascii "rue" := by
      rw [render]
      rfl
    exact reads_expecting hj (by decide) (if_pos rfl) (reads_word hj true)
  | false =>
    have hj : (Json.bool false).render = byte 'f' :: ascii "alse" := by
      rw [render]
      rfl
    exact reads_expecting hj (by decide) ((if_neg (by decide)).trans (if_pos rfl))
      (reads_word hj false)

/-- An integer of a range, if the range is one of 64 bits. -/
theorem reads_integer {name : String} {least greatest n : Int}
    (hleast : -0x8000000000000000 ≤ least) (hgreatest : greatest < 0x10000000000000000)
    (h₁ : least ≤ n) (h₂ : n ≤ greatest) :
    Reads (integer name least greatest) (.int n) n := by
  have hwithin : ∀ c, within name least greatest (.integer n) c = .ok n c := by
    intro c
    rw [within, if_pos ⟨h₁, h₂⟩]
    rfl
  have hrender := render_int n
  -- The reader looks at the first byte, which is a sign or a digit.
  by_cases hneg : n < 0
  · rw [if_pos hneg] at hrender
    have hnumber : wholeNumber false n.natAbs = .integer n := by
      rw [wholeNumber, if_neg (by decide), if_neg (by omega)]
      congr 1
      omega
    refine reads_expecting hrender (by decide) (if_pos rfl) ?_
    intro rest m hrest
    rw [hrender, List.cons_append, bind_of_ok (skip_cons _ _ m),
      bind_of_ok (number_decimal false (by omega) hrest (m + 1)), hnumber, hwithin,
      List.length_cons]
    congr 2
    omega
  · rw [if_neg hneg] at hrender
    obtain ⟨b, more, hb, hd⟩ := decimal_eq_cons n.natAbs
    have hminus : b ≠ byte '-' := by
      rintro rfl
      exact absurd hd (by decide)
    have hnumber : wholeNumber true n.natAbs = .integer n := by
      rw [wholeNumber, if_pos rfl]
      congr 1
      omega
    refine reads_expecting (hrender.trans hb) (leads_of_isDigit hd).1
      ((if_neg hminus).trans (if_pos hd)) ?_
    intro rest m hrest
    rw [hrender, bind_of_ok (number_decimal true (by omega) hrest m), hnumber, hwithin]

theorem Reads.map {r : Reader α} {j : Json} {a : α} (h : Reads r j a) (f : α → β) :
    Reads (do return f (← r)) j (f a) := by
  intro rest n hrest
  exact bind_of_ok (h rest n hrest)

theorem reads_uint32 (n : UInt32) : Reads uint32 (.int n.toNat) n := by
  have hn : n.toNat < 0x100000000 := n.toNat_lt
  have h : Reads (integer "u32" 0 0xFFFFFFFF) (.int n.toNat) n.toNat :=
    reads_integer (by decide) (by decide) (by omega) (by omega)
  have hi : (n.toNat : Int).toNat.toUInt32 = n := by simp
  have hr := h.map fun i => i.toNat.toUInt32
  rw [hi] at hr
  exact hr

theorem reads_uint64 (n : UInt64) : Reads uint64 (.int n.toNat) n := by
  have hn : n.toNat < 0x10000000000000000 := n.toNat_lt
  have h : Reads (integer "u64" 0 0xFFFFFFFFFFFFFFFF) (.int n.toNat) n.toNat :=
    reads_integer (by decide) (by decide) (by omega) (by omega)
  have hi : (n.toNat : Int).toNat.toUInt64 = n := by simp
  have hr := h.map fun i => i.toNat.toUInt64
  rw [hi] at hr
  exact hr

theorem reads_int64 (n : Int64) : Reads int64 (.int n.toInt) n := by
  have hle : -0x8000000000000000 ≤ n.toInt := n.le_toInt
  have hlt : n.toInt < 0x8000000000000000 := n.toInt_lt
  have h : Reads (integer "i64" (-0x8000000000000000) 0x7FFFFFFFFFFFFFFF) (.int n.toInt) n.toInt :=
    reads_integer (by decide) (by decide) hle (by omega)
  have hi : Int64.ofInt n.toInt = n := by simp
  have hr := h.map Int64.ofInt
  rw [hi] at hr
  exact hr

/-! ## Values around values -/

/-- A value that may be missing, where it is not. -/
theorem Reads.optional {r : Reader α} {j : Json} {a : α} (h : Reads r j a) (hj : j ≠ .null) :
    Reads (optional r) j (some a) := by
  intro rest n hrest
  -- Only what is missing begins with the letter of it.
  obtain ⟨b, more, hb, ⟨hblank, hne⟩, -⟩ := render_eq_cons hj
  have ha : ahead ⟨j.render ++ rest, n⟩ = .ok (some b) ⟨j.render ++ rest, n⟩ := by
    rw [hb]
    exact ahead_cons hblank _ n
  rw [Json.optional, bind_of_ok ha, if_neg (by simpa using hne)]
  exact map_of_ok (h rest n hrest)

/-- A choice by its name. -/
theorem reads_variant {choices : List (String × α)} {name : String} {a : α}
    (h : choices.lookup name = some a) : Reads (variant choices) (.str name) a := by
  have hname : Reads (variantName choices) (.str name) (name, a) := by
    refine reads_expecting (b := byte '"') (by rw [render, renderString]) (by decide)
      (if_pos rfl) ?_
    intro rest n _
    rw [render, bind_of_ok (skip_renderString name rest n),
      bind_of_ok (stringBody_renderString name rest n), h]
    rfl
  intro rest n hrest
  have ha : ahead ⟨(Json.str name).render ++ rest, n⟩ =
      .ok (some (byte '"')) ⟨(Json.str name).render ++ rest, n⟩ := by
    rw [render, renderString]
    exact ahead_cons (by decide) _ n
  rw [variant, bind_of_ok ha]
  dsimp only
  rw [if_neg (by decide), if_pos rfl]
  exact bind_of_ok (hname rest n hrest)

/-! ## Texts -/

theorem Reads.front {r : Reader α} {j : Json} {a : α} (h : Reads r j a) :
    front r j.render = .ok a := by
  have hr := h [] 0 ends_nil
  rw [List.append_nil] at hr
  rw [Json.front, hr]

theorem Reads.whole {r : Reader α} {j : Json} {a : α} (h : Reads r j a) :
    whole r j.render = .ok a := by
  have hr := h [] 0 ends_nil
  rw [List.append_nil] at hr
  rw [Json.whole, Json.front, bind_of_ok hr]
  rfl

end CacheCluster.Json
