import CacheCluster.Proofs.Text.Utf8
import Mathlib.Order.Compare

/-!
# The order of texts and of their bytes

Texts are ordered by their characters, and their encodings byte by byte.  Both orders are the same:
the first byte of a character grows with the number of its bytes, and the bits that the bytes carry
are in the order of their weight.

## Main results

* `encodeChar_append_lt` : the bytes of the lesser character come first, whatever follows.
* `flatMap_encodeChar_lt`, `encode_lt` : the bytes of the lesser text come first.
-/

namespace CacheCluster.Text

/-- Lists of bytes are compared by their first bytes, and where these are equal by what follows. -/
theorem cons_lt_cons {m n : Nat} {r s : List UInt8} (hm : m < 256) (hn : n < 256) (hle : m ≤ n)
    (hrest : m = n → r < s) : m.toUInt8 :: r < n.toUInt8 :: s := by
  rw [List.cons_lt_cons_iff]
  rcases Nat.lt_or_eq_of_le hle with hlt | rfl
  · left
    rwa [UInt8.lt_iff_toNat_lt, toNat_toUInt8 hm, toNat_toUInt8 hn]
  · exact .inr ⟨rfl, hrest rfl⟩

/-- The bytes of the lesser character come first, whatever follows. -/
theorem encodeChar_append_lt {c d : Char} (h : c < d) (r s : List UInt8) :
    encodeChar c ++ r < encodeChar d ++ s := by
  have hc := toNat_lt c
  have hd := toNat_lt d
  have hlt : c.toNat < d.toNat := h
  unfold encodeChar
  dsimp only
  split_ifs
  -- A character of fewer bytes has the lesser first byte, and in characters of as many bytes some
  -- bits of the code points differ.
  all_goals
    repeat' refine cons_lt_cons (by omega) (by omega) (by omega) fun _ => ?_
    omega

/-- The bytes of the lesser text come first. -/
theorem flatMap_encodeChar_lt {cs ds : List Char} (h : compare cs ds = .lt) :
    cs.flatMap encodeChar < ds.flatMap encodeChar := by
  induction cs generalizing ds with
  | nil =>
    cases ds with
    | nil => cases h
    | cons d ds =>
      obtain ⟨b, more, hb, -⟩ := decodeChar?_encodeChar d
      rw [List.flatMap_nil, List.flatMap_cons, hb]
      exact List.nil_lt_cons ..
  | cons c cs ih =>
    cases ds with
    | nil => cases h
    | cons d ds =>
      rw [List.compare_cons_cons, Ordering.then_eq_lt] at h
      rw [List.flatMap_cons, List.flatMap_cons]
      rcases h with hlt | ⟨heq, hrest⟩
      · exact encodeChar_append_lt (compareOfLessAndEq_eq_lt.1 hlt) _ _
      · obtain rfl := Std.LawfulEqOrd.eq_of_compare heq
        exact List.append_left_lt (ih hrest)

theorem compare_eq_lt_of_lt {cs ds : List Char} (h : cs < ds) : compare cs ds = .lt := by
  induction cs generalizing ds with
  | nil =>
    cases ds with
    | nil => exact absurd h (List.lt_irrefl [])
    | cons d ds => rfl
  | cons c cs ih =>
    cases ds with
    | nil => exact absurd h (List.not_lt_nil _)
    | cons d ds =>
      rw [List.compare_cons_cons, Ordering.then_eq_lt]
      rcases List.cons_lt_cons_iff.1 h with hlt | ⟨rfl, hrest⟩
      · exact .inl (compareOfLessAndEq_eq_lt.2 hlt)
      · exact .inr ⟨Std.ReflOrd.compare_self, ih hrest⟩

/-- The same for texts as such. -/
theorem encode_lt {s t : String} (h : compare s t = .lt) : encode s < encode t :=
  flatMap_encodeChar_lt (compare_eq_lt_of_lt (String.lt_iff.1 (compareOfLessAndEq_eq_lt.1 h)))

end CacheCluster.Text
