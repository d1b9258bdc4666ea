import CacheCluster.Text.Utf8
import Mathlib.Tactic.SplitIfs

/-!
# Reading back UTF-8

The bytes of a character are read as that character, whatever follows them.

## Main results

* `decodeChar?_encodeChar` : the bytes of a character are read back.
* `decodeLossy_encode` : the bytes of a text are read back.
-/

namespace CacheCluster.Text

theorem toNat_toUInt8 {n : Nat} (h : n < 256) : n.toUInt8.toNat = n :=
  UInt8.toNat_ofNat_of_lt' h

theorem continuationBits?_toUInt8 {k : Nat} (h : k < 0x40) :
    continuationBits? (0x80 + k).toUInt8 = some k := by
  rw [continuationBits?, toNat_toUInt8 (by omega), if_pos (by omega)]
  simp

theorem scalar?_toNat {least : Nat} {c : Char} (h : least ≤ c.toNat) :
    scalar? least c.toNat = some c := by
  have hvalid : c.toNat.isValidChar := c.valid
  rw [scalar?, if_pos h, dif_pos hvalid]
  rfl

theorem toNat_lt (c : Char) : c.toNat < 0x110000 := by
  rcases c.valid with h | h
  · exact Nat.lt_trans h (by decide)
  · exact h.2

/-- The first byte of a character of several bytes is no ASCII byte, and that of any other character
is its code point. -/
theorem head_encodeChar {c : Char} {b : UInt8} {more : List UInt8}
    (h : encodeChar c = b :: more) : b.toNat = c.toNat ∧ c.toNat < 0x80 ∨ 0xC0 ≤ b.toNat := by
  have hc := toNat_lt c
  unfold encodeChar at h
  dsimp only at h
  split_ifs at h with h₁ h₂ h₃ <;> obtain ⟨rfl, -⟩ := List.cons.inj h
  · exact .inl ⟨toNat_toUInt8 (by omega), h₁⟩
  · exact .inr (by rw [toNat_toUInt8 (by omega)]; omega)
  · exact .inr (by rw [toNat_toUInt8 (by omega)]; omega)
  · exact .inr (by rw [toNat_toUInt8 (by omega)]; omega)

/-- The bytes of a character are read back, whatever follows them. -/
theorem decodeChar?_encodeChar (c : Char) :
    ∃ b more, encodeChar c = b :: more ∧
      ∀ rest, decodeChar? b (more ++ rest) = some (c, more.length) := by
  have hc := toNat_lt c
  unfold encodeChar
  dsimp only
  -- There is one case for each number of bytes, in which these carry the bits of the code point.
  split_ifs with h₁ h₂ h₃
  · refine ⟨_, _, rfl, fun rest => ?_⟩
    unfold decodeChar?
    dsimp only
    rw [toNat_toUInt8 (by omega), if_pos h₁, scalar?_toNat (Nat.zero_le _)]
    rfl
  · refine ⟨_, _, rfl, fun rest => ?_⟩
    have hn : (0xC0 + c.toNat / 0x40 - 0xC0) * 0x40 + c.toNat % 0x40 = c.toNat := by omega
    unfold decodeChar?
    dsimp only
    rw [toNat_toUInt8 (by omega), if_neg (by omega), if_neg (by omega), if_pos (by omega)]
    simp only [List.cons_append, List.nil_append, List.length_cons, List.length_nil,
      continuationBits?_toUInt8 (Nat.mod_lt _ (by omega : 0x40 > 0)), Option.bind_eq_bind,
      Option.bind_some, hn, scalar?_toNat (by omega : 0x80 ≤ c.toNat)]
  · refine ⟨_, _, rfl, fun rest => ?_⟩
    have hn : ((0xE0 + c.toNat / 0x1000 - 0xE0) * 0x40 + c.toNat / 0x40 % 0x40) * 0x40 +
        c.toNat % 0x40 = c.toNat := by omega
    unfold decodeChar?
    dsimp only
    rw [toNat_toUInt8 (by omega), if_neg (by omega), if_neg (by omega), if_neg (by omega),
      if_pos (by omega)]
    simp only [List.cons_append, List.nil_append, List.length_cons, List.length_nil,
      continuationBits?_toUInt8 (Nat.mod_lt _ (by omega : 0x40 > 0)), Option.bind_eq_bind,
      Option.bind_some, hn, scalar?_toNat (by omega : 0x800 ≤ c.toNat)]
  · refine ⟨_, _, rfl, fun rest => ?_⟩
    have hn : (((0xF0 + c.toNat / 0x40000 - 0xF0) * 0x40 + c.toNat / 0x1000 % 0x40) * 0x40 +
        c.toNat / 0x40 % 0x40) * 0x40 + c.toNat % 0x40 = c.toNat := by omega
    unfold decodeChar?
    dsimp only
    rw [toNat_toUInt8 (by omega), if_neg (by omega), if_neg (by omega), if_neg (by omega),
      if_neg (by omega)]
    simp only [List.cons_append, List.nil_append, List.length_cons, List.length_nil,
      continuationBits?_toUInt8 (Nat.mod_lt _ (by omega : 0x40 > 0)), Option.bind_eq_bind,
      Option.bind_some, hn, scalar?_toNat (by omega : 0x10000 ≤ c.toNat)]

theorem decodeLossyOnto_flatMap_encodeChar (acc cs : List Char) :
    decodeLossyOnto acc (cs.flatMap encodeChar) = acc.reverse ++ cs := by
  induction cs generalizing acc with
  | nil => simp [decodeLossyOnto]
  | cons c cs ih =>
    obtain ⟨b, more, hbytes, hread⟩ := decodeChar?_encodeChar c
    rw [List.flatMap_cons, hbytes, List.cons_append, decodeLossyOnto, hread]
    simp [ih]

/-- The bytes of a text are read back. -/
theorem decodeLossy_encode (s : String) : decodeLossy (encode s) = s := by
  rw [decodeLossy, encode, decodeLossyOnto_flatMap_encodeChar]
  simp

end CacheCluster.Text
