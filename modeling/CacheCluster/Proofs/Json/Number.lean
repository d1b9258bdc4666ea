import CacheCluster.Json.Basic
import CacheCluster.Json.Number
import CacheCluster.Proofs.Json.Reader
import CacheCluster.Proofs.Text.Digits

/-!
# Reading back integers

The decimal digits of an integer of 64 bits are read as that integer where they end, that is, where
no digit, point or exponent follows.

## Main definitions

* `Ends` : what may follow a value so that it ends.
* `decimal` : the digits of a number as bytes.

## Main results

* `number_decimal` : the digits of a number of 64 bits are read back.
* `ascii_toString` : how an integer is written.
-/

namespace CacheCluster.Json

/-- No digit, point or exponent comes next. -/
def Ends (rest : List UInt8) : Prop :=
  ∀ b, rest.head? = some b → isDigit b = false ∧ b ≠ byte '.' ∧ b ≠ byte 'e' ∧ b ≠ byte 'E'

theorem ends_nil : Ends [] := by
  intro b h
  cases h

theorem ends_cons {b : UInt8} (h : isDigit b = false ∧ b ≠ byte '.' ∧ b ≠ byte 'e' ∧ b ≠ byte 'E')
    (rest : List UInt8) : Ends (b :: rest) := by
  intro b' hb
  cases hb
  exact h

/-- The digits of a number as bytes. -/
def decimal (m : Nat) : List UInt8 := (Nat.toDigits 10 m).map byte

/-! ## Digits -/

theorem toNat_byte {c : Char} (h : c.isDigit = true) :
    (byte c).toNat = c.toNat ∧ 0x30 ≤ c.toNat ∧ c.toNat ≤ 0x39 := by
  have hc : 0x30 ≤ c.toNat ∧ c.toNat ≤ 0x39 := by
    simpa [Char.isDigit, UInt32.le_iff_toNat_le] using h
  exact ⟨UInt8.toNat_ofNat_of_lt' (by show c.toNat < 256; omega), hc⟩

theorem isDigit_byte {c : Char} (h : c.isDigit = true) : isDigit (byte c) = true := by
  obtain ⟨hb, hc⟩ := toNat_byte h
  simp only [isDigit, Bool.and_eq_true, decide_eq_true_eq, UInt8.le_iff_toNat_le, hb]
  exact hc

theorem digitRun_of_ends (acc : List UInt8) {rest : List UInt8} (hr : Ends rest) (n : Nat) :
    digitRun acc rest n = (acc, ⟨rest, n⟩) := by
  cases rest with
  | nil => rfl
  | cons b rest =>
    have hb : isDigit b = false := (hr b rfl).1
    rw [digitRun, hb]
    rfl

theorem digitRun_map_byte {ds : List Char} (hds : ∀ c ∈ ds, c.isDigit = true) (acc : List UInt8)
    {rest : List UInt8} (hr : Ends rest) (n : Nat) :
    digitRun acc (ds.map byte ++ rest) n =
      ((ds.map byte).reverse ++ acc, ⟨rest, n + ds.length⟩) := by
  induction ds generalizing acc n with
  | nil => exact digitRun_of_ends acc hr n
  | cons c ds ih =>
    have hc : isDigit (byte c) = true := isDigit_byte (hds c List.mem_cons_self)
    rw [List.map_cons, List.cons_append, digitRun, if_pos hc,
      ih fun x hx => hds x (List.mem_cons_of_mem c hx)]
    simp only [List.reverse_cons, List.append_assoc, List.singleton_append, List.length_cons]
    congr 2
    omega

theorem digits_map_byte {ds : List Char} (hds : ∀ c ∈ ds, c.isDigit = true)
    {rest : List UInt8} (hr : Ends rest) (n : Nat) :
    digits ⟨ds.map byte ++ rest, n⟩ =
      .ok (ds.map fun c => c.toNat - '0'.toNat) ⟨rest, n + ds.length⟩ := by
  have hvalues : (ds.map byte).map (fun b => b.toNat - 0x30) =
      ds.map fun c => c.toNat - '0'.toNat := by
    rw [List.map_map]
    refine List.map_congr_left fun c hc => ?_
    rw [Function.comp_apply, (toNat_byte (hds c hc)).1]
    rfl
  rw [digits, digitRun_map_byte hds [] hr]
  simp only [List.append_nil, List.reverse_reverse]
  rw [hvalues]

theorem absorb_of_lt {ds : List Char} {v : Nat}
    (h : Nat.ofDigitChars 10 ds v < 0x10000000000000000) :
    absorb v (ds.map fun c => c.toNat - '0'.toNat) = (Nat.ofDigitChars 10 ds v, 0) := by
  induction ds generalizing v with
  | nil => rfl
  | cons c ds ih =>
    rw [Nat.ofDigitChars_cons, Nat.mul_comm] at h ⊢
    -- What has been read of a number is never more than the number.
    have hle : v * 10 + (c.toNat - '0'.toNat) ≤
        Nat.ofDigitChars 10 ds (v * 10 + (c.toNat - '0'.toNat)) := by
      rw [Nat.ofDigitChars_eq_ofDigitChars_zero]
      exact Nat.le_add_right_of_le (Nat.le_mul_of_pos_left _ (Nat.pow_pos (by decide)))
    rw [List.map_cons, absorb, if_pos (Nat.lt_of_le_of_lt hle h), ih h]

/-! ## Numbers -/

theorem afterInteger_of_ends (positive : Bool) (m : Nat) {rest : List UInt8} (hr : Ends rest)
    (n : Nat) :
    afterInteger positive m 0 ⟨rest, n⟩ = .ok (wholeNumber positive m) ⟨rest, n⟩ := by
  rw [afterInteger, bind_of_ok (peek_eq rest n)]
  cases rest with
  | nil => rfl
  | cons b rest =>
    obtain ⟨-, hpoint, he, hE⟩ := hr b rfl
    dsimp only [List.head?_cons]
    rw [if_neg hpoint, if_neg (not_or.2 ⟨he, hE⟩), if_pos rfl]
    rfl

/-- The digits of a number of 64 bits are read back where they end. -/
theorem number_decimal (positive : Bool) {m : Nat} (hm : m < 0x10000000000000000)
    {rest : List UInt8} (hr : Ends rest) (n : Nat) :
    number positive ⟨decimal m ++ rest, n⟩ =
      .ok (wholeNumber positive m) ⟨rest, n + (decimal m).length⟩ := by
  obtain ⟨c, ds, hds, hzero⟩ := Text.toDigits_eq_cons m
  have hdigits : ∀ x ∈ c :: ds, x.isDigit = true := by
    intro x hx
    rw [← hds] at hx
    exact Nat.isDigit_of_mem_toDigits (by decide) (by decide) hx
  have hvalue : Nat.ofDigitChars 10 ds (c.toNat - '0'.toNat) = m := by
    have h : Nat.ofDigitChars 10 (c :: ds) 0 = m := by rw [← hds, Nat.ofDigitChars_ten_toDigits]
    rw [Nat.ofDigitChars_cons] at h
    simpa using h
  have hc := toNat_byte (hdigits c List.mem_cons_self)
  rw [decimal, hds, List.map_cons, List.cons_append, number, bind_of_ok (next_cons (byte c) _ n)]
  dsimp only
  by_cases h0 : byte c = byte '0'
  · -- Zero is the only digit, so that what follows is the end.
    have hc0 : c = '0' := by
      refine Char.toNat_inj.1 ?_
      rw [← hc.1, h0]
      rfl
    obtain rfl := hzero hc0
    have hds0 : ds = [] := by
      have h : Nat.toDigits 10 0 = ['0'] := rfl
      rw [h] at hds
      exact ((List.cons.inj hds).2).symm
    subst hds0
    rw [if_pos h0, List.map_nil, List.nil_append, List.length_singleton,
      bind_of_ok (peek_eq rest (n + 1))]
    cases rest with
    | nil => exact afterInteger_of_ends positive 0 ends_nil (n + 1)
    | cons b rest =>
      have hb : isDigit b = false := (hr b rfl).1
      dsimp only [List.head?_cons]
      rw [hb]
      exact afterInteger_of_ends positive 0 hr (n + 1)
  · have hread := digits_map_byte (fun x hx => hdigits x (List.mem_cons_of_mem c hx)) hr (n + 1)
    have habsorb : absorb ((byte c).toNat - 0x30) (ds.map fun c => c.toNat - '0'.toNat) =
        (m, 0) := by
      have h := absorb_of_lt (v := c.toNat - '0'.toNat) (hvalue.symm ▸ hm)
      rw [hvalue] at h
      rw [hc.1]
      exact h
    rw [if_neg h0, if_pos (isDigit_byte (hdigits c List.mem_cons_self)), bind_of_ok hread, habsorb]
    dsimp only
    rw [afterInteger_of_ends positive m hr, List.length_cons, List.length_map]
    congr 2
    omega

/-! ## Integers -/

theorem ascii_toString_natCast (m : Nat) : ascii (toString (m : Int)) = decimal m := by
  have h : toString (m : Int) = m.repr := rfl
  rw [ascii, h, Nat.toList_repr, decimal]

theorem ascii_toString_neg {m : Nat} (h : m ≠ 0) :
    ascii (toString (-m : Int)) = byte '-' :: decimal m := by
  obtain ⟨k, rfl⟩ := Nat.exists_eq_succ_of_ne_zero h
  have hs : toString (-(k.succ : Nat) : Int) = "-" ++ (k.succ).repr := rfl
  rw [ascii, hs, String.toList_append, Nat.toList_repr, List.map_append, decimal]
  rfl

end CacheCluster.Json
