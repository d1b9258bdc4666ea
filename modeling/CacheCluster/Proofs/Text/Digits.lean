import CacheCluster.Text.Digits
import Mathlib.Data.Nat.Digits.Defs

/-!
# Reading back numbers

The digits of a number are read as that number, up to where no digit follows.

## Main definitions

* `NoDigit` : no digit of a base comes next.

## Main results

* `ofDigits_toDigits` : the digits of a number write it.
* `readNumber?_toDigits` : they are read back where they end.
-/

namespace CacheCluster.Text

variable {base : Nat}

/-- No digit of a base comes next. -/
def NoDigit (base : Nat) (rest : List Char) : Prop :=
  ∀ c, rest.head? = some c → isDigitOf base c = false

theorem noDigit_nil : NoDigit base [] := by
  intro c h
  cases h

theorem noDigit_cons {c : Char} (h : isDigitOf base c = false) (rest : List Char) :
    NoDigit base (c :: rest) := by
  intro c' hc
  cases hc
  exact h

/-- A digit is read as its value. -/
theorem digitValue?_digitChar (hbase : base ≤ 16) {d : Nat} (hd : d < base) :
    digitValue? base d.digitChar = some d := by
  have hall : ∀ b : Fin 17, ∀ d : Fin 16, d.val < b.val →
      digitValue? b.val d.val.digitChar = some d.val := by
    decide
  exact hall ⟨base, by omega⟩ ⟨d, by omega⟩ hd

/-- The last digit counts once, and those before it as often as the base says. -/
theorem ofDigits_snoc (cs : List Char) {c : Char} {d : Nat} (hc : digitValue? base c = some d) :
    ofDigits base (cs ++ [c]) = ofDigits base cs * base + d := by
  simp [ofDigits, hc]

/-- The digits of a number write it. -/
theorem ofDigits_toDigits (hone : 1 < base) (hbase : base ≤ 16) (n : Nat) :
    ofDigits base (Nat.toDigits base n) = n := by
  induction n using Nat.strongRecOn with
  | ind n ih =>
    by_cases h : n < base
    · rw [Nat.toDigits_of_lt_base h]
      simpa [ofDigits] using ofDigits_snoc [] (digitValue?_digitChar hbase h)
    · -- A number is what is written before its last digit, and that digit.
      rw [Nat.toDigits_of_base_le hone (Nat.not_lt.1 h),
        ofDigits_snoc _ (digitValue?_digitChar hbase (Nat.mod_lt n (by omega))),
        ih (n / base) (Nat.div_lt_self (by omega) hone), Nat.mul_comm, Nat.div_add_mod]

/-- What a number is written with are digits. -/
theorem exists_digitChar_of_mem_toDigits (hone : 1 < base) {n : Nat} {c : Char}
    (hc : c ∈ Nat.toDigits base n) : ∃ d < base, c = d.digitChar := by
  induction n using Nat.strongRecOn with
  | ind n ih =>
    by_cases h : n < base
    · rw [Nat.toDigits_of_lt_base h, List.mem_singleton] at hc
      exact ⟨n, h, hc⟩
    · rw [Nat.toDigits_of_base_le hone (Nat.not_lt.1 h), List.mem_append, List.mem_singleton] at hc
      rcases hc with hc | hc
      · exact ih (n / base) (Nat.div_lt_self (by omega) hone) hc
      · exact ⟨n % base, Nat.mod_lt n (by omega), hc⟩

theorem isDigitOf_of_mem_toDigits (hone : 1 < base) (hbase : base ≤ 16) {n : Nat} {c : Char}
    (hc : c ∈ Nat.toDigits base n) : isDigitOf base c = true := by
  obtain ⟨d, hd, rfl⟩ := exists_digitChar_of_mem_toDigits hone hc
  rw [isDigitOf, digitValue?_digitChar hbase hd]
  rfl

/-- Only zero is written with a zero in front, and then there is nothing else. -/
theorem toDigits_eq_cons (m : Nat) :
    ∃ c ds, Nat.toDigits 10 m = c :: ds ∧ (c = '0' → m = 0) := by
  -- A number without its last digit begins as it does.
  induction m using Nat.strongRecOn with
  | ind m ih =>
    by_cases h : m < 10
    · refine ⟨m.digitChar, [], Nat.toDigits_of_lt_base h, ?_⟩
      intro hc
      have hall : ∀ d : Fin 10, d.val.digitChar = '0' → d.val = 0 := by decide
      exact hall ⟨m, h⟩ hc
    · obtain ⟨c, ds, hds, hc⟩ := ih (m / 10) (by omega)
      refine ⟨c, ds ++ [(m % 10).digitChar], ?_, fun h0 => ?_⟩
      · rw [Nat.toDigits_of_base_le (by decide) (by omega), hds, List.cons_append]
      · have := hc h0
        omega

theorem NoDigit.takeWhile_eq_nil {rest : List Char} (h : NoDigit base rest) :
    rest.takeWhile (isDigitOf base) = [] := by
  cases rest with
  | nil => rfl
  | cons c rest => exact List.takeWhile_cons_of_neg (by simp [h c rfl])

theorem NoDigit.dropWhile_eq_self {rest : List Char} (h : NoDigit base rest) :
    rest.dropWhile (isDigitOf base) = rest := by
  cases rest with
  | nil => rfl
  | cons c rest => exact List.dropWhile_cons_of_neg (by simp [h c rfl])

/-- Without a digit there is no number. -/
theorem readNumber?_of_noDigit {bound : Nat} {rest : List Char} (h : NoDigit base rest) :
    readNumber? base bound rest = none := by
  rw [readNumber?, h.takeWhile_eq_nil]
  exact if_pos (.inl rfl)

/-- The digits of a number are read back where they end. -/
theorem readNumber?_toDigits (hone : 1 < base) (hbase : base ≤ 16) {bound n : Nat} (hn : n < bound)
    {rest : List Char} (hrest : NoDigit base rest) :
    readNumber? base bound (Nat.toDigits base n ++ rest) = some (n, rest) := by
  have hdigits : ∀ c ∈ Nat.toDigits base n, isDigitOf base c = true := fun c hc =>
    isDigitOf_of_mem_toDigits hone hbase hc
  rw [readNumber?, List.takeWhile_append_of_pos hdigits, List.dropWhile_append_of_pos hdigits,
    hrest.takeWhile_eq_nil, hrest.dropWhile_eq_self, List.append_nil,
    ofDigits_toDigits hone hbase, if_neg]
  simp [Nat.toDigits_ne_nil, hn]

end CacheCluster.Text
