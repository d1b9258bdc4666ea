import CacheCluster.Json.Basic
import CacheCluster.Json.Literal
import CacheCluster.Proofs.Json.Reader
import CacheCluster.Proofs.Text.Utf8

/-!
# Reading back strings

What a character is written as inside a string stands for that character and nothing else, so that
a written string is read back up to its closing quote.

## Main results

* `textPiece_escape` : what a character is written as stands for it.
* `stringBody_renderString` : the text of a string is read back.
-/

namespace CacheCluster.Json

theorem hexValue?_hexDigit {d : Nat} (h : d < 16) : hexValue? (hexDigit d) = some d := by
  have hall : ∀ d : Fin 16, hexValue? (hexDigit d) = some d.val := by decide
  exact hall ⟨d, h⟩

/-- An escape of four digits for a control character. -/
theorem hexEscape_control {n : Nat} (h : n < 0x20) (rest : List UInt8) :
    hexEscape (byte '0' :: byte '0' :: hexDigit (n / 16) :: hexDigit (n % 16) :: rest) =
      .char (Char.ofNat n) 5 := by
  have h₀ : hexValue? (byte '0') = some 0 := by decide
  have hquad : hexQuad? (byte '0') (byte '0') (hexDigit (n / 16)) (hexDigit (n % 16)) = some n := by
    simp only [hexQuad?, h₀, hexValue?_hexDigit (by omega : n / 16 < 16),
      hexValue?_hexDigit (by omega : n % 16 < 16), Option.bind_eq_bind, Option.bind_some,
      Option.pure_def, Option.some.injEq]
    omega
  rw [hexEscape, hquad]
  dsimp only
  rw [if_neg (by omega), if_neg (by omega)]

/-- An escape of one letter. -/
theorem textPiece_short {e : UInt8} {c : Char} (h : shortEscape? e = some c) (rest : List UInt8) :
    textPiece (byte '\\') (e :: rest) = .char c 1 := by
  rw [textPiece, if_neg (by decide), if_pos rfl, h]

theorem textPiece_control {c : Char} (h : c.toNat < 0x20) (rest : List UInt8) :
    textPiece (byte '\\') (byte 'u' :: byte '0' :: byte '0' :: hexDigit (c.toNat / 16) ::
      hexDigit (c.toNat % 16) :: rest) = .char c 5 := by
  have hu : shortEscape? (byte 'u') = none := by decide
  rw [textPiece, if_neg (by decide), if_pos rfl, hu]
  dsimp only
  rw [if_pos rfl, hexEscape_control h, Char.ofNat_toNat]

/-- A character that stands for itself. -/
theorem textPiece_plain {c : Char} (hquote : c ≠ '"') (hslash : c ≠ '\\') (hc : 0x20 ≤ c.toNat) :
    ∃ b more, Text.encodeChar c = b :: more ∧
      ∀ rest, textPiece b (more ++ rest) = .char c more.length := by
  obtain ⟨b, more, hbytes, hread⟩ := Text.decodeChar?_encodeChar c
  refine ⟨b, more, hbytes, fun rest => ?_⟩
  have hne : ∀ {d : Char}, d.toNat < 0x80 → c ≠ d → b.toNat ≠ d.toNat := by
    intro d hd hcd hb
    rcases Text.head_encodeChar hbytes with ⟨h, -⟩ | h
    · exact hcd (Char.toNat_inj.1 (h.symm.trans hb))
    · omega
  have hb : 0x20 ≤ b.toNat := by
    rcases Text.head_encodeChar hbytes with ⟨h, -⟩ | h <;> omega
  unfold textPiece
  rw [if_neg, if_neg, if_neg, hread]
  · rw [UInt8.lt_iff_toNat_lt]
    exact Nat.not_lt.2 hb
  · rintro rfl
    exact hne (by decide) hslash rfl
  · rintro rfl
    exact hne (by decide) hquote rfl

theorem eq_ofNat {c : Char} {n : Nat} (h : c.toNat = n) : c = Char.ofNat n := by
  rw [← h, Char.ofNat_toNat]

/-- What a character is written as stands for it, whatever follows. -/
theorem textPiece_escape (c : Char) :
    ∃ b more, escape c = b :: more ∧ ∀ rest, textPiece b (more ++ rest) = .char c more.length := by
  have hshort : ∀ {e : UInt8} {c : Char}, shortEscape? e = some c →
      ∃ b more, [byte '\\', e] = b :: more ∧
        ∀ rest, textPiece b (more ++ rest) = .char c more.length := by
    intro e c h
    exact ⟨_, _, rfl, fun rest => textPiece_short h rest⟩
  unfold escape
  -- The quote and the backslash, the control characters with a letter, the others, and the rest.
  split_ifs with h₁ h₂ h₃ h₄ h₅ h₆ h₇ h₈
  · subst h₁
    exact hshort (by decide)
  · subst h₂
    exact hshort (by decide)
  · rw [eq_ofNat h₃]
    exact hshort (by decide)
  · rw [eq_ofNat h₄]
    exact hshort (by decide)
  · rw [eq_ofNat h₅]
    exact hshort (by decide)
  · rw [eq_ofNat h₆]
    exact hshort (by decide)
  · rw [eq_ofNat h₇]
    exact hshort (by decide)
  · refine ⟨_, _, rfl, fun rest => ?_⟩
    exact textPiece_control h₈ rest
  · exact textPiece_plain h₁ h₂ (by omega)

/-- A written text is read back up to the closing quote. -/
theorem textBody_flatMap_escape (cs acc : List Char) (size n : Nat) (rest : List UInt8) :
    textBody acc size none n (cs.flatMap escape ++ byte '"' :: rest) =
      .ok (String.ofList (acc.reverse ++ cs)) ⟨rest, n + (cs.flatMap escape).length + 1⟩ := by
  -- The reader keeps what it has read in reverse, and takes the characters off one by one.
  induction cs generalizing acc size n with
  | nil =>
    have hclose : textPiece (byte '"') rest = .close := by
      unfold textPiece
      rw [if_pos rfl]
    rw [List.flatMap_nil, List.nil_append, textBody, hclose]
    simp
  | cons c cs ih =>
    obtain ⟨b, more, hbytes, hread⟩ := textPiece_escape c
    rw [List.flatMap_cons, hbytes, List.cons_append, List.cons_append, List.append_assoc, textBody,
      hread]
    simp only [List.drop_left]
    rw [ih]
    simp only [List.reverse_cons, List.append_assoc, List.singleton_append, List.length_cons,
      List.length_append]
    congr 2
    omega

/-- The opening quote of a written string. -/
theorem skip_renderString (s : String) (rest : List UInt8) (n : Nat) :
    skip ⟨renderString s ++ rest, n⟩ =
      .ok () ⟨s.toList.flatMap escape ++ byte '"' :: rest, n + 1⟩ := by
  rw [renderString, List.cons_append, List.append_assoc, List.singleton_append]
  exact skip_cons _ _ n

/-- A written string behind its opening quote. -/
theorem stringBody_renderString (s : String) (rest : List UInt8) (n : Nat) :
    stringBody ⟨s.toList.flatMap escape ++ byte '"' :: rest, n + 1⟩ =
      .ok s ⟨rest, n + (renderString s).length⟩ := by
  have hlength : n + 1 + (s.toList.flatMap escape).length + 1 = n + (renderString s).length := by
    simp only [renderString, List.length_cons, List.length_append, List.length_nil]
    omega
  rw [stringBody, textBody_flatMap_escape, hlength, List.reverse_nil, List.nil_append,
    String.ofList_toList]

end CacheCluster.Json
