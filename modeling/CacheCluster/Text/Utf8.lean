/-!
# UTF-8

Characters as bytes and bytes as characters.  A well-formed byte sequence encodes one character
in the fewest bytes; surrogates and code points above U+10FFFF have none.

## Main definitions

* `encodeChar`, `encode` : the bytes of a character and of a text.
* `decodeChar?` : the character that starts at a byte, with the number of its further bytes.
* `decode?` : a whole byte sequence, if all of it is well-formed.
* `decodeLossy` : a whole byte sequence, U+FFFD in place of each ill-formed part.
-/

namespace CacheCluster.Text

/-- The bytes of a character. -/
def encodeChar (c : Char) : List UInt8 :=
  let n := c.toNat
  if n < 0x80 then [n.toUInt8]
  else if n < 0x800 then [(0xC0 + n / 0x40).toUInt8, (0x80 + n % 0x40).toUInt8]
  else if n < 0x10000 then
    [(0xE0 + n / 0x1000).toUInt8, (0x80 + n / 0x40 % 0x40).toUInt8, (0x80 + n % 0x40).toUInt8]
  else
    [(0xF0 + n / 0x40000).toUInt8, (0x80 + n / 0x1000 % 0x40).toUInt8,
      (0x80 + n / 0x40 % 0x40).toUInt8, (0x80 + n % 0x40).toUInt8]

/-- The bytes of a text. -/
def encode (s : String) : List UInt8 := s.toList.flatMap encodeChar

/-- The six bits that a continuation byte carries. -/
def continuationBits? (b : UInt8) : Option Nat :=
  if 0x80 ≤ b.toNat ∧ b.toNat < 0xC0 then some (b.toNat - 0x80) else none

/-- The character of a code point that is no surrogate and not below `least`, where fewer bytes
would do. -/
def scalar? (least n : Nat) : Option Char :=
  if least ≤ n then
    if h : n.isValidChar then some (Char.ofNatAux n h) else none
  else none

/-- The character that starts at `b`, with the number of its bytes after `b`. -/
def decodeChar? (b : UInt8) (rest : List UInt8) : Option (Char × Nat) :=
  let n := b.toNat
  if n < 0x80 then (scalar? 0 n).map (·, 0)
  else if n < 0xC0 then none
  else if n < 0xE0 then
    match rest with
    | b₁ :: _ => do
      let k₁ ← continuationBits? b₁
      let c ← scalar? 0x80 ((n - 0xC0) * 0x40 + k₁)
      some (c, 1)
    | _ => none
  else if n < 0xF0 then
    match rest with
    | b₁ :: b₂ :: _ => do
      let k₁ ← continuationBits? b₁
      let k₂ ← continuationBits? b₂
      let c ← scalar? 0x800 (((n - 0xE0) * 0x40 + k₁) * 0x40 + k₂)
      some (c, 2)
    | _ => none
  else
    match rest with
    | b₁ :: b₂ :: b₃ :: _ => do
      let k₁ ← continuationBits? b₁
      let k₂ ← continuationBits? b₂
      let k₃ ← continuationBits? b₃
      let c ← scalar? 0x10000 ((((n - 0xF0) * 0x40 + k₁) * 0x40 + k₂) * 0x40 + k₃)
      some (c, 3)
    | _ => none

/-- The characters of a byte sequence, put in front of those already read in reverse. -/
def decodeOnto (acc : List Char) : List UInt8 → Option (List Char)
  | [] => some acc.reverse
  | b :: rest =>
    match decodeChar? b rest with
    | some (c, more) => decodeOnto (c :: acc) (rest.drop more)
    | none => none
  termination_by bytes => bytes.length
  decreasing_by simp only [List.length_drop, List.length_cons]; omega

/-- The text that a byte sequence encodes, if it is well-formed. -/
def decode? (bytes : List UInt8) : Option (List Char) := decodeOnto [] bytes

/-- Whether a byte may follow the first byte of a well-formed sequence of several. -/
def mayFollow (first second : Nat) : Bool :=
  if first < 0xC2 || 0xF4 < first then false
  else if first == 0xE0 then 0xA0 ≤ second && second ≤ 0xBF
  else if first == 0xED then 0x80 ≤ second && second ≤ 0x9F
  else if first == 0xF0 then 0x90 ≤ second && second ≤ 0xBF
  else if first == 0xF4 then 0x80 ≤ second && second ≤ 0x8F
  else 0x80 ≤ second && second ≤ 0xBF

/-- The number of bytes after `b` that belong to the same ill-formed part: those that a
well-formed sequence could have begun with. -/
def illFormedLength (b : UInt8) : List UInt8 → Nat
  | [] => 0
  | b₁ :: rest =>
    if mayFollow b.toNat b₁.toNat then
      match rest with
      | b₂ :: _ => if 0xF0 ≤ b.toNat && (continuationBits? b₂).isSome then 2 else 1
      | [] => 1
    else 0

/-- The text of a byte sequence behind the characters already read in reverse, with U+FFFD for
each ill-formed part. -/
def decodeLossyOnto (acc : List Char) : List UInt8 → List Char
  | [] => acc.reverse
  | b :: rest =>
    match decodeChar? b rest with
    | some (c, more) => decodeLossyOnto (c :: acc) (rest.drop more)
    | none => decodeLossyOnto ('\uFFFD' :: acc) (rest.drop (illFormedLength b rest))
  termination_by bytes => bytes.length
  decreasing_by all_goals (simp only [List.length_drop, List.length_cons]; omega)

/-- The text of a byte sequence, with U+FFFD for each ill-formed part. -/
def decodeLossy (bytes : List UInt8) : String := String.ofList (decodeLossyOnto [] bytes)

end CacheCluster.Text
