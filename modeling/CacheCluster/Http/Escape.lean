import CacheCluster.Text.Digits
import CacheCluster.Text.Utf8

/-!
# Escapes in web addresses

A byte that must not stand for itself is written as a percent sign with two digits.

## Main definitions

* `escape` : a text without the characters of a set.
* `unescape` : the bytes that a text stands for.
-/

namespace CacheCluster.Http

/-- An upper-case hexadecimal digit. -/
def upperHex (n : Nat) : Char := if n < 10 then Char.ofNat (0x30 + n) else Char.ofNat (0x37 + n)

/-- Writes the characters of a set, and all that are not ASCII, as escaped bytes. -/
def escape (set : String) (cs : List Char) : List Char :=
  cs.flatMap fun c =>
    if c.toNat < 0x20 ∨ 0x7E < c.toNat ∨ set.toList.contains c then
      (Text.encodeChar c).flatMap fun b =>
        ['%', upperHex (b.toNat / 16), upperHex (b.toNat % 16)]
    else [c]

/-- The bytes of a text in which escaped bytes are taken for themselves. -/
def unescape : List Char → List UInt8
  | [] => []
  | '%' :: a :: b :: rest =>
    match Text.digitValue? 16 a, Text.digitValue? 16 b with
    | some high, some low => (high * 16 + low).toUInt8 :: unescape rest
    | _, _ => 0x25 :: unescape (a :: b :: rest)
  | c :: rest => Text.encodeChar c ++ unescape rest

end CacheCluster.Http
