import CacheCluster.Text.Utf8

/-!
# Character sets

Bytes that came with the name of a character set, or with a byte order mark, which counts more.

The sets of Unicode and the western one are told apart here.  There are more, such as `koi8-r` and
`shift_jis`, whose tables stay with whoever reads them (`OtherCharsets`).

## Main definitions

* `Charset`, `Charset.ofLabel?` : the character sets that are told apart.
* `Charset.ofMark?` : the character set that a byte order mark stands for.
* `Charset.decodeAs` : the text of bytes; what is ill-formed becomes U+FFFD.
* `Charset.decode?` : the text of bytes, if all of them are well-formed.
* `OtherCharsets`, `decodeLabeled` : the other sets, and the text of bytes that came with a label.
-/

namespace CacheCluster.Text

/-- A character set.  The text of one is withheld where it could be taken for another one. -/
inductive Charset
  | utf8
  | western
  | utf16 (bigEndian : Bool)
  | withheld
  deriving DecidableEq, Repr

namespace Charset

/-- The character set of a label, in any case and with blanks around it. -/
def ofLabel? (label : String) : Option Charset :=
  match label.trimAscii.toString.toLower with
  | "unicode-1-1-utf-8" | "unicode11utf8" | "unicode20utf8" | "utf-8" | "utf8"
  | "x-unicode20utf8" => some .utf8
  | "ansi_x3.4-1968" | "ascii" | "cp1252" | "cp819" | "csisolatin1" | "ibm819" | "iso-8859-1"
  | "iso-ir-100" | "iso8859-1" | "iso88591" | "iso_8859-1" | "iso_8859-1:1987" | "l1" | "latin1"
  | "us-ascii" | "windows-1252" | "x-cp1252" => some .western
  | "csunicode" | "iso-10646-ucs-2" | "ucs-2" | "unicode" | "unicodefeff" | "utf-16"
  | "utf-16le" => some (.utf16 false)
  | "unicodefffe" | "utf-16be" => some (.utf16 true)
  | "csiso2022kr" | "hz-gb-2312" | "iso-2022-cn" | "iso-2022-cn-ext" | "iso-2022-kr"
  | "replacement" => some .withheld
  | _ => none

/-- The code points of the bytes from 0x80 to 0x9F in the western set. -/
def westernHigh : List Nat :=
  [0x20AC, 0x81, 0x201A, 0x192, 0x201E, 0x2026, 0x2020, 0x2021, 0x2C6, 0x2030, 0x160, 0x2039,
    0x152, 0x8D, 0x17D, 0x8F, 0x90, 0x2018, 0x2019, 0x201C, 0x201D, 0x2022, 0x2013, 0x2014,
    0x2DC, 0x2122, 0x161, 0x203A, 0x153, 0x9D, 0x17E, 0x178]

/-- The character of a byte in the western set. -/
def westernChar (b : UInt8) : Char :=
  let n := b.toNat
  Char.ofNat (if 0x80 ≤ n ∧ n < 0xA0 then westernHigh.getD (n - 0x80) n else n)

/-- The units of sixteen bits of a byte sequence; a last byte alone is no unit. -/
def units (bigEndian : Bool) : List UInt8 → List (Option Nat)
  | [] => []
  | [_] => [none]
  | a :: b :: rest =>
    some (if bigEndian then a.toNat * 256 + b.toNat else b.toNat * 256 + a.toNat) ::
      units bigEndian rest

/-- Whether a unit is the first one of two for one character. -/
def isHigh (unit : Nat) : Bool := 0xD800 ≤ unit && unit < 0xDC00

/-- Whether a unit is the second one of two for one character. -/
def isLow (unit : Nat) : Bool := 0xDC00 ≤ unit && unit < 0xE000

/-- The character of two units. -/
def pairChar (high low : Nat) : Char :=
  Char.ofNat ((high - 0xD800) * 0x400 + (low - 0xDC00) + 0x10000)

/-- The characters of units of sixteen bits, U+FFFD in place of each one that stands for none. -/
def ofUnits : List (Option Nat) → List Char
  | [] => []
  | none :: rest => '\uFFFD' :: ofUnits rest
  | some high :: some low :: rest =>
    if isHigh high && isLow low then pairChar high low :: ofUnits rest
    else
      (if isHigh high || isLow high then '\uFFFD' else Char.ofNat high) ::
        ofUnits (some low :: rest)
  | some unit :: rest =>
    (if isHigh unit || isLow unit then '\uFFFD' else Char.ofNat unit) :: ofUnits rest

/-- The characters of units of sixteen bits, if each one stands for one or for a half of one. -/
def ofUnits? : List (Option Nat) → Option (List Char)
  | [] => some []
  | none :: _ => none
  | some high :: some low :: rest =>
    if isHigh high && isLow low then (pairChar high low :: ·) <$> ofUnits? rest
    else if isHigh high || isLow high then none
    else (Char.ofNat high :: ·) <$> ofUnits? (some low :: rest)
  | some unit :: rest =>
    if isHigh unit || isLow unit then none else (Char.ofNat unit :: ·) <$> ofUnits? rest

/-- The text of bytes in a character set. -/
def decodeAs (c : Charset) (bytes : List UInt8) : String :=
  match c with
  | .utf8 => decodeLossy bytes
  | .western => String.ofList (bytes.map westernChar)
  | .utf16 bigEndian => String.ofList (ofUnits (units bigEndian bytes))
  | .withheld => if bytes.isEmpty then "" else "\uFFFD"

/-- The character set that a byte order mark in front stands for, and the bytes behind it. -/
def ofMark? : List UInt8 → Option (Charset × List UInt8)
  | 0xEF :: 0xBB :: 0xBF :: rest => some (.utf8, rest)
  | 0xFF :: 0xFE :: rest => some (.utf16 false, rest)
  | 0xFE :: 0xFF :: rest => some (.utf16 true, rest)
  | _ => none

/-- The characters of bytes, whose byte order mark is looked at first, if they are well-formed. -/
def decode? (c : Charset) (bytes : List UInt8) : Option (List Char) :=
  let (c, bytes) := (ofMark? bytes).getD (c, bytes)
  match c with
  | .utf8 => Text.decode? bytes
  | .western => some (bytes.map westernChar)
  | .utf16 bigEndian => ofUnits? (units bigEndian bytes)
  | .withheld => if bytes.isEmpty then some [] else none

end Charset

/-- How the bytes of the character sets are read that are not told apart here, by their labels. -/
abbrev OtherCharsets := String → Option (List UInt8 → String)

/-- The text of bytes that came with the label of a character set, if with any.  A byte order mark
is looked at first, and bytes of a set that nobody knows are read as UTF-8. -/
def decodeLabeled (others : OtherCharsets) (label? : Option String) (bytes : List UInt8) : String :=
  match Charset.ofMark? bytes with
  | some (c, rest) => c.decodeAs rest
  | none =>
    let known? := label?.bind Charset.ofLabel?
    let read? := (known?.map Charset.decodeAs).or (label?.bind others)
    read?.getD decodeLossy bytes

end CacheCluster.Text
