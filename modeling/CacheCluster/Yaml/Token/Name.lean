import CacheCluster.Text.Digits
import CacheCluster.Text.Utf8
import CacheCluster.Yaml.Token

/-!
# Anchors, tags and directives

The tokens that name things: anchors and their aliases, tags, and the directives in front of a
document.

## Main definitions

* `scanAnchor` : the name behind an ampersand or an asterisk.
* `scanTag` : a tag, as a handle and a suffix.
* `scanDirective` : a directive up to the end of its line.
-/

namespace CacheCluster.Yaml

/-- The name of an anchor or an alias, at its indicator. -/
def scanAnchor (p : Place) : Option (String × Place) :=
  let p := p.skip 1
  let name := p.rest.takeWhile isWordChar
  let p := p.skip name.length
  if !name.isEmpty &&
      (endsWord p.char? || p.char?.any ("?:,]\x7d%@\x60".toList.contains ·)) then
    some (String.ofList name, p)
  else none

/-! ## Tags -/

/-- Whether a character may stand in a tag; more of them may between angle brackets. -/
def isTagChar (verbatim : Bool) (c : Char) : Bool :=
  isWordChar c || ";/?:@&=+$.%!~*'()".toList.contains c ||
    (verbatim && ",[]".toList.contains c)

/-- The number of bytes of a character by the first one of them. -/
def encodedLength? (b : Nat) : Option Nat :=
  if b < 0x80 then some 1
  else if b / 0x20 = 6 then some 2
  else if b / 0x10 = 14 then some 3
  else if b / 8 = 30 then some 4
  else none

/-- The byte of an escape in front. -/
def readEscape? : List Char → Option (Nat × List Char)
  | '%' :: a :: b :: rest => do
    let high ← Text.digitValue? 16 a
    let low ← Text.digitValue? 16 b
    return (high * 16 + low, rest)
  | _ => none

/-- The further bytes of an escaped character. -/
def readContinuation? : Nat → List Char → Option (List UInt8 × List Char)
  | 0, cs => some ([], cs)
  | n + 1, cs => do
    let (b, rest) ← readEscape? cs
    if b / 0x40 = 2 then
      let (more, rest) ← readContinuation? n rest
      return (b.toUInt8 :: more, rest)
    else none

/-- The text of the tag characters ahead, without escapes, and how many they are; the fuel bounds
their number. -/
def tagText (verbatim : Bool) : Nat → List Char → Option (List UInt8 × List Char)
  | 0, cs => some ([], cs)
  | _ + 1, [] => some ([], [])
  | fuel + 1, c :: rest =>
    if c = '%' then do
      let (b, rest) ← readEscape? (c :: rest)
      let length ← encodedLength? b
      let (more, rest) ← readContinuation? (length - 1) rest
      let (text, rest) ← tagText verbatim fuel rest
      return (b.toUInt8 :: more ++ text, rest)
    else if isTagChar verbatim c then do
      let (text, rest) ← tagText verbatim fuel rest
      return (Text.encodeChar c ++ text, rest)
    else some ([], c :: rest)

/-- The tag characters ahead behind a text that may be all there is of the tag.  What is read ends
at the first NUL, which only an escape can bring in. -/
def scanTagText (verbatim : Bool) (before : List Char) (mayBeEmpty : Bool) (p : Place) :
    Option (String × Place) := do
  let (bytes, rest) ← tagText verbatim p.rest.length p.rest
  if bytes.isEmpty && !mayBeEmpty then none
  else
    return (Text.decodeLossy (before.flatMap Text.encodeChar ++ bytes.takeWhile (· ≠ 0)),
      p.skip (p.rest.length - rest.length))

/-- The handle ahead, at its exclamation mark. -/
def readHandle? (p : Place) : Option (List Char × Place) :=
  if p.looksAt '!' then
    let word := (p.rest.drop 1).takeWhile isWordChar
    let p' := p.skip (1 + word.length)
    if p'.looksAt '!' then some ('!' :: word ++ ['!'], p'.skip 1) else some ('!' :: word, p')
  else none

/-- The tag ahead, at its exclamation mark. -/
def scanTag (flow : Bool) (p : Place) : Option (String × String × Place) := do
  let (handle, suffix, p) ←
    if p.at? 1 = some '<' then do
      let (suffix, p) ← scanTagText true [] false (p.skip 2)
      if p.looksAt '>' then pure ("", suffix, p.skip 1) else none
    else do
      let (handle, p) ← readHandle? p
      if 1 < handle.length ∧ handle.getLast? = some '!' then
        let (suffix, p) ← scanTagText false [] false p
        pure (String.ofList handle, suffix, p)
      else
        let (suffix, p) ← scanTagText false handle.tail true p
        if suffix.isEmpty then pure ("", "!", p) else pure ("!", suffix, p)
  if (flow && p.looksAt ',') || endsWord p.char? then some (handle, suffix, p) else none

/-! ## Directives -/

/-- A part of a version, of at most nine digits. -/
def readVersionPart? (p : Place) : Option (Nat × Place) :=
  let digits := p.rest.takeWhile Char.isDigit
  if digits.isEmpty ∨ 9 < digits.length then none
  else some (digits.foldl (fun n c => n * 10 + (c.toNat - 0x30)) 0, p.skip digits.length)

/-- A version, at the blanks before it. -/
def readVersion? (p : Place) : Option (Token × Place) := do
  let (major, p) ← readVersionPart? (p.skipWhile isBlank)
  if p.looksAt '.' then
    let (minor, p) ← readVersionPart? (p.skip 1)
    return (.version major minor, p)
  else none

/-- A handle with its meaning, at the blanks before it. -/
def readHandleMeaning? (p : Place) : Option (Token × Place) := do
  let (handle, p) ← readHandle? (p.skipWhile isBlank)
  if (handle ≠ ['!'] ∧ handle.getLast? ≠ some '!') ∨ !(p.char?.any isBlank) then none
  else
    let (meaning, p) ← scanTagText true [] false (p.skipWhile isBlank)
    if endsWord p.char? then some (.handle (String.ofList handle) meaning, p) else none

/-- The directive ahead, at its percent sign. -/
def scanDirective (p : Place) : Option (Token × Place) := do
  let p := p.skip 1
  let name := String.ofList (p.rest.takeWhile isWordChar)
  let p := p.skip name.length
  if !endsWord p.char? then none
  else
    let (token, p) ←
      match name with
      | "YAML" => readVersion? p
      | "TAG" => readHandleMeaning? p
      | _ => none
    let p := p.skipComment
    if endsLine p.char? then some (token, p.skipBreak) else none

end CacheCluster.Yaml
