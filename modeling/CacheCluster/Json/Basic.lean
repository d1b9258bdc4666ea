import CacheCluster.Text.Utf8

/-!
# JSON values and their text

Values as they are written on the wire, and their bytes: no blanks, fields in the order given,
strings with the two-character escapes where there is one, other control characters as four
hexadecimal digits, and everything else in UTF-8.

## Main definitions

* `Json` : a value.
* `Json.render` : its bytes.
* `Json.field?` : a field that is written only when it has a value.
-/

namespace CacheCluster

/-- A JSON value; numbers are integers, the only numbers ever written. -/
inductive Json
  | null
  | bool (b : Bool)
  | int (n : Int)
  | str (s : String)
  | arr (items : List Json)
  | obj (fields : List (String × Json))

namespace Json

/-- The byte of an ASCII character. -/
abbrev byte (c : Char) : UInt8 := c.toNat.toUInt8

/-- The bytes of an ASCII text. -/
def ascii (s : String) : List UInt8 := s.toList.map byte

/-- The lower-case hexadecimal digit of a number below sixteen. -/
def hexDigit (n : Nat) : UInt8 := if n < 10 then (0x30 + n).toUInt8 else (0x57 + n).toUInt8

/-- What a character is written as inside a string. -/
def escape (c : Char) : List UInt8 :=
  if c = '"' then [byte '\\', byte '"']
  else if c = '\\' then [byte '\\', byte '\\']
  else if c.toNat = 8 then [byte '\\', byte 'b']
  else if c.toNat = 9 then [byte '\\', byte 't']
  else if c.toNat = 10 then [byte '\\', byte 'n']
  else if c.toNat = 12 then [byte '\\', byte 'f']
  else if c.toNat = 13 then [byte '\\', byte 'r']
  else if c.toNat < 0x20 then
    [byte '\\', byte 'u', byte '0', byte '0', hexDigit (c.toNat / 16), hexDigit (c.toNat % 16)]
  else Text.encodeChar c

/-- The bytes of a string. -/
def renderString (s : String) : List UInt8 :=
  byte '"' :: (s.toList.flatMap escape ++ [byte '"'])

mutual

/-- The bytes of a value. -/
def render : Json → List UInt8
  | .null => ascii "null"
  | .bool true => ascii "true"
  | .bool false => ascii "false"
  | .int n => ascii (toString n)
  | .str s => renderString s
  | .arr items => byte '[' :: (renderItems items ++ [byte ']'])
  | .obj fields => byte '\x7b' :: (renderFields fields ++ [byte '\x7d'])

/-- The bytes of the items of an array. -/
def renderItems : List Json → List UInt8
  | [] => []
  | [item] => item.render
  | item :: rest => item.render ++ byte ',' :: renderItems rest

/-- The bytes of the fields of an object. -/
def renderFields : List (String × Json) → List UInt8
  | [] => []
  | [(name, value)] => renderString name ++ byte ':' :: value.render
  | (name, value) :: rest =>
    renderString name ++ byte ':' :: (value.render ++ byte ',' :: renderFields rest)

end

/-- A field that is written only when it has a value. -/
def field? (name : String) (value : Option Json) : List (String × Json) :=
  value.toList.map (name, ·)

end Json

end CacheCluster
