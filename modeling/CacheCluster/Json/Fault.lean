import CacheCluster.Text.Quoted

/-!
# Why a JSON text was refused

A fault has a cause, the place where reading stopped if the cause has one, and the path of
fields and elements that led there.

## Main definitions

* `Cause`, `Cause.message`, `Cause.kind` : the causes, their wording, and whether the text ended
  early, is no JSON, or is JSON of another shape.
* `Segment`, `pathText` : a step of the path, and a whole path as text.
* `Fault`, `Fault.message` : the cause with its line and column.
-/

namespace CacheCluster.Json

/-- What stood where something else was expected. -/
inductive Found
  | string (s : String)
  | integer (n : Int)
  | float (text : String)
  | boolean (b : Bool)
  | null
  | sequence
  | map

/-- What stood there, in words. -/
def Found.describe : Found → String
  | .string s => "string " ++ Text.quoted s
  | .integer n => s!"integer `{n}`"
  | .float text => s!"floating point `{text}`"
  | .boolean b => s!"boolean `{b}`"
  | .null => "null"
  | .sequence => "sequence"
  | .map => "map"

/-- Why a text is refused. -/
inductive Cause
  | endInValue
  | endInString
  | endInArray
  | endInObject
  | expectedColon
  | expectedCommaInArray
  | expectedCommaInObject
  | expectedWord
  | expectedValue
  | invalidEscape
  | invalidNumber
  | numberOutOfRange
  | illFormedText
  | controlCharacter
  | keyNotString
  | loneSurrogate
  | surrogateWithoutPair
  | trailingComma
  | trailingCharacters
  | wrongType (found : Found) (expected : String)
  | wrongValue (n : Int) (expected : String)
  | wrongLength (n : Nat) (expected : String)
  | unknownVariant (name : String) (known : List String)
  | missingField (name : String)
  | duplicateField (name : String)
  | refused (reason : String)

/-- The sort of a cause: the text ends early, it is no JSON, or its shape is another. -/
inductive Kind
  | early
  | malformed
  | mismatch
  deriving DecidableEq, Repr

/-- The sort of each cause. -/
def Cause.kind : Cause → Kind
  | .endInValue | .endInString | .endInArray | .endInObject => .early
  | .wrongType .. | .wrongValue .. | .wrongLength .. | .unknownVariant .. | .missingField ..
  | .duplicateField .. | .refused .. => .mismatch
  | _ => .malformed

/-- A list of names to choose from, in words. -/
def oneOf : List String → String
  | [] => "there are no variants"
  | [a] => s!"expected `{a}`"
  | [a, b] => s!"expected `{a}` or `{b}`"
  | names => "expected one of " ++ ", ".intercalate (names.map fun a => s!"`{a}`")

/-- The wording of each cause. -/
def Cause.message : Cause → String
  | .endInValue => "EOF while parsing a value"
  | .endInString => "EOF while parsing a string"
  | .endInArray => "EOF while parsing a list"
  | .endInObject => "EOF while parsing an object"
  | .expectedColon => "expected `:`"
  | .expectedCommaInArray => "expected `,` or `]`"
  | .expectedCommaInObject => "expected `,` or `\x7d`"
  | .expectedWord => "expected ident"
  | .expectedValue => "expected value"
  | .invalidEscape => "invalid escape"
  | .invalidNumber => "invalid number"
  | .numberOutOfRange => "number out of range"
  | .illFormedText => "invalid unicode code point"
  | .controlCharacter =>
    "control character (\\u0000-\\u001F) found while parsing a string"
  | .keyNotString => "key must be a string"
  | .loneSurrogate => "lone leading surrogate in hex escape"
  | .surrogateWithoutPair => "unexpected end of hex escape"
  | .trailingComma => "trailing comma"
  | .trailingCharacters => "trailing characters"
  | .wrongType found expected => s!"invalid type: {found.describe}, expected {expected}"
  | .wrongValue n expected => s!"invalid value: integer `{n}`, expected {expected}"
  | .wrongLength n expected => s!"invalid length {n}, expected {expected}"
  | .unknownVariant name known => s!"unknown variant `{name}`, " ++ oneOf known
  | .missingField name => s!"missing field `{name}`"
  | .duplicateField name => s!"duplicate field `{name}`"
  | .refused reason => reason

/-- A step from a value to one inside of it, which is unknown before its key has been read. -/
inductive Segment
  | key (name : String)
  | index (n : Nat)
  | unknown
  deriving DecidableEq

/-- The text of the steps after the first. -/
def pathTail : List Segment → String
  | [] => ""
  | .key name :: rest => "." ++ name ++ pathTail rest
  | .index n :: rest => s!"[{n}]" ++ pathTail rest
  | .unknown :: rest => ".?" ++ pathTail rest

/-- The text of a path: keys are set off by points, indices stand in brackets. -/
def pathText : List Segment → String
  | .key name :: rest => name ++ pathTail rest
  | .unknown :: rest => "?" ++ pathTail rest
  | path => pathTail path

/-- A cause, the number of bytes read up to it if it has a place, and the path to it. -/
structure Fault where
  cause : Cause
  offset? : Option Nat
  path : List Segment

/-- The line and the column after `n` bytes, from the line and column before them. -/
def lineColumn (line column : Nat) : Nat → List UInt8 → Nat × Nat
  | n + 1, b :: rest =>
    if b = 0x0A then lineColumn (line + 1) 0 n rest else lineColumn line (column + 1) n rest
  | _, _ => (line, column)

/-- The cause with the line and column, counted from one and zero, where reading stopped. -/
def Fault.message (f : Fault) (text : List UInt8) : String :=
  match f.offset? with
  | none => f.cause.message
  | some n =>
    let (line, column) := lineColumn 1 0 n text
    f.cause.message ++ s!" at line {line} column {column}"

/-- The message behind the path to it, if a step of the path is known. -/
def Fault.messageWithPath (f : Fault) (text : List UInt8) : String :=
  (if f.path.all (· == .unknown) then "" else pathText f.path ++ ": ") ++ f.message text

end CacheCluster.Json
