import CacheCluster.Json.Skip
import CacheCluster.SortedMap

/-!
# Reading values of a type

Every type says which first bytes it takes.  A value of another type is read to its end where it
has no brackets, so that the fault can show it.

## Main definitions

* `expecting` : a value that is known by its first byte.
* `text`, `flag`, `uint32`, `uint64`, `int64` : scalars.
* `optional`, `list`, `table`, `variant` : values around values.
-/

namespace CacheCluster.Json

variable {α : Type}

/-- Reads the value that begins with `b` far enough to name it. -/
def found (b : UInt8) : Reader Found :=
  if b = byte 'n' then do skip; word (ascii "ull"); pure .null
  else if b = byte 't' then do skip; word (ascii "rue"); pure (.boolean true)
  else if b = byte 'f' then do skip; word (ascii "alse"); pure (.boolean false)
  else if b = byte '-' then do skip; return (← number false).found
  else if isDigit b then return (← number true).found
  else if b = byte '"' then do skip; return .string (← stringBody)
  else if b = byte '[' then pure .sequence
  else if b = byte '\x7b' then pure .map
  else failAhead .expectedValue

/-- A value that `read` takes by its first byte, or gives up for another type. -/
def expecting (expected : String) (read : UInt8 → Option (Reader α)) : Reader α := placed do
  match ← ahead with
  | none => failAhead .endInValue
  | some b =>
    match read b with
    | some r => r
    | none => refuse (.wrongType (← found b) expected)

/-- A string. -/
def text : Reader String :=
  expecting "a string" fun b => if b = byte '"' then some (do skip; stringBody) else none

/-- A truth value. -/
def flag : Reader Bool :=
  expecting "a boolean" fun b =>
    if b = byte 't' then some (do skip; word (ascii "rue"); pure true)
    else if b = byte 'f' then some (do skip; word (ascii "alse"); pure false)
    else none

/-- A number that has to be an integer of a range. -/
def within (name : String) (least greatest : Int) : Number → Reader Int
  | .integer n =>
    if least ≤ n ∧ n ≤ greatest then pure n else refuse (.wrongValue n name)
  | .float x => refuse (.wrongType (Number.float x).found name)

/-- An integer of a range. -/
def integer (name : String) (least greatest : Int) : Reader Int :=
  expecting name fun b =>
    if b = byte '-' then some (do skip; within name least greatest (← number false))
    else if isDigit b then some (do within name least greatest (← number true))
    else none

/-- An integer of 32 bits without sign. -/
def uint32 : Reader UInt32 := do
  return (← integer "u32" 0 0xFFFFFFFF).toNat.toUInt32

/-- An integer of 64 bits without sign. -/
def uint64 : Reader UInt64 := do
  return (← integer "u64" 0 0xFFFFFFFFFFFFFFFF).toNat.toUInt64

/-- An integer of 64 bits with sign. -/
def int64 : Reader Int64 := do
  return Int64.ofInt (← integer "i64" (-0x8000000000000000) 0x7FFFFFFFFFFFFFFF)

/-- The value that says that there is none. -/
def nothing : Reader Unit :=
  expecting "unit" fun b => if b = byte 'n' then some (do skip; word (ascii "ull")) else none

/-- A value, or the value that says that there is none. -/
def optional (r : Reader α) : Reader (Option α) := do
  if (← ahead) = some (byte 'n') then
    skip
    word (ascii "ull")
    pure none
  else some <$> r

/-! ## Arrays -/

/-- Whether another element follows; moves up to it. -/
def nextElement (first : Bool) : Reader Bool := do
  match ← ahead with
  | none => failAhead .endInArray
  | some b =>
    if b = byte ']' then pure false
    else if first then pure true
    else if b = byte ',' then
      skip
      match ← ahead with
      | none => failAhead .endInValue
      | some b => if b = byte ']' then failAhead .trailingComma else pure true
    else failAhead .expectedCommaInArray

/-- The closing bracket of an array. -/
def endArray : Reader Unit := do
  match ← ahead with
  | none => failAhead .endInArray
  | some b =>
    if b = byte ']' then skip
    else if b = byte ',' then
      skip
      if (← ahead) = some (byte ']') then failAhead .trailingComma
      else failAhead .trailingCharacters
    else failAhead .trailingCharacters

/-- The elements from the one with a given index on. -/
def elements (r : Reader α) : Nat → Nat → Reader (List α)
  | 0, _ => pure []
  | fuel + 1, i => do
    if ← nextElement (i == 0) then
      let a ← inside (.index i) r
      return a :: (← elements r fuel (i + 1))
    else pure []

/-- An array of any length. -/
def list (r : Reader α) : Reader (List α) :=
  expecting "a sequence" fun b =>
    if b = byte '[' then
      some do
        skip
        let c ← get
        andFinally (elements r (c.rest.length + 1) 0) endArray
    else none

/-! ## Objects -/

/-- Whether another key follows; moves up to its quote. -/
def nextKey (first : Bool) : Reader Bool := do
  match ← ahead with
  | none => failAhead .endInObject
  | some b =>
    if b = byte '\x7d' then pure false
    else if first then
      if b = byte '"' then pure true else failAhead .keyNotString
    else if b = byte ',' then
      skip
      match ← ahead with
      | none => failAhead .endInValue
      | some b =>
        if b = byte '"' then pure true
        else if b = byte '\x7d' then failAhead .trailingComma
        else failAhead .keyNotString
    else failAhead .expectedCommaInObject

/-- The key ahead, if another one follows. -/
def key? (first : Bool) : Reader (Option String) := inside .unknown do
  if ← nextKey first then
    skip
    some <$> stringBody
  else pure none

/-- The colon behind a key. -/
def colon : Reader Unit := do
  match ← ahead with
  | none => failAhead .endInObject
  | some b => if b = byte ':' then skip else failAhead .expectedColon

/-- The closing brace of an object. -/
def endObject : Reader Unit := do
  match ← ahead with
  | none => failAhead .endInObject
  | some b =>
    if b = byte '\x7d' then skip
    else if b = byte ',' then failAhead .trailingComma
    else failAhead .trailingCharacters

/-- The entries ahead, put into a map over those before them. -/
def entries (r : Reader α) : Nat → Bool → SortedMap String α → Reader (SortedMap String α)
  | 0, _, m => pure m
  | fuel + 1, first, m => do
    match ← key? first with
    | some key =>
      colon
      let a ← inside (.key key) r
      entries r fuel false (m.insert key a)
    | none => pure m

/-- An object with any keys; of two values of a key the later one counts. -/
def table (r : Reader α) : Reader (SortedMap String α) :=
  expecting "a map" fun b =>
    if b = byte '\x7b' then
      some do
        skip
        let c ← get
        andFinally (entries r (c.rest.length + 1) true .empty) endObject
    else none

/-! ## Choices -/

/-- The name of one of several choices. -/
def variantName (choices : List (String × α)) : Reader (String × α) :=
  expecting "variant identifier" fun b =>
    if b = byte '"' then
      some do
        skip
        let name ← stringBody
        match choices.lookup name with
        | some a => pure (name, a)
        | none => refuse (.unknownVariant name (choices.map (·.1)))
    else none

/-- Moves up to the quote of the name in the object form of a choice. -/
def variantKey : Reader Unit := do
  match ← ahead with
  | none => failAhead .endInValue
  | some b =>
    if b = byte '"' then pure ()
    else if b = byte '\x7d' then failAhead .expectedValue
    else failAhead .keyNotString

/-- A choice: its name, or an object of one field of that name without a value. -/
def variant (choices : List (String × α)) : Reader α := do
  match ← ahead with
  | none => failAhead .endInValue
  | some b =>
    if b = byte '\x7b' then
      skip
      variantKey
      let (name, a) ← variantName choices
      colon
      inside (.key name) nothing
      match ← ahead with
      | none => fail .endInObject
      | some b => if b = byte '\x7d' then do skip; pure a else fail .expectedValue
    else if b = byte '"' then return (← variantName choices).2
    else failAhead .expectedValue

end CacheCluster.Json
